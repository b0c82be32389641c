/-
Words: how a text is cut into pieces.

A parenthesis is a piece by itself, a run of characters that are neither blanks
nor parentheses is one piece, and blanks only separate.  So an operator needs a
blank or a parenthesis on each side to stand alone, and `3+4` is a single word.

* `isBlank`, `isParen`, `isWordChar` — the three kinds of characters;
* `IsWord` — a non-empty run of word characters;
* `splitWord?` — the first piece of a list of characters and what follows it;
* `splitWord?_eq_some_iff` — the pieces that it finds: the blanks in front are
  skipped, and a word is never cut short;
* `splitWord?_eq_none_iff` — it finds none exactly when only blanks are left;
* `IsPiece` — a text that is a piece in front of some characters;
* `splitWord?_append_of_isPiece`, `isPiece_of_splitWord?_eq_some` — these are the pieces
  that are found.
-/
import ShuntingYard.CharSet.Blank

namespace ShuntingYard

/-! ### Kinds of characters -/

/-- A character that separates words. -/
def isBlank (c : Char) : Bool := CharSet.blank.contains c

/-- An opening or a closing parenthesis. -/
def isParen (c : Char) : Bool := c == '(' || c == ')'

/-- A character that a word may hold. -/
def isWordChar (c : Char) : Bool := !isBlank c && !isParen c

/-- A parenthesis is no blank. -/
theorem isBlank_of_isParen {c : Char} (h : isParen c = true) : isBlank c = false := by
  simp only [isParen, Bool.or_eq_true, beq_iff_eq] at h
  rcases h with rfl | rfl <;> decide

theorem isWordChar_eq_true_iff {c : Char} :
    isWordChar c = true ↔ isBlank c = false ∧ isParen c = false := by
  simp [isWordChar]

/-- A text that a single word can spell: not empty, and made of word characters. -/
def IsWord (text : String) : Prop :=
  text ≠ "" ∧ ∀ c ∈ text.toList, isWordChar c = true

-- The test is run over the text, not over the finite type of all characters.
instance (text : String) : Decidable (IsWord text) :=
  haveI : Decidable (∀ c ∈ text.toList, isWordChar c = true) := List.decidableBAll _ _
  inferInstanceAs (Decidable (_ ∧ _))

/-- The parentheses are no words. -/
theorem not_isWord_openParen : ¬ IsWord "(" := by decide +kernel

theorem not_isWord_closeParen : ¬ IsWord ")" := by decide +kernel

theorem IsWord.ne_openParen {text : String} (h : IsWord text) : text ≠ "(" := by
  rintro rfl
  exact not_isWord_openParen h

theorem IsWord.ne_closeParen {text : String} (h : IsWord text) : text ≠ ")" := by
  rintro rfl
  exact not_isWord_closeParen h

/-- A word starts with a word character. -/
theorem IsWord.exists_cons {text : String} (h : IsWord text) :
    ∃ c cs, text.toList = c :: cs ∧ isWordChar c = true := by
  obtain ⟨hne, hall⟩ := h
  obtain ⟨c, cs, htext⟩ := List.exists_cons_of_ne_nil (l := text.toList) (by simpa using hne)
  exact ⟨c, cs, htext, hall c (by simp [htext])⟩

/-! ### Cutting off the first piece -/

/-- The first piece after the blanks in front, and the characters behind it. -/
def splitWord? (cs : List Char) : Option (List Char × List Char) :=
  match cs.dropWhile isBlank with
  | [] => none
  | c :: rest =>
    if isParen c then
      some ([c], rest)
    else
      some (c :: rest.takeWhile isWordChar, rest.dropWhile isWordChar)

/-- The first piece of a text and the text behind it. -/
def nextWord? (text : String) : Option (String × String) :=
  (splitWord? text.toList).map fun parts => (String.ofList parts.1, String.ofList parts.2)

/-- No piece is found exactly when only blanks are left. -/
theorem splitWord?_eq_none_iff {cs : List Char} :
    splitWord? cs = none ↔ ∀ c ∈ cs, isBlank c = true := by
  unfold splitWord?
  constructor
  · intro h
    split at h
    · rename_i hnil
      have hcs : cs.takeWhile isBlank ++ cs.dropWhile isBlank = cs :=
        List.takeWhile_append_dropWhile
      rw [hnil, List.append_nil] at hcs
      rw [← hcs]
      exact List.all_eq_true.1 List.all_takeWhile
    · split at h <;> simp at h
  · intro h
    have hnil : (cs ++ []).dropWhile isBlank = [] := List.dropWhile_append_of_pos h
    rw [List.append_nil] at hnil
    rw [hnil]

/-- The text in front of the first piece is a run of blanks, and the piece is
either a parenthesis or a word that the text behind it does not continue. -/
theorem splitWord?_eq_some_iff {cs word rest : List Char} :
    splitWord? cs = some (word, rest) ↔
      cs = cs.takeWhile isBlank ++ word ++ rest ∧
        ((∃ c, word = [c] ∧ isParen c = true) ∨
          word ≠ [] ∧ (∀ c ∈ word, isWordChar c = true) ∧
            ∀ c, rest.head? = some c → isWordChar c = false) := by
  have hcs : cs.takeWhile isBlank ++ cs.dropWhile isBlank = cs := List.takeWhile_append_dropWhile
  unfold splitWord?
  constructor
  · intro h
    split at h
    · simp at h
    · rename_i c tail hdrop
      have hblank : isBlank c = false := by
        have := List.head?_dropWhile_not isBlank cs
        rw [hdrop] at this
        simpa using this
      split at h
      · rename_i hparen
        obtain ⟨rfl, rfl⟩ := Prod.mk.inj (Option.some.inj h)
        refine ⟨?_, Or.inl ⟨c, rfl, hparen⟩⟩
        rw [List.append_assoc, List.singleton_append, ← hdrop, hcs]
      · rename_i hparen
        obtain ⟨rfl, rfl⟩ := Prod.mk.inj (Option.some.inj h)
        refine ⟨?_, Or.inr ⟨by simp, ?_, ?_⟩⟩
        · rw [List.append_assoc, List.cons_append, List.takeWhile_append_dropWhile, ← hdrop, hcs]
        · intro d hd
          rcases List.mem_cons.1 hd with rfl | hd
          · exact isWordChar_eq_true_iff.2 ⟨hblank, by simpa using hparen⟩
          · exact List.all_eq_true.1 List.all_takeWhile d hd
        · intro d hd
          have := List.head?_dropWhile_not isWordChar tail
          rw [hd] at this
          simpa using this
  · rintro ⟨h, hword⟩
    have hdrop : cs.dropWhile isBlank = word ++ rest := by
      have : cs.takeWhile isBlank ++ cs.dropWhile isBlank =
          cs.takeWhile isBlank ++ (word ++ rest) := by
        rw [hcs, ← List.append_assoc, ← h]
      exact List.append_cancel_left this
    rcases hword with ⟨c, rfl, hparen⟩ | ⟨hne, hall, hstop⟩
    · rw [hdrop, List.singleton_append]
      simp [hparen]
    · cases word with
      | nil => exact absurd rfl hne
      | cons c word =>
        rw [hdrop, List.cons_append]
        have hc := isWordChar_eq_true_iff.1 (hall c List.mem_cons_self)
        have hrest : rest.takeWhile isWordChar = [] ∧ rest.dropWhile isWordChar = rest := by
          cases rest with
          | nil => simp
          | cons d rest =>
            have hd := hstop d rfl
            simp [hd]
        have hpos : ∀ d ∈ word, isWordChar d = true := fun d hd =>
          hall d (List.mem_cons_of_mem c hd)
        simp only [hc.2, Bool.false_eq_true, if_false]
        rw [List.takeWhile_append_of_pos hpos, List.dropWhile_append_of_pos hpos, hrest.1, hrest.2,
          List.append_nil]

/-- The text behind the first piece is shorter than the whole. -/
theorem length_lt_of_splitWord?_eq_some {cs word rest : List Char}
    (h : splitWord? cs = some (word, rest)) : rest.length < cs.length := by
  obtain ⟨hcs, hword⟩ := splitWord?_eq_some_iff.1 h
  have hpos : 0 < word.length := by
    rcases hword with ⟨c, rfl, -⟩ | ⟨hne, -, -⟩
    · simp
    · exact List.length_pos_iff.2 hne
  have hlen := congrArg List.length hcs
  simp only [List.length_append] at hlen
  omega

/-! ### Pieces in front of other characters -/

/-- The text is a parenthesis, or a word that the characters behind it do not continue. -/
def IsPiece (text : String) (rest : List Char) : Prop :=
  (text = "(" ∨ text = ")") ∨ IsWord text ∧ ∀ c, rest.head? = some c → isWordChar c = false

/-- A parenthesis is a single character. -/
theorem exists_isParen_iff {text : String} :
    (∃ c, text.toList = [c] ∧ isParen c = true) ↔ text = "(" ∨ text = ")" := by
  constructor
  · rintro ⟨c, htext, hc⟩
    rw [← String.ofList_toList (s := text), htext]
    simp only [isParen, Bool.or_eq_true, beq_iff_eq] at hc
    rcases hc with rfl | rfl
    · exact Or.inl rfl
    · exact Or.inr rfl
  · rintro (rfl | rfl)
    · exact ⟨'(', rfl, rfl⟩
    · exact ⟨')', rfl, rfl⟩

theorem IsPiece.paren_or_isWord {text : String} {rest : List Char} (h : IsPiece text rest) :
    text = "(" ∨ text = ")" ∨ IsWord text := by
  rcases h with hparen | ⟨hword, -⟩
  · exact or_assoc.1 (Or.inl hparen)
  · exact Or.inr (Or.inr hword)

/-- A word that is a piece is not continued. -/
theorem IsPiece.head_of_isWord {text : String} {rest : List Char} (h : IsPiece text rest)
    (hword : IsWord text) {c : Char} (hc : rest.head? = some c) : isWordChar c = false := by
  rcases h with (rfl | rfl) | ⟨-, hrest⟩
  · exact absurd hword not_isWord_openParen
  · exact absurd hword not_isWord_closeParen
  · exact hrest c hc

/-- A piece does not start with a blank. -/
theorem IsPiece.exists_cons {text : String} {rest : List Char} (h : IsPiece text rest) :
    ∃ c cs, text.toList = c :: cs ∧ isBlank c = false := by
  rcases h with hparen | ⟨hword, -⟩
  · obtain ⟨c, htext, hc⟩ := exists_isParen_iff.2 hparen
    exact ⟨c, [], htext, isBlank_of_isParen hc⟩
  · obtain ⟨c, cs, htext, hc⟩ := hword.exists_cons
    exact ⟨c, cs, htext, (isWordChar_eq_true_iff.1 hc).1⟩

/-- A piece is cut off whole and alone. -/
theorem splitWord?_append_of_isPiece {text : String} {rest : List Char} (h : IsPiece text rest) :
    splitWord? (text.toList ++ rest) = some (text.toList, rest) := by
  refine splitWord?_eq_some_iff.2 ⟨?_, ?_⟩
  · obtain ⟨c, cs, htext, hc⟩ := h.exists_cons
    rw [htext, List.cons_append, List.takeWhile_cons_of_neg (by simp [hc])]
    rfl
  · rcases h with hparen | ⟨⟨hne, hall⟩, hrest⟩
    · exact Or.inl (exists_isParen_iff.2 hparen)
    · exact Or.inr ⟨by simpa using hne, hall, hrest⟩

/-- What is cut off behind blanks is a piece. -/
theorem isPiece_of_splitWord?_eq_some {cs word rest : List Char}
    (h : splitWord? cs = some (word, rest)) : IsPiece (String.ofList word) rest := by
  rcases (splitWord?_eq_some_iff.1 h).2 with hparen | ⟨hne, hall, hrest⟩
  · left
    rw [← exists_isParen_iff, String.toList_ofList]
    exact hparen
  · right
    refine ⟨⟨by simpa using hne, ?_⟩, hrest⟩
    rwa [String.toList_ofList]

end ShuntingYard
