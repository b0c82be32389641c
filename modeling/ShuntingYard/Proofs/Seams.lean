/-
Words across the seam of two texts.

Where two texts meet apart, the lexemes of the whole are those of the two.  Otherwise the
first text ends with a word, the second starts with one, and the whole has a single word
there.  So the word at the end of the first text is cut off from it, and the one at the start
of the second: what is left on each side meets the long word apart.

* `Lexeme.fuse` — two lexemes in a row as one;
* `exists_append_word`, `exists_word_append` — a text without the word at its end, and without
  the word at its start;
* `lexemes_append_word`, `lexemes_word_append` — the lexemes of a text with a word behind it
  and in front of it;
* `lexemes_append_of_not_meetApart` — the lexemes of two texts with a word across the seam;
* `Cursor.lexemes_iterate_advance` — the lexemes that are left after some calls;
* `lexemes_seam` — the lexemes of two texts in a row, and those that a cursor has left.
-/
import Mathlib.Data.List.DropRight
import ShuntingYard.Proofs.Symbols

namespace ShuntingYard

/-- The lexeme that reaches from the start of the first to the end of the second. -/
def Lexeme.fuse (lexeme next : Lexeme) : Lexeme :=
  ⟨lexeme.text ++ next.text, ⟨lexeme.span.start, next.span.stop⟩⟩

/-! ### The word at an end of a text -/

theorem IsWord.append {word other : String} (h : IsWord word) (hother : IsWord other) :
    IsWord (word ++ other) := by
  refine ⟨?_, ?_⟩
  · intro hempty
    exact h.1 (String.append_eq_empty_iff.1 hempty).1
  · intro c hc
    rw [String.toList_append] at hc
    rcases List.mem_append.1 hc with hc | hc
    · exact h.2 c hc
    · exact hother.2 c hc

/-- A text that ends with a word character is a word behind a text that does not. -/
theorem exists_append_word {text : String} {c : Char} (hlast : text.toList.getLast? = some c)
    (hc : isWordChar c = true) :
    ∃ front word, text = front ++ word ∧ IsWord word ∧
      ∀ d, front.toList.getLast? = some d → isWordChar d = false := by
  refine ⟨String.ofList (text.toList.rdropWhile isWordChar),
    String.ofList (text.toList.rtakeWhile isWordChar), ?_, ⟨?_, ?_⟩, ?_⟩
  · rw [← String.ofList_append, List.rdropWhile_append_rtakeWhile, String.ofList_toList]
  · obtain ⟨init, htext⟩ := List.getLast?_eq_some_iff.1 hlast
    rw [htext, List.rtakeWhile_concat_pos _ _ _ hc]
    simp
  · rw [String.toList_ofList]
    exact fun d hd => List.mem_rtakeWhile_imp hd
  · rw [String.toList_ofList]
    intro d hd
    obtain ⟨init, hinit⟩ := List.getLast?_eq_some_iff.1 hd
    have hstop := List.rdropWhile_last_not isWordChar text.toList (by simp [hinit])
    simpa [hinit] using hstop

/-- A text that starts with a word character is a word in front of a text that does not. -/
theorem exists_word_append {text : String} {c : Char} (hfirst : text.toList.head? = some c)
    (hc : isWordChar c = true) :
    ∃ word back, text = word ++ back ∧ IsWord word ∧
      ∀ d, back.toList.head? = some d → isWordChar d = false := by
  refine ⟨String.ofList (text.toList.takeWhile isWordChar),
    String.ofList (text.toList.dropWhile isWordChar), ?_, ⟨?_, ?_⟩, ?_⟩
  · rw [← String.ofList_append, List.takeWhile_append_dropWhile, String.ofList_toList]
  · obtain ⟨tail, htext⟩ := List.head?_eq_some_iff.1 hfirst
    rw [htext, List.takeWhile_cons_of_pos hc]
    simp
  · rw [String.toList_ofList]
    exact List.all_eq_true.1 List.all_takeWhile
  · rw [String.toList_ofList]
    intro d hd
    have hstop := List.head?_dropWhile_not isWordChar text.toList
    rw [hd] at hstop
    simpa using hstop

/-! ### Lexemes beside a word -/

/-- A word behind a text is one more lexeme, unless the text ends with a word itself. -/
theorem lexemes_append_word {front word : String} (hword : IsWord word)
    (hfront : ∀ c, front.toList.getLast? = some c → isWordChar c = false) :
    lexemes (front ++ word) =
      lexemes front ++
        [⟨word, ⟨front.utf8ByteSize, front.utf8ByteSize + word.utf8ByteSize⟩⟩] := by
  rw [lexemes_append (Or.inl hfront), lexemes_of_isWord hword]
  rfl

/-- A word in front of a text is one more lexeme, unless the text starts with a word itself. -/
theorem lexemes_word_append {word back : String} (hword : IsWord word)
    (hback : ∀ c, back.toList.head? = some c → isWordChar c = false) :
    lexemes (word ++ back) =
      ⟨word, ⟨0, word.utf8ByteSize⟩⟩ ::
        (lexemes back).map (Lexeme.shift word.utf8ByteSize) := by
  rw [lexemes_append (Or.inr hback), lexemes_of_isWord hword]
  rfl

/-- Where a word goes on from one text into the next, the last lexeme of the one and the
first of the other are one, and there is no other difference. -/
theorem lexemes_append_of_not_meetApart {before after : String}
    (h : ¬ MeetApart before.toList after.toList) :
    ∃ front last first back, lexemes before = front ++ [last] ∧ lexemes after = first :: back ∧
      last.span.stop = (first.shift before.utf8ByteSize).span.start ∧
      lexemes (before ++ after) =
        front ++ last.fuse (first.shift before.utf8ByteSize) ::
          back.map (Lexeme.shift before.utf8ByteSize) := by
  simp only [MeetApart, not_or, not_forall, Bool.not_eq_false] at h
  obtain ⟨⟨c, hlast, hc⟩, d, hfirst, hd⟩ := h
  obtain ⟨front, word, rfl, hword, hfront⟩ := exists_append_word hlast hc
  obtain ⟨word', back, rfl, hword', hback⟩ := exists_word_append hfirst hd
  have hwhole : front ++ word ++ (word' ++ back) = front ++ (word ++ word' ++ back) := by
    simp only [String.append_assoc]
  refine ⟨_, _, _, _, lexemes_append_word hword hfront, lexemes_word_append hword' hback, ?_, ?_⟩
  · simp only [Lexeme.shift, String.utf8ByteSize_append, Nat.add_zero]
  -- The long word meets what is left of the two texts apart.
  · rw [hwhole, lexemes_append (Or.inl hfront), lexemes_word_append (hword.append hword') hback]
    simp [Lexeme.shift, Lexeme.fuse, Nat.add_assoc]

/-! ### What a cursor has left -/

namespace Cursor

/-- The lexemes that are left after some calls are those behind the ones that were given. -/
theorem lexemes_iterate_advance (cursor : Cursor) (n : Nat) :
    (advance^[n] cursor).lexemes = cursor.lexemes.drop n := by
  induction n generalizing cursor with
  | zero => rfl
  | succ n ih =>
    rw [Function.iterate_succ_apply, ih]
    cases h : cursor.next? with
    | none => rw [advance_of_next?_eq_none h, lexemes_of_next?_eq_none h]; simp
    | some step => rw [advance_of_next?_eq_some h, lexemes_of_next?_eq_some h]; rfl

/-- A cursor gives the lexemes of the text that is left, from its place on. -/
theorem lexemes_eq_map_shift (cursor : Cursor) :
    cursor.lexemes =
      (ShuntingYard.lexemes cursor.remainder).map (Lexeme.shift cursor.offset) := by
  have hshift := lexemes_shift cursor.offset ⟨0, cursor.rest⟩
  rw [Nat.add_zero] at hshift
  rw [ShuntingYard.lexemes, ofString, remainder, String.toList_ofList]
  exact hshift

end Cursor

/-- The lexemes of two texts in a row are those of the first and then those of the second,
as far behind as the first is long.  Only where a word goes on from the first into the second
its two parts are a single lexeme.  So at each point a cursor has the lexemes left that the
text behind it has, as far behind as it stands. -/
theorem lexemes_seam (before after : String) :
    (MeetApart before.toList after.toList →
        lexemes (before ++ after) =
          lexemes before ++ (lexemes after).map (Lexeme.shift before.utf8ByteSize)) ∧
      (¬ MeetApart before.toList after.toList →
        ∃ front last first back, lexemes before = front ++ [last] ∧
          lexemes after = first :: back ∧
          last.span.stop = (first.shift before.utf8ByteSize).span.start ∧
          lexemes (before ++ after) =
            front ++ last.fuse (first.shift before.utf8ByteSize) ::
              back.map (Lexeme.shift before.utf8ByteSize)) ∧
      ∀ source count, (Cursor.behind source count).IsIn source ∧
        (Cursor.behind source count).lexemes = (lexemes source).drop count ∧
        (Cursor.behind source count).lexemes =
          (lexemes (Cursor.behind source count).remainder).map
            (Lexeme.shift (Cursor.behind source count).offset) :=
  ⟨lexemes_append, lexemes_append_of_not_meetApart, fun source count =>
    ⟨(Cursor.isIn_ofString source).iterate_advance count,
      Cursor.lexemes_iterate_advance _ count, Cursor.lexemes_eq_map_shift _⟩⟩

-- The blank in front, the parenthesis and the digit behind the seam keep their places.
example : lexemes ("\u00a0(é" ++ "2)3") =
    [⟨"(", ⟨2, 3⟩⟩, ⟨"é2", ⟨3, 6⟩⟩, ⟨")", ⟨6, 7⟩⟩, ⟨"3", ⟨7, 8⟩⟩] := by
  decide +kernel

end ShuntingYard
