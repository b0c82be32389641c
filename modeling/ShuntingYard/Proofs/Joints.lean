/-
Texts in a row.

Where two texts meet, the last word of the first may go on in the second.  Unless there
is a word character on both sides, the lexemes of the whole are those of the first text
and then those of the second, which stand behind it.

* `MeetApart` — no word reaches from some characters into those behind them;
* `splitWord?_append` — then the first piece of the whole is that of the first part;
* `Cursor.lexemes_append`, `lexemes_append` — and the lexemes are those of the parts;
* `lexemes_append_blank`, `lexemes_prefix_append_blank` — a blank always keeps two texts apart.
-/
import Mathlib.Data.List.Basic
import ShuntingYard.Proofs.Pieces

namespace ShuntingYard

/-- No word reaches from the characters in front into those behind. -/
def MeetApart (before after : List Char) : Prop :=
  (∀ c, before.getLast? = some c → isWordChar c = false) ∨
    ∀ c, after.head? = some c → isWordChar c = false

/-- Characters that meet apart still do so if some in front are cut off. -/
theorem MeetApart.of_append {front before after : List Char}
    (h : MeetApart (front ++ before) after) : MeetApart before after := by
  rcases h with hlast | hhead
  · left
    intro c hc
    apply hlast
    rw [List.getLast?_append, hc, Option.some_or]
  · exact Or.inr hhead

/-- No word reaches over a blank. -/
theorem meetApart_cons_of_isBlank {blank : Char} (h : isBlank blank = true)
    (before after : List Char) : MeetApart before (blank :: after) := by
  right
  intro c hc
  obtain rfl := Option.some_inj.1 hc
  rw [Bool.eq_false_iff, Ne, isWordChar_eq_true_iff, h]
  exact fun hword => Bool.noConfusion hword.1

/-! ### The first piece -/

/-- The blanks in front of a piece end there, whatever stands behind the piece. -/
theorem takeWhile_isBlank_append {before word rest : List Char}
    (h : splitWord? before = some (word, rest)) (after : List Char) :
    (before ++ after).takeWhile isBlank = before.takeWhile isBlank := by
  rw [List.takeWhile_append, if_neg]
  intro hall
  have hblanks : ∀ c ∈ before, isBlank c = true := by
    rw [← (List.takeWhile_prefix isBlank).eq_of_length hall]
    exact List.all_eq_true.1 List.all_takeWhile
  rw [splitWord?_eq_none_iff.2 hblanks] at h
  cases h

/-- Where the characters meet apart, the first piece of the front part is not continued. -/
theorem splitWord?_append {before after word rest : List Char}
    (hapart : MeetApart before after) (h : splitWord? before = some (word, rest)) :
    splitWord? (before ++ after) = some (word, rest ++ after) := by
  obtain ⟨hbefore, hword⟩ := splitWord?_eq_some_iff.1 h
  refine splitWord?_eq_some_iff.2 ⟨?_, ?_⟩
  · rw [takeWhile_isBlank_append h, ← List.append_assoc, ← hbefore]
  rcases hword with hparen | ⟨hne, hall, hstop⟩
  · exact Or.inl hparen
  refine Or.inr ⟨hne, hall, ?_⟩
  intro c hc
  cases rest with
  | cons d rest => exact hstop c hc
  | nil =>
    -- The word ends where the two parts meet, so no word character stands behind it.
    have hlast : before.getLast? = some (word.getLast hne) := by
      rw [hbefore, List.append_nil, List.getLast?_append_of_ne_nil _ hne,
        List.getLast?_eq_some_getLast hne]
    rcases hapart with hfront | hhead
    · have hchar := hall _ (List.getLast_mem hne)
      rw [hfront _ hlast] at hchar
      cases hchar
    · exact hhead c hc

/-! ### All lexemes -/

namespace Cursor

/-- A cursor in front of blanks gives the same lexemes as the one behind them. -/
theorem lexemes_blanks_append {blanks : List Char} (h : ∀ c ∈ blanks, isBlank c = true)
    (offset : Nat) (rest : List Char) :
    (⟨offset, blanks ++ rest⟩ : Cursor).lexemes =
      (⟨offset + byteSize blanks, rest⟩ : Cursor).lexemes := by
  have hnext : (⟨offset, blanks ++ rest⟩ : Cursor).next? =
      (⟨offset + byteSize blanks, rest⟩ : Cursor).next? := by
    have hsplit : splitWord? (blanks ++ rest) = splitWord? rest := by
      rw [splitWord?, List.dropWhile_append_of_pos h, splitWord?]
    simp only [next?, hsplit, List.takeWhile_append_of_pos h, byteSize_append, Nat.add_assoc]
  cases hrest : (⟨offset + byteSize blanks, rest⟩ : Cursor).next? with
  | none => rw [lexemes_of_next?_eq_none hrest, lexemes_of_next?_eq_none (hnext.trans hrest)]
  | some step => rw [lexemes_of_next?_eq_some hrest, lexemes_of_next?_eq_some (hnext.trans hrest)]

/-- Where the characters meet apart, the lexemes are those of the two parts. -/
theorem lexemes_append {before after : List Char} (hapart : MeetApart before after)
    (offset : Nat) :
    (⟨offset, before ++ after⟩ : Cursor).lexemes =
      (⟨offset, before⟩ : Cursor).lexemes ++
        (⟨offset + byteSize before, after⟩ : Cursor).lexemes := by
  induction h : before.length using Nat.strongRecOn generalizing before offset with
  | ind n ih =>
    subst h
    cases hsplit : splitWord? before with
    | none =>
      have hblanks := splitWord?_eq_none_iff.1 hsplit
      have hnone : (⟨offset, before⟩ : Cursor).next? = none := next?_eq_none_iff.2 hblanks
      rw [lexemes_blanks_append hblanks, lexemes_of_next?_eq_none hnone, List.nil_append]
    | some parts =>
      obtain ⟨word, rest⟩ := parts
      have hlength := length_lt_of_splitWord?_eq_some hsplit
      obtain ⟨hbefore, -⟩ := splitWord?_eq_some_iff.1 hsplit
      have hrest : MeetApart rest after := by
        rw [hbefore] at hapart
        exact hapart.of_append
      -- Both cursors cut off the same piece, and the front one leaves the same but `after`.
      let start := offset + byteSize (before.takeWhile isBlank)
      let stop := start + byteSize word
      have hfront : (⟨offset, before⟩ : Cursor).next? =
          some (⟨String.ofList word, ⟨start, stop⟩⟩, ⟨stop, rest⟩) := by
        rw [next?, hsplit]
        rfl
      have hwhole : (⟨offset, before ++ after⟩ : Cursor).next? =
          some (⟨String.ofList word, ⟨start, stop⟩⟩, ⟨stop, rest ++ after⟩) := by
        rw [next?, splitWord?_append hapart hsplit, takeWhile_isBlank_append hsplit]
        rfl
      have hsize : offset + byteSize before = stop + byteSize rest := by
        conv_lhs => rw [hbefore]
        simp only [byteSize_append, start, stop, Nat.add_assoc]
      rw [lexemes_of_next?_eq_some hfront, lexemes_of_next?_eq_some hwhole,
        ih _ hlength hrest stop rfl, hsize]
      rfl

end Cursor

/-- Where two texts meet apart, the lexemes of the whole are those of the two. -/
theorem lexemes_append {before after : String} (h : MeetApart before.toList after.toList) :
    lexemes (before ++ after) =
      lexemes before ++ (lexemes after).map (Lexeme.shift before.utf8ByteSize) := by
  have happend := Cursor.lexemes_append h 0
  have hshift := Cursor.lexemes_shift (byteSize before.toList) ⟨0, after.toList⟩
  rw [Nat.zero_add] at happend
  rw [Nat.add_zero, byteSize_toList] at hshift
  rw [lexemes, Cursor.ofString, String.toList_append, happend, byteSize_toList, hshift]
  rfl

/-- A blank keeps two texts apart. -/
theorem lexemes_append_blank (before after : String) :
    lexemes (before ++ " " ++ after) =
      lexemes before ++ (lexemes after).map (Lexeme.shift (before ++ " ").utf8ByteSize) := by
  have hlast : MeetApart (before ++ " ").toList after.toList := by
    left
    intro c hc
    rw [String.toList_append, List.getLast?_append] at hc
    obtain rfl := Option.some_inj.1 hc
    decide
  have hhead : MeetApart before.toList " ".toList := meetApart_cons_of_isBlank (by decide) _ []
  have hnone : lexemes " " = [] := by decide +kernel
  rw [lexemes_append hlast, lexemes_append hhead, hnone, List.map_nil, List.append_nil]

/-- If an expression goes on behind a blank, its lexemes are the first of the whole. -/
theorem lexemes_prefix_append_blank {blank : Char} (h : isBlank blank = true)
    (expression rest : String) :
    lexemes expression <+: lexemes (expression ++ String.singleton blank ++ rest) := by
  have happart : MeetApart expression.toList (String.singleton blank ++ rest).toList := by
    rw [String.toList_append, String.toList_singleton]
    exact meetApart_cons_of_isBlank h _ _
  rw [String.append_assoc, lexemes_append happart]
  exact List.prefix_append _ _

end ShuntingYard
