/-
The pieces of a text, without their places.

* `pieces` — the texts of the lexemes of some characters;
* `Cursor.map_text_lexemes` — they do not depend on where the characters stand, as the
  spans do;
* `pieces_cons_of_isBlank`, `pieces_cons_of_isParen`, `pieces_word_append` — what is read
  from a blank, a parenthesis and a word that nothing continues;
* `paren_or_isWord_of_mem_pieces` — a piece is a parenthesis or a word.
-/
import ShuntingYard.Lexeme

namespace ShuntingYard

/-- The same lexeme behind `distance` more bytes. -/
def Lexeme.shift (distance : Nat) (lexeme : Lexeme) : Lexeme :=
  ⟨lexeme.text, ⟨distance + lexeme.span.start, distance + lexeme.span.stop⟩⟩

/-- The texts of the lexemes of some characters. -/
def pieces (cs : List Char) : List String := (⟨0, cs⟩ : Cursor).lexemes.map Lexeme.text

theorem map_text_lexemes (text : String) :
    (lexemes text).map Lexeme.text = pieces text.toList := rfl

namespace Cursor

theorem next?_shift (distance : Nat) (cursor : Cursor) :
    (⟨distance + cursor.offset, cursor.rest⟩ : Cursor).next? =
      cursor.next?.map fun step =>
        (step.1.shift distance, ⟨distance + step.2.offset, step.2.rest⟩) := by
  unfold next?
  cases splitWord? cursor.rest with
  | none => rfl
  | some parts => simp [Lexeme.shift, Nat.add_assoc]

/-- The lexemes of shifted characters are the shifted lexemes. -/
theorem lexemes_shift (distance : Nat) (cursor : Cursor) :
    (⟨distance + cursor.offset, cursor.rest⟩ : Cursor).lexemes =
      cursor.lexemes.map (Lexeme.shift distance) := by
  induction h : cursor.rest.length using Nat.strongRecOn generalizing cursor with
  | ind n ih =>
    subst h
    have hshift := next?_shift distance cursor
    cases hnext : cursor.next? with
    | none =>
      rw [hnext] at hshift
      rw [lexemes_of_next?_eq_none hnext, lexemes_of_next?_eq_none hshift]
      rfl
    | some step =>
      -- Both cursors cut off the same lexeme, and what is left is shifted as before.
      obtain ⟨lexeme, next⟩ := step
      rw [hnext] at hshift
      rw [lexemes_of_next?_eq_some hnext, lexemes_of_next?_eq_some hshift,
        ih _ (length_rest_lt_of_next?_eq_some hnext) next rfl]
      rfl

theorem map_text_lexemes (cursor : Cursor) :
    cursor.lexemes.map Lexeme.text = pieces cursor.rest := by
  have h := lexemes_shift cursor.offset ⟨0, cursor.rest⟩
  rw [Nat.add_zero] at h
  show (⟨cursor.offset, cursor.rest⟩ : Cursor).lexemes.map Lexeme.text = _
  rw [h, List.map_map]
  rfl

end Cursor

/-! ### One piece at a time -/

theorem pieces_of_splitWord?_eq_none {cs : List Char} (h : splitWord? cs = none) :
    pieces cs = [] := by
  rw [pieces, Cursor.lexemes_of_next?_eq_none (Option.map_eq_none_iff.2 h)]
  rfl

theorem pieces_of_splitWord?_eq_some {cs word rest : List Char}
    (h : splitWord? cs = some (word, rest)) : pieces cs = String.ofList word :: pieces rest := by
  obtain ⟨span, stop, hnext⟩ : ∃ span stop, (⟨0, cs⟩ : Cursor).next? =
      some (⟨String.ofList word, span⟩, ⟨stop, rest⟩) := ⟨_, _, by rw [Cursor.next?, h]; rfl⟩
  rw [pieces, Cursor.lexemes_of_next?_eq_some hnext, List.map_cons, Cursor.map_text_lexemes]

@[simp]
theorem pieces_nil : pieces [] = [] := pieces_of_splitWord?_eq_none rfl

/-- Blanks in front are skipped. -/
theorem pieces_cons_of_isBlank {c : Char} (hc : isBlank c = true) (cs : List Char) :
    pieces (c :: cs) = pieces cs := by
  have hsplit : splitWord? (c :: cs) = splitWord? cs := by
    rw [splitWord?, List.dropWhile_cons_of_pos hc, splitWord?]
  cases h : splitWord? cs with
  | none => rw [pieces_of_splitWord?_eq_none h, pieces_of_splitWord?_eq_none (hsplit.trans h)]
  | some parts =>
    rw [pieces_of_splitWord?_eq_some h, pieces_of_splitWord?_eq_some (hsplit.trans h)]

/-- A parenthesis or a word is read to its end, if what follows does not continue it. -/
theorem pieces_append_of_isPiece {text : String} {rest : List Char} (h : IsPiece text rest) :
    pieces (text.toList ++ rest) = text :: pieces rest := by
  rw [pieces_of_splitWord?_eq_some (splitWord?_append_of_isPiece h), String.ofList_toList]

/-- A parenthesis stands alone, whatever follows it. -/
theorem pieces_cons_of_isParen {c : Char} (hc : isParen c = true) (cs : List Char) :
    pieces (c :: cs) = String.ofList [c] :: pieces cs := by
  have hparen : IsPiece (String.ofList [c]) cs :=
    Or.inl (exists_isParen_iff.1 ⟨c, String.toList_ofList, hc⟩)
  have h := pieces_append_of_isPiece hparen
  rwa [String.toList_ofList] at h

/-- A word is read to its end, if what follows does not continue it. -/
theorem pieces_word_append {word : String} (hword : IsWord word) {rest : List Char}
    (hrest : ∀ c, rest.head? = some c → isWordChar c = false) :
    pieces (word.toList ++ rest) = word :: pieces rest :=
  pieces_append_of_isPiece (Or.inr ⟨hword, hrest⟩)

/-- A piece is a parenthesis or a word. -/
theorem paren_or_isWord_of_mem_pieces {cs : List Char} {text : String} (h : text ∈ pieces cs) :
    text = "(" ∨ text = ")" ∨ IsWord text := by
  induction hlength : cs.length using Nat.strongRecOn generalizing cs with
  | ind n ih =>
    subst hlength
    cases hsplit : splitWord? cs with
    | none =>
      rw [pieces_of_splitWord?_eq_none hsplit] at h
      cases h
    | some parts =>
      obtain ⟨word, rest⟩ := parts
      rw [pieces_of_splitWord?_eq_some hsplit] at h
      rcases List.mem_cons.1 h with rfl | h
      · exact (isPiece_of_splitWord?_eq_some hsplit).paren_or_isWord
      · exact ih _ (length_lt_of_splitWord?_eq_some hsplit) h rfl

end ShuntingYard
