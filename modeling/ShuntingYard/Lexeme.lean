/-
Lexemes: the pieces of an expression with their places in it.

A cursor walks over an expression from left to right and hands out one lexeme at
a time.  It stands right behind the last lexeme that it gave; blanks are skipped
only when another lexeme follows, so at the end of the expression the trailing
blanks remain in front of it.

* `Lexeme` — a piece of text and the span that it fills;
* `Cursor` — a byte position and the characters from there on;
* `Cursor.next?` — the next lexeme and the cursor behind it;
* `Cursor.advance` — the cursor behind the next lexeme, or the same if there is none;
* `Cursor.drain` — all lexemes still to come and the cursor behind the last;
* `lexemes` — all lexemes of an expression.
-/
import ShuntingYard.Span
import ShuntingYard.Word

namespace ShuntingYard

/-- A piece of an expression and the span that it fills. -/
structure Lexeme where
  text : String
  span : Span
  deriving DecidableEq, Repr

/-- A place in an expression: its byte position and the characters behind it. -/
structure Cursor where
  offset : Nat
  rest : List Char
  deriving DecidableEq, Repr

namespace Cursor

/-- The cursor in front of the whole text. -/
def ofString (text : String) : Cursor := ⟨0, text.toList⟩

/-- The text that the cursor has not passed yet. -/
def remainder (cursor : Cursor) : String := String.ofList cursor.rest

/-- The next lexeme and the cursor behind it, or nothing if only blanks are left. -/
def next? (cursor : Cursor) : Option (Lexeme × Cursor) :=
  (splitWord? cursor.rest).map fun parts =>
    let start := cursor.offset + byteSize (cursor.rest.takeWhile isBlank)
    let stop := start + byteSize parts.1
    (⟨String.ofList parts.1, ⟨start, stop⟩⟩, ⟨stop, parts.2⟩)

/-- The cursor behind the next lexeme.  If only blanks are left, it stays in front of
them. -/
def advance (cursor : Cursor) : Cursor :=
  match cursor.next? with
  | none => cursor
  | some (_, next) => next

/-- Each lexeme leaves fewer characters behind it. -/
theorem length_rest_lt_of_next?_eq_some {cursor next : Cursor} {lexeme : Lexeme}
    (h : cursor.next? = some (lexeme, next)) : next.rest.length < cursor.rest.length := by
  obtain ⟨parts, hparts, hnext⟩ := Option.map_eq_some_iff.1 h
  obtain ⟨-, rfl⟩ := Prod.mk.inj hnext
  exact length_lt_of_splitWord?_eq_some hparts

/-- The lexemes still to come, and the cursor behind the last of them. -/
def drain (cursor : Cursor) : List Lexeme × Cursor :=
  match _h : cursor.next? with
  | none => ([], cursor)
  | some (lexeme, next) =>
    let others := next.drain
    (lexeme :: others.1, others.2)
termination_by cursor.rest.length
decreasing_by exact length_rest_lt_of_next?_eq_some _h

/-- The lexemes still to come. -/
def lexemes (cursor : Cursor) : List Lexeme := cursor.drain.1

/-! ### One step at a time -/

theorem advance_of_next?_eq_none {cursor : Cursor} (h : cursor.next? = none) :
    cursor.advance = cursor := by
  rw [advance, h]

theorem advance_of_next?_eq_some {cursor next : Cursor} {lexeme : Lexeme}
    (h : cursor.next? = some (lexeme, next)) : cursor.advance = next := by
  rw [advance, h]

theorem drain_of_next?_eq_none {cursor : Cursor} (h : cursor.next? = none) :
    cursor.drain = ([], cursor) := by
  rw [drain]
  split
  · rfl
  · rename_i hsome
    rw [h] at hsome
    cases hsome

theorem drain_of_next?_eq_some {cursor next : Cursor} {lexeme : Lexeme}
    (h : cursor.next? = some (lexeme, next)) :
    cursor.drain = (lexeme :: next.drain.1, next.drain.2) := by
  rw [drain]
  split
  · rename_i hnone
    rw [h] at hnone
    cases hnone
  · rename_i hsome
    rw [h] at hsome
    cases hsome
    rfl

theorem lexemes_of_next?_eq_none {cursor : Cursor} (h : cursor.next? = none) :
    cursor.lexemes = [] := by
  rw [lexemes, drain_of_next?_eq_none h]

theorem lexemes_of_next?_eq_some {cursor next : Cursor} {lexeme : Lexeme}
    (h : cursor.next? = some (lexeme, next)) :
    cursor.lexemes = lexeme :: next.lexemes := by
  rw [lexemes, drain_of_next?_eq_some h, lexemes]

/-- Nothing comes any more exactly when only blanks are left. -/
theorem next?_eq_none_iff {cursor : Cursor} :
    cursor.next? = none ↔ ∀ c ∈ cursor.rest, isBlank c = true := by
  rw [next?, Option.map_eq_none_iff, splitWord?_eq_none_iff]

/-- A drained cursor has nothing left to give. -/
theorem next?_drain (cursor : Cursor) : cursor.drain.2.next? = none := by
  induction h : cursor.rest.length using Nat.strongRecOn generalizing cursor with
  | ind n ih =>
    cases hnext : cursor.next? with
    | none => rw [drain_of_next?_eq_none hnext, hnext]
    | some step =>
      obtain ⟨lexeme, next⟩ := step
      rw [drain_of_next?_eq_some hnext]
      exact ih _ (h ▸ length_rest_lt_of_next?_eq_some hnext) next rfl

end Cursor

/-- The lexemes of an expression, from left to right. -/
def lexemes (text : String) : List Lexeme := (Cursor.ofString text).lexemes

end ShuntingYard
