/-
The carets of failures at any span.

A diagnostic can be asked for with a span that is no place in the expression: it may be
reversed, reach beyond the end, or start or end inside of a character.  The spaces and the
carets are counted from what the expression has at the span, each on its own, and where it
has nothing there is no space, or a single caret.  So the line of the carets never reaches
further than one character behind the expression.

* `Failure.column_le_length`, `Failure.column_add_width_le` — how far the spaces and the
  carets reach;
* `Failure.splitOn_diagnostic` — the last line of a diagnostic is the line of the carets;
* `Failure.caretLine_within` — the line of the carets, for every failure.
-/
import ShuntingYard.Proofs.Carets

namespace ShuntingYard

/-- A part of a text has at most as many characters as the text. -/
theorem Span.length_le_of_slice?_eq_some {span : Span} {text part : String}
    (h : span.slice? text = some part) : part.length ≤ text.length := by
  obtain ⟨before, after, htext, -⟩ := slice?_eq_some_iff.1 h
  have hlength := congrArg List.length htext
  rw [List.length_append, List.length_append, String.length_toList, String.length_toList] at hlength
  omega

namespace Failure

variable (failure : Failure)

/-! ### Spaces and carets -/

/-- There are at most as many spaces as the expression has characters. -/
theorem column_le_length : failure.column ≤ failure.expression.length := by
  rw [column]
  cases hfront : (⟨0, failure.span.start⟩ : Span).slice? failure.expression with
  | none => exact Nat.zero_le _
  | some front => exact Span.length_le_of_slice?_eq_some hfront

/-- The last caret is at most one character behind the expression. -/
theorem column_add_width_le :
    failure.column + failure.width ≤ failure.expression.length + 1 := by
  cases hslice : failure.span.slice? failure.expression with
  | none =>
    -- The span may still start at a character, so that there are spaces.
    have hwidth : failure.width = 1 := by
      rw [width, hslice]
      rfl
    have hcolumn := failure.column_le_length
    omega
  | some part =>
    obtain ⟨before, after, hexpression, hspan⟩ := Span.slice?_eq_some_iff.1 hslice
    have hlength := congrArg List.length hexpression
    rw [List.length_append, List.length_append, String.length_toList] at hlength
    rw [column_eq hexpression hspan, width_eq hexpression hspan]
    omega

/-! ### The last line -/

/-- The last line of a diagnostic has the carets, even if the expression has several lines. -/
theorem splitOn_diagnostic : ∃ earlier, failure.diagnostic.toList.splitOn '\n' =
    earlier ++ [(caretLine failure.column failure.width).toList, []] := by
  refine ⟨[failure.header, "  |", "1 | " ++ failure.expression].flatMap
    fun text => text.toList.splitOn '\n', ?_⟩
  have hcarets : (caretLine failure.column failure.width).toList.splitOn '\n' =
      [(caretLine failure.column failure.width).toList] :=
    List.splitOn_eq_singleton (isLine_caretLine _ _)
  rw [diagnostic, splitOn_join]
  show ([failure.header, "  |", "1 | " ++ failure.expression] ++
    [caretLine failure.column failure.width]).flatMap _ ++ [[]] = _
  rw [List.flatMap_append, List.flatMap_singleton, hcarets, List.append_assoc]
  rfl

/-- Whatever the span is, the last line of the diagnostic has some spaces and then at least
one caret, and it reaches at most one character further than the expression.  If the span
selects characters, the spaces are as many as there are characters in front of them, and the
carets are as many as they are. -/
theorem caretLine_within : ∃ earlier spaces carets,
    failure.diagnostic.toList.splitOn '\n' =
        earlier ++ [(caretLine spaces carets).toList, []] ∧
      1 ≤ carets ∧ spaces + carets ≤ failure.expression.length + 1 ∧
        (failure.span.start < failure.span.stop → failure.span.IsWithin failure.expression →
          ∃ before part after, failure.expression.toList = before ++ part ++ after ∧
            failure.span = ⟨byteSize before, byteSize before + byteSize part⟩ ∧
              spaces = before.length ∧ carets = part.length) := by
  obtain ⟨earlier, hlast⟩ := failure.splitOn_diagnostic
  refine ⟨earlier, failure.column, failure.width, hlast, Nat.le_max_left _ _,
    failure.column_add_width_le, ?_⟩
  intro hlt hwithin
  obtain ⟨text, hslice⟩ := Span.exists_slice?_eq_some_iff.2 hwithin
  obtain ⟨before, after, hexpression, hspan⟩ := Span.slice?_eq_some_iff.1 hslice
  refine ⟨before, text.toList, after, hexpression, hspan, column_eq hexpression hspan, ?_⟩
  have hne : text.toList ≠ [] := by
    intro hnil
    rw [hspan, hnil] at hlt
    exact Nat.lt_irrefl _ hlt
  rw [width_eq hexpression hspan]
  exact Nat.max_eq_right (List.length_pos_iff.2 hne)

end Failure

end ShuntingYard
