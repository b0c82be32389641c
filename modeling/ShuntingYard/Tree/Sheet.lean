/-
Drawing a tree on a sheet.

The lines of a drawing are put down one after the other, and all of them behind the same
margin.  The margin gets longer in front of an operand and is cut back behind it, by as many
bytes as it got longer.  A cut that is not between two characters of the margin fails.

* `Sheet` — the text that has been put down, and the margin;
* `Sheet.write`, `Sheet.indent`, `Sheet.outdent?` — more text, a longer margin, a shorter one;
* `Tree.drawOn?` — a tree drawn on a sheet.
-/
import ShuntingYard.Span
import ShuntingYard.Tree

namespace ShuntingYard

/-- A drawing that is being made: its text so far, and the margin of its next lines. -/
structure Sheet where
  text : String
  margin : String
  deriving DecidableEq, Repr

namespace Sheet

/-- The sheet with more text. -/
def write (sheet : Sheet) (text : String) : Sheet := { sheet with text := sheet.text ++ text }

/-- The sheet with a longer margin. -/
def indent (sheet : Sheet) (unit : String) : Sheet := { sheet with margin := sheet.margin ++ unit }

/-- The sheet with a margin that is shorter by as many bytes as the unit has, unless it has
fewer, or a character would be cut. -/
def outdent? (sheet : Sheet) (unit : String) : Option Sheet :=
  if unit.utf8ByteSize ≤ sheet.margin.utf8ByteSize then
    (splitBytes? (sheet.margin.utf8ByteSize - unit.utf8ByteSize) sheet.margin.toList).map
      fun parts => { sheet with margin := String.ofList parts.1 }
  else
    none

/-- A margin that got longer by a unit is cut back by it. -/
theorem outdent?_append (text margin unit : String) :
    (⟨text, margin ++ unit⟩ : Sheet).outdent? unit = some ⟨text, margin⟩ := by
  have hsplit : splitBytes? ((margin ++ unit).utf8ByteSize - unit.utf8ByteSize)
      (margin ++ unit).toList = some (margin.toList, unit.toList) := by
    rw [splitBytes?_eq_some_iff, String.toList_append, byteSize_toList,
      String.utf8ByteSize_append]
    exact ⟨rfl, by omega⟩
  have hle : unit.utf8ByteSize ≤ (margin ++ unit).utf8ByteSize := by
    rw [String.utf8ByteSize_append]
    omega
  rw [outdent?, if_pos hle, hsplit, Option.map_some, String.ofList_toList]

end Sheet

/-- The tree drawn on the sheet: its root, then its left operand behind a branching stroke
and its right one behind a corner. -/
def Tree.drawOn? : Tree → Sheet → Option Sheet
  | leaf value, sheet => some (sheet.write ("(" ++ value ++ ")\n"))
  | node value left right, sheet => do
    let root := sheet.write ("(" ++ value ++ ")\n")
    let drawn ← left.drawOn? ((root.write (root.margin ++ " ├")).indent " │")
    let left ← drawn.outdent? " │"
    let drawn ← right.drawOn? ((left.write (left.margin ++ " └")).indent "  ")
    drawn.outdent? "  "

end ShuntingYard
