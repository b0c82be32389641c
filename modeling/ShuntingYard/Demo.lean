/-
The demonstration: a fixed expression, and its operators and operands in the order
in which they are applied from the root down.

* `Demo.expression` — the expression;
* `Demo.report` — what the program writes, and where;
* `Report` — the two texts and the exit code of a program.
-/
import ShuntingYard.Diagnostic
import ShuntingYard.Parse
import ShuntingYard.Tree.Order

namespace ShuntingYard

/-- What a program writes to its two outputs, and its exit code. -/
structure Report where
  output : String
  errors : String
  code : UInt8
  deriving DecidableEq, Repr

namespace Demo

/-- The expression that is shown. -/
def expression : String := "3 - 4 + 5"

/-- Lists the values of the tree on one line, or shows the diagnostic of the
failure and reports it. -/
def report : Report :=
  match parse expression with
  | .ok tree => ⟨String.intercalate " " tree.preOrder ++ "\n", "", 0⟩
  | .error failure => ⟨"", failure.diagnostic, 1⟩

end Demo

end ShuntingYard
