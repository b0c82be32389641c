/-
Nestings: tokens by their parentheses alone.

Between matching parentheses, operands and operators may stand in any arrangement.
They are applied in an order that is told from whole rows all the same: a row is cut
at its operators, any number of operands may stand between two of them, and the order
is that of the joined row.

* `Nesting` — tokens whose parentheses match;
* `Nesting.tokens` — the tokens that spell a nesting;
* `Nesting.entries` — its operands and operators in the order in which they are applied.
-/
import ShuntingYard.ReversePolish
import ShuntingYard.Row

namespace ShuntingYard

open ReversePolish (Entry)

/-- Two runs of operands and operators, and the operator that is applied after both. -/
def ReversePolish.applied (symbol : String) (left right : List Entry) : List Entry :=
  left ++ right ++ [.operator symbol]

/-- Tokens whose parentheses match, in any arrangement. -/
inductive Nesting where
  | nil
  | operand (text : String) (rest : Nesting)
  | operator (symbol : String) (binding : Binding) (rest : Nesting)
  | group (inner rest : Nesting)

namespace Nesting

/-- The tokens that spell a nesting. -/
def tokens : Nesting → List Token
  | nil => []
  | operand text rest => .operand text :: rest.tokens
  | operator symbol binding rest => .operator symbol binding :: rest.tokens
  | group inner rest => .openParen :: (inner.tokens ++ .closeParen :: rest.tokens)

/-- What stands in front of the first operator outside of groups, and the operators
with what stands behind them. -/
def row : Nesting → List Entry × List (Link (List Entry))
  | nil => ([], [])
  | operand text rest => (.operand text :: rest.row.1, rest.row.2)
  | operator symbol binding rest => ([], ⟨symbol, binding, rest.row.1⟩ :: rest.row.2)
  | group inner rest =>
    (joinLinks ReversePolish.applied inner.row.1 inner.row.2 ++ rest.row.1, rest.row.2)

/-- The operands and operators in the order in which they are applied. -/
def entries (nesting : Nesting) : List Entry :=
  joinLinks ReversePolish.applied nesting.row.1 nesting.row.2

end Nesting

end ShuntingYard
