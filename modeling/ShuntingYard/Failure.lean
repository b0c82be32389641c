/-
Failures: why an expression could not be parsed, and where.

* `Cause` — the four reasons;
* `Fault` — a cause with the span that it talks about;
* `Failure` — a fault together with the expression in which it was found;
* `Cause.name`, `Cause.message`, `Cause.tip?` — the texts that belong to a cause;
* `Failure.message` — the text that belongs to a failure.
-/
import ShuntingYard.Quoted
import ShuntingYard.Span

namespace ShuntingYard

/-- Why an expression could not be parsed. -/
inductive Cause where
  /-- A word is neither an operator nor an operand. -/
  | unrecognisedToken (token : String)
  /-- A parenthesis has no partner. -/
  | unbalancedParentheses (symbol : String)
  /-- Some other number of trees than one was left at the end. -/
  | malformedExpression (operands : Nat)
  /-- An operator has fewer than two operands. -/
  | missingOperand (operator : String)
  deriving DecidableEq, Repr

namespace Cause

/-- The name of the kind of cause. -/
def name : Cause → String
  | unrecognisedToken _ => "UnrecognisedToken"
  | unbalancedParentheses _ => "UnbalancedParentheses"
  | malformedExpression _ => "MalformedExpression"
  | missingOperand _ => "MissingOperand"

/-- The text that tells what went wrong. -/
def message : Cause → String
  | unrecognisedToken token => "cannot parse token " ++ quote token
  | unbalancedParentheses symbol => "unbalanced parentheses at " ++ quote symbol
  | malformedExpression operands =>
    "malformed expression: expected exactly one tree, found " ++ toString operands
  | missingOperand operator =>
    "malformed expression: operator " ++ quote operator ++ " is missing an operand"

/-- A hint on how to mend the expression, where there is one. -/
def tip? : Cause → Option String
  | unrecognisedToken token =>
    some ("`" ++ token ++
      "` is neither an operator nor an operand, is it separated by whitespace?")
  | unbalancedParentheses symbol => some ("`" ++ symbol ++ "` has no matching parenthesis")
  | malformedExpression 0 => some "The expression contains no operands"
  | malformedExpression operands =>
    some (toString operands ++ " operands are left without an operator joining them")
  | missingOperand _ => none

/-- Whether the operands and the operators do not match in number. -/
def isMalformed : Cause → Bool
  | malformedExpression _ | missingOperand _ => true
  | unrecognisedToken _ | unbalancedParentheses _ => false

end Cause

/-- A cause and the span of the text that it talks about. -/
structure Fault where
  cause : Cause
  span : Span
  deriving DecidableEq, Repr

/-- A fault and the expression in which it was found. -/
structure Failure extends Fault where
  expression : String
  deriving DecidableEq, Repr

/-- The text that tells which expression failed, and why. -/
def Failure.message (failure : Failure) : String :=
  "unable to parse '" ++ failure.expression ++ "': " ++ failure.cause.message

end ShuntingYard
