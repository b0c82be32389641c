/-
The shunting yard: waiting operators on one track, finished trees on the other.

The tokens of an expression come in from left to right.  An operand is a finished
tree at once.  An operator waits until it is known which operand on its right
belongs to it: until an operator arrives that does not bind more tightly, the
parenthesis around it is closed, or the expression ends.  Then it is reduced: it
takes the two latest trees as its operands and becomes a finished tree.  An open
parenthesis waits among the operators and holds back those in front of it.

* `Yard` — the two tracks, each with its latest entry first;
* `Yard.reduce` — an operator takes its operands;
* `Yard.reduceBefore` — the operators that go before an incoming one are reduced;
* `Yard.reduceGroup` — the operators behind the latest open parenthesis are
  reduced, and the parenthesis is taken away;
* `Yard.step`, `Yard.read` — the yard after one more token, or one more lexeme;
* `Yard.finish` — the tree of the expression.
-/
import ShuntingYard.Lexeme
import ShuntingYard.Traced
import ShuntingYard.Tree

namespace ShuntingYard

/-- What waits in the yard, with its place in the expression. -/
inductive Pending where
  | openParen (span : Span)
  | operator (symbol : String) (binding : Binding) (span : Span)
  deriving DecidableEq, Repr

/-- The waiting operators and parentheses and the finished trees, the latest of
each in front. -/
structure Yard where
  pending : List Pending
  trees : List Tree
  deriving DecidableEq, Repr

namespace Yard

/-- The yard before the first token. -/
def empty : Yard := ⟨[], []⟩

/-! ### Reductions -/

/-- The latest tree becomes the right operand and the one before it the left. -/
def reduce (symbol : String) (span : Span) : List Tree → Traced (List Tree)
  | right :: left :: trees => do
    Traced.note (.reducing left.value symbol right.value)
    return .node symbol left right :: trees
  | _ => Traced.fail (.missingOperand symbol) span

/-- Reduces the operators that take their operands before an operator bound by
`incoming`, up to the first that does not. -/
def reduceBefore (incoming : Binding) : List Pending → List Tree → Traced Yard
  | .operator symbol binding span :: pending, trees =>
    if binding.reducesBefore incoming then do
      let trees ← reduce symbol span trees
      reduceBefore incoming pending trees
    else
      return ⟨.operator symbol binding span :: pending, trees⟩
  | pending, trees => return ⟨pending, trees⟩

/-- Reduces all operators up to the latest open parenthesis and takes it away.  The
span is that of the parenthesis, if there was one. -/
def reduceGroup : List Pending → List Tree → Traced (Option Span × Yard)
  | [], trees => return (none, ⟨[], trees⟩)
  | .openParen span :: pending, trees => return (some span, ⟨pending, trees⟩)
  | .operator symbol _ span :: pending, trees => do
    let trees ← reduce symbol span trees
    reduceGroup pending trees

/-! ### Running -/

/-- The yard after a token that stands at `span`. -/
def step (yard : Yard) (token : Token) (span : Span) : Traced Yard :=
  match token with
  | .operand text => return ⟨yard.pending, .leaf text :: yard.trees⟩
  | .openParen => return ⟨.openParen span :: yard.pending, yard.trees⟩
  | .operator symbol binding => do
    let yard ← reduceBefore binding yard.pending yard.trees
    return ⟨.operator symbol binding span :: yard.pending, yard.trees⟩
  | .closeParen => do
    let (opened, yard) ← reduceGroup yard.pending yard.trees
    match opened with
    | some _ => return yard
    | none => Traced.fail (.unbalancedParentheses ")") span

/-- The yard after a lexeme that the grammar classifies. -/
def read (g : Grammar) (yard : Yard) (lexeme : Lexeme) : Traced Yard :=
  match g.classify lexeme.text with
  | none => Traced.fail (.unrecognisedToken lexeme.text) lexeme.span
  | some token => do
    Traced.note (.reading token lexeme.span)
    yard.step token lexeme.span

/-- The only tree that is left once every waiting operator has been reduced.  The
whole expression, at `whole`, is at fault if it leaves some other number. -/
def finish (yard : Yard) (whole : Span) : Traced Tree := do
  let (opened, yard) ← reduceGroup yard.pending yard.trees
  match opened with
  | some span => Traced.fail (.unbalancedParentheses "(") span
  | none =>
    match yard.trees with
    | [tree] => return tree
    | trees => Traced.fail (.malformedExpression trees.length) whole

end Yard

end ShuntingYard
