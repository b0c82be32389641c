/-
Reverse Polish notation: every operator stands behind its operands.

In this order an expression needs no ranks and no parentheses, and a stack of
trees is enough to read it.  Ordinary notation is brought into it by sorting: the
operands go straight to the output, and the operators wait on a track of their
own until they are due.

* `ReversePolish.Entry` — an operand, or an operator;
* `ReversePolish.evaluate` — reads entries with a stack of trees;
* `ReversePolish.sort` — brings tokens into the order of the notation;
* `Tree.entries` — a tree in the notation;
* `ReversePolish.evaluate_entries` — reading a tree's entries gives the tree.
-/
import ShuntingYard.Token
import ShuntingYard.Tree.Order

namespace ShuntingYard

namespace ReversePolish

/-! ### Reading -/

/-- An operand, or an operator that is applied to what stands before it. -/
inductive Entry where
  | operand (text : String)
  | operator (symbol : String)
  deriving DecidableEq, Repr

/-- The text of an entry. -/
def Entry.text : Entry → String
  | operand text => text
  | operator symbol => symbol

/-- The trees that are left after the entries, the latest in front.  An operator
takes the two latest trees, and there have to be as many. -/
def evaluate : List Entry → List Tree → Option (List Tree)
  | [], trees => some trees
  | .operand text :: entries, trees => evaluate entries (.leaf text :: trees)
  | .operator symbol :: entries, right :: left :: trees =>
    evaluate entries (.node symbol left right :: trees)
  | .operator _ :: _, _ => none

/-- Entries are read one after the other. -/
theorem evaluate_append (before after : List Entry) (trees : List Tree) :
    evaluate (before ++ after) trees = (evaluate before trees).bind (evaluate after) := by
  induction before generalizing trees with
  | nil => rfl
  | cons entry before ih =>
    cases entry with
    | operand text => exact ih _
    | operator symbol =>
      match trees with
      | [] => rfl
      | [_] => rfl
      | right :: left :: trees => exact ih _

/-! ### Sorting -/

/-- What waits while tokens are sorted. -/
inductive Held where
  | openParen
  | operator (symbol : String) (binding : Binding)
  deriving DecidableEq, Repr

/-- What waits, the latest in front, and the output, the latest at the end. -/
structure Sorting where
  held : List Held
  output : List Entry
  deriving DecidableEq, Repr

/-- Sends the waiting operators that go before an operator bound by `incoming` to
the output, up to the first that does not. -/
def flushBefore (incoming : Binding) : List Held → List Entry → Sorting
  | .operator symbol binding :: held, output =>
    if binding.reducesBefore incoming then
      flushBefore incoming held (output ++ [.operator symbol])
    else
      ⟨.operator symbol binding :: held, output⟩
  | held, output => ⟨held, output⟩

/-- Sends the waiting operators to the output, up to the latest open parenthesis.
What waits in front of the parenthesis is given if there is one. -/
def flushGroup : List Held → List Entry → Option (List Held) × List Entry
  | [], output => (none, output)
  | .openParen :: held, output => (some held, output)
  | .operator symbol _ :: held, output => flushGroup held (output ++ [.operator symbol])

/-- The sorting after one more token, unless it closes what was not open. -/
def step (state : Sorting) : Token → Option Sorting
  | .operand text => some ⟨state.held, state.output ++ [.operand text]⟩
  | .openParen => some ⟨.openParen :: state.held, state.output⟩
  | .operator symbol binding =>
    let flushed := flushBefore binding state.held state.output
    some ⟨.operator symbol binding :: flushed.held, flushed.output⟩
  | .closeParen =>
    match flushGroup state.held state.output with
    | (some held, output) => some ⟨held, output⟩
    | (none, _) => none

/-- The tokens in the order of the notation, if their parentheses are balanced. -/
def sort (tokens : List Token) : Option (List Entry) := do
  let state ← tokens.foldlM step ⟨[], []⟩
  match flushGroup state.held state.output with
  | (some _, _) => none
  | (none, output) => some output

end ReversePolish

/-! ### Trees -/

/-- A tree in reverse Polish notation. -/
def Tree.entries : Tree → List ReversePolish.Entry
  | leaf value => [.operand value]
  | node value left right => left.entries ++ right.entries ++ [.operator value]

/-- The texts of the entries are the values, each operator after its operands. -/
theorem Tree.map_text_entries (tree : Tree) :
    tree.entries.map ReversePolish.Entry.text = tree.postOrder := by
  induction tree with
  | leaf value => rfl
  | node value left right ihl ihr =>
    simp only [entries, postOrder, List.map_append, ihl, ihr]
    rfl

/-- Reading the entries of a tree puts the tree on the stack. -/
theorem ReversePolish.evaluate_entries (tree : Tree) (rest : List Entry) (trees : List Tree) :
    evaluate (tree.entries ++ rest) trees = evaluate rest (tree :: trees) := by
  induction tree generalizing rest trees with
  | leaf value => rfl
  | node value left right ihl ihr =>
    simp only [Tree.entries, List.append_assoc, ihl, ihr]
    rfl

end ShuntingYard
