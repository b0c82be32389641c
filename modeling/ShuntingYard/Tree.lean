/-
Trees of expressions.

A tree is an operand alone, or an operator over the trees of its two operands.

* `Tree` — the type;
* `Tree.ofChildren` — a leaf or a node, from optional subtrees;
* `Tree.value`, `Tree.children?`, `Tree.left?`, `Tree.right?`, `Tree.isLeaf` — the
  parts of a tree;
* `Tree.size`, `Tree.depth` — the number of its nodes and of its levels;
* `Tree.leaves`, `Tree.symbols` — the operands and the operators that it holds.
-/
import ShuntingYard.Quoted

namespace ShuntingYard

/-- An operand, or an operator with the trees of its left and right operand. -/
inductive Tree where
  | leaf (value : String)
  | node (value : String) (left right : Tree)
  deriving DecidableEq, Repr, Inhabited

/-- A tree was to get one subtree without the other. -/
structure MissingChild where
  value : String
  deriving DecidableEq, Repr

/-- The text that tells of the missing subtree. -/
def MissingChild.message (error : MissingChild) : String :=
  "node " ++ quote error.value ++ " must have either both children or neither"

namespace Tree

/-- A leaf if there are no subtrees, and a node if there are two. -/
def ofChildren (value : String) : Option Tree → Option Tree → Except MissingChild Tree
  | none, none => .ok (leaf value)
  | some left, some right => .ok (node value left right)
  | _, _ => .error ⟨value⟩

/-- The operand or operator at the root. -/
def value : Tree → String
  | leaf value => value
  | node value _ _ => value

/-- The two subtrees of a node. -/
def children? : Tree → Option (Tree × Tree)
  | leaf _ => none
  | node _ left right => some (left, right)

/-- The left subtree of a node. -/
def left? (tree : Tree) : Option Tree := tree.children?.map Prod.fst

/-- The right subtree of a node. -/
def right? (tree : Tree) : Option Tree := tree.children?.map Prod.snd

/-- Whether the tree is an operand alone. -/
def isLeaf (tree : Tree) : Bool := tree.children?.isNone

/-- The number of operands and operators. -/
def size : Tree → Nat
  | leaf _ => 1
  | node _ left right => 1 + left.size + right.size

/-- The number of levels; an operand alone has one. -/
def depth : Tree → Nat
  | leaf _ => 1
  | node _ left right => 1 + max left.depth right.depth

/-- The operands, from left to right. -/
def leaves : Tree → List String
  | leaf value => [value]
  | node _ left right => left.leaves ++ right.leaves

/-- The operators, from left to right. -/
def symbols : Tree → List String
  | leaf _ => []
  | node value left right => left.symbols ++ value :: right.symbols

/-- There is always one operand more than there are operators. -/
theorem length_leaves (tree : Tree) : tree.leaves.length = tree.symbols.length + 1 := by
  induction tree with
  | leaf value => rfl
  | node value left right ihl ihr =>
    simp only [leaves, symbols, List.length_append, List.length_cons]
    omega

/-- The size counts the operands and the operators. -/
theorem size_eq_length_add_length (tree : Tree) :
    tree.size = tree.leaves.length + tree.symbols.length := by
  induction tree with
  | leaf value => rfl
  | node value left right ihl ihr =>
    simp only [size, leaves, symbols, List.length_append, List.length_cons]
    omega

end Tree

end ShuntingYard
