/-
Paths: the way from the root of a tree down to each of its nodes.

* `Side` — a step to the left or to the right operand;
* `Tree.paths` — the nodes of a tree, each with its path, every operator before
  its operands;
* `Tree.descend?` — the subtree at the end of a path;
* `Tree.mem_paths_iff` — the nodes that are listed are the roots of these subtrees;
* `Tree.margin` — what the drawing of a tree puts in front of the node at the end
  of a path.
-/
import ShuntingYard.Tree.Order

namespace ShuntingYard

/-- A step down from an operator to one of its operands. -/
inductive Side where
  | left
  | right
  deriving DecidableEq, Repr

namespace Tree

/-- Every node with the steps that lead to it from the root. -/
def paths : Tree → List (List Side × String)
  | leaf value => [([], value)]
  | node value left right =>
    ([], value) ::
      (left.paths.map (fun entry => (.left :: entry.1, entry.2)) ++
        right.paths.map (fun entry => (.right :: entry.1, entry.2)))

/-- The subtree to which the steps lead, if there are nodes for all of them. -/
def descend? (tree : Tree) : List Side → Option Tree
  | [] => some tree
  | .left :: path => tree.left?.bind fun left => left.descend? path
  | .right :: path => tree.right?.bind fun right => right.descend? path

/-- What the drawing puts in front of the node at the end of a path: a stroke for
each left operand that it passes, a gap for each right one, and a branch or a
corner for the last step. -/
def margin : List Side → String
  | [] => ""
  | [.left] => " ├"
  | [.right] => " └"
  | .left :: path => " │" ++ margin path
  | .right :: path => "  " ++ margin path

/-- Without their paths, the nodes are listed each operator before its operands. -/
theorem map_snd_paths (tree : Tree) : tree.paths.map Prod.snd = tree.preOrder := by
  induction tree with
  | leaf value => rfl
  | node value left right ihl ihr =>
    simp only [paths, preOrder, List.map_cons, List.map_append, List.map_map, ← ihl, ← ihr]
    rfl

/-- The nodes are listed with the paths that lead to them. -/
theorem mem_paths_iff {tree : Tree} {path : List Side} {value : String} :
    (path, value) ∈ tree.paths ↔ (tree.descend? path).map Tree.value = some value := by
  induction tree generalizing path with
  | leaf own =>
    cases path with
    | nil => simp [paths, descend?, Tree.value, eq_comm]
    | cons side path => cases side <;> simp [paths, descend?, left?, right?, children?]
  | node own left right ihl ihr =>
    cases path with
    | nil => simp [paths, descend?, Tree.value, eq_comm]
    | cons side path =>
      cases side with
      | left => simp [paths, descend?, left?, children?, ihl]
      | right => simp [paths, descend?, right?, children?, ihr]

end Tree

end ShuntingYard
