/-
Substitution: other trees in the places of the leaves.

The leaves of a tree are counted from the left, beginning with zero.

* `Tree.substitute` — a tree in which each leaf is exchanged for a tree that
  depends on its place;
* `Tree.replaceLeaf` — one leaf exchanged for a tree;
* `Tree.relabel` — every leaf given another text;
* `Tree.substitute_leaf`, `Tree.leaves_relabel` — nothing changes if every leaf is
  put back, and the new texts are the leaves of the new tree.
-/
import ShuntingYard.Tree

namespace ShuntingYard.Tree

/-- The tree in which the leaf at each place, counted from `start`, is exchanged
for what `f` gives for its place and its value. -/
def substituteFrom (f : Nat → String → Tree) (start : Nat) : Tree → Tree
  | leaf value => f start value
  | node value left right =>
    node value (left.substituteFrom f start)
      (right.substituteFrom f (start + left.leaves.length))

/-- The tree in which each leaf is exchanged for what `f` gives for its place and
its value. -/
def substitute (tree : Tree) (f : Nat → String → Tree) : Tree := tree.substituteFrom f 0

/-- The tree in which the leaf at the place `k` is exchanged for `other`. -/
def replaceLeaf (tree : Tree) (k : Nat) (other : Tree) : Tree :=
  tree.substitute fun place value => if place = k then other else leaf value

/-- The tree in which the leaf at each place has the text of that place. -/
def relabel (tree : Tree) (texts : Nat → String) : Tree :=
  tree.substitute fun place _ => leaf (texts place)

theorem substituteFrom_leaf (tree : Tree) (start : Nat) :
    tree.substituteFrom (fun _ value => leaf value) start = tree := by
  induction tree generalizing start with
  | leaf value => rfl
  | node value left right ihl ihr => rw [substituteFrom, ihl, ihr]

/-- Nothing changes if every leaf is put back in its place. -/
theorem substitute_leaf (tree : Tree) : tree.substitute (fun _ value => leaf value) = tree :=
  substituteFrom_leaf tree 0

theorem leaves_substituteFrom (f : Nat → String → Tree) (tree : Tree) (start : Nat) :
    (tree.substituteFrom f start).leaves =
      (tree.leaves.zipIdx start).flatMap fun entry => (f entry.2 entry.1).leaves := by
  induction tree generalizing start with
  | leaf value => simp [substituteFrom, leaves]
  | node value left right ihl ihr =>
    rw [substituteFrom, leaves, leaves, ihl, ihr, List.zipIdx_append, List.flatMap_append]

/-- The new texts are the leaves of the new tree. -/
theorem leaves_relabel (tree : Tree) (texts : Nat → String) :
    (tree.relabel texts).leaves = (List.range tree.leaves.length).map texts := by
  rw [relabel, substitute, leaves_substituteFrom]
  simp only [leaves]
  rw [← List.map_eq_flatMap, List.range_eq_range', ← List.zipIdx_map_snd, List.map_map]
  rfl

end ShuntingYard.Tree
