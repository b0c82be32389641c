/-
The three listings of a tree.

All three hold the same values, each as often as it occurs in the tree.  Between its operands
every operator separates two operands, so operands and operators take turns there, and the
operands come first and last: there is always one more of them.

* `Tree.listing_perm` — every listing holds the operands and the operators;
* `Tree.length_listing`, `Tree.odd_size` — how many values there are;
* `Tree.getElem?_inOrder` — the operands stand at the even places and the operators at the odd
  ones;
* `Tree.listings_coherent` — how the listings are related.
-/
import Mathlib.Algebra.Ring.Parity
import ShuntingYard.Tree.Mirror

namespace ShuntingYard

/-- In any order there is the value, and there are the values of both operands. -/
theorem Order.arrange_perm (order : Order) (value : String) (left right : List String) :
    (order.arrange value left right).Perm (value :: (left ++ right)) := by
  cases order with
  | before => exact .refl _
  | between => exact List.perm_middle
  | after => exact List.perm_append_singleton _ _

/-- Behind a value in a list the places are counted from the next one. -/
theorem getElem?_append_cons_add (before : List String) (value : String) (after : List String)
    (k : Nat) : (before ++ value :: after)[before.length + 1 + k]? = after[k]? := by
  rw [Nat.add_assoc, List.getElem?_append_right (Nat.le_add_right _ _), Nat.add_sub_cancel_left,
    Nat.add_comm, List.getElem?_cons_succ]

namespace Tree

/-! ### The same values -/

/-- Every listing holds the operands and the operators, each as often as it occurs in the tree. -/
theorem listing_perm (tree : Tree) (order : Order) :
    (tree.listing order).Perm (tree.leaves ++ tree.symbols) := by
  induction tree with
  | leaf value =>
    rw [listing_leaf]
    exact .refl _
  | node value left right ihl ihr =>
    rw [listing_node, leaves, symbols]
    have hoperands : (left.listing order ++ right.listing order).Perm
        ((left.leaves ++ right.leaves) ++ (left.symbols ++ right.symbols)) := by
      refine (ihl.append ihr).trans ?_
      rw [List.append_assoc, List.append_assoc]
      exact (List.perm_append_comm_assoc _ _ _).append_left _
    have hplace : ((left.leaves ++ right.leaves) ++ (left.symbols ++ value :: right.symbols)).Perm
        (value :: ((left.leaves ++ right.leaves) ++ (left.symbols ++ right.symbols))) :=
      (List.perm_middle.append_left _).trans List.perm_middle
    exact (order.arrange_perm _ _ _).trans ((hoperands.cons value).trans hplace.symm)

/-- A value is listed exactly if it is an operand or an operator of the tree. -/
theorem mem_listing_iff (tree : Tree) (order : Order) {value : String} :
    value ∈ tree.listing order ↔ value ∈ tree.leaves ∨ value ∈ tree.symbols := by
  rw [(tree.listing_perm order).mem_iff, List.mem_append]

theorem length_listing (tree : Tree) (order : Order) :
    (tree.listing order).length = tree.size := by
  rw [(tree.listing_perm order).length_eq, List.length_append, size_eq_length_add_length]

/-- There is one operand more than there are operators. -/
theorem size_eq_two_mul_add_one (tree : Tree) : tree.size = 2 * tree.symbols.length + 1 := by
  rw [size_eq_length_add_length, length_leaves]
  omega

theorem listing_ne_nil (tree : Tree) (order : Order) : tree.listing order ≠ [] := by
  intro hnil
  have hlength := tree.length_listing order
  rw [hnil, size_eq_two_mul_add_one] at hlength
  cases hlength

theorem odd_size (tree : Tree) : Odd tree.size :=
  ⟨tree.symbols.length, tree.size_eq_two_mul_add_one⟩

/-! ### Operands and operators take turns -/

/-- Between its operands an operator stands at an odd place, and an operand at an even one. -/
theorem getElem?_inOrder (tree : Tree) (i : Nat) :
    tree.inOrder[2 * i]? = tree.leaves[i]? ∧ tree.inOrder[2 * i + 1]? = tree.symbols[i]? := by
  induction tree generalizing i with
  | leaf value => cases i <;> exact ⟨rfl, rfl⟩
  | node value left right ihl ihr =>
    have hlength : left.inOrder.length = 2 * left.symbols.length + 1 :=
      (left.length_listing .between).trans left.size_eq_two_mul_add_one
    have hleaves := left.length_leaves
    rw [inOrder, leaves, symbols]
    constructor
    · by_cases hi : i < left.leaves.length
      · rw [List.getElem?_append_left (by omega), List.getElem?_append_left hi]
        exact (ihl i).1
      · obtain ⟨j, rfl⟩ := Nat.exists_eq_add_of_le (Nat.not_lt.1 hi)
        have hplace : 2 * (left.leaves.length + j) = left.inOrder.length + 1 + 2 * j := by omega
        rw [hplace, getElem?_append_cons_add, List.getElem?_append_right (Nat.le_add_right _ _),
          Nat.add_sub_cancel_left]
        exact (ihr j).1
    · rcases Nat.lt_trichotomy i left.symbols.length with hlt | rfl | hgt
      · rw [List.getElem?_append_left (by omega), List.getElem?_append_left hlt]
        exact (ihl i).2
      · -- This is the operator of the node itself.
        rw [← hlength, List.getElem?_append_right (Nat.le_refl _),
          List.getElem?_append_right (Nat.le_refl _), Nat.sub_self, Nat.sub_self]
        rfl
      · obtain ⟨j, rfl⟩ := Nat.exists_eq_add_of_le hgt
        have hplace : 2 * (left.symbols.length + 1 + j) + 1 =
            left.inOrder.length + 1 + (2 * j + 1) := by omega
        rw [hplace, getElem?_append_cons_add, Nat.succ_eq_add_one, getElem?_append_cons_add]
        exact (ihr j).2

/-- All listings have a value for each node, and they are permutations of each other.  Between
their operands the operators stand at the odd places, and the operands at the even ones.
The listing with the operators behind their operands is, read backwards, that of the mirror
image with the operators in front. -/
theorem listings_coherent (tree : Tree) :
    (∀ order, (tree.collect order #[]).toList = tree.listing order ∧
        (tree.listing order).length = tree.size ∧
        ∀ order', (tree.listing order).Perm (tree.listing order')) ∧
      Odd tree.size ∧
      (∀ i, tree.inOrder[2 * i]? = tree.leaves[i]? ∧
        tree.inOrder[2 * i + 1]? = tree.symbols[i]?) ∧
      tree.postOrder.reverse = tree.mirror.preOrder := by
  refine ⟨fun order => ⟨?_, tree.length_listing order, fun order' => ?_⟩, tree.odd_size,
    tree.getElem?_inOrder, tree.reverse_listing .after⟩
  · rw [toList_collect]
    rfl
  · exact (tree.listing_perm order).trans (tree.listing_perm order').symm

end Tree

end ShuntingYard
