/-
Trees with left and right exchanged.

Read backwards, a listing of a tree is a listing of its mirror image.  What stood before
its operands stands behind them then, and what stood between them stays between them.

* `Tree.mirror` — the two operands of every operator exchanged;
* `Order.reversed` — the order that is met when a listing is read backwards;
* `Tree.mirror_injective` — no tree is lost by the exchange;
* `Tree.reverse_listing` — each listing read backwards.
-/
import ShuntingYard.Tree.Order

namespace ShuntingYard

namespace Order

/-- Where an operator stands if its listing is read from the end. -/
def reversed : Order → Order
  | before => after
  | between => between
  | after => before

theorem reverse_arrange (order : Order) (value : String) (left right : List String) :
    (order.arrange value left right).reverse =
      order.reversed.arrange value right.reverse left.reverse := by
  cases order <;> simp [arrange, reversed]

end Order

namespace Tree

/-- The tree with the two operands of every operator exchanged. -/
def mirror : Tree → Tree
  | leaf value => leaf value
  | node value left right => node value right.mirror left.mirror

@[simp]
theorem mirror_mirror (tree : Tree) : tree.mirror.mirror = tree := by
  induction tree with
  | leaf value => rfl
  | node value left right ihl ihr => rw [mirror, mirror, ihl, ihr]

/-- Different trees have different mirror images. -/
theorem mirror_injective {tree tree' : Tree} (h : tree.mirror = tree'.mirror) : tree = tree' := by
  rw [← tree.mirror_mirror, h, mirror_mirror]

@[simp]
theorem leaves_mirror (tree : Tree) : tree.mirror.leaves = tree.leaves.reverse := by
  induction tree with
  | leaf value => rfl
  | node value left right ihl ihr => rw [mirror, leaves, leaves, ihl, ihr, List.reverse_append]

@[simp]
theorem symbols_mirror (tree : Tree) : tree.mirror.symbols = tree.symbols.reverse := by
  induction tree with
  | leaf value => rfl
  | node value left right ihl ihr => simp [mirror, symbols, ihl, ihr]

/-- A listing read backwards is a listing of the mirror image. -/
theorem reverse_listing (tree : Tree) (order : Order) :
    (tree.listing order).reverse = tree.mirror.listing order.reversed := by
  induction tree with
  | leaf value => rw [mirror, listing_leaf, listing_leaf, List.reverse_singleton]
  | node value left right ihl ihr =>
    rw [mirror, listing_node, listing_node, Order.reverse_arrange, ihl, ihr]

end Tree

end ShuntingYard
