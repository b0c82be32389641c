/-
The three orders in which the values of a tree are listed.

* `Order` — an operator before, between or after its operands;
* `Order.name`, `Order.ofName` — the name of an order, and the order of a name;
* `Tree.preOrder`, `Tree.inOrder`, `Tree.postOrder` — the three listings;
* `Tree.listing` — the listing in a given order;
* `Order.arrange` — an operator and the listings of its operands put together;
* `Tree.collect` — one pass that pushes the values in a given order;
* `Tree.toList_collect` — what it pushes is the listing.
-/
import ShuntingYard.Tree

namespace ShuntingYard

/-- Where an operator stands relative to its operands. -/
inductive Order where
  | before
  | between
  | after
  deriving DecidableEq, Repr

/-- A name that no order has. -/
structure UnknownOrder where
  name : String
  deriving DecidableEq, Repr

/-- The text that tells of the unknown name. -/
def UnknownOrder.message (error : UnknownOrder) : String :=
  "unknown traversal order `" ++ error.name ++ "`"

namespace Order

/-- The name of an order. -/
def name : Order → String
  | before => "pre"
  | between => "in"
  | after => "post"

/-- The order of a name, which has to be spelled exactly. -/
def ofName (name : String) : Except UnknownOrder Order :=
  if name = "pre" then .ok before
  else if name = "in" then .ok between
  else if name = "post" then .ok after
  else .error ⟨name⟩

/-- A value put in its place among the listings of the two operands. -/
def arrange (value : String) (left right : List String) : Order → List String
  | before => value :: (left ++ right)
  | between => left ++ value :: right
  | after => left ++ right ++ [value]

/-- The names that are understood are those of the three orders. -/
theorem ofName_eq_ok_iff {name : String} {order : Order} :
    ofName name = .ok order ↔ name = order.name := by
  constructor
  · intro h
    unfold ofName at h
    split at h
    · rename_i hname
      cases h
      exact hname
    · split at h
      · rename_i hname
        cases h
        exact hname
      · split at h
        · rename_i hname
          cases h
          exact hname
        · cases h
  · rintro rfl
    cases order <;> rfl

end Order

namespace Tree

/-- The values, each operator before its operands. -/
def preOrder : Tree → List String
  | leaf value => [value]
  | node value left right => value :: (left.preOrder ++ right.preOrder)

/-- The values, each operator between its operands. -/
def inOrder : Tree → List String
  | leaf value => [value]
  | node value left right => left.inOrder ++ value :: right.inOrder

/-- The values, each operator after its operands. -/
def postOrder : Tree → List String
  | leaf value => [value]
  | node value left right => left.postOrder ++ right.postOrder ++ [value]

/-- The values in the given order. -/
def listing (tree : Tree) : Order → List String
  | .before => tree.preOrder
  | .between => tree.inOrder
  | .after => tree.postOrder

theorem listing_leaf (value : String) (order : Order) : (leaf value).listing order = [value] := by
  cases order <;> rfl

/-- An operator is listed with the listings of its operands. -/
theorem listing_node (value : String) (left right : Tree) (order : Order) :
    (node value left right).listing order =
      order.arrange value (left.listing order) (right.listing order) := by
  cases order <;> rfl

/-- The values pushed in the given order behind those that are there. -/
def collect (order : Order) : Tree → Array String → Array String
  | leaf value, values => values.push value
  | node value left right, values =>
    match order with
    | .before => right.collect order (left.collect order (values.push value))
    | .between => right.collect order ((left.collect order values).push value)
    | .after => (right.collect order (left.collect order values)).push value

/-- A pass over the tree adds the listing, and leaves in place what is there. -/
theorem toList_collect (order : Order) (tree : Tree) (values : Array String) :
    (tree.collect order values).toList = values.toList ++ tree.listing order := by
  induction tree generalizing values with
  | leaf value => rw [listing_leaf, collect, Array.toList_push]
  | node value left right ihl ihr =>
    rw [listing_node]
    cases order with
    | before => simp [collect, ihl, ihr, Order.arrange]
    | between => simp [collect, ihl, ihr, Order.arrange]
    | after => simp [collect, ihl, ihr, Order.arrange]

end Tree

end ShuntingYard
