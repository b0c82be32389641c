/-
Binding: how strongly an operator holds its operands, and from which side.

Of two operators that compete for the operand between them, the one of higher
rank gets it.  Between equal ranks the operator on the right decides: if it
groups to the left, the operator in front of it takes the operand first.

* `Associativity`, `Binding` — the side and the strength of an operator;
* `Binding.reducesBefore` — which of two operators in a row takes its operands
  first;
* `Precedence` — the ranks with one more strength above all of them, which the
  parentheses have.
-/

namespace ShuntingYard

/-- The side from which operators of equal rank are grouped. -/
inductive Associativity where
  | left
  | right
  deriving DecidableEq, Repr

/-- The strength of an operator and the side from which it groups. -/
structure Binding where
  rank : Int
  associativity : Associativity
  deriving DecidableEq, Repr

namespace Binding

/-- Whether an operator bound by `top` takes its operands before an operator
behind it that is bound by `incoming`. -/
def reducesBefore (top incoming : Binding) : Bool :=
  match incoming.associativity with
  | .left => incoming.rank ≤ top.rank
  | .right => incoming.rank < top.rank

/-- The one in front goes first if its rank is higher, or if the ranks are equal
and the one behind groups to the left. -/
theorem reducesBefore_eq_true_iff {top incoming : Binding} :
    top.reducesBefore incoming = true ↔
      incoming.rank < top.rank ∨
        incoming.rank = top.rank ∧ incoming.associativity = .left := by
  unfold reducesBefore
  cases incoming.associativity with
  | left =>
    simp only [decide_eq_true_eq, and_true]
    omega
  | right => simp

/-- What goes before an operator goes before all that this operator goes before. -/
theorem reducesBefore_trans {a b c : Binding} (hab : a.reducesBefore b = true)
    (hbc : b.reducesBefore c = true) : a.reducesBefore c = true := by
  rw [reducesBefore_eq_true_iff] at hab hbc ⊢
  rcases hab with hab | ⟨hab, -⟩
  · rcases hbc with hbc | ⟨hbc, -⟩
    · exact Or.inl (by omega)
    · exact Or.inl (by omega)
  · rw [← hab]
    exact hbc

/-- The one in front waits if its rank is lower, or if the ranks are equal and the one
behind groups to the right. -/
theorem reducesBefore_eq_false_iff {top incoming : Binding} :
    top.reducesBefore incoming = false ↔
      top.rank ≤ incoming.rank ∧
        (top.rank = incoming.rank → incoming.associativity = .right) := by
  unfold reducesBefore
  cases incoming.associativity with
  | left =>
    simp only [decide_eq_false_iff_not, reduceCtorEq, imp_false]
    omega
  | right => simp

/-- What waits for an operator waits for all that this operator waits for. -/
theorem reducesBefore_eq_false_trans {a b c : Binding} (hab : a.reducesBefore b = false)
    (hbc : b.reducesBefore c = false) : a.reducesBefore c = false := by
  rw [reducesBefore_eq_false_iff] at hab hbc ⊢
  obtain ⟨hab, -⟩ := hab
  obtain ⟨hbc, hside⟩ := hbc
  -- The rank between two equal ones is the same.
  exact ⟨Int.le_trans hab hbc, fun hac => hside (Int.le_antisymm hbc (hac ▸ hab))⟩

end Binding

/-- The strength of a symbol.  The parentheses stand above every rank. -/
inductive Precedence where
  | rank (value : Int)
  | parenthesis
  deriving DecidableEq, Repr

namespace Precedence

/-- Ranks are ordered by their value, and the parentheses come after them. -/
protected def compare : Precedence → Precedence → Ordering
  | rank a, rank b => Ord.compare a b
  | rank _, parenthesis => .lt
  | parenthesis, rank _ => .gt
  | parenthesis, parenthesis => .eq

instance : Ord Precedence := ⟨Precedence.compare⟩

instance : LT Precedence := ltOfOrd

theorem rank_lt_parenthesis (value : Int) : rank value < parenthesis := rfl

theorem rank_lt_rank_iff {a b : Int} : rank a < rank b ↔ a < b := by
  show Ord.compare a b = .lt ↔ a < b
  exact Int.compare_eq_lt

end Precedence

end ShuntingYard
