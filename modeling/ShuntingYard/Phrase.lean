/-
Phrases: expressions by their structure, and the trees that they stand for.

A phrase is a row of parts with operators between them, and a part is an operand
or a phrase in parentheses.  Its tree is given here without any stack, by joining
the row.

* `Phrase`, `Part` — the structure of an expression;
* `Phrase.tokens` — the expression that is spelled by a phrase;
* `Phrase.tree` — the tree of a phrase.
-/
import ShuntingYard.Row
import ShuntingYard.Token
import ShuntingYard.Tree

namespace ShuntingYard

mutual

/-- Parts in a row, with an operator between each two of them. -/
inductive Phrase where
  | single (part : Part)
  | chain (part : Part) (symbol : String) (binding : Binding) (rest : Phrase)

/-- An operand, or a phrase in parentheses. -/
inductive Part where
  | operand (text : String)
  | group (inner : Phrase)

end

/-! ### Tokens -/

mutual

/-- The tokens that spell a phrase. -/
def Phrase.tokens : Phrase → List Token
  | .single part => part.tokens
  | .chain part symbol binding rest => part.tokens ++ .operator symbol binding :: rest.tokens

/-- The tokens that spell a part. -/
def Part.tokens : Part → List Token
  | .operand text => [.operand text]
  | .group inner => .openParen :: (inner.tokens ++ [.closeParen])

end

/-! ### Trees -/

mutual

/-- The tree of the first part, and the operators with the trees behind it. -/
def Phrase.row : Phrase → Tree × List (Link Tree)
  | .single part => (part.tree, [])
  | .chain part symbol binding rest =>
    (part.tree, ⟨symbol, binding, rest.row.1⟩ :: rest.row.2)

/-- The tree of a part.  Parentheses leave no trace in it. -/
def Part.tree : Part → Tree
  | .operand text => .leaf text
  | .group inner => joinLinks .node inner.row.1 inner.row.2

end

/-- The tree of a phrase. -/
def Phrase.tree (phrase : Phrase) : Tree := joinLinks .node phrase.row.1 phrase.row.2

/-! ### Small cases -/

/-- The tree of a part alone is that of the part. -/
theorem Phrase.tree_single (part : Part) : (Phrase.single part).tree = part.tree := by
  simp [Phrase.tree, Phrase.row]

/-- Parentheses around a whole phrase do not change its tree. -/
theorem Phrase.tree_group (phrase : Phrase) :
    (Phrase.single (.group phrase)).tree = phrase.tree := by
  rw [Phrase.tree_single, Part.tree, Phrase.tree]

/-- An operator between two parts joins their trees. -/
theorem Phrase.tree_pair (left right : Part) (symbol : String) (binding : Binding) :
    (Phrase.chain left symbol binding (.single right)).tree =
      .node symbol left.tree right.tree := by
  have hroot : rootIndex [binding] = 0 := by
    obtain ⟨hlt, -⟩ := rootIndex_spec (List.cons_ne_nil binding [])
    exact Nat.lt_one_iff.1 hlt
  have hsplit : splitRoot? [(⟨symbol, binding, right.tree⟩ : Link Tree)] =
      some ([], ⟨symbol, binding, right.tree⟩, []) := by
    simp [splitRoot?, hroot]
  simp only [Phrase.tree, Phrase.row]
  rw [joinLinks_of_splitRoot?_eq_some hsplit, joinLinks_nil, joinLinks_nil]

end ShuntingYard
