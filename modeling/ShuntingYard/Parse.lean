/-
Parsing: the tree of an expression under a grammar.

* `Grammar.run` — the lexemes of an expression go through the yard, and the start
  and the end are noted;
* `Grammar.parse` — the tree, or the failure;
* `Grammar.log` — the events on the way to it;
* `parse` — the tree of an arithmetic expression.
-/
import ShuntingYard.Yard

namespace ShuntingYard

namespace Grammar

/-- The tree of an expression, or what is at fault, with the events on the way. -/
def run (g : Grammar) (expression : String) : Traced Tree := do
  Traced.note (.parsing expression)
  let yard ← (lexemes expression).foldlM (Yard.read g) Yard.empty
  let tree ← yard.finish ⟨0, expression.utf8ByteSize⟩
  Traced.note (.parsed expression tree.size)
  return tree

/-- The tree of an expression, or the failure to find one. -/
def parse (g : Grammar) (expression : String) : Except Failure Tree :=
  (g.run expression).outcome.mapError fun fault => ⟨fault, expression⟩

/-- The events noted while an expression is parsed. -/
def log (g : Grammar) (expression : String) : List Event := (g.run expression).events

end Grammar

/-- The tree of an arithmetic expression, or the failure to find one. -/
def parse (expression : String) : Except Failure Tree := Grammar.standard.parse expression

end ShuntingYard
