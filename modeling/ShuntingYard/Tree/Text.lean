/-
Trees as text: bracketed on one line, or drawn one node per line.

* `Tree.bracketed` — the expression with every application of an operator in
  parentheses, so that reading it back needs no ranks;
* `Tree.drawing` — the drawing, in which every node stands below its operator,
  the left operand behind a branching stroke and the right one behind a corner:

      (+)
       ├(2)
       └(*)
         ├(3)
         └(4)
-/
import ShuntingYard.Tree

namespace ShuntingYard.Tree

/-- The expression with parentheses around every operator and its operands. -/
def bracketed : Tree → String
  | leaf value => value
  | node value left right =>
    "( " ++ left.bracketed ++ " " ++ value ++ " " ++ right.bracketed ++ " )"

/-- The drawing of a tree whose lines but the first are indented by `margin`.
Next to a left operand the stroke down to the right one goes on. -/
def drawingIn (margin : String) : Tree → String
  | leaf value => "(" ++ value ++ ")\n"
  | node value left right =>
    "(" ++ value ++ ")\n" ++
      margin ++ " ├" ++ left.drawingIn (margin ++ " │") ++
      margin ++ " └" ++ right.drawingIn (margin ++ "  ")

/-- The drawing of a tree, one node per line. -/
def drawing (tree : Tree) : String := tree.drawingIn ""

end ShuntingYard.Tree
