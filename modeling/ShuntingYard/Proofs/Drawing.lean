/-
The lines of a drawing.

Each node of a tree has a line in its drawing, and what stands in front of the node is told by
its path.  A subtree is drawn with a margin of its own, which is put in front of all its lines
but the first; the first one stands behind a stroke that the node above has drawn.  So the
path of a node in the subtree says what comes behind the margin, and the two are joined by
the first step of the longer path.

* `Tree.branch`, `Tree.stroke` — what a step adds to the line of the node that it leads to, and
  to the lines of the nodes below;
* `Tree.lineIn` — the line of a node in a drawing with a margin;
* `Tree.join_paths_below` — the lines of an operand, told from the node above it;
* `Tree.drawingIn_eq_join` — a drawing with a margin is made of these lines;
* `Tree.drawOn?_eq_some` — a drawing on a sheet leaves the margin as it was;
* `Tree.drawing_follows_paths` — a drawing has a line for each node, with its path in front.
-/
import ShuntingYard.Tree.Path
import ShuntingYard.Tree.Sheet
import ShuntingYard.Tree.Text

namespace ShuntingYard.Tree

/-! ### Steps and lines -/

/-- What stands in front of the node that a step leads to. -/
def branch : Side → String
  | .left => " ├"
  | .right => " └"

/-- What a step adds in front of the nodes below the one that it leads to. -/
def stroke : Side → String
  | .left => " │"
  | .right => "  "

theorem margin_singleton (side : Side) : margin [side] = branch side := by
  cases side <;> rfl

theorem margin_cons_cons (side next : Side) (path : List Side) :
    margin (side :: next :: path) = stroke side ++ margin (next :: path) := by
  cases side <;> rfl

/-- The line of a node in a drawing whose lines but the first are indented by `outer`. -/
def lineIn (outer : String) : List Side × String → String
  | ([], value) => "(" ++ value ++ ")\n"
  | (side :: path, value) => outer ++ margin (side :: path) ++ "(" ++ value ++ ")\n"

theorem lineIn_empty (entry : List Side × String) :
    lineIn "" entry = margin entry.1 ++ "(" ++ entry.2 ++ ")\n" := by
  obtain ⟨_ | ⟨side, path⟩, value⟩ := entry
  · simp [lineIn, margin]
  · rw [lineIn, String.empty_append]

/-- Below a step the margin is longer by its stroke. -/
theorem lineIn_cons_cons (outer : String) (side next : Side) (path : List Side) (value : String) :
    lineIn outer (side :: next :: path, value) =
      lineIn (outer ++ stroke side) (next :: path, value) := by
  simp only [lineIn, margin_cons_cons, String.append_assoc]

/-- The root comes first, and it is the only node without a path. -/
theorem exists_paths_eq_cons (tree : Tree) :
    ∃ others, tree.paths = ([], tree.value) :: others ∧
      ∀ entry ∈ others, ∃ side path, entry.1 = side :: path := by
  cases tree with
  | leaf value => exact ⟨[], rfl, by simp⟩
  | node value left right =>
    refine ⟨_, rfl, ?_⟩
    intro entry hentry
    rcases List.mem_append.1 hentry with hmem | hmem
    · obtain ⟨below, -, rfl⟩ := List.mem_map.1 hmem
      exact ⟨.left, below.1, rfl⟩
    · obtain ⟨below, -, rfl⟩ := List.mem_map.1 hmem
      exact ⟨.right, below.1, rfl⟩

/-- The lines of an operand, told from the node above it: a branch in front of its first line,
and a longer margin in front of the others. -/
theorem join_paths_below (outer : String) (side : Side) (tree : Tree) :
    String.join (tree.paths.map fun entry => lineIn outer (side :: entry.1, entry.2)) =
      outer ++ branch side ++ String.join (tree.paths.map (lineIn (outer ++ stroke side))) := by
  obtain ⟨others, hpaths, hothers⟩ := exists_paths_eq_cons tree
  have hlines : (others.map fun entry => lineIn outer (side :: entry.1, entry.2)) =
      others.map (lineIn (outer ++ stroke side)) := by
    refine List.map_congr_left fun entry hentry => ?_
    obtain ⟨next, path, hpath⟩ := hothers entry hentry
    obtain ⟨entryPath, value⟩ := entry
    obtain rfl : entryPath = next :: path := hpath
    exact lineIn_cons_cons outer side next path value
  rw [hpaths, List.map_cons, List.map_cons, String.join_cons, String.join_cons, hlines]
  simp only [lineIn, margin_singleton, String.append_assoc]

/-! ### Drawings -/

/-- A drawing with a margin is made of the lines of its nodes, the root first. -/
theorem drawingIn_eq_join (tree : Tree) (outer : String) :
    tree.drawingIn outer = String.join (tree.paths.map (lineIn outer)) := by
  induction tree generalizing outer with
  | leaf value => simp [drawingIn, paths, lineIn]
  | node value left right ihl ihr =>
    have hleft := join_paths_below outer .left left
    have hright := join_paths_below outer .right right
    rw [paths, List.map_cons, List.map_append, List.map_map, List.map_map, String.join_cons,
      String.join_append]
    simp only [Function.comp_def]
    rw [hleft, hright, drawingIn, ihl, ihr]
    simp only [lineIn, branch, stroke, String.append_assoc]

/-- A tree can always be drawn on a sheet.  Its drawing is added, and the margin is the same as
before. -/
theorem drawOn?_eq_some (tree : Tree) (sheet : Sheet) :
    tree.drawOn? sheet = some ⟨sheet.text ++ tree.drawingIn sheet.margin, sheet.margin⟩ := by
  induction tree generalizing sheet with
  | leaf value => rfl
  | node value left right ihl ihr =>
    -- Each operand leaves the margin that it got, so that its unit can be cut off again.
    rw [drawOn?]
    simp only [ihl, ihr, Option.bind_eq_bind, Option.bind_some, Sheet.write, Sheet.indent,
      Sheet.outdent?_append, drawingIn, String.append_assoc]

/-- A drawing has a line for each node, each operator before its operands: what the path of
the node says, and its value in parentheses.  Drawn on a sheet with any margin, a tree leaves
this margin in place. -/
theorem drawing_follows_paths (tree : Tree) :
    tree.drawing =
        String.join (tree.paths.map fun entry => margin entry.1 ++ "(" ++ entry.2 ++ ")\n") ∧
      tree.paths.map Prod.snd = tree.preOrder ∧
      (∀ path value, (path, value) ∈ tree.paths ↔
        (tree.descend? path).map Tree.value = some value) ∧
      tree.drawOn? ⟨"", ""⟩ = some ⟨tree.drawing, ""⟩ ∧
      ∀ sheet, (tree.drawOn? sheet).map Sheet.margin = some sheet.margin := by
  refine ⟨?_, map_snd_paths tree, fun path value => mem_paths_iff, ?_, fun sheet => ?_⟩
  · rw [drawing, drawingIn_eq_join]
    exact congrArg String.join (List.map_congr_left fun entry _ => lineIn_empty entry)
  · rw [drawOn?_eq_some, String.empty_append]
    rfl
  · rw [drawOn?_eq_some]
    rfl

end ShuntingYard.Tree
