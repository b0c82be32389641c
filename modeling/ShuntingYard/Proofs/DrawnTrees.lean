/-
A drawing shows one tree.

The lines of a drawing are found again at the line feeds, if no value holds one.  In each line
the margin comes in pairs of characters, and a pair begins with a space.  The value begins
with a parenthesis, so it is clear where the margin ends, whatever the value holds.  The
margin tells the path of the node, and a tree is known as soon as it is known which value
stands at the end of which path.

* `Tree.line` — the line of a node;
* `Tree.splitMargin`, `Tree.splitMargin_line` — the path that is read from a line, and what is
  behind the margin;
* `Tree.splitOn_drawing` — the lines of a drawing;
* `Tree.eq_of_paths_eq` — the nodes with their paths make the tree;
* `Tree.drawing_identifies` — different trees have different drawings.
-/
import ShuntingYard.Proofs.Carets
import ShuntingYard.Proofs.Drawing
import ShuntingYard.Proofs.Listings
import ShuntingYard.Proofs.RoundTrip

namespace ShuntingYard.Tree

variable {tree tree' : Tree}

/-! ### From a line to its node -/

/-- The line of a node in a drawing. -/
def line (entry : List Side × String) : String := margin entry.1 ++ "(" ++ entry.2 ++ ")"

/-- The path that the margin of a line tells, and the characters behind the margin. -/
def splitMargin : List Char → List Side × List Char
  | ' ' :: '├' :: rest => ([.left], rest)
  | ' ' :: '└' :: rest => ([.right], rest)
  | ' ' :: '│' :: rest => (.left :: (splitMargin rest).1, (splitMargin rest).2)
  | ' ' :: ' ' :: rest => (.right :: (splitMargin rest).1, (splitMargin rest).2)
  | rest => ([], rest)

theorem splitMargin_branch_append (side : Side) (cs : List Char) :
    splitMargin ((branch side).toList ++ cs) = ([side], cs) := by
  cases side <;> rfl

theorem splitMargin_stroke_append (side : Side) (cs : List Char) :
    splitMargin ((stroke side).toList ++ cs) =
      (side :: (splitMargin cs).1, (splitMargin cs).2) := by
  cases side <;> rfl

/-- A margin is read up to the parenthesis behind it. -/
theorem splitMargin_margin_append (path : List Side) (rest : List Char) :
    splitMargin ((margin path).toList ++ '(' :: rest) = (path, '(' :: rest) := by
  induction path with
  | nil => rfl
  | cons side path ih =>
    cases path with
    | nil => rw [margin_singleton, splitMargin_branch_append]
    | cons next path =>
      rw [margin_cons_cons, String.toList_append, List.append_assoc, splitMargin_stroke_append, ih]

theorem splitMargin_line (path : List Side) (value : String) :
    splitMargin (line (path, value)).toList = (path, '(' :: (value.toList ++ [')'])) := by
  have htext : (line (path, value)).toList =
      (margin path).toList ++ '(' :: (value.toList ++ [')']) := by
    simp [line, String.toList_append]
  rw [htext, splitMargin_margin_append]

/-- Different nodes have different lines. -/
theorem line_injective {entry entry' : List Side × String} (h : line entry = line entry') :
    entry = entry' := by
  obtain ⟨path, value⟩ := entry
  obtain ⟨path', value'⟩ := entry'
  have hsplit := splitMargin_line path value
  rw [h, splitMargin_line] at hsplit
  obtain ⟨hpath, hrest⟩ := Prod.mk.inj hsplit
  have hvalue := List.append_cancel_right (List.cons.inj hrest).2
  rw [hpath, String.toList_inj.1 hvalue]

/-! ### From a drawing to its lines -/

theorem isLine_margin (path : List Side) : IsLine (margin path) := by
  induction path with
  | nil => decide
  | cons side path ih =>
    cases path with
    | nil => cases side <;> decide
    | cons next path =>
      rw [margin_cons_cons, isLine_append_iff]
      refine ⟨?_, ih⟩
      cases side <;> decide

/-- No value of the tree holds a line feed, so every node has a line for itself. -/
def IsLined (tree : Tree) : Prop := ∀ value ∈ tree.preOrder, IsLine value

theorem IsLined.isLine_line (h : tree.IsLined) {entry : List Side × String}
    (hentry : entry ∈ tree.paths) : IsLine (line entry) := by
  have hvalue : entry.2 ∈ tree.preOrder := by
    rw [← map_snd_paths]
    exact List.mem_map_of_mem hentry
  simp only [line, isLine_append_iff]
  exact ⟨⟨⟨isLine_margin _, by decide⟩, h _ hvalue⟩, by decide⟩

/-- Between the line feeds of a drawing there are the lines of the nodes. -/
theorem IsLined.splitOn_drawing (h : tree.IsLined) :
    tree.drawing.toList.splitOn '\n' = (tree.paths.map line).map String.toList ++ [[]] := by
  have hdrawing : tree.drawing = String.join ((tree.paths.map line).map (· ++ "\n")) := by
    rw [drawing, drawingIn_eq_join, List.map_map]
    refine congrArg String.join (List.map_congr_left fun entry _ => ?_)
    have hend : ")\n" = ")" ++ "\n" := rfl
    rw [lineIn_empty, hend, ← String.append_assoc]
    rfl
  rw [hdrawing]
  refine splitOn_join_lines fun text htext => ?_
  obtain ⟨entry, hentry, rfl⟩ := List.mem_map.1 htext
  exact h.isLine_line hentry

/-! ### From the nodes to the tree -/

/-- Trees with the same value at the end of every path are the same. -/
theorem eq_of_value_descend?_eq
    (h : ∀ path, (tree.descend? path).map value = (tree'.descend? path).map value) :
    tree = tree' := by
  induction tree generalizing tree' with
  | leaf own =>
    cases tree' with
    | leaf own' =>
      have hroot := Option.some_inj.1 (h [])
      exact congrArg leaf hroot
    | node own' left' right' => cases h [.left]
  | node own left right ihl ihr =>
    cases tree' with
    | leaf own' => cases h [.left]
    | node own' left' right' =>
      have hroot : own = own' := Option.some_inj.1 (h [])
      have hleft : left = left' := ihl fun path => h (.left :: path)
      have hright : right = right' := ihr fun path => h (.right :: path)
      rw [hroot, hleft, hright]

/-- The nodes with their paths make the tree. -/
theorem eq_of_paths_eq (h : tree.paths = tree'.paths) : tree = tree' := by
  refine eq_of_value_descend?_eq fun path => Option.ext fun own => ?_
  rw [← mem_paths_iff, ← mem_paths_iff, h]

theorem IsLined.eq_of_drawing_eq (h : tree.IsLined) (h' : tree'.IsLined)
    (heq : tree.drawing = tree'.drawing) : tree = tree' := by
  have hlines := h.splitOn_drawing
  rw [heq, h'.splitOn_drawing] at hlines
  have htexts := (List.map_inj_right fun _ _ => String.toList_inj.1).1
    (List.append_cancel_right hlines)
  exact eq_of_paths_eq ((List.map_inj_right fun _ _ => line_injective).1 htexts).symm

/-- If no value holds a line feed, different trees have different drawings.  A tree that is
found in an expression has no such value. -/
theorem drawing_identifies :
    (∀ tree tree' : Tree, tree.IsLined → tree'.IsLined → tree.drawing = tree'.drawing →
      tree = tree') ∧
    ∀ (g : Grammar) (expression : String) (tree : Tree),
      g.parse expression = .ok tree → tree.IsLined := by
  refine ⟨fun tree tree' => IsLined.eq_of_drawing_eq, fun g expression tree h value hvalue => ?_⟩
  have hword := (Grammar.wellLabelled_of_parse h).isWord ((tree.mem_listing_iff .before).1 hvalue)
  exact isLine_of_piece (Or.inr (Or.inr hword))

/-- Values that look like the strokes and the lines of a drawing. -/
theorem drawing_identifies_strokes :
    ∃ tree tree' : Tree, tree = node ") │" (leaf "└(1)") (leaf " ├(2") ∧
      tree' = node ") │" (leaf " ├(2") (leaf "└(1)") ∧ tree.IsLined ∧ tree'.IsLined ∧
      tree.drawing ≠ tree'.drawing := by
  have h : (node ") │" (leaf "└(1)") (leaf " ├(2")).IsLined := by
    unfold IsLined
    decide
  have h' : (node ") │" (leaf " ├(2") (leaf "└(1)")).IsLined := by
    unfold IsLined
    decide
  refine ⟨_, _, rfl, rfl, h, h', fun heq => ?_⟩
  exact absurd (drawing_identifies.1 _ _ h h' heq) (by decide)

/-- A value with line feeds can be drawn like an operator with its operands. -/
example :
    (leaf "+)\n ├(1)\n └(2").drawing = (node "+" (leaf "1") (leaf "2")).drawing := by
  decide

end ShuntingYard.Tree
