/-
Rows: operands with operators between them, and how a row is joined.

The operator that is applied last splits a row in two, and the same holds on each
side.  It is one of the lowest rank; among those it is the last one that groups to
the left or, if there is none, the first one.  What the operands are, and what an
operator makes of two of them, is left open here.

* `rootIndex` — the operator of a row that is applied last;
* `Link` — an operator and the operand on its right;
* `splitRoot?`, `joinLinks` — a row cut at that operator, and the row joined to one
  operand;
* `reducesBefore_root`, `root_not_reducesBefore` — every operator in front of the
  root takes its operands before the root does, and the root does not take its
  operands before any operator behind it.
-/
import ShuntingYard.Binding

namespace ShuntingYard

/-- The lowest rank in a row of operators. -/
def leastRank (row : List Binding) : Int := ((row.map Binding.rank).min?).getD 0

/-- Whether an operator has the lowest rank of the row and groups to the left. -/
def isLeastLeft (row : List Binding) (binding : Binding) : Bool :=
  binding.rank = leastRank row && binding.associativity = .left

/-- The place of the operator that is applied last: the last one of the lowest rank
that groups to the left, or else the first one of the lowest rank. -/
def rootIndex (row : List Binding) : Nat :=
  match row.reverse.findIdx? (isLeastLeft row) with
  | some back => row.length - 1 - back
  | none => row.findIdx fun b => b.rank = leastRank row

/-! ### The operators in front of the root and behind it -/

theorem leastRank_le {row : List Binding} {b : Binding} (hb : b ∈ row) :
    leastRank row ≤ b.rank := by
  have hmem : b.rank ∈ row.map Binding.rank := List.mem_map_of_mem hb
  obtain ⟨least, hleast⟩ := Option.isSome_iff_exists.1 (List.isSome_min?_of_mem hmem)
  rw [leastRank, hleast]
  exact (List.min?_eq_some_iff.1 hleast).2 b.rank hmem

theorem exists_rank_eq_leastRank {row : List Binding} (hrow : row ≠ []) :
    ∃ b ∈ row, b.rank = leastRank row := by
  cases hleast : (row.map Binding.rank).min? with
  | none => exact absurd (List.map_eq_nil_iff.1 (List.min?_eq_none_iff.1 hleast)) hrow
  | some least =>
    obtain ⟨b, hb, hrank⟩ := List.mem_map.1 (List.min?_eq_some_iff.1 hleast).1
    refine ⟨b, hb, ?_⟩
    rw [leastRank, hleast]
    exact hrank

theorem isLeastLeft_eq_true_iff {row : List Binding} {b : Binding} :
    isLeastLeft row b = true ↔ b.rank = leastRank row ∧ b.associativity = .left := by
  simp [isLeastLeft]

/-- The root of a row, and how the operators around it are bound: a root that groups
to the left is the last of its kind, and any other root is the first of its rank. -/
theorem rootIndex_spec {row : List Binding} (hrow : row ≠ []) :
    ∃ h : rootIndex row < row.length,
      row[rootIndex row].rank = leastRank row ∧
        (row[rootIndex row].associativity = .left ∧
            (∀ j, ∀ hj : j < row.length, rootIndex row < j → isLeastLeft row row[j] = false) ∨
          (∀ b ∈ row, isLeastLeft row b = false) ∧
            ∀ j, ∀ hj : j < row.length, j < rootIndex row → row[j].rank ≠ leastRank row) := by
  unfold rootIndex
  split
  -- The search from behind has found the last operator of its kind.
  · rename_i back hback
    obtain ⟨hlt, hat, hbefore⟩ := List.findIdx?_eq_some_iff_getElem.1 hback
    rw [List.length_reverse] at hlt
    rw [List.getElem_reverse] at hat
    obtain ⟨hrank, hside⟩ := isLeastLeft_eq_true_iff.1 hat
    refine ⟨by omega, hrank, Or.inl ⟨hside, fun j hj hlater => ?_⟩⟩
    have := hbefore (row.length - 1 - j) (by omega)
    rw [List.getElem_reverse] at this
    simp only [Bool.not_eq_true] at this
    simpa only [show row.length - 1 - (row.length - 1 - j) = j by omega] using this
  -- There is none that groups to the left, but the lowest rank occurs.
  · rename_i hnone
    have hnotLeft : ∀ b ∈ row, isLeastLeft row b = false := by
      intro b hb
      exact List.findIdx?_eq_none_iff.1 hnone b (List.mem_reverse.2 hb)
    have hlt : row.findIdx (fun b => decide (b.rank = leastRank row)) < row.length := by
      obtain ⟨b, hb, hrank⟩ := exists_rank_eq_leastRank hrow
      exact List.findIdx_lt_length_of_exists ⟨b, hb, by simpa using hrank⟩
    refine ⟨hlt, by simpa using List.findIdx_getElem (w := hlt), Or.inr ⟨hnotLeft, ?_⟩⟩
    intro j hj hearlier
    simpa using List.not_of_lt_findIdx hearlier

/-- Every operator in front of the root takes its operands before the root. -/
theorem reducesBefore_root {row : List Binding} (h : rootIndex row < row.length) :
    ∀ b ∈ row.take (rootIndex row), b.reducesBefore row[rootIndex row] = true := by
  intro b hb
  obtain ⟨j, hj, rfl⟩ := List.mem_take_iff_getElem.1 hb
  have hleast := leastRank_le (List.mem_of_mem_take hb)
  obtain ⟨_, hrank, hroot⟩ := rootIndex_spec (List.ne_nil_of_mem (List.mem_of_mem_take hb))
  rw [Binding.reducesBefore_eq_true_iff, hrank]
  -- A root that groups to the left also lets its equals go first; any other is the first
  -- of its rank.
  rcases hroot with ⟨hside, -⟩ | ⟨-, hfirst⟩
  · by_cases hlt : leastRank row < row[j].rank
    · exact Or.inl hlt
    · exact Or.inr ⟨by omega, hside⟩
  · have := hfirst j (by omega) (by omega)
    exact Or.inl (by omega)

/-- The root does not take its operands before any operator behind it. -/
theorem root_not_reducesBefore {row : List Binding} (h : rootIndex row < row.length) :
    ∀ b ∈ row.drop (rootIndex row + 1), row[rootIndex row].reducesBefore b = false := by
  intro b hb
  obtain ⟨j, hj, rfl⟩ := List.mem_drop_iff_getElem.1 hb
  have hmem := List.mem_of_mem_drop hb
  obtain ⟨_, hrank, hroot⟩ := rootIndex_spec (List.ne_nil_of_mem hmem)
  have hnotLeft : isLeastLeft row row[rootIndex row + 1 + j] = false := by
    rcases hroot with ⟨-, hlast⟩ | ⟨hnone, -⟩
    · exact hlast _ (by omega) (by omega)
    · exact hnone _ hmem
  rw [Bool.eq_false_iff, Ne, Binding.reducesBefore_eq_true_iff, hrank]
  -- Only an operator of the lowest rank that groups to the left could draw the root in.
  rintro (hlt | ⟨heq, hside⟩)
  · have := leastRank_le hmem
    omega
  · rw [isLeastLeft_eq_true_iff.2 ⟨heq, hside⟩] at hnotLeft
    cases hnotLeft

/-! ### Joining a row -/

/-- An operator and the operand on its right. -/
structure Link (α : Type) where
  symbol : String
  binding : Binding
  operand : α
  deriving DecidableEq, Repr

variable {α β : Type}

/-- A link whose operand has been exchanged. -/
def Link.map (f : α → β) (link : Link α) : Link β :=
  ⟨link.symbol, link.binding, f link.operand⟩

/-- A row cut at the operator that is applied last. -/
def splitRoot? (links : List (Link α)) : Option (List (Link α) × Link α × List (Link α)) :=
  let root := rootIndex (links.map Link.binding)
  links[root]?.map fun link => (links.take root, link, links.drop (root + 1))

/-- The two sides of a cut are shorter than the row. -/
theorem length_lt_of_splitRoot?_eq_some {links before after : List (Link α)} {link : Link α}
    (h : splitRoot? links = some (before, link, after)) :
    before.length < links.length ∧ after.length < links.length := by
  obtain ⟨other, hlink, hparts⟩ := Option.map_eq_some_iff.1 h
  obtain ⟨hlt, -⟩ := List.getElem?_eq_some_iff.1 hlink
  obtain ⟨rfl, -, rfl⟩ := hparts
  rw [List.length_take, List.length_drop]
  omega

/-- The operand that a row is joined to: the operator that is applied last is applied
to what the rows on its two sides are joined to. -/
def joinLinks (node : String → α → α → α) (first : α) (links : List (Link α)) : α :=
  match _h : splitRoot? links with
  | none => first
  | some (before, link, after) =>
    node link.symbol (joinLinks node first before) (joinLinks node link.operand after)
termination_by links.length
decreasing_by
  · exact (length_lt_of_splitRoot?_eq_some _h).1
  · exact (length_lt_of_splitRoot?_eq_some _h).2

variable {node : String → α → α → α} {first : α} {links before after : List (Link α)}
  {link : Link α}

theorem joinLinks_of_splitRoot?_eq_none (h : splitRoot? links = none) :
    joinLinks node first links = first := by
  rw [joinLinks]
  split
  · rfl
  · rename_i hsome
    rw [h] at hsome
    cases hsome

theorem joinLinks_of_splitRoot?_eq_some (h : splitRoot? links = some (before, link, after)) :
    joinLinks node first links =
      node link.symbol (joinLinks node first before) (joinLinks node link.operand after) := by
  rw [joinLinks]
  split
  · rename_i hnone
    rw [h] at hnone
    cases hnone
  · rename_i hsome
    rw [h] at hsome
    cases hsome
    rfl

@[simp]
theorem joinLinks_nil : joinLinks node first [] = first :=
  joinLinks_of_splitRoot?_eq_none rfl

/-- Only a row without operators cannot be cut. -/
theorem splitRoot?_eq_none_iff : splitRoot? links = none ↔ links = [] := by
  constructor
  · intro h
    cases links with
    | nil => rfl
    | cons link links =>
      have hrow : (link :: links).map Link.binding ≠ [] := by simp
      obtain ⟨hlt, -⟩ := rootIndex_spec hrow
      rw [List.length_map] at hlt
      have hle := List.getElem?_eq_none_iff.1 (Option.map_eq_none_iff.1 h)
      omega
  · rintro rfl
    rfl

/-- A cut leaves out nothing, and the root lies between what goes before it and what
it lets wait. -/
theorem splitRoot?_spec (h : splitRoot? links = some (before, link, after)) :
    links = before ++ link :: after ∧
      (∀ other ∈ before, other.binding.reducesBefore link.binding = true) ∧
        ∀ other ∈ after, link.binding.reducesBefore other.binding = false := by
  obtain ⟨other, hlink, hparts⟩ := Option.map_eq_some_iff.1 h
  obtain ⟨rfl, rfl, rfl⟩ := hparts
  obtain ⟨hlt, rfl⟩ := List.getElem?_eq_some_iff.1 hlink
  have hlt' : rootIndex (links.map Link.binding) < (links.map Link.binding).length := by
    rwa [List.length_map]
  refine ⟨?_, ?_, ?_⟩
  · rw [List.getElem_cons_drop, List.take_append_drop]
  · intro other hother
    have hmem : other.binding ∈
        (links.map Link.binding).take (rootIndex (links.map Link.binding)) := by
      rw [← List.map_take]
      exact List.mem_map_of_mem hother
    have hgo := reducesBefore_root hlt' other.binding hmem
    rwa [List.getElem_map] at hgo
  · intro other hother
    have hmem : other.binding ∈
        (links.map Link.binding).drop (rootIndex (links.map Link.binding) + 1) := by
      rw [← List.map_drop]
      exact List.mem_map_of_mem hother
    have hwait := root_not_reducesBefore hlt' other.binding hmem
    rwa [List.getElem_map] at hwait

/-- Rows are cut by their operators alone. -/
theorem splitRoot?_map (f : α → β) (links : List (Link α)) :
    splitRoot? (links.map (Link.map f)) =
      (splitRoot? links).map fun cut =>
        (cut.1.map (Link.map f), cut.2.1.map f, cut.2.2.map (Link.map f)) := by
  have hrow : (links.map (Link.map f)).map Link.binding = links.map Link.binding := by
    rw [List.map_map]
    rfl
  simp only [splitRoot?, hrow, List.getElem?_map, Option.map_map]
  congr 1
  funext link
  simp [List.map_take, List.map_drop]

/-- What a row is joined to may be read off its operands before or afterwards. -/
theorem joinLinks_map {node' : String → β → β → β} (f : α → β)
    (hf : ∀ symbol left right, f (node symbol left right) = node' symbol (f left) (f right))
    (first : α) (links : List (Link α)) :
    f (joinLinks node first links) = joinLinks node' (f first) (links.map (Link.map f)) := by
  induction h : links.length using Nat.strongRecOn generalizing first links with
  | ind n ih =>
    subst h
    have hmap := splitRoot?_map f links
    cases hcut : splitRoot? links with
    | none =>
      rw [hcut] at hmap
      rw [joinLinks_of_splitRoot?_eq_none hcut, joinLinks_of_splitRoot?_eq_none hmap]
    | some cut =>
      -- Both rows are cut at the same place, as they have the same operators.
      obtain ⟨before, link, after⟩ := cut
      obtain ⟨hbefore, hafter⟩ := length_lt_of_splitRoot?_eq_some hcut
      rw [hcut] at hmap
      rw [joinLinks_of_splitRoot?_eq_some hcut, joinLinks_of_splitRoot?_eq_some hmap, hf,
        ih _ hbefore first before rfl, ih _ hafter link.operand after rfl]
      rfl

end ShuntingYard
