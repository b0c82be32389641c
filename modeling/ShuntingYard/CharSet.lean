/-
Sets of characters, given by ranges of code points.

Character classes (blanks, digits, …) are data: a list of inclusive ranges.
Membership is one function over that data, so a class is changed by editing its
table, and facts about two classes are settled by comparing their ranges.

* `CharSet` — the ranges; `c ∈ s` says that one of them holds the code point;
* `CharSet.ofPoints` — the set that is given by single code points;
* `CharSet.isDisjoint` — whether the ranges of two sets lie apart;
* `CharSet.not_mem_of_isDisjoint` — sets that lie apart share no character.
-/

namespace ShuntingYard

/-- A set of characters: the inclusive ranges of code points that it consists of. -/
structure CharSet where
  ranges : List (Nat × Nat)
  deriving Repr

namespace CharSet

/-- The set of the characters with these code points. -/
def ofPoints (points : List Nat) : CharSet := ⟨points.map fun point => (point, point)⟩

/-- Whether some range of the set holds the code point of `c`. -/
def contains (s : CharSet) (c : Char) : Bool :=
  s.ranges.any fun r => r.1 ≤ c.toNat && c.toNat ≤ r.2

instance : Membership Char CharSet := ⟨fun s c => s.contains c = true⟩

instance (c : Char) (s : CharSet) : Decidable (c ∈ s) :=
  inferInstanceAs (Decidable (s.contains c = true))

theorem mem_iff {c : Char} {s : CharSet} :
    c ∈ s ↔ ∃ r ∈ s.ranges, r.1 ≤ c.toNat ∧ c.toNat ≤ r.2 := by
  show s.contains c = true ↔ _
  simp [contains]

theorem contains_eq_true_iff {c : Char} {s : CharSet} : s.contains c = true ↔ c ∈ s :=
  Iff.rfl

/-- Whether every range of `s` lies apart from every range of `t`. -/
def isDisjoint (s t : CharSet) : Bool :=
  s.ranges.all fun r => t.ranges.all fun q => r.2 < q.1 || q.2 < r.1

/-- Sets whose ranges lie apart share no character. -/
theorem not_mem_of_isDisjoint {s t : CharSet} (h : s.isDisjoint t = true) {c : Char}
    (hs : c ∈ s) : ¬ c ∈ t := by
  intro ht
  obtain ⟨r, hr, hr₁, hr₂⟩ := mem_iff.1 hs
  obtain ⟨q, hq, hq₁, hq₂⟩ := mem_iff.1 ht
  simp only [isDisjoint, List.all_eq_true, Bool.or_eq_true, decide_eq_true_eq] at h
  rcases h r hr q hq with hlt | hlt
  · omega
  · omega

end CharSet

end ShuntingYard
