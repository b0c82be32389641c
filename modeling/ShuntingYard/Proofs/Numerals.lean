/-
The grammar of numerals.

Numerals are told by how they are put together: a sign, digit groups, a point, an exponent, or
a name.  The readers go from left to right instead, and each takes as much as it can.  They
agree, because a group, a mantissa and a sign are followed by nothing that could go on them.

* `Numeral.IsGroup`, `Numeral.IsMantissa`, `Numeral.IsExponent`, `Numeral.IsName` — the parts of
  a numeral, without regard to how they are read;
* `Numeral.isGroup_cons_cons_iff` — a digit group from its front;
* `Numeral.dropGroup?_eq_some_iff` — a reader takes a group that cannot go on;
* `Numeral.isDecimal_eq_true_iff`, `Numeral.isNamed_eq_true_iff`, `Numeral.dropSign_iff` — the
  other parts;
* `isNumeral_iff` — the texts that are taken for numerals are those of the grammar.
-/
import Mathlib.Data.List.Chain
import Mathlib.Data.List.Forall2
import ShuntingYard.Numeral

namespace ShuntingYard

namespace Numeral

/-! ### The parts of a numeral -/

/-- A group of digits: decimal digits, and here and there a single `_` between two of them. -/
structure IsGroup (cs : List Char) : Prop where
  ne_nil : cs ≠ []
  digits : ∀ c ∈ cs, c ∈ CharSet.decimalDigit ∨ c = '_'
  first : ∀ c, cs.head? = some c → c ∈ CharSet.decimalDigit
  last : ∀ c, cs.getLast? = some c → c ∈ CharSet.decimalDigit
  apart : cs.IsChain fun c d => ¬ (c = '_' ∧ d = '_')

/-- A mantissa: one digit group, with a point in front or behind, or two with a point between
them. -/
inductive IsMantissa : List Char → Prop where
  | whole {group : List Char} (h : IsGroup group) : IsMantissa group
  | pointed {group : List Char} (h : IsGroup group) : IsMantissa (group ++ ['.'])
  | fraction {group : List Char} (h : IsGroup group) : IsMantissa ('.' :: group)
  | mixed {group fraction : List Char} (h : IsGroup group) (hfraction : IsGroup fraction) :
      IsMantissa (group ++ '.' :: fraction)

/-- A sign, which may be absent. -/
inductive IsSign : List Char → Prop where
  | absent : IsSign []
  | plus : IsSign ['+']
  | minus : IsSign ['-']

/-- An exponent, which may be absent. -/
inductive IsExponent : List Char → Prop where
  | absent : IsExponent []
  | power {letter : Char} {sign group : List Char} (hletter : letter = 'e' ∨ letter = 'E')
      (hsign : IsSign sign) (hgroup : IsGroup group) : IsExponent (letter :: (sign ++ group))

/-- The letters of the word, each in lower or in upper case. -/
def IsSpelled (word : String) (cs : List Char) : Prop :=
  List.Forall₂ (fun c letter => c = letter ∨ c = letter.toUpper) cs word.toList

/-- The name of an infinity or of the undefined value. -/
def IsName (cs : List Char) : Prop :=
  IsSpelled "inf" cs ∨ IsSpelled "infinity" cs ∨ IsSpelled "nan" cs

/-! ### Groups -/

theorem isDigit_eq_true_iff {c : Char} : isDigit c = true ↔ c ∈ CharSet.decimalDigit := Iff.rfl

theorem not_isDigit_underscore : ¬ '_' ∈ CharSet.decimalDigit := by decide +kernel

theorem not_isDigit_point : ¬ '.' ∈ CharSet.decimalDigit := by decide +kernel

theorem isGroup_singleton_iff {d : Char} : IsGroup [d] ↔ d ∈ CharSet.decimalDigit := by
  constructor
  · intro h
    exact h.first d rfl
  · intro h
    exact ⟨by simp, by simp [h], by simp [h], by simp [h], .singleton d⟩

/-- Behind the first digit of a group a group goes on, or `_` and a group. -/
theorem isGroup_cons_cons_iff {d c : Char} {cs : List Char} :
    IsGroup (d :: c :: cs) ↔
      d ∈ CharSet.decimalDigit ∧ (IsGroup (c :: cs) ∨ c = '_' ∧ IsGroup cs) := by
  constructor
  · intro h
    refine ⟨h.first d rfl, ?_⟩
    obtain ⟨-, hchain⟩ := List.isChain_cons_cons.1 h.apart
    rcases h.digits c (by simp) with hc | rfl
    · left
      refine ⟨by simp, fun e he => h.digits e (List.mem_cons_of_mem _ he), ?_, ?_, hchain⟩
      · rintro e ⟨⟩
        exact hc
      · exact h.last
    · right
      -- The group does not end with `_`, and another `_` cannot follow.
      cases cs with
      | nil => exact absurd (h.last '_' rfl) not_isDigit_underscore
      | cons e cs =>
        obtain ⟨hne, hchain⟩ := List.isChain_cons_cons.1 hchain
        have he : e ∈ CharSet.decimalDigit := by
          rcases h.digits e (by simp) with he | rfl
          · exact he
          · exact absurd ⟨rfl, rfl⟩ hne
        refine ⟨rfl, by simp, ?_, ?_, h.last, hchain⟩
        · exact fun f hf => h.digits f (List.mem_cons_of_mem _ (List.mem_cons_of_mem _ hf))
        · rintro f ⟨⟩
          exact he
  · rintro ⟨hd, h | ⟨rfl, h⟩⟩
    · refine ⟨by simp, ?_, ?_, h.last, ?_⟩
      · rintro e (_ | ⟨_, he⟩)
        · exact Or.inl hd
        · exact h.digits e he
      · rintro e ⟨⟩
        exact hd
      · refine List.isChain_cons_cons.2 ⟨?_, h.apart⟩
        rintro ⟨rfl, -⟩
        exact not_isDigit_underscore hd
    · obtain ⟨e, cs, rfl⟩ := List.exists_cons_of_ne_nil h.ne_nil
      refine ⟨by simp, ?_, ?_, h.last, ?_⟩
      · rintro f (_ | ⟨_, _ | ⟨_, hf⟩⟩)
        · exact Or.inl hd
        · exact Or.inr rfl
        · exact h.digits f hf
      · rintro f ⟨⟩
        exact hd
      · refine List.isChain_cons_cons.2 ⟨?_, List.isChain_cons_cons.2 ⟨?_, h.apart⟩⟩
        · rintro ⟨rfl, -⟩
          exact not_isDigit_underscore hd
        · rintro ⟨-, rfl⟩
          exact not_isDigit_underscore (h.first '_' rfl)

/-- A group does not go on in the characters. -/
structure Stops (rest : List Char) : Prop where
  digit : ∀ c cs, rest = c :: cs → ¬ c ∈ CharSet.decimalDigit
  joined : ∀ c cs, rest = '_' :: c :: cs → ¬ c ∈ CharSet.decimalDigit

theorem dropGroupTail_digit {d : Char} (hd : d ∈ CharSet.decimalDigit) (cs : List Char) :
    dropGroupTail (d :: cs) = dropGroupTail cs := by
  rw [dropGroupTail]
  · exact if_pos hd
  · rintro c cs rfl
    exact absurd hd not_isDigit_underscore

theorem dropGroupTail_joined {d : Char} (hd : d ∈ CharSet.decimalDigit) (cs : List Char) :
    dropGroupTail ('_' :: d :: cs) = dropGroupTail cs := by
  rw [dropGroupTail]
  exact if_pos hd

theorem dropGroupTail_of_stops {rest : List Char} (h : Stops rest) : dropGroupTail rest = rest := by
  unfold dropGroupTail
  split
  · rfl
  · exact if_neg (h.joined _ _ rfl)
  · exact if_neg (h.digit _ _ rfl)

/-- A group is read to its end, if it does not go on behind. -/
theorem dropGroupTail_append {d : Char} {tail rest : List Char} (h : IsGroup (d :: tail))
    (hrest : Stops rest) : dropGroupTail (tail ++ rest) = rest := by
  induction hlength : tail.length using Nat.strongRecOn generalizing d tail with
  | ind n ih =>
    subst hlength
    cases tail with
    | nil => exact dropGroupTail_of_stops hrest
    | cons c cs =>
      rcases (isGroup_cons_cons_iff.1 h).2 with hgroup | ⟨rfl, hgroup⟩
      · rw [List.cons_append, dropGroupTail_digit (hgroup.first c rfl)]
        exact ih cs.length (by simp) hgroup rfl
      · obtain ⟨e, cs, rfl⟩ := List.exists_cons_of_ne_nil hgroup.ne_nil
        rw [List.cons_append, List.cons_append, dropGroupTail_joined (hgroup.first e rfl)]
        exact ih cs.length (by simp only [List.length_cons]; omega) hgroup rfl

/-- What is read behind a digit is the rest of a group that does not go on. -/
theorem exists_eq_append_dropGroupTail {d : Char} (hd : d ∈ CharSet.decimalDigit)
    (cs : List Char) :
    ∃ tail, IsGroup (d :: tail) ∧ cs = tail ++ dropGroupTail cs ∧ Stops (dropGroupTail cs) := by
  fun_induction dropGroupTail cs generalizing d with
  | case1 => exact ⟨[], isGroup_singleton_iff.2 hd, rfl, by simp, by simp⟩
  | case2 e cs he ih =>
    obtain ⟨tail, hgroup, hcs, hstops⟩ := ih he
    exact ⟨'_' :: e :: tail, isGroup_cons_cons_iff.2 ⟨hd, Or.inr ⟨rfl, hgroup⟩⟩,
      by simpa using hcs, hstops⟩
  | case3 e cs he =>
    refine ⟨[], isGroup_singleton_iff.2 hd, rfl, ?_, ?_⟩
    · rintro c cs ⟨⟩
      exact not_isDigit_underscore
    · rintro c cs ⟨⟩
      exact he
  | case4 c cs hnot hc ih =>
    obtain ⟨tail, hgroup, hcs, hstops⟩ := ih hc
    exact ⟨c :: tail, isGroup_cons_cons_iff.2 ⟨hd, Or.inl hgroup⟩, by simpa using hcs, hstops⟩
  | case5 c cs hnot hc =>
    refine ⟨[], isGroup_singleton_iff.2 hd, rfl, ?_, ?_⟩
    · rintro c cs ⟨⟩
      exact hc
    · rintro e cs ⟨⟩
      exact absurd rfl (hnot e cs rfl)

/-- The reader of groups takes a group that does not go on behind it. -/
theorem dropGroup?_eq_some_iff {cs rest : List Char} :
    dropGroup? cs = some rest ↔ ∃ group, IsGroup group ∧ cs = group ++ rest ∧ Stops rest := by
  constructor
  · intro h
    cases cs with
    | nil => cases h
    | cons d cs =>
      by_cases hd : isDigit d = true
      · obtain rfl : dropGroupTail cs = rest := by
          rw [dropGroup?, if_pos hd] at h
          exact Option.some.inj h
        obtain ⟨tail, hgroup, hcs, hstops⟩ := exists_eq_append_dropGroupTail hd cs
        exact ⟨d :: tail, hgroup, congrArg (d :: ·) hcs, hstops⟩
      · rw [dropGroup?, if_neg hd] at h
        cases h
  · rintro ⟨group, hgroup, rfl, hstops⟩
    obtain ⟨d, tail, rfl⟩ := List.exists_cons_of_ne_nil hgroup.ne_nil
    rw [List.cons_append, dropGroup?, if_pos (isDigit_eq_true_iff.2 (hgroup.first d rfl)),
      dropGroupTail_append hgroup hstops]

theorem isGroup_eq_true_iff {cs : List Char} : isGroup cs = true ↔ IsGroup cs := by
  rw [isGroup, beq_iff_eq, dropGroup?_eq_some_iff]
  constructor
  · rintro ⟨group, hgroup, rfl, -⟩
    rwa [List.append_nil]
  · intro h
    exact ⟨cs, h, (List.append_nil cs).symm, nofun, nofun⟩

/-! ### Signs -/

/-- The reader of signs takes the sign in front of anything that does not start with one. -/
theorem dropSign_iff {P : List Char → Prop}
    (hP : ∀ {c cs}, P (c :: cs) → c ≠ '+' ∧ c ≠ '-') {cs : List Char} :
    P (dropSign cs) ↔ ∃ sign body, cs = sign ++ body ∧ IsSign sign ∧ P body := by
  constructor
  · intro h
    unfold dropSign at h
    split at h
    · exact ⟨['+'], _, rfl, .plus, h⟩
    · exact ⟨['-'], _, rfl, .minus, h⟩
    · exact ⟨[], cs, rfl, .absent, h⟩
  · rintro ⟨sign, body, rfl, hsign, hbody⟩
    cases hsign with
    | plus => exact hbody
    | minus => exact hbody
    | absent =>
      rw [List.nil_append]
      unfold dropSign
      split
      · exact absurd rfl (hP hbody).1
      · exact absurd rfl (hP hbody).2
      · exact hbody

theorem ne_sign_of_mem_decimalDigit {c : Char} (hc : c ∈ CharSet.decimalDigit) :
    c ≠ '+' ∧ c ≠ '-' := by
  constructor
  · rintro rfl
    exact absurd hc (by decide +kernel)
  · rintro rfl
    exact absurd hc (by decide +kernel)

theorem IsGroup.ne_sign {c : Char} {cs : List Char} (h : IsGroup (c :: cs)) :
    c ≠ '+' ∧ c ≠ '-' :=
  ne_sign_of_mem_decimalDigit (h.first c rfl)

/-! ### Exponents and mantissas -/

theorem isExponent_eq_true_iff {cs : List Char} : isExponent cs = true ↔ IsExponent cs := by
  constructor
  · intro h
    cases cs with
    | nil => exact .absent
    | cons letter cs =>
      simp only [isExponent, Bool.and_eq_true, Bool.or_eq_true, beq_iff_eq,
        isGroup_eq_true_iff, dropSign_iff IsGroup.ne_sign] at h
      obtain ⟨hletter, sign, group, rfl, hsign, hgroup⟩ := h
      exact .power hletter hsign hgroup
  · intro h
    cases h with
    | absent => rfl
    | power hletter hsign hgroup =>
      simp only [isExponent, Bool.and_eq_true, Bool.or_eq_true, beq_iff_eq,
        isGroup_eq_true_iff, dropSign_iff IsGroup.ne_sign]
      exact ⟨hletter, _, _, rfl, hsign, hgroup⟩

/-- Only a letter starts an exponent. -/
theorem IsExponent.letter {c : Char} {cs : List Char} (h : IsExponent (c :: cs)) :
    c = 'e' ∨ c = 'E' := by
  cases h with
  | power hletter _ _ => exact hletter

/-- No group, and no part of one, starts an exponent. -/
theorem IsExponent.stops {cs : List Char} (h : IsExponent cs) : Stops cs where
  digit c cs hcs := by
    subst hcs
    rcases h.letter with rfl | rfl
    · decide +kernel
    · decide +kernel
  joined c cs hcs := by
    subst hcs
    rcases h.letter with hletter | hletter
    · exact absurd hletter (by decide)
    · exact absurd hletter (by decide)

theorem IsExponent.dropGroup?_eq_none {cs : List Char} (h : IsExponent cs) :
    dropGroup? cs = none := by
  cases cs with
  | nil => rfl
  | cons c cs => exact if_neg (h.stops.digit c cs rfl)

theorem stops_point (cs : List Char) : Stops ('.' :: cs) where
  digit := by
    rintro c cs ⟨⟩
    exact not_isDigit_point
  joined := by
    rintro c cs ⟨⟩

/-- What is read of a mantissa is one. -/
theorem exists_isMantissa_of_dropMantissa? {cs rest : List Char}
    (h : dropMantissa? cs = some rest) :
    ∃ mantissa, IsMantissa mantissa ∧ cs = mantissa ++ rest := by
  unfold dropMantissa? at h
  split at h
  · obtain ⟨group, hgroup, rfl, -⟩ := dropGroup?_eq_some_iff.1 h
    exact ⟨'.' :: group, .fraction hgroup, rfl⟩
  · split at h
    · cases h
    · rename_i behind hwhole
      obtain ⟨group, hgroup, rfl, -⟩ := dropGroup?_eq_some_iff.1 hwhole
      obtain rfl := Option.some.inj h
      cases hfraction : dropGroup? behind with
      | none => exact ⟨group ++ ['.'], .pointed hgroup, by simp⟩
      | some rest =>
        obtain ⟨fraction, hgroup', rfl, -⟩ := dropGroup?_eq_some_iff.1 hfraction
        exact ⟨group ++ '.' :: fraction, .mixed hgroup hgroup', by simp⟩
    · rename_i hwhole
      obtain ⟨group, hgroup, rfl, -⟩ := dropGroup?_eq_some_iff.1 hwhole
      obtain rfl := Option.some.inj h
      exact ⟨group, .whole hgroup, rfl⟩

/-- A group does not start with a point. -/
theorem dropGroup?_point (cs : List Char) : dropGroup? ('.' :: cs) = none := by
  rw [dropGroup?]
  exact if_neg not_isDigit_point

/-- A point behind the first group belongs to the mantissa, and so does a group behind it. -/
theorem dropMantissa?_pointed {cs behind : List Char} (h : dropGroup? cs = some ('.' :: behind)) :
    dropMantissa? cs = some ((dropGroup? behind).getD behind) := by
  unfold dropMantissa?
  split
  · rw [dropGroup?_point] at h
    cases h
  · rw [h]
    rfl

/-- Without a point the mantissa ends with its first group. -/
theorem dropMantissa?_whole {cs rest : List Char} (h : dropGroup? cs = some rest)
    (hrest : ∀ behind, rest ≠ '.' :: behind) : dropMantissa? cs = some rest := by
  unfold dropMantissa?
  split
  · rw [dropGroup?_point] at h
    cases h
  · rw [h]
    split
    · rename_i hnone
      cases hnone
    · rename_i behind hpoint
      exact absurd (Option.some.inj hpoint) (hrest behind)
    · rename_i hsome
      exact hsome.symm

/-- A mantissa is read to its end, if an exponent follows. -/
theorem dropMantissa?_append {mantissa exponent : List Char} (hmantissa : IsMantissa mantissa)
    (hexponent : IsExponent exponent) : dropMantissa? (mantissa ++ exponent) = some exponent := by
  have hgroup : ∀ {group}, IsGroup group → dropGroup? (group ++ exponent) = some exponent :=
    fun h => dropGroup?_eq_some_iff.2 ⟨_, h, rfl, hexponent.stops⟩
  have hpointed : ∀ {group}, IsGroup group → ∀ behind,
      dropGroup? (group ++ '.' :: behind) = some ('.' :: behind) :=
    fun h behind => dropGroup?_eq_some_iff.2 ⟨_, h, rfl, stops_point behind⟩
  cases hmantissa with
  | whole h =>
    refine dropMantissa?_whole (hgroup h) ?_
    rintro behind rfl
    rcases hexponent.letter with hletter | hletter
    · cases hletter
    · cases hletter
  | pointed h =>
    rw [List.append_assoc, List.singleton_append, dropMantissa?_pointed (hpointed h _),
      hexponent.dropGroup?_eq_none, Option.getD_none]
  | fraction h => exact hgroup h
  | mixed h hfraction =>
    rw [List.append_assoc, List.cons_append, dropMantissa?_pointed (hpointed h _),
      hgroup hfraction, Option.getD_some]

theorem isDecimal_eq_true_iff {cs : List Char} :
    isDecimal cs = true ↔
      ∃ mantissa exponent,
        cs = mantissa ++ exponent ∧ IsMantissa mantissa ∧ IsExponent exponent := by
  constructor
  · intro h
    cases hrest : dropMantissa? cs with
    | none =>
      rw [isDecimal, hrest] at h
      cases h
    | some rest =>
      rw [isDecimal, hrest] at h
      obtain ⟨mantissa, hmantissa, rfl⟩ := exists_isMantissa_of_dropMantissa? hrest
      exact ⟨mantissa, rest, rfl, hmantissa, isExponent_eq_true_iff.1 h⟩
  · rintro ⟨mantissa, exponent, rfl, hmantissa, hexponent⟩
    rw [isDecimal, dropMantissa?_append hmantissa hexponent]
    exact isExponent_eq_true_iff.2 hexponent

/-! ### Names -/

/-- The capital letters come 32 places in front of the small ones. -/
theorem toNat_toLower (c : Char) :
    c.toLower.toNat = if 65 ≤ c.toNat ∧ c.toNat ≤ 90 then c.toNat + 32 else c.toNat := by
  unfold Char.toLower
  split
  · rename_i h
    have hcapital : 65 ≤ c.toNat ∧ c.toNat ≤ 90 := h
    have hshift : (c.val + ('a'.val - 'A'.val)).toNat = (c.toNat + 32) % 2 ^ 32 :=
      UInt32.toNat_add c.val ('a'.val - 'A'.val)
    rw [if_pos hcapital]
    exact hshift.trans (Nat.mod_eq_of_lt (by omega))
  · rename_i h
    exact (if_neg h).symm

theorem toNat_toUpper (c : Char) :
    c.toUpper.toNat = if 97 ≤ c.toNat ∧ c.toNat ≤ 122 then c.toNat - 32 else c.toNat := by
  unfold Char.toUpper
  split
  · rename_i h
    have hsmall : 97 ≤ c.toNat ∧ c.toNat ≤ 122 := h
    have hshift : (c.val + ('A'.val - 'a'.val)).toNat = (c.toNat + (2 ^ 32 - 32)) % 2 ^ 32 :=
      UInt32.toNat_add c.val ('A'.val - 'a'.val)
    rw [if_pos hsmall]
    refine hshift.trans ?_
    omega
  · rename_i h
    exact (if_neg h).symm

/-- A character is a letter in lower case if it is that letter in lower or in upper case. -/
theorem toLower_eq_iff {c letter : Char} (h : letter.isLower = true) :
    c.toLower = letter ↔ c = letter ∨ c = letter.toUpper := by
  have hsmall : 97 ≤ letter.toNat ∧ letter.toNat ≤ 122 := by
    have h' : (decide ('a'.val ≤ letter.val) && decide (letter.val ≤ 'z'.val)) = true := h
    rwa [Bool.and_eq_true, decide_eq_true_eq, decide_eq_true_eq] at h'
  rw [← Char.toNat_inj, ← Char.toNat_inj, ← Char.toNat_inj, toNat_toLower, toNat_toUpper,
    if_pos hsmall]
  split <;> omega

theorem map_toLower_eq_iff {word : List Char} (h : word.all Char.isLower = true)
    {cs : List Char} :
    cs.map Char.toLower = word ↔
      List.Forall₂ (fun c letter => c = letter ∨ c = letter.toUpper) cs word := by
  induction word generalizing cs with
  | nil => simp
  | cons letter word ih =>
    rw [List.all_cons, Bool.and_eq_true] at h
    cases cs with
    | nil => simp
    | cons c cs =>
      rw [List.map_cons, List.cons_eq_cons, List.forall₂_cons, toLower_eq_iff h.1, ih h.2]

theorem isNamed_eq_true_iff {cs : List Char} : isNamed cs = true ↔ IsName cs := by
  have hinf : "inf".toList.all Char.isLower = true := by decide +kernel
  have hinfinity : "infinity".toList.all Char.isLower = true := by decide +kernel
  have hnan : "nan".toList.all Char.isLower = true := by decide +kernel
  simp only [isNamed, decide_eq_true_eq, List.mem_cons, List.not_mem_nil, or_false]
  rw [map_toLower_eq_iff hinf, map_toLower_eq_iff hinfinity, map_toLower_eq_iff hnan]
  exact Iff.rfl

/-! ### Whole numerals -/

/-- A name does not start with a sign. -/
theorem IsName.ne_sign {c : Char} {cs : List Char} (h : IsName (c :: cs)) : c ≠ '+' ∧ c ≠ '-' := by
  have hnamed := isNamed_eq_true_iff.2 h
  constructor
  · rintro rfl
    simp [isNamed] at hnamed
  · rintro rfl
    simp [isNamed] at hnamed

/-- A mantissa starts with a digit or a point. -/
theorem IsMantissa.exists_cons {mantissa : List Char} (h : IsMantissa mantissa) :
    ∃ c cs, mantissa = c :: cs ∧ (c ∈ CharSet.decimalDigit ∨ c = '.') := by
  have hgroup : ∀ {group}, IsGroup group →
      ∃ c cs, group = c :: cs ∧ c ∈ CharSet.decimalDigit := by
    intro group hgroup
    obtain ⟨c, cs, rfl⟩ := List.exists_cons_of_ne_nil hgroup.ne_nil
    exact ⟨c, cs, rfl, hgroup.first c rfl⟩
  cases h with
  | whole h =>
    obtain ⟨c, cs, rfl, hc⟩ := hgroup h
    exact ⟨c, cs, rfl, Or.inl hc⟩
  | pointed h =>
    obtain ⟨c, cs, rfl, hc⟩ := hgroup h
    exact ⟨c, cs ++ ['.'], rfl, Or.inl hc⟩
  | fraction h => exact ⟨'.', _, rfl, Or.inr rfl⟩
  | mixed h hfraction =>
    obtain ⟨c, cs, rfl, hc⟩ := hgroup h
    exact ⟨c, _, rfl, Or.inl hc⟩

/-- A real number is a sign and a name, or a sign, a mantissa and an exponent. -/
theorem isReal_eq_true_iff {cs : List Char} :
    isReal cs = true ↔ ∃ sign body, cs = sign ++ body ∧ IsSign sign ∧
      (IsName body ∨ ∃ mantissa exponent,
        body = mantissa ++ exponent ∧ IsMantissa mantissa ∧ IsExponent exponent) := by
  rw [isReal, Bool.or_eq_true, isNamed_eq_true_iff, isDecimal_eq_true_iff]
  refine dropSign_iff (P := fun body => IsName body ∨ ∃ mantissa exponent,
    body = mantissa ++ exponent ∧ IsMantissa mantissa ∧ IsExponent exponent) ?_
  rintro c cs (hname | ⟨mantissa, exponent, hbody, hmantissa, -⟩)
  · exact hname.ne_sign
  · obtain ⟨d, ds, rfl, hd⟩ := hmantissa.exists_cons
    obtain ⟨rfl, -⟩ := List.cons_eq_cons.1 hbody
    rcases hd with hd | rfl
    · exact ne_sign_of_mem_decimalDigit hd
    · decide

theorem isSingle_eq_true_iff {cs : List Char} :
    isSingle cs = true ↔ ∃ c, cs = [c] ∧ (c ∈ CharSet.number ∨ c ∈ CharSet.hanNumeral) := by
  unfold isSingle
  split
  · rename_i c
    constructor
    · exact fun h => ⟨c, rfl, Bool.or_eq_true_iff.1 h⟩
    · rintro ⟨d, hd, hmem⟩
      obtain ⟨rfl, -⟩ := List.cons_eq_cons.1 hd
      exact Bool.or_eq_true_iff.2 hmem
  · rename_i hcs
    simp only [Bool.false_eq_true, false_iff]
    rintro ⟨c, rfl, -⟩
    exact hcs c rfl

end Numeral

/-- A text is taken for a numeral exactly if it is a single character that stands for a
number, or a sign followed by a name or by a mantissa with an exponent. -/
theorem isNumeral_iff (text : String) :
    isNumeral text = true ↔
      (∃ c, text.toList = [c] ∧ (c ∈ CharSet.number ∨ c ∈ CharSet.hanNumeral)) ∨
        ∃ sign body, text.toList = sign ++ body ∧ Numeral.IsSign sign ∧
          (Numeral.IsName body ∨ ∃ mantissa exponent, body = mantissa ++ exponent ∧
            Numeral.IsMantissa mantissa ∧ Numeral.IsExponent exponent) := by
  rw [isNumeral, Bool.or_eq_true, Numeral.isReal_eq_true_iff, Numeral.isSingle_eq_true_iff, or_comm]

-- A `_` may stand neither at an end of a group nor next to another.
example : (["1_.5", "1._5", "1__5", "_1", ".5e+1_0", "5.e3", "+１_2.E-٣", "-InFinitY", "."].map
    isNumeral) = [false, false, false, false, true, true, true, true, false] := by
  decide +kernel

end ShuntingYard
