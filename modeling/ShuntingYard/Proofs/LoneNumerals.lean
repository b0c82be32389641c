/-
Texts that are an operand as a whole.

An expression of a single leaf may have blanks or parentheses around it.  Where there are
none, the expression is the leaf: it is a word, no operator, and the grammar takes it for an
operand.  A numeral is always a word, since neither its digits nor its signs, points and
letters separate words, and no operator of arithmetic is a numeral.  So in arithmetic the
numerals are exactly the texts that stand for themselves.

* `isWordChar_of_mem` — the characters of a set that lies apart from blanks and parentheses;
* `Numeral.isWordChar_of_isReal`, `isWord_of_isNumeral` — a numeral is a word;
* `isOperator_standard_of_isNumeral` — no operator of arithmetic is a numeral;
* `Grammar.parse_eq_ok_leaf_iff` — the texts that are their own tree, under any grammar;
* `parse_leaf_iff_isNumeral` — the texts that are their own tree in arithmetic.
-/
import ShuntingYard.Proofs.Numerals
import ShuntingYard.Proofs.RoundTrip
import ShuntingYard.Proofs.Symbols

namespace ShuntingYard

/-- A set without blanks and parentheses holds word characters only. -/
theorem isWordChar_of_mem {s : CharSet} (hblank : s.isDisjoint CharSet.blank = true)
    (hopen : ¬ '(' ∈ s) (hclose : ¬ ')' ∈ s) {c : Char} (hc : c ∈ s) : isWordChar c = true := by
  rw [isWordChar_eq_true_iff]
  constructor
  · exact Bool.eq_false_iff.2 (CharSet.not_mem_of_isDisjoint hblank hc)
  · rw [Bool.eq_false_iff, Ne, isParen, Bool.or_eq_true, beq_iff_eq, beq_iff_eq]
    rintro (rfl | rfl)
    · exact hopen hc
    · exact hclose hc

namespace Numeral

/-! ### The characters of a numeral -/

theorem isWordChar_of_mem_decimalDigit {c : Char} (hc : c ∈ CharSet.decimalDigit) :
    isWordChar c = true :=
  isWordChar_of_mem (by decide +kernel) (by decide +kernel) (by decide +kernel) hc

theorem isWordChar_of_mem_number {c : Char} (hc : c ∈ CharSet.number) : isWordChar c = true :=
  isWordChar_of_mem (by decide +kernel) (by decide +kernel) (by decide +kernel) hc

theorem isWordChar_of_mem_hanNumeral {c : Char} (hc : c ∈ CharSet.hanNumeral) :
    isWordChar c = true :=
  isWordChar_of_mem (by decide +kernel) (by decide +kernel) (by decide +kernel) hc

theorem IsGroup.forall_isWordChar {group : List Char} (h : IsGroup group) :
    ∀ c ∈ group, isWordChar c = true := by
  intro c hc
  rcases h.digits c hc with hdigit | rfl
  · exact isWordChar_of_mem_decimalDigit hdigit
  · decide

theorem IsMantissa.forall_isWordChar {mantissa : List Char} (h : IsMantissa mantissa) :
    ∀ c ∈ mantissa, isWordChar c = true := by
  have hpoint : isWordChar '.' = true := by decide
  cases h with
  | whole h => exact h.forall_isWordChar
  | pointed h =>
    simp only [List.forall_mem_append, List.forall_mem_singleton]
    exact ⟨h.forall_isWordChar, hpoint⟩
  | fraction h =>
    rw [List.forall_mem_cons]
    exact ⟨hpoint, h.forall_isWordChar⟩
  | mixed h hfraction =>
    rw [List.forall_mem_append, List.forall_mem_cons]
    exact ⟨h.forall_isWordChar, hpoint, hfraction.forall_isWordChar⟩

theorem IsSign.forall_isWordChar {sign : List Char} (h : IsSign sign) :
    ∀ c ∈ sign, isWordChar c = true := by
  cases h with
  | absent => exact List.forall_mem_nil _
  | plus =>
    rw [List.forall_mem_singleton]
    decide
  | minus =>
    rw [List.forall_mem_singleton]
    decide

theorem IsExponent.forall_isWordChar {exponent : List Char} (h : IsExponent exponent) :
    ∀ c ∈ exponent, isWordChar c = true := by
  cases h with
  | absent => exact List.forall_mem_nil _
  | power hletter hsign hgroup =>
    rw [List.forall_mem_cons, List.forall_mem_append]
    refine ⟨?_, hsign.forall_isWordChar, hgroup.forall_isWordChar⟩
    rcases hletter with rfl | rfl
    · decide
    · decide

/-- A word is spelled with its letters in lower or in upper case. -/
theorem IsSpelled.forall_isWordChar {word : String} {cs : List Char} (h : IsSpelled word cs)
    (hword : (word.toList.all fun c => isWordChar c && isWordChar c.toUpper) = true) :
    ∀ c ∈ cs, isWordChar c = true := by
  unfold IsSpelled at h
  generalize word.toList = letters at h hword
  induction h with
  | nil => exact List.forall_mem_nil _
  | cons hfirst hrest ih =>
    rw [List.all_cons, Bool.and_eq_true, Bool.and_eq_true] at hword
    obtain ⟨⟨hlower, hupper⟩, hword⟩ := hword
    rw [List.forall_mem_cons]
    refine ⟨?_, ih hword⟩
    rcases hfirst with rfl | rfl
    · exact hlower
    · exact hupper

theorem IsName.forall_isWordChar {name : List Char} (h : IsName name) :
    ∀ c ∈ name, isWordChar c = true := by
  rcases h with h | h | h
  · exact h.forall_isWordChar (by decide +kernel)
  · exact h.forall_isWordChar (by decide +kernel)
  · exact h.forall_isWordChar (by decide +kernel)

theorem isWordChar_of_isReal {cs : List Char} (h : isReal cs = true) :
    ∀ c ∈ cs, isWordChar c = true := by
  obtain ⟨sign, body, rfl, hsign, hbody⟩ := isReal_eq_true_iff.1 h
  rw [List.forall_mem_append]
  refine ⟨hsign.forall_isWordChar, ?_⟩
  rcases hbody with hname | ⟨mantissa, exponent, rfl, hmantissa, hexponent⟩
  · exact hname.forall_isWordChar
  · rw [List.forall_mem_append]
    exact ⟨hmantissa.forall_isWordChar, hexponent.forall_isWordChar⟩

end Numeral

/-- A numeral is a word. -/
theorem isWord_of_isNumeral {text : String} (h : isNumeral text = true) : IsWord text := by
  constructor
  · rintro rfl
    exact absurd h (by decide +kernel)
  · rcases Bool.or_eq_true_iff.1 h with hreal | hsingle
    · exact Numeral.isWordChar_of_isReal hreal
    · obtain ⟨c, htext, hc⟩ := Numeral.isSingle_eq_true_iff.1 hsingle
      rw [htext, List.forall_mem_singleton]
      exact hc.elim Numeral.isWordChar_of_mem_number Numeral.isWordChar_of_mem_hanNumeral

/-- No operator of arithmetic is a numeral: a sign alone is none. -/
theorem isOperator_standard_of_isNumeral {text : String} (h : isNumeral text = true) :
    Grammar.standard.isOperator text = false := by
  have hnone : (Grammar.standard.operators.all fun symbol => !isNumeral symbol) = true := by
    decide +kernel
  rw [Bool.eq_false_iff]
  intro hoperator
  have hmem := Grammar.mem_operators_iff.2 (Grammar.isOperator_eq_true_iff.1 hoperator)
  have hnot := List.all_eq_true.1 hnone text hmem
  rw [h] at hnot
  cases hnot

/-- A text is its own tree exactly if it is a word, is no operator, and passes the grammar's
test for operands. -/
theorem Grammar.parse_eq_ok_leaf_iff {g : Grammar} {text : String} :
    g.parse text = .ok (.leaf text) ↔
      IsWord text ∧ g.isOperator text = false ∧ g.isOperand text = true := by
  rw [← wellLabelled_leaf_iff]
  -- A leaf alone is written as its value, so this is what is read back.
  exact ⟨wellLabelled_of_parse, parse_bracketed_of_wellLabelled⟩

/-- A numeral is a leaf of arithmetic. -/
theorem wellLabelled_of_isNumeral {text : String} (h : isNumeral text = true) :
    Grammar.standard.WellLabelled (.leaf text) :=
  Grammar.wellLabelled_leaf_iff.2
    ⟨isWord_of_isNumeral h, isOperator_standard_of_isNumeral h, Grammar.isOperand_standard ▸ h⟩

/-- In arithmetic a text is its own tree exactly if it is a numeral.  A numeral is a single
lexeme, from its first character to its last, and it is taken for an operand. -/
theorem parse_leaf_iff_isNumeral (text : String) :
    (parse text = .ok (.leaf text) ↔ isNumeral text = true) ∧
      (isNumeral text = true →
        lexemes text = [⟨text, ⟨0, text.utf8ByteSize⟩⟩] ∧
          Grammar.standard.classify text = some (.operand text)) := by
  refine ⟨⟨?_, ?_⟩, ?_⟩
  · intro h
    obtain ⟨-, -, hoperand⟩ := Grammar.parse_eq_ok_leaf_iff.1 h
    rwa [Grammar.isOperand_standard] at hoperand
  · intro h
    rw [parse]
    exact Grammar.parse_eq_ok_leaf_iff.2
      (Grammar.wellLabelled_leaf_iff.1 (wellLabelled_of_isNumeral h))
  · intro h
    have hclassify := Grammar.classify_of_mem_tokens_part (wellLabelled_of_isNumeral h)
    exact ⟨lexemes_of_isWord (isWord_of_isNumeral h),
      hclassify (.operand text) (List.mem_singleton_self _)⟩

end ShuntingYard
