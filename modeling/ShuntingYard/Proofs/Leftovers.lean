/-
The trees that are left over.

At the end of an expression every waiting operator is reduced.  If none misses an operand
and no parenthesis is found open, some trees are left, and there should be one.  Each operand
has added a tree and each operator has made one tree of two, so the number that is left is
told by the lexemes.

* `ReversePolish.length_of_evaluate` — the number of trees that entries leave;
* `Fault.IsLocal` — faults that are not about the expression as a whole, as are all that
  come up before the trees are counted;
* `Grammar.Spells.length_add_length`, `Grammar.Spells.eq_nil_iff` — the number of trees that
  an expression spells, and when there are none;
* `Grammar.parse_eq_malformed_iff` — an expression is malformed exactly if it spells some
  other number of trees than one;
* `Grammar.parse_malformed` — the number that is reported, and the tip that goes with it.
-/
import ShuntingYard.Proofs.Conservation

namespace ShuntingYard

namespace ReversePolish

/-- Each operand adds a tree, and each operator makes one of two. -/
theorem length_of_evaluate {entries : List Entry} {trees result : List Tree}
    (h : evaluate entries trees = some result) :
    result.length + (entries.filterMap Entry.operator?).length =
      trees.length + (entries.filterMap Entry.operand?).length := by
  induction entries generalizing trees with
  | nil =>
    cases h
    rfl
  | cons entry entries ih =>
    cases entry with
    | operand text =>
      have hrest := ih h
      simp only [List.filterMap_cons, Entry.operand?, Entry.operator?, List.length_cons] at hrest ⊢
      omega
    | operator symbol =>
      rcases trees with _ | ⟨right, _ | ⟨left, trees⟩⟩
      · cases h
      · cases h
      · have hrest := ih h
        simp only [List.filterMap_cons, Entry.operand?, Entry.operator?,
          List.length_cons] at hrest ⊢
        omega

end ReversePolish

/-! ### Faults that come up before the trees are counted -/

/-- The fault is not about the number of trees that the whole expression leaves. -/
def Fault.IsLocal (fault : Fault) : Prop := ∀ count, fault.cause ≠ .malformedExpression count

theorem Fault.isLocal_missingOperand (symbol : String) (span : Span) :
    (⟨.missingOperand symbol, span⟩ : Fault).IsLocal := nofun

namespace Yard

variable {g : Grammar} {yard : Yard}

theorem isLocal_step {token : Token} {span : Span} :
    Meets Fault.IsLocal (fun _ => True) (yard.step token span).outcome := by
  cases token with
  | operand text => exact .ok trivial
  | openParen => exact .ok trivial
  | operator symbol binding =>
    exact (faults_reduceBefore Fault.isLocal_missingOperand).bind fun _ _ => .ok trivial
  | closeParen =>
    refine (faults_reduceGroup Fault.isLocal_missingOperand).bind ?_
    rintro ⟨_ | opened, next⟩ -
    · exact .error nofun
    · exact .ok trivial

theorem isLocal_read {lexeme : Lexeme} :
    Meets Fault.IsLocal (fun _ => True) (yard.read g lexeme).outcome := by
  rw [outcome_read]
  split
  · exact .error nofun
  · exact isLocal_step

/-- The number of trees is at fault if no parenthesis is open and it is not one. -/
theorem finish_eq_malformed_iff {whole span : Span} {count : Nat} :
    (yard.finish whole).outcome = .error ⟨.malformedExpression count, span⟩ ↔
      span = whole ∧ count ≠ 1 ∧
        ∃ rest, (reduceGroup yard.pending yard.trees).outcome = .ok (none, rest) ∧
          rest.trees.length = count := by
  rw [finish, Traced.outcome_bind_eq_error_iff]
  constructor
  · rintro (hreduce | ⟨⟨_ | opened, rest⟩, hreduce, hrest⟩)
    · exact absurd rfl
        ((faults_reduceGroup Fault.isLocal_missingOperand).of_eq_error hreduce count)
    · rcases htrees : rest.trees with _ | ⟨tree, _ | ⟨other, trees⟩⟩ <;>
        simp only [htrees] at hrest
      · cases hrest
        exact ⟨rfl, by decide, rest, hreduce, by rw [htrees, List.length_nil]⟩
      · cases hrest
      · cases hrest
        exact ⟨rfl, by simp, rest, hreduce, by rw [htrees]⟩
    · cases hrest
  · rintro ⟨rfl, hcount, rest, hreduce, rfl⟩
    refine Or.inr ⟨(none, rest), hreduce, ?_⟩
    rcases htrees : rest.trees with _ | ⟨tree, _ | ⟨other, trees⟩⟩
    · simp [htrees]
    · exact absurd (by rw [htrees]; rfl) hcount
    · simp [htrees]

end Yard

namespace Grammar

variable {g : Grammar} {expression : String} {trees : List Tree} {failure : Failure}

/-! ### The number of trees -/

theorem Spells.classify_ne_none (h : g.Spells expression trees) {lexeme : Lexeme}
    (hlexeme : lexeme ∈ lexemes expression) : g.classify lexeme.text ≠ none := by
  obtain ⟨tokens, output, htokens, -, -⟩ := h
  exact classify_ne_none_of_tokens? htokens hlexeme

/-- The trees and the operators are together as many as the operands. -/
theorem Spells.length_add_length (h : g.Spells expression trees) :
    trees.length + (g.operatorSymbols expression).length =
      (g.operandTexts expression).length := by
  obtain ⟨tokens, output, htokens, hsort, hread⟩ := h
  obtain ⟨hoperands, hoperators⟩ := ReversePolish.conserved_sort hsort
  have hlength := ReversePolish.length_of_evaluate hread
  rw [operandTexts_of_tokens? htokens, operatorSymbols_of_tokens? htokens, ← hoperands,
    ← hoperators.length_eq, hlength, List.length_nil, Nat.zero_add]

/-- No trees are spelled only where there is nothing to spell one. -/
theorem Spells.eq_nil_iff (h : g.Spells expression trees) :
    trees = [] ↔ g.operandTexts expression = [] ∧ g.operatorSymbols expression = [] := by
  constructor
  · rintro rfl
    obtain ⟨tokens, output, htokens, hsort, hread⟩ := h
    obtain ⟨hoperands, hoperators⟩ := ReversePolish.conserved_sort hsort
    obtain rfl : [] = output := ReversePolish.flatMap_entries_of_evaluate hread
    rw [operandTexts_of_tokens? htokens, operatorSymbols_of_tokens? htokens, ← hoperands,
      List.nil_perm.1 hoperators]
    exact ⟨rfl, rfl⟩
  · rintro ⟨hoperands, -⟩
    have hlength := h.length_add_length
    rw [hoperands, List.length_nil] at hlength
    exact List.length_eq_zero_iff.1 (by omega)

/-- An expression is malformed exactly if it spells some other number of trees than one. -/
theorem parse_eq_malformed_iff {count : Nat} {span : Span} :
    g.parse expression = .error ⟨⟨.malformedExpression count, span⟩, expression⟩ ↔
      span = ⟨0, expression.utf8ByteSize⟩ ∧ count ≠ 1 ∧
        ∃ trees, g.Spells expression trees ∧ trees.length = count := by
  rw [parse_eq_error_iff]
  constructor
  · rintro ⟨-, ⟨before, lexeme, after, yard, -, -, hread⟩ | ⟨yard, hyard, hfinish⟩⟩
    · exact absurd rfl (Yard.isLocal_read.of_eq_error hread count)
    · obtain ⟨hspan, hcount, rest, hreduce, hlength⟩ := Yard.finish_eq_malformed_iff.1 hfinish
      exact ⟨hspan, hcount, rest.trees,
        spells_iff_reduceGroup.2 ⟨yard, hyard, rest, hreduce, rfl⟩, hlength⟩
  · rintro ⟨hspan, hcount, trees, hspells, hlength⟩
    obtain ⟨yard, hyard, rest, hreduce, rfl⟩ := spells_iff_reduceGroup.1 hspells
    exact ⟨rfl, Or.inr ⟨yard, hyard,
      Yard.finish_eq_malformed_iff.2 ⟨hspan, hcount, rest, hreduce, hlength⟩⟩⟩

/-- A malformed expression has only lexemes that are classified, and as many more operands
than operators as it is said to leave trees.  That is never one, and it is none only where
there are neither operands nor operators, which is what the tip then says. -/
theorem parse_malformed {count : Nat} (h : g.parse expression = .error failure)
    (hcause : failure.cause = .malformedExpression count) :
    (∀ lexeme ∈ lexemes expression, g.classify lexeme.text ≠ none) ∧
      (∃ trees, g.Spells expression trees ∧ trees.length = count) ∧
        (g.operatorSymbols expression).length ≤ (g.operandTexts expression).length ∧
          count = (g.operandTexts expression).length - (g.operatorSymbols expression).length ∧
            count ≠ 1 ∧
              (count = 0 ↔
                g.operandTexts expression = [] ∧ g.operatorSymbols expression = []) ∧
                failure.cause.tip? = some
                  (if g.operandTexts expression = [] then "The expression contains no operands"
                    else toString count ++
                      " operands are left without an operator joining them") := by
  obtain ⟨⟨cause, span⟩, expression'⟩ := failure
  obtain rfl : cause = .malformedExpression count := hcause
  obtain rfl : expression' = expression := (parse_eq_error_iff.1 h).1
  obtain ⟨-, hcount, trees, hspells, hlength⟩ := parse_eq_malformed_iff.1 h
  have hsum := hspells.length_add_length
  have hnil := hspells.eq_nil_iff
  rw [← List.length_eq_zero_iff, hlength] at hnil
  refine ⟨fun lexeme hlexeme => hspells.classify_ne_none hlexeme, ⟨trees, hspells, hlength⟩,
    by omega, by omega, hcount, hnil, ?_⟩
  cases count with
  | zero =>
    rw [if_pos (hnil.1 rfl).1]
    rfl
  | succ others =>
    -- Without operands there would be no trees.
    have hne : g.operandTexts expression' ≠ [] := by
      intro hoperands
      rw [hoperands, List.length_nil] at hsum
      omega
    rw [if_neg hne]
    rfl

/-- With a group between two operands, and with groups around nothing. -/
theorem parse_malformed_around_groups :
    standard.parse "1 (2 + 3) 4" = .error ⟨⟨.malformedExpression 3, ⟨0, 11⟩⟩, "1 (2 + 3) 4"⟩ ∧
      3 = (standard.operandTexts "1 (2 + 3) 4").length -
        (standard.operatorSymbols "1 (2 + 3) 4").length ∧
      standard.parse "( () )" = .error ⟨⟨.malformedExpression 0, ⟨0, 6⟩⟩, "( () )"⟩ ∧
      standard.operandTexts "( () )" = [] ∧ standard.operatorSymbols "( () )" = [] := by
  have hthree : standard.parse "1 (2 + 3) 4" =
      .error ⟨⟨.malformedExpression 3, ⟨0, 11⟩⟩, "1 (2 + 3) 4"⟩ :=
    parse_eq_error_iff_run.2 ⟨rfl, by decide +kernel⟩
  have hnone : standard.parse "( () )" =
      .error ⟨⟨.malformedExpression 0, ⟨0, 6⟩⟩, "( () )"⟩ :=
    parse_eq_error_iff_run.2 ⟨rfl, by decide +kernel⟩
  obtain ⟨-, -, -, hcount, -⟩ := parse_malformed hthree rfl
  obtain ⟨-, -, -, -, -, hzero, -⟩ := parse_malformed hnone rfl
  exact ⟨hthree, hcount, hnone, hzero.1 rfl⟩

end Grammar

end ShuntingYard
