/-
Other blanks and other operands.

An expression can be laid out with other blanks, and its operands can be spelled otherwise.
As long as every lexeme stays of its kind and every operator is the same symbol, nothing else
changes: the operators take the same operands, so the tree has the new texts at its leaves,
and an expression without a tree still has none, for the same cause at the same lexeme.

* `Grammar.Respelled` — two expressions that differ in blanks and in the texts of operands;
* `Fault.Alike` — the same cause at the lexemes of the same index;
* `Grammar.readsAlike_of_forall₂` — what stands behind as many lexemes in both expressions
  reads alike, the operands counted from those in front;
* `Grammar.parse_of_respelled` — the same tree with other leaves, or faults that are alike.
-/
import ShuntingYard.Proofs.Conservation
import ShuntingYard.Proofs.Correspondence

namespace ShuntingYard

/-- Lexemes with the same index in two expressions. -/
def SameIndex (expression expression' : String) (lexeme lexeme' : Lexeme) : Prop :=
  ∃ i : Nat, (lexemes expression)[i]? = some lexeme ∧ (lexemes expression')[i]? = some lexeme'

/-- The same cause at lexemes with the same index, or at the whole of both expressions.  The
text that is not recognised is the lexeme's own in each of them. -/
inductive Fault.Alike (expression expression' : String) : Fault → Fault → Prop where
  | unrecognisedToken {lexeme lexeme' : Lexeme}
      (h : SameIndex expression expression' lexeme lexeme') :
      Alike expression expression' ⟨.unrecognisedToken lexeme.text, lexeme.span⟩
        ⟨.unrecognisedToken lexeme'.text, lexeme'.span⟩
  | missingOperand {lexeme lexeme' : Lexeme} (operator : String)
      (h : SameIndex expression expression' lexeme lexeme') :
      Alike expression expression' ⟨.missingOperand operator, lexeme.span⟩
        ⟨.missingOperand operator, lexeme'.span⟩
  | unbalancedParentheses {lexeme lexeme' : Lexeme} (symbol : String)
      (h : SameIndex expression expression' lexeme lexeme') :
      Alike expression expression' ⟨.unbalancedParentheses symbol, lexeme.span⟩
        ⟨.unbalancedParentheses symbol, lexeme'.span⟩
  | malformedExpression (operands : Nat) :
      Alike expression expression'
        ⟨.malformedExpression operands, ⟨0, expression.utf8ByteSize⟩⟩
        ⟨.malformedExpression operands, ⟨0, expression'.utf8ByteSize⟩⟩

namespace Grammar

variable {g : Grammar} {expression expression' : String}

/-- Lexemes of the same kind, or of none; operators are the same symbol. -/
def SameKind (g : Grammar) (lexeme lexeme' : Lexeme) : Prop :=
  g.kind? lexeme.text = g.kind? lexeme'.text ∧
    (g.isOperator lexeme.text = true → lexeme.text = lexeme'.text)

instance (g : Grammar) (lexeme lexeme' : Lexeme) : Decidable (g.SameKind lexeme lexeme') :=
  inferInstanceAs (Decidable (_ ∧ _))

/-- The expressions differ at most in their blanks and in the texts of their operands, and of
what is not recognised. -/
def Respelled (g : Grammar) (expression expression' : String) : Prop :=
  List.Forall₂ g.SameKind (lexemes expression) (lexemes expression')

instance (g : Grammar) (expression expression' : String) :
    Decidable (g.Respelled expression expression') :=
  inferInstanceAs (Decidable (List.Forall₂ _ _ _))

/-- Each leaf is exchanged for the operand of the second expression at its place, and lexemes
with the same index are compared. -/
def respelling (g : Grammar) (expression expression' : String) : Comparison :=
  .silent
    (fun span span' => ∃ lexeme lexeme', SameIndex expression expression' lexeme lexeme' ∧
      lexeme.span = span ∧ lexeme'.span = span')
    (fun place _ => .leaf ((g.operandTexts expression').getD place ""))
    (Fault.Alike expression expression')
    (by
      rintro _ _ operator ⟨lexeme, lexeme', h, rfl, rfl⟩
      exact .missingOperand operator h)
    (by
      rintro _ _ symbol ⟨lexeme, lexeme', h, rfl, rfl⟩
      exact .unbalancedParentheses symbol h)

/-! ### Lexeme by lexeme -/

/-- The operand behind some lexemes stands in the list of all operands at the place that
counts the operands among them. -/
theorem getD_operandTexts {before after : List Lexeme} {lexeme : Lexeme} {text : String}
    (hlexemes : lexemes expression = before ++ lexeme :: after)
    (h : g.classify lexeme.text = some (.operand text)) :
    (g.operandTexts expression).getD (g.operandCount before) "" = text := by
  rw [operandTexts, hlexemes, List.filterMap_append, List.getD_eq_getElem?_getD, operandCount,
    List.getElem?_append_right (Nat.le_refl _), Nat.sub_self, List.filterMap_cons, h]
  rfl

/-- What stands behind as many lexemes in both expressions reads alike, if it does lexeme by
lexeme. -/
theorem readsAlike_of_forall₂ {before before' after after' : List Lexeme}
    (hlexemes : lexemes expression = before ++ after)
    (hlexemes' : lexemes expression' = before' ++ after')
    (hlength : before.length = before'.length) (h : List.Forall₂ g.SameKind after after') :
    (g.respelling expression expression').ReadsAlike g g (g.operandCount before') after after' := by
  induction h generalizing before before' with
  | nil => exact .nil _
  | @cons lexeme lexeme' others others' hsame _ ih =>
    have hindex : SameIndex expression expression' lexeme lexeme' := by
      refine ⟨before.length, ?_, ?_⟩
      · rw [hlexemes, List.getElem?_append_right (Nat.le_refl _), Nat.sub_self]
        rfl
      · rw [hlexemes', hlength, List.getElem?_append_right (Nat.le_refl _), Nat.sub_self]
        rfl
    rcases classify_of_kind?_eq hsame.1 with
      ⟨hnone, hnone'⟩ | ⟨token, token', htoken, htoken', hkind⟩
    · exact .unrecognised hnone hnone' (.unrecognisedToken hindex)
    · have halike : token.Alike (g.respelling expression expression') (g.operandCount before')
          token' := by
        refine .of_kind_eq hkind ?_ ?_
        · rintro text text' rfl rfl
          exact congrArg Tree.leaf (getD_operandTexts hlexemes' htoken')
        · rintro symbol binding symbol' binding' rfl rfl
          obtain ⟨rfl, hbinding⟩ := classify_eq_operator_iff.1 htoken
          obtain ⟨rfl, hbinding'⟩ := classify_eq_operator_iff.1 htoken'
          have htext := hsame.2 (isOperator_eq_true_iff.2 ⟨binding, hbinding⟩)
          exact ⟨htext, Option.some_inj.1 (hbinding.symm.trans (htext ▸ hbinding'))⟩
      have hwidth : token.width = token'.width := by cases halike <;> rfl
      refine .token htoken htoken' halike ⟨_, _, hindex, rfl, rfl⟩ rfl ?_
      have hothers := @ih (before ++ [lexeme]) (before' ++ [lexeme']) (by simp [hlexemes])
        (by simp [hlexemes']) (by simp [hlength])
      rwa [operandCount_append, operandCount_cons htoken', ← hwidth] at hothers

/-! ### Whole expressions -/

/-- An expression that is respelled has the same tree with the new operands at its leaves,
or fails for the same cause at the same lexeme. -/
theorem parse_of_respelled (h : g.Respelled expression expression') :
    (∀ tree, g.parse expression = .ok tree →
        g.parse expression' =
            .ok (tree.relabel fun place => (g.operandTexts expression').getD place "") ∧
          tree.leaves.length = (g.operandTexts expression').length) ∧
      ∀ failure, g.parse expression = .error failure →
        ∃ failure', g.parse expression' = .error failure' ∧
          Fault.Alike expression expression' failure.toFault failure'.toFault := by
  have halike : (g.respelling expression expression').ReadsAlike g g 0 (lexemes expression)
      (lexemes expression') := @readsAlike_of_forall₂ g _ _ [] [] _ _ rfl rfl rfl h
  have hmatching :=
    (Comparison.parallel_run halike Fault.Alike.malformedExpression rfl fun _ => rfl).outcome
  refine ⟨fun tree htree => ?_, fun failure hfailure => hmatching.exists_parse_eq_error hfailure⟩
  obtain ⟨tree', htree', rfl⟩ := hmatching.exists_parse_eq_ok htree
  refine ⟨htree', ?_⟩
  -- The new tree has as many leaves, and they are the operands of its expression.
  obtain ⟨tokens, htokens, -⟩ := parse_eq_ok_iff_sort.1 htree'
  rw [operandTexts_of_tokens? htokens, ← leaves_eq_of_tokens? htree' htokens]
  show tree.leaves.length = (tree.relabel _).leaves.length
  rw [Tree.leaves_relabel, List.length_map, List.length_range]

/-- Other blanks, some of them of more than one byte, around other operands: once with a tree,
and once where an operator is still waiting for an operand at the end. -/
theorem parse_differences_respelled :
    standard.Respelled "8 - (3 - 2 ^ 4) - 5" "8.5 -( 30\t- 0 ^ 4 )-\n\n5" ∧
      standard.parse "8 - (3 - 2 ^ 4) - 5" =
        .ok (.node "-" (.node "-" (.leaf "8") (.node "-" (.leaf "3")
          (.node "^" (.leaf "2") (.leaf "4")))) (.leaf "5")) ∧
      standard.parse "8.5 -( 30\t- 0 ^ 4 )-\n\n5" =
        .ok (.node "-" (.node "-" (.leaf "8.5") (.node "-" (.leaf "30")
          (.node "^" (.leaf "0") (.leaf "4")))) (.leaf "5")) ∧
      standard.Respelled "3 * (4 - )" "30\u00a0\u00a0*\u00a0(4.5 -)" ∧
      standard.parse "3 * (4 - )" =
        .error ⟨⟨.missingOperand "*", ⟨2, 3⟩⟩, "3 * (4 - )"⟩ ∧
      ∃ failure', standard.parse "30\u00a0\u00a0*\u00a0(4.5 -)" = .error failure' ∧
        Fault.Alike "3 * (4 - )" "30\u00a0\u00a0*\u00a0(4.5 -)" ⟨.missingOperand "*", ⟨2, 3⟩⟩
          failure'.toFault := by
  have hrespelled : standard.Respelled "8 - (3 - 2 ^ 4) - 5" "8.5 -( 30\t- 0 ^ 4 )-\n\n5" := by
    decide +kernel
  have hgap : standard.Respelled "3 * (4 - )" "30\u00a0\u00a0*\u00a0(4.5 -)" := by
    decide +kernel
  have htree : standard.parse "8 - (3 - 2 ^ 4) - 5" =
      .ok (.node "-" (.node "-" (.leaf "8") (.node "-" (.leaf "3")
        (.node "^" (.leaf "2") (.leaf "4")))) (.leaf "5")) :=
    parse_eq_ok_iff_sort.2
      ⟨[.operand "8", .operator "-" ⟨0, .left⟩, .openParen, .operand "3",
        .operator "-" ⟨0, .left⟩, .operand "2", .operator "^" ⟨2, .right⟩, .operand "4",
        .closeParen, .operator "-" ⟨0, .left⟩, .operand "5"], by decide +kernel, by decide⟩
  have hfailure : standard.parse "3 * (4 - )" =
      .error ⟨⟨.missingOperand "*", ⟨2, 3⟩⟩, "3 * (4 - )"⟩ :=
    parse_eq_error_iff_run.2 ⟨rfl, by decide +kernel⟩
  have hleaves : (Tree.node "-" (.node "-" (.leaf "8") (.node "-" (.leaf "3")
        (.node "^" (.leaf "2") (.leaf "4")))) (.leaf "5")).relabel (fun place =>
          (standard.operandTexts "8.5 -( 30\t- 0 ^ 4 )-\n\n5").getD place "") =
      .node "-" (.node "-" (.leaf "8.5") (.node "-" (.leaf "30")
        (.node "^" (.leaf "0") (.leaf "4")))) (.leaf "5") := by
    decide +kernel
  have htree' := ((parse_of_respelled hrespelled).1 _ htree).1
  rw [hleaves] at htree'
  exact ⟨hrespelled, htree, htree', hgap, hfailure, (parse_of_respelled hgap).2 _ hfailure⟩

end Grammar

end ShuntingYard
