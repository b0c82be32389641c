/-
Expressions that go on.

An expression can fail at its end, where an operator finds no operand or a parenthesis is
still open, and then what comes behind it may mend it.  It can also fail at a lexeme, which
is not mended by what comes behind: if the expression goes on behind a blank, the lexemes
that were there are still there, and the run stops at the same one.  A token that is not
recognised and a parenthesis that closes nothing are faults of a lexeme.

* `Grammar.parse_eq_error_of_foldlM_eq_error` — a fault of a lexeme stays where it is;
* `Cause.IsOfLexeme`, `Yard.faults_finish` — the causes that do not come up at the end;
* `Grammar.parse_error_persists` — expressions that fail for such a cause still fail for it,
  at the same place, however they go on.
-/
import ShuntingYard.Proofs.Joints
import ShuntingYard.Proofs.Runs

namespace ShuntingYard

/-- A cause that only a lexeme can have, and not the end of an expression. -/
def Cause.IsOfLexeme : Cause → Prop
  | unrecognisedToken _ => True
  | unbalancedParentheses symbol => symbol = ")"
  | malformedExpression _ | missingOperand _ => False

/-- No fault that comes up at the end is one of a lexeme. -/
theorem Yard.faults_finish {yard : Yard} {whole : Span} :
    Meets (fun fault => ¬ fault.cause.IsOfLexeme) (fun _ => True)
      (yard.finish whole).outcome := by
  refine (faults_reduceGroup fun _ _ => not_false).bind ?_
  rintro ⟨_ | opened, pending, trees⟩ -
  · rcases trees with _ | ⟨tree, _ | ⟨other, trees⟩⟩
    · exact .error not_false
    · exact .ok trivial
    · exact .error not_false
  · -- What is left open here is an opening parenthesis, and not a closing one.
    have hne : "(" ≠ ")" := by decide
    exact .error hne

namespace Grammar

variable {g : Grammar} {expression longer : String} {failure : Failure}

/-- A fault that comes up while the lexemes are read stays if more lexemes follow. -/
theorem parse_eq_error_of_foldlM_eq_error {fault : Fault}
    (hlonger : lexemes expression <+: lexemes longer)
    (h : ((lexemes expression).foldlM (Yard.read g) Yard.empty).outcome = .error fault) :
    g.parse longer = .error ⟨fault, longer⟩ := by
  refine parse_eq_error_iff_run.2 ⟨rfl, ?_⟩
  rw [outcome_run, Traced.outcome_bind_eq_error_iff]
  exact Or.inl (Traced.outcome_foldlM_eq_error_of_prefix hlonger h)

/-- A fault of a lexeme comes up while the lexemes are read. -/
theorem foldlM_eq_error_of_isOfLexeme (h : g.parse expression = .error failure)
    (hcause : failure.cause.IsOfLexeme) :
    ((lexemes expression).foldlM (Yard.read g) Yard.empty).outcome = .error failure.toFault := by
  obtain ⟨-, hrun⟩ := parse_eq_error_iff_run.1 h
  rw [outcome_run, Traced.outcome_bind_eq_error_iff] at hrun
  rcases hrun with hread | ⟨yard, -, hfinish⟩
  · exact hread
  · exact absurd hcause (Yard.faults_finish.of_eq_error hfinish)

/-- If a token is not recognised, or a parenthesis closes nothing, this is so however the
expression goes on behind a blank. -/
theorem parse_error_persists (h : g.parse expression = .error failure)
    (hcause : failure.cause.IsOfLexeme) {blank : Char} (hblank : isBlank blank = true)
    (rest : String) :
    g.parse (expression ++ String.singleton blank ++ rest) =
      .error ⟨failure.toFault, expression ++ String.singleton blank ++ rest⟩ :=
  parse_eq_error_of_foldlM_eq_error (lexemes_prefix_append_blank hblank expression rest)
    (foldlM_eq_error_of_isOfLexeme h hcause)

/-- More parentheses do not open what has been closed, and the token is still the first that
is not recognised. -/
theorem parse_error_persists_past_parentheses :
    standard.parse "1 ) 2" = .error ⟨⟨.unbalancedParentheses ")", ⟨2, 3⟩⟩, "1 ) 2"⟩ ∧
      standard.parse ("1 ) 2" ++ String.singleton '\u3000' ++ "( + ζ") =
        .error ⟨⟨.unbalancedParentheses ")", ⟨2, 3⟩⟩,
          "1 ) 2" ++ String.singleton '\u3000' ++ "( + ζ"⟩ ∧
      standard.parse "( 1 + ζ" = .error ⟨⟨.unrecognisedToken "ζ", ⟨6, 8⟩⟩, "( 1 + ζ"⟩ ∧
      standard.parse ("( 1 + ζ" ++ String.singleton '\n' ++ ") ) ξ") =
        .error ⟨⟨.unrecognisedToken "ζ", ⟨6, 8⟩⟩,
          "( 1 + ζ" ++ String.singleton '\n' ++ ") ) ξ"⟩ := by
  have hclosed : standard.parse "1 ) 2" =
      .error ⟨⟨.unbalancedParentheses ")", ⟨2, 3⟩⟩, "1 ) 2"⟩ :=
    parse_eq_error_iff_run.2 ⟨rfl, by decide +kernel⟩
  have htoken : standard.parse "( 1 + ζ" =
      .error ⟨⟨.unrecognisedToken "ζ", ⟨6, 8⟩⟩, "( 1 + ζ"⟩ :=
    parse_eq_error_iff_run.2 ⟨rfl, by decide +kernel⟩
  have hwide : isBlank '\u3000' = true := by decide +kernel
  have hfeed : isBlank '\n' = true := by decide +kernel
  exact ⟨hclosed, parse_error_persists hclosed rfl hwide "( + ζ",
    htoken, parse_error_persists htoken trivial hfeed ") ) ξ"⟩

end Grammar

end ShuntingYard
