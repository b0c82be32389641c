/-
Where a failure points.

A failure tells a cause and a place.  The place may have come a long way: it was taken from a
lexeme, it waited in the yard with an operator or a parenthesis, and it was reported when
another lexeme was read or at the end.  It is still a place at which the expression has just
the text that the cause names.

* `Cause.subject?` — the text that a cause names;
* `Grammar.Locates` — the place of a fault, by its cause;
* `Grammar.classify_ne_none_of_foldlM_read` — all lexemes that have been read are classified,
  so the one that is reported as unrecognised is the first;
* `Grammar.Locates.slice?_span` — what is to be read at the place;
* `Grammar.parse_error_place` — the place of a failure.
-/
import ShuntingYard.Proofs.Failures
import ShuntingYard.Proofs.Segmentation

namespace ShuntingYard

/-- The text that a cause names, if it is not about the whole expression. -/
def Cause.subject? : Cause → Option String
  | unrecognisedToken token => some token
  | unbalancedParentheses symbol => some symbol
  | missingOperand operator => some operator
  | malformedExpression _ => none

namespace Grammar

variable {g : Grammar} {expression : String} {failure : Failure} {fault : Fault}

/-- The fault is where the text stands that its cause names.  An unrecognised token is the
first lexeme that is not classified, and a malformed expression is at fault as a whole. -/
def Locates (g : Grammar) (expression : String) (fault : Fault) : Prop :=
  match fault.cause with
  | .unrecognisedToken token =>
    ∃ before after, lexemes expression = before ++ ⟨token, fault.span⟩ :: after ∧
      g.classify token = none ∧ ∀ lexeme ∈ before, g.classify lexeme.text ≠ none
  | .missingOperand operator =>
    ⟨operator, fault.span⟩ ∈ lexemes expression ∧ g.kind? operator = some .operator
  | .unbalancedParentheses symbol => ⟨symbol, fault.span⟩ ∈ lexemes expression
  | .malformedExpression _ => fault.span = ⟨0, expression.utf8ByteSize⟩

/-! ### The first lexeme that is not classified -/

/-- All lexemes that have been read are classified. -/
theorem classify_ne_none_of_foldlM_read {read : List Lexeme} {yard : Yard}
    (h : (read.foldlM (Yard.read g) Yard.empty).outcome = .ok yard) :
    ∀ lexeme ∈ read, g.classify lexeme.text ≠ none := by
  refine @Yard.foldlM_read_induction g
    (fun read _ => ∀ lexeme ∈ read, g.classify lexeme.text ≠ none) ?_ ?_ _ _ h
  · intro lexeme hlexeme
    cases hlexeme
  · intro before yard' lexeme next hbefore hread other hother
    rcases List.mem_append.1 hother with hmem | hmem
    · exact hbefore other hmem
    · obtain rfl := List.mem_singleton.1 hmem
      intro hnone
      rw [Yard.outcome_read, hnone] at hread
      cases hread

/-- The token that is reported as unrecognised is the first that is not classified. -/
theorem exists_of_unrecognisedToken {token : String} (h : g.parse expression = .error failure)
    (hcause : failure.cause = .unrecognisedToken token) :
    ∃ before after, lexemes expression = before ++ ⟨token, failure.span⟩ :: after ∧
      g.classify token = none ∧ ∀ lexeme ∈ before, g.classify lexeme.text ≠ none := by
  obtain ⟨-, hplace⟩ := parse_eq_error_iff.1 h
  obtain ⟨⟨cause, span⟩, expression'⟩ := failure
  obtain rfl : cause = .unrecognisedToken token := hcause
  rcases hplace with ⟨before, lexeme, after, yard, hlexemes, hyard, hread⟩ | ⟨yard, hyard, hfinish⟩
  · have hbefore := classify_ne_none_of_foldlM_read hyard
    have hmeets := Layout.meets_read (Layout.laidOut_of_foldlM_read hyard) lexeme [] ⟨0, 0⟩
    -- Of the lexemes up to this one only the last can be the one that is reported.
    cases hmeets.of_eq_error hread with
    | @unrecognised reported hmem hnone =>
      rcases List.mem_append.1 hmem with hmem | hmem
      · exact absurd hnone (hbefore reported hmem)
      · obtain rfl := List.mem_singleton.1 hmem
        exact ⟨before, after, hlexemes, hnone, hbefore⟩
  · have hall := classify_ne_none_of_foldlM_read hyard
    have hmeets := Layout.meets_finish (Layout.laidOut_of_foldlM_read hyard)
    cases (hmeets _).of_eq_error hfinish with
    | @unrecognised reported hmem hnone => exact absurd hnone (hall reported hmem)

/-! ### The place of a failure -/

/-- Every failure is where the text stands that its cause names. -/
theorem locates_of_parse_eq_error (h : g.parse expression = .error failure) :
    g.Locates expression failure.toFault := by
  have hfails := fails_of_parse_eq_error h
  obtain ⟨⟨cause, span⟩, expression'⟩ := failure
  cases hfails with
  | unrecognised => exact exists_of_unrecognisedToken h rfl
  | @missing front left right back symbol binding span hlexemes hbinding =>
    refine ⟨?_, ?_⟩
    · rw [hlexemes]
      exact List.mem_append_right _ List.mem_cons_self
    · rw [kind?, classify_eq_operator_iff.2 ⟨rfl, hbinding⟩]
      rfl
  | @unopened before after closing hlexemes _ hclose =>
    show ⟨")", closing.span⟩ ∈ lexemes expression
    rw [hlexemes, ← hclose]
    exact List.mem_append_right _ List.mem_cons_self
  | @unclosed before after span hlexemes =>
    show ⟨"(", span⟩ ∈ lexemes expression
    rw [hlexemes]
    exact List.mem_append_right _ List.mem_cons_self
  | malformed => rfl

/-- At its place stands what the cause names, or else the place is the whole expression. -/
theorem Locates.slice?_span (h : g.Locates expression fault) :
    fault.span.slice? expression = some (fault.cause.subject?.getD expression) := by
  have hlexeme : ∀ text, ⟨text, fault.span⟩ ∈ lexemes expression →
      fault.span.slice? expression = some text :=
    fun text hmem => (isSegmentation_lexemes expression).slice _ hmem
  obtain ⟨cause, span⟩ := fault
  cases cause with
  | unrecognisedToken token =>
    obtain ⟨before, after, hlexemes, -, -⟩ := h
    refine hlexeme token ?_
    rw [hlexemes]
    exact List.mem_append_right _ List.mem_cons_self
  | missingOperand operator => exact hlexeme operator h.1
  | unbalancedParentheses symbol => exact hlexeme symbol h
  | malformedExpression count =>
    obtain rfl : span = ⟨0, expression.utf8ByteSize⟩ := h
    exact Span.slice?_whole expression

/-- A failure holds its expression, and its place selects whole characters of it: the text
that the cause names, at the lexeme that it is about, or all of the expression. -/
theorem parse_error_place (h : g.parse expression = .error failure) :
    failure.expression = expression ∧ failure.span.IsWithin expression ∧
      failure.span.slice? expression = some (failure.cause.subject?.getD expression) ∧
        g.Locates expression failure.toFault := by
  have hlocates := locates_of_parse_eq_error h
  have hslice := hlocates.slice?_span
  exact ⟨(parse_eq_error_iff.1 h).1, Span.exists_slice?_eq_some_iff.1 ⟨_, hslice⟩, hslice, hlocates⟩

/-- The first of two unrecognised tokens, and an operator that is at fault only at the end,
both behind characters of more than one byte. -/
theorem parse_error_place_behind_wide_characters :
    standard.parse "1\u00a0+ ζ - ξ" =
        .error ⟨⟨.unrecognisedToken "ζ", ⟨5, 7⟩⟩, "1\u00a0+ ζ - ξ"⟩ ∧
      (⟨5, 7⟩ : Span).slice? "1\u00a0+ ζ - ξ" = some "ζ" ∧
      standard.Locates "1\u00a0+ ζ - ξ" ⟨.unrecognisedToken "ζ", ⟨5, 7⟩⟩ ∧
      standard.parse "\u20033 * (4 - )" =
        .error ⟨⟨.missingOperand "*", ⟨5, 6⟩⟩, "\u20033 * (4 - )"⟩ ∧
      (⟨5, 6⟩ : Span).IsWithin "\u20033 * (4 - )" ∧
      standard.Locates "\u20033 * (4 - )" ⟨.missingOperand "*", ⟨5, 6⟩⟩ := by
  have htoken : standard.parse "1\u00a0+ ζ - ξ" =
      .error ⟨⟨.unrecognisedToken "ζ", ⟨5, 7⟩⟩, "1\u00a0+ ζ - ξ"⟩ :=
    parse_eq_error_iff_run.2 ⟨rfl, by decide +kernel⟩
  have hgap : standard.parse "\u20033 * (4 - )" =
      .error ⟨⟨.missingOperand "*", ⟨5, 6⟩⟩, "\u20033 * (4 - )"⟩ :=
    parse_eq_error_iff_run.2 ⟨rfl, by decide +kernel⟩
  obtain ⟨-, -, hslice, hfirst⟩ := parse_error_place htoken
  obtain ⟨-, hwithin, -, hoperator⟩ := parse_error_place hgap
  exact ⟨htoken, hslice, hfirst, hgap, hwithin, hoperator⟩

end Grammar

end ShuntingYard
