/-
What a failure says of the expression.

An expression fails at the first lexeme that the yard cannot take in, or at the end.  The
layout of what has been read up to there tells what is wrong with it: a parenthesis that is
closed has nothing open in front of it, a parenthesis that is open at the end has no
partner, and an operator that finds too few trees has an operand missing in what it should
have joined.

The operator that is blamed need not be the one next to the gap: in `1 + 1 *` the product
takes both operands, and nothing is left for the sum.

* `Layout.meets_reduceBefore`, `Layout.meets_reduceGroup` — the layout behind reductions;
* `Layout.meets_read`, `Layout.laidOut_of_foldlM_read` — the layout behind one lexeme more,
  and behind any number of them;
* `Grammar.fails_of_parse_eq_error`, `Grammar.balanced_of_parse_eq_ok` — every failure has
  its reason, and every tree comes from balanced lexemes;
* `Grammar.parse_parentheses` — the parentheses of an expression, by its result;
* `Grammar.parse_missingOperand` — the operator that is blamed for a missing operand.
-/
import ShuntingYard.Proofs.Layout
import ShuntingYard.Proofs.Runs

namespace ShuntingYard

namespace Layout

variable {g : Grammar} {whole : Span} {read : List Lexeme} {yard : Yard} {waiting : List Waiting}
  {top : List Lexeme}

/-! ### Reductions -/

/-- An operator is reduced, or an operand is missing. -/
theorem meets_reduce {pending : List Pending} {trees : List Tree} {below : List Waiting}
    {left right after : List Lexeme} {symbol : String} {binding : Binding} {span : Span}
    (h : Layout g read ⟨.operator symbol binding span :: pending, trees⟩
      (⟨left, .operator symbol binding span⟩ :: below) right)
    (hafter : ∀ lexeme ∈ after.head?, lexeme.text = ")" ∨
      ∃ other, g.binding? lexeme.text = some other ∧ binding.reducesBefore other = true) :
    Meets (g.Fails (read ++ after) whole)
      (fun trees' => Layout g read ⟨pending, trees'⟩ below (left ++ ⟨symbol, span⟩ :: right))
      (Yard.reduce symbol span trees).outcome := by
  rcases trees with _ | ⟨rightTree, _ | ⟨leftTree, trees⟩⟩
  · exact .error (h.fails (by decide) hafter)
  · exact .error (h.fails (Nat.lt_succ_self 1) hafter)
  · exact .ok (h.join rfl)

/-- Once the operators are reduced that go before an incoming one, all that is settled
behind the latest entry goes before it, and the entry waits for it. -/
theorem meets_reduceBefore {lexeme : Lexeme} {incoming : Binding}
    (hlexeme : g.binding? lexeme.text = some incoming) (after : List Lexeme) (whole : Span)
    {pending : List Pending} {trees : List Tree} (h : Layout g read ⟨pending, trees⟩ waiting top)
    (htop : ∀ other, g.Outside top other → other.reducesBefore incoming = true) :
    Meets (g.Fails (read ++ lexeme :: after) whole)
      (fun next => ∃ waiting top, Layout g read next waiting top ∧ Waits waiting incoming ∧
        ∀ other, g.Outside top other → other.reducesBefore incoming = true)
      (Yard.reduceBefore incoming pending trees).outcome := by
  induction waiting generalizing pending trees top with
  | nil =>
    obtain rfl : pending = [] := h.pending
    exact .ok ⟨[], top, h, trivial, htop⟩
  | cons first below ih =>
    obtain ⟨settled, entry⟩ := first
    obtain ⟨rest, rfl⟩ : ∃ rest, pending = entry :: rest := ⟨_, h.pending⟩
    cases entry with
    | openParen span => exact .ok ⟨_, top, h, trivial, htop⟩
    | operator symbol binding span =>
      rw [Yard.reduceBefore]
      by_cases hbefore : binding.reducesBefore incoming = true
      · rw [if_pos hbefore]
        have hafter : ∀ other ∈ (lexeme :: after).head?, other.text = ")" ∨
            ∃ next, g.binding? other.text = some next ∧ binding.reducesBefore next = true := by
          intro other hother
          obtain rfl := Option.some_inj.1 hother
          exact Or.inr ⟨incoming, hlexeme, hbefore⟩
        refine (h.meets_reduce hafter).bind fun trees' hreduced => ih hreduced ?_
        intro other houtside
        obtain ⟨-, hleft, hbinding, -, hsettled⟩ := h.ordered.of_operator
        rcases Grammar.outside_join hleft hbinding houtside with houtside | rfl | houtside
        · exact Binding.reducesBefore_trans (hsettled other houtside).2 hbefore
        · exact hbefore
        · exact htop other houtside
      · rw [if_neg hbefore]
        exact .ok ⟨_, top, h, Bool.eq_false_iff.2 hbefore, htop⟩

/-- The layout once the operators of a group are reduced.  If there was a parenthesis in
front of them, it still waits in this layout. -/
def OfGroup (g : Grammar) (read : List Lexeme) : Option Span × Yard → Prop
  | (none, yard) => ∃ top, Layout g read yard [] top
  | (some span, yard) => ∃ below settled top,
    Layout g read ⟨.openParen span :: yard.pending, yard.trees⟩
      (⟨settled, .openParen span⟩ :: below) top

theorem meets_reduceGroup {after : List Lexeme} (hafter : ∀ lexeme ∈ after.head?, lexeme.text = ")")
    {pending : List Pending} {trees : List Tree} (h : Layout g read ⟨pending, trees⟩ waiting top)
    (whole : Span) :
    Meets (g.Fails (read ++ after) whole) (OfGroup g read)
      (Yard.reduceGroup pending trees).outcome := by
  induction waiting generalizing pending trees top with
  | nil =>
    obtain rfl : pending = [] := h.pending
    exact .ok ⟨top, h⟩
  | cons first below ih =>
    obtain ⟨settled, entry⟩ := first
    obtain ⟨rest, rfl⟩ : ∃ rest, pending = entry :: rest := ⟨_, h.pending⟩
    cases entry with
    | openParen span => exact .ok ⟨below, settled, top, h⟩
    | operator symbol binding span =>
      rw [Yard.reduceGroup]
      exact (h.meets_reduce fun lexeme hlexeme => Or.inl (hafter lexeme hlexeme)).bind
        fun trees' hreduced => ih hreduced

/-! ### One lexeme more -/

/-- The yard has a layout of what has been read, and a token ends there. -/
def LaidOut (g : Grammar) (read : List Lexeme) (yard : Yard) : Prop :=
  ∃ waiting top, Layout g read yard waiting top ∧ g.AtRest top

/-- The layout behind a token. -/
theorem meets_step (h : Layout g read yard waiting top) (hrest : g.AtRest top) {lexeme : Lexeme}
    {token : Token} (htoken : g.classify lexeme.text = some token) (after : List Lexeme) :
    Meets (g.Fails (read ++ lexeme :: after) whole)
      (LaidOut g (read ++ [lexeme]))
      (yard.step token lexeme.span).outcome := by
  obtain ⟨text, span⟩ := lexeme
  obtain ⟨pending, trees⟩ := yard
  cases token with
  | operand operand =>
    obtain ⟨rfl, hopen, hclose, hbinding, -⟩ := Grammar.classify_eq_operand_iff.1 htoken
    have hsingle : g.AtRest [⟨operand, span⟩] := Grammar.atRest_singleton hopen hbinding
    refine .ok ⟨waiting, top ++ [⟨operand, span⟩], ?_, hrest.append h.balanced (by simp) hsingle⟩
    exact h.operand hrest (balanced_singleton hopen hclose) hsingle (.leaf operand)
  | openParen =>
    obtain rfl := Grammar.classify_eq_openParen_iff.1 htoken
    have hordered : g.Ordered (⟨top, .openParen span⟩ :: waiting) :=
      .openParen h.ordered h.balanced hrest
    exact .ok ⟨⟨top, .openParen span⟩ :: waiting, [], h.push hordered, g.atRest_nil⟩
  | operator symbol incoming =>
    obtain ⟨rfl, hincoming⟩ := Grammar.classify_eq_operator_iff.1 htoken
    -- No operator has been settled outside of groups when the next one arrives.
    have hreduced := h.meets_reduceBefore hincoming after whole
      (fun other houtside => absurd houtside (hrest.not_outside other))
    refine hreduced.bind ?_
    rintro next ⟨waiting', top', hnext, hwaits, hbefore⟩
    have hordered : g.Ordered (⟨top', .operator symbol incoming span⟩ :: waiting') :=
      .operator hnext.ordered hnext.balanced hincoming hwaits
        fun other houtside => ⟨hnext.waits other houtside, hbefore other houtside⟩
    exact .ok ⟨_, [], hnext.push hordered, g.atRest_nil⟩
  | closeParen =>
    obtain rfl := Grammar.classify_eq_closeParen_iff.1 htoken
    have hclosing : ∀ lexeme ∈ (⟨")", span⟩ :: after : List Lexeme).head?, lexeme.text = ")" := by
      intro lexeme hlexeme
      obtain rfl := Option.some_inj.1 hlexeme
      rfl
    have hreduced := meets_reduceGroup hclosing h whole
    refine hreduced.bind ?_
    rintro ⟨_ | opened, next⟩ hfound
    · obtain ⟨top', hnext⟩ := hfound
      obtain rfl : read = top' := hnext.read
      exact .error (.unopened rfl hnext.balanced rfl)
    · obtain ⟨below, settled, inner, hnext⟩ := hfound
      have hclose : (⟨")", span⟩ : Lexeme).text = ")" := rfl
      obtain ⟨hclosed, hclosedRest⟩ := hnext.close hclose
      exact .ok ⟨below, _, hclosed, hclosedRest⟩

/-- The layout behind a lexeme. -/
theorem meets_read (h : LaidOut g read yard) (lexeme : Lexeme) (after : List Lexeme)
    (whole : Span) :
    Meets (g.Fails (read ++ lexeme :: after) whole) (LaidOut g (read ++ [lexeme]))
      (yard.read g lexeme).outcome := by
  obtain ⟨waiting, top, hlayout, hrest⟩ := h
  rw [Yard.outcome_read]
  cases htoken : g.classify lexeme.text with
  | none => exact .error (.unrecognised (by simp) htoken)
  | some token => exact hlayout.meets_step hrest htoken after

/-- Every yard that is reached has its layout. -/
theorem laidOut_of_foldlM_read (h : (read.foldlM (Yard.read g) Yard.empty).outcome = .ok yard) :
    LaidOut g read yard := by
  refine Yard.foldlM_read_induction ?_ ?_ h
  · exact ⟨[], [], empty g, g.atRest_nil⟩
  · intro before yard' lexeme next hlaid hnext
    exact (meets_read hlaid lexeme [] ⟨0, 0⟩).of_eq_ok hnext

/-! ### The end of the expression -/

/-- No beginning of what is covered closes more parentheses than it opens. -/
theorem neverBelow_covered {waiting : List Waiting} (h : g.Ordered waiting) :
    NeverBelow (covered waiting) := by
  induction h with
  | nil => exact neverBelow_nil
  | openParen _ hbalanced _ ih =>
    exact (ih.append hbalanced.neverBelow).concat (by simp [Pending.lexeme])
  | operator _ hbalanced hbinding _ _ ih =>
    rw [covered]
    exact (ih.append hbalanced.neverBelow).append (Grammar.balanced_operator hbinding _).neverBelow

/-- The result of the end of the expression. -/
theorem meets_finish (h : LaidOut g read yard) (whole : Span) :
    Meets (g.Fails read whole) (fun _ => Balanced read) (yard.finish whole).outcome := by
  obtain ⟨waiting, top, hlayout, -⟩ := h
  have hend : ∀ lexeme ∈ ([] : List Lexeme).head?, lexeme.text = ")" := by simp
  have hreduced := meets_reduceGroup hend hlayout whole
  rw [List.append_nil] at hreduced
  refine hreduced.bind ?_
  rintro ⟨_ | opened, pending, trees⟩ hfound
  · obtain ⟨top', hnext⟩ := hfound
    obtain rfl : read = top' := hnext.read
    rcases trees with _ | ⟨tree, _ | ⟨other, trees⟩⟩
    · exact .error (.malformed hnext.balanced)
    · exact .ok hnext.balanced
    · exact .error (.malformed hnext.balanced)
  · obtain ⟨below, settled, inner, hnext⟩ := hfound
    obtain ⟨hbelow, hsettled, -⟩ := hnext.ordered.of_openParen
    have hread : read = (covered below ++ settled) ++ ⟨"(", opened⟩ :: inner := by
      rw [hnext.read, covered]
      simp [Pending.lexeme]
    exact .error (.unclosed hread ((neverBelow_covered hbelow).append hsettled.neverBelow)
      hnext.balanced)

end Layout

namespace Grammar

variable {g : Grammar} {expression : String} {failure : Failure} {tree : Tree}

/-- Every failure has its reason in the lexemes. -/
theorem fails_of_parse_eq_error (h : g.parse expression = .error failure) :
    g.Fails (lexemes expression) ⟨0, expression.utf8ByteSize⟩ failure.toFault := by
  obtain ⟨-, ⟨before, lexeme, after, yard, hlexemes, hyard, hread⟩ | ⟨yard, hyard, hfinish⟩⟩ :=
    parse_eq_error_iff.1 h
  · rw [hlexemes]
    have hmeets := Layout.meets_read (Layout.laidOut_of_foldlM_read hyard) lexeme after
    exact (hmeets _).of_eq_error hread
  · exact (Layout.meets_finish (Layout.laidOut_of_foldlM_read hyard) _).of_eq_error hfinish

/-- Every tree comes from balanced lexemes. -/
theorem balanced_of_parse_eq_ok (h : g.parse expression = .ok tree) :
    Balanced (lexemes expression) := by
  obtain ⟨yard, hyard, hfinish⟩ := parse_eq_ok_iff_finish.1 h
  exact (Layout.meets_finish (Layout.laidOut_of_foldlM_read hyard) _).of_eq_ok hfinish

/-! ### Parentheses -/

/-- The parentheses of an expression, by its result. -/
theorem parse_parentheses (g : Grammar) (expression : String) :
    ((∃ tree, g.parse expression = .ok tree) ∨
        (∃ failure count, g.parse expression = .error failure ∧
          failure.cause = .malformedExpression count) →
      Balanced (lexemes expression)) ∧
    (∀ failure, g.parse expression = .error failure →
      failure.cause = .unbalancedParentheses ")" →
        FirstUnopened (lexemes expression) failure.span) ∧
    (∀ failure, g.parse expression = .error failure →
      failure.cause = .unbalancedParentheses "(" →
        NeverBelow (lexemes expression) ∧
          closes (lexemes expression) < opens (lexemes expression) ∧
            LastUnclosed (lexemes expression) failure.span) ∧
    (Balanced (lexemes expression) → ∀ failure, g.parse expression = .error failure →
      ∀ symbol, failure.cause ≠ .unbalancedParentheses symbol) := by
  refine ⟨?_, ?_, ?_, ?_⟩
  · rintro (⟨tree, h⟩ | ⟨failure, count, h, hcause⟩)
    · exact balanced_of_parse_eq_ok h
    · exact (fails_of_parse_eq_error h).balanced hcause
  · intro failure h hcause
    exact (fails_of_parse_eq_error h).firstUnopened hcause
  · intro failure h hcause
    exact (fails_of_parse_eq_error h).lastUnclosed hcause
  · intro hbalanced failure h symbol hcause
    exact (fails_of_parse_eq_error h).not_balanced hcause hbalanced

/-- With balanced parentheses, with one closed too often, and with one that is not closed
in front of one that is. -/
theorem parse_parentheses_at_fault :
    standard.parse "(1) 2" = .error ⟨⟨.malformedExpression 2, ⟨0, 5⟩⟩, "(1) 2"⟩ ∧
      Balanced (lexemes "(1) 2") ∧
    standard.parse "1 ) (" = .error ⟨⟨.unbalancedParentheses ")", ⟨2, 3⟩⟩, "1 ) ("⟩ ∧
      FirstUnopened (lexemes "1 ) (") ⟨2, 3⟩ ∧
    standard.parse "( ( 1 )" = .error ⟨⟨.unbalancedParentheses "(", ⟨0, 1⟩⟩, "( ( 1 )"⟩ ∧
      LastUnclosed (lexemes "( ( 1 )") ⟨0, 1⟩ := by
  obtain ⟨hleft, hclosed, hopen⟩ :
      standard.parse "(1) 2" = .error ⟨⟨.malformedExpression 2, ⟨0, 5⟩⟩, "(1) 2"⟩ ∧
        standard.parse "1 ) (" = .error ⟨⟨.unbalancedParentheses ")", ⟨2, 3⟩⟩, "1 ) ("⟩ ∧
          standard.parse "( ( 1 )" =
            .error ⟨⟨.unbalancedParentheses "(", ⟨0, 1⟩⟩, "( ( 1 )"⟩ := by
    refine ⟨?_, ?_, ?_⟩
    · exact parse_eq_error_iff_run.2 ⟨rfl, by decide +kernel⟩
    · exact parse_eq_error_iff_run.2 ⟨rfl, by decide +kernel⟩
    · exact parse_eq_error_iff_run.2 ⟨rfl, by decide +kernel⟩
  have hbalanced := (parse_parentheses standard "(1) 2").1 (Or.inr ⟨_, 2, hleft, rfl⟩)
  have hfirst := (parse_parentheses standard "1 ) (").2.1 _ hclosed rfl
  obtain ⟨-, -, hlast⟩ := (parse_parentheses standard "( ( 1 )").2.2.1 _ hopen rfl
  exact ⟨hleft, hbalanced, hclosed, hfirst, hopen, hlast⟩

/-! ### Missing operands -/

/-- Of an operator that is blamed for a missing operand, an operand is missing in one of the
two stretches that it has to join. -/
theorem parse_missingOperand {operator : String} (h : g.parse expression = .error failure)
    (hcause : failure.cause = .missingOperand operator) :
    ∃ front left right back binding,
      lexemes expression = front ++ left ++ ⟨operator, failure.span⟩ :: (right ++ back) ∧
        g.binding? operator = some binding ∧ g.Joins front left binding right back ∧
          (g.Lacks left ∨ g.Lacks right) := by
  have hfails := fails_of_parse_eq_error h
  obtain ⟨⟨cause, span⟩, expression'⟩ := failure
  obtain rfl : cause = .missingOperand operator := hcause
  cases hfails with
  | missing hlexemes hbinding hjoins hlacks =>
    exact ⟨_, _, _, _, _, hlexemes, hbinding, hjoins, hlacks⟩

/-- The difference in the group takes what the product should have joined. -/
theorem parse_product_with_gap :
    standard.parse "2 * ( 3 - )" = .error ⟨⟨.missingOperand "*", ⟨2, 3⟩⟩, "2 * ( 3 - )"⟩ ∧
      ∃ front left right back binding,
        lexemes "2 * ( 3 - )" = front ++ left ++ ⟨"*", ⟨2, 3⟩⟩ :: (right ++ back) ∧
          standard.binding? "*" = some binding ∧ standard.Joins front left binding right back ∧
            (standard.Lacks left ∨ standard.Lacks right) := by
  have h : standard.parse "2 * ( 3 - )" =
      .error ⟨⟨.missingOperand "*", ⟨2, 3⟩⟩, "2 * ( 3 - )"⟩ :=
    parse_eq_error_iff_run.2 ⟨rfl, by decide +kernel⟩
  exact ⟨h, parse_missingOperand h rfl⟩

/-- The sum that is blamed has an operand on either side.  It is the product behind it that
has none on the right. -/
theorem parse_sum_with_operands :
    standard.parse "1 + 1 *" = .error ⟨⟨.missingOperand "+", ⟨2, 3⟩⟩, "1 + 1 *"⟩ ∧
      ¬ ∃ before after, lexemes "1 + 1 *" = before ++ ⟨"+", ⟨2, 3⟩⟩ :: after ∧
        ((∀ lexeme ∈ before.getLast?, standard.DueBehind lexeme) ∨
          ∀ lexeme ∈ after.head?, standard.DueBefore lexeme) := by
  have hlexemes : lexemes "1 + 1 *" =
      [⟨"1", ⟨0, 1⟩⟩, ⟨"+", ⟨2, 3⟩⟩, ⟨"1", ⟨4, 5⟩⟩, ⟨"*", ⟨6, 7⟩⟩] := by decide +kernel
  have hoperand : ∀ span, ¬ standard.DueBehind ⟨"1", span⟩ ∧ ¬ standard.DueBefore ⟨"1", span⟩ := by
    have hparen : "1" ≠ "(" ∧ "1" ≠ ")" := by decide
    have hoperator : standard.isOperator "1" = false := by decide +kernel
    intro span
    simp [DueBehind, DueBefore, hparen, hoperator]
  refine ⟨parse_eq_error_iff_run.2 ⟨rfl, by decide +kernel⟩, ?_⟩
  rintro ⟨before, after, heq, hgap⟩
  rw [hlexemes] at heq
  obtain ⟨rfl, rfl⟩ : before = [⟨"1", ⟨0, 1⟩⟩] ∧ after = [⟨"1", ⟨4, 5⟩⟩, ⟨"*", ⟨6, 7⟩⟩] := by
    rcases before with _ | ⟨first, _ | ⟨second, _ | ⟨third, _ | ⟨fourth, before⟩⟩⟩⟩
    all_goals simp_all
  rcases hgap with hgap | hgap
  · exact (hoperand _).1 (hgap _ rfl)
  · exact (hoperand _).2 (hgap _ rfl)

end Grammar

end ShuntingYard
