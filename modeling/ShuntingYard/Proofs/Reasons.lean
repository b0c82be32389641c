/-
What can be wrong with the lexemes of an expression.

* `Grammar.Lacks` — an operand is missing somewhere among some lexemes;
* `Grammar.Joins` — the two stretches of lexemes that an operator has to join;
* `FirstUnopened`, `LastUnclosed` — the parentheses that have no partner;
* `Grammar.Fails` — the reason for each kind of fault;
* `Grammar.Fails.firstUnopened`, `Grammar.Fails.lastUnclosed`, `Grammar.Fails.balanced` —
  what a fault tells about the parentheses.
-/
import ShuntingYard.Failure
import ShuntingYard.Proofs.Balance
import ShuntingYard.Token

namespace ShuntingYard

/-! ### Missing operands -/

namespace Grammar

variable {g : Grammar} {before after lexemes : List Lexeme} {lexeme : Lexeme}

/-- An operand or a group has to stand behind the lexeme. -/
def DueBehind (g : Grammar) (lexeme : Lexeme) : Prop :=
  lexeme.text = "(" ∨ g.isOperator lexeme.text = true

/-- An operand or a group has to stand in front of the lexeme. -/
def DueBefore (g : Grammar) (lexeme : Lexeme) : Prop :=
  lexeme.text = ")" ∨ g.isOperator lexeme.text = true

/-- Behind a closing parenthesis no operand is due. -/
theorem not_dueBehind_of_text_eq (h : lexeme.text = ")") : ¬ g.DueBehind lexeme := by
  rw [DueBehind, h, isOperator_eq_true_iff]
  rintro (htext | ⟨binding, hbinding⟩)
  · exact absurd htext (by decide)
  · exact not_isWord_closeParen (isWord_of_binding?_eq_some hbinding)

/-- An operand is missing among the lexemes: at some place the lexeme in front is none, an
operator or an opening parenthesis, and the lexeme behind is none, an operator or a closing
parenthesis. -/
def Lacks (g : Grammar) (lexemes : List Lexeme) : Prop :=
  ∃ before after, lexemes = before ++ after ∧
    (∀ lexeme ∈ before.getLast?, g.DueBehind lexeme) ∧ ∀ lexeme ∈ after.head?, g.DueBefore lexeme

theorem lacks_nil : g.Lacks [] := ⟨[], [], rfl, by simp, by simp⟩

/-- What is missing in front of a lexeme is still missing if an operand may not stand for it. -/
theorem Lacks.append_cons (h : g.Lacks before) (hlexeme : g.DueBefore lexeme)
    (after : List Lexeme) : g.Lacks (before ++ lexeme :: after) := by
  obtain ⟨front, back, rfl, hfront, hback⟩ := h
  refine ⟨front, back ++ lexeme :: after, List.append_assoc _ _ _, hfront, ?_⟩
  intro other hother
  cases back with
  | nil =>
    obtain rfl := Option.some_inj.1 hother
    exact hlexeme
  | cons first back => exact hback other hother

theorem Lacks.cons_append (h : g.Lacks after) (hlexeme : g.DueBehind lexeme)
    (before : List Lexeme) : g.Lacks (before ++ lexeme :: after) := by
  obtain ⟨front, back, rfl, hfront, hback⟩ := h
  refine ⟨before ++ lexeme :: front, back, by simp, ?_, hback⟩
  intro other hother
  rw [List.getLast?_append, List.getLast?_cons] at hother
  cases hlast : front.getLast? with
  | none =>
    rw [hlast] at hother
    obtain rfl := Option.some_inj.1 hother
    exact hlexeme
  | some last =>
    rw [hlast] at hother
    obtain rfl := Option.some_inj.1 hother
    exact hfront _ hlast

/-- What is missing before the end is still missing, whatever follows the end. -/
theorem Lacks.append (h : g.Lacks before) (hne : before ≠ [])
    (hlast : ∀ lexeme ∈ before.getLast?, ¬ g.DueBehind lexeme) (after : List Lexeme) :
    g.Lacks (before ++ after) := by
  obtain ⟨front, back, rfl, hfront, hback⟩ := h
  cases back with
  | nil =>
    rw [List.append_nil] at hne hlast
    obtain ⟨last, hmem⟩ := Option.isSome_iff_exists.1 (List.getLast?_isSome.2 hne)
    exact absurd (hfront last hmem) (hlast last hmem)
  | cons first back => exact ⟨front, first :: back ++ after, by simp, hfront, hback⟩

/-- An operator bound by `binding` has to join the balanced stretches `left` and `right`.
The operators outside of groups in `left` go before it, and it goes before none of those in
`right`.  The stretches reach as far as they can: in front of them stands nothing, an
opening parenthesis or an operator that does not go before it, and behind them nothing, a
closing parenthesis or an operator that it goes before. -/
structure Joins (g : Grammar) (front left : List Lexeme) (binding : Binding)
    (right back : List Lexeme) : Prop where
  balanced_left : Balanced left
  balanced_right : Balanced right
  outside_left : ∀ other, g.Outside left other → other.reducesBefore binding = true
  outside_right : ∀ other, g.Outside right other → binding.reducesBefore other = false
  front : ∀ lexeme ∈ front.getLast?, lexeme.text = "(" ∨
    ∃ other, g.binding? lexeme.text = some other ∧ other.reducesBefore binding = false
  back : ∀ lexeme ∈ back.head?, lexeme.text = ")" ∨
    ∃ other, g.binding? lexeme.text = some other ∧ binding.reducesBefore other = true

end Grammar

/-! ### Parentheses without a partner -/

/-- At `span` stands the first closing parenthesis at which more have been closed than
opened. -/
def FirstUnopened (lexemes : List Lexeme) (span : Span) : Prop :=
  ∃ before closing after, lexemes = before ++ closing :: after ∧ closing.text = ")" ∧
    closing.span = span ∧ NeverBelow before ∧
      opens (before ++ [closing]) < closes (before ++ [closing])

/-- At `span` stands the last opening parenthesis that is not closed behind it. -/
def LastUnclosed (lexemes : List Lexeme) (span : Span) : Prop :=
  ∃ before opening after, lexemes = before ++ opening :: after ∧ opening.text = "(" ∧
    opening.span = span ∧ ¬ ClosedBy after ∧
      ∀ front other rest, after = front ++ other :: rest → other.text = "(" → ClosedBy rest

variable {lexemes before after : List Lexeme} {closing : Lexeme} {span : Span}

theorem FirstUnopened.not_neverBelow (h : FirstUnopened lexemes span) : ¬ NeverBelow lexemes := by
  obtain ⟨before, closing, after, rfl, -, -, -, hlt⟩ := h
  intro hbelow
  have hle := hbelow (before ++ [closing]) ⟨after, by simp⟩
  omega

/-- Behind balanced lexemes a closing parenthesis has nothing to close. -/
theorem Balanced.firstUnopened (h : Balanced before) (hclose : closing.text = ")")
    (after : List Lexeme) : FirstUnopened (before ++ closing :: after) closing.span := by
  refine ⟨before, closing, after, rfl, hclose, rfl, h.neverBelow, ?_⟩
  have hequal := h.closes_eq_opens
  rw [opens_append, closes_append, opens_cons_closing hclose, closes_cons_closing hclose]
  simp only [opens_nil, closes_nil]
  omega

/-- In front of balanced lexemes an opening parenthesis is not closed, and is the last one
that is not. -/
theorem Balanced.lastUnclosed (h : Balanced after) (hbefore : NeverBelow before) (span : Span) :
    NeverBelow (before ++ ⟨"(", span⟩ :: after) ∧
      closes (before ++ ⟨"(", span⟩ :: after) < opens (before ++ ⟨"(", span⟩ :: after) ∧
        LastUnclosed (before ++ ⟨"(", span⟩ :: after) span := by
  have hopen : (⟨"(", span⟩ : Lexeme).text = "(" := rfl
  refine ⟨?_, ?_, before, ⟨"(", span⟩, after, rfl, hopen, rfl, ?_, ?_⟩
  · have hfront : NeverBelow (before ++ [⟨"(", span⟩]) := hbefore.concat (by simp)
    have hwhole := hfront.append h.neverBelow
    rwa [List.append_assoc] at hwhole
  · have hle := hbefore.closes_le_opens
    have hequal := h.closes_eq_opens
    rw [opens_append, closes_append, opens_cons_opening hopen, closes_cons_opening hopen]
    omega
  · rw [closedBy_iff, not_not]
    exact h.neverBelow
  · rintro front other rest rfl hother
    exact h.closedBy hother

/-! ### Reasons -/

namespace Grammar

/-- The fault tells what is wrong with the lexemes of an expression that extends over
`whole`. -/
inductive Fails (g : Grammar) (lexemes : List Lexeme) (whole : Span) : Fault → Prop where
  | unrecognised {lexeme : Lexeme} (hmem : lexeme ∈ lexemes)
      (hnone : g.classify lexeme.text = none) :
      Fails g lexemes whole ⟨.unrecognisedToken lexeme.text, lexeme.span⟩
  | missing {front left right back : List Lexeme} {symbol : String} {binding : Binding}
      {span : Span} (hlexemes : lexemes = front ++ left ++ ⟨symbol, span⟩ :: (right ++ back))
      (hbinding : g.binding? symbol = some binding) (hjoins : g.Joins front left binding right back)
      (hlacks : g.Lacks left ∨ g.Lacks right) :
      Fails g lexemes whole ⟨.missingOperand symbol, span⟩
  | unopened {before after : List Lexeme} {closing : Lexeme}
      (hlexemes : lexemes = before ++ closing :: after) (hbefore : Balanced before)
      (hclose : closing.text = ")") :
      Fails g lexemes whole ⟨.unbalancedParentheses ")", closing.span⟩
  | unclosed {before after : List Lexeme} {span : Span}
      (hlexemes : lexemes = before ++ ⟨"(", span⟩ :: after) (hbefore : NeverBelow before)
      (hafter : Balanced after) :
      Fails g lexemes whole ⟨.unbalancedParentheses "(", span⟩
  | malformed {count : Nat} (hbalanced : Balanced lexemes) :
      Fails g lexemes whole ⟨.malformedExpression count, whole⟩

namespace Fails

variable {g : Grammar} {whole : Span} {fault : Fault}

theorem firstUnopened (h : g.Fails lexemes whole fault)
    (hcause : fault.cause = .unbalancedParentheses ")") : FirstUnopened lexemes fault.span := by
  cases h with
  | unrecognised | missing | malformed => exact absurd hcause nofun
  | unclosed => exact absurd hcause (by simp)
  | unopened hlexemes hbefore hclose =>
    rw [hlexemes]
    exact hbefore.firstUnopened hclose _

theorem lastUnclosed (h : g.Fails lexemes whole fault)
    (hcause : fault.cause = .unbalancedParentheses "(") :
    NeverBelow lexemes ∧ closes lexemes < opens lexemes ∧ LastUnclosed lexemes fault.span := by
  cases h with
  | unrecognised | missing | malformed => exact absurd hcause nofun
  | unopened => exact absurd hcause (by simp)
  | unclosed hlexemes hbefore hafter =>
    rw [hlexemes]
    exact hafter.lastUnclosed hbefore _

theorem balanced {count : Nat} (h : g.Fails lexemes whole fault)
    (hcause : fault.cause = .malformedExpression count) : Balanced lexemes := by
  cases h with
  | unrecognised | missing | unopened | unclosed => exact absurd hcause nofun
  | malformed hbalanced => exact hbalanced

/-- Only the two parentheses are reported as such. -/
theorem symbol_eq {symbol : String} (h : g.Fails lexemes whole fault)
    (hcause : fault.cause = .unbalancedParentheses symbol) : symbol = ")" ∨ symbol = "(" := by
  cases h with
  | unrecognised | missing | malformed => exact absurd hcause nofun
  | unopened => exact Or.inl (Cause.unbalancedParentheses.inj hcause).symm
  | unclosed => exact Or.inr (Cause.unbalancedParentheses.inj hcause).symm

/-- Balanced parentheses are not at fault. -/
theorem not_balanced {symbol : String} (h : g.Fails lexemes whole fault)
    (hcause : fault.cause = .unbalancedParentheses symbol) : ¬ Balanced lexemes := by
  intro hbalanced
  rcases h.symbol_eq hcause with rfl | rfl
  · exact (h.firstUnopened hcause).not_neverBelow hbalanced.neverBelow
  · have hlt := (h.lastUnclosed hcause).2.1
    have hequal := hbalanced.closes_eq_opens
    omega

end Fails

end Grammar

end ShuntingYard
