/-
Tokens: the pieces of an expression with the part that they play in it.

* `Token` — an operand, an operator with its binding, or a parenthesis;
* `Token.Kind` — which of these it is;
* `Grammar.classify`, `Grammar.kind?` — the part that a piece of text plays under a grammar;
* `Token.text` — the piece of text again;
* `Token.describe` — the token as the log shows it.

An operator is never taken for an operand, whatever the test for operands says:
under the standard grammar `-` is always the operator.
-/
import ShuntingYard.Grammar

namespace ShuntingYard

/-- A piece of an expression and the part that it plays. -/
inductive Token where
  | operand (text : String)
  | operator (symbol : String) (binding : Binding)
  | openParen
  | closeParen
  deriving DecidableEq, Repr

/-- The kinds of tokens. -/
inductive Token.Kind where
  | operand
  | operator
  | openParen
  | closeParen
  deriving DecidableEq, Repr

namespace Token

/-- The kind of the token. -/
def kind : Token → Kind
  | operand _ => .operand
  | operator _ _ => .operator
  | openParen => .openParen
  | closeParen => .closeParen

/-- The text of the token in an expression. -/
def text : Token → String
  | operand text => text
  | operator symbol _ => symbol
  | openParen => "("
  | closeParen => ")"

/-- The token with its kind, as the log shows it. -/
def describe : Token → String
  | operand text => "Operand(" ++ quote text ++ ")"
  | operator symbol _ => "Operator(" ++ quote symbol ++ ")"
  | openParen => "OpenParen"
  | closeParen => "CloseParen"

/-- The log shows the kind and the text of a token, but not how it is bound. -/
theorem describe_eq_of_kind_eq {token token' : Token} (hkind : token.kind = token'.kind)
    (htext : token.text = token'.text) : token.describe = token'.describe := by
  cases token <;> cases token' <;> simp_all [kind, text, describe]

end Token

namespace Grammar

/-- The token that a piece of text stands for, if it plays any part. -/
def classify (g : Grammar) (text : String) : Option Token :=
  if text = "(" then
    some .openParen
  else if text = ")" then
    some .closeParen
  else
    match g.binding? text with
    | some binding => some (.operator text binding)
    | none => if g.isOperand text then some (.operand text) else none

/-- The kind of the token that a piece of text stands for. -/
def kind? (g : Grammar) (text : String) : Option Token.Kind := (g.classify text).map Token.kind

/-- Texts of the same kind both stand for a token, or neither does. -/
theorem classify_of_kind?_eq {g g' : Grammar} {text text' : String}
    (h : g.kind? text = g'.kind? text') :
    (g.classify text = none ∧ g'.classify text' = none) ∨
      ∃ token token', g.classify text = some token ∧ g'.classify text' = some token' ∧
        token.kind = token'.kind := by
  rw [kind?, kind?] at h
  cases htoken : g.classify text with
  | none =>
    rw [htoken] at h
    exact Or.inl ⟨rfl, Option.map_eq_none_iff.1 h.symm⟩
  | some token =>
    rw [htoken] at h
    obtain ⟨token', htoken', hkind⟩ := Option.map_eq_some_iff.1 h.symm
    exact Or.inr ⟨token, token', rfl, htoken', hkind.symm⟩

/-- A token has the text that it was made from. -/
theorem text_of_classify_eq_some {g : Grammar} {text : String} {token : Token}
    (h : g.classify text = some token) : token.text = text := by
  unfold classify at h
  split at h
  · cases h
    simp_all [Token.text]
  · split at h
    · cases h
      simp_all [Token.text]
    · split at h
      · cases h
        rfl
      · split at h
        · cases h
          rfl
        · cases h

theorem classify_eq_openParen_iff {g : Grammar} {text : String} :
    g.classify text = some .openParen ↔ text = "(" := by
  constructor
  · intro h
    exact (text_of_classify_eq_some h).symm
  · rintro rfl
    rfl

theorem classify_eq_closeParen_iff {g : Grammar} {text : String} :
    g.classify text = some .closeParen ↔ text = ")" := by
  constructor
  · intro h
    exact (text_of_classify_eq_some h).symm
  · rintro rfl
    rfl

/-- The operators are the bound symbols. -/
theorem classify_eq_operator_iff {g : Grammar} {text symbol : String} {binding : Binding} :
    g.classify text = some (.operator symbol binding) ↔
      symbol = text ∧ g.binding? text = some binding := by
  constructor
  · intro h
    have htext : symbol = text := text_of_classify_eq_some h
    subst htext
    refine ⟨rfl, ?_⟩
    unfold classify at h
    split at h
    · cases h
    · split at h
      · cases h
      · split at h
        · rename_i bound hbinding
          cases h
          exact hbinding
        · split at h
          · cases h
          · cases h
  · rintro ⟨rfl, h⟩
    have hword := isWord_of_binding?_eq_some h
    simp [classify, hword.ne_openParen, hword.ne_closeParen, h]

/-- The operands are the other texts that pass the grammar's test. -/
theorem classify_eq_operand_iff {g : Grammar} {text operand : String} :
    g.classify text = some (.operand operand) ↔
      operand = text ∧ text ≠ "(" ∧ text ≠ ")" ∧ g.binding? text = none ∧
        g.isOperand text = true := by
  constructor
  · intro h
    have htext : operand = text := text_of_classify_eq_some h
    subst htext
    unfold classify at h
    split at h
    · cases h
    · rename_i hopen
      split at h
      · cases h
      · rename_i hclose
        split at h
        · cases h
        · rename_i hbinding
          split at h
          · rename_i hoperand
            exact ⟨rfl, hopen, hclose, hbinding, hoperand⟩
          · cases h
  · rintro ⟨rfl, hopen, hclose, hbinding, hoperand⟩
    simp [classify, hopen, hclose, hbinding, hoperand]

end Grammar

end ShuntingYard
