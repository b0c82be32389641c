/-
The tokens of an expression.

An expression that a grammar classifies piece by piece is a list of tokens, and it
is these that its structure is told from.

* `Grammar.tokens?` — the tokens of an expression, if the grammar classifies every
  lexeme;
* `Grammar.operandTexts`, `Grammar.operatorSymbols` — its operands and its operators,
  in the order in which they stand in it;
* `tokens?_eq_some_iff` — tokens are those of an expression exactly if they have the
  texts of its lexemes and the grammar takes each text for its token.
-/
import Mathlib.Data.List.Basic
import ShuntingYard.Lexeme
import ShuntingYard.Token

namespace ShuntingYard

namespace Token

/-- The text of an operand. -/
def operand? : Token → Option String
  | operand text => some text
  | _ => none

/-- The symbol of an operator. -/
def operator? : Token → Option String
  | operator symbol _ => some symbol
  | _ => none

@[simp]
theorem operand?_eq_some_iff {token : Token} {text : String} :
    token.operand? = some text ↔ token = operand text := by
  cases token <;> simp [operand?]

@[simp]
theorem operator?_eq_some_iff {token : Token} {symbol : String} :
    token.operator? = some symbol ↔ ∃ binding, token = operator symbol binding := by
  cases token <;> simp [operator?, eq_comm]

theorem countP_operand_or_operator (tokens : List Token) :
    (tokens.countP fun token => token.operand?.isSome || token.operator?.isSome) =
      (tokens.filterMap operand?).length + (tokens.filterMap operator?).length := by
  induction tokens with
  | nil => rfl
  | cons token tokens ih =>
    rw [List.countP_cons, ih]
    cases token <;> simp [operand?, operator?, List.filterMap_cons] <;> omega

end Token

namespace Grammar

/-- The tokens of an expression, if each of its lexemes is classified. -/
def tokens? (g : Grammar) (expression : String) : Option (List Token) :=
  ((lexemes expression).map Lexeme.text).mapM g.classify

/-- The texts of the lexemes that are operands. -/
def operandTexts (g : Grammar) (expression : String) : List String :=
  (lexemes expression).filterMap fun lexeme => (g.classify lexeme.text).bind Token.operand?

/-- The texts of the lexemes that are operators. -/
def operatorSymbols (g : Grammar) (expression : String) : List String :=
  (lexemes expression).filterMap fun lexeme => (g.classify lexeme.text).bind Token.operator?

/-- The tokens of some texts have these texts, and each text stands for its token. -/
theorem mapM_classify_eq_some_iff {g : Grammar} {texts : List String} {tokens : List Token} :
    texts.mapM g.classify = some tokens ↔
      tokens.map Token.text = texts ∧ ∀ token ∈ tokens, g.classify token.text = some token := by
  induction texts generalizing tokens with
  | nil =>
    rw [List.mapM_nil, Option.pure_def, Option.some_inj, List.map_eq_nil_iff]
    constructor
    · rintro rfl
      simp
    · rintro ⟨rfl, -⟩
      rfl
  | cons text texts ih =>
    simp only [List.mapM_cons, Option.bind_eq_bind, Option.bind_eq_some_iff, Option.pure_def,
      Option.some_inj, ih]
    constructor
    · rintro ⟨token, htoken, others, ⟨rfl, hall⟩, rfl⟩
      obtain rfl := text_of_classify_eq_some htoken
      exact ⟨rfl, List.forall_mem_cons.2 ⟨htoken, hall⟩⟩
    · rintro ⟨htexts, hall⟩
      cases tokens with
      | nil => cases htexts
      | cons token others =>
        obtain ⟨rfl, rfl⟩ := List.cons_eq_cons.1 htexts
        obtain ⟨htoken, hothers⟩ := List.forall_mem_cons.1 hall
        exact ⟨token, htoken, others, ⟨rfl, hothers⟩, rfl⟩

theorem tokens?_eq_some_iff {g : Grammar} {expression : String} {tokens : List Token} :
    g.tokens? expression = some tokens ↔
      tokens.map Token.text = (lexemes expression).map Lexeme.text ∧
        ∀ token ∈ tokens, g.classify token.text = some token :=
  mapM_classify_eq_some_iff

variable {g : Grammar} {expression : String} {tokens : List Token}

/-- An expression has tokens only if every lexeme is classified. -/
theorem classify_ne_none_of_tokens? (h : g.tokens? expression = some tokens) {lexeme : Lexeme}
    (hlexeme : lexeme ∈ lexemes expression) : g.classify lexeme.text ≠ none := by
  obtain ⟨htexts, hall⟩ := tokens?_eq_some_iff.1 h
  have htext : lexeme.text ∈ tokens.map Token.text := by
    rw [htexts]
    exact List.mem_map_of_mem hlexeme
  obtain ⟨token, htoken, htext⟩ := List.mem_map.1 htext
  rw [← htext, hall token htoken]
  exact Option.some_ne_none token

/-- Whatever is picked from the lexemes by their tokens is picked from the tokens. -/
theorem filterMap_lexemes_of_tokens? {α : Type} (pick : Token → Option α)
    (h : g.tokens? expression = some tokens) :
    (lexemes expression).filterMap (fun lexeme => (g.classify lexeme.text).bind pick) =
      tokens.filterMap pick := by
  obtain ⟨htexts, hall⟩ := tokens?_eq_some_iff.1 h
  calc (lexemes expression).filterMap (fun lexeme => (g.classify lexeme.text).bind pick)
      = ((lexemes expression).map Lexeme.text).filterMap
          (fun text => (g.classify text).bind pick) := by
        rw [List.filterMap_map]
        rfl
    _ = tokens.filterMap (fun token => (g.classify token.text).bind pick) := by
        rw [← htexts, List.filterMap_map]
        rfl
    _ = tokens.filterMap pick := by
        refine List.filterMap_congr fun token htoken => ?_
        rw [hall token htoken]
        rfl

/-- A token has the text of no parenthesis exactly if it is an operand or an operator. -/
theorem text_ne_paren_iff {token : Token} (h : g.classify token.text = some token) :
    token.text ≠ "(" ∧ token.text ≠ ")" ↔
      (token.operand?.isSome || token.operator?.isSome) = true := by
  have hopen : token.text = "(" ↔ token = .openParen := by
    rw [← classify_eq_openParen_iff (g := g), h, Option.some_inj]
  have hclose : token.text = ")" ↔ token = .closeParen := by
    rw [← classify_eq_closeParen_iff (g := g), h, Option.some_inj]
  rw [Ne, Ne, hopen, hclose]
  cases token <;> simp [Token.operand?, Token.operator?]

/-- The lexemes that are no parentheses are the operands and the operators. -/
theorem length_filter_lexemes_of_tokens? (h : g.tokens? expression = some tokens) :
    ((lexemes expression).filter fun lexeme => lexeme.text ≠ "(" ∧ lexeme.text ≠ ")").length =
      (tokens.filterMap Token.operand?).length + (tokens.filterMap Token.operator?).length := by
  obtain ⟨htexts, hall⟩ := tokens?_eq_some_iff.1 h
  have hcount := congrArg (List.countP fun text => text ≠ "(" ∧ text ≠ ")") htexts
  rw [List.countP_map, List.countP_map] at hcount
  rw [← List.countP_eq_length_filter, ← Token.countP_operand_or_operator]
  refine hcount.symm.trans (List.countP_congr fun token htoken => ?_)
  rw [← text_ne_paren_iff (hall token htoken)]
  simp

theorem operandTexts_of_tokens? (h : g.tokens? expression = some tokens) :
    g.operandTexts expression = tokens.filterMap Token.operand? :=
  filterMap_lexemes_of_tokens? Token.operand? h

theorem operatorSymbols_of_tokens? (h : g.tokens? expression = some tokens) :
    g.operatorSymbols expression = tokens.filterMap Token.operator? :=
  filterMap_lexemes_of_tokens? Token.operator? h

end Grammar

end ShuntingYard
