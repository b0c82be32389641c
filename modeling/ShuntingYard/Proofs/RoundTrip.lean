/-
Trees written with all their parentheses are read back.

With every operator and its operands in parentheses, ranks and sides have nothing to
decide.  What is left to ask is that each value is read as what it is in the tree.

* `Grammar.WellLabelled` — the leaves are operands, and the other values operators;
* `Grammar.part` — the part that a tree is written as;
* `Grammar.tokens?_bracketed` — the tokens of a well-labelled tree are those of its part;
* `Grammar.wellLabelled_of_parse` — every tree that is found is well-labelled;
* `Grammar.parse_bracketed` — the trees that are read back are the well-labelled ones.
-/
import ShuntingYard.Proofs.Conservation
import ShuntingYard.Proofs.Pieces
import ShuntingYard.Proofs.Precedence
import ShuntingYard.Tree.Text

namespace ShuntingYard

namespace Grammar

/-- Each leaf is a word that the grammar takes for an operand, and each other value is
one of its operators. -/
structure WellLabelled (g : Grammar) (tree : Tree) : Prop where
  leaves : ∀ value ∈ tree.leaves,
    IsWord value ∧ g.isOperator value = false ∧ g.isOperand value = true
  symbols : ∀ symbol ∈ tree.symbols, g.isOperator symbol = true

theorem wellLabelled_leaf_iff {g : Grammar} {value : String} :
    g.WellLabelled (.leaf value) ↔
      IsWord value ∧ g.isOperator value = false ∧ g.isOperand value = true := by
  constructor
  · intro h
    exact h.leaves value (List.mem_singleton_self value)
  · intro h
    constructor
    · intro other hother
      obtain rfl := List.mem_singleton.1 hother
      exact h
    · intro symbol hsymbol
      cases hsymbol

theorem wellLabelled_node_iff {g : Grammar} {symbol : String} {left right : Tree} :
    g.WellLabelled (.node symbol left right) ↔
      g.isOperator symbol = true ∧ g.WellLabelled left ∧ g.WellLabelled right := by
  constructor
  · rintro ⟨hleaves, hsymbols⟩
    simp only [Tree.leaves, Tree.symbols, List.mem_append, List.mem_cons] at hleaves hsymbols
    have hleft : g.WellLabelled left :=
      ⟨fun value hvalue => hleaves value (Or.inl hvalue),
        fun other hother => hsymbols other (Or.inl hother)⟩
    have hright : g.WellLabelled right :=
      ⟨fun value hvalue => hleaves value (Or.inr hvalue),
        fun other hother => hsymbols other (Or.inr (Or.inr hother))⟩
    exact ⟨hsymbols symbol (by simp), hleft, hright⟩
  · rintro ⟨hsymbol, hleft, hright⟩
    constructor
    · intro value hvalue
      rcases List.mem_append.1 hvalue with hvalue | hvalue
      · exact hleft.leaves value hvalue
      · exact hright.leaves value hvalue
    · intro other hother
      rcases List.mem_append.1 hother with hother | hother
      · exact hleft.symbols other hother
      · rcases List.mem_cons.1 hother with rfl | hother
        · exact hsymbol
        · exact hright.symbols other hother

/-- The values of a well-labelled tree are words. -/
theorem WellLabelled.isWord {g : Grammar} {tree : Tree} (h : g.WellLabelled tree) {value : String}
    (hvalue : value ∈ tree.leaves ∨ value ∈ tree.symbols) : IsWord value := by
  rcases hvalue with hleaf | hsymbol
  · exact (h.leaves value hleaf).1
  · obtain ⟨binding, hbinding⟩ := isOperator_eq_true_iff.1 (h.symbols value hsymbol)
    exact isWord_of_binding?_eq_some hbinding

/-! ### Writing -/

/-- The part that a tree is written as. -/
def part (g : Grammar) : Tree → Part
  | .leaf value => .operand value
  | .node symbol left right =>
    .group (.chain (g.part left) symbol ((g.binding? symbol).getD ⟨0, .left⟩)
      (.single (g.part right)))

@[simp]
theorem tree_part (g : Grammar) (tree : Tree) : (g.part tree).tree = tree := by
  induction tree with
  | leaf value => rfl
  | node symbol left right ihl ihr =>
    rw [part, ← Phrase.tree_single, Phrase.tree_group, Phrase.tree_pair, ihl, ihr]

/-- The pieces of a tree whose values are words are the texts of its tokens. -/
theorem pieces_bracketed_append {g : Grammar} {tree : Tree} (h : g.WellLabelled tree)
    {rest : List Char} (hrest : ∀ c, rest.head? = some c → isWordChar c = false) :
    pieces (tree.bracketed.toList ++ rest) =
      (g.part tree).tokens.map Token.text ++ pieces rest := by
  induction tree generalizing rest with
  | leaf value => exact pieces_word_append (wellLabelled_leaf_iff.1 h).1 hrest
  | node symbol left right ihl ihr =>
    obtain ⟨hsymbol, hleft, hright⟩ := wellLabelled_node_iff.1 h
    obtain ⟨binding, hbinding⟩ := isOperator_eq_true_iff.1 hsymbol
    have hword := isWord_of_binding?_eq_some hbinding
    -- Every word of the bracketed form is ended by a blank.
    have hblank : ∀ (cs : List Char) (c : Char), (' ' :: cs).head? = some c →
        isWordChar c = false := by
      rintro cs c ⟨⟩
      decide
    have htext : (Tree.node symbol left right).bracketed.toList ++ rest =
        '(' :: ' ' :: (left.bracketed.toList ++ ' ' :: (symbol.toList ++
          ' ' :: (right.bracketed.toList ++ ' ' :: ')' :: rest))) := by
      simp [Tree.bracketed, String.toList_append]
    rw [htext, pieces_cons_of_isParen (by decide), pieces_cons_of_isBlank (by decide),
      ihl hleft (hblank _), pieces_cons_of_isBlank (by decide),
      pieces_word_append hword (hblank _), pieces_cons_of_isBlank (by decide),
      ihr hright (hblank _), pieces_cons_of_isBlank (by decide),
      pieces_cons_of_isParen (by decide)]
    simp [part, Part.tokens, Phrase.tokens, Token.text]

/-- Each value of a well-labelled tree is read as what it is in the tree. -/
theorem classify_of_mem_tokens_part {g : Grammar} {tree : Tree} (h : g.WellLabelled tree) :
    ∀ token ∈ (g.part tree).tokens, g.classify token.text = some token := by
  induction tree with
  | leaf value =>
    intro token htoken
    obtain rfl := List.mem_singleton.1 htoken
    obtain ⟨hword, hoperator, hoperand⟩ := wellLabelled_leaf_iff.1 h
    have hbinding : g.binding? value = none := by
      rw [isOperator_eq_isSome_binding?] at hoperator
      exact Option.isNone_iff_eq_none.1 (Option.isSome_eq_false_iff.1 hoperator)
    -- A parenthesis is no word, so that its own reading does not come first.
    exact classify_eq_operand_iff.2
      ⟨rfl, hword.ne_openParen, hword.ne_closeParen, hbinding, hoperand⟩
  | node symbol left right ihl ihr =>
    obtain ⟨hsymbol, hleft, hright⟩ := wellLabelled_node_iff.1 h
    obtain ⟨binding, hbinding⟩ := isOperator_eq_true_iff.1 hsymbol
    intro token htoken
    simp only [part, Part.tokens, Phrase.tokens, hbinding, Option.getD_some, List.mem_cons,
      List.mem_append, List.not_mem_nil, or_false] at htoken
    rcases htoken with rfl | (htoken | rfl | htoken) | rfl
    · exact classify_eq_openParen_iff.2 rfl
    · exact ihl hleft token htoken
    · exact classify_eq_operator_iff.2 ⟨rfl, hbinding⟩
    · exact ihr hright token htoken
    · exact classify_eq_closeParen_iff.2 rfl

/-- A well-labelled tree is written with the tokens of its part. -/
theorem tokens?_bracketed {g : Grammar} {tree : Tree} (h : g.WellLabelled tree) :
    g.tokens? tree.bracketed = some (g.part tree).tokens := by
  refine tokens?_eq_some_iff.2 ⟨?_, classify_of_mem_tokens_part h⟩
  have hpieces : pieces (tree.bracketed.toList ++ []) =
      (g.part tree).tokens.map Token.text ++ pieces [] :=
    pieces_bracketed_append h (by simp)
  rw [List.append_nil, pieces_nil, List.append_nil] at hpieces
  rw [map_text_lexemes, hpieces]

/-! ### Reading -/

/-- The leaves of a tree that is found are operands of the grammar, and its other
values are operators. -/
theorem wellLabelled_of_parse {g : Grammar} {expression : String} {tree : Tree}
    (h : g.parse expression = .ok tree) : g.WellLabelled tree := by
  obtain ⟨tokens, htokens, -⟩ := parse_eq_ok_iff_sort.1 h
  obtain ⟨htexts, hall⟩ := tokens?_eq_some_iff.1 htokens
  constructor
  · intro value hvalue
    rw [leaves_eq_of_tokens? h htokens] at hvalue
    obtain ⟨token, htoken, hoperand⟩ := List.mem_filterMap.1 hvalue
    obtain rfl := Token.operand?_eq_some_iff.1 hoperand
    obtain ⟨-, hopen, hclose, hbinding, hoperand⟩ := classify_eq_operand_iff.1 (hall _ htoken)
    -- A piece that is classified as an operand is no parenthesis, so it is a word.
    have hmem : value ∈ pieces expression.toList := by
      rw [← map_text_lexemes, ← htexts]
      exact List.mem_map_of_mem htoken
    have hword : IsWord value := by
      rcases paren_or_isWord_of_mem_pieces hmem with rfl | rfl | hword
      · exact absurd rfl hopen
      · exact absurd rfl hclose
      · exact hword
    have hoperator : g.isOperator value = false := by
      rw [isOperator_eq_isSome_binding?]
      exact Option.isSome_eq_false_iff.2 (Option.isNone_iff_eq_none.2 hbinding)
    exact ⟨hword, hoperator, hoperand⟩
  · intro symbol hsymbol
    have hmem := (symbols_perm_of_tokens? h htokens).mem_iff.1 hsymbol
    obtain ⟨token, htoken, hoperator⟩ := List.mem_filterMap.1 hmem
    obtain ⟨binding, rfl⟩ := Token.operator?_eq_some_iff.1 hoperator
    obtain ⟨-, hbinding⟩ := classify_eq_operator_iff.1 (hall _ htoken)
    exact isOperator_eq_true_iff.2 ⟨binding, hbinding⟩

theorem parse_bracketed_of_wellLabelled {g : Grammar} {tree : Tree} (h : g.WellLabelled tree) :
    g.parse tree.bracketed = .ok tree := by
  refine parse_eq_ok_iff_sort.2 ⟨_, tokens?_bracketed h, ?_⟩
  -- A part alone is a phrase, and no rank has a say in it.
  have hsort := (Phrase.single (g.part tree)).sort_tokens
  rwa [Phrase.tree_single, tree_part] at hsort

/-- A tree is read back from its bracketed form exactly if it is well-labelled, as every
tree is that is found in some expression. -/
theorem parse_bracketed (g : Grammar) (tree : Tree) :
    (g.parse tree.bracketed = .ok tree ↔ g.WellLabelled tree) ∧
      (∀ expression, g.parse expression = .ok tree → g.parse tree.bracketed = .ok tree) ∧
        (g.WellLabelled tree → ∃ expression, g.parse expression = .ok tree) := by
  refine ⟨⟨wellLabelled_of_parse, parse_bracketed_of_wellLabelled⟩, ?_, ?_⟩
  · intro expression h
    have hlabelled := wellLabelled_of_parse h
    exact parse_bracketed_of_wellLabelled hlabelled
  · intro h
    exact ⟨tree.bracketed, parse_bracketed_of_wellLabelled h⟩

end Grammar

end ShuntingYard
