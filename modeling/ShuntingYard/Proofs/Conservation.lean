/-
Nothing is lost, doubled or brought into another order.

Sorting sends operands to the output as they come, and operators go there by way of
the track on which they wait.  So at any time the output has the operands that have
been read, in their order, and the output and the track together have the operators.

* `Sorting.operands`, `Sorting.operators` — what a state has of each;
* `ReversePolish.conserved_foldlM_step` — what any tokens, in whatever arrangement, add
  to it;
* `Grammar.leaves_eq_of_tokens?`, `Grammar.symbols_perm_of_tokens?` — the leaves and the
  operators of the tree of an expression;
* `Grammar.length_operands_of_tokens?` — it has one operand more than operators;
* `Grammar.parse_conserves` — the same with the lexemes of the expression, and their
  number.
-/
import ShuntingYard.Proofs.Refinement

namespace ShuntingYard

namespace ReversePolish

/-- The text of an operand. -/
def Entry.operand? : Entry → Option String
  | operand text => some text
  | operator _ => none

/-- The symbol of an operator. -/
def Entry.operator? : Entry → Option String
  | operand _ => none
  | operator symbol => some symbol

/-- The symbol of a waiting operator. -/
def Held.operator? : Held → Option String
  | openParen => none
  | operator symbol _ => some symbol

/-- The operands that have been sent to the output. -/
def Sorting.operands (state : Sorting) : List String := state.output.filterMap Entry.operand?

/-- The operators that have been sent to the output, and those that wait. -/
def Sorting.operators (state : Sorting) : List String :=
  state.output.filterMap Entry.operator? ++ state.held.filterMap Held.operator?

/-! ### Flushing only moves operators -/

/-- An operator that is sent to the output leaves the front of the track for the end of
the output, so all operators stay in their order. -/
theorem operators_send (symbol : String) (binding : Binding) (held : List Held)
    (output : List Entry) :
    (⟨held, output ++ [.operator symbol]⟩ : Sorting).operators =
      (⟨.operator symbol binding :: held, output⟩ : Sorting).operators := by
  simp [Sorting.operators, Entry.operator?, Held.operator?]

theorem operands_send (symbol : String) (held held' : List Held) (output : List Entry) :
    (⟨held, output ++ [.operator symbol]⟩ : Sorting).operands =
      (⟨held', output⟩ : Sorting).operands := by
  simp [Sorting.operands, Entry.operand?]

theorem conserved_flushBefore (incoming : Binding) (held : List Held) (output : List Entry) :
    (flushBefore incoming held output).operands = (⟨held, output⟩ : Sorting).operands ∧
      (flushBefore incoming held output).operators = (⟨held, output⟩ : Sorting).operators := by
  fun_induction flushBefore incoming held output with
  | case1 symbol binding held output hbefore ih =>
    rw [ih.1, ih.2, operators_send symbol binding]
    exact ⟨operands_send symbol held _ output, rfl⟩
  | case2 => exact ⟨rfl, rfl⟩
  | case3 => exact ⟨rfl, rfl⟩

theorem conserved_flushGroup (held : List Held) (output : List Entry) :
    (⟨(flushGroup held output).1.getD [], (flushGroup held output).2⟩ : Sorting).operands =
        (⟨held, output⟩ : Sorting).operands ∧
      (⟨(flushGroup held output).1.getD [], (flushGroup held output).2⟩ : Sorting).operators =
        (⟨held, output⟩ : Sorting).operators := by
  fun_induction flushGroup held output with
  | case1 => exact ⟨rfl, rfl⟩
  | case2 => exact ⟨rfl, rfl⟩
  | case3 symbol binding held output ih =>
    rw [ih.1, ih.2, operators_send symbol binding]
    exact ⟨operands_send symbol held _ output, rfl⟩

/-! ### Steps and runs -/

theorem conserved_step {state state' : Sorting} {token : Token}
    (h : step state token = some state') :
    state'.operands = state.operands ++ token.operand?.toList ∧
      state'.operators.Perm (state.operators ++ token.operator?.toList) := by
  cases token with
  | operand text =>
    cases h
    simp [Sorting.operands, Sorting.operators, List.filterMap_cons, Entry.operand?,
      Entry.operator?, Token.operand?, Token.operator?]
  | openParen =>
    cases h
    exact ⟨(List.append_nil _).symm, .of_eq (List.append_nil _).symm⟩
  | operator symbol binding =>
    cases h
    obtain ⟨hoperands, hoperators⟩ := conserved_flushBefore binding state.held state.output
    refine ⟨hoperands.trans (List.append_nil _).symm, ?_⟩
    -- The new operator waits in front of those that have been kept back.
    have hnew : ∀ flushed : Sorting,
        (⟨.operator symbol binding :: flushed.held, flushed.output⟩ : Sorting).operators.Perm
          (flushed.operators ++ [symbol]) := by
      intro flushed
      simp only [Sorting.operators, Held.operator?, List.append_assoc]
      exact (List.perm_append_singleton _ _).symm.append_left _
    refine (hnew _).trans ?_
    rw [hoperators]
    rfl
  | closeParen =>
    -- The parenthesis that is taken off the track is no operator.
    obtain ⟨hoperands, hoperators⟩ := conserved_flushGroup state.held state.output
    simp only [step] at h
    split at h
    · rename_i hflush
      cases h
      rw [hflush] at hoperands hoperators
      exact ⟨hoperands.trans (List.append_nil _).symm,
        .of_eq (hoperators.trans (List.append_nil _).symm)⟩
    · cases h

/-- What any tokens, in whatever arrangement, add to a state. -/
theorem conserved_foldlM_step {tokens : List Token} {state state' : Sorting}
    (h : tokens.foldlM step state = some state') :
    state'.operands = state.operands ++ tokens.filterMap Token.operand? ∧
      state'.operators.Perm (state.operators ++ tokens.filterMap Token.operator?) := by
  induction tokens generalizing state with
  | nil =>
    cases h
    simp
  | cons token tokens ih =>
    rw [List.foldlM_cons] at h
    obtain ⟨next, hstep, hrun⟩ := Option.bind_eq_some_iff.1 h
    obtain ⟨hoperands, hoperators⟩ := conserved_step hstep
    obtain ⟨hoperands', hoperators'⟩ := ih hrun
    constructor
    · rw [hoperands', hoperands, List.append_assoc, List.filterMap_cons]
      cases token.operand? <;> rfl
    · refine hoperators'.trans ((hoperators.append_right _).trans (.of_eq ?_))
      rw [List.append_assoc, List.filterMap_cons]
      cases token.operator? <;> rfl

/-- Sorted tokens have the same operands in the same order, and the same operators. -/
theorem conserved_sort {tokens : List Token} {output : List Entry}
    (h : sort tokens = some output) :
    output.filterMap Entry.operand? = tokens.filterMap Token.operand? ∧
      (output.filterMap Entry.operator?).Perm (tokens.filterMap Token.operator?) := by
  obtain ⟨state, hrun, hflush⟩ := sort_eq_some_iff.1 h
  obtain ⟨hoperands, hoperators⟩ := conserved_foldlM_step hrun
  -- At the end nothing waits any more, so all operators are in the output.
  obtain ⟨hoperands', hoperators'⟩ := conserved_flushGroup state.held state.output
  rw [hflush] at hoperands' hoperators'
  have houtput : output.filterMap Entry.operator? = state.operators := by
    rw [← (hoperators' : _ = state.operators)]
    simp [Sorting.operators]
  constructor
  · exact hoperands'.trans hoperands
  · rw [houtput]
    exact hoperators

end ReversePolish

open ReversePolish (Entry sort)

/-! ### Trees -/

theorem Tree.filterMap_operand?_entries (tree : Tree) :
    tree.entries.filterMap Entry.operand? = tree.leaves := by
  induction tree with
  | leaf value => rfl
  | node value left right ihl ihr =>
    simp [entries, leaves, List.filterMap_append, ihl, ihr, Entry.operand?]

theorem Tree.filterMap_operator?_entries_perm (tree : Tree) :
    (tree.entries.filterMap Entry.operator?).Perm tree.symbols := by
  induction tree with
  | leaf value => exact .refl _
  | node value left right ihl ihr =>
    simp only [entries, symbols, List.filterMap_append]
    rw [List.append_assoc]
    exact ihl.append ((ihr.append_right [value]).trans (List.perm_append_singleton _ _))

namespace Grammar

variable {g : Grammar} {expression : String} {tree : Tree} {tokens : List Token}

/-- The leaves of a tree are the operands of its expression, from left to right. -/
theorem leaves_eq_of_tokens? (h : g.parse expression = .ok tree)
    (htokens : g.tokens? expression = some tokens) :
    tree.leaves = tokens.filterMap Token.operand? := by
  obtain ⟨tokens', htokens', hsort⟩ := parse_eq_ok_iff_sort.1 h
  obtain rfl := Option.some_inj.1 (htokens.symm.trans htokens')
  rw [← tree.filterMap_operand?_entries]
  exact (ReversePolish.conserved_sort hsort).1

/-- The operators of a tree are those of its expression, each as often. -/
theorem symbols_perm_of_tokens? (h : g.parse expression = .ok tree)
    (htokens : g.tokens? expression = some tokens) :
    tree.symbols.Perm (tokens.filterMap Token.operator?) := by
  obtain ⟨tokens', htokens', hsort⟩ := parse_eq_ok_iff_sort.1 h
  obtain rfl := Option.some_inj.1 (htokens.symm.trans htokens')
  exact tree.filterMap_operator?_entries_perm.symm.trans (ReversePolish.conserved_sort hsort).2

/-- An expression that has a tree has one operand more than operators. -/
theorem length_operands_of_tokens? (h : g.parse expression = .ok tree)
    (htokens : g.tokens? expression = some tokens) :
    (tokens.filterMap Token.operand?).length =
      (tokens.filterMap Token.operator?).length + 1 := by
  rw [← leaves_eq_of_tokens? h htokens, tree.length_leaves,
    (symbols_perm_of_tokens? h htokens).length_eq]

/-- A tree has a value for every lexeme that is no parenthesis. -/
theorem size_eq_of_parse (h : g.parse expression = .ok tree) :
    tree.size =
      ((lexemes expression).filter fun lexeme =>
        lexeme.text ≠ "(" ∧ lexeme.text ≠ ")").length := by
  obtain ⟨tokens, htokens, -⟩ := parse_eq_ok_iff_sort.1 h
  rw [length_filter_lexemes_of_tokens? htokens, tree.size_eq_length_add_length,
    leaves_eq_of_tokens? h htokens, (symbols_perm_of_tokens? h htokens).length_eq]

/-- The leaves of a tree are the operands of its expression in their order, and its
other values are the operators. -/
theorem parse_conserves (h : g.parse expression = .ok tree) :
    tree.leaves = g.operandTexts expression ∧
      tree.symbols.Perm (g.operatorSymbols expression) ∧
        tree.size =
            ((lexemes expression).filter fun lexeme =>
              lexeme.text ≠ "(" ∧ lexeme.text ≠ ")").length ∧
          (g.operandTexts expression).length = (g.operatorSymbols expression).length + 1 := by
  obtain ⟨tokens, htokens, -⟩ := parse_eq_ok_iff_sort.1 h
  rw [operandTexts_of_tokens? htokens, operatorSymbols_of_tokens? htokens]
  exact ⟨leaves_eq_of_tokens? h htokens, symbols_perm_of_tokens? h htokens,
    size_eq_of_parse h, length_operands_of_tokens? h htokens⟩

/-- Also where the operators stand behind their operands, and one in a group of its own. -/
theorem parse_conserves_out_of_order :
    standard.parse "1 2 + ( 3 * )" =
        .ok (.node "+" (.leaf "1") (.node "*" (.leaf "2") (.leaf "3"))) ∧
      ["1", "2", "3"] = standard.operandTexts "1 2 + ( 3 * )" ∧
        ["+", "*"].Perm (standard.operatorSymbols "1 2 + ( 3 * )") := by
  have h : standard.parse "1 2 + ( 3 * )" =
      .ok (.node "+" (.leaf "1") (.node "*" (.leaf "2") (.leaf "3"))) :=
    parse_eq_ok_iff_sort.2
      ⟨[.operand "1", .operand "2", .operator "+" ⟨0, .left⟩, .openParen, .operand "3",
        .operator "*" ⟨1, .left⟩, .closeParen], by decide +kernel, by decide⟩
  obtain ⟨hleaves, hsymbols, -, -⟩ := parse_conserves h
  exact ⟨h, hleaves, hsymbols⟩

end Grammar

end ShuntingYard
