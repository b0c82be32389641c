/-
The yard builds the tree that sorting spells.

The yard applies each operator as soon as it is due, and sorting only sends it to the
output.  So while tokens come in, the trees of the yard are what the output spells so
far.  The two part only where the yard misses an operand: sorting goes on, but its
output cannot be read any more, whatever is added to it.

* `Yard.Mirrors` — a yard that holds what sorting holds, and the trees that its output
  spells;
* `Yard.Agrees` — the outcome of the yard against that of sorting;
* `Yard.agrees_foldlM_read` — the two agree after any number of lexemes;
* `Grammar.Spells` — the trees that the sorted tokens of an expression spell, which are
  those that are left in the yard;
* `Grammar.parse_eq_ok_iff_sort` — an expression has a tree exactly if its tokens are
  sorted into the entries of this tree;
* `Grammar.parse_eq_ok_iff_evaluate` — the tree is found in two phases, by sorting the
  tokens and reading the output.
-/
import ShuntingYard.Proofs.Runs
import ShuntingYard.Proofs.Tokens
import ShuntingYard.ReversePolish

namespace ShuntingYard

/-! ### Output that can be read -/

namespace ReversePolish

/-- Output that cannot be read stays so. -/
theorem evaluate_eq_none_of_prefix {before after : List Entry} (hle : before <+: after)
    (h : evaluate before [] = none) : evaluate after [] = none := by
  obtain ⟨rest, rfl⟩ := hle
  rw [evaluate_append, h]
  rfl

/-- Entries leave the trees that spell them behind what was there before. -/
theorem flatMap_entries_of_evaluate {entries : List Entry} {trees result : List Tree}
    (h : evaluate entries trees = some result) :
    result.reverse.flatMap Tree.entries = trees.reverse.flatMap Tree.entries ++ entries := by
  induction entries generalizing trees with
  | nil =>
    cases h
    exact (List.append_nil _).symm
  | cons entry entries ih =>
    cases entry with
    | operand text =>
      rw [ih h]
      simp [Tree.entries]
    | operator symbol =>
      rcases trees with _ | ⟨right, _ | ⟨left, trees⟩⟩
      · cases h
      · cases h
      -- The new tree has the entries of the two below it, and then the operator.
      · rw [ih h]
        simp [Tree.entries]

/-- Entries that leave a single tree are those of the tree. -/
theorem evaluate_eq_singleton_iff {entries : List Entry} {tree : Tree} :
    evaluate entries [] = some [tree] ↔ entries = tree.entries := by
  constructor
  · intro h
    simpa using (flatMap_entries_of_evaluate h).symm
  · rintro rfl
    have := evaluate_entries tree [] []
    rwa [List.append_nil] at this

theorem prefix_output_flushBefore (incoming : Binding) (held : List Held) (output : List Entry) :
    output <+: (flushBefore incoming held output).output := by
  fun_induction flushBefore incoming held output with
  | case1 symbol binding held output hbefore ih => exact (List.prefix_append _ _).trans ih
  | case2 => exact List.prefix_refl _
  | case3 => exact List.prefix_refl _

theorem prefix_output_flushGroup (held : List Held) (output : List Entry) :
    output <+: (flushGroup held output).2 := by
  fun_induction flushGroup held output with
  | case1 => exact List.prefix_refl _
  | case2 => exact List.prefix_refl _
  | case3 symbol binding held output ih => exact (List.prefix_append _ _).trans ih

/-- Sorting only adds to its output. -/
theorem prefix_output_of_step {state state' : Sorting} {token : Token}
    (h : step state token = some state') : state.output <+: state'.output := by
  cases token with
  | operand text =>
    cases h
    exact List.prefix_append _ _
  | operator symbol binding =>
    cases h
    exact prefix_output_flushBefore _ _ _
  | openParen =>
    cases h
    exact List.prefix_refl _
  | closeParen =>
    have hle := prefix_output_flushGroup state.held state.output
    simp only [step] at h
    split at h
    · rename_i hflush
      cases h
      rwa [hflush] at hle
    · cases h

/-- Sorting succeeds if no parenthesis is closed too early or left open. -/
theorem sort_eq_some_iff {tokens : List Token} {output : List Entry} :
    sort tokens = some output ↔
      ∃ state, tokens.foldlM step ⟨[], []⟩ = some state ∧
        flushGroup state.held state.output = (none, output) := by
  unfold sort
  simp only [Option.bind_eq_bind, Option.bind_eq_some_iff]
  refine exists_congr fun state => and_congr_right fun _ => ?_
  obtain ⟨held?, flushed⟩ := flushGroup state.held state.output
  cases held? with
  | none => simp
  | some held => simp

theorem prefix_output_of_foldlM_step {tokens : List Token} {state state' : Sorting}
    (h : tokens.foldlM step state = some state') : state.output <+: state'.output := by
  induction tokens generalizing state with
  | nil =>
    cases h
    exact List.prefix_refl _
  | cons token tokens ih =>
    rw [List.foldlM_cons] at h
    obtain ⟨next, hstep, hrest⟩ := Option.bind_eq_some_iff.1 h
    exact (prefix_output_of_step hstep).trans (ih hrest)

end ReversePolish

/-- What waits, without its place. -/
def Pending.held : Pending → ReversePolish.Held
  | openParen _ => .openParen
  | operator symbol binding _ => .operator symbol binding

namespace Yard

open ReversePolish (Sorting Entry evaluate flushBefore flushGroup)

/-- The yard holds what sorting holds, and the trees that the output spells so far. -/
structure Mirrors (yard : Yard) (state : Sorting) : Prop where
  held : yard.pending.map Pending.held = state.held
  trees : evaluate state.output [] = some yard.trees

/-- The outcome of the yard against that of sorting: both go on alike, both have
refused, or the yard has missed an operand and the output cannot be read. -/
inductive Agrees : Except Fault Yard → Option Sorting → Prop where
  | mirrors {yard : Yard} {state : Sorting} (h : yard.Mirrors state) :
      Agrees (.ok yard) (some state)
  | refused {fault : Fault} : Agrees (.error fault) none
  | unreadable {fault : Fault} {state : Sorting} (h : evaluate state.output [] = none) :
      Agrees (.error fault) (some state)

/-! ### Reductions -/

/-- Reducing an operator is reading its entry. -/
theorem outcome_reduce (symbol : String) (span : Span) (trees : List Tree) :
    (reduce symbol span trees).outcome =
      match evaluate [.operator symbol] trees with
      | some trees => .ok trees
      | none => .error ⟨.missingOperand symbol, span⟩ := by
  rcases trees with _ | ⟨right, _ | ⟨left, trees⟩⟩
  · rfl
  · rfl
  · rfl

/-- The output with one more operator spells the trees after its reduction. -/
theorem evaluate_append_operator {output : List Entry} {trees : List Tree}
    (h : evaluate output [] = some trees) (symbol : String) :
    evaluate (output ++ [.operator symbol]) [] = evaluate [.operator symbol] trees := by
  rw [ReversePolish.evaluate_append, h]
  rfl

theorem agrees_reduceBefore (incoming : Binding) (pending : List Pending) {trees : List Tree}
    {output : List Entry} (h : evaluate output [] = some trees) :
    Agrees (reduceBefore incoming pending trees).outcome
      (some (flushBefore incoming (pending.map Pending.held) output)) := by
  induction pending generalizing trees output with
  | nil => exact .mirrors ⟨rfl, h⟩
  | cons first pending ih =>
    cases first with
    | openParen span => exact .mirrors ⟨rfl, h⟩
    | operator symbol binding span =>
      simp only [reduceBefore, List.map_cons, Pending.held, flushBefore]
      by_cases hbefore : binding.reducesBefore incoming = true
      · rw [if_pos hbefore, if_pos hbefore, Traced.outcome_bind, outcome_reduce]
        have houtput := evaluate_append_operator h symbol
        -- Where the yard misses an operand, sorting goes on with what cannot be read.
        cases hread : evaluate [.operator symbol] trees with
        | none =>
          rw [hread] at houtput
          exact .unreadable (ReversePolish.evaluate_eq_none_of_prefix
            (ReversePolish.prefix_output_flushBefore _ _ _) houtput)
        | some reduced => exact ih (houtput.trans hread)
      · rw [if_neg hbefore, if_neg hbefore]
        exact .mirrors ⟨rfl, h⟩

/-- Both find the same open parenthesis and leave the same in front of it, or the
output cannot be read. -/
theorem reduceGroup_spec (pending : List Pending) {trees : List Tree} {output : List Entry}
    (h : evaluate output [] = some trees) :
    match (reduceGroup pending trees).outcome with
    | .ok (opened, yard) =>
      (flushGroup (pending.map Pending.held) output).1 =
          opened.map (fun _ => yard.pending.map Pending.held) ∧
        evaluate (flushGroup (pending.map Pending.held) output).2 [] = some yard.trees
    | .error _ => evaluate (flushGroup (pending.map Pending.held) output).2 [] = none := by
  induction pending generalizing trees output with
  | nil => exact ⟨rfl, h⟩
  | cons first pending ih =>
    cases first with
    | openParen span => exact ⟨rfl, h⟩
    | operator symbol binding span =>
      simp only [reduceGroup, List.map_cons, Pending.held, flushGroup]
      rw [Traced.outcome_bind, outcome_reduce]
      have houtput := evaluate_append_operator h symbol
      cases hread : evaluate [.operator symbol] trees with
      | none =>
        rw [hread] at houtput
        exact ReversePolish.evaluate_eq_none_of_prefix
          (ReversePolish.prefix_output_flushGroup _ _) houtput
      | some reduced => exact ih (houtput.trans hread)

/-! ### Running -/

theorem agrees_step {yard : Yard} {state : Sorting} (h : yard.Mirrors state) (token : Token)
    (span : Span) : Agrees (yard.step token span).outcome (ReversePolish.step state token) := by
  obtain ⟨pending, trees⟩ := yard
  obtain ⟨held, output⟩ := state
  obtain ⟨rfl, htrees⟩ := h
  cases token with
  | operand text =>
    refine .mirrors ⟨rfl, ?_⟩
    show evaluate (output ++ [.operand text]) [] = _
    rw [ReversePolish.evaluate_append, htrees]
    rfl
  | openParen => exact .mirrors ⟨rfl, htrees⟩
  | operator symbol binding =>
    have hflush := agrees_reduceBefore binding pending htrees
    simp only [step, ReversePolish.step, Traced.outcome_bind]
    generalize (reduceBefore binding pending trees).outcome = reduced at hflush ⊢
    cases hflush with
    | mirrors hmirrors =>
      refine .mirrors ⟨?_, hmirrors.trees⟩
      rw [← hmirrors.held]
      rfl
    | unreadable hnone => exact .unreadable hnone
  | closeParen =>
    have hflush := reduceGroup_spec pending htrees
    simp only [step, ReversePolish.step, Traced.outcome_bind]
    generalize (reduceGroup pending trees).outcome = reduced at hflush ⊢
    generalize flushGroup (pending.map Pending.held) output = flushed at hflush ⊢
    obtain ⟨held?, output'⟩ := flushed
    -- The yard reduces all that waits before it finds that no parenthesis is open, so it
    -- may miss an operand where sorting refuses.
    rcases reduced with fault | ⟨_ | opened, yard⟩
    · cases held? with
      | none => exact .refused
      | some held => exact .unreadable hflush
    · obtain rfl : held? = none := hflush.1
      exact .refused
    · obtain ⟨hheld, htrees'⟩ := hflush
      obtain rfl : held? = some (yard.pending.map Pending.held) := hheld
      exact .mirrors ⟨rfl, htrees'⟩

/-- Sorting takes the pieces of an expression one after the other. -/
theorem bind_foldlM_step_cons (g : Grammar) (text : String) (texts : List String)
    (state : Sorting) :
    (((text :: texts).mapM g.classify).bind fun tokens =>
        tokens.foldlM ReversePolish.step state) =
      (g.classify text).bind fun token =>
        (ReversePolish.step state token).bind fun next =>
          (texts.mapM g.classify).bind fun tokens => tokens.foldlM ReversePolish.step next := by
  simp only [List.mapM_cons, Option.bind_eq_bind, Option.bind_assoc, Option.pure_def,
    Option.bind_some, List.foldlM_cons]
  congr 1
  funext token
  exact Option.bind_comm _ _

/-- The yard and sorting agree on any lexemes, however these are arranged. -/
theorem agrees_foldlM_read (g : Grammar) (lexemes : List Lexeme) {yard : Yard} {state : Sorting}
    (h : yard.Mirrors state) :
    Agrees (lexemes.foldlM (Yard.read g) yard).outcome
      (((lexemes.map Lexeme.text).mapM g.classify).bind fun tokens =>
        tokens.foldlM ReversePolish.step state) := by
  induction lexemes generalizing yard state with
  | nil => exact .mirrors h
  | cons lexeme lexemes ih =>
    rw [List.foldlM_cons, Traced.outcome_bind, outcome_read, List.map_cons,
      bind_foldlM_step_cons]
    cases g.classify lexeme.text with
    | none => exact .refused
    | some token =>
      have hstep := agrees_step h token lexeme.span
      simp only [Option.bind_some]
      generalize (yard.step token lexeme.span).outcome = stepped at hstep ⊢
      generalize ReversePolish.step state token = next at hstep ⊢
      cases hstep with
      | mirrors hnext => exact ih hnext
      | refused => exact .refused
      | @unreadable fault next hnone =>
        -- The later tokens cannot mend what the missing operand has spoilt.
        show Agrees (.error fault) (((lexemes.map Lexeme.text).mapM g.classify).bind _)
        cases hlast : ((lexemes.map Lexeme.text).mapM g.classify).bind fun tokens =>
            tokens.foldlM ReversePolish.step next with
        | none => exact .refused
        | some last =>
          obtain ⟨tokens, -, hrun⟩ := Option.bind_eq_some_iff.1 hlast
          exact .unreadable (ReversePolish.evaluate_eq_none_of_prefix
            (ReversePolish.prefix_output_of_foldlM_step hrun) hnone)

/-! ### Finishing -/

theorem finish_eq_ok_iff {yard : Yard} {whole : Span} {tree : Tree} :
    (yard.finish whole).outcome = .ok tree ↔
      ∃ rest, (reduceGroup yard.pending yard.trees).outcome = .ok (none, rest) ∧
        rest.trees = [tree] := by
  simp only [finish, Traced.outcome_bind_eq_ok_iff, Prod.exists]
  constructor
  · rintro ⟨opened, rest, hgroup, hrest⟩
    cases opened with
    | some opened => cases hrest
    | none =>
      refine ⟨rest, hgroup, ?_⟩
      -- The trees that are left have to be exactly one.
      rcases htrees : rest.trees with _ | ⟨found, _ | ⟨other, trees⟩⟩ <;> rw [htrees] at hrest
      · cases hrest
      · cases hrest
        rfl
      · cases hrest
  · rintro ⟨rest, hgroup, hrest⟩
    refine ⟨none, rest, hgroup, ?_⟩
    simp [hrest]

/-- No parenthesis is open at the end, and certain trees are left, exactly if sorting ends
with output that spells these trees. -/
theorem reduceGroup_eq_ok_none_iff {yard : Yard} {state : Sorting} (h : yard.Mirrors state)
    {trees : List Tree} :
    (∃ rest, (reduceGroup yard.pending yard.trees).outcome = .ok (none, rest) ∧
        rest.trees = trees) ↔
      ∃ output, flushGroup state.held state.output = (none, output) ∧
        evaluate output [] = some trees := by
  have hspec := reduceGroup_spec yard.pending h.trees
  rw [h.held] at hspec
  generalize (reduceGroup yard.pending yard.trees).outcome = reduced at hspec ⊢
  generalize flushGroup state.held state.output = flushed at hspec ⊢
  obtain ⟨held?, output⟩ := flushed
  cases reduced with
  | error fault =>
    -- No trees are spelled by output that cannot be read.
    constructor
    · rintro ⟨rest, hrest, -⟩
      cases hrest
    · rintro ⟨_, ⟨⟩, hread⟩
      have hnone : evaluate output [] = none := hspec
      rw [hread] at hnone
      cases hnone
  | ok found =>
    obtain ⟨opened, rest⟩ := found
    obtain ⟨hheld, htrees⟩ := hspec
    constructor
    · rintro ⟨_, ⟨⟩, rfl⟩
      exact ⟨output, Prod.ext hheld rfl, htrees⟩
    · rintro ⟨_, ⟨⟩, hread⟩
      cases opened with
      | none => exact ⟨rest, rfl, Option.some_inj.1 (htrees.symm.trans hread)⟩
      | some span => cases hheld

end Yard

namespace Grammar

open ReversePolish (evaluate flushGroup sort)

/-- The tokens of an expression can be sorted, and the output spells the trees. -/
def Spells (g : Grammar) (expression : String) (trees : List Tree) : Prop :=
  ∃ tokens output, g.tokens? expression = some tokens ∧ sort tokens = some output ∧
    evaluate output [] = some trees

/-- An expression spells the trees that are left in the yard once every waiting operator has
been reduced, if no parenthesis is found to be open. -/
theorem spells_iff_reduceGroup {g : Grammar} {expression : String} {trees : List Tree} :
    g.Spells expression trees ↔
      ∃ yard, ((lexemes expression).foldlM (Yard.read g) Yard.empty).outcome = .ok yard ∧
        ∃ rest, (Yard.reduceGroup yard.pending yard.trees).outcome = .ok (none, rest) ∧
          rest.trees = trees := by
  have hempty : Yard.empty.Mirrors ⟨[], []⟩ := ⟨rfl, rfl⟩
  have hagrees := Yard.agrees_foldlM_read g (lexemes expression) hempty
  simp only [Spells, ReversePolish.sort_eq_some_iff, tokens?]
  constructor
  · rintro ⟨tokens, output, htokens, ⟨state, hrun, hflush⟩, hread⟩
    rw [htokens, Option.bind_some, hrun] at hagrees
    generalize ((lexemes expression).foldlM (Yard.read g) Yard.empty).outcome = outcome
      at hagrees ⊢
    cases hagrees with
    | @mirrors yard _ hmirrors =>
      exact ⟨yard, rfl, (Yard.reduceGroup_eq_ok_none_iff hmirrors).2 ⟨output, hflush, hread⟩⟩
    | unreadable hnone =>
      -- What has been sorted so far is a beginning of output that can be read.
      have hle := ReversePolish.prefix_output_flushGroup state.held state.output
      rw [hflush] at hle
      have := ReversePolish.evaluate_eq_none_of_prefix hle hnone
      rw [hread] at this
      cases this
  · rintro ⟨yard, hyard, hrest⟩
    rw [hyard] at hagrees
    generalize hstate : Option.bind _ _ = state? at hagrees
    cases hagrees with
    | mirrors hmirrors =>
      obtain ⟨tokens, htokens, hrun⟩ := Option.bind_eq_some_iff.1 hstate
      obtain ⟨output, hflush, hread⟩ := (Yard.reduceGroup_eq_ok_none_iff hmirrors).1 hrest
      exact ⟨tokens, output, htokens, ⟨_, hrun, hflush⟩, hread⟩

/-- An expression has a tree exactly if it spells this tree alone. -/
theorem parse_eq_ok_iff_spells {g : Grammar} {expression : String} {tree : Tree} :
    g.parse expression = .ok tree ↔ g.Spells expression [tree] := by
  rw [parse_eq_ok_iff_finish, spells_iff_reduceGroup]
  simp only [Yard.finish_eq_ok_iff]

/-- An expression has a tree exactly if its tokens are sorted into the entries of the
tree. -/
theorem parse_eq_ok_iff_sort {g : Grammar} {expression : String} {tree : Tree} :
    g.parse expression = .ok tree ↔
      ∃ tokens, g.tokens? expression = some tokens ∧ sort tokens = some tree.entries := by
  rw [parse_eq_ok_iff_spells]
  simp only [Spells, ReversePolish.evaluate_eq_singleton_iff]
  constructor
  · rintro ⟨tokens, _, htokens, hsort, rfl⟩
    exact ⟨tokens, htokens, hsort⟩
  · rintro ⟨tokens, htokens, hsort⟩
    exact ⟨tokens, tree.entries, htokens, hsort, rfl⟩

/-- An expression has a tree exactly if its tokens can be sorted and the output, read with
a stack of trees, leaves this tree alone.  The output then lists the tree, every operator
after its operands. -/
theorem parse_eq_ok_iff_evaluate (g : Grammar) (expression : String) (tree : Tree) :
    (g.parse expression = .ok tree ↔
        ∃ tokens output, g.tokens? expression = some tokens ∧ sort tokens = some output ∧
          evaluate output [] = some [tree]) ∧
      (g.parse expression = .ok tree →
        ∃ tokens output, g.tokens? expression = some tokens ∧ sort tokens = some output ∧
          output.map ReversePolish.Entry.text = tree.postOrder) := by
  constructor
  · simp only [ReversePolish.evaluate_eq_singleton_iff, parse_eq_ok_iff_sort]
    constructor
    · rintro ⟨tokens, htokens, hsort⟩
      exact ⟨tokens, tree.entries, htokens, hsort, rfl⟩
    · rintro ⟨tokens, _, htokens, hsort, rfl⟩
      exact ⟨tokens, htokens, hsort⟩
  · intro h
    obtain ⟨tokens, htokens, hsort⟩ := parse_eq_ok_iff_sort.1 h
    exact ⟨tokens, tree.entries, htokens, hsort, tree.map_text_entries⟩

end Grammar

end ShuntingYard
