/-
A group in parentheses behaves as one operand.

The open parenthesis keeps what waits below it where it is, and the lexemes of an
expression that has a tree never ask for a tree from below, since they find all their
operands among themselves.  So behind the closing parenthesis nothing has changed but that
the tree of the group is finished, just as behind an operand its leaf is.  From there on
the two expressions go side by side.

* `Yard.foldlM_read_group` — what a group does to any yard;
* `Comparison.oneLeaf` — two runs that differ in one leaf;
* `Grammar.matching_run_group` — an expression with a group and the same expression with an
  operand in its place, side by side;
* `Grammar.parse_group` — the tree with the group is the tree with the operand, in which
  the leaf of the operand is exchanged, and the cause of a failure is the same.
-/
import ShuntingYard.Proofs.Acceptance
import ShuntingYard.Proofs.Correspondence
import ShuntingYard.Proofs.Joints

namespace ShuntingYard

open ReversePolish (Entry evaluate)

/-! ### The group alone -/

/-- The entries of some trees, one tree after the other, are read as these trees. -/
theorem ReversePolish.evaluate_flatMap_entries (trees : List Tree) :
    evaluate (trees.reverse.flatMap Tree.entries) [] = some trees := by
  induction trees with
  | nil => rfl
  | cons tree trees ih =>
    have hentries := evaluate_entries tree [] trees
    rw [List.append_nil] at hentries
    simp only [List.reverse_cons, List.flatMap_append, evaluate_append, ih, Option.bind_some,
      List.flatMap_singleton, hentries]
    rfl

namespace Yard

/-- Whatever waits and is finished in a yard, there is a sorting that it mirrors. -/
theorem mirrors_flatMap_entries (yard : Yard) :
    yard.Mirrors ⟨yard.pending.map Pending.held, yard.trees.reverse.flatMap Tree.entries⟩ :=
  ⟨rfl, ReversePolish.evaluate_flatMap_entries yard.trees⟩

/-- A group whose inside has a tree adds this tree to any yard, and leaves what waits. -/
theorem foldlM_read_group {g : Grammar} {inner : Nesting} {tree : Tree}
    (hinner : evaluate inner.entries [] = some [tree]) {lexemes : List Lexeme}
    (hlexemes : (lexemes.map Lexeme.text).mapM g.classify =
      some (.openParen :: (inner.tokens ++ [.closeParen])))
    (yard : Yard) :
    ∃ pending, (lexemes.foldlM (Yard.read g) yard).outcome = .ok ⟨pending, tree :: yard.trees⟩ ∧
      pending.map Pending.held = yard.pending.map Pending.held := by
  have hentries : inner.entries = tree.entries := ReversePolish.evaluate_eq_singleton_iff.1 hinner
  -- Sorting the group only adds its entries to the output.
  have hsort := (Nesting.group inner .nil).foldlM_step_tokens (yard.pending.map Pending.held)
    (yard.trees.reverse.flatMap Tree.entries)
  have hrow : (Nesting.group inner .nil).row = (tree.entries, []) := by
    rw [← hentries, Nesting.entries]
    simp [Nesting.row]
  rw [hrow] at hsort
  have hagrees := agrees_foldlM_read g lexemes yard.mirrors_flatMap_entries
  rw [hlexemes, Option.bind_some] at hagrees
  rw [show Token.openParen :: (inner.tokens ++ [.closeParen]) =
    (Nesting.group inner .nil).tokens from rfl, hsort] at hagrees
  have houtput : evaluate (yard.trees.reverse.flatMap Tree.entries ++ tree.entries) [] =
      some (tree :: yard.trees) := by
    have := ReversePolish.evaluate_flatMap_entries (tree :: yard.trees)
    rwa [List.reverse_cons, List.flatMap_append, List.flatMap_singleton] at this
  generalize (lexemes.foldlM (Yard.read g) yard).outcome = outcome at hagrees ⊢
  cases hagrees with
  | @mirrors yard' _ h =>
    have htrees := h.trees.symm.trans houtput
    obtain ⟨pending, trees⟩ := yard'
    obtain rfl := Option.some_inj.1 htrees
    exact ⟨pending, rfl, h.held⟩
  | unreadable h =>
    have hnone : evaluate (yard.trees.reverse.flatMap Tree.entries ++ tree.entries) [] = none := h
    rw [houtput] at hnone
    cases hnone

end Yard

/-! ### One leaf exchanged -/

/-- The leaf at the place `k` is exchanged for `tree`.  The places of lexemes are not
compared, nor are the notes. -/
def Comparison.oneLeaf (k : Nat) (tree : Tree) : Comparison :=
  .silent (fun _ _ => True) (fun place value => if place = k then tree else .leaf value)
    (fun fault fault' => fault'.cause = fault.cause) (fun _ _ => rfl) fun _ _ => rfl

variable {k : Nat} {tree : Tree}

/-- Where places are not compared, entries are alike if they hold the same. -/
theorem Pending.forall₂_alike_iff {pending pending' : List Pending} :
    List.Forall₂ (Alike (.oneLeaf k tree)) pending pending' ↔
      pending.map held = pending'.map held := by
  constructor
  · intro h
    induction h with
    | nil => rfl
    | cons hfirst _ ih =>
      cases hfirst with
      | openParen => simp [held, ih]
      | operator hbound =>
        obtain rfl := hbound
        simp [held, ih]
  · intro h
    induction pending generalizing pending' with
    | nil =>
      obtain rfl := List.map_eq_nil_iff.1 h.symm
      exact .nil
    | cons first pending ih =>
      obtain ⟨first', rest', rfl, hfirst, hrest⟩ := List.map_eq_cons_iff.1 h.symm
      refine .cons ?_ (ih hrest.symm)
      cases first <;> cases first' <;> cases hfirst
      · exact .openParen trivial
      · exact .operator rfl trivial

/-- An operand on the one side and a group on the other, in corresponding yards. -/
theorem Yard.Corresponds.operand_group {g : Grammar} {yard yard' : Yard}
    (h : Corresponds (.oneLeaf k tree) k yard yard') {x : String} {inner : Nesting}
    (hinner : evaluate inner.entries [] = some [tree]) {lexemes lexemes' : List Lexeme}
    (hlexemes : (lexemes.map Lexeme.text).mapM g.classify = some [.operand x])
    (hlexemes' : (lexemes'.map Lexeme.text).mapM g.classify =
      some (.openParen :: (inner.tokens ++ [.closeParen]))) :
    Parallel (Comparison.oneLeaf k tree).mask (Comparison.oneLeaf k tree).fault
      (Corresponds (.oneLeaf k tree) (k + 1))
      (lexemes.foldlM (Yard.read g) yard) (lexemes'.foldlM (Yard.read g) yard') := by
  obtain ⟨htexts, hclassify⟩ := Grammar.mapM_classify_eq_some_iff.1 hlexemes
  obtain ⟨lexeme, others, rfl, htext, hothers⟩ := List.map_eq_cons_iff.1 htexts.symm
  obtain rfl := List.map_eq_nil_iff.1 hothers
  have hoperand : ([lexeme].foldlM (Yard.read g) yard).outcome =
      .ok ⟨yard.pending, .leaf x :: yard.trees⟩ := by
    have hx : g.classify lexeme.text = some (.operand x) := by
      rw [htext]
      exact hclassify _ (List.mem_singleton_self _)
    rw [List.foldlM_cons, Traced.outcome_bind, outcome_read, hx]
    rfl
  obtain ⟨pending, hgroup, hheld⟩ := foldlM_read_group hinner hlexemes' yard'
  obtain ⟨hcount, htrees⟩ := h.trees
  refine ⟨by simp [Comparison.oneLeaf, Comparison.silent], ?_⟩
  rw [hoperand, hgroup]
  refine .ok ⟨?_, by simp [Tree.leafCount, Tree.leaves, hcount], ?_⟩
  · have hsame := Pending.forall₂_alike_iff.1 h.pending
    exact Pending.forall₂_alike_iff.2 (hsame.trans hheld.symm)
  · simp only [Tree.substituteAll, Tree.substituteFrom, hcount, htrees, Comparison.oneLeaf,
      Comparison.silent, if_true]

/-! ### The group in its place -/

@[simp]
theorem map_text_map_shift (distance : Nat) (lexemes : List Lexeme) :
    (lexemes.map (Lexeme.shift distance)).map Lexeme.text = lexemes.map Lexeme.text := by
  rw [List.map_map]
  rfl

namespace Grammar

variable {g : Grammar}

/-- Parentheses stand in front of the tokens of an expression and behind them. -/
theorem tokens?_parenthesized {inner : String} {tokens : List Token}
    (h : g.tokens? inner = some tokens) :
    g.tokens? ("(" ++ " " ++ inner ++ " " ++ ")") =
      some (.openParen :: (tokens ++ [.closeParen])) := by
  obtain ⟨htexts, hall⟩ := tokens?_eq_some_iff.1 h
  refine tokens?_eq_some_iff.2 ⟨?_, ?_⟩
  · have hopen : (lexemes "(").map Lexeme.text = ["("] := by decide +kernel
    have hclose : (lexemes ")").map Lexeme.text = [")"] := by decide +kernel
    rw [lexemes_append_blank, lexemes_append_blank, List.map_append, List.map_append,
      map_text_map_shift, map_text_map_shift, hopen, hclose, ← htexts]
    simp [Token.text]
  · intro token htoken
    simp only [List.mem_cons, List.mem_append, List.not_mem_nil, or_false] at htoken
    rcases htoken with rfl | htoken | rfl
    · exact classify_eq_openParen_iff.2 rfl
    · exact hall token htoken
    · exact classify_eq_closeParen_iff.2 rfl

/-- The same texts read alike, if no operand among them stands at the place that is
exchanged. -/
theorem readsAlike_of_map_text_eq {n : Nat} {lexemes lexemes' : List Lexeme}
    (htexts : lexemes.map Lexeme.text = lexemes'.map Lexeme.text)
    (hplace : k < n ∨ n + g.operandCount lexemes ≤ k) :
    (Comparison.oneLeaf k tree).ReadsAlike g g n lexemes lexemes' := by
  induction lexemes generalizing lexemes' n with
  | nil =>
    obtain rfl := List.map_eq_nil_iff.1 htexts.symm
    exact .nil n
  | cons lexeme others ih =>
    obtain ⟨lexeme', others', rfl, htext, hothers⟩ := List.map_eq_cons_iff.1 htexts.symm
    cases hlexeme : g.classify lexeme.text with
    | none => exact .unrecognised hlexeme (htext ▸ hlexeme) (by rw [htext]; rfl)
    | some token =>
      rw [operandCount_cons hlexeme] at hplace
      refine .token hlexeme (htext ▸ hlexeme) ?_ trivial rfl (ih hothers.symm (by omega))
      cases token with
      | operand text =>
        have hne : n ≠ k := by
          simp only [Token.width] at hplace
          omega
        exact .operand (if_neg hne)
      | operator symbol binding => exact .operator rfl
      | openParen => exact .openParen
      | closeParen => exact .closeParen

variable {x inner : String}

/-- A group and an operand in its place, side by side: the tree of the group is what the
operand is exchanged for. -/
theorem matching_run_group (hx : g.tokens? x = some [.operand x])
    (hinner : g.parse inner = .ok tree) (before after : String) :
    Matching (fun fault fault' => fault'.cause = fault.cause)
      (fun whole whole' => whole' = whole.replaceLeaf (g.operandTexts before).length tree)
      (g.run (before ++ " " ++ x ++ " " ++ after)).outcome
      (g.run (before ++ " " ++ ("(" ++ " " ++ inner ++ " " ++ ")") ++ " " ++ after)).outcome := by
  set k := (g.operandTexts before).length with hk
  set group := "(" ++ " " ++ inner ++ " " ++ ")" with hgroup
  obtain ⟨nesting, htokens, hentries⟩ := parse_eq_ok_iff_nesting.1 hinner
  rw [outcome_run, outcome_run, lexemes_append_blank (before ++ " " ++ x) after,
    lexemes_append_blank (before ++ " " ++ group) after, lexemes_append_blank before x,
    lexemes_append_blank before group]
  simp only [List.foldlM_append, bind_assoc]
  -- In front both expressions are the same, and no leaf is exchanged yet.
  have hfront : (Comparison.oneLeaf k tree).ReadsAlike g g 0 (lexemes before) (lexemes before) :=
    readsAlike_of_map_text_eq rfl (Or.inr (Nat.le_of_eq (Nat.zero_add _)))
  refine (((Yard.Corresponds.empty _).foldlM_read hfront).bind ?_).outcome
  intro yard yard' hyards
  rw [Nat.zero_add] at hyards
  -- The operand is read as its leaf, and the group as the tree that the leaf is exchanged for.
  have hoperand : (((lexemes x).map (Lexeme.shift (before ++ " ").utf8ByteSize)).map
      Lexeme.text).mapM g.classify = some [.operand x] := by
    rw [map_text_map_shift]
    exact hx
  have hparens : (((lexemes group).map (Lexeme.shift (before ++ " ").utf8ByteSize)).map
      Lexeme.text).mapM g.classify = some (.openParen :: (nesting.tokens ++ [.closeParen])) := by
    rw [map_text_map_shift]
    exact tokens?_parenthesized htokens
  refine (hyards.operand_group hentries hoperand hparens).bind ?_
  intro yard yard' hyards
  -- Behind it no leaf is exchanged any more.
  have hback : (Comparison.oneLeaf k tree).ReadsAlike g g (k + 1)
      ((lexemes after).map (Lexeme.shift (before ++ " " ++ x ++ " ").utf8ByteSize))
      ((lexemes after).map (Lexeme.shift (before ++ " " ++ group ++ " ").utf8ByteSize)) := by
    refine readsAlike_of_map_text_eq ?_ (Or.inl (Nat.lt_succ_self k))
    rw [map_text_map_shift, map_text_map_shift]
  refine (hyards.foldlM_read hback).bind ?_
  intro yard yard' hyards
  exact hyards.finish fun _ => rfl

/-- If an operand `x` is exchanged for a group that has a tree, this tree stands in the
place of its leaf, and what has failed still fails for the same cause. -/
theorem parse_group (hx : g.tokens? x = some [.operand x]) (hinner : g.parse inner = .ok tree)
    (before after : String) :
    (∀ whole, g.parse (before ++ " " ++ x ++ " " ++ after) = .ok whole →
        g.parse (before ++ " ( " ++ inner ++ " ) " ++ after) =
          .ok (whole.replaceLeaf (g.operandTexts before).length tree)) ∧
      ∀ failure, g.parse (before ++ " " ++ x ++ " " ++ after) = .error failure →
        ∃ failure', g.parse (before ++ " ( " ++ inner ++ " ) " ++ after) = .error failure' ∧
          failure'.cause = failure.cause := by
  have hgroup : before ++ " ( " ++ inner ++ " ) " ++ after =
      before ++ " " ++ ("(" ++ " " ++ inner ++ " " ++ ")") ++ " " ++ after := by
    have hopen : " ( " = " " ++ ("(" ++ " ") := by decide
    have hclose : " ) " = " " ++ (")" ++ " ") := by decide
    rw [hopen, hclose]
    simp only [String.append_assoc]
  have hmatching := matching_run_group hx hinner before after
  rw [← hgroup] at hmatching
  constructor
  · intro whole hwhole
    rw [parse_eq_ok_iff_run] at hwhole ⊢
    rw [hwhole] at hmatching
    generalize (g.run (before ++ " ( " ++ inner ++ " ) " ++ after)).outcome = outcome
      at hmatching ⊢
    cases hmatching with
    | ok h => rw [h]
  · intro failure hfailure
    rw [parse_eq_error_iff_run] at hfailure
    rw [hfailure.2] at hmatching
    generalize houtcome : (g.run (before ++ " ( " ++ inner ++ " ) " ++ after)).outcome = outcome
      at hmatching
    cases hmatching with
    | @error _ fault' h =>
      exact ⟨⟨fault', _⟩, parse_eq_error_iff_run.2 ⟨rfl, houtcome⟩, h⟩

/-- The group may hold what is no phrase, and what stands around it may be none either. -/
theorem parse_group_out_of_order :
    standard.tokens? "7" = some [.operand "7"] ∧
      standard.parse "1 2 +" = .ok (.node "+" (.leaf "1") (.leaf "2")) ∧
        standard.parse ("3" ++ " " ++ "7" ++ " " ++ "*") =
            .ok (.node "*" (.leaf "3") (.leaf "7")) ∧
          standard.parse ("3" ++ " ( " ++ "1 2 +" ++ " ) " ++ "*") =
            .ok (.node "*" (.leaf "3") (.node "+" (.leaf "1") (.leaf "2"))) := by
  have hx : standard.tokens? "7" = some [.operand "7"] := by decide +kernel
  have hinner : standard.parse "1 2 +" = .ok (.node "+" (.leaf "1") (.leaf "2")) :=
    parse_eq_ok_iff_run.2 (by decide +kernel)
  have hwhole : standard.parse ("3" ++ " " ++ "7" ++ " " ++ "*") =
      .ok (.node "*" (.leaf "3") (.leaf "7")) :=
    parse_eq_ok_iff_sort.2
      ⟨[.operand "3", .operand "7", .operator "*" ⟨1, .left⟩], by decide +kernel, by decide⟩
  have hcount : (standard.operandTexts "3").length = 1 := by decide +kernel
  have hgroup := (parse_group hx hinner "3" "*").1 _ hwhole
  rw [hcount] at hgroup
  exact ⟨hx, hinner, hwhole, hgroup⟩

end Grammar

end ShuntingYard
