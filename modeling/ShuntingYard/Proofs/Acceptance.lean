/-
Which expressions have a tree.

Operands and operators are not asked to alternate.  Parentheses have to match, and
every operator has to find two trees when it is applied, wherever these come from:
`1 1 +` and `+ 1 1` stand for the same tree as `1 + 1`, and `1 ( )` for that of `1`.
Two parts stand side by side in each of these.  This is the only way for an expression
that has a tree not to be spelled by a phrase: for every operand that is missing somewhere
there has to be one too many elsewhere.

* `ReversePolish.exists_nesting_of_sort` — tokens that can be sorted are a nesting;
* `Grammar.parse_eq_ok_iff_nesting` — the expressions that have a tree, and their trees;
* `alternates` — whether operands and operators alternate as they do in a phrase;
* `Nesting.exists_phrase_iff` — the nestings that are phrases are those that alternate;
* `PartsApart` — no part stands directly behind another;
* `alternates_of_partsApart` — with one operand more than operators, this is enough for them
  to alternate;
* `Grammar.parse_accepts` — what is accepted, and what of it is spelled by a phrase.
-/
import Mathlib.Data.List.Chain
import ShuntingYard.Proofs.Conservation
import ShuntingYard.Proofs.Precedence

namespace ShuntingYard

open ReversePolish (Held Entry Sorting step sort evaluate flushBefore flushGroup)

/-! ### Tokens that can be sorted are nested -/

namespace ReversePolish

/-- The number of parentheses that wait to be closed. -/
def openCount (held : List Held) : Nat := held.count .openParen

theorem openCount_flushBefore (incoming : Binding) (held : List Held) (output : List Entry) :
    openCount (flushBefore incoming held output).held = openCount held := by
  fun_induction flushBefore incoming held output with
  | case1 symbol binding held output hbefore ih => simpa [openCount] using ih
  | case2 => rfl
  | case3 => rfl

theorem openCount_flushGroup (held : List Held) (output : List Entry) :
    openCount held =
      match (flushGroup held output).1 with
      | some rest => openCount rest + 1
      | none => 0 := by
  fun_induction flushGroup held output with
  | case1 => rfl
  | case2 => simp [openCount]
  | case3 symbol binding held output ih => simpa [openCount] using ih

/-- The tokens behind a state in which `n` parentheses are open close all of them: they
are a nesting, then `n` times a closing parenthesis and a nesting. -/
theorem exists_nestings {tokens : List Token} {state state' : Sorting}
    (h : tokens.foldlM step state = some state') (hclosed : openCount state'.held = 0) :
    ∃ (first : Nesting) (others : List Nesting), others.length = openCount state.held ∧
      tokens = first.tokens ++ others.flatMap fun other => .closeParen :: other.tokens := by
  induction tokens generalizing state with
  | nil =>
    cases h
    exact ⟨.nil, [], hclosed.symm, rfl⟩
  | cons token tokens ih =>
    rw [List.foldlM_cons] at h
    obtain ⟨next, hstep, hrun⟩ := Option.bind_eq_some_iff.1 h
    obtain ⟨first, others, hlength, htokens⟩ := ih hrun
    subst htokens
    cases token with
    | operand text =>
      cases hstep
      exact ⟨.operand text first, others, hlength, rfl⟩
    | operator symbol binding =>
      cases hstep
      refine ⟨.operator symbol binding first, others, ?_, rfl⟩
      rw [hlength, ← openCount_flushBefore binding state.held state.output]
      simp [openCount]
    | openParen =>
      -- The nesting up to the next closing parenthesis is the inside of the new group.
      cases hstep
      have hlength' : others.length = openCount state.held + 1 := by
        rw [hlength]
        simp [openCount]
      obtain ⟨next, others, rfl⟩ := List.exists_cons_of_length_eq_add_one hlength'
      refine ⟨.group first next, others, by simpa using hlength', ?_⟩
      simp [Nesting.tokens]
    | closeParen =>
      -- An empty nesting stands in front of the parenthesis, and `first` behind it.
      have hcount := openCount_flushGroup state.held state.output
      simp only [step] at hstep
      split at hstep
      · rename_i held output hflush
        cases hstep
        rw [hflush] at hcount
        refine ⟨.nil, first :: others, ?_, by simp [Nesting.tokens]⟩
        rw [List.length_cons, hlength]
        exact hcount.symm
      · cases hstep

theorem exists_nesting_of_sort {tokens : List Token} {output : List Entry}
    (h : sort tokens = some output) : ∃ nesting : Nesting, tokens = nesting.tokens := by
  obtain ⟨state, hrun, hflush⟩ := sort_eq_some_iff.1 h
  have hcount := openCount_flushGroup state.held state.output
  rw [hflush] at hcount
  obtain ⟨first, others, hlength, htokens⟩ := exists_nestings hrun hcount
  obtain rfl : others = [] := List.eq_nil_of_length_eq_zero hlength
  exact ⟨first, by simpa using htokens⟩

end ReversePolish

namespace Grammar

/-- An expression has a tree exactly if its parentheses match and its operators, in the
order in which they are applied, find their operands and leave this tree alone. -/
theorem parse_eq_ok_iff_nesting {g : Grammar} {expression : String} {tree : Tree} :
    g.parse expression = .ok tree ↔
      ∃ nesting : Nesting, g.tokens? expression = some nesting.tokens ∧
        evaluate nesting.entries [] = some [tree] := by
  simp only [parse_eq_ok_iff_sort, ReversePolish.evaluate_eq_singleton_iff]
  constructor
  · rintro ⟨tokens, htokens, hsort⟩
    obtain ⟨nesting, rfl⟩ := ReversePolish.exists_nesting_of_sort hsort
    rw [nesting.sort_tokens, Option.some_inj] at hsort
    exact ⟨nesting, htokens, hsort⟩
  · rintro ⟨nesting, htokens, hentries⟩
    exact ⟨nesting.tokens, htokens, by rw [nesting.sort_tokens, hentries]⟩

end Grammar

/-! ### Alternation -/

/-- Whether an operand or an opening parenthesis stands wherever an operand is due, and
an operator, a closing parenthesis or the end wherever none is.  An operand is due
behind an operator or an opening parenthesis. -/
def alternates : (due : Bool) → List Token → Bool
  | due, [] => !due
  | true, .operand _ :: tokens => alternates false tokens
  | true, .openParen :: tokens => alternates true tokens
  | false, .operator _ _ :: tokens => alternates true tokens
  | false, .closeParen :: tokens => alternates false tokens
  | _, _ :: _ => false

mutual

theorem Phrase.alternates_tokens_append (phrase : Phrase) (rest : List Token) :
    alternates true (phrase.tokens ++ rest) = alternates false rest := by
  cases phrase with
  | single part => exact part.alternates_tokens_append rest
  | chain part symbol binding others =>
    rw [Phrase.tokens, List.append_assoc, part.alternates_tokens_append]
    exact others.alternates_tokens_append rest

theorem Part.alternates_tokens_append (part : Part) (rest : List Token) :
    alternates true (part.tokens ++ rest) = alternates false rest := by
  cases part with
  | operand text => rfl
  | group inner =>
    show alternates true (inner.tokens ++ [Token.closeParen] ++ rest) = _
    rw [List.append_assoc, inner.alternates_tokens_append]
    rfl

end

theorem Phrase.alternates_tokens (phrase : Phrase) : alternates true phrase.tokens = true := by
  have := phrase.alternates_tokens_append []
  rwa [List.append_nil] at this

/-- A closing parenthesis divides the condition in two. -/
theorem alternates_append_closeParen (due : Bool) (before after : List Token) :
    alternates due (before ++ .closeParen :: after) =
      (alternates due before && alternates false after) := by
  induction before generalizing due with
  | nil => cases due <;> rfl
  | cons token before ih => cases due <;> cases token <;> simp [alternates, ih]

/-- An alternating nesting is that of a phrase; if no operand is due in front of it, it
is nothing or an operator and a phrase. -/
theorem Nesting.exists_phrase (nesting : Nesting) :
    (alternates true nesting.tokens = true → ∃ phrase : Phrase, nesting = phrase.nesting) ∧
      (alternates false nesting.tokens = true → nesting = .nil ∨
        ∃ symbol binding, ∃ phrase : Phrase,
          nesting = .operator symbol binding phrase.nesting) := by
  -- A part and what follows it, which is nothing or an operator and a phrase.
  have hextend : ∀ (part : Part) (rest : Nesting),
      (rest = .nil ∨ ∃ symbol binding, ∃ phrase : Phrase,
        rest = .operator symbol binding phrase.nesting) →
      ∃ phrase : Phrase, part.nesting rest = phrase.nesting := by
    rintro part rest (rfl | ⟨symbol, binding, phrase, rfl⟩)
    · exact ⟨.single part, rfl⟩
    · exact ⟨.chain part symbol binding phrase, rfl⟩
  induction nesting with
  | nil => exact ⟨fun h => Bool.noConfusion h, fun _ => Or.inl rfl⟩
  | operand text rest ih =>
    exact ⟨fun h => hextend (.operand text) rest (ih.2 h), fun h => Bool.noConfusion h⟩
  | operator symbol binding rest ih =>
    refine ⟨fun h => Bool.noConfusion h, fun h => Or.inr ?_⟩
    obtain ⟨phrase, rfl⟩ := ih.1 h
    exact ⟨symbol, binding, phrase, rfl⟩
  | group inner rest ihInner ihRest =>
    refine ⟨fun h => ?_, fun h => Bool.noConfusion h⟩
    -- The closing parenthesis lets the inside and what follows be told apart.
    have h' : alternates true (inner.tokens ++ .closeParen :: rest.tokens) = true := h
    rw [alternates_append_closeParen, Bool.and_eq_true] at h'
    obtain ⟨phrase, rfl⟩ := ihInner.1 h'.1
    exact hextend (.group phrase) rest (ihRest.2 h'.2)

theorem Nesting.exists_phrase_iff (nesting : Nesting) :
    (∃ phrase : Phrase, nesting.tokens = phrase.tokens) ↔
      alternates true nesting.tokens = true := by
  constructor
  · rintro ⟨phrase, hphrase⟩
    rw [hphrase]
    exact phrase.alternates_tokens
  · intro h
    obtain ⟨phrase, rfl⟩ := nesting.exists_phrase.1 h
    exact ⟨phrase, phrase.tokens_nesting⟩

/-! ### Parts that are apart -/

namespace Token

/-- Whether a part starts with the token, which then is an operand or opens a group. -/
def startsPart : Token → Bool
  | operand _ | openParen => true
  | operator _ _ | closeParen => false

/-- Whether a part ends with the token, which then is an operand or closes a group. -/
def endsPart : Token → Bool
  | operand _ | closeParen => true
  | operator _ _ | openParen => false

/-- An operand is both ends of a part, an operator none, and a parenthesis one of them. -/
theorem length_operands_cons (token : Token) (tokens : List Token) :
    ((token :: tokens).filterMap operand?).length + (tokens.filterMap operator?).length + 1 =
      ((token :: tokens).filterMap operator?).length + (tokens.filterMap operand?).length +
        token.startsPart.toNat + token.endsPart.toNat := by
  cases token <;>
    simp [startsPart, endsPart, operand?, operator?, List.filterMap_cons] <;> omega

end Token

theorem alternates_cons (due : Bool) (token : Token) (tokens : List Token) :
    alternates due (token :: tokens) =
      (token.startsPart == due && alternates (!token.endsPart) tokens) := by
  cases due <;> cases token <;> rfl

/-- No part stands directly behind another: what follows an operand or a closing parenthesis
is neither an operand nor an opening parenthesis. -/
def PartsApart (tokens : List Token) : Prop :=
  tokens.IsChain fun token next => token.endsPart = true → next.startsPart = false

theorem partsApart_of_alternates {due : Bool} {tokens : List Token}
    (h : alternates due tokens = true) : PartsApart tokens := by
  induction tokens generalizing due with
  | nil => exact .nil
  | cons token tokens ih =>
    rw [alternates_cons, Bool.and_eq_true] at h
    refine List.isChain_cons.2 ⟨fun next hnext hends => ?_, ih h.2⟩
    obtain ⟨others, rfl⟩ := List.head?_eq_some_iff.1 hnext
    rw [alternates_cons, hends, Bool.and_eq_true] at h
    exact beq_iff_eq.1 h.2.1

/-- Tokens whose parts are apart, behind the end of a part or not, have at most the operands
that their operators can join; if they have all of these, operands and operators alternate. -/
theorem alternates_of_partsApart {ended : Bool} {tokens : List Token} (h : PartsApart tokens)
    (hfirst : ∀ first ∈ tokens.head?, ended = true → first.startsPart = false) :
    (tokens.filterMap Token.operand?).length + ended.toNat ≤
        (tokens.filterMap Token.operator?).length + 1 ∧
      ((tokens.filterMap Token.operand?).length + ended.toNat =
          (tokens.filterMap Token.operator?).length + 1 → alternates (!ended) tokens = true) := by
  induction tokens generalizing ended with
  | nil => cases ended <;> simp [alternates]
  | cons token tokens ih =>
    obtain ⟨hnext, hrest⟩ := List.isChain_cons.1 h
    obtain ⟨hle, halternates⟩ := ih hrest hnext
    have hcons := token.length_operands_cons tokens
    -- The token starts a part or comes behind one, but not both.
    have hone : token.startsPart.toNat + ended.toNat ≤ 1 := by
      cases ended with
      | false => exact token.startsPart.toNat_le
      | true =>
        rw [hfirst token rfl rfl]
        exact Nat.le_refl 1
    refine ⟨by omega, fun hlength => ?_⟩
    rw [alternates_cons, Bool.and_eq_true, beq_iff_eq]
    refine ⟨?_, halternates (by omega)⟩
    have hsum : token.startsPart.toNat + ended.toNat = 1 := by omega
    revert hsum
    cases token.startsPart <;> cases ended <;> decide

/-- Nestings with one operand more than operators are those of phrases if their parts are
apart. -/
theorem Nesting.exists_phrase_iff_partsApart (nesting : Nesting)
    (hlength : (nesting.tokens.filterMap Token.operand?).length =
      (nesting.tokens.filterMap Token.operator?).length + 1) :
    (∃ phrase : Phrase, nesting.tokens = phrase.tokens) ↔ PartsApart nesting.tokens := by
  refine nesting.exists_phrase_iff.trans ⟨partsApart_of_alternates, fun hapart => ?_⟩
  -- The first token comes behind no part.
  have hfirst : ∀ first ∈ nesting.tokens.head?, false = true → first.startsPart = false :=
    fun _ _ hended => Bool.noConfusion hended
  exact (alternates_of_partsApart hapart hfirst).2 hlength

namespace Grammar

/-- Which expressions have a tree, and which of these are spelled by a phrase: those in which
no part stands directly behind another. -/
theorem parse_accepts (g : Grammar) (expression : String) :
    (∀ tree, g.parse expression = .ok tree ↔
        ∃ nesting : Nesting, g.tokens? expression = some nesting.tokens ∧
          evaluate nesting.entries [] = some [tree]) ∧
      ∀ tree, g.parse expression = .ok tree →
        ((∃ phrase : Phrase, g.tokens? expression = some phrase.tokens) ↔
          ∃ tokens, g.tokens? expression = some tokens ∧ PartsApart tokens) := by
  constructor
  · intro tree
    exact parse_eq_ok_iff_nesting
  · intro tree htree
    obtain ⟨nesting, htokens, -⟩ := parse_eq_ok_iff_nesting.1 htree
    have hphrase := nesting.exists_phrase_iff_partsApart (length_operands_of_tokens? htree htokens)
    simp only [htokens, Option.some_inj, exists_eq_left', hphrase]

/-- Two operands side by side in front of an operator are no phrase, and have a tree.  Read
from left to right it is not what has been written. -/
theorem parse_side_by_side :
    standard.parse "1 1 +" = .ok (.node "+" (.leaf "1") (.leaf "1")) ∧
      (¬ ∃ phrase : Phrase, standard.tokens? "1 1 +" = some phrase.tokens) ∧
        (Tree.node "+" (.leaf "1") (.leaf "1")).inOrder ≠
          (lexemes "1 1 +").map Lexeme.text := by
  have htokens : standard.tokens? "1 1 +" =
      some [.operand "1", .operand "1", .operator "+" ⟨0, .left⟩] := by decide +kernel
  refine ⟨parse_eq_ok_iff_sort.2 ⟨_, htokens, by decide⟩, ?_, by decide +kernel⟩
  -- An operator is due behind the first operand.
  rintro ⟨phrase, hphrase⟩
  have hmixed := phrase.alternates_tokens
  rw [← Option.some_inj.1 (htokens.symm.trans hphrase)] at hmixed
  cases hmixed

end Grammar

end ShuntingYard
