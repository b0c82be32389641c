/-
Two runs side by side.

What the yard does with a token depends on what waits there, on which of two operators
goes first, and on how many trees are finished.  The texts of the operands do not matter,
nor does the place of anything, nor the ranks as such.  So two yards that differ only in
these still do so after tokens of the same kinds, or both have stopped for the same cause.

* `Parallel` — two computations that note the same, as far as it is compared, and whose
  outcomes are both results or both faults;
* `Comparison` — what two runs may differ in: the places, how operators are bound, the
  leaves, and what is compared of the faults and the notes;
* `Comparison.silent` — with the same bindings, and without the notes;
* `Tree.substituteAll` — finished trees in which the leaves are exchanged by their places;
* `Yard.Corresponds` — yards that hold the same but for this;
* `Comparison.ReadsAlike` — lexemes of the same kinds, one by one;
* `Yard.Corresponds.foldlM_read`, `Yard.Corresponds.finish` — what such lexemes, and the
  end of the expression, make of corresponding yards;
* `Comparison.parallel_run` — two expressions that read alike, from beginning to end;
* `Matching.exists_parse_eq_ok`, `Matching.exists_parse_eq_error` — what the result of the
  one tells of the other.
-/
import Mathlib.Data.List.Forall2
import Mathlib.Data.Option.Basic
import ShuntingYard.Proofs.Refinement
import ShuntingYard.Tree.Substitution

namespace ShuntingYard

/-! ### Computations -/

section

variable {α β γ δ : Type} {mask : Event → Option (Level × String)} {fault : Fault → Fault → Prop}

/-- Two outcomes side by side: results of which `result` holds, or faults of which `fault`
holds. -/
inductive Matching (fault : Fault → Fault → Prop) (result : α → β → Prop) :
    Except Fault α → Except Fault β → Prop where
  | ok {a : α} {b : β} (h : result a b) : Matching fault result (.ok a) (.ok b)
  | error {f f' : Fault} (h : fault f f') : Matching fault result (.error f) (.error f')

/-- Two computations side by side: what `mask` leaves of their events is the same, and their
outcomes match. -/
structure Parallel (mask : Event → Option (Level × String)) (fault : Fault → Fault → Prop)
    (result : α → β → Prop) (x : Traced α) (y : Traced β) : Prop where
  events : x.events.filterMap mask = y.events.filterMap mask
  outcome : Matching fault result x.outcome y.outcome

variable {result : α → β → Prop} {result' : γ → δ → Prop}

theorem Parallel.pure {a : α} {b : β} (h : result a b) :
    Parallel mask fault result (Pure.pure a) (Pure.pure b) := ⟨rfl, .ok h⟩

theorem Parallel.fail {cause cause' : Cause} {span span' : Span}
    (h : fault ⟨cause, span⟩ ⟨cause', span'⟩) :
    Parallel mask fault result (Traced.fail cause span) (Traced.fail cause' span') :=
  ⟨rfl, .error h⟩

theorem Parallel.note {event event' : Event} (h : mask event = mask event') :
    Parallel mask fault (fun _ _ => True) (Traced.note event) (Traced.note event') :=
  ⟨by simp only [Traced.events_note, List.filterMap_cons, h], .ok trivial⟩

/-- Parallel computations go on in parallel if their results do. -/
theorem Parallel.bind {x : Traced α} {y : Traced β} {f : α → Traced γ} {k : β → Traced δ}
    (h : Parallel mask fault result x y)
    (hnext : ∀ a b, result a b → Parallel mask fault result' (f a) (k b)) :
    Parallel mask fault result' (x >>= f) (y >>= k) := by
  obtain ⟨events, outcome⟩ := x
  obtain ⟨events', outcome'⟩ := y
  obtain ⟨hevents, houtcome⟩ := h
  cases houtcome with
  | ok hresult =>
    obtain ⟨hmore, hmatching⟩ := hnext _ _ hresult
    rw [Traced.bind_eq_of_outcome_eq_ok rfl, Traced.bind_eq_of_outcome_eq_ok rfl]
    exact ⟨by simp only [List.filterMap_append, hmore, hevents], hmatching⟩
  | error hfault =>
    rw [Traced.bind_eq_of_outcome_eq_error rfl, Traced.bind_eq_of_outcome_eq_error rfl]
    exact ⟨hevents, .error hfault⟩

end

/-- What two runs may differ in.  The leaf for the operand at each place of the first run is
exchanged for the tree `exchange` in the second. -/
structure Comparison where
  place : Span → Span → Prop
  bound : Binding → Binding → Prop
  exchange : Nat → String → Tree
  fault : Fault → Fault → Prop
  mask : Event → Option (Level × String)
  /-- Operators and parentheses are at fault alike at places that are compared. -/
  missingOperand : ∀ {span span' : Span} (operator : String),
    place span span' → fault ⟨.missingOperand operator, span⟩ ⟨.missingOperand operator, span'⟩
  unbalancedParentheses : ∀ {span span' : Span} (symbol : String), place span span' →
    fault ⟨.unbalancedParentheses symbol, span⟩ ⟨.unbalancedParentheses symbol, span'⟩
  /-- Of two operators the same goes first in both runs. -/
  reducesBefore_eq : ∀ {top top' incoming incoming' : Binding},
    bound top top' → bound incoming incoming' →
      top.reducesBefore incoming = top'.reducesBefore incoming'
  /-- The exchange of leaves does not show in what is compared of the notes. -/
  mask_reducing : ∀ (left right : Tree) (symbol : String) (n m : Nat),
    mask (.reducing left.value symbol right.value) =
      mask (.reducing (left.substituteFrom exchange n).value symbol
        (right.substituteFrom exchange m).value)

/-- Two runs with the same bindings, of which no notes are compared. -/
def Comparison.silent (place : Span → Span → Prop) (exchange : Nat → String → Tree)
    (fault : Fault → Fault → Prop)
    (missingOperand : ∀ {span span' : Span} (operator : String), place span span' →
      fault ⟨.missingOperand operator, span⟩ ⟨.missingOperand operator, span'⟩)
    (unbalancedParentheses : ∀ {span span' : Span} (symbol : String), place span span' →
      fault ⟨.unbalancedParentheses symbol, span⟩ ⟨.unbalancedParentheses symbol, span'⟩) :
    Comparison where
  place := place
  bound := Eq
  exchange := exchange
  fault := fault
  mask _ := none
  missingOperand := missingOperand
  unbalancedParentheses := unbalancedParentheses
  reducesBefore_eq := by
    rintro _ _ _ _ rfl rfl
    rfl
  mask_reducing _ _ _ _ _ := rfl

/-! ### Trees -/

namespace Tree

/-- The number of leaves of some trees. -/
def leafCount : List Tree → Nat
  | [] => 0
  | tree :: trees => leafCount trees + tree.leaves.length

/-- Trees, the latest in front, whose leaves are exchanged.  The places of the leaves are
counted through all the trees, from the earliest one on. -/
def substituteAll (f : Nat → String → Tree) : List Tree → List Tree
  | [] => []
  | tree :: trees => tree.substituteFrom f (leafCount trees) :: substituteAll f trees

theorem length_substituteAll (f : Nat → String → Tree) (trees : List Tree) :
    (substituteAll f trees).length = trees.length := by
  induction trees with
  | nil => rfl
  | cons tree trees ih => rw [substituteAll, List.length_cons, List.length_cons, ih]

end Tree

open ShuntingYard.Tree (leafCount substituteAll)

/-- Trees with `n` leaves, and the same trees with these leaves exchanged. -/
def Exchanged (f : Nat → String → Tree) (n : Nat) (trees trees' : List Tree) : Prop :=
  leafCount trees = n ∧ trees' = substituteAll f trees

/-! ### Yards -/

/-- The same entry of the track, as far as it is compared. -/
inductive Pending.Alike (c : Comparison) : Pending → Pending → Prop where
  | openParen {span span' : Span} (h : c.place span span') :
      Alike c (.openParen span) (.openParen span')
  | operator {symbol : String} {binding binding' : Binding} {span span' : Span}
      (hbound : c.bound binding binding') (h : c.place span span') :
      Alike c (.operator symbol binding span) (.operator symbol binding' span')

namespace Yard

/-- Two yards that hold the same, but that the second has the leaves exchanged. -/
structure Corresponds (c : Comparison) (n : Nat) (yard yard' : Yard) : Prop where
  pending : List.Forall₂ (Pending.Alike c) yard.pending yard'.pending
  trees : Exchanged c.exchange n yard.trees yard'.trees

theorem Corresponds.empty (c : Comparison) : Corresponds c 0 Yard.empty Yard.empty :=
  ⟨.nil, rfl, rfl⟩

variable {c : Comparison} {n : Nat}

/-! ### Reductions -/

/-- The leaves of the joined tree keep their places. -/
theorem parallel_reduce (symbol : String) {span span' : Span} (hplace : c.place span span')
    {trees trees' : List Tree} (h : Exchanged c.exchange n trees trees') :
    Parallel c.mask c.fault (Exchanged c.exchange n) (reduce symbol span trees)
      (reduce symbol span' trees') := by
  obtain ⟨hcount, rfl⟩ := h
  rcases trees with _ | ⟨right, _ | ⟨left, trees⟩⟩
  · exact .fail (c.missingOperand symbol hplace)
  · exact .fail (c.missingOperand symbol hplace)
  · refine (Parallel.note (c.mask_reducing left right symbol _ _)).bind fun _ _ _ => .pure ?_
    refine ⟨?_, rfl⟩
    simp only [leafCount, Tree.leaves, List.length_append] at hcount ⊢
    omega

theorem parallel_reduceBefore {incoming incoming' : Binding}
    (hincoming : c.bound incoming incoming') {pending pending' : List Pending}
    (hpending : List.Forall₂ (Pending.Alike c) pending pending') {trees trees' : List Tree}
    (h : Exchanged c.exchange n trees trees') :
    Parallel c.mask c.fault (Corresponds c n) (reduceBefore incoming pending trees)
      (reduceBefore incoming' pending' trees') := by
  induction hpending generalizing trees trees' with
  | nil => exact .pure ⟨.nil, h⟩
  | cons hfirst hrest ih =>
    cases hfirst with
    | openParen hplace => exact .pure ⟨.cons (.openParen hplace) hrest, h⟩
    | @operator symbol binding binding' span span' hbound hplace =>
      have heq := c.reducesBefore_eq hbound hincoming
      simp only [reduceBefore]
      by_cases hbefore : binding.reducesBefore incoming = true
      · rw [if_pos hbefore, if_pos (heq ▸ hbefore)]
        exact (parallel_reduce symbol hplace h).bind fun _ _ hreduced => ih hreduced
      · rw [if_neg hbefore, if_neg (heq ▸ hbefore)]
        exact .pure ⟨.cons (.operator hbound hplace) hrest, h⟩

theorem parallel_reduceGroup {pending pending' : List Pending}
    (hpending : List.Forall₂ (Pending.Alike c) pending pending') {trees trees' : List Tree}
    (h : Exchanged c.exchange n trees trees') :
    Parallel c.mask c.fault
      (fun found found' => Option.Rel c.place found.1 found'.1 ∧
        Corresponds c n found.2 found'.2)
      (reduceGroup pending trees) (reduceGroup pending' trees') := by
  induction hpending generalizing trees trees' with
  | nil => exact .pure ⟨.none, .nil, h⟩
  | cons hfirst hrest ih =>
    cases hfirst with
    | openParen hplace => exact .pure ⟨.some hplace, hrest, h⟩
    | @operator symbol binding binding' span span' _ hplace =>
      simp only [reduceGroup]
      exact (parallel_reduce symbol hplace h).bind fun _ _ hreduced => ih hreduced

end Yard

/-! ### Tokens -/

/-- Tokens of the same kind.  An operand at the place `n` stands for the leaf that it is
exchanged for. -/
inductive Token.Alike (c : Comparison) (n : Nat) : Token → Token → Prop where
  | operand {text text' : String} (h : c.exchange n text = .leaf text') :
      Alike c n (.operand text) (.operand text')
  | operator {symbol : String} {binding binding' : Binding} (h : c.bound binding binding') :
      Alike c n (.operator symbol binding) (.operator symbol binding')
  | openParen : Alike c n .openParen .openParen
  | closeParen : Alike c n .closeParen .closeParen

/-- Tokens of one kind are alike if their operands are exchanged and their operators are the
same, bound as the runs may bind them. -/
theorem Token.Alike.of_kind_eq {c : Comparison} {n : Nat} {token token' : Token}
    (hkind : token.kind = token'.kind)
    (hoperand : ∀ text text', token = .operand text → token' = .operand text' →
      c.exchange n text = .leaf text')
    (hoperator : ∀ symbol binding symbol' binding', token = .operator symbol binding →
      token' = .operator symbol' binding' → symbol = symbol' ∧ c.bound binding binding') :
    token.Alike c n token' := by
  cases token <;> cases token' <;> cases hkind
  · exact .operand (hoperand _ _ rfl rfl)
  · obtain ⟨rfl, hbound⟩ := hoperator _ _ _ _ rfl rfl
    exact .operator hbound
  · exact .openParen
  · exact .closeParen

/-- How many operands the token is. -/
def Token.width : Token → Nat
  | operand _ => 1
  | _ => 0

/-- Tokens of the same kind do the same to corresponding yards. -/
theorem Yard.Corresponds.step {c : Comparison} {n : Nat} {yard yard' : Yard}
    (h : Corresponds c n yard yard') {token token' : Token} (htoken : token.Alike c n token')
    {span span' : Span} (hplace : c.place span span') :
    Parallel c.mask c.fault (Corresponds c (n + token.width)) (yard.step token span)
      (yard'.step token' span') := by
  cases htoken with
  | @operand text text' htext =>
    obtain ⟨hcount, htrees⟩ := h.trees
    refine .pure ⟨h.pending, ?_, ?_⟩
    · simp [leafCount, Tree.leaves, hcount, Token.width]
    · simp only [substituteAll, Tree.substituteFrom, hcount, htext, htrees]
  | openParen => exact .pure ⟨.cons (.openParen hplace) h.pending, h.trees⟩
  | @operator symbol binding binding' hbound =>
    refine (parallel_reduceBefore hbound h.pending h.trees).bind ?_
    intro reduced reduced' hreduced
    exact .pure ⟨.cons (.operator hbound hplace) hreduced.pending, hreduced.trees⟩
  | closeParen =>
    refine (parallel_reduceGroup h.pending h.trees).bind ?_
    rintro ⟨opened, reduced⟩ ⟨opened', reduced'⟩ ⟨hopened, hreduced⟩
    cases hopened with
    | some _ => exact .pure hreduced
    | none => exact .fail (c.unbalancedParentheses _ hplace)

/-! ### Runs -/

/-- The number of operands among some lexemes. -/
def Grammar.operandCount (g : Grammar) (lexemes : List Lexeme) : Nat :=
  (lexemes.filterMap fun lexeme => (g.classify lexeme.text).bind Token.operand?).length

theorem Grammar.operandCount_cons {g : Grammar} {lexeme : Lexeme} {token : Token}
    (h : g.classify lexeme.text = some token) (others : List Lexeme) :
    g.operandCount (lexeme :: others) = token.width + g.operandCount others := by
  simp only [operandCount, List.filterMap_cons, h, Option.bind_some]
  cases token <;> simp [Token.operand?, Token.width, Nat.add_comm]

theorem Grammar.operandCount_append (g : Grammar) (lexemes others : List Lexeme) :
    g.operandCount (lexemes ++ others) = g.operandCount lexemes + g.operandCount others := by
  rw [operandCount, List.filterMap_append, List.length_append]
  rfl

namespace Comparison

variable {c : Comparison} {g g' : Grammar} {n : Nat}

/-- Lexemes of the same kinds, the first operand of which is the leaf at the place `n`.  No
more is asked of what stands behind a lexeme that has no kind. -/
inductive ReadsAlike (c : Comparison) (g g' : Grammar) :
    Nat → List Lexeme → List Lexeme → Prop where
  | nil (n : Nat) : ReadsAlike c g g' n [] []
  | unrecognised {n : Nat} {lexeme lexeme' : Lexeme} {others others' : List Lexeme}
      (h : g.classify lexeme.text = none) (h' : g'.classify lexeme'.text = none)
      (hfault : c.fault ⟨.unrecognisedToken lexeme.text, lexeme.span⟩
        ⟨.unrecognisedToken lexeme'.text, lexeme'.span⟩) :
      ReadsAlike c g g' n (lexeme :: others) (lexeme' :: others')
  | token {n : Nat} {lexeme lexeme' : Lexeme} {token token' : Token}
      {others others' : List Lexeme} (h : g.classify lexeme.text = some token)
      (h' : g'.classify lexeme'.text = some token') (htoken : token.Alike c n token')
      (hplace : c.place lexeme.span lexeme'.span)
      (hmask : c.mask (.reading token lexeme.span) = c.mask (.reading token' lexeme'.span))
      (hothers : ReadsAlike c g g' (n + token.width) others others') :
      ReadsAlike c g g' n (lexeme :: others) (lexeme' :: others')

end Comparison

namespace Yard

variable {c : Comparison} {g g' : Grammar} {n : Nat} {yard yard' : Yard}

/-- Corresponding yards still correspond after lexemes of the same kinds. -/
theorem Corresponds.foldlM_read (h : Corresponds c n yard yard')
    {lexemes lexemes' : List Lexeme} (halike : c.ReadsAlike g g' n lexemes lexemes') :
    Parallel c.mask c.fault (Corresponds c (n + g.operandCount lexemes))
      (lexemes.foldlM (Yard.read g) yard) (lexemes'.foldlM (Yard.read g') yard') := by
  induction halike generalizing yard yard' with
  | nil n => exact .pure h
  | @unrecognised n lexeme lexeme' others others' hlexeme hlexeme' hfault =>
    have hread : Parallel c.mask c.fault (fun _ _ : Yard => False) (yard.read g lexeme)
        (yard'.read g' lexeme') := by
      rw [read, read, hlexeme, hlexeme']
      exact .fail hfault
    rw [List.foldlM_cons, List.foldlM_cons]
    exact hread.bind fun _ _ hfalse => hfalse.elim
  | @token n lexeme lexeme' token token' others others' hlexeme hlexeme' htoken hplace hmask _ ih =>
    have hread : Parallel c.mask c.fault (Corresponds c (n + token.width))
        (yard.read g lexeme) (yard'.read g' lexeme') := by
      rw [read, read, hlexeme, hlexeme']
      exact (Parallel.note hmask).bind fun _ _ _ => h.step htoken hplace
    rw [List.foldlM_cons, List.foldlM_cons, Grammar.operandCount_cons hlexeme, ← Nat.add_assoc]
    exact hread.bind fun _ _ hnext => ih hnext

/-- At the end of the expression the tree has its leaves exchanged. -/
theorem Corresponds.finish (h : Corresponds c n yard yard') {whole whole' : Span}
    (hwhole : ∀ operands, c.fault ⟨.malformedExpression operands, whole⟩
      ⟨.malformedExpression operands, whole'⟩) :
    Parallel c.mask c.fault (fun tree tree' => tree' = tree.substitute c.exchange)
      (yard.finish whole) (yard'.finish whole') := by
  refine (parallel_reduceGroup h.pending h.trees).bind ?_
  rintro ⟨opened, pending, trees⟩ ⟨opened', pending', trees'⟩ ⟨hopened, hreduced⟩
  obtain ⟨-, rfl : trees' = _⟩ := hreduced.trees
  cases hopened with
  | some hplace => exact .fail (c.unbalancedParentheses _ hplace)
  | none =>
    rcases trees with _ | ⟨tree, _ | ⟨other, trees⟩⟩
    · exact .fail (hwhole 0)
    · exact .pure rfl
    · have hlength := Tree.length_substituteAll c.exchange (tree :: other :: trees)
      exact .fail (hlength ▸ hwhole _)

end Yard

/-- Two expressions that read alike, each under its grammar: both have a tree, which is the
same but for the exchange of leaves, or both fail for the same cause. -/
theorem Comparison.parallel_run {c : Comparison} {g g' : Grammar} {expression expression' : String}
    (halike : c.ReadsAlike g g' 0 (lexemes expression) (lexemes expression'))
    (hwhole : ∀ operands,
      c.fault ⟨.malformedExpression operands, ⟨0, expression.utf8ByteSize⟩⟩
        ⟨.malformedExpression operands, ⟨0, expression'.utf8ByteSize⟩⟩)
    (hparsing : c.mask (.parsing expression) = c.mask (.parsing expression'))
    (hparsed : ∀ tree : Tree, c.mask (.parsed expression tree.size) =
      c.mask (.parsed expression' (tree.substitute c.exchange).size)) :
    Parallel c.mask c.fault (fun tree tree' => tree' = tree.substitute c.exchange)
      (g.run expression) (g'.run expression') := by
  refine (Parallel.note hparsing).bind fun _ _ _ => ?_
  refine ((Yard.Corresponds.empty c).foldlM_read halike).bind fun yard yard' hyards => ?_
  refine (hyards.finish hwhole).bind ?_
  rintro tree _ rfl
  exact (Parallel.note (hparsed tree)).bind fun _ _ _ => .pure rfl

/-! ### Results side by side -/

section

variable {fault : Fault → Fault → Prop} {result : Tree → Tree → Prop} {g g' : Grammar}
  {expression expression' : String}

theorem Matching.exists_parse_eq_ok
    (h : Matching fault result (g.run expression).outcome (g'.run expression').outcome)
    {tree : Tree} (hparse : g.parse expression = .ok tree) :
    ∃ tree', g'.parse expression' = .ok tree' ∧ result tree tree' := by
  rw [Grammar.parse_eq_ok_iff_run] at hparse
  rw [hparse] at h
  generalize houtcome : (g'.run expression').outcome = outcome at h
  cases h with
  | ok hresult => exact ⟨_, Grammar.parse_eq_ok_iff_run.2 houtcome, hresult⟩

theorem Matching.exists_parse_eq_error
    (h : Matching fault result (g.run expression).outcome (g'.run expression').outcome)
    {failure : Failure} (hparse : g.parse expression = .error failure) :
    ∃ failure', g'.parse expression' = .error failure' ∧
      fault failure.toFault failure'.toFault := by
  rw [Grammar.parse_eq_error_iff_run] at hparse
  rw [hparse.2] at h
  generalize houtcome : (g'.run expression').outcome = outcome at h
  cases h with
  | @error _ fault' hfault =>
    exact ⟨⟨fault', expression'⟩, Grammar.parse_eq_error_iff_run.2 ⟨rfl, houtcome⟩, hfault⟩

end

end ShuntingYard
