/-
Runs: an expression goes through the yard lexeme by lexeme.

* `Meets` — an outcome that is a result of one kind or a fault of another;
* `Traced.outcome_foldlM_eq_error_iff`, `Traced.outcome_foldlM_eq_error_of_prefix` — a run
  stops at one of its members, behind those that it has passed and whatever follows;
* `Yard.faults_reduceBefore`, `Yard.faults_reduceGroup` — what holds of missing operands
  holds of all faults that come up where operators are reduced;
* `Yard.foldlM_read_induction` — what holds before the first lexeme and is kept by every
  lexeme holds after any number of them;
* `Grammar.parse_eq_ok_iff_finish`, `Grammar.parse_eq_error_iff` — an expression has a tree
  if the yard reads all lexemes and finishes with it, and fails where a lexeme cannot be
  read or the yard cannot be finished.
-/
import ShuntingYard.Parse

namespace ShuntingYard

/-- An outcome that is a result of which `result` holds, or a fault of which `fault` holds. -/
inductive Meets {α : Type} (fault : Fault → Prop) (result : α → Prop) :
    Except Fault α → Prop where
  | ok {a : α} (h : result a) : Meets fault result (.ok a)
  | error {f : Fault} (h : fault f) : Meets fault result (.error f)

section

variable {α : Type} {fault : Fault → Prop} {result : α → Prop} {outcome : Except Fault α}

theorem Meets.of_eq_ok (h : Meets fault result outcome) {a : α} (hok : outcome = .ok a) :
    result a := by
  subst hok
  cases h with
  | ok h => exact h

theorem Meets.of_eq_error (h : Meets fault result outcome) {f : Fault}
    (herror : outcome = .error f) : fault f := by
  subst herror
  cases h with
  | error h => exact h

end

/-- Two computations in a row meet what the second meets behind every result of the first. -/
theorem Meets.bind {α β : Type} {fault : Fault → Prop} {result : α → Prop} {result' : β → Prop}
    {x : Traced α} {f : α → Traced β} (hx : Meets fault result x.outcome)
    (hf : ∀ a, result a → Meets fault result' (f a).outcome) :
    Meets fault result' (x >>= f).outcome := by
  rw [Traced.outcome_bind]
  generalize x.outcome = outcome at hx ⊢
  cases hx with
  | ok h => exact hf _ h
  | error h => exact .error h

/-- A run stops with a fault exactly if one of its members gives it, and all members in
front of this one are passed. -/
theorem Traced.outcome_foldlM_eq_error_iff {α β : Type} {f : β → α → Traced β} {start : β}
    {members : List α} {fault : Fault} :
    (members.foldlM f start).outcome = .error fault ↔
      ∃ before member after state, members = before ++ member :: after ∧
        (before.foldlM f start).outcome = .ok state ∧
          (f state member).outcome = .error fault := by
  induction members generalizing start with
  | nil =>
    constructor
    · rintro ⟨⟩
    · rintro ⟨before, member, after, state, hmembers, -, -⟩
      simp at hmembers
  | cons first members ih =>
    rw [List.foldlM_cons, outcome_bind_eq_error_iff]
    constructor
    · rintro (hfirst | ⟨next, hnext, hrest⟩)
      · exact ⟨[], first, members, start, rfl, rfl, hfirst⟩
      · obtain ⟨before, member, after, state, rfl, hbefore, hmember⟩ := ih.1 hrest
        refine ⟨first :: before, member, after, state, rfl, ?_, hmember⟩
        rw [List.foldlM_cons, outcome_bind_eq_ok_iff]
        exact ⟨next, hnext, hbefore⟩
    · rintro ⟨before, member, after, state, hmembers, hbefore, hmember⟩
      cases before with
      | nil =>
        obtain ⟨rfl, rfl⟩ := List.cons_eq_cons.1 hmembers
        cases hbefore
        exact Or.inl hmember
      | cons first' before =>
        obtain ⟨rfl, rfl⟩ := List.cons_eq_cons.1 hmembers
        rw [List.foldlM_cons, outcome_bind_eq_ok_iff] at hbefore
        obtain ⟨next, hnext, hbefore⟩ := hbefore
        exact Or.inr ⟨next, hnext, ih.2 ⟨before, member, after, state, rfl, hbefore, hmember⟩⟩

/-- A run that has stopped has stopped, whatever members come behind. -/
theorem Traced.outcome_foldlM_eq_error_of_prefix {α β : Type} {f : β → α → Traced β} {start : β}
    {members longer : List α} {fault : Fault} (hlonger : members <+: longer)
    (h : (members.foldlM f start).outcome = .error fault) :
    (longer.foldlM f start).outcome = .error fault := by
  obtain ⟨others, rfl⟩ := hlonger
  rw [List.foldlM_append, outcome_bind_eq_error_iff]
  exact Or.inl h

namespace Yard

/-! ### Faults of reductions -/

section

variable {fault : Fault → Prop} (hmissing : ∀ symbol span, fault ⟨.missingOperand symbol, span⟩)
  {pending : List Pending} {trees : List Tree}

include hmissing

theorem faults_reduce {symbol : String} {span : Span} :
    Meets fault (fun _ => True) (reduce symbol span trees).outcome := by
  rcases trees with _ | ⟨right, _ | ⟨left, trees⟩⟩
  · exact .error (hmissing symbol span)
  · exact .error (hmissing symbol span)
  · exact .ok trivial

theorem faults_reduceBefore {incoming : Binding} :
    Meets fault (fun _ => True) (reduceBefore incoming pending trees).outcome := by
  induction pending generalizing trees with
  | nil => exact .ok trivial
  | cons first pending ih =>
    cases first with
    | openParen span => exact .ok trivial
    | operator symbol binding span =>
      rw [reduceBefore]
      split
      · exact (faults_reduce hmissing).bind fun _ _ => ih
      · exact .ok trivial

theorem faults_reduceGroup : Meets fault (fun _ => True) (reduceGroup pending trees).outcome := by
  induction pending generalizing trees with
  | nil => exact .ok trivial
  | cons first pending ih =>
    cases first with
    | openParen span => exact .ok trivial
    | operator symbol binding span => exact (faults_reduce hmissing).bind fun _ _ => ih

end

/-! ### Lexeme by lexeme -/

theorem outcome_read (g : Grammar) (yard : Yard) (lexeme : Lexeme) :
    (yard.read g lexeme).outcome =
      match g.classify lexeme.text with
      | none => .error ⟨.unrecognisedToken lexeme.text, lexeme.span⟩
      | some token => (yard.step token lexeme.span).outcome := by
  unfold read
  cases g.classify lexeme.text with
  | none => rfl
  | some token =>
    rw [Traced.outcome_bind]
    rfl

/-- A property of the lexemes read so far and of the yard behind them, which holds at the
beginning and is kept by every lexeme, holds after any number of lexemes. -/
theorem foldlM_read_induction {g : Grammar} {Holds : List Lexeme → Yard → Prop}
    (hempty : Holds [] empty)
    (hread : ∀ before yard lexeme next, Holds before yard →
      (yard.read g lexeme).outcome = .ok next → Holds (before ++ [lexeme]) next)
    {lexemes : List Lexeme} {yard : Yard}
    (h : (lexemes.foldlM (Yard.read g) empty).outcome = .ok yard) : Holds lexemes yard := by
  have hrun : ∀ (rest before : List Lexeme) (start : Yard), Holds before start →
      (rest.foldlM (Yard.read g) start).outcome = .ok yard → Holds (before ++ rest) yard := by
    intro rest
    induction rest with
    | nil =>
      rintro before start hstart ⟨⟩
      rwa [List.append_nil]
    | cons lexeme rest ih =>
      intro before start hstart hrest
      rw [List.foldlM_cons, Traced.outcome_bind_eq_ok_iff] at hrest
      obtain ⟨next, hnext, hrest⟩ := hrest
      have := ih (before ++ [lexeme]) next (hread before start lexeme next hstart hnext) hrest
      rwa [List.append_assoc] at this
  exact hrun lexemes [] empty hempty h

end Yard

namespace Grammar

variable {g : Grammar} {expression : String}

/-- What is noted on the way has no part in the outcome. -/
theorem outcome_run (g : Grammar) (expression : String) :
    (g.run expression).outcome =
      ((lexemes expression).foldlM (Yard.read g) Yard.empty >>= fun yard =>
        yard.finish ⟨0, expression.utf8ByteSize⟩).outcome := by
  simp only [run, Traced.outcome_bind, Traced.outcome_note, Traced.outcome_pure]
  show ((lexemes expression).foldlM (Yard.read g) Yard.empty).outcome.bind
    (fun yard => (yard.finish ⟨0, expression.utf8ByteSize⟩).outcome.bind Except.ok) = _
  congr 1
  funext yard
  cases (yard.finish ⟨0, expression.utf8ByteSize⟩).outcome <;> rfl

/-- An expression has the tree of its run. -/
theorem parse_eq_ok_iff_run {tree : Tree} :
    g.parse expression = .ok tree ↔ (g.run expression).outcome = .ok tree := by
  unfold parse
  cases (g.run expression).outcome with
  | error fault => exact ⟨nofun, nofun⟩
  | ok result =>
    constructor
    · rintro ⟨⟩
      rfl
    · rintro ⟨⟩
      rfl

/-- An expression fails with the fault of its run. -/
theorem parse_eq_error_iff_run {failure : Failure} :
    g.parse expression = .error failure ↔
      failure.expression = expression ∧ (g.run expression).outcome = .error failure.toFault := by
  obtain ⟨fault, expression'⟩ := failure
  unfold parse
  cases (g.run expression).outcome with
  | error other =>
    constructor
    · rintro ⟨⟩
      exact ⟨rfl, rfl⟩
    · rintro ⟨rfl, ⟨⟩⟩
      rfl
  | ok tree => exact ⟨nofun, fun h => nomatch h.2⟩

/-- A tree is found exactly if the yard reads all lexemes and finishes with it. -/
theorem parse_eq_ok_iff_finish {tree : Tree} :
    g.parse expression = .ok tree ↔
      ∃ yard, ((lexemes expression).foldlM (Yard.read g) Yard.empty).outcome = .ok yard ∧
        (yard.finish ⟨0, expression.utf8ByteSize⟩).outcome = .ok tree := by
  rw [parse_eq_ok_iff_run, outcome_run, Traced.outcome_bind_eq_ok_iff]

/-- An expression fails exactly if a lexeme cannot be read behind the lexemes in front of
it, or the yard cannot be finished behind all of them. -/
theorem parse_eq_error_iff {failure : Failure} :
    g.parse expression = .error failure ↔
      failure.expression = expression ∧
        ((∃ before lexeme after yard, lexemes expression = before ++ lexeme :: after ∧
            (before.foldlM (Yard.read g) Yard.empty).outcome = .ok yard ∧
              (yard.read g lexeme).outcome = .error failure.toFault) ∨
          ∃ yard, ((lexemes expression).foldlM (Yard.read g) Yard.empty).outcome = .ok yard ∧
            (yard.finish ⟨0, expression.utf8ByteSize⟩).outcome = .error failure.toFault) := by
  rw [parse_eq_error_iff_run, outcome_run, Traced.outcome_bind_eq_error_iff,
    Traced.outcome_foldlM_eq_error_iff]

end Grammar

end ShuntingYard
