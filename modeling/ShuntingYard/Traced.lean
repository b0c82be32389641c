/-
Traced computations: a result or a fault, and the events noted on the way.

The events of a computation that fails are kept up to the point of failure, and
what would have come after it notes nothing.

* `Traced` — the type, with its monad;
* `Traced.note`, `Traced.fail` — note an event, or stop with a fault;
* `Traced.outcome_bind`, `Traced.events_bind` — the outcome and the events of two
  computations in a row;
* `Traced.bind_eq_of_outcome_eq_ok`, `Traced.bind_eq_of_outcome_eq_error` — the
  same, once the outcome of the first one is known.
-/
import ShuntingYard.Event
import ShuntingYard.Failure

namespace ShuntingYard

/-- A result or a fault, and the events noted before it was reached. -/
structure Traced (α : Type) where
  events : List Event
  outcome : Except Fault α

namespace Traced

/-- Notes an event. -/
def note (event : Event) : Traced Unit := ⟨[event], .ok ()⟩

/-- Stops with a fault. -/
def fail {α : Type} (cause : Cause) (span : Span) : Traced α := ⟨[], .error ⟨cause, span⟩⟩

instance : Monad Traced where
  pure a := ⟨[], .ok a⟩
  bind x f :=
    match x.outcome with
    | .error fault => ⟨x.events, .error fault⟩
    | .ok a => ⟨x.events ++ (f a).events, (f a).outcome⟩

variable {α β : Type}

@[ext]
theorem ext {x y : Traced α} (hevents : x.events = y.events) (houtcome : x.outcome = y.outcome) :
    x = y := by
  cases x
  cases y
  simp_all

@[simp]
theorem outcome_pure (a : α) : (pure a : Traced α).outcome = .ok a := rfl

@[simp]
theorem events_pure (a : α) : (pure a : Traced α).events = [] := rfl

@[simp]
theorem outcome_note (event : Event) : (note event).outcome = .ok () := rfl

@[simp]
theorem events_note (event : Event) : (note event).events = [event] := rfl

@[simp]
theorem outcome_fail (cause : Cause) (span : Span) :
    (fail cause span : Traced α).outcome = .error ⟨cause, span⟩ := rfl

@[simp]
theorem events_fail (cause : Cause) (span : Span) : (fail cause span : Traced α).events = [] :=
  rfl

theorem bind_eq_of_outcome_eq_ok {x : Traced α} {f : α → Traced β} {a : α}
    (h : x.outcome = .ok a) : x >>= f = ⟨x.events ++ (f a).events, (f a).outcome⟩ := by
  show (match x.outcome with
    | .error fault => (⟨x.events, .error fault⟩ : Traced β)
    | .ok a => ⟨x.events ++ (f a).events, (f a).outcome⟩) = _
  rw [h]

theorem bind_eq_of_outcome_eq_error {x : Traced α} {f : α → Traced β} {fault : Fault}
    (h : x.outcome = .error fault) : x >>= f = ⟨x.events, .error fault⟩ := by
  show (match x.outcome with
    | .error fault => (⟨x.events, .error fault⟩ : Traced β)
    | .ok a => ⟨x.events ++ (f a).events, (f a).outcome⟩) = _
  rw [h]

/-- The outcome of two computations in a row. -/
theorem outcome_bind (x : Traced α) (f : α → Traced β) :
    (x >>= f).outcome = x.outcome >>= fun a => (f a).outcome := by
  cases h : x.outcome with
  | error fault =>
    rw [bind_eq_of_outcome_eq_error h]
    rfl
  | ok a =>
    rw [bind_eq_of_outcome_eq_ok h]
    rfl

/-- The events of two computations in a row. -/
theorem events_bind (x : Traced α) (f : α → Traced β) :
    (x >>= f).events =
      x.events ++ match x.outcome with
        | .error _ => []
        | .ok a => (f a).events := by
  cases h : x.outcome with
  | error fault =>
    rw [bind_eq_of_outcome_eq_error h]
    simp
  | ok a => rw [bind_eq_of_outcome_eq_ok h]

/-- Two computations in a row give a result exactly if the first gives one, and
the second gives it from there. -/
theorem outcome_bind_eq_ok_iff {x : Traced α} {f : α → Traced β} {b : β} :
    (x >>= f).outcome = .ok b ↔ ∃ a, x.outcome = .ok a ∧ (f a).outcome = .ok b := by
  rw [outcome_bind]
  cases x.outcome with
  | error fault => simp [bind, Except.bind]
  | ok a => simp [bind, Except.bind]

/-- Two computations in a row fail exactly if the first one fails, or the second
fails behind it. -/
theorem outcome_bind_eq_error_iff {x : Traced α} {f : α → Traced β} {fault : Fault} :
    (x >>= f).outcome = .error fault ↔
      x.outcome = .error fault ∨ ∃ a, x.outcome = .ok a ∧ (f a).outcome = .error fault := by
  rw [outcome_bind]
  cases x.outcome with
  | error other => simp [bind, Except.bind]
  | ok a => simp [bind, Except.bind]

/-! ### The laws of a monad -/

theorem bind_pure_self (x : Traced α) : (x >>= fun a => pure a) = x := by
  cases h : x.outcome with
  | error fault =>
    rw [bind_eq_of_outcome_eq_error h]
    exact ext rfl h.symm
  | ok a =>
    rw [bind_eq_of_outcome_eq_ok h]
    exact ext (List.append_nil _) h.symm

theorem assoc {γ : Type} (x : Traced α) (f : α → Traced β) (g : β → Traced γ) :
    x >>= f >>= g = x >>= fun a => f a >>= g := by
  cases h : x.outcome with
  | error fault =>
    rw [bind_eq_of_outcome_eq_error h, bind_eq_of_outcome_eq_error h]
    exact bind_eq_of_outcome_eq_error rfl
  | ok a =>
    rw [bind_eq_of_outcome_eq_ok h, bind_eq_of_outcome_eq_ok h]
    cases hf : (f a).outcome with
    | error fault => rw [bind_eq_of_outcome_eq_error rfl, bind_eq_of_outcome_eq_error hf]
    | ok b =>
      rw [bind_eq_of_outcome_eq_ok rfl, bind_eq_of_outcome_eq_ok hf]
      exact ext (List.append_assoc _ _ _) rfl

instance : LawfulMonad Traced :=
  LawfulMonad.mk' Traced
    bind_pure_self
    (fun _ _ => ext (List.nil_append _) rfl)
    assoc

end Traced

end ShuntingYard
