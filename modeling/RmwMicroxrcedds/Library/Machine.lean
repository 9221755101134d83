import Mathlib.Logic.Relation
import RmwMicroxrcedds.Library.Outcome

/-! # Machines that may fault

A machine has a start, operations that may fault, and a rule that says which operation
may be asked for in which state. `Reachable m allowed` are the states of the runs whose
steps all meet the condition `allowed`; an invariant that every such step keeps, and that
keeps it from faulting, holds in all of them.
-/

namespace Outcome

/-- A machine. -/
structure Machine (State Op Fault : Type) where
  start : State
  step : Op → State → Except Fault State
  enabled : State → Op → Prop

variable {State Op Fault : Type} {m : Machine State Op Fault}
variable {allowed allowed' : State → Op → Prop} {state : State} {op : Op}

/-- The states of the runs whose steps all meet the condition. -/
inductive Reachable (m : Machine State Op Fault) (allowed : State → Op → Prop) : State → Prop
  | start : Reachable m allowed m.start
  | step {state next : State} {op : Op} (before : Reachable m allowed state)
      (enabled : m.enabled state op) (meets : allowed state op)
      (steps : m.step op state = .ok next) : Reachable m allowed next

/-- An invariant that holds at the start and that every step keeps holds in every
reachable state. -/
theorem Reachable.invariant (reachable : Reachable m allowed state) (inv : State → Prop)
    (initially : inv m.start)
    (kept : ∀ state op, inv state → m.enabled state op → allowed state op →
      Yields (m.step op state) inv) : inv state := by
  induction reachable with
  | start => exact initially
  | step before enabled meets steps ih => exact (kept _ _ ih enabled meets).of_eq_ok steps

/-- The runs under a stronger condition are runs under a weaker one. -/
theorem Reachable.mono (reachable : Reachable m allowed state)
    (weaker : ∀ state op, allowed state op → allowed' state op) :
    Reachable m allowed' state := by
  induction reachable with
  | start => exact .start
  | step before enabled meets steps ih => exact .step ih enabled (weaker _ _ meets) steps

/-- One step that meets the condition. -/
def Machine.Moves (m : Machine State Op Fault) (allowed : State → Op → Prop)
    (state next : State) : Prop :=
  ∃ op, m.enabled state op ∧ allowed state op ∧ m.step op state = .ok next

/-- A run goes on under a condition that is as strong. -/
theorem Reachable.moves {last : State} (reachable : Reachable m allowed state)
    (stronger : ∀ state op, allowed' state op → allowed state op)
    (run : Relation.ReflTransGen (m.Moves allowed') state last) : Reachable m allowed last := by
  induction run with
  | refl => exact reachable
  | tail _ moves ih =>
      obtain ⟨op, enabled, meets, steps⟩ := moves
      exact .step ih enabled (stronger _ _ meets) steps

/-- The state after an operation; a fault leaves it as it is. -/
def Machine.next (m : Machine State Op Fault) (op : Op) (state : State) : State :=
  match m.step op state with
  | .ok next => next
  | .error _ => state

/-- What an allowed operation leads to is reachable. -/
theorem Reachable.next (before : Reachable m allowed state) (enabled : m.enabled state op)
    (meets : allowed state op) (returns : (m.step op state).isOk = true) :
    Reachable m allowed (m.next op state) := by
  cases steps : m.step op state with
  | error fault =>
      rw [steps] at returns
      cases returns
  | ok next =>
      have same : m.next op state = next := by simp only [Machine.next, steps]
      rw [same]
      exact .step before enabled meets steps

end Outcome
