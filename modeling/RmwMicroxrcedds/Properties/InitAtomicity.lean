import RmwMicroxrcedds.Machine.Run

/-! # When `rmw_init` is all or nothing

`rmw_init` takes a session early and has no exit that gives it back: once it has one, it
leaves nothing behind only when it succeeds.
-/

namespace RmwMicroxrcedds

open Outcome Registry

variable {cfg : Config} {s s' : Rmw} {context : Nat} {ret : RmwRet}

/-- `rmw_init` succeeded, or the same sessions are allocated as before, every transport it
opened is closed, and the context points at no session. -/
def AllOrNothing (s s' : Rmw) (context : Nat) (ret : RmwRet) : Prop :=
  ret ≠ .ok →
    (∀ session, session ∈ s'.allocated .session ↔ session ∈ s.allocated .session) ∧
    (∀ session, (s'.customSessions session).transportOpen = true →
      (s.customSessions session).transportOpen = true) ∧
    (s'.contexts context).impl = none

/-- Nothing is left behind when `rmw_init` succeeds, or finds no session. -/
def InitClean (cfg : Config) (call : InitCall) (context : Nat) (s : Rmw) : Prop :=
  if hasFreeSession cfg s then call.opens cfg = true else (s.contexts context).impl = none

/-- The arguments of `rmw_init` are accepted. -/
def InitCall.Accepted (call : InitCall) (context : Nat) : Prop :=
  call.context = some context ∧ ∃ options, call.options = some options ∧ options.impl = true ∧
    options.implementationIdentifier = some eprosimaMicroxrceddsIdentifier

/-- Accepted arguments leave three exits, told apart by the pool and the agent. -/
theorem InitCall.Accepted.exit {call : InitCall} (accepted : call.Accepted context) :
    initExit cfg call s = if !hasFreeSession cfg s then .exhausted
      else if !call.opens cfg then .failed else .completed := by
  obtain ⟨isContext, options, isOptions, impl, identifier⟩ := accepted
  simp [initExit, isContext, isOptions, impl, identifier]

/-- A call that fails after it has attached a session leaves that behind. -/
theorem Attached.not_nothing {objects : GraphObjects} {session : Nat}
    (attached : Attached s s' context session objects) (notOk : ret ≠ .ok) :
    ¬ AllOrNothing s s' context ret := by
  intro nothing
  have taken : session ∈ s'.registry.allocated .session := by
    simp [attached.registry]
  have free := attached.free
  rw [Rmw.registry_allocated (by decide)] at taken free
  exact free (((nothing notOk).1 session).mp taken)

/-- Exactly when `rmw_init` is all or nothing, for every state of the sessions and every
outcome of its steps. -/
theorem init_allOrNothing_iff {call : InitCall} (healthy : s.Healthy cfg everyone)
    (accepted : call.Accepted context)
    (acceptable : call.Acceptable cfg everyone s.registry) :
    ∃ ret s', rmwInit cfg call s = .ok (ret, s') ∧
      (AllOrNothing s s' context ret ↔ InitClean cfg call context s) := by
  obtain ⟨⟨ret, s'⟩, returns, -, post⟩ := rmwInit_spec healthy acceptable
  refine ⟨ret, s', returns, ?_⟩
  rw [accepted.exit] at post
  cases isFree : hasFreeSession cfg s with
  | false =>
      simp only [isFree, Bool.not_false, ↓reduceIte] at post
      obtain ⟨notOk, registry, sessions⟩ := post
      have allocated : s'.allocated .session = s.allocated .session := by
        rw [← Rmw.registry_allocated (by decide), registry, Rmw.registry_allocated (by decide)]
      have impl : (s'.contexts context).impl = (s.contexts context).impl :=
        congrFun (congrArg Registry.impl registry) context
      simp [AllOrNothing, InitClean, isFree, notOk, allocated, sessions, impl]
  | true =>
      cases opens : call.opens cfg with
      | false =>
          simp only [isFree, opens, Bool.not_true, Bool.not_false, Bool.false_eq_true,
            ↓reduceIte] at post
          obtain ⟨notOk, other, session, objects, isContext, attached⟩ := post
          cases accepted.1.symm.trans isContext
          simp [InitClean, isFree, opens, attached.not_nothing notOk]
      | true =>
          simp only [isFree, opens, Bool.not_true, Bool.false_eq_true, ↓reduceIte] at post
          simp [AllOrNothing, InitClean, isFree, opens, post.1]

namespace Small

/-- `rmw_init` with the agent not creating the session. -/
def failingInit : InitCall := { init with sessionCreated := false }

theorem failingInit_accepted : failingInit.Accepted 0 := ⟨rfl, _, rfl, rfl, rfl⟩

end Small

/-- On the zeroed layer, with the agent not creating the session. -/
theorem init_allOrNothing_iff_small : ∃ ret s',
    rmwInit Small.config Small.failingInit {} = .ok (ret, s') ∧
      (AllOrNothing {} s' 0 ret ↔ InitClean Small.config Small.failingInit 0 {}) :=
  init_allOrNothing_iff (healthy_start fun _ => id) Small.failingInit_accepted
    fun _ _ _ inside => by cases inside

/-- The session stays allocated, and the context points at it. -/
theorem failed_init_keeps_session : ∃ s',
    rmwInit Small.config Small.failingInit {} = .ok (.error, s') ∧
      s'.allocated .session = [0] ∧ (s'.contexts 0).impl = some 0 ∧
      ¬ AllOrNothing {} s' 0 .error := by
  refine ⟨_, rfl, rfl, rfl, fun nothing => ?_⟩
  have detached := (nothing (by decide)).2.2
  cases detached

end RmwMicroxrcedds
