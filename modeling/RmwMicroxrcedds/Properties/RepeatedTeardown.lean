import RmwMicroxrcedds.Machine.Run

/-! # Tearing a context down again

A teardown leaves no session in the context, and a successful `rmw_shutdown` no identifier
either. Neither of the two functions tests what it then reads: a context without a session
is never torn down without a fault.
-/

namespace RmwMicroxrcedds

open Outcome

variable {cfg : Config} {s s' : Rmw} {context : Nat} {ret : RmwRet} {teardown : ContextTeardown}
variable {initialised : Bool}

/-- A call that returns a result and releases or alters no session, node or entity. -/
def Harmless (s : Rmw) (outcome : Exec (RmwRet × Rmw)) : Prop :=
  ∃ ret s', outcome = .ok (ret, s') ∧ ∀ pool, s'.allocated pool = s.allocated pool ∧
    ∀ slot ∈ s.allocated pool, s'.entity pool slot = s.entity pool slot

/-- What happens to a context: it starts zeroed, the three functions are called on it with any
arguments and any outcome, and anything may happen to the rest of the layer in between. The
flag tells whether `rmw_init` was called on it since its last teardown, if any. -/
inductive Life (cfg : Config) (context : Nat) : Bool → Rmw → Prop
  | zeroed {s : Rmw} (healthy : s.Healthy cfg everyone) (zero : s.contexts context = {}) :
      Life cfg context false s
  | other {s s' : Rmw} {initialised : Bool} (before : Life cfg context initialised s)
      (healthy : s'.Healthy cfg everyone) (kept : s'.contexts context = s.contexts context) :
      Life cfg context initialised s'
  | init {s s' : Rmw} {initialised : Bool} {call : InitCall} {ret : RmwRet}
      (before : Life cfg context initialised s) (isContext : call.context = some context)
      (returned : rmwInit cfg call s = .ok (ret, s')) (healthy : s'.Healthy cfg everyone) :
      Life cfg context true s'
  | shutdown {s s' : Rmw} {initialised : Bool} {teardown : ContextTeardown} {ret : RmwRet}
      (before : Life cfg context initialised s)
      (returned : rmwShutdown cfg (some context) teardown s = .ok (ret, s'))
      (healthy : s'.Healthy cfg everyone) : Life cfg context false s'
  | contextFini {s s' : Rmw} {initialised : Bool} {teardown : ContextTeardown} {ret : RmwRet}
      (before : Life cfg context initialised s)
      (returned : rmwContextFini cfg context teardown s = .ok (ret, s'))
      (healthy : s'.Healthy cfg everyone) : Life cfg context false s'

/-- The layer is healthy during the life of a context. -/
theorem Life.healthy (life : Life cfg context initialised s) : s.Healthy cfg everyone := by
  cases life <;> assumption

/-- Once `rmw_context_fini` has returned the context has no session. -/
theorem impl_of_contextFini (returned : rmwContextFini cfg context teardown s = .ok (ret, s')) :
    (s'.contexts context).impl = none := by
  obtain ⟨⟨result, emptied⟩, -, returned⟩ := bind_eq_ok.mp returned
  obtain ⟨session, -, returned⟩ := bind_eq_ok.mp returned
  obtain ⟨ran, -, returned⟩ := bind_eq_ok.mp returned
  cases returned
  simp [Rmw.modifyContext]

/-- Without a session `rmw_context_fini` does not return. -/
theorem contextFini_of_detached (detached : (s.contexts context).impl = none) :
    rmwContextFini cfg context teardown s ≠ .ok (ret, s') := by
  intro returned
  unfold rmwContextFini at returned
  rw [detached] at returned
  obtain ⟨⟨result, emptied⟩, -, returned⟩ := bind_eq_ok.mp returned
  obtain ⟨session, followed, -⟩ := bind_eq_ok.mp returned
  cases followed

/-- What `rmw_shutdown` returned came from `rmw_context_fini`. -/
theorem contextFini_of_shutdown (identified : (s.contexts context).Identified)
    (returned : rmwShutdown cfg (some context) teardown s = .ok (ret, s')) :
    ∃ finished, rmwContextFini cfg context teardown s = .ok (ret, finished) ∧
      (s' = finished ∨ s' = finished.modifyContext context fun _ => {}) := by
  obtain ⟨matched, checked, returned⟩ := bind_eq_ok.mp returned
  rcases identified with named | ⟨unnamed, -⟩
  · rw [named] at checked
    simp only [checkTypeIdentifiersMatch, beq_self_eq_true, Except.ok.injEq] at checked
    subst checked
    obtain ⟨⟨result, finished⟩, finalised, returned⟩ := bind_eq_ok.mp returned
    cases returned
    refine ⟨finished, finalised, ?_⟩
    split
    · exact Or.inr rfl
    · exact Or.inl rfl
  · rw [unnamed] at checked
    cases checked

/-- Without a session `rmw_shutdown` does not return either. -/
theorem shutdown_of_detached (identified : (s.contexts context).Identified)
    (detached : (s.contexts context).impl = none) :
    rmwShutdown cfg (some context) teardown s ≠ .ok (ret, s') := by
  intro returned
  obtain ⟨finished, finalised, -⟩ := contextFini_of_shutdown identified returned
  exact contextFini_of_detached detached finalised

/-- A context that was not initialised since its last teardown has no session. -/
theorem Life.detached (life : Life cfg context initialised s) (idle : initialised = false) :
    (s.contexts context).impl = none := by
  induction life with
  | zeroed healthy zero => rw [zero]
  | other before healthy kept ih =>
      rw [kept]
      exact ih idle
  | init before isContext returned healthy ih => cases idle
  | shutdown before returned healthy ih =>
      obtain ⟨finished, finalised, same | zeroed⟩ :=
        contextFini_of_shutdown (before.healthy.identified context) returned
      · rw [same]
        exact impl_of_contextFini finalised
      · rw [zeroed]
        simp [Rmw.modifyContext]
  | contextFini before returned healthy ih => exact impl_of_contextFini returned

/-- After every sequence of calls on a context, and whatever the sessions did: a context that was
torn down, or never initialised, has no session; and on a context without a session, be it
because `rmw_init` failed early, neither teardown function is harmless; it does not even
return. -/
theorem no_teardown_is_harmless (life : Life cfg context initialised s) :
    (initialised = false → (s.contexts context).impl = none) ∧
      ((s.contexts context).impl = none → ∀ teardown,
        ¬ Harmless s (rmwShutdown cfg (some context) teardown s) ∧
          ¬ Harmless s (rmwContextFini cfg context teardown s)) := by
  refine ⟨life.detached, fun detached teardown => ⟨?_, ?_⟩⟩
  · intro harmless
    obtain ⟨ret, s', returned, -⟩ := harmless
    exact shutdown_of_detached (life.healthy.identified context) detached returned
  · intro harmless
    obtain ⟨ret, s', returned, -⟩ := harmless
    exact contextFini_of_detached detached returned

namespace Small

/-- A teardown in which the participant of the node is not confirmed to be gone. -/
def unconfirmed : ContextTeardown where
  node := fun _ => { participant := { confirmed := false } }

/-- The layer after a node was created and the shutdown timed out. -/
def tornDown : World := (layer config).next (.shutdown 0 unconfirmed) withNode

theorem tidy_init : Tidy config {} (.init init) := by
  intro exit absurd
  cases absurd

theorem tidy_node : Tidy config withContext (.createNode node) := by
  intro exit isExit
  exact Or.inl (Option.some.inj isExit).symm

theorem tornDown_healthy : tornDown.rmw.Healthy config everyone := by
  obtain ⟨healthy, sound, tight⟩ := reachable_tight (withNode_reachable tidy_init tidy_node)
  have quiet : (Op.shutdown 0 unconfirmed).Acceptable config everyone withNode.rmw :=
    fun _ _ => ContextTeardown.acceptable_of_quiet (fun _ => {}) rfl
  have tidy : Tidy config withNode (.shutdown 0 unconfirmed) := by
    intro exit absurd
    cases absurd
  have asked : (Op.shutdown 0 unconfirmed).Asked withNode := (rfl : Option.isSome (some 0) = true)
  exact ((exec_spec healthy sound asked quiet (tidy.safe sound tight)).of_eq_ok rfl).1

/-- The context was initialised, a node was created, and the shutdown timed out. -/
theorem tornDown_life : Life config 0 false tornDown.rmw := by
  have fresh : Life config 0 false ({} : Rmw) := .zeroed (healthy_start fun _ => id) rfl
  have opened : Life config 0 true withContext.rmw :=
    .init fresh rfl (rfl : rmwInit config init {} = .ok (.ok, withContext.rmw))
    (reachable_tight (withContext_reachable tidy_init)).1
  have used : Life config 0 true withNode.rmw :=
    .other opened (reachable_tight (withNode_reachable tidy_init tidy_node)).1 rfl
  have timedOut : rmwShutdown config (some 0) unconfirmed withNode.rmw =
      .ok (.timeout, tornDown.rmw) := rfl
  exact .shutdown used timedOut tornDown_healthy

end Small

/-- After the shutdown that timed out. -/
theorem no_teardown_is_harmless_small :
    (false = false → (Small.tornDown.rmw.contexts 0).impl = none) ∧
      ((Small.tornDown.rmw.contexts 0).impl = none → ∀ teardown,
        ¬ Harmless Small.tornDown.rmw
            (rmwShutdown Small.config (some 0) teardown Small.tornDown.rmw) ∧
          ¬ Harmless Small.tornDown.rmw
            (rmwContextFini Small.config 0 teardown Small.tornDown.rmw)) :=
  no_teardown_is_harmless Small.tornDown_life

/-- After `rmw_shutdown` timed out, trying again follows the null `impl`, and on a zeroed context
the null identifier is compared. -/
theorem retried_shutdown_derefs_null : ∃ s,
    rmwShutdown Small.config (some 0) Small.unconfirmed Small.withNode.rmw = .ok (.timeout, s) ∧
      rmwShutdown Small.config (some 0) {} s = .error .nullDereference ∧
      rmwContextFini Small.config 0 {} s = .error .nullDereference ∧
      rmwShutdown Small.config (some 0) {} {} = .error .nullDereference ∧
      ¬ Harmless s (rmwShutdown Small.config (some 0) {} s) := by
  refine ⟨_, rfl, rfl, rfl, rfl, ?_⟩
  intro harmless
  obtain ⟨ret, s', returned, -⟩ := harmless
  cases returned

end RmwMicroxrcedds
