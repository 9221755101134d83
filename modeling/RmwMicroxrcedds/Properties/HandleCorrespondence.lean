import RmwMicroxrcedds.Machine.Run

/-! # Handles and slots

A creation takes its slot early and has many later exits. As long as each exit taken
either returns the handle or gives the slot back, once, the allocated items of the pools
with handles are exactly the entities of the live handles.
-/

namespace RmwMicroxrcedds

open Outcome Registry

variable {cfg : Config} {w w' : World} {pool : Pool} {handle slot : Nat}
variable {leaks : List Pool} {gone : Pool → Nat → Prop} {room : Bool}

/-- An item is allocated exactly when one live handle designates it, and then its entity
points back. Every handle on the heap is one that was returned. -/
structure Corresponds (w : World) : Prop where
  slots : ∀ pool slot, pool.hasHandle = true →
    (slot ∈ w.rmw.allocated pool ↔ ∃! handle, w.Designates pool handle slot)
  back : ∀ pool handle slot, w.Designates pool handle slot →
    (w.rmw.entity pool slot).rmwHandle = some handle
  heap : ∀ pool handle, ((w.rmw.handles pool).block handle).isSome = true →
    handle ∈ w.returned pool

/-- Handles and slots correspond when no slot is left without a handle, and no handle
without a caller. -/
theorem Corresponds.of_tight (sound : w.rmw.registry.Sound)
    (tight : w.rmw.registry.Tight fun _ => True) (returned : ∀ pool, w.Returned pool) :
    Corresponds w where
  slots := by
    intro pool slot handles
    rw [← Rmw.registry_allocated (Pool.ne_of_hasHandle handles rfl)]
    constructor
    · intro inside
      obtain ⟨handle, bound⟩ := tight pool slot trivial handles inside
      refine ⟨handle, (returned pool).designates bound, ?_⟩
      intro other designates
      exact sound.handle_unique designates.2 bound
    · intro designated
      obtain ⟨handle, designates, -⟩ := designated
      exact (sound.placed designates.2).allocated
  back := fun _ _ _ designates => (sound.placed designates.2).handle
  heap := fun pool handle isBlock => returned pool handle (data_ne_none_iff.mpr isBlock)

/-- A creation that returns no handle leaves the allocated items of the pools with handles
as they are. -/
theorem Change.refused (change : Change cfg room leaks gone w w')
    (tidy : ∀ pool ∈ leaks, pool.hasHandle = false) (keeps : ∀ pool slot, ¬ gone pool slot)
    (null : w'.returned = w.returned) (handles : pool.hasHandle = true) :
    slot ∈ w'.rmw.registry.allocated pool ↔ slot ∈ w.rmw.registry.allocated pool := by
  have unreturned : ∀ pool handle,
      w'.returned ≠ Function.update w.returned pool (handle :: w.returned pool) := by
    intro pool handle update
    have same := congrFun (null.symm.trans update) pool
    rw [Function.update_self] at same
    exact List.cons_ne_self _ _ same.symm
  cases change with
  | idle agrees => rw [agrees.allocated]
  | leaked grown =>
      have apart : pool ∉ leaks := by
        intro leaked
        rw [tidy pool leaked] at handles
        cases handles
      rw [grown.others apart]
  | node session handle slot entity new inside agrees advance returned =>
      rcases returned with ⟨leaked, -⟩ | update
      · cases tidy .node leaked
      · exact absurd update (unreturned _ _)
  | leaf pool node nodeHandle session handle slot entity base isLeaf new nodeBound context withTopic
      agrees advance update => exact absurd update (unreturned _ _)
  | removed removal =>
      rw [removal.kept (Pool.ne_of_hasHandle handles rfl)]
      exact and_iff_left (keeps pool slot)
  | attached context session objects attached =>
      have notSession : pool ≠ .session := Pool.ne_of_hasHandle handles rfl
      rw [attached.registry]
      simp [notSession]

/-- The creations remove nothing. -/
theorem Op.not_gone_of_creation {op : Op} (creation : op.exit cfg w.rmw ≠ none) (r : Registry) :
    ¬ op.gone r pool slot := by
  cases op <;> first | exact id | exact absurd rfl creation

/-- Such a run returns every handle it allocates. -/
private theorem returned_of_tidy (reachable : Reachable (layer cfg) (Tidy cfg) w) (pool : Pool) :
    w.Returned pool := by
  induction reachable with
  | start => exact fun handle data => absurd rfl data
  | step before enabled tidy steps ih =>
      obtain ⟨healthy, sound, tight⟩ := reachable_tight before
      obtain ⟨-, sound', change⟩ := (exec_spec healthy sound enabled.1 enabled.2
        (tidy.safe sound tight)).of_eq_ok steps
      refine change.returned sound sound' (fun _ leaked => ?_) ih
      cases tidy.leaks leaked

/-- In a run without leaks and double releases, handles and slots correspond in every
state. Every further such call returns, so the destroy functions were given no freed
handle, and a creation that returns null leaves the allocated items as they are. -/
theorem corresponds_of_reachable (reachable : Reachable (layer cfg) (Tidy cfg) w) :
    Corresponds w ∧ ∀ op, Enabled cfg w op → Tidy cfg w op →
      ∃ w', exec cfg op w = .ok w' ∧ Corresponds w' ∧
        (op.exit cfg w.rmw ≠ none → w'.returned = w.returned → ∀ pool slot,
          pool.hasHandle = true →
            (slot ∈ w'.rmw.allocated pool ↔ slot ∈ w.rmw.allocated pool)) := by
  obtain ⟨healthy, sound, tight⟩ := reachable_tight reachable
  refine ⟨.of_tight sound tight (returned_of_tidy reachable), fun op enabled tidy => ?_⟩
  obtain ⟨w', returns, healthy', sound', change⟩ :=
    exec_spec healthy sound enabled.1 enabled.2 (tidy.safe sound tight)
  have next : Reachable (layer cfg) (Tidy cfg) w' := reachable.step enabled tidy returns
  refine ⟨w', returns, .of_tight sound' (reachable_tight next).2.2 (returned_of_tidy next), ?_⟩
  intro creation null pool slot handles
  have entities : pool ≠ .staticBuffer := Pool.ne_of_hasHandle handles rfl
  rw [← Rmw.registry_allocated entities, ← Rmw.registry_allocated entities]
  exact change.refused (fun pool leaked => tidy.leaks leaked)
    (fun pool slot => Op.not_gone_of_creation creation _) null handles

/-- The small run with a publisher. -/
theorem corresponds_of_small_run : Corresponds Small.withPublisher ∧ ∀ op,
    Enabled Small.config Small.withPublisher op → Tidy Small.config Small.withPublisher op →
      ∃ w', exec Small.config op Small.withPublisher = .ok w' ∧ Corresponds w' ∧
        (op.exit Small.config Small.withPublisher.rmw ≠ none →
          w'.returned = Small.withPublisher.returned → ∀ pool slot, pool.hasHandle = true →
            (slot ∈ w'.rmw.allocated pool ↔ slot ∈ Small.withPublisher.rmw.allocated pool)) := by
  apply corresponds_of_reachable
  apply Small.withPublisher_reachable
  · intro exit absurd
    cases absurd
  · intro exit isExit
    exact Or.inl (Option.some.inj isExit).symm
  · intro exit isExit
    exact Or.inl (Option.some.inj isExit).symm

namespace Small

/-- `rmw_create_subscription` on the node, with the agent not confirming the topic. -/
def failingSubscription : SubscriptionCall where
  node := some 0
  typeSupport := some (.found ⟨none, cstr "a"⟩)
  topicName := some (cstr "t")
  qos := some {}
  topic := { confirmed := false }

/-- The layer after the creation of the subscription failed. -/
def withoutSubscription : World :=
  (layer config).next (.createSubscription failingSubscription) withNode

theorem withoutSubscription_reachable :
    Reachable (layer config) (fun _ _ => True) withoutSubscription := by
  refine .next (withNode_reachable trivial trivial) ⟨fun node isNode => ?_, ?_⟩ trivial rfl
  · cases isNode
    exact live_node
  · exact fun _ _ _ _ => ⟨Exchange.acceptable_of_quiet rfl, Exchange.acceptable_of_quiet rfl,
      Exchange.acceptable_of_quiet rfl⟩

end Small

/-- No handle was returned, and yet the slot of the subscription stays allocated. -/
theorem failed_subscription_keeps_slot :
    Reachable (layer Small.config) (fun _ _ => True) Small.withoutSubscription ∧
      ¬ Corresponds Small.withoutSubscription := by
  refine ⟨Small.withoutSubscription_reachable, fun corresponds => ?_⟩
  have inside : 0 ∈ Small.withoutSubscription.rmw.allocated .subscription := by decide
  obtain ⟨handle, ⟨⟨returned, -⟩, -⟩, -⟩ := (corresponds.slots .subscription 0 rfl).mp inside
  have nothing : Small.withoutSubscription.returned .subscription = [] := rfl
  rw [nothing] at returned
  cases returned

end RmwMicroxrcedds
