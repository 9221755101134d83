import RmwMicroxrcedds.Machine.Run

/-! # Pool integrity

In a safe run the free and the allocated list of every pool stay well formed: two
null-terminated, doubly linked lists that together hold every item once. Then no two live
handles share a slot, and every walk of an allocated list ends.
-/

namespace RmwMicroxrcedds

open Outcome Registry

variable {cfg : Config} {w : World}

/-- Pool integrity, and what callers get from it. -/
structure Integrity (w : World) : Prop where
  pools : ∀ pool, (w.rmw.memory pool).Wf
  apart : ∀ pool handle handle' slot, w.Live pool handle → w.Live pool handle' →
    w.rmw.registry.Bound pool handle slot → w.rmw.registry.Bound pool handle' slot →
    handle = handle'
  ends : ∀ pool test, ∃ found, w.rmw.findAllocated pool test = .ok found

/-- A healthy layer with a sound registry has its integrity. -/
theorem Integrity.of_sound {admits : Admission} (healthy : w.rmw.Healthy cfg admits)
    (sound : w.rmw.registry.Sound) : Integrity w where
  pools := healthy.wf
  apart := fun _ _ _ _ _ _ bound bound' => sound.handle_unique bound bound'
  ends := fun _ test => ⟨_, healthy.findAllocated test⟩

/-- Every state of a safe run has integrity, and every further safe operation returns and
keeps it. -/
theorem integrity_of_reachable (reachable : Reachable (layer cfg) (Safe cfg) w) :
    Integrity w ∧ ∀ op, Enabled cfg w op → Safe cfg w op →
      ∃ w', exec cfg op w = .ok w' ∧ Integrity w' := by
  obtain ⟨healthy, sound⟩ := reachable_sound reachable fun _ _ => id
  refine ⟨.of_sound healthy sound, fun op enabled safe => ?_⟩
  obtain ⟨w', returns, healthy', sound', -⟩ :=
    exec_spec healthy sound enabled.1 enabled.2 safe
  exact ⟨w', returns, .of_sound healthy' sound'⟩

/-- The run that creates a context and a node. -/
theorem integrity_of_small_run : Integrity Small.withNode ∧ ∀ op,
    Enabled Small.config Small.withNode op → Safe Small.config Small.withNode op →
      ∃ w', exec Small.config op Small.withNode = .ok w' ∧ Integrity w' := by
  refine integrity_of_reachable (Small.withNode_reachable ?_ ?_)
  · exact ⟨by decide, by decide, trivial⟩
  · exact ⟨by decide, by decide, trivial⟩

namespace Small

/-- `rmw_create_service` on the node, with the agent not confirming the creation. -/
def failingService : EndpointCall where
  node := some 0
  typeSupport := some (.found ⟨⟨none, cstr "a"⟩, ⟨none, cstr "a"⟩⟩)
  serviceName := some (cstr "s")
  qos := some {}
  creation := { confirmed := false }

/-- The layer after the creation of the service failed. -/
def withoutService : World := (layer config).next (.createEndpoint .service failingService) withNode

theorem withoutService_reachable :
    Reachable (layer config) (fun _ _ => True) withoutService := by
  refine .next (withNode_reachable trivial trivial) ⟨fun node isNode => ?_, ?_⟩ trivial rfl
  · cases isNode
    exact ⟨by decide, rfl⟩
  · intro _ _ _ _ _ inside
    cases inside

end Small

/-- The service's slot is released twice, and the free list of services is a cycle. -/
theorem integrity_lost_by_failed_service :
    Reachable (layer Small.config) (fun _ _ => True) Small.withoutService ∧
      ¬ Integrity Small.withoutService := by
  refine ⟨Small.withoutService_reachable, fun integrity => ?_⟩
  have segment := (integrity.pools .service).free_segment
  have isFree : (Small.withoutService.rmw.memory .service).free = [0] := rfl
  rw [isFree, IntrusiveList.segment_cons] at segment
  have ends : ((Small.withoutService.rmw.memory .service).links 0).next = none :=
    segment.2.2.head_eq
  have cycle : ((Small.withoutService.rmw.memory .service).links 0).next = some 0 := rfl
  rw [cycle] at ends
  cases ends

end RmwMicroxrcedds
