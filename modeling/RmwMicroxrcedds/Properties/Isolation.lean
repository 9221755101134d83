import RmwMicroxrcedds.Machine.Run

/-! # Messages stay with the entity they were stored for

A message is tied to its entity by the address of a slot, and slots are used again. As
long as no call gives back an entity for which messages are pending, or meets a message
for an entity that is not live throughout, every pending message was stored for the very
entity that is in the slot, under its present routing number.
-/

namespace RmwMicroxrcedds

open Outcome Registry

variable {cfg : Config} {w w' : World} {s : Rmw} {pool : Pool} {handle slot item : Nat} {op : Op}

/-- The number by which messages find an entity: the count of its data reader, or its
data-request id. -/
def Entity.routing : Entity → Nat
  | .subscription entity => entity.datareaderId.id
  | .endpoint entity => entity.dataRequest
  | .node _ | .publisher _ | .topic _ | .other => 0

/-- The messages for live entities, with the handle and the number these have now. -/
def Registry.incarnations (r : Registry) : Admission where
  message owner provenance := owner.pool.hasInbox = true ∧ ∃ handle,
    r.Bound owner.pool handle owner.index ∧
      provenance = ⟨some handle, (r.entity owner.pool owner.index).routing⟩

/-- The messages for live entities that the operation does not give back. -/
def Op.spares (op : Op) (r : Registry) : Admission where
  message owner provenance := r.incarnations.message owner provenance ∧
    ¬ op.gone r owner.pool owner.index

/-- Every pending message is for a live entity and was stored for that incarnation of it,
and so is every message a take returns on its handle. -/
structure Isolated (w : World) : Prop where
  owned : ∀ item ∈ w.rmw.allocated .staticBuffer, ∃ owner handle,
    (w.rmw.customStaticBuffers item).owner = some owner ∧
      w.Designates owner.pool handle owner.index ∧
      (w.rmw.customStaticBuffers item).provenance =
        ⟨some handle, (w.rmw.entity owner.pool owner.index).routing⟩
  taken : ∀ pool handle slot deserialize, pool.hasInbox = true → w.Designates pool handle slot →
    ∃ result s', takeFrom pool deserialize handle w.rmw = .ok (result, s') ∧
      ∀ payload, result.payload = some payload → ∃ item ∈ w.rmw.pending ⟨pool, slot⟩,
        payload = (w.rmw.customStaticBuffers item).payload ∧
          (w.rmw.customStaticBuffers item).provenance =
            ⟨some handle, (w.rmw.entity pool slot).routing⟩

/-- No entity is given back while messages are pending for it, and every message that
arrives is for nobody or for a live entity that is not given back. -/
structure Isolates (cfg : Config) (w : World) (op : Op) : Prop where
  safe : Safe cfg w op
  drained : ∀ owner, op.gone w.rmw.registry owner.pool owner.index → w.rmw.pending owner = []
  arrivals : op.Acceptable cfg (op.spares w.rmw.registry) w.rmw

/-- When every pending message is for an incarnation that is live, the messages are
isolated. -/
theorem Isolated.of_healthy (healthy : w.rmw.Healthy cfg w.rmw.registry.incarnations)
    (sound : w.rmw.registry.Sound) (returned : ∀ pool, pool.hasInbox = true → w.Returned pool) :
    Isolated w where
  owned := by
    intro item inside
    obtain ⟨owner, isOwner, -, inbox, handle, bound, provenance⟩ := healthy.pending item inside
    exact ⟨owner, handle, isOwner, (returned _ inbox).designates bound, provenance⟩
  taken := by
    intro pool handle slot deserialize inbox designates
    obtain ⟨⟨result, s'⟩, returns, -, -, post⟩ :=
      takeFrom_spec healthy sound inbox designates.2
    refine ⟨result, s', returns, fun payload isPayload => ?_⟩
    cases post with
    | nothing empty same taken noPayload =>
        rw [noPayload] at isPayload
        cases isPayload
    | message item rest first allocated buffers payload' taken =>
        rw [payload'] at isPayload
        have member : item ∈ w.rmw.pending ⟨pool, slot⟩ := first ▸ List.mem_cons_self
        obtain ⟨inside, isOwner⟩ := Rmw.mem_pending.mp member
        obtain ⟨owner, isOwner', -, -, handle', bound, provenance⟩ := healthy.pending item inside
        obtain rfl := Option.some.inj (isOwner.symm.trans isOwner')
        obtain rfl := sound.handle_unique bound designates.2
        exact ⟨item, member, (Option.some.inj isPayload).symm, provenance⟩

/-- What is pending before a step may stay during it. -/
theorem Isolates.healthy (isolates : Isolates cfg w op)
    (healthy : w.rmw.Healthy cfg w.rmw.registry.incarnations) :
    w.rmw.Healthy cfg (op.spares w.rmw.registry) := by
  apply healthy.readmit
  · intro item inside owner isOwner admitted
    refine ⟨admitted, fun isGone => ?_⟩
    have member : item ∈ w.rmw.pending owner := Rmw.mem_pending.mpr ⟨inside, isOwner⟩
    rw [isolates.drained owner isGone] at member
    cases member
  · exact fun _ => False.elim

/-- One step keeps every pending message with a live incarnation. -/
theorem Isolates.step (isolates : Isolates cfg w op)
    (healthy : w.rmw.Healthy cfg w.rmw.registry.incarnations) (sound : w.rmw.registry.Sound)
    (asked : op.Asked w) :
    Yields (exec cfg op w) fun w' =>
      Steps cfg (op.spares w.rmw.registry) op w w' ∧
        w'.rmw.Healthy cfg w'.rmw.registry.incarnations := by
  apply (exec_spec (isolates.healthy healthy) sound asked isolates.arrivals isolates.safe).mono
  intro w' steps
  obtain ⟨healthy', sound', change⟩ := steps
  refine ⟨⟨healthy', sound', change⟩, healthy'.readmit ?_ fun _ => False.elim⟩
  intro item inside owner isOwner admitted
  obtain ⟨⟨inbox, handle, bound, provenance⟩, stays⟩ := admitted
  obtain ⟨bound', entity⟩ := change.keeps sound bound stays
  exact ⟨inbox, handle, bound', by rw [entity]; exact provenance⟩

/-- What every state of a run whose steps isolate has. -/
private theorem healthy_of_isolates (reachable : Reachable (layer cfg) (Isolates cfg) w) :
    w.rmw.Healthy cfg w.rmw.registry.incarnations ∧ w.rmw.registry.Sound ∧
      ∀ pool, pool.hasInbox = true → w.Returned pool := by
  induction reachable with
  | start => exact ⟨healthy_start fun _ => id, sound_start, fun _ _ _ data => absurd rfl data⟩
  | step before enabled isolates steps ih =>
      obtain ⟨healthy, sound, returned⟩ := ih
      obtain ⟨⟨-, sound', change⟩, healthy'⟩ :=
        (isolates.step healthy sound enabled.1).of_eq_ok steps
      refine ⟨healthy', sound', fun pool inbox => ?_⟩
      apply change.returned sound sound' _ (returned pool inbox)
      intro isNode
      rw [isNode] at inbox
      cases inbox

/-- In a run whose steps isolate, messages are isolated in every state, and the entities a
further such step gives back leave no message behind. -/
theorem isolated_of_reachable (reachable : Reachable (layer cfg) (Isolates cfg) w) :
    Isolated w ∧ ∀ op, Enabled cfg w op → Isolates cfg w op →
      ∃ w', exec cfg op w = .ok w' ∧ Isolated w' ∧
        ∀ owner, op.gone w.rmw.registry owner.pool owner.index → w'.rmw.pending owner = [] := by
  obtain ⟨healthy, sound, returned⟩ := healthy_of_isolates reachable
  refine ⟨.of_healthy healthy sound returned, fun op enabled isolates => ?_⟩
  obtain ⟨w', returns, ⟨healthySpared, -, -⟩, -⟩ := isolates.step healthy sound enabled.1
  have next := healthy_of_isolates (reachable.step enabled isolates returns)
  refine ⟨w', returns, .of_healthy next.1 next.2.1 next.2.2, fun owner isGone => ?_⟩
  apply List.eq_nil_iff_forall_not_mem.mpr
  intro item member
  obtain ⟨inside, isOwner⟩ := Rmw.mem_pending.mp member
  obtain ⟨owner', isOwner', -, -, stays⟩ := healthySpared.pending item inside
  obtain rfl := Option.some.inj (isOwner.symm.trans isOwner')
  exact stays isGone

/-- The small run in which a sample arrives for a subscription. -/
theorem isolated_of_small_run : Isolated Small.withSample ∧ ∀ op,
    Enabled Small.config Small.withSample op → Isolates Small.config Small.withSample op →
      ∃ w', exec Small.config op Small.withSample = .ok w' ∧ Isolated w' ∧
        ∀ owner, op.gone Small.withSample.rmw.registry owner.pool owner.index →
          w'.rmw.pending owner = [] := by
  apply isolated_of_reachable
  apply Small.withSample_reachable
  · exact ⟨⟨by decide, by decide, trivial⟩, fun _ => False.elim, Small.init_acceptable⟩
  · exact ⟨⟨by decide, by decide, trivial⟩, fun _ => False.elim,
      fun _ _ _ _ => Exchange.acceptable_of_quiet rfl⟩
  · exact ⟨⟨by decide, by decide, trivial⟩, fun _ => False.elim,
      fun _ _ => Small.subscription_acceptable⟩
  · refine ⟨⟨by decide, by decide, trivial⟩, fun _ => False.elim, ?_⟩
    have addressee : Small.withSubscription.rmw.registry.addressee Small.config 0 Small.sample =
        some (⟨.subscription, 0⟩, ⟨some 0, 0⟩) := rfl
    refine ⟨(by decide : Small.sample.length ≤ Small.config.maxInputBufferSize), ?_⟩
    intro owner provenance isAddressee
    cases addressee.symm.trans isAddressee
    exact ⟨⟨rfl, 0, rfl, rfl⟩, id⟩

namespace Small

/-- The layer after the subscription was destroyed with the sample pending. -/
def withoutOwner : World := (layer config).next (.destroySubscription 0 0 {}) withSample

/-- The layer after another subscription was created. -/
def withSuccessor : World := (layer config).next (.createSubscription subscription) withoutOwner

theorem withSuccessor_reachable : Reachable (layer config) (fun _ _ => True) withSuccessor := by
  have before : Reachable (layer config) (fun _ _ => True) withoutOwner := by
    refine .next (withSample_reachable trivial trivial trivial trivial) ⟨?_, ?_⟩ trivial rfl
    · exact ⟨⟨by decide, rfl⟩, ⟨by decide, rfl⟩⟩
    · exact fun _ _ _ _ _ _ => ⟨Exchange.acceptable_of_quiet rfl, Exchange.acceptable_of_quiet rfl,
        Exchange.acceptable_of_quiet rfl⟩
  refine .next before ⟨fun node isNode => ?_, fun _ _ => subscription_acceptable⟩ trivial rfl
  cases isNode
  exact ⟨by decide, rfl⟩

end Small

/-- The sample of the first subscription is pending for the second one, and the next take
on its handle returns it. -/
theorem successor_takes_old_sample :
    Reachable (layer Small.config) (fun _ _ => True) Small.withSuccessor ∧
      Small.withSuccessor.Designates .subscription 1 0 ∧
      (∃ result s', takeFrom .subscription (fun _ => true) 1 Small.withSuccessor.rmw =
        .ok (result, s') ∧ result.taken = true ∧ result.payload = some [1, 2]) ∧
      ¬ Isolated Small.withSuccessor := by
  refine ⟨Small.withSuccessor_reachable, ⟨⟨by decide, rfl⟩, rfl⟩, ⟨_, _, rfl, rfl, rfl⟩, ?_⟩
  intro isolated
  have inside : 1 ∈ Small.withSuccessor.rmw.allocated .staticBuffer := by decide
  obtain ⟨owner, handle, isOwner, designates, provenance⟩ := isolated.owned 1 inside
  have owned : (Small.withSuccessor.rmw.customStaticBuffers 1).owner = some ⟨.subscription, 0⟩ :=
    rfl
  have stored : (Small.withSuccessor.rmw.customStaticBuffers 1).provenance = ⟨some 0, 0⟩ := rfl
  cases owned.symm.trans isOwner
  obtain rfl : 0 = handle :=
    Option.some.inj (congrArg Provenance.handle (stored.symm.trans provenance))
  have freed : Small.withSuccessor.rmw.registry.data .subscription 0 = none := rfl
  exact designates.2.data_ne_none freed

end RmwMicroxrcedds
