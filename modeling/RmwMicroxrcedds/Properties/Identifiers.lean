import RmwMicroxrcedds.Machine.Numbering

/-! # Identifiers are unique up to their width

The counters behind the identifiers and the data-request ids of a session only grow, so
what is live has different counts. On the wire a count is cut to sixteen bits: the numbers
are different as long as a session has issued no more of a kind than fit, and a run that
goes on longer meets an old number again.
-/

namespace RmwMicroxrcedds

open Outcome Registry

variable {cfg : Config} {w : World}

/-- Counts within sixteen bits are on the wire what they are. -/
theorem wire_of_lt {count : Nat} (small : count < 2 ^ 16) : wire count = count :=
  Nat.mod_eq_of_lt small

/-- What is live at the same time in one session has different numbers, and has them on the
wire, too, while the counters of the session have not run past sixteen bits. -/
structure Distinct (cfg : Config) (w : World) : Prop where
  objects : ∀ session owner owner' object object', w.HasObject cfg session owner object →
    w.HasObject cfg session owner' object' → object.type = object'.type →
    (owner, object) ≠ (owner', object') →
      object.id ≠ object'.id ∧
        ((w.rmw.customSessions session).nextId object.type ≤ 2 ^ 16 →
          object.same object' = false)
  requests : ∀ session owner owner' number number', w.HasRequest session owner number →
    w.HasRequest session owner' number' → owner ≠ owner' →
    number ≠ uxrInvalidRequestId → number' ≠ uxrInvalidRequestId →
      number ≠ number' ∧
        ((w.rmw.customSessions session).lastRequestId < 2 ^ 16 → wire number ≠ wire number')
  valid : ∀ session owner number, w.HasRequest session owner number →
    number ≠ uxrInvalidRequestId → (w.rmw.customSessions session).lastRequestId < 2 ^ 16 →
      wire number ≠ uxrInvalidRequestId

/-- The numbers below the counters are different. -/
theorem Numbered.distinct (numbered : Numbered cfg w) : Distinct cfg w where
  objects := by
    intro session owner owner' object object' has has' sameType different
    have apart : object.id ≠ object'.id := by
      intro sameId
      obtain ⟨rfl, rfl⟩ :=
        numbered.apart session owner owner' object object' has has' sameType sameId
      exact different rfl
    refine ⟨apart, fun small => ?_⟩
    have below := numbered.below session owner object has
    have below' := numbered.below session owner' object' has'
    rw [← sameType] at below'
    have onWire : wire object.id ≠ wire object'.id := by
      rw [wire_of_lt (Nat.lt_of_lt_of_le below small), wire_of_lt (Nat.lt_of_lt_of_le below' small)]
      exact apart
    simp [ObjectId.same, onWire]
  requests := by
    intro session owner owner' number number' has has' different valid valid'
    have apart : number ≠ number' := by
      intro same
      subst same
      rcases numbered.requestApart session owner owner' number has has' with zero | same
      · exact valid zero
      · exact different same
    refine ⟨apart, fun small => ?_⟩
    have below := numbered.requestBelow session owner number has
    have below' := numbered.requestBelow session owner' number' has'
    rw [wire_of_lt (Nat.lt_of_le_of_lt below small), wire_of_lt (Nat.lt_of_le_of_lt below' small)]
    exact apart
  valid := by
    intro session owner number has valid small
    have below := numbered.requestBelow session owner number has
    rw [wire_of_lt (Nat.lt_of_le_of_lt below small)]
    exact valid

/-- In every safe run, however long, what is live in one session has different numbers, and
no data-request id is the invalid one unless a data request found no room. -/
theorem distinct_of_reachable (reachable : Reachable (layer cfg) (Safe cfg) w) :
    Distinct cfg w ∧
      (Reachable (layer cfg) (fun w op => Safe cfg w op ∧ op.room = true) w → w.Answered) :=
  ⟨(reachable_numbered reachable).distinct, reachable_answered⟩

namespace LongRun

/-- The small build with room for two services: one stays alive while the second one is created
and destroyed over and over. -/
def config : Config := { Small.config with maxServices := 2 }

/-- `rmw_create_service` for `s` on the node, with every step succeeding. -/
def service : EndpointCall where
  node := some 0
  typeSupport := some (.found ⟨⟨none, cstr "a"⟩, ⟨none, cstr "b"⟩⟩)
  serviceName := some [115]
  qos := some {}

/-- The layer with a node and one service. -/
def withService : World :=
  (layer config).next (.createEndpoint .service service)
    ((layer config).next (.createNode Small.node) ((layer config).next (.init Small.init) {}))

/-- A second service is created. -/
def create (w : World) : World := (layer config).next (.createEndpoint .service service) w

/-- The layer after the second service was created and destroyed that often. The handles
are numbered in the order of their creation. -/
def after : Nat → World
  | 0 => withService
  | turns + 1 =>
      (layer config).next (.destroyEndpoint .service 0 (turns + 1) {}) (create (after turns))

variable {s : Rmw} {slot handle turns : Nat} {rest : List Nat}

/-- What the creation of a service does to the counters, to its slot and its handle. -/
theorem create_exact (healthy : s.Healthy config everyone)
    (nodeBound : s.registry.Bound .node 0 0) (context : (s.customNodes 0).context = some 0)
    (first : s.free .service = slot :: rest) :
    ∃ s', createEndpoint config .service service s = .ok (some (s.handles .service).next, s') ∧
      (s'.customSessions 0).nextId .replier = (s.customSessions 0).nextId .replier + 1 ∧
      (s'.customSessions 0).lastRequestId = (s.customSessions 0).lastRequestId + 2 ∧
      (s'.customServices slot).objectId = ⟨(s.customSessions 0).nextId .replier, .replier⟩ ∧
      (s'.customServices slot).dataRequest = (s.customSessions 0).lastRequestId + 2 ∧
      (s'.handles .service).next = (s.handles .service).next + 1 ∧
      s'.registry.Bound .service (s.handles .service).next slot := by
  obtain ⟨contents, -, isData, isRead, named⟩ := healthy.block_of_data nodeBound
  generalize isContents : ({
    implementationIdentifier := some eprosimaMicroxrceddsIdentifier
    name := some [115] } : RmwHandle) = handleContents
  obtain ⟨mem, taken, openedHealthy, opening⟩ :=
    healthy.opens (by decide : Pool.service.isLeaf = true) first
      (isContents ▸ rfl : isUxrceRmwIdentifierValid handleContents.implementationIdentifier = true)
      (isContents ▸ rfl)
  have isSlot := openedHealthy.dataOf_registry opening.inside
  simp only [createEndpoint, service, isRead, ok_bind, named, ↓reduceIte, EndpointKind.pool,
    isContents, taken, isSlot, isData, fillEndpoint, deref]
  simp [createEndpointOnAgent, endpointRequest, config, Small.config, Rmw.modifyEndpoint,
    Rmw.uxrObjectId, Rmw.uxrBuffer, Rmw.modifySession, Rmw.readHandle, Rmw.withMemory,
    Rmw.allocateHandle, context, runXrceSession, deliverAll, Rmw.storeHandle, EndpointKind.pool,
    EndpointKind.objectType, Rmw.registry, Bound]

/-- What the destruction of a service does to the counters. -/
theorem destroy_exact (healthy : s.Healthy config everyone)
    (nodeBound : s.registry.Bound .node 0 0) (context : (s.customNodes 0).context = some 0)
    (bound : s.registry.Bound .service handle slot) :
    ∃ ret s', destroyEndpoint config .service (some 0) (some handle) {} s = .ok (ret, s') ∧
      (s'.customSessions 0).nextId = (s.customSessions 0).nextId ∧
      (s'.customSessions 0).lastRequestId = (s.customSessions 0).lastRequestId + 1 ∧
      (s'.handles .service).next = (s.handles .service).next := by
  obtain ⟨contents, isBlock, isData, isRead, named⟩ := healthy.block_of_data bound
  have isContents : (s.handles .service).block handle = some contents := isBlock
  simp only [destroyEndpoint, EndpointKind.pool, checkDestroyed_of_bound healthy nodeBound bound,
    ok_bind, deref, context]
  simp [Rmw.uxrBuffer, Rmw.modifySession, runXrceSession, config, Small.config, deliverAll,
    finiMemory, Rmw.readHandle, isContents, named, isData, Rmw.clearRmwHandle, Rmw.putMemory,
    Rmw.storeHandle]

/-- The state between two turns, and in the middle of one, when the second service is live
as well: the node, the first service, and how far the counters have moved on. -/
structure Turning (handles objects requests : Nat) (w : World) : Prop where
  reachable : Reachable (layer config) (Safe config) w
  node : w.Designates .node 0 0
  context : (w.rmw.customNodes 0).context = some 0
  service : w.Designates .service 0 1
  endpoint : (w.rmw.customServices 1).objectId = ⟨0, .replier⟩ ∧
    (w.rmw.customServices 1).dataRequest = 12 ∧ (w.rmw.customServices 1).ownerNode = some 0
  next : (w.rmw.handles .service).next = handles
  nextId : (w.rmw.customSessions 0).nextId .replier = objects
  lastRequestId : (w.rmw.customSessions 0).lastRequestId = requests

/-- The state after some turns. -/
structure Turned (turns : Nat) (w : World) : Prop where
  turning : Turning (turns + 1) (turns + 1) (12 + 3 * turns) w
  alone : w.rmw.registry.allocated .service = [1]

/-- The state in the middle of a turn. -/
structure Doubled (turns : Nat) (w : World) : Prop where
  turning : Turning (turns + 2) (turns + 2) (14 + 3 * turns) w
  slot : ∃ slot, slot ≠ 1 ∧ w.rmw.registry.allocated .service = [slot, 1] ∧
    w.Designates .service (turns + 1) slot ∧ (w.rmw.customServices slot).ownerNode = some 0 ∧
    (w.rmw.customServices slot).objectId = ⟨turns + 1, .replier⟩ ∧
    (w.rmw.customServices slot).dataRequest = 14 + 3 * turns

/-- A creation of a service on the node can be called. -/
theorem service_enabled {w : World} (live : w.Live .node 0) :
    Enabled config w (.createEndpoint .service service) := by
  refine ⟨fun node isNode => ?_, fun _ _ _ _ => Exchange.acceptable_of_quiet rfl⟩
  cases isNode
  exact live

/-- Every call of the run is safe, and every data request finds room. -/
theorem withService_reachable :
    Reachable (layer config) (fun w op => Safe config w op ∧ op.room = true) withService := by
  have context : Reachable (layer config) (fun w op => Safe config w op ∧ op.room = true)
      ((layer config).next (.init Small.init) {}) := by
    refine .next .start ⟨trivial, ?_⟩ ⟨⟨by decide, by decide, trivial⟩, rfl⟩ rfl
    exact fun _ _ _ inside => by cases inside
  have node : Reachable (layer config) (fun w op => Safe config w op ∧ op.room = true)
      ((layer config).next (.createNode Small.node)
        ((layer config).next (.init Small.init) {})) := by
    refine context.next ⟨fun context isContext => ?_, ?_⟩ ⟨⟨by decide, by decide, trivial⟩, rfl⟩ rfl
    · cases isContext
      rfl
    · exact fun _ _ _ _ => Exchange.acceptable_of_quiet rfl
  exact node.next (service_enabled ⟨by decide, rfl⟩) ⟨⟨by decide, by decide, trivial⟩, rfl⟩ rfl

theorem twoServices_reachable :
    Reachable (layer config) (fun w op => Safe config w op ∧ op.room = true)
      (create withService) :=
  withService_reachable.next (service_enabled ⟨by decide, rfl⟩)
    ⟨⟨by decide, by decide, trivial⟩, rfl⟩ rfl

theorem turned_start : Turned 0 withService := by
  refine ⟨⟨withService_reachable.mono fun _ _ => And.left, ⟨⟨by decide, rfl⟩, rfl⟩, rfl,
    ⟨⟨by decide, rfl⟩, rfl⟩, ⟨?_, ?_, ?_⟩, ?_, ?_, ?_⟩,
    ?_⟩ <;> decide

/-- One of the two slots is free between two turns. -/
theorem free_of_alone (healthy : s.Healthy config everyone)
    (alone : s.registry.allocated .service = [1]) :
    ∃ slot rest, slot ≠ 1 ∧ s.free .service = slot :: rest := by
  have allocated : (s.memory .service).allocated = [1] := alone
  have size : (s.memory .service).size = 2 := by
    rcases healthy.sized .service with zeroed | sized
    · rw [zeroed] at allocated
      cases allocated
    · exact sized.2
  have total := (healthy.wf .service).length_add
  rw [allocated, size, List.length_singleton] at total
  obtain ⟨slot, rest, first⟩ : ∃ slot rest, (s.memory .service).free = slot :: rest :=
    List.exists_cons_of_length_pos (by omega)
  refine ⟨slot, rest, ?_, first⟩
  intro same
  have isFree : 1 ∈ (s.memory .service).free := by
    rw [first, same]
    exact List.mem_cons_self
  have isAllocated : 1 ∈ (s.memory .service).allocated := by
    rw [allocated]
    exact List.mem_cons_self
  exact (healthy.wf .service).disjoint isFree isAllocated

/-- The node and the first service stay through a step that does not give them back. -/
theorem Turning.step {w w' : World} {op : Op} {handles objects requests : Nat}
    {handles' objects' requests' : Nat} (turning : Turning handles objects requests w)
    (enabled : Enabled config w op) (safe : Safe config w op)
    (steps : exec config op w = .ok w')
    (returned : ∀ pool handle, handle ∈ w.returned pool → handle ∈ w'.returned pool)
    (noNode : ¬ op.gone w.rmw.registry .node 0) (noService : ¬ op.gone w.rmw.registry .service 1)
    (next : (w'.rmw.handles .service).next = handles')
    (nextId : (w'.rmw.customSessions 0).nextId .replier = objects')
    (lastRequestId : (w'.rmw.customSessions 0).lastRequestId = requests') :
    Turning handles' objects' requests' w' := by
  obtain ⟨healthy, sound⟩ := reachable_sound turning.reachable fun _ _ => id
  obtain ⟨-, -, change⟩ := (exec_spec healthy sound enabled.1 enabled.2 safe).of_eq_ok steps
  obtain ⟨nodeBound, sameNode⟩ := change.keeps sound turning.node.2 noNode
  obtain ⟨serviceBound, sameService⟩ := change.keeps sound turning.service.2 noService
  have isNode : w'.rmw.customNodes 0 = w.rmw.customNodes 0 := Entity.node.inj sameNode
  have isService : w'.rmw.customServices 1 = w.rmw.customServices 1 :=
    Entity.endpoint.inj sameService
  refine ⟨turning.reachable.step enabled safe steps, ?_, ?_, ?_, ?_, next, nextId, lastRequestId⟩
  · exact ⟨⟨returned _ _ turning.node.1.1, data_ne_none_iff.mp nodeBound.data_ne_none⟩, nodeBound⟩
  · rw [isNode]
    exact turning.context
  · exact ⟨⟨returned _ _ turning.service.1.1, data_ne_none_iff.mp serviceBound.data_ne_none⟩,
      serviceBound⟩
  · rw [isService]
    exact turning.endpoint

/-- The first half of a turn. -/
theorem Turned.doubled {w : World} (turned : Turned turns w) : Doubled turns (create w) := by
  have turning := turned.turning
  obtain ⟨healthy, sound⟩ := reachable_sound turning.reachable fun _ _ => id
  obtain ⟨slot, rest, different, isFree⟩ := free_of_alone healthy turned.alone
  obtain ⟨s', creates, isNextId, isLastRequestId, isObject, isRequest, isNext, bound⟩ :=
    create_exact healthy turning.node.2 turning.context isFree
  rw [turning.next] at bound creates isNext
  rw [turning.nextId] at isNextId isObject
  rw [turning.lastRequestId] at isLastRequestId isRequest
  have isSession : w.rmw.sessionOf (some 0) = some 0 := by
    have isSlot : w.rmw.registry.data .node 0 = some (some 0) := turning.node.2
    simp [Rmw.sessionOf, Rmw.nodeOf, isSlot, turning.context]
  have isExit : (Op.createEndpoint .service service).exit config w.rmw = some .created := by
    simp [Op.exit, service, isSession, endpointExit, isFree, EndpointKind.pool,
      filledEndpointExit, endpointFits, config, Small.config, Exchange.succeeds]
  have asked : (Op.createEndpoint .service service).Asked w := by
    intro handle isHandle
    cases isHandle
    exact turning.node.1
  have acceptable : (Op.createEndpoint .service service).Acceptable config everyone w.rmw :=
    fun _ _ _ _ => Exchange.acceptable_of_quiet rfl
  have safe : Safe config w (.createEndpoint .service service) := by
    refine ⟨?_, ?_, trivial⟩
    · rw [isExit]
      decide
    · rw [isExit]
      decide
  have steps : exec config (.createEndpoint .service service) w =
      .ok (w.creating .service (some (turns + 1), s')) := by
    simp only [exec, creates]
    rfl
  have isCreate : create w = w.creating .service (some (turns + 1), s') := by
    simp only [create, Machine.next, layer, steps]
  obtain ⟨owner, session, exit, ownerBound, -, isExit', created⟩ :=
    EndpointCall.creation_of_live healthy sound asked acceptable safe rfl
  cases isExit.symm.trans isExit'
  obtain ⟨-, -, handle, slot', entity, isHandle, new, agrees⟩ := created.of_eq_ok creates
  rw [if_neg (by decide)] at agrees
  cases isHandle
  have isSlot : s'.registry.Bound .service (turns + 1) slot' := by
    rw [Bound, agrees.data]
    simp [addEntity, EndpointKind.pool]
  obtain rfl := bound.slot_unique isSlot
  have isEntity : Entity.endpoint (s'.customServices slot) = entity := by
    have inside : slot ∈ (w.rmw.registry.addEntity EndpointKind.service.pool (turns + 1) slot
        entity).allocated EndpointKind.service.pool := by
      simp [addEntity, addSlot]
    have same := agrees.entity inside
    rw [addEntity, setData_entity, addSlot, take_entity, fill_entity_self] at same
    exact same
  have isOwner : (s'.customServices slot).ownerNode = some 0 := by
    have owned := new.owner
    rw [← isEntity, ownerBound.slot_unique turning.node.2] at owned
    exact owned
  rw [isCreate]
  constructor
  · apply turning.step ⟨asked, acceptable⟩ safe steps _ id id isNext isNextId
    · rw [World.creating, isLastRequestId]
      omega
    · intro pool handle inside
      by_cases same : pool = .service
      · subst same
        simp [World.creating, inside]
      · simpa [World.creating, same] using inside
  · refine ⟨slot, different, ?_, ⟨⟨?_, ?_⟩, bound⟩, isOwner, isObject, ?_⟩
    · have isAllocated := congrFun agrees.allocated .service
      simpa [World.creating, addEntity, addSlot, EndpointKind.pool, turned.alone] using isAllocated
    · simp [World.creating]
    · exact data_ne_none_iff.mp bound.data_ne_none
    · rw [World.creating, isRequest]
      omega

/-- The second half of a turn. -/
theorem Doubled.turned {w : World} (doubled : Doubled turns w) :
    Turned (turns + 1) ((layer config).next (.destroyEndpoint .service 0 (turns + 1) {}) w) := by
  have turning := doubled.turning
  obtain ⟨slot, different, allocated, second, -⟩ := doubled.slot
  obtain ⟨healthy, sound⟩ := reachable_sound turning.reachable fun _ _ => id
  obtain ⟨ret, s', destroys, isNextId, isLastRequestId, isNext⟩ :=
    destroy_exact healthy turning.node.2 turning.context second.2
  rw [turning.next] at isNext
  rw [turning.lastRequestId] at isLastRequestId
  have enabled : Enabled config w (.destroyEndpoint .service 0 (turns + 1) {}) :=
    ⟨⟨turning.node.1, second.1⟩, fun _ _ _ _ => Exchange.acceptable_of_quiet rfl⟩
  have safe : Safe config w (.destroyEndpoint .service 0 (turns + 1) {}) :=
    ⟨by simp [Op.exit], by simp [Op.exit], trivial⟩
  have steps : exec config (.destroyEndpoint .service 0 (turns + 1) {}) w =
      .ok { w with rmw := s' } := by
    simp only [exec, destroys]
    rfl
  have bound : w.rmw.registry.Bound EndpointKind.service.pool (turns + 1) slot := second.2
  obtain ⟨-, -, -, agrees⟩ := (destroyEndpoint_spec healthy sound turning.node.2 bound
    fun session _ => Exchange.acceptable_of_quiet rfl).of_eq_ok destroys
  have isWorld : (layer config).next (.destroyEndpoint .service 0 (turns + 1) {}) w =
      { w with rmw := s' } := by
    simp only [Machine.next, layer, steps]
  rw [isWorld]
  constructor
  · apply turning.step enabled safe steps (fun _ _ => id) _ _ isNext
    · exact (congrFun isNextId .replier).trans turning.nextId
    · rw [isLastRequestId]
      omega
    · intro gone
      cases gone.1
    · intro gone
      exact different (second.2.slot_unique gone.2)
  · have isAllocated := congrFun agrees.allocated .service
    simpa [dropEntity, EndpointKind.pool, allocated, different] using isAllocated

/-- Any number of turns is possible. -/
theorem turned_after (turns : Nat) : Turned turns (after turns) := by
  induction turns with
  | zero => exact turned_start
  | succ turns ih => exact ih.doubled.turned

/-- What the two services have in the middle of a turn. -/
theorem Doubled.has {w : World} (doubled : Doubled turns w) :
    ∃ slot, slot ≠ 1 ∧
      w.HasObject config 0 (some (.service, 1)) ⟨0, .replier⟩ ∧
      w.HasObject config 0 (some (.service, slot)) ⟨turns + 1, .replier⟩ ∧
      w.HasRequest 0 (.service, 1) 12 ∧ w.HasRequest 0 (.service, slot) (14 + 3 * turns) := by
  have turning := doubled.turning
  obtain ⟨slot, different, -, second, owner, object, request⟩ := doubled.slot
  obtain ⟨firstObject, firstRequest, firstOwner⟩ := turning.endpoint
  have sited : ∀ slot, (w.rmw.customServices slot).ownerNode = some 0 →
      w.rmw.registry.sessionOf .service slot = some 0 := by
    intro slot isOwner
    have owned : (w.rmw.registry.entity .service slot).ownerNode = some 0 := isOwner
    rw [sessionOf, if_neg (by decide), owned, Option.bind_some]
    exact turning.context
  have held : ∀ handle slot, w.rmw.registry.Bound .service handle slot →
      w.rmw.registry.Held .service slot := fun handle slot bound => Or.inl ⟨handle, bound⟩
  refine ⟨slot, different, ?_, ?_, ?_, ?_⟩
  · apply World.HasObject.held _ _ _ (held _ _ turning.service.2) (sited _ firstOwner)
    rw [← firstObject]
    exact List.mem_singleton_self _
  · apply World.HasObject.held _ _ _ (held _ _ second.2) (sited _ owner)
    rw [← object]
    exact List.mem_singleton_self _
  · exact ⟨held _ _ turning.service.2, sited _ firstOwner, congrArg some firstRequest⟩
  · exact ⟨held _ _ second.2, sited _ owner, congrArg some request⟩

end LongRun

/-- Two services of one node, with what they were numbered by. -/
theorem distinct_of_small_run :
    (∃ slot, slot ≠ 1 ∧
      (LongRun.create LongRun.withService).HasObject LongRun.config 0
        (some (.service, 1)) ⟨0, .replier⟩ ∧
      (LongRun.create LongRun.withService).HasObject LongRun.config 0
        (some (.service, slot)) ⟨1, .replier⟩ ∧
      (LongRun.create LongRun.withService).HasRequest 0 (.service, 1) 12 ∧
      (LongRun.create LongRun.withService).HasRequest 0 (.service, slot) 14) ∧
    Distinct LongRun.config (LongRun.create LongRun.withService) ∧
    (LongRun.create LongRun.withService).Answered := by
  obtain ⟨distinct, answered⟩ :=
    distinct_of_reachable (LongRun.twoServices_reachable.mono fun _ _ => And.left)
  exact ⟨LongRun.turned_start.doubled.has, distinct, answered LongRun.twoServices_reachable⟩

/-- The numbers wrap around. With one service alive, the 65536th service after it gets its
identifier again, the 43691st its data-request id, and the 43687th the invalid one. -/
theorem identifiers_wrap :
    (∃ slot, slot ≠ 1 ∧
      Reachable (layer LongRun.config) (Safe LongRun.config)
        (LongRun.create (LongRun.after 65535)) ∧
      (LongRun.create (LongRun.after 65535)).HasObject LongRun.config 0
        (some (.service, 1)) ⟨0, .replier⟩ ∧
      (LongRun.create (LongRun.after 65535)).HasObject LongRun.config 0
        (some (.service, slot)) ⟨65536, .replier⟩ ∧
      ObjectId.same ⟨0, .replier⟩ ⟨65536, .replier⟩ = true) ∧
    (∃ slot, slot ≠ 1 ∧
      Reachable (layer LongRun.config) (Safe LongRun.config)
        (LongRun.create (LongRun.after 43690)) ∧
      (LongRun.create (LongRun.after 43690)).HasRequest 0 (.service, 1) 12 ∧
      (LongRun.create (LongRun.after 43690)).HasRequest 0 (.service, slot) 131084 ∧
      wire 12 = wire 131084) ∧
    ∃ slot, Reachable (layer LongRun.config) (Safe LongRun.config)
        (LongRun.create (LongRun.after 43686)) ∧
      (LongRun.create (LongRun.after 43686)).HasRequest 0 (.service, slot) 131072 ∧
      wire 131072 = uxrInvalidRequestId := by
  refine ⟨?_, ?_, ?_⟩
  · have doubled := (LongRun.turned_after 65535).doubled
    obtain ⟨slot, different, first, second, -⟩ := doubled.has
    exact ⟨slot, different, doubled.turning.reachable, first, second, by decide⟩
  · have doubled := (LongRun.turned_after 43690).doubled
    obtain ⟨slot, different, -, -, first, second⟩ := doubled.has
    exact ⟨slot, different, doubled.turning.reachable, first, second, by decide⟩
  · have doubled := (LongRun.turned_after 43686).doubled
    obtain ⟨slot, -, -, -, -, second⟩ := doubled.has
    exact ⟨slot, doubled.turning.reachable, second, by decide⟩

end RmwMicroxrcedds
