import RmwMicroxrcedds.Refinement.Entities

/-! # How a creation ends

The creation functions have many exits; what they leave behind falls into few classes.
An exit is determined by the arguments, by what happens with the agent, and by which
pools have a free slot; `Creation` says what the registry looks like after each.
-/

namespace RmwMicroxrcedds

open Outcome

/-- The ways a creation ends. -/
inductive CreateExit where
  /-- Null is returned and everything is as before. -/
  | refused
  /-- Null is returned and the slot stays allocated. -/
  | leaked
  /-- Null is returned and the slot stays allocated, with a null topic. -/
  | topicless
  /-- Null is returned and the topic stays allocated. -/
  | topicLeaked
  /-- Null is returned, and both the slot and the topic stay allocated. -/
  | bothLeaked
  /-- Null is returned and the slot is released twice. -/
  | doubleReleased
  /-- A null pointer is written through, or memory is read that was never written. -/
  | crashed
  /-- The handle is returned. -/
  | created
  /-- Null is returned, and the handle stays with its slot. -/
  | unreturned
deriving DecidableEq

/-- The kinds of object an entity of the pool has on the agent. -/
def Pool.objectTypes : Pool → List ObjectType
  | node => [.participant]
  | publisher => [.publisher, .datawriter]
  | subscription => [.subscriber, .datareader]
  | service => [.replier]
  | client => [.requester]
  | topic => [.topic]
  | session | staticBuffer => []

/-- What is true of the contents of a slot that a call filled in for good; `room` tells
whether its data request, if it has one, found room. -/
structure NewEntity (s s' : Rmw) (room : Bool) (pool : Pool) (node session handle slot : Nat)
    (entity : Entity) : Prop where
  free : slot ∉ s.registry.allocated pool
  fresh : s.registry.data pool handle = none
  handle : entity.rmwHandle = some handle
  owner : entity.ownerNode = some node
  typed : entity.typed = true
  objects : entity.objects.map ObjectId.type = pool.objectTypes
  issued : ∀ object ∈ entity.objects, Issued s s' session object
  requested : ∀ number, entity.dataRequest = some number → room = false ∧ number = 0 ∨
    (s.customSessions session).lastRequestId < number ∧
      number ≤ (s'.customSessions session).lastRequestId

/-- What is true of a topic that a call created for a node. -/
structure NewTopic (s s' : Rmw) (node session topic : Nat) (entity : Topic) : Prop where
  free : topic ∉ s.registry.allocated .topic
  owner : entity.ownerNode = some node
  type : entity.topicId.type = .topic
  issued : Issued s s' session entity.topicId

namespace Registry

/-- The registry with one more allocated slot. -/
def addSlot (r : Registry) (pool : Pool) (slot : Nat) (entity : Entity) : Registry :=
  (r.fill pool slot entity).take pool slot

/-- The registry with one more entity and its handle. -/
def addEntity (r : Registry) (pool : Pool) (handle slot : Nat) (entity : Entity) : Registry :=
  (r.addSlot pool slot entity).setData pool handle (some (some slot))

/-- The registry without an entity and its handle. -/
def dropEntity (r : Registry) (pool : Pool) (handle slot : Nat) : Registry :=
  (r.setData pool handle none).release pool slot

variable {r r' : Registry} {pool : Pool} {slot handle node nodeHandle topic session : Nat}
variable {entity : Entity}

/-- Registries that agree still do when a slot is added to both. -/
theorem Agrees.addSlot (agrees : r.Agrees r') :
    (r.addSlot pool slot entity).Agrees (r'.addSlot pool slot entity) :=
  agrees.fill.take (by simp)

@[simp] theorem addSlot_fill {entity' : Entity} :
    (r.addSlot pool slot entity).fill pool slot entity' = r.addSlot pool slot entity' := by
  rw [addSlot, addSlot, ← fill_fill r pool slot entity entity']
  rfl

/-- Slots of different pools are added in any order. -/
theorem addSlot_comm {pool' : Pool} {slot' : Nat} {entity' : Entity} (different : pool ≠ pool') :
    (r.addSlot pool slot entity).addSlot pool' slot' entity' =
      (r.addSlot pool' slot' entity').addSlot pool slot entity := by
  ext1 <;> try rfl
  · simp only [addSlot, take_allocated, fill_allocated, Function.update_of_ne different,
      Function.update_of_ne different.symm]
    exact Function.update_comm different _ _ _
  · simp only [addSlot, take_entity, fill, Function.update_of_ne different,
      Function.update_of_ne different.symm]
    exact Function.update_comm different _ _ _

/-- An added slot that is given back has been written to. -/
theorem addSlot_release :
    (r.addSlot pool slot entity).release pool slot = r.fill pool slot entity :=
  take_release _ _ _

/-- Adding a slot of a pool that does not receive leaves the receivers. -/
theorem inboxes_addSlot (outside : pool.hasInbox = false) :
    (r.addSlot pool slot entity).inboxes = r.inboxes := by
  rw [addSlot, inboxes_take outside, inboxes_fill outside]

@[simp] theorem addEntity_fill {entity' : Entity} :
    (r.addEntity pool handle slot entity).fill pool slot entity' =
      r.addEntity pool handle slot entity' :=
  congrArg (·.setData pool handle (some (some slot))) addSlot_fill

/-- An entity that is dropped again leaves its slot written and nothing else. -/
theorem agrees_addEntity_dropEntity (free : slot ∉ r.allocated pool)
    (fresh : r.data pool handle = none) :
    r.Agrees ((r.addEntity pool handle slot entity).dropEntity pool handle slot) := by
  have same : (r.addEntity pool handle slot entity).dropEntity pool handle slot =
      r.fill pool slot entity := by
    rw [addEntity, dropEntity, setData_setData, setData_of_eq, addSlot_release]
    exact fresh
  rw [same]
  exact .fill_free free

/-- A slot may be added whatever it holds. -/
theorem Sound.addSlot (sound : r.Sound) (free : slot ∉ r.allocated pool) :
    (r.addSlot pool slot entity).Sound :=
  (sound.fill free).take

/-- A slot without entities of its own is dropped along with its handle. -/
theorem Sound.dropEntity (sound : r.Sound) (bound : r.Bound pool handle slot)
    (handles : pool.hasHandle = true)
    (childless : ∀ node, pool = .node → r.Bound .node handle node → r.Childless node) :
    (r.dropEntity pool handle slot).Sound := by
  refine (sound.unbind childless).release (fun other otherBound => ?_) ?_ ?_
  · rw [Bound, setData_data_apply] at otherBound
    split at otherBound
    · cases otherBound
    · rename_i different
      exact different ⟨rfl, (sound.handle_unique bound otherBound).symm⟩
  · rintro rfl
    cases handles
  · rintro rfl
    cases handles

end Registry

open Registry

variable {cfg : Config} {admits : Admission} {s s' : Rmw} {pool : Pool}
variable {handle slot : Nat} {rest : List Nat} {entity entity' : Entity}

/-- A creation under way, seen from the registry before it: its handle is allocated
without a slot, and its slot is allocated with the given contents. -/
structure Registry.Opening (r r' : Registry) (pool : Pool) (handle slot : Nat)
    (entity : Entity) : Prop where
  agrees : ((r.addSlot pool slot entity).setData pool handle (some none)).Agrees r'
  free : slot ∉ r.allocated pool
  fresh : r.data pool handle = none

namespace Registry.Opening

variable {r r' : Registry}

/-- The slot that was opened is allocated. -/
theorem inside (opening : Opening r r' pool handle slot entity) :
    slot ∈ r'.allocated pool := by
  simp [opening.agrees.allocated, addSlot]

/-- Its handle leads nowhere yet. -/
theorem null (opening : Opening r r' pool handle slot entity) :
    r'.data pool handle = some none := by
  simp [opening.agrees.data]

/-- What agrees with the registry after an opening is after it. -/
theorem trans {r'' : Registry} (opening : Opening r r' pool handle slot entity)
    (agrees : r'.Agrees r'') : Opening r r'' pool handle slot entity :=
  ⟨opening.agrees.trans agrees, opening.free, opening.fresh⟩

/-- The slot is written to. -/
theorem fill (opening : Opening r r' pool handle slot entity) :
    Opening r (r'.fill pool slot entity') pool handle slot entity' where
  agrees := by
    rw [← addSlot_fill]
    exact opening.agrees.fill
  free := opening.free
  fresh := opening.fresh

/-- Something else is added. -/
theorem addSlot {pool' : Pool} {slot' : Nat} (opening : Opening r r' pool handle slot entity)
    (different : pool ≠ pool') :
    Opening (r.addSlot pool' slot' entity') (r'.addSlot pool' slot' entity') pool handle slot
      entity where
  agrees := by
    rw [addSlot_comm different.symm]
    exact opening.agrees.addSlot
  free := by
    simp only [Registry.addSlot, take_allocated, Function.update_of_ne different]
    exact opening.free
  fresh := opening.fresh

/-- Without the handle, the slot is left allocated. -/
theorem abandoned (opening : Opening r r' pool handle slot entity) :
    (r.addSlot pool slot entity).Agrees (r'.setData pool handle none) := by
  have agrees : (((r.addSlot pool slot entity).setData pool handle (some none)).setData pool handle
      none).Agrees (r'.setData pool handle none) := opening.agrees.setData
  rwa [setData_setData, setData_of_eq] at agrees
  exact opening.fresh

/-- Without the handle and the slot, everything is as before. -/
theorem dropped (opening : Opening r r' pool handle slot entity) :
    r.Agrees (r'.dropEntity pool handle slot) := by
  have agrees : ((r.addSlot pool slot entity).release pool slot).Agrees
      (r'.dropEntity pool handle slot) := opening.abandoned.release
  rw [addSlot_release] at agrees
  exact (Agrees.fill_free opening.free).trans agrees

/-- The handle gets its slot. -/
theorem completed (opening : Opening r r' pool handle slot entity) :
    (r.addEntity pool handle slot entity).Agrees (r'.setData pool handle (some (some slot))) := by
  rw [addEntity, ← setData_setData _ _ _ (some none)]
  exact opening.agrees.setData

/-- Opening a slot of a pool that does not receive leaves the receivers. -/
theorem inboxes (opening : Opening r r' pool handle slot entity)
    (outside : pool.hasInbox = false) : r'.inboxes = r.inboxes := by
  rw [opening.agrees.inboxes, inboxes_setData, inboxes_addSlot outside]

end Registry.Opening

/-- The first steps of a creation: a handle is allocated and a slot taken. -/
theorem Rmw.Healthy.opens (healthy : s.Healthy cfg admits) {contents : RmwHandle}
    (leaf : pool.isLeaf = true) (first : s.free pool = slot :: rest)
    (named : isUxrceRmwIdentifierValid contents.implementationIdentifier = true)
    (null : contents.data = none) :
    ∃ mem, (s.allocateHandle pool contents).2.getMemory pool =
        (some slot, (s.allocateHandle pool contents).2.withMemory pool mem) ∧
      ((s.allocateHandle pool contents).2.withMemory pool mem).Healthy cfg admits ∧
      Opening s.registry ((s.allocateHandle pool contents).2.withMemory pool mem).registry pool
        (s.handles pool).next slot (s.registry.entity pool slot) := by
  have entities : pool ≠ .staticBuffer := by
    rintro rfl
    cases leaf
  have notNode : pool ≠ .node := by
    rintro rfl
    cases leaf
  have handleHealthy : (s.allocateHandle pool contents).2.Healthy cfg admits :=
    healthy.allocateHandle named fun isNode => absurd isNode notNode
  obtain ⟨mem, taken, takenHealthy, takenRegistry⟩ :=
    handleHealthy.getMemory_of_free_cons entities first
  refine ⟨mem, taken, takenHealthy, ⟨.of_eq ?_, healthy.not_mem_of_free entities first,
    healthy.next_free⟩⟩
  rw [takenRegistry, registry_allocateHandle, null]
  have refilled : s.registry.fill pool slot (s.registry.entity pool slot) = s.registry := by
    ext1 <;> try rfl
    simp [Registry.fill]
  rw [addSlot, refilled]
  rfl

/-- A registry that a creation passes through while it holds a slot of an inbox pool: the
slot is allocated, and `routing` says which numbers it may carry meanwhile. -/
def Filling (s : Rmw) (pool : Pool) (routing : Nat → Entity → Prop) (r : Registry) : Prop :=
  ∃ handle slot rest base entity, s.free pool = slot :: rest ∧
    base.inboxes = s.registry.inboxes ∧ Opening base r pool handle slot entity ∧ routing slot entity

/-- What a creation that ends in the given way leaves behind. The slots of `topics` pools
come with a topic. -/
def Creation (s s' : Rmw) (room : Bool) (pool : Pool) (node session : Nat) (result : Option Nat) :
    CreateExit → Prop
  | .refused => result = none ∧ s.registry.Agrees s'.registry
  | .leaked => result = none ∧ ∃ slot entity, slot ∉ s.registry.allocated pool ∧
      (s.registry.addSlot pool slot entity).Agrees s'.registry
  | .topicless => result = none ∧ ∃ slot entity, slot ∉ s.registry.allocated pool ∧
      entity.topicOf = none ∧ (s.registry.addSlot pool slot entity).Agrees s'.registry
  | .topicLeaked => result = none ∧ ∃ topic entity, topic ∉ s.registry.allocated .topic ∧
      (s.registry.addSlot .topic topic entity).Agrees s'.registry
  | .bothLeaked => result = none ∧ ∃ topic topicEntity slot entity,
      topic ∉ s.registry.allocated .topic ∧ slot ∉ s.registry.allocated pool ∧
      ((s.registry.addSlot .topic topic topicEntity).addSlot pool slot entity).Agrees s'.registry
  | .created => ∃ handle slot entity, result = some handle ∧
      NewEntity s s' room pool node session handle slot entity ∧
      if pool.hasTopic then
        ∃ topic topicEntity, NewTopic s s' node session topic topicEntity ∧
          entity.topicOf = some topic ∧
          ((s.registry.addSlot .topic topic (.topic topicEntity)).addEntity pool handle slot
            entity).Agrees s'.registry
      else (s.registry.addEntity pool handle slot entity).Agrees s'.registry
  | .doubleReleased | .crashed | .unreturned => False

/-- A creation under way for which a topic was created. -/
structure Titled (s s' : Rmw) (pool : Pool) (node session handle slot topic : Nat)
    (topicEntity : Topic) (entity : Entity) : Prop where
  opening : Opening (s.registry.addSlot .topic topic (.topic topicEntity)) s'.registry pool handle
    slot entity
  topic : NewTopic s s' node session topic topicEntity
  free : slot ∉ s.registry.allocated pool
  advance : Advance s s'

namespace Titled

variable {last typed owned : Rmw} {room : Bool} {result : Option Nat}
variable {node session topic : Nat} {topicEntity : Topic}

/-- The topic is created between two writes to the slot. -/
theorem of_opening (opening : Opening s.registry typed.registry pool handle slot entity)
    (advance : Advance s typed) (notTopic : pool ≠ .topic)
    (free : topic ∉ typed.registry.allocated .topic) (owner : topicEntity.ownerNode = some node)
    (type : topicEntity.topicId.type = .topic) (later : Advance typed owned)
    (issued : Issued typed owned session topicEntity.topicId)
    (isRegistry : owned.registry =
      (typed.registry.addSlot .topic topic (.topic topicEntity)).fill pool slot entity') :
    Titled s owned pool node session handle slot topic topicEntity entity' where
  opening := by
    rw [isRegistry]
    exact (opening.addSlot notTopic).fill
  topic := by
    refine ⟨?_, owner, type, issued.before advance⟩
    have same : typed.registry.allocated .topic = s.registry.allocated .topic := by
      rw [opening.agrees.allocated]
      simp [Registry.addSlot, Function.update_of_ne notTopic.symm]
    rwa [same] at free
  free := opening.free
  advance := advance.trans later

/-- The slot and the handle are given back, and the topic stays. -/
theorem topicLeaked (titled : Titled s s' pool node session handle slot topic topicEntity entity)
    (isNull : result = none) (dropped : (s'.registry.dropEntity pool handle slot).Agrees
      last.registry) :
    Creation s last room pool node session result .topicLeaked :=
  ⟨isNull, topic, .topic topicEntity, titled.topic.free, titled.opening.dropped.trans dropped⟩

/-- Only the handle is given back. -/
theorem bothLeaked (titled : Titled s s' pool node session handle slot topic topicEntity entity)
    (isNull : result = none)
    (isRegistry : last.registry =
      (s'.registry.fill pool slot entity').setData pool handle none) :
    Creation s last room pool node session result .bothLeaked := by
  refine ⟨isNull, topic, .topic topicEntity, slot, entity', titled.topic.free, titled.free, ?_⟩
  rw [isRegistry]
  exact titled.opening.fill.abandoned

/-- The handle gets the slot of an entity that has all its objects. -/
theorem created (titled : Titled s s' pool node session handle slot topic topicEntity entity)
    (isRegistry : last.registry =
      (s'.registry.fill pool slot entity').setData pool handle (some (some slot)))
    (topics : pool.hasTopic = true) (advance : Advance s' last)
    (isHandle : entity'.rmwHandle = some handle) (isOwner : entity'.ownerNode = some node)
    (isTopic : entity'.topicOf = some topic) (typed : entity'.typed = true)
    (objects : entity'.objects.map ObjectId.type = pool.objectTypes)
    (issued : ∀ object ∈ entity'.objects, Issued s' last session object)
    (unrequested : entity'.dataRequest = none) :
    Creation s last room pool node session (some handle) .created := by
  refine ⟨handle, slot, entity', rfl, ⟨titled.free, titled.opening.fresh, isHandle, isOwner, typed,
    objects, fun object inside => (issued object inside).before titled.advance, ?_⟩, ?_⟩
  · intro number isNumber
    rw [unrequested] at isNumber
    cases isNumber
  · rw [if_pos topics]
    obtain ⟨free, owner, type, topicIssued⟩ := titled.topic
    refine ⟨topic, topicEntity, ⟨free, owner, type, topicIssued.after advance⟩, isTopic, ?_⟩
    rw [isRegistry]
    exact titled.opening.fill.completed

end Titled

/-- The text behind the three labels `fail`: `finiMemory` on their pool, and null. -/
def failOf (pool : Pool) (handle : Nat) (s : Rmw) : Exec (Option Nat × Rmw) := do
  let s ← finiMemory pool handle s
  .ok (none, s)

variable {node session : Nat} {room : Bool}

/-- The clean-up of an entity whose handle has no slot. -/
theorem fail_of_null (healthy : s.Healthy cfg admits)
    (null : s.registry.data pool handle = some none) :
    Yields (failOf pool handle s) fun result =>
      result.2.Healthy cfg admits ∧ Advance s result.2 ∧ result.1 = none ∧
        result.2.registry = s.registry.setData pool handle none := by
  refine (finiMemory_of_null healthy null).bind ?_
  rintro last ⟨lastHealthy, sessions, lastRegistry⟩
  exact yields_ok.mpr ⟨lastHealthy, .of_sessions sessions, rfl, lastRegistry⟩

/-- The clean-up of an entity whose handle has its slot. -/
theorem fail_of_bound (healthy : s.Healthy cfg admits) (handles : pool.hasHandle = true)
    (bound : s.registry.Bound pool handle slot) (inside : slot ∈ s.registry.allocated pool) :
    Yields (failOf pool handle s) fun result =>
      result.2.Healthy cfg admits ∧ Advance s result.2 ∧ result.1 = none ∧
        (s.registry.dropEntity pool handle slot).Agrees result.2.registry := by
  refine (finiMemory_of_bound healthy handles bound inside).bind ?_
  rintro last ⟨lastHealthy, sessions, agrees⟩
  exact yields_ok.mpr ⟨lastHealthy, .of_sessions sessions, rfl, agrees⟩

/-- The clean-up of an entity whose slot is released before, while its handle has none. -/
theorem fail_of_released {last : Rmw} (healthy : s.Healthy cfg admits)
    (lastHealthy : last.Healthy cfg admits) (advance : Advance s last)
    (lastRegistry : last.registry = s.registry.fill pool slot entity)
    (entities : pool ≠ .staticBuffer) (inside : slot ∈ s.registry.allocated pool)
    (null : s.registry.data pool handle = some none) :
    Yields (failOf pool handle (last.putMemory pool slot)) fun result =>
      result.2.Healthy cfg admits ∧ Advance s result.2 ∧ result.1 = none ∧
        (s.registry.dropEntity pool handle slot).Agrees result.2.registry := by
  have held : slot ∈ last.registry.allocated pool := by
    rw [lastRegistry]
    exact inside
  obtain ⟨putHealthy, putRegistry⟩ := lastHealthy.putMemory entities held
  have putNull : (last.putMemory pool slot).registry.data pool handle = some none := by
    rw [putRegistry, lastRegistry]
    exact null
  refine (fail_of_null putHealthy putNull).mono fun result cleaned => ?_
  obtain ⟨resultHealthy, resultAdvance, isNull, resultRegistry⟩ := cleaned
  have put : Advance last (last.putMemory pool slot) := .of_sessions rfl
  refine ⟨resultHealthy, (advance.trans put).trans resultAdvance, isNull, ?_⟩
  rw [resultRegistry, putRegistry, lastRegistry]
  exact .fill_released healthy.nodup

/-- The clean-up of an entity under construction whose handle has no slot: the slot is
left allocated. -/
theorem fail_abandons (healthy : s'.Healthy cfg admits) (advance : Advance s s')
    (opening : Opening s.registry s'.registry pool handle slot entity) :
    Yields (failOf pool handle s') fun result =>
      result.2.Healthy cfg admits ∧ Advance s result.2 ∧ result.1 = none ∧
        (s.registry.addSlot pool slot entity).Agrees result.2.registry := by
  refine (fail_of_null healthy opening.null).mono ?_
  rintro result ⟨resultHealthy, resultAdvance, isNull, resultRegistry⟩
  exact ⟨resultHealthy, advance.trans resultAdvance, isNull, resultRegistry ▸ opening.abandoned⟩

/-- The clean-up after an opening leaks the slot. -/
theorem fail_of_opening (healthy : s'.Healthy cfg admits) (advance : Advance s s')
    (opening : Opening s.registry s'.registry pool handle slot entity) :
    Yields (failOf pool handle s') fun result =>
      result.2.Healthy cfg admits ∧ Advance s result.2 ∧
        Creation s result.2 room pool node session result.1 .leaked :=
  (fail_abandons healthy advance opening).mono fun _ spec =>
    ⟨spec.1, spec.2.1, spec.2.2.1, slot, entity, opening.free, spec.2.2.2⟩

/-- The clean-up of a publisher or a subscription without its topic. -/
theorem fail_of_topicless (healthy : s'.Healthy cfg admits) (advance : Advance s s')
    (opening : Opening s.registry s'.registry pool handle slot entity)
    (noTopic : entity.topicOf = none) :
    Yields (failOf pool handle s') fun result =>
      result.2.Healthy cfg admits ∧ Advance s result.2 ∧
        Creation s result.2 room pool node session result.1 .topicless :=
  (fail_abandons healthy advance opening).mono fun _ spec =>
    ⟨spec.1, spec.2.1, spec.2.2.1, slot, entity, opening.free, noTopic, spec.2.2.2⟩

/-- The clean-up right after the handle was allocated. -/
theorem fail_of_allocated (healthy : s.Healthy cfg admits) {contents : RmwHandle}
    (notNode : pool ≠ .node)
    (named : isUxrceRmwIdentifierValid contents.implementationIdentifier = true)
    (null : contents.data = none) :
    Yields (failOf pool (s.handles pool).next (s.allocateHandle pool contents).2)
      fun result => result.2.Healthy cfg admits ∧ Advance s result.2 ∧
        Creation s result.2 room pool node session result.1 .refused := by
  have handleRegistry : (s.allocateHandle pool contents).2.registry =
      s.registry.setData pool (s.handles pool).next (some contents.data) :=
    registry_allocateHandle contents
  rw [null] at handleRegistry
  refine (fail_of_null (healthy.allocateHandle named fun isNode => absurd isNode notNode)
    (by rw [handleRegistry]; simp)).mono ?_
  rintro result ⟨resultHealthy, resultAdvance, isNull, resultRegistry⟩
  refine ⟨resultHealthy, resultAdvance, isNull, .of_eq ?_⟩
  rw [resultRegistry, handleRegistry, setData_setData, setData_of_eq healthy.next_free]

end RmwMicroxrcedds
