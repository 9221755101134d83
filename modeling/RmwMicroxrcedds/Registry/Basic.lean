import RmwMicroxrcedds.Model.Init

/-! # The registry

What the layer is for, seen from its callers: which items of each pool are in use, what
entity each of them holds, which handles exist and what each designates, and which
session a context has. The links of the pools, the input buffers and the counters are
forgotten. `Rmw.registry` reads it off a state, and the elementary accesses of the layer
become elementary operations on it.
-/

namespace RmwMicroxrcedds

/-- The handles of this pool's entities are given to callers. -/
def Pool.hasHandle : Pool → Bool
  | node | publisher | subscription | service | client => true
  | session | topic | staticBuffer => false

/-- The entities of this pool belong to a node. -/
def Pool.isLeaf : Pool → Bool
  | publisher | subscription | service | client => true
  | node | session | topic | staticBuffer => false

/-- The entities of this pool own a topic. -/
def Pool.hasTopic : Pool → Bool
  | publisher | subscription => true
  | node | service | client | session | topic | staticBuffer => false

/-- The entities of a node have handles. -/
theorem Pool.hasHandle_of_isLeaf {pool : Pool} (leaf : pool.isLeaf = true) :
    pool.hasHandle = true := by
  cases pool <;> first | rfl | cases leaf

/-- A pool with handles is none of those without. -/
theorem Pool.ne_of_hasHandle {pool pool' : Pool} (handles : pool.hasHandle = true)
    (without : pool'.hasHandle = false) : pool ≠ pool' := by
  intro same
  rw [same, without] at handles
  cases handles

/-- What has a topic is an entity of a node. -/
theorem Pool.isLeaf_of_hasTopic {pool : Pool} (topics : pool.hasTopic = true) :
    pool.isLeaf = true := by
  cases pool <;> first | rfl | cases topics

/-- The contents of a slot, whichever array it is in. -/
inductive Entity where
  | node (node : Node)
  | publisher (publisher : Publisher)
  | subscription (subscription : Subscription)
  | endpoint (endpoint : Endpoint)
  | topic (topic : Topic)
  | other

namespace Entity

def rmwHandle : Entity → Option Nat
  | node entity => entity.rmwHandle
  | publisher entity => entity.rmwHandle
  | subscription entity => entity.rmwHandle
  | endpoint entity => entity.rmwHandle
  | topic _ | other => none

def ownerNode : Entity → Option Nat
  | publisher entity => entity.ownerNode
  | subscription entity => entity.ownerNode
  | endpoint entity => entity.ownerNode
  | topic entity => entity.ownerNode
  | node _ | other => none

def context : Entity → Option Nat
  | node entity => entity.context
  | _ => none

/-- The topic of a publisher or a subscription. -/
def topicOf : Entity → Option Nat
  | publisher entity => entity.topic
  | subscription entity => entity.topic
  | _ => none

/-- The identifiers of the objects an entity has on the agent. -/
def objects : Entity → List ObjectId
  | node entity => [entity.participantId]
  | publisher entity => [entity.publisherId, entity.datawriterId]
  | subscription entity => [entity.subscriberId, entity.datareaderId]
  | endpoint entity => [entity.objectId]
  | topic entity => [entity.topicId]
  | other => []

/-- The data-request id of a service or a client. -/
def dataRequest : Entity → Option Nat
  | endpoint entity => some entity.dataRequest
  | _ => none

end Entity

/-- The type support of the entity has been looked up. -/
def Entity.typed : Entity → Bool
  | .publisher entity => entity.typeSupportCallbacks.isSome
  | .subscription entity => entity.typeSupportCallbacks.isSome
  | .endpoint entity => entity.typeSupportCallbacks.isSome
  | .node _ | .topic _ | .other => true

/-- The identifiers of the objects of `rmw_graph_init`. -/
@[ext] structure GraphObjects where
  participantId : ObjectId
  subscriberId : ObjectId
  topicId : ObjectId
  datareaderId : ObjectId

/-- The registry. `data pool handle` is `none` for a block that is not allocated, and
otherwise the member `data` of the handle. -/
@[ext] structure Registry where
  allocated : Pool → List Nat
  entity : Pool → Nat → Entity
  data : Pool → Nat → Option (Option Nat)
  impl : Nat → Option Nat
  graph : Nat → GraphObjects

namespace Registry

/-- The handle designates the slot. -/
def Bound (r : Registry) (pool : Pool) (handle slot : Nat) : Prop :=
  r.data pool handle = some (some slot)

instance (r : Registry) (pool : Pool) (handle slot : Nat) :
    Decidable (r.Bound pool handle slot) :=
  inferInstanceAs (Decidable (r.data pool handle = some (some slot)))

@[simps -fullyApplied allocated entity data impl graph]
def take (r : Registry) (pool : Pool) (slot : Nat) : Registry :=
  { r with allocated := Function.update r.allocated pool (slot :: r.allocated pool) }

@[simps -fullyApplied allocated entity data impl graph]
def release (r : Registry) (pool : Pool) (slot : Nat) : Registry :=
  { r with allocated := Function.update r.allocated pool ((r.allocated pool).erase slot) }

@[simps -fullyApplied allocated data impl graph]
def fill (r : Registry) (pool : Pool) (slot : Nat) (entity : Entity) : Registry :=
  { r with
    entity := Function.update r.entity pool (Function.update (r.entity pool) slot entity) }

/-- A block is allocated, changed or freed. -/
@[simps -fullyApplied allocated entity impl graph]
def setData (r : Registry) (pool : Pool) (handle : Nat) (data : Option (Option Nat)) : Registry :=
  { r with data := Function.update r.data pool (Function.update (r.data pool) handle data) }

@[simps -fullyApplied allocated entity data impl graph]
def attach (r : Registry) (context : Nat) (impl : Option Nat) : Registry :=
  { r with impl := Function.update r.impl context impl }

@[simps -fullyApplied allocated entity data impl graph]
def setGraph (r : Registry) (session : Nat) (objects : GraphObjects) : Registry :=
  { r with graph := Function.update r.graph session objects }

section projections

variable (r : Registry) (pool pool' : Pool) (slot slot' handle handle' : Nat)
variable (entity : Entity) (data : Option (Option Nat))

/-- Filling a slot changes that slot only. -/
theorem fill_entity_apply : (r.fill pool slot entity).entity pool' slot' =
    if pool' = pool ∧ slot' = slot then entity else r.entity pool' slot' := by
  by_cases samePool : pool' = pool
  · subst samePool
    by_cases sameSlot : slot' = slot <;> simp [fill, sameSlot]
  · simp [fill, samePool]

@[simp] theorem fill_entity_self : (r.fill pool slot entity).entity pool slot = entity := by
  simp [fill]

/-- Writing a handle changes that handle only. -/
theorem setData_data_apply : (r.setData pool handle data).data pool' handle' =
    if pool' = pool ∧ handle' = handle then data else r.data pool' handle' := by
  by_cases samePool : pool' = pool
  · subst samePool
    by_cases sameHandle : handle' = handle <;> simp [setData, sameHandle]
  · simp [setData, samePool]

@[simp] theorem setData_data_self : (r.setData pool handle data).data pool handle = data := by
  simp [setData]

@[simp] theorem fill_fill (entity' : Entity) :
    (r.fill pool slot entity).fill pool slot entity' = r.fill pool slot entity' := by
  simp [fill]

/-- A slot that was taken last may be given back. -/
@[simp] theorem take_release : (r.take pool slot).release pool slot = r := by
  simp [take, release]

@[simp] theorem setData_setData (data' : Option (Option Nat)) :
    (r.setData pool handle data).setData pool handle data' = r.setData pool handle data' := by
  simp [setData]

end projections

end Registry

/-- The slot of an array, as an entity. -/
def Rmw.entity (s : Rmw) : Pool → Nat → Entity
  | .node, slot => .node (s.customNodes slot)
  | .publisher, slot => .publisher (s.customPublishers slot)
  | .subscription, slot => .subscription (s.customSubscriptions slot)
  | .service, slot => .endpoint (s.customServices slot)
  | .client, slot => .endpoint (s.customClients slot)
  | .topic, slot => .topic (s.customTopics slot)
  | .session, _ | .staticBuffer, _ => .other

def GraphInfo.objects (graph : GraphInfo) : GraphObjects :=
  ⟨graph.participantId, graph.subscriberId, graph.topicId, graph.datareaderId⟩

/-- The registry of a state. The pool of input buffers is not part of it. -/
def Rmw.registry (s : Rmw) : Registry where
  allocated := fun pool => if pool = .staticBuffer then [] else s.allocated pool
  entity := s.entity
  data := fun pool handle => ((s.handles pool).block handle).map RmwHandle.data
  impl := fun context => (s.contexts context).impl
  graph := fun session => (s.graphInfo session).objects

end RmwMicroxrcedds
