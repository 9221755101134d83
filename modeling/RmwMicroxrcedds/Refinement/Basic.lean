import RmwMicroxrcedds.Library.Outcome
import RmwMicroxrcedds.Memory.Integrity
import RmwMicroxrcedds.Registry.Sound

/-! # States that refine a registry

`Rmw.Healthy` is the part of the invariant the registry does not see: the pools are well
formed, the handles carry the name of this implementation, and every pending message is
for an owner the parameter `admits` allows. For each elementary access of the layer this
module says what it does to the registry and that it keeps the state healthy.
-/

namespace RmwMicroxrcedds

open Outcome Mempool

/-- The size of a pool once it is initialised. -/
def Config.poolSize (cfg : Config) : Pool → Nat
  | .session => cfg.maxSessions
  | .node => cfg.maxNodes
  | .publisher => cfg.publisherPoolSize
  | .subscription => cfg.maxSubscriptions
  | .service => cfg.maxServices
  | .client => cfg.maxClients
  | .topic => cfg.topicPoolSize
  | .staticBuffer => cfg.maxHistory

/-- The union of an input buffer holds what a take by this kind of owner reads. -/
def Tagged (pool : Pool) (related : Related) : Prop :=
  match pool, related with
  | .service, .sampleId _ => True
  | .service, .replyId _ => False
  | .client, .replyId _ => True
  | .client, .sampleId _ => False
  | _, _ => True

/-- The pools `rmw_init` initialises once it has a session. -/
def Pool.isEntity : Pool → Bool
  | .node | .publisher | .subscription | .service | .client | .topic => true
  | .session | .staticBuffer => false

/-- What is asked of the states of a run: who may own a pending message, with the origin it
has, and which pools are initialised. -/
structure Admission where
  message : EntityPtr → Provenance → Prop
  ready : Pool → Prop := fun _ => False

/-- Every message the first allows, the second allows. -/
def Admission.Within (admits admits' : Admission) : Prop :=
  ∀ owner provenance, admits.message owner provenance → admits'.message owner provenance

/-- A context names this implementation, or has neither a name nor a session. -/
def RmwContext.Identified (context : RmwContext) : Prop :=
  context.implementationIdentifier = some eprosimaMicroxrceddsIdentifier ∨
    context.implementationIdentifier = none ∧ context.impl = none

/-- A context with a session carries the identifier of the layer. -/
theorem RmwContext.Identified.of_impl {context : RmwContext} (identified : context.Identified)
    (isImpl : context.impl.isSome = true) :
    context.implementationIdentifier = some eprosimaMicroxrceddsIdentifier := by
  rcases identified with named | ⟨-, detached⟩
  · exact named
  · rw [detached] at isImpl
    cases isImpl

/-- The parts of a state that health depends on. -/
structure Health (cfg : Config) (admits : Admission) (memory : Pool → Mempool)
    (handles : Pool → HandleHeap) (buffers : Nat → StaticInputBuffer)
    (contexts : Nat → RmwContext) : Prop where
  wf : ∀ pool, (memory pool).Wf
  sized : ∀ pool, memory pool = {} ∨
    (memory pool).isInitialized = true ∧ (memory pool).size = cfg.poolSize pool
  together : ∀ pool pool', pool.isEntity = true → pool'.isEntity = true →
    (memory pool).isInitialized = true → 0 < cfg.poolSize pool' →
    (memory pool').isInitialized = true
  named : ∀ pool handle contents, (handles pool).block handle = some contents →
    isUxrceRmwIdentifierValid contents.implementationIdentifier = true
  fresh : ∀ pool handle, (handles pool).next ≤ handle → (handles pool).block handle = none
  spaced : ∀ handle contents, (handles .node).block handle = some contents →
    contents.namespace_ ≠ none
  pending : ∀ item ∈ (memory .staticBuffer).allocated, ∃ owner,
    (buffers item).owner = some owner ∧ Tagged owner.pool (buffers item).related ∧
      admits.message owner (buffers item).provenance
  ready : ∀ pool, admits.ready pool → (memory pool).isInitialized = true
  identified : ∀ context, (contexts context).Identified

/-- A healthy state. -/
def Rmw.Healthy (cfg : Config) (admits : Admission) (s : Rmw) : Prop :=
  Health cfg admits s.memory s.handles s.customStaticBuffers s.contexts

variable {cfg : Config} {admits : Admission} {s : Rmw}
variable {pool : Pool} {item slot handle session : Nat} {rest : List Nat}

/-- A healthy state is healthy under another admission that allows its pending messages. -/
theorem Rmw.Healthy.readmit {admits' : Admission} (healthy : s.Healthy cfg admits)
    (allowed : ∀ item ∈ s.allocated .staticBuffer, ∀ owner,
      (s.customStaticBuffers item).owner = some owner →
      admits.message owner (s.customStaticBuffers item).provenance →
      admits'.message owner (s.customStaticBuffers item).provenance)
    (ready : ∀ pool, admits'.ready pool → (s.memory pool).isInitialized = true) :
    s.Healthy cfg admits' :=
  { healthy with
    pending := fun item inside => by
      obtain ⟨owner, isOwner, tagged, admitted⟩ := healthy.pending item inside
      exact ⟨owner, isOwner, tagged, allowed item inside owner isOwner admitted⟩
    ready := ready }

section elementary

variable (change : Session → Session) (changeNode : Node → Node)
variable (changePublisher : Publisher → Publisher)
variable (changeSubscription : Subscription → Subscription) (changeEndpoint : Endpoint → Endpoint)
variable (changeTopic : Topic → Topic) (changeContext : RmwContext → RmwContext)
variable (changeGraph : GraphInfo → GraphInfo)

@[simp] theorem healthy_modifySession :
    (s.modifySession session change).Healthy cfg admits ↔ s.Healthy cfg admits := Iff.rfl
@[simp] theorem healthy_modifyNode :
    (s.modifyNode slot changeNode).Healthy cfg admits ↔ s.Healthy cfg admits := Iff.rfl
@[simp] theorem healthy_modifyPublisher :
    (s.modifyPublisher slot changePublisher).Healthy cfg admits ↔ s.Healthy cfg admits := Iff.rfl
@[simp] theorem healthy_modifySubscription :
    (s.modifySubscription slot changeSubscription).Healthy cfg admits ↔
      s.Healthy cfg admits := Iff.rfl
@[simp] theorem healthy_modifyTopic :
    (s.modifyTopic slot changeTopic).Healthy cfg admits ↔ s.Healthy cfg admits := Iff.rfl
@[simp] theorem healthy_modifyGraphInfo :
    (s.modifyGraphInfo slot changeGraph).Healthy cfg admits ↔ s.Healthy cfg admits := Iff.rfl
@[simp] theorem healthy_modifyEndpoint (kind : EndpointKind) :
    (s.modifyEndpoint kind slot changeEndpoint).Healthy cfg admits ↔ s.Healthy cfg admits := by
  cases kind <;> exact Iff.rfl

@[simp] theorem registry_modifySession :
    (s.modifySession session change).registry = s.registry := rfl

/-- A write to one array is a write to one slot of the registry. -/
private theorem registry_fill {next : Rmw} {entity : Entity}
    (memory : next.memory = s.memory) (handles : next.handles = s.handles)
    (contexts : next.contexts = s.contexts) (graph : next.graphInfo = s.graphInfo)
    (entities : ∀ pool' slot', next.entity pool' slot' =
      if pool' = pool ∧ slot' = slot then entity else s.entity pool' slot') :
    next.registry = s.registry.fill pool slot entity := by
  ext1
  · simp only [Rmw.registry, Rmw.allocated, memory, Registry.fill_allocated]
  · funext pool' slot'
    rw [Registry.fill_entity_apply]
    exact entities pool' slot'
  · simp only [Rmw.registry, handles, Registry.fill_data]
  · simp only [Rmw.registry, contexts, Registry.fill_impl]
  · simp only [Rmw.registry, graph, Registry.fill_graph]

/-- Changing a node fills its slot. -/
@[simp] theorem registry_modifyNode : (s.modifyNode slot changeNode).registry =
    s.registry.fill .node slot (.node (changeNode (s.customNodes slot))) :=
  registry_fill rfl rfl rfl rfl fun pool' slot' => by
    cases pool' <;> by_cases same : slot' = slot <;> simp [Rmw.entity, Rmw.modifyNode, same]

/-- Changing a publisher fills its slot. -/
@[simp] theorem registry_modifyPublisher : (s.modifyPublisher slot changePublisher).registry =
    s.registry.fill .publisher slot (.publisher (changePublisher (s.customPublishers slot))) :=
  registry_fill rfl rfl rfl rfl fun pool' slot' => by
    cases pool' <;> by_cases same : slot' = slot <;> simp [Rmw.entity, Rmw.modifyPublisher, same]

/-- Changing a subscription fills its slot. -/
@[simp] theorem registry_modifySubscription :
    (s.modifySubscription slot changeSubscription).registry =
      s.registry.fill .subscription slot
        (.subscription (changeSubscription (s.customSubscriptions slot))) :=
  registry_fill rfl rfl rfl rfl fun pool' slot' => by
    cases pool' <;> by_cases same : slot' = slot <;> simp [Rmw.entity, Rmw.modifySubscription, same]

/-- Changing a service or a client fills its slot. -/
@[simp] theorem registry_modifyEndpoint (kind : EndpointKind) :
    (s.modifyEndpoint kind slot changeEndpoint).registry =
      s.registry.fill kind.pool slot (.endpoint (changeEndpoint (s.customEndpoint kind slot))) := by
  cases kind <;> refine registry_fill rfl rfl rfl rfl fun pool' slot' => ?_ <;>
    cases pool' <;> by_cases same : slot' = slot <;>
    simp [Rmw.entity, Rmw.modifyEndpoint, EndpointKind.pool, Rmw.customEndpoint, same]

/-- Changing a topic fills its slot. -/
@[simp] theorem registry_modifyTopic : (s.modifyTopic slot changeTopic).registry =
    s.registry.fill .topic slot (.topic (changeTopic (s.customTopics slot))) :=
  registry_fill rfl rfl rfl rfl fun pool' slot' => by
    cases pool' <;> by_cases same : slot' = slot <;> simp [Rmw.entity, Rmw.modifyTopic, same]

/-- Changing a context attaches what it points to. -/
@[simp] theorem registry_modifyContext : (s.modifyContext slot changeContext).registry =
    s.registry.attach slot (changeContext (s.contexts slot)).impl := by
  ext1 <;> try rfl
  funext context
  by_cases same : context = slot <;> simp [Rmw.registry, Rmw.modifyContext, same]

/-- Changing the graph of a session sets its objects. -/
@[simp] theorem registry_modifyGraphInfo : (s.modifyGraphInfo slot changeGraph).registry =
    s.registry.setGraph slot (changeGraph (s.graphInfo slot)).objects := by
  ext1 <;> try rfl
  funext context
  by_cases same : context = slot <;> simp [Rmw.registry, Rmw.modifyGraphInfo, same]

/-- Writing a request leaves the layer healthy. -/
@[simp] theorem healthy_uxrBuffer (request : XrceRequest) (room : Bool) :
    (s.uxrBuffer session request room).2.Healthy cfg admits ↔ s.Healthy cfg admits := by
  cases room <;> exact Iff.rfl

/-- Writing a request leaves the registry as it is. -/
@[simp] theorem registry_uxrBuffer (request : XrceRequest) (room : Bool) :
    (s.uxrBuffer session request room).2.registry = s.registry := by
  cases room <;> rfl

@[simp] theorem healthy_uxrObjectId (type : ObjectType) :
    (s.uxrObjectId session type).2.Healthy cfg admits ↔ s.Healthy cfg admits := Iff.rfl

@[simp] theorem registry_uxrObjectId (type : ObjectType) :
    (s.uxrObjectId session type).2.registry = s.registry := rfl

end elementary

/-- The block `rmw_allocate` returns was not in use. -/
theorem Rmw.Healthy.next_free (healthy : s.Healthy cfg admits) :
    s.registry.data pool (s.handles pool).next = none := by
  simp [Rmw.registry, healthy.fresh pool _ (Nat.le_refl _)]

private theorem registry_setData {next : Rmw} {contents : Option RmwHandle}
    (memory : next.memory = s.memory) (entity : next.entity = s.entity)
    (contexts : next.contexts = s.contexts) (graph : next.graphInfo = s.graphInfo)
    (blocks : ∀ pool', (next.handles pool').block = if pool' = pool then
      Function.update (s.handles pool).block handle contents else (s.handles pool').block) :
    next.registry = s.registry.setData pool handle (contents.map RmwHandle.data) := by
  ext1
  · simp only [Rmw.registry, Rmw.allocated, memory, Registry.setData_allocated]
  · exact entity
  · funext pool' handle'
    rw [Registry.setData_data_apply]
    simp only [Rmw.registry, blocks]
    by_cases same : pool' = pool
    · subst same
      by_cases same' : handle' = handle <;> simp [same']
    · simp [same]
  · simp only [Rmw.registry, contexts, Registry.setData_impl]
  · simp only [Rmw.registry, graph, Registry.setData_graph]

/-- A new handle is entered with its entity. -/
theorem registry_allocateHandle (contents : RmwHandle) :
    (s.allocateHandle pool contents).2.registry =
      s.registry.setData pool (s.handles pool).next (some contents.data) := by
  have stores : (s.allocateHandle pool contents).2.registry =
      s.registry.setData pool (s.handles pool).next ((some contents).map RmwHandle.data) := by
    refine registry_setData rfl rfl rfl rfl fun pool' => ?_
    by_cases same : pool' = pool
    · subst same
      simp [Rmw.allocateHandle]
    · simp [Rmw.allocateHandle, same]
  exact stores

/-- Storing a handle enters its entity, and freeing it takes it out. -/
theorem registry_storeHandle (contents : Option RmwHandle) :
    (s.storeHandle pool handle contents).registry =
      s.registry.setData pool handle (contents.map RmwHandle.data) := by
  refine registry_setData rfl rfl rfl rfl fun pool' => ?_
  by_cases same : pool' = pool
  · subst same
    simp [Rmw.storeHandle]
  · simp [Rmw.storeHandle, same]

/-- A context may change as long as it stays identified. -/
theorem Rmw.Healthy.modifyContext (healthy : s.Healthy cfg admits) {context : Nat}
    (change : RmwContext → RmwContext) (identified : (change (s.contexts context)).Identified) :
    (s.modifyContext context change).Healthy cfg admits :=
  { healthy with
    identified := fun other => by
      by_cases same : other = context
      · subst same
        simp only [Rmw.modifyContext, Function.update_self]
        exact identified
      · simp only [Rmw.modifyContext, Function.update_of_ne same]
        exact healthy.identified other }

/-- A handle of this implementation may be allocated. -/
theorem Rmw.Healthy.allocateHandle (healthy : s.Healthy cfg admits) {contents : RmwHandle}
    (named : isUxrceRmwIdentifierValid contents.implementationIdentifier = true)
    (spaced : pool = .node → contents.namespace_ ≠ none) :
    (s.allocateHandle pool contents).2.Healthy cfg admits where
  wf := healthy.wf
  sized := healthy.sized
  together := healthy.together
  named := fun pool' handle contents' isBlock => by
    by_cases same : pool' = pool
    · subst same
      simp only [Rmw.allocateHandle, Function.update_self, Function.update_apply] at isBlock
      split at isBlock
      · exact Option.some.inj isBlock ▸ named
      · exact healthy.named pool' _ _ isBlock
    · simp only [Rmw.allocateHandle, Function.update_of_ne same] at isBlock
      exact healthy.named pool' _ _ isBlock
  fresh := fun pool' handle above => by
    by_cases same : pool' = pool
    · subst same
      simp only [Rmw.allocateHandle, Function.update_self] at above ⊢
      rw [Function.update_of_ne (by omega)]
      exact healthy.fresh pool' _ (by omega)
    · simp only [Rmw.allocateHandle, Function.update_of_ne same] at above ⊢
      exact healthy.fresh pool' _ above
  spaced := fun handle contents' isBlock => by
    by_cases same : pool = .node
    · subst same
      simp only [Rmw.allocateHandle, Function.update_self, Function.update_apply] at isBlock
      split at isBlock
      · exact Option.some.inj isBlock ▸ spaced rfl
      · exact healthy.spaced _ _ isBlock
    · simp only [Rmw.allocateHandle, Function.update_of_ne (Ne.symm same)] at isBlock
      exact healthy.spaced _ _ isBlock
  pending := healthy.pending
  ready := healthy.ready
  identified := healthy.identified

/-- An allocated handle may get a new `data`. -/
theorem Rmw.Healthy.storeHandle_data (healthy : s.Healthy cfg admits) {contents : RmwHandle}
    (isBlock : (s.handles pool).block handle = some contents) (data : Option Nat) :
    (s.storeHandle pool handle (some { contents with data := data })).Healthy cfg admits where
  wf := healthy.wf
  sized := healthy.sized
  together := healthy.together
  named := fun pool' handle' contents' isBlock' => by
    by_cases same : pool' = pool
    · subst same
      simp only [Rmw.storeHandle, Function.update_self, Function.update_apply] at isBlock'
      split at isBlock'
      · exact Option.some.inj isBlock' ▸ healthy.named _ _ contents isBlock
      · exact healthy.named pool' _ _ isBlock'
    · simp only [Rmw.storeHandle, Function.update_of_ne same] at isBlock'
      exact healthy.named pool' _ _ isBlock'
  fresh := fun pool' handle' above => by
    by_cases same : pool' = pool
    · subst same
      simp only [Rmw.storeHandle, Function.update_self] at above ⊢
      have old := healthy.fresh pool' _ above
      rw [Function.update_of_ne]
      · exact old
      · rintro rfl
        rw [isBlock] at old
        cases old
    · simp only [Rmw.storeHandle, Function.update_of_ne same] at above ⊢
      exact healthy.fresh pool' _ above
  spaced := fun handle' contents' isBlock' => by
    by_cases same : pool = .node
    · subst same
      simp only [Rmw.storeHandle, Function.update_self, Function.update_apply] at isBlock'
      split at isBlock'
      · exact Option.some.inj isBlock' ▸ healthy.spaced _ contents isBlock
      · exact healthy.spaced _ _ isBlock'
    · simp only [Rmw.storeHandle, Function.update_of_ne (Ne.symm same)] at isBlock'
      exact healthy.spaced _ _ isBlock'
  pending := healthy.pending
  ready := healthy.ready
  identified := healthy.identified

/-- A handle may be freed. -/
theorem Rmw.Healthy.storeHandle_none (healthy : s.Healthy cfg admits) :
    (s.storeHandle pool handle none).Healthy cfg admits where
  wf := healthy.wf
  sized := healthy.sized
  together := healthy.together
  named := fun pool' handle' contents' isBlock' => by
    by_cases same : pool' = pool
    · subst same
      simp only [Rmw.storeHandle, Function.update_self, Function.update_apply] at isBlock'
      split at isBlock'
      · cases isBlock'
      · exact healthy.named pool' _ _ isBlock'
    · simp only [Rmw.storeHandle, Function.update_of_ne same] at isBlock'
      exact healthy.named pool' _ _ isBlock'
  fresh := fun pool' handle' above => by
    by_cases same : pool' = pool
    · subst same
      simp only [Rmw.storeHandle, Function.update_self, Function.update_apply] at above ⊢
      split
      · rfl
      · exact healthy.fresh pool' _ above
    · simp only [Rmw.storeHandle, Function.update_of_ne same] at above ⊢
      exact healthy.fresh pool' _ above
  spaced := fun handle' contents' isBlock' => by
    by_cases same : pool = .node
    · subst same
      simp only [Rmw.storeHandle, Function.update_self, Function.update_apply] at isBlock'
      split at isBlock'
      · cases isBlock'
      · exact healthy.spaced _ _ isBlock'
    · simp only [Rmw.storeHandle, Function.update_of_ne (Ne.symm same)] at isBlock'
      exact healthy.spaced _ _ isBlock'
  pending := healthy.pending
  ready := healthy.ready
  identified := healthy.identified

/-- What the registry says about a handle is what the heap holds. -/
theorem Rmw.Healthy.block_of_data (healthy : s.Healthy cfg admits) {data : Option Nat}
    (isData : s.registry.data pool handle = some data) :
    ∃ contents, (s.handles pool).block handle = some contents ∧ contents.data = data ∧
      s.readHandle pool handle = .ok contents ∧
      isUxrceRmwIdentifierValid contents.implementationIdentifier = true := by
  simp only [Rmw.registry, Option.map_eq_some_iff] at isData
  obtain ⟨contents, isBlock, rfl⟩ := isData
  exact ⟨contents, isBlock, rfl, by simp [Rmw.readHandle, isBlock],
    healthy.named _ _ _ isBlock⟩

/-- The state with another pool. -/
def Rmw.withMemory (s : Rmw) (pool : Pool) (mem : Mempool) : Rmw :=
  { s with memory := Function.update s.memory pool mem }

/-- Changing the memory of a pool changes its allocated slots. -/
theorem Rmw.withMemory_registry {mem : Mempool} {items : List Nat} (entities : pool ≠ .staticBuffer)
    (allocated : mem.allocated = items) :
    (s.withMemory pool mem).registry =
      { s.registry with allocated := Function.update s.registry.allocated pool items } := by
  ext1 <;> try rfl
  funext pool'
  by_cases same : pool' = pool
  · subst same
    simp [Rmw.registry, Rmw.withMemory, Rmw.allocated, entities, allocated]
  · simp [Rmw.registry, Rmw.withMemory, Rmw.allocated, same]

/-- The registry knows the allocated items of every pool but that of the input buffers. -/
theorem Rmw.registry_allocated (entities : pool ≠ .staticBuffer) :
    s.registry.allocated pool = s.allocated pool := by
  simp [Rmw.registry, entities]

/-- A pool may be replaced by one that is as well formed. -/
theorem Rmw.Healthy.withMemory (healthy : s.Healthy cfg admits) {next : Mempool}
    {free allocated : List Nat} (moves : (s.memory pool).Moves next free allocated)
    (positive : 0 < (s.memory pool).size) (entities : pool ≠ .staticBuffer) :
    (s.withMemory pool next).Healthy cfg admits where
  wf := fun pool' => by
    by_cases same : pool' = pool
    · subst same
      simpa [Rmw.withMemory] using moves.wf
    · simpa [Rmw.withMemory, same] using healthy.wf pool'
  sized := fun pool' => by
    by_cases same : pool' = pool
    · subst same
      simp only [Rmw.withMemory, Function.update_self]
      rcases healthy.sized pool' with zeroed | sized
      · rw [zeroed] at positive
        exact absurd positive (Nat.lt_irrefl _)
      · exact Or.inr ⟨moves.isInitialized.trans sized.1, moves.size.trans sized.2⟩
    · simpa [Rmw.withMemory, same] using healthy.sized pool'
  together := fun first second isEntity isEntity' => by
    have same : ∀ pool', ((s.withMemory pool next).memory pool').isInitialized =
        (s.memory pool').isInitialized := by
      intro pool'
      by_cases same : pool' = pool
      · subst same
        simpa [Rmw.withMemory] using moves.isInitialized
      · simp [Rmw.withMemory, same]
    rw [same, same]
    exact healthy.together first second isEntity isEntity'
  named := healthy.named
  fresh := healthy.fresh
  spaced := healthy.spaced
  pending := by
    simp only [Rmw.withMemory, Function.update_of_ne (Ne.symm entities)]
    exact healthy.pending
  ready := fun pool' isReady => by
    by_cases same : pool' = pool
    · subst same
      simpa [Rmw.withMemory, moves.isInitialized] using healthy.ready pool' isReady
    · simpa [Rmw.withMemory, same] using healthy.ready pool' isReady
  identified := healthy.identified

/-- With no free item `get_memory` returns null. -/
theorem Rmw.Healthy.getMemory_of_free_nil (healthy : s.Healthy cfg admits)
    (empty : s.free pool = []) : s.getMemory pool = (none, s) := by
  have none := Mempool.getMemory_of_free_nil (healthy.wf pool) empty
  simp only [Rmw.getMemory, none, Function.update_eq_self]

/-- `get_memory` takes the first free slot. -/
theorem Rmw.Healthy.getMemory_of_free_cons (healthy : s.Healthy cfg admits)
    (entities : pool ≠ .staticBuffer) (first : s.free pool = item :: rest) :
    ∃ next, s.getMemory pool = (some item, s.withMemory pool next) ∧
      (s.withMemory pool next).Healthy cfg admits ∧
      (s.withMemory pool next).registry = s.registry.take pool item := by
  obtain ⟨next, taken, moves⟩ := Mempool.getMemory_of_free_cons (healthy.wf pool) first
  have positive : 0 < (s.memory pool).size := by
    have below := (moves.represents.cover item).mp (by simp)
    rw [moves.size] at below
    omega
  refine ⟨next, ?_, healthy.withMemory moves positive entities, ?_⟩
  · simp only [Rmw.getMemory, taken]
    rfl
  · rw [Rmw.withMemory_registry entities moves.allocated_eq]
    simp [Registry.take, Rmw.registry_allocated entities, Rmw.allocated]

/-- The first free item is not allocated. -/
theorem Rmw.Healthy.not_mem_of_free (healthy : s.Healthy cfg admits)
    (entities : pool ≠ .staticBuffer) (first : s.free pool = item :: rest) :
    item ∉ s.registry.allocated pool := by
  rw [Rmw.registry_allocated entities]
  exact (healthy.wf pool).disjoint (by
    have inFree : item ∈ s.free pool := by simp [first]
    exact inFree)

/-- `put_memory` on an allocated slot releases it. -/
theorem Rmw.Healthy.putMemory (healthy : s.Healthy cfg admits) (entities : pool ≠ .staticBuffer)
    (inside : item ∈ s.registry.allocated pool) :
    (s.putMemory pool item).Healthy cfg admits ∧
      (s.putMemory pool item).registry = s.registry.release pool item := by
  rw [Rmw.registry_allocated entities] at inside
  have moves := Mempool.putMemory_of_allocated (healthy.wf pool) inside
  have positive : 0 < (s.memory pool).size :=
    Nat.lt_of_le_of_lt (Nat.zero_le _) ((healthy.wf pool).lt_of_mem inside)
  refine ⟨healthy.withMemory moves positive entities, ?_⟩
  refine (Rmw.withMemory_registry entities moves.allocated_eq).trans ?_
  simp [Registry.release, Rmw.registry_allocated entities, Rmw.allocated]

/-- No slot is allocated twice. -/
theorem Rmw.Healthy.nodup (healthy : s.Healthy cfg admits) :
    (s.registry.allocated pool).Nodup := by
  simp only [Rmw.registry]
  split
  · exact List.nodup_nil
  · exact (List.nodup_append.mp (healthy.wf pool).nodup).2.1

/-- The `data` of an allocated item is its slot. -/
theorem Rmw.Healthy.dataOf (healthy : s.Healthy cfg admits) (inside : item ∈ s.allocated pool) :
    s.dataOf pool item = .ok item := by
  simp [Rmw.dataOf, (healthy.wf pool).data_eq inside, deref]

/-- An allocated item leads to its entity. -/
theorem Rmw.Healthy.dataOf_registry (healthy : s.Healthy cfg admits)
    (inside : item ∈ s.registry.allocated pool) : s.dataOf pool item = .ok item := by
  refine healthy.dataOf ?_
  simp only [Rmw.registry] at inside
  split at inside
  · cases inside
  · exact inside

private theorem findItem_eq {mem : Mempool} {test : Nat → Bool} {items : List Nat}
    {head : Option Nat}
    {prev : Option Nat} (segment : IntrusiveList.Segment mem.links prev head items)
    (data : ∀ item ∈ items, mem.data item = some item) :
    ∀ {fuel : Nat}, items.length ≤ fuel → findItem mem test fuel head = .ok (items.find? test) := by
  induction items generalizing head prev with
  | nil =>
      intro fuel _
      rw [segment.head_eq]
      cases fuel <;> rfl
  | cons item items ih =>
      intro fuel enough
      obtain ⟨rfl, _, after⟩ := IntrusiveList.segment_cons.mp segment
      cases fuel with
      | zero => cases enough
      | succ fuel =>
          have isData := data item List.mem_cons_self
          have tail := ih after (fun item inside => data item (List.mem_cons_of_mem _ inside))
            (Nat.le_of_succ_le_succ enough)
          simp only [findItem, isData, deref, List.find?_cons, tail, ok_bind]
          cases test item <;> rfl

/-- A search of a well-formed pool ends, with the first allocated item that passes. -/
theorem Rmw.Healthy.findAllocated (healthy : s.Healthy cfg admits) (test : Nat → Bool) :
    s.findAllocated pool test = .ok ((s.allocated pool).find? test) := by
  have wf := healthy.wf pool
  refine findItem_eq wf.allocated_segment (fun item inside => wf.data_eq inside) ?_
  have total := wf.length_add
  omega

end RmwMicroxrcedds
