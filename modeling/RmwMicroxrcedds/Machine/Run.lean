import RmwMicroxrcedds.Machine.Step

/-! # Runs from the zeroed layer

The invariant every safe run keeps: the state is healthy and its registry sound.
-/

namespace RmwMicroxrcedds

open Outcome Registry

variable {cfg : Config} {admits : Admission} {w : World} {allowed : World → Op → Prop}
variable {pool : Pool} {room : Bool}

/-- The layer starts healthy. -/
theorem healthy_start (unready : ∀ pool, ¬ admits.ready pool) :
    ({} : Rmw).Healthy cfg admits where
  wf := fun _ => Mempool.wf_default
  sized := fun _ => Or.inl rfl
  together := fun _ _ _ _ initialized _ => by cases initialized
  named := fun _ _ _ isBlock => by cases isBlock
  fresh := fun _ _ _ => rfl
  spaced := fun _ _ isBlock => by cases isBlock
  pending := fun _ inside => by cases inside
  ready := fun pool isReady => absurd isReady (unready pool)
  identified := fun _ => Or.inr ⟨rfl, rfl⟩

/-- The registry starts sound. -/
theorem sound_start : ({} : Rmw).registry.Sound :=
  sound_of_empty (fun _ _ => rfl) fun _ => rfl

/-- At the start no slot is taken. -/
theorem allocated_start : ({} : Rmw).registry.allocated pool = [] := by
  cases pool <;> rfl

/-- A run whose steps are safe stays healthy and sound. -/
theorem reachable_sound (reachable : Reachable (layer cfg) allowed w)
    (safe : ∀ w op, allowed w op → Safe cfg w op) :
    w.rmw.Healthy cfg everyone ∧ w.rmw.registry.Sound :=
  reachable.invariant (fun w => w.rmw.Healthy cfg everyone ∧ w.rmw.registry.Sound)
    ⟨healthy_start fun _ => id, sound_start⟩ fun _ _ invariant enabled meets =>
      (exec_spec invariant.1 invariant.2 enabled.1 enabled.2 (safe _ _ meets)).mono
        fun _ steps => ⟨steps.1, steps.2.1⟩

namespace Registry

/-- Every allocated slot of the chosen pools is designated by a handle. -/
def Tight (chosen : Pool → Prop) (r : Registry) : Prop :=
  ∀ pool slot, chosen pool → pool.hasHandle = true → slot ∈ r.allocated pool →
    ∃ handle, r.Bound pool handle slot

variable {r r' : Registry} {chosen : Pool → Prop} {handle slot : Nat}

/-- A slot and its handle are added to a tight registry. -/
theorem Tight.addEntity {entity : Entity} (tight : r.Tight chosen)
    (fresh : r.data pool handle = none) : (r.addEntity pool handle slot entity).Tight chosen := by
  intro pool' slot' isChosen handles inside
  by_cases here : pool' = pool ∧ slot' = slot
  · obtain ⟨rfl, rfl⟩ := here
    exact ⟨handle, by simp [Bound, Registry.addEntity]⟩
  · have old : slot' ∈ r.allocated pool' := by
      by_cases same : pool' = pool
      · subst same
        have different : slot' ≠ slot := fun same => here ⟨rfl, same⟩
        simpa [Registry.addEntity, addSlot, different] using inside
      · simpa [Registry.addEntity, addSlot, same] using inside
    obtain ⟨handle', bound⟩ := tight pool' slot' isChosen handles old
    exact ⟨handle', addEntity_bound fresh bound⟩

/-- Only slots of pools without handles are added to a tight registry. -/
theorem Tight.grown {leaks : List Pool} (tight : r.Tight chosen) (grown : r.Grown leaks r')
    (apart : ∀ pool ∈ leaks, pool.hasHandle = true → ¬ chosen pool) : r'.Tight chosen := by
  intro pool slot isChosen handles inside
  rw [grown.others fun leaked => apart pool leaked handles isChosen] at inside
  obtain ⟨handle, bound⟩ := tight pool slot isChosen handles inside
  exact ⟨handle, by rw [Bound, grown.data]; exact bound⟩

/-- What agrees with a tight registry is tight. -/
theorem Tight.agrees (tight : r.Tight chosen) (agrees : r.Agrees r') : r'.Tight chosen := by
  intro pool slot isChosen handles inside
  rw [agrees.allocated] at inside
  obtain ⟨handle, bound⟩ := tight pool slot isChosen handles inside
  exact ⟨handle, agrees.bound_iff.mpr bound⟩

end Registry

/-- A step keeps the registry tight over pools it does not leak into. -/
theorem Change.tight {w' : World} {leaks : List Pool} {gone : Pool → Nat → Prop}
    {chosen : Pool → Prop} (change : Change cfg room leaks gone w w') (sound : w.rmw.registry.Sound)
    (apart : ∀ pool ∈ leaks, pool.hasHandle = true → ¬ chosen pool)
    (tight : w.rmw.registry.Tight chosen) : w'.rmw.registry.Tight chosen := by
  cases change with
  | idle agrees => exact tight.agrees agrees
  | leaked grown => exact tight.grown grown apart
  | node session handle slot entity new inside agrees =>
      exact (tight.addEntity new.fresh).agrees agrees
  | leaf pool node nodeHandle session handle slot entity base isLeaf new nodeBound context withTopic
      agrees =>
      obtain ⟨-, grown, -⟩ := withTopic.base sound
      refine (Tight.addEntity (tight.grown grown fun other isTopic handles => ?_) ?_).agrees agrees
      · rw [List.mem_singleton.mp isTopic] at handles
        cases handles
      · rw [grown.data]
        exact new.fresh
  | removed removal =>
      intro pool slot isChosen handles inside
      have notTopic : pool ≠ .topic := by
        rintro rfl
        cases handles
      obtain ⟨old, stays⟩ := (removal.kept notTopic).mp inside
      obtain ⟨handle, bound⟩ := tight pool slot isChosen handles old
      exact ⟨handle, removal.bound.mpr ⟨bound, stays⟩⟩
  | attached context session objects attached =>
      intro pool slot isChosen handles inside
      have notSession : pool ≠ .session := by
        rintro rfl
        cases handles
      rw [attached.registry] at inside ⊢
      exact tight pool slot isChosen handles (by simpa [notSession] using inside)

/-- In a tight registry no slot carries the handle of a creation that failed. -/
theorem Registry.Tight.settled {r : Registry} (tight : r.Tight fun _ => True) (sound : r.Sound)
    (op : Op) : op.Settled r := by
  have own : ∀ pool slot handle, pool.hasHandle = true → slot ∈ r.allocated pool →
      (r.entity pool slot).rmwHandle = some handle → r.Bound pool handle slot := by
    intro pool slot handle handles inside isHandle
    obtain ⟨handle', bound⟩ := tight pool slot trivial handles inside
    cases isHandle.symm.trans (sound.placed bound).handle
    exact bound
  have leaves : ∀ node, r.Settled node := fun node pool slot handle leaf inside _ =>
    own pool slot handle (Pool.hasHandle_of_isLeaf leaf) inside
  have nodes : ∀ session, r.SettledIn session := fun session node inside _ handle isHandle =>
    ⟨own .node node handle rfl inside isHandle, leaves node⟩
  cases op <;> simp only [Op.Settled] <;> intros <;> first | exact leaves _ | exact nodes _

/-- Every creation returns its handle, or gives its slot back, once. -/
def Tidy (cfg : Config) (w : World) (op : Op) : Prop :=
  ∀ exit, op.exit cfg w.rmw = some exit →
    exit = .created ∨ exit = .refused ∨ exit = .topicLeaked

/-- A pool leaks only where a creation ends early. -/
theorem Op.mem_leaks {op : Op} {s : Rmw} (leaked : pool ∈ op.leaks cfg s) :
    ∃ exit, op.exit cfg s = some exit ∧ pool ∈ exit.leaks op.pool := by
  unfold Op.leaks at leaked
  split at leaked
  · rename_i exit isExit
    exact ⟨exit, isExit, leaked⟩
  · cases leaked

/-- Only topics may be left behind by a tidy operation. -/
theorem Tidy.leaks {op : Op} (tidy : Tidy cfg w op) (leaked : pool ∈ op.leaks cfg w.rmw) :
    pool.hasHandle = false := by
  obtain ⟨exit, isExit, leaked⟩ := Op.mem_leaks leaked
  rcases tidy exit isExit with rfl | rfl | rfl
  · cases leaked
  · cases leaked
  · rw [List.mem_singleton.mp leaked]
    rfl

/-- A tidy operation is safe in a tight registry. -/
theorem Tidy.safe {op : Op} (tidy : Tidy cfg w op) (sound : w.rmw.registry.Sound)
    (tight : w.rmw.registry.Tight fun _ => True) : Safe cfg w op where
  single := fun isExit => by rcases tidy _ isExit with same | same | same <;> cases same
  allocates := fun isExit => by rcases tidy _ isExit with same | same | same <;> cases same
  settled := tight.settled sound op

/-- In a tidy run every allocated slot of a pool with handles has one. -/
theorem reachable_tight (reachable : Reachable (layer cfg) (Tidy cfg) w) :
    w.rmw.Healthy cfg everyone ∧ w.rmw.registry.Sound ∧ w.rmw.registry.Tight fun _ => True := by
  refine reachable.invariant (fun w => w.rmw.Healthy cfg everyone ∧ w.rmw.registry.Sound ∧
    w.rmw.registry.Tight fun _ => True) ⟨healthy_start fun _ => id, sound_start, ?_⟩ ?_
  · intro pool slot _ _ inside
    rw [show (layer cfg).start.rmw.registry.allocated pool = [] from allocated_start] at inside
    cases inside
  · rintro w op ⟨healthy, sound, tight⟩ enabled tidy
    refine (exec_spec healthy sound enabled.1 enabled.2 (tidy.safe sound tight)).mono ?_
    rintro w' ⟨healthy', sound', change⟩
    refine ⟨healthy', sound', change.tight sound (fun pool leaked handles => ?_) tight⟩
    rw [tidy.leaks leaked] at handles
    cases handles

/-- A live handle whose `data` is the entity in the slot. -/
def World.Designates (w : World) (pool : Pool) (handle slot : Nat) : Prop :=
  w.Live pool handle ∧ w.rmw.registry.Bound pool handle slot

/-- Every handle of the pool on the heap was returned by the creation that allocated it. -/
def World.Returned (w : World) (pool : Pool) : Prop :=
  ∀ handle, w.rmw.registry.data pool handle ≠ none → handle ∈ w.returned pool

/-- The registry knows exactly the blocks on the heap. -/
theorem data_ne_none_iff {handle : Nat} : w.rmw.registry.data pool handle ≠ none ↔
    ((w.rmw.handles pool).block handle).isSome = true := by
  simp [Rmw.registry, Option.isSome_iff_ne_none]

/-- The handles of a pool whose handles were all returned are live. -/
theorem World.Returned.designates {handle slot : Nat} (returned : w.Returned pool)
    (bound : w.rmw.registry.Bound pool handle slot) : w.Designates pool handle slot :=
  ⟨⟨returned handle bound.data_ne_none, data_ne_none_iff.mp bound.data_ne_none⟩, bound⟩

/-- A handle that is added to the registry is on the caller's side, too. -/
private theorem returned_addEntity {r r' : Registry} {entity : Entity} {other : Pool}
    {handle slot : Nat} {returned returned' : Pool → List Nat}
    (before : ∀ handle, r.data pool handle ≠ none → handle ∈ returned pool)
    (data : r'.data = (r.addEntity other handle slot entity).data)
    (update : returned' = Function.update returned other (handle :: returned other)) :
    ∀ handle, r'.data pool handle ≠ none → handle ∈ returned' pool := by
  intro handle' isData
  rw [update]
  rw [data, Registry.addEntity, setData_data_apply] at isData
  by_cases samePool : pool = other
  · subst samePool
    by_cases sameHandle : handle' = handle
    · simp [sameHandle]
    · rw [if_neg fun same => sameHandle same.2] at isData
      simp [before handle' isData]
  · rw [if_neg fun same => samePool same.1] at isData
    simpa [samePool] using before handle' isData

/-- A step that leaks no node returns every handle it leaves on the heap. -/
theorem Change.returned {w' : World} {leaks : List Pool} {gone : Pool → Nat → Prop}
    (change : Change cfg room leaks gone w w') (sound : w.rmw.registry.Sound)
    (sound' : w'.rmw.registry.Sound) (noNode : pool = .node → Pool.node ∉ leaks)
    (before : w.Returned pool) : w'.Returned pool := by
  cases change with
  | idle agrees advance returned =>
      intro handle data
      rw [agrees.data] at data
      rw [returned]
      exact before handle data
  | leaked grown nonempty advance returned =>
      intro handle data
      rw [grown.data] at data
      rw [returned]
      exact before handle data
  | node session handle slot entity new inside agrees advance returned =>
      rcases returned with ⟨leaked, same⟩ | update
      · intro handle' data
        have other : pool ≠ .node := fun isNode => noNode isNode leaked
        rw [agrees.data, Registry.addEntity, setData_data_apply,
          if_neg fun same => other same.1] at data
        rw [same]
        exact before handle' data
      · exact returned_addEntity before agrees.data update
  | leaf pool' node nodeHandle session handle slot entity base isLeaf new nodeBound context
    withTopic
      agrees advance update =>
      obtain ⟨-, grown, -⟩ := withTopic.base sound
      refine returned_addEntity (fun handle data => ?_) agrees.data update
      rw [grown.data] at data
      exact before handle data
  | removed removal advance returned =>
      intro handle data
      rw [returned]
      cases isData : w'.rmw.registry.data pool handle with
      | none => exact absurd isData data
      | some contents =>
          cases contents with
          | none => exact absurd isData sound'.filled
          | some slot => exact before handle (removal.bound.mp isData).1.data_ne_none
  | attached context session objects attached returned =>
      intro handle data
      rw [attached.registry] at data
      rw [returned]
      exact before handle data

namespace Small

/-- A build with room for one entity of each kind and two pending messages. -/
def config : Config where
  maxSessions := 1
  maxNodes := 1
  maxPublishers := 1
  maxSubscriptions := 1
  maxServices := 1
  maxClients := 1
  maxTopics := none
  maxHistory := 2
  entityCreationDestroyTimeout := 1000
  useRefs := false
  graph := false
  nodeNameMaxLength := 8
  topicNameMaxLength := 8
  typeNameMaxLength := 8
  entityNamingBufferLength := 16
  maxInputBufferSize := 4
  initialRequestId := 9
  graphTypeSupport := ⟨none, []⟩

/-- `rmw_init` on the context `0`, with every step succeeding. -/
def init : InitCall where
  options := some
    { implementationIdentifier := some eprosimaMicroxrceddsIdentifier, domainId := 0, impl := true }
  context := some 0

/-- `rmw_create_node` for `/n`, with every step succeeding. -/
def node : NodeCall where
  context := some 0
  name := some (cstr "n")
  namespace_ := some (cstr "/")

/-- The layer after `rmw_init`. -/
def withContext : World := (layer config).next (.init init) {}

/-- The layer after `rmw_init` and `rmw_create_node`. -/
def withNode : World := (layer config).next (.createNode node) withContext

/-- No message arrives in the small run. -/
theorem init_acceptable {r : Registry} {admits : Admission} : init.Acceptable config admits r :=
  fun _ _ _ inside => by cases inside

/-- The context is reached in one step. -/
theorem withContext_reachable (meets : allowed {} (.init init)) :
    Reachable (layer config) allowed withContext :=
  .next .start ⟨trivial, init_acceptable⟩ meets rfl

/-- The node is reached in two. -/
theorem withNode_reachable (first : allowed {} (.init init))
    (second : allowed withContext (.createNode node)) :
    Reachable (layer config) allowed withNode := by
  refine .next (withContext_reachable first) ⟨fun context isContext => ?_, ?_⟩ second rfl
  · cases isContext
    rfl
  · intro _ _ _ _ _ inside
    cases inside

/-- The handle of the node is live. -/
theorem live_node : withNode.Live .node 0 := ⟨by decide, rfl⟩

/-- `rmw_create_publisher` for `t` on the node, with every step succeeding. -/
def publisher : PublisherCall where
  node := some 0
  typeSupport := some (.found ⟨none, cstr "a"⟩)
  topicName := some (cstr "t")
  qos := some {}

/-- The layer after `rmw_create_publisher`, too. -/
def withPublisher : World := (layer config).next (.createPublisher publisher) withNode

/-- The publisher is reached in three. -/
theorem withPublisher_reachable (first : allowed {} (.init init))
    (second : allowed withContext (.createNode node))
    (third : allowed withNode (.createPublisher publisher)) :
    Reachable (layer config) allowed withPublisher := by
  refine .next (withNode_reachable first second) ⟨fun node isNode => ?_, ?_⟩ third rfl
  · cases isNode
    exact live_node
  · exact fun _ _ => ⟨Exchange.acceptable_of_quiet rfl, Exchange.acceptable_of_quiet rfl,
      Exchange.acceptable_of_quiet rfl⟩

/-- `rmw_create_subscription` for `t` on the node, with every step succeeding. -/
def subscription : SubscriptionCall where
  node := some 0
  typeSupport := some (.found ⟨none, cstr "a"⟩)
  topicName := some (cstr "t")
  qos := some {}

/-- The layer after `rmw_create_subscription`, too. -/
def withSubscription : World := (layer config).next (.createSubscription subscription) withNode

/-- Nothing arrives while the subscription is created. -/
theorem subscription_acceptable {admits : Admission} {s : Rmw} {session : Nat} :
    subscription.Acceptable config admits s session :=
  fun _ _ => ⟨Exchange.acceptable_of_quiet rfl, Exchange.acceptable_of_quiet rfl,
    Exchange.acceptable_of_quiet rfl⟩

/-- So is the subscription. -/
theorem withSubscription_reachable (first : allowed {} (.init init))
    (second : allowed withContext (.createNode node))
    (third : allowed withNode (.createSubscription subscription)) :
    Reachable (layer config) allowed withSubscription := by
  refine .next (withNode_reachable first second) ⟨fun node isNode => ?_, ?_⟩ third rfl
  · cases isNode
    exact live_node
  · exact fun _ _ => subscription_acceptable

/-- The steps of the small run with a subscription are safe. -/
theorem withSubscription_safe : Reachable (layer config) (Safe config) withSubscription := by
  apply withSubscription_reachable
  all_goals exact ⟨by decide, by decide, trivial⟩

/-- A sample of two bytes for the data reader of the subscription. -/
def sample : Delivery := .topic ⟨0, .datareader⟩ [1, 2] 2

/-- The layer after the sample has arrived, too. -/
def withSample : World := (layer config).next (.receive 0 sample) withSubscription

/-- The sample arrives in a fourth step. -/
theorem withSample_reachable (first : allowed {} (.init init))
    (second : allowed withContext (.createNode node))
    (third : allowed withNode (.createSubscription subscription))
    (fourth : allowed withSubscription (.receive 0 sample)) :
    Reachable (layer config) allowed withSample := by
  refine .next (withSubscription_reachable first second third) ⟨?_, ?_⟩ fourth rfl
  · exact (by decide : 0 ∈ withSubscription.rmw.allocated .session)
  · exact ⟨(by decide : sample.length ≤ config.maxInputBufferSize), fun _ _ _ => trivial⟩

/-- The steps of the small run with a sample are safe. -/
theorem withSample_safe : Reachable (layer config) (Safe config) withSample := by
  apply withSample_reachable
  all_goals exact ⟨by decide, by decide, trivial⟩

/-- `rmw_create_service` for `s` on the node, with every step succeeding. -/
def service : EndpointCall where
  node := some 0
  typeSupport := some (.found ⟨⟨none, cstr "a"⟩, ⟨none, cstr "b"⟩⟩)
  serviceName := some (cstr "s")
  qos := some {}

/-- The layer after `rmw_create_service` on the node. -/
def withService : World := (layer config).next (.createEndpoint .service service) withNode

/-- The service is reached in three steps, too. -/
theorem withService_reachable (first : allowed {} (.init init))
    (second : allowed withContext (.createNode node))
    (third : allowed withNode (.createEndpoint .service service)) :
    Reachable (layer config) allowed withService := by
  refine .next (withNode_reachable first second) ⟨fun node isNode => ?_, ?_⟩ third rfl
  · cases isNode
    exact live_node
  · exact fun _ _ _ _ => Exchange.acceptable_of_quiet rfl

/-- The steps of the small run with a service are safe. -/
theorem withService_safe : Reachable (layer config) (Safe config) withService := by
  apply withService_reachable
  all_goals exact ⟨by decide, by decide, trivial⟩

end Small

end RmwMicroxrcedds
