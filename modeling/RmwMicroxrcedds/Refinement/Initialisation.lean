import RmwMicroxrcedds.Refinement.Finalisation

/-! # Initialising a context

What `rmw_init` does to the registry: it initialises the pools, which moves no slot, takes
a session, attaches it to the context, and creates the graph entities. Once it has a
session it keeps it, whether it succeeds or not.
-/

namespace RmwMicroxrcedds

open Outcome Registry Mempool

variable {cfg : Config} {admits : Admission} {s s' : Rmw} {pool : Pool}
variable {session context : Nat}

/-- The state with the chosen pools initialised. -/
def Rmw.initChosen (cfg : Config) (chosen : Pool → Bool) (s : Rmw) : Rmw :=
  { s with
    memory := fun pool =>
      if chosen pool then (s.memory pool).initMemory (cfg.poolSize pool) else s.memory pool }

/-- The entity pools are initialised as one choice of pools. -/
theorem initEntityPools_eq : initEntityPools cfg s = s.initChosen cfg Pool.isEntity := by
  have memory : (initEntityPools cfg s).memory = (s.initChosen cfg Pool.isEntity).memory := by
    funext pool
    cases pool <;> simp [initEntityPools, Rmw.initMemory, Rmw.initChosen, Pool.isEntity,
      Config.poolSize, Function.update]
  exact congrArg (fun memory => { s with memory := memory }) memory

/-- So is a single pool. -/
theorem initMemory_eq_initChosen :
    s.initMemory pool (cfg.poolSize pool) = s.initChosen cfg (· == pool) := by
  have memory : (s.initMemory pool (cfg.poolSize pool)).memory =
      (s.initChosen cfg (· == pool)).memory := by
    funext pool'
    by_cases same : pool' = pool
    · subst same
      simp [Rmw.initMemory, Rmw.initChosen]
    · simp [Rmw.initMemory, Rmw.initChosen, same]
  exact congrArg (fun memory => { s with memory := memory }) memory

/-- Pools may be initialised, and initialised again, as long as the entity pools go
together. -/
theorem Rmw.Healthy.initChosen (healthy : s.Healthy cfg admits) (chosen : Pool → Bool)
    (together : ∀ pool pool', pool.isEntity = true → pool'.isEntity = true →
      chosen pool = chosen pool') :
    (s.initChosen cfg chosen).Healthy cfg admits ∧
      (s.initChosen cfg chosen).registry = s.registry := by
  have started : ∀ pool, (s.memory pool).Started := fun pool =>
    (healthy.sized pool).imp id And.left
  have allocated : ∀ pool, (s.initChosen cfg chosen).allocated pool = s.allocated pool := by
    intro pool
    simp only [Rmw.allocated, Rmw.initChosen]
    split
    · exact (initMemory_spec (healthy.wf pool) (started pool)).2.2.1
    · rfl
  -- a chosen pool of positive size is initialised afterwards
  have initialised : ∀ pool, 0 < cfg.poolSize pool →
      ((s.memory pool).initMemory (cfg.poolSize pool)).isInitialized = true ∧
        ((s.memory pool).initMemory (cfg.poolSize pool)).size = cfg.poolSize pool := by
    intro pool positive
    rcases healthy.sized pool with zeroed | ⟨initialised, size⟩
    · rw [zeroed]
      exact (initMemory_of_zeroed positive).2.symm
    · rw [(initMemory_spec (healthy.wf pool) (started pool)).2.2.2 initialised]
      exact ⟨initialised, size⟩
  refine ⟨{
    wf := fun pool => ?_
    sized := fun pool => ?_
    together := fun pool pool' isEntity isEntity' first positive => ?_
    named := healthy.named
    fresh := healthy.fresh
    spaced := healthy.spaced
    pending := ?_
    ready := fun pool isReady => ?_
    identified := healthy.identified }, ?_⟩
  · simp only [Rmw.initChosen]
    split
    · exact (initMemory_spec (healthy.wf pool) (started pool)).1
    · exact healthy.wf pool
  · simp only [Rmw.initChosen]
    split
    · rcases Nat.eq_zero_or_pos (cfg.poolSize pool) with zero | positive
      · rw [initMemory_of_not (by omega)]
        exact healthy.sized pool
      · exact Or.inr (initialised pool positive)
    · exact healthy.sized pool
  · simp only [Rmw.initChosen, together pool pool' isEntity isEntity'] at first ⊢
    split
    · exact (initialised pool' positive).1
    · rename_i unchosen
      simp only [unchosen, Bool.false_eq_true, ↓reduceIte] at first
      exact healthy.together pool pool' isEntity isEntity' first positive
  · have same := allocated .staticBuffer
    simp only [Rmw.allocated] at same
    rw [same]
    exact healthy.pending
  · have initialised := healthy.ready pool isReady
    simp only [Rmw.initChosen]
    split
    · rw [(initMemory_spec (healthy.wf pool) (started pool)).2.2.2 initialised]
      exact initialised
    · exact initialised
  · ext1 <;> try rfl
    funext pool
    simp only [Rmw.registry, allocated]

/-- The pools of sessions and of input buffers are initialised on their own. -/
theorem Rmw.Healthy.initMemory (healthy : s.Healthy cfg admits) (pool : Pool)
    (alone : pool.isEntity = false) :
    (s.initMemory pool (cfg.poolSize pool)).Healthy cfg admits ∧
      (s.initMemory pool (cfg.poolSize pool)).registry = s.registry := by
  rw [initMemory_eq_initChosen]
  have other : ∀ pool', pool'.isEntity = true → (pool' == pool) = false := by
    intro pool' isEntity
    refine beq_false_of_ne ?_
    rintro rfl
    rw [alone] at isEntity
    cases isEntity
  exact healthy.initChosen _ fun first second isEntity isEntity' =>
    (other first isEntity).trans (other second isEntity').symm

/-- The kinds of object `rmw_graph_init` creates. -/
def ObjectType.inGraph : ObjectType → Bool
  | participant | subscriber | topic | datareader => true
  | publisher | datawriter | requester | replier | other _ => false

/-- The identifiers of the graph entities, the first of each kind. -/
def firstGraphObjects : GraphObjects where
  participantId := ⟨0, .participant⟩
  subscriberId := ⟨0, .subscriber⟩
  topicId := ⟨0, .topic⟩
  datareaderId := ⟨0, .datareader⟩

/-- The two documents of the graph entities can be built. -/
def graphFits (cfg : Config) : Bool :=
  (buildTopicXml cfg graphTopicName cfg.graphTypeSupport graphSubscriptionQosPolicies
      cfg.entityNamingBufferLength).2 != 0 &&
    (buildDatareaderXml cfg graphTopicName cfg.graphTypeSupport graphSubscriptionQosPolicies
      cfg.entityNamingBufferLength).2 != 0

/-- Whether `rmw_graph_init` succeeds. -/
def GraphExchange.succeeds (cfg : Config) (exchange : GraphExchange) : Bool :=
  graphFits cfg && exchange.confirmed

/-- Only this session changes, the number of its requests keeps step with its request id,
and its object ids are the given ones. -/
structure Runs (session : Nat) (nextId : ObjectType → Nat) (s s' : Rmw) : Prop where
  others : ∀ other, other ≠ session → s'.customSessions other = s.customSessions other
  nextId : (s'.customSessions session).nextId = nextId
  balance : (s'.customSessions session).lastRequestId +
      (s.customSessions session).requests.length =
    (s.customSessions session).lastRequestId + (s'.customSessions session).requests.length

/-- Nothing has run yet. -/
theorem Runs.refl (s : Rmw) : Runs session (s.customSessions session).nextId s s :=
  ⟨fun _ _ => rfl, rfl, rfl⟩

/-- A request draws no identifier. -/
theorem Runs.uxrBuffer {nextId : ObjectType → Nat} (runs : Runs session nextId s s')
    (request : XrceRequest) (room : Bool) :
    Runs session nextId s (s'.uxrBuffer session request room).2 := by
  cases room with
  | false => exact runs
  | true =>
      refine ⟨fun other different => ?_, ?_, ?_⟩
      · simp [Rmw.uxrBuffer, Rmw.modifySession, different, runs.others other different]
      · simpa [Rmw.uxrBuffer, Rmw.modifySession] using runs.nextId
      · have balance := runs.balance
        simp only [Rmw.uxrBuffer, ↓reduceIte, Rmw.modifySession, Function.update_self,
          List.length_cons]
        omega

/-- An identifier draws the next number of its type. -/
theorem Runs.uxrObjectId {nextId : ObjectType → Nat} (runs : Runs session nextId s s')
    (type : ObjectType) :
    Runs session (Function.update nextId type (nextId type + 1)) s
      (s'.uxrObjectId session type).2 := by
  refine ⟨fun other different => ?_, ?_, ?_⟩
  · simp [Rmw.uxrObjectId, Rmw.modifySession, different, runs.others other different]
  · simp [Rmw.uxrObjectId, Rmw.modifySession, runs.nextId]
  · simpa [Rmw.uxrObjectId, Rmw.modifySession] using runs.balance

/-- What changes no session draws nothing. -/
theorem Runs.of_sessions {nextId : ObjectType → Nat} {s'' : Rmw} (runs : Runs session nextId s s')
    (same : s''.customSessions = s'.customSessions) : Runs session nextId s s'' := by
  refine ⟨?_, ?_, ?_⟩ <;> rw [same]
  · exact runs.others
  · exact runs.nextId
  · exact runs.balance

/-- The object counters once the graph entities have their identifiers. -/
def graphCounters (type : ObjectType) : Nat := if type.inGraph then 1 else 0

/-- The messages of a list may arrive while the graph entities are created. -/
def GraphAcceptable (cfg : Config) (admits : Admission) (r : Registry) (session : Nat)
    (deliveries : List Delivery) : Prop :=
  ∀ objects, ∀ delivery ∈ deliveries, Acceptable cfg admits (r.setGraph session objects) session
    delivery

/-- The last graph that is set counts. -/
theorem Registry.setGraph_setGraph {r : Registry} (objects objects' : GraphObjects) :
    (r.setGraph session objects).setGraph session objects' = r.setGraph session objects' := by
  simp [Registry.setGraph]

/-- Setting the graph that is there changes nothing. -/
theorem Registry.setGraph_self {r : Registry} : r.setGraph session (r.graph session) = r := by
  simp [Registry.setGraph]

/-- What is acceptable depends on the receivers only. -/
theorem GraphAcceptable.congr {r base : Registry} {deliveries : List Delivery}
    (acceptable : GraphAcceptable cfg admits base session deliveries)
    (same : r.inboxes = base.inboxes) : GraphAcceptable cfg admits r session deliveries := by
  intro objects delivery inside
  refine (acceptable objects delivery inside).congr ?_
  exact congrArg (fun inboxes => inboxes.setGraph session objects) same

/-- What the graph accepts, the layer does. -/
theorem GraphAcceptable.plain {r : Registry} {deliveries : List Delivery}
    (acceptable : GraphAcceptable cfg admits r session deliveries) :
    ∀ delivery ∈ deliveries, Acceptable cfg admits r session delivery := by
  intro delivery inside
  have here := acceptable (r.graph session) delivery inside
  rwa [Registry.setGraph_self] at here

/-- Of acceptable deliveries, some are acceptable. -/
theorem GraphAcceptable.mono {r : Registry} {deliveries deliveries' : List Delivery}
    (acceptable : GraphAcceptable cfg admits r session deliveries)
    (fewer : deliveries' ⊆ deliveries) : GraphAcceptable cfg admits r session deliveries' :=
  fun objects delivery inside => acceptable objects delivery (fewer inside)

@[simp] theorem graphInfo_uxrBuffer (request : XrceRequest) (room : Bool) :
    (s.uxrBuffer session request room).2.graphInfo = s.graphInfo := by
  cases room <;> rfl

/-- The state on the way of `rmw_graph_init`: the counters of the session and the
identifiers assigned so far. -/
structure GraphStage (cfg : Config) (admits : Admission) (session : Nat) (s : Rmw)
    (counters : ObjectType → Nat) (objects : GraphObjects) (s' : Rmw) : Prop where
  healthy : s'.Healthy cfg admits
  runs : Runs session counters s s'
  registry : s'.registry = s.registry.setGraph session objects

namespace GraphStage

variable {counters : ObjectType → Nat} {objects : GraphObjects}

/-- A request keeps the stage. -/
theorem uxrBuffer (stage : GraphStage cfg admits session s counters objects s')
    (request : XrceRequest) (room : Bool) :
    GraphStage cfg admits session s counters objects
      (s'.uxrBuffer session request room).2 where
  healthy := (healthy_uxrBuffer _ _).mpr stage.healthy
  runs := stage.runs.uxrBuffer _ _
  registry := (registry_uxrBuffer _ _).trans stage.registry

/-- One identifier is assigned, to a member of its own. -/
theorem assign (stage : GraphStage cfg admits session s counters objects s') (type : ObjectType)
    (write : GraphInfo → ObjectId → GraphInfo)
    (writeObjects : GraphObjects → ObjectId → GraphObjects)
    (writes : ∀ graph id, (write graph id).objects = writeObjects graph.objects id) :
    GraphStage cfg admits session s (Function.update counters type (counters type + 1))
      (writeObjects objects ⟨counters type, type⟩) (assignGraphId session type write s') where
  healthy := stage.healthy
  runs := (stage.runs.uxrObjectId type).of_sessions rfl
  registry := by
    have graph : s'.registry.graph session = objects := by
      rw [stage.registry]
      simp
    have isNext : (s'.uxrObjectId session type).1 = ⟨counters type, type⟩ := by
      simp [Rmw.uxrObjectId, stage.runs.nextId]
    have assigned : (write (s'.graphInfo session) ⟨counters type, type⟩).objects =
        writeObjects objects ⟨counters type, type⟩ := by
      rw [writes, ← graph]
      rfl
    simp only [assignGraphId, registry_modifyGraphInfo, registry_uxrObjectId, isNext]
    rw [show (s'.uxrObjectId session type).2.graphInfo = s'.graphInfo from rfl, assigned,
      stage.registry, Registry.setGraph_setGraph]

end GraphStage

/-- The first part of `rmw_graph_init`, on a session that has issued no identifier yet. -/
private theorem numberGraph_spec (healthy : s.Healthy cfg admits) (exchange : GraphExchange)
    (unissued : (s.customSessions session).nextId = fun _ => 0) :
    GraphStage cfg admits session s graphCounters firstGraphObjects
      (numberGraph session exchange s) := by
  have start : GraphStage cfg admits session s (fun _ => 0) (s.registry.graph session)
      (s.modifyGraphInfo session fun old =>
        { old with initialized := false, hasChanged := false }) :=
    ⟨healthy, (unissued ▸ Runs.refl s : Runs session (fun _ => 0) s s).of_sessions rfl,
      registry_modifyGraphInfo _⟩
  have counters : Function.update (Function.update (Function.update (Function.update
      (fun _ : ObjectType => 0) .participant 1) .subscriber 1) .datareader 1) .topic 1 =
      graphCounters := by
    funext type
    cases type <;> simp [Function.update, graphCounters, ObjectType.inGraph]
  rw [← counters]
  exact (((((start.assign .participant (fun old id => { old with participantId := id })
      (fun objects id => { objects with participantId := id }) fun _ _ => rfl).uxrBuffer _
        exchange.participantRoom).assign .subscriber (fun old id => { old with subscriberId := id })
      (fun objects id => { objects with subscriberId := id }) fun _ _ => rfl).uxrBuffer _
        exchange.subscriberRoom).assign .datareader (fun old id => { old with datareaderId := id })
      (fun objects id => { objects with datareaderId := id }) fun _ _ => rfl).assign .topic
      (fun old id => { old with topicId := id }) (fun objects id => { objects with topicId := id })
      fun _ _ => rfl

/-- The last part of `rmw_graph_init`. -/
private theorem runGraph_spec {exchange : GraphExchange}
    (stage : GraphStage cfg admits session s graphCounters firstGraphObjects s')
    (acceptable : GraphAcceptable cfg admits s.registry session exchange.deliveries) :
    Yields (runGraph cfg session exchange s') fun result =>
      (result.1 = .ok ↔ exchange.confirmed = true) ∧
        GraphStage cfg admits session s graphCounters firstGraphObjects result.2 := by
  simp only [runGraph]
  refine (deliverAll_spec stage.healthy fun delivery inside => ?_).bind ?_
  · rw [stage.registry]
    exact acceptable _ delivery inside
  rintro ran ⟨ranHealthy, undisturbed⟩
  have ranStage : GraphStage cfg admits session s graphCounters firstGraphObjects ran :=
    ⟨ranHealthy, stage.runs.of_sessions undisturbed.sessions,
      undisturbed.registry.trans stage.registry⟩
  cases confirmed : exchange.confirmed with
  | true =>
      simp only [↓reduceIte, yields_ok, true_and]
      exact ranStage.uxrBuffer _ _
  | false =>
      simp only [Bool.false_eq_true, ↓reduceIte, yields_ok, reduceCtorEq, true_and]
      exact ranStage

/-- `rmw_graph_init` on a session that has issued no identifier yet. -/
theorem rmwGraphInit_spec (healthy : s.Healthy cfg admits) {exchange : GraphExchange}
    (unissued : (s.customSessions session).nextId = fun _ => 0)
    (acceptable : GraphAcceptable cfg admits s.registry session exchange.deliveries) :
    Yields (rmwGraphInit cfg session exchange s) fun result =>
      (result.1 = .ok ↔ exchange.succeeds cfg = true) ∧
        GraphStage cfg admits session s graphCounters firstGraphObjects result.2 := by
  have stage := numberGraph_spec healthy exchange unissued
  simp only [rmwGraphInit, GraphExchange.succeeds, graphFits]
  split
  · rename_i misfit
    refine yields_ok.mpr ⟨?_, stage⟩
    simp [misfit]
  · rename_i topicFits
    split
    · rename_i misfit
      refine yields_ok.mpr ⟨?_, stage.uxrBuffer _ _⟩
      simp [misfit]
    · rename_i datareaderFits
      refine (runGraph_spec ((stage.uxrBuffer _ exchange.topicRoom).uxrBuffer _
        exchange.datareaderRoom) acceptable).mono fun result post => ⟨?_, post.2⟩
      rw [post.1]
      simp [topicFits, datareaderFits]

/-- The ways `rmw_init` ends. -/
inductive InitExit where
  /-- An argument is refused. -/
  | rejected
  /-- No session is free. -/
  | exhausted
  /-- The transport, the session or the graph entities fail. -/
  | failed
  | completed
deriving DecidableEq

/-- A session is free once the pool of sessions is initialised. -/
def hasFreeSession (cfg : Config) (s : Rmw) : Bool :=
  !((s.initMemory .session cfg.maxSessions).free .session).isEmpty

/-- The steps after a session was taken all succeed. -/
def InitCall.opens (cfg : Config) (call : InitCall) : Bool :=
  decide (call.transport = .opened) && call.sessionCreated &&
    (!cfg.graph || call.graph.succeeds cfg)

/-- How `rmw_init` ends. -/
def initExit (cfg : Config) (call : InitCall) (s : Rmw) : InitExit :=
  match call.options, call.context with
  | some options, some _ =>
      if ¬ options.impl then .rejected
      else if options.implementationIdentifier ≠ some eprosimaMicroxrceddsIdentifier then .rejected
      else if !hasFreeSession cfg s then .exhausted
      else if !call.opens cfg then .failed
      else .completed
  | _, _ => .rejected

/-- The messages that arrive during `rmw_init` may be stored. -/
def InitCall.Acceptable (cfg : Config) (admits : Admission) (r : Registry) (call : InitCall) :
    Prop :=
  ∀ session, GraphAcceptable cfg admits r session
    (call.sessionDeliveries ++ call.graph.deliveries ++ call.deletionDeliveries)

/-- A session that was free now belongs to the context, with the given graph entities. -/
structure Attached (s s' : Rmw) (context session : Nat) (objects : GraphObjects) : Prop where
  free : session ∉ s.registry.allocated .session
  registry : s'.registry =
    ((s.registry.take .session session).attach context (some session)).setGraph session objects
  others : ∀ other, other ≠ session → s'.customSessions other = s.customSessions other

/-- The counters of a session that was opened. -/
structure OpenedSession (cfg : Config) (opened : Session) : Prop where
  nextId : opened.nextId = if cfg.graph then graphCounters else fun _ => 0
  lastRequestId : opened.lastRequestId = cfg.initialRequestId + opened.requests.length

/-- What `rmw_init` leaves behind. -/
def Initialisation (cfg : Config) (call : InitCall) (s s' : Rmw) (ret : RmwRet) :
    InitExit → Prop
  | .rejected => ret ≠ .ok ∧ s' = s
  | .exhausted => ret ≠ .ok ∧ s'.registry = s.registry ∧ s'.customSessions = s.customSessions
  | .failed => ret ≠ .ok ∧ ∃ context session objects, call.context = some context ∧
      Attached s s' context session objects
  | .completed => ret = .ok ∧ ∃ context session, call.context = some context ∧
      Attached s s' context session
        (if cfg.graph then firstGraphObjects else s.registry.graph session) ∧
      OpenedSession cfg (s'.customSessions session)

/-- A session that is attached leaves the registry sound. -/
theorem Attached.sound {objects : GraphObjects} (attached : Attached s s' context session objects)
    (sound : s.registry.Sound) : s'.registry.Sound := by
  rw [attached.registry]
  refine (sound.take.attach (fun _ same => ?_) fun other _ same isOther => ?_).setGraph
  · cases same
    simp
  · cases same
    exact attached.free (sound.impl isOther)

/-- `rmw_init` once the transport is open. -/
private theorem openSession_spec {call : InitCall} {base : Registry}
    (healthy : s.Healthy cfg admits) (inboxes : s.registry.inboxes = base.inboxes)
    (unissued : (s.customSessions session).nextId = fun _ => 0)
    (acceptable : call.Acceptable cfg admits base) :
    Yields (openSession cfg call session s) fun result =>
      result.2.Healthy cfg admits ∧
        (∀ other, other ≠ session →
          result.2.customSessions other = s.customSessions other) ∧
        (∃ objects, result.2.registry = s.registry.setGraph session objects) ∧
        if call.sessionCreated && (!cfg.graph || call.graph.succeeds cfg) then
          result.1 = .ok ∧ OpenedSession cfg (result.2.customSessions session) ∧
            result.2.registry = s.registry.setGraph session
              (if cfg.graph then firstGraphObjects else s.registry.graph session)
        else result.1 ≠ .ok := by
  have allowed : ∀ {r : Registry} {deliveries : List Delivery}, r.inboxes = base.inboxes →
      deliveries ⊆ call.sessionDeliveries ++ call.graph.deliveries ++ call.deletionDeliveries →
      GraphAcceptable cfg admits r session deliveries := fun same fewer =>
    ((acceptable session).mono fewer).congr same
  simp only [openSession]
  generalize isReset : s.modifySession session (fun old =>
    { old with lastRequestId := cfg.initialRequestId, requests := [] }) = reset
  have resetHealthy : reset.Healthy cfg admits := isReset ▸ healthy
  have resetRegistry : reset.registry = s.registry := isReset ▸ rfl
  have resetOthers : ∀ other, other ≠ session →
      reset.customSessions other = s.customSessions other := fun other different => by
    simp [← isReset, Rmw.modifySession, different]
  have resetSession : reset.customSessions session =
      { s.customSessions session with
        lastRequestId := cfg.initialRequestId, requests := [] } := by
    simp [← isReset, Rmw.modifySession]
  refine (deliverAll_spec resetHealthy (allowed (resetRegistry ▸ inboxes)
    (fun _ inside => by simp [inside])).plain).bind ?_
  rintro ran ⟨ranHealthy, undisturbed⟩
  have ranRegistry : ran.registry = s.registry := undisturbed.registry.trans resetRegistry
  have ranOthers : ∀ other, other ≠ session →
      ran.customSessions other = s.customSessions other := by
    rw [undisturbed.sessions]
    exact resetOthers
  have ranSession := (congrFun undisturbed.sessions session).trans resetSession
  have kept : s.registry = s.registry.setGraph session (s.registry.graph session) :=
    setGraph_self.symm
  cases created : call.sessionCreated with
  | false =>
      simp only [Bool.false_eq_true, ↓reduceIte, Bool.false_and, yields_ok, ne_eq, reduceCtorEq,
        not_false_eq_true, and_true]
      refine ⟨ranHealthy, fun other different => ?_, _, ranRegistry.trans kept⟩
      simp [Rmw.modifySession, different, ranOthers other different]
  | true =>
      simp only [↓reduceIte, Bool.true_and]
      cases graph : cfg.graph with
      | false =>
          simp only [Bool.false_eq_true, ↓reduceIte, Bool.not_false, Bool.true_or, yields_ok,
            true_and]
          refine ⟨ranHealthy, ranOthers, ⟨_, ranRegistry.trans kept⟩, ⟨?_, ?_⟩,
            ranRegistry.trans kept⟩
          · simp [ranSession, unissued, graph]
          · simp [ranSession]
      | true =>
          simp only [↓reduceIte, Bool.not_true, Bool.false_or]
          refine (rmwGraphInit_spec ranHealthy (by rw [ranSession]; exact unissued)
            (allowed (ranRegistry ▸ inboxes) fun _ inside => by simp [inside])).bind ?_
          rintro ⟨ret, last⟩ ⟨isOk, stage⟩
          have lastRegistry : last.registry = s.registry.setGraph session firstGraphObjects := by
            rw [← ranRegistry]
            exact stage.registry
          have lastOthers : ∀ other, other ≠ session →
              last.customSessions other = s.customSessions other := fun other different =>
            (stage.runs.others other different).trans (ranOthers other different)
          cases succeeds : call.graph.succeeds cfg with
          | true =>
              have isOk : ret = .ok := isOk.mpr succeeds
              simp only [isOk, ↓reduceIte, yields_ok, true_and]
              refine ⟨stage.healthy, lastOthers, ⟨_, lastRegistry⟩, ⟨?_, ?_⟩, lastRegistry⟩
              · rw [graph]
                exact stage.runs.nextId
              · have balance := stage.runs.balance
                simpa [ranSession] using balance
          | false =>
              have notOk : ret ≠ .ok := fun same => by simp [isOk.mp same] at succeeds
              simp only [notOk, ↓reduceIte, Bool.false_eq_true]
              have lastInboxes : GraphAcceptable cfg admits s.registry session
                  call.deletionDeliveries := allowed inboxes fun _ inside => by simp [inside]
              refine (deliverAll_spec stage.healthy ?_).bind ?_
              · rw [lastRegistry]
                exact fun delivery inside => lastInboxes _ delivery inside
              rintro final ⟨finalHealthy, undisturbed'⟩
              simp only [yields_ok, ne_eq, reduceCtorEq, not_false_eq_true, and_true]
              refine ⟨finalHealthy, ?_, _, undisturbed'.registry.trans lastRegistry⟩
              rw [undisturbed'.sessions]
              exact lastOthers

/-- `rmw_init` once a session was taken. -/
private theorem initContext_spec {call : InitCall} {base : Registry}
    (healthy : s.Healthy cfg admits) (inboxes : s.registry.inboxes = base.inboxes)
    (identified : (s.contexts context).implementationIdentifier =
      some eprosimaMicroxrceddsIdentifier)
    (acceptable : call.Acceptable cfg admits base) :
    Yields (initContext cfg call context session s) fun result =>
      result.2.Healthy cfg admits ∧
        (∀ other, other ≠ session →
          result.2.customSessions other = s.customSessions other) ∧
        (∃ objects, result.2.registry =
          (s.registry.attach context (some session)).setGraph session objects) ∧
        if call.opens cfg then
          result.1 = .ok ∧ OpenedSession cfg (result.2.customSessions session) ∧
            result.2.registry = (s.registry.attach context (some session)).setGraph session
              (if cfg.graph then firstGraphObjects else s.registry.graph session)
        else result.1 ≠ .ok := by
  simp only [initContext]
  generalize isAttached : (s.modifySession session fun old =>
    { old with nextId := fun _ => 0 }).modifyContext context
    (fun old => { old with impl := some session }) = attached
  have attachedHealthy : attached.Healthy cfg admits := by
    rw [← isAttached]
    apply Rmw.Healthy.modifyContext
    · exact healthy
    · exact Or.inl identified
  have attachedRegistry : attached.registry = s.registry.attach context (some session) := by
    rw [← isAttached, registry_modifyContext]
    rfl
  have attachedOthers : ∀ other, other ≠ session →
      attached.customSessions other = s.customSessions other := fun other different => by
    simp [← isAttached, Rmw.modifyContext, Rmw.modifySession, different]
  have attachedUnissued : (attached.customSessions session).nextId = fun _ => 0 := by
    simp [← isAttached, Rmw.modifyContext, Rmw.modifySession]
  rw [initEntityPools_eq]
  obtain ⟨initHealthy, initRegistry⟩ := attachedHealthy.initChosen Pool.isEntity
    fun _ _ isEntity isEntity' => isEntity.trans isEntity'.symm
  generalize isOpened : (attached.initChosen cfg Pool.isEntity).modifySession session
    (fun old => { old with transportOpen := true }) = opened
  have openedOthers : ∀ other, other ≠ session →
      opened.customSessions other = s.customSessions other := fun other different => by
    rw [← attachedOthers other different, ← isOpened]
    simp [Rmw.modifySession, Rmw.initChosen, different]
  have openedRegistry : opened.registry = s.registry.attach context (some session) := by
    rw [← isOpened, registry_modifySession, initRegistry, attachedRegistry]
  have graphSame : s.registry.graph session =
      (s.registry.attach context (some session)).graph session := rfl
  cases transport : call.transport with
  | notOpened =>
      simp only [InitCall.opens, transport, yields_ok, reduceCtorEq, decide_false, Bool.false_and,
        Bool.false_eq_true, ↓reduceIte, ne_eq, not_false_eq_true, and_true]
      exact ⟨initHealthy, attachedOthers, _,
        (initRegistry.trans attachedRegistry).trans setGraph_self.symm⟩
  | openedThenFailed =>
      simp only [InitCall.opens, transport, yields_ok, reduceCtorEq, decide_false, Bool.false_and,
        Bool.false_eq_true, ↓reduceIte, ne_eq, not_false_eq_true, and_true]
      exact ⟨isOpened ▸ initHealthy, openedOthers, _, openedRegistry.trans setGraph_self.symm⟩
  | opened =>
      have unissued : (opened.customSessions session).nextId = fun _ => 0 := by
        rw [← attachedUnissued, ← isOpened]
        simp [Rmw.modifySession, Rmw.initChosen]
      simp only [InitCall.opens, transport, decide_true, Bool.true_and]
      refine (openSession_spec (isOpened ▸ initHealthy : opened.Healthy cfg admits)
        (by rw [openedRegistry, inboxes_attach, inboxes]) unissued acceptable).mono ?_
      rintro ⟨ret, last⟩ ⟨lastHealthy, lastOthers, lastRegistry, post⟩
      rw [openedRegistry] at lastRegistry post
      exact ⟨lastHealthy, fun other different =>
        (lastOthers other different).trans (openedOthers other different), lastRegistry, post⟩

/-- `rmw_init` from a sound state ends the way its exit says. -/
theorem rmwInit_spec (healthy : s.Healthy cfg admits) {call : InitCall}
    (acceptable : call.Acceptable cfg admits s.registry) :
    Yields (rmwInit cfg call s) fun result =>
      result.2.Healthy cfg admits ∧
        Initialisation cfg call s result.2 result.1 (initExit cfg call s) := by
  obtain ⟨options, callContext, transport, sessionDeliveries, sessionCreated, graph,
    deletionDeliveries⟩ := call
  cases options with
  | none => exact yields_ok.mpr ⟨healthy, by simp, rfl⟩
  | some options =>
      cases callContext with
      | none => exact yields_ok.mpr ⟨healthy, by simp, rfl⟩
      | some context =>
          simp only [rmwInit, initExit]
          split
          · exact yields_ok.mpr ⟨healthy, by simp, rfl⟩
          rename_i hasImpl
          obtain ⟨id, isId⟩ := Option.isSome_iff_exists.mp
            (options.identified (Decidable.not_not.mp hasImpl))
          simp only [isId, checkTypeIdentifiersMatch, ok_bind, beq_iff_eq, ne_eq,
            Option.some.injEq]
          by_cases foreign : ¬ id = eprosimaMicroxrceddsIdentifier
          · rw [if_neg foreign, if_pos foreign]
            exact yields_ok.mpr ⟨healthy, by simp, rfl⟩
          rw [if_pos (Decidable.not_not.mp foreign), if_neg foreign]
          generalize isCall : InitCall.mk (some options) (some context) transport sessionDeliveries
            sessionCreated graph deletionDeliveries = call at *
          generalize isNamed : s.modifyContext context (fun old =>
            { old with
              implementationIdentifier := some eprosimaMicroxrceddsIdentifier
              actualDomainId := options.domainId }) = named
          have namedHealthy : named.Healthy cfg admits := by
            rw [← isNamed]
            exact healthy.modifyContext _ (Or.inl rfl)
          have namedRegistry : named.registry = s.registry := by
            rw [← isNamed, registry_modifyContext]
            ext1 <;> try rfl
            simp [Rmw.registry]
          obtain ⟨sessionsHealthy, sessionsRegistry⟩ := namedHealthy.initMemory .session rfl
          obtain ⟨poolsHealthy, poolsRegistry⟩ :=
            sessionsHealthy.initMemory .staticBuffer rfl
          generalize isReady : (named.initMemory .session (cfg.poolSize .session)).initMemory
            .staticBuffer (cfg.poolSize .staticBuffer) = ready at poolsHealthy poolsRegistry
          have readyRegistry : ready.registry = s.registry :=
            (poolsRegistry.trans sessionsRegistry).trans namedRegistry
          have readySessions : ready.customSessions = s.customSessions := by
            rw [← isReady, ← isNamed]
            rfl
          have readyFree : hasFreeSession cfg s = !(ready.free .session).isEmpty := by
            rw [← isReady, ← isNamed]
            rfl
          have isStart : (named.initMemory .session cfg.maxSessions).initMemory .staticBuffer
            cfg.maxHistory = ready := isReady
          rw [isStart, readyFree]
          cases isFree : ready.free .session with
          | nil =>
              rw [poolsHealthy.getMemory_of_free_nil isFree]
              exact yields_ok.mpr ⟨poolsHealthy, by simp, readyRegistry, readySessions⟩
          | cons session rest =>
              obtain ⟨mem, taken, takenHealthy, takenRegistry⟩ :=
                poolsHealthy.getMemory_of_free_cons (by decide) isFree
              have free := poolsHealthy.not_mem_of_free (by decide) isFree
              have inside :
                  session ∈ (ready.withMemory .session mem).registry.allocated .session := by
                simp [takenRegistry]
              rw [readyRegistry] at takenRegistry free
              rw [taken]
              simp only [takenHealthy.dataOf_registry inside, ok_bind, List.isEmpty_cons,
                Bool.not_false, Bool.not_true, Bool.false_eq_true, ↓reduceIte]
              have identified : ((ready.withMemory .session mem).contexts context
                  ).implementationIdentifier = some eprosimaMicroxrceddsIdentifier := by
                simp [← isReady, ← isNamed, Rmw.withMemory, Rmw.initMemory, Rmw.modifyContext]
              refine (initContext_spec takenHealthy (by rw [takenRegistry, inboxes_take rfl])
                identified acceptable).mono ?_
              rintro ⟨ret, last⟩ ⟨lastHealthy, lastOthers, ⟨objects, lastRegistry⟩, post⟩
              have others : ∀ other, other ≠ session →
                  last.customSessions other = s.customSessions other := fun other different =>
                (lastOthers other different).trans (congrFun readySessions other)
              rw [takenRegistry] at lastRegistry post
              refine ⟨lastHealthy, ?_⟩
              have isContext : call.context = some context := isCall ▸ rfl
              cases opens : call.opens cfg with
              | false =>
                  simp only [opens, Bool.false_eq_true, ↓reduceIte] at post
                  exact ⟨post, context, session, objects, isContext, free, lastRegistry, others⟩
              | true =>
                  simp only [opens, ↓reduceIte] at post
                  exact ⟨post.1, context, session, isContext, ⟨free, post.2.2, others⟩, post.2.1⟩

end RmwMicroxrcedds
