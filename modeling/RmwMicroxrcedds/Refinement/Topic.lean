import Mathlib.Data.List.Find
import RmwMicroxrcedds.Refinement.Reception
import RmwMicroxrcedds.Registry.Agrees

/-! # Topics refine the registry

What `create_topic`, `destroy_topic` and the `rmw_uxrce_fini_*_memory` functions do to
the registry. The postconditions also say that the id counters of a session only grow
while it is in use, and that a new identifier is one of the numbers passed over.
-/

namespace RmwMicroxrcedds

open Outcome

variable {cfg : Config} {admits : Admission} {s s' s'' : Rmw}
variable {pool : Pool} {handle slot node session topic : Nat}

/-- The counters of every session grow. -/
structure Advances (sessions sessions' : Nat → Session) : Prop where
  nextId : ∀ session type, (sessions session).nextId type ≤ (sessions' session).nextId type
  lastRequestId : ∀ session,
    (sessions session).lastRequestId ≤ (sessions' session).lastRequestId

/-- The counters grow from one state to the other. -/
def Advance (s s' : Rmw) : Prop := Advances s.customSessions s'.customSessions

/-- Counters stay where they are while no session changes. -/
theorem Advance.of_sessions (same : s'.customSessions = s.customSessions) : Advance s s' := by
  constructor <;> simp [same]

theorem Advance.refl (s : Rmw) : Advance s s := .of_sessions rfl

/-- Counters that advance twice advance. -/
theorem Advance.trans (first : Advance s s') (second : Advance s' s'') : Advance s s'' where
  nextId := fun session type =>
    Nat.le_trans (first.nextId session type) (second.nextId session type)
  lastRequestId := fun session =>
    Nat.le_trans (first.lastRequestId session) (second.lastRequestId session)

/-- A request advances the counter of requests. -/
theorem advance_uxrBuffer (request : XrceRequest) (room : Bool) :
    Advance s (s.uxrBuffer session request room).2 := by
  cases room with
  | false => exact .refl s
  | true =>
      constructor
      · intro other type
        by_cases same : other = session <;> simp [Rmw.uxrBuffer, Rmw.modifySession, same]
      · intro other
        by_cases same : other = session <;> simp [Rmw.uxrBuffer, Rmw.modifySession, same]

/-- An identifier advances the counter of its type. -/
theorem advance_uxrObjectId (type : ObjectType) : Advance s (s.uxrObjectId session type).2 := by
  constructor
  · intro other type'
    by_cases same : other = session
    · subst same
      by_cases same' : type' = type <;>
        simp [Rmw.uxrObjectId, Rmw.modifySession, same']
    · simp [Rmw.uxrObjectId, Rmw.modifySession, same]
  · intro other
    by_cases same : other = session <;> simp [Rmw.uxrObjectId, Rmw.modifySession, same]

/-- No counter but the one of this kind changes. -/
def IssuesOnly (type : ObjectType) (s s' : Rmw) : Prop :=
  ∀ session other, other ≠ type →
    (s'.customSessions session).nextId other = (s.customSessions session).nextId other

/-- What changes no session issues nothing. -/
theorem IssuesOnly.of_sessions {type : ObjectType} (same : s'.customSessions = s.customSessions) :
    IssuesOnly type s s' := fun _ _ _ => by rw [same]

/-- What issues only one type twice issues only that type. -/
theorem IssuesOnly.trans {type : ObjectType} (first : IssuesOnly type s s')
    (second : IssuesOnly type s' s'') : IssuesOnly type s s'' := fun session other different =>
  (second session other different).trans (first session other different)

/-- An identifier is issued of its own type only. -/
theorem issuesOnly_uxrObjectId (type : ObjectType) :
    IssuesOnly type s (s.uxrObjectId session type).2 := by
  intro other type' different
  by_cases same : other = session <;> simp [Rmw.uxrObjectId, Rmw.modifySession, same, different]

/-- A request issues no identifier. -/
theorem issuesOnly_uxrBuffer {type : ObjectType} (request : XrceRequest) (room : Bool) :
    IssuesOnly type s (s.uxrBuffer session request room).2 := by
  intro other type' _
  cases room with
  | false => rfl
  | true => by_cases same : other = session <;> simp [Rmw.uxrBuffer, Rmw.modifySession, same]

/-- The identifier was handed out by the session in between. -/
def Issued (s s' : Rmw) (session : Nat) (object : ObjectId) : Prop :=
  (s.customSessions session).nextId object.type ≤ object.id ∧
    object.id < (s'.customSessions session).nextId object.type

/-- The identifier that is drawn was issued. -/
theorem issued_uxrObjectId (type : ObjectType) :
    Issued s (s.uxrObjectId session type).2 session (s.uxrObjectId session type).1 := by
  simp [Issued, Rmw.uxrObjectId, Rmw.modifySession]

/-- An identifier that was issued still is, later on. -/
theorem Issued.after {object : ObjectId} (issued : Issued s s' session object)
    (later : Advance s' s'') : Issued s s'' session object :=
  ⟨issued.1, Nat.lt_of_lt_of_le issued.2 (later.nextId _ _)⟩

/-- An identifier that is issued later was issued since. -/
theorem Issued.before {object : ObjectId} (earlier : Advance s s')
    (issued : Issued s' s'' session object) : Issued s s'' session object :=
  ⟨Nat.le_trans (earlier.nextId _ _) issued.1, issued.2⟩

private theorem map_find?_congr {α : Type} {items : List Nat} {test test' : Nat → Bool}
    {image image' : Nat → α} (tests : ∀ item ∈ items, test item = test' item)
    (images : ∀ item ∈ items, image item = image' item) :
    (items.find? test).map image = (items.find? test').map image' := by
  rw [List.find?_congr tests]
  cases found : items.find? test' with
  | none => rfl
  | some item => simp [images item (List.mem_of_find?_eq_some found)]

/-- Who a message is for only depends on the inboxes. -/
theorem addressee_inboxes (r : Registry) (session : Nat) (delivery : Delivery) :
    r.inboxes.addressee cfg session delivery = r.addressee cfg session delivery := by
  have entity : ∀ pool, pool.hasInbox = true → ∀ slot ∈ r.allocated pool,
      r.inboxes.entity pool slot = r.entity pool slot := fun pool inbox slot inside => by
    simp [Registry.inboxes, inbox, inside]
  have endpoint : ∀ (kind : EndpointKind) requestId,
      Registry.addressee.endpoint r.inboxes kind requestId =
        Registry.addressee.endpoint r kind requestId := by
    intro kind requestId
    have inbox : kind.pool.hasInbox = true := by cases kind <;> rfl
    simp only [Registry.addressee.endpoint]
    rw [show r.inboxes.allocated kind.pool = r.allocated kind.pool by
      simp [Registry.inboxes, inbox]]
    refine map_find?_congr (fun slot inside => ?_) fun slot inside => ?_ <;>
      rw [entity _ inbox slot inside]
  cases delivery with
  | topic objectId stream length =>
      simp only [Registry.addressee]
      have outer : ∀ {α : Type} {p : Prop} [Decidable p] {a b b' : α}, b = b' →
          (if p then a else b) = if p then a else b' := fun same => by rw [same]
      refine outer (map_find?_congr (fun slot inside => ?_) fun slot inside => ?_) <;>
        rw [entity _ rfl slot inside]
  | request requestId sampleId stream length => exact endpoint .service requestId
  | reply requestId replyId stream length => exact endpoint .client requestId

/-- What is acceptable depends on the receivers only. -/
theorem Acceptable.congr {r r' : Registry} {delivery : Delivery}
    (acceptable : Acceptable cfg admits r session delivery) (same : r'.inboxes = r.inboxes) :
    Acceptable cfg admits r' session delivery := by
  refine ⟨acceptable.fits, fun owner provenance isAddressee => ?_⟩
  rw [← addressee_inboxes, same, addressee_inboxes] at isAddressee
  exact acceptable.admitted owner provenance isAddressee

/-- Every message of an exchange may arrive. -/
def Exchange.Acceptable (cfg : Config) (admits : Admission) (r : Registry) (session : Nat)
    (exchange : Exchange) : Prop :=
  ∀ delivery ∈ exchange.deliveries, RmwMicroxrcedds.Acceptable cfg admits r session delivery

/-- So does what is acceptable during an exchange. -/
theorem Exchange.Acceptable.congr {r r' : Registry} {exchange : Exchange}
    (acceptable : exchange.Acceptable cfg admits r session) (same : r'.inboxes = r.inboxes) :
    exchange.Acceptable cfg admits r' session :=
  fun delivery inside => (acceptable delivery inside).congr same

/-- What is acceptable stays so when more is admitted. -/
theorem Exchange.Acceptable.mono {r : Registry} {exchange : Exchange} {admits' : Admission}
    (acceptable : exchange.Acceptable cfg admits r session) (within : admits.Within admits') :
    exchange.Acceptable cfg admits' r session :=
  fun delivery inside => (acceptable delivery inside).mono within

/-- No message arrives. -/
theorem Exchange.acceptable_of_quiet {r : Registry} {exchange : Exchange}
    (quiet : exchange.deliveries = []) : exchange.Acceptable cfg admits r session := by
  intro delivery inside
  rw [quiet] at inside
  cases inside

/-- A request is written and the session runs: the exchange tells whether it is confirmed, and no
entity notices. -/
theorem requestExchange_spec (healthy : s.Healthy cfg admits) {exchange : Exchange}
    {base : Registry} (request : XrceRequest)
    (acceptable : exchange.Acceptable cfg admits base session)
    (same : s.registry.inboxes = base.inboxes) :
    Yields (runXrceSession cfg session exchange (s.uxrBuffer session request exchange.room).2)
      fun result =>
        result.1 = exchange.succeeds cfg ∧ result.2.Healthy cfg admits ∧
        result.2.registry = s.registry ∧ Advance s result.2 ∧
        ∀ type, IssuesOnly type s result.2 := by
  refine (runXrceSession_spec ((healthy_uxrBuffer _ _).mpr healthy)
    (acceptable.congr (by rw [registry_uxrBuffer, same]))).mono ?_
  rintro ⟨confirmed, last⟩ ⟨isConfirmed, lastHealthy, undisturbed⟩
  refine ⟨isConfirmed, lastHealthy, undisturbed.registry.trans (registry_uxrBuffer _ _),
    (advance_uxrBuffer _ _).trans (.of_sessions undisturbed.sessions), fun type => ?_⟩
  exact (issuesOnly_uxrBuffer _ _).trans (.of_sessions undisturbed.sessions)

/-- The profile reference of a topic fits its buffer. -/
def topicFits (cfg : Config) (topicName : CString) : Bool :=
  !cfg.useRefs || (buildTopicProfile topicName cfg.entityNamingBufferLength).isSome

/-- The request for a topic is made if and only if its name fits. -/
theorem topicRequest_isSome (cfg : Config) (topicId participantId : ObjectId) (topicName : CString)
    (callbacks : MessageTypeSupport) :
    (topicRequest cfg topicId participantId topicName callbacks).isSome =
      topicFits cfg topicName := by
  unfold topicRequest topicFits
  split <;> simp_all

/-- Whether `create_topic` returns a topic. -/
def createsTopic (cfg : Config) (topicName : CString) (exchange : Exchange) (s : Rmw) : Bool :=
  !(s.free .topic).isEmpty && topicFits cfg topicName && exchange.succeeds cfg

/-- `create_topic` returns a new topic of the node, or leaves no topic behind. -/
theorem createTopic_spec (healthy : s.Healthy cfg admits) {topicName : CString}
    {callbacks : MessageTypeSupport} {exchange : Exchange}
    (context : (s.customNodes node).context = some session)
    (acceptable : exchange.Acceptable cfg admits s.registry session) :
    Yields (createTopic cfg node topicName callbacks exchange s) fun result =>
      result.2.Healthy cfg admits ∧ Advance s result.2 ∧ IssuesOnly .topic s result.2 ∧
        if createsTopic cfg topicName exchange s then
          ∃ topic entity, topic ∉ s.registry.allocated .topic ∧ result.1 = some topic ∧
            entity.ownerNode = some node ∧ entity.topicId.type = .topic ∧
            Issued s result.2 session entity.topicId ∧
            result.2.registry = (s.registry.fill .topic topic (.topic entity)).take .topic topic
        else result.1 = none ∧ s.registry.Agrees result.2.registry := by
  cases isFree : s.free .topic with
  | nil =>
      have none := healthy.getMemory_of_free_nil isFree
      simp only [createTopic, none, createsTopic, isFree]
      exact yields_ok.mpr ⟨healthy, .refl s, .of_sessions rfl, rfl, .refl _⟩
  | cons topic rest =>
      obtain ⟨mem, taken, takenHealthy, takenRegistry⟩ :=
        healthy.getMemory_of_free_cons (by decide) isFree
      have free := healthy.not_mem_of_free (by decide) isFree
      have inside : topic ∈ (s.withMemory .topic mem).registry.allocated .topic := by
        simp [takenRegistry]
      have isContext : ((s.withMemory .topic mem).customNodes node).context = some session :=
        context
      simp only [createTopic, taken, takenHealthy.dataOf_registry inside, isContext, deref, ok_bind,
        createsTopic, isFree, List.isEmpty_cons, Bool.not_false, Bool.true_and]
      -- the state once the topic is filled in, before anything is sent
      generalize isFilled :
        ((s.withMemory .topic mem).uxrObjectId session .topic).2.modifyTopic topic
        (fun _ => { ownerNode := some node, messageTypeSupportCallbacks := some callbacks,
                    topicId := ((s.withMemory .topic mem).uxrObjectId session .topic).1 }) = filled
      have filledHealthy : filled.Healthy cfg admits := by
        rw [← isFilled]
        exact takenHealthy
      have filledRegistry : ∃ entity : Topic, entity.ownerNode = some node ∧
          entity.topicId = ((s.withMemory .topic mem).uxrObjectId session .topic).1 ∧
          filled.registry = (s.registry.fill .topic topic (.topic entity)).take .topic topic := by
        rw [← isFilled, registry_modifyTopic, registry_uxrObjectId, takenRegistry]
        exact ⟨_, rfl, rfl, rfl⟩
      have filledAdvance : Advance s filled := by
        rw [← isFilled]
        exact advance_uxrObjectId (s := s.withMemory .topic mem) .topic
      have filledIssues : IssuesOnly .topic s filled := by
        rw [← isFilled]
        exact issuesOnly_uxrObjectId (s := s.withMemory .topic mem) .topic
      have filledIssued : Issued s filled session
          ((s.withMemory .topic mem).uxrObjectId session .topic).1 := by
        rw [← isFilled]
        exact issued_uxrObjectId (s := s.withMemory .topic mem) .topic
      obtain ⟨entity, owner, isId, filledRegistry⟩ := filledRegistry
      have isFit := topicRequest_isSome cfg
        ((s.withMemory .topic mem).uxrObjectId session .topic).1
        (filled.customNodes node).participantId topicName callbacks
      -- giving the topic back leaves its slot written and nothing else
      have released : ∀ {last : Rmw}, last.Healthy cfg admits → last.registry = filled.registry →
          (rmwUxrceFiniTopicMemory topic last).Healthy cfg admits ∧
            s.registry.Agrees (rmwUxrceFiniTopicMemory topic last).registry := by
        intro last lastHealthy lastRegistry
        have held : topic ∈ last.registry.allocated .topic := by simp [lastRegistry, filledRegistry]
        obtain ⟨putHealthy, putRegistry⟩ := lastHealthy.putMemory (by decide) held
        refine ⟨putHealthy, ?_⟩
        rw [rmwUxrceFiniTopicMemory, registry_modifyTopic, putRegistry, lastRegistry,
          filledRegistry, Registry.take_release]
        exact (Registry.Agrees.fill_free free).trans (.fill_free free)
      cases isRequest : topicRequest cfg ((s.withMemory .topic mem).uxrObjectId session .topic).1
          (filled.customNodes node).participantId topicName callbacks with
      | none =>
          rw [isRequest] at isFit
          simp only [← isFit, Option.isSome_none, Bool.false_and, Bool.false_eq_true, ↓reduceIte]
          obtain ⟨healthy', agrees⟩ := released filledHealthy rfl
          exact yields_ok.mpr ⟨healthy', filledAdvance.trans (.of_sessions rfl),
            filledIssues.trans (.of_sessions rfl), rfl, agrees⟩
      | some request =>
          rw [isRequest] at isFit
          simp only [← isFit, Option.isSome_some, Bool.true_and]
          refine (requestExchange_spec filledHealthy request acceptable (by
            rw [filledRegistry, Registry.inboxes_take rfl, Registry.inboxes_fill rfl])).bind ?_
          rintro ⟨confirmed, last⟩ ⟨rfl, lastHealthy, lastRegistry, lastAdvance, issues⟩
          have lastIssues := issues .topic
          cases exchange.succeeds cfg with
          | true =>
              refine yields_ok.mpr ⟨lastHealthy, filledAdvance.trans lastAdvance,
                filledIssues.trans lastIssues, topic, entity, free, rfl, owner, by rw [isId]; rfl,
                ?_,
                lastRegistry.trans filledRegistry⟩
              rw [isId]
              exact filledIssued.after lastAdvance
          | false =>
              obtain ⟨healthy', agrees⟩ := released lastHealthy lastRegistry
              exact yields_ok.mpr ⟨healthy',
                (filledAdvance.trans lastAdvance).trans (.of_sessions rfl),
                (filledIssues.trans lastIssues).trans (.of_sessions rfl), rfl, agrees⟩

/-- `destroy_topic` on an allocated topic gives its slot back, confirmed or not. -/
theorem destroyTopic_spec (healthy : s.Healthy cfg admits) {exchange : Exchange}
    (inside : topic ∈ s.registry.allocated .topic)
    (owner : (s.customTopics topic).ownerNode = some node)
    (context : (s.customNodes node).context = some session)
    (acceptable : exchange.Acceptable cfg admits s.registry session) :
    Yields (destroyTopic cfg topic exchange s) fun result =>
      result.2.Healthy cfg admits ∧ Advance s result.2 ∧
        (s.registry.release .topic topic).Agrees result.2.registry := by
  simp only [destroyTopic, owner, context, deref, ok_bind]
  refine (requestExchange_spec healthy _ acceptable rfl).bind ?_
  rintro ⟨confirmed, last⟩ ⟨rfl, lastHealthy, lastRegistry, lastAdvance, -⟩
  obtain ⟨putHealthy, putRegistry⟩ := lastHealthy.putMemory (by decide) (lastRegistry ▸ inside)
  refine yields_ok.mpr ⟨putHealthy, lastAdvance, ?_⟩
  rw [rmwUxrceFiniTopicMemory, registry_modifyTopic, putRegistry, lastRegistry]
  refine .fill_free ?_
  simp only [Registry.release_allocated, Function.update_self]
  exact healthy.nodup.not_mem_erase

private theorem countAllocated_eq {mem : Mempool} {test : Nat → Bool} {items : List Nat}
    {head prev : Option Nat} (segment : IntrusiveList.Segment mem.links prev head items)
    (data : ∀ item ∈ items, mem.data item = some item) :
    ∀ {fuel : Nat}, items.length ≤ fuel →
      countAllocated mem test fuel head = .ok (items.countP test) := by
  induction items generalizing head prev with
  | nil =>
      intro fuel _
      rw [segment.head_eq]
      cases fuel <;> rfl
  | cons item items ih =>
      intro fuel enough
      obtain ⟨rfl, _, after⟩ := IntrusiveList.segment_cons.mp segment
      cases fuel with
      | zero => cases enough
      | succ fuel =>
          have isData := data item List.mem_cons_self
          have tail := ih after (fun item inside => data item (List.mem_cons_of_mem _ inside))
            (Nat.le_of_succ_le_succ enough)
          simp only [countAllocated, isData, deref, tail, ok_bind, List.countP_cons]

/-- `topic_count` counts the allocated publishers and subscriptions of the node that have a
topic. -/
theorem topicCount_eq (healthy : s.Healthy cfg admits) :
    topicCount node s = .ok (
      (s.allocated .publisher).countP (fun slot =>
        (s.customPublishers slot).ownerNode == some node &&
          (s.customPublishers slot).topic.isSome) +
      (s.allocated .subscription).countP fun slot =>
        (s.customSubscriptions slot).ownerNode == some node &&
          (s.customSubscriptions slot).topic.isSome) := by
  have counts : ∀ (pool : Pool) (test : Nat → Bool),
      countAllocated (s.memory pool) test (s.memory pool).size (s.memory pool).allocateditems =
        .ok ((s.allocated pool).countP test) := by
    intro pool test
    have wf := healthy.wf pool
    refine countAllocated_eq wf.allocated_segment (fun item inside => wf.data_eq inside) ?_
    have total := wf.length_add
    omega
  simp only [topicCount, counts, ok_bind]

end RmwMicroxrcedds
