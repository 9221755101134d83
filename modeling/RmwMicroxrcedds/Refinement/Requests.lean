import RmwMicroxrcedds.Refinement.Node

/-! # What a creation writes

The requests of a session are only added to. A creation that returns a handle has written,
before anything else, the request with the names it was called with; only without room in
the output stream is the request dropped.
-/

namespace RmwMicroxrcedds

open Outcome

variable {cfg : Config} {s s' s'' : Rmw} {session handle : Nat} {request : XrceRequest}

/-- A callback writes to no session. -/
theorem deliver_sessions {delivery : Delivery}
    (returned : deliver cfg session delivery s = .ok s') :
    s'.customSessions = s.customSessions := by
  rcases deliver_returned returned with ⟨-, stored⟩ | ⟨-, mem, buffers, rfl, -⟩
  · unfold storeGraph at stored
    split at stored <;> cases stored
    rfl
  · rfl

/-- Deliveries change no session. -/
theorem deliverAll_sessions {deliveries : List Delivery}
    (returned : deliverAll cfg session deliveries s = .ok s') :
    s'.customSessions = s.customSessions := by
  induction deliveries generalizing s with
  | nil =>
      cases returned
      rfl
  | cons delivery rest ih =>
      obtain ⟨middle, first, returned⟩ := bind_eq_ok.mp returned
      exact (ih returned).trans (deliver_sessions first)

/-- Running a session writes nothing to any. -/
theorem runXrceSession_sessions {exchange : Exchange} {confirmed : Bool}
    (returned : runXrceSession cfg session exchange s = .ok (confirmed, s')) :
    s'.customSessions = s.customSessions := by
  unfold runXrceSession at returned
  split at returned
  · cases returned
    rfl
  · obtain ⟨ran, received, returned⟩ := bind_eq_ok.mp returned
    cases returned
    exact deliverAll_sessions received

/-- No session loses a request. -/
def Extends (s s' : Rmw) : Prop :=
  ∀ session, (s.customSessions session).requests <:+ (s'.customSessions session).requests

/-- From the first state to the second, the request was the first one to be written to its
session. -/
def Writes (s s' : Rmw) (request : XrceRequest) : Prop :=
  ∃ session, request :: (s.customSessions session).requests <:+
    (s'.customSessions session).requests

/-- What changes no session extends its history by nothing. -/
theorem Extends.of_sessions (same : s'.customSessions = s.customSessions) : Extends s s' := by
  intro session
  simp only [same, List.suffix_refl]

/-- A history that is extended twice is extended. -/
theorem Extends.trans (first : Extends s s') (second : Extends s' s'') : Extends s s'' :=
  fun session => (first session).trans (second session)

/-- A request extends the history of its session. -/
theorem extends_uxrBuffer (request : XrceRequest) (room : Bool) :
    Extends s (s.uxrBuffer session request room).2 := by
  intro other
  cases room with
  | false => exact List.suffix_refl _
  | true =>
      by_cases same : other = session
      · subst same
        simp [Rmw.uxrBuffer, Rmw.modifySession]
      · simp [Rmw.uxrBuffer, Rmw.modifySession, same]

/-- Drawing an identifier writes nothing. -/
theorem extends_uxrObjectId (type : ObjectType) :
    Extends s (s.uxrObjectId session type).2 := by
  intro other
  by_cases same : other = session
  · subst same
    simp [Rmw.uxrObjectId, Rmw.modifySession]
  · simp [Rmw.uxrObjectId, Rmw.modifySession, same]

/-- With room in the stream a request is written. -/
theorem writes_uxrBuffer (request : XrceRequest) :
    Writes s (s.uxrBuffer session request true).2 request :=
  ⟨session, by simp [Rmw.uxrBuffer, Rmw.modifySession]⟩

/-- What was written is in every later history. -/
theorem Writes.after (writes : Writes s s' request) (later : Extends s' s'') :
    Writes s s'' request := by
  obtain ⟨session, written⟩ := writes
  exact ⟨session, written.trans (later session)⟩

/-- Object ids may be drawn before the request is written. -/
theorem Writes.before
    (same : ∀ session, (s'.customSessions session).requests = (s.customSessions session).requests)
    (writes : Writes s' s'' request) : Writes s s'' request := by
  obtain ⟨session, written⟩ := writes
  exact ⟨session, same session ▸ written⟩

/-- Drawing an identifier leaves the history. -/
theorem requests_uxrObjectId (type : ObjectType) (other : Nat) :
    ((s.uxrObjectId session type).2.customSessions other).requests =
      (s.customSessions other).requests := by
  by_cases same : other = session
  · subst same
    simp [Rmw.uxrObjectId, Rmw.modifySession]
  · simp [Rmw.uxrObjectId, Rmw.modifySession, same]

/-- What was written from a state with the same sessions was written. -/
theorem Writes.of_sessions (same : s'.customSessions = s.customSessions)
    (writes : Writes s' s'' request) : Writes s s'' request :=
  writes.before fun session => by rw [same]

/-- A session that runs, and what comes after it, keep what was written. -/
theorem extends_run {exchange : Exchange} {confirmed : Bool}
    (returned : runXrceSession cfg session exchange s = .ok (confirmed, s')) : Extends s s' :=
  .of_sessions (runXrceSession_sessions returned)

/-- A topic that is created was asked for with its name and its type. -/
theorem createTopic_writes {customNode topic : Nat} {topicName : CString}
    {callbacks : MessageTypeSupport} {exchange : Exchange}
    (returned : createTopic cfg customNode topicName callbacks exchange s =
      .ok (some topic, s')) :
    ∃ topicId participantId request,
      topicRequest cfg topicId participantId topicName callbacks = some request ∧
        (exchange.room = true → Writes s s' request) := by
  unfold createTopic at returned
  split at returned
  · cases returned
  · rename_i item next first
    obtain rfl : (s.getMemory .topic).2 = next := congrArg Prod.snd first
    obtain ⟨slot, -, returned⟩ := bind_eq_ok.mp returned
    obtain ⟨context, -, returned⟩ := bind_eq_ok.mp returned
    dsimp only at returned
    split at returned
    · cases returned
    · rename_i request isRequest
      obtain ⟨⟨confirmed, ran⟩, runs, returned⟩ := bind_eq_ok.mp returned
      dsimp only at returned
      split at returned
      · cases returned
        refine ⟨_, _, request, isRequest, fun room => ?_⟩
        rw [room] at runs
        refine Writes.before ?_ ((writes_uxrBuffer request).after (extends_run runs))
        exact requests_uxrObjectId .topic
      · cases returned

/-- The clean-up behind the label `fail` returns null. -/
theorem fail_ne_some {pool : Pool} {block : Nat} :
    (finiMemory pool block s >>= fun s => .ok (none, s) : Exec (Option Nat × Rmw)) ≠
      .ok (some handle, s') := by
  intro returned
  obtain ⟨last, -, returned⟩ := bind_eq_ok.mp returned
  cases returned

/-- Creating a data writer extends the history. -/
theorem createDatawriter_extends {call : PublisherCall} {topicName : CString} {qos : QosProfile}
    {rmwPublisher customPublisher customNode context : Nat}
    (returned : createDatawriter cfg call topicName qos rmwPublisher customPublisher customNode
      context s = .ok (some handle, s')) : Extends s s' := by
  unfold createDatawriter at returned
  dsimp only at returned
  obtain ⟨⟨created, first⟩, runs, returned⟩ := bind_eq_ok.mp returned
  have before : Extends s first := by
    refine Extends.trans ?_ ((extends_uxrBuffer _ _).trans (extends_run runs))
    exact extends_uxrObjectId .publisher
  dsimp only at returned
  split at returned
  · obtain ⟨contents, -, returned⟩ := bind_eq_ok.mp returned
    obtain ⟨topic, -, returned⟩ := bind_eq_ok.mp returned
    split at returned
    · exact absurd returned fail_ne_some
    · obtain ⟨⟨created', second⟩, runs', returned⟩ := bind_eq_ok.mp returned
      dsimp only at returned
      split at returned
      · cases returned
        refine before.trans (Extends.trans ?_ ((extends_uxrBuffer _ _).trans (extends_run runs')))
        exact extends_uxrObjectId .datawriter
      · exact absurd returned fail_ne_some
  · exact absurd returned fail_ne_some

/-- Creating a data reader extends the history. -/
theorem createDatareader_extends {call : SubscriptionCall} {topicName : CString}
    {qos : QosProfile} {rmwSubscription customSubscription customNode context : Nat}
    (returned : createDatareader cfg call topicName qos rmwSubscription customSubscription
      customNode context s = .ok (some handle, s')) : Extends s s' := by
  unfold createDatareader at returned
  dsimp only at returned
  obtain ⟨⟨created, first⟩, runs, returned⟩ := bind_eq_ok.mp returned
  have before : Extends s first := by
    refine Extends.trans ?_ ((extends_uxrBuffer _ _).trans (extends_run runs))
    exact extends_uxrObjectId .subscriber
  dsimp only at returned
  split at returned
  · obtain ⟨topic, -, returned⟩ := bind_eq_ok.mp returned
    split at returned
    · exact absurd returned fail_ne_some
    · obtain ⟨⟨created', second⟩, runs', returned⟩ := bind_eq_ok.mp returned
      have middle : Extends first second := by
        refine Extends.trans ?_ ((extends_uxrBuffer _ _).trans (extends_run runs'))
        exact extends_uxrObjectId .datareader
      dsimp only at returned
      split at returned
      · obtain ⟨contents, -, returned⟩ := bind_eq_ok.mp returned
        cases returned
        refine before.trans (middle.trans ?_)
        exact extends_uxrBuffer (s := second.storeHandle .subscription handle _) _ _
      · exact absurd returned fail_ne_some
  · exact absurd returned fail_ne_some

/-- The topic of a publisher or a subscription that is created was asked for with the name and the
type of the call. -/
def AsksForTopic (cfg : Config) (s s' : Rmw) (exchange : Exchange) (topicName : CString)
    (callbacks : MessageTypeSupport) : Prop :=
  ∃ topicId participantId request,
    topicRequest cfg topicId participantId topicName callbacks = some request ∧
      (exchange.room = true → Writes s s' request)

/-- A publisher that is filled has asked for its topic. -/
theorem fillPublisher_writes {call : PublisherCall}
    {typeSupport : TypeSupportHandle MessageTypeSupport} {topicName : CString} {qos : QosProfile}
    {rmwPublisher customPublisher : Nat} {nodeData : Option Nat}
    (returned : fillPublisher cfg call typeSupport topicName qos rmwPublisher customPublisher
      nodeData s = .ok (some handle, s')) :
    ∃ callbacks, typeSupport = .found callbacks ∧
      AsksForTopic cfg s s' call.topic topicName callbacks := by
  unfold fillPublisher at returned
  obtain ⟨customNode, -, returned⟩ := bind_eq_ok.mp returned
  obtain ⟨context, -, returned⟩ := bind_eq_ok.mp returned
  cases typeSupport with
  | undefined => exact absurd returned fail_ne_some
  | nullData => exact absurd returned fail_ne_some
  | found callbacks =>
      obtain ⟨⟨topic, middle⟩, created, returned⟩ := bind_eq_ok.mp returned
      cases topic with
      | none => exact absurd returned fail_ne_some
      | some topic =>
          obtain ⟨topicId, participantId, request, isRequest, writes⟩ := createTopic_writes created
          refine ⟨callbacks, rfl, topicId, participantId, request, isRequest, fun room => ?_⟩
          simp only [Option.isSome_some, ↓reduceIte] at returned
          have later := createDatawriter_extends returned
          exact (writes room).after later

/-- A subscription that is filled has asked for its topic. -/
theorem fillSubscription_writes {call : SubscriptionCall}
    {typeSupport : TypeSupportHandle MessageTypeSupport} {topicName : CString} {qos : QosProfile}
    {rmwSubscription customSubscription : Nat} {nodeData : Option Nat}
    (returned : fillSubscription cfg call typeSupport topicName qos rmwSubscription
      customSubscription nodeData s = .ok (some handle, s')) :
    ∃ callbacks, typeSupport = .found callbacks ∧
      AsksForTopic cfg s s' call.topic topicName callbacks := by
  unfold fillSubscription at returned
  cases typeSupport with
  | undefined => exact absurd returned fail_ne_some
  | nullData => exact absurd returned fail_ne_some
  | found callbacks =>
      obtain ⟨customNode, -, returned⟩ := bind_eq_ok.mp returned
      obtain ⟨⟨topic, middle⟩, created, returned⟩ := bind_eq_ok.mp returned
      cases topic with
      | none => exact absurd returned fail_ne_some
      | some topic =>
          obtain ⟨context, -, returned⟩ := bind_eq_ok.mp returned
          obtain ⟨topicId, participantId, request, isRequest, writes⟩ := createTopic_writes created
          refine ⟨callbacks, rfl, topicId, participantId, request, isRequest, fun room => ?_⟩
          have later := createDatareader_extends returned
          exact (writes room).after later

/-- A publisher that is returned was asked for with its topic. -/
theorem rmwCreatePublisher_writes {call : PublisherCall}
    (returned : rmwCreatePublisher cfg call s = .ok (some handle, s')) :
    ∃ topicName callbacks, call.topicName = some topicName ∧
      call.typeSupport = some (.found callbacks) ∧
      AsksForTopic cfg s s' call.topic topicName callbacks := by
  unfold rmwCreatePublisher at returned
  split at returned
  · rename_i node typeSupport isNode isTyped
    obtain ⟨contents, -, returned⟩ := bind_eq_ok.mp returned
    split at returned
    · split at returned
      · rename_i first rest qos isName isQos
        dsimp only at returned
        split at returned
        · split at returned
          · split at returned
            · exact absurd returned fail_ne_some
            · rename_i item next taken
              obtain rfl := congrArg Prod.snd taken
              obtain ⟨slot, -, returned⟩ := bind_eq_ok.mp returned
              obtain ⟨callbacks, rfl, asks⟩ := fillPublisher_writes returned
              exact ⟨_, callbacks, isName, isTyped, asks⟩
          · exact absurd returned fail_ne_some
        · cases returned
      · cases returned
    · cases returned
  · cases returned

/-- A subscription that is returned was asked for with its topic. -/
theorem rmwCreateSubscription_writes {call : SubscriptionCall}
    (returned : rmwCreateSubscription cfg call s = .ok (some handle, s')) :
    ∃ topicName callbacks, call.topicName = some topicName ∧
      call.typeSupport = some (.found callbacks) ∧
      AsksForTopic cfg s s' call.topic topicName callbacks := by
  unfold rmwCreateSubscription at returned
  split at returned
  · rename_i node typeSupport isNode isTyped
    obtain ⟨contents, -, returned⟩ := bind_eq_ok.mp returned
    split at returned
    · split at returned
      · rename_i first rest qos isName isQos
        dsimp only at returned
        split at returned
        · split at returned
          · split at returned
            · exact absurd returned fail_ne_some
            · rename_i item next taken
              obtain rfl := congrArg Prod.snd taken
              obtain ⟨slot, -, returned⟩ := bind_eq_ok.mp returned
              obtain ⟨callbacks, rfl, asks⟩ := fillSubscription_writes returned
              exact ⟨_, callbacks, isName, isTyped, asks⟩
          · exact absurd returned fail_ne_some
        · cases returned
      · cases returned
    · cases returned
  · cases returned

/-- A node that is created has a participant that was asked for with its names. -/
theorem rmwCreateNode_writes {call : NodeCall}
    (returned : rmwCreateNode cfg call s = .ok (some handle, s')) :
    ∃ name namespace_ participantId domain request, call.name = some name ∧
      call.namespace_ = some namespace_ ∧
      participantRequest cfg participantId domain name namespace_ = some request ∧
        (call.exchange.room = true → Writes s s' request) := by
  unfold rmwCreateNode at returned
  split at returned
  · rename_i first rest first' rest' isName isNamespace
    obtain ⟨context, -, returned⟩ := bind_eq_ok.mp returned
    unfold createNode at returned
    split at returned
    · cases returned
    · rename_i item next taken
      obtain rfl := congrArg Prod.snd taken
      obtain ⟨slot, -, returned⟩ := bind_eq_ok.mp returned
      dsimp only at returned
      split at returned
      · split at returned
        · unfold createParticipant at returned
          obtain ⟨session, -, returned⟩ := bind_eq_ok.mp returned
          dsimp only at returned
          split at returned
          · cases returned
          · rename_i request isRequest
            obtain ⟨⟨created, ran⟩, runs, returned⟩ := bind_eq_ok.mp returned
            dsimp only at returned
            split at returned
            · cases returned
              refine ⟨_, _, _, _, request, isName, isNamespace, isRequest, fun room => ?_⟩
              rw [room] at runs
              refine Writes.before ?_ ((writes_uxrBuffer request).after (extends_run runs))
              exact requests_uxrObjectId .participant
            · obtain ⟨last, -, returned⟩ := bind_eq_ok.mp returned
              cases returned
        · obtain ⟨last, -, returned⟩ := bind_eq_ok.mp returned
          cases returned
      · cases returned
  · cases returned

/-- A service or a client that is returned was asked for. -/
theorem createEndpointOnAgent_writes {kind : EndpointKind} {call : EndpointCall}
    {members : ServiceTypeSupport} {serviceName : CString} {qos : QosProfile}
    {block entity customNode context : Nat}
    (returned : createEndpointOnAgent cfg kind call members serviceName qos block entity customNode
      context s = .ok (some handle, s')) :
    ∃ objectId participantId request,
      endpointRequest cfg kind objectId participantId serviceName members qos = some request ∧
        (call.creation.room = true → Writes s s' request) := by
  unfold createEndpointOnAgent at returned
  dsimp only at returned
  split at returned
  · exact absurd returned fail_ne_some
  · rename_i request isRequest
    obtain ⟨contents, -, returned⟩ := bind_eq_ok.mp returned
    obtain ⟨⟨created, ran⟩, runs, returned⟩ := bind_eq_ok.mp returned
    dsimp only at returned
    split at returned
    · cases returned
      refine ⟨_, _, request, isRequest, fun room => ?_⟩
      rw [room] at runs
      have sent : Writes s ran request := by
        have later := extends_run runs
        refine Writes.before (fun other => ?_) ((writes_uxrBuffer request).after later)
        rw [Rmw.modifyEndpoint_sessions]
        exact requests_uxrObjectId kind.objectType other
      refine sent.after (Extends.trans ?_ (.of_sessions (Rmw.modifyEndpoint_sessions _)))
      refine Extends.trans ?_ (extends_uxrBuffer _ _)
      exact .of_sessions (Rmw.modifyEndpoint_sessions _)
    · exact absurd returned fail_ne_some

/-- A service or a client that is created was asked for with the name and the types of the call. -/
theorem createEndpoint_writes {kind : EndpointKind} {call : EndpointCall}
    (returned : createEndpoint cfg kind call s = .ok (some handle, s')) :
    ∃ serviceName members qos objectId participantId request, call.serviceName = some serviceName ∧
      call.typeSupport = some (.found members) ∧ call.qos = some qos ∧
      endpointRequest cfg kind objectId participantId serviceName members qos = some request ∧
        (call.creation.room = true → Writes s s' request) := by
  unfold createEndpoint at returned
  split at returned
  · rename_i node typeSupport isNode isTyped
    obtain ⟨contents, -, returned⟩ := bind_eq_ok.mp returned
    split at returned
    · split at returned
      · rename_i first rest qos isName isQos
        dsimp only at returned
        split at returned
        · split at returned
          · split at returned
            · exact absurd returned fail_ne_some
            · rename_i item next taken
              obtain rfl := congrArg Prod.snd taken
              obtain ⟨slot, -, returned⟩ := bind_eq_ok.mp returned
              unfold fillEndpoint at returned
              cases typeSupport with
              | undefined => exact absurd returned fail_ne_some
              | nullData => exact absurd returned fail_ne_some
              | found members =>
                  obtain ⟨customNode, -, returned⟩ := bind_eq_ok.mp returned
                  obtain ⟨context, -, returned⟩ := bind_eq_ok.mp returned
                  obtain ⟨objectId, participantId, request, isRequest, writes⟩ :=
                    createEndpointOnAgent_writes returned
                  refine ⟨_, members, qos, objectId, participantId, request, isName, isTyped, isQos,
                    isRequest, fun room => Writes.of_sessions ?_ (writes room)⟩
                  rw [Rmw.modifyEndpoint_sessions, Rmw.modifyEndpoint_sessions]
                  rfl
          · exact absurd returned fail_ne_some
        · cases returned
      · cases returned
    · cases returned
  · cases returned

end RmwMicroxrcedds
