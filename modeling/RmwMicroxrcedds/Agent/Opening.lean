import RmwMicroxrcedds.Agent.Creations

/-! # What a session is opened with

A session starts with no requests. If the graph is built in, `rmw_init` succeeds only after the
four requests of `rmw_graph_init` were written, and they are all.
-/

namespace RmwMicroxrcedds

open Outcome Registry

variable {cfg : Config} {s s' : Rmw} {session context : Nat}

/-- Every request of `rmw_graph_init` that creates an object found room. -/
structure GraphExchange.Roomy (exchange : GraphExchange) : Prop where
  participant : exchange.participantRoom = true
  subscriber : exchange.subscriberRoom = true
  topic : exchange.topicRoom = true
  datareader : exchange.datareaderRoom = true

/-- The requests of `rmw_graph_init`, the newest first. -/
def graphRequests (cfg : Config) (objects : GraphObjects) : List XrceRequest :=
  [.createDatareaderXml objects.datareaderId objects.subscriberId
      (buildDatareaderXml cfg graphTopicName cfg.graphTypeSupport graphSubscriptionQosPolicies
        cfg.entityNamingBufferLength).1,
    .createTopicXml objects.topicId objects.participantId
      (buildTopicXml cfg graphTopicName cfg.graphTypeSupport graphSubscriptionQosPolicies
        cfg.entityNamingBufferLength).1,
    .createSubscriberXml objects.subscriberId objects.participantId buildSubscriberXml.1,
    .createParticipantBin objects.participantId 0 (cstr "microros_graph")]

/-- The requests of a new session that was opened. -/
def openingRequests (cfg : Config) : List XrceRequest :=
  if cfg.graph then graphRequests cfg firstGraphObjects else []

/-- The first two requests. -/
theorem numberGraph_requests {exchange : GraphExchange} (roomy : exchange.Roomy)
    (unissued : (s.customSessions session).nextId = fun _ => 0)
    (empty : (s.customSessions session).requests = []) :
    (numberGraph session exchange s).contexts = s.contexts ∧
    ((numberGraph session exchange s).graphInfo session).objects = firstGraphObjects ∧
    ((numberGraph session exchange s).customSessions session).requests =
      [.createSubscriberXml firstGraphObjects.subscriberId firstGraphObjects.participantId
          buildSubscriberXml.1,
        .createParticipantBin firstGraphObjects.participantId 0 (cstr "microros_graph")] := by
  refine ⟨?_, ?_, ?_⟩ <;> simp [numberGraph, assignGraphId, Rmw.uxrObjectId, Rmw.uxrBuffer,
    Rmw.modifySession, Rmw.modifyGraphInfo, roomy.participant, roomy.subscriber, unissued, empty,
    GraphInfo.objects, firstGraphObjects]

/-- A request that finds room stands in front of the history. -/
theorem uxrBuffer_requests {request : XrceRequest} :
    ((s.uxrBuffer session request true).2.customSessions session).requests =
      request :: (s.customSessions session).requests := by
  simp [Rmw.uxrBuffer, Rmw.modifySession]

/-- The last part of `rmw_graph_init` creates nothing. -/
theorem runGraph_requests {exchange : GraphExchange}
    (returned : runGraph cfg session exchange s = .ok (.ok, s')) :
    s'.contexts = s.contexts ∧
      journal (s'.customSessions session).requests =
        journal (s.customSessions session).requests := by
  unfold runGraph at returned
  obtain ⟨ran, received, returned⟩ := bind_eq_ok.mp returned
  have same := deliverAll_sessions received
  have contexts := (deliverAll_unaltered received).contexts
  split at returned
  · have nothing : Adds ran ran session [] := .nothing ran session
    have asked := nothing.asked
      (.requestData (ran.graphInfo session).datareaderId .reliableInput)
      exchange.dataRequestRoom (fun _ absurd => by cases absurd)
      fun object absurd => by cases absurd
    have later := unaltered_uxrBuffer ran session
      (.requestData (ran.graphInfo session).datareaderId .reliableInput) exchange.dataRequestRoom
    generalize Rmw.uxrBuffer ran session _ exchange.dataRequestRoom = data
      at returned asked later
    obtain ⟨number, data⟩ := data
    cases returned
    refine ⟨later.contexts.trans contexts, ?_⟩
    rw [asked.requests, List.append_nil, journal_requestData, same]
  · cases returned

/-- `rmw_graph_init`, when it succeeds. -/
theorem rmwGraphInit_requests {exchange : GraphExchange} (roomy : exchange.Roomy)
    (unissued : (s.customSessions session).nextId = fun _ => 0)
    (empty : (s.customSessions session).requests = [])
    (returned : rmwGraphInit cfg session exchange s = .ok (.ok, s')) :
    s'.contexts = s.contexts ∧ journal (s'.customSessions session).requests =
      journal (graphRequests cfg firstGraphObjects) := by
  obtain ⟨contexts, objects, first⟩ := numberGraph_requests roomy unissued empty
  obtain ⟨isParticipant, isSubscriber, isTopic, isDatareader⟩ :
      ((numberGraph session exchange s).graphInfo session).participantId =
          firstGraphObjects.participantId ∧
        ((numberGraph session exchange s).graphInfo session).subscriberId =
          firstGraphObjects.subscriberId ∧
        ((numberGraph session exchange s).graphInfo session).topicId = firstGraphObjects.topicId ∧
        ((numberGraph session exchange s).graphInfo session).datareaderId =
          firstGraphObjects.datareaderId := by
    rw [← objects]
    exact ⟨rfl, rfl, rfl, rfl⟩
  unfold rmwGraphInit at returned
  dsimp only at returned
  split at returned
  · cases returned
  · split at returned
    · cases returned
    · rw [roomy.topic, roomy.datareader] at returned
      obtain ⟨later, isJournal⟩ := runGraph_requests returned
      refine ⟨later.trans contexts, ?_⟩
      rw [isJournal, uxrBuffer_requests, uxrBuffer_requests, first, isParticipant, isTopic]
      exact congrArg₂ (fun reader subscriber =>
        journal (.createDatareaderXml reader subscriber _ :: _)) isDatareader isSubscriber

/-- The part of `rmw_init` after the transport was opened. -/
theorem openSession_requests {call : InitCall} (roomy : call.graph.Roomy)
    (unissued : (s.customSessions session).nextId = fun _ => 0)
    (returned : openSession cfg call session s = .ok (.ok, s')) :
    s'.contexts = s.contexts ∧
      journal (s'.customSessions session).requests = journal (openingRequests cfg) := by
  unfold openSession at returned
  obtain ⟨started, received, returned⟩ := bind_eq_ok.mp returned
  have same := deliverAll_sessions received
  have contexts := (deliverAll_unaltered received).contexts
  have isUnissued : (started.customSessions session).nextId = fun _ => 0 := by
    rw [same]
    simp [Rmw.modifySession, unissued]
  have isEmpty : (started.customSessions session).requests = [] := by
    rw [same]
    simp [Rmw.modifySession]
  split at returned
  · split at returned
    · rename_i graph
      obtain ⟨⟨ret, ended⟩, initialised, returned⟩ := bind_eq_ok.mp returned
      dsimp only at returned
      split at returned
      · rename_i isOk
        cases returned
        rw [openingRequests, if_pos graph]
        obtain ⟨later, isJournal⟩ :=
          rmwGraphInit_requests roomy isUnissued isEmpty (isOk ▸ initialised)
        exact ⟨later.trans contexts, isJournal⟩
      · obtain ⟨last, -, returned⟩ := bind_eq_ok.mp returned
        cases returned
    · rename_i graph
      cases returned
      rw [openingRequests, if_neg graph, isEmpty]
      exact ⟨contexts, rfl⟩
  · cases returned

/-- `rmw_init`, when it succeeds. -/
theorem rmwInit_requests {call : InitCall} (roomy : call.graph.Roomy)
    (isContext : call.context = some context) (returned : rmwInit cfg call s = .ok (.ok, s'))
    (isImpl : (s'.contexts context).impl = some session) :
    journal (s'.customSessions session).requests = journal (openingRequests cfg) := by
  unfold rmwInit at returned
  rw [isContext] at returned
  split at returned
  · rename_i options other isOptions isOther
    cases isOther
    split at returned
    · cases returned
    · obtain ⟨matching, -, returned⟩ := bind_eq_ok.mp returned
      split at returned
      · dsimp only at returned
        split at returned
        · cases returned
        · obtain ⟨contextImpl, -, returned⟩ := bind_eq_ok.mp returned
          unfold initContext at returned
          dsimp only at returned
          split at returned
          · cases returned
          · cases returned
          · obtain ⟨contexts, isJournal⟩ := openSession_requests roomy (by
              simp [Rmw.modifySession, initEntityPools, Rmw.initMemory, Rmw.modifyContext]) returned
            have isSession : contextImpl = session := by
              simpa [contexts, Rmw.modifySession, initEntityPools, Rmw.initMemory,
                Rmw.modifyContext] using isImpl
            exact isSession ▸ isJournal
      · cases returned
  · cases returned

@[simp] theorem Rmw.uxrBuffer_handles (request : XrceRequest) (room : Bool) :
    (s.uxrBuffer session request room).2.handles = s.handles :=
  (unaltered_uxrBuffer s session request room).handles

/-- The graph entities have no handles. -/
theorem rmwGraphInit_handles {exchange : GraphExchange} {ret : RmwRet}
    (returned : rmwGraphInit cfg session exchange s = .ok (ret, s')) : s'.handles = s.handles := by
  have numbered : (numberGraph session exchange s).handles = s.handles := by
    simp [numberGraph, assignGraphId, Rmw.uxrObjectId, Rmw.modifySession, Rmw.modifyGraphInfo]
  unfold rmwGraphInit at returned
  dsimp only at returned
  split at returned
  · cases returned
    exact numbered
  · split at returned
    · cases returned
      simpa using numbered
    · unfold runGraph at returned
      obtain ⟨ran, received, returned⟩ := bind_eq_ok.mp returned
      have same := (deliverAll_unaltered received).handles
      simp only [Rmw.uxrBuffer_handles, numbered] at same
      split at returned
      · cases returned
        exact (unaltered_uxrBuffer ran session _ exchange.dataRequestRoom).handles.trans same
      · cases returned
        exact same

/-- `rmw_init` allocates no handle, and frees none. -/
theorem rmwInit_handles {call : InitCall} {ret : RmwRet}
    (returned : rmwInit cfg call s = .ok (ret, s')) : s'.handles = s.handles := by
  have opens : ∀ {impl : Nat} {opened : Rmw}, openSession cfg call impl opened = .ok (ret, s') →
      s'.handles = opened.handles := by
    intro impl opened returned
    unfold openSession at returned
    obtain ⟨started, received, returned⟩ := bind_eq_ok.mp returned
    have same : started.handles = opened.handles := (deliverAll_unaltered received).handles
    split at returned
    · split at returned
      · obtain ⟨⟨graphRet, ended⟩, initialised, returned⟩ := bind_eq_ok.mp returned
        have later := (rmwGraphInit_handles initialised).trans same
        dsimp only at returned
        split at returned
        · cases returned
          exact later
        · obtain ⟨last, deleted, returned⟩ := bind_eq_ok.mp returned
          cases returned
          exact (deliverAll_unaltered deleted).handles.trans later
      · cases returned
        exact same
    · cases returned
      exact same
  unfold rmwInit at returned
  split at returned
  · split at returned
    · cases returned
      rfl
    · obtain ⟨matching, -, returned⟩ := bind_eq_ok.mp returned
      split at returned
      · dsimp only at returned
        split at returned
        · rename_i next taken
          obtain rfl := congrArg Prod.snd taken
          cases returned
          rfl
        · rename_i item next taken
          obtain rfl := congrArg Prod.snd taken
          obtain ⟨impl, -, returned⟩ := bind_eq_ok.mp returned
          unfold initContext at returned
          dsimp only at returned
          split at returned
          · cases returned
            rfl
          · cases returned
            rfl
          · have opened := opens returned
            exact opened
      · cases returned
        rfl
  · cases returned
    rfl

end RmwMicroxrcedds
