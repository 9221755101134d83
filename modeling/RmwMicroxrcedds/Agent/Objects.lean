import RmwMicroxrcedds.Agent.Names
import RmwMicroxrcedds.Library.Journal
import RmwMicroxrcedds.Machine.Numbering

/-! # The objects on the agent

The requests of a session are a journal: some create an object on the agent, some delete
one. Replaying them tells what the agent is asked to hold. `Described` says that what it
holds for an entity of the layer is what the members of that entity say.
-/

namespace RmwMicroxrcedds

open Journals Registry

namespace XrceRequest

/-- The object a request creates. -/
def creates : XrceRequest → Option ObjectId
  | createParticipantBin object _ _ | createParticipantRef object _ _ | createTopicBin object _ _ _
  | createTopicRef object _ _ | createTopicXml object _ _ | createPublisherBin object _
  | createPublisherXml object _ _ | createDatawriterBin object _ _ _ _ _
  | createDatawriterRef object _ _ | createSubscriberBin object _ | createSubscriberXml object _ _
  | createDatareaderBin object _ _ _ _ _ | createDatareaderRef object _ _
  | createDatareaderXml object _ _ | createEndpointBin object _ _ _ _ _ _
  | createEndpointXml object _ _ => some object
  | deleteEntity _ | requestData _ _ => none

/-- The objects a request wants to exist: those the new object is attached to. -/
def references : XrceRequest → List ObjectId
  | createTopicBin _ parent _ _ | createTopicRef _ parent _ | createTopicXml _ parent _
  | createPublisherBin _ parent | createPublisherXml _ parent _ | createDatawriterRef _ parent _
  | createSubscriberBin _ parent | createSubscriberXml _ parent _
  | createDatareaderRef _ parent _ | createDatareaderXml _ parent _
  | createEndpointBin _ parent _ _ _ _ _ | createEndpointXml _ parent _ => [parent]
  | createDatawriterBin _ parent topic _ _ _ | createDatareaderBin _ parent topic _ _ _ =>
      [parent, topic]
  | createParticipantBin _ _ _ | createParticipantRef _ _ _ | deleteEntity _ | requestData _ _ => []

/-- What a request does to the objects on the agent. -/
def entry (request : XrceRequest) : Option (Entry ObjectId XrceRequest) :=
  match request with
  | deleteEntity object => some (.drop object)
  | other => other.creates.map (.put · other)

/-- A request that creates an object is entered under it. -/
theorem entry_of_creates {request : XrceRequest} {object : ObjectId}
    (creates : request.creates = some object) : request.entry = some (.put object request) := by
  cases request <;> first | cases creates; rfl | cases creates

/-- An entry under an object is the request that creates it. -/
theorem entry_eq_put {request value : XrceRequest} {object : ObjectId}
    (same : request.entry = some (.put object value)) :
    request = value ∧ request.creates = some object := by
  cases request with
  | deleteEntity | requestData => cases same
  | _ =>
      cases same
      exact ⟨rfl, rfl⟩

/-- Only a deletion drops an object. -/
theorem entry_eq_drop {request : XrceRequest} {object : ObjectId} :
    request.entry = some (.drop object) ↔ request = .deleteEntity object := by
  cases request <;> simp [entry, creates]

end XrceRequest

/-- The entries of some requests, the newest first. -/
def journal (requests : List XrceRequest) : List (Entry ObjectId XrceRequest) :=
  requests.filterMap XrceRequest.entry

/-- What is written later stands in front. -/
theorem journal_append (recent earlier : List XrceRequest) :
    journal (recent ++ earlier) = journal recent ++ journal earlier :=
  List.filterMap_append

/-- What the requests of a session leave on the agent, by the identifiers that were drawn. -/
def Session.demand (session : Session) : ObjectId → Option XrceRequest :=
  replay (journal session.requests)

/-- An identifier on the wire. -/
def ObjectId.wired (object : ObjectId) : ObjectId := ⟨wire object.id, object.type⟩

/-- What the requests of a session leave on the agent, by the identifiers it gets to see. -/
def Session.onAgent (session : Session) : ObjectId → Option XrceRequest :=
  replay ((journal session.requests).map (Entry.rename ObjectId.wired))

/-- The request that creates the publisher of a data writer. -/
def publisherRequest (cfg : Config) (publisherId participantId : ObjectId) : XrceRequest :=
  if cfg.useRefs then .createPublisherXml publisherId participantId []
  else .createPublisherBin publisherId participantId

/-- The request that creates the subscriber of a data reader. -/
def subscriberRequest (cfg : Config) (subscriberId participantId : ObjectId) : XrceRequest :=
  if cfg.useRefs then .createSubscriberXml subscriberId participantId []
  else .createSubscriberBin subscriberId participantId

/-- What publishers and subscriptions have in common: two objects on the agent, one in the
participant and one that is attached to it and to the topic, and the requests that create them. -/
structure TopicEnd where
  parentId : ObjectId
  endId : ObjectId
  typeSupportCallbacks : Option MessageTypeSupport
  qos : QosProfile
  parentRequest : Config → ObjectId → ObjectId → XrceRequest
  endRequest : Config → ObjectId → ObjectId → ObjectId → CString → QosProfile → Option XrceRequest

/-- A publisher with its data writer, a subscription with its data reader. -/
def Entity.topicEnd : Entity → Option TopicEnd
  | publisher writer => some {
      parentId := writer.publisherId
      endId := writer.datawriterId
      typeSupportCallbacks := writer.typeSupportCallbacks
      qos := writer.qos
      parentRequest := publisherRequest
      endRequest := datawriterRequest }
  | subscription reader => some {
      parentId := reader.subscriberId
      endId := reader.datareaderId
      typeSupportCallbacks := reader.typeSupportCallbacks
      qos := reader.qos
      parentRequest := subscriberRequest
      endRequest := datareaderRequest }
  | node _ | endpoint _ | topic _ | other => none

/-- What the entity writes goes over the stream of the quality of service. -/
def Entity.StreamsBy (qos : QosProfile) : Entity → Prop
  | publisher { streamId, .. } | endpoint { streamId, .. } =>
      streamId = if qos.reliability = .bestEffort then .bestEffortOutput else .reliableOutput
  | node _ | subscription _ | topic _ | other => True

/-- The requests an entity of the pool is made from, the newest first, given the names in its
handle, the participant of its node, and its topic. -/
inductive Makes (cfg : Config) (pool : Pool) (names : Names) (participant : ObjectId)
    (topic : Topic) : Entity → List XrceRequest → Prop
  | node (node : Node) (domain : Nat) (name namespace_ : CString) (request : XrceRequest)
      (named : names = ⟨some name, some (some namespace_)⟩)
      (isRequest : participantRequest cfg node.participantId domain name namespace_ =
        some request) : Makes cfg pool names participant topic (.node node) [request]
  | topicEnd (entity : Entity) (topicEnd : TopicEnd) (topicName : CString)
      (callbacks : MessageTypeSupport) (title request : XrceRequest)
      (isEnd : entity.topicEnd = some topicEnd) (named : names.name = some topicName)
      (typed : topicEnd.typeSupportCallbacks = some callbacks)
      (titled : topic.messageTypeSupportCallbacks = some callbacks)
      (stream : entity.StreamsBy topicEnd.qos)
      (isTitle : topicRequest cfg topic.topicId participant topicName callbacks = some title)
      (isRequest : topicEnd.endRequest cfg topicEnd.endId topicEnd.parentId topic.topicId topicName
        topicEnd.qos = some request) :
      Makes cfg pool names participant topic entity
        [request, topicEnd.parentRequest cfg topicEnd.parentId participant, title]
  | endpoint (endpoint : Endpoint) (kind : EndpointKind) (serviceName : CString)
      (members : ServiceTypeSupport) (qos : QosProfile) (request : XrceRequest)
      (named : names.name = some serviceName)
      (typed : endpoint.typeSupportCallbacks = some members)
      (isKind : pool = kind.pool ∧ endpoint.objectId.type = kind.objectType)
      (stream : Entity.StreamsBy qos (.endpoint endpoint))
      (isRequest : endpointRequest cfg kind endpoint.objectId participant serviceName members qos =
        some request) : Makes cfg pool names participant topic (.endpoint endpoint) [request]

/-- The participant of the node of an entity. -/
def Rmw.participantOf (s : Rmw) (entity : Entity) : ObjectId :=
  (entity.ownerNode.map fun node => (s.customNodes node).participantId).getD {}

/-- The topic of an entity. -/
def Rmw.titleOf (s : Rmw) (entity : Entity) : Topic :=
  (entity.topicOf.map s.customTopics).getD {}

/-- The participant of an entity is that of its node. -/
theorem Rmw.participantOf_of_owner {s : Rmw} {entity : Entity} (node : Nat)
    (isOwner : entity.ownerNode = some node) :
    s.participantOf entity = (s.customNodes node).participantId := by
  rw [Rmw.participantOf, isOwner]
  rfl

/-- The topic of a publisher or a subscription is the one in its slot. -/
theorem Rmw.titleOf_of_topic {s : Rmw} {entity : Entity} (topic : Nat)
    (isTopic : entity.topicOf = some topic) : s.titleOf entity = s.customTopics topic := by
  rw [Rmw.titleOf, isTopic]
  rfl

/-- The requests that the entity behind a handle is made from, as the layer stores it: by the
names in the handle, the members of the entity and of its topic, and the participant of its
node. -/
def Rmw.MadeFrom (cfg : Config) (s : Rmw) (pool : Pool) (handle slot : Nat) :
    List XrceRequest → Prop :=
  Makes cfg pool (s.namesOf pool handle) (s.participantOf (s.entity pool slot))
    (s.titleOf (s.entity pool slot)) (s.entity pool slot)

/-- The agent holds for the entity what the entity says. -/
def Rmw.Described (cfg : Config) (s : Rmw) (demand : ObjectId → Option XrceRequest)
    (pool : Pool) (handle slot : Nat) : Prop :=
  ∃ requests, s.MadeFrom cfg pool handle slot requests ∧
    ∀ request ∈ requests, ∃ object, request.creates = some object ∧ demand object = some request

/-- The objects of an entity and of its topic. -/
def Registry.belongings (r : Registry) (pool : Pool) (slot : Nat) : List ObjectId :=
  (r.entity pool slot).objects ++
    (r.entity pool slot).topicOf.elim [] fun topic => (r.entity .topic topic).objects

variable {cfg : Config} {participant object topicId : ObjectId} {topic : Topic} {entity : Entity}
variable {pool : Pool} {names : Names} {topicEnd : TopicEnd}
variable {requests : List XrceRequest} {request : XrceRequest}

/-- The request for a participant refers to nothing. -/
theorem creates_participantRequest {domain : Nat} {name namespace_ : CString}
    (isRequest : participantRequest cfg object domain name namespace_ = some request) :
    request.creates = some object ∧ request.references = [] := by
  unfold participantRequest at isRequest
  split at isRequest
  · obtain ⟨text, -, rfl⟩ := Option.map_eq_some_iff.mp isRequest
    exact ⟨rfl, rfl⟩
  · cases isRequest
    exact ⟨rfl, rfl⟩

/-- The request for a topic refers to its participant. -/
theorem creates_topicRequest {topicName : CString} {callbacks : MessageTypeSupport}
    (isRequest : topicRequest cfg object participant topicName callbacks = some request) :
    request.creates = some object ∧ request.references = [participant] := by
  unfold topicRequest at isRequest
  split at isRequest
  · obtain ⟨text, -, rfl⟩ := Option.map_eq_some_iff.mp isRequest
    exact ⟨rfl, rfl⟩
  · cases isRequest
    exact ⟨rfl, rfl⟩

/-- The request for a publisher refers to its participant. -/
theorem creates_publisherRequest (cfg : Config) (object participant : ObjectId) :
    (publisherRequest cfg object participant).creates = some object ∧
      (publisherRequest cfg object participant).references = [participant] := by
  unfold publisherRequest
  split <;> exact ⟨rfl, rfl⟩

/-- The request for a subscriber refers to its participant. -/
theorem creates_subscriberRequest (cfg : Config) (object participant : ObjectId) :
    (subscriberRequest cfg object participant).creates = some object ∧
      (subscriberRequest cfg object participant).references = [participant] := by
  unfold subscriberRequest
  split <;> exact ⟨rfl, rfl⟩

/-- The request for a data writer refers to nothing but its publisher and its topic. -/
theorem creates_datawriterRequest {parent : ObjectId} {topicName : CString} {qos : QosProfile}
    (isRequest : datawriterRequest cfg object parent topicId topicName qos = some request) :
    request.creates = some object ∧ ∀ other ∈ request.references, other ∈ [parent, topicId] := by
  unfold datawriterRequest at isRequest
  split at isRequest
  · obtain ⟨text, -, rfl⟩ := Option.map_eq_some_iff.mp isRequest
    exact ⟨rfl, by simp [XrceRequest.references]⟩
  · cases isRequest
    exact ⟨rfl, fun _ => id⟩

/-- The request for a data reader refers to nothing but its subscriber and its topic. -/
theorem creates_datareaderRequest {parent : ObjectId} {topicName : CString} {qos : QosProfile}
    (isRequest : datareaderRequest cfg object parent topicId topicName qos = some request) :
    request.creates = some object ∧ ∀ other ∈ request.references, other ∈ [parent, topicId] := by
  unfold datareaderRequest at isRequest
  split at isRequest
  · obtain ⟨text, -, rfl⟩ := Option.map_eq_some_iff.mp isRequest
    exact ⟨rfl, by simp [XrceRequest.references]⟩
  · cases isRequest
    exact ⟨rfl, fun _ => id⟩

/-- The request for a replier or a requester refers to its participant. -/
theorem creates_endpointRequest {kind : EndpointKind} {serviceName : CString}
    {members : ServiceTypeSupport} {qos : QosProfile}
    (isRequest : endpointRequest cfg kind object participant serviceName members qos =
      some request) : request.creates = some object ∧ request.references = [participant] := by
  unfold endpointRequest at isRequest
  split at isRequest
  · dsimp only at isRequest
    split at isRequest
    · cases isRequest
    · cases isRequest
      exact ⟨rfl, rfl⟩
  · cases isRequest
    exact ⟨rfl, rfl⟩

/-- The requests of a publisher or a subscription create its objects: the first one in the
participant, the second one attached to the first one and to the topic. -/
theorem Entity.objects_of_topicEnd (isEnd : entity.topicEnd = some topicEnd) :
    entity.objects = [topicEnd.parentId, topicEnd.endId] := by
  cases entity with
  | publisher | subscription =>
      cases isEnd
      rfl
  | node | endpoint | topic | other => cases isEnd

/-- The request for the publisher or the subscriber refers to the participant. -/
theorem creates_parentRequest (isEnd : entity.topicEnd = some topicEnd) (cfg : Config)
    (object participant : ObjectId) :
    (topicEnd.parentRequest cfg object participant).creates = some object ∧
      (topicEnd.parentRequest cfg object participant).references = [participant] := by
  cases entity with
  | publisher =>
      cases isEnd
      exact creates_publisherRequest cfg object participant
  | subscription =>
      cases isEnd
      exact creates_subscriberRequest cfg object participant
  | node | endpoint | topic | other => cases isEnd

/-- The request for the data writer or the data reader refers to nothing but its parent and its
topic. -/
theorem creates_endRequest {parent : ObjectId} {topicName : CString} {qos : QosProfile}
    (isEnd : entity.topicEnd = some topicEnd)
    (isRequest : topicEnd.endRequest cfg object parent topicId topicName qos = some request) :
    request.creates = some object ∧ ∀ other ∈ request.references, other ∈ [parent, topicId] := by
  cases entity with
  | publisher =>
      cases isEnd
      exact creates_datawriterRequest isRequest
  | subscription =>
      cases isEnd
      exact creates_datareaderRequest isRequest
  | node | endpoint | topic | other => cases isEnd

/-- The object of the topic, for an entity that has one. -/
def Entity.titleObjects (topic : Topic) (entity : Entity) : List ObjectId :=
  if entity.topicEnd.isSome then [topic.topicId] else []

/-- The requests create the objects of the entity, and its topic if it has one. -/
theorem Makes.creates (makes : Makes cfg pool names participant topic entity requests) :
    requests.map XrceRequest.creates =
      (entity.objects.reverse ++ entity.titleObjects topic).map some := by
  cases makes with
  | node node domain name namespace_ request named isRequest =>
      simp [Entity.objects, Entity.titleObjects, Entity.topicEnd,
        (creates_participantRequest isRequest).1]
  | topicEnd entity topicEnd topicName callbacks title request isEnd named typed titled stream
      isTitle isRequest =>
      simp [Entity.objects_of_topicEnd isEnd, Entity.titleObjects, isEnd,
        (creates_topicRequest isTitle).1, (creates_parentRequest isEnd _ _ _).1,
        (creates_endRequest isEnd isRequest).1]
  | endpoint endpoint kind serviceName members qos request named typed isKind stream isRequest =>
      simp [Entity.objects, Entity.titleObjects, Entity.topicEnd,
        (creates_endpointRequest isRequest).1]

/-- The requests refer to the participant of the node, and to each other. -/
theorem Makes.references (makes : Makes cfg pool names participant topic entity requests)
    (inside : request ∈ requests) (refers : object ∈ request.references) :
    object = participant ∧ (∀ node, entity ≠ .node node) ∨
      some object ∈ requests.map XrceRequest.creates := by
  cases makes with
  | node node domain name namespace_ single named isRequest =>
      obtain rfl := List.mem_singleton.mp inside
      rw [(creates_participantRequest isRequest).2] at refers
      cases refers
  | topicEnd entity topicEnd topicName callbacks title single isEnd named typed titled stream
      isTitle isRequest =>
      have parent := creates_parentRequest isEnd cfg topicEnd.parentId participant
      have isTopic := creates_topicRequest isTitle
      have notNode : ∀ node, entity ≠ .node node := by
        rintro node rfl
        cases isEnd
      simp only [List.mem_cons, List.not_mem_nil, or_false] at inside
      rcases inside with rfl | rfl | rfl
      · have either := (creates_endRequest isEnd isRequest).2 object refers
        right
        simpa [parent.1, isTopic.1] using Or.inr (List.mem_pair.mp either)
      · rw [parent.2] at refers
        exact Or.inl ⟨List.mem_singleton.mp refers, notNode⟩
      · rw [isTopic.2] at refers
        exact Or.inl ⟨List.mem_singleton.mp refers, notNode⟩
  | endpoint endpoint kind serviceName members qos single named typed isKind stream isRequest =>
      obtain rfl := List.mem_singleton.mp inside
      rw [(creates_endpointRequest isRequest).2] at refers
      exact Or.inl ⟨List.mem_singleton.mp refers, by simp⟩

end RmwMicroxrcedds
