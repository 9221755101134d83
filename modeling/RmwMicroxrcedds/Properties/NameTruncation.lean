import RmwMicroxrcedds.Machine.Run
import RmwMicroxrcedds.Refinement.Requests

/-! # Names that do not fit

In binary mode the names of a creation are written with `snprintf` into buffers that do not
count the prefixes and suffixes, and nothing looks at the results: the creation goes on with
what fits.
-/

namespace RmwMicroxrcedds

open Outcome

variable {s s' : Rmw} {exchange : Exchange} {built : Option XrceRequest}

/-- The name of a participant: the node name, preceded by its namespace unless that is the
root. -/
def fullNodeName (name namespace_ : CString) : CString :=
  if namespace_ = cstr "/" then name else namespace_ ++ cstr "/" ++ name

def fullTopicName (topicName : CString) : CString := rosTopicPrefix ++ topicName

def fullRequestTopic (serviceName : CString) : CString :=
  rosRequestPrefix ++ serviceName ++ rosRequestSubfix

def fullReplyTopic (serviceName : CString) : CString :=
  rosReplyPrefix ++ serviceName ++ rosReplySubfix

/-- A creation hands a request to the client library, which writes it when the output stream
has room. -/
structure HandsOver (s s' : Rmw) (exchange : Exchange) (built : Option XrceRequest)
    (request : XrceRequest) : Prop where
  built : built = some request
  written : exchange.room = true → Writes s s' request

/-- A creation hands over a topic of the given name and type. -/
def AttachesTo (cfg : Config) (s s' : Rmw) (exchange : Exchange) (topicName : CString)
    (callbacks : MessageTypeSupport) (name type : CString) : Prop :=
  ∃ topicId participantId,
    HandsOver s s' exchange (topicRequest cfg topicId participantId topicName callbacks)
      (.createTopicBin topicId participantId name type)

/-- In binary mode a topic is asked for by the names the formatters write. -/
theorem AsksForTopic.attachesTo {cfg : Config} (binary : cfg.useRefs = false) {topicName : CString}
    {callbacks : MessageTypeSupport} (asks : AsksForTopic cfg s s' exchange topicName callbacks) :
    AttachesTo cfg s s' exchange topicName callbacks
      (generateTopicName topicName cfg.topicNameMaxLength).1
      (generateTypeName callbacks cfg.typeNameMaxLength).1 := by
  obtain ⟨topicId, participantId, request, isRequest, writes⟩ := asks
  have binaryRequest := isRequest
  simp only [topicRequest, binary, Bool.false_eq_true, ↓reduceIte, Option.some.injEq]
    at binaryRequest
  exact ⟨topicId, participantId, binaryRequest ▸ isRequest, binaryRequest ▸ writes⟩

/-- In binary mode the names of a topic are what is left of the full ones. -/
theorem AttachesTo.names {cfg : Config} (binary : cfg.useRefs = false) {topicName : CString}
    {callbacks : MessageTypeSupport} {name type : CString}
    (attaches : AttachesTo cfg s s' exchange topicName callbacks name type) :
    name = snprintfText cfg.topicNameMaxLength (fullTopicName topicName) ∧
      type = snprintfText cfg.typeNameMaxLength (fullTypeName callbacks) := by
  obtain ⟨topicId, participantId, isBuilt, -⟩ := attaches
  simp only [topicRequest, binary, Bool.false_eq_true, ↓reduceIte, Option.some.injEq,
    XrceRequest.createTopicBin.injEq, true_and] at isBuilt
  exact ⟨isBuilt.1.symm, isBuilt.2.symm⟩

/-- These names are complete if and only if both fit their buffers. -/
theorem AttachesTo.complete_iff {cfg : Config} (binary : cfg.useRefs = false) {topicName : CString}
    {callbacks : MessageTypeSupport} {name type : CString}
    (attaches : AttachesTo cfg s s' exchange topicName callbacks name type) :
    name = fullTopicName topicName ∧ type = fullTypeName callbacks ↔
      Within cfg.topicNameMaxLength (fullTopicName topicName) ∧
        Within cfg.typeNameMaxLength (fullTypeName callbacks) := by
  obtain ⟨isName, isType⟩ := attaches.names binary
  rw [isName, isType, snprintfText_eq_iff, snprintfText_eq_iff]

/-- A creation hands over a topic with the name and the type it was called with, which are complete
exactly when they fit. -/
def TopicCompleteIff (cfg : Config) (s s' : Rmw) (exchange : Exchange)
    (topicName : Option CString) (typeSupport : Option (TypeSupportHandle MessageTypeSupport)) :
    Prop :=
  ∃ givenName callbacks name type, topicName = some givenName ∧
    typeSupport = some (.found callbacks) ∧
    AttachesTo cfg s s' exchange givenName callbacks name type ∧
    (name = fullTopicName givenName ∧ type = fullTypeName callbacks ↔
      Within cfg.topicNameMaxLength (fullTopicName givenName) ∧
        Within cfg.typeNameMaxLength (fullTypeName callbacks))

/-- Two topic names are the same behind the prefix exactly when they agree as far as they fit. -/
theorem snprintfText_prefix_eq_iff {size : Nat} {before text text' : CString} :
    snprintfText size (before ++ text) = snprintfText size (before ++ text') ↔
      text.take (size - 1 - before.length) = text'.take (size - 1 - before.length) := by
  simp only [snprintfText, List.take_append, List.append_cancel_left_eq]

/-- The two topics of a service are cut where the buffers end. -/
theorem generateServiceTopics_eq {serviceName : CString} {size : Nat} :
    generateServiceTopics serviceName size = (snprintfText size (fullRequestTopic serviceName),
      snprintfText size (fullReplyTopic serviceName)) := rfl

/-- The topic of the requests adds nine characters to the name of the service. -/
theorem length_fullRequestTopic {serviceName : CString} :
    (fullRequestTopic serviceName).length = serviceName.length + 9 := by
  simp [fullRequestTopic, rosRequestPrefix, rosRequestSubfix, cstr]

/-- That of the replies adds seven. -/
theorem length_fullReplyTopic {serviceName : CString} :
    (fullReplyTopic serviceName).length = serviceName.length + 7 := by
  simp [fullReplyTopic, rosReplyPrefix, rosReplySubfix, cstr]

/-- When the request topic fits, so does the shorter reply topic. -/
theorem within_replyTopic {size : Nat} {serviceName : CString}
    (fits : Within size (fullRequestTopic serviceName)) :
    Within size (fullReplyTopic serviceName) := by
  unfold Within at fits ⊢
  rw [length_fullRequestTopic] at fits
  rw [length_fullReplyTopic]
  omega

/-- In binary mode, for every state and every creation that succeeds: the names it hands over are
complete exactly when they fit their buffers, and two topics are kept apart exactly when their
names differ as far as they fit behind the prefix. -/
theorem names_complete_iff (cfg : Config) (binary : cfg.useRefs = false) :
    (∀ call s handle s', rmwCreateNode cfg call s = .ok (some handle, s') →
      ∃ name namespace_ participantId domain passed, call.name = some name ∧
        call.namespace_ = some namespace_ ∧
        HandsOver s s' call.exchange (participantRequest cfg participantId domain name namespace_)
          (.createParticipantBin participantId domain passed) ∧
        (passed = fullNodeName name namespace_ ↔
          Within cfg.nodeNameMaxLength (fullNodeName name namespace_))) ∧
    (∀ call s handle s', rmwCreatePublisher cfg call s = .ok (some handle, s') →
      TopicCompleteIff cfg s s' call.topic call.topicName call.typeSupport) ∧
    (∀ call s handle s', rmwCreateSubscription cfg call s = .ok (some handle, s') →
      TopicCompleteIff cfg s s' call.topic call.topicName call.typeSupport) ∧
    (∀ s s' s'' s''' exchange exchange' topicName topicName' callbacks callbacks' name name' type
        type', AttachesTo cfg s s' exchange topicName callbacks name type →
      AttachesTo cfg s'' s''' exchange' topicName' callbacks' name' type' →
      ((topicName ≠ topicName' → name ≠ name') ↔ (topicName ≠ topicName' →
        topicName.take (cfg.topicNameMaxLength - 1 - rosTopicPrefix.length) ≠
          topicName'.take (cfg.topicNameMaxLength - 1 - rosTopicPrefix.length)))) ∧
    ∀ kind call s handle s', createEndpoint cfg kind call s = .ok (some handle, s') →
      ∃ serviceName members qos objectId participantId requestType replyType requestTopic
      replyTopic,
        call.serviceName = some serviceName ∧ call.typeSupport = some (.found members) ∧
        HandsOver s s' call.creation
          (endpointRequest cfg kind objectId participantId serviceName members qos)
          (.createEndpointBin objectId participantId serviceName requestType replyType requestTopic
            replyTopic) ∧
        ((requestTopic = fullRequestTopic serviceName ∧ replyTopic = fullReplyTopic serviceName) ∧
            requestType = fullTypeName members.requestMembers ∧
            replyType = fullTypeName members.responseMembers ↔
          Within cfg.topicNameMaxLength (fullRequestTopic serviceName) ∧
            Within cfg.typeNameMaxLength (fullTypeName members.requestMembers) ∧
            Within cfg.typeNameMaxLength (fullTypeName members.responseMembers)) := by
  refine ⟨?_, ?_, ?_, ?_, ?_⟩
  · intro call s handle s' returned
    obtain ⟨name, namespace_, participantId, domain, request, isName, isNamespace, isRequest,
      writes⟩ := rmwCreateNode_writes returned
    have binaryRequest := isRequest
    simp only [participantRequest, binary, Bool.false_eq_true, ↓reduceIte, Option.some.injEq]
      at binaryRequest
    refine ⟨name, namespace_, participantId, domain, xrceNodeName cfg name namespace_, isName,
      isNamespace, ⟨binaryRequest ▸ isRequest, binaryRequest ▸ writes⟩, ?_⟩
    exact snprintfText_eq_iff
  · intro call s handle s' returned
    obtain ⟨topicName, callbacks, isName, isTyped, asks⟩ := rmwCreatePublisher_writes returned
    have attaches := asks.attachesTo binary
    exact ⟨topicName, callbacks, _, _, isName, isTyped, attaches, attaches.complete_iff binary⟩
  · intro call s handle s' returned
    obtain ⟨topicName, callbacks, isName, isTyped, asks⟩ := rmwCreateSubscription_writes returned
    have attaches := asks.attachesTo binary
    exact ⟨topicName, callbacks, _, _, isName, isTyped, attaches, attaches.complete_iff binary⟩
  · intro s s' s'' s''' exchange exchange' topicName topicName' callbacks callbacks' name name' type
      type' attaches attaches'
    rw [(attaches.names binary).1, (attaches'.names binary).1, fullTopicName, fullTopicName, ne_eq,
      ne_eq, snprintfText_prefix_eq_iff]
  · intro kind call s handle s' returned
    obtain ⟨serviceName, members, qos, objectId, participantId, request, isName, isTyped, -,
      isRequest, writes⟩ := createEndpoint_writes returned
    have binaryRequest := isRequest
    simp only [endpointRequest, binary, Bool.false_eq_true, ↓reduceIte, Option.some.injEq]
      at binaryRequest
    refine ⟨serviceName, members, qos, objectId, participantId, _, _, _, _, isName, isTyped,
      ⟨isRequest.trans (congrArg some binaryRequest.symm), binaryRequest ▸ writes⟩, ?_⟩
    simp only [generateServiceTopics_eq, generateServiceTypes, generateTypeName]
    rw [snprintfText_eq_iff, snprintfText_eq_iff, snprintfText_eq_iff, snprintfText_eq_iff,
      and_iff_left_of_imp within_replyTopic]

namespace Small

/-- `rmw_create_publisher` for another topic, of six characters. -/
def sixth : PublisherCall := { publisher with topicName := some (cstr "abcdef") }

/-- The same with another last character. -/
def sixthToo : PublisherCall := { publisher with topicName := some (cstr "abcdeg") }

end Small

/-- The topic `t` of the small publisher fits. -/
theorem names_complete_small : ∃ s',
    rmwCreatePublisher Small.config Small.publisher Small.withNode.rmw = .ok (some 0, s') ∧
      TopicCompleteIff Small.config Small.withNode.rmw s' {} (some (cstr "t"))
        (some (.found ⟨none, cstr "a"⟩)) :=
  ⟨_, rfl, (names_complete_iff Small.config rfl).2.1 Small.publisher Small.withNode.rmw 0 _ rfl⟩

/-- Two publishers for different topics, no longer than the maximum, are attached to the same
one. The name of their type does not fit either. -/
theorem different_topics_merge : ∃ s s',
    rmwCreatePublisher Small.config Small.sixth Small.withNode.rmw = .ok (some 0, s) ∧
      rmwCreatePublisher Small.config Small.sixthToo s = .ok (some 1, s') ∧
      .createTopicBin ⟨0, .topic⟩ ⟨0, .participant⟩ (cstr "rtabcde") (cstr "dds_::a") ∈
        (s'.customSessions 0).requests ∧
      .createTopicBin ⟨1, .topic⟩ ⟨0, .participant⟩ (cstr "rtabcde") (cstr "dds_::a") ∈
        (s'.customSessions 0).requests :=
  ⟨_, _, rfl, rfl, by decide +kernel, by decide +kernel⟩

end RmwMicroxrcedds
