import RmwMicroxrcedds.Model.Init
import RmwMicroxrcedds.Properties.Documents

/-! # Who meets on DDS

On DDS two entities meet on a topic of one name and one type. The layer derives both from the
names and types of ROS, in binary mode and in documents, and in whatever build: publishers and
subscriptions meet on their topic, a service meets its clients on two topics of its own, and the
graph meets nobody but the agent.
-/

namespace RmwMicroxrcedds

open Template

/-- What a DDS topic is for. -/
inductive RosName where
  | topic (topicName : CString)
  | request (serviceName : CString)
  | reply (serviceName : CString)
  | graph
deriving DecidableEq

/-- The name of the DDS topic. -/
def RosName.dds : RosName → CString
  | topic topicName => rosTopicPrefix ++ topicName
  | request serviceName => fullRequestTopic serviceName
  | reply serviceName => fullReplyTopic serviceName
  | graph => graphTopicName

/-- The letters it begins with. -/
def RosName.start : RosName → CString
  | topic _ => rosTopicPrefix
  | request _ => rosRequestPrefix
  | reply _ => rosReplyPrefix
  | graph => cstr "ro"

/-- The prefixes, letter by letter. -/
theorem starts : rosTopicPrefix = [114, 116] ∧ rosRequestPrefix = [114, 113] ∧
    rosReplyPrefix = [114, 114] ∧ cstr "ro" = [114, 111] := by decide

/-- The first two letters of a name on the wire tell what it is for. -/
theorem RosName.take_dds (name : RosName) : name.dds.take 2 = name.start := by
  cases name with
  | topic | request | reply => rfl
  | graph => decide

/-- No two purposes have DDS topics of one name. -/
theorem RosName.dds_injective : Function.Injective RosName.dds := by
  intro name other same
  have start : name.start = other.start := by rw [← take_dds, ← take_dds, same]
  cases name with
  | topic topicName =>
      cases other with
      | topic => rw [List.append_cancel_left same]
      | request | reply | graph => simp [RosName.start, starts] at start
  | request serviceName =>
      cases other with
      | request =>
          rw [List.append_cancel_left (List.append_cancel_right same)]
      | topic | reply | graph => simp [RosName.start, starts] at start
  | reply serviceName =>
      cases other with
      | reply =>
          rw [List.append_cancel_left (List.append_cancel_right same)]
      | topic | request | graph => simp [RosName.start, starts] at start
  | graph =>
      cases other with
      | graph => rfl
      | topic | request | reply => simp [RosName.start, starts] at start

/-- What comes after the last separator. -/
theorem append_cons_inj {Letter : Type*} {separator : Letter}
    {first first' last last' : List Letter} (free : separator ∉ last) (free' : separator ∉ last')
    (same : first ++ separator :: last = first' ++ separator :: last') :
    first = first' ∧ last = last' := by
  rcases List.append_eq_append_iff.mp same with
    ⟨middle, isFirst, isLast⟩ | ⟨middle, isFirst, isLast⟩
  · cases middle with
    | nil =>
        rw [List.append_nil] at isFirst
        cases isLast
        exact ⟨isFirst.symm, rfl⟩
    | cons letter middle =>
        cases isLast
        exact absurd (List.mem_append_right _ List.mem_cons_self) free
  · cases middle with
    | nil =>
        rw [List.append_nil] at isFirst
        cases isLast
        exact ⟨isFirst, rfl⟩
    | cons letter middle =>
        cases isLast
        exact absurd (List.mem_append_right _ List.mem_cons_self) free'

/-- The name of a message has no colon. -/
def MessageTypeSupport.Plain (members : MessageTypeSupport) : Prop :=
  ∀ colon ∈ cstr ":", colon ∉ members.messageName

/-- Messages with plain names have types of their own. -/
theorem fullTypeName_injective {members members' : MessageTypeSupport} (plain : members.Plain)
    (plain' : members'.Plain) (same : fullTypeName members = fullTypeName members') :
    members = members' := by
  obtain ⟨space, name⟩ := members
  obtain ⟨space', name'⟩ := members'
  have split : ∀ (space : Option CString) (name : CString), fullTypeName ⟨space, name⟩ =
      (space.getD [] ++ (if space.isSome then cstr "::" else []) ++ cstr "dds_:") ++
        58 :: (name ++ cstr "_") := by
    intro space name
    simp [fullTypeName, cstr]
  rw [split, split] at same
  have free : ∀ name : CString, (58 : UInt8) ∉ name → (58 : UInt8) ∉ name ++ cstr "_" := by
    intro name plain inside
    rcases List.mem_append.mp inside with inside | inside
    · exact plain inside
    · exact absurd inside (by decide)
  obtain ⟨sameSpace, sameName⟩ :=
    append_cons_inj (free name (plain 58 (by decide))) (free name' (plain' 58 (by decide))) same
  obtain rfl := List.append_cancel_right sameName
  have spaces := List.append_cancel_right sameSpace
  cases space with
  | none =>
      cases space' with
      | none => rfl
      | some => simp [cstr] at spaces
  | some space =>
      cases space' with
      | none => simp [cstr] at spaces
      | some => simpa using spaces

/-- What a DDS topic is for, and the type of its messages. -/
abbrev RosChannel := RosName × MessageTypeSupport

/-- The name and the type of the DDS topic. -/
def RosChannel.dds (channel : RosChannel) : CString × CString :=
  (channel.1.dds, fullTypeName channel.2)

/-- Channels with plain types have names of their own. -/
theorem RosChannel.dds_injective {channel other : RosChannel} (plain : channel.2.Plain)
    (plain' : other.2.Plain) (same : channel.dds = other.dds) : channel = other :=
  Prod.ext (RosName.dds_injective (congrArg Prod.fst same))
    (fullTypeName_injective plain plain' (congrArg Prod.snd same))

/-- The DDS topics of a document. -/
def documentChannels (text : CString) : List (CString × CString) :=
  match readAny XmlElement.template XmlElement.all text with
  | some (.topic, [name, type]) => [(name, type)]
  | some (.dataWriter, [_, name, type]) | some (.dataReader, [_, name, type]) => [(name, type)]
  | some (.requester, [_, _, requestType, replyType, requestTopic, replyTopic])
  | some (.replier, [_, _, requestType, replyType, requestTopic, replyTopic]) =>
      [(requestTopic, requestType), (replyTopic, replyType)]
  | _ => []

/-- The DDS topics a request asks the agent for. A reference names a profile of the agent's. -/
def XrceRequest.channels : XrceRequest → List (CString × CString)
  | .createTopicBin _ _ topicName typeName => [(topicName, typeName)]
  | .createEndpointBin _ _ _ requestType replyType requestTopic replyTopic =>
      [(requestTopic, requestType), (replyTopic, replyType)]
  | .createTopicXml _ _ xml | .createDatareaderXml _ _ xml | .createEndpointXml _ _ xml =>
      documentChannels xml
  | _ => []

/-- What the layer creates a DDS topic for: the topic of a publisher or a subscription, a service
or a client, or the graph. -/
inductive RosEntity where
  | topic (topicName : CString) (members : MessageTypeSupport)
  | endpoint (kind : EndpointKind) (serviceName : CString) (members : ServiceTypeSupport)
      (qos : QosProfile)
  | graph (members : MessageTypeSupport)

namespace RosEntity

/-- What its DDS topics are for. -/
def channels : RosEntity → List RosChannel
  | topic topicName members => [(.topic topicName, members)]
  | endpoint _ serviceName members _ =>
      [(.request serviceName, members.requestMembers),
        (.reply serviceName, members.responseMembers)]
  | graph members => [(.graph, members)]

/-- The document of a service or a client. -/
def serviceContent (kind : EndpointKind) (object : ObjectId) (serviceName : CString)
    (members : ServiceTypeSupport) (qos : QosProfile) : XmlContent :=
  .service kind.requester (generateName object 20).1 serviceName members qos

/-- The document of the topic of the graph. -/
def graphContent (members : MessageTypeSupport) : XmlContent :=
  .topic graphTopicName members graphSubscriptionQosPolicies

/-- The request in which `create_topic`, `rmw_create_service`, `rmw_create_client` and
`rmw_graph_init` ask for its DDS topics. -/
def request (cfg : Config) (object participant : ObjectId) : RosEntity → Option XrceRequest
  | topic topicName members => topicRequest cfg object participant topicName members
  | endpoint kind serviceName members qos =>
      endpointRequest cfg kind object participant serviceName members qos
  | graph members =>
      let xml := (graphContent members).build cfg cfg.entityNamingBufferLength
      if xml.2 = 0 then none else some (.createTopicXml object participant xml.1)

/-- The names and types fit their buffers, and are plain where they are put in a document. A topic
has a name of its own in binary mode only, and a document follows the conventions of ROS for names
only when it is asked to. -/
def Fits (cfg : Config) (object : ObjectId) : RosEntity → Prop
  | topic topicName members => cfg.useRefs = false ∧
      Within cfg.topicNameMaxLength (rosTopicPrefix ++ topicName) ∧
      Within cfg.typeNameMaxLength (fullTypeName members)
  | endpoint kind serviceName members qos =>
      if cfg.useRefs then
        qos.avoidRosNamespaceConventions = false ∧
        ((serviceContent kind object serviceName members qos).document cfg
          cfg.entityNamingBufferLength).Fits ∧
        (serviceContent kind object serviceName members qos).Plain
      else
        Within cfg.topicNameMaxLength (fullRequestTopic serviceName) ∧
        Within cfg.typeNameMaxLength (fullTypeName members.requestMembers) ∧
        Within cfg.typeNameMaxLength (fullTypeName members.responseMembers)
  | graph members =>
      ((graphContent members).document cfg cfg.entityNamingBufferLength).Fits ∧
      (graphContent members).Plain

variable {cfg cfg' : Config} {entity other : RosEntity} {object participant : ObjectId}
variable {request request' : XrceRequest}

/-- The DDS topics of a request are those of its entity. -/
theorem channels_request (fits : entity.Fits cfg object)
    (isRequest : entity.request cfg object participant = some request) :
    request.channels = entity.channels.map RosChannel.dds := by
  cases entity with
  | topic topicName members =>
      obtain ⟨binary, named, typed⟩ := fits
      simp only [RosEntity.request, topicRequest, binary, Bool.false_eq_true, if_false] at isRequest
      cases isRequest
      simp only [XrceRequest.channels, generateTopicName, generateTypeName,
        snprintfText_eq_iff.mpr named, snprintfText_eq_iff.mpr typed]
      rfl
  | endpoint kind serviceName members qos =>
      cases refs : cfg.useRefs with
      | false =>
          simp only [RosEntity.Fits, refs, Bool.false_eq_true, if_false] at fits
          obtain ⟨named, requestTyped, replyTyped⟩ := fits
          simp only [RosEntity.request, endpointRequest, refs, Bool.false_eq_true, if_false]
            at isRequest
          cases isRequest
          simp only [XrceRequest.channels, generateServiceTopics_eq, generateServiceTypes,
            generateTypeName, snprintfText_eq_iff.mpr named,
            snprintfText_eq_iff.mpr (within_replyTopic named),
            snprintfText_eq_iff.mpr requestTyped, snprintfText_eq_iff.mpr replyTyped]
          rfl
      | true =>
          simp only [RosEntity.Fits, refs, if_true] at fits
          obtain ⟨conventions, fits, plain⟩ := fits
          simp only [RosEntity.request, endpointRequest, refs, if_true] at isRequest
          split at isRequest
          · cases isRequest
          · rename_i built
            cases isRequest
            have isRead := (documents_read_back fits built plain _ _).mpr ⟨rfl, rfl⟩
            have named : xmlRequestTopic serviceName qos = fullRequestTopic serviceName ∧
                xmlReplyTopic serviceName qos = fullReplyTopic serviceName := by
              simp [xmlRequestTopic, xmlReplyTopic, conventions]
            have isText : (buildServiceXml cfg (generateName object 20).1 serviceName
                kind.requester members qos cfg.entityNamingBufferLength).1 =
                ((serviceContent kind object serviceName members qos).build cfg
                  cfg.entityNamingBufferLength).1 := rfl
            simp only [XrceRequest.channels, documentChannels, isText, isRead]
            cases kind <;>
              simp [serviceContent, EndpointKind.requester, XmlContent.element, XmlContent.values,
                RosEntity.channels, RosChannel.dds, RosName.dds, named]
  | graph members =>
      obtain ⟨fits, plain⟩ := fits
      simp only [RosEntity.request] at isRequest
      split at isRequest
      · cases isRequest
      · rename_i built
        cases isRequest
        have isRead := (documents_read_back fits built plain _ _).mpr ⟨rfl, rfl⟩
        simp only [XrceRequest.channels, documentChannels, isRead]
        rfl

/-- The messages of its DDS topics have plain names. -/
def Plain (entity : RosEntity) : Prop := ∀ channel ∈ entity.channels, channel.2.Plain

/-- For two entities of any boards, each in binary mode or with documents, whose names and types
fit: their requests name a DDS topic of the same name and type if and only if they are both for
the same topic, for the same side of the same service, or both for the graph, with the same
message type. -/
theorem meet_iff (fits : entity.Fits cfg object) (plain : entity.Plain)
    (isRequest : entity.request cfg object participant = some request)
    {object' participant' : ObjectId} (fits' : other.Fits cfg' object') (plain' : other.Plain)
    (isRequest' : other.request cfg' object' participant' = some request') :
    (∃ channel ∈ request.channels, channel ∈ request'.channels) ↔
      ∃ channel ∈ entity.channels, channel ∈ other.channels := by
  rw [channels_request fits isRequest, channels_request fits' isRequest']
  simp only [List.mem_map, exists_exists_and_eq_and]
  constructor
  · rintro ⟨channel, inside, channel', inside', same⟩
    obtain rfl := RosChannel.dds_injective (plain' channel' inside') (plain channel inside) same
    exact ⟨channel', inside, inside'⟩
  · rintro ⟨channel, inside, inside'⟩
    exact ⟨channel, inside, channel, inside', rfl⟩

end RosEntity

namespace Small

/-- The service `s` on a board with documents. -/
def documentService : RosEntity :=
  .endpoint .service (cstr "s") ⟨⟨none, cstr "a"⟩, ⟨some (cstr "n"), cstr "b"⟩⟩ {}

/-- Its client on a board in binary mode. -/
def binaryClient : RosEntity :=
  .endpoint .client (cstr "s") ⟨⟨none, cstr "a"⟩, ⟨some (cstr "n"), cstr "b"⟩⟩ {}

/-- A build in binary mode, with room for names of twelve bytes. -/
def binaryConfig : Config := { documentConfig with useRefs := false }

theorem documentService_fits : documentService.Fits documentConfig ⟨0, .replier⟩ := by
  unfold RosEntity.Fits documentService XmlContent.Plain Document.Fits Within
  decide +kernel

theorem documentService_plain : documentService.Plain := by
  unfold RosEntity.Plain MessageTypeSupport.Plain
  decide +kernel

theorem documentService_requested :
    (documentService.request documentConfig ⟨0, .replier⟩ ⟨0, .participant⟩).isSome := by
  decide +kernel

theorem binaryClient_fits : binaryClient.Fits binaryConfig ⟨3, .requester⟩ := by
  unfold RosEntity.Fits binaryClient XmlContent.Plain Document.Fits Within
  decide +kernel

theorem binaryClient_plain : binaryClient.Plain := by
  unfold RosEntity.Plain MessageTypeSupport.Plain
  decide +kernel

end Small

/-- A service with a document meets its client in binary mode. -/
theorem meet_small : ∃ request request',
    Small.documentService.request Small.documentConfig ⟨0, .replier⟩ ⟨0, .participant⟩ =
        some request ∧
      Small.binaryClient.request Small.binaryConfig ⟨3, .requester⟩ ⟨1, .participant⟩ =
        some request' ∧
      ∃ channel ∈ request.channels, channel ∈ request'.channels := by
  obtain ⟨request, isRequest⟩ := Option.isSome_iff_exists.mp Small.documentService_requested
  exact ⟨request, _, isRequest, rfl, (RosEntity.meet_iff Small.documentService_fits
    Small.documentService_plain isRequest Small.binaryClient_fits Small.binaryClient_plain
    rfl).mpr ⟨_, List.mem_cons_self, List.mem_cons_self⟩⟩

end RmwMicroxrcedds
