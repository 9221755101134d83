import Mathlib.Algebra.Group.Nat.Defs
import RmwMicroxrcedds.Memory.Mempool

/-! # The data of the layer

The types of `types.h`, the handles of the `rmw` API, and the state of the layer: the
pools, the static arrays behind them, the heap of handles, and the contexts the
application owns. Pointers are addresses with `none` for null: an index into the
static array for an entity, a block of the heap for a handle.

A `uint16_t` that only ever counts up is kept as the number of increments; every
comparison of two of them is made modulo `2 ^ 16`.
-/

namespace RmwMicroxrcedds

/-- A C string, without its terminating NUL. -/
abbrev CString := List UInt8

/-- The bytes of an ASCII literal. -/
def cstr (text : String) : CString := text.toList.map fun char => UInt8.ofNat char.toNat

/-- What makes the behaviour of the C code undefined, or keeps it from returning. -/
inductive Fault where
  | nullDereference
  | useAfterFree
  | uninitializedRead
  | bufferOverflow
  | bufferOverread
  | inactiveUnionMember
  | divergence
deriving DecidableEq, Repr

/-- A computation of the layer: a result, or the fault it runs into. -/
abbrev Exec := Except Fault

/-- Follow a pointer. -/
def deref (pointer : Option Nat) : Exec Nat :=
  match pointer with
  | some address => .ok address
  | none => .error .nullDereference

/-- The return codes in use (`rmw_ret_t`). -/
inductive RmwRet where
  | ok
  | error
  | timeout
  | invalidArgument
  | incorrectRmwImplementation
deriving DecidableEq, Repr

/-- `message_type_support_callbacks_t`, as far as names are concerned. -/
structure MessageTypeSupport where
  messageNamespace : Option CString
  messageName : CString
deriving DecidableEq

/-- The build options of `config.h.in`, as CMake sets them, with two values the layer
takes from elsewhere: the last request id of a fresh session of the client library, and
the generated type support of the graph message. `maxTopics` is `none` for `-1`. -/
structure Config where
  maxSessions : Nat
  maxNodes : Nat
  maxPublishers : Nat
  maxSubscriptions : Nat
  maxServices : Nat
  maxClients : Nat
  maxTopics : Option Nat
  maxHistory : Nat
  entityCreationDestroyTimeout : Nat
  useRefs : Bool
  graph : Bool
  nodeNameMaxLength : Nat
  topicNameMaxLength : Nat
  typeNameMaxLength : Nat
  entityNamingBufferLength : Nat
  maxInputBufferSize : Nat
  initialRequestId : Nat
  graphTypeSupport : MessageTypeSupport

/-- `RMW_UXRCE_MAX_PUBLISHERS`: the CMake option plus one publisher per node. -/
def Config.publisherPoolSize (cfg : Config) : Nat := cfg.maxPublishers + cfg.maxNodes

/-- `RMW_UXRCE_MAX_TOPICS_INTERNAL`. -/
def Config.topicPoolSize (cfg : Config) : Nat :=
  match cfg.maxTopics with
  | none => cfg.publisherPoolSize + cfg.maxSubscriptions
  | some bound => bound

/-- The kinds of XRCE object the layer creates; `other` for the remaining raw kinds,
zero being the one of a zeroed identifier. -/
inductive ObjectType where
  | participant
  | topic
  | publisher
  | subscriber
  | datawriter
  | datareader
  | requester
  | replier
  | other (raw : UInt8)
deriving DecidableEq

/-- `uxrObjectId`. -/
structure ObjectId where
  id : Nat := 0
  type : ObjectType := .other 0
deriving DecidableEq

/-- The value of a `uint16_t` that was incremented that often. -/
def wire (count : Nat) : Nat := count % 2 ^ 16

/-- Equality of two identifiers, member by member. -/
def ObjectId.same (left right : ObjectId) : Bool :=
  wire left.id == wire right.id && left.type == right.type

inductive StreamId where
  | reliableOutput
  | bestEffortOutput
  | reliableInput
  | bestEffortInput
deriving DecidableEq

inductive Reliability where
  | systemDefault
  | reliable
  | bestEffort
  | unknown
deriving DecidableEq

inductive History where
  | systemDefault
  | keepLast
  | keepAll
  | unknown
deriving DecidableEq

inductive Durability where
  | systemDefault
  | transientLocal
  | volatile
  | unknown
deriving DecidableEq

/-- The members of `rmw_qos_profile_t` the layer reads. -/
structure QosProfile where
  reliability : Reliability := .systemDefault
  history : History := .systemDefault
  durability : Durability := .systemDefault
  avoidRosNamespaceConventions : Bool := false
deriving DecidableEq

/-- `service_type_support_callbacks_t`: the request and the response members. -/
structure ServiceTypeSupport where
  requestMembers : MessageTypeSupport
  responseMembers : MessageTypeSupport
deriving DecidableEq

/-- What `get_*_typesupport_handle` finds for the type support given by the caller. -/
inductive TypeSupportHandle (Callbacks : Type) where
  | undefined
  | nullData
  | found (callbacks : Callbacks)

/-- `SampleIdentity`. -/
structure SampleIdentity where
  high : BitVec 32
  low : BitVec 32
  entityKind : UInt8
  entityKey : Vector UInt8 3
  guidPrefix : Vector UInt8 12
deriving DecidableEq

/-- What is written to the agent. -/
inductive XrceRequest where
  | createParticipantBin (participant : ObjectId) (domain : Nat) (name : CString)
  | createParticipantRef (participant : ObjectId) (domain : Nat) (ref : CString)
  | createTopicBin (topic participant : ObjectId) (topicName typeName : CString)
  | createTopicRef (topic participant : ObjectId) (ref : CString)
  | createTopicXml (topic participant : ObjectId) (xml : CString)
  | createPublisherBin (publisher participant : ObjectId)
  | createPublisherXml (publisher participant : ObjectId) (xml : CString)
  | createDatawriterBin (datawriter publisher topic : ObjectId) (reliable keepLast : Bool)
      (durability : Durability)
  | createDatawriterRef (datawriter publisher : ObjectId) (ref : CString)
  | createSubscriberBin (subscriber participant : ObjectId)
  | createSubscriberXml (subscriber participant : ObjectId) (xml : CString)
  | createDatareaderBin (datareader subscriber topic : ObjectId) (reliable keepLast : Bool)
      (durability : Durability)
  | createDatareaderRef (datareader subscriber : ObjectId) (ref : CString)
  | createDatareaderXml (datareader subscriber : ObjectId) (xml : CString)
  | createEndpointBin (endpoint participant : ObjectId)
      (serviceName requestType replyType requestTopic replyTopic : CString)
  | createEndpointXml (endpoint participant : ObjectId) (xml : CString)
  | deleteEntity (object : ObjectId)
  | requestData (object : ObjectId) (stream : StreamId)
deriving DecidableEq

/-- The pools. -/
inductive Pool where
  | session
  | node
  | publisher
  | subscription
  | service
  | client
  | topic
  | staticBuffer
deriving DecidableEq

/-- A `void *` to an entity of one of the static arrays. -/
structure EntityPtr where
  pool : Pool
  index : Nat
deriving DecidableEq

/-- What `rmw_node_t`, `rmw_publisher_t`, `rmw_subscription_t`, `rmw_service_t` and
`rmw_client_t` have in common. `name` is the node, topic or service name. The member
`namespace_` of a node is `none` until it is written. -/
structure RmwHandle where
  implementationIdentifier : Option String := none
  data : Option Nat := none
  name : Option CString := none
  namespace_ : Option (Option CString) := none

/-- The heap blocks of one type of handle. Blocks are never reused, so a freed block
stays distinguishable from a later one. -/
structure HandleHeap where
  block : Nat → Option RmwHandle := fun _ => none
  next : Nat := 0

/-- `rmw_context_impl_t`, without its graph information: the id counters, the last
request id, the requests written so far, and whether the transport is open. -/
structure Session where
  nextId : ObjectType → Nat := fun _ => 0
  lastRequestId : Nat := 0
  requests : List XrceRequest := []
  transportOpen : Bool := false

/-- `rmw_graph_info_t`, a member of `rmw_context_impl_t`. The bytes of `micro_buffer` go by their
position. The array is static, so bytes never written are zero. -/
structure GraphInfo where
  initialized : Bool := false
  hasChanged : Bool := false
  participantId : ObjectId := {}
  subscriberId : ObjectId := {}
  topicId : ObjectId := {}
  datareaderId : ObjectId := {}
  microBuffer : Nat → UInt8 := fun _ => 0
  microBufferLength : Nat := 0

/-- The bytes of `micro_buffer` up to `micro_buffer_length`. -/
def GraphInfo.snapshot (graphInfo : GraphInfo) : List UInt8 :=
  (List.range graphInfo.microBufferLength).map graphInfo.microBuffer

@[simp] theorem GraphInfo.length_snapshot (graphInfo : GraphInfo) :
    graphInfo.snapshot.length = graphInfo.microBufferLength := by
  simp [GraphInfo.snapshot]

/-- `rmw_uxrce_node_t`. -/
structure Node where
  rmwHandle : Option Nat := none
  context : Option Nat := none
  participantId : ObjectId := {}

/-- `rmw_uxrce_topic_t`. -/
structure Topic where
  topicId : ObjectId := {}
  messageTypeSupportCallbacks : Option MessageTypeSupport := none
  ownerNode : Option Nat := none

/-- `rmw_uxrce_publisher_t`. -/
structure Publisher where
  rmwHandle : Option Nat := none
  publisherId : ObjectId := {}
  datawriterId : ObjectId := {}
  typeSupportCallbacks : Option MessageTypeSupport := none
  topic : Option Nat := none
  qos : QosProfile := {}
  streamId : StreamId := .reliableOutput
  ownerNode : Option Nat := none

/-- `rmw_uxrce_subscription_t`. -/
structure Subscription where
  rmwHandle : Option Nat := none
  subscriberId : ObjectId := {}
  datareaderId : ObjectId := {}
  typeSupportCallbacks : Option MessageTypeSupport := none
  topic : Option Nat := none
  ownerNode : Option Nat := none
  qos : QosProfile := {}

/-- `rmw_uxrce_service_t` and `rmw_uxrce_client_t`, whose members correspond:
`objectId` is `service_id` or `client_id`, `dataRequest` is `service_data_resquest` or
`client_data_request`. -/
structure Endpoint where
  rmwHandle : Option Nat := none
  objectId : ObjectId := {}
  typeSupportCallbacks : Option ServiceTypeSupport := none
  dataRequest : Nat := 0
  streamId : StreamId := .reliableOutput
  ownerNode : Option Nat := none

/-- The union `related` of an input buffer, with the member written last. -/
inductive Related where
  | replyId (id : Nat)
  | sampleId (id : SampleIdentity)
deriving DecidableEq

/-- Ghost data of an input buffer: the handle of the entity the callback stored the
message for, and the entity's routing number at that time. -/
structure Provenance where
  handle : Option Nat
  routing : Nat
deriving DecidableEq

/-- `rmw_uxrce_static_input_buffer_t`. `provenance` is ghost: callbacks write it and
nothing reads it. -/
structure StaticInputBuffer where
  buffer : List UInt8 := []
  length : Nat := 0
  owner : Option EntityPtr := none
  related : Related := .replyId 0
  provenance : Provenance := ⟨none, 0⟩

/-- `rmw_context_t`. -/
structure RmwContext where
  implementationIdentifier : Option String := none
  actualDomainId : Nat := 0
  impl : Option Nat := none

/-- The state of the layer: `*_memory`, `custom_*`, the handles, and the application's
contexts. -/
structure Rmw where
  memory : Pool → Mempool := fun _ => {}
  handles : Pool → HandleHeap := fun _ => {}
  customSessions : Nat → Session := fun _ => {}
  graphInfo : Nat → GraphInfo := fun _ => {}
  customNodes : Nat → Node := fun _ => {}
  customPublishers : Nat → Publisher := fun _ => {}
  customSubscriptions : Nat → Subscription := fun _ => {}
  customServices : Nat → Endpoint := fun _ => {}
  customClients : Nat → Endpoint := fun _ => {}
  customTopics : Nat → Topic := fun _ => {}
  customStaticBuffers : Nat → StaticInputBuffer := fun _ => {}
  contexts : Nat → RmwContext := fun _ => {}

end RmwMicroxrcedds
