import RmwMicroxrcedds.Model.Callbacks
import RmwMicroxrcedds.Model.Names

/-! # Topics

`rmw_microxrcedds_topic.c` and `rmw_uxrce_fini_topic_memory`.
-/

namespace RmwMicroxrcedds

/-- `rmw_uxrce_fini_topic_memory`. -/
def rmwUxrceFiniTopicMemory (topic : Nat) (s : Rmw) : Rmw :=
  (s.putMemory .topic topic).modifyTopic topic fun old => { old with ownerNode := none }

/-- The request `create_topic` writes, unless the profile reference does not fit. -/
def topicRequest (cfg : Config) (topicId participantId : ObjectId) (topicName : CString)
    (callbacks : MessageTypeSupport) : Option XrceRequest :=
  if cfg.useRefs then
    (buildTopicProfile topicName cfg.entityNamingBufferLength).map
      (.createTopicRef topicId participantId)
  else
    some (.createTopicBin topicId participantId
      (generateTopicName topicName cfg.topicNameMaxLength).1
      (generateTypeName callbacks cfg.typeNameMaxLength).1)

/-- `create_topic`: the topic, or null. -/
def createTopic (cfg : Config) (customNode : Nat) (topicName : CString)
    (callbacks : MessageTypeSupport) (exchange : Exchange) (s : Rmw) : Exec (Option Nat × Rmw) :=
  match s.getMemory .topic with
  | (none, s) => .ok (none, s)
  | (some memoryNode, s) => do
      let customTopic ← s.dataOf .topic memoryNode
      let context ← deref (s.customNodes customNode).context
      let (topicId, s) := s.uxrObjectId context .topic
      let s := s.modifyTopic customTopic fun _ =>
        { ownerNode := some customNode
          messageTypeSupportCallbacks := some callbacks
          topicId := topicId }
      match topicRequest cfg topicId (s.customNodes customNode).participantId topicName
          callbacks with
      | none => .ok (none, rmwUxrceFiniTopicMemory customTopic s)
      | some request =>
          let (_, s) := s.uxrBuffer context request exchange.room
          let (confirmed, s) ← runXrceSession cfg context exchange s
          if confirmed then .ok (some customTopic, s)
          else .ok (none, rmwUxrceFiniTopicMemory customTopic s)

/-- `destroy_topic`. -/
def destroyTopic (cfg : Config) (topic : Nat) (exchange : Exchange) (s : Rmw) :
    Exec (RmwRet × Rmw) :=
  match (s.customTopics topic).ownerNode with
  | none => .ok (.error, s)
  | some customNode => do
      let context ← deref (s.customNodes customNode).context
      let (_, s) := s.uxrBuffer context (.deleteEntity (s.customTopics topic).topicId) exchange.room
      let (confirmed, s) ← runXrceSession cfg context exchange s
      .ok (if confirmed then .ok else .timeout, rmwUxrceFiniTopicMemory topic s)

/-- The loops of `topic_count`: the allocated entities of a pool that pass the test. -/
def countAllocated (mem : Mempool) (test : Nat → Bool) : Nat → Option Nat → Exec Nat
  | _, none => .ok 0
  | 0, some _ => .error .divergence
  | fuel + 1, some item => do
      let entity ← deref (mem.data item)
      let rest ← countAllocated mem test fuel (mem.links item).next
      .ok (rest + if test entity then 1 else 0)

/-- `topic_count`. -/
def topicCount (customNode : Nat) (s : Rmw) : Exec Nat := do
  let publishers := s.memory .publisher
  let ofPublishers ← countAllocated publishers (fun publisher =>
      (s.customPublishers publisher).ownerNode == some customNode &&
        (s.customPublishers publisher).topic.isSome)
    publishers.size publishers.allocateditems
  let subscriptions := s.memory .subscription
  let ofSubscriptions ← countAllocated subscriptions (fun subscription =>
      (s.customSubscriptions subscription).ownerNode == some customNode &&
        (s.customSubscriptions subscription).topic.isSome)
    subscriptions.size subscriptions.allocateditems
  .ok (ofPublishers + ofSubscriptions)

end RmwMicroxrcedds
