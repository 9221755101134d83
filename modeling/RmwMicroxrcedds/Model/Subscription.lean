import RmwMicroxrcedds.Model.Entities

/-! # Subscriptions

`rmw_create_subscription` and `rmw_destroy_subscription`. Unlike a publisher, a
subscription's handle designates its slot only after the last exchange.
-/

namespace RmwMicroxrcedds

/-- The arguments of `rmw_create_subscription`, the outcome of the two heap allocations
and of the type support lookup, and what happens between the layer and the agent. -/
structure SubscriptionCall where
  node : Option Nat
  typeSupport : Option (TypeSupportHandle MessageTypeSupport)
  topicName : Option CString
  qos : Option QosProfile
  handleAllocated : Bool := true
  nameAllocated : Bool := true
  topic : Exchange := {}
  subscriber : Exchange := {}
  datareader : Exchange := {}
  dataRequestRoom : Bool := true

/-- The label `fail`. -/
def subscriptionFail (rmwSubscription : Nat) (s : Rmw) : Exec (Option Nat × Rmw) := do
  let s ← rmwUxrceFiniSubscriptionMemory rmwSubscription s
  .ok (none, s)

/-- The request that creates the data reader, unless the profile reference does not
fit. -/
def datareaderRequest (cfg : Config) (datareaderId subscriberId topicId : ObjectId)
    (topicName : CString) (qos : QosProfile) : Option XrceRequest :=
  if cfg.useRefs then
    (buildDatareaderProfile topicName cfg.entityNamingBufferLength).map
      (.createDatareaderRef datareaderId subscriberId)
  else
    some (.createDatareaderBin datareaderId subscriberId topicId
      (qos.reliability == .reliable || qos.reliability == .systemDefault)
      (qos.history == .keepLast)
      (if qos.durability = .volatile then .volatile else .transientLocal))

/-- `data_request_stream_id`, the stream the agent is asked to send data on. -/
def dataRequestStreamId (qos : QosProfile) : StreamId :=
  if qos.reliability = .bestEffort then .bestEffortInput else .reliableInput

/-- The last part of `rmw_create_subscription`: the subscriber and its data reader on
the agent, and the request for data. -/
def createDatareader (cfg : Config) (call : SubscriptionCall) (topicName : CString)
    (qos : QosProfile) (rmwSubscription customSubscription customNode context : Nat) (s : Rmw) :
    Exec (Option Nat × Rmw) := do
  let (subscriberId, s) := s.uxrObjectId context .subscriber
  let s := s.modifySubscription customSubscription fun old =>
    { old with subscriberId := subscriberId }
  let participantId := (s.customNodes customNode).participantId
  let (_, s) := s.uxrBuffer context
    (if cfg.useRefs then .createSubscriberXml subscriberId participantId []
      else .createSubscriberBin subscriberId participantId) call.subscriber.room
  let (created, s) ← runXrceSession cfg context call.subscriber s
  if created then
    let (datareaderId, s) := s.uxrObjectId context .datareader
    let s := s.modifySubscription customSubscription fun old =>
      { old with datareaderId := datareaderId }
    let topic ← deref (s.customSubscriptions customSubscription).topic
    match datareaderRequest cfg datareaderId subscriberId (s.customTopics topic).topicId
        topicName qos with
    | none => subscriptionFail rmwSubscription s
    | some request =>
        let (_, s) := s.uxrBuffer context request call.datareader.room
        let (created, s) ← runXrceSession cfg context call.datareader s
        if created then
          let handle ← s.readHandle .subscription rmwSubscription
          let s := s.storeHandle .subscription rmwSubscription
            (some { handle with data := some customSubscription })
          let (_, s) := s.uxrBuffer context
            (.requestData datareaderId (dataRequestStreamId qos)) call.dataRequestRoom
          .ok (some rmwSubscription, s)
        else subscriptionFail rmwSubscription (s.putMemory .subscription customSubscription)
  else subscriptionFail rmwSubscription (s.putMemory .subscription customSubscription)

/-- The middle part of `rmw_create_subscription`: the slot is filled, the type support
looked up, and the topic created. -/
def fillSubscription (cfg : Config) (call : SubscriptionCall)
    (typeSupport : TypeSupportHandle MessageTypeSupport) (topicName : CString) (qos : QosProfile)
    (rmwSubscription customSubscription : Nat) (nodeData : Option Nat) (s : Rmw) :
    Exec (Option Nat × Rmw) := do
  let s := s.modifySubscription customSubscription fun old =>
    { old with rmwHandle := some rmwSubscription, ownerNode := nodeData, qos := qos }
  match typeSupport with
  | .undefined => subscriptionFail rmwSubscription s
  | .nullData =>
      subscriptionFail rmwSubscription
        (s.modifySubscription customSubscription fun old =>
          { old with typeSupportCallbacks := none })
  | .found callbacks =>
      let s := s.modifySubscription customSubscription fun old =>
        { old with typeSupportCallbacks := some callbacks }
      let customNode ← deref nodeData
      let (topic, s) ← createTopic cfg customNode topicName callbacks call.topic s
      let s := s.modifySubscription customSubscription fun old => { old with topic := topic }
      if topic.isSome then
        let context ← deref (s.customNodes customNode).context
        createDatareader cfg call topicName qos rmwSubscription customSubscription customNode
          context s
      else subscriptionFail rmwSubscription s

/-- `rmw_create_subscription`: the handle, or null. -/
def rmwCreateSubscription (cfg : Config) (call : SubscriptionCall) (s : Rmw) :
    Exec (Option Nat × Rmw) :=
  match call.node, call.typeSupport with
  | some node, some typeSupport => do
      let nodeHandle ← s.readHandle .node node
      if isUxrceRmwIdentifierValid nodeHandle.implementationIdentifier then
        match call.topicName, call.qos with
        | some (first :: rest), some qos =>
            let topicName := first :: rest
            if call.handleAllocated then
              let (rmwSubscription, s) := s.allocateHandle .subscription
                { implementationIdentifier := some eprosimaMicroxrceddsIdentifier
                  name := if call.nameAllocated then some topicName else none }
              if call.nameAllocated then
                match s.getMemory .subscription with
                | (none, s) => subscriptionFail rmwSubscription s
                | (some memoryNode, s) =>
                    let customSubscription ← s.dataOf .subscription memoryNode
                    fillSubscription cfg call typeSupport topicName qos rmwSubscription
                      customSubscription nodeHandle.data s
              else subscriptionFail rmwSubscription s
            -- `rmw_subscription->data = NULL` without a check of the allocation
            else .error .nullDereference
        | _, _ => .ok (none, s)
      else .ok (none, s)
  | _, _ => .ok (none, s)

/-- `rmw_destroy_subscription`. -/
def rmwDestroySubscription (cfg : Config) (node subscription : Option Nat)
    (teardown : EntityTeardown) (s : Rmw) : Exec (RmwRet × Rmw) := do
  match ← checkDestroyed .subscription node subscription s, subscription with
  | some (_, customSubscription), some rmwSubscription =>
      let entity := s.customSubscriptions customSubscription
      let topic ← deref entity.topic
      let (_, s) ← destroyTopic cfg topic teardown.topic s
      let customNode ← deref entity.ownerNode
      let context ← deref (s.customNodes customNode).context
      let (confirmed, s) ← deletePair cfg context entity.datareaderId entity.subscriberId
        teardown s
      let s ← rmwUxrceFiniSubscriptionMemory rmwSubscription s
      .ok (if confirmed then .ok else .timeout, s)
  | _, _ => .ok (.error, s)

end RmwMicroxrcedds
