import RmwMicroxrcedds.Model.Entities

/-! # Publishers

`rmw_create_publisher` and `rmw_destroy_publisher`.
-/

namespace RmwMicroxrcedds

/-- The arguments of `rmw_create_publisher`, the outcome of the two heap allocations and
of the type support lookup, and the three exchanges with the agent. -/
structure PublisherCall where
  node : Option Nat
  typeSupport : Option (TypeSupportHandle MessageTypeSupport)
  topicName : Option CString
  qos : Option QosProfile
  handleAllocated : Bool := true
  nameAllocated : Bool := true
  topic : Exchange := {}
  publisher : Exchange := {}
  datawriter : Exchange := {}

/-- The label `fail`. -/
def publisherFail (rmwPublisher : Nat) (s : Rmw) : Exec (Option Nat × Rmw) := do
  let s ← rmwUxrceFiniPublisherMemory rmwPublisher s
  .ok (none, s)

/-- The request that creates the data writer, unless the profile reference does not
fit. -/
def datawriterRequest (cfg : Config) (datawriterId publisherId topicId : ObjectId)
    (topicName : CString) (qos : QosProfile) : Option XrceRequest :=
  if cfg.useRefs then
    (buildDatawriterProfile topicName cfg.entityNamingBufferLength).map
      (.createDatawriterRef datawriterId publisherId)
  else
    some (.createDatawriterBin datawriterId publisherId topicId
      (qos.reliability == .reliable || qos.reliability == .systemDefault)
      (qos.history == .keepLast)
      (if qos.durability = .volatile then .volatile else .transientLocal))

/-- The last part of `rmw_create_publisher`: the publisher and its data writer on the
agent. -/
def createDatawriter (cfg : Config) (call : PublisherCall) (topicName : CString)
    (qos : QosProfile) (rmwPublisher customPublisher customNode context : Nat) (s : Rmw) :
    Exec (Option Nat × Rmw) := do
  let (publisherId, s) := s.uxrObjectId context .publisher
  let s := s.modifyPublisher customPublisher fun old => { old with publisherId := publisherId }
  let participantId := (s.customNodes customNode).participantId
  let (_, s) := s.uxrBuffer context
    (if cfg.useRefs then .createPublisherXml publisherId participantId []
      else .createPublisherBin publisherId participantId) call.publisher.room
  let (created, s) ← runXrceSession cfg context call.publisher s
  if created then
    let handle ← s.readHandle .publisher rmwPublisher
    let s := s.storeHandle .publisher rmwPublisher
      (some { handle with data := some customPublisher })
    let (datawriterId, s) := s.uxrObjectId context .datawriter
    let s := s.modifyPublisher customPublisher fun old => { old with datawriterId := datawriterId }
    let topic ← deref (s.customPublishers customPublisher).topic
    match datawriterRequest cfg datawriterId publisherId (s.customTopics topic).topicId
        topicName qos with
    | none => publisherFail rmwPublisher s
    | some request =>
        let (_, s) := s.uxrBuffer context request call.datawriter.room
        let (created, s) ← runXrceSession cfg context call.datawriter s
        if created then .ok (some rmwPublisher, s)
        else publisherFail rmwPublisher (s.putMemory .publisher customPublisher)
  else publisherFail rmwPublisher (s.putMemory .publisher customPublisher)

/-- The middle part of `rmw_create_publisher`: the slot is filled, the type support
looked up, and the topic created. -/
def fillPublisher (cfg : Config) (call : PublisherCall)
    (typeSupport : TypeSupportHandle MessageTypeSupport) (topicName : CString) (qos : QosProfile)
    (rmwPublisher customPublisher : Nat) (nodeData : Option Nat) (s : Rmw) :
    Exec (Option Nat × Rmw) := do
  let customNode ← deref nodeData
  let context ← deref (s.customNodes customNode).context
  let s := s.modifyPublisher customPublisher fun old =>
    { old with
      rmwHandle := some rmwPublisher
      ownerNode := some customNode
      qos := qos
      streamId := if qos.reliability = .bestEffort then .bestEffortOutput else .reliableOutput }
  match typeSupport with
  | .undefined => publisherFail rmwPublisher s
  | .nullData =>
      publisherFail rmwPublisher
        (s.modifyPublisher customPublisher fun old => { old with typeSupportCallbacks := none })
  | .found callbacks =>
      let s := s.modifyPublisher customPublisher fun old =>
        { old with typeSupportCallbacks := some callbacks }
      let (topic, s) ← createTopic cfg customNode topicName callbacks call.topic s
      let s := s.modifyPublisher customPublisher fun old => { old with topic := topic }
      if topic.isSome then
        createDatawriter cfg call topicName qos rmwPublisher customPublisher customNode context s
      else publisherFail rmwPublisher s

/-- `rmw_create_publisher`: the handle, or null. -/
def rmwCreatePublisher (cfg : Config) (call : PublisherCall) (s : Rmw) :
    Exec (Option Nat × Rmw) :=
  match call.node, call.typeSupport with
  | some node, some typeSupport => do
      let nodeHandle ← s.readHandle .node node
      if isUxrceRmwIdentifierValid nodeHandle.implementationIdentifier then
        match call.topicName, call.qos with
        | some (first :: rest), some qos =>
            let topicName := first :: rest
            if call.handleAllocated then
              let (rmwPublisher, s) := s.allocateHandle .publisher
                { implementationIdentifier := some eprosimaMicroxrceddsIdentifier
                  name := if call.nameAllocated then some topicName else none }
              if call.nameAllocated then
                match s.getMemory .publisher with
                | (none, s) => publisherFail rmwPublisher s
                | (some memoryNode, s) =>
                    let customPublisher ← s.dataOf .publisher memoryNode
                    fillPublisher cfg call typeSupport topicName qos rmwPublisher
                      customPublisher nodeHandle.data s
              else publisherFail rmwPublisher s
            -- `rmw_publisher->data = NULL` without a check of the allocation
            else .error .nullDereference
        | _, _ => .ok (none, s)
      else .ok (none, s)
  | _, _ => .ok (none, s)

/-- `rmw_destroy_publisher`. -/
def rmwDestroyPublisher (cfg : Config) (node publisher : Option Nat) (teardown : EntityTeardown)
    (s : Rmw) : Exec (RmwRet × Rmw) := do
  match ← checkDestroyed .publisher node publisher s, publisher with
  | some (_, customPublisher), some rmwPublisher =>
      let entity := s.customPublishers customPublisher
      let topic ← deref entity.topic
      let (_, s) ← destroyTopic cfg topic teardown.topic s
      let customNode ← deref entity.ownerNode
      let context ← deref (s.customNodes customNode).context
      let (confirmed, s) ← deletePair cfg context entity.datawriterId entity.publisherId
        teardown s
      let s ← rmwUxrceFiniPublisherMemory rmwPublisher s
      .ok (if confirmed then .ok else .timeout, s)
  | _, _ => .ok (.error, s)

end RmwMicroxrcedds
