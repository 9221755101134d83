import RmwMicroxrcedds.Model.Node

/-! # Contexts

`rmw_init`, `rmw_graph_init`, `rmw_context_fini` and `rmw_shutdown`.
-/

namespace RmwMicroxrcedds

/-- `rmw_init_options_t`, as far as `rmw_init` looks at it: zeroed, or initialised by
`rmw_init_options_init`, which sets the identifier before the rest. -/
structure InitOptions where
  implementationIdentifier : Option String
  domainId : Nat
  impl : Bool
  identified : impl = true → implementationIdentifier.isSome = true := by decide

/-- How `rmw_uxrce_transport_init` ends. The serial transport can fail after its device
was opened. -/
inductive TransportOutcome where
  | notOpened
  | openedThenFailed
  | opened
deriving DecidableEq

/-- What happens between `rmw_graph_init` and the agent. -/
structure GraphExchange where
  participantRoom : Bool := true
  subscriberRoom : Bool := true
  topicRoom : Bool := true
  datareaderRoom : Bool := true
  deliveries : List Delivery := []
  confirmed : Bool := true
  dataRequestRoom : Bool := true

/-- The arguments of `rmw_init` and what happens between the layer and the agent. -/
structure InitCall where
  options : Option InitOptions
  context : Option Nat
  transport : TransportOutcome := .opened
  sessionDeliveries : List Delivery := []
  sessionCreated : Bool := true
  graph : GraphExchange := {}
  deletionDeliveries : List Delivery := []

/-- `graph_subscription_qos_policies`. -/
def graphSubscriptionQosPolicies : QosProfile where
  history := .keepLast
  reliability := .reliable
  durability := .transientLocal
  avoidRosNamespaceConventions := true

/-- `graph_topic_name`. -/
def graphTopicName : CString := cstr "ros_to_microros_graph"

/-- The last part of `rmw_graph_init`: the requests run, and data is asked for. -/
def runGraph (cfg : Config) (context : Nat) (exchange : GraphExchange) (s : Rmw) :
    Exec (RmwRet × Rmw) := do
  let s ← deliverAll cfg context exchange.deliveries s
  if exchange.confirmed then
    let (_, s) := s.uxrBuffer context
      (.requestData (s.graphInfo context).datareaderId .reliableInput) exchange.dataRequestRoom
    .ok (.ok, s)
  else .ok (.error, s)

/-- `graph_info->*_id = uxr_object_id(context->id_*++, type)`. -/
def assignGraphId (context : Nat) (type : ObjectType) (write : GraphInfo → ObjectId → GraphInfo)
    (s : Rmw) : Rmw :=
  let (id, s) := s.uxrObjectId context type
  s.modifyGraphInfo context fun old => write old id

/-- The first part of `rmw_graph_init`: the four identifiers and the first two requests. The
empty subscriber document never fails to be built. -/
def numberGraph (context : Nat) (exchange : GraphExchange) (s : Rmw) : Rmw :=
  let s := s.modifyGraphInfo context fun old =>
    { old with initialized := false, hasChanged := false }
  let s := assignGraphId context .participant (fun old id => { old with participantId := id }) s
  let s := (s.uxrBuffer context
    (.createParticipantBin (s.graphInfo context).participantId 0 (cstr "microros_graph"))
    exchange.participantRoom).2
  let s := assignGraphId context .subscriber (fun old id => { old with subscriberId := id }) s
  let s := (s.uxrBuffer context
    (.createSubscriberXml (s.graphInfo context).subscriberId (s.graphInfo context).participantId
      buildSubscriberXml.1) exchange.subscriberRoom).2
  let s := assignGraphId context .datareader (fun old id => { old with datareaderId := id }) s
  assignGraphId context .topic (fun old id => { old with topicId := id }) s

/-- `rmw_graph_init`. -/
def rmwGraphInit (cfg : Config) (context : Nat) (exchange : GraphExchange) (s : Rmw) :
    Exec (RmwRet × Rmw) :=
  let s := numberGraph context exchange s
  let topicXml := buildTopicXml cfg graphTopicName cfg.graphTypeSupport
    graphSubscriptionQosPolicies cfg.entityNamingBufferLength
  if topicXml.2 = 0 then .ok (.error, s)
  else
    let (_, s) := s.uxrBuffer context
      (.createTopicXml (s.graphInfo context).topicId (s.graphInfo context).participantId topicXml.1)
      exchange.topicRoom
    let datareaderXml := buildDatareaderXml cfg graphTopicName cfg.graphTypeSupport
      graphSubscriptionQosPolicies cfg.entityNamingBufferLength
    if datareaderXml.2 = 0 then .ok (.error, s)
    else
      let (_, s) := s.uxrBuffer context
        (.createDatareaderXml (s.graphInfo context).datareaderId (s.graphInfo context).subscriberId
          datareaderXml.1) exchange.datareaderRoom
      runGraph cfg context exchange s

/-- The pools `rmw_init` initialises after it has a session. -/
def initEntityPools (cfg : Config) (s : Rmw) : Rmw :=
  let s := s.initMemory .node cfg.maxNodes
  let s := s.initMemory .subscription cfg.maxSubscriptions
  let s := s.initMemory .publisher cfg.publisherPoolSize
  let s := s.initMemory .service cfg.maxServices
  let s := s.initMemory .client cfg.maxClients
  s.initMemory .topic cfg.topicPoolSize

/-- The part of `rmw_init` after the transport was opened: the session with the agent,
and the graph entities. -/
def openSession (cfg : Config) (call : InitCall) (contextImpl : Nat) (s : Rmw) :
    Exec (RmwRet × Rmw) := do
  let s := s.modifySession contextImpl fun old =>
    { old with lastRequestId := cfg.initialRequestId, requests := [] }
  let s ← deliverAll cfg contextImpl call.sessionDeliveries s
  if call.sessionCreated then
    if cfg.graph then
      let (ret, s) ← rmwGraphInit cfg contextImpl call.graph s
      if ret = .ok then .ok (.ok, s)
      else
        let s ← deliverAll cfg contextImpl call.deletionDeliveries s
        .ok (.error, s)
    else .ok (.ok, s)
  else .ok (.error, s.modifySession contextImpl fun old => { old with transportOpen := false })

/-- The part of `rmw_init` after the session slot was taken. -/
def initContext (cfg : Config) (call : InitCall) (context contextImpl : Nat) (s : Rmw) :
    Exec (RmwRet × Rmw) :=
  let s := s.modifySession contextImpl fun old => { old with nextId := fun _ => 0 }
  let s := s.modifyContext context fun old => { old with impl := some contextImpl }
  let s := initEntityPools cfg s
  let opened := s.modifySession contextImpl fun old => { old with transportOpen := true }
  match call.transport with
  | .notOpened => .ok (.error, s)
  | .openedThenFailed => .ok (.error, opened)
  | .opened => openSession cfg call contextImpl opened

/-- `rmw_init`. -/
def rmwInit (cfg : Config) (call : InitCall) (s : Rmw) : Exec (RmwRet × Rmw) :=
  match call.options, call.context with
  | some options, some context =>
      if ¬ options.impl then .ok (.invalidArgument, s)
      else do
        if ← checkTypeIdentifiersMatch options.implementationIdentifier then
          let s := s.modifyContext context fun old =>
            { old with
              implementationIdentifier := some eprosimaMicroxrceddsIdentifier
              actualDomainId := options.domainId }
          let s := s.initMemory .session cfg.maxSessions
          let s := s.initMemory .staticBuffer cfg.maxHistory
          match s.getMemory .session with
          | (none, s) => .ok (.error, s)
          | (some memoryNode, s) =>
              let contextImpl ← s.dataOf .session memoryNode
              initContext cfg call context contextImpl s
        else .ok (.incorrectRmwImplementation, s)
  | _, _ => .ok (.invalidArgument, s)

/-- What happens while a context is finalised: the teardown of each node it owns, and
the messages that arrive while the session is deleted. -/
structure ContextTeardown where
  node : Nat → NodeTeardown := fun _ => {}
  deliveries : List Delivery := []

/-- The body of the loop over the nodes. -/
def destroyOwnedNode (cfg : Config) (impl : Option Nat) (teardown : ContextTeardown)
    (customNode : Nat) (s : Rmw) : Exec (Option RmwRet × Rmw) :=
  if (s.customNodes customNode).context = impl then do
    let (ret, s) ← rmwDestroyNode cfg (s.customNodes customNode).rmwHandle
      (teardown.node customNode) s
    .ok (some ret, s)
  else .ok (none, s)

/-- `rmw_uxrce_fini_session_memory`. -/
def rmwUxrceFiniSessionMemory (session : Nat) (s : Rmw) : Rmw := s.putMemory .session session

/-- `rmw_context_fini`. -/
def rmwContextFini (cfg : Config) (context : Nat) (teardown : ContextTeardown) (s : Rmw) :
    Exec (RmwRet × Rmw) := do
  let impl := (s.contexts context).impl
  let (ret, s) ← s.forEachAllocated .node (destroyOwnedNode cfg impl teardown) .ok
  let contextImpl ← deref impl
  let s ← deliverAll cfg contextImpl teardown.deliveries s
  let s := rmwUxrceFiniSessionMemory contextImpl s
  let s := s.modifySession contextImpl fun old => { old with transportOpen := false }
  .ok (ret, s.modifyContext context fun old => { old with impl := none })

/-- `rmw_shutdown`. -/
def rmwShutdown (cfg : Config) (context : Option Nat) (teardown : ContextTeardown) (s : Rmw) :
    Exec (RmwRet × Rmw) :=
  match context with
  | none => .ok (.invalidArgument, s)
  | some context => do
      if ← checkTypeIdentifiersMatch (s.contexts context).implementationIdentifier then
        let (ret, s) ← rmwContextFini cfg context teardown s
        .ok (ret, if ret = .ok then s.modifyContext context fun _ => {} else s)
      else .ok (.incorrectRmwImplementation, s)

end RmwMicroxrcedds
