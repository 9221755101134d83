import RmwMicroxrcedds.Model.Endpoint
import RmwMicroxrcedds.Model.Publisher

/-! # Nodes

`rmw_create_node` and `rmw_destroy_node`, which first destroys every publisher,
subscription, service and client of the node.
-/

namespace RmwMicroxrcedds

/-- `rmw_uxrce_fini_node_memory`. -/
def rmwUxrceFiniNodeMemory (node : Nat) (s : Rmw) : Exec Rmw := do
  let handle ← s.readHandle .node node
  if isUxrceRmwIdentifierValid handle.implementationIdentifier then
    match handle.namespace_ with
    | none => .error .uninitializedRead
    | some _ =>
        match handle.data with
        | some customNode =>
            let s := s.modifyNode customNode fun old =>
              { old with rmwHandle := none, context := none }
            let s := s.putMemory .node customNode
            .ok (s.storeHandle .node node none)
        | none => .ok (s.storeHandle .node node none)
  else .ok s

/-- The arguments of `rmw_create_node`, the outcome of the three heap allocations, and
the exchange with the agent. -/
structure NodeCall where
  context : Option Nat
  name : Option CString
  namespace_ : Option CString
  handleAllocated : Bool := true
  nameAllocated : Bool := true
  namespaceAllocated : Bool := true
  exchange : Exchange := {}

/-- The name of the participant: the node name, preceded by its namespace unless that
is the root. -/
def xrceNodeName (cfg : Config) (name namespace_ : CString) : CString :=
  snprintfText cfg.nodeNameMaxLength
    (if namespace_ = cstr "/" then name else namespace_ ++ cstr "/" ++ name)

/-- The request that creates the participant, unless the profile reference does not
fit. The reference carries the domain as a `uint16_t`. -/
def participantRequest (cfg : Config) (participantId : ObjectId) (domain : Nat)
    (name namespace_ : CString) : Option XrceRequest :=
  if cfg.useRefs then
    (buildParticipantProfile cfg.entityNamingBufferLength).map
      (.createParticipantRef participantId (domain % 2 ^ 16))
  else some (.createParticipantBin participantId domain (xrceNodeName cfg name namespace_))

/-- The last part of `create_node`: the participant on the agent. -/
def createParticipant (cfg : Config) (call : NodeCall) (domain : Nat) (name namespace_ : CString)
    (nodeHandle nodeInfo : Nat) (s : Rmw) : Exec (Option Nat × Rmw) := do
  let context ← deref (s.customNodes nodeInfo).context
  let (participantId, s) := s.uxrObjectId context .participant
  let s := s.modifyNode nodeInfo fun old => { old with participantId := participantId }
  match participantRequest cfg participantId domain name namespace_ with
  -- neither the slot nor the handle is given back here
  | none => .ok (none, s)
  | some request =>
      let (_, s) := s.uxrBuffer context request call.exchange.room
      let (created, s) ← runXrceSession cfg context call.exchange s
      if created then .ok (some nodeHandle, s)
      else
        let s ← rmwUxrceFiniNodeMemory nodeHandle s
        .ok (none, s)

/-- `create_node`. -/
def createNode (cfg : Config) (call : NodeCall) (context : Nat) (name namespace_ : CString)
    (s : Rmw) : Exec (Option Nat × Rmw) :=
  match s.getMemory .node with
  | (none, s) => .ok (none, s)
  | (some memoryNode, s) => do
      let nodeInfo ← s.dataOf .node memoryNode
      let s := s.modifyNode nodeInfo fun old => { old with context := (s.contexts context).impl }
      if call.handleAllocated then
        let (nodeHandle, s) := s.allocateHandle .node
          { implementationIdentifier := some eprosimaMicroxrceddsIdentifier
            data := some nodeInfo
            name := if call.nameAllocated then some name else none
            namespace_ :=
              if call.nameAllocated then
                some (if call.namespaceAllocated then some namespace_ else none)
              else none }
        let s := s.modifyNode nodeInfo fun old => { old with rmwHandle := some nodeHandle }
        if call.nameAllocated && call.namespaceAllocated then
          createParticipant cfg call (s.contexts context).actualDomainId name namespace_
            nodeHandle nodeInfo s
        else
          let s ← rmwUxrceFiniNodeMemory nodeHandle s
          .ok (none, s)
      -- the slot is not given back here
      else .ok (none, s)

/-- `rmw_create_node`: the handle, or null. -/
def rmwCreateNode (cfg : Config) (call : NodeCall) (s : Rmw) : Exec (Option Nat × Rmw) :=
  match call.name, call.namespace_ with
  | some (first :: rest), some (first' :: rest') => do
      let context ← deref call.context
      createNode cfg call context (first :: rest) (first' :: rest') s
  | _, _ => .ok (none, s)

/-- What the agent and the link do while a node is destroyed, for every entity that may
belong to it and for its participant. -/
structure NodeTeardown where
  publisher : Nat → EntityTeardown := fun _ => {}
  subscription : Nat → EntityTeardown := fun _ => {}
  service : Nat → Exchange := fun _ => {}
  client : Nat → Exchange := fun _ => {}
  participant : Exchange := {}

/-- The body of the loop over the publishers. -/
def destroyOwnedPublisher (cfg : Config) (node customNode : Nat) (teardown : NodeTeardown)
    (customPublisher : Nat) (s : Rmw) : Exec (Option RmwRet × Rmw) :=
  if (s.customPublishers customPublisher).ownerNode = some customNode then do
    let (ret, s) ← rmwDestroyPublisher cfg (some node)
      (s.customPublishers customPublisher).rmwHandle (teardown.publisher customPublisher) s
    .ok (some ret, s)
  else .ok (none, s)

/-- The body of the loop over the subscriptions. -/
def destroyOwnedSubscription (cfg : Config) (node customNode : Nat) (teardown : NodeTeardown)
    (customSubscription : Nat) (s : Rmw) : Exec (Option RmwRet × Rmw) :=
  if (s.customSubscriptions customSubscription).ownerNode = some customNode then do
    let (ret, s) ← rmwDestroySubscription cfg (some node)
      (s.customSubscriptions customSubscription).rmwHandle
      (teardown.subscription customSubscription) s
    .ok (some ret, s)
  else .ok (none, s)

/-- The body of the loops over the services and the clients. -/
def destroyOwnedEndpoint (cfg : Config) (kind : EndpointKind) (node customNode : Nat)
    (exchange : Nat → Exchange) (entity : Nat) (s : Rmw) : Exec (Option RmwRet × Rmw) :=
  if (s.customEndpoint kind entity).ownerNode = some customNode then do
    let (ret, s) ← destroyEndpoint cfg kind (some node) (s.customEndpoint kind entity).rmwHandle
      (exchange entity) s
    .ok (some ret, s)
  else .ok (none, s)

/-- `rmw_destroy_node`. -/
def rmwDestroyNode (cfg : Config) (node : Option Nat) (teardown : NodeTeardown) (s : Rmw) :
    Exec (RmwRet × Rmw) :=
  match node with
  | none => .ok (.error, s)
  | some node => do
      let handle ← s.readHandle .node node
      match isUxrceRmwIdentifierValid handle.implementationIdentifier, handle.data with
      | true, some customNode =>
          let (ret, s) ← s.forEachAllocated .publisher
            (destroyOwnedPublisher cfg node customNode teardown) .ok
          let (ret, s) ← s.forEachAllocated .subscription
            (destroyOwnedSubscription cfg node customNode teardown) ret
          let (ret, s) ← s.forEachAllocated .service
            (destroyOwnedEndpoint cfg .service node customNode teardown.service) ret
          let (ret, s) ← s.forEachAllocated .client
            (destroyOwnedEndpoint cfg .client node customNode teardown.client) ret
          let context ← deref (s.customNodes customNode).context
          let (_, s) := s.uxrBuffer context
            (.deleteEntity (s.customNodes customNode).participantId) teardown.participant.room
          let (confirmed, s) ← runXrceSession cfg context teardown.participant s
          let s ← rmwUxrceFiniNodeMemory node s
          .ok (if confirmed then ret else .timeout, s)
      | _, _ => .ok (.error, s)

end RmwMicroxrcedds
