import RmwMicroxrcedds.Model.Subscription

/-! # Services and clients

`rmw_create_service`, `rmw_create_client` and the two destroy functions. The source
files differ in the pool, the object kind and the id counter only; the shared text is
written once over the kind of endpoint.
-/

namespace RmwMicroxrcedds

inductive EndpointKind where
  | service
  | client
deriving DecidableEq

namespace EndpointKind

def pool : EndpointKind → Pool
  | service => .service
  | client => .client

/-- The counter and the XRCE kind: `UXR_REPLIER_ID` or `UXR_REQUESTER_ID`. -/
def objectType : EndpointKind → ObjectType
  | service => .replier
  | client => .requester

/-- The argument `requester` of `build_service_xml`. -/
def requester : EndpointKind → Bool
  | service => false
  | client => true

end EndpointKind

/-- `custom_services[index]` or `custom_clients[index]`. -/
def Rmw.customEndpoint (s : Rmw) (kind : EndpointKind) (index : Nat) : Endpoint :=
  match kind with
  | .service => s.customServices index
  | .client => s.customClients index

def Rmw.modifyEndpoint (s : Rmw) (kind : EndpointKind) (index : Nat)
    (change : Endpoint → Endpoint) : Rmw :=
  match kind with
  | .service =>
      { s with
        customServices := Function.update s.customServices index (change (s.customServices index)) }
  | .client =>
      { s with
        customClients := Function.update s.customClients index (change (s.customClients index)) }

/-- The arguments of `rmw_create_service` or `rmw_create_client`, the outcome of the two
heap allocations and of the type support lookup, and what happens between the layer and
the agent. -/
structure EndpointCall where
  node : Option Nat
  typeSupport : Option (TypeSupportHandle ServiceTypeSupport)
  serviceName : Option CString
  qos : Option QosProfile
  handleAllocated : Bool := true
  nameAllocated : Bool := true
  creation : Exchange := {}
  dataRequestRoom : Bool := true

/-- The label `fail`. -/
def endpointFail (kind : EndpointKind) (handle : Nat) (s : Rmw) : Exec (Option Nat × Rmw) := do
  let s ← finiMemory kind.pool handle s
  .ok (none, s)

/-- The request that creates the endpoint, unless its document cannot be built. -/
def endpointRequest (cfg : Config) (kind : EndpointKind) (objectId participantId : ObjectId)
    (serviceName : CString) (members : ServiceTypeSupport) (qos : QosProfile) :
    Option XrceRequest :=
  if cfg.useRefs then
    let document := buildServiceXml cfg (generateName objectId 20).1 serviceName kind.requester
      members qos cfg.entityNamingBufferLength
    if document.2 = 0 then none else some (.createEndpointXml objectId participantId document.1)
  else
    let types := generateServiceTypes members cfg.typeNameMaxLength
    let topics := generateServiceTopics serviceName cfg.topicNameMaxLength
    some (.createEndpointBin objectId participantId serviceName types.1 types.2 topics.1 topics.2)

/-- The part of the creation that talks to the agent. -/
def createEndpointOnAgent (cfg : Config) (kind : EndpointKind) (call : EndpointCall)
    (members : ServiceTypeSupport) (serviceName : CString) (qos : QosProfile)
    (handle entity customNode context : Nat) (s : Rmw) : Exec (Option Nat × Rmw) := do
  let (objectId, s) := s.uxrObjectId context kind.objectType
  let s := s.modifyEndpoint kind entity fun old => { old with objectId := objectId }
  match endpointRequest cfg kind objectId (s.customNodes customNode).participantId serviceName
      members qos with
  | none => endpointFail kind handle s
  | some request =>
      let (_, s) := s.uxrBuffer context request call.creation.room
      let contents ← s.readHandle kind.pool handle
      let s := s.storeHandle kind.pool handle (some { contents with data := some entity })
      let (created, s) ← runXrceSession cfg context call.creation s
      if created then
        let s := s.modifyEndpoint kind entity fun old =>
          { old with
            streamId := if qos.reliability = .bestEffort then .bestEffortOutput
              else .reliableOutput }
        let (dataRequest, s) := s.uxrBuffer context
          (.requestData objectId (dataRequestStreamId qos)) call.dataRequestRoom
        .ok (some handle, s.modifyEndpoint kind entity fun old =>
          { old with dataRequest := dataRequest })
      else endpointFail kind handle (s.putMemory kind.pool entity)

/-- The part of the creation that fills the slot and looks up the type support. -/
def fillEndpoint (cfg : Config) (kind : EndpointKind) (call : EndpointCall)
    (typeSupport : TypeSupportHandle ServiceTypeSupport) (serviceName : CString)
    (qos : QosProfile) (handle entity : Nat) (nodeData : Option Nat) (s : Rmw) :
    Exec (Option Nat × Rmw) := do
  let s := s.modifyEndpoint kind entity fun old =>
    { old with rmwHandle := some handle, ownerNode := nodeData }
  match typeSupport with
  | .undefined => endpointFail kind handle s
  | .nullData =>
      endpointFail kind handle
        (s.modifyEndpoint kind entity fun old => { old with typeSupportCallbacks := none })
  | .found callbacks =>
      let s := s.modifyEndpoint kind entity fun old =>
        { old with typeSupportCallbacks := some callbacks }
      let customNode ← deref nodeData
      let context ← deref (s.customNodes customNode).context
      createEndpointOnAgent cfg kind call callbacks serviceName qos handle entity customNode
        context s

/-- The text shared by the two creation functions. -/
def createEndpoint (cfg : Config) (kind : EndpointKind) (call : EndpointCall) (s : Rmw) :
    Exec (Option Nat × Rmw) :=
  match call.node, call.typeSupport with
  | some node, some typeSupport => do
      let nodeHandle ← s.readHandle .node node
      if isUxrceRmwIdentifierValid nodeHandle.implementationIdentifier then
        match call.serviceName, call.qos with
        | some (first :: rest), some qos =>
            let serviceName := first :: rest
            if call.handleAllocated then
              let (handle, s) := s.allocateHandle kind.pool
                { implementationIdentifier := some eprosimaMicroxrceddsIdentifier
                  name := if call.nameAllocated then some serviceName else none }
              if call.nameAllocated then
                match s.getMemory kind.pool with
                | (none, s) => endpointFail kind handle s
                | (some memoryNode, s) =>
                    let entity ← s.dataOf kind.pool memoryNode
                    fillEndpoint cfg kind call typeSupport serviceName qos handle entity
                      nodeHandle.data s
              else endpointFail kind handle s
            -- `rmw_service->data = NULL` without a check of the allocation
            else .error .nullDereference
        | _, _ => .ok (none, s)
      else .ok (none, s)
  | _, _ => .ok (none, s)

/-- The text shared by the two destroy functions. The session is the one of the node
given by the caller. -/
def destroyEndpoint (cfg : Config) (kind : EndpointKind) (node endpoint : Option Nat)
    (exchange : Exchange) (s : Rmw) : Exec (RmwRet × Rmw) := do
  match ← checkDestroyed kind.pool node endpoint s, endpoint with
  | some (customNode, entity), some handle =>
      let context ← deref (s.customNodes customNode).context
      let (_, s) := s.uxrBuffer context (.deleteEntity (s.customEndpoint kind entity).objectId)
        exchange.room
      let (confirmed, s) ← runXrceSession cfg context exchange s
      let s ← finiMemory kind.pool handle s
      .ok (if confirmed then .ok else .timeout, s)
  | _, _ => .ok (.error, s)

/-- `rmw_create_service`. -/
def rmwCreateService (cfg : Config) : EndpointCall → Rmw → Exec (Option Nat × Rmw) :=
  createEndpoint cfg .service

/-- `rmw_create_client`. -/
def rmwCreateClient (cfg : Config) : EndpointCall → Rmw → Exec (Option Nat × Rmw) :=
  createEndpoint cfg .client

/-- `rmw_destroy_service`. -/
def rmwDestroyService (cfg : Config) :
    Option Nat → Option Nat → Exchange → Rmw → Exec (RmwRet × Rmw) :=
  destroyEndpoint cfg .service

/-- `rmw_destroy_client`. -/
def rmwDestroyClient (cfg : Config) :
    Option Nat → Option Nat → Exchange → Rmw → Exec (RmwRet × Rmw) :=
  destroyEndpoint cfg .client

end RmwMicroxrcedds
