import RmwMicroxrcedds.Model.State

/-! # Reception

`callbacks.c`: what happens when a session delivers a sample, a request or a reply. A
callback finds the entity the message is for and stores the message in an input buffer
of the shared pool; a sample for the graph data reader overwrites the graph snapshot.
-/

namespace RmwMicroxrcedds

/-- What a running session hands to `on_topic`, `on_request` or `on_reply`: the object
or request id, the announced length, and the bytes left in the stream buffer. -/
inductive Delivery where
  | topic (objectId : ObjectId) (stream : List UInt8) (length : Nat)
  | request (requestId : Nat) (sampleId : SampleIdentity) (stream : List UInt8) (length : Nat)
  | reply (requestId replyId : Nat) (stream : List UInt8) (length : Nat)

def Delivery.stream : Delivery → List UInt8
  | topic _ stream _ => stream
  | request _ _ stream _ => stream
  | reply _ _ stream _ => stream

def Delivery.length : Delivery → Nat
  | topic _ _ length => length
  | request _ _ _ length => length
  | reply _ _ _ length => length

/-- The bytes `ucdr_deserialize_array_uint8_t` writes: the announced number of them, or
all there are when the stream holds fewer. -/
def Delivery.written (delivery : Delivery) : List UInt8 := delivery.stream.take delivery.length

/-- The result of `ucdr_deserialize_array_uint8_t`. -/
def Delivery.copied (delivery : Delivery) : Bool := delivery.length ≤ delivery.stream.length

/-- The announced payload is no longer than an input buffer. -/
def Delivery.Fits (cfg : Config) (delivery : Delivery) : Prop :=
  delivery.length ≤ cfg.maxInputBufferSize

/-- An array after its first bytes were overwritten. -/
def overwrite (target bytes : List UInt8) : List UInt8 := bytes ++ target.drop bytes.length

/-- The storing half of the three callbacks: take an input buffer, fill it for the given
owner, and give it back when the payload could not be copied. -/
def storeInput (cfg : Config) (owner : EntityPtr) (provenance : Provenance)
    (related : Related → Related) (delivery : Delivery) (s : Rmw) : Exec Rmw :=
  match s.getMemory .staticBuffer with
  | (none, s) => .ok s
  | (some memoryNode, s) => do
      let staticBuffer ← s.dataOf .staticBuffer memoryNode
      let s := s.modifyStaticBuffer staticBuffer fun old =>
        { old with
          owner := some owner
          length := delivery.length
          related := related old.related
          provenance := provenance }
      if cfg.maxInputBufferSize < delivery.written.length then .error .bufferOverflow
      else
        let s := s.modifyStaticBuffer staticBuffer fun old =>
          { old with buffer := overwrite old.buffer delivery.written }
        if delivery.copied then .ok s else .ok (s.putMemory .staticBuffer memoryNode)

/-- The graph branch of `on_topic`: the snapshot is overwritten whether or not the
payload could be copied. -/
def storeGraph (cfg : Config) (session : Nat) (delivery : Delivery) (s : Rmw) : Exec Rmw :=
  if cfg.maxInputBufferSize < delivery.written.length then .error .bufferOverflow
  else .ok (s.modifyGraphInfo session fun old =>
    { old with
      microBufferLength := delivery.length
      microBuffer := fun position => delivery.written.getD position (old.microBuffer position)
      initialized := true
      hasChanged := true })

/-- `on_topic`, called by the given session. -/
def onTopic (cfg : Config) (session : Nat) (objectId : ObjectId) (delivery : Delivery)
    (s : Rmw) : Exec Rmw :=
  if cfg.graph && objectId.same (s.graphInfo session).datareaderId then
    storeGraph cfg session delivery s
  else do
    match ← s.findAllocated .subscription fun subscription =>
        (s.customSubscriptions subscription).datareaderId.same objectId with
    | none => .ok s
    | some item =>
        let subscription ← s.dataOf .subscription item
        let entity := s.customSubscriptions subscription
        storeInput cfg ⟨.subscription, subscription⟩ ⟨entity.rmwHandle, entity.datareaderId.id⟩ id
          delivery s

/-- `on_request`. -/
def onRequest (cfg : Config) (requestId : Nat) (sampleId : SampleIdentity) (delivery : Delivery)
    (s : Rmw) : Exec Rmw := do
  match ← s.findAllocated .service fun service =>
      wire (s.customServices service).dataRequest == wire requestId with
  | none => .ok s
  | some item =>
      let service ← s.dataOf .service item
      let entity := s.customServices service
      storeInput cfg ⟨.service, service⟩ ⟨entity.rmwHandle, entity.dataRequest⟩
        (fun _ => .sampleId sampleId) delivery s

/-- `on_reply`. -/
def onReply (cfg : Config) (requestId replyId : Nat) (delivery : Delivery) (s : Rmw) :
    Exec Rmw := do
  match ← s.findAllocated .client fun client =>
      wire (s.customClients client).dataRequest == wire requestId with
  | none => .ok s
  | some item =>
      let client ← s.dataOf .client item
      let entity := s.customClients client
      storeInput cfg ⟨.client, client⟩ ⟨entity.rmwHandle, entity.dataRequest⟩
        (fun _ => .replyId replyId) delivery s

/-- One message arriving at a session. -/
def deliver (cfg : Config) (session : Nat) (delivery : Delivery) (s : Rmw) : Exec Rmw :=
  match delivery with
  | .topic objectId _ _ => onTopic cfg session objectId delivery s
  | .request requestId sampleId _ _ => onRequest cfg requestId sampleId delivery s
  | .reply requestId replyId _ _ => onReply cfg requestId replyId delivery s

/-- The messages that arrive while a session runs, in their order. -/
def deliverAll (cfg : Config) (session : Nat) : List Delivery → Rmw → Exec Rmw
  | [], s => .ok s
  | delivery :: rest, s => do
      let s ← deliver cfg session delivery s
      deliverAll cfg session rest s

/-- What the agent and the link do about one request: whether the output stream had
room for it, what arrives while the session runs, and whether it is confirmed in
time. -/
structure Exchange where
  room : Bool := true
  deliveries : List Delivery := []
  confirmed : Bool := true

/-- `run_xrce_session`: over a best-effort stream the output is only flushed, otherwise
the session runs until the request is confirmed or the time is up. -/
def runXrceSession (cfg : Config) (session : Nat) (exchange : Exchange) (s : Rmw) :
    Exec (Bool × Rmw) :=
  if cfg.entityCreationDestroyTimeout = 0 then .ok (true, s)
  else do
    let s ← deliverAll cfg session exchange.deliveries s
    .ok (exchange.confirmed, s)

/-- Whether `run_xrce_session` reports success. -/
def Exchange.succeeds (cfg : Config) (exchange : Exchange) : Bool :=
  cfg.entityCreationDestroyTimeout = 0 || exchange.confirmed

end RmwMicroxrcedds
