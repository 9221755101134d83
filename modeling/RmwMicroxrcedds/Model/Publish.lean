import RmwMicroxrcedds.Model.Send

/-! # Publishing

`rmw_publish`, and `rmw_uros_set_continous_serialization_callbacks`, by which an application
writes part of a sample itself. The callbacks are kept beside the publishers, by their slots.
-/

namespace RmwMicroxrcedds

/-- `cs_cb_size` and `cs_cb_serialization` of a publisher: the one adjusts the length of the
topic, the other goes on writing after the type support. -/
structure ContinousSerialization where
  csCbSize : Option (BitVec 32 → BitVec 32) := none
  csCbSerialization : Option (List UInt8 → List UInt8) := none

/-- A call of `rmw_publish`: its arguments, whether the type support serialises the message,
what the stream has room for at once or as fragments, and what arrives while `flush_session`
makes room and while the delivery is confirmed. -/
structure PublishCall where
  publisher : Option Nat
  rosMessage : Option Outgoing
  serializes : Bool := true
  room : Bool := true
  fragmentedRoom : Bool := true
  flushed : List Delivery := []
  deliveries : List Delivery := []
  confirmed : Bool := true

/-- `uxr_prepare_output_stream`, and `uxr_prepare_output_stream_fragmented` when that fails. -/
def prepareSample (cfg : Config) (session : Nat) (call : PublishCall) (s : Rmw) :
    Exec (Option Nat × Rmw) :=
  match s.uxrPrepareOutputStream session call.room with
  | (some id, s) => .ok (some id, s)
  | (none, s) => do
      let s ← deliverAll cfg session call.flushed s
      .ok (s.uxrPrepareOutputStream session call.fragmentedRoom)

/-- `rmw_publish`. What the type support fails to serialise has its place in the stream all the
same. -/
def rmwPublish (cfg : Config) (continous : Nat → ContinousSerialization) (call : PublishCall)
    (s : Rmw) : Exec (SendResult × Rmw) :=
  match call.publisher, call.rosMessage with
  | none, _ => .ok ({ ret := .error }, s)
  | some _, none => .ok ({ ret := .error }, s)
  | some publisher, some message => do
      let handle ← s.readHandle .publisher publisher
      if isUxrceRmwIdentifierValid handle.implementationIdentifier then
        match handle.data with
        | none => .ok ({ ret := .error }, s)
        | some customPublisher =>
            let entity := s.customPublishers customPublisher
            let callbacks := continous customPublisher
            match entity.typeSupportCallbacks with
            | none => .error .nullDereference
            | some _ =>
                let topicLength := callbacks.csCbSize.getD id message.serializedSize
                let customNode ← deref entity.ownerNode
                let context ← deref (s.customNodes customNode).context
                match ← prepareSample cfg context call s with
                | (none, s) => .ok ({ ret := .error }, s)
                | (some _, s) =>
                    let written : StreamWrite :=
                      { streamId := entity.streamId
                        object := entity.datawriterId
                        length := topicLength
                        bytes := callbacks.csCbSerialization.getD id message.bytes }
                    let s ← confirmDelivery cfg context entity.streamId call.deliveries s
                    let confirmed := entity.streamId = .bestEffortOutput || call.confirmed
                    .ok ({ ret := if call.serializes && confirmed then .ok else .error
                           written := some written }, s)
      else .ok ({ ret := .error }, s)

/-- `rmw_uros_set_continous_serialization_callbacks`. -/
def rmwUrosSetContinousSerializationCallbacks (publisher : Nat)
    (callbacks : ContinousSerialization) (continous : Nat → ContinousSerialization) (s : Rmw) :
    Exec (Nat → ContinousSerialization) := do
  let handle ← s.readHandle .publisher publisher
  let customPublisher ← deref handle.data
  .ok (Function.update continous customPublisher callbacks)

end RmwMicroxrcedds
