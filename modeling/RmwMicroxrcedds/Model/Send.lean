import RmwMicroxrcedds.Model.Take

/-! # Sending requests and responses

`rmw_send_request` and `rmw_send_response`. The generated serialiser of the message type
is known by the size it announces and the bytes it writes.
-/

namespace RmwMicroxrcedds

/-- The conversion to `SampleIdentity` in `rmw_send_response`. -/
def sampleOfRequestId (header : RmwRequestId) : SampleIdentity where
  high := (header.sequenceNumber.sshiftRight 32).setWidth 32
  low := header.sequenceNumber.setWidth 32 &&& 0xFFFFFFFF#32
  entityKind := header.writerGuid[0]
  entityKey := (header.writerGuid.extract 1 4).cast (by decide)
  guidPrefix := (header.writerGuid.extract 4 16).cast (by decide)

/-- A message of the application, as its type support presents it: the size asked for in
the output stream and the serialised bytes. -/
structure Outgoing where
  serializedSize : BitVec 32
  bytes : List UInt8

/-- What is written to a prepared output stream: the length asked for, the identity in front
of a response, and the message. -/
structure StreamWrite where
  streamId : StreamId
  object : ObjectId
  length : BitVec 32
  sampleId : Option SampleIdentity := none
  bytes : List UInt8

/-- `uxr_prepare_output_stream`: the id of the new request, none for
`UXR_INVALID_REQUEST_ID`, which it returns when the stream has no room. The function belongs to
the client library, which is no part of the repository; all that is taken from it is that one
counter numbers the requests of a session in their order. -/
def Rmw.uxrPrepareOutputStream (s : Rmw) (session : Nat) (room : Bool) : Option Nat × Rmw :=
  if room then
    let id := (s.customSessions session).lastRequestId + 1
    (some id, s.modifySession session fun old => { old with lastRequestId := id })
  else (none, s)

/-- Sending to a service or from a client: what the stream has room for, and what arrives
while a reliable stream is confirmed. -/
structure SendCall where
  handle : Nat
  message : Outgoing
  room : Bool := true
  deliveries : List Delivery := []

/-- What a send does for its caller: the return code, what it wrote, and the sequence number
of a request. -/
structure SendResult where
  ret : RmwRet
  written : Option StreamWrite := none
  sequenceId : Option Nat := none

/-- The end of the two functions: over a best-effort stream the output is flushed,
otherwise the session runs until the delivery is confirmed. -/
def confirmDelivery (cfg : Config) (session : Nat) (streamId : StreamId)
    (deliveries : List Delivery) (s : Rmw) : Exec Rmw :=
  if streamId = .bestEffortOutput then .ok s else deliverAll cfg session deliveries s

/-- `rmw_send_request`. -/
def rmwSendRequest (cfg : Config) (call : SendCall) (s : Rmw) : Exec (SendResult × Rmw) := do
  let handle ← s.readHandle .client call.handle
  if isUxrceRmwIdentifierValid handle.implementationIdentifier then
    let customClient ← deref handle.data
    let entity := s.customClients customClient
    match entity.typeSupportCallbacks with
    | none => .error .nullDereference
    | some _ =>
        let customNode ← deref entity.ownerNode
        let context ← deref (s.customNodes customNode).context
        match s.uxrPrepareOutputStream context call.room with
        | (none, s) => .ok ({ ret := .error, sequenceId := some uxrInvalidRequestId }, s)
        | (some id, s) =>
            let written : StreamWrite :=
              { streamId := entity.streamId
                object := entity.objectId
                length := call.message.serializedSize
                bytes := call.message.bytes }
            let s ← confirmDelivery cfg context entity.streamId call.deliveries s
            .ok ({ ret := .ok, written := some written, sequenceId := some (wire id) }, s)
  else .ok ({ ret := .incorrectRmwImplementation }, s)

/-- `rmw_send_response`. -/
def rmwSendResponse (cfg : Config) (requestHeader : RmwRequestId) (call : SendCall) (s : Rmw) :
    Exec (SendResult × Rmw) := do
  let handle ← s.readHandle .service call.handle
  if isUxrceRmwIdentifierValid handle.implementationIdentifier then
    let customService ← deref handle.data
    let entity := s.customServices customService
    match entity.typeSupportCallbacks with
    | none => .error .nullDereference
    | some _ =>
        let customNode ← deref entity.ownerNode
        let context ← deref (s.customNodes customNode).context
        match s.uxrPrepareOutputStream context call.room with
        | (none, s) => .ok ({ ret := .error }, s)
        | (some _, s) =>
            let written : StreamWrite :=
              { streamId := entity.streamId
                object := entity.objectId
                length := call.message.serializedSize + 24#32
                sampleId := some (sampleOfRequestId requestHeader)
                bytes := call.message.bytes }
            let s ← confirmDelivery cfg context entity.streamId call.deliveries s
            .ok ({ ret := .ok, written := some written }, s)
  else .ok ({ ret := .incorrectRmwImplementation }, s)

/-- The high word comes back from the number. -/
theorem high_of_joined (high low : BitVec 32) :
    (((high.signExtend 64 <<< 32) ||| low.zeroExtend 64).sshiftRight 32).setWidth 32 = high := by
  ext bit below
  have shifted : 32 + bit < 64 := by omega
  have narrow : ¬ 64 ≤ bit := by omega
  simp [BitVec.getLsbD_sshiftRight, BitVec.getElem_signExtend, below, shifted, narrow]

theorem and_low_mask (word : BitVec 32) : word &&& 0xFFFFFFFF#32 = word := by
  have mask : (0xFFFFFFFF#32) = BitVec.allOnes 32 := rfl
  rw [mask, BitVec.and_allOnes]

/-- So does the low word. -/
theorem low_of_joined (high low : BitVec 32) :
    ((high.signExtend 64 <<< 32) ||| low.zeroExtend 64).setWidth 32 = low := by
  ext bit below
  simp

/-- A number comes back from its two words. -/
theorem joined_of_parts (number : BitVec 64) :
    (((number.sshiftRight 32).setWidth 32).signExtend 64 <<< 32) |||
      (number.setWidth 32).zeroExtend 64 = number := by
  ext bit below
  by_cases lower : bit < 32
  · simp [lower, below]
  · have place : 32 + (bit - 32) = bit := by omega
    have inside : bit - 32 < 32 := by omega
    have narrow : ¬ 64 ≤ bit - 32 := by omega
    simp [BitVec.getLsbD_sshiftRight, BitVec.getElem_signExtend, lower, below, place, inside,
      narrow]

/-- The parts of a writer's GUID are found where they were put. -/
theorem parts_of_guid (kind : UInt8) (key : Vector UInt8 3) (guidPrefix : Vector UInt8 12) :
    (#v[kind] ++ key ++ guidPrefix)[0] = kind ∧
      ((#v[kind] ++ key ++ guidPrefix).extract 1 4).cast (by decide) = key ∧
      ((#v[kind] ++ key ++ guidPrefix).extract 4 16).cast (by decide) = guidPrefix := by
  refine ⟨?_, ?_, ?_⟩
  · rw [Vector.getElem_append_left (by decide), Vector.getElem_append_left (by decide)]
    rfl
  · apply Vector.ext
    intro index below
    have behind : 1 ≤ 1 + index := by omega
    rw [Vector.getElem_cast, Vector.getElem_extract, Vector.getElem_append_left (by omega),
      Vector.getElem_append_right (by omega) behind]
    simp
  · apply Vector.ext
    intro index below
    have behind : 1 + 3 ≤ 4 + index := by omega
    rw [Vector.getElem_cast, Vector.getElem_extract, Vector.getElem_append_right (by omega) behind]
    simp

/-- A writer's GUID is put together from its parts. -/
theorem guid_of_parts (guid : Vector UInt8 16) :
    #v[guid[0]] ++ (guid.extract 1 4).cast (by decide : min 4 16 - 1 = 3) ++
      (guid.extract 4 16).cast (by decide : min 16 16 - 4 = 12) = guid := by
  apply Vector.ext
  intro index below
  by_cases early : index < 4
  · rw [Vector.getElem_append_left early]
    by_cases first : index < 1
    · obtain rfl : index = 0 := by omega
      rw [Vector.getElem_append_left (by decide)]
      rfl
    · have behind : 1 ≤ index := by omega
      rw [Vector.getElem_append_right (by omega) behind, Vector.getElem_cast,
        Vector.getElem_extract]
      congr 1
      omega
  · have behind : 1 + 3 ≤ index := by omega
    rw [Vector.getElem_append_right (by omega) behind, Vector.getElem_cast, Vector.getElem_extract]
    congr 1
    omega

/-- The identity of a request survives the way through the header of the application. -/
@[simp] theorem sampleOfRequestId_requestIdOfSample (id : SampleIdentity) :
    sampleOfRequestId (requestIdOfSample id) = id := by
  obtain ⟨high, low, kind, key, guidPrefix⟩ := id
  obtain ⟨isKind, isKey, isPrefix⟩ := parts_of_guid kind key guidPrefix
  simp only [sampleOfRequestId, requestIdOfSample, high_of_joined, low_of_joined, and_low_mask,
    SampleIdentity.mk.injEq, true_and]
  exact ⟨isKind, isKey, isPrefix⟩

/-- A header survives the way through the identity on the wire. -/
@[simp] theorem requestIdOfSample_sampleOfRequestId (header : RmwRequestId) :
    requestIdOfSample (sampleOfRequestId header) = header := by
  obtain ⟨number, guid⟩ := header
  simp only [sampleOfRequestId, requestIdOfSample, and_low_mask, joined_of_parts,
    RmwRequestId.mk.injEq, true_and]
  exact guid_of_parts guid

end RmwMicroxrcedds
