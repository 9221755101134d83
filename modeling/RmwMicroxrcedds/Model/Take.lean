import RmwMicroxrcedds.Model.Endpoint

/-! # Taking messages

`rmw_take_with_info`, `rmw_take_request`, `rmw_take_response` and
`rmw_take_sequence`, and the checks of `rmw_wait`. The generated deserialiser of the
message type is a function of the bytes it is handed.
-/

namespace RmwMicroxrcedds

/-- `rmw_uxrce_find_static_input_buffer_by_owner`. -/
def rmwUxrceFindStaticInputBufferByOwner (owner : Option EntityPtr) (s : Rmw) :
    Exec (Option Nat) :=
  s.findAllocated .staticBuffer fun staticBuffer =>
    (s.customStaticBuffers staticBuffer).owner == owner

/-- The first bytes of an input buffer. The arrays are static, so bytes never written
are zero. -/
def readPrefix (buffer : List UInt8) (length : Nat) : List UInt8 :=
  buffer.take length ++ List.replicate (length - buffer.length) 0

/-- The bytes an input buffer hands to a deserialiser. -/
def StaticInputBuffer.payload (staticBuffer : StaticInputBuffer) : List UInt8 :=
  readPrefix staticBuffer.buffer staticBuffer.length

/-- `rmw_request_id_t`. -/
structure RmwRequestId where
  sequenceNumber : BitVec 64
  writerGuid : Vector UInt8 16
deriving DecidableEq

/-- What a take does for its caller: the return code, the flag `taken`, and, when a
message was pending, the bytes handed to the deserialiser and what is written to the
request header. -/
structure TakeResult where
  ret : RmwRet
  taken : Bool := false
  payload : Option (List UInt8) := none
  requestId : Option RmwRequestId := none
  sequenceNumber : Option (BitVec 64) := none

/-- The conversion from `SampleIdentity` in `rmw_take_request`. -/
def requestIdOfSample (id : SampleIdentity) : RmwRequestId where
  sequenceNumber := (id.high.signExtend 64 <<< 32) ||| id.low.zeroExtend 64
  writerGuid := #v[id.entityKind] ++ id.entityKey ++ id.guidPrefix

/-- The pending message of an entity that a take removes: its slot and its contents. -/
def findPending (owner : Option EntityPtr) (s : Rmw) : Exec (Option (Nat × StaticInputBuffer)) := do
  match ← rmwUxrceFindStaticInputBufferByOwner owner s with
  | none => .ok none
  | some item =>
      let staticBuffer ← s.dataOf .staticBuffer item
      .ok (some (item, s.customStaticBuffers staticBuffer))

/-- The end of the three functions: deserialise, release the buffer, report. -/
def finishTake (deserialize : List UInt8 → Bool) (item : Nat) (staticBuffer : StaticInputBuffer)
    (header : TakeResult) (s : Rmw) : TakeResult × Rmw :=
  let deserialized := deserialize staticBuffer.payload
  ({ header with
     ret := if deserialized then .ok else .error
     taken := deserialized
     payload := some staticBuffer.payload },
    s.putMemory .staticBuffer item)

/-- `rmw_take_with_info`. -/
def rmwTakeWithInfo (deserialize : List UInt8 → Bool) (subscription : Nat) (s : Rmw) :
    Exec (TakeResult × Rmw) := do
  let handle ← s.readHandle .subscription subscription
  if isUxrceRmwIdentifierValid handle.implementationIdentifier then
    match ← findPending (handle.data.map (EntityPtr.mk .subscription)) s with
    | none => .ok ({ ret := .error }, s)
    | some (item, staticBuffer) =>
        let customSubscription ← deref handle.data
        match (s.customSubscriptions customSubscription).typeSupportCallbacks with
        | none => .error .nullDereference
        | some _ => .ok (finishTake deserialize item staticBuffer { ret := .ok } s)
  else .ok ({ ret := .error }, s)

/-- `rmw_take_request`. -/
def rmwTakeRequest (deserialize : List UInt8 → Bool) (service : Nat) (s : Rmw) :
    Exec (TakeResult × Rmw) := do
  let handle ← s.readHandle .service service
  if isUxrceRmwIdentifierValid handle.implementationIdentifier then
    match ← findPending (handle.data.map (EntityPtr.mk .service)) s with
    | none => .ok ({ ret := .error }, s)
    | some (item, staticBuffer) =>
        match staticBuffer.related with
        | .replyId _ => .error .inactiveUnionMember
        | .sampleId id =>
            let customService ← deref handle.data
            match (s.customServices customService).typeSupportCallbacks with
            | none => .error .nullDereference
            | some _ =>
                .ok (finishTake deserialize item staticBuffer
                  { ret := .ok, requestId := some (requestIdOfSample id) } s)
  else .ok ({ ret := .incorrectRmwImplementation }, s)

/-- `rmw_take_response`. It sets the sequence number only. -/
def rmwTakeResponse (deserialize : List UInt8 → Bool) (client : Nat) (s : Rmw) :
    Exec (TakeResult × Rmw) := do
  let handle ← s.readHandle .client client
  if isUxrceRmwIdentifierValid handle.implementationIdentifier then
    match ← findPending (handle.data.map (EntityPtr.mk .client)) s with
    | none => .ok ({ ret := .error }, s)
    | some (item, staticBuffer) =>
        match staticBuffer.related with
        | .sampleId _ => .error .inactiveUnionMember
        | .replyId id =>
            let customClient ← deref handle.data
            match (s.customClients customClient).typeSupportCallbacks with
            | none => .error .nullDereference
            | some _ =>
                .ok (finishTake deserialize item staticBuffer
                  { ret := .ok, sequenceNumber := some (BitVec.ofNat 64 id) } s)
  else .ok ({ ret := .incorrectRmwImplementation }, s)

/-- `rmw_take`. -/
def rmwTake (deserialize : List UInt8 → Bool) (subscription : Nat) (s : Rmw) :
    Exec (TakeResult × Rmw) :=
  rmwTakeWithInfo deserialize subscription s

/-- What `rmw_take_sequence` leaves its caller: the messages it stored, each with its index in
both sequences, `*taken`, the sizes of the sequences and the return code. -/
structure TakeSequenceResult where
  stored : List (TakeResult × Nat)
  taken : Nat
  messageSequenceSize : Nat
  messageInfoSequenceSize : Nat
  ret : RmwRet

/-- The loop of `rmw_take_sequence`, with `*taken` and `ret` before it: the messages it stores,
and `*taken` and `ret` after it. -/
def takeSequence (deserialize : List UInt8 → Bool) (subscription : Nat) :
    Nat → Nat → RmwRet → Rmw → Exec ((List (TakeResult × Nat) × Nat × RmwRet) × Rmw)
  | 0, taken, ret, s => .ok (([], taken, ret), s)
  | count + 1, taken, _, s => do
      let (result, s) ← rmwTakeWithInfo deserialize subscription s
      if result.ret ≠ .ok ∨ ¬ result.taken then .ok (([], taken, result.ret), s)
      else
        let ((stored, total, ret), s) ←
          takeSequence deserialize subscription count (taken + 1) result.ret s
        .ok (((result, taken) :: stored, total, ret), s)

/-- `rmw_take_sequence`, with the sizes the two sequences had. -/
def rmwTakeSequence (deserialize : List UInt8 → Bool) (subscription count : Nat)
    (messageSequenceSize messageInfoSequenceSize : Nat) (s : Rmw) :
    Exec (TakeSequenceResult × Rmw) := do
  let handle ← s.readHandle .subscription subscription
  if isUxrceRmwIdentifierValid handle.implementationIdentifier then
    let ((stored, taken, ret), s) ← takeSequence deserialize subscription count 0 .ok s
    .ok (⟨stored, taken, taken, taken, ret⟩, s)
  else .ok (⟨[], 0, messageSequenceSize, messageInfoSequenceSize, .error⟩, s)

/-- The loops of `rmw_wait` over an array of entities: the entries without a pending
message become null, and the flag tells whether one is left. -/
def checkReady (pool : Pool) (s : Rmw) : List (Option Nat) → Exec (List (Option Nat) × Bool)
  | [] => .ok ([], false)
  | entity :: rest => do
      let found ← rmwUxrceFindStaticInputBufferByOwner (entity.map (EntityPtr.mk pool)) s
      let (ready, any) ← checkReady pool s rest
      .ok (if found.isSome then (entity :: ready, true) else (none :: ready, any))

end RmwMicroxrcedds
