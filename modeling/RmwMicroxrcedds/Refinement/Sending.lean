import RmwMicroxrcedds.Model.Publish
import RmwMicroxrcedds.Refinement.Take

/-! # Writing samples

What `rmw_publish`, `rmw_send_request` and `rmw_send_response` do on a live handle: they write
at most one sample, to the writing object of the entity, and draw one number for it.
-/

namespace RmwMicroxrcedds

open Outcome Registry

variable {cfg : Config} {admits : Admission} {s s' s'' : Rmw} {session handle slot node : Nat}
variable {drawn drawn' : Nat} {pool : Pool}

/-- So many request numbers were drawn in the session, and nothing else was written in any. -/
structure Draws (s s' : Rmw) (session drawn : Nat) : Prop where
  registry : s'.registry = s.registry
  handles : s'.handles = s.handles
  others : ∀ other, other ≠ session → s'.customSessions other = s.customSessions other
  requests : (s'.customSessions session).requests = (s.customSessions session).requests
  nextId : (s'.customSessions session).nextId = (s.customSessions session).nextId
  lastRequestId : (s'.customSessions session).lastRequestId =
    (s.customSessions session).lastRequestId + drawn

/-- The numbers drawn in two parts add up. -/
theorem Draws.trans (first : Draws s s' session drawn) (second : Draws s' s'' session drawn') :
    Draws s s'' session (drawn + drawn') where
  registry := second.registry.trans first.registry
  handles := second.handles.trans first.handles
  others := fun other different =>
    (second.others other different).trans (first.others other different)
  requests := second.requests.trans first.requests
  nextId := second.nextId.trans first.nextId
  lastRequestId := by rw [second.lastRequestId, first.lastRequestId, Nat.add_assoc]

/-- What is undisturbed draws no number. -/
theorem Undisturbed.draws (undisturbed : Undisturbed s s') (session : Nat) :
    Draws s s' session 0 where
  registry := undisturbed.registry
  handles := undisturbed.handles
  others := fun other _ => by rw [undisturbed.sessions]
  requests := by rw [undisturbed.sessions]
  nextId := by rw [undisturbed.sessions]
  lastRequestId := by rw [undisturbed.sessions, Nat.add_zero]

/-- The counters only grow. -/
theorem Draws.advance (draws : Draws s s' session drawn) : Advance s s' := by
  constructor
  · intro other type
    by_cases same : other = session
    · rw [same, draws.nextId]
    · rw [draws.others other same]
  · intro other
    by_cases same : other = session
    · rw [same, draws.lastRequestId]
      exact Nat.le_add_right _ _
    · rw [draws.others other same]

/-- A number is drawn if the stream has room. -/
theorem prepare_draws (s : Rmw) (session : Nat) (room : Bool) :
    Draws s (s.uxrPrepareOutputStream session room).2 session
      (if (s.uxrPrepareOutputStream session room).1.isSome then 1 else 0) := by
  cases room with
  | false => exact (Undisturbed.refl s).draws session
  | true =>
      refine ⟨rfl, rfl, fun other different => ?_, ?_, ?_, ?_⟩
      · simp [Rmw.uxrPrepareOutputStream, Rmw.modifySession, different]
      · simp [Rmw.uxrPrepareOutputStream, Rmw.modifySession]
      · simp [Rmw.uxrPrepareOutputStream, Rmw.modifySession]
      · simp [Rmw.uxrPrepareOutputStream, Rmw.modifySession]

/-- The number that was drawn is the last one of the session. -/
theorem prepare_number (s : Rmw) (session : Nat) (room : Bool) (id : Nat)
    (isId : (s.uxrPrepareOutputStream session room).1 = some id) :
    id = ((s.uxrPrepareOutputStream session room).2.customSessions session).lastRequestId := by
  cases room with
  | false => cases isId
  | true =>
      cases isId
      simp [Rmw.uxrPrepareOutputStream, Rmw.modifySession]

/-- Preparing a stream leaves the layer healthy. -/
theorem prepare_healthy (healthy : s.Healthy cfg admits) (room : Bool) :
    (s.uxrPrepareOutputStream session room).2.Healthy cfg admits := by
  cases room <;> exact healthy

/-- Waiting for the confirmation disturbs nothing. -/
theorem confirmDelivery_spec (healthy : s.Healthy cfg admits) {streamId : StreamId}
    {deliveries : List Delivery}
    (acceptable : ∀ delivery ∈ deliveries, Acceptable cfg admits s.registry session delivery) :
    Yields (confirmDelivery cfg session streamId deliveries s) fun s' =>
      s'.Healthy cfg admits ∧ Undisturbed s s' := by
  unfold confirmDelivery
  split
  · exact yields_ok.mpr ⟨healthy, .refl s⟩
  · exact deliverAll_spec healthy acceptable

/-- `prepareSample` draws at most one number, in the first or in the second attempt. -/
theorem prepareSample_spec (healthy : s.Healthy cfg admits) {call : PublishCall}
    (acceptable : ∀ delivery ∈ call.flushed, Acceptable cfg admits s.registry session delivery) :
    Yields (prepareSample cfg session call s) fun result =>
      result.2.Healthy cfg admits ∧
        Draws s result.2 session (if result.1.isSome then 1 else 0) ∧
        ∀ id, result.1 = some id → id = (result.2.customSessions session).lastRequestId := by
  have first := prepare_draws s session call.room
  have firstHealthy : (s.uxrPrepareOutputStream session call.room).2.Healthy cfg admits :=
    prepare_healthy healthy call.room
  have number := prepare_number s session call.room
  unfold prepareSample
  generalize s.uxrPrepareOutputStream session call.room = prepared at first firstHealthy number
  obtain ⟨id, next⟩ := prepared
  cases id with
  | some id => exact yields_ok.mpr ⟨firstHealthy, first, number⟩
  | none =>
      have registry : next.registry = s.registry := first.registry
      refine (deliverAll_spec firstHealthy fun delivery inside =>
        registry ▸ acceptable delivery inside).bind ?_
      rintro flushed ⟨flushedHealthy, undisturbed⟩
      have second := prepare_draws flushed session call.fragmentedRoom
      have before : Draws s flushed session 0 := first.trans (undisturbed.draws session)
      have whole := before.trans second
      rw [Nat.zero_add] at whole
      exact yields_ok.mpr ⟨prepare_healthy flushedHealthy call.fragmentedRoom, whole,
        prepare_number flushed session call.fragmentedRoom⟩

/-- The object an entity writes to, and the stream. -/
def Rmw.outlet (s : Rmw) (pool : Pool) (slot : Nat) : Option (ObjectId × StreamId) :=
  match s.entity pool slot with
  | .publisher publisher => some (publisher.datawriterId, publisher.streamId)
  | .endpoint endpoint => some (endpoint.objectId, endpoint.streamId)
  | _ => none

/-- What a call leaves that wrote at most one sample, through the outlet of the entity. -/
structure Sends (cfg : Config) (admits : Admission) (s : Rmw) (pool : Pool) (session slot : Nat)
    (result : SendResult × Rmw) : Prop where
  healthy : result.2.Healthy cfg admits
  draws : Draws s result.2 session (if result.1.written.isSome then 1 else 0)
  outlet : ∀ write, result.1.written = some write →
    s.outlet pool slot = some (write.object, write.streamId)
  unwritten : result.1.written = none → result.1.ret ≠ .ok
  sequenceId : ∀ number, result.1.sequenceId = some number → result.1.written ≠ none →
    number = wire (result.2.customSessions session).lastRequestId

/-- Nothing was written. -/
theorem Sends.of_refused {result : SendResult} (healthy : s'.Healthy cfg admits)
    (draws : Draws s s' session 0) (unwritten : result.written = none)
    (refused : result.ret ≠ .ok) : Sends cfg admits s pool session slot (result, s') where
  healthy := healthy
  draws := by
    rw [unwritten]
    exact draws
  outlet := fun write isWrite => by
    rw [unwritten] at isWrite
    cases isWrite
  unwritten := fun _ => refused
  sequenceId := fun number _ absurd => (absurd unwritten).elim

/-- A sample was written, and the call ends. -/
theorem Sends.of_written {result : SendResult} {streamId : StreamId} {write : StreamWrite}
    {deliveries : List Delivery} (healthy : s'.Healthy cfg admits) (draws : Draws s s' session 1)
    (acceptable : ∀ delivery ∈ deliveries, Acceptable cfg admits s.registry session delivery)
    (written : result.written = some write)
    (outlet : s.outlet pool slot = some (write.object, write.streamId))
    (sequenceId : ∀ number, result.sequenceId = some number →
      number = wire (s'.customSessions session).lastRequestId) :
    Yields (do
      let last ← confirmDelivery cfg session streamId deliveries s'
      .ok (result, last)) (Sends cfg admits s pool session slot) := by
  refine (confirmDelivery_spec healthy fun delivery inside =>
    draws.registry ▸ acceptable delivery inside).bind ?_
  rintro last ⟨lastHealthy, undisturbed⟩
  refine yields_ok.mpr ⟨lastHealthy, ?_, ?_, ?_, ?_⟩
  · rw [written]
    exact draws.trans (undisturbed.draws session)
  · intro other isOther
    cases written.symm.trans isOther
    exact outlet
  · intro absurd
    cases written.symm.trans absurd
  · intro number isNumber _
    rw [undisturbed.sessions]
    exact sequenceId number isNumber

/-- The end of the senders: with a number in hand the sample is written and the delivery
confirmed, and without one the call is refused. -/
def sendPrepared (cfg : Config) (session : Nat) (streamId : StreamId)
    (deliveries : List Delivery) (refused : SendResult) (sent : Nat → SendResult) :
    Option Nat × Rmw → Exec (SendResult × Rmw)
  | (none, s) => .ok (refused, s)
  | (some id, s) => do
      let last ← confirmDelivery cfg session streamId deliveries s
      .ok (sent id, last)

/-- The results of a sender: it is refused, or writes through the outlet of the entity and hands
out the number it drew, if any. -/
structure Outcomes (s : Rmw) (pool : Pool) (slot : Nat) (refused : SendResult)
    (sent : Nat → SendResult) : Prop where
  unwritten : refused.written = none
  failed : refused.ret ≠ .ok
  written : ∀ id, ∃ write, (sent id).written = some write ∧
    s.outlet pool slot = some (write.object, write.streamId)
  sequenceId : ∀ id number, (sent id).sequenceId = some number → number = wire id

/-- A sender that has prepared the stream sends. -/
theorem sendPrepared_sends {prepared : Option Nat × Rmw} {streamId : StreamId}
    {deliveries : List Delivery} {refused : SendResult} {sent : Nat → SendResult}
    (healthy : prepared.2.Healthy cfg admits)
    (draws : Draws s prepared.2 session (if prepared.1.isSome then 1 else 0))
    (drawn : ∀ id, prepared.1 = some id →
      id = (prepared.2.customSessions session).lastRequestId)
    (acceptable : ∀ delivery ∈ deliveries, Acceptable cfg admits s.registry session delivery)
    (outcomes : Outcomes s pool slot refused sent) :
    Yields (sendPrepared cfg session streamId deliveries refused sent prepared)
      (Sends cfg admits s pool session slot) := by
  obtain ⟨id, next⟩ := prepared
  cases id with
  | none =>
      exact yields_ok.mpr (.of_refused healthy draws outcomes.unwritten outcomes.failed)
  | some id =>
      obtain ⟨write, written, outlet⟩ := outcomes.written id
      refine Sends.of_written healthy draws acceptable written outlet fun number isNumber => ?_
      rw [outcomes.sequenceId id number isNumber, drawn id rfl]

/-- What is read for a live entity of a node. -/
theorem reads_of_bound (healthy : s.Healthy cfg admits) (sound : s.registry.Sound)
    (leaf : pool.isLeaf = true) (bound : s.registry.Bound pool handle slot)
    (home : ∀ node, (s.entity pool slot).ownerNode = some node →
      (s.customNodes node).context = some session) :
    (∃ contents, s.readHandle pool handle = .ok contents ∧ contents.data = some slot ∧
      isUxrceRmwIdentifierValid contents.implementationIdentifier = true) ∧
    ∃ node, (s.entity pool slot).ownerNode = some node ∧
      (s.customNodes node).context = some session := by
  obtain ⟨contents, -, isData, isRead, named⟩ := healthy.block_of_data bound
  obtain ⟨node, -, isOwner, -⟩ := (sound.placed bound).owned leaf
  exact ⟨⟨contents, isRead, isData, named⟩, node, isOwner, home node isOwner⟩

section

variable (healthy : s.Healthy cfg admits) (sound : s.registry.Sound)
  (home : ∀ node, (s.entity pool slot).ownerNode = some node →
    (s.customNodes node).context = some session)

include healthy sound home

/-- `rmw_publish` of a message on a live handle prepares the stream and sends. -/
theorem rmwPublish_prepared {continous : Nat → ContinousSerialization} {call : PublishCall}
    {message : Outgoing} (isPool : pool = .publisher) (isPublisher : call.publisher = some handle)
    (isMessage : call.rosMessage = some message) (bound : s.registry.Bound pool handle slot) :
    ∃ streamId refused sent, Outcomes s pool slot refused sent ∧
      rmwPublish cfg continous call s = prepareSample cfg session call s >>=
        sendPrepared cfg session streamId call.deliveries refused sent := by
  subst isPool
  obtain ⟨⟨contents, isRead, isData, named⟩, node, isOwner, context⟩ :=
    reads_of_bound healthy sound rfl bound home
  obtain ⟨callbacks, isTyped⟩ : ∃ callbacks,
      (s.customPublishers slot).typeSupportCallbacks = some callbacks :=
    Option.isSome_iff_exists.mp (sound.placed bound).typed
  have owner : (s.customPublishers slot).ownerNode = some node := isOwner
  simp only [rmwPublish, isPublisher, isMessage, isRead, ok_bind, named, ↓reduceIte, isData,
    isTyped, owner, deref, context]
  refine ⟨(s.customPublishers slot).streamId, { ret := .error }, fun _ =>
    { ret := if call.serializes && (decide ((s.customPublishers slot).streamId =
        .bestEffortOutput) || call.confirmed) then .ok else .error
      written := some
        { streamId := (s.customPublishers slot).streamId
          object := (s.customPublishers slot).datawriterId
          length := (continous slot).csCbSize.getD id message.serializedSize
          bytes := (continous slot).csCbSerialization.getD id message.bytes } },
    ⟨rfl, by decide, fun _ => ⟨_, rfl, rfl⟩, fun _ _ absurd => by cases absurd⟩,
    congrArg (prepareSample cfg session call s >>= ·) (funext fun prepared => ?_)⟩
  obtain ⟨_ | id, next⟩ := prepared <;> rfl

/-- `rmw_send_request` on a live handle prepares the stream and sends. -/
theorem rmwSendRequest_prepared {call : SendCall} (isPool : pool = .client)
    (bound : s.registry.Bound pool call.handle slot) :
    ∃ streamId refused sent, Outcomes s pool slot refused sent ∧
      rmwSendRequest cfg call s = sendPrepared cfg session streamId call.deliveries refused sent
        (s.uxrPrepareOutputStream session call.room) := by
  subst isPool
  obtain ⟨⟨contents, isRead, isData, named⟩, node, isOwner, context⟩ :=
    reads_of_bound healthy sound rfl bound home
  obtain ⟨callbacks, isTyped⟩ : ∃ callbacks,
      (s.customClients slot).typeSupportCallbacks = some callbacks :=
    Option.isSome_iff_exists.mp (sound.placed bound).typed
  have owner : (s.customClients slot).ownerNode = some node := isOwner
  simp only [rmwSendRequest, isRead, ok_bind, named, ↓reduceIte, isData, isTyped, owner, deref,
    context]
  generalize s.uxrPrepareOutputStream session call.room = prepared
  refine ⟨(s.customClients slot).streamId,
    { ret := .error, sequenceId := some uxrInvalidRequestId }, fun id =>
      { ret := .ok
        written := some
          { streamId := (s.customClients slot).streamId
            object := (s.customClients slot).objectId
            length := call.message.serializedSize
            bytes := call.message.bytes }
        sequenceId := some (wire id) },
    ⟨rfl, by decide, fun _ => ⟨_, rfl, rfl⟩, fun id number isNumber => ?_⟩, ?_⟩
  · exact (Option.some.inj isNumber).symm
  · obtain ⟨_ | id, next⟩ := prepared <;> rfl

/-- `rmw_send_response` on a live handle prepares the stream and sends. -/
theorem rmwSendResponse_prepared {header : RmwRequestId} {call : SendCall}
    (isPool : pool = .service) (bound : s.registry.Bound pool call.handle slot) :
    ∃ streamId refused sent, Outcomes s pool slot refused sent ∧
      rmwSendResponse cfg header call s = sendPrepared cfg session streamId call.deliveries
        refused sent (s.uxrPrepareOutputStream session call.room) := by
  subst isPool
  obtain ⟨⟨contents, isRead, isData, named⟩, node, isOwner, context⟩ :=
    reads_of_bound healthy sound rfl bound home
  obtain ⟨callbacks, isTyped⟩ : ∃ callbacks,
      (s.customServices slot).typeSupportCallbacks = some callbacks :=
    Option.isSome_iff_exists.mp (sound.placed bound).typed
  have owner : (s.customServices slot).ownerNode = some node := isOwner
  simp only [rmwSendResponse, isRead, ok_bind, named, ↓reduceIte, isData, isTyped, owner, deref,
    context]
  generalize s.uxrPrepareOutputStream session call.room = prepared
  refine ⟨(s.customServices slot).streamId, { ret := .error }, fun _ =>
      { ret := .ok
        written := some
          { streamId := (s.customServices slot).streamId
            object := (s.customServices slot).objectId
            length := call.message.serializedSize + 24#32
            sampleId := some (sampleOfRequestId header)
            bytes := call.message.bytes } },
    ⟨rfl, by decide, fun _ => ⟨_, rfl, rfl⟩, fun _ _ absurd => by cases absurd⟩, ?_⟩
  obtain ⟨_ | id, next⟩ := prepared <;> rfl

/-- `rmw_publish` on a live handle. -/
theorem rmwPublish_spec {continous : Nat → ContinousSerialization} {call : PublishCall}
    (isPool : pool = .publisher) (isPublisher : call.publisher = some handle)
    (bound : s.registry.Bound pool handle slot)
    (acceptable : ∀ delivery ∈ call.flushed ++ call.deliveries,
      Acceptable cfg admits s.registry session delivery) :
    Yields (rmwPublish cfg continous call s) (Sends cfg admits s pool session slot) := by
  cases isMessage : call.rosMessage with
  | none =>
      rw [rmwPublish, isPublisher, isMessage]
      exact yields_ok.mpr (.of_refused healthy ((Undisturbed.refl s).draws _) rfl (by simp))
  | some message =>
      obtain ⟨streamId, refused, sent, outcomes, runs⟩ := @rmwPublish_prepared cfg _ _ _ _ _ _
        healthy sound home continous _ _ isPool isPublisher isMessage bound
      rw [runs]
      refine (prepareSample_spec healthy fun delivery inside =>
        acceptable delivery (List.mem_append_left _ inside)).bind fun prepared spec => ?_
      exact sendPrepared_sends spec.1 spec.2.1 spec.2.2
        (fun delivery inside => acceptable delivery (List.mem_append_right _ inside)) outcomes

/-- `rmw_send_request` on a live handle. -/
theorem rmwSendRequest_spec {call : SendCall} (isPool : pool = .client)
    (bound : s.registry.Bound pool call.handle slot)
    (acceptable : ∀ delivery ∈ call.deliveries,
      Acceptable cfg admits s.registry session delivery) :
    Yields (rmwSendRequest cfg call s) (Sends cfg admits s pool session slot) := by
  obtain ⟨streamId, refused, sent, outcomes, runs⟩ := @rmwSendRequest_prepared cfg _ _ _ _ _
    healthy sound home call isPool bound
  rw [runs]
  exact sendPrepared_sends (prepare_healthy healthy call.room) (prepare_draws s session call.room)
    (prepare_number s session call.room) acceptable outcomes

/-- `rmw_send_response` on a live handle. -/
theorem rmwSendResponse_sends {header : RmwRequestId} {call : SendCall} (isPool : pool = .service)
    (bound : s.registry.Bound pool call.handle slot)
    (acceptable : ∀ delivery ∈ call.deliveries,
      Acceptable cfg admits s.registry session delivery) :
    Yields (rmwSendResponse cfg header call s) (Sends cfg admits s pool session slot) := by
  obtain ⟨streamId, refused, sent, outcomes, runs⟩ := @rmwSendResponse_prepared cfg _ _ _ _ _
    healthy sound home header call isPool bound
  rw [runs]
  exact sendPrepared_sends (prepare_healthy healthy call.room) (prepare_draws s session call.room)
    (prepare_number s session call.room) acceptable outcomes

end

end RmwMicroxrcedds
