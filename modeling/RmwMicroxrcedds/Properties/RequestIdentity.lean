import RmwMicroxrcedds.Machine.Traffic
import RmwMicroxrcedds.Model.Send

/-! # The identity of a request

A request comes with the identity of its sample, which the application gets in the header
of the request and gives back with the response. The identity stays with the payload while
both wait in the shared input buffers, and the two conversions undo each other.
-/

namespace RmwMicroxrcedds

open Outcome Registry

variable {cfg : Config} {s s' : Rmw} {r : Registry} {handle slot : Nat}
variable {all all' : Multiset (EntityPtr × Message)}

/-- The header of the message is the one its owner reads. -/
def Message.Headed (pool : Pool) (message : Message) : Prop :=
  match pool with
  | .service => ∃ id, message.header = some (.sampleId id)
  | .client => ∃ id, message.header = some (.replyId id)
  | _ => True

/-- Every message has the header its owner reads. -/
def AllHeaded (all : Multiset (EntityPtr × Message)) : Prop :=
  ∀ owner message, (owner, message) ∈ all → message.Headed owner.pool

/-- What is delivered carries the header of its kind. -/
theorem Delivery.headed (delivery : Delivery) : delivery.message.Headed delivery.pool := by
  cases delivery with
  | topic objectId stream length => exact trivial
  | request requestId sampleId stream length => exact ⟨sampleId, rfl⟩
  | reply requestId replyId stream length => exact ⟨replyId, rfl⟩

/-- The pending messages have the headers their owners read. -/
theorem Rmw.Healthy.allHeaded (healthy : s.Healthy cfg everyone) : AllHeaded s.bags := by
  intro owner message inside
  obtain ⟨item, allocated, isMail⟩ := List.mem_filterMap.mp (Multiset.mem_coe.mp inside)
  obtain ⟨other, isOwner, tagged, -⟩ := healthy.pending item allocated
  simp only [StaticInputBuffer.mail, isOwner, Option.map_some, Option.some.injEq,
    Prod.mk.injEq] at isMail
  obtain ⟨rfl, rfl⟩ := isMail
  unfold Message.Headed headerFor
  unfold Tagged at tagged
  cases isPool : other.pool with
  | service | client =>
      rw [isPool] at tagged
      cases isRelated : (s.customStaticBuffers item).related with
      | sampleId id | replyId id =>
          rw [isRelated] at tagged
          first | exact tagged.elim | exact ⟨id, rfl⟩
  | session | node | publisher | subscription | topic | staticBuffer => exact trivial

/-- An arrival keeps every message headed. -/
theorem Arrival.allHeaded {session : Nat} {delivery : Delivery}
    {event : Bags.Event EntityPtr Message} (arrival : Arrival cfg r session delivery all event)
    (step : Bags.Step cfg.maxHistory all event all') (headed : AllHeaded all) :
    AllHeaded all' := by
  cases arrival with
  | arrived owner isFor copied room =>
      cases step
      intro other message inside
      rcases Multiset.mem_cons.mp inside with same | old
      · cases same
        rw [isFor.pool]
        exact delivery.headed
      · exact headed other message old
  | lost refused =>
      cases step
      exact headed

/-- So do arrivals one after the other. -/
theorem Arrivals.allHeaded {arrivals : List (Nat × Delivery)}
    {events : List (Bags.Event EntityPtr Message)}
    (explained : Arrivals cfg r all arrivals events all') (headed : AllHeaded all) :
    AllHeaded all' := by
  induction explained with
  | nil all => exact headed
  | cons arrival step others ih => exact ih (arrival.allHeaded step headed)

/-- An operation hands out, and leaves, messages with the headers their owners read. -/
theorem Explains.allHeaded {op : Traffic} {result : Option TakeResult}
    {events : List (Bags.Event EntityPtr Message)}
    (explained : Explains cfg r all op result events all')
    (headed : AllHeaded all) : AllHeaded all' := by
  cases explained with
  | receive arrivals | wait arrivals => exact arrivals.allHeaded headed
  | took bound payload taken reports step =>
      cases step with
      | took owner message rest had =>
          intro other message inside
          exact headed other message (had ▸ Multiset.mem_cons_of_mem inside)
  | missed bound payload taken step => exact headed

/-- The messages that are delivered while an operation runs. -/
def Traffic.deliveries (r : Registry) : Traffic → List (Nat × Delivery)
  | .receive session delivery => [(session, delivery)]
  | .take _ _ _ => []
  | .wait call => arrivalsOf call.arrivals (r.allocated .session)

/-- The messages of deliveries. -/
def messagesOf (arrivals : List (Nat × Delivery)) : Multiset Message :=
  arrivals.map fun arrival => arrival.2.message

/-- The messages of two lists of arrivals add up. -/
theorem messagesOf_append (arrivals arrivals' : List (Nat × Delivery)) :
    messagesOf (arrivals ++ arrivals') = messagesOf arrivals + messagesOf arrivals' := by
  simp [messagesOf]

/-- The arrivals of two runs add up. -/
theorem Bags.arrivals_append (events events' : List (Bags.Event EntityPtr Message)) :
    Bags.arrivals (events ++ events') = Bags.arrivals events + Bags.arrivals events' := by
  induction events with
  | nil => simp [Bags.arrivals]
  | cons event events ih =>
      cases event <;> simp [Bags.arrivals, ih]

/-- What has arrived was delivered, each message as often as it has arrived. -/
theorem Arrivals.delivered {arrivals : List (Nat × Delivery)}
    {events : List (Bags.Event EntityPtr Message)}
    (explained : Arrivals cfg r all arrivals events all') :
    (Bags.arrivals events).map Prod.snd ≤ messagesOf arrivals := by
  induction explained with
  | nil all => exact Multiset.zero_le _
  | cons arrival step others ih =>
      cases arrival with
      | arrived owner isFor copied room =>
          rw [Bags.arrivals, Multiset.map_cons]
          exact Multiset.cons_le_cons _ ih
      | lost refused => exact ih.trans (Multiset.le_cons_self _ _)

/-- What arrives in a step was delivered in it. -/
theorem Explains.delivered {op : Traffic} {result : Option TakeResult}
    {events : List (Bags.Event EntityPtr Message)}
    (explained : Explains cfg r all op result events all') :
    (Bags.arrivals events).map Prod.snd ≤ messagesOf (op.deliveries r) := by
  cases explained with
  | receive arrivals | wait arrivals => exact arrivals.delivered
  | took | missed => exact Multiset.zero_le _

/-- What arrives in a run was delivered in it. -/
theorem ExplainsAll.delivered {ops : List Traffic} {results : List (Option TakeResult)}
    {events : List (Bags.Event EntityPtr Message)}
    (explained : ExplainsAll cfg r all ops results events all') :
    (Bags.arrivals events).map Prod.snd ≤
      messagesOf (ops.flatMap (Traffic.deliveries r)) := by
  induction explained with
  | nil all => exact Multiset.zero_le _
  | cons first rest ih =>
      rw [List.flatMap_cons, messagesOf_append, Bags.arrivals_append, Multiset.map_add]
      exact (Multiset.add_le_add_right first.delivered).trans (Multiset.add_le_add_left ih)

/-- What it means to answer a request with a header: what is written carries the identity, and
on a live service it is written as soon as the stream has room for it. -/
structure AnswersWith (cfg : Config) (header : RmwRequestId) (id : SampleIdentity) : Prop where
  carries : ∀ call s result s', rmwSendResponse cfg header call s = .ok (result, s') →
    ∀ written, result.written = some written → written.sampleId = some id
  writes : ∀ call s slot, Attending cfg s → s.registry.Bound .service call.handle slot →
    call.room = true → (∀ delivery ∈ call.deliveries, delivery.Fits cfg) →
    ∃ result s' written, rmwSendResponse cfg header call s = .ok (result, s') ∧
      result.ret = .ok ∧ result.written = some written ∧ written.bytes = call.message.bytes

/-- The result of a take of a service or a client is about one message that was taken from its
bag: the payload is that of the message, and the header the one the message came with. -/
def Matches (cfg : Config) (r : Registry) (taken : Multiset (EntityPtr × Message)) :
    Traffic → Option TakeResult → Prop
  | .take .service _ handle, some result => result.payload = none ∨
      ∃ slot payload id, r.Bound .service handle slot ∧
        (⟨.service, slot⟩, ⟨payload, some (.sampleId id)⟩) ∈ taken ∧
        result.payload = some payload ∧
        ∃ header, result.requestId = some header ∧ AnswersWith cfg header id
  | .take .client _ handle, some result => result.payload = none ∨
      ∃ slot payload replyId, r.Bound .client handle slot ∧
        (⟨.client, slot⟩, ⟨payload, some (.replyId replyId)⟩) ∈ taken ∧
        result.payload = some payload ∧ result.sequenceNumber = some (BitVec.ofNat 64 replyId)
  | _, _ => True

/-- A response carries the identity its header is converted to. -/
theorem written_of_response {header : RmwRequestId} {call : SendCall} {result : SendResult}
    (returned : rmwSendResponse cfg header call s = .ok (result, s')) {written : StreamWrite}
    (isWritten : result.written = some written) :
    written.sampleId = some (sampleOfRequestId header) := by
  unfold rmwSendResponse at returned
  obtain ⟨contents, -, returned⟩ := bind_eq_ok.mp returned
  split at returned
  · obtain ⟨service, -, returned⟩ := bind_eq_ok.mp returned
    dsimp only at returned
    split at returned
    · cases returned
    · obtain ⟨node, -, returned⟩ := bind_eq_ok.mp returned
      obtain ⟨context, -, returned⟩ := bind_eq_ok.mp returned
      split at returned
      · cases returned
        cases isWritten
      · obtain ⟨last, -, returned⟩ := bind_eq_ok.mp returned
        cases returned
        cases isWritten
        rfl
  · cases returned
    cases isWritten

/-- A response of a live service is written when the stream has room for it. -/
theorem rmwSendResponse_spec (attending : Attending cfg s) (header : RmwRequestId)
    {call : SendCall} (bound : s.registry.Bound .service call.handle slot) (room : call.room = true)
    (fits : ∀ delivery ∈ call.deliveries, delivery.Fits cfg) :
    Yields (rmwSendResponse cfg header call s) fun result =>
      result.1.ret = .ok ∧ ∃ written, result.1.written = some written ∧
        written.bytes = call.message.bytes := by
  obtain ⟨contents, _, isData, isRead, named⟩ := attending.healthy.block_of_data bound
  have placed := attending.sound.placed bound
  obtain ⟨callbacks, isTyped⟩ : ∃ callbacks,
      (s.customServices slot).typeSupportCallbacks = some callbacks :=
    Option.isSome_iff_exists.mp placed.typed
  obtain ⟨node, nodeHandle, isOwner, nodeBound⟩ := placed.owned rfl
  obtain ⟨session, context, -⟩ := (attending.sound.placed nodeBound).sited rfl
  have owner : (s.customServices slot).ownerNode = some node := isOwner
  have isContext : (s.customNodes node).context = some session := context
  simp only [rmwSendResponse, isRead, ok_bind, named, ↓reduceIte, isData, deref, isTyped, owner,
    isContext, Rmw.uxrPrepareOutputStream, room]
  have delivered : ∀ s' : Rmw, s'.Healthy cfg everyone →
      Yields (confirmDelivery cfg session (s.customServices slot).streamId call.deliveries s')
        fun _ => True := by
    intro s' healthy
    unfold confirmDelivery
    split
    · exact yields_ok.mpr trivial
    · exact (deliverAll_spec healthy fun delivery inside =>
        ⟨fits delivery inside, fun _ _ _ => trivial⟩).mono fun _ _ => trivial
  apply (delivered _ (healthy_modifySession _ |>.mpr attending.healthy)).bind
  intro last _
  exact yields_ok.mpr ⟨rfl, _, rfl, rfl⟩

/-- The header of a request answers it, whatever the bits of its identity. -/
theorem answersWith (id : SampleIdentity) : AnswersWith cfg (requestIdOfSample id) id where
  carries := by
    intro call s result s' returned written isWritten
    rw [written_of_response returned isWritten, sampleOfRequestId_requestIdOfSample]
  writes := by
    intro call s slot attending bound room fits
    obtain ⟨⟨result, s'⟩, returned, ok, written, isWritten, bytes⟩ :=
      rmwSendResponse_spec attending (requestIdOfSample id) bound room fits
    exact ⟨result, s', written, returned, ok, isWritten, bytes⟩

/-- An operation hands out what it takes. -/
theorem Explains.matches {op : Traffic} {result : Option TakeResult}
    {events : List (Bags.Event EntityPtr Message)}
    (explained : Explains cfg r all op result events all') (headed : AllHeaded all) :
    Matches cfg r (Bags.takes events) op result := by
  cases explained with
  | receive | wait => exact trivial
  | @took pool deserialize handle slot result message _ bound payload taken reports step =>
      have isHeaded : message.Headed pool := by
        cases step with
        | took owner message rest had =>
            exact headed ⟨pool, slot⟩ message (had ▸ Multiset.mem_cons_self _ _)
      obtain ⟨bytes, header⟩ := message
      cases pool with
      | service =>
          obtain ⟨id, same⟩ := isHeaded
          obtain rfl : header = some (.sampleId id) := same
          exact Or.inr ⟨slot, bytes, id, bound, Multiset.mem_cons_self _ _, payload, _,
            reports _ rfl, answersWith id⟩
      | client =>
          obtain ⟨id, same⟩ := isHeaded
          obtain rfl : header = some (.replyId id) := same
          exact Or.inr ⟨slot, bytes, id, bound, Multiset.mem_cons_self _ _, payload,
            reports _ rfl⟩
      | session | node | publisher | subscription | topic | staticBuffer => exact trivial
  | @missed pool deserialize handle slot result bound payload taken step =>
      cases pool with
      | service | client => exact Or.inl payload
      | session | node | publisher | subscription | topic | staticBuffer => exact trivial

/-- A take that matches still does when more was taken. -/
theorem Matches.mono {taken taken' : Multiset (EntityPtr × Message)} {op : Traffic}
    {result : Option TakeResult} (isMatch : Matches cfg r taken op result) (more : taken ≤ taken') :
    Matches cfg r taken' op result := by
  unfold Matches at isMatch ⊢
  split at isMatch
  · rcases isMatch with nothing | ⟨slot, payload, id, bound, inside, rest⟩
    · exact Or.inl nothing
    · exact Or.inr ⟨slot, payload, id, bound, Multiset.mem_of_le more inside, rest⟩
  · rcases isMatch with nothing | ⟨slot, payload, id, bound, inside, rest⟩
    · exact Or.inl nothing
    · exact Or.inr ⟨slot, payload, id, bound, Multiset.mem_of_le more inside, rest⟩
  · exact trivial

/-- The takes of two runs add up. -/
theorem Bags.takes_append (events events' : List (Bags.Event EntityPtr Message)) :
    Bags.takes (events ++ events') = Bags.takes events + Bags.takes events' := by
  induction events with
  | nil => simp [Bags.takes]
  | cons event events ih =>
      cases event <;> simp [Bags.takes, ih]

/-- Every take of a run hands out what it takes. -/
theorem ExplainsAll.matches {ops : List Traffic} {results : List (Option TakeResult)}
    {events : List (Bags.Event EntityPtr Message)}
    (explained : ExplainsAll cfg r all ops results events all') (headed : AllHeaded all) :
    ∀ entry ∈ ops.zip results, Matches cfg r (Bags.takes events) entry.1 entry.2 := by
  induction explained with
  | nil all =>
      intro entry inside
      cases inside
  | cons first rest ih =>
      intro entry inside
      rw [Bags.takes_append]
      rw [List.zip_cons_cons] at inside
      rcases List.mem_cons.mp inside with same | later
      · rw [same]
        exact (first.matches headed).mono (Multiset.le_add_right _ _)
      · exact (ih (first.allHeaded headed) entry later).mono (Multiset.le_add_left _ _)

/-- In any interleaving of deliveries, takes and waits: what a service takes is the payload of
a request with the header of the same request, whatever its bits, and a response with that
header carries the identity of the request; what a client takes is the payload of a reply with
its id; each message is handed out once at most, and is one that was delivered or pending. A
header survives the way to an identity and back. -/
theorem identity_travels {ops : List Traffic} (attending : Attending cfg s)
    (enabled : ∀ op ∈ ops, op.Enabled cfg s.registry) :
    (∃ results s' events, runTraffic cfg ops s = .ok (results, s') ∧
      ExplainsAll cfg s.registry s.bags ops results events s'.bags ∧
      (∀ entry ∈ ops.zip results, Matches cfg s.registry (Bags.takes events) entry.1 entry.2) ∧
      s.bags + Bags.arrivals events = Bags.takes events + s'.bags ∧
      (Bags.arrivals events).map Prod.snd ≤
        messagesOf (ops.flatMap (Traffic.deliveries s.registry))) ∧
    ∀ header, requestIdOfSample (sampleOfRequestId header) = header := by
  obtain ⟨results, s', events, returns, -, -, explained⟩ := runTraffic_explained attending enabled
  exact ⟨⟨results, s', events, returns, explained,
    explained.matches attending.healthy.allHeaded, explained.run.conserved,
    explained.delivered⟩, requestIdOfSample_sampleOfRequestId⟩

namespace Small

/-- A request for the service of the small run, with a negative sequence number. -/
def request : Delivery :=
  .request 12 ⟨0xFFFFFFFF#32, 7#32, 4, #v[1, 2, 3], Vector.replicate 12 9⟩ [5, 6] 2

/-- A request that arrives, and the take of it. -/
def requestTraffic : List Traffic := [.receive 0 request, .take .service (fun _ => true) 0]

theorem attending_withService : Attending config withService.rmw := by
  obtain ⟨healthy, sound⟩ := reachable_sound withService_safe fun _ _ => id
  exact ⟨healthy, sound, by decide⟩

theorem requestTraffic_enabled :
    ∀ op ∈ requestTraffic, op.Enabled config withService.rmw.registry := by
  have fits : request.Fits config := (by decide : 2 ≤ 4)
  have live : ∃ slot, withService.rmw.registry.Bound .service 0 slot := ⟨0, rfl⟩
  simp only [requestTraffic, List.mem_cons, List.not_mem_nil, or_false, forall_eq_or_imp, forall_eq]
  exact ⟨fits, rfl, live⟩

end Small

/-- In the small run with a service, which takes a request. -/
theorem identity_travels_small :
    (∃ results s' events,
      runTraffic Small.config Small.requestTraffic Small.withService.rmw = .ok (results, s') ∧
      ExplainsAll Small.config Small.withService.rmw.registry Small.withService.rmw.bags
        Small.requestTraffic results events s'.bags ∧
      (∀ entry ∈ Small.requestTraffic.zip results,
        Matches Small.config Small.withService.rmw.registry (Bags.takes events) entry.1 entry.2) ∧
      Small.withService.rmw.bags + Bags.arrivals events = Bags.takes events + s'.bags ∧
      (Bags.arrivals events).map Prod.snd ≤ messagesOf
        (Small.requestTraffic.flatMap (Traffic.deliveries Small.withService.rmw.registry))) ∧
    ∀ header, requestIdOfSample (sampleOfRequestId header) = header :=
  identity_travels Small.attending_withService Small.requestTraffic_enabled

end RmwMicroxrcedds
