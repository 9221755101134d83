import RmwMicroxrcedds.Library.Bags
import RmwMicroxrcedds.Refinement.Take

/-! # The input buffers as mail

The allocated input buffers, the latest first, are messages with their owners. A delivery
puts at most one in front, with exactly the bytes that were delivered; a take removes the
first one of its owner. As a multiset the messages are the bags of their owners.
-/

namespace RmwMicroxrcedds

open Outcome Registry

variable {cfg : Config} {admits : Admission} {s s' : Rmw} {session item slot : Nat}
variable {delivery : Delivery} {owner : EntityPtr} {provenance : Provenance}

/-- The pool of the entities a message may be for. -/
def Delivery.pool : Delivery → Pool
  | .topic _ _ _ => .subscription
  | .request _ _ _ _ => .service
  | .reply _ _ _ _ => .client

/-- The entity carries the number of the message. -/
def Entity.answers : Entity → Delivery → Bool
  | .subscription entity, .topic objectId _ _ => entity.datareaderId.same objectId
  | .endpoint entity, .request requestId _ _ _ => wire entity.dataRequest == wire requestId
  | .endpoint entity, .reply requestId _ _ _ => wire entity.dataRequest == wire requestId
  | _, _ => false

/-- The first allocated entity, of any session, that carries the number of the message. -/
def Rmw.firstMatch (s : Rmw) (delivery : Delivery) : Option Nat :=
  (s.allocated delivery.pool).find? fun slot => (s.entity delivery.pool slot).answers delivery

/-- The addressee of a message is the first entity with its number. -/
theorem addressee_eq_firstMatch :
    (s.registry.addressee cfg session delivery).map Prod.fst =
      if delivery.toGraph cfg s.registry session then none
      else (s.firstMatch delivery).map (EntityPtr.mk delivery.pool) := by
  cases delivery with
  | topic objectId stream length =>
      simp only [Registry.addressee, Delivery.toGraph]
      by_cases toGraph : (cfg.graph && objectId.same (s.registry.graph session).datareaderId) = true
      · simp only [toGraph, ↓reduceIte, Option.map_none]
      · simp only [toGraph, Bool.false_eq_true, ↓reduceIte, Option.map_map]
        rfl
  | request requestId sampleId stream length =>
      simp only [Registry.addressee, addressee.endpoint, Delivery.toGraph, Bool.false_eq_true,
        ↓reduceIte]
      rw [Option.map_map]
      rfl
  | reply requestId replyId stream length =>
      simp only [Registry.addressee, addressee.endpoint, Delivery.toGraph, Bool.false_eq_true,
        ↓reduceIte]
      rw [Option.map_map]
      rfl

/-- A message as the entity it is for sees it: its bytes, and for a request or a reply the
identity that came with it. -/
structure Message where
  payload : List UInt8
  header : Option Related
deriving DecidableEq

/-- The part of the union that belongs to the message of such an owner. -/
def headerFor (pool : Pool) (related : Related) : Option Related :=
  if pool = .subscription then none else some related

/-- The message of a delivery. -/
def Delivery.message (delivery : Delivery) : Message where
  payload := delivery.written
  header := match delivery with
    | .topic _ _ _ => none
    | .request _ sampleId _ _ => some (.sampleId sampleId)
    | .reply _ replyId _ _ => some (.replyId replyId)

/-- The message in an input buffer, with its owner. -/
def StaticInputBuffer.mail (staticBuffer : StaticInputBuffer) : Option (EntityPtr × Message) :=
  staticBuffer.owner.map fun owner =>
    (owner, ⟨staticBuffer.payload, headerFor owner.pool staticBuffer.related⟩)

/-- The pending messages with their owners, the latest first. -/
def Rmw.mail (s : Rmw) : List (EntityPtr × Message) :=
  (s.allocated .staticBuffer).filterMap fun item => (s.customStaticBuffers item).mail

/-- A payload that was copied is handed out as it was delivered. -/
theorem payload_stored {related : Related → Related} (copied : delivery.copied = true)
    (old : StaticInputBuffer) :
    (stored owner provenance related delivery old).payload = delivery.written := by
  have enough : delivery.length ≤ delivery.stream.length := by simpa [Delivery.copied] using copied
  have whole : delivery.written.length = delivery.length := by
    simp [Delivery.written, List.length_take, enough]
  simp only [StaticInputBuffer.payload, stored, readPrefix, overwrite]
  rw [List.take_append_of_le_length (Nat.le_of_eq whole.symm), ← whole, List.take_length,
    List.length_append]
  simp

/-- The message that is stored for the addressee of a delivery is the one delivered. -/
theorem mail_stored (copied : delivery.copied = true) (isPool : owner.pool = delivery.pool)
    (old : StaticInputBuffer) :
    (stored owner provenance delivery.related delivery old).mail =
      some (owner, delivery.message) := by
  have payload : (stored owner provenance delivery.related delivery old).payload =
      delivery.written := payload_stored copied old
  unfold StaticInputBuffer.mail
  rw [payload]
  simp only [stored, Option.map_some, isPool]
  cases delivery <;> rfl

/-- Every pending message has an owner. -/
theorem length_mail (healthy : s.Healthy cfg admits) :
    s.mail.length = (s.allocated .staticBuffer).length := by
  unfold Rmw.mail
  apply List.filterMap_length_eq_length.mpr
  intro item inside
  obtain ⟨owner, isOwner, -⟩ := healthy.pending item inside
  simp [StaticInputBuffer.mail, isOwner]

/-- The messages of an owner are those of the buffers pending for it. -/
theorem mail_of_owner (owner : EntityPtr) :
    (s.mail.filter fun entry => entry.1 = owner).map Prod.snd =
      (s.pending owner).map fun item =>
        ⟨(s.customStaticBuffers item).payload,
          headerFor owner.pool (s.customStaticBuffers item).related⟩ := by
  unfold Rmw.mail Rmw.pending
  induction s.allocated .staticBuffer with
  | nil => rfl
  | cons item rest ih =>
      cases isOwner : (s.customStaticBuffers item).owner with
      | none => simpa [StaticInputBuffer.mail, isOwner] using ih
      | some other =>
          by_cases same : other = owner
          · simpa [StaticInputBuffer.mail, isOwner, same] using ih
          · simpa [StaticInputBuffer.mail, isOwner, same] using ih

/-- The entity a message is for is of the pool of its kind. -/
theorem addressee_pool {r : Registry}
    (isAddressee : r.addressee cfg session delivery = some (owner, provenance)) :
    owner.pool = delivery.pool := by
  cases delivery with
  | topic objectId stream length =>
      simp only [Registry.addressee] at isAddressee
      split at isAddressee
      · cases isAddressee
      · obtain ⟨slot, -, same⟩ := Option.map_eq_some_iff.mp isAddressee
        rw [← (Prod.mk.inj same).1]
        rfl
  | request requestId sampleId stream length =>
      obtain ⟨slot, -, same⟩ := Option.map_eq_some_iff.mp isAddressee
      rw [← (Prod.mk.inj same).1]
      rfl
  | reply requestId replyId stream length =>
      obtain ⟨slot, -, same⟩ := Option.map_eq_some_iff.mp isAddressee
      rw [← (Prod.mk.inj same).1]
      rfl

/-- The owner a delivery is stored for: the addressee, if it can be copied and a buffer is
free. -/
def Rmw.recipient (cfg : Config) (s : Rmw) (session : Nat) (delivery : Delivery) :
    Option EntityPtr :=
  if delivery.copied = true ∧ s.free .staticBuffer ≠ [] then
    (s.registry.addressee cfg session delivery).map Prod.fst
  else none

/-- A buffer that is free holds no message. -/
theorem not_pending_of_free {item : Nat} {rest : List Nat} (healthy : s.Healthy cfg admits)
    (first : s.free .staticBuffer = item :: rest) : item ∉ s.allocated .staticBuffer := by
  intro inside
  have isFree : item ∈ s.free .staticBuffer := by simp [first]
  exact (healthy.wf .staticBuffer).disjoint isFree inside

/-- What a callback does to the mail: the message is put in front for its recipient. -/
theorem Received.mail (received : Received cfg session delivery s s')
    (healthy : s.Healthy cfg admits) :
    s'.mail = ((s.recipient cfg session delivery).map (·, delivery.message)).toList ++ s.mail := by
  have unchanged : s'.allocated .staticBuffer = s.allocated .staticBuffer →
      (∀ item ∈ s.allocated .staticBuffer,
        s'.customStaticBuffers item = s.customStaticBuffers item) → s'.mail = s.mail := by
    intro allocated buffers
    unfold Rmw.mail
    rw [allocated]
    apply List.filterMap_congr
    intro item inside
    rw [buffers item inside]
  have apart : ∀ {item rest}, s.free .staticBuffer = item :: rest →
      ∀ other ∈ s.allocated .staticBuffer, other ≠ item := by
    intro item rest first other inside same
    exact not_pending_of_free healthy first (same ▸ inside)
  cases received with
  | unaddressed nobody allocated buffers =>
      have nowhere : s.recipient cfg session delivery = none := by
        simp [Rmw.recipient, nobody]
      rw [nowhere, unchanged allocated fun item _ => by rw [buffers]]
      rfl
  | addressed owner provenance related isAddressee enqueued isRelated =>
      subst isRelated
      cases enqueued with
      | full empty same =>
          have nowhere : s.recipient cfg session delivery = none := by
            simp [Rmw.recipient, empty]
          rw [nowhere, same]
          rfl
      | dropped item rest first notCopied allocated buffers =>
          have nowhere : s.recipient cfg session delivery = none := by
            simp [Rmw.recipient, notCopied]
          rw [nowhere, unchanged allocated fun other inside =>
            buffers other (apart first other inside)]
          rfl
      | stored item rest first wasCopied allocated buffers =>
          have isOwner : s.recipient cfg session delivery = some owner := by
            simp [Rmw.recipient, wasCopied, first, isAddressee]
          have front : (s'.customStaticBuffers item).mail = some (owner, delivery.message) := by
            rw [buffers, Function.update_self]
            exact mail_stored wasCopied (addressee_pool isAddressee) _
          have back : (s.allocated .staticBuffer).filterMap
              (fun other => (s'.customStaticBuffers other).mail) = s.mail := by
            apply List.filterMap_congr
            intro other inside
            rw [buffers, Function.update_of_ne (apart first other inside)]
          rw [isOwner]
          simp only [Rmw.mail, allocated, List.filterMap_cons, front]
          exact congrArg _ back

/-- What a take does to the mail, and what it hands out. -/
theorem Taken.mail {deserialize : List UInt8 → Bool} {result : TakeResult}
    (taken : Taken deserialize owner s result s') :
    (result.payload = none ∧ result.taken = false ∧ s' = s ∧ s.pending owner = []) ∨
      ∃ message : Message, result.payload = some message.payload ∧
        result.taken = deserialize message.payload ∧
        (∀ related, message.header = some related → result.Reports owner.pool related) ∧
        (s.mail : Multiset (EntityPtr × Message)) = (owner, message) ::ₘ s'.mail := by
  cases taken with
  | nothing empty same taken payload => exact Or.inl ⟨payload, taken, same, empty⟩
  | message item rest first allocated buffers payload taken reports =>
      obtain ⟨inside, isOwner⟩ := Rmw.mem_pending.mp (first ▸ List.mem_cons_self)
      have isMail : (s.customStaticBuffers item).mail = some (owner,
          ⟨(s.customStaticBuffers item).payload,
            headerFor owner.pool (s.customStaticBuffers item).related⟩) := by
        simp [StaticInputBuffer.mail, isOwner]
      refine Or.inr ⟨⟨(s.customStaticBuffers item).payload,
        headerFor owner.pool (s.customStaticBuffers item).related⟩, payload, taken,
        fun related isRelated => ?_, ?_⟩
      · simp only [headerFor, Option.ite_none_left_eq_some] at isRelated
        cases isRelated.2
        exact reports
      · have split := (List.perm_cons_erase inside).filterMap fun item =>
          (s.customStaticBuffers item).mail
        rw [List.filterMap_cons, isMail] at split
        unfold Rmw.mail
        rw [allocated, buffers, Multiset.cons_coe]
        exact Multiset.coe_eq_coe.mpr split

/-- The buffers of an initialised pool are free or hold a message. -/
theorem length_free_add_mail (healthy : s.Healthy cfg admits)
    (initialised : (s.memory .staticBuffer).isInitialized = true) :
    (s.free .staticBuffer).length + s.mail.length = cfg.maxHistory := by
  have size : (s.memory .staticBuffer).size = cfg.maxHistory := by
    rcases healthy.sized .staticBuffer with zeroed | sized
    · rw [zeroed] at initialised
      cases initialised
    · exact sized.2
  rw [length_mail healthy, ← size]
  exact (healthy.wf .staticBuffer).length_add

/-- There is a free buffer while fewer messages are pending than there are buffers. -/
theorem free_ne_nil_iff (healthy : s.Healthy cfg admits)
    (initialised : (s.memory .staticBuffer).isInitialized = true) :
    s.free .staticBuffer ≠ [] ↔ s.mail.length < cfg.maxHistory := by
  have total := length_free_add_mail healthy initialised
  rw [← List.length_pos_iff_ne_nil]
  omega

end RmwMicroxrcedds
