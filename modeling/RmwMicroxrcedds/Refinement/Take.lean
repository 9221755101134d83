import RmwMicroxrcedds.Model.Wait
import RmwMicroxrcedds.Refinement.Topic

/-! # Taking refines the pending messages

The input buffers of an owner, the latest first, are the messages pending for it. A take
removes the first of them and hands its bytes to the deserialiser; `rmw_wait` runs the
sessions and looks which owners have one.
-/

namespace RmwMicroxrcedds

open Outcome Mempool

variable {cfg : Config} {admits : Admission} {s s' : Rmw} {owner : EntityPtr} {pool : Pool}
variable {handle slot item : Nat} {deserialize : List UInt8 → Bool}

/-- The input buffers that hold a message for the owner, the latest first. -/
def Rmw.pending (s : Rmw) (owner : EntityPtr) : List Nat :=
  (s.allocated .staticBuffer).filter fun item => (s.customStaticBuffers item).owner == some owner

/-- The pending buffers of an entity are the allocated ones that name it. -/
theorem Rmw.mem_pending : item ∈ s.pending owner ↔
    item ∈ s.allocated .staticBuffer ∧ (s.customStaticBuffers item).owner = some owner := by
  simp [Rmw.pending]

/-- The search by owner finds the latest message pending for it. -/
theorem findPending_eq (healthy : s.Healthy cfg admits) (owner : EntityPtr) :
    findPending (some owner) s =
      .ok ((s.pending owner).head?.map fun item => (item, s.customStaticBuffers item)) := by
  rw [Rmw.pending, List.head?_filter]
  simp only [findPending, rmwUxrceFindStaticInputBufferByOwner, healthy.findAllocated, ok_bind]
  cases found : (s.allocated .staticBuffer).find? fun item =>
      (s.customStaticBuffers item).owner == some owner with
  | none => rfl
  | some item =>
      simp only [healthy.dataOf (List.mem_of_find?_eq_some found), ok_bind, Option.map_some]

/-- The input buffer of an owner may be given back. -/
theorem Rmw.Healthy.putInput (healthy : s.Healthy cfg admits)
    (inside : item ∈ s.allocated .staticBuffer) :
    (s.putMemory .staticBuffer item).Healthy cfg admits ∧
      Undisturbed s (s.putMemory .staticBuffer item) ∧
      (s.putMemory .staticBuffer item).allocated .staticBuffer =
        (s.allocated .staticBuffer).erase item := by
  have moves := Mempool.putMemory_of_allocated (healthy.wf .staticBuffer) inside
  have positive : 0 < (s.memory .staticBuffer).size :=
    Nat.lt_of_le_of_lt (Nat.zero_le _) ((healthy.wf .staticBuffer).lt_of_mem inside)
  refine ⟨healthy.withInput moves positive fun other kept =>
      healthy.pending other (List.mem_of_mem_erase kept),
    .withInput ((s.memory .staticBuffer).putMemory item) s.customStaticBuffers, ?_⟩
  simpa [Rmw.allocated, Rmw.putMemory] using moves.allocated_eq

/-- The header a take returns is the one stored with the message: the request id of a request,
the sequence number of a reply. -/
def TakeResult.Reports (result : TakeResult) (pool : Pool) (related : Related) : Prop :=
  match pool, related with
  | .service, .sampleId id => result.requestId = some (requestIdOfSample id)
  | .client, .replyId id => result.sequenceNumber = some (BitVec.ofNat 64 id)
  | .service, .replyId _ | .client, .sampleId _ => False
  | _, _ => True

/-- What a take does to the messages pending for its owner, and what it reports. -/
inductive Taken (deserialize : List UInt8 → Bool) (owner : EntityPtr) (s : Rmw)
    (result : TakeResult) (s' : Rmw) : Prop where
  | nothing (empty : s.pending owner = []) (same : s' = s) (taken : result.taken = false)
      (payload : result.payload = none)
  | message (item : Nat) (rest : List Nat) (first : s.pending owner = item :: rest)
      (allocated : s'.allocated .staticBuffer = (s.allocated .staticBuffer).erase item)
      (buffers : s'.customStaticBuffers = s.customStaticBuffers)
      (payload : result.payload = some (s.customStaticBuffers item).payload)
      (taken : result.taken = deserialize (s.customStaticBuffers item).payload)
      (reports : result.Reports owner.pool (s.customStaticBuffers item).related)

/-- The end of the three take functions. -/
private theorem finishTake_spec (healthy : s.Healthy cfg admits) {rest : List Nat}
    (header : TakeResult) (first : s.pending owner = item :: rest)
    (reports : header.Reports owner.pool (s.customStaticBuffers item).related) :
    (finishTake deserialize item (s.customStaticBuffers item) header s).2.Healthy cfg admits ∧
      Undisturbed s (finishTake deserialize item (s.customStaticBuffers item) header s).2 ∧
      Taken deserialize owner s
        (finishTake deserialize item (s.customStaticBuffers item) header s).1
        (finishTake deserialize item (s.customStaticBuffers item) header s).2 := by
  have inside : item ∈ s.allocated .staticBuffer :=
    (Rmw.mem_pending.mp (first ▸ List.mem_cons_self)).1
  obtain ⟨putHealthy, undisturbed, allocated⟩ := healthy.putInput inside
  refine ⟨putHealthy, undisturbed, .message item rest first allocated rfl rfl rfl ?_⟩
  revert reports
  unfold TakeResult.Reports
  split <;> exact id

/-- The union of the pending message read by a take holds the member its owner reads. -/
theorem Rmw.Healthy.tagged (healthy : s.Healthy cfg admits) {rest : List Nat}
    (first : s.pending owner = item :: rest) :
    Tagged owner.pool (s.customStaticBuffers item).related := by
  obtain ⟨inside, isOwner⟩ := Rmw.mem_pending.mp (first ▸ List.mem_cons_self)
  obtain ⟨other, isOther, tagged, -⟩ := healthy.pending item inside
  cases isOwner.symm.trans isOther
  exact tagged

/-- `rmw_take_with_info` on a live subscription. -/
theorem rmwTakeWithInfo_spec (healthy : s.Healthy cfg admits) (sound : s.registry.Sound)
    (bound : s.registry.Bound .subscription handle slot) :
    Yields (rmwTakeWithInfo deserialize handle s) fun result =>
      result.2.Healthy cfg admits ∧ Undisturbed s result.2 ∧
        Taken deserialize ⟨.subscription, slot⟩ s result.1 result.2 := by
  obtain ⟨contents, _, isData, isRead, named⟩ := healthy.block_of_data bound
  simp only [rmwTakeWithInfo, isRead, ok_bind, named, ↓reduceIte, isData, Option.map_some,
    findPending_eq healthy]
  cases isPending : s.pending ⟨.subscription, slot⟩ with
  | nil => exact yields_ok.mpr ⟨healthy, .refl s, .nothing isPending rfl rfl rfl⟩
  | cons item rest =>
      obtain ⟨callbacks, isTyped⟩ : ∃ callbacks,
          (s.customSubscriptions slot).typeSupportCallbacks = some callbacks :=
        Option.isSome_iff_exists.mp (sound.placed bound).typed
      simp only [List.head?_cons, Option.map_some, deref, ok_bind, isTyped]
      exact yields_ok.mpr (finishTake_spec healthy _ isPending trivial)

/-- `rmw_take_request` on a live service. -/
theorem rmwTakeRequest_spec (healthy : s.Healthy cfg admits) (sound : s.registry.Sound)
    (bound : s.registry.Bound .service handle slot) :
    Yields (rmwTakeRequest deserialize handle s) fun result =>
      result.2.Healthy cfg admits ∧ Undisturbed s result.2 ∧
        Taken deserialize ⟨.service, slot⟩ s result.1 result.2 := by
  obtain ⟨contents, _, isData, isRead, named⟩ := healthy.block_of_data bound
  simp only [rmwTakeRequest, isRead, ok_bind, named, ↓reduceIte, isData, Option.map_some,
    findPending_eq healthy]
  cases isPending : s.pending ⟨.service, slot⟩ with
  | nil => exact yields_ok.mpr ⟨healthy, .refl s, .nothing isPending rfl rfl rfl⟩
  | cons item rest =>
      obtain ⟨callbacks, isTyped⟩ : ∃ callbacks,
          (s.customServices slot).typeSupportCallbacks = some callbacks :=
        Option.isSome_iff_exists.mp (sound.placed bound).typed
      have tagged := healthy.tagged isPending
      cases isRelated : (s.customStaticBuffers item).related with
      | replyId id =>
          rw [isRelated] at tagged
          exact tagged.elim
      | sampleId id =>
          simp only [List.head?_cons, Option.map_some, isRelated, deref, ok_bind, isTyped]
          refine yields_ok.mpr (finishTake_spec healthy _ isPending ?_)
          rw [isRelated]
          rfl

/-- `rmw_take_response` on a live client. -/
theorem rmwTakeResponse_spec (healthy : s.Healthy cfg admits) (sound : s.registry.Sound)
    (bound : s.registry.Bound .client handle slot) :
    Yields (rmwTakeResponse deserialize handle s) fun result =>
      result.2.Healthy cfg admits ∧ Undisturbed s result.2 ∧
        Taken deserialize ⟨.client, slot⟩ s result.1 result.2 := by
  obtain ⟨contents, _, isData, isRead, named⟩ := healthy.block_of_data bound
  simp only [rmwTakeResponse, isRead, ok_bind, named, ↓reduceIte, isData, Option.map_some,
    findPending_eq healthy]
  cases isPending : s.pending ⟨.client, slot⟩ with
  | nil => exact yields_ok.mpr ⟨healthy, .refl s, .nothing isPending rfl rfl rfl⟩
  | cons item rest =>
      obtain ⟨callbacks, isTyped⟩ : ∃ callbacks,
          (s.customClients slot).typeSupportCallbacks = some callbacks :=
        Option.isSome_iff_exists.mp (sound.placed bound).typed
      have tagged := healthy.tagged isPending
      cases isRelated : (s.customStaticBuffers item).related with
      | sampleId id =>
          rw [isRelated] at tagged
          exact tagged.elim
      | replyId id =>
          simp only [List.head?_cons, Option.map_some, isRelated, deref, ok_bind, isTyped]
          refine yields_ok.mpr (finishTake_spec healthy _ isPending ?_)
          rw [isRelated]
          rfl

/-- An entry of an array of `rmw_wait` stays if it has a message pending. -/
def Rmw.keepReady (s : Rmw) (pool : Pool) (entity : Option Nat) : Option Nat :=
  entity.filter fun slot => s.pending ⟨pool, slot⟩ ≠ []

/-- Who has a message pending. -/
theorem findByOwner_eq (healthy : s.Healthy cfg admits) (pool : Pool) (entity : Option Nat) :
    ∃ found, rmwUxrceFindStaticInputBufferByOwner (entity.map (EntityPtr.mk pool)) s = .ok found ∧
      found.isSome = (s.keepReady pool entity).isSome := by
  simp only [rmwUxrceFindStaticInputBufferByOwner, healthy.findAllocated]
  refine ⟨_, rfl, ?_⟩
  cases entity with
  | none =>
      simp only [Rmw.keepReady, Option.map_none, Option.filter_none, Option.isSome_none,
        Option.isSome_eq_false_iff, Option.isNone_iff_eq_none, List.find?_eq_none, beq_iff_eq]
      intro item inside
      obtain ⟨owner, isOwner, -⟩ := healthy.pending item inside
      simp [isOwner]
  | some slot =>
      rw [Bool.eq_iff_iff]
      simp [Rmw.keepReady, Rmw.pending, List.find?_isSome]

/-- The checks of `rmw_wait` keep the entities that have a message pending. -/
theorem checkReady_eq (healthy : s.Healthy cfg admits) (pool : Pool)
    (entities : List (Option Nat)) :
    checkReady pool s entities =
      .ok (entities.map (s.keepReady pool),
        (entities.map (s.keepReady pool)).any Option.isSome) := by
  induction entities with
  | nil => rfl
  | cons entity rest ih =>
      obtain ⟨found, isFound, ready⟩ := findByOwner_eq healthy pool entity
      simp only [checkReady, isFound, ih, ok_bind, ready, List.map_cons, List.any_cons]
      cases kept : s.keepReady pool entity with
      | none => simp
      | some slot =>
          have same : entity = some slot := Option.eq_some_of_filter_eq_some kept
          simp [same]

/-- Messages that arrive one after the other, at any sessions. -/
def receiveAll (cfg : Config) : List (Nat × Delivery) → Rmw → Exec Rmw
  | [], s => .ok s
  | (session, delivery) :: rest, s => do
      let s ← deliver cfg session delivery s
      receiveAll cfg rest s

/-- The messages of a wait: every session runs once, in the order of the pool. -/
def arrivalsOf (arrivals : Nat → List Delivery) (sessions : List Nat) : List (Nat × Delivery) :=
  sessions.flatMap fun session => (arrivals session).map (session, ·)

/-- Deliveries are received in their order. -/
theorem receiveAll_append {first second : List (Nat × Delivery)} :
    receiveAll cfg (first ++ second) s = receiveAll cfg first s >>= receiveAll cfg second := by
  induction first generalizing s with
  | nil => rfl
  | cons arrival first ih =>
      obtain ⟨session, delivery⟩ := arrival
      simp only [List.cons_append, receiveAll]
      cases deliver cfg session delivery s with
      | error fault => rfl
      | ok next => exact ih

/-- The deliveries of an exchange are received in their order. -/
theorem deliverAll_eq_receiveAll {session : Nat} {deliveries : List Delivery} :
    deliverAll cfg session deliveries s = receiveAll cfg (deliveries.map (session, ·)) s := by
  induction deliveries generalizing s with
  | nil => rfl
  | cons delivery deliveries ih =>
      simp only [List.map_cons, deliverAll, receiveAll]
      cases deliver cfg session delivery s with
      | error fault => rfl
      | ok next => exact ih

/-- Messages that may arrive are received without a fault. -/
theorem receiveAll_spec (healthy : s.Healthy cfg admits) {arrivals : List (Nat × Delivery)}
    (acceptable : ∀ arrival ∈ arrivals, Acceptable cfg admits s.registry arrival.1 arrival.2) :
    Yields (receiveAll cfg arrivals s) fun s' => s'.Healthy cfg admits ∧ Undisturbed s s' := by
  induction arrivals generalizing s with
  | nil => exact yields_ok.mpr ⟨healthy, .refl s⟩
  | cons arrival arrivals ih =>
      refine (deliver_spec healthy (acceptable arrival List.mem_cons_self)).bind
        fun middle spec => ?_
      refine (ih spec.1 fun arrival inside => ?_).mono fun last rest =>
        ⟨rest.1, spec.2.1.trans rest.2⟩
      rw [spec.2.1.registry]
      exact acceptable arrival (List.mem_cons_of_mem _ inside)

/-- The loop over the sessions runs each of them once and receives their messages. -/
theorem runSessionsUntilData_eq {timeout : BitVec 32}
    {arrivals : Nat → BitVec 32 → List Delivery} :
    ∀ (rest : List Nat) (fuel : Nat) (s : Rmw), rest.length ≤ fuel → s.Healthy cfg admits →
      rest <:+ s.allocated .session →
      (∀ arrival ∈ arrivalsOf (arrivals · timeout) rest,
        Acceptable cfg admits s.registry arrival.1 arrival.2) →
      runSessionsUntilData cfg timeout arrivals fuel rest.head? s =
        (receiveAll cfg (arrivalsOf (arrivals · timeout) rest) s >>= fun s' =>
          .ok (rest.map (·, timeout), s')) := by
  intro rest
  induction rest with
  | nil =>
      intro fuel s _ _ _ _
      cases fuel <;> rfl
  | cons session rest ih =>
      intro fuel s enough healthy suffix acceptable
      cases fuel with
      | zero => cases enough
      | succ fuel =>
          have isWf := healthy.wf .session
          have held : session ∈ s.allocated .session := suffix.subset List.mem_cons_self
          obtain ⟨before, split⟩ := suffix
          have segment := isWf.allocated_segment
          have whole : (s.memory .session).allocated = before ++ session :: rest := split.symm
          rw [whole] at segment
          have next : ((s.memory .session).links session).next = rest.head? := segment.next_eq
          have split' : arrivalsOf (arrivals · timeout) (session :: rest) =
              (arrivals session timeout).map (session, ·) ++
                arrivalsOf (arrivals · timeout) rest := rfl
          rw [split'] at acceptable ⊢
          rw [receiveAll_append, ← deliverAll_eq_receiveAll, List.head?_cons,
            runSessionsUntilData]
          simp only [healthy.dataOf held, ok_bind]
          have here : ∀ delivery ∈ arrivals session timeout,
              Acceptable cfg admits s.registry session delivery := fun delivery inside =>
            acceptable (session, delivery) (by simp [inside])
          obtain ⟨ran, isRan, ranHealthy, undisturbed⟩ := deliverAll_spec healthy here
          have sessions : ran.memory .session = s.memory .session :=
            undisturbed.memory _ (by decide)
          have suffix' : rest <:+ ran.allocated .session := by
            simp only [Rmw.allocated, sessions]
            exact ⟨before ++ [session], by simp [whole]⟩
          have acceptable' : ∀ arrival ∈ arrivalsOf (arrivals · timeout) rest,
              Acceptable cfg admits ran.registry arrival.1 arrival.2 := by
            intro arrival inside
            rw [undisturbed.registry]
            exact acceptable arrival (List.mem_append_right _ inside)
          simp only [isRan, ok_bind, sessions, next,
            ih fuel ran (Nat.le_of_succ_le_succ enough) ranHealthy suffix' acceptable']
          cases receiveAll cfg (arrivalsOf (arrivals · timeout) rest) ran with
          | error fault => rfl
          | ok last => rfl

/-- The sessions of a healthy state are run in the order of the pool. -/
theorem runSessionsUntilData_sessions (healthy : s.Healthy cfg admits) {timeout : BitVec 32}
    {arrivals : Nat → BitVec 32 → List Delivery}
    (acceptable : ∀ arrival ∈ arrivalsOf (arrivals · timeout) (s.allocated .session),
      Acceptable cfg admits s.registry arrival.1 arrival.2) :
    runSessionsUntilData cfg timeout arrivals (s.memory .session).size
        (s.memory .session).allocateditems s =
      (receiveAll cfg (arrivalsOf (arrivals · timeout) (s.allocated .session)) s >>= fun s' =>
        .ok ((s.allocated .session).map (·, timeout), s')) := by
  have isWf := healthy.wf .session
  have head : (s.memory .session).allocateditems = (s.allocated .session).head? :=
    isWf.allocateditems_eq
  have total := isWf.length_add
  have enough : (s.allocated .session).length ≤ (s.memory .session).size := by
    simp only [Rmw.allocated]
    omega
  rw [head]
  exact runSessionsUntilData_eq _ _ s enough healthy (List.suffix_refl _) acceptable

end RmwMicroxrcedds
