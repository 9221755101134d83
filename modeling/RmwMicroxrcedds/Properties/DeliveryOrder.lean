import RmwMicroxrcedds.Machine.Run
import RmwMicroxrcedds.Refinement.Inbox

/-! # The order of delivery

The input buffers of all entities are in one list, to whose front a new message goes, and
which a take searches from the front. The ledger keeps the messages in the order they
were stored, beside the run of the code: a take returns the latest of its owner, which is
the oldest only when there is no other.
-/

namespace RmwMicroxrcedds

open Outcome Registry

variable {cfg : Config} {admits : Admission} {s s' start : Rmw} {pool : Pool} {handle slot : Nat}
variable {deserialize : List UInt8 → Bool} {owner : EntityPtr}

/-- A stored message: its owner, the input buffer it is in, and its bytes. -/
structure Entry where
  owner : EntityPtr
  buffer : Nat
  payload : List UInt8

/-- The entry of an input buffer. -/
def Rmw.entry (s : Rmw) (item : Nat) : Option Entry :=
  (s.customStaticBuffers item).owner.map fun owner =>
    ⟨owner, item, (s.customStaticBuffers item).payload⟩

/-- The entries of all pending messages, in the order of the pool. -/
def Rmw.entries (s : Rmw) : List Entry := (s.allocated .staticBuffer).filterMap s.entry

/-- The layer, with the messages stored and not yet returned, the oldest first. -/
structure Ledger where
  rmw : Rmw
  stored : List Entry := []

/-- A message arrives for any entity, or a message is taken from any entity. -/
inductive LedgerOp where
  | receive (session : Nat) (delivery : Delivery)
  | take (pool : Pool) (deserialize : List UInt8 → Bool) (handle : Nat)

/-- The step of the code, and its entry in the ledger: a buffer that was taken is appended,
a buffer that was given back is struck out. -/
def Ledger.exec (cfg : Config) : LedgerOp → Ledger → Exec Ledger
  | .receive session delivery, ledger => do
      let s ← deliver cfg session delivery ledger.rmw
      let new := (s.allocated .staticBuffer).filter
        (· ∉ ledger.rmw.allocated .staticBuffer)
      return ⟨s, ledger.stored ++ new.filterMap s.entry⟩
  | .take pool deserialize handle, ledger => do
      let (_, s) ← takeFrom pool deserialize handle ledger.rmw
      return ⟨s, ledger.stored.filter fun entry => entry.buffer ∈ s.allocated .staticBuffer⟩

/-- Payloads fit, and takes are on live handles. -/
def LedgerOp.Enabled (cfg : Config) (ledger : Ledger) : LedgerOp → Prop
  | .receive _ delivery => delivery.Fits cfg
  | .take pool _ handle => pool.hasInbox = true ∧ ∃ slot, ledger.rmw.registry.Bound pool handle slot

/-- Arrivals and takes from a state on. -/
def ledgerFrom (cfg : Config) (start : Rmw) : Machine Ledger LedgerOp Fault where
  start := { rmw := start }
  step := Ledger.exec cfg
  enabled := fun ledger op => op.Enabled cfg ledger

/-- The oldest message pending for an owner. -/
def Ledger.oldest (ledger : Ledger) (owner : EntityPtr) : Option Entry :=
  (ledger.stored.filter fun entry => entry.owner = owner).head?

/-- A take returns the oldest message of its owner and gives its buffer back, or finds that
there is none. -/
def Ledger.TakesOldest (ledger : Ledger) (pool : Pool) (deserialize : List UInt8 → Bool)
    (handle slot : Nat) : Prop :=
  ∃ result s', takeFrom pool deserialize handle ledger.rmw = .ok (result, s') ∧
    match ledger.oldest ⟨pool, slot⟩ with
    | none => result.payload = none ∧
        s'.allocated .staticBuffer = ledger.rmw.allocated .staticBuffer
    | some entry => result.payload = some entry.payload ∧
        s'.allocated .staticBuffer = (ledger.rmw.allocated .staticBuffer).erase entry.buffer

/-- The entries of an owner are those of the buffers pending for it. -/
theorem entries_of_owner (owner : EntityPtr) :
    s.entries.filter (fun entry => entry.owner = owner) =
      (s.pending owner).map fun item => ⟨owner, item, (s.customStaticBuffers item).payload⟩ := by
  unfold Rmw.entries Rmw.pending
  induction s.allocated .staticBuffer with
  | nil => rfl
  | cons item rest ih =>
      cases isOwner : (s.customStaticBuffers item).owner with
      | none => simpa [Rmw.entry, isOwner] using ih
      | some other =>
          by_cases same : other = owner
          · simpa [Rmw.entry, isOwner, same] using ih
          · simpa [Rmw.entry, isOwner, same] using ih

/-- What holds along a run. -/
structure Ledger.Faithful (cfg : Config) (ledger : Ledger) : Prop where
  healthy : ledger.rmw.Healthy cfg everyone
  sound : ledger.rmw.registry.Sound
  order : ledger.stored = ledger.rmw.entries.reverse

/-- A callback takes at most one buffer, and puts it in front of the others. -/
theorem Received.entries {session : Nat} {delivery : Delivery}
    (received : Received cfg session delivery s s') (healthy : s.Healthy cfg admits) :
    ((s'.allocated .staticBuffer).filter (· ∉ s.allocated .staticBuffer)).length ≤ 1 ∧
      s'.entries = ((s'.allocated .staticBuffer).filter
        (· ∉ s.allocated .staticBuffer)).filterMap s'.entry ++ s.entries := by
  have kept : s'.allocated .staticBuffer = s.allocated .staticBuffer →
      (∀ item ∈ s.allocated .staticBuffer,
        s'.customStaticBuffers item = s.customStaticBuffers item) →
      ((s'.allocated .staticBuffer).filter (· ∉ s.allocated .staticBuffer)).length ≤ 1 ∧
        s'.entries = ((s'.allocated .staticBuffer).filter
          (· ∉ s.allocated .staticBuffer)).filterMap s'.entry ++ s.entries := by
    intro allocated buffers
    have none : (s.allocated .staticBuffer).filter (· ∉ s.allocated .staticBuffer) = [] := by
      simp
    rw [allocated, none, List.filterMap_nil, List.nil_append]
    refine ⟨Nat.zero_le _, ?_⟩
    unfold Rmw.entries
    rw [allocated]
    apply List.filterMap_congr
    intro item inside
    simp only [Rmw.entry, buffers item inside]
  cases received with
  | unaddressed nobody allocated buffers => exact kept allocated fun item _ => by rw [buffers]
  | addressed owner provenance related isAddressee enqueued =>
      cases enqueued with
      | full empty same =>
          subst same
          exact kept rfl fun _ _ => rfl
      | dropped item rest first notCopied allocated buffers =>
          apply kept allocated
          intro other inside
          apply buffers
          intro same
          exact not_pending_of_free healthy first (same ▸ inside)
      | stored item rest first wasCopied allocated buffers =>
          have outside := not_pending_of_free healthy first
          have new : (s'.allocated .staticBuffer).filter (· ∉ s.allocated .staticBuffer) =
              [item] := by
            rw [allocated, List.filter_cons, if_pos (by simpa using outside)]
            simp
          have old : (s.allocated .staticBuffer).filterMap s'.entry = s.entries := by
            apply List.filterMap_congr
            intro other inside
            have different : other ≠ item := fun same => outside (same ▸ inside)
            simp only [Rmw.entry, buffers, Function.update_of_ne different]
          rw [new, ← old]
          refine ⟨Nat.le_refl _, ?_⟩
          unfold Rmw.entries
          rw [allocated, ← List.singleton_append]
          exact List.filterMap_append

/-- The entries of some of the buffers. -/
theorem filterMap_entry_filter (chosen : Nat → Bool) :
    ((s.allocated .staticBuffer).filter chosen).filterMap s.entry =
      s.entries.filter fun entry => chosen entry.buffer := by
  unfold Rmw.entries
  induction s.allocated .staticBuffer with
  | nil => rfl
  | cons item rest ih =>
      cases isOwner : (s.customStaticBuffers item).owner with
      | none =>
          by_cases isChosen : chosen item = true
          · simpa [Rmw.entry, isOwner, isChosen] using ih
          · simpa [Rmw.entry, isOwner, isChosen] using ih
      | some owner =>
          by_cases isChosen : chosen item = true
          · simpa [Rmw.entry, isOwner, isChosen] using ih
          · simpa [Rmw.entry, isOwner, isChosen] using ih

/-- A take strikes out the entry whose buffer it gives back. -/
theorem Taken.entries {result : TakeResult} (taken : Taken deserialize owner s result s')
    (healthy : s.Healthy cfg admits) :
    s'.entries = s.entries.filter fun entry => entry.buffer ∈ s'.allocated .staticBuffer := by
  have nodup : (s.allocated .staticBuffer).Nodup :=
    (List.nodup_append.mp (healthy.wf .staticBuffer).nodup).2.1
  have buffers : s'.customStaticBuffers = s.customStaticBuffers := by
    cases taken with
    | nothing empty same => rw [same]
    | message item rest first allocated buffers => exact buffers
  have remaining : s'.allocated .staticBuffer = (s.allocated .staticBuffer).filter
      fun item => item ∈ s'.allocated .staticBuffer := by
    cases taken with
    | nothing empty same =>
        rw [same]
        exact (List.filter_eq_self.mpr fun item inside => decide_eq_true inside).symm
    | message item rest first allocated buffers =>
        rw [allocated]
        conv_lhs => rw [nodup.erase_eq_filter]
        apply List.filter_congr
        intro other inside
        by_cases same : other = item <;> simp [nodup.mem_erase_iff, inside, same]
  have sameEntry : s'.entry = s.entry := by
    funext item
    simp only [Rmw.entry, buffers]
  have chosen := filterMap_entry_filter (s := s) fun item => item ∈ s'.allocated .staticBuffer
  rw [← remaining] at chosen
  rw [← chosen, ← sameEntry]
  rfl

/-- One step keeps the ledger. -/
theorem Ledger.Faithful.step {ledger : Ledger} {op : LedgerOp} (faithful : ledger.Faithful cfg)
    (enabled : op.Enabled cfg ledger) :
    Yields (Ledger.exec cfg op ledger) fun next => next.Faithful cfg := by
  obtain ⟨healthy, sound, order⟩ := faithful
  cases op with
  | receive session delivery =>
      apply (deliver_spec healthy ⟨enabled, fun _ _ _ => trivial⟩).bind
      intro s' spec
      obtain ⟨healthy', undisturbed, received⟩ := spec
      refine yields_pure.mpr ⟨healthy', undisturbed.registry ▸ sound, ?_⟩
      obtain ⟨single, entries⟩ := received.entries healthy
      -- at most one entry is new, so that its place among the new ones does not matter
      generalize isNew : ((s'.allocated .staticBuffer).filter
        (· ∉ ledger.rmw.allocated .staticBuffer)).filterMap s'.entry = new at entries
      have short : new.length ≤ 1 := by
        rw [← isNew]
        exact Nat.le_trans (List.length_filterMap_le _ _) single
      have alone : new.reverse = new := by
        rcases new with _ | ⟨entry, _ | ⟨other, rest⟩⟩
        · rfl
        · rfl
        · simp at short
      rw [entries, List.reverse_append, alone, ← order]
  | take pool deserialize handle =>
      obtain ⟨inbox, slot, bound⟩ := enabled
      have spec : Yields (takeFrom pool deserialize handle
          ({ rmw := ledger.rmw } : World).rmw) _ := takeFrom_spec healthy sound inbox bound
      apply spec.bind
      intro result post
      obtain ⟨healthy', undisturbed, taken⟩ := post
      refine yields_pure.mpr ⟨healthy', undisturbed.registry ▸ sound, ?_⟩
      rw [taken.entries healthy, ← List.filter_reverse, ← order]

/-- The ledger is faithful in every run. -/
theorem reachable_faithful (healthy : start.Healthy cfg everyone) (sound : start.registry.Sound)
    (empty : start.allocated .staticBuffer = []) {ledger : Ledger}
    (reachable : Reachable (ledgerFrom cfg start) (fun _ _ => True) ledger) :
    ledger.Faithful cfg := by
  apply reachable.invariant (Ledger.Faithful cfg)
  · refine ⟨healthy, sound, ?_⟩
    simp [ledgerFrom, Rmw.entries, empty]
  · exact fun _ _ faithful enabled _ => faithful.step enabled

/-- The oldest message of an owner in the ledger is the last one pending for it. -/
theorem Ledger.Faithful.oldest {ledger : Ledger} (faithful : ledger.Faithful cfg)
    (owner : EntityPtr) :
    ledger.oldest owner = (ledger.rmw.pending owner).getLast?.map fun item =>
      ⟨owner, item, (ledger.rmw.customStaticBuffers item).payload⟩ := by
  rw [Ledger.oldest, faithful.order, List.filter_reverse, entries_of_owner, List.head?_reverse,
    List.getLast?_map]

/-- A take that is known to return a result is judged by that result. -/
theorem takesOldest_of_returns {ledger : Ledger} {result : TakeResult}
    (returns : takeFrom pool deserialize handle ledger.rmw = .ok (result, s')) :
    ledger.TakesOldest pool deserialize handle slot ↔
      match ledger.oldest ⟨pool, slot⟩ with
      | none => result.payload = none ∧
          s'.allocated .staticBuffer = ledger.rmw.allocated .staticBuffer
      | some entry => result.payload = some entry.payload ∧
          s'.allocated .staticBuffer =
            (ledger.rmw.allocated .staticBuffer).erase entry.buffer := by
  constructor
  · intro takes
    obtain ⟨other, other', otherReturns, property⟩ := takes
    cases otherReturns.symm.trans returns
    exact property
  · exact fun property => ⟨result, s', returns, property⟩

/-- Of several distinct items the first is not the last. -/
theorem exists_last_ne {item next : Nat} {others : List Nat}
    (nodup : (item :: next :: others).Nodup) :
    ∃ last, (item :: next :: others).getLast? = some last ∧ item ≠ last := by
  refine ⟨_, List.getLast?_eq_some_getLast (List.cons_ne_nil _ _), fun same => ?_⟩
  have later : (item :: next :: others).getLast (List.cons_ne_nil _ _) ∈ next :: others := by
    rw [List.getLast_cons_cons]
    exact List.getLast_mem _
  exact (List.nodup_cons.mp nodup).1 (same ▸ later)

/-- Different items of a list without duplicates leave different rests. -/
theorem erase_ne_erase {items : List Nat} {item other : Nat} (nodup : items.Nodup)
    (inside : item ∈ items) (different : item ≠ other) : items.erase item ≠ items.erase other := by
  intro same
  have kept : item ∈ items.erase other := (List.mem_erase_of_ne different).mpr inside
  rw [← same] at kept
  exact nodup.not_mem_erase kept

/-- In every run, a take returns the oldest message of its owner exactly when it does not
have to choose: when at most one message is pending for the owner. -/
theorem takesOldest_iff (healthy : start.Healthy cfg everyone) (sound : start.registry.Sound)
    (empty : start.allocated .staticBuffer = []) {ledger : Ledger}
    (reachable : Reachable (ledgerFrom cfg start) (fun _ _ => True) ledger)
    (inbox : pool.hasInbox = true) (bound : ledger.rmw.registry.Bound pool handle slot) :
    ledger.TakesOldest pool deserialize handle slot ↔
      (ledger.rmw.pending ⟨pool, slot⟩).length ≤ 1 := by
  have faithful := reachable_faithful healthy sound empty reachable
  have spec : Yields (takeFrom pool deserialize handle ({ rmw := ledger.rmw } : World).rmw) _ :=
    takeFrom_spec faithful.healthy faithful.sound inbox bound
  obtain ⟨⟨result, s'⟩, returns, -, -, taken⟩ := spec
  rw [takesOldest_of_returns returns, faithful.oldest]
  cases taken with
  | nothing nobody same untaken payload =>
      have nobody' : ledger.rmw.pending ⟨pool, slot⟩ = [] := nobody
      have same' : s' = ledger.rmw := same
      rw [nobody', same']
      simpa using payload
  | message item rest first allocated buffers payload =>
      have first' : ledger.rmw.pending ⟨pool, slot⟩ = item :: rest := first
      have allocated' : s'.allocated .staticBuffer =
          (ledger.rmw.allocated .staticBuffer).erase item := allocated
      have nodup : (ledger.rmw.allocated .staticBuffer).Nodup :=
        (List.nodup_append.mp (faithful.healthy.wf .staticBuffer).nodup).2.1
      have inside : item ∈ ledger.rmw.allocated .staticBuffer :=
        (Rmw.mem_pending.mp (first' ▸ List.mem_cons_self)).1
      have pendingNodup : (item :: rest).Nodup := by
        rw [← first']
        exact nodup.filter _
      rw [first', allocated']
      cases rest with
      | nil => simpa using payload
      | cons next others =>
          -- another message is older, and its buffer is another one
          obtain ⟨last, isLast, different⟩ := exists_last_ne pendingNodup
          rw [isLast]
          constructor
          · exact fun property => absurd property.2 (erase_ne_erase nodup inside different)
          · intro single
            simp at single

namespace Small

/-- A later sample of two bytes for the same data reader. -/
def laterSample : Delivery := .topic ⟨0, .datareader⟩ [3, 4] 2

/-- The ledger after both samples have arrived. -/
def twoSamples : Ledger :=
  (ledgerFrom config withSubscription.rmw).next (.receive 0 laterSample)
    ((ledgerFrom config withSubscription.rmw).next (.receive 0 sample)
      { rmw := withSubscription.rmw })

/-- Both samples fit an input buffer. -/
theorem twoSamples_reachable :
    Reachable (ledgerFrom config withSubscription.rmw) (fun _ _ => True) twoSamples := by
  have first : Reachable (ledgerFrom config withSubscription.rmw) (fun _ _ => True)
      ((ledgerFrom config withSubscription.rmw).next (.receive 0 sample)
        { rmw := withSubscription.rmw }) :=
    .next .start (by decide : 2 ≤ 4) trivial rfl
  exact .next first (by decide : 2 ≤ 4) trivial rfl

end Small

/-- The subscription of the small run, with both samples pending. -/
theorem takesOldest_small :
    Small.twoSamples.rmw.pending ⟨.subscription, 0⟩ = [0, 1] ∧
    (Small.twoSamples.TakesOldest .subscription (fun _ => true) 0 0 ↔
      (Small.twoSamples.rmw.pending ⟨.subscription, 0⟩).length ≤ 1) := by
  obtain ⟨healthy, sound⟩ := reachable_sound Small.withSubscription_safe fun _ _ => id
  exact ⟨by decide,
    takesOldest_iff healthy sound (by decide) Small.twoSamples_reachable rfl rfl⟩

/-- The sample that arrived last is returned first. -/
theorem later_sample_overtakes :
    Reachable (ledgerFrom Small.config Small.withSubscription.rmw) (fun _ _ => True)
      Small.twoSamples ∧
    Small.twoSamples.stored.map Entry.payload = [[1, 2], [3, 4]] ∧
    (∃ result s', takeFrom .subscription (fun _ => true) 0 Small.twoSamples.rmw =
      .ok (result, s') ∧ result.payload = some [3, 4]) ∧
    ¬ Small.twoSamples.TakesOldest .subscription (fun _ => true) 0 0 := by
  refine ⟨Small.twoSamples_reachable, by decide, ⟨_, _, rfl, rfl⟩, ?_⟩
  intro takes
  obtain ⟨result, s', returns, property⟩ := takes
  have oldest : Small.twoSamples.oldest ⟨.subscription, 0⟩ =
      some ⟨⟨.subscription, 0⟩, 1, [1, 2]⟩ := by rfl
  rw [oldest] at property
  have isPayload := property.1
  cases returns
  cases isPayload

end RmwMicroxrcedds
