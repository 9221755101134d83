import RmwMicroxrcedds.Machine.Run
import RmwMicroxrcedds.Refinement.Waiting

/-! # What a wait reports

`rmw_wait` keeps an entity in its arrays if and only if a take on it finds a message, and a
guard condition if and only if it was triggered. Over any run of triggers and waits, a trigger
is reported by one of the waits that list its guard condition, and by no other.
-/

namespace RmwMicroxrcedds

open Outcome

variable {cfg : Config} {admits : Admission} {s : Rmw} {w : Waitable}
variable {pool : Pool} {handle slot : Nat} {addresses : List Nat} {call : WaitArguments}

/-- The array of a kind of entities. -/
def WaitReturn.array (result : WaitReturn) (pool : Pool) : Option (List (Option Nat)) :=
  match pool with
  | .subscription => result.subscriptions
  | .service => result.services
  | .client => result.clients
  | _ => none

/-- Some entry of some array was kept. -/
def WaitReturn.Keeps (result : WaitReturn) : Prop :=
  ∃ entries ∈ [result.subscriptions, result.services, result.clients, result.guardConditions],
    ∃ kept, some kept ∈ entries.getD []

/-- What stays in an array has a message pending. -/
theorem pending_of_kept {entities : Option (List (Option Nat))}
    (kept : some slot ∈ (s.keepArray pool entities).getD []) : s.pending ⟨pool, slot⟩ ≠ [] := by
  rw [getD_keepArray] at kept
  obtain ⟨entity, -, isKept⟩ := List.mem_map.mp kept
  obtain ⟨-, ready⟩ := Option.filter_eq_some_iff.mp isKept
  simpa using ready

/-- An array has something ready if an entry is kept. -/
theorem someKept_iff {entries : Option (List (Option Nat))} :
    someKept entries = true ↔ ∃ kept, some kept ∈ entries.getD [] := by
  unfold someKept
  rw [List.any_eq_true]
  constructor
  · intro found
    obtain ⟨entry, inside, isSome⟩ := found
    obtain ⟨kept, rfl⟩ := Option.isSome_iff_exists.mp isSome
    exact ⟨kept, inside⟩
  · intro found
    obtain ⟨kept, inside⟩ := found
    exact ⟨some kept, inside, rfl⟩

/-- A take on an entity that has a message pending finds one. -/
theorem take_finds (healthy : s.Healthy cfg admits) (sound : s.registry.Sound)
    (deserialize : List UInt8 → Bool) (inbox : pool.hasInbox = true)
    (bound : s.registry.Bound pool handle slot) (ready : s.pending ⟨pool, slot⟩ ≠ []) :
    ∃ result s', takeFrom pool deserialize handle s = .ok (result, s') ∧
      result.payload.isSome = true := by
  have spec : Yields (takeFrom pool deserialize handle ({ rmw := s } : World).rmw) _ :=
    takeFrom_spec healthy sound inbox bound
  obtain ⟨⟨result, s'⟩, returned, -, -, taken⟩ := spec
  refine ⟨result, s', returned, ?_⟩
  cases taken with
  | nothing empty => exact absurd empty ready
  | message item rest first allocated buffers payload =>
      have payload' : result.payload = some (s.customStaticBuffers item).payload := payload
      rw [payload']
      rfl

/-- What a wait reports of the messages and the guard conditions it finds, and what it leaves. -/
structure Reports (cfg : Config) (call : WaitArguments) (addresses : List Nat)
    (before after : Waitable) (result : WaitReturn) : Prop where
  received : receiveAll cfg (result.timeouts.flatMap fun run =>
    (call.arrivals run.1 run.2).map (run.1, ·)) before.rmw = .ok after.rmw
  subscriptions : result.subscriptions = call.subscriptions.map fun entities =>
    entities.map fun entity =>
      entity.filter fun slot => after.rmw.pending ⟨.subscription, slot⟩ ≠ []
  services : result.services = call.services.map fun entities =>
    entities.map fun entity => entity.filter fun slot => after.rmw.pending ⟨.service, slot⟩ ≠ []
  clients : result.clients = call.clients.map fun entities =>
    entities.map fun entity => entity.filter fun slot => after.rmw.pending ⟨.client, slot⟩ ≠ []
  guardConditions : result.guardConditions = call.guardConditions.map fun _ =>
    addresses.map fun address => if before.guards.triggered address then some address else none
  untriggered : ∀ address ∈ addresses, after.guards.flag address = some false
  unlisted : ∀ address, address ∉ addresses →
    after.guards.flag address = before.guards.flag address
  found : ∀ pool slot handle deserialize, some slot ∈ (result.array pool).getD [] →
    after.rmw.registry.Bound pool handle slot →
      ∃ taken s', takeFrom pool deserialize handle after.rmw = .ok (taken, s') ∧
        taken.payload.isSome = true
  ok : result.ret = .ok ↔ result.Keeps
  timeout : result.ret = .timeout ↔ ¬ result.Keeps

/-- The code tells whether something was kept. -/
private theorem okOrTimeout_iff (kept : Bool) :
    ((if kept then RmwRet.ok else .timeout) = .ok ↔ kept = true) ∧
      ((if kept then RmwRet.ok else .timeout) = .timeout ↔ ¬ kept = true) := by
  cases kept <;> simp

/-- The return code tells whether something was kept. -/
theorem returns_ok_iff {flags : GuardFlags} {timeouts : List (Nat × BitVec 32)}
    (lists : flags.Lists call.guardConditions addresses) :
    ((call.returns addresses flags s timeouts).ret = .ok ↔
      (call.returns addresses flags s timeouts).Keeps) ∧
    ((call.returns addresses flags s timeouts).ret = .timeout ↔
      ¬ (call.returns addresses flags s timeouts).Keeps) := by
  have guards : (addresses.map flags.keepTriggered).any Option.isSome =
      someKept (call.returns addresses flags s timeouts).guardConditions := by
    have entries := lists.entries
    unfold someKept
    cases given : call.guardConditions with
    | none =>
        rw [given, Option.getD_none] at entries
        simp [WaitArguments.returns, given, List.map_eq_nil_iff.mp entries.symm]
    | some entities => simp [WaitArguments.returns, given]
  have keeps : (call.returns addresses flags s timeouts).Keeps ↔
      (someKept (s.keepArray .service call.services) ||
        someKept (s.keepArray .client call.clients) ||
        someKept (s.keepArray .subscription call.subscriptions) ||
        (addresses.map flags.keepTriggered).any Option.isSome) = true := by
    rw [guards]
    simp only [WaitReturn.Keeps, List.mem_cons, List.not_mem_nil, or_false, exists_eq_or_imp,
      exists_eq_left, Bool.or_eq_true, someKept_iff]
    tauto
  rw [keeps]
  exact okOrTimeout_iff _

/-- `rmw_wait` and the take functions agree. -/
theorem wait_reports (healthy : w.rmw.Healthy cfg admits) (sound : w.rmw.registry.Sound)
    (acceptable : call.Acceptable cfg admits w.rmw.registry)
    (lists : w.guards.Lists call.guardConditions addresses) :
    ∃ result w', w.rmwWait cfg call = .ok (result, w') ∧
      Reports cfg call addresses w w' result ∧ w'.rmw.Healthy cfg admits ∧
      w'.rmw.registry = w.rmw.registry ∧ w'.guards = w.guards.untrigger addresses := by
  obtain ⟨s', received, healthy', undisturbed, waits⟩ :=
    Waitable.rmwWait_spec healthy (acceptable.arriving _ _) lists
  refine ⟨_, _, waits, ?_, healthy', undisturbed.registry, rfl⟩
  have sound' : s'.registry.Sound := by
    rw [undisturbed.registry]
    exact sound
  obtain ⟨ok, timeout⟩ := returns_ok_iff lists
  constructor
  case received =>
    rw [← received]
    simp only [WaitArguments.returns, WaitArguments.arriving, arrivalsOf, List.flatMap_map]
  case untriggered => exact fun address listed => if_pos listed
  case unlisted => exact fun address unlisted => if_neg unlisted
  case found =>
    intro pool slot handle deserialize kept bound
    cases pool with
    | subscription | service | client =>
        exact take_finds healthy' sound' deserialize rfl bound (pending_of_kept kept)
    | session | node | publisher | topic | staticBuffer => cases kept
  case ok => exact ok
  case timeout => exact timeout
  all_goals rfl

/-- A guard condition is triggered, or `rmw_wait` is called. -/
inductive GuardOp where
  | trigger (address : Nat)
  | wait (call : WaitArguments)

/-- What the operation does to the latches. -/
def GuardOp.event : GuardOp → Latch.Event Nat
  | .trigger address => .set address
  | .wait call => .poll (call.guardConditions.getD []).reduceOption

/-- The flag exists, or the guard conditions of the wait are distinct flags that exist. -/
def GuardOp.Enabled (op : GuardOp) (cfg : Config) (admits : Admission) (w : Waitable) : Prop :=
  match op with
  | .trigger address => (w.guards.flag address).isSome = true
  | .wait call => call.Acceptable cfg admits w.rmw.registry ∧
      ∃ addresses, w.guards.Lists call.guardConditions addresses

namespace Waitable

/-- One operation: what the wait returned, if it was one. -/
def exec (cfg : Config) (op : GuardOp) (w : Waitable) : Exec (Option WaitReturn × Waitable) :=
  match op with
  | .trigger address => do
      let (_, w) ← w.rmwTriggerGuardCondition
        (some ⟨some eprosimaMicroxrceddsIdentifier, some address⟩)
      .ok (none, w)
  | .wait call => do
      let (result, w) ← w.rmwWait cfg call
      .ok (some result, w)

/-- The operations, one after the other: what the waits returned. -/
def run (cfg : Config) : List GuardOp → Waitable → Exec (List (Option WaitReturn) × Waitable)
  | [], w => .ok ([], w)
  | op :: ops, w => do
      let (result, w) ← w.exec cfg op
      let (results, w) ← run cfg ops w
      .ok (result :: results, w)

end Waitable

/-- The guard conditions a wait left in its array. -/
def reportedGuards (result : Option WaitReturn) : List (Option Nat) :=
  (result.bind WaitReturn.guardConditions).getD []

/-- The flags that exist are the same. -/
def GuardFlags.SameFlags (flags flags' : GuardFlags) : Prop :=
  ∀ address, (flags'.flag address).isSome = (flags.flag address).isSome

/-- Addresses stay listed while the flags lie where they lay. -/
theorem GuardFlags.Lists.of_same {flags flags' : GuardFlags}
    {guardConditions : Option (List (Option Nat))} (lists : flags.Lists guardConditions addresses)
    (same : flags.SameFlags flags') : flags'.Lists guardConditions addresses where
  entries := lists.entries
  distinct := lists.distinct
  allocated := fun address listed => (same address).trans (lists.allocated address listed)

/-- The listed addresses are those the event polls. -/
theorem GuardFlags.Lists.reduce {flags : GuardFlags} {guardConditions : Option (List (Option Nat))}
    (lists : flags.Lists guardConditions addresses) :
    (guardConditions.getD []).reduceOption = addresses := by
  rw [lists.entries]
  change (addresses.map some).filterMap id = addresses
  rw [List.filterMap_map]
  exact List.filterMap_some

/-- One operation does to the flags, and reports of them, what its event does to latches. -/
theorem exec_latches {op : GuardOp} (healthy : w.rmw.Healthy cfg admits)
    (sound : w.rmw.registry.Sound) (enabled : op.Enabled cfg admits w) :
    ∃ result w', w.exec cfg op = .ok (result, w') ∧ w'.rmw.Healthy cfg admits ∧
      w'.rmw.registry = w.rmw.registry ∧ w.guards.SameFlags w'.guards ∧
      w'.guards.triggered = op.event.next w.guards.triggered ∧
      reportedGuards result = op.event.answer w.guards.triggered := by
  cases op with
  | trigger address =>
      obtain ⟨triggered, isFlag⟩ := Option.isSome_iff_exists.mp enabled
      refine ⟨none, { w with guards := w.guards.write address true }, ?_, healthy, rfl, ?_, ?_,
        rfl⟩
      · simp [Waitable.exec, Waitable.rmwTriggerGuardCondition, GuardFlags.read, isFlag,
          isUxrceRmwIdentifierValid]
      · intro other
        by_cases same : other = address
        · subst same
          simp [GuardFlags.write, isFlag]
        · simp [GuardFlags.write, Function.update_of_ne same]
      · funext other
        by_cases same : other = address
        · subst same
          simp [GuardFlags.triggered, GuardFlags.write, GuardOp.event, Latch.Event.next]
        · simp [GuardFlags.triggered, GuardFlags.write, GuardOp.event, Latch.Event.next,
            Function.update_of_ne same]
  | wait call =>
      obtain ⟨acceptable, addresses, lists⟩ := enabled
      obtain ⟨result, w', waits, reports, healthy', registry, guards⟩ :=
        wait_reports healthy sound acceptable lists
      refine ⟨some result, w', by simp only [Waitable.exec, waits, ok_bind], healthy', registry,
        ?_, ?_, ?_⟩
      · intro other
        rw [guards]
        simp only [GuardFlags.untrigger]
        split
        · rename_i listed
          rw [lists.allocated other listed]
          rfl
        · rfl
      · funext other
        rw [guards, GuardOp.event, lists.reduce]
        simp only [GuardFlags.triggered, GuardFlags.untrigger, Latch.Event.next]
        split <;> rfl
      · rw [GuardOp.event, lists.reduce]
        have entries := lists.entries
        simp only [reportedGuards, Option.bind_some, reports.guardConditions, Latch.Event.answer]
        cases given : call.guardConditions with
        | none =>
            rw [given, Option.getD_none] at entries
            rw [List.map_eq_nil_iff.mp entries.symm]
            rfl
        | some entities => rfl

/-- Any run of triggers and waits returns, and reports of the flags what latches answer. -/
theorem run_latches {ops : List GuardOp} (healthy : w.rmw.Healthy cfg admits)
    (sound : w.rmw.registry.Sound) (enabled : ∀ op ∈ ops, op.Enabled cfg admits w) :
    ∃ results w', w.run cfg ops = .ok (results, w') ∧
      results.map reportedGuards =
        Latch.answers w.guards.triggered (ops.map GuardOp.event) := by
  induction ops generalizing w with
  | nil => exact ⟨[], w, rfl, rfl⟩
  | cons op ops ih =>
      obtain ⟨result, middle, returned, healthy', registry, same, next, answer⟩ :=
        exec_latches healthy sound (enabled op List.mem_cons_self)
      have sound' : middle.rmw.registry.Sound := by
        rw [registry]
        exact sound
      have enabled' : ∀ op ∈ ops, op.Enabled cfg admits middle := by
        intro op inside
        have before := enabled op (List.mem_cons_of_mem _ inside)
        cases op with
        | trigger address => exact (same address).trans before
        | wait call =>
            obtain ⟨acceptable, addresses, lists⟩ := before
            refine ⟨?_, addresses, lists.of_same same⟩
            rw [registry]
            exact acceptable
      obtain ⟨results, last, rest, answers⟩ := ih healthy' sound' enabled'
      refine ⟨result :: results, last, ?_, ?_⟩
      · simp only [Waitable.run, returned, rest, ok_bind]
      · rw [List.map_cons, answers, answer, next, List.map_cons, Latch.answers]

/-- The tokens of the triggers that the waits of a run take: a wait takes those of the guard
conditions it lists that no wait before it has taken. -/
def takenTriggers (flags : GuardFlags) (ops : List GuardOp) :
    List (List (Nat × List (Option Nat))) :=
  Latch.taken (Latch.Ledger.start flags.triggered) 0 (ops.map GuardOp.event)

/-- `rmw_wait` and the take functions agree, whatever the sessions received, and over any run
of triggers and waits a guard condition is kept if and only if its wait takes a trigger of it,
where each trigger is taken by exactly one of the waits that list it. -/
theorem wait_agrees_with_takes (healthy : w.rmw.Healthy cfg admits)
    (sound : w.rmw.registry.Sound) :
    (∀ call addresses, call.Acceptable cfg admits w.rmw.registry →
      w.guards.Lists call.guardConditions addresses →
      ∃ result w', w.rmwWait cfg call = .ok (result, w') ∧
        Reports cfg call addresses w w' result) ∧
    ∀ ops, (∀ op ∈ ops, op.Enabled cfg admits w) →
      ∃ results w', w.run cfg ops = .ok (results, w') ∧
        results.map reportedGuards = (takenTriggers w.guards ops).map (fun takes =>
          takes.map fun take => if take.2 = [] then none else some take.1) ∧
        ∀ before address rest, ops = before ++ .trigger address :: rest →
          ((∃ op ∈ rest, op.event.Polls address) →
            (Latch.tokens (takenTriggers w.guards ops)).count (some before.length) = 1) ∧
          ((∀ op ∈ rest, ¬ op.event.Polls address) →
            (Latch.tokens (takenTriggers w.guards ops)).count (some before.length) = 0) := by
  constructor
  · intro call addresses acceptable lists
    obtain ⟨result, w', waits, reports, -⟩ := wait_reports healthy sound acceptable lists
    exact ⟨result, w', waits, reports⟩
  · intro ops enabled
    obtain ⟨results, w', returned, answers⟩ := run_latches healthy sound enabled
    refine ⟨results, w', returned, ?_, fun before address rest split => ?_⟩
    · rw [answers]
      exact Latch.answers_eq Latch.agrees_start 0 _
    · have distinct : ∀ keys, .poll keys ∈ rest.map GuardOp.event → keys.Nodup := by
        intro keys inside
        obtain ⟨op, isOp, isPoll⟩ := List.mem_map.mp inside
        have enabled' := enabled op (by simp [split, isOp])
        cases op with
        | trigger address => cases isPoll
        | wait call =>
            obtain ⟨-, addresses, lists⟩ := enabled'
            rw [GuardOp.event, lists.reduce] at isPoll
            cases isPoll
            exact lists.distinct
      have once := Latch.reported_once w.guards.triggered (before.map GuardOp.event) address
        distinct
      simpa [takenTriggers, split, GuardOp.event] using once

namespace Small

/-- The layer with a sample pending, and one guard condition. -/
def waitable : Waitable := (Waitable.rmwCreateGuardCondition { rmw := withSample.rmw }).2

/-- A wait for the subscription and the guard condition. -/
def waitCall : WaitArguments where
  subscriptions := some [some 0]
  guardConditions := some [some 0]

theorem waitCall_lists : waitable.guards.Lists waitCall.guardConditions [0] :=
  ⟨rfl, by decide, by decide⟩

theorem waitCall_acceptable {r : Registry} : waitCall.Acceptable config everyone r :=
  fun _ _ _ arrives => by cases arrives

/-- A trigger between two waits. -/
def triggered : List GuardOp := [.wait waitCall, .trigger 0, .wait waitCall]

theorem triggered_enabled : ∀ op ∈ triggered, op.Enabled config everyone waitable := by
  have waits : (GuardOp.wait waitCall).Enabled config everyone waitable :=
    ⟨waitCall_acceptable, [0], waitCall_lists⟩
  intro op inside
  simp only [triggered, List.mem_cons, List.not_mem_nil, or_false] at inside
  rcases inside with rfl | rfl | rfl
  · exact waits
  · exact (by decide : (waitable.guards.flag 0).isSome = true)
  · exact waits

end Small

/-- The wait of the small run, and the run where the guard condition is triggered between two
waits. -/
theorem wait_agrees_with_takes_small :
    (∃ result w', Small.waitable.rmwWait Small.config Small.waitCall = .ok (result, w') ∧
      Reports Small.config Small.waitCall [0] Small.waitable w' result) ∧
    ∃ results w', Small.waitable.run Small.config Small.triggered = .ok (results, w') ∧
      results.map reportedGuards = [[none], [], [some 0]] ∧
      (Latch.tokens (takenTriggers Small.waitable.guards Small.triggered)).count (some 1) = 1 := by
  obtain ⟨healthy, sound⟩ := reachable_sound Small.withSample_safe fun _ _ => id
  have agrees := @wait_agrees_with_takes Small.config everyone Small.waitable healthy sound
  refine ⟨agrees.1 _ _ Small.waitCall_acceptable Small.waitCall_lists, ?_⟩
  obtain ⟨results, w', returned, reported, once⟩ := agrees.2 _ Small.triggered_enabled
  exact ⟨results, w', returned, reported,
    (once [.wait Small.waitCall] 0 [.wait Small.waitCall] rfl).1
      ⟨_, List.mem_cons_self, (by decide : 0 ∈ [some 0].reduceOption)⟩⟩

end RmwMicroxrcedds
