import RmwMicroxrcedds.Library.Latch
import RmwMicroxrcedds.Refinement.Take

/-! # Waiting refines the pending messages and the latches

`rmw_wait` runs the sessions, and then keeps in its arrays the entities that have a message
pending and the guard conditions that were triggered. The flags of the guard conditions are
latches: a trigger sets one, a wait polls those it lists.
-/

namespace RmwMicroxrcedds

open Outcome Mempool

variable {cfg : Config} {admits : Admission} {s : Rmw} {flags : GuardFlags} {w : Waitable}
variable {addresses : List Nat} {guardConditions : Option (List (Option Nat))}

/-- The loop that counts the sessions counts them modulo 256. -/
private theorem countSessions_segment {mem : Mempool} (wf : mem.Wf) :
    ∀ (rest : List Nat) (fuel : Nat) (count : BitVec 8), rest.length ≤ fuel →
      rest <:+ mem.allocated →
      countSessions mem fuel rest.head? count = .ok (count + BitVec.ofNat 8 rest.length) := by
  intro rest
  induction rest with
  | nil =>
      intro fuel count _ _
      cases fuel <;> simp [countSessions]
  | cons session rest ih =>
      intro fuel count enough suffix
      cases fuel with
      | zero => cases enough
      | succ fuel =>
          obtain ⟨before, split⟩ := suffix
          have segment := wf.allocated_segment
          rw [← split] at segment
          have next : (mem.links session).next = rest.head? := segment.next_eq
          have suffix' : rest <:+ mem.allocated := ⟨before ++ [session], by simp [← split]⟩
          rw [List.head?_cons, countSessions, next,
            ih fuel _ (Nat.le_of_succ_le_succ enough) suffix', List.length_cons, BitVec.add_assoc,
            BitVec.ofNat_add, BitVec.add_comm (BitVec.ofNat 8 rest.length)]
          rfl

/-- The loop counts the allocated sessions, in eight bits. -/
theorem countSessions_eq {mem : Mempool} (wf : mem.Wf) :
    countSessions mem mem.size mem.allocateditems 0 =
      .ok (BitVec.ofNat 8 mem.allocated.length) := by
  have total := wf.length_add
  rw [wf.allocateditems_eq, countSessions_segment wf _ _ _ (by omega) (List.suffix_refl _)]
  exact congrArg Except.ok (BitVec.zero_add _)

/-- What `rmw_wait` hands to each session, when it counted so many. -/
def WaitArguments.perSessionTimeout (call : WaitArguments) (availableContexts : BitVec 8) :
    BitVec 32 :=
  (floatQuotient call.unspecified (timeoutOf call.waitTimeout) availableContexts).setWidth 32

/-- The messages that arrive meanwhile are ones the client library can deliver. -/
def WaitArguments.Acceptable (call : WaitArguments) (cfg : Config) (admits : Admission)
    (r : Registry) : Prop :=
  ∀ session timeout, ∀ delivery ∈ call.arrivals session timeout,
    RmwMicroxrcedds.Acceptable cfg admits r session delivery

/-- The messages that arrive while the sessions run for some time, in their order. -/
def WaitArguments.arriving (call : WaitArguments) (timeout : BitVec 32) (sessions : List Nat) :
    List (Nat × Delivery) :=
  arrivalsOf (call.arrivals · timeout) sessions

/-- All that arrives during a wait is acceptable. -/
theorem WaitArguments.Acceptable.arriving {call : WaitArguments} {r : Registry}
    (acceptable : call.Acceptable cfg admits r) (timeout : BitVec 32) (sessions : List Nat) :
    ∀ arrival ∈ call.arriving timeout sessions,
      RmwMicroxrcedds.Acceptable cfg admits r arrival.1 arrival.2 := by
  intro arrival inside
  obtain ⟨session, -, there⟩ := List.mem_flatMap.mp inside
  obtain ⟨delivery, arrives, rfl⟩ := List.mem_map.mp there
  exact acceptable session timeout delivery arrives

/-- The guard conditions of a call are distinct flags that exist. -/
structure GuardFlags.Lists (flags : GuardFlags) (guardConditions : Option (List (Option Nat)))
    (addresses : List Nat) : Prop where
  entries : guardConditions.getD [] = addresses.map some
  distinct : addresses.Nodup
  allocated : ∀ address ∈ addresses, (flags.flag address).isSome = true

/-- A guard condition was triggered. -/
def GuardFlags.triggered (flags : GuardFlags) (address : Nat) : Bool :=
  (flags.flag address).getD false

/-- The flags after those listed were untriggered. -/
def GuardFlags.untrigger (flags : GuardFlags) (addresses : List Nat) : GuardFlags :=
  { flags with
    flag := fun address => if address ∈ addresses then some false else flags.flag address }

/-- An entry of the guard conditions stays if it was triggered. -/
def GuardFlags.keepTriggered (flags : GuardFlags) (address : Nat) : Option Nat :=
  if flags.triggered address then some address else none

theorem GuardFlags.untrigger_nil : flags.untrigger [] = flags := by
  simp [GuardFlags.untrigger]

/-- Flags are reset one after the other. -/
theorem GuardFlags.untrigger_write {address : Nat} {rest : List Nat} :
    (flags.write address false).untrigger rest = flags.untrigger (address :: rest) := by
  simp only [GuardFlags.untrigger, GuardFlags.write, GuardFlags.mk.injEq, and_true]
  funext other
  by_cases same : other = address
  · subst same
    simp
  · simp [same]

/-- What was not triggered is untriggered already. -/
theorem GuardFlags.untrigger_untriggered {address : Nat} {rest : List Nat}
    (untriggered : flags.flag address = some false) :
    flags.untrigger rest = flags.untrigger (address :: rest) := by
  simp only [GuardFlags.untrigger, GuardFlags.mk.injEq, and_true]
  funext other
  by_cases same : other = address
  · subst same
    simp [untriggered]
  · simp [same]

/-- The loop over the guard conditions keeps those that were triggered, and untriggers all. -/
theorem checkGuardConditions_eq :
    ∀ (addresses : List Nat) (flags : GuardFlags), addresses.Nodup →
      (∀ address ∈ addresses, (flags.flag address).isSome = true) →
      checkGuardConditions (addresses.map some) flags =
        .ok (addresses.map flags.keepTriggered,
          (addresses.map flags.keepTriggered).any Option.isSome, flags.untrigger addresses) := by
  intro addresses
  induction addresses with
  | nil =>
      intro flags _ _
      rw [GuardFlags.untrigger_nil]
      rfl
  | cons address rest ih =>
      intro flags distinct allocated
      obtain ⟨notAgain, distinct'⟩ := List.nodup_cons.mp distinct
      obtain ⟨triggered, isFlag⟩ :=
        Option.isSome_iff_exists.mp (allocated address List.mem_cons_self)
      have isRead : flags.read (some address) = .ok (address, triggered) := by
        simp [GuardFlags.read, isFlag]
      simp only [List.map_cons, checkGuardConditions, isRead, ok_bind]
      cases triggered with
      | true =>
          have kept : flags.keepTriggered address = some address := by
            simp [GuardFlags.keepTriggered, GuardFlags.triggered, isFlag]
          have others : ∀ other ∈ rest, (flags.write address false).flag other = flags.flag other :=
            fun other inside => Function.update_of_ne
              (fun same => notAgain (by rw [← same]; exact inside)) _ _
          have allocated' : ∀ other ∈ rest,
              ((flags.write address false).flag other).isSome = true := by
            intro other inside
            rw [others other inside]
            exact allocated other (List.mem_cons_of_mem _ inside)
          have same : rest.map (flags.write address false).keepTriggered =
              rest.map flags.keepTriggered := by
            apply List.map_congr_left
            intro other inside
            unfold GuardFlags.keepTriggered GuardFlags.triggered
            rw [others other inside]
          rw [if_pos rfl, ih _ distinct' allocated', same, GuardFlags.untrigger_write]
          simp [kept]
      | false =>
          have dropped : flags.keepTriggered address = none := by
            simp [GuardFlags.keepTriggered, GuardFlags.triggered, isFlag]
          rw [if_neg (by decide), ih flags distinct' fun other inside =>
            allocated other (List.mem_cons_of_mem _ inside),
            GuardFlags.untrigger_untriggered isFlag]
          simp [dropped]

/-- The guard conditions `rmw_wait` leaves in its array. -/
theorem checkGuards_eq (lists : flags.Lists guardConditions addresses) :
    Waitable.checkGuards guardConditions flags =
      .ok (guardConditions.map fun _ => addresses.map flags.keepTriggered,
        (addresses.map flags.keepTriggered).any Option.isSome, flags.untrigger addresses) := by
  have entries := lists.entries
  cases guardConditions with
  | none =>
      have none : addresses = [] := List.map_eq_nil_iff.mp entries.symm
      rw [none, GuardFlags.untrigger_nil]
      rfl
  | some entities =>
      rw [Option.getD_some] at entries
      rw [Waitable.checkGuards, entries,
        checkGuardConditions_eq addresses flags lists.distinct lists.allocated]
      rfl

/-- The entries an array keeps, if there is one. -/
def Rmw.keepArray (s : Rmw) (pool : Pool) (entities : Option (List (Option Nat))) :
    Option (List (Option Nat)) :=
  entities.map fun entities => entities.map (s.keepReady pool)

/-- In an array the entries of entities that are ready are kept. -/
theorem getD_keepArray {pool : Pool} {entities : Option (List (Option Nat))} :
    (s.keepArray pool entities).getD [] = (entities.getD []).map (s.keepReady pool) := by
  cases entities <;> rfl

/-- An entry was kept. -/
def someKept (entries : Option (List (Option Nat))) : Bool := (entries.getD []).any Option.isSome

/-- `rmw_wait` keeps the entries that are ready, and tells whether there is one. -/
theorem checkArray_eq (healthy : s.Healthy cfg admits) (pool : Pool)
    (entities : Option (List (Option Nat))) :
    checkArray pool s entities =
      .ok (s.keepArray pool entities, someKept (s.keepArray pool entities)) := by
  cases entities with
  | none => rfl
  | some entities =>
      simp only [checkArray, checkReady_eq healthy, ok_bind]
      rfl

/-- What `rmw_wait` returns once the sessions have left a state. -/
def WaitArguments.returns (call : WaitArguments) (addresses : List Nat) (flags : GuardFlags)
    (s : Rmw) (timeouts : List (Nat × BitVec 32)) : WaitReturn where
  subscriptions := s.keepArray .subscription call.subscriptions
  guardConditions := call.guardConditions.map fun _ => addresses.map flags.keepTriggered
  services := s.keepArray .service call.services
  clients := s.keepArray .client call.clients
  ret := if someKept (s.keepArray .service call.services) ||
      someKept (s.keepArray .client call.clients) ||
      someKept (s.keepArray .subscription call.subscriptions) ||
      (addresses.map flags.keepTriggered).any Option.isSome then .ok else .timeout
  timeouts := timeouts

/-- `rmw_wait` runs every session once, for the same time, and receives what arrives; then it
answers for the entities and the guard conditions it was given. -/
theorem Waitable.rmwWait_spec (healthy : w.rmw.Healthy cfg admits) {call : WaitArguments}
    (arrive : ∀ arrival ∈ call.arriving (call.perSessionTimeout
      (BitVec.ofNat 8 (w.rmw.allocated .session).length)) (w.rmw.allocated .session),
      RmwMicroxrcedds.Acceptable cfg admits w.rmw.registry arrival.1 arrival.2)
    (lists : w.guards.Lists call.guardConditions addresses) :
    ∃ s', receiveAll cfg (call.arriving (call.perSessionTimeout
          (BitVec.ofNat 8 (w.rmw.allocated .session).length)) (w.rmw.allocated .session)) w.rmw =
        .ok s' ∧
      s'.Healthy cfg admits ∧ Undisturbed w.rmw s' ∧
      w.rmwWait cfg call = .ok (call.returns addresses w.guards s'
        ((w.rmw.allocated .session).map (·, call.perSessionTimeout
          (BitVec.ofNat 8 (w.rmw.allocated .session).length))),
        ⟨s', w.guards.untrigger addresses⟩) := by
  have counted := countSessions_eq (healthy.wf .session)
  obtain ⟨s', received, healthy', undisturbed⟩ := receiveAll_spec healthy arrive
  refine ⟨s', received, healthy', undisturbed, ?_⟩
  have ran := runSessionsUntilData_sessions healthy arrive
  unfold WaitArguments.arriving at received
  rw [received, ok_bind] at ran
  simp only [Waitable.rmwWait, counted, ok_bind]
  have isTimeout : (floatQuotient call.unspecified (timeoutOf call.waitTimeout)
      (BitVec.ofNat 8 (w.rmw.memory .session).allocated.length)).setWidth 32 =
      call.perSessionTimeout (BitVec.ofNat 8 (w.rmw.allocated .session).length) := rfl
  rw [isTimeout, ran]
  simp only [ok_bind, checkArray_eq healthy', checkGuards_eq lists]
  rfl

/-- The flags of a wait lie at the addresses of its guard conditions. -/
theorem WaitCall.lists (call : WaitCall) : call.guards.Lists call.arguments.guardConditions
    (List.range call.guardConditions.length) where
  entries := rfl
  distinct := List.nodup_range
  allocated := by
    intro address inside
    simpa [WaitCall.guards] using inside

/-- `rmw_wait` receives the messages that arrive meanwhile, and changes nothing else. -/
theorem rmwWait_spec (healthy : s.Healthy cfg admits) {call : WaitCall}
    (acceptable : ∀ arrival ∈ arrivalsOf call.arrivals (s.allocated .session),
      RmwMicroxrcedds.Acceptable cfg admits s.registry arrival.1 arrival.2) :
    Yields (rmwWait cfg call s) fun result =>
      result.2.Healthy cfg admits ∧ Undisturbed s result.2 ∧
        receiveAll cfg (arrivalsOf call.arrivals (s.allocated .session)) s = .ok result.2 := by
  obtain ⟨s', received, healthy', undisturbed, waits⟩ :=
    @Waitable.rmwWait_spec cfg admits ⟨s, call.guards⟩ _ healthy call.arguments acceptable
      call.lists
  rw [rmwWait, waits]
  exact yields_ok.mpr ⟨healthy', undisturbed, received⟩

end RmwMicroxrcedds
