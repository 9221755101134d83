import RmwMicroxrcedds.Library.ItemPool
import RmwMicroxrcedds.Memory.DynamicIntegrity
import RmwMicroxrcedds.Memory.LockedMempool

/-! # Holds of the mutex of a pool

Callers in any number of threads ask a pool whether it has memory, get items from it, which
may grow it, and put items back that they hold. Each call returns with the mutex held as often
as when it was called, but for a `put_memory` that frees its item: it returns in front of
`UXR_UNLOCK`. The mutex then is held by its thread for good, and every other thread waits.
-/

namespace RmwMicroxrcedds

open Locking ItemPool

/-- A call, for `get_memory` with the blocks that the allocator would return. -/
inductive PoolCall where
  | hasMemory
  | getMemory (itemBlock entityBlock : Nat)
  | putMemory (item : ItemAddress)

/-- What a call returns. -/
inductive PoolAnswer where
  | memory (rv : Bool)
  | item (rv : Option ItemAddress)
  | done

/-- Not a `put_memory` of an item that the pool was grown by. -/
def PoolCall.KeepsItem : PoolCall → Prop
  | .hasMemory | .getMemory _ _ => True
  | .putMemory item => item.IsStatic

instance (call : PoolCall) : Decidable call.KeepsItem :=
  match call with
  | .hasMemory | .getMemory _ _ => inferInstanceAs (Decidable True)
  | .putMemory item => inferInstanceAs (Decidable item.IsStatic)

namespace LockedMempool

variable {Thread : Type} [DecidableEq Thread]

/-- A call of a thread. -/
def call : Thread × PoolCall → Lent (LockedMempool Thread) ItemAddress →
    Except Stop (PoolAnswer × Lent (LockedMempool Thread) ItemAddress)
  | (thread, .hasMemory), lent => do
      let (rv, pool) ← hasMemory thread lent.pool
      .ok (.memory rv, ⟨pool, lent.held⟩)
  | (thread, .getMemory itemBlock entityBlock), lent => do
      let (item, pool) ← getMemory thread itemBlock entityBlock lent.pool
      .ok (.item item, ⟨pool, item.toList ++ lent.held⟩)
  | (thread, .putMemory item), lent => do
      let (_, pool) ← putMemory thread item lent.pool
      .ok (.done, ⟨pool, lent.held.erase item⟩)

/-- The allocator returns blocks that are not in use, and callers put what they hold. -/
def Allowed (lent : Lent (LockedMempool Thread) ItemAddress) : Thread × PoolCall → Prop
  | (_, .hasMemory) => True
  | (_, .getMemory itemBlock entityBlock) => itemBlock ≠ entityBlock ∧
      itemBlock ∉ lent.pool.content.blocks ∧ entityBlock ∉ lent.pool.content.blocks
  | (_, .putMemory item) => item ∈ lent.held

/-- A pool that threads call. -/
def component (Thread : Type) [DecidableEq Thread] :
    Component (Lent (LockedMempool Thread) ItemAddress) (Thread × PoolCall) PoolAnswer Stop where
  call := call
  allowed := Allowed

instance (lent : Lent (LockedMempool Thread) ItemAddress) (call : Thread × PoolCall) :
    Decidable ((component Thread).allowed lent call) :=
  match call with
  | (_, .hasMemory) => inferInstanceAs (Decidable True)
  | (_, .getMemory _ _) => inferInstanceAs (Decidable (_ ∧ _ ∧ _))
  | (_, .putMemory item) => inferInstanceAs (Decidable (item ∈ lent.held))

/-- A pool after its initialisation, with or without leave to grow (`start_of_initMemory`). -/
def start (size : Nat) (growth : Bool) : Lent (LockedMempool Thread) ItemAddress :=
  ⟨⟨.free, { DynamicMempool.initMemory {} size with isDynamicAllowed := growth }⟩, []⟩

/-- The call returns with the mutex held by its thread as often as when it was called. -/
def KeepsDepth (lent : Lent (LockedMempool Thread) ItemAddress) (call : Thread × PoolCall)
    (next : Lent (LockedMempool Thread) ItemAddress) : Prop :=
  next.pool.mutex.depth call.1 = lent.pool.mutex.depth call.1

/-- The callers hold what is allocated. -/
def Tended (lent : Lent (LockedMempool Thread) ItemAddress) : Prop :=
  ∃ free, lent.pool.content.Tended free lent.held

variable {lent last : Lent (LockedMempool Thread) ItemAddress} {thread : Thread}
  {what : PoolCall} {mutex : RecursiveMutex Thread} {mem : DynamicMempool}
  {held : List ItemAddress}

/-- While another thread holds the mutex a call waits. -/
theorem call_waits (isHeld : ¬ mutex.OpenTo thread) :
    call (thread, what) ⟨⟨mutex, mem⟩, held⟩ = .error .waits := by
  cases what with
  | hasMemory =>
      have waits : hasMemory thread ⟨mutex, mem⟩ = .error .waits := waits_of_not_open isHeld
      simp only [call, waits]
      rfl
  | getMemory itemBlock entityBlock =>
      have waits : getMemory thread itemBlock entityBlock ⟨mutex, mem⟩ = .error .waits :=
        waits_of_not_open isHeld
      simp only [call, waits]
      rfl
  | putMemory item =>
      have waits : putMemory thread item ⟨mutex, mem⟩ = .error .waits := waits_of_not_open isHeld
      simp only [call, waits]
      rfl

/-- While no other thread holds the mutex a call returns, and leaves a hold behind when it
frees an item. -/
theorem call_returns (tended : Tended ⟨⟨mutex, mem⟩, held⟩)
    (allowed : Allowed ⟨⟨mutex, mem⟩, held⟩ (thread, what)) (isOpen : mutex.OpenTo thread) :
    ∃ answer next, call (thread, what) ⟨⟨mutex, mem⟩, held⟩ = .ok (answer, next) ∧
      Tended next ∧ next.pool.mutex = mutex.hold thread (if what.KeepsItem then 0 else 1) := by
  obtain ⟨free, tended⟩ := tended
  cases what with
  | hasMemory =>
      have returns : hasMemory thread ⟨mutex, mem⟩ =
        .ok (mem.hasMemory, ⟨mutex.hold thread 0, mem⟩) := hasMemory_returns.run isOpen
      refine ⟨.memory mem.hasMemory, ⟨⟨mutex.hold thread 0, mem⟩, held⟩, ?_, ⟨free, tended⟩, rfl⟩
      simp only [call, returns]
      rfl
  | getMemory itemBlock entityBlock =>
      obtain ⟨different, freshItem, freshEntity⟩ := allowed
      have returns : getMemory thread itemBlock entityBlock ⟨mutex, mem⟩ =
        .ok ((mem.getMemory itemBlock entityBlock).1,
          ⟨mutex.hold thread 0, (mem.getMemory itemBlock entityBlock).2⟩) :=
        getMemory_returns.run isOpen
      refine ⟨.item (mem.getMemory itemBlock entityBlock).1, ⟨⟨mutex.hold thread 0, _⟩, _⟩, ?_,
        tended.get different freshItem freshEntity, rfl⟩
      simp only [call, returns]
      rfl
  | putMemory item =>
      have left : (if mem.isDynamicMemory item then 0 + 1 else 0) =
          if (PoolCall.putMemory item).KeepsItem then 0 else 1 := by
        have flag := (tended.supplies item allowed).isDynamicMemory_eq
        by_cases isStatic : item.IsStatic
        · have kept : mem.isDynamicMemory item = false := by
            rw [← Bool.not_eq_true, flag, not_not]
            exact isStatic
          simp [kept, PoolCall.KeepsItem, isStatic]
        · have freed : mem.isDynamicMemory item = true := flag.mpr isStatic
          simp [freed, PoolCall.KeepsItem, isStatic]
      have returns : putMemory thread item ⟨mutex, mem⟩ =
        .ok ((), ⟨mutex.hold thread (if mem.isDynamicMemory item then 0 + 1 else 0),
          mem.putMemory item⟩) := putMemory_returns.run isOpen
      rw [left] at returns
      refine ⟨.done, ⟨⟨mutex.hold thread (if (PoolCall.putMemory item).KeepsItem then 0 else 1),
        mem.putMemory item⟩, held.erase item⟩, ?_, tended.put allowed, rfl⟩
      simp only [call, returns]
      rfl

/-- A step of a run. -/
theorem step_spec {answer : PoolAnswer} (tended : Tended lent)
    (allowed : (component Thread).allowed lent (thread, what))
    (returns : (component Thread).call (thread, what) lent = .ok (answer, last)) :
    lent.pool.mutex.OpenTo thread ∧ Tended last ∧
      last.pool.mutex = lent.pool.mutex.hold thread (if what.KeepsItem then 0 else 1) := by
  have isOpen : lent.pool.mutex.OpenTo thread := by
    by_contra isHeld
    have waits : (component Thread).call (thread, what) lent = .error .waits := call_waits isHeld
    rw [waits] at returns
    cases returns
  obtain ⟨answer', next, returns', tended', mutex⟩ := call_returns tended allowed isOpen
  cases returns'.symm.trans returns
  exact ⟨isOpen, tended', mutex⟩

theorem step_tended {call : Thread × PoolCall} {answer : PoolAnswer} (tended : Tended lent)
    (allowed : (component Thread).allowed lent call)
    (returns : (component Thread).call call lent = .ok (answer, last)) : Tended last :=
  (step_spec tended allowed returns).2.1

/-- A call keeps the depth exactly when it frees no item. -/
theorem keepsDepth_iff {call : Thread × PoolCall} {answer : PoolAnswer} (tended : Tended lent)
    (allowed : (component Thread).allowed lent call)
    (returns : (component Thread).call call lent = .ok (answer, last)) :
    KeepsDepth lent call last ↔ call.2.KeepsItem := by
  obtain ⟨isOpen, -, mutex⟩ := step_spec tended allowed returns
  rw [KeepsDepth, mutex, RecursiveMutex.depth_hold isOpen]
  by_cases keeps : call.2.KeepsItem
  · simp [keeps]
  · simp [keeps]

omit [DecidableEq Thread] in
theorem tended_start (size : Nat) (growth : Bool) :
    Tended (start size growth : Lent (LockedMempool Thread) ItemAddress) :=
  DynamicMempool.tended_initMemory size growth

variable {calls : List ((Thread × PoolCall) × PoolAnswer)}

/-- A `put_memory` of the thread that frees its item. -/
def Leaves (thread : Thread) (call : Thread × PoolCall) : Prop :=
  call.1 = thread ∧ ¬ call.2.KeepsItem

instance (thread : Thread) (call : Thread × PoolCall) : Decidable (Leaves thread call) :=
  inferInstanceAs (Decidable (_ ∧ _))

/-- After a run a thread holds the mutex once more for each item it has freed. -/
theorem depth_of_trace (run : (component Thread).Trace lent calls last) (tended : Tended lent)
    (thread : Thread) :
    last.pool.mutex.depth thread =
      lent.pool.mutex.depth thread + calls.countP fun entry => Leaves thread entry.1 := by
  induction run with
  | nil => simp
  | @cons lent next last call answer rest allowed returns after ih =>
      obtain ⟨isOpen, tended', mutex⟩ := step_spec tended allowed returns
      rw [ih tended', mutex, List.countP_cons]
      by_cases same : call.1 = thread
      · subst same
        rw [RecursiveMutex.depth_hold isOpen]
        by_cases keeps : call.2.KeepsItem
        · simp [keeps, Leaves]
        · simp [keeps, Leaves]
          omega
      · rw [RecursiveMutex.depth_hold_of_ne (Ne.symm same) isOpen]
        simp [Leaves, same]

/-- Once a thread has freed an item, every call of another thread waits for good. -/
theorem waits_of_leaves (run : (component Thread).Trace lent calls last) (tended : Tended lent)
    {entry : (Thread × PoolCall) × PoolAnswer} (inside : entry ∈ calls)
    (leaves : Leaves thread entry.1) {other : Thread} (different : other ≠ thread)
    (what : PoolCall) : (component Thread).call (other, what) last = .error .waits := by
  apply call_waits
  apply RecursiveMutex.not_open_of_depth different
  rw [depth_of_trace run tended]
  have counted : 0 < calls.countP fun entry => Leaves thread entry.1 :=
    List.countP_pos_iff.mpr ⟨entry, inside, decide_eq_true leaves⟩
  omega

/-- The pools that the runs start from are those that any thread has initialised, with
`is_dynamic_allowed` as it was left there or as `rmw_init` assigns it. -/
theorem start_of_initMemory {size : Nat} (positive : 0 < size) (growth : Bool) (thread : Thread)
    (mutex : RecursiveMutex Thread) :
    (initMemory thread size ⟨mutex, {}⟩).map (fun initialised =>
        { initialised.2 with
          content := { initialised.2.content with isDynamicAllowed := growth } }) =
      .ok (start size growth).pool := by
  rw [initMemory_zeroed positive]
  rfl

/-- The calls of a run keep the depth exactly when none of them frees an item. -/
theorem each_keepsDepth_iff (run : (component Thread).Trace lent calls last)
    (tended : Tended lent) :
    (component Thread).Each KeepsDepth lent calls ↔ ∀ entry ∈ calls, entry.1.2.KeepsItem :=
  run.each_iff step_tended keepsDepth_iff tended

end LockedMempool

open LockedMempool

/-- **Holds of the mutex.** In a run of calls by any threads, on a pool of any size that may be
grown or not, every call returns with the mutex held as often as when it was called, and after
the run the mutex is free and every call of every thread goes ahead, exactly when no call of
the run puts an item that the pool was grown by. -/
theorem locks_balanced_iff {Thread : Type} [DecidableEq Thread] (size : Nat) (growth : Bool)
    {calls : List ((Thread × PoolCall) × PoolAnswer)}
    {last : Lent (LockedMempool Thread) ItemAddress}
    (run : (component Thread).Trace (start size growth) calls last) :
    ((component Thread).Each KeepsDepth (start size growth) calls ∧ last.pool.mutex = .free ∧
      ∀ call, Allowed last call →
        ∃ answer next, (component Thread).call call last = .ok (answer, next)) ↔
    ∀ entry ∈ calls, entry.1.2.KeepsItem := by
  have balanced := each_keepsDepth_iff run (tended_start size growth)
  refine ⟨fun holds => balanced.mp holds.1, fun keeps => ⟨balanced.mpr keeps, ?_⟩⟩
  have atEnd : Tended last ∧ last.pool.mutex = .free := by
    refine run.invariant (fun lent => Tended lent ∧ lent.pool.mutex = .free)
      (fun call => call.2.KeepsItem) keeps ?_ ⟨tended_start size growth, rfl⟩
    intro lent call answer next here allowed keeps returns
    obtain ⟨isOpen, tended, mutex⟩ := step_spec here.1 allowed returns
    rw [if_pos keeps, RecursiveMutex.hold_zero] at mutex
    exact ⟨tended, mutex.trans here.2⟩
  obtain ⟨tended, free⟩ := atEnd
  refine ⟨free, fun call allowed => ?_⟩
  have isOpen : last.pool.mutex.OpenTo call.1 := by
    rw [free]
    trivial
  obtain ⟨answer, next, returns, -⟩ := call_returns tended allowed isOpen
  exact ⟨answer, next, returns⟩

namespace Small

/-- A pool of one that may be grown, after two threads have called it. -/
def called (calls : List (Nat × PoolCall)) : Lent (LockedMempool Nat) ItemAddress :=
  calls.foldl (component Nat).next (start 1 true)

/-- The pool is grown for the second thread, and the first puts the item of the array back. -/
def shared : List (Nat × PoolCall) :=
  [(0, .getMemory 0 1), (1, .hasMemory), (1, .getMemory 0 1), (0, .putMemory (.member (.static 0))),
    (1, .hasMemory)]

def sharedAnswers : List PoolAnswer :=
  [.item (some (.member (.static 0))), .memory false, .item (some (.dynamic 0)), .done,
    .memory true]

theorem shared_trace :
    (component Nat).Trace (start 1 true) (shared.zip sharedAnswers) (called shared) :=
  .cons (by decide +kernel) rfl <| .cons trivial rfl <| .cons (by decide +kernel) rfl <|
    .cons (by decide +kernel) rfl <| .cons trivial rfl <| .nil _

/-- The first thread puts the item back that the pool was grown by. -/
def freed : List (Nat × PoolCall) :=
  [(0, .getMemory 0 1), (0, .getMemory 0 1), (0, .putMemory (.dynamic 0))]

def freedAnswers : List PoolAnswer :=
  [.item (some (.member (.static 0))), .item (some (.dynamic 0)), .done]

theorem freed_trace :
    (component Nat).Trace (start 1 true) (freed.zip freedAnswers) (called freed) :=
  .cons (by decide +kernel) rfl <| .cons (by decide +kernel) rfl <|
    .cons (by decide +kernel) rfl <| .nil _

end Small

theorem locks_balanced_iff_small :
    ((component Nat).Each KeepsDepth (start 1 true) (Small.shared.zip Small.sharedAnswers) ∧
      (Small.called Small.shared).pool.mutex = .free ∧
      ∀ call, Allowed (Small.called Small.shared) call → ∃ answer next,
        (component Nat).call call (Small.called Small.shared) = .ok (answer, next)) ↔
    ∀ entry ∈ Small.shared.zip Small.sharedAnswers, entry.1.2.KeepsItem :=
  locks_balanced_iff 1 true Small.shared_trace

/-- The `put_memory` that frees its item leaves the mutex held by its thread, and the other
thread waits in `has_memory`. -/
theorem freed_item_keeps_lock :
    (component Nat).Trace (start 1 true) (Small.freed.zip Small.freedAnswers)
        (Small.called Small.freed) ∧
      ¬ (component Nat).Each KeepsDepth (start 1 true) (Small.freed.zip Small.freedAnswers) ∧
      (Small.called Small.freed).pool.mutex = .held 0 0 ∧
      Allowed (Small.called Small.freed) (1, .hasMemory) ∧
      (component Nat).call (1, .hasMemory) (Small.called Small.freed) = .error .waits := by
  refine ⟨Small.freed_trace, ?_, rfl, trivial, rfl⟩
  rw [each_keepsDepth_iff Small.freed_trace (tended_start 1 true)]
  intro keeps
  exact keeps ((0, .putMemory (.dynamic 0)), .done) (by simp [Small.freed, Small.freedAnswers])

end RmwMicroxrcedds
