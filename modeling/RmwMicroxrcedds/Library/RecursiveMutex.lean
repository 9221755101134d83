import Mathlib.Logic.Basic

/-! # Recursive mutexes

A recursive mutex is free, or held by one thread one or more times: locking it counts up,
unlocking it counts down. A `Locking` computation works on a content under a mutex; it stops
where it would have to wait, where it unlocks what it does not hold, and where a recursion is
not followed further. `Returns` says what a computation does to the content and how many holds
of its thread it leaves behind; its rules follow the shape of the computation.
-/

/-- A recursive mutex, free or held by a thread `more` times more than once. -/
inductive RecursiveMutex (Thread : Type) where
  | free
  | held (owner : Thread) (more : Nat)
deriving DecidableEq

/-- Why a thread does not go on. -/
inductive Stop where
  | waits
  | notOwner
  | cutOff
deriving DecidableEq

namespace RecursiveMutex

variable {Thread : Type} {thread : Thread} {mutex : RecursiveMutex Thread} {count more : Nat}

/-- No other thread holds the mutex. -/
def OpenTo (thread : Thread) : RecursiveMutex Thread → Prop
  | free => True
  | held owner _ => owner = thread

/-- The mutex with `count` further holds of the thread. -/
def hold (thread : Thread) : Nat → RecursiveMutex Thread → RecursiveMutex Thread
  | 0, mutex => mutex
  | count + 1, free => held thread count
  | count + 1, held owner more => held owner (more + count + 1)

@[simp] theorem hold_zero : mutex.hold thread 0 = mutex := by
  cases mutex <;> rfl

/-- Holding a mutex more often adds up. -/
theorem hold_hold :
    (mutex.hold thread count).hold thread more = mutex.hold thread (count + more) := by
  cases count with
  | zero => rw [hold_zero, Nat.zero_add]
  | succ count =>
      cases more with
      | zero => rw [hold_zero, Nat.add_zero]
      | succ more =>
          have sum : count + 1 + (more + 1) = count + more + 1 + 1 := by omega
          rw [sum]
          cases mutex with
          | free => rfl
          | held owner already =>
              have sum' : already + count + 1 + more + 1 = already + (count + more + 1) + 1 := by
                omega
              simp only [hold, sum']

/-- A mutex that a thread holds is open to that thread. -/
theorem OpenTo.hold (isOpen : mutex.OpenTo thread) (count : Nat) :
    (mutex.hold thread count).OpenTo thread := by
  cases count with
  | zero => rwa [hold_zero]
  | succ count =>
      cases mutex with
      | free => rfl
      | held owner more => exact isOpen

variable [DecidableEq Thread]

/-- How often the thread holds the mutex. -/
def depth (thread : Thread) : RecursiveMutex Thread → Nat
  | free => 0
  | held owner more => if owner = thread then more + 1 else 0

/-- The mutex after the thread has locked it. -/
def lock (thread : Thread) : RecursiveMutex Thread → Except Stop (RecursiveMutex Thread)
  | free => .ok (held thread 0)
  | held owner more => if owner = thread then .ok (held owner (more + 1)) else .error .waits

/-- The mutex after the thread has unlocked it. -/
def unlock (thread : Thread) : RecursiveMutex Thread → Except Stop (RecursiveMutex Thread)
  | free => .error .notOwner
  | held owner 0 => if owner = thread then .ok free else .error .notOwner
  | held owner (more + 1) =>
      if owner = thread then .ok (held owner more) else .error .notOwner

/-- Each hold adds to the depth. -/
theorem depth_hold (isOpen : mutex.OpenTo thread) :
    (mutex.hold thread count).depth thread = mutex.depth thread + count := by
  cases count with
  | zero => rw [hold_zero, Nat.add_zero]
  | succ count =>
      cases mutex with
      | free => simp [hold, depth]
      | held owner more =>
          have same : owner = thread := isOpen
          simp only [hold, depth, same, ↓reduceIte]
          omega

/-- A thread that holds the mutex keeps every other one out. -/
theorem not_open_of_depth {other : Thread} (different : other ≠ thread)
    (held : 0 < mutex.depth thread) : ¬ mutex.OpenTo other := by
  cases mutex with
  | free => simp [depth] at held
  | held owner more =>
      intro isOpen
      have isOther : owner = other := isOpen
      simp [depth, isOther, different] at held

/-- Holds of one thread are not holds of another. -/
theorem depth_hold_of_ne {other : Thread} (different : other ≠ thread)
    (isOpen : mutex.OpenTo thread) : (mutex.hold thread count).depth other = mutex.depth other := by
  cases count with
  | zero => rw [hold_zero]
  | succ count =>
      cases mutex with
      | free => simp [hold, depth, different.symm]
      | held owner more =>
          have same : owner = thread := isOpen
          simp [hold, depth, same, different.symm]

/-- A thread locks what no other thread holds. -/
theorem lock_of_open (isOpen : mutex.OpenTo thread) :
    mutex.lock thread = .ok (mutex.hold thread 1) := by
  cases mutex with
  | free => rfl
  | held owner more => exact if_pos isOpen

/-- A thread waits for what another one holds. -/
theorem lock_of_not_open (held : ¬ mutex.OpenTo thread) : mutex.lock thread = .error .waits := by
  cases mutex with
  | free => exact absurd trivial held
  | held owner more => exact if_neg held

/-- Unlocking takes one hold away. -/
theorem unlock_hold (isOpen : mutex.OpenTo thread) :
    (mutex.hold thread (count + 1)).unlock thread = .ok (mutex.hold thread count) := by
  cases mutex with
  | free => cases count <;> simp [hold, unlock]
  | held owner more =>
      have same : owner = thread := isOpen
      cases count <;> simp [hold, unlock, same, Nat.add_assoc]

end RecursiveMutex

/-- A content with the mutex that guards it. -/
structure Guarded (Thread Content : Type) where
  mutex : RecursiveMutex Thread
  content : Content

/-- A computation on a guarded content. -/
abbrev Locking (Thread Content : Type) := StateT (Guarded Thread Content) (Except Stop)

namespace Locking

variable {Thread Content Value Value' : Type}

/-- The content is read and written, without regard to the mutex. -/
def access (f : Content → Value × Content) : Locking Thread Content Value := fun guarded =>
  .ok ((f guarded.content).1, { guarded with content := (f guarded.content).2 })

/-- The content is read. -/
def inspect (f : Content → Value) : Locking Thread Content Value :=
  access fun content => (f content, content)

/-- The content is written. -/
def update (f : Content → Content) : Locking Thread Content Unit :=
  access fun content => ((), f content)

/-- The mutex is initialised. -/
def initLock : Locking Thread Content Unit := fun guarded =>
  .ok ((), { guarded with mutex := .free })

/-- A recursion that is not followed further. -/
def cutOff : Locking Thread Content Value := fun _ => .error .cutOff

/-- Run by the thread with `before` holds of the mutex, beside what held it already, the
computation turns the one content into the other, returns the value, and leaves the thread
with `after` holds. -/
def Returns (thread : Thread) (computation : Locking Thread Content Value)
    (before : Nat) (content : Content) (value : Value) (after : Nat) (content' : Content) : Prop :=
  ∀ mutex : RecursiveMutex Thread, mutex.OpenTo thread →
    computation ⟨mutex.hold thread before, content⟩ =
      .ok (value, ⟨mutex.hold thread after, content'⟩)

variable {thread : Thread} {content content' content'' : Content} {value : Value}
  {value' : Value'} {before between after : Nat} {computation : Locking Thread Content Value}
  {next : Value → Locking Thread Content Value'}

/-- A run from a mutex that no other thread holds. -/
theorem Returns.run {mutex : RecursiveMutex Thread}
    (returns : Returns thread computation 0 content value after content')
    (isOpen : mutex.OpenTo thread) :
    computation ⟨mutex, content⟩ = .ok (value, ⟨mutex.hold thread after, content'⟩) := by
  have runs := returns mutex isOpen
  rwa [RecursiveMutex.hold_zero] at runs

/-- A value leaves depth and content. -/
theorem returns_pure : Returns thread (pure value) before content value before content :=
  fun _ _ => rfl

/-- An access leaves the depth. -/
theorem returns_access (f : Content → Value × Content) :
    Returns thread (access f) before content (f content).1 before (f content).2 :=
  fun _ _ => rfl

/-- Looking at the content leaves depth and content. -/
theorem returns_inspect (f : Content → Value) :
    Returns thread (inspect f) before content (f content) before content :=
  fun _ _ => rfl

/-- An update leaves the depth. -/
theorem returns_update (f : Content → Content) :
    Returns thread (update f) before content () before (f content) :=
  fun _ _ => rfl

/-- Sequencing. -/
theorem Returns.bind
    (first : Returns thread computation before content value between content')
    (second : Returns thread (next value) between content' value' after content'') :
    Returns thread (computation >>= next) before content value' after content'' := by
  intro mutex isOpen
  change (computation ⟨mutex.hold thread before, content⟩ >>= fun result =>
    next result.1 result.2) = _
  rw [first mutex isOpen]
  exact second mutex isOpen

variable [DecidableEq Thread]

/-- The thread locks the mutex. -/
def lock (thread : Thread) : Locking Thread Content Unit := fun guarded =>
  (guarded.mutex.lock thread).map fun mutex => ((), { guarded with mutex := mutex })

/-- The thread unlocks the mutex. -/
def unlock (thread : Thread) : Locking Thread Content Unit := fun guarded =>
  (guarded.mutex.unlock thread).map fun mutex => ((), { guarded with mutex := mutex })

/-- Locking adds one to the depth. -/
theorem returns_lock : Returns thread (lock thread) before content () (before + 1) content := by
  intro mutex isOpen
  simp only [lock, RecursiveMutex.lock_of_open (isOpen.hold before), RecursiveMutex.hold_hold]
  rfl

/-- Unlocking takes one from the depth. -/
theorem returns_unlock :
    Returns thread (unlock thread) (before + 1) content () before content := by
  intro mutex isOpen
  simp only [unlock, RecursiveMutex.unlock_hold isOpen]
  rfl

/-- A computation that starts by locking waits while another thread holds the mutex. -/
theorem waits_of_not_open {mutex : RecursiveMutex Thread}
    {rest : Unit → Locking Thread Content Value}
    (held : ¬ mutex.OpenTo thread) : (lock thread >>= rest) ⟨mutex, content⟩ = .error .waits := by
  change ((mutex.lock thread).map _ >>= _) = _
  rw [RecursiveMutex.lock_of_not_open held]
  rfl

end Locking
