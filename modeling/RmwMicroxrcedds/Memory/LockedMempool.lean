import RmwMicroxrcedds.Library.RecursiveMutex
import RmwMicroxrcedds.Memory.DynamicMempool

/-! # The memory pools with their mutex

`memory.c` in the build with `RMW_UXRCE_ALLOW_DYNAMIC_ALLOCATIONS`, with the calls of
`UXR_LOCK` and `UXR_UNLOCK`, the nested calls of the three functions and their returns where
the source has them. Apart from the mutex the functions do what those without it do.
-/

namespace RmwMicroxrcedds

open Locking

/-- A pool with its mutex. -/
abbrev LockedMempool (Thread : Type) := Guarded Thread DynamicMempool

namespace LockedMempool

variable {Thread : Type} [DecidableEq Thread]

/-- `has_memory`. -/
def hasMemory (thread : Thread) : Locking Thread DynamicMempool Bool := do
  lock thread
  let rv ← inspect fun mem => mem.freeitems.isSome
  unlock thread
  return rv

/-- `put_memory`. -/
def putMemory (thread : Thread) (item : ItemAddress) : Locking Thread DynamicMempool Unit := do
  lock thread
  update (·.unlinkItem item)
  if ← inspect (·.isDynamicMemory item) then
    -- this branch returns without `UXR_UNLOCK`
    update (·.freeDynamic item)
  else
    update (·.putFree item)
    unlock thread

/-- `get_memory`, its recursion followed as deep as the bound, with the blocks that
`rmw_allocate` returns should the pool be grown. -/
def getMemoryWithin (thread : Thread) :
    Nat → Nat → Nat → Locking Thread DynamicMempool (Option ItemAddress)
  | 0, _, _ => cutOff
  | bound + 1, itemBlock, entityBlock => do
      lock thread
      let item ← (do
        if ← hasMemory thread then
          access (·.takeFree)
        else if ← inspect (·.isDynamicAllowed) then
          update (·.allocate itemBlock entityBlock)
          putMemory thread (.dynamic itemBlock)
          update (·.markDynamic (.dynamic itemBlock))
          getMemoryWithin thread bound itemBlock entityBlock
        else
          pure none)
      unlock thread
      return item

/-- `get_memory`: a call and a recursive one are all there is. -/
def getMemory (thread : Thread) : Nat → Nat → Locking Thread DynamicMempool (Option ItemAddress) :=
  getMemoryWithin thread 2

/-- The initialisation loop. -/
def initItems (thread : Thread) : List Nat → Locking Thread DynamicMempool Unit
  | [] => pure ()
  | index :: rest => do
      putMemory thread (.member (.static index))
      update (·.initFields index)
      initItems thread rest

/-- `RMW_INIT_MEMORY`. -/
def initMemory (thread : Thread) (size : Nat) : Locking Thread DynamicMempool Unit := do
  if 0 < size ∧ (← inspect (·.isInitialized)) = false then
    initLock
    update fun mem => { mem with
      isInitialized := true
      allocateditems := none
      freeitems := none
      isDynamicAllowed := true
      size := size }
    initItems thread (List.range size)

variable {thread : Thread} {holds : Nat} {mem : DynamicMempool} {item : ItemAddress}

/-- `has_memory` returns with the mutex held as often as when it was called. -/
theorem hasMemory_returns :
    Returns thread (hasMemory thread) holds mem mem.hasMemory holds mem :=
  returns_lock.bind <| (returns_inspect _).bind <| returns_unlock.bind returns_pure

/-- `put_memory` leaves a hold behind when it frees the item. -/
theorem putMemory_returns :
    Returns thread (putMemory thread item) holds mem ()
      (if mem.isDynamicMemory item then holds + 1 else holds) (mem.putMemory item) := by
  refine returns_lock.bind <| (returns_update _).bind <| (returns_inspect _).bind ?_
  rw [DynamicMempool.isDynamicMemory_unlinkItem]
  cases dynamic : mem.isDynamicMemory item with
  | true =>
      rw [DynamicMempool.putMemory_of_dynamic dynamic]
      exact returns_update _
  | false =>
      rw [DynamicMempool.putMemory_of_kept dynamic]
      exact (returns_update _).bind returns_unlock

/-- `put_memory` on an item that it does not free keeps every hold. -/
theorem putMemory_of_kept (thread : Thread) (holds : Nat)
    (kept : mem.isDynamicMemory item = false) :
    Returns thread (putMemory thread item) holds mem () holds (mem.putMemory item) := by
  have put : Returns thread (putMemory thread item) holds mem ()
    (if mem.isDynamicMemory item then holds + 1 else holds) (mem.putMemory item) :=
    putMemory_returns
  rwa [kept] at put

/-- With a free item `get_memory` takes it. -/
theorem getMemoryWithin_of_free {bound itemBlock entityBlock : Nat}
    (free : mem.hasMemory = true) :
    Returns thread (getMemoryWithin thread (bound + 1) itemBlock entityBlock) holds mem
      mem.takeFree.1 holds mem.takeFree.2 := by
  refine returns_lock.bind <| Returns.bind (hasMemory_returns.bind ?_) <|
    returns_unlock.bind returns_pure
  rw [free]
  exact returns_access _

/-- `get_memory` returns with the mutex held as often as when it was called, however deep its
recursion could go from two calls on. -/
theorem getMemoryWithin_returns {bound itemBlock entityBlock : Nat} :
    Returns thread (getMemoryWithin thread (bound + 2) itemBlock entityBlock) holds mem
      (mem.getMemory itemBlock entityBlock).1 holds (mem.getMemory itemBlock entityBlock).2 := by
  cases free : mem.hasMemory with
  | true =>
      have takes : mem.getMemory itemBlock entityBlock = mem.takeFree := by
        simp only [DynamicMempool.getMemory, free, ↓reduceIte]
      rw [takes]
      exact getMemoryWithin_of_free free
  | false =>
      refine returns_lock.bind <| Returns.bind (hasMemory_returns.bind ?_) <|
        returns_unlock.bind returns_pure
      rw [free]
      refine (returns_inspect _).bind ?_
      cases grows : mem.isDynamicAllowed with
      | true =>
          have kept : (mem.allocate itemBlock entityBlock).isDynamicMemory
              (.dynamic itemBlock) = false := by
            simp [DynamicMempool.allocate]
          have put := putMemory_of_kept thread (holds + 1) kept
          rw [DynamicMempool.getMemory_of_grows free grows itemBlock entityBlock]
          refine (returns_update _).bind <| put.bind <| (returns_update _).bind ?_
          apply getMemoryWithin_of_free
          rw [DynamicMempool.putMemory_of_kept kept]
          rfl
      | false =>
          rw [DynamicMempool.getMemory_of_ungrown free grows]
          exact returns_pure

/-- `get_memory` takes the lock and gives it back. -/
theorem getMemory_returns {itemBlock entityBlock : Nat} :
    Returns thread (getMemory thread itemBlock entityBlock) holds mem
      (mem.getMemory itemBlock entityBlock).1 holds (mem.getMemory itemBlock entityBlock).2 :=
  getMemoryWithin_returns

/-- Over items that are not dynamic the initialisation loop keeps every hold of the mutex. -/
theorem initItems_returns {indices : List Nat} (kept : ∀ item, mem.isDynamicMemory item = false) :
    Returns thread (initItems thread indices) holds mem () holds
      (indices.foldl DynamicMempool.initItem mem) := by
  induction indices generalizing mem with
  | nil => exact returns_pure
  | cons index indices ih =>
      have put := putMemory_of_kept thread holds (kept (.member (.static index)))
      refine put.bind <| (returns_update _).bind <| ih ?_
      intro item
      have relinks := DynamicMempool.putMemory_relinks (kept (.member (.static index)))
      simp only [DynamicMempool.initFields, relinks.isDynamicMemory]
      by_cases same : item = .member (.static index)
      · rw [same, Function.update_self]
      · rw [Function.update_of_ne same]
        exact kept item

/-- The initialisation of a zeroed pool leaves its mutex free. -/
theorem initMemory_zeroed {size : Nat} (positive : 0 < size) (mutex : RecursiveMutex Thread) :
    initMemory thread size ⟨mutex, {}⟩ = .ok ((), ⟨.free, DynamicMempool.initMemory {} size⟩) := by
  let cleared : DynamicMempool :=
    { isInitialized := true, isDynamicAllowed := true, size := size }
  have loop : Returns thread (initItems thread (List.range size)) 0 cleared () 0
    ((List.range size).foldl DynamicMempool.initItem cleared) := initItems_returns fun _ => rfl
  have pool : DynamicMempool.initMemory {} size =
      (List.range size).foldl DynamicMempool.initItem cleared := by
    simp [DynamicMempool.initMemory, positive, cleared]
  have runs : initMemory thread size ⟨mutex, {}⟩ =
      initItems thread (List.range size) ⟨.free, cleared⟩ := by
    simp [initMemory, positive]
    rfl
  rw [runs, pool]
  exact loop .free trivial

end LockedMempool

end RmwMicroxrcedds
