import RmwMicroxrcedds.Library.ItemPool
import RmwMicroxrcedds.Memory.DynamicMempool
import RmwMicroxrcedds.Memory.Integrity

/-! # What a memory pool is for

In the build without dynamic allocations `get_memory` and `put_memory` implement a pool of the
items of the array: the two lists they keep in the links of the items are the free and the
allocated items of that pool, in their order. In the build with dynamic allocations they do so
for a pool that must not be grown, which the one of the input buffers is.
-/

namespace RmwMicroxrcedds

open ItemPool

namespace Mempool

variable {mem : Mempool} {free allocated : List Nat} {item size : Nat} {data : Nat → Option Nat}

@[simp] theorem getMemory_data (mem : Mempool) : mem.getMemory.2.data = mem.data := by
  unfold getMemory
  split
  · rfl
  · rfl

@[simp] theorem putMemory_data (mem : Mempool) (item : Nat) :
    (mem.putMemory item).data = mem.data := rfl

/-- An initialised pool over an array of the given size, with the lists it represents and the
data pointers of its items. -/
structure Holds (size : Nat) (data : Nat → Option Nat) (mem : Mempool)
    (free allocated : List Nat) : Prop where
  represents : mem.Represents free allocated
  size : mem.size = size
  isInitialized : mem.isInitialized = true
  data : mem.data = data

/-- Moving items keeps the rest of the pool. -/
theorem Moves.holds {next : Mempool} {free' allocated' : List Nat}
    (moves : mem.Moves next free' allocated') (holds : Holds size data mem free allocated)
    (sameData : next.data = mem.data) : Holds size data next free' allocated' where
  represents := moves.represents
  size := moves.size.trans holds.size
  isInitialized := moves.isInitialized.trans holds.isInitialized
  data := sameData.trans holds.data

/-- **The memory pools are pools.** -/
theorem implements (size : Nat) (data : Nat → Option Nat) :
    Implements getMemory putMemory (Holds size data) where
  handOut_nil := by
    intro mem allocated holds
    have nothing := getMemory_of_free_nil holds.represents.wf holds.represents.free_eq
    rw [nothing]
    exact ⟨rfl, holds⟩
  handOut_cons := by
    intro mem item free allocated holds
    have sameData := getMemory_data mem
    obtain ⟨next, taken, moves⟩ :=
      getMemory_of_free_cons holds.represents.wf holds.represents.free_eq
    rw [taken] at sameData ⊢
    rw [holds.represents.allocated_eq] at moves
    exact ⟨rfl, moves.holds holds sameData⟩
  getBack := by
    intro mem item free allocated holds inside
    have inside' : item ∈ mem.allocated := by rwa [holds.represents.allocated_eq]
    have moves := putMemory_of_allocated holds.represents.wf inside'
    rw [holds.represents.free_eq, holds.represents.allocated_eq] at moves
    exact moves.holds holds rfl

/-- An initialised pool over `size` items with these lists: both are well formed and together
the items, `get_memory` and `put_memory` move one item each, the data pointers are the given
ones, and a further initialisation changes nothing. -/
structure Operates (size : Nat) (data : Nat → Option Nat) (mem : Mempool)
    (free allocated : List Nat) : Prop where
  represents : mem.Represents free allocated
  items : (free ++ allocated).Perm (List.range size)
  exhausted : mem.getMemory.1 = none ↔ allocated.length = size
  taken : ∀ item, mem.getMemory.1 = some item → item ∈ free ∧
    mem.getMemory.2.Represents (free.erase item) (item :: allocated)
  put : ∀ item ∈ allocated,
    (mem.putMemory item).Represents (item :: free) (allocated.erase item) ∧
      (mem.putMemory item).getMemory.1 = some item
  data : mem.data = data
  again : ∀ size', mem.initMemory size' = mem

/-- A pool that implements one with the items of the array operates as it. -/
theorem operates_of_implemented {lent : Lent Mempool Nat} {pool : ItemPool Nat}
    (here : Implemented (Holds size data) lent pool)
    (items : (pool.free ++ pool.allocated).Perm (List.range size)) :
    lent.pool.Operates size data pool.free pool.allocated := by
  obtain ⟨same, after⟩ := (implements size data).handOut_eq here
  have length : (pool.free ++ pool.allocated).length = size := by
    rw [items.length_eq, List.length_range]
  refine ⟨here.1.represents, items, ?_, ?_, ?_, here.1.data, ?_⟩
  · rw [same, take_eq_none_iff, length]
  · intro item takes
    rw [same] at takes
    obtain ⟨isFree, freeEq, allocatedEq⟩ := take_eq_some takes
    rw [freeEq, allocatedEq] at after
    exact ⟨isFree, after.represents⟩
  · intro item inside
    have put := (implements size data).getBack here.1 inside
    exact ⟨put.represents, ((implements size data).handOut_cons put).1⟩
  · intro size'
    apply initMemory_of_not
    rw [here.1.isInitialized]
    simp

end Mempool

/-- For every run of `get_memory` calls and of `put_memory` calls on items that are allocated,
from a pool that was initialised over an array of zeroed items: the abstract pool of these
items answers the same calls in the same way, what its users hold is what callers of the run
hold, and the two lists of the pool are the free and the allocated items, on which both
functions operate as they should. -/
theorem mempool_refines_itemPool {mem : Mempool} {size : Nat} (positive : 0 < size)
    (uninitialized : mem.isInitialized = false)
    (zeroed : ∀ item < size, mem.links item = ⟨none, none⟩)
    {calls : List (Call Nat × Option Nat)} {last : Lent Mempool Nat}
    (run : (lending Mempool.getMemory Mempool.putMemory).Trace ⟨mem.initMemory size, []⟩ calls
      last) :
    ∃ pool : ItemPool Nat,
      component.Trace (full (List.range size).reverse (List.nodup_reverse.mpr List.nodup_range))
        calls pool ∧
      pool.allocated = last.held ∧
      last.pool.Operates size (mem.initMemory size).data pool.free pool.allocated := by
  obtain ⟨represents, sizeEq, initialized⟩ :=
    Mempool.initMemory_of_uninitialized positive uninitialized zeroed
  have start : Implemented (Mempool.Holds size (mem.initMemory size).data)
      (⟨mem.initMemory size, []⟩ : Lent Mempool Nat)
      (full (List.range size).reverse (List.nodup_reverse.mpr List.nodup_range)) :=
    ⟨⟨represents, sizeEq, initialized, rfl⟩, rfl⟩
  obtain ⟨pool, trace, here⟩ := (Mempool.implements size _).simulates.trace run start
  refine ⟨pool, trace, here.2.symm, Mempool.operates_of_implemented here ?_⟩
  have kept := perm_of_trace trace
  simp only [full, List.append_nil] at kept
  exact kept.trans (List.reverse_perm _)

/-- A pool of three after all its items were taken, and one that is neither the first nor the
last allocated was put back and taken again. -/
def Small.retaken : Lent Mempool Nat :=
  let exhausted := (Mempool.initMemory {} 3).getMemory.2.getMemory.2.getMemory.2.getMemory.2
  ⟨(exhausted.putMemory 1).getMemory.2, [1, 0, 2]⟩

theorem mempool_refines_itemPool_small : ∃ pool : ItemPool Nat,
    component.Trace (full (List.range 3).reverse (List.nodup_reverse.mpr List.nodup_range))
      [(.take, some 2), (.take, some 1), (.take, some 0), (.take, none), (.giveBack 1, none),
        (.take, some 1)] pool ∧
    pool.allocated = Small.retaken.held ∧
    Small.retaken.pool.Operates 3 (Mempool.initMemory {} 3).data pool.free pool.allocated := by
  have held : 1 ∈ [0, 1, 2] := by decide
  exact mempool_refines_itemPool (by decide) rfl (fun _ _ => rfl)
    (.cons trivial rfl <| .cons trivial rfl <| .cons trivial rfl <| .cons trivial rfl <|
      .cons held rfl <| .cons trivial rfl <| .nil _)

namespace DynamicMempool

/-- A pool without leave to grow, none of whose items is dynamic, with the lists it represents
and the data pointers of its items. -/
structure HoldsStatic (data : ItemAddress → Option EntityAddress) (mem : DynamicMempool)
    (free allocated : List ItemAddress) : Prop where
  lists : mem.Lists free allocated
  kept : ∀ item, mem.isDynamicMemory item = false
  ungrown : mem.isDynamicAllowed = false
  data : mem.data = data

/-- Relinking a pool keeps what its items hold. -/
theorem Relinks.holdsStatic {mem next : DynamicMempool}
    {free allocated free' allocated' : List ItemAddress}
    {data : ItemAddress → Option EntityAddress} (relinks : mem.Relinks next)
    (holds : HoldsStatic data mem free allocated) (lists : next.Lists free' allocated') :
    HoldsStatic data next free' allocated' where
  lists := lists
  kept := fun item => by rw [relinks.isDynamicMemory, holds.kept]
  ungrown := relinks.isDynamicAllowed.trans holds.ungrown
  data := relinks.data.trans holds.data

/-- A pool that must not be grown implements a pool of items. -/
theorem implements (itemBlock entityBlock : Nat) (data : ItemAddress → Option EntityAddress) :
    Implements (getMemory · itemBlock entityBlock) putMemory (HoldsStatic data) where
  handOut_nil := by
    intro mem allocated holds
    rw [getMemory_of_ungrown holds.lists.hasMemory_eq holds.ungrown]
    exact ⟨rfl, holds⟩
  handOut_cons := by
    intro mem item free allocated holds
    obtain ⟨next, taken, lists, relinks⟩ := getMemory_of_cons holds.lists itemBlock entityBlock
    rw [taken]
    exact ⟨rfl, relinks.holdsStatic holds lists⟩
  getBack := by
    intro mem item free allocated holds inside
    have kept := holds.kept item
    have lists := putMemory_of_allocated holds.lists inside kept
    exact (putMemory_relinks kept).holdsStatic holds lists

end DynamicMempool

/-- In the build with dynamic allocations an initialised pool that must not be grown is a pool
of the items of its array. -/
theorem ungrown_refines_itemPool {size itemBlock entityBlock : Nat}
    {calls : List (Call ItemAddress × Option ItemAddress)}
    {last : Lent DynamicMempool ItemAddress}
    (run : (lending (DynamicMempool.getMemory · itemBlock entityBlock)
      DynamicMempool.putMemory).Trace
        ⟨{ DynamicMempool.initMemory {} size with isDynamicAllowed := false }, []⟩ calls last) :
    ∃ first pool : ItemPool ItemAddress,
      first.free = (List.range size).reverse.map (fun index => .member (.static index)) ∧
      first.allocated = [] ∧ component.Trace first calls pool ∧ pool.allocated = last.held ∧
      DynamicMempool.HoldsStatic (DynamicMempool.initMemory {} size).data last.pool pool.free
        pool.allocated := by
  obtain ⟨fresh, -⟩ := DynamicMempool.initMemory_fresh size
  let first : ItemPool ItemAddress := ⟨_, [], fresh.lists.nodup⟩
  have start : Implemented (DynamicMempool.HoldsStatic (DynamicMempool.initMemory {} size).data)
      (⟨{ DynamicMempool.initMemory {} size with isDynamicAllowed := false }, []⟩ :
        Lent DynamicMempool ItemAddress) first :=
    ⟨⟨fresh.lists, congrFun fresh.isDynamicMemory, rfl, rfl⟩, rfl⟩
  obtain ⟨pool, trace, here⟩ :=
    (DynamicMempool.implements itemBlock entityBlock _).simulates.trace run start
  exact ⟨first, pool, rfl, rfl, trace, here.2.symm, here.1⟩

end RmwMicroxrcedds
