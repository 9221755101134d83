import Mathlib.Data.List.Perm.Subperm
import RmwMicroxrcedds.Library.IntrusiveList

/-! # The memory pools

`memory.c` in the build without `RMW_UXRCE_ALLOW_DYNAMIC_ALLOCATIONS`, where a pool
never grows: `rmw_uxrce_mempool_t`, `get_memory`, `put_memory` and the initialiser
`RMW_INIT_MEMORY` of `types.c`. An item is the first member of the entity it belongs
to, so items and entities share their address, which is the entity's index in the
static array of its pool.

The fields `element_size`, `is_dynamic_allowed` and `is_dynamic_memory` and the mutex
have no effect in this build.
-/

namespace RmwMicroxrcedds

open IntrusiveList

/-- A pool (`rmw_uxrce_mempool_t`) with the `mem` members of its array: their `prev`
and `next` pointers and their `data` pointer. `size` is the length of the array the
pool was initialised over, zero before that. -/
structure Mempool where
  allocateditems : Option Nat := none
  freeitems : Option Nat := none
  isInitialized : Bool := false
  links : Heap Nat := fun _ => ⟨none, none⟩
  data : Nat → Option Nat := fun _ => none
  size : Nat := 0

namespace Mempool

/-- `has_memory`. -/
def hasMemory (mem : Mempool) : Bool := mem.freeitems.isSome

/-- `get_memory`: the first free item becomes the first allocated one. -/
def getMemory (mem : Mempool) : Option Nat × Mempool :=
  match mem.freeitems with
  | some item =>
      let taken := popFront mem.links item
      (some item,
        { mem with
          freeitems := (mem.links item).next
          links := pushFront taken mem.allocateditems item
          allocateditems := some item })
  | none => (none, mem)

/-- `put_memory`: the item leaves the list it is in and becomes the first free one. -/
def putMemory (mem : Mempool) (item : Nat) : Mempool :=
  let unlinked := unlink mem.links item
  { mem with
    allocateditems :=
      if mem.allocateditems = some item then (unlinked item).next else mem.allocateditems
    links := pushFront unlinked mem.freeitems item
    freeitems := some item }

/-- One round of the initialisation loop: release an item and point it at its entity. -/
def initItem (mem : Mempool) (index : Nat) : Mempool :=
  let released := mem.putMemory index
  { released with data := Function.update released.data index (some index) }

/-- `RMW_INIT_MEMORY`: the body of every `rmw_uxrce_init_*_memory`. -/
def initMemory (mem : Mempool) (size : Nat) : Mempool :=
  if 0 < size ∧ mem.isInitialized = false then
    (List.range size).foldl initItem
      { mem with
        isInitialized := true
        allocateditems := none
        freeitems := none
        size := size }
  else mem

/-- The free items, first to last. -/
def free (mem : Mempool) : List Nat := walk mem.links mem.size mem.freeitems

/-- The allocated items, first to last. -/
def allocated (mem : Mempool) : List Nat := walk mem.links mem.size mem.allocateditems

/-- The pool's two lists are the given ones: null-terminated, doubly linked, disjoint,
together every item of the pool exactly once, every item pointing at its entity. -/
structure Represents (mem : Mempool) (free allocated : List Nat) : Prop where
  free_segment : Segment mem.links none mem.freeitems free
  allocated_segment : Segment mem.links none mem.allocateditems allocated
  nodup : (free ++ allocated).Nodup
  cover : ∀ item, item ∈ free ++ allocated ↔ item < mem.size
  data : ∀ item < mem.size, mem.data item = some item

/-- **Pool integrity.** The pool is well formed, with the lists read off by `free` and
`allocated`. -/
def Wf (mem : Mempool) : Prop := mem.Represents mem.free mem.allocated

variable {mem : Mempool} {free allocated : List Nat} {item : Nat}

private theorem length_le_of_nodup {items : List Nat} {bound : Nat} (nodup : items.Nodup)
    (below : ∀ item ∈ items, item < bound) : items.length ≤ bound := by
  have inside : items ⊆ List.range bound := fun item member => by
    simpa using below item member
  simpa using (nodup.subperm inside).length_le

/-- The free items that a pool represents are the ones a walk finds. -/
theorem Represents.free_eq (represents : mem.Represents free allocated) : mem.free = free :=
  represents.free_segment.walk_eq <|
    length_le_of_nodup (List.nodup_append.mp represents.nodup).1 fun _ inside =>
      (represents.cover _).mp (List.mem_append_left _ inside)

/-- So are the allocated items. -/
theorem Represents.allocated_eq (represents : mem.Represents free allocated) :
    mem.allocated = allocated :=
  represents.allocated_segment.walk_eq <|
    length_le_of_nodup (List.nodup_append.mp represents.nodup).2.1 fun _ inside =>
      (represents.cover _).mp (List.mem_append_right _ inside)

/-- The two lists of a pool share its links. -/
theorem Represents.pair (represents : mem.Represents free allocated) :
    Pair mem.links mem.freeitems mem.allocateditems free allocated :=
  ⟨represents.free_segment, represents.allocated_segment, represents.nodup⟩

/-- A pool whose lists are known is well formed. -/
theorem Represents.wf (represents : mem.Represents free allocated) : mem.Wf := by
  unfold Wf
  rw [represents.free_eq, represents.allocated_eq]
  exact represents

/-- Pool integrity does not depend on how the two lists are read off. -/
theorem wf_iff_exists_represents :
    mem.Wf ↔ ∃ free allocated, mem.Represents free allocated :=
  ⟨fun wf => ⟨_, _, wf⟩, fun ⟨_, _, represents⟩ => represents.wf⟩

/-- The zeroed pool, before any initialisation. -/
theorem wf_default : Wf {} :=
  have empty : Represents {} [] [] := ⟨rfl, rfl, List.nodup_nil, by simp, by simp⟩
  empty.wf

/-- The pointer `freeitems` leads to the first free item. -/
theorem Wf.freeitems_eq (wf : mem.Wf) : mem.freeitems = mem.free.head? :=
  wf.free_segment.head_eq

/-- The pointer `allocateditems` leads to the first allocated item. -/
theorem Wf.allocateditems_eq (wf : mem.Wf) : mem.allocateditems = mem.allocated.head? :=
  wf.allocated_segment.head_eq

/-- `has_memory` tells whether an item is free. -/
theorem Wf.hasMemory_iff (wf : mem.Wf) : mem.hasMemory = true ↔ mem.free ≠ [] := by
  rw [hasMemory, wf.freeitems_eq]
  cases mem.free <;> simp

/-- No free item is allocated. -/
theorem Wf.disjoint (wf : mem.Wf) (inFree : item ∈ mem.free) : item ∉ mem.allocated :=
  fun inAllocated => (List.nodup_append.mp wf.nodup).2.2 item inFree item inAllocated rfl

/-- Allocated items lie in the array. -/
theorem Wf.lt_of_mem (wf : mem.Wf) (inside : item ∈ mem.allocated) : item < mem.size :=
  (wf.cover item).mp (List.mem_append_right _ inside)

/-- The data of an allocated item is the entity it lies in. -/
theorem Wf.data_eq (wf : mem.Wf) (inside : item ∈ mem.allocated) : mem.data item = some item :=
  wf.data item (wf.lt_of_mem inside)

/-- The number of items is the size of the array. -/
theorem Wf.length_add (wf : mem.Wf) : mem.free.length + mem.allocated.length = mem.size := by
  have same : (mem.free ++ mem.allocated).Perm (List.range mem.size) :=
    (List.perm_ext_iff_of_nodup wf.nodup List.nodup_range).mpr fun item => by
      simpa using wf.cover item
  simpa using same.length_eq

end Mempool

end RmwMicroxrcedds
