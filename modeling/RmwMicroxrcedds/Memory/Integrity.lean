import RmwMicroxrcedds.Memory.Mempool

/-! # What the pool operations do to the lists

`get_memory` moves the first free item to the front of the allocated list,
`put_memory` moves an allocated item from wherever it is to the front of the free
list, and the initialiser makes every item free; each keeps the pool well formed.
These are the only facts about the links that the rest of the development uses.
-/

namespace RmwMicroxrcedds

open IntrusiveList

namespace Mempool

variable {mem : Mempool} {free allocated before after : List Nat} {item : Nat}

/-- Pool integrity and the fixed data of a pool across an operation. -/
structure Moves (mem next : Mempool) (free allocated : List Nat) : Prop where
  represents : next.Represents free allocated
  size : next.size = mem.size
  isInitialized : next.isInitialized = mem.isInitialized

/-- A pool that has moved an item is well-formed. -/
theorem Moves.wf {next : Mempool} (moves : mem.Moves next free allocated) : next.Wf :=
  moves.represents.wf

/-- Its allocated items are the ones given. -/
theorem Moves.allocated_eq {next : Mempool} (moves : mem.Moves next free allocated) :
    next.allocated = allocated := moves.represents.allocated_eq

/-- With no free item `get_memory` returns null and changes nothing. -/
theorem getMemory_of_free_nil (wf : mem.Wf) (empty : mem.free = []) :
    mem.getMemory = (none, mem) := by
  have head := wf.freeitems_eq
  rw [empty] at head
  simp only [getMemory, head, List.head?_nil]

/-- `get_memory` returns the first free item and moves it to the front of the
allocated list. -/
theorem getMemory_of_free_cons (wf : mem.Wf) (first : mem.free = item :: free) :
    ∃ next, mem.getMemory = (some item, next) ∧ mem.Moves next free (item :: mem.allocated) := by
  have head := wf.freeitems_eq
  have pair := wf.pair
  rw [first, List.head?_cons] at head
  rw [first] at pair
  have taken : mem.getMemory = (some item,
      { mem with
        freeitems := (mem.links item).next
        links := pushFront (popFront mem.links item) mem.allocateditems item
        allocateditems := some item }) := by simp only [getMemory, head]
  have moved := pair.take
  refine ⟨_, taken, ⟨⟨moved.first, moved.second, moved.nodup, ?_, wf.data⟩, rfl, rfl⟩⟩
  intro member
  rw [← wf.cover member, first]
  simp only [List.mem_append, List.mem_cons]
  tauto

/-- `put_memory` on an allocated item removes exactly that item from the allocated
list and makes it the first free one. -/
theorem putMemory_of_allocated (wf : mem.Wf) (inside : item ∈ mem.allocated) :
    mem.Moves (mem.putMemory item) (item :: mem.free) (mem.allocated.erase item) := by
  have moved := wf.pair.giveBack inside
  refine ⟨⟨moved.first, moved.second, moved.nodup, ?_, wf.data⟩, rfl, rfl⟩
  intro member
  have same : (mem.putMemory item).size = mem.size := rfl
  rw [same, ← wf.cover member, List.cons_append, List.mem_cons, List.mem_append, List.mem_append]
  by_cases isItem : member = item
  · subst isItem
    simp [inside]
  · simp [isItem]

/-- Initialising an initialised pool, or over an empty array, changes nothing. -/
theorem initMemory_of_not {size : Nat} (kept : ¬ (0 < size ∧ mem.isInitialized = false)) :
    mem.initMemory size = mem := by
  rw [initMemory, if_neg kept]

/-- Releasing an item that was never linked links it in front of the free list. -/
private theorem putMemory_of_zeroed (zeroed : mem.links item = ⟨none, none⟩)
    (unallocated : mem.allocateditems = none) :
    mem.putMemory item =
      { mem with
        links := pushFront mem.links mem.freeitems item
        freeitems := some item } := by
  simp only [putMemory, unlink_of_stray zeroed, unallocated, reduceCtorEq, ↓reduceIte]

/-- The state of the pool while the initialisation loop runs over a zeroed array:
the items released so far are the free list, last released first. -/
private theorem initItems_spec (mem : Mempool) {bound : Nat}
    (zeroed : ∀ item < bound, mem.links item = ⟨none, none⟩)
    (empty : mem.freeitems = none) (unallocated : mem.allocateditems = none) (count : Nat)
    (within : count ≤ bound) :
    let next := (List.range count).foldl initItem mem
    Segment next.links none next.freeitems (List.range count).reverse ∧
      next.allocateditems = none ∧ (∀ item < count, next.data item = some item) ∧
      (∀ item < bound, count ≤ item → next.links item = ⟨none, none⟩) ∧
      next.size = mem.size ∧ next.isInitialized = mem.isInitialized := by
  induction count with
  | zero => exact ⟨empty, unallocated, by simp, fun item inside _ => zeroed item inside, rfl, rfl⟩
  | succ count ih =>
      simp only [List.range_succ, List.foldl_append, List.foldl_cons, List.foldl_nil,
        List.reverse_append, List.reverse_singleton, List.singleton_append]
      obtain ⟨segment, none, data, untouched, size, initialized⟩ := ih (by omega)
      have fresh : count ∉ (List.range count).reverse := by simp
      have step := putMemory_of_zeroed (untouched count within (Nat.le_refl _)) none
      simp only [initItem, step]
      refine ⟨segment.pushFront fresh, none, fun item below => ?_, fun item inside above => ?_,
        size, initialized⟩
      · by_cases same : item = count
        · simp [same]
        · rw [Function.update_of_ne same]
          exact data item (by omega)
      · rw [pushFront_apply_of_ne (by omega)]
        · exact untouched item inside (by omega)
        · rw [segment.head_eq]
          intro first
          have := List.mem_of_head? first
          simp at this
          omega

/-- Initialising a pool over an array of zeroed items makes every item free. -/
theorem initMemory_of_uninitialized {size : Nat} (positive : 0 < size)
    (uninitialized : mem.isInitialized = false)
    (zeroed : ∀ item < size, mem.links item = ⟨none, none⟩) :
    (mem.initMemory size).Represents (List.range size).reverse [] ∧
      (mem.initMemory size).size = size ∧ (mem.initMemory size).isInitialized = true := by
  have unfolded : mem.initMemory size = (List.range size).foldl initItem
      { mem with
        isInitialized := true
        allocateditems := none
        freeitems := none
        size := size } := by
    rw [initMemory, if_pos ⟨positive, uninitialized⟩]
  rw [unfolded]
  obtain ⟨segment, unallocated, data, _, sizeEq, initialized⟩ :=
    initItems_spec { mem with
      isInitialized := true
      allocateditems := none
      freeitems := none
      size := size } zeroed rfl rfl size (Nat.le_refl _)
  refine ⟨⟨segment, unallocated, ?_, ?_, ?_⟩, sizeEq, initialized⟩
  · simpa using List.nodup_range
  · intro item
    rw [sizeEq]
    simp
  · intro item below
    rw [sizeEq] at below
    exact data item below

/-- Initialising a zeroed pool makes every item of its array free. -/
theorem initMemory_of_zeroed {size : Nat} (positive : 0 < size) :
    (initMemory {} size).Represents (List.range size).reverse [] ∧
      (initMemory {} size).size = size ∧ (initMemory {} size).isInitialized = true :=
  initMemory_of_uninitialized positive rfl fun _ _ => rfl

/-- A pool that has been initialised, or is still zeroed. -/
def Started (mem : Mempool) : Prop := mem = {} ∨ mem.isInitialized = true

/-- Initialisation keeps a pool well formed and moves no allocated item. -/
theorem initMemory_spec {size : Nat} (wf : mem.Wf) (started : mem.Started) :
    (mem.initMemory size).Wf ∧ (mem.initMemory size).Started ∧
      (mem.initMemory size).allocated = mem.allocated ∧
      (mem.isInitialized = true → mem.initMemory size = mem) := by
  by_cases needed : 0 < size ∧ mem.isInitialized = false
  · rcases started with rfl | initialized
    · obtain ⟨represents, -, initialized⟩ := initMemory_of_zeroed needed.1
      refine ⟨represents.wf, Or.inr initialized, ?_, by simp⟩
      rw [represents.allocated_eq]
      rfl
    · exact absurd initialized (by simp [needed.2])
  · rw [initMemory_of_not needed]
    exact ⟨wf, started, rfl, fun _ => rfl⟩

end Mempool

end RmwMicroxrcedds
