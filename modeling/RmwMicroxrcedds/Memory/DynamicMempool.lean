import RmwMicroxrcedds.Library.IntrusiveList

/-! # The memory pools with dynamic allocations

`memory.c` in the build with `RMW_UXRCE_ALLOW_DYNAMIC_ALLOCATIONS`. An entity of the static
array has its item as its first member; for a pool that is grown, `get_memory` allocates an
item and an entity, and that entity has an item of its own as its first member too. The
release functions of `types.c` hand the item in the entity to `put_memory`.

The fields `element_size` and the mutex are left out. An allocation that succeeds returns a
block that is not in use; the blocks of different pools are counted apart.
-/

namespace RmwMicroxrcedds

open IntrusiveList

/-- A pointer to an entity of a pool: an element of the static array, or a block of the heap. -/
inductive EntityAddress where
  | static (index : Nat)
  | dynamic (block : Nat)
deriving DecidableEq

/-- A pointer to an item of a pool: the first member of an entity, or a block of the heap. -/
inductive ItemAddress where
  | member (entity : EntityAddress)
  | dynamic (block : Nat)
deriving DecidableEq

/-- A pool (`rmw_uxrce_mempool_t`) with the members of all its items, and the blocks in use. -/
structure DynamicMempool where
  allocateditems : Option ItemAddress := none
  freeitems : Option ItemAddress := none
  isInitialized : Bool := false
  isDynamicAllowed : Bool := false
  links : Heap ItemAddress := fun _ => ⟨none, none⟩
  data : ItemAddress → Option EntityAddress := fun _ => none
  isDynamicMemory : ItemAddress → Bool := fun _ => false
  blocks : List Nat := []
  size : Nat := 0

namespace DynamicMempool

/-- `has_memory`. -/
def hasMemory (mem : DynamicMempool) : Bool := mem.freeitems.isSome

/-- `rmw_free` of an entity, when the pointer is into the heap. -/
def freeEntity (mem : DynamicMempool) : Option EntityAddress → DynamicMempool
  | some (.dynamic block) => { mem with blocks := mem.blocks.erase block }
  | _ => mem

/-- `rmw_free` of an item. -/
def freeItem (mem : DynamicMempool) : ItemAddress → DynamicMempool
  | .dynamic block => { mem with blocks := mem.blocks.erase block }
  | .member _ => mem

/-- The part of `put_memory` that takes the item from the allocated pool. -/
def unlinkItem (mem : DynamicMempool) (item : ItemAddress) : DynamicMempool :=
  let unlinked := unlink mem.links item
  { mem with
    links := unlinked
    allocateditems :=
      if mem.allocateditems = some item then (unlinked item).next else mem.allocateditems }

/-- The part of `put_memory` that frees a dynamic item with its entity. -/
def freeDynamic (mem : DynamicMempool) (item : ItemAddress) : DynamicMempool :=
  (mem.freeEntity (mem.data item)).freeItem item

/-- The part of `put_memory` that puts the item in the free pool. -/
def putFree (mem : DynamicMempool) (item : ItemAddress) : DynamicMempool :=
  { mem with links := pushFront mem.links mem.freeitems item, freeitems := some item }

/-- `put_memory`. -/
def putMemory (mem : DynamicMempool) (item : ItemAddress) : DynamicMempool :=
  let mem := mem.unlinkItem item
  if mem.isDynamicMemory item then mem.freeDynamic item else mem.putFree item

/-- The part of `get_memory` that takes the first item of the free pool. -/
def takeFree (mem : DynamicMempool) : Option ItemAddress × DynamicMempool :=
  match mem.freeitems with
  | some item =>
      (some item,
        { mem with
          freeitems := (mem.links item).next
          links := pushFront (popFront mem.links item) mem.allocateditems item
          allocateditems := some item })
  | none => (none, mem)

/-- The item and the entity that `get_memory` allocates in the two blocks it is given: the
entity is zeroed, and with it the item in it. -/
def allocate (mem : DynamicMempool) (itemBlock entityBlock : Nat) : DynamicMempool :=
  let item : ItemAddress := .dynamic itemBlock
  let inner : ItemAddress := .member (.dynamic entityBlock)
  { mem with
    blocks := entityBlock :: itemBlock :: mem.blocks
    links := Function.update (Function.update mem.links item ⟨none, none⟩) inner ⟨none, none⟩
    data := Function.update (Function.update mem.data item (some (.dynamic entityBlock))) inner none
    isDynamicMemory :=
      Function.update (Function.update mem.isDynamicMemory item false) inner false }

/-- The assignment to the item that `get_memory` has put. -/
def markDynamic (mem : DynamicMempool) (item : ItemAddress) : DynamicMempool :=
  { mem with isDynamicMemory := Function.update mem.isDynamicMemory item true }

/-- `get_memory`, with the blocks that `rmw_allocate` returns should the pool be grown. -/
def getMemory (mem : DynamicMempool) (itemBlock entityBlock : Nat) :
    Option ItemAddress × DynamicMempool :=
  if mem.hasMemory then mem.takeFree
  else if mem.isDynamicAllowed then
    let item : ItemAddress := .dynamic itemBlock
    -- the recursive call finds the item that was just put
    (((mem.allocate itemBlock entityBlock).putMemory item).markDynamic item).takeFree
  else (none, mem)

/-- The assignments to an item behind its `put_memory` call in the initialisation loop. -/
def initFields (mem : DynamicMempool) (index : Nat) : DynamicMempool :=
  let item : ItemAddress := .member (.static index)
  { mem with
    data := Function.update mem.data item (some (.static index))
    isDynamicMemory := Function.update mem.isDynamicMemory item false }

/-- One round of the initialisation loop. -/
def initItem (mem : DynamicMempool) (index : Nat) : DynamicMempool :=
  (mem.putMemory (.member (.static index))).initFields index

/-- `RMW_INIT_MEMORY`. -/
def initMemory (mem : DynamicMempool) (size : Nat) : DynamicMempool :=
  if 0 < size ∧ mem.isInitialized = false then
    (List.range size).foldl initItem
      { mem with
        isInitialized := true
        allocateditems := none
        freeitems := none
        isDynamicAllowed := true
        size := size }
  else mem

/-- The two lists of the pool. -/
def Lists (mem : DynamicMempool) (free allocated : List ItemAddress) : Prop :=
  Pair mem.links mem.freeitems mem.allocateditems free allocated

/-- An entity struct of the pool: in its static array, or in a block that is in use. -/
def IsEntity (mem : DynamicMempool) : EntityAddress → Prop
  | .static index => index < mem.size
  | .dynamic block => block ∈ mem.blocks

variable {mem : DynamicMempool} {free allocated : List ItemAddress} {item : ItemAddress}

/-- Only the links and the two heads differ. -/
structure Relinks (mem next : DynamicMempool) : Prop where
  data : next.data = mem.data
  isDynamicMemory : next.isDynamicMemory = mem.isDynamicMemory
  blocks : next.blocks = mem.blocks
  size : next.size = mem.size
  isDynamicAllowed : next.isDynamicAllowed = mem.isDynamicAllowed

/-- Taking the first free item moves it to the front of the allocated list. -/
theorem takeFree_of_cons (lists : mem.Lists (item :: free) allocated) :
    ∃ next, mem.takeFree = (some item, next) ∧ next.Lists free (item :: allocated) ∧
      mem.Relinks next := by
  have head : mem.freeitems = some item := lists.first.head_eq
  have taken : mem.takeFree = (some item,
      { mem with
        freeitems := (mem.links item).next
        links := pushFront (popFront mem.links item) mem.allocateditems item
        allocateditems := some item }) := by simp only [takeFree, head]
  exact ⟨_, taken, lists.take, ⟨rfl, rfl, rfl, rfl, rfl⟩⟩

@[simp] theorem isDynamicMemory_unlinkItem :
    (mem.unlinkItem item).isDynamicMemory = mem.isDynamicMemory := rfl

/-- An item that is not dynamic is put in the free pool. -/
theorem putMemory_of_kept (kept : mem.isDynamicMemory item = false) :
    mem.putMemory item = (mem.unlinkItem item).putFree item := by
  simp only [putMemory, isDynamicMemory_unlinkItem, kept, Bool.false_eq_true, ↓reduceIte]

/-- A dynamic item is freed. -/
theorem putMemory_of_dynamic (dynamic : mem.isDynamicMemory item = true) :
    mem.putMemory item = (mem.unlinkItem item).freeDynamic item := by
  simp only [putMemory, isDynamicMemory_unlinkItem, dynamic, ↓reduceIte]

/-- Putting an item that is not dynamic relinks it, and that is all. -/
theorem putMemory_relinks (kept : mem.isDynamicMemory item = false) :
    mem.Relinks (mem.putMemory item) := by
  rw [putMemory_of_kept kept]
  exact ⟨rfl, rfl, rfl, rfl, rfl⟩

/-- Putting an allocated item that is not dynamic moves it to the front of the free list. -/
theorem putMemory_of_allocated (lists : mem.Lists free allocated) (inside : item ∈ allocated)
    (kept : mem.isDynamicMemory item = false) :
    (mem.putMemory item).Lists (item :: free) (allocated.erase item) := by
  rw [putMemory_of_kept kept]
  exact lists.giveBack inside

/-- Putting an item that was never linked puts it in front of the free list. -/
theorem putMemory_of_stray (lists : mem.Lists free allocated) (outside : item ∉ free ++ allocated)
    (stray : mem.links item = ⟨none, none⟩) (kept : mem.isDynamicMemory item = false) :
    (mem.putMemory item).Lists (item :: free) allocated := by
  have apart : mem.allocateditems ≠ some item := by
    rw [lists.second.head_eq]
    intro first
    exact outside (List.mem_append_right _ (List.mem_of_head? first))
  rw [putMemory_of_kept kept]
  simp only [putFree, unlinkItem, unlink_of_stray stray, apart, ↓reduceIte]
  exact lists.pushFront outside

/-- With no free item there is no memory. -/
theorem Lists.hasMemory_eq (lists : mem.Lists [] allocated) : mem.hasMemory = false := by
  have head : mem.freeitems = none := lists.first.head_eq
  rw [hasMemory, head]
  rfl

/-- A pool without a free item that must not be grown gives none. -/
theorem getMemory_of_ungrown (empty : mem.hasMemory = false)
    (ungrown : mem.isDynamicAllowed = false) (itemBlock entityBlock : Nat) :
    mem.getMemory itemBlock entityBlock = (none, mem) := by
  simp only [getMemory, empty, ungrown, Bool.false_eq_true, ↓reduceIte]

/-- A pool that is grown takes the item that it has put. -/
theorem getMemory_of_grows (empty : mem.hasMemory = false)
    (grows : mem.isDynamicAllowed = true) (itemBlock entityBlock : Nat) :
    mem.getMemory itemBlock entityBlock =
      (((mem.allocate itemBlock entityBlock).putMemory (.dynamic itemBlock)).markDynamic
        (.dynamic itemBlock)).takeFree := by
  simp only [getMemory, empty, grows, Bool.false_eq_true, ↓reduceIte]

/-- A pool with a free item gives the first. -/
theorem getMemory_of_cons (lists : mem.Lists (item :: free) allocated)
    (itemBlock entityBlock : Nat) :
    ∃ next, mem.getMemory itemBlock entityBlock = (some item, next) ∧
      next.Lists free (item :: allocated) ∧ mem.Relinks next := by
  have head : mem.freeitems = some item := lists.first.head_eq
  have taken : mem.getMemory itemBlock entityBlock = mem.takeFree := by
    simp only [getMemory, hasMemory, head, Option.isSome_some, ↓reduceIte]
  rw [taken]
  exact takeFree_of_cons lists

/-- The pool has an item more that points to an entity more, in two blocks. -/
structure Grows (mem next : DynamicMempool) (itemBlock entityBlock : Nat) : Prop where
  item : next.data (.dynamic itemBlock) = some (.dynamic entityBlock)
  inner : next.data (.member (.dynamic entityBlock)) = none
  innerKept : next.isDynamicMemory (.member (.dynamic entityBlock)) = false
  others : ∀ item, item ≠ .dynamic itemBlock → item ≠ .member (.dynamic entityBlock) →
    next.data item = mem.data item ∧ next.isDynamicMemory item = mem.isDynamicMemory item
  blocks : next.blocks = entityBlock :: itemBlock :: mem.blocks
  size : next.size = mem.size

/-- A block that was in use still is. -/
theorem Grows.mem_blocks {next : DynamicMempool} {itemBlock entityBlock block : Nat}
    (grows : mem.Grows next itemBlock entityBlock) (inUse : block ∈ mem.blocks) :
    block ∈ next.blocks := by
  rw [grows.blocks]
  exact List.mem_cons_of_mem _ (List.mem_cons_of_mem _ inUse)

/-- A pool without a free item is grown by a new item that points to a new entity. -/
theorem getMemory_of_nil (lists : mem.Lists [] allocated) (dynamic : mem.isDynamicAllowed = true)
    {itemBlock entityBlock : Nat} (outside : ItemAddress.dynamic itemBlock ∉ allocated)
    (outside' : ItemAddress.member (.dynamic entityBlock) ∉ allocated) :
    ∃ next, mem.getMemory itemBlock entityBlock = (some (.dynamic itemBlock), next) ∧
      next.Lists [] (.dynamic itemBlock :: allocated) ∧
      mem.Grows next itemBlock entityBlock := by
  have head : mem.freeitems = none := lists.first.head_eq
  have grown : (mem.allocate itemBlock entityBlock).Lists [] allocated := by
    refine ⟨head, ?_, lists.nodup⟩
    refine lists.second.congr fun member inside => ?_
    have apart : member ≠ .dynamic itemBlock := fun same => outside (same ▸ inside)
    have apart' : member ≠ .member (.dynamic entityBlock) := fun same => outside' (same ▸ inside)
    simp only [allocate, ne_eq, apart, apart', not_false_eq_true, Function.update_of_ne]
  have kept : (mem.allocate itemBlock entityBlock).isDynamicMemory
      (.dynamic itemBlock) = false := by
    simp [allocate]
  have put := putMemory_of_stray grown outside (by simp [allocate]) kept
  have relinks := putMemory_relinks kept
  have marked : (((mem.allocate itemBlock entityBlock).putMemory (.dynamic itemBlock)).markDynamic
      (.dynamic itemBlock)).Lists [.dynamic itemBlock] allocated := put
  obtain ⟨next, taken, lists', relinks'⟩ := takeFree_of_cons marked
  have runs : mem.getMemory itemBlock entityBlock = (some (.dynamic itemBlock), next) := by
    simp only [getMemory, hasMemory, head, Option.isSome_none, dynamic, ↓reduceIte]
    exact taken
  refine ⟨next, runs, lists', ?_, ?_, ?_, ?_, ?_, ?_⟩
  · rw [relinks'.data, markDynamic, relinks.data]
    simp [allocate]
  · rw [relinks'.data, markDynamic, relinks.data]
    simp [allocate]
  · rw [relinks'.isDynamicMemory, markDynamic, relinks.isDynamicMemory]
    simp [allocate]
  · intro item apart apart'
    rw [relinks'.data, relinks'.isDynamicMemory, markDynamic, relinks.data,
      relinks.isDynamicMemory]
    simp [allocate, apart, apart']
  · exact relinks'.blocks.trans relinks.blocks
  · exact relinks'.size.trans relinks.size

/-- The pool while the initialisation loop runs over a zeroed array: the items put so far are
free, each points to its entity, and nothing is in the heap. -/
structure Fresh (mem : DynamicMempool) (count : Nat) : Prop where
  lists : mem.Lists ((List.range count).reverse.map fun index => .member (.static index)) []
  data : ∀ index < count, mem.data (.member (.static index)) = some (.static index)
  untouched : ∀ index, count ≤ index → mem.links (.member (.static index)) = ⟨none, none⟩
  isDynamicMemory : mem.isDynamicMemory = fun _ => false
  blocks : mem.blocks = []

/-- The initialiser adds one item after the other. -/
theorem Fresh.initItem {count : Nat} (fresh : mem.Fresh count) :
    (mem.initItem count).Fresh (count + 1) ∧ (mem.initItem count).size = mem.size := by
  have kept : mem.isDynamicMemory (.member (.static count)) = false := by
    rw [fresh.isDynamicMemory]
  have outside : ItemAddress.member (.static count) ∉
      ((List.range count).reverse.map fun index => ItemAddress.member (.static index)) ++ [] := by
    simp
  have put := putMemory_of_stray fresh.lists outside (fresh.untouched count (Nat.le_refl _)) kept
  have relinks := putMemory_relinks kept
  refine ⟨⟨?_, ?_, ?_, ?_, ?_⟩, relinks.size⟩
  · rw [List.range_succ, List.reverse_append, List.reverse_singleton, List.singleton_append]
    exact put
  · intro index below
    simp only [DynamicMempool.initItem, initFields, relinks.data]
    by_cases same : index = count
    · subst same
      exact Function.update_self ..
    · rw [Function.update_of_ne (by simpa using same)]
      exact fresh.data index (by omega)
  · intro index above
    have apart : ItemAddress.member (.static index) ≠ .member (.static count) := by
      simp only [ne_eq, ItemAddress.member.injEq, EntityAddress.static.injEq]
      omega
    have notFirst : mem.freeitems ≠ some (.member (.static index)) := by
      rw [fresh.lists.first.head_eq]
      intro first
      have := List.mem_of_head? first
      simp only [List.mem_map, List.mem_reverse, List.mem_range, ItemAddress.member.injEq,
        EntityAddress.static.injEq, exists_eq_right] at this
      omega
    have links : (mem.initItem count).links =
        pushFront mem.links mem.freeitems (.member (.static count)) := by
      rw [DynamicMempool.initItem, putMemory_of_kept kept]
      simp only [initFields, putFree, unlinkItem,
        unlink_of_stray (fresh.untouched count (Nat.le_refl _))]
    rw [links, pushFront_apply_of_ne apart notFirst]
    exact fresh.untouched index (by omega)
  · simp only [DynamicMempool.initItem, initFields, relinks.isDynamicMemory,
      fresh.isDynamicMemory]
    funext item
    by_cases same : item = .member (.static count) <;> simp [same]
  · exact relinks.blocks.trans fresh.blocks

/-- A pool starts fresh before its first item. -/
theorem fresh_zero (head : mem.freeitems = none) (head' : mem.allocateditems = none)
    (links : mem.links = fun _ => ⟨none, none⟩)
    (isDynamicMemory : mem.isDynamicMemory = fun _ => false) (blocks : mem.blocks = []) :
    mem.Fresh 0 where
  lists := ⟨head, head', List.nodup_nil⟩
  data := fun _ below => absurd below (Nat.not_lt_zero _)
  untouched := fun _ _ => congrFun links _
  isDynamicMemory := isDynamicMemory
  blocks := blocks

/-- The loop over the items of the static array. -/
private theorem foldl_initItem_fresh (empty : mem.Fresh 0) (count : Nat) :
    ((List.range count).foldl DynamicMempool.initItem mem).Fresh count ∧
      ((List.range count).foldl DynamicMempool.initItem mem).size = mem.size := by
  induction count with
  | zero => exact ⟨empty, rfl⟩
  | succ count ih =>
      rw [List.range_succ, List.foldl_append]
      obtain ⟨fresh, size⟩ := ih.1.initItem
      exact ⟨fresh, size.trans ih.2⟩

/-- An initialised pool over a zeroed array. -/
theorem initMemory_fresh (size : Nat) :
    (initMemory {} size).Fresh size ∧ (initMemory {} size).size = size := by
  unfold initMemory
  split
  · exact foldl_initItem_fresh (fresh_zero rfl rfl rfl rfl rfl) size
  · rename_i notNeeded
    have empty : size = 0 := by
      simp only [and_true] at notNeeded
      omega
    subst empty
    exact ⟨fresh_zero rfl rfl rfl rfl rfl, rfl⟩

end DynamicMempool

end RmwMicroxrcedds
