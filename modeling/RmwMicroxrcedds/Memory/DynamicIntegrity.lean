import RmwMicroxrcedds.Memory.DynamicMempool

/-! # What callers do to a pool that may be grown

Callers get items from a pool and put back those very items. An item of the array moves to the
free list when it is put back, one that the pool was grown by is freed with its entity; the
free items are all of the array, and the allocated ones are those that callers hold.
-/

namespace RmwMicroxrcedds

open IntrusiveList

/-- The item of an element of the static array. -/
def ItemAddress.IsStatic : ItemAddress → Prop
  | .member (.static _) => True
  | .member (.dynamic _) | .dynamic _ => False

instance (item : ItemAddress) : Decidable item.IsStatic :=
  match item with
  | .member (.static _) => inferInstanceAs (Decidable True)
  | .member (.dynamic _) | .dynamic _ => inferInstanceAs (Decidable False)

namespace DynamicMempool

variable {mem next : DynamicMempool} {free held : List ItemAddress} {item : ItemAddress}

/-- An item `get_memory` has returned: one of the static array, or one in a block of its own
that points to an entity in another. -/
inductive Supplies (mem : DynamicMempool) : ItemAddress → Prop
  | static {index : Nat} (kept : mem.isDynamicMemory (.member (.static index)) = false) :
      Supplies mem (.member (.static index))
  | dynamic {block entity : Nat} (itemInUse : block ∈ mem.blocks)
      (entityInUse : entity ∈ mem.blocks)
      (data : mem.data (.dynamic block) = some (.dynamic entity))
      (freed : mem.isDynamicMemory (.dynamic block) = true) : Supplies mem (.dynamic block)

/-- The blocks of an entity and of the items that callers hold are different blocks. -/
def Apart (mem : DynamicMempool) (held : List ItemAddress) : Prop :=
  ∀ ⦃block block' entity⦄, .dynamic block ∈ held → .dynamic block' ∈ held →
    mem.data (.dynamic block) = some (.dynamic entity) → entity ≠ block' ∧
      (mem.data (.dynamic block') = some (.dynamic entity) → block = block')

/-- A pool that callers use: its free items are of the static array, its allocated ones are
those that callers hold. -/
structure Tended (mem : DynamicMempool) (free held : List ItemAddress) : Prop where
  lists : mem.Lists free held
  free : ∀ item ∈ free, item.IsStatic ∧ mem.isDynamicMemory item = false
  supplies : ∀ item ∈ held, mem.Supplies item
  apart : mem.Apart held

/-- Relinking a pool takes no item from its entity. -/
theorem Supplies.relinks (supplies : mem.Supplies item) (relinks : mem.Relinks next) :
    next.Supplies item := by
  cases supplies with
  | static kept => exact .static (relinks.isDynamicMemory ▸ kept)
  | dynamic itemInUse entityInUse data freed =>
      rw [← relinks.blocks] at itemInUse entityInUse
      rw [← relinks.data] at data
      rw [← relinks.isDynamicMemory] at freed
      exact .dynamic itemInUse entityInUse data freed

/-- The flag of an item tells whether it is of the static array. -/
theorem Supplies.isDynamicMemory_eq (supplies : mem.Supplies item) :
    mem.isDynamicMemory item = true ↔ ¬ item.IsStatic := by
  cases supplies with
  | static kept => simp [kept, ItemAddress.IsStatic]
  | dynamic itemInUse entityInUse data freed => simp [freed, ItemAddress.IsStatic]

/-- Of items that are apart, some are apart. -/
theorem Apart.mono {held' : List ItemAddress} (apart : mem.Apart held)
    (kept : ∀ item ∈ held', item ∈ held) (sameData : next.data = mem.data) :
    next.Apart held' := by
  intro block block' entity inside inside' data
  rw [sameData] at data ⊢
  exact apart (kept _ inside) (kept _ inside') data

/-- With a free item `get_memory` hands it out. -/
theorem Tended.take (tended : mem.Tended (item :: free) held) (itemBlock entityBlock : Nat) :
    ∃ next, mem.getMemory itemBlock entityBlock = (some item, next) ∧
      next.Tended free (item :: held) := by
  obtain ⟨next, taken, lists, relinks⟩ := getMemory_of_cons tended.lists itemBlock entityBlock
  obtain ⟨isStatic, kept⟩ := tended.free item List.mem_cons_self
  refine ⟨next, taken, lists, ?_, ?_, ?_⟩
  · intro other isFree
    rw [relinks.isDynamicMemory]
    exact tended.free other (List.mem_cons_of_mem _ isFree)
  · intro other inside
    rcases List.mem_cons.mp inside with rfl | inside
    · cases other with
      | dynamic block => exact isStatic.elim
      | member entity =>
          cases entity with
          | dynamic block => exact isStatic.elim
          | static index => exact .static (relinks.isDynamicMemory ▸ kept)
    · exact (tended.supplies other inside).relinks relinks
  · intro block block' entity inside inside' data
    have old : ∀ {block : Nat}, ItemAddress.dynamic block ∈ item :: held →
        .dynamic block ∈ held := by
      intro block inside
      rcases List.mem_cons.mp inside with rfl | inside
      · exact isStatic.elim
      · exact inside
    rw [relinks.data] at data ⊢
    exact tended.apart (old inside) (old inside') data

/-- The flag of an item that the pool was grown by. -/
theorem isDynamicMemory_of_grows (empty : mem.hasMemory = false)
    (grows : mem.isDynamicAllowed = true) (itemBlock entityBlock : Nat) :
    (mem.getMemory itemBlock entityBlock).2.isDynamicMemory (.dynamic itemBlock) = true := by
  have takes : ∀ mem : DynamicMempool, mem.takeFree.2.isDynamicMemory = mem.isDynamicMemory := by
    intro mem
    unfold takeFree
    split
    · rfl
    · rfl
  rw [getMemory_of_grows empty grows, takes]
  exact Function.update_self ..

/-- A grown item that is held lies in a block of the pool. -/
theorem Tended.item_inUse (tended : mem.Tended free held) {block : Nat}
    (inside : .dynamic block ∈ held) : block ∈ mem.blocks := by
  cases tended.supplies _ inside with
  | dynamic itemInUse entityInUse data freed => exact itemInUse

/-- So does its entity. -/
theorem Tended.entity_inUse (tended : mem.Tended free held) {block entity : Nat}
    (inside : .dynamic block ∈ held) (data : mem.data (.dynamic block) = some (.dynamic entity)) :
    entity ∈ mem.blocks := by
  cases tended.supplies _ inside with
  | dynamic itemInUse entityInUse data' freed =>
      cases data.symm.trans data'
      exact entityInUse

/-- The item in a dynamic entity is not handed out. -/
theorem Tended.inner_outside (tended : mem.Tended free held) (block : Nat) :
    ItemAddress.member (.dynamic block) ∉ held := by
  intro inside
  cases tended.supplies _ inside

/-- Growing a pool takes no item from its entity. -/
theorem Supplies.grows {itemBlock entityBlock : Nat} (supplies : mem.Supplies item)
    (grown : mem.Grows next itemBlock entityBlock) (sameData : next.data item = mem.data item)
    (sameFlag : next.isDynamicMemory item = mem.isDynamicMemory item) : next.Supplies item := by
  cases supplies with
  | static isKept => exact .static (sameFlag.trans isKept)
  | dynamic itemInUse entityInUse data freed =>
      exact .dynamic (grown.mem_blocks itemInUse) (grown.mem_blocks entityInUse)
        (sameData.trans data) (sameFlag.trans freed)

/-- Two blocks that are not in use keep the blocks apart. -/
theorem Tended.apart_cons (tended : mem.Tended free held) {itemBlock entityBlock : Nat}
    (different : itemBlock ≠ entityBlock) (freshItem : itemBlock ∉ mem.blocks)
    (freshEntity : entityBlock ∉ mem.blocks)
    (data : next.data (.dynamic itemBlock) = some (.dynamic entityBlock))
    (kept : ∀ item ∈ held, next.data item = mem.data item) :
    next.Apart (.dynamic itemBlock :: held) := by
  intro block block' entity inside inside' isEntity
  rcases List.mem_cons.mp inside with isNew | inside
  · cases isNew
    cases data.symm.trans isEntity
    rcases List.mem_cons.mp inside' with isNew' | inside'
    · cases isNew'
      exact ⟨different.symm, fun _ => rfl⟩
    · refine ⟨fun same => freshEntity (same ▸ tended.item_inUse inside'), fun isEntity' => ?_⟩
      rw [kept _ inside'] at isEntity'
      exact absurd (tended.entity_inUse inside' isEntity') freshEntity
  · rw [kept _ inside] at isEntity
    have inUse := tended.entity_inUse inside isEntity
    rcases List.mem_cons.mp inside' with isNew' | inside'
    · cases isNew'
      refine ⟨fun same => freshItem (same ▸ inUse), fun isEntity' => ?_⟩
      cases data.symm.trans isEntity'
      exact absurd inUse freshEntity
    · rw [kept _ inside']
      exact tended.apart inside inside' isEntity

/-- Without a free item `get_memory` grows the pool and hands out the new one. -/
theorem Tended.grow (tended : mem.Tended [] held) (grows : mem.isDynamicAllowed = true)
    {itemBlock entityBlock : Nat} (different : itemBlock ≠ entityBlock)
    (freshItem : itemBlock ∉ mem.blocks) (freshEntity : entityBlock ∉ mem.blocks) :
    ∃ next, mem.getMemory itemBlock entityBlock = (some (.dynamic itemBlock), next) ∧
      next.Tended [] (.dynamic itemBlock :: held) := by
  have outside : ItemAddress.dynamic itemBlock ∉ held :=
    fun inside => freshItem (tended.item_inUse inside)
  have outside' := tended.inner_outside entityBlock
  have freed := isDynamicMemory_of_grows tended.lists.hasMemory_eq grows itemBlock entityBlock
  obtain ⟨next, taken, lists, grown⟩ := getMemory_of_nil tended.lists grows outside outside'
  rw [taken] at freed
  have kept : ∀ item ∈ held, next.data item = mem.data item ∧
      next.isDynamicMemory item = mem.isDynamicMemory item := by
    intro item inside
    refine grown.others item ?_ ?_
    · intro same
      exact outside (same ▸ inside)
    · intro same
      exact outside' (same ▸ inside)
  refine ⟨next, taken, lists, fun _ isFree => absurd isFree List.not_mem_nil, ?_, ?_⟩
  · intro item inside
    rcases List.mem_cons.mp inside with rfl | inside
    · exact .dynamic (by simp [grown.blocks]) (by simp [grown.blocks]) grown.item freed
    · obtain ⟨sameData, sameFlag⟩ := kept item inside
      exact (tended.supplies item inside).grows grown sameData sameFlag
  · exact tended.apart_cons different freshItem freshEntity grown.item fun item inside =>
      (kept item inside).1

/-- An item of the static array that is put back is the first free one. -/
theorem Tended.putStatic (tended : mem.Tended free held) (inside : item ∈ held)
    (isStatic : item.IsStatic) : (mem.putMemory item).Tended (item :: free) (held.erase item) := by
  have kept : mem.isDynamicMemory item = false := by
    rw [← Bool.not_eq_true, (tended.supplies item inside).isDynamicMemory_eq, not_not]
    exact isStatic
  have relinks := putMemory_relinks kept
  refine ⟨putMemory_of_allocated tended.lists inside kept, ?_, ?_, ?_⟩
  · intro other isFree
    rw [relinks.isDynamicMemory]
    rcases List.mem_cons.mp isFree with rfl | isFree
    · exact ⟨isStatic, kept⟩
    · exact tended.free other isFree
  · intro other stays
    exact (tended.supplies other (List.mem_of_mem_erase stays)).relinks relinks
  · exact tended.apart.mono (fun _ => List.mem_of_mem_erase) relinks.data

/-- The item that is taken out of the allocated list is gone from it. -/
theorem unlinkItem_lists (lists : mem.Lists free held) (inside : item ∈ held) :
    (mem.unlinkItem item).Lists free (held.erase item) := by
  have unlinked := lists.unlink inside
  rw [← lists.unlink_self inside] at unlinked
  exact unlinked

/-- An item the pool was grown by that is put back is on no list any more. -/
theorem Tended.putDynamic (tended : mem.Tended free held) {block : Nat}
    (inside : .dynamic block ∈ held) :
    (mem.putMemory (.dynamic block)).Tended free (held.erase (.dynamic block)) := by
  cases tended.supplies _ inside with
  | @dynamic _ entity itemInUse entityInUse data freed =>
    have frees : mem.putMemory (.dynamic block) =
        { mem.unlinkItem (.dynamic block) with
          blocks := (mem.blocks.erase entity).erase block } := by
      rw [putMemory_of_dynamic freed, freeDynamic, show (mem.unlinkItem _).data = mem.data from rfl,
        data]
      rfl
    have stays : ∀ {item}, item ∈ held.erase (.dynamic block) →
        item ∈ held ∧ item ≠ .dynamic block := by
      intro item stays
      have nodup := (List.nodup_append.mp tended.lists.nodup).2.1
      have both := nodup.mem_erase_iff.mp stays
      exact ⟨both.2, both.1⟩
    rw [frees]
    refine ⟨unlinkItem_lists tended.lists inside, tended.free, ?_, ?_⟩
    · intro item inside'
      obtain ⟨held', different⟩ := stays inside'
      cases tended.supplies item held' with
      | static kept => exact .static kept
      | @dynamic block' entity' itemInUse' entityInUse' data' freed' =>
          obtain ⟨apart, -⟩ := tended.apart inside held' data
          obtain ⟨apart', exclusive⟩ := tended.apart held' inside data'
          have blocksDiffer : block' ≠ block := fun same => different (same ▸ rfl)
          have entitiesDiffer : entity' ≠ entity := fun same =>
            blocksDiffer (exclusive (same ▸ data))
          refine .dynamic ?_ ?_ data' freed'
          · exact (List.mem_erase_of_ne blocksDiffer).mpr
              ((List.mem_erase_of_ne apart.symm).mpr itemInUse')
          · exact (List.mem_erase_of_ne apart').mpr
              ((List.mem_erase_of_ne entitiesDiffer).mpr entityInUse')
    · exact tended.apart.mono (fun _ => List.mem_of_mem_erase) rfl

/-- `get_memory` hands out an item to its caller, or none. -/
theorem Tended.get (tended : mem.Tended free held) {itemBlock entityBlock : Nat}
    (different : itemBlock ≠ entityBlock) (freshItem : itemBlock ∉ mem.blocks)
    (freshEntity : entityBlock ∉ mem.blocks) :
    ∃ free', (mem.getMemory itemBlock entityBlock).2.Tended free'
      ((mem.getMemory itemBlock entityBlock).1.toList ++ held) := by
  cases free with
  | cons item free =>
      obtain ⟨next, taken, tended'⟩ := tended.take itemBlock entityBlock
      rw [taken]
      exact ⟨free, tended'⟩
  | nil =>
      cases grows : mem.isDynamicAllowed with
      | true =>
          obtain ⟨next, taken, tended'⟩ := tended.grow grows different freshItem freshEntity
          rw [taken]
          exact ⟨[], tended'⟩
      | false =>
          rw [getMemory_of_ungrown tended.lists.hasMemory_eq grows]
          exact ⟨[], tended⟩

/-- `put_memory` takes an item back from its caller. -/
theorem Tended.put (tended : mem.Tended free held) (inside : item ∈ held) :
    ∃ free', (mem.putMemory item).Tended free' (held.erase item) := by
  by_cases isStatic : item.IsStatic
  · exact ⟨item :: free, tended.putStatic inside isStatic⟩
  · cases tended.supplies item inside with
    | static kept => exact absurd trivial isStatic
    | dynamic itemInUse entityInUse data freed => exact ⟨free, tended.putDynamic inside⟩

/-- The pool after its initialisation. -/
theorem tended_initMemory (size : Nat) (growth : Bool) :
    ∃ free, Tended { initMemory {} size with isDynamicAllowed := growth } free [] := by
  obtain ⟨fresh, -⟩ := initMemory_fresh size
  refine ⟨_, fresh.lists, ?_, ?_, ?_⟩
  · intro item isFree
    obtain ⟨index, -, rfl⟩ := List.mem_map.mp isFree
    exact ⟨trivial, congrFun fresh.isDynamicMemory _⟩
  · intro item inside
    cases inside
  · intro block block' entity inside
    cases inside

end DynamicMempool

end RmwMicroxrcedds
