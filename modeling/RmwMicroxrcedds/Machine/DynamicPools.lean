import RmwMicroxrcedds.Library.Machine
import RmwMicroxrcedds.Memory.DynamicMempool
import RmwMicroxrcedds.Refinement.Basic

/-! # Runs of the pools with dynamic allocations

The pools as a machine of successful creations and destructions, in any order. What the API
does to the pools is a sequence of these steps: a publisher is created with its topic, and a
node is destroyed with everything on it.
-/

namespace RmwMicroxrcedds

open Outcome IntrusiveList

/-- An entity that a live handle uses, and the item `get_memory` returned for it. -/
structure Use where
  entity : EntityAddress
  item : ItemAddress
deriving DecidableEq

/-- A pool with what is in use, last created first. -/
structure PoolInUse where
  mem : DynamicMempool
  uses : List Use := []

namespace PoolInUse

/-- A creation: `get_memory`, and the entity its item points to goes to the new handle. -/
def create (p : PoolInUse) (itemBlock entityBlock : Nat) : Exec PoolInUse :=
  match p.mem.getMemory itemBlock entityBlock with
  | (none, mem) => .ok { p with mem := mem }
  | (some item, mem) =>
      match mem.data item with
      | none => .error .nullDereference
      | some entity => .ok ⟨mem, ⟨entity, item⟩ :: p.uses⟩

/-- A destruction: `rmw_uxrce_fini_*_memory` on the entity of the handle. -/
def destroy (p : PoolInUse) (entity : EntityAddress) : PoolInUse :=
  ⟨p.mem.putMemory (.member entity), p.uses.eraseP (·.entity = entity)⟩

end PoolInUse

/-- A creation, with the blocks the allocator would return, or a destruction. -/
inductive PoolOp where
  | create (pool : Pool) (itemBlock entityBlock : Nat)
  | destroy (pool : Pool) (entity : EntityAddress)

abbrev Pools := Pool → PoolInUse

namespace Pools

/-- The pools after `rmw_init` over zeroed arrays; the one of the input buffers is not
grown. -/
def start (cfg : Config) : Pools := fun pool =>
  let mem := DynamicMempool.initMemory {} (cfg.poolSize pool)
  ⟨if pool = .staticBuffer then { mem with isDynamicAllowed := false } else mem, []⟩

def step : PoolOp → Pools → Exec Pools
  | .create pool itemBlock entityBlock, pools => do
      let next ← (pools pool).create itemBlock entityBlock
      .ok (Function.update pools pool next)
  | .destroy pool entity, pools =>
      .ok (Function.update pools pool ((pools pool).destroy entity))

/-- A creation succeeds, with memory from an allocator that returns blocks not in use; a
destruction is of what a live handle uses. -/
def Enabled (pools : Pools) : PoolOp → Prop
  | .create pool itemBlock entityBlock =>
      ((pools pool).mem.getMemory itemBlock entityBlock).1.isSome = true ∧
        itemBlock ≠ entityBlock ∧ itemBlock ∉ (pools pool).mem.blocks ∧
        entityBlock ∉ (pools pool).mem.blocks
  | .destroy pool entity => ∃ use ∈ (pools pool).uses, use.entity = entity

/-- The machine of the pools. -/
def machine (cfg : Config) : Machine Pools PoolOp Fault where
  start := start cfg
  step := step
  enabled := Enabled

end Pools

/-- How a pool has an entity for a live handle: in the static array with the item in it, or in
a block with its item in another, while the item in it was never used. -/
inductive DynamicMempool.Serves (mem : DynamicMempool) : Use → Prop
  | static {index : Nat} (inside : index < mem.size) :
      Serves mem ⟨.static index, .member (.static index)⟩
  | dynamic {itemBlock entityBlock : Nat} (item : itemBlock ∈ mem.blocks)
      (entity : entityBlock ∈ mem.blocks)
      (data : mem.data (.dynamic itemBlock) = some (.dynamic entityBlock))
      (inner : mem.data (.member (.dynamic entityBlock)) = none)
      (kept : mem.isDynamicMemory (.member (.dynamic entityBlock)) = false) :
      Serves mem ⟨.dynamic entityBlock, .dynamic itemBlock⟩

namespace DynamicMempool

variable {mem next : DynamicMempool} {use : Use} {itemBlock entityBlock : Nat}

/-- A pool that only differs in its links serves the same. -/
theorem Serves.relinks (serves : mem.Serves use)
    (relinks : mem.Relinks next) : next.Serves use := by
  cases serves with
  | static inside =>
      exact .static (relinks.size ▸ inside)
  | dynamic item entity data inner kept =>
      rw [← relinks.blocks] at item entity
      rw [← relinks.data] at data inner
      rw [← relinks.isDynamicMemory] at kept
      exact .dynamic item entity data inner kept

/-- A grown pool still serves what it served, when the two blocks were not in use. -/
theorem Serves.grows (serves : mem.Serves use)
    (grows : mem.Grows next itemBlock entityBlock) (freshItem : itemBlock ∉ mem.blocks)
    (freshEntity : entityBlock ∉ mem.blocks) : next.Serves use := by
  cases serves with
  | static inside =>
      exact .static (grows.size ▸ inside)
  | dynamic item entity data inner isKept =>
      rename_i block block'
      have item' :=
        grows.others (.dynamic block) (fun same => freshItem (by cases same; exact item))
        (fun same => by cases same)
      have inner' := grows.others (.member (.dynamic block')) (fun same => by cases same)
        (fun same => freshEntity (by cases same; exact entity))
      exact .dynamic (grows.mem_blocks item) (grows.mem_blocks entity)
        (item'.1.trans data) (inner'.1.trans inner)
        (inner'.2.trans isKept)

end DynamicMempool

namespace PoolInUse

/-- The item in an element of the static array. -/
def staticItem (index : Nat) : ItemAddress := .member (.static index)

/-- A pool of which only static entities were ever given back. -/
structure Tidy (p : PoolInUse) (free : List Nat) : Prop where
  lists : p.mem.Lists (free.map staticItem) (p.uses.map Use.item)
  inside : ∀ index ∈ free, index < p.mem.size
  data : ∀ index < p.mem.size, p.mem.data (staticItem index) = some (.static index) ∧
    p.mem.isDynamicMemory (staticItem index) = false
  serves : ∀ use ∈ p.uses, p.mem.Serves use
  exclusive : (p.uses.map Use.entity).Nodup

variable {p : PoolInUse} {free : List Nat} {use : Use} {index itemBlock entityBlock : Nat}

/-- The item of a static entity is the one in it. -/
theorem Tidy.item_of_static (tidy : p.Tidy free) (inUse : use ∈ p.uses) :
    use.entity = .static index ↔ use.item = staticItem index := by
  cases tidy.serves use inUse with
  | static inside => simp [staticItem]
  | dynamic item entity data inner kept => simp [staticItem]

/-- A free entity is used by no live handle. -/
theorem Tidy.not_used (tidy : p.Tidy free) (isFree : index ∈ free) (inUse : use ∈ p.uses) :
    use.entity ≠ .static index := by
  intro same
  apply tidy.lists.disjoint (List.mem_map_of_mem isFree)
  rw [← (tidy.item_of_static inUse).mp same]
  exact List.mem_map_of_mem inUse

/-- A tidy pool with a free entity hands it out. -/
theorem Tidy.create_of_cons (tidy : p.Tidy (index :: free)) :
    Yields (p.create itemBlock entityBlock) fun next => next.Tidy free := by
  obtain ⟨next, taken, lists, relinks⟩ :=
    DynamicMempool.getMemory_of_cons tidy.lists itemBlock entityBlock
  have inside := tidy.inside index List.mem_cons_self
  have data := (tidy.data index inside).1
  simp only [create, taken, relinks.data, data, yields_ok]
  refine ⟨lists, ?_, ?_, ?_, ?_⟩
  · intro other isFree
    rw [relinks.size]
    exact tidy.inside other (List.mem_cons_of_mem _ isFree)
  · rw [relinks.size, relinks.data, relinks.isDynamicMemory]
    exact tidy.data
  · intro use inUse
    rcases List.mem_cons.mp inUse with rfl | inUse
    · exact .static (relinks.size ▸ inside)
    · exact (tidy.serves use inUse).relinks relinks
  · refine List.nodup_cons.mpr ⟨?_, tidy.exclusive⟩
    intro used
    obtain ⟨use, inUse, same⟩ := List.mem_map.mp used
    exact tidy.not_used List.mem_cons_self inUse same

/-- The blocks of what is used are in use. -/
theorem Tidy.item_inside (tidy : p.Tidy free) {block : Nat} (inUse : use ∈ p.uses)
    (isItem : use.item = .dynamic block) : block ∈ p.mem.blocks := by
  cases tidy.serves use inUse with
  | static inside => cases isItem
  | dynamic item entity data inner kept =>
      cases isItem
      exact item

/-- A grown entity in use lies in a block of the pool. -/
theorem Tidy.entity_inside (tidy : p.Tidy free) {block : Nat} (inUse : use ∈ p.uses)
    (isEntity : use.entity = .dynamic block) : block ∈ p.mem.blocks := by
  cases tidy.serves use inUse with
  | static inside => cases isEntity
  | dynamic item entity data inner kept =>
      cases isEntity
      exact entity

/-- The item in a dynamic entity is on no list. -/
theorem Tidy.inner_outside (tidy : p.Tidy free) (block : Nat) :
    ItemAddress.member (.dynamic block) ∉ p.uses.map Use.item := by
  intro inside
  obtain ⟨use, inUse, isItem⟩ := List.mem_map.mp inside
  cases tidy.serves use inUse with
  | static inside => cases isItem
  | dynamic item entity data inner kept => cases isItem

/-- A tidy pool without a free entity hands out a new one. -/
theorem Tidy.create_of_nil (tidy : p.Tidy []) (dynamic : p.mem.isDynamicAllowed = true)
    (freshItem : itemBlock ∉ p.mem.blocks) (freshEntity : entityBlock ∉ p.mem.blocks) :
    Yields (p.create itemBlock entityBlock) fun next => next.Tidy [] := by
  have outside : ItemAddress.dynamic itemBlock ∉ p.uses.map Use.item := by
    intro inside
    obtain ⟨use, inUse, isItem⟩ := List.mem_map.mp inside
    exact freshItem (tidy.item_inside inUse isItem)
  obtain ⟨next, taken, lists, grows⟩ :=
    DynamicMempool.getMemory_of_nil tidy.lists dynamic outside (tidy.inner_outside entityBlock)
  simp only [create, taken, grows.item, yields_ok]
  refine ⟨lists, ?_, ?_, ?_, ?_⟩
  · intro index isFree
    cases isFree
  · intro index inside
    obtain ⟨data, kept⟩ := grows.others (staticItem index) (fun same => by cases same)
      (fun same => by cases same)
    rw [grows.size] at inside
    rw [data, kept]
    exact tidy.data index inside
  · intro use inUse
    rcases List.mem_cons.mp inUse with rfl | inUse
    · have isItem : itemBlock ∈ next.blocks := by simp [grows.blocks]
      have isEntity : entityBlock ∈ next.blocks := by simp [grows.blocks]
      exact .dynamic isItem isEntity grows.item grows.inner grows.innerKept
    · exact (tidy.serves use inUse).grows grows freshItem freshEntity
  · refine List.nodup_cons.mpr ⟨?_, tidy.exclusive⟩
    intro used
    obtain ⟨use, inUse, same⟩ := List.mem_map.mp used
    exact freshEntity (tidy.entity_inside inUse same)

/-- A tidy pool that returns an entity stays tidy. -/
theorem Tidy.create (tidy : p.Tidy free)
    (succeeds : (p.mem.getMemory itemBlock entityBlock).1.isSome = true)
    (freshItem : itemBlock ∉ p.mem.blocks) (freshEntity : entityBlock ∉ p.mem.blocks) :
    Yields (p.create itemBlock entityBlock) fun next => ∃ free', next.Tidy free' := by
  cases free with
  | cons index free => exact tidy.create_of_cons.mono fun next tidy' => ⟨free, tidy'⟩
  | nil =>
      have dynamic : p.mem.isDynamicAllowed = true := by
        by_contra ungrown
        rw [Bool.not_eq_true] at ungrown
        rw [DynamicMempool.getMemory_of_ungrown tidy.lists.hasMemory_eq ungrown] at succeeds
        cases succeeds
      exact (tidy.create_of_nil dynamic freshItem freshEntity).mono
        fun next tidy' => ⟨[], tidy'⟩

/-- Giving a static entity back takes its item, and no other, from the items in use. -/
theorem Tidy.map_eraseP (tidy : p.Tidy free) :
    (p.uses.eraseP (·.entity = .static index)).map Use.item =
      (p.uses.map Use.item).erase (staticItem index) := by
  have each : ∀ use ∈ p.uses, use.entity = .static index ↔ use.item = staticItem index :=
    fun _ inUse => tidy.item_of_static inUse
  generalize p.uses = uses at each
  induction uses with
  | nil => rfl
  | cons use uses ih =>
      have same := each use List.mem_cons_self
      have rest := ih fun use inUse => each use (List.mem_cons_of_mem _ inUse)
      by_cases isItem : use.item = staticItem index
      · simp [isItem, same.mpr isItem]
      · have isEntity : ¬ use.entity = .static index := fun isEntity => isItem (same.mp isEntity)
        simp [isItem, isEntity, rest]

/-- A tidy pool that gets a static entity back stays tidy. -/
theorem Tidy.destroy (tidy : p.Tidy free) (inUse : use ∈ p.uses)
    (isStatic : use.entity = .static index) :
    (p.destroy (.static index)).Tidy (index :: free) := by
  have isItem := (tidy.item_of_static inUse).mp isStatic
  have inside : index < p.mem.size := by
    cases tidy.serves use inUse with
    | static inside =>
        cases isStatic
        exact inside
    | dynamic item entity data inner kept => cases isStatic
  have allocated : staticItem index ∈ p.uses.map Use.item := isItem ▸ List.mem_map_of_mem inUse
  have kept := (tidy.data index inside).2
  have lists := DynamicMempool.putMemory_of_allocated tidy.lists allocated kept
  have relinks : p.mem.Relinks (p.destroy (.static index)).mem :=
    DynamicMempool.putMemory_relinks kept
  rw [← tidy.map_eraseP] at lists
  refine ⟨lists, ?_, ?_, ?_, ?_⟩
  · intro other isFree
    rw [relinks.size]
    rcases List.mem_cons.mp isFree with rfl | isFree
    · exact inside
    · exact tidy.inside other isFree
  · rw [relinks.size, relinks.data, relinks.isDynamicMemory]
    exact tidy.data
  · intro use inUse
    exact (tidy.serves use (List.mem_of_mem_eraseP inUse)).relinks relinks
  · exact tidy.exclusive.sublist ((List.eraseP_sublist).map _)

end PoolInUse

namespace Pools

/-- Every pool is tidy. -/
def Tidy (pools : Pools) : Prop := ∀ pool, ∃ free, (pools pool).Tidy free

/-- The pools start tidy. -/
theorem start_tidy (cfg : Config) : (start cfg).Tidy := by
  intro pool
  obtain ⟨fresh, size⟩ := DynamicMempool.initMemory_fresh (cfg.poolSize pool)
  have tidy : PoolInUse.Tidy ⟨DynamicMempool.initMemory {} (cfg.poolSize pool), []⟩
      (List.range (cfg.poolSize pool)).reverse := by
    refine ⟨fresh.lists, ?_, ?_, ?_, List.nodup_nil⟩
    · intro index isFree
      rw [size]
      simpa using isFree
    · intro index inside
      rw [size] at inside
      exact ⟨fresh.data index inside, congrFun fresh.isDynamicMemory _⟩
    · intro use inUse
      cases inUse
  refine ⟨(List.range (cfg.poolSize pool)).reverse, ?_⟩
  unfold start
  dsimp only
  split
  · exact ⟨tidy.lists, tidy.inside, tidy.data, fun _ inUse => (List.not_mem_nil inUse).elim,
      tidy.exclusive⟩
  · exact tidy

end Pools

end RmwMicroxrcedds
