import RmwMicroxrcedds.Machine.DynamicPools
import RmwMicroxrcedds.Machine.Run

/-! # Pools that are grown

As long as only static entities are destroyed, every free item points to an entity that no
live handle uses, and creations and destructions do what they should. Destroying an entity
that was dynamically allocated puts the item in it, which points to nothing, in the free list
and leaves the item it was taken with in the allocated one.
-/

namespace RmwMicroxrcedds

open Outcome

namespace PoolInUse

/-- Every free item points to an entity struct of the pool that no live handle uses, and every
live handle has an entity struct of the pool to itself, taken with an allocated item. -/
structure Sound (p : PoolInUse) (free allocated : List ItemAddress) : Prop where
  lists : p.mem.Lists free allocated
  free : ∀ item ∈ free, ∃ entity, p.mem.data item = some entity ∧ p.mem.IsEntity entity ∧
    ∀ use ∈ p.uses, use.entity ≠ entity
  uses : ∀ use ∈ p.uses, use.item ∈ allocated ∧ p.mem.IsEntity use.entity
  exclusive : (p.uses.map Use.entity).Nodup

/-- A creation gives a new handle the entity that its item points to. -/
def Provided (p next : PoolInUse) : Prop :=
  ∃ use, next.uses = use :: p.uses ∧ next.mem.data use.item = some use.entity

/-- A destruction removes the very item the entity was taken with from the allocated list; an
entity that was dynamically allocated is freed and on neither list any more. -/
def Released (p next : PoolInUse) (entity : EntityAddress) : Prop :=
  ∃ use ∈ p.uses, use.entity = entity ∧ ∃ free allocated free',
    p.mem.Lists free allocated ∧ use.item ∈ allocated ∧
    next.mem.Lists free' (allocated.erase use.item) ∧
    ∀ block, entity = .dynamic block → block ∉ next.mem.blocks ∧
      ∀ item ∈ free' ++ allocated.erase use.item,
        item ≠ .member entity ∧ next.mem.data item ≠ some entity

variable {p : PoolInUse} {free : List Nat}

theorem Tidy.sound (tidy : p.Tidy free) :
    p.Sound (free.map staticItem) (p.uses.map Use.item) where
  lists := tidy.lists
  free := by
    intro item isFree
    obtain ⟨index, inFree, rfl⟩ := List.mem_map.mp isFree
    have inside := tidy.inside index inFree
    exact ⟨.static index, (tidy.data index inside).1, inside, fun _ => tidy.not_used inFree⟩
  uses := by
    intro use inUse
    refine ⟨List.mem_map_of_mem inUse, ?_⟩
    cases tidy.serves use inUse with
    | static inside => exact inside
    | dynamic item entity data inner kept => exact entity
  exclusive := tidy.exclusive

/-- A creation that returns with an item provides the entity of the item. -/
theorem provided_of_create {next : PoolInUse} {itemBlock entityBlock : Nat}
    (succeeds : (p.mem.getMemory itemBlock entityBlock).1.isSome = true)
    (returned : p.create itemBlock entityBlock = .ok next) : p.Provided next := by
  unfold create at returned
  rcases isGot : p.mem.getMemory itemBlock entityBlock with ⟨_ | item, mem⟩
  · rw [isGot] at succeeds
    cases succeeds
  · rw [isGot] at returned
    dsimp only at returned
    split at returned
    · cases returned
    · rename_i entity data
      cases returned
      exact ⟨⟨entity, item⟩, rfl, data⟩

/-- Destroying an entity of the static array releases it. -/
theorem Tidy.released (tidy : p.Tidy free) {index : Nat} {use : Use} (inUse : use ∈ p.uses)
    (isStatic : use.entity = .static index) :
    p.Released (p.destroy (.static index)) (.static index) := by
  refine ⟨use, inUse, isStatic, free.map staticItem, p.uses.map Use.item,
    (index :: free).map staticItem, tidy.lists, List.mem_map_of_mem inUse, ?_, ?_⟩
  · rw [(tidy.item_of_static inUse).mp isStatic, ← tidy.map_eraseP]
    exact (tidy.destroy inUse isStatic).lists
  · intro block isDynamic
    cases isDynamic

/-- A pool whose first free item points to nothing is not sound. -/
theorem not_sound_of_null {item : ItemAddress} (head : p.mem.freeitems = some item)
    (null : p.mem.data item = none) (free allocated : List ItemAddress) :
    ¬ p.Sound free allocated := by
  intro sound
  have isFree : item ∈ free := by
    apply List.mem_of_head?
    rw [← sound.lists.first.head_eq, head]
  obtain ⟨entity, data, -⟩ := sound.free item isFree
  rw [null] at data
  cases data

/-- Destroying an entity that was dynamically allocated leaves a free item that points to
nothing. -/
theorem Tidy.destroy_dynamic (tidy : p.Tidy free) {block : Nat} {use : Use} (inUse : use ∈ p.uses)
    (isDynamic : use.entity = .dynamic block) (free' allocated : List ItemAddress) :
    ¬ (p.destroy (.dynamic block)).Sound free' allocated := by
  obtain ⟨inner, kept⟩ : p.mem.data (.member (.dynamic block)) = none ∧
      p.mem.isDynamicMemory (.member (.dynamic block)) = false := by
    cases tidy.serves use inUse with
    | static inside => cases isDynamic
    | dynamic item entity data inner kept =>
        cases isDynamic
        exact ⟨inner, kept⟩
  have relinks : p.mem.Relinks (p.destroy (.dynamic block)).mem :=
    DynamicMempool.putMemory_relinks kept
  have head : (p.destroy (.dynamic block)).mem.freeitems = some (.member (.dynamic block)) := by
    rw [PoolInUse.destroy, DynamicMempool.putMemory_of_kept kept]
    rfl
  exact not_sound_of_null head (relinks.data ▸ inner) free' allocated

end PoolInUse

namespace Pools

/-- Every pool is sound. -/
def Sound (pools : Pools) : Prop := ∀ pool, ∃ free allocated, (pools pool).Sound free allocated

/-- The step leaves sound pools and did what it should. -/
def Behaves (pools next : Pools) : PoolOp → Prop
  | .create pool _ _ => next.Sound ∧ (pools pool).Provided (next pool)
  | .destroy pool entity => next.Sound ∧ (pools pool).Released (next pool) entity

/-- Not the destruction of an entity that was dynamically allocated. -/
def StaticOnly (_ : Pools) : PoolOp → Prop
  | .create _ _ _ => True
  | .destroy _ entity => ∃ index, entity = .static index

variable {pools : Pools} {op : PoolOp}

theorem Tidy.sound (tidy : pools.Tidy) : pools.Sound := by
  intro pool
  obtain ⟨free, tidy⟩ := tidy pool
  exact ⟨_, _, tidy.sound⟩

/-- Pools stay tidy when one of them is replaced by a tidy one. -/
theorem Tidy.update (tidy : pools.Tidy) {pool : Pool} {p : PoolInUse} {free : List Nat}
    (here : p.Tidy free) : Tidy (Function.update pools pool p) := by
  intro other
  by_cases same : other = pool
  · subst same
    rw [Function.update_self]
    exact ⟨free, here⟩
  · rw [Function.update_of_ne same]
    exact tidy other

/-- In tidy pools every enabled step that meets the condition behaves, and leaves tidy
pools. -/
theorem Tidy.step (tidy : pools.Tidy) (enabled : pools.Enabled op) (static : pools.StaticOnly op) :
    Yields (Pools.step op pools) fun next => next.Tidy ∧ pools.Behaves next op := by
  cases op with
  | create pool itemBlock entityBlock =>
      obtain ⟨succeeds, -, freshItem, freshEntity⟩ := enabled
      obtain ⟨free, here⟩ := tidy pool
      obtain ⟨next, returned, free', here'⟩ := here.create succeeds freshItem freshEntity
      have tidy' : Tidy (Function.update pools pool next) := tidy.update here'
      refine ⟨Function.update pools pool next, ?_, tidy', tidy'.sound, ?_⟩
      · rw [Pools.step, returned]
        rfl
      · rw [Function.update_self]
        exact PoolInUse.provided_of_create succeeds returned
  | destroy pool entity =>
      obtain ⟨index, rfl⟩ := static
      obtain ⟨use, inUse, isStatic⟩ := enabled
      obtain ⟨free, here⟩ := tidy pool
      have tidy' : Tidy (Function.update pools pool ((pools pool).destroy (.static index))) :=
        tidy.update (here.destroy inUse isStatic)
      refine ⟨_, rfl, tidy', tidy'.sound, ?_⟩
      rw [Function.update_self]
      exact here.released inUse isStatic

/-- The pools of every run in which no entity that was dynamically allocated is destroyed. -/
theorem tidy_of_reachable {cfg : Config} (reachable : Reachable (machine cfg) StaticOnly pools) :
    pools.Tidy :=
  reachable.invariant Tidy (start_tidy cfg) fun _ _ tidy enabled static =>
    (tidy.step enabled static).mono fun _ kept => kept.1

/-- In every run of successful creations and destructions that destroys no entity that was
dynamically allocated, the pools are sound in every state; and a further step leaves sound
pools and does what it should exactly when it is no such destruction either. -/
theorem sound_of_reachable {cfg : Config} (reachable : Reachable (machine cfg) StaticOnly pools) :
    pools.Sound ∧ ∀ op, pools.Enabled op →
      ((∃ next, step op pools = .ok next ∧ pools.Behaves next op) ↔ pools.StaticOnly op) := by
  have tidy := tidy_of_reachable reachable
  refine ⟨tidy.sound, fun op enabled => ⟨?_, ?_⟩⟩
  · intro behaves
    obtain ⟨next, returned, behaves⟩ := behaves
    cases op with
    | create pool itemBlock entityBlock => trivial
    | destroy pool entity =>
        cases entity with
        | static index => exact ⟨index, rfl⟩
        | dynamic block =>
            obtain ⟨use, inUse, isDynamic⟩ := enabled
            obtain ⟨free, here⟩ := tidy pool
            cases returned
            obtain ⟨free', allocated, sound⟩ := behaves.1 pool
            rw [Function.update_self] at sound
            exact absurd sound (here.destroy_dynamic inUse isDynamic free' allocated)
  · intro static
    obtain ⟨next, returned, -, behaves⟩ := tidy.step enabled static
    exact ⟨next, returned, behaves⟩

end Pools

namespace Small

open Pools

/-- A node, and a subscription with its topic, in a build with room for one subscription. -/
def filled : Pools :=
  [Pool.node, .topic, .subscription].foldl
    (fun pools pool => (machine config).next (.create pool 0 1) pools) (start config)

/-- A second subscription with its topic. -/
def grown : Pools :=
  [Pool.topic, .subscription].foldl
    (fun pools pool => (machine config).next (.create pool 0 1) pools) filled

/-- A creation that succeeds leads on. -/
theorem create_reachable {pools : Pools} (reachable : Reachable (machine config) StaticOnly pools)
    (pool : Pool) (succeeds : ((pools pool).mem.getMemory 0 1).1.isSome = true)
    (unused : (pools pool).mem.blocks = [])
    (returns : ((machine config).step (.create pool 0 1) pools).isOk = true) :
    Reachable (machine config) StaticOnly ((machine config).next (.create pool 0 1) pools) := by
  refine reachable.next ⟨succeeds, by decide, ?_, ?_⟩ trivial returns
  · rw [unused]
    exact List.not_mem_nil
  · rw [unused]
    exact List.not_mem_nil

theorem grown_reachable : Reachable (machine config) StaticOnly grown := by
  have node := create_reachable .start .node (by decide +kernel) (by decide +kernel)
    (by decide +kernel)
  have topic := create_reachable node .topic (by decide +kernel) (by decide +kernel)
    (by decide +kernel)
  have filled := create_reachable topic .subscription (by decide +kernel) (by decide +kernel)
    (by decide +kernel)
  have topic' := create_reachable filled .topic (by decide +kernel) (by decide +kernel)
    (by decide +kernel)
  exact create_reachable topic' .subscription (by decide +kernel) (by decide +kernel)
    (by decide +kernel)

/-- The second subscription is destroyed with its topic. -/
def shrunk : Pools :=
  (machine config).next (.destroy .subscription (.dynamic 1))
    ((machine config).next (.destroy .topic (.static 1)) grown)

end Small

/-- The pools are sound after two subscriptions were created, one more than there is room
for. -/
theorem sound_of_small_run : Small.grown.Sound ∧ ∀ op, Small.grown.Enabled op →
    ((∃ next, Pools.step op Small.grown = .ok next ∧ Small.grown.Behaves next op) ↔
      Small.grown.StaticOnly op) :=
  Pools.sound_of_reachable Small.grown_reachable

/-- When the second subscription is destroyed, the item it was taken with stays allocated, its
entity stays in the heap, and the first free item points to nothing: the next creation uses a
null entity. -/
theorem destroyed_entity_is_not_freed :
    (Small.grown .subscription).uses =
        [⟨.dynamic 1, .dynamic 0⟩, ⟨.static 0, .member (.static 0)⟩] ∧
      (Small.shrunk .subscription).uses = [⟨.static 0, .member (.static 0)⟩] ∧
      (Small.shrunk .subscription).mem.allocateditems = some (.dynamic 0) ∧
      (Small.shrunk .subscription).mem.blocks = [1, 0] ∧
      (Small.shrunk .subscription).mem.freeitems = some (.member (.dynamic 1)) ∧
      (Small.shrunk .subscription).mem.data (.member (.dynamic 1)) = none ∧
      ((Small.shrunk .subscription).create 2 3).map (fun _ => ()) = .error .nullDereference ∧
      ¬ Small.shrunk.Sound := by
  have free : (Small.shrunk .subscription).mem.freeitems = some (.member (.dynamic 1)) := by
    decide +kernel
  have data : (Small.shrunk .subscription).mem.data (.member (.dynamic 1)) = none := by
    decide +kernel
  refine ⟨by decide +kernel, by decide +kernel, by decide +kernel, by decide +kernel, free, data,
    by decide +kernel, ?_⟩
  intro sound
  obtain ⟨items, allocated, here⟩ := sound .subscription
  exact PoolInUse.not_sound_of_null free data items allocated here

end RmwMicroxrcedds
