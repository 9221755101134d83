import Mathlib.Data.List.Nodup
import RmwMicroxrcedds.Library.Traces

/-! # Pools of items

A pool hands out items and gets them back. What is given back last is handed out first, and
over a whole run the items stay the same. An implementation of a pool, whatever it keeps the
items in, is two operations that do this to the two lists it represents; beside it runs the
list of the items that were handed out and not given back.
-/

/-- The free items, first the one that is handed out next, and the allocated ones, first the
one that was handed out last. -/
structure ItemPool (Item : Type) where
  free : List Item
  allocated : List Item
  nodup : (free ++ allocated).Nodup

namespace ItemPool

/-- What a pool is asked for. -/
inductive Call (Item : Type) where
  | take
  | giveBack (item : Item)

variable {Item Pool : Type}

/-- A pool that has not handed out any item. -/
def full (items : List Item) (nodup : items.Nodup) : ItemPool Item :=
  ⟨items, [], by simpa using nodup⟩

/-- The first free item is handed out. -/
def take : ItemPool Item → Option Item × ItemPool Item
  | ⟨[], allocated, nodup⟩ => (none, ⟨[], allocated, nodup⟩)
  | ⟨item :: free, allocated, nodup⟩ =>
      (some item, ⟨free, item :: allocated, List.perm_middle.symm.nodup nodup⟩)

variable {pool last : ItemPool Item} {item : Item}

/-- Taking an item moves it from one list to the other. -/
theorem perm_take :
    (pool.take.2.free ++ pool.take.2.allocated).Perm (pool.free ++ pool.allocated) := by
  obtain ⟨free, allocated, nodup⟩ := pool
  cases free with
  | nil => exact List.Perm.refl _
  | cons item free => exact List.perm_middle

/-- No item is handed out exactly when all are allocated. -/
theorem take_eq_none_iff :
    pool.take.1 = none ↔ pool.allocated.length = (pool.free ++ pool.allocated).length := by
  obtain ⟨free, allocated, nodup⟩ := pool
  cases free with
  | nil => simp [take]
  | cons item free => simp [take]; omega

variable [DecidableEq Item]

/-- So does giving one back. -/
theorem perm_giveBack {free allocated : List Item} (inside : item ∈ allocated) :
    (item :: free ++ allocated.erase item).Perm (free ++ allocated) :=
  List.perm_middle.symm.trans ((List.perm_cons_erase inside).symm.append_left free)

/-- An allocated item is given back. -/
def giveBack (pool : ItemPool Item) (item : Item) : ItemPool Item :=
  if inside : item ∈ pool.allocated then
    ⟨item :: pool.free, pool.allocated.erase item, (perm_giveBack inside).symm.nodup pool.nodup⟩
  else pool

/-- What is handed out was free, and is the only item that moves. -/
theorem take_eq_some (takes : pool.take.1 = some item) :
    item ∈ pool.free ∧ pool.take.2.free = pool.free.erase item ∧
      pool.take.2.allocated = item :: pool.allocated := by
  obtain ⟨free, allocated, nodup⟩ := pool
  cases free with
  | nil => cases takes
  | cons first free =>
      cases takes
      exact ⟨List.mem_cons_self, (List.erase_cons_head ..).symm, rfl⟩

/-- Pools as a component. -/
def component : Component (ItemPool Item) (Call Item) (Option Item) Empty where
  call
    | .take, pool => .ok pool.take
    | .giveBack item, pool => .ok (none, pool.giveBack item)
  allowed pool
    | .take => True
    | .giveBack item => item ∈ pool.allocated

/-- The items of a pool stay the same over a run. -/
theorem perm_of_trace {calls : List (Call Item × Option Item)}
    (run : component.Trace pool calls last) :
    (last.free ++ last.allocated).Perm (pool.free ++ pool.allocated) := by
  induction run with
  | nil => exact List.Perm.refl _
  | @cons pool next last call answer rest allowed returns after ih =>
      refine ih.trans ?_
      cases call with
      | take =>
          have taken : pool.take = (answer, next) := Except.ok.inj returns
          have perm : (pool.take.2.free ++ pool.take.2.allocated).Perm
            (pool.free ++ pool.allocated) := perm_take
          rw [taken] at perm
          exact perm
      | giveBack item =>
          have inside : item ∈ pool.allocated := allowed
          cases returns
          rw [giveBack, dif_pos inside]
          exact perm_giveBack inside

/-- An implementation of a pool with the items its users hold, last handed out first. -/
structure Lent (Pool Item : Type) where
  pool : Pool
  held : List Item

/-- The users of an implementation give back what they hold. -/
def lending (handOut : Pool → Option Item × Pool) (getBack : Pool → Item → Pool) :
    Component (Lent Pool Item) (Call Item) (Option Item) Empty where
  call
    | .take, lent =>
        .ok ((handOut lent.pool).1,
          ⟨(handOut lent.pool).2, (handOut lent.pool).1.toList ++ lent.held⟩)
    | .giveBack item, lent => .ok (none, ⟨getBack lent.pool item, lent.held.erase item⟩)
  allowed lent
    | .take => True
    | .giveBack item => item ∈ lent.held

/-- What the operations of an implementation do to the two lists it represents. -/
structure Implements (handOut : Pool → Option Item × Pool) (getBack : Pool → Item → Pool)
    (represents : Pool → List Item → List Item → Prop) : Prop where
  handOut_nil : ∀ {pool allocated}, represents pool [] allocated →
    (handOut pool).1 = none ∧ represents (handOut pool).2 [] allocated
  handOut_cons : ∀ {pool item free allocated}, represents pool (item :: free) allocated →
    (handOut pool).1 = some item ∧ represents (handOut pool).2 free (item :: allocated)
  getBack : ∀ {pool item free allocated}, represents pool free allocated → item ∈ allocated →
    represents (getBack pool item) (item :: free) (allocated.erase item)

/-- The lists of the implementation are those of the pool, and its users hold what is
allocated. -/
def Implemented (represents : Pool → List Item → List Item → Prop) (lent : Lent Pool Item)
    (pool : ItemPool Item) : Prop :=
  represents lent.pool pool.free pool.allocated ∧ lent.held = pool.allocated

variable {handOut : Pool → Option Item × Pool} {getBack : Pool → Item → Pool}
  {represents : Pool → List Item → List Item → Prop} {lent : Lent Pool Item}

/-- An implementation hands out what the pool does. -/
theorem Implements.handOut_eq (implements : Implements handOut getBack represents)
    (here : Implemented represents lent pool) :
    (handOut lent.pool).1 = pool.take.1 ∧
      represents (handOut lent.pool).2 pool.take.2.free pool.take.2.allocated := by
  obtain ⟨free, allocated, nodup⟩ := pool
  cases free with
  | nil => exact implements.handOut_nil here.1
  | cons item free => exact implements.handOut_cons here.1

/-- An implementation simulates the pool. -/
theorem Implements.simulates (implements : Implements handOut getBack represents) :
    (lending handOut getBack).Simulates component (Implemented represents) where
  allowed := by
    intro lent pool call here allowed
    cases call with
    | take => trivial
    | giveBack item =>
        change item ∈ pool.allocated
        rw [← here.2]
        exact allowed
  returns := by
    intro lent pool call answer next here allowed returns
    cases call with
    | take =>
        obtain ⟨same, after⟩ := implements.handOut_eq here
        cases returns
        refine ⟨pool.take.2, by rw [same]; rfl, after, ?_⟩
        change (handOut lent.pool).1.toList ++ lent.held = pool.take.2.allocated
        rw [same, here.2]
        obtain ⟨_ | ⟨item, free⟩, allocated, nodup⟩ := pool
        · rfl
        · rfl
    | giveBack item =>
        have inside : item ∈ pool.allocated := by
          rw [← here.2]
          exact allowed
        cases returns
        refine ⟨pool.giveBack item, rfl, ?_⟩
        rw [giveBack, dif_pos inside]
        refine ⟨implements.getBack here.1 inside, ?_⟩
        change lent.held.erase item = pool.allocated.erase item
        rw [here.2]

end ItemPool
