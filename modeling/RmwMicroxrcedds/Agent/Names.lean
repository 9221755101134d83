import RmwMicroxrcedds.Refinement.Entities

/-! # The names in the handles

A handle is given its names when it is allocated, and keeps them until it is freed. No block is
used again, so what a block says of an entity is the same in every state in which the entity
has it.
-/

namespace RmwMicroxrcedds

open Outcome

variable {s s' s'' : Rmw} {pool : Pool} {handle slot : Nat} {result : Option Nat}
variable {contents : RmwHandle}

/-- The names in a handle: that of the node, the topic or the service, and the namespace of a
node. -/
structure Names where
  name : Option CString := none
  namespace_ : Option (Option CString) := none

def RmwHandle.names (handle : RmwHandle) : Names := ⟨handle.name, handle.namespace_⟩

/-- The names in a block of the heap. -/
def Rmw.namesIn (s : Rmw) (pool : Pool) (handle : Nat) : Option Names :=
  ((s.handles pool).block handle).map RmwHandle.names

/-- The names an entity was created with. -/
def Rmw.namesOf (s : Rmw) (pool : Pool) (handle : Nat) : Names :=
  (s.namesIn pool handle).getD {}

/-- The handles that are left have the names they had, and no block was used again. -/
structure KeepsNames (s s' : Rmw) : Prop where
  next : ∀ pool, (s.handles pool).next ≤ (s'.handles pool).next
  names : ∀ pool handle, handle < (s.handles pool).next → s'.namesIn pool handle = none ∨
    s'.namesIn pool handle = s.namesIn pool handle

namespace KeepsNames

/-- As long as no handle changes, every name is kept. -/
theorem of_handles (same : s'.handles = s.handles) : KeepsNames s s' where
  next := fun pool => by rw [same]
  names := fun pool handle _ => Or.inr (by rw [Rmw.namesIn, same, Rmw.namesIn])

/-- What keeps the names twice keeps them. -/
theorem trans (first : KeepsNames s s') (second : KeepsNames s' s'') : KeepsNames s s'' where
  next := fun pool => Nat.le_trans (first.next pool) (second.next pool)
  names := fun pool handle below => by
    rcases second.names pool handle (Nat.lt_of_lt_of_le below (first.next pool)) with freed | same
    · exact Or.inl freed
    · rw [same]
      exact first.names pool handle below

/-- The contents of one block change to something with the same names, or to nothing. -/
theorem storeHandle {contents : Option RmwHandle}
    (same : contents = none ∨ contents.map RmwHandle.names = s.namesIn pool handle) :
    KeepsNames s (s.storeHandle pool handle contents) where
  next := fun pool' => by
    by_cases isPool : pool' = pool
    · subst isPool
      simp [Rmw.storeHandle]
    · simp [Rmw.storeHandle, isPool]
  names := fun pool' handle' _ => by
    by_cases isPool : pool' = pool
    · subst isPool
      by_cases isHandle : handle' = handle
      · subst isHandle
        rcases same with rfl | same
        · exact Or.inl (by simp [Rmw.namesIn, Rmw.storeHandle])
        · exact Or.inr (by simpa [Rmw.namesIn, Rmw.storeHandle] using same)
      · exact Or.inr (by simp [Rmw.namesIn, Rmw.storeHandle, isHandle])
    · exact Or.inr (by simp [Rmw.namesIn, Rmw.storeHandle, isPool])

/-- The entity of a handle is entered. -/
theorem storeHandle_data (read : s.readHandle pool handle = .ok contents) (data : Option Nat) :
    KeepsNames s (s.storeHandle pool handle (some { contents with data := data })) := by
  refine storeHandle (Or.inr ?_)
  unfold Rmw.readHandle at read
  split at read
  · rename_i isBlock
    cases read
    rw [Rmw.namesIn, isBlock]
    rfl
  · cases read

/-- A new block is none of those there were. -/
theorem allocateHandle (s : Rmw) (pool : Pool) (contents : RmwHandle) :
    KeepsNames s (s.allocateHandle pool contents).2 where
  next := fun pool' => by
    by_cases isPool : pool' = pool
    · subst isPool
      simp [Rmw.allocateHandle]
    · simp [Rmw.allocateHandle, isPool]
  names := fun pool' handle below => by
    by_cases isPool : pool' = pool
    · subst isPool
      exact Or.inr (by simp [Rmw.namesIn, Rmw.allocateHandle, Nat.ne_of_lt below])
    · exact Or.inr (by simp [Rmw.namesIn, Rmw.allocateHandle, isPool])

end KeepsNames

/-- A handle in a block was allocated. -/
theorem Rmw.Healthy.allocated_of_bound {cfg : Config} {admits : Admission}
    (healthy : s.Healthy cfg admits) (bound : s.registry.Bound pool handle slot) :
    handle < (s.handles pool).next := by
  obtain ⟨contents, isBlock, -⟩ := healthy.block_of_data bound
  by_contra above
  rw [healthy.fresh pool handle (Nat.le_of_not_lt above)] at isBlock
  cases isBlock

/-- What had a handle, and has it still, has the names it had. -/
theorem KeepsNames.namesOf_eq (keeps : KeepsNames s s') {slot' : Nat}
    (below : handle < (s.handles pool).next) (bound' : s'.registry.Bound pool handle slot') :
    s'.namesOf pool handle = s.namesOf pool handle := by
  rcases keeps.names pool handle below with freed | same
  · simp only [Registry.Bound, Rmw.registry, Option.map_eq_some_iff] at bound'
    obtain ⟨contents, isBlock, -⟩ := bound'
    rw [Rmw.namesIn, isBlock] at freed
    cases freed
  · rw [Rmw.namesOf, same, Rmw.namesOf]

/-- The block was allocated, and holds the names. -/
structure Rmw.Named (s : Rmw) (pool : Pool) (handle : Nat) (names : Names) : Prop where
  below : handle < (s.handles pool).next
  names : s.namesOf pool handle = names

/-- As long as no handle changes, a block is still named. -/
theorem Rmw.Named.of_handles {names : Names} (named : s.Named pool handle names)
    (same : s'.handles = s.handles) : s'.Named pool handle names where
  below := by
    rw [same]
    exact named.below
  names := by
    rw [← named.names, Rmw.namesOf, Rmw.namesIn, same, Rmw.namesOf, Rmw.namesIn]

/-- What is still there later has the name. -/
theorem Rmw.Named.name {names : Names} {slot : Nat} (named : s.Named pool handle names)
    (keeps : KeepsNames s s') (bound : s'.registry.Bound pool handle slot) :
    (s'.namesOf pool handle).name = names.name := by
  rw [keeps.namesOf_eq named.below bound, named.names]

/-- A new block holds the names it was given. -/
theorem named_allocateHandle (s : Rmw) (pool : Pool) (contents : RmwHandle) :
    (s.allocateHandle pool contents).2.Named pool (s.allocateHandle pool contents).1
      contents.names where
  below := by simp [Rmw.allocateHandle]
  names := by simp [Rmw.namesOf, Rmw.namesIn, Rmw.allocateHandle]

/-- What writes to no session, and keeps the names in the handles. -/
structure Silent (s s' : Rmw) : Prop where
  sessions : s'.customSessions = s.customSessions
  names : KeepsNames s s'

namespace Silent

/-- What changes neither a session nor a handle is silent. -/
theorem of_same (sessions : s'.customSessions = s.customSessions)
    (handles : s'.handles = s.handles) : Silent s s' :=
  ⟨sessions, .of_handles handles⟩

/-- What is silent twice is silent. -/
theorem trans (first : Silent s s') (second : Silent s' s'') : Silent s s'' :=
  ⟨second.sessions.trans first.sessions, first.names.trans second.names⟩

theorem allocateHandle (s : Rmw) (pool : Pool) (contents : RmwHandle) :
    Silent s (s.allocateHandle pool contents).2 :=
  ⟨rfl, .allocateHandle s pool contents⟩

/-- Entering the entity of a handle writes to no session. -/
theorem storeHandle_data (read : s.readHandle pool handle = .ok contents) (data : Option Nat) :
    Silent s (s.storeHandle pool handle (some { contents with data := data })) :=
  ⟨rfl, .storeHandle_data read data⟩

/-- A slot is given back. -/
theorem putMemory (s : Rmw) (pool : Pool) (slot : Nat) : Silent s (s.putMemory pool slot) :=
  .of_same rfl rfl

/-- A block is freed. -/
theorem freeHandle (s : Rmw) (pool : Pool) (handle : Nat) :
    Silent s (s.storeHandle pool handle none) :=
  ⟨rfl, .storeHandle (Or.inl rfl)⟩

end Silent

/-- The functions that release an entity write to no session. -/
theorem finiMemory_silent (returned : finiMemory pool handle s = .ok s') : Silent s s' := by
  unfold finiMemory at returned
  obtain ⟨contents, -, returned⟩ := bind_eq_ok.mp returned
  split at returned
  · split at returned
    · rename_i entity isData
      cases returned
      have cleared : Silent s ((s.clearRmwHandle pool entity).putMemory pool entity) := by
        cases pool <;> exact .of_same rfl rfl
      exact cleared.trans (.freeHandle _ pool handle)
    · cases returned
      exact .freeHandle s pool handle
  · cases returned
    exact .of_same rfl rfl

/-- Neither does the function that releases a node. -/
theorem rmwUxrceFiniNodeMemory_silent (returned : rmwUxrceFiniNodeMemory handle s = .ok s') :
    Silent s s' := by
  unfold rmwUxrceFiniNodeMemory at returned
  obtain ⟨contents, -, returned⟩ := bind_eq_ok.mp returned
  split at returned
  · split at returned
    · cases returned
    · split at returned
      · rename_i node isData
        cases returned
        have cleared : Silent s ((s.modifyNode node fun old =>
            { old with rmwHandle := none, context := none }).putMemory .node node) :=
          .of_same rfl rfl
        exact cleared.trans (.freeHandle _ .node handle)
      · cases returned
        exact .freeHandle s .node handle
  · cases returned
    exact .of_same rfl rfl

/-- The clean-up behind the label `fail` returns null, and writes nothing. -/
theorem fail_returned
    (returned : (finiMemory pool handle s >>= fun s => .ok (none, s) : Exec (Option Nat × Rmw)) =
      .ok (result, s')) : result = none ∧ Silent s s' := by
  obtain ⟨last, released, returned⟩ := bind_eq_ok.mp returned
  cases returned
  exact ⟨rfl, finiMemory_silent released⟩

end RmwMicroxrcedds
