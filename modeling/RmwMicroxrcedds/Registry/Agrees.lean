import RmwMicroxrcedds.Registry.Sound

/-! # Registries up to free slots

A creation that fails writes to the slot it gives back. `Agrees` compares registries up
to such writes, and everything that is stated about registries respects it.
-/

namespace RmwMicroxrcedds

/-- Messages are stored for the entities of this pool. -/
def Pool.hasInbox : Pool → Bool
  | subscription | service | client => true
  | node | publisher | session | topic | staticBuffer => false

namespace Registry

/-- The two registries differ at most in the contents of free slots. -/
structure Agrees (r r' : Registry) : Prop where
  allocated : r'.allocated = r.allocated
  data : r'.data = r.data
  impl : r'.impl = r.impl
  graph : r'.graph = r.graph
  entity : ∀ {pool slot}, slot ∈ r.allocated pool → r'.entity pool slot = r.entity pool slot

variable {r r' r'' : Registry} {pool pool' : Pool} {slot slot' handle topic session : Nat}
variable {entity : Entity} {data : Option (Option Nat)}

theorem Agrees.refl (r : Registry) : r.Agrees r := ⟨rfl, rfl, rfl, rfl, fun _ => rfl⟩

/-- Equal registries agree. -/
theorem Agrees.of_eq (same : r' = r) : r.Agrees r' := same ▸ .refl r

/-- What agrees with what agrees does, too. -/
theorem Agrees.trans (first : r.Agrees r') (second : r'.Agrees r'') : r.Agrees r'' where
  allocated := second.allocated.trans first.allocated
  data := second.data.trans first.data
  impl := second.impl.trans first.impl
  graph := second.graph.trans first.graph
  entity := fun inside =>
    (second.entity (first.allocated ▸ inside)).trans (first.entity inside)

/-- What a free slot holds does not matter. -/
theorem Agrees.fill_free (free : slot ∉ r.allocated pool) : r.Agrees (r.fill pool slot entity) where
  allocated := rfl
  data := rfl
  impl := rfl
  graph := rfl
  entity := fun {pool' slot'} inside => by
    rw [fill_entity_apply, if_neg]
    rintro ⟨rfl, rfl⟩
    exact free inside

/-- A slot that was released may hold anything. -/
theorem Agrees.fill_released (nodup : (r.allocated pool).Nodup) :
    ((r.setData pool handle data).release pool slot).Agrees
      (((r.setData pool handle data).release pool slot).fill pool slot entity) := by
  apply fill_free
  simp only [release_allocated, Function.update_self, setData_allocated]
  exact nodup.not_mem_erase

/-- Registries that agree still do when a handle changes in both. -/
theorem Agrees.setData (agrees : r.Agrees r') :
    (r.setData pool handle data).Agrees (r'.setData pool handle data) where
  allocated := agrees.allocated
  data := by simp [Registry.setData, agrees.data]
  impl := agrees.impl
  graph := agrees.graph
  entity := agrees.entity

/-- They do when a slot is filled in both. -/
theorem Agrees.fill (agrees : r.Agrees r') :
    (r.fill pool slot entity).Agrees (r'.fill pool slot entity) where
  allocated := agrees.allocated
  data := agrees.data
  impl := agrees.impl
  graph := agrees.graph
  entity := fun {pool' slot'} inside => by
    rw [fill_entity_apply, fill_entity_apply, agrees.entity inside]

/-- They do when both take a slot that holds the same. -/
theorem Agrees.take (agrees : r.Agrees r')
    (same : r'.entity pool slot = r.entity pool slot) :
    (r.take pool slot).Agrees (r'.take pool slot) where
  allocated := by simp [agrees.allocated]
  data := agrees.data
  impl := agrees.impl
  graph := agrees.graph
  entity := fun {pool' slot'} inside => by
    by_cases here : pool' = pool
    · subst here
      rcases List.mem_cons.mp (by simpa using inside) with rfl | inside
      · exact same
      · exact agrees.entity inside
    · exact agrees.entity (by simpa [here] using inside)

/-- They do when both give one back. -/
theorem Agrees.release (agrees : r.Agrees r') :
    (r.release pool slot).Agrees (r'.release pool slot) where
  allocated := by simp [agrees.allocated]
  data := agrees.data
  impl := agrees.impl
  graph := agrees.graph
  entity := fun {pool' slot'} inside => by
    by_cases here : pool' = pool
    · subst here
      exact agrees.entity (List.mem_of_mem_erase (by simpa using inside))
    · exact agrees.entity (by simpa [here] using inside)

/-- Registries that agree have the same handles. -/
theorem Agrees.bound_iff (agrees : r.Agrees r') :
    r'.Bound pool handle slot ↔ r.Bound pool handle slot := by
  rw [Bound, Bound, agrees.data]

/-- Writing what a handle has changes nothing. -/
theorem setData_of_eq (same : r.data pool handle = data) : r.setData pool handle data = r := by
  ext1 <;> try rfl
  simp [Registry.setData, ← same]

/-- An entity is placed in every registry that agrees. -/
theorem Agrees.placed (agrees : r.Agrees r') (placed : r.Placed pool handle slot) :
    r'.Placed pool handle slot := by
  have same := agrees.entity placed.allocated
  refine ⟨agrees.allocated ▸ placed.allocated, same ▸ placed.handle, same ▸ placed.typed,
    fun leaf => ?_, fun isNode => ?_, fun topics => ?_⟩
  · obtain ⟨node, nodeHandle, owner, bound⟩ := placed.owned leaf
    exact ⟨node, nodeHandle, same ▸ owner, agrees.bound_iff.mpr bound⟩
  · obtain ⟨session, context, inside⟩ := placed.sited isNode
    exact ⟨session, same ▸ context, agrees.allocated ▸ inside⟩
  · obtain ⟨topic, isTopic, inside, owner⟩ := placed.topic topics
    exact ⟨topic, same ▸ isTopic, agrees.allocated ▸ inside, by
      rw [agrees.entity inside, same]
      exact owner⟩

/-- Soundness does not depend on free slots. -/
theorem Sound.agrees (sound : r.Sound) (agrees : r.Agrees r') : r'.Sound where
  placed := fun bound => agrees.placed (sound.placed (agrees.bound_iff.mp bound))
  filled := by
    rw [agrees.data]
    exact sound.filled
  handled := by
    rw [agrees.data]
    exact sound.handled
  apart := fun {pool handle slot pool' handle' slot' topic} bound bound' isTopic isTopic' => by
    have old := agrees.bound_iff.mp bound
    have old' := agrees.bound_iff.mp bound'
    rw [agrees.entity (sound.placed old).allocated] at isTopic
    rw [agrees.entity (sound.placed old').allocated] at isTopic'
    exact sound.apart old old' isTopic isTopic'
  impl := by
    rw [agrees.impl, agrees.allocated]
    exact sound.impl
  implApart := by
    rw [agrees.impl]
    exact sound.implApart

/-- The part of a registry that decides who a message is for. -/
def inboxes (r : Registry) : Registry where
  allocated := fun pool => if pool.hasInbox then r.allocated pool else []
  entity := fun pool slot =>
    if pool.hasInbox = true ∧ slot ∈ r.allocated pool then r.entity pool slot else .other
  data := fun _ _ => none
  impl := fun _ => none
  graph := r.graph

/-- Whom a message is for depends on the receiving pools and on the graph only. -/
theorem inboxes_eq (graph : r'.graph = r.graph)
    (allocated : ∀ pool, pool.hasInbox = true → r'.allocated pool = r.allocated pool)
    (entity : ∀ pool, pool.hasInbox = true → ∀ slot ∈ r.allocated pool,
      r'.entity pool slot = r.entity pool slot) : r'.inboxes = r.inboxes := by
  ext1
  · funext pool
    by_cases inbox : pool.hasInbox = true
    · simp [inboxes, inbox, allocated pool inbox]
    · simp [inboxes, inbox]
  · funext pool slot
    by_cases inbox : pool.hasInbox = true ∧ slot ∈ r.allocated pool
    · have inside : slot ∈ r'.allocated pool := allocated pool inbox.1 ▸ inbox.2
      simp only [inboxes, inbox, inside, and_self, ↓reduceIte]
      exact entity pool inbox.1 slot inbox.2
    · have outside : ¬ (pool.hasInbox = true ∧ slot ∈ r'.allocated pool) := fun both =>
        inbox ⟨both.1, allocated pool both.1 ▸ both.2⟩
      simp only [inboxes, inbox, outside, ↓reduceIte]
  · rfl
  · rfl
  · exact graph

/-- Registries that agree have the same receivers. -/
theorem Agrees.inboxes (agrees : r.Agrees r') : r'.inboxes = r.inboxes :=
  inboxes_eq agrees.graph (fun pool _ => congrFun agrees.allocated pool)
    fun _ _ _ inside => agrees.entity inside

/-- Taking a slot of a pool that does not receive leaves the receivers. -/
theorem inboxes_take (outside : pool.hasInbox = false) :
    (r.take pool slot).inboxes = r.inboxes :=
  inboxes_eq rfl (fun pool' inbox => by
    rw [take_allocated, Function.update_of_ne]
    rintro rfl
    simp [outside] at inbox) fun _ _ _ _ => rfl

/-- So does giving one back. -/
theorem inboxes_release (outside : pool.hasInbox = false) :
    (r.release pool slot).inboxes = r.inboxes :=
  inboxes_eq rfl (fun pool' inbox => by
    rw [release_allocated, Function.update_of_ne]
    rintro rfl
    simp [outside] at inbox) fun _ _ _ _ => rfl

/-- So does filling one. -/
theorem inboxes_fill (outside : pool.hasInbox = false) :
    (r.fill pool slot entity).inboxes = r.inboxes :=
  inboxes_eq rfl (fun _ _ => rfl) fun pool' inbox slot' _ => by
    rw [fill_entity_apply, if_neg]
    rintro ⟨rfl, -⟩
    simp [outside] at inbox

@[simp] theorem inboxes_setData : (r.setData pool handle data).inboxes = r.inboxes :=
  inboxes_eq rfl (fun _ _ => rfl) fun _ _ _ _ => rfl

@[simp] theorem inboxes_attach {context : Nat} {impl : Option Nat} :
    (r.attach context impl).inboxes = r.inboxes :=
  inboxes_eq rfl (fun _ _ => rfl) fun _ _ _ _ => rfl

end Registry

end RmwMicroxrcedds
