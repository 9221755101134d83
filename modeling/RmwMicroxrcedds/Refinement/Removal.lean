import Mathlib.Data.List.Perm.Subperm
import RmwMicroxrcedds.Refinement.Destruction

/-! # Removing entities from a registry

The destroy functions give back an entity, and with it the topic of a publisher or a
subscription. `Removal` says what a registry looks like after any number of them, in
terms of the entities that are gone; removals compose. The entities that go with a node
are the live ones it owns.
-/

namespace RmwMicroxrcedds

namespace Registry

variable {r r' r'' : Registry} {pool : Pool} {handle slot node topic : Nat}
variable {gone gone' : Pool → Nat → Prop}

/-- The registry without an entity of a node, its handle and its topic. -/
def dropLeaf (r : Registry) (pool : Pool) (handle slot : Nat) : Registry :=
  match pool.hasTopic, (r.entity pool slot).topicOf with
  | true, some topic => (r.dropEntity pool handle slot).release .topic topic
  | _, _ => r.dropEntity pool handle slot

/-- A publisher or a subscription is dropped with its topic. -/
theorem dropLeaf_of_topic (topics : pool.hasTopic = true)
    (isTopic : (r.entity pool slot).topicOf = some topic) :
    r.dropLeaf pool handle slot = (r.dropEntity pool handle slot).release .topic topic := by
  simp only [dropLeaf, topics, isTopic]

/-- A service or a client is dropped alone. -/
theorem dropLeaf_of_not (noTopic : pool.hasTopic = false) :
    r.dropLeaf pool handle slot = r.dropEntity pool handle slot := by
  simp only [dropLeaf, noTopic]

/-- Dropping an entity of a node keeps the registry sound. -/
theorem Sound.dropLeaf (sound : r.Sound) (leaf : pool.isLeaf = true)
    (bound : r.Bound pool handle slot) : (r.dropLeaf pool handle slot).Sound := by
  have notNode : pool ≠ .node := by
    rintro rfl
    cases leaf
  cases topics : pool.hasTopic with
  | true =>
      obtain ⟨topic, isTopic, -⟩ := (sound.placed bound).topic topics
      rw [dropLeaf_of_topic topics isTopic]
      exact sound.dropWithTopic topics bound isTopic
  | false =>
      rw [dropLeaf_of_not topics]
      exact sound.dropEntity bound (Pool.hasHandle_of_isLeaf leaf)
        fun _ isNode => absurd isNode notNode

/-- The topics of the publishers and subscriptions in `gone`. -/
def TopicOf (r : Registry) (gone : Pool → Nat → Prop) (topic : Nat) : Prop :=
  ∃ pool slot, pool.hasTopic = true ∧ gone pool slot ∧ (r.entity pool slot).topicOf = some topic

/-- From the first registry to the second, exactly the allocated slots in `gone` are given
back, with their handles and their topics, and contexts lose the sessions among them. -/
structure Removal (r r' : Registry) (gone : Pool → Nat → Prop) : Prop where
  inside : ∀ {pool slot}, gone pool slot → slot ∈ r.allocated pool
  order : ∀ pool, (r'.allocated pool).Sublist (r.allocated pool)
  kept : ∀ {pool slot}, pool ≠ .topic →
    (slot ∈ r'.allocated pool ↔ slot ∈ r.allocated pool ∧ ¬ gone pool slot)
  topics : ∀ {topic}, topic ∈ r'.allocated .topic ↔
    topic ∈ r.allocated .topic ∧ ¬ r.TopicOf gone topic
  bound : ∀ {pool handle slot}, r'.Bound pool handle slot ↔
    r.Bound pool handle slot ∧ ¬ gone pool slot
  entity : ∀ {pool slot}, slot ∈ r'.allocated pool → r'.entity pool slot = r.entity pool slot
  impl : ∀ {context session}, r'.impl context = some session ↔
    r.impl context = some session ∧ ¬ gone .session session
  graph : r'.graph = r.graph

/-- Nothing is removed. -/
theorem Removal.refl (r : Registry) : r.Removal r fun _ _ => False where
  inside := False.elim
  order := fun _ => List.Sublist.refl _
  kept := fun _ => by simp
  topics := by simp [TopicOf]
  bound := by simp
  entity := fun _ => rfl
  impl := by simp
  graph := rfl

/-- What is gone may be described in another way. -/
theorem Removal.congr (removal : r.Removal r' gone)
    (same : ∀ pool slot, gone' pool slot ↔ gone pool slot) : r.Removal r' gone' := by
  have equal : gone' = gone := by
    funext pool slot
    exact propext (same pool slot)
  rw [equal]
  exact removal

/-- Removals compose. -/
theorem Removal.trans (first : r.Removal r' gone) (second : r'.Removal r'' gone') :
    r.Removal r'' fun pool slot => gone pool slot ∨ gone' pool slot where
  inside := by
    rintro pool slot (here | later)
    · exact first.inside here
    · exact (first.order pool).subset (second.inside later)
  order := fun pool => (second.order pool).trans (first.order pool)
  kept := fun notTopic => by
    rw [second.kept notTopic, first.kept notTopic, not_or, and_assoc]
  topics := by
    intro topic
    have later : r'.TopicOf gone' topic ↔ r.TopicOf gone' topic := by
      constructor <;> rintro ⟨pool, slot, topics, isGone, isTopic⟩ <;>
        refine ⟨pool, slot, topics, isGone, ?_⟩
      · rw [← first.entity (second.inside isGone)]
        exact isTopic
      · rw [first.entity (second.inside isGone)]
        exact isTopic
    have either : r.TopicOf (fun pool slot => gone pool slot ∨ gone' pool slot) topic ↔
        r.TopicOf gone topic ∨ r.TopicOf gone' topic := by
      constructor
      · rintro ⟨pool, slot, topics, here | later, isTopic⟩
        · exact Or.inl ⟨pool, slot, topics, here, isTopic⟩
        · exact Or.inr ⟨pool, slot, topics, later, isTopic⟩
      · rintro (⟨pool, slot, topics, here, isTopic⟩ | ⟨pool, slot, topics, later, isTopic⟩)
        · exact ⟨pool, slot, topics, Or.inl here, isTopic⟩
        · exact ⟨pool, slot, topics, Or.inr later, isTopic⟩
    rw [second.topics, first.topics, later, either, not_or, and_assoc]
  bound := by
    intro pool handle slot
    rw [second.bound, first.bound, not_or, and_assoc]
  entity := fun inside => (second.entity inside).trans
    (first.entity ((second.order _).subset inside))
  impl := by
    intro context session
    rw [second.impl, first.impl, not_or, and_assoc]
  graph := second.graph.trans first.graph

/-- What the operations on free slots do not see. -/
theorem Removal.agrees (removal : r.Removal r' gone) (agrees : r'.Agrees r'') :
    r.Removal r'' gone where
  inside := removal.inside
  order := by
    rw [agrees.allocated]
    exact removal.order
  kept := by
    rw [agrees.allocated]
    exact removal.kept
  topics := by
    rw [agrees.allocated]
    exact removal.topics
  bound := agrees.bound_iff.trans removal.bound
  entity := fun {pool slot} inside => by
    rw [agrees.allocated] at inside
    rw [agrees.entity inside]
    exact removal.entity inside
  impl := by
    rw [agrees.impl]
    exact removal.impl
  graph := agrees.graph.trans removal.graph

private theorem erase_update_sublist (allocated : Pool → List Nat) (pool pool' : Pool)
    (slot : Nat) :
    (Function.update allocated pool ((allocated pool).erase slot) pool').Sublist
      (allocated pool') := by
  by_cases same : pool' = pool
  · subst same
    simpa using List.erase_sublist
  · simp [same]

private theorem mem_erase_update {allocated : Pool → List Nat} {pool pool' : Pool}
    {slot slot' : Nat}
    (nodup : (allocated pool).Nodup) :
    slot' ∈ Function.update allocated pool ((allocated pool).erase slot) pool' ↔
      slot' ∈ allocated pool' ∧ ¬ (pool' = pool ∧ slot' = slot) := by
  by_cases same : pool' = pool
  · subst same
    simp only [Function.update_self, nodup.mem_erase_iff, true_and]
    exact and_comm
  · simp [same]

/-- The handles left are those of other slots. -/
theorem Sound.dropEntity_bound_iff (sound : r.Sound) (bound : r.Bound pool handle slot)
    {pool' : Pool} {handle' slot' : Nat} :
    (r.dropEntity pool handle slot).Bound pool' handle' slot' ↔
      r.Bound pool' handle' slot' ∧ ¬ (pool' = pool ∧ slot' = slot) := by
  rw [Bound, Registry.dropEntity, release_data, setData_data_apply]
  constructor
  · intro isBound
    split at isBound
    · cases isBound
    · rename_i different
      refine ⟨isBound, ?_⟩
      rintro ⟨rfl, rfl⟩
      exact different ⟨rfl, sound.handle_unique isBound bound⟩
  · rintro ⟨isBound, different⟩
    rw [if_neg]
    · exact isBound
    · rintro ⟨rfl, rfl⟩
      exact different ⟨rfl, isBound.slot_unique bound⟩

/-- An entity with a handle is no session. -/
private theorem Sound.impl_iff_of_bound (sound : r.Sound) (bound : r.Bound pool handle slot)
    {context session : Nat} : r.impl context = some session ↔
      r.impl context = some session ∧ ¬ (Pool.session = pool ∧ session = slot) := by
  refine ⟨fun isImpl => ⟨isImpl, ?_⟩, And.left⟩
  rintro ⟨rfl, -⟩
  cases sound.hasHandle bound

/-- Dropping an entity and its handle, but no topic. -/
theorem Sound.removal_dropEntity (sound : r.Sound) (nodup : (r.allocated pool).Nodup)
    (bound : r.Bound pool handle slot) (noTopic : pool.hasTopic = false) :
    r.Removal (r.dropEntity pool handle slot) fun pool' slot' => pool' = pool ∧ slot' = slot where
  inside := by
    rintro pool' slot' ⟨rfl, rfl⟩
    exact (sound.placed bound).allocated
  order := fun pool' => erase_update_sublist r.allocated pool pool' slot
  kept := fun _ => mem_erase_update nodup
  topics := by
    intro topic
    have notTopic : Pool.topic ≠ pool := by
      rintro rfl
      cases sound.hasHandle bound
    have none : ¬ r.TopicOf (fun pool' slot' => pool' = pool ∧ slot' = slot) topic := by
      rintro ⟨pool', slot', topics, ⟨rfl, rfl⟩, -⟩
      rw [noTopic] at topics
      cases topics
    simp [Registry.dropEntity, Function.update_of_ne notTopic, none]
  bound := sound.dropEntity_bound_iff bound
  entity := fun _ => rfl
  impl := sound.impl_iff_of_bound bound
  graph := rfl

/-- Dropping an entity of a node removes it, and nothing else. -/
theorem Sound.removal_dropLeaf (sound : r.Sound) (nodup : ∀ pool, (r.allocated pool).Nodup)
    (bound : r.Bound pool handle slot) :
    r.Removal (r.dropLeaf pool handle slot) fun pool' slot' => pool' = pool ∧ slot' = slot := by
  cases topics : pool.hasTopic with
  | false =>
      rw [dropLeaf_of_not topics]
      exact sound.removal_dropEntity (nodup pool) bound topics
  | true =>
      obtain ⟨topic, isTopic, topicInside, -⟩ := (sound.placed bound).topic topics
      rw [dropLeaf_of_topic topics isTopic]
      have notTopic : Pool.topic ≠ pool := by
        rintro rfl
        cases topics
      have allocated : ∀ pool', ((r.dropEntity pool handle slot).release .topic topic).allocated
          pool' = Function.update (r.dropEntity pool handle slot).allocated .topic
            ((r.allocated .topic).erase topic) pool' := by
        intro pool'
        simp [Registry.dropEntity, Function.update_of_ne notTopic]
      have others : ∀ {pool'}, pool' ≠ .topic →
          ((r.dropEntity pool handle slot).release .topic topic).allocated pool' =
            Function.update r.allocated pool ((r.allocated pool).erase slot) pool' := by
        intro pool' different
        rw [allocated, Function.update_of_ne different]
        rfl
      refine {
        inside := ?_
        order := fun pool' => ?_
        kept := fun different => ?_
        topics := fun {topic'} => ?_
        bound := fun {pool' handle' slot'} => ?_
        entity := fun _ => rfl
        impl := sound.impl_iff_of_bound bound
        graph := rfl }
      · rintro pool' slot' ⟨rfl, rfl⟩
        exact (sound.placed bound).allocated
      · by_cases same : pool' = .topic
        · subst same
          rw [allocated, Function.update_self]
          exact List.erase_sublist
        · rw [others same]
          exact erase_update_sublist r.allocated pool pool' slot
      · rw [others different]
        exact mem_erase_update (nodup pool)
      · rw [allocated, Function.update_self, (nodup .topic).mem_erase_iff, and_comm]
        refine and_congr_right fun _ => not_congr ?_
        constructor
        · rintro rfl
          exact ⟨pool, slot, topics, ⟨rfl, rfl⟩, isTopic⟩
        · rintro ⟨pool', slot', -, ⟨rfl, rfl⟩, isTopic'⟩
          exact Option.some.inj (isTopic'.symm.trans isTopic)
      · exact sound.dropEntity_bound_iff bound

end Registry

end RmwMicroxrcedds
