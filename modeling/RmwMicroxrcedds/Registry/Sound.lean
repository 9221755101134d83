import RmwMicroxrcedds.Registry.Basic

/-! # Sound registries

Between two calls every handle designates an allocated slot that points back at it, the
entity in the slot has a live owner, and a publisher or a subscription has a topic of its
own. Slots that no handle designates are not excluded. Each elementary operation keeps a
registry sound under a condition about the slot it touches.
-/

namespace RmwMicroxrcedds

namespace Registry

/-- What holds of a handle and the slot it designates. -/
structure Placed (r : Registry) (pool : Pool) (handle slot : Nat) : Prop where
  allocated : slot ∈ r.allocated pool
  handle : (r.entity pool slot).rmwHandle = some handle
  typed : (r.entity pool slot).typed = true
  owned : pool.isLeaf = true →
    ∃ node nodeHandle, (r.entity pool slot).ownerNode = some node ∧ r.Bound .node nodeHandle node
  sited : pool = .node →
    ∃ session, (r.entity pool slot).context = some session ∧ session ∈ r.allocated .session
  topic : pool.hasTopic = true →
    ∃ topic, (r.entity pool slot).topicOf = some topic ∧ topic ∈ r.allocated .topic ∧
      (r.entity .topic topic).ownerNode = (r.entity pool slot).ownerNode

/-- The registry between two calls. -/
structure Sound (r : Registry) : Prop where
  placed : ∀ {pool handle slot}, r.Bound pool handle slot → r.Placed pool handle slot
  filled : ∀ {pool handle}, r.data pool handle ≠ some none
  handled : ∀ {pool handle}, r.data pool handle ≠ none → pool.hasHandle = true
  apart : ∀ {pool handle slot pool' handle' slot' topic}, r.Bound pool handle slot →
    r.Bound pool' handle' slot' → (r.entity pool slot).topicOf = some topic →
    (r.entity pool' slot').topicOf = some topic → pool.hasTopic = true → pool'.hasTopic = true →
    pool = pool' ∧ slot = slot'
  impl : ∀ {context session}, r.impl context = some session → session ∈ r.allocated .session
  implApart : ∀ {context context' session}, r.impl context = some session →
    r.impl context' = some session → context = context'

variable {r : Registry} {pool pool' : Pool} {slot slot' handle handle' topic session : Nat}
variable {entity : Entity}

/-- A handle that leads to a slot is allocated. -/
theorem Bound.data_ne_none (bound : r.Bound pool handle slot) : r.data pool handle ≠ none := by
  rw [bound]
  exact Option.some_ne_none _

/-- Only pools with handles have them. -/
theorem Sound.hasHandle (sound : r.Sound) (bound : r.Bound pool handle slot) :
    pool.hasHandle = true :=
  sound.handled bound.data_ne_none

/-- Two handles never designate one slot. -/
theorem Sound.handle_unique (sound : r.Sound) (bound : r.Bound pool handle slot)
    (bound' : r.Bound pool handle' slot) : handle = handle' := by
  have back := (sound.placed bound).handle
  have back' := (sound.placed bound').handle
  exact Option.some.inj (back.symm.trans back')

/-- A handle leads to one slot. -/
theorem Bound.slot_unique (bound : r.Bound pool handle slot) (bound' : r.Bound pool handle slot') :
    slot = slot' :=
  Option.some.inj (Option.some.inj (bound.symm.trans bound'))

/-- A topic that no handle reaches. -/
def Unused (r : Registry) (topic : Nat) : Prop :=
  ∀ pool handle slot, pool.hasTopic = true → r.Bound pool handle slot →
    (r.entity pool slot).topicOf ≠ some topic

/-- A free topic slot is not used. -/
theorem Sound.unused_of_not_mem (sound : r.Sound) (free : topic ∉ r.allocated .topic) :
    r.Unused topic := by
  intro pool handle slot topics bound same
  obtain ⟨own, isOwn, inside, _⟩ := (sound.placed bound).topic topics
  rw [same] at isOwn
  exact free (Option.some.inj isOwn ▸ inside)

private theorem placed_of_grow {r' : Registry} (placed : r.Placed pool handle slot)
    (entity : r'.entity = r.entity) (data : r'.data = r.data)
    (grow : ∀ pool slot, slot ∈ r.allocated pool → slot ∈ r'.allocated pool) :
    r'.Placed pool handle slot where
  allocated := grow _ _ placed.allocated
  handle := by rw [entity]; exact placed.handle
  typed := by rw [entity]; exact placed.typed
  owned := fun leaf => by
    obtain ⟨node, nodeHandle, owner, bound⟩ := placed.owned leaf
    exact ⟨node, nodeHandle, by rw [entity]; exact owner, by rw [Bound, data]; exact bound⟩
  sited := fun isNode => by
    obtain ⟨session, context, inside⟩ := placed.sited isNode
    exact ⟨session, by rw [entity]; exact context, grow _ _ inside⟩
  topic := fun topics => by
    obtain ⟨topic, isTopic, inside, owner⟩ := placed.topic topics
    exact ⟨topic, by rw [entity]; exact isTopic, grow _ _ inside, by rw [entity]; exact owner⟩

/-- Taking a slot keeps the registry sound. -/
theorem Sound.take (sound : r.Sound) : (r.take pool slot).Sound := by
  have grow : ∀ pool' slot', slot' ∈ r.allocated pool' →
      slot' ∈ (r.take pool slot).allocated pool' := by
    intro pool' slot' inside
    by_cases same : pool' = pool
    · subst same
      simp [inside]
    · simpa [same] using inside
  exact {
    placed := fun bound => placed_of_grow (sound.placed bound) rfl rfl grow
    filled := sound.filled
    handled := sound.handled
    apart := sound.apart
    impl := fun isImpl => grow _ _ (sound.impl isImpl)
    implApart := sound.implApart }

/-- Writing to a free slot keeps the registry sound. -/
theorem Sound.fill (sound : r.Sound) (free : slot ∉ r.allocated pool) :
    (r.fill pool slot entity).Sound := by
  have kept : ∀ pool' slot', slot' ∈ r.allocated pool' →
      (r.fill pool slot entity).entity pool' slot' = r.entity pool' slot' := by
    intro pool' slot' inside
    rw [fill_entity_apply, if_neg]
    rintro ⟨rfl, rfl⟩
    exact free inside
  have keptOf : ∀ {pool' handle' slot'}, r.Bound pool' handle' slot' →
      (r.fill pool slot entity).entity pool' slot' = r.entity pool' slot' :=
    fun bound => kept _ _ (sound.placed bound).allocated
  refine {
    placed := fun {pool' handle' slot'} bound => ?_
    filled := sound.filled
    handled := sound.handled
    apart := fun bound bound' isTopic isTopic' => ?_
    impl := sound.impl
    implApart := sound.implApart }
  · have placed := sound.placed bound
    refine ⟨placed.allocated, ?_, ?_, fun leaf => ?_, fun isNode => ?_, fun topics => ?_⟩
    · rw [keptOf bound]
      exact placed.handle
    · rw [keptOf bound]
      exact placed.typed
    · rw [keptOf bound]
      exact placed.owned leaf
    · rw [keptOf bound]
      exact placed.sited isNode
    · obtain ⟨topic, isTopic, inside, owner⟩ := placed.topic topics
      rw [keptOf bound]
      exact ⟨topic, isTopic, inside, by rw [kept _ _ inside]; exact owner⟩
  · rw [keptOf bound] at isTopic
    rw [keptOf bound'] at isTopic'
    exact sound.apart bound bound' isTopic isTopic'

/-- A fresh handle may designate a slot that is placed for it, whose topic is its own. -/
theorem Sound.bind (sound : r.Sound) (fresh : r.data pool handle = none)
    (handles : pool.hasHandle = true)
    (placed : r.Placed pool handle slot)
    (unused : ∀ topic, pool.hasTopic = true → (r.entity pool slot).topicOf = some topic →
      r.Unused topic) :
    (r.setData pool handle (some (some slot))).Sound := by
  have boundOf : ∀ {pool' handle' slot'},
      (r.setData pool handle (some (some slot))).Bound pool' handle' slot' →
      (pool' = pool ∧ handle' = handle ∧ slot' = slot) ∨ r.Bound pool' handle' slot' := by
    intro pool' handle' slot' bound
    rw [Bound, setData_data_apply] at bound
    split at bound
    · rename_i same
      exact Or.inl ⟨same.1, same.2, (Option.some.inj (Option.some.inj bound)).symm⟩
    · exact Or.inr bound
  have stays : ∀ {pool' handle' slot'}, r.Bound pool' handle' slot' →
      (r.setData pool handle (some (some slot))).Bound pool' handle' slot' := by
    intro pool' handle' slot' bound
    rw [Bound, setData_data_apply, if_neg]
    · exact bound
    · rintro ⟨rfl, rfl⟩
      exact bound.data_ne_none fresh
  have lift : ∀ {pool' handle' slot'}, r.Placed pool' handle' slot' →
      (r.setData pool handle (some (some slot))).Placed pool' handle' slot' := by
    intro pool' handle' slot' placed
    refine ⟨placed.allocated, placed.handle, placed.typed, fun leaf => ?_, placed.sited,
      placed.topic⟩
    obtain ⟨node, nodeHandle, owner, bound⟩ := placed.owned leaf
    exact ⟨node, nodeHandle, owner, stays bound⟩
  refine {
    placed := fun bound => ?_
    filled := fun {pool' handle'} => ?_
    handled := fun {pool' handle'} data => ?_
    apart := fun bound bound' isTopic isTopic' topics topics' => ?_
    impl := sound.impl
    implApart := sound.implApart }
  · rcases boundOf bound with ⟨rfl, rfl, rfl⟩ | bound
    · exact lift placed
    · exact lift (sound.placed bound)
  · rw [setData_data_apply]
    split
    · simp
    · exact sound.filled
  · rw [setData_data_apply] at data
    split at data
    · rename_i same
      exact same.1 ▸ handles
    · exact sound.handled data
  · rcases boundOf bound with ⟨rfl, rfl, rfl⟩ | old <;>
      rcases boundOf bound' with ⟨rfl, rfl, rfl⟩ | old'
    · exact ⟨rfl, rfl⟩
    · exact absurd isTopic' (unused _ topics isTopic _ _ _ topics' old')
    · exact absurd isTopic (unused _ topics' isTopic' _ _ _ topics old)
    · exact sound.apart old old' isTopic isTopic' topics topics'

/-- Every entity of a node has a handle no longer in use. -/
def Childless (r : Registry) (node : Nat) : Prop :=
  ∀ pool handle slot, pool.isLeaf = true → r.Bound pool handle slot →
    (r.entity pool slot).ownerNode ≠ some node

/-- A handle may be freed, unless it is the one of a node that owns live entities. -/
theorem Sound.unbind (sound : r.Sound)
    (childless : ∀ node, pool = .node → r.Bound .node handle node → r.Childless node) :
    (r.setData pool handle none).Sound := by
  have boundOf : ∀ {pool' handle' slot'}, (r.setData pool handle none).Bound pool' handle' slot' →
      ¬ (pool' = pool ∧ handle' = handle) ∧ r.Bound pool' handle' slot' := by
    intro pool' handle' slot' bound
    rw [Bound, setData_data_apply] at bound
    split at bound
    · cases bound
    · exact ⟨by assumption, bound⟩
  refine {
    placed := fun {pool' handle' slot'} bound => ?_
    filled := fun {pool' handle'} => ?_
    handled := fun {pool' handle'} data => ?_
    apart := fun bound bound' => sound.apart (boundOf bound).2 (boundOf bound').2
    impl := sound.impl
    implApart := sound.implApart }
  · have kept := (boundOf bound).2
    have placed := sound.placed kept
    refine ⟨placed.allocated, placed.handle, placed.typed, fun leaf => ?_, placed.sited,
      placed.topic⟩
    obtain ⟨node, nodeHandle, owner, nodeBound⟩ := placed.owned leaf
    refine ⟨node, nodeHandle, owner, ?_⟩
    rw [Bound, setData_data_apply, if_neg]
    · exact nodeBound
    · rintro ⟨rfl, rfl⟩
      exact childless node rfl nodeBound _ _ _ leaf kept owner
  · rw [setData_data_apply]
    split
    · simp
    · exact sound.filled
  · rw [setData_data_apply] at data
    split at data
    · exact absurd rfl data
    · exact sound.handled data

/-- A slot may be released when nothing designates it any more. -/
theorem Sound.release (sound : r.Sound) (unbound : ∀ handle, ¬ r.Bound pool handle slot)
    (unused : pool = .topic → r.Unused slot)
    (vacant : pool = .session → (∀ context, r.impl context ≠ some slot) ∧
      ∀ handle node, r.Bound .node handle node → (r.entity .node node).context ≠ some slot) :
    (r.release pool slot).Sound := by
  have stays : ∀ pool' slot', ¬ (pool' = pool ∧ slot' = slot) → slot' ∈ r.allocated pool' →
      slot' ∈ (r.release pool slot).allocated pool' := by
    intro pool' slot' different inside
    by_cases same : pool' = pool
    · subst same
      have other : slot' ≠ slot := fun same => different ⟨rfl, same⟩
      simpa [List.mem_erase_of_ne other] using inside
    · simpa [same] using inside
  refine {
    placed := fun {pool' handle' slot'} bound => ?_
    filled := sound.filled
    handled := sound.handled
    apart := sound.apart
    impl := fun {context session} isImpl => ?_
    implApart := sound.implApart }
  · have placed := sound.placed bound
    refine ⟨stays _ _ ?_ placed.allocated, placed.handle, placed.typed,
      placed.owned, fun isNode => ?_,
      fun topics => ?_⟩
    · rintro ⟨rfl, rfl⟩
      exact unbound _ bound
    · obtain ⟨session, context, inside⟩ := placed.sited isNode
      refine ⟨session, context, stays _ _ ?_ inside⟩
      rintro ⟨rfl, rfl⟩
      subst isNode
      exact (vacant rfl).2 _ _ bound context
    · obtain ⟨topic, isTopic, inside, owner⟩ := placed.topic topics
      refine ⟨topic, isTopic, stays _ _ ?_ inside, owner⟩
      rintro ⟨rfl, rfl⟩
      exact unused rfl _ _ _ topics bound isTopic
  · refine stays _ _ ?_ (sound.impl isImpl)
    rintro ⟨rfl, rfl⟩
    exact (vacant rfl).1 _ isImpl

/-- A context may be given a session of its own, or none. -/
theorem Sound.attach (sound : r.Sound) {context : Nat} {impl : Option Nat}
    (inside : ∀ session, impl = some session → session ∈ r.allocated .session)
    (own : ∀ other session, impl = some session → r.impl other ≠ some session) :
    (r.attach context impl).Sound where
  placed := fun bound => by
    have placed := sound.placed bound
    exact ⟨placed.allocated, placed.handle, placed.typed, placed.owned, placed.sited, placed.topic⟩
  filled := sound.filled
  handled := sound.handled
  apart := sound.apart
  impl := fun {other session} isImpl => by
    by_cases same : other = context
    · subst same
      exact inside session (by simpa using isImpl)
    · exact sound.impl (by simpa [same] using isImpl)
  implApart := fun {first second session} isImpl isImpl' => by
    by_cases same : first = context <;> by_cases same' : second = context
    · rw [same, same']
    · subst same
      exact absurd (by simpa [same'] using isImpl') (own second session (by simpa using isImpl))
    · subst same'
      exact absurd (by simpa [same] using isImpl) (own first session (by simpa using isImpl'))
    · exact sound.implApart (by simpa [same] using isImpl) (by simpa [same'] using isImpl')

/-- The identifiers of the graph objects are no part of soundness. -/
theorem Sound.setGraph (sound : r.Sound) {objects : GraphObjects} :
    (r.setGraph session objects).Sound where
  placed := fun bound => placed_of_grow (sound.placed bound) rfl rfl fun _ _ inside => inside
  filled := sound.filled
  handled := sound.handled
  apart := sound.apart
  impl := sound.impl
  implApart := sound.implApart

/-- No handle, no context: nothing to be placed. -/
theorem sound_of_empty (noData : ∀ pool handle, r.data pool handle = none)
    (noImpl : ∀ context, r.impl context = none) : r.Sound where
  placed := fun {pool handle slot} bound => absurd (noData pool handle) bound.data_ne_none
  filled := fun {pool handle} => by simp [noData pool handle]
  handled := fun {pool handle} data => absurd (noData pool handle) data
  apart := fun {pool handle slot _ _ _ _} bound =>
    absurd (noData pool handle) bound.data_ne_none
  impl := fun {context _} isImpl => by simp [noImpl context] at isImpl
  implApart := fun {context _ _} isImpl => by simp [noImpl context] at isImpl

end Registry

end RmwMicroxrcedds
