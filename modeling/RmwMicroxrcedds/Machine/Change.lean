import RmwMicroxrcedds.Machine.World

/-! # What an operation changes

The many outcomes of the operations, as changes of the registry: nothing, a slot leaked,
an entity created, entities removed, a session attached. A sound registry stays sound
under each of them.
-/

namespace RmwMicroxrcedds

open Outcome

namespace Registry

variable {r r' : Registry} {pool : Pool} {handle slot node nodeHandle topic session : Nat}
variable {entity : Entity} {leaks : List Pool}

/-- More slots of the given pools are allocated, and nothing else has changed. -/
structure Grown (r : Registry) (leaks : List Pool) (r' : Registry) : Prop where
  grows : ∀ {pool slot}, slot ∈ r.allocated pool → slot ∈ r'.allocated pool
  others : ∀ {pool}, pool ∉ leaks → r'.allocated pool = r.allocated pool
  data : r'.data = r.data
  impl : r'.impl = r.impl
  graph : r'.graph = r.graph
  entity : ∀ {pool slot}, slot ∈ r.allocated pool → r'.entity pool slot = r.entity pool slot

/-- One more slot may leak from a pool that leaks. -/
theorem Grown.addSlot (grown : r.Grown leaks r') (free : slot ∉ r'.allocated pool)
    (inside : pool ∈ leaks) : r.Grown leaks (r'.addSlot pool slot entity) where
  grows := fun {pool' slot'} old => by
    by_cases same : pool' = pool
    · subst same
      simp [Registry.addSlot, grown.grows old]
    · simpa [Registry.addSlot, same] using grown.grows old
  others := fun {pool'} outside => by
    have different : pool' ≠ pool := by
      rintro rfl
      exact outside inside
    simpa [Registry.addSlot, different] using grown.others outside
  data := grown.data
  impl := grown.impl
  graph := grown.graph
  entity := fun {pool' slot'} old => by
    rw [Registry.addSlot, take_entity, fill_entity_apply, if_neg]
    · exact grown.entity old
    · rintro ⟨rfl, rfl⟩
      exact free (grown.grows old)

/-- What has not grown has leaked nothing. -/
theorem Grown.refl (r : Registry) (leaks : List Pool) : r.Grown leaks r :=
  ⟨id, fun _ => rfl, rfl, rfl, rfl, fun _ => rfl⟩

/-- What agrees with a grown registry has grown as much. -/
theorem Grown.agrees {r'' : Registry} (grown : r.Grown leaks r') (agrees : r'.Agrees r'') :
    r.Grown leaks r'' where
  grows := by
    rw [agrees.allocated]
    exact grown.grows
  others := by
    rw [agrees.allocated]
    exact grown.others
  data := agrees.data.trans grown.data
  impl := agrees.impl.trans grown.impl
  graph := agrees.graph.trans grown.graph
  entity := fun inside => (agrees.entity (grown.grows inside)).trans (grown.entity inside)

/-- An added entity leaves the others, and their handles, as they are. -/
theorem addEntity_entity {pool' : Pool} {slot' : Nat}
    (free : slot ∉ r.allocated pool) (inside : slot' ∈ r.allocated pool') :
    (r.addEntity pool handle slot entity).entity pool' slot' = r.entity pool' slot' := by
  rw [addEntity, setData_entity, addSlot, take_entity, fill_entity_apply, if_neg]
  intro same
  obtain ⟨rfl, rfl⟩ := same
  exact free inside

/-- Adding an entity with a fresh handle leaves the other handles where they lead. -/
theorem addEntity_bound {pool' : Pool} {handle' slot' : Nat}
    (fresh : r.data pool handle = none) (bound : r.Bound pool' handle' slot') :
    (r.addEntity pool handle slot entity).Bound pool' handle' slot' := by
  rw [Bound, addEntity, setData_data_apply, if_neg]
  · exact bound
  · intro same
    obtain ⟨rfl, rfl⟩ := same
    exact bound.data_ne_none fresh

/-- A new entity of a live node keeps the registry sound, when its topic is its own. -/
theorem Sound.addLeaf (sound : r.Sound) (leaf : pool.isLeaf = true)
    (free : slot ∉ r.allocated pool) (fresh : r.data pool handle = none)
    (isHandle : entity.rmwHandle = some handle) (owner : entity.ownerNode = some node)
    (typed : entity.typed = true) (nodeBound : r.Bound .node nodeHandle node)
    (topics : pool.hasTopic = true → ∃ topic, entity.topicOf = some topic ∧
      topic ∈ r.allocated .topic ∧ (r.entity .topic topic).ownerNode = some node ∧
      r.Unused topic) :
    (r.addEntity pool handle slot entity).Sound := by
  have notTopic := ne_topic_of_isLeaf leaf
  have isEntity : (r.addSlot pool slot entity).entity pool slot = entity := by
    rw [Registry.addSlot, take_entity, fill_entity_self]
  have others : ∀ pool' slot', slot' ∈ r.allocated pool' →
      (r.addSlot pool slot entity).entity pool' slot' = r.entity pool' slot' := by
    intro pool' slot' inside
    rw [Registry.addSlot, take_entity, fill_entity_apply, if_neg]
    rintro ⟨rfl, rfl⟩
    exact free inside
  refine (sound.addSlot free).bind fresh (Pool.hasHandle_of_isLeaf leaf) {
    allocated := by simp [Registry.addSlot]
    handle := by rw [isEntity]; exact isHandle
    typed := by rw [isEntity]; exact typed
    owned := fun _ => ⟨node, nodeHandle, by rw [isEntity]; exact owner, nodeBound⟩
    sited := fun isNode => absurd isNode (ne_node_of_isLeaf leaf)
    topic := fun hasTopic => ?_ } fun topic hasTopic isTopic => ?_
  · obtain ⟨topic, isTopic, inside, topicOwner, -⟩ := topics hasTopic
    refine ⟨topic, by rw [isEntity]; exact isTopic, ?_, ?_⟩
    · simpa [Registry.addSlot, notTopic.symm] using inside
    · rw [isEntity, others _ _ inside, topicOwner, owner]
  · obtain ⟨topic', isTopic', -, -, unused⟩ := topics hasTopic
    rw [isEntity, isTopic'] at isTopic
    cases isTopic
    intro pool' handle' slot' hasTopic' bound' uses
    rw [others _ _ (sound.placed bound').allocated] at uses
    exact unused _ _ _ hasTopic' bound' uses

/-- A new node of an allocated session keeps the registry sound. -/
theorem Sound.addNode {node : Node} (sound : r.Sound) (free : slot ∉ r.allocated .node)
    (fresh : r.data .node handle = none) (isHandle : node.rmwHandle = some handle)
    (context : node.context = some session) (inside : session ∈ r.allocated .session) :
    (r.addEntity .node handle slot (.node node)).Sound := by
  have isEntity : (r.addSlot .node slot (.node node)).entity .node slot = .node node := by
    rw [Registry.addSlot, take_entity, fill_entity_self]
  exact (sound.addSlot free).bind fresh rfl {
    allocated := by simp [Registry.addSlot]
    handle := by rw [isEntity]; exact isHandle
    typed := by rw [isEntity]; rfl
    owned := fun absurd => by cases absurd
    sited := fun _ => ⟨session, by rw [isEntity]; exact context,
      by simpa [Registry.addSlot] using inside⟩
    topic := fun absurd => by cases absurd } fun _ absurd => by cases absurd

end Registry

open Registry

variable {cfg : Config} {s s' : Rmw} {pool : Pool} {node nodeHandle session : Nat}
variable {result : Option Nat} {room : Bool}

/-- The topic of a new entity, if its pool has topics: the registry with it. -/
def WithTopic (s s' : Rmw) (pool : Pool) (node session : Nat) (entity : Entity)
    (base : Registry) : Prop :=
  if pool.hasTopic then
    ∃ topic topicEntity, NewTopic s s' node session topic topicEntity ∧
      entity.topicOf = some topic ∧
      base = s.registry.addSlot .topic topic (.topic topicEntity)
  else base = s.registry

/-- What an operation changes. `leaks` are the pools in which it may leave slots allocated
that no handle of the caller designates, `gone` the slots it may give back, and `room` tells
whether a data request finds room. -/
inductive Change (cfg : Config) (room : Bool) (leaks : List Pool) (gone : Pool → Nat → Prop)
    (w w' : World) : Prop where
  | idle (agrees : w.rmw.registry.Agrees w'.rmw.registry) (advance : Advance w.rmw w'.rmw)
      (returned : w'.returned = w.returned) (opened : w'.opened = w.opened)
  | leaked (grown : w.rmw.registry.Grown leaks w'.rmw.registry) (nonempty : leaks ≠ [])
      (advance : Advance w.rmw w'.rmw) (returned : w'.returned = w.returned)
      (opened : w'.opened = w.opened)
  | node (session handle slot : Nat) (entity : Node)
      (new : NewNode w.rmw w'.rmw session handle slot entity)
      (inside : session ∈ w.rmw.registry.allocated .session)
      (agrees : (w.rmw.registry.addEntity .node handle slot (.node entity)).Agrees
        w'.rmw.registry)
      (advance : Advance w.rmw w'.rmw)
      (returned : Pool.node ∈ leaks ∧ w'.returned = w.returned ∨
        w'.returned = Function.update w.returned .node (handle :: w.returned .node))
      (opened : w'.opened = w.opened)
  | leaf (pool : Pool) (node nodeHandle session handle slot : Nat) (entity : Entity)
      (base : Registry) (isLeaf : pool.isLeaf = true)
      (new : NewEntity w.rmw w'.rmw room pool node session handle slot entity)
      (nodeBound : w.rmw.registry.Bound .node nodeHandle node)
      (context : (w.rmw.customNodes node).context = some session)
      (withTopic : WithTopic w.rmw w'.rmw pool node session entity base)
      (agrees : (base.addEntity pool handle slot entity).Agrees w'.rmw.registry)
      (advance : Advance w.rmw w'.rmw)
      (returned : w'.returned = Function.update w.returned pool (handle :: w.returned pool))
      (opened : w'.opened = w.opened)
  | removed (removal : w.rmw.registry.Removal w'.rmw.registry gone)
      (advance : Advance w.rmw w'.rmw) (returned : w'.returned = w.returned)
      (opened : ∀ session, session ∈ w'.opened ↔
        session ∈ w.opened ∧ ¬ gone .session session)
  | attached (context session : Nat) (objects : GraphObjects)
      (attached : Attached w.rmw w'.rmw context session objects)
      (returned : w'.returned = w.returned)
      (opened : w'.opened = w.opened ∨ w'.opened = session :: w.opened ∧
        OpenedSession cfg (w'.rmw.customSessions session) ∧
        (cfg.graph = true → objects = firstGraphObjects))

/-- The registry is as sound as before, unless entities were removed, which the functions
that remove them show for themselves. -/
theorem Registry.Sound.grown {r r' : Registry} {leaks : List Pool} (sound : r.Sound)
    (grown : r.Grown leaks r') : r'.Sound := by
  have bound : ∀ {pool handle slot}, r'.Bound pool handle slot → r.Bound pool handle slot := by
    intro pool handle slot isBound
    rwa [Bound, grown.data] at isBound
  have kept : ∀ {pool handle slot}, r.Bound pool handle slot →
      r'.entity pool slot = r.entity pool slot := fun isBound =>
    grown.entity (sound.placed isBound).allocated
  refine {
    placed := fun {pool handle slot} isBound => ?_
    filled := by rw [grown.data]; exact sound.filled
    handled := by rw [grown.data]; exact sound.handled
    apart := fun isBound isBound' isTopic isTopic' => ?_
    impl := fun isImpl => grown.grows (sound.impl (grown.impl ▸ isImpl))
    implApart := by rw [grown.impl]; exact sound.implApart }
  · have placed := sound.placed (bound isBound)
    have same := kept (bound isBound)
    refine ⟨grown.grows placed.allocated, same ▸ placed.handle, same ▸ placed.typed,
      fun leaf => ?_, fun isNode => ?_, fun topics => ?_⟩
    · obtain ⟨node, nodeHandle, owner, nodeBound⟩ := placed.owned leaf
      exact ⟨node, nodeHandle, same ▸ owner, by rw [Bound, grown.data]; exact nodeBound⟩
    · obtain ⟨session, context, inside⟩ := placed.sited isNode
      exact ⟨session, same ▸ context, grown.grows inside⟩
    · obtain ⟨topic, isTopic, inside, owner⟩ := placed.topic topics
      exact ⟨topic, same ▸ isTopic, grown.grows inside, by
        rw [grown.entity inside, same]
        exact owner⟩
  · rw [kept (bound isBound)] at isTopic
    rw [kept (bound isBound')] at isTopic'
    exact sound.apart (bound isBound) (bound isBound') isTopic isTopic'

/-- The registry with the topic of a new entity. -/
theorem WithTopic.base {entity : Entity} {base : Registry}
    (withTopic : WithTopic s s' pool node session entity base) (sound : s.registry.Sound) :
    base.Sound ∧ s.registry.Grown [.topic] base ∧
      (pool.hasTopic = true → ∃ topic, entity.topicOf = some topic ∧
        topic ∈ base.allocated .topic ∧ (base.entity .topic topic).ownerNode = some node ∧
        base.Unused topic) := by
  simp only [WithTopic] at withTopic
  split at withTopic
  · rename_i topics
    obtain ⟨topic, topicEntity, new, isTopic, rfl⟩ := withTopic
    refine ⟨sound.addSlot new.free, (Grown.refl _ _).addSlot new.free (by simp), fun _ =>
      ⟨topic, isTopic, by simp [Registry.addSlot], ?_, ?_⟩⟩
    · rw [Registry.addSlot, take_entity, fill_entity_self]
      exact new.owner
    · intro pool' handle' slot' topics' bound'
      have different : pool' ≠ .topic := by
        rintro rfl
        cases topics'
      rw [Registry.addSlot, take_entity, fill_entity_apply, if_neg fun same => different same.1]
      exact sound.unused_of_not_mem new.free _ _ _ topics' bound'
  · rename_i topics
    obtain rfl := withTopic
    exact ⟨sound, .refl _ _, fun hasTopic => absurd hasTopic topics⟩

/-- An entity that has a handle and is not given back keeps both. -/
theorem Change.keeps {leaks : List Pool} {gone : Pool → Nat → Prop} {w w' : World}
    {handle slot : Nat} (change : Change cfg room leaks gone w w') (sound : w.rmw.registry.Sound)
    (bound : w.rmw.registry.Bound pool handle slot) (stays : ¬ gone pool slot) :
    w'.rmw.registry.Bound pool handle slot ∧
      w'.rmw.registry.entity pool slot = w.rmw.registry.entity pool slot := by
  have inside := (sound.placed bound).allocated
  have added : ∀ {base : Registry} {pool' : Pool} {handle' slot' : Nat} {entity : Entity},
      base.Bound pool handle slot → slot ∈ base.allocated pool →
      slot' ∉ base.allocated pool' → base.data pool' handle' = none →
      (base.addEntity pool' handle' slot' entity).Agrees w'.rmw.registry →
      w'.rmw.registry.Bound pool handle slot ∧
        w'.rmw.registry.entity pool slot = base.entity pool slot := by
    intro base pool' handle' slot' entity bound inside free fresh agrees
    refine ⟨agrees.bound_iff.mpr (addEntity_bound fresh bound), ?_⟩
    rw [agrees.entity, addEntity_entity free inside]
    by_cases same : pool = pool'
    · subst same
      simp [Registry.addEntity, addSlot, inside]
    · simpa [Registry.addEntity, addSlot, same] using inside
  cases change with
  | idle agrees => exact ⟨agrees.bound_iff.mpr bound, agrees.entity inside⟩
  | leaked grown => exact ⟨by rw [Bound, grown.data]; exact bound, grown.entity inside⟩
  | node session handle slot entity new _ agrees =>
      exact added bound inside new.free new.fresh agrees
  | leaf pool' node nodeHandle session handle' slot' entity base isLeaf new nodeBound context
      withTopic agrees =>
      obtain ⟨-, grown, -⟩ := withTopic.base sound
      have outside : pool' ∉ [Pool.topic] := by
        simpa using ne_topic_of_isLeaf isLeaf
      rw [← grown.entity inside]
      apply added _ (grown.grows inside) _ _ agrees
      · rw [Bound, grown.data]
        exact bound
      · rw [grown.others outside]
        exact new.free
      · rw [grown.data]
        exact new.fresh
  | removed removal =>
      have notTopic : pool ≠ .topic := Pool.ne_of_hasHandle (sound.hasHandle bound) rfl
      exact ⟨removal.bound.mpr ⟨bound, stays⟩,
        removal.entity ((removal.kept notTopic).mpr ⟨inside, stays⟩)⟩
  | attached context session objects attached =>
      rw [attached.registry]
      exact ⟨bound, rfl⟩

end RmwMicroxrcedds
