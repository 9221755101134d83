import RmwMicroxrcedds.Machine.Run

/-! # The numbers of the entities

Every identifier is taken from a counter of its session that only grows. So the numbers
of the entities a session has at one time lie below its counters, and are different as
long as they are not cut to sixteen bits.
-/

namespace RmwMicroxrcedds

open Outcome Registry

variable {cfg : Config} {admits : Admission} {w w' : World} {s s' : Rmw} {r r' : Registry}
variable {pool : Pool} {handle slot node session topic : Nat} {object object' : ObjectId}
variable {room : Bool}

namespace Registry

/-- A live entity, or the topic of one. -/
def Held (r : Registry) (pool : Pool) (slot : Nat) : Prop :=
  (∃ handle, r.Bound pool handle slot) ∨
    pool = .topic ∧ ∃ owner handle entity, owner.hasTopic = true ∧
      r.Bound owner handle entity ∧ (r.entity owner entity).topicOf = some slot

/-- The session of an entity: the one of its node. -/
def sessionOf (r : Registry) (pool : Pool) (slot : Nat) : Option Nat :=
  if pool = .node then (r.entity .node slot).context
  else (r.entity pool slot).ownerNode.bind fun node => (r.entity .node node).context

/-- What is held is allocated. -/
theorem Sound.held_allocated (sound : r.Sound) (held : r.Held pool slot) :
    slot ∈ r.allocated pool := by
  rcases held with ⟨handle, bound⟩ | ⟨rfl, owner, handle, entity, topics, bound, isTopic⟩
  · exact (sound.placed bound).allocated
  · obtain ⟨topic, isTopic', inside, -⟩ := (sound.placed bound).topic topics
    rw [isTopic] at isTopic'
    exact Option.some.inj isTopic' ▸ inside

/-- What is no node belongs to a live one. -/
theorem Sound.held_owner (sound : r.Sound) (held : r.Held pool slot) (notNode : pool ≠ .node) :
    ∃ node handle, (r.entity pool slot).ownerNode = some node ∧ r.Bound .node handle node := by
  rcases held with ⟨handle, bound⟩ | ⟨rfl, owner, handle, entity, topics, bound, isTopic⟩
  · have leaf : pool.isLeaf = true := by
      have handles := sound.hasHandle bound
      cases pool <;> first | rfl | exact absurd rfl notNode | cases handles
    obtain ⟨node, nodeHandle, isOwner, nodeBound⟩ := (sound.placed bound).owned leaf
    exact ⟨node, nodeHandle, isOwner, nodeBound⟩
  · obtain ⟨topic, isTopic', -, sameOwner⟩ := (sound.placed bound).topic topics
    rw [isTopic] at isTopic'
    obtain rfl := Option.some.inj isTopic'
    obtain ⟨node, nodeHandle, isOwner, nodeBound⟩ :=
      (sound.placed bound).owned (Pool.isLeaf_of_hasTopic topics)
    exact ⟨node, nodeHandle, sameOwner.trans isOwner, nodeBound⟩

/-- The session of what is held is allocated. -/
theorem Sound.held_session (sound : r.Sound) (held : r.Held pool slot)
    (isSession : r.sessionOf pool slot = some session) : session ∈ r.allocated .session := by
  have ofNode : ∀ handle node, r.Bound .node handle node →
      (r.entity .node node).context = some session → session ∈ r.allocated .session := by
    intro handle node bound isContext
    obtain ⟨other, isOther, inside⟩ := (sound.placed bound).sited rfl
    rw [isContext] at isOther
    exact Option.some.inj isOther ▸ inside
  unfold sessionOf at isSession
  split at isSession
  · rename_i isNode
    subst isNode
    rcases held with ⟨handle, bound⟩ | ⟨absurd, -⟩
    · exact ofNode handle slot bound isSession
    · cases absurd
  · rename_i notNode
    obtain ⟨node, handle, isOwner, bound⟩ := sound.held_owner held notNode
    rw [isOwner] at isSession
    exact ofNode handle node bound isSession

/-- What is held is in a session. -/
theorem Sound.session_of_held (sound : r.Sound) (held : r.Held pool slot) :
    ∃ session ∈ r.allocated .session, r.sessionOf pool slot = some session := by
  have some_session : ∃ session, r.sessionOf pool slot = some session := by
    by_cases isNode : pool = .node
    · subst isNode
      obtain ⟨handle, bound⟩ := held.resolve_right fun absurd => by cases absurd.1
      obtain ⟨session, context, -⟩ := (sound.placed bound).sited rfl
      exact ⟨session, by rw [sessionOf, if_pos rfl, context]⟩
    · obtain ⟨node, nodeHandle, owner, bound⟩ := sound.held_owner held isNode
      obtain ⟨session, context, -⟩ := (sound.placed bound).sited rfl
      refine ⟨session, ?_⟩
      rw [sessionOf, if_neg isNode, owner]
      exact context
  obtain ⟨session, isSession⟩ := some_session
  exact ⟨session, sound.held_session held isSession, isSession⟩

/-- What the second registry holds, the first holds with the same contents, unless it is
new. -/
def Retains (r r' : Registry) (new : Pool → Nat → Prop) : Prop :=
  ∀ pool slot, r'.Held pool slot → new pool slot ∨
    r.Held pool slot ∧ r'.entity pool slot = r.entity pool slot ∧
      r'.sessionOf pool slot = r.sessionOf pool slot

/-- It is enough to look at the handles and the contents. -/
theorem Sound.retains (sound : r.Sound) (sound' : r'.Sound) {new : Pool → Nat → Prop}
    (bound : ∀ pool handle slot, r'.Bound pool handle slot →
      r.Bound pool handle slot ∨ new pool slot)
    (topics : ∀ pool handle slot topic, pool.hasTopic = true → r'.Bound pool handle slot →
      new pool slot → (r'.entity pool slot).topicOf = some topic → new .topic topic)
    (entity : ∀ pool slot, r.Held pool slot → r'.Held pool slot →
      r'.entity pool slot = r.entity pool slot) : r.Retains r' new := by
  intro pool slot held'
  have old : new pool slot ∨ r.Held pool slot := by
    rcases held' with ⟨handle, bound'⟩ | ⟨rfl, owner, handle, user, hasTopic, bound', isTopic⟩
    · rcases bound pool handle slot bound' with before | isNew
      · exact Or.inr (Or.inl ⟨handle, before⟩)
      · exact Or.inl isNew
    · rcases bound owner handle user bound' with before | isNew
      · have same := entity owner user (Or.inl ⟨handle, before⟩) (Or.inl ⟨handle, bound'⟩)
        rw [same] at isTopic
        exact Or.inr (Or.inr ⟨rfl, owner, handle, user, hasTopic, before, isTopic⟩)
      · exact Or.inl (topics owner handle user slot hasTopic bound' isNew isTopic)
  apply old.imp_right
  intro held
  have same := entity pool slot held held'
  refine ⟨held, same, ?_⟩
  unfold sessionOf
  by_cases isNode : pool = .node
  · subst isNode
    simp only [↓reduceIte, same]
  · obtain ⟨node, nodeHandle, isOwner, nodeBound⟩ := sound.held_owner held isNode
    obtain ⟨node', nodeHandle', isOwner', nodeBound'⟩ := sound'.held_owner held' isNode
    rw [same, isOwner] at isOwner'
    obtain rfl := Option.some.inj isOwner'
    have sameNode := entity .node node (Or.inl ⟨nodeHandle, nodeBound⟩)
      (Or.inl ⟨nodeHandle', nodeBound'⟩)
    simp only [isNode, ↓reduceIte, same, isOwner, Option.bind_some, sameNode]

/-- A handle of the registry after an addition is an old one, or that of the new entity. -/
theorem bound_of_addEntity {entity : Entity} {pool' : Pool} {handle' slot' : Nat}
    (bound : (r.addEntity pool handle slot entity).Bound pool' handle' slot') :
    r.Bound pool' handle' slot' ∨ pool' = pool ∧ slot' = slot := by
  rw [Bound, addEntity, setData_data_apply] at bound
  split at bound
  · rename_i same
    exact Or.inr ⟨same.1, (Option.some.inj (Option.some.inj bound)).symm⟩
  · exact Or.inl bound

/-- An entity is added, and the topic it has. -/
theorem Sound.retains_addEntity {base : Registry} {entity : Entity} {leaks : List Pool}
    (sound : r.Sound) (sound' : r'.Sound) (grown : r.Grown leaks base)
    (free : slot ∉ base.allocated pool)
    (agrees : (base.addEntity pool handle slot entity).Agrees r') :
    r'.entity pool slot = entity ∧ r.Retains r' fun pool' slot' => pool' = pool ∧ slot' = slot ∨
      pool.hasTopic = true ∧ pool' = .topic ∧ entity.topicOf = some slot' := by
  have inside : slot ∈ (base.addEntity pool handle slot entity).allocated pool := by
    simp [addEntity, Registry.addSlot]
  have isEntity : r'.entity pool slot = entity := by
    rw [agrees.entity inside, addEntity, setData_entity, Registry.addSlot, take_entity,
      fill_entity_self]
  refine ⟨isEntity, sound.retains sound' ?_ ?_ ?_⟩
  · intro pool' handle' slot' bound
    rcases bound_of_addEntity (agrees.bound_iff.mp bound) with before | same
    · rw [Bound, grown.data] at before
      exact Or.inl before
    · exact Or.inr (Or.inl same)
  · intro pool' handle' slot' topic topics bound isNew isTopic
    rcases isNew with ⟨rfl, rfl⟩ | ⟨-, rfl, -⟩
    · rw [isEntity] at isTopic
      exact Or.inr ⟨topics, rfl, isTopic⟩
    · cases topics
  · intro pool' slot' held held'
    have old := sound.held_allocated held
    have within : slot' ∈ (base.addEntity pool handle slot entity).allocated pool' := by
      have still := sound'.held_allocated held'
      rwa [agrees.allocated] at still
    rw [agrees.entity within, addEntity_entity free (grown.grows old), grown.entity old]

end Registry

/-- The identifiers of `rmw_graph_init`. -/
def GraphObjects.all (objects : GraphObjects) : List ObjectId :=
  [objects.participantId, objects.subscriberId, objects.topicId, objects.datareaderId]

/-- The objects a session has on the agent: those of the graph if it was opened with one,
and those of what is held in it. -/
inductive World.HasObject (cfg : Config) (w : World) (session : Nat) :
    Option (Pool × Nat) → ObjectId → Prop
  | graph (object : ObjectId) (opened : session ∈ w.opened) (graph : cfg.graph = true)
      (inside : object ∈ (w.rmw.registry.graph session).all) : w.HasObject cfg session none object
  | held (pool : Pool) (slot : Nat) (object : ObjectId) (held : w.rmw.registry.Held pool slot)
      (sited : w.rmw.registry.sessionOf pool slot = some session)
      (inside : object ∈ (w.rmw.registry.entity pool slot).objects) :
      w.HasObject cfg session (some (pool, slot)) object

/-- A live service or client of a session has this data-request number. -/
structure World.HasRequest (w : World) (session : Nat) (owner : Pool × Nat) (number : Nat) :
    Prop where
  held : w.rmw.registry.Held owner.1 owner.2
  sited : w.rmw.registry.sessionOf owner.1 owner.2 = some session
  request : (w.rmw.registry.entity owner.1 owner.2).dataRequest = some number

/-- The numbers of a session lie below its counters, and no two of them are equal; only a
request that found no room has the number zero, which may come up again. -/
structure Numbered (cfg : Config) (w : World) : Prop where
  opened : ∀ session ∈ w.opened, session ∈ w.rmw.registry.allocated .session
  below : ∀ session owner object, w.HasObject cfg session owner object →
    object.id < (w.rmw.customSessions session).nextId object.type
  apart : ∀ session owner owner' object object', w.HasObject cfg session owner object →
    w.HasObject cfg session owner' object' → object.type = object'.type →
    object.id = object'.id → owner = owner' ∧ object = object'
  requestBelow : ∀ session owner number, w.HasRequest session owner number →
    number ≤ (w.rmw.customSessions session).lastRequestId
  requestApart : ∀ session owner owner' number, w.HasRequest session owner number →
    w.HasRequest session owner' number → number = 0 ∨ owner = owner'

/-- The number of a request was handed out in between, unless there was no room. -/
def Requested (s s' : Rmw) (room : Bool) (session number : Nat) : Prop :=
  room = false ∧ number = 0 ∨ (s.customSessions session).lastRequestId < number ∧
    number ≤ (s'.customSessions session).lastRequestId

/-- The new places of a step carry numbers that were handed out in between, and no two of
them the same. -/
structure Fresh (s s' : Rmw) (room : Bool) (new : Pool → Nat → Prop) : Prop where
  issued : ∀ pool slot session, new pool slot → s'.registry.sessionOf pool slot = some session →
    ∀ object ∈ (s'.registry.entity pool slot).objects, Issued s s' session object
  requested : ∀ pool slot session number, new pool slot →
    s'.registry.sessionOf pool slot = some session →
    (s'.registry.entity pool slot).dataRequest = some number → Requested s s' room session number
  apart : ∀ pool slot pool' slot', new pool slot → new pool' slot' →
    ∀ object ∈ (s'.registry.entity pool slot).objects,
    ∀ object' ∈ (s'.registry.entity pool' slot').objects, object.type = object'.type →
      (pool, slot) = (pool', slot') ∧ object = object'
  single : ∀ pool slot pool' slot' number, new pool slot → new pool' slot' →
    (s'.registry.entity pool slot).dataRequest = some number →
    (s'.registry.entity pool' slot').dataRequest = some number → (pool, slot) = (pool', slot')

/-- Without a new entity nothing is fresh. -/
theorem Fresh.nothing (s s' : Rmw) (room : Bool) : Fresh s s' room fun _ _ => False where
  issued := fun _ _ _ isNew => isNew.elim
  requested := fun _ _ _ _ isNew => isNew.elim
  apart := fun _ _ _ _ isNew => isNew.elim
  single := fun _ _ _ _ _ isNew => isNew.elim

/-- A step that only adds entities with numbers of its own keeps the numbers apart. -/
theorem Numbered.step {new : Pool → Nat → Prop} (numbered : Numbered cfg w)
    (advance : Advance w.rmw w'.rmw) (retains : w.rmw.registry.Retains w'.rmw.registry new)
    (graph : w'.rmw.registry.graph = w.rmw.registry.graph)
    (opened : ∀ session ∈ w'.opened, session ∈ w.opened)
    (allocated : ∀ session ∈ w'.opened, session ∈ w'.rmw.registry.allocated .session)
    (fresh : Fresh w.rmw w'.rmw room new) : Numbered cfg w' := by
  -- every object is an old one, or one of a new entity
  have origin : ∀ {session owner object}, w'.HasObject cfg session owner object →
      w.HasObject cfg session owner object ∨
        Issued w.rmw w'.rmw session object ∧ ∃ pool slot, owner = some (pool, slot) ∧
          new pool slot ∧ object ∈ (w'.rmw.registry.entity pool slot).objects := by
    intro session owner object has
    cases has with
    | graph object isOpen isGraph inside =>
        rw [graph] at inside
        exact Or.inl (.graph object (opened session isOpen) isGraph inside)
    | held pool slot object held sited inside =>
        rcases retains pool slot held with isNew | ⟨before, same, sameSession⟩
        · have isIssued := fresh.issued pool slot session isNew sited object inside
          exact Or.inr ⟨isIssued, pool, slot, rfl, isNew, inside⟩
        · rw [same] at inside
          rw [sameSession] at sited
          exact Or.inl (.held pool slot object before sited inside)
  have requestOrigin : ∀ {session owner number}, w'.HasRequest session owner number →
      w.HasRequest session owner number ∨
        Requested w.rmw w'.rmw room session number ∧ new owner.1 owner.2 := by
    intro session owner number has
    obtain ⟨held, sited, request⟩ := has
    rcases retains owner.1 owner.2 held with isNew | ⟨before, same, sameSession⟩
    · exact Or.inr ⟨fresh.requested _ _ session number isNew sited request, isNew⟩
    · rw [same] at request
      rw [sameSession] at sited
      exact Or.inl ⟨before, sited, request⟩
  refine ⟨allocated, ?_, ?_, ?_, ?_⟩
  · intro session owner object has
    rcases origin has with before | ⟨isIssued, -⟩
    · exact Nat.lt_of_lt_of_le (numbered.below session owner object before)
        (advance.nextId session object.type)
    · exact isIssued.2
  · intro session owner owner' object object' has has' sameType sameId
    rcases origin has with before | ⟨isIssued, pool, slot, rfl, isNew, inside⟩
    · rcases origin has' with before' | ⟨isIssued', pool', slot', rfl, isNew', inside'⟩
      · exact numbered.apart session owner owner' object object' before before' sameType sameId
      · have below := numbered.below session owner object before
        have above := isIssued'.1
        rw [sameType] at below
        omega
    · rcases origin has' with before' | ⟨isIssued', pool', slot', rfl, isNew', inside'⟩
      · have below := numbered.below session owner' object' before'
        have above := isIssued.1
        rw [sameType] at above
        omega
      · obtain ⟨samePlace, same⟩ := fresh.apart pool slot pool' slot' isNew isNew' object inside
          object' inside' sameType
        exact ⟨congrArg some samePlace, same⟩
  · intro session owner number has
    rcases requestOrigin has with before | ⟨⟨-, zero⟩ | ⟨-, below⟩, -⟩
    · exact Nat.le_trans (numbered.requestBelow session owner number before)
        (advance.lastRequestId session)
    · rw [zero]
      exact Nat.zero_le _
    · exact below
  · intro session owner owner' number has has'
    rcases requestOrigin has with before | ⟨requested, isNew⟩
    · rcases requestOrigin has' with before' | ⟨requested', isNew'⟩
      · exact numbered.requestApart session owner owner' number before before'
      · have below := numbered.requestBelow session owner number before
        apply requested'.imp And.right
        intro above
        omega
    · rcases requestOrigin has' with before' | ⟨requested', isNew'⟩
      · have below := numbered.requestBelow session owner' number before'
        apply requested.imp And.right
        intro above
        omega
      · exact Or.inr (fresh.single _ _ _ _ number isNew isNew' has.request has'.request)

namespace Registry

/-- What was allocated before an entity was added keeps its contents. -/
theorem Grown.entity_addEntity {base : Registry} {entity : Entity} {leaks : List Pool}
    {pool' : Pool} {slot' : Nat} (grown : r.Grown leaks base) (free : slot ∉ base.allocated pool)
    (agrees : (base.addEntity pool handle slot entity).Agrees r')
    (inside : slot' ∈ r.allocated pool') : r'.entity pool' slot' = r.entity pool' slot' := by
  have within : slot' ∈ (base.addEntity pool handle slot entity).allocated pool' := by
    by_cases same : pool' = pool
    · subst same
      simp [addEntity, Registry.addSlot, grown.grows inside]
    · simpa [addEntity, Registry.addSlot, same] using grown.grows inside
  rw [agrees.entity within, addEntity_entity free (grown.grows inside), grown.entity inside]

end Registry

/-- The kinds of object of an entity are different from each other, and from those of its
topic. -/
private theorem eq_of_objectTypes {entity : Entity}
    (objects : entity.objects.map ObjectId.type = pool.objectTypes)
    (inside : object ∈ entity.objects) (inside' : object' ∈ entity.objects)
    (same : object.type = object'.type) : object = object' := by
  have nodup : (entity.objects.map ObjectId.type).Nodup := by
    rw [objects]
    cases pool <;> decide
  exact List.inj_on_of_nodup_map nodup inside inside' same

private theorem type_ne_topic {entity : Entity} (leaf : pool.isLeaf = true)
    (objects : entity.objects.map ObjectId.type = pool.objectTypes)
    (inside : object ∈ entity.objects) : object.type ≠ .topic := by
  intro isTopic
  have member : object.type ∈ pool.objectTypes := by
    rw [← objects]
    exact List.mem_map_of_mem inside
  rw [isTopic] at member
  cases pool <;> first | exact absurd member (by decide) | cases leaf

/-- The numbers of a new entity and its topic, when both are in the session. -/
theorem NewEntity.numbers {entity : Entity}
    (new : NewEntity s s' room pool node session handle slot entity) (leaf : pool.isLeaf = true)
    (isEntity : s'.registry.entity pool slot = entity)
    (sited : ∀ other, s'.registry.sessionOf pool slot = some other → other = session)
    (topics : ∀ topic, pool.hasTopic = true → entity.topicOf = some topic →
      ∃ topicEntity : Topic, s'.registry.entity .topic topic = .topic topicEntity ∧
        NewTopic s s' node session topic topicEntity ∧
        ∀ other, s'.registry.sessionOf .topic topic = some other → other = session) :
    Fresh s s' room fun pool' slot' => pool' = pool ∧ slot' = slot ∨
      pool.hasTopic = true ∧ pool' = .topic ∧ entity.topicOf = some slot' := by
  subst isEntity
  refine ⟨?_, ?_, ?_, ?_⟩
  · intro pool' slot' session' isNew isSession object inside
    rcases isNew with ⟨rfl, rfl⟩ | ⟨hasTopic, rfl, isTopic⟩
    · obtain rfl := sited session' isSession
      exact new.issued object inside
    · obtain ⟨topicEntity, isTopicEntity, newTopic, topicSited⟩ := topics slot' hasTopic isTopic
      obtain rfl := topicSited session' isSession
      rw [isTopicEntity] at inside
      obtain rfl := List.mem_singleton.mp inside
      exact newTopic.issued
  · intro pool' slot' session' number isNew isSession isNumber
    rcases isNew with ⟨rfl, rfl⟩ | ⟨hasTopic, rfl, isTopic⟩
    · obtain rfl := sited session' isSession
      exact new.requested number isNumber
    · obtain ⟨topicEntity, isTopicEntity, -⟩ := topics slot' hasTopic isTopic
      rw [isTopicEntity] at isNumber
      cases isNumber
  · intro first slot' second slot'' isNew isNew' object inside object' inside' sameType
    rcases isNew with ⟨rfl, rfl⟩ | ⟨hasTopic, rfl, isTopic⟩
    · rcases isNew' with ⟨rfl, rfl⟩ | ⟨hasTopic, rfl, isTopic⟩
      · exact ⟨rfl, eq_of_objectTypes new.objects inside inside' sameType⟩
      · obtain ⟨topicEntity, isTopicEntity, newTopic, -⟩ := topics slot'' hasTopic isTopic
        rw [isTopicEntity] at inside'
        obtain rfl := List.mem_singleton.mp inside'
        exact absurd (sameType.trans newTopic.type) (type_ne_topic leaf new.objects inside)
    · obtain ⟨topicEntity, isTopicEntity, newTopic, -⟩ := topics slot' hasTopic isTopic
      rw [isTopicEntity] at inside
      obtain rfl := List.mem_singleton.mp inside
      rcases isNew' with ⟨rfl, rfl⟩ | ⟨-, rfl, isTopic'⟩
      · exact absurd (sameType.symm.trans newTopic.type) (type_ne_topic leaf new.objects inside')
      · cases isTopic.symm.trans isTopic'
        rw [isTopicEntity] at inside'
        obtain rfl := List.mem_singleton.mp inside'
        exact ⟨rfl, rfl⟩
  · intro first slot' second slot'' number isNew isNew' isNumber isNumber'
    rcases isNew with ⟨rfl, rfl⟩ | ⟨hasTopic, rfl, isTopic⟩
    · rcases isNew' with ⟨rfl, rfl⟩ | ⟨hasTopic, rfl, isTopic⟩
      · rfl
      · obtain ⟨topicEntity, isTopicEntity, -⟩ := topics slot'' hasTopic isTopic
        rw [isTopicEntity] at isNumber'
        cases isNumber'
    · obtain ⟨topicEntity, isTopicEntity, -⟩ := topics slot' hasTopic isTopic
      rw [isTopicEntity] at isNumber
      cases isNumber

/-- The number of a new node. -/
theorem NewNode.numbers {entity : Node} (new : NewNode s s' session handle slot entity)
    (isEntity : s'.registry.entity .node slot = .node entity) :
    Fresh s s' room fun pool' slot' => pool' = .node ∧ slot' = slot ∨
      Pool.node.hasTopic = true ∧ pool' = .topic ∧
        (Entity.node entity).topicOf = some slot' := by
  refine ⟨?_, ?_, ?_, ?_⟩
  · intro pool' slot' session' isNew isSession object inside
    rcases isNew with ⟨rfl, rfl⟩ | ⟨absurd, -⟩
    · rw [Registry.sessionOf, if_pos rfl, isEntity] at isSession
      obtain rfl : session = session' := Option.some.inj (new.context.symm.trans isSession)
      rw [isEntity] at inside
      obtain rfl := List.mem_singleton.mp inside
      exact new.issued
    · cases absurd
  · intro pool' slot' session' number isNew isSession isNumber
    rcases isNew with ⟨rfl, rfl⟩ | ⟨absurd, -⟩
    · rw [isEntity] at isNumber
      cases isNumber
    · cases absurd
  · intro first slot' second slot'' isNew isNew' object inside object' inside' sameType
    rcases isNew with ⟨rfl, rfl⟩ | ⟨absurd, -⟩
    · rcases isNew' with ⟨rfl, rfl⟩ | ⟨absurd, -⟩
      · rw [isEntity] at inside inside'
        obtain rfl := List.mem_singleton.mp inside
        obtain rfl := List.mem_singleton.mp inside'
        exact ⟨rfl, rfl⟩
      · cases absurd
    · cases absurd
  · intro first slot' second slot'' number isNew isNew' isNumber
    rcases isNew with ⟨rfl, rfl⟩ | ⟨absurd, -⟩
    · rw [isEntity] at isNumber
      cases isNumber
    · cases absurd

/-- The session of the topic of an entity is the one of the entity. -/
theorem Registry.sessionOf_of_owner (isOwner : (r.entity pool slot).ownerNode = some node)
    (notNode : pool ≠ .node) (context : (r.entity .node node).context = some session)
    {other : Nat} (isSession : r.sessionOf pool slot = some other) : other = session := by
  rw [sessionOf, if_neg notNode, isOwner, Option.bind_some, context] at isSession
  exact (Option.some.inj isSession).symm

/-- The numbers of a leaf that is added, and of its topic. -/
private theorem leaf_numbers {nodeHandle : Nat} {entity : Entity} {base : Registry}
    (sound : s.registry.Sound) (leaf : pool.isLeaf = true)
    (new : NewEntity s s' room pool node session handle slot entity)
    (nodeBound : s.registry.Bound .node nodeHandle node)
    (context : (s.customNodes node).context = some session)
    (withTopic : WithTopic s s' pool node session entity base)
    (grown : s.registry.Grown [.topic] base) (free : slot ∉ base.allocated pool)
    (agrees : (base.addEntity pool handle slot entity).Agrees s'.registry)
    (isEntity : s'.registry.entity pool slot = entity) :
    Fresh s s' room fun pool' slot' => pool' = pool ∧ slot' = slot ∨
      pool.hasTopic = true ∧ pool' = .topic ∧ entity.topicOf = some slot' := by
  have sameNode := grown.entity_addEntity free agrees (sound.placed nodeBound).allocated
  have isContext : (s'.registry.entity .node node).context = some session := by
    rw [sameNode]
    exact context
  have owned : (s'.registry.entity pool slot).ownerNode = some node := by
    rw [isEntity]
    exact new.owner
  apply new.numbers leaf isEntity
  · exact fun other => sessionOf_of_owner owned (ne_node_of_isLeaf leaf) isContext
  · intro topic hasTopic isTopic
    rw [WithTopic, if_pos hasTopic] at withTopic
    obtain ⟨topic', topicEntity, newTopic, isTopic', isBase⟩ := withTopic
    cases isTopic.symm.trans isTopic'
    have inside : topic ∈ base.allocated .topic := by simp [isBase, addSlot]
    have within : topic ∈ (base.addEntity pool handle slot entity).allocated .topic := by
      simpa [addEntity, addSlot, (ne_topic_of_isLeaf leaf).symm] using inside
    have isTopicEntity : s'.registry.entity .topic topic = .topic topicEntity := by
      rw [agrees.entity within, addEntity_entity free inside, isBase, addSlot, take_entity,
        fill_entity_self]
    refine ⟨topicEntity, isTopicEntity, newTopic, fun other => ?_⟩
    apply sessionOf_of_owner _ (by decide) isContext
    rw [isTopicEntity]
    exact newTopic.owner

/-- A session that is attached has the identifiers of its graph, if it is opened, and
nothing is held in it. -/
private theorem Attached.numbered {context : Nat} {objects : GraphObjects}
    (attached : Attached w.rmw w'.rmw context session objects) (sound : w.rmw.registry.Sound)
    (opened : w'.opened = w.opened ∨ w'.opened = session :: w.opened ∧
      OpenedSession cfg (w'.rmw.customSessions session) ∧
      (cfg.graph = true → objects = firstGraphObjects))
    (numbered : Numbered cfg w) : Numbered cfg w' := by
  have unheld : ∀ {pool slot}, w.rmw.registry.Held pool slot →
      w.rmw.registry.sessionOf pool slot ≠ some session := fun held sited =>
    attached.free (sound.held_session held sited)
  have unopened : session ∉ w.opened := fun isOpen => attached.free (numbered.opened _ isOpen)
  have heldSame : w'.rmw.registry.Held = w.rmw.registry.Held := by
    rw [attached.registry]
    rfl
  have sessionSame : w'.rmw.registry.sessionOf = w.rmw.registry.sessionOf := by
    rw [attached.registry]
    rfl
  have entitySame : w'.rmw.registry.entity = w.rmw.registry.entity := by
    rw [attached.registry]
    rfl
  -- what another session has, it had before; the new one has the objects of its graph
  have origin : ∀ {other owner object}, w'.HasObject cfg other owner object →
      other ≠ session ∧ w.HasObject cfg other owner object ∨
      other = session ∧ owner = none ∧ object ∈ firstGraphObjects.all ∧
        (w'.rmw.customSessions session).nextId = graphCounters := by
    intro other owner object has
    cases has with
    | graph object isOpen isGraph inside =>
        by_cases same : other = session
        · subst same
          rcases opened with opened | ⟨-, counters, isFirst⟩
          · rw [opened] at isOpen
            exact absurd isOpen unopened
          · rw [attached.registry, setGraph_graph, Function.update_self, isFirst isGraph] at inside
            have nextId := counters.nextId
            rw [if_pos isGraph] at nextId
            exact Or.inr ⟨rfl, rfl, inside, nextId⟩
        · have before : other ∈ w.opened := by
            rcases opened with opened | ⟨opened, -⟩ <;> rw [opened] at isOpen
            · exact isOpen
            · exact (List.mem_cons.mp isOpen).resolve_left same
          rw [attached.registry, setGraph_graph, Function.update_of_ne same] at inside
          exact Or.inl ⟨same, .graph object before isGraph inside⟩
    | held pool slot object held sited inside =>
        rw [heldSame] at held
        rw [sessionSame] at sited
        rw [entitySame] at inside
        refine Or.inl ⟨?_, .held pool slot object held sited inside⟩
        intro same
        exact unheld held (same ▸ sited)
  have requestOrigin : ∀ {other owner number}, w'.HasRequest other owner number →
      other ≠ session ∧ w.HasRequest other owner number := by
    intro other owner number has
    obtain ⟨held, sited, request⟩ := has
    rw [heldSame] at held
    rw [sessionSame] at sited
    rw [entitySame] at request
    refine ⟨?_, held, sited, request⟩
    intro same
    exact unheld held (same ▸ sited)
  have numbersOfFirst : ∀ object ∈ firstGraphObjects.all,
      object.id = 0 ∧ graphCounters object.type = 1 := by decide
  have typesOfFirst : ∀ object ∈ firstGraphObjects.all, ∀ object' ∈ firstGraphObjects.all,
      object.type = object'.type → object = object' := by decide
  refine ⟨?_, ?_, ?_, ?_, ?_⟩
  · intro other isOpen
    rw [attached.registry]
    by_cases same : other = session
    · simp [same]
    · have before : other ∈ w.opened := by
        rcases opened with opened | ⟨opened, -⟩ <;> rw [opened] at isOpen
        · exact isOpen
        · exact (List.mem_cons.mp isOpen).resolve_left same
      simp [numbered.opened other before]
  · intro other owner object has
    rcases origin has with ⟨different, before⟩ | ⟨rfl, -, inside, counters⟩
    · rw [attached.others other different]
      exact numbered.below other owner object before
    · obtain ⟨isZero, isOne⟩ := numbersOfFirst object inside
      rw [counters, isZero, isOne]
      exact Nat.one_pos
  · intro other owner owner' object object' has has' sameType sameId
    rcases origin has with ⟨different, before⟩ | ⟨rfl, rfl, inside, -⟩
    · rcases origin has' with ⟨-, before'⟩ | ⟨same, -⟩
      · exact numbered.apart other owner owner' object object' before before' sameType sameId
      · exact absurd same different
    · rcases origin has' with ⟨different, -⟩ | ⟨-, rfl, inside', -⟩
      · exact absurd rfl different
      · exact ⟨rfl, typesOfFirst object inside object' inside' sameType⟩
  · intro other owner number has
    obtain ⟨different, before⟩ := requestOrigin has
    rw [attached.others other different]
    exact numbered.requestBelow other owner number before
  · intro other owner owner' number has has'
    exact numbered.requestApart other owner owner' number (requestOrigin has).2
      (requestOrigin has').2

/-- What a step adds to the registry has numbers of its own, and the rest stays. -/
theorem Change.retains {leaks : List Pool} {gone : Pool → Nat → Prop}
    (change : Change cfg room leaks gone w w') (sound : w.rmw.registry.Sound)
    (sound' : w'.rmw.registry.Sound) :
    ∃ new, w.rmw.registry.Retains w'.rmw.registry new ∧ Fresh w.rmw w'.rmw room new := by
  cases change with
  | idle agrees =>
      refine ⟨_, sound.retains sound' ?_ ?_ ?_, .nothing _ _ _⟩
      · exact fun _ _ _ bound => Or.inl (agrees.bound_iff.mp bound)
      · exact fun _ _ _ _ _ _ isNew => isNew.elim
      · exact fun _ _ held _ => agrees.entity (sound.held_allocated held)
  | leaked grown =>
      refine ⟨_, sound.retains sound' ?_ ?_ ?_, .nothing _ _ _⟩
      · intro pool handle slot bound
        rw [Bound, grown.data] at bound
        exact Or.inl bound
      · exact fun _ _ _ _ _ _ isNew => isNew.elim
      · exact fun _ _ held _ => grown.entity (sound.held_allocated held)
  | node session handle slot entity new inside agrees =>
      obtain ⟨isEntity, retains⟩ :=
        sound.retains_addEntity sound' (Grown.refl w.rmw.registry []) new.free agrees
      exact ⟨_, retains, new.numbers isEntity⟩
  | leaf pool node nodeHandle session handle slot entity base isLeaf new nodeBound context
      withTopic agrees =>
      obtain ⟨-, grown, -⟩ := withTopic.base sound
      have outside : pool ∉ [Pool.topic] := by
        simpa using ne_topic_of_isLeaf isLeaf
      have free : slot ∉ base.allocated pool := by
        rw [grown.others outside]
        exact new.free
      obtain ⟨isEntity, retains⟩ := sound.retains_addEntity sound' grown free agrees
      exact ⟨_, retains,
        leaf_numbers sound isLeaf new nodeBound context withTopic grown free agrees isEntity⟩
  | removed removal =>
      refine ⟨_, sound.retains sound' ?_ ?_ ?_, .nothing _ _ _⟩
      · exact fun _ _ _ bound => Or.inl (removal.bound.mp bound).1
      · exact fun _ _ _ _ _ _ isNew => isNew.elim
      · exact fun _ _ _ held => removal.entity (sound'.held_allocated held)
  | attached context session objects attached =>
      refine ⟨fun _ _ => False, ?_, .nothing _ _ _⟩
      rw [attached.registry]
      exact fun pool slot held => Or.inr ⟨held, rfl, rfl⟩

/-- Every step keeps the numbers apart. -/
theorem Change.numbered {leaks : List Pool} {gone : Pool → Nat → Prop}
    (change : Change cfg room leaks gone w w') (sound : w.rmw.registry.Sound)
    (sound' : w'.rmw.registry.Sound) (numbered : Numbered cfg w) : Numbered cfg w' := by
  obtain ⟨new, retains, fresh⟩ := change.retains sound sound'
  have grows : (∀ session, session ∈ w.rmw.registry.allocated .session →
      session ∈ w'.rmw.registry.allocated .session) → w'.opened = w.opened →
      ∀ session ∈ w'.opened, session ∈ w'.rmw.registry.allocated .session := by
    intro grows same session isOpen
    rw [same] at isOpen
    exact grows session (numbered.opened session isOpen)
  cases change with
  | idle agrees advance returned opened =>
      refine numbered.step advance retains agrees.graph (fun _ isOpen => opened ▸ isOpen) ?_ fresh
      apply grows _ opened
      rw [agrees.allocated]
      exact fun _ => id
  | leaked grown nonempty advance returned opened =>
      exact numbered.step advance retains grown.graph (fun _ isOpen => opened ▸ isOpen)
        (grows (fun _ => grown.grows) opened) fresh
  | node session handle slot entity new inside agrees advance returned opened =>
      refine numbered.step advance retains agrees.graph (fun _ isOpen => opened ▸ isOpen) ?_ fresh
      apply grows _ opened
      rw [agrees.allocated]
      simp [addEntity, addSlot]
  | leaf pool node nodeHandle session handle slot entity base isLeaf new nodeBound context
      withTopic agrees advance returned opened =>
      obtain ⟨-, grown, -⟩ := withTopic.base sound
      have notSession : Pool.session ≠ pool := by
        intro same
        subst same
        cases isLeaf
      refine numbered.step advance retains (agrees.graph.trans grown.graph)
        (fun _ isOpen => opened ▸ isOpen) ?_ fresh
      apply grows _ opened
      intro session inside
      rw [agrees.allocated]
      simpa [addEntity, addSlot, notSession] using grown.grows inside
  | removed removal advance returned opened =>
      refine numbered.step advance retains removal.graph
        (fun _ isOpen => ((opened _).mp isOpen).1) ?_ fresh
      intro session isOpen
      obtain ⟨before, stays⟩ := (opened session).mp isOpen
      exact (removal.kept (by decide)).mpr ⟨numbered.opened session before, stays⟩
  | attached context session objects attached returned opened =>
      exact attached.numbered sound opened numbered

/-- Every live service and client has a data-request id the library handed out. -/
def World.Answered (w : World) : Prop :=
  ∀ session owner number, w.HasRequest session owner number → number ≠ uxrInvalidRequestId

/-- A step whose data request finds room keeps it. -/
theorem Change.answered {leaks : List Pool} {gone : Pool → Nat → Prop}
    (change : Change cfg true leaks gone w w') (sound : w.rmw.registry.Sound)
    (sound' : w'.rmw.registry.Sound) (answered : w.Answered) : w'.Answered := by
  obtain ⟨new, retains, fresh⟩ := change.retains sound sound'
  intro session owner number has
  obtain ⟨held, sited, request⟩ := has
  rcases retains owner.1 owner.2 held with isNew | ⟨before, same, sameSession⟩
  · rcases fresh.requested _ _ session number isNew sited request with ⟨absurd, -⟩ | ⟨above, -⟩
    · cases absurd
    · exact Nat.ne_of_gt (Nat.lt_of_le_of_lt (Nat.zero_le _) above)
  · rw [same] at request
    rw [sameSession] at sited
    exact answered session owner number ⟨before, sited, request⟩

/-- In the zeroed layer nothing is held. -/
theorem not_held_start : ¬ ({} : Rmw).registry.Held pool slot := by
  intro held
  have inside := sound_start.held_allocated held
  rw [allocated_start] at inside
  cases inside

/-- In every safe run the numbers stay apart. -/
theorem reachable_numbered (reachable : Reachable (layer cfg) (Safe cfg) w) : Numbered cfg w := by
  induction reachable with
  | start =>
      refine ⟨fun _ isOpen => (by cases isOpen), ?_, ?_, ?_, ?_⟩
      · intro session owner object has
        cases has with
        | graph object isOpen => cases isOpen
        | held pool slot object held => exact absurd held not_held_start
      · intro session owner owner' object object' has
        cases has with
        | graph object isOpen => cases isOpen
        | held pool slot object held => exact absurd held not_held_start
      · exact fun session owner number has => absurd has.held not_held_start
      · exact fun session owner owner' number has => absurd has.held not_held_start
  | step before enabled safe steps ih =>
      obtain ⟨healthy, sound⟩ := reachable_sound before fun _ _ => id
      obtain ⟨-, sound', change⟩ :=
        (exec_spec healthy sound enabled.1 enabled.2 safe).of_eq_ok steps
      exact change.numbered sound sound' ih

/-- In a safe run whose data requests find room, all of them are answered. -/
theorem reachable_answered
    (reachable : Reachable (layer cfg) (fun w op => Safe cfg w op ∧ op.room = true) w) :
    w.Answered := by
  induction reachable with
  | start => exact fun session owner number has => absurd has.held not_held_start
  | step before enabled safe steps ih =>
      obtain ⟨healthy, sound⟩ := reachable_sound before fun _ _ => And.left
      obtain ⟨-, sound', change⟩ :=
        (exec_spec healthy sound enabled.1 enabled.2 safe.1).of_eq_ok steps
      rw [safe.2] at change
      exact change.answered sound sound' ih

end RmwMicroxrcedds
