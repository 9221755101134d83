import RmwMicroxrcedds.Agent.Withdrawals

/-! # The agent mirrors the layer

What one operation tells the agent of an open session, and what that makes of the objects the
agent is asked to hold: those of the entities that stay are left alone, those of the entities
that go are deleted, and a new entity is described by what the agent is told about it.
-/

namespace RmwMicroxrcedds

open Journals Outcome Registry

variable {cfg : Config} {admits : Admission} {w w' : World} {s s' : Rmw} {pool : Pool}
variable {session node nodeHandle handle handle' slot topic : Nat} {made written : List XrceRequest}
variable {names : Names} {participant object : ObjectId} {entity : Entity} {request : XrceRequest}

/-- A request that creates an object is entered under that object. -/
theorem mem_journal_put {requests : List XrceRequest} (inside : request ∈ requests)
    (creates : request.creates = some object) : Entry.put object request ∈ journal requests :=
  List.mem_filterMap.mpr ⟨request, inside, XrceRequest.entry_of_creates creates⟩

/-- An entry under an object stems from the request that creates it. -/
theorem of_mem_journal_put {requests : List XrceRequest}
    (inside : Entry.put object request ∈ journal requests) :
    request ∈ requests ∧ request.creates = some object := by
  obtain ⟨source, within, isEntry⟩ := List.mem_filterMap.mp inside
  obtain ⟨rfl, creates⟩ := XrceRequest.entry_eq_put isEntry
  exact ⟨within, creates⟩

/-- The journal drops the objects that were asked to be deleted, and no others. -/
theorem mem_journal_drop {requests : List XrceRequest} :
    Entry.drop object ∈ journal requests ↔ .deleteEntity object ∈ requests := by
  constructor
  · intro inside
    obtain ⟨source, within, isEntry⟩ := List.mem_filterMap.mp inside
    exact XrceRequest.entry_eq_drop.mp isEntry ▸ within
  · exact fun inside => List.mem_filterMap.mpr ⟨_, inside, rfl⟩

/-- The keys of requests that all create something. -/
theorem keys_journal {requests : List XrceRequest} {objects : List ObjectId}
    (creates : requests.map XrceRequest.creates = objects.map some) :
    (journal requests).map Entry.key = objects := by
  induction requests generalizing objects with
  | nil =>
      obtain rfl := List.map_eq_nil_iff.mp creates.symm
      rfl
  | cons request rest ih =>
      cases objects with
      | nil => cases creates
      | cons object objects =>
          rw [List.map_cons, List.map_cons, List.cons.injEq] at creates
          obtain ⟨isFirst, isRest⟩ := creates
          have isEntry := XrceRequest.entry_of_creates isFirst
          have unfolded : journal (request :: rest) = .put object request :: journal rest :=
            List.filterMap_cons_some isEntry
          rw [unfolded, List.map_cons, ih isRest]
          rfl

/-- The objects of an entity and its topic, as the requests name them. -/
theorem Makes.perm {pool' : Pool} (makes : Makes cfg pool' names participant
      (s.titleOf (s.entity pool slot)) (s.entity pool slot) made)
    (titled : pool.hasTopic = true → (s.entity pool slot).topicOf ≠ none) :
    ∃ objects : List ObjectId, made.map XrceRequest.creates = objects.map some ∧
      objects.Perm (s.registry.belongings pool slot) := by
  refine ⟨_, makes.creates, ?_⟩
  have same : s.registry.entity pool slot = s.entity pool slot := rfl
  unfold Registry.belongings
  rw [same]
  refine (List.reverse_perm _).append ?_
  cases pool with
  | publisher | subscription =>
      obtain ⟨topic, isTopic⟩ := Option.ne_none_iff_exists'.mp (titled rfl)
      rw [isTopic, Rmw.titleOf_of_topic topic isTopic]
      exact .refl _
  | node | service | client | topic | session | staticBuffer => exact .refl _

/-- An entity whose objects are all different is described by the requests it is made from. -/
theorem Rmw.MadeFrom.described (makes : s.MadeFrom cfg pool handle slot made)
    (titled : pool.hasTopic = true → (s.entity pool slot).topicOf ≠ none)
    (single : (s.registry.belongings pool slot).Nodup)
    (isJournal : journal written = journal made) :
    s.Described cfg (replay (journal written)) pool handle slot := by
  obtain ⟨objects, creates, perm⟩ := Makes.perm makes titled
  refine ⟨made, makes, fun request inside => ?_⟩
  have named : request.creates ∈ objects.map some := creates ▸ List.mem_map_of_mem inside
  obtain ⟨object, -, isObject⟩ := List.mem_map.mp named
  refine ⟨object, isObject.symm, ?_⟩
  rw [isJournal]
  apply replay_of_nodup _ (mem_journal_put inside isObject.symm)
  rw [keys_journal creates]
  exact perm.nodup_iff.mpr single

/-- A live entity of a pool with topics has one. -/
theorem Registry.Sound.titled (sound : s.registry.Sound)
    (bound : s.registry.Bound pool handle slot) (topics : pool.hasTopic = true) :
    (s.entity pool slot).topicOf ≠ none := by
  obtain ⟨topic, isTopic, -⟩ := (sound.placed bound).topic topics
  exact fun absurd => Option.some_ne_none topic (isTopic.symm.trans absurd)

/-- What has a handle and is no node belongs to one. -/
theorem Registry.Sound.isLeaf_of_bound (sound : s.registry.Sound)
    (bound : s.registry.Bound pool handle slot) (notNode : pool ≠ .node) : pool.isLeaf = true := by
  have handles := sound.hasHandle bound
  cases pool <;> first | rfl | exact absurd rfl notNode | cases handles

/-- What is allocated before and after a step keeps its contents. -/
theorem Change.entity_same {room : Bool} {leaks : List Pool} {gone : Pool → Nat → Prop}
    (change : Change cfg room leaks gone w w') (sound : w.rmw.registry.Sound)
    (inside : slot ∈ w.rmw.registry.allocated pool)
    (inside' : slot ∈ w'.rmw.registry.allocated pool) :
    w'.rmw.registry.entity pool slot = w.rmw.registry.entity pool slot := by
  cases change with
  | idle agrees => exact agrees.entity inside
  | leaked grown => exact grown.entity inside
  | node session handle slot entity new _ agrees =>
      exact (Grown.refl w.rmw.registry []).entity_addEntity new.free agrees inside
  | leaf pool' node nodeHandle session handle slot' entity base isLeaf new nodeBound context
      withTopic agrees =>
      obtain ⟨-, grown, -⟩ := withTopic.base sound
      have free : slot' ∉ base.allocated pool' := by
        rw [grown.others (by simpa using ne_topic_of_isLeaf isLeaf)]
        exact new.free
      exact grown.entity_addEntity free agrees inside
  | removed removal => exact removal.entity inside'
  | attached context session objects attached => rw [attached.registry]; rfl

/-- The contents of what is allocated in both states are the same. -/
def SameContents (s s' : Rmw) : Prop :=
  ∀ pool slot, slot ∈ s.registry.allocated pool → slot ∈ s'.registry.allocated pool →
    s'.registry.entity pool slot = s.registry.entity pool slot

section

variable (contents : SameContents s s') (sound : s.registry.Sound) (sound' : s'.registry.Sound)
  (bound : s.registry.Bound pool handle slot) (bound' : s'.registry.Bound pool handle' slot)

include contents sound sound' bound bound'

/-- What has a handle in both states is the same in both. -/
theorem SameContents.entity_eq : s'.registry.entity pool slot = s.registry.entity pool slot :=
  contents pool slot (sound.placed bound).allocated (sound'.placed bound').allocated

/-- So is its topic. -/
theorem SameContents.topic_eq (isTopic : (s.registry.entity pool slot).topicOf = some topic) :
    s'.registry.entity .topic topic = s.registry.entity .topic topic := by
  have same := contents.entity_eq sound sound' bound bound'
  have hasTopic : pool.hasTopic = true := Rmw.hasTopic_of_topicOf isTopic
  have held : s.registry.Held .topic topic :=
    Or.inr ⟨rfl, pool, handle, slot, hasTopic, bound, isTopic⟩
  have held' : s'.registry.Held .topic topic :=
    Or.inr ⟨rfl, pool, handle', slot, hasTopic, bound', same ▸ isTopic⟩
  exact contents .topic topic (sound.held_allocated held) (sound'.held_allocated held')

/-- And its node. -/
theorem SameContents.node_eq (isOwner : (s.registry.entity pool slot).ownerNode = some node)
    (leaf : pool.isLeaf = true) :
    s'.registry.entity .node node = s.registry.entity .node node := by
  have same := contents.entity_eq sound sound' bound bound'
  obtain ⟨other, otherHandle, isOther, otherBound⟩ := (sound.placed bound).owned leaf
  obtain ⟨other', otherHandle', isOther', otherBound'⟩ := (sound'.placed bound').owned leaf
  rw [same] at isOther'
  obtain rfl := Option.some.inj (isOwner.symm.trans isOther)
  obtain rfl := Option.some.inj (isOwner.symm.trans isOther')
  exact contents .node node (sound.placed otherBound).allocated
    (sound'.placed otherBound').allocated

/-- What a live entity brings with it stays the same. -/
theorem SameContents.belongings_eq :
    s'.registry.belongings pool slot = s.registry.belongings pool slot := by
  have same := contents.entity_eq sound sound' bound bound'
  unfold Registry.belongings
  rw [same]
  cases isTopic : (s.registry.entity pool slot).topicOf with
  | none => rfl
  | some topic =>
      rw [Option.elim_some, Option.elim_some, contents.topic_eq sound sound' bound bound' isTopic]

/-- A live entity stays in its session. -/
theorem SameContents.sessionOf_eq :
    s'.registry.sessionOf pool slot = s.registry.sessionOf pool slot := by
  have same := contents.entity_eq sound sound' bound bound'
  unfold Registry.sessionOf
  by_cases isNode : pool = .node
  · subst isNode
    rw [if_pos rfl, if_pos rfl, same]
  · rw [if_neg isNode, if_neg isNode, same]
    have leaf := sound.isLeaf_of_bound bound isNode
    obtain ⟨node, nodeHandle, isOwner, -⟩ := (sound.placed bound).owned leaf
    rw [isOwner, Option.bind_some, Option.bind_some,
      contents.node_eq sound sound' bound bound' isOwner leaf]

/-- What is described stays described, as long as the agent holds the same for it. -/
theorem SameContents.described {demand demand' : ObjectId → Option XrceRequest}
    (named : s'.namesOf pool handle' = s.namesOf pool handle)
    (described : s.Described cfg demand pool handle slot)
    (same : ∀ object ∈ s.registry.belongings pool slot, demand' object = demand object) :
    s'.Described cfg demand' pool handle' slot := by
  have sameEntity : s'.entity pool slot = s.entity pool slot :=
    contents.entity_eq sound sound' bound bound'
  have participant : s'.participantOf (s.entity pool slot) =
      s.participantOf (s.entity pool slot) := by
    unfold Rmw.participantOf
    cases isOwner : (s.entity pool slot).ownerNode with
    | none => rfl
    | some node =>
        have leaf : pool.isLeaf = true := by
          have handles := sound.hasHandle bound
          cases pool <;> first | rfl | cases isOwner | cases handles
        have sameNode := contents.node_eq sound sound' bound bound' isOwner leaf
        have isNode : s'.customNodes node = s.customNodes node := Entity.node.inj sameNode
        rw [Option.map_some, Option.map_some, isNode]
  have title : s'.titleOf (s.entity pool slot) = s.titleOf (s.entity pool slot) := by
    unfold Rmw.titleOf
    cases isTopic : (s.entity pool slot).topicOf with
    | none => rfl
    | some topic =>
        have sameTopic := contents.topic_eq sound sound' bound bound' isTopic
        rw [Option.map_some, Option.map_some, Entity.topic.inj sameTopic]
  obtain ⟨made, makes, asked⟩ := described
  obtain ⟨objects, creates, perm⟩ := Makes.perm makes (sound.titled bound)
  refine ⟨made, ?_, fun request inside => ?_⟩
  · unfold Rmw.MadeFrom
    rw [named, sameEntity, participant, title]
    exact makes
  obtain ⟨object, isObject, isDemand⟩ := asked request inside
  have named : some object ∈ objects.map some := by
    rw [← creates, ← isObject]
    exact List.mem_map_of_mem inside
  obtain ⟨other, within, isOther⟩ := List.mem_map.mp named
  cases isOther
  exact ⟨object, isObject, (same object (perm.subset within)).trans isDemand⟩

end

/-- What is held for an entity of the layer, or for its topic, is an object of the session. -/
theorem World.hasObject_of_belongings (sound : w.rmw.registry.Sound)
    (bound : w.rmw.registry.Bound pool handle slot)
    (sited : w.rmw.registry.sessionOf pool slot = some session)
    (inside : object ∈ w.rmw.registry.belongings pool slot) :
    w.HasObject cfg session (some (pool, slot)) object ∨
      ∃ topic, pool.hasTopic = true ∧
        (w.rmw.registry.entity pool slot).topicOf = some topic ∧
        w.HasObject cfg session (some (.topic, topic)) object := by
  rcases List.mem_append.mp inside with own | ofTopic
  · exact Or.inl (.held pool slot object (Or.inl ⟨handle, bound⟩) sited own)
  · cases isTopic : (w.rmw.registry.entity pool slot).topicOf with
    | none =>
        rw [isTopic] at ofTopic
        cases ofTopic
    | some topic =>
        rw [isTopic] at ofTopic
        have hasTopic := Rmw.hasTopic_of_topicOf isTopic
        have notNode : pool ≠ .node := ne_node_of_isLeaf (Pool.isLeaf_of_hasTopic hasTopic)
        have held : w.rmw.registry.Held .topic topic :=
          Or.inr ⟨rfl, pool, handle, slot, hasTopic, bound, isTopic⟩
        refine Or.inr ⟨topic, hasTopic, rfl, .held .topic topic object held ?_ ofTopic⟩
        obtain ⟨other, isOther, -, sameOwner⟩ := (sound.placed bound).topic hasTopic
        cases isTopic.symm.trans isOther
        rw [Registry.sessionOf, if_neg notNode] at sited
        rw [Registry.sessionOf, if_neg (by decide), sameOwner]
        exact sited

/-- An object of the layer belongs to a live entity, or to the graph. -/
theorem World.belongs_of_hasObject (sound : w.rmw.registry.Sound) {owner : Pool × Nat}
    (has : w.HasObject cfg session (some owner) object) : ∃ pool handle slot,
      w.rmw.registry.Bound pool handle slot ∧ w.rmw.registry.sessionOf pool slot = some session ∧
      object ∈ w.rmw.registry.belongings pool slot := by
  cases has with
  | held pool slot object held sited inside =>
      rcases held with ⟨handle, bound⟩ | ⟨rfl, pool, handle, entity, topics, bound, isTopic⟩
      · exact ⟨pool, handle, slot, bound, sited, List.mem_append_left _ inside⟩
      · refine ⟨pool, handle, entity, bound, ?_, ?_⟩
        · have notNode : pool ≠ .node := ne_node_of_isLeaf (Pool.isLeaf_of_hasTopic topics)
          obtain ⟨other, isOther, -, sameOwner⟩ := (sound.placed bound).topic topics
          cases isTopic.symm.trans isOther
          rw [Registry.sessionOf, if_neg (by decide), sameOwner] at sited
          rw [Registry.sessionOf, if_neg notNode]
          exact sited
        · refine List.mem_append_right _ ?_
          rw [isTopic]
          exact inside

/-- What a step tells the agent in a session that is open before and after it. -/
structure Tells (cfg : Config) (w w' : World) (session : Nat) (written : List XrceRequest) :
    Prop where
  requests : (w'.rmw.customSessions session).requests =
    written ++ (w.rmw.customSessions session).requests
  nextId : ∀ type, (w.rmw.customSessions session).nextId type ≤
    (w'.rmw.customSessions session).nextId type
  graph : w'.rmw.registry.graph session = w.rmw.registry.graph session
  fresh : ∀ request ∈ written, ∀ object, request.creates = some object →
    Issued w.rmw w'.rmw session object
  drops : ∀ object, .deleteEntity object ∈ written → ∃ pool slot, Lost w.rmw w'.rmw pool slot ∧
    w.rmw.registry.sessionOf pool slot = some session ∧
    object ∈ w.rmw.registry.belongings pool slot
  news : ∀ pool handle slot, w'.rmw.registry.Bound pool handle slot →
    w'.rmw.registry.sessionOf pool slot = some session →
    w.rmw.registry.Bound pool handle slot ∨
      w'.rmw.Described cfg (replay (journal written)) pool handle slot

/-- Everything of the entities that are lost is deleted. -/
def TellsAll (w w' : World) (session : Nat) (written : List XrceRequest) : Prop :=
  ∀ pool slot, Lost w.rmw w'.rmw pool slot → w.rmw.registry.sessionOf pool slot = some session →
    ∀ object ∈ w.rmw.registry.belongings pool slot, .deleteEntity object ∈ written

/-- What is created is what one entity is made from, and those of other pools are not new. -/
def TellsOnly (cfg : Config) (w w' : World) (session : Nat) (written : List XrceRequest) : Prop :=
  (∀ entry ∈ journal written, ∃ object, entry = .drop object) ∨
    ∃ pool handle slot made, (∀ pool' handle' slot', pool' ≠ pool →
        w'.rmw.registry.Bound pool' handle' slot' → w.rmw.registry.Bound pool' handle' slot') ∧
      w'.rmw.registry.Bound pool handle slot ∧
      w'.rmw.registry.sessionOf pool slot = some session ∧
      w'.rmw.MadeFrom cfg pool handle slot made ∧ journal written = journal made

/-- So it belongs to that entity. -/
theorem TellsOnly.belongs (only : TellsOnly cfg w w' session written)
    (sound' : w'.rmw.registry.Sound) (inside : Entry.put object request ∈ journal written) :
    ∃ pool handle slot, w'.rmw.registry.Bound pool handle slot ∧
      w'.rmw.registry.sessionOf pool slot = some session ∧
      object ∈ w'.rmw.registry.belongings pool slot := by
  rcases only with drops | ⟨pool, handle, slot, made, -, bound, sited, makes, isJournal⟩
  · obtain ⟨dropped, absurd⟩ := drops _ inside
    cases absurd
  · obtain ⟨objects, creates, perm⟩ := Makes.perm makes (sound'.titled bound)
    rw [isJournal] at inside
    rw [← keys_journal creates] at perm
    exact ⟨pool, handle, slot, bound, sited, perm.subset (List.mem_map_of_mem inside)⟩

/-- A session that was opened by the step. -/
structure Starts (cfg : Config) (w' : World) (session : Nat) : Prop where
  requests : journal (w'.rmw.customSessions session).requests = journal (openingRequests cfg)
  nextId : (w'.rmw.customSessions session).nextId = if cfg.graph then graphCounters else fun _ => 0
  graph : cfg.graph = true → w'.rmw.registry.graph session = firstGraphObjects
  empty : ∀ pool handle slot, w'.rmw.registry.Bound pool handle slot →
    w'.rmw.registry.sessionOf pool slot ≠ some session

/-- What the agent is asked to hold in the open sessions: the graph entities, and the live
entities as they describe themselves, under numbers below the counters. -/
structure Mirrored (cfg : Config) (w : World) : Prop where
  keys : ∀ session ∈ w.opened, ∀ entry ∈ journal (w.rmw.customSessions session).requests,
    entry.key.id < (w.rmw.customSessions session).nextId entry.key.type
  graph : ∀ session ∈ w.opened, cfg.graph = true →
    ∀ request ∈ graphRequests cfg (w.rmw.registry.graph session), ∃ object,
      request.creates = some object ∧ object ∈ (w.rmw.registry.graph session).all ∧
      (w.rmw.customSessions session).demand object = some request
  described : ∀ session ∈ w.opened, ∀ pool handle slot, w.rmw.registry.Bound pool handle slot →
    w.rmw.registry.sessionOf pool slot = some session →
    w.rmw.Described cfg (w.rmw.customSessions session).demand pool handle slot

/-- What the agent is asked to hold belongs to the layer. -/
def Owned (cfg : Config) (w : World) : Prop :=
  ∀ session ∈ w.opened, ∀ object request,
    (w.rmw.customSessions session).demand object = some request →
    ∃ owner, w.HasObject cfg session owner object

/-- The demand for an object that is not mentioned is as before. -/
theorem Tells.demand_eq (tells : Tells cfg w w' session written)
    (unmentioned : ∀ entry ∈ journal written, entry.key ≠ object) :
    (w'.rmw.customSessions session).demand object =
      (w.rmw.customSessions session).demand object := by
  unfold Session.demand
  rw [tells.requests, journal_append, replay_append_of_unmentioned unmentioned]

section

variable (tells : Tells cfg w w' session written) (numbered : Numbered cfg w)
  (sound : w.rmw.registry.Sound)

include tells numbered sound

/-- An object that is not lost is not mentioned. -/
theorem Tells.unmentioned {owner : Option (Pool × Nat)} (has : w.HasObject cfg session owner object)
    (stays : ∀ pool slot, Lost w.rmw w'.rmw pool slot → owner ≠ some (pool, slot) ∧
      ∀ topic, pool.hasTopic = true → (w.rmw.registry.entity pool slot).topicOf = some topic →
        owner ≠ some (.topic, topic)) : ∀ entry ∈ journal written, entry.key ≠ object := by
  intro entry inside same
  cases entry with
  | put key value =>
      obtain rfl : key = object := same
      obtain ⟨within, creates⟩ := of_mem_journal_put inside
      have above := (tells.fresh value within key creates).1
      have below := numbered.below session owner key has
      exact absurd below (Nat.not_lt.mpr above)
  | drop key =>
      obtain rfl : key = object := same
      obtain ⟨pool, slot, lost, sited, within⟩ := tells.drops key (mem_journal_drop.mp inside)
      obtain ⟨notOwn, notTopic⟩ := stays pool slot lost
      obtain ⟨⟨handle, bound⟩, -⟩ := lost
      rcases World.hasObject_of_belongings sound bound sited within with own | ⟨topic, topics,
        isTopic, ofTopic⟩
      · exact notOwn (numbered.apart session _ _ key key has own rfl rfl).1
      · exact notTopic topic topics isTopic
          (numbered.apart session _ _ key key has ofTopic rfl rfl).1

/-- An entity that keeps its handle keeps what the agent holds for it. -/
theorem Tells.demand_of_bound (bound : w.rmw.registry.Bound pool handle slot)
    (bound' : w'.rmw.registry.Bound pool handle slot)
    (sited : w.rmw.registry.sessionOf pool slot = some session)
    (inside : object ∈ w.rmw.registry.belongings pool slot) :
    (w'.rmw.customSessions session).demand object =
      (w.rmw.customSessions session).demand object := by
  apply tells.demand_eq
  have still : ¬ Lost w.rmw w'.rmw pool slot := fun lost => lost.2 handle bound'
  have has : w.HasObject cfg session (some (pool, slot)) object ∨ ∃ topic,
      pool.hasTopic = true ∧ (w.rmw.registry.entity pool slot).topicOf = some topic ∧
        w.HasObject cfg session (some (.topic, topic)) object :=
    World.hasObject_of_belongings sound bound sited inside
  rcases has with own | ⟨topic, topics, isTopic, ofTopic⟩
  · apply tells.unmentioned numbered sound own
    intro pool' slot' lost
    refine ⟨?_, ?_⟩
    · rintro ⟨⟩
      exact still lost
    · rintro topic' topics' isTopic' ⟨⟩
      cases sound.hasHandle bound
  · apply tells.unmentioned numbered sound ofTopic
    intro pool' slot' lost
    refine ⟨?_, ?_⟩
    · rintro ⟨⟩
      obtain ⟨⟨other, otherBound⟩, -⟩ := lost
      cases sound.hasHandle otherBound
    · rintro topic' topics' isTopic' ⟨⟩
      obtain ⟨⟨other, otherBound⟩, -⟩ := id lost
      obtain ⟨rfl, rfl⟩ := sound.apart bound otherBound isTopic isTopic' topics topics'
      exact still lost

/-- The graph entities keep what the agent holds for them. -/
theorem Tells.demand_of_graph (opened : session ∈ w.opened) (graph : cfg.graph = true)
    (inside : object ∈ (w.rmw.registry.graph session).all) :
    (w'.rmw.customSessions session).demand object =
      (w.rmw.customSessions session).demand object := by
  apply tells.demand_eq
  apply tells.unmentioned numbered sound (.graph object opened graph inside)
  intro pool slot lost
  exact ⟨by simp, by simp⟩

end

/-- The requests of the graph create its objects. -/
theorem creates_graphRequests (cfg : Config) (objects : GraphObjects) :
    (graphRequests cfg objects).map XrceRequest.creates =
      [objects.datareaderId, objects.topicId, objects.subscriberId,
        objects.participantId].map some := rfl

/-- The four objects of a graph are among those the first calls number. -/
theorem firstGraphObjects_all (inside : object ∈ [firstGraphObjects.datareaderId,
    firstGraphObjects.topicId, firstGraphObjects.subscriberId, firstGraphObjects.participantId]) :
    object ∈ firstGraphObjects.all := by
  revert object
  decide

/-- A session that was just opened mirrors the layer. -/
theorem Starts.mirrors (starts : Starts cfg w' session) :
    (∀ entry ∈ journal (w'.rmw.customSessions session).requests,
      entry.key.id < (w'.rmw.customSessions session).nextId entry.key.type) ∧
    (cfg.graph = true → ∀ request ∈ graphRequests cfg (w'.rmw.registry.graph session),
      ∃ object, request.creates = some object ∧
        object ∈ (w'.rmw.registry.graph session).all ∧
        (w'.rmw.customSessions session).demand object = some request) := by
  have keys := keys_journal (creates_graphRequests cfg firstGraphObjects)
  rw [starts.requests, openingRequests, starts.nextId]
  cases graph : cfg.graph with
  | false =>
      refine ⟨fun entry inside => ?_, fun absurd => ?_⟩
      · rw [if_neg Bool.false_ne_true] at inside
        cases inside
      · cases absurd
  | true =>
      simp only [↓reduceIte, forall_const]
      constructor
      · intro entry inside
        have named : entry.key ∈ (journal (graphRequests cfg firstGraphObjects)).map Entry.key :=
          List.mem_map_of_mem inside
        rw [keys] at named
        revert named
        generalize entry.key = key
        revert key
        decide
      · rw [starts.graph graph]
        intro request inside
        have named : request.creates ∈
            (graphRequests cfg firstGraphObjects).map XrceRequest.creates :=
          List.mem_map_of_mem inside
        rw [creates_graphRequests] at named
        obtain ⟨object, within, isObject⟩ := List.mem_map.mp named
        refine ⟨object, isObject.symm, ?_, ?_⟩
        · exact firstGraphObjects_all within
        · unfold Session.demand
          rw [starts.requests, openingRequests, if_pos graph]
          apply replay_of_nodup _ (mem_journal_put inside isObject.symm)
          rw [keys]
          decide

/-- And has nothing else on the agent. -/
theorem Starts.demand (starts : Starts cfg w' session)
    (isDemand : (w'.rmw.customSessions session).demand object = some request) :
    cfg.graph = true ∧ object ∈ (w'.rmw.registry.graph session).all := by
  unfold Session.demand at isDemand
  rw [starts.requests, openingRequests] at isDemand
  cases graph : cfg.graph with
  | false =>
      rw [graph, if_neg Bool.false_ne_true] at isDemand
      cases isDemand
  | true =>
      rw [graph, if_pos rfl] at isDemand
      have named : object ∈ (journal (graphRequests cfg firstGraphObjects)).map Entry.key :=
        List.mem_map.mpr ⟨_, mem_of_replay isDemand, rfl⟩
      rw [keys_journal (creates_graphRequests cfg firstGraphObjects)] at named
      rw [starts.graph graph]
      exact ⟨rfl, firstGraphObjects_all named⟩

/-- A step that tells the agent what it does keeps the mirror. -/
theorem Mirrored.step (mirrored : Mirrored cfg w) (numbered : Numbered cfg w)
    (sound : w.rmw.registry.Sound) (sound' : w'.rmw.registry.Sound)
    (healthy : w.rmw.Healthy cfg admits) (names : KeepsNames w.rmw w'.rmw)
    (contents : SameContents w.rmw w'.rmw)
    (each : ∀ session ∈ w'.opened, Starts cfg w' session ∨
      session ∈ w.opened ∧ ∃ written, Tells cfg w w' session written) : Mirrored cfg w' := by
  refine ⟨?_, ?_, ?_⟩
  · intro session opened entry inside
    rcases each session opened with starts | ⟨before, written, tells⟩
    · exact starts.mirrors.1 entry inside
    · rw [tells.requests, journal_append] at inside
      rcases List.mem_append.mp inside with isNew | isOld
      · cases entry with
        | put key value =>
            obtain ⟨within, creates⟩ := of_mem_journal_put isNew
            exact (tells.fresh value within key creates).2
        | drop key =>
            obtain ⟨pool, slot, lost, sited, within⟩ := tells.drops key (mem_journal_drop.mp isNew)
            obtain ⟨⟨handle, bound⟩, -⟩ := lost
            have below : key.id < (w.rmw.customSessions session).nextId key.type := by
              rcases World.hasObject_of_belongings sound bound sited within with
                own | ⟨topic, -, -, ofTopic⟩
              · exact numbered.below session _ key own
              · exact numbered.below session _ key ofTopic
            exact Nat.lt_of_lt_of_le below (tells.nextId key.type)
      · exact Nat.lt_of_lt_of_le (mirrored.keys session before entry isOld)
          (tells.nextId entry.key.type)
  · intro session opened graph request inside
    rcases each session opened with starts | ⟨before, written, tells⟩
    · exact starts.mirrors.2 graph request inside
    · rw [tells.graph] at inside ⊢
      obtain ⟨object, creates, within, isDemand⟩ :=
        mirrored.graph session before graph request inside
      refine ⟨object, creates, within, ?_⟩
      rw [tells.demand_of_graph numbered sound before graph within]
      exact isDemand
  · intro session opened pool handle slot bound' sited'
    rcases each session opened with starts | ⟨before, written, tells⟩
    · exact absurd sited' (starts.empty pool handle slot bound')
    · rcases tells.news pool handle slot bound' sited' with bound | described
      · have sited := contents.sessionOf_eq sound sound' bound bound' ▸ sited'
        exact contents.described sound sound' bound bound'
          (names.namesOf_eq (healthy.allocated_of_bound bound) bound')
          (mirrored.described session before pool handle slot bound sited)
          fun object inside => tells.demand_of_bound numbered sound bound bound' sited inside
      · obtain ⟨made, makes, asked⟩ := described
        refine ⟨made, makes, fun request inside => ?_⟩
        obtain ⟨object, creates, found⟩ := asked request inside
        refine ⟨object, creates, ?_⟩
        unfold Session.demand
        rw [tells.requests, journal_append]
        exact replay_append_of_some found

/-- A step that creates only what it keeps, and deletes all it gives up, leaves nothing on the
agent that belongs to nobody. -/
theorem Owned.step (owned : Owned cfg w) (sound : w.rmw.registry.Sound)
    (sound' : w'.rmw.registry.Sound) (contents : SameContents w.rmw w'.rmw)
    (each : ∀ session ∈ w'.opened, Starts cfg w' session ∨
      session ∈ w.opened ∧ ∃ written, Tells cfg w w' session written ∧
        TellsAll w w' session written ∧ TellsOnly cfg w w' session written) : Owned cfg w' := by
  intro session opened object request isDemand
  rcases each session opened with starts | ⟨before, written, tells, all, only⟩
  · -- The requests of the graph are the only ones of a session that was just opened.
    obtain ⟨graph, inside⟩ := starts.demand isDemand
    exact ⟨none, .graph object opened graph inside⟩
  · unfold Session.demand at isDemand
    rw [tells.requests, journal_append] at isDemand
    rcases replay_append_eq_some isDemand with isNew | ⟨unmentioned, isOld⟩
    · obtain ⟨pool, handle, slot, bound, sited, belongs⟩ := only.belongs sound' isNew
      rcases World.hasObject_of_belongings sound' bound sited belongs with
        own | ⟨topic, -, -, ofTopic⟩
      · exact ⟨_, own⟩
      · exact ⟨_, ofTopic⟩
    · obtain ⟨owner, has⟩ := owned session before object request isOld
      cases owner with
      | none =>
          cases has with
          | graph object opened' graph inside =>
              exact ⟨none, .graph object opened graph (tells.graph ▸ inside)⟩
      | some owner =>
          obtain ⟨pool, handle, slot, bound, sited, belongs⟩ :=
            World.belongs_of_hasObject sound has
          by_cases stays : ∃ handle', w'.rmw.registry.Bound pool handle' slot
          · obtain ⟨handle', bound'⟩ := stays
            have sited' := (contents.sessionOf_eq sound sound' bound bound').trans sited
            have belongs' := contents.belongings_eq sound sound' bound bound' ▸ belongs
            rcases World.hasObject_of_belongings sound' bound' sited' belongs' with
              own | ⟨topic, -, -, ofTopic⟩
            · exact ⟨_, own⟩
            · exact ⟨_, ofTopic⟩
          · -- What is given up is deleted, so the agent would not be asked for it.
            have lost : Lost w.rmw w'.rmw pool slot :=
              ⟨⟨handle, bound⟩, fun other bound' => stays ⟨other, bound'⟩⟩
            have deleted := all pool slot lost sited object belongs
            exact absurd rfl (unmentioned _ (mem_journal_drop.mpr deleted))

end RmwMicroxrcedds
