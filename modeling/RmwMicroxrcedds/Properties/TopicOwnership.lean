import Mathlib.Data.List.Nodup
import RmwMicroxrcedds.Machine.Run

/-! # Topics and the entities that own them

A topic is taken in the middle of the creation of a publisher or a subscription, and only
the destruction of that entity gives it back. As long as no creation fails between the
two, the allocated topics are one for one those of the live publishers and subscriptions.
-/

namespace RmwMicroxrcedds

open Outcome Registry

variable {cfg : Config} {admits : Admission} {w w' : World} {s s' : Rmw} {r r' : Registry}
variable {pool : Pool} {handle slot node topic : Nat} {leaks : List Pool}
variable {gone : Pool → Nat → Prop} {room : Bool}

/-- Every allocated topic is the topic of exactly one live publisher or subscription, each
of these has an allocated topic of its own node, `topic_count` is right, and with the
default topic pool a creation that has its own slot finds one for its topic. -/
structure TopicsMatch (cfg : Config) (w : World) : Prop where
  used : ∀ topic ∈ w.rmw.allocated .topic, ∃! user : Pool × Nat, user.1.hasTopic = true ∧
    (∃ handle, w.Designates user.1 handle user.2) ∧
      (w.rmw.entity user.1 user.2).topicOf = some topic
  own : ∀ pool handle slot, pool.hasTopic = true → w.Designates pool handle slot →
    ∃ topic, (w.rmw.entity pool slot).topicOf = some topic ∧ topic ∈ w.rmw.allocated .topic ∧
      (w.rmw.customTopics topic).ownerNode = (w.rmw.entity pool slot).ownerNode
  counted : ∀ node, topicCount node w.rmw = .ok ((w.rmw.allocated .topic).countP fun topic =>
    (w.rmw.customTopics topic).ownerNode == some node)
  room : cfg.maxTopics = none → ∀ pool, pool.hasTopic = true → w.rmw.free pool ≠ [] →
    w.rmw.free .topic ≠ []

/-- Every allocated topic belongs to a publisher or a subscription with a handle, and those
without one have no topic. -/
structure Registry.TopicsOwned (r : Registry) : Prop where
  used : ∀ topic ∈ r.allocated .topic, ∃ pool handle slot, pool.hasTopic = true ∧
    r.Bound pool handle slot ∧ (r.entity pool slot).topicOf = some topic
  bare : ∀ pool slot, pool.hasTopic = true → slot ∈ r.allocated pool →
    (∃ handle, r.Bound pool handle slot) ∨ (r.entity pool slot).topicOf = none

/-- Topics have no topic of their own. -/
theorem Pool.ne_topic_of_hasTopic (topics : pool.hasTopic = true) : pool ≠ .topic := by
  intro absurd
  rw [absurd] at topics
  cases topics

namespace Registry

/-- What agrees with a registry whose topics are owned has its topics owned. -/
theorem TopicsOwned.agrees (owned : r.TopicsOwned) (agrees : r.Agrees r') (sound : r'.Sound) :
    r'.TopicsOwned where
  used := by
    intro topic inside
    rw [agrees.allocated] at inside
    obtain ⟨pool, handle, slot, topics, bound, isTopic⟩ := owned.used topic inside
    have bound' : r'.Bound pool handle slot := agrees.bound_iff.mpr bound
    have held := (sound.placed bound').allocated
    rw [agrees.allocated] at held
    refine ⟨pool, handle, slot, topics, bound', ?_⟩
    rw [agrees.entity held]
    exact isTopic
  bare := by
    intro pool slot topics inside
    rw [agrees.allocated] at inside
    rw [agrees.entity inside]
    apply (owned.bare pool slot topics inside).imp_left
    intro bound
    obtain ⟨handle, bound⟩ := bound
    exact ⟨handle, agrees.bound_iff.mpr bound⟩

/-- Slots of other pools, and slots without a topic, may be leaked. -/
theorem TopicsOwned.grown (owned : r.TopicsOwned) (sound : r.Sound) (grown : r.Grown leaks r')
    (noTopic : Pool.topic ∉ leaks)
    (bare : ∀ pool ∈ leaks, pool.hasTopic = true → ∀ slot ∈ r'.allocated pool,
      slot ∉ r.allocated pool → (r'.entity pool slot).topicOf = none) : r'.TopicsOwned where
  used := by
    intro topic inside
    rw [grown.others noTopic] at inside
    obtain ⟨pool, handle, slot, topics, bound, isTopic⟩ := owned.used topic inside
    refine ⟨pool, handle, slot, topics, by rw [Bound, grown.data]; exact bound, ?_⟩
    rw [grown.entity (sound.placed bound).allocated]
    exact isTopic
  bare := by
    intro pool slot topics inside
    by_cases old : slot ∈ r.allocated pool
    · rw [grown.entity old]
      apply (owned.bare pool slot topics old).imp_left
      intro bound
      obtain ⟨handle, bound⟩ := bound
      exact ⟨handle, by rw [Bound, grown.data]; exact bound⟩
    · right
      by_cases leaked : pool ∈ leaks
      · exact bare pool leaked topics slot inside old
      · rw [grown.others leaked] at inside
        exact absurd inside old

/-- Topics are owned but for one, and a new entity owns that one. -/
theorem TopicsOwned.addEntity {entity : Entity} (sound : r.Sound) (free : slot ∉ r.allocated pool)
    (fresh : r.data pool handle = none) (notTopic : pool ≠ .topic)
    (used : ∀ topic ∈ r.allocated .topic, (pool.hasTopic = true ∧ entity.topicOf = some topic) ∨
      ∃ pool handle slot, pool.hasTopic = true ∧ r.Bound pool handle slot ∧
        (r.entity pool slot).topicOf = some topic)
    (bare : ∀ pool slot, pool.hasTopic = true → slot ∈ r.allocated pool →
      (∃ handle, r.Bound pool handle slot) ∨ (r.entity pool slot).topicOf = none) :
    (r.addEntity pool handle slot entity).TopicsOwned where
  used := by
    intro topic inside
    have old : topic ∈ r.allocated .topic := by
      simpa [Registry.addEntity, addSlot, notTopic.symm] using inside
    rcases used topic old with ⟨topics, isTopic⟩ | ⟨pool', handle', slot', topics, bound, isTopic⟩
    · refine ⟨pool, handle, slot, topics, by simp [Bound, Registry.addEntity], ?_⟩
      rw [Registry.addEntity, setData_entity, addSlot, take_entity, fill_entity_self]
      exact isTopic
    · refine ⟨pool', handle', slot', topics, addEntity_bound fresh bound, ?_⟩
      rw [addEntity_entity free (sound.placed bound).allocated]
      exact isTopic
  bare := by
    intro pool' slot' topics inside
    by_cases here : pool' = pool ∧ slot' = slot
    · obtain ⟨rfl, rfl⟩ := here
      exact Or.inl ⟨handle, by simp [Bound, Registry.addEntity]⟩
    · have old : slot' ∈ r.allocated pool' := by
        by_cases same : pool' = pool
        · subst same
          have different : slot' ≠ slot := fun same => here ⟨rfl, same⟩
          simpa [Registry.addEntity, addSlot, different] using inside
        · simpa [Registry.addEntity, addSlot, same] using inside
      rw [addEntity_entity free old]
      apply (bare pool' slot' topics old).imp_left
      intro bound
      obtain ⟨handle', bound⟩ := bound
      exact ⟨handle', addEntity_bound fresh bound⟩

/-- The topics of the entities that go, go with them. -/
theorem TopicsOwned.removal (owned : r.TopicsOwned) (sound : r.Sound)
    (removal : r.Removal r' gone) : r'.TopicsOwned where
  used := by
    intro topic inside
    obtain ⟨old, kept⟩ := removal.topics.mp inside
    obtain ⟨pool, handle, slot, topics, bound, isTopic⟩ := owned.used topic old
    have stays : ¬ gone pool slot := fun isGone => kept ⟨pool, slot, topics, isGone, isTopic⟩
    refine ⟨pool, handle, slot, topics, removal.bound.mpr ⟨bound, stays⟩, ?_⟩
    rw [removal.entity ((removal.kept (Pool.ne_topic_of_hasTopic topics)).mpr
      ⟨(sound.placed bound).allocated, stays⟩)]
    exact isTopic
  bare := by
    intro pool slot topics inside
    obtain ⟨old, stays⟩ := (removal.kept (Pool.ne_topic_of_hasTopic topics)).mp inside
    rw [removal.entity inside]
    apply (owned.bare pool slot topics old).imp_left
    intro bound
    obtain ⟨handle, bound⟩ := bound
    exact ⟨handle, removal.bound.mpr ⟨bound, stays⟩⟩

end Registry

/-- A step that leaks neither topics nor entities with one keeps the topics owned. -/
theorem Change.topicsOwned (change : Change cfg room leaks gone w w') (sound : w.rmw.registry.Sound)
    (sound' : w'.rmw.registry.Sound) (noTopic : Pool.topic ∉ leaks)
    (bare : ∀ pool ∈ leaks, pool.hasTopic = true →
      ∀ slot ∈ w'.rmw.registry.allocated pool, slot ∉ w.rmw.registry.allocated pool →
        (w'.rmw.registry.entity pool slot).topicOf = none)
    (owned : w.rmw.registry.TopicsOwned) : w'.rmw.registry.TopicsOwned := by
  cases change with
  | idle agrees => exact owned.agrees agrees sound'
  | leaked grown => exact owned.grown sound grown noTopic bare
  | node session handle slot entity new inside agrees =>
      have added : (w.rmw.registry.addEntity .node handle slot (.node entity)).TopicsOwned :=
        .addEntity sound new.free new.fresh (by decide)
          (fun topic inside => Or.inr (owned.used topic inside)) owned.bare
      exact added.agrees agrees sound'
  | leaf pool node nodeHandle session handle slot entity base isLeaf new nodeBound context withTopic
      agrees =>
      obtain ⟨baseSound, grown, -⟩ := withTopic.base sound
      have notTopic := ne_topic_of_isLeaf isLeaf
      have same : ∀ {pool}, pool ≠ .topic → base.allocated pool = w.rmw.registry.allocated pool :=
        fun different => grown.others (by simpa using different)
      -- the only topic that is new is the one of the entity
      have new_or_old : ∀ topic ∈ base.allocated .topic,
          (pool.hasTopic = true ∧ entity.topicOf = some topic) ∨
            topic ∈ w.rmw.registry.allocated .topic := by
        intro topic inside
        unfold WithTopic at withTopic
        split at withTopic
        · rename_i topics
          obtain ⟨own, ownEntity, -, isOwn, rfl⟩ := withTopic
          rcases List.mem_cons.mp (by simpa [Registry.addSlot] using inside) with rfl | old
          · exact Or.inl ⟨topics, isOwn⟩
          · exact Or.inr old
        · rw [withTopic] at inside
          exact Or.inr inside
      have added : (base.addEntity pool handle slot entity).TopicsOwned := by
        apply TopicsOwned.addEntity baseSound
        · rw [same notTopic]
          exact new.free
        · rw [grown.data]
          exact new.fresh
        · exact notTopic
        · intro topic inside
          apply (new_or_old topic inside).imp_right
          intro old
          obtain ⟨pool', handle', slot', topics, bound, isTopic⟩ := owned.used topic old
          refine ⟨pool', handle', slot', topics, by rw [Bound, grown.data]; exact bound, ?_⟩
          rw [grown.entity (sound.placed bound).allocated]
          exact isTopic
        · intro pool' slot' topics inside
          rw [same (Pool.ne_topic_of_hasTopic topics)] at inside
          rw [grown.entity inside]
          apply (owned.bare pool' slot' topics inside).imp_left
          intro bound
          obtain ⟨handle', bound⟩ := bound
          exact ⟨handle', by rw [Bound, grown.data]; exact bound⟩
      exact added.agrees agrees sound'
  | removed removal => exact owned.removal sound removal
  | attached context session objects attached =>
      rw [attached.registry]
      constructor
      · intro topic inside
        exact owned.used topic (by simpa using inside)
      · intro pool slot topics inside
        have different : pool ≠ .session := by
          intro absurd
          rw [absurd] at topics
          cases topics
        exact owned.bare pool slot topics (by simpa [different] using inside)

namespace Registry

/-- The topics of the allocated entities of a pool. -/
def topicsOf (r : Registry) (pool : Pool) : List Nat :=
  (r.allocated pool).filterMap fun slot => (r.entity pool slot).topicOf

variable (nodup : ∀ pool, (r.allocated pool).Nodup)

/-- An allocated entity with a topic has a handle. -/
theorem TopicsOwned.bound (owned : r.TopicsOwned) (topics : pool.hasTopic = true)
    (inside : slot ∈ r.allocated pool) (isTopic : (r.entity pool slot).topicOf = some topic) :
    ∃ handle, r.Bound pool handle slot := by
  apply (owned.bare pool slot topics inside).resolve_right
  rw [isTopic]
  exact Option.some_ne_none topic

include nodup in

/-- No two publishers, or subscriptions, share a topic. -/
theorem TopicsOwned.nodup_topicsOf (owned : r.TopicsOwned) (sound : r.Sound)
    (topics : pool.hasTopic = true) : (r.topicsOf pool).Nodup := by
  unfold topicsOf
  apply List.pairwise_filterMap.mpr
  apply List.Pairwise.imp_of_mem _ (nodup pool)
  intro slot slot' inside inside' different topic isTopic topic' isTopic' same
  subst same
  obtain ⟨handle, bound⟩ := owned.bound topics inside isTopic
  obtain ⟨handle', bound'⟩ := owned.bound topics inside' isTopic'
  exact different (sound.apart bound bound' isTopic isTopic' topics topics).2

include nodup in
/-- The allocated topics are those of the publishers and of the subscriptions. -/
theorem TopicsOwned.perm (owned : r.TopicsOwned) (sound : r.Sound) :
    (r.topicsOf .publisher ++ r.topicsOf .subscription).Perm (r.allocated .topic) := by
  have disjoint : ∀ topic ∈ r.topicsOf .publisher, ∀ topic' ∈ r.topicsOf .subscription,
      topic ≠ topic' := by
    intro topic ofPublisher topic' ofSubscription same
    subst same
    obtain ⟨publisher, inside, isTopic⟩ := List.mem_filterMap.mp ofPublisher
    obtain ⟨subscription, inside', isTopic'⟩ := List.mem_filterMap.mp ofSubscription
    obtain ⟨handle, bound⟩ := owned.bound rfl inside isTopic
    obtain ⟨handle', bound'⟩ := owned.bound rfl inside' isTopic'
    cases (sound.apart bound bound' isTopic isTopic' rfl rfl).1
  have whole : (r.topicsOf .publisher ++ r.topicsOf .subscription).Nodup :=
    List.nodup_append.mpr ⟨owned.nodup_topicsOf nodup sound rfl,
      owned.nodup_topicsOf nodup sound rfl, disjoint⟩
  apply (List.perm_ext_iff_of_nodup whole (nodup .topic)).mpr
  intro topic
  have member : ∀ pool, pool.hasTopic = true → topic ∈ r.topicsOf pool →
      topic ∈ r.allocated .topic := by
    intro pool topics ofPool
    obtain ⟨slot, inside, isTopic⟩ := List.mem_filterMap.mp ofPool
    obtain ⟨handle, bound⟩ := owned.bound topics inside isTopic
    obtain ⟨own, isOwn, allocated, -⟩ := (sound.placed bound).topic topics
    rw [isTopic] at isOwn
    exact Option.some.inj isOwn ▸ allocated
  constructor
  · intro either
    rcases List.mem_append.mp either with ofPublisher | ofSubscription
    · exact member .publisher rfl ofPublisher
    · exact member .subscription rfl ofSubscription
  · intro inside
    obtain ⟨pool, handle, slot, topics, bound, isTopic⟩ := owned.used topic inside
    have ofPool : topic ∈ r.topicsOf pool :=
      List.mem_filterMap.mpr ⟨slot, (sound.placed bound).allocated, isTopic⟩
    cases pool with
    | publisher => exact List.mem_append_left _ ofPool
    | subscription => exact List.mem_append_right _ ofPool
    | session | node | service | client | topic | staticBuffer => cases topics

/-- A topic is counted where its owner is. -/
theorem TopicsOwned.countP_topicsOf (owned : r.TopicsOwned) (sound : r.Sound)
    (topics : pool.hasTopic = true) :
    (r.topicsOf pool).countP (fun topic => (r.entity .topic topic).ownerNode == some node) =
      (r.allocated pool).countP fun slot =>
        (r.entity pool slot).ownerNode == some node && (r.entity pool slot).topicOf.isSome := by
  unfold topicsOf
  rw [List.countP_filterMap]
  apply List.countP_congr
  intro slot inside
  cases isTopic : (r.entity pool slot).topicOf with
  | none => simp
  | some topic =>
      obtain ⟨handle, bound⟩ := owned.bound topics inside isTopic
      obtain ⟨own, isOwn, -, owner⟩ := (sound.placed bound).topic topics
      rw [isTopic] at isOwn
      obtain rfl := Option.some.inj isOwn
      simp [owner]

end Registry

/-- `topic_count` counts the allocated topics of the node. -/
theorem topicCount_eq_countP (healthy : s.Healthy cfg admits) (sound : s.registry.Sound)
    (owned : s.registry.TopicsOwned) :
    topicCount node s = .ok ((s.allocated .topic).countP fun topic =>
      (s.customTopics topic).ownerNode == some node) := by
  have perm := owned.perm (fun _ => healthy.nodup) sound
  have counts := perm.countP_eq fun topic => (s.registry.entity .topic topic).ownerNode == some node
  rw [List.countP_append, owned.countP_topicsOf sound rfl, owned.countP_topicsOf sound rfl]
    at counts
  rw [topicCount_eq healthy]
  exact congrArg Except.ok counts

/-- A pool has no more items than it was configured for. -/
theorem Rmw.Healthy.size_le (healthy : s.Healthy cfg admits) :
    (s.memory pool).size ≤ cfg.poolSize pool := by
  rcases healthy.sized pool with zeroed | ⟨-, size⟩
  · rw [zeroed]
    exact Nat.zero_le _
  · exact Nat.le_of_eq size

/-- With a topic pool as large as those of its owners, a free owner means a free topic. -/
theorem free_topic_of_free (healthy : s.Healthy cfg admits) (sound : s.registry.Sound)
    (owned : s.registry.TopicsOwned) (default : cfg.maxTopics = none)
    (topics : pool.hasTopic = true) (isFree : s.free pool ≠ []) : s.free .topic ≠ [] := by
  have poolSize : cfg.poolSize .topic = cfg.poolSize .publisher + cfg.poolSize .subscription := by
    simp [Config.poolSize, Config.topicPoolSize, default]
  have positive : 0 < (s.free pool).length := List.length_pos_iff.mpr isFree
  have total : ∀ pool, (s.free pool).length + (s.allocated pool).length = (s.memory pool).size :=
    fun pool => (healthy.wf pool).length_add
  have isEntity : pool.isEntity = true := by
    cases pool <;> first | rfl | cases topics
  have sizePositive : 0 < (s.memory pool).size := by
    rw [← total pool]
    omega
  -- the topics are no more than their owners
  have fewer : (s.allocated .topic).length ≤
      (s.allocated .publisher).length + (s.allocated .subscription).length := by
    have perm := (owned.perm (fun _ => healthy.nodup) sound).length_eq
    have atMost : ∀ pool, (s.registry.topicsOf pool).length ≤ (s.registry.allocated pool).length :=
      fun pool => List.length_filterMap_le _ _
    have ofPublishers := atMost .publisher
    have ofSubscriptions := atMost .subscription
    rw [List.length_append] at perm
    rw [Rmw.registry_allocated (by decide)] at perm ofPublishers ofSubscriptions
    omega
  -- the topic pool has its full size
  have size : (s.memory .topic).size = cfg.poolSize .topic := by
    have initialised : (s.memory pool).isInitialized = true := by
      rcases healthy.sized pool with zeroed | ⟨initialised, -⟩
      · rw [zeroed] at sizePositive
        cases sizePositive
      · exact initialised
    have below : (s.memory pool).size ≤ cfg.poolSize pool := healthy.size_le
    have room : 0 < cfg.poolSize .topic := by
      cases pool with
      | publisher => omega
      | subscription => omega
      | session | node | service | client | topic | staticBuffer => cases topics
    have started := healthy.together pool .topic isEntity rfl initialised room
    rcases healthy.sized .topic with zeroed | ⟨-, size⟩
    · rw [zeroed] at started
      cases started
    · exact size
  have publishers : (s.memory .publisher).size ≤ cfg.poolSize .publisher := healthy.size_le
  have subscriptions : (s.memory .subscription).size ≤ cfg.poolSize .subscription :=
    healthy.size_le
  have ofTopics := total .topic
  have ofPublishers := total .publisher
  have ofSubscriptions := total .subscription
  apply List.length_pos_iff.mp
  cases pool with
  | publisher => omega
  | subscription => omega
  | session | node | service | client | topic | staticBuffer => cases topics

/-- No creation that fails leaves a topic behind, or an entity with the topic of the one
that was in its slot before. -/
structure KeepsTopics (cfg : Config) (w : World) (op : Op) : Prop where
  safe : Safe cfg w op
  topic : op.exit cfg w.rmw ≠ some .topicLeaked
  both : op.exit cfg w.rmw ≠ some .bothLeaked
  stale : op.pool.hasTopic = true → op.exit cfg w.rmw ≠ some .leaked

/-- A creation without a topic leaves an entity without one. -/
private theorem topicless_spec {op : Op} (healthy : w.rmw.Healthy cfg admits)
    (sound : w.rmw.registry.Sound) (asked : op.Asked w)
    (acceptable : op.Acceptable cfg admits w.rmw)
    (safe : Safe cfg w op) (topics : op.pool.hasTopic = true)
    (isExit : op.exit cfg w.rmw = some .topicless) :
    Yields (exec cfg op w) fun w' => ∃ slot entity, entity.topicOf = none ∧
      (w.rmw.registry.addSlot op.pool slot entity).Agrees w'.rmw.registry := by
  cases op with
  | createPublisher call =>
      have exit : publisherExit cfg call w.rmw = .topicless := Option.some.inj isExit
      cases isNode : call.node with
      | none => simp [publisherExit, isNode] at exit
      | some nodeHandle =>
          obtain ⟨node, session, -, -, created⟩ :=
            PublisherCall.creation_of_live healthy sound asked acceptable safe isNode
          apply created.bind
          intro result post
          obtain ⟨-, -, creation⟩ := post
          rw [exit] at creation
          obtain ⟨-, slot, entity, -, noTopic, agrees⟩ := creation
          exact yields_pure.mpr ⟨slot, entity, noTopic, agrees⟩
  | createSubscription call =>
      have exit : subscriptionExit cfg call w.rmw = .topicless := Option.some.inj isExit
      cases isNode : call.node with
      | none => simp [subscriptionExit, isNode] at exit
      | some nodeHandle =>
          obtain ⟨node, session, -, -, created⟩ :=
            SubscriptionCall.creation_of_live healthy sound asked acceptable safe isNode
          apply created.bind
          intro result post
          obtain ⟨-, -, creation⟩ := post
          rw [exit] at creation
          obtain ⟨-, slot, entity, -, noTopic, agrees⟩ := creation
          exact yields_pure.mpr ⟨slot, entity, noTopic, agrees⟩
  | createEndpoint kind call => cases kind <;> cases topics
  | _ => cases topics

/-- Creations of publishers and subscriptions return the handles they keep. -/
theorem Op.exit_ne_unreturned {op : Op} (topics : op.pool.hasTopic = true) :
    op.exit cfg s ≠ some .unreturned := by
  cases op with
  | createPublisher call =>
      intro isExit
      have exit : publisherExit cfg call s = .unreturned := Option.some.inj isExit
      unfold publisherExit filledPublisherExit at exit
      grind
  | createSubscription call =>
      intro isExit
      have exit : subscriptionExit cfg call s = .unreturned := Option.some.inj isExit
      unfold subscriptionExit filledSubscriptionExit at exit
      grind
  | createEndpoint kind call => cases kind <;> cases topics
  | _ => cases topics

/-- No operation creates a topic for itself. -/
theorem Op.pool_ne_topic (op : Op) : op.pool ≠ .topic := by
  cases op with
  | createEndpoint kind call => cases kind <;> exact fun absurd => by cases absurd
  | _ => exact fun absurd => by cases absurd

/-- One step keeps the topics owned. -/
private theorem topicsOwned_step {op : Op} (healthy : w.rmw.Healthy cfg admits)
    (sound : w.rmw.registry.Sound) (asked : op.Asked w)
    (acceptable : op.Acceptable cfg admits w.rmw)
    (keeps : KeepsTopics cfg w op) (owned : w.rmw.registry.TopicsOwned)
    (steps : exec cfg op w = .ok w') : w'.rmw.registry.TopicsOwned := by
  obtain ⟨-, sound', change⟩ :=
    (exec_spec healthy sound asked acceptable keeps.safe).of_eq_ok steps
  apply change.topicsOwned sound sound' _ _ owned
  · intro leaked
    obtain ⟨exit, isExit, leaked⟩ := Op.mem_leaks leaked
    have own := op.pool_ne_topic.symm
    cases exit with
    | topicLeaked => exact keeps.topic isExit
    | bothLeaked => exact keeps.both isExit
    | leaked | topicless | unreturned => exact own (List.mem_singleton.mp leaked)
    | refused | created | doubleReleased | crashed => cases leaked
  · intro pool leaked topics slot inside outside
    obtain ⟨exit, isExit, leaked⟩ := Op.mem_leaks leaked
    cases exit with
    | topicLeaked => exact absurd isExit keeps.topic
    | bothLeaked => exact absurd isExit keeps.both
    | leaked =>
        rw [List.mem_singleton.mp leaked] at topics
        exact absurd isExit (keeps.stale topics)
    | unreturned =>
        rw [List.mem_singleton.mp leaked] at topics
        exact absurd isExit (Op.exit_ne_unreturned topics)
    | topicless =>
        obtain rfl := List.mem_singleton.mp leaked
        obtain ⟨slot', entity, noTopic, agrees⟩ := (topicless_spec healthy sound asked acceptable
          keeps.safe topics isExit).of_eq_ok steps
        rw [agrees.allocated] at inside
        rw [agrees.entity inside]
        -- the slot that is new is the one that was left behind
        have same : slot = slot' := by
          rcases List.mem_cons.mp (by simpa [Registry.addSlot] using inside) with same | old
          · exact same
          · exact absurd old outside
        rw [same, Registry.addSlot, take_entity, fill_entity_self]
        exact noTopic
    | refused | created | doubleReleased | crashed => cases leaked

/-- In every such run the topics are owned, and the handles of their owners were returned. -/
theorem topicsOwned_of_reachable (reachable : Reachable (layer cfg) (KeepsTopics cfg) w) :
    w.rmw.registry.TopicsOwned ∧ ∀ pool, pool.hasTopic = true → w.Returned pool := by
  induction reachable with
  | start =>
      constructor
      · constructor
        · intro topic inside
          rw [show (layer cfg).start.rmw.registry.allocated .topic = [] from allocated_start]
            at inside
          cases inside
        · intro pool slot _ inside
          rw [show (layer cfg).start.rmw.registry.allocated pool = [] from allocated_start]
            at inside
          cases inside
      · exact fun pool _ handle data => absurd rfl data
  | step before enabled keeps steps ih =>
      obtain ⟨healthy, sound⟩ := reachable_sound before fun _ _ keeps => keeps.safe
      obtain ⟨-, sound', change⟩ :=
        (exec_spec healthy sound enabled.1 enabled.2 keeps.safe).of_eq_ok steps
      refine ⟨topicsOwned_step healthy sound enabled.1 enabled.2 keeps ih.1 steps, ?_⟩
      intro pool topics
      apply change.returned sound sound' _ (ih.2 pool topics)
      intro isNode
      rw [isNode] at topics
      cases topics

/-- In a run whose failing creations leave no topic behind, topics and their owners match
in every state. -/
theorem topicsMatch_of_reachable (reachable : Reachable (layer cfg) (KeepsTopics cfg) w) :
    TopicsMatch cfg w := by
  obtain ⟨owned, returned⟩ := topicsOwned_of_reachable reachable
  obtain ⟨healthy, sound⟩ := reachable_sound reachable fun _ _ keeps => keeps.safe
  refine {
    used := ?_
    own := ?_
    counted := fun node => topicCount_eq_countP healthy sound owned
    room := fun default pool topics isFree => free_topic_of_free healthy sound owned default
      topics isFree }
  · intro topic inside
    rw [← Rmw.registry_allocated (by decide)] at inside
    obtain ⟨pool, handle, slot, topics, bound, isTopic⟩ := owned.used topic inside
    refine ⟨(pool, slot), ⟨topics, ⟨handle, (returned pool topics).designates bound⟩, isTopic⟩, ?_⟩
    intro other user
    obtain ⟨topics', ⟨handle', designates⟩, isTopic'⟩ := user
    obtain ⟨samePool, sameSlot⟩ := sound.apart designates.2 bound isTopic' isTopic topics' topics
    exact Prod.ext samePool sameSlot
  · intro pool handle slot topics designates
    obtain ⟨topic, isTopic, inside, owner⟩ := (sound.placed designates.2).topic topics
    rw [Rmw.registry_allocated (by decide)] at inside
    exact ⟨topic, isTopic, inside, owner⟩

/-- The small run with a publisher. -/
theorem topicsMatch_of_small_run : TopicsMatch Small.config Small.withPublisher := by
  apply topicsMatch_of_reachable
  apply Small.withPublisher_reachable
  · exact ⟨⟨by decide, by decide, trivial⟩, by decide, by decide, by decide⟩
  · exact ⟨⟨by decide, by decide, trivial⟩, by decide, by decide, by decide⟩
  · exact ⟨⟨by decide, by decide, trivial⟩, by decide, by decide, by decide⟩

namespace Small

/-- `rmw_create_publisher` on the node, with the agent not confirming the publisher. -/
def failingPublisher : PublisherCall := { publisher with publisher := { confirmed := false } }

/-- The layer after the creation of the publisher failed. -/
def withoutPublisher : World := (layer config).next (.createPublisher failingPublisher) withNode

theorem withoutPublisher_reachable :
    Reachable (layer config) (fun _ _ => True) withoutPublisher := by
  apply Reachable.next (withNode_reachable trivial trivial) _ trivial rfl
  constructor
  · intro node isNode
    cases isNode
    exact live_node
  · exact fun _ _ => ⟨Exchange.acceptable_of_quiet rfl, Exchange.acceptable_of_quiet rfl,
      Exchange.acceptable_of_quiet rfl⟩

end Small

/-- No publisher was created, and yet its topic stays allocated. -/
theorem failed_publisher_keeps_topic :
    Reachable (layer Small.config) (fun _ _ => True) Small.withoutPublisher ∧
      ¬ TopicsMatch Small.config Small.withoutPublisher := by
  refine ⟨Small.withoutPublisher_reachable, fun matched => ?_⟩
  have inside : 2 ∈ Small.withoutPublisher.rmw.allocated .topic := by decide
  obtain ⟨⟨pool, slot⟩, ⟨topics, ⟨handle, ⟨⟨returned, -⟩, -⟩⟩, -⟩, -⟩ := matched.used 2 inside
  have nothing : ∀ pool, pool.hasTopic = true → Small.withoutPublisher.returned pool = [] := by
    intro pool topics
    cases pool <;> first | rfl | cases topics
  rw [nothing pool topics] at returned
  cases returned

end RmwMicroxrcedds
