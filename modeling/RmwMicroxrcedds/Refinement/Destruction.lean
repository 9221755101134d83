import RmwMicroxrcedds.Refinement.Creation

/-! # Destroying entities that own a topic

`rmw_destroy_publisher` and `rmw_destroy_subscription` do the same after their checks:
the topic, the two objects on the agent, the slot and the handle.
-/

namespace RmwMicroxrcedds

open Outcome Registry

variable {cfg : Config} {admits : Admission} {s : Rmw} {pool : Pool}
variable {handle slot node session topic : Nat}

/-- The messages that arrive during a teardown may be stored. -/
structure EntityTeardown.Acceptable (cfg : Config) (admits : Admission) (r : Registry)
    (session : Nat) (teardown : EntityTeardown) : Prop where
  topic : teardown.topic.Acceptable cfg admits r session
  endpoint : teardown.endpoint.Acceptable cfg admits r session
  entity : teardown.entity.Acceptable cfg admits r session

/-- What is acceptable stays so when more is admitted. -/
theorem EntityTeardown.Acceptable.mono {r : Registry} {teardown : EntityTeardown}
    {admits' : Admission} (acceptable : teardown.Acceptable cfg admits r session)
    (within : admits.Within admits') : teardown.Acceptable cfg admits' r session where
  topic := acceptable.topic.mono within
  endpoint := acceptable.endpoint.mono within
  entity := acceptable.entity.mono within

/-- No message arrives during the teardown. -/
structure EntityTeardown.Quiet (teardown : EntityTeardown) : Prop where
  topic : teardown.topic.deliveries = [] := by rfl
  endpoint : teardown.endpoint.deliveries = [] := by rfl
  entity : teardown.entity.deliveries = [] := by rfl

/-- A teardown during which nothing arrives is acceptable. -/
theorem EntityTeardown.Quiet.acceptable {r : Registry} {teardown : EntityTeardown}
    (quiet : teardown.Quiet) : teardown.Acceptable cfg admits r session where
  topic := Exchange.acceptable_of_quiet quiet.topic
  endpoint := Exchange.acceptable_of_quiet quiet.endpoint
  entity := Exchange.acceptable_of_quiet quiet.entity

/-- Slots of different pools are given back in any order. -/
theorem Registry.release_comm {r : Registry} {pool pool' : Pool} {slot slot' : Nat}
    (different : pool ≠ pool') :
    (r.release pool slot).release pool' slot' = (r.release pool' slot').release pool slot := by
  ext1 <;> try rfl
  simp only [release_allocated, Function.update_of_ne different,
    Function.update_of_ne different.symm]
  exact Function.update_comm different _ _ _

/-- What the two destroy functions do between their checks and their end. -/
def teardownTail (cfg : Config) (pool : Pool) (handle topic : Nat) (ownerNode : Option Nat)
    (first second : ObjectId) (teardown : EntityTeardown) (s : Rmw) : Exec (RmwRet × Rmw) := do
  let (_, s) ← destroyTopic cfg topic teardown.topic s
  let customNode ← deref ownerNode
  let context ← deref (s.customNodes customNode).context
  let (confirmed, s) ← deletePair cfg context first second teardown s
  let s ← finiMemory pool handle s
  .ok (if confirmed then .ok else .timeout, s)

/-- What the two functions report. The outcome for the topic is not part of it. -/
def EntityTeardown.report (cfg : Config) (teardown : EntityTeardown) : RmwRet :=
  reportOf (teardown.endpoint.succeeds cfg && teardown.entity.succeeds cfg)

/-- The end of `rmw_destroy_publisher` and `rmw_destroy_subscription`: the topic, the deletions, and
the memory. -/
theorem teardownTail_spec (healthy : s.Healthy cfg admits) (first second : ObjectId)
    {teardown : EntityTeardown} (leaf : pool.isLeaf = true)
    (bound : s.registry.Bound pool handle slot) (inside : slot ∈ s.registry.allocated pool)
    (topicInside : topic ∈ s.registry.allocated .topic)
    (topicOwner : (s.customTopics topic).ownerNode = some node)
    (nodeInside : node ∈ s.registry.allocated .node)
    (context : (s.customNodes node).context = some session)
    (acceptable : teardown.Acceptable cfg admits s.registry session) :
    Yields (teardownTail cfg pool handle topic (some node) first second teardown s) fun result =>
      result.1 = teardown.report cfg ∧ result.2.Healthy cfg admits ∧ Advance s result.2 ∧
        ((s.registry.dropEntity pool handle slot).release .topic topic).Agrees
          result.2.registry := by
  have notTopic : pool ≠ .topic := by
    rintro rfl
    cases leaf
  simp only [teardownTail]
  refine (destroyTopic_spec healthy topicInside topicOwner context acceptable.topic).bind ?_
  rintro ⟨ret, middle⟩ ⟨middleHealthy, middleAdvance, middleAgrees⟩
  have middleContext : (middle.customNodes node).context = some session := by
    have same : middle.registry.entity .node node = s.registry.entity .node node :=
      middleAgrees.entity (by simpa using nodeInside)
    rw [Entity.node.inj same]
    exact context
  have middleInboxes : middle.registry.inboxes = s.registry.inboxes := by
    rw [middleAgrees.inboxes, inboxes_release rfl]
  simp only [deref, ok_bind, middleContext]
  refine (deletePair_spec middleHealthy (acceptable.endpoint.congr middleInboxes)
    (acceptable.entity.congr middleInboxes)).bind ?_
  rintro ⟨confirmed, sent⟩ ⟨isConfirmed, sentHealthy, sentAdvance, sentRegistry⟩
  have sentBound : sent.registry.Bound pool handle slot := by
    rw [sentRegistry, middleAgrees.bound_iff]
    exact bound
  have sentInside : slot ∈ sent.registry.allocated pool := by
    rw [sentRegistry, middleAgrees.allocated, release_allocated, Function.update_of_ne notTopic]
    exact inside
  refine (finiMemory_of_bound sentHealthy (Pool.hasHandle_of_isLeaf leaf) sentBound
    sentInside).bind ?_
  rintro last ⟨lastHealthy, sessions, agrees⟩
  refine yields_ok.mpr ⟨congrArg reportOf isConfirmed, lastHealthy,
    (middleAdvance.trans sentAdvance).trans
    (.of_sessions sessions), ?_⟩
  rw [dropEntity, release_comm notTopic]
  rw [sentRegistry] at agrees
  exact middleAgrees.setData.release.trans agrees

/-- What is left of a sound registry when an entity with a topic is destroyed. -/
theorem Registry.Sound.dropWithTopic {r : Registry} (sound : r.Sound)
    (topics : pool.hasTopic = true)
    (bound : r.Bound pool handle slot) (isTopic : (r.entity pool slot).topicOf = some topic) :
    ((r.dropEntity pool handle slot).release .topic topic).Sound := by
  have leaf := Pool.isLeaf_of_hasTopic topics
  have notNode : pool ≠ .node := by
    rintro rfl
    cases leaf
  have dropped := sound.dropEntity bound (Pool.hasHandle_of_isLeaf leaf)
    fun _ isNode => absurd isNode notNode
  refine dropped.release (fun other otherBound => ?_) (fun _ => ?_) (fun absurd => by cases absurd)
  · cases dropped.hasHandle otherBound
  · intro pool' handle' slot' topics' bound' isTopic'
    rw [Bound, Registry.dropEntity, release_data, setData_data_apply] at bound'
    split at bound'
    · cases bound'
    · rename_i different
      obtain ⟨rfl, rfl⟩ := sound.apart bound bound' isTopic isTopic' topics topics'
      exact different ⟨rfl, sound.handle_unique bound' bound⟩

end RmwMicroxrcedds
