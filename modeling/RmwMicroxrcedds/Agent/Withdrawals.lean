import RmwMicroxrcedds.Agent.Opening

/-! # What the teardowns ask the agent for

A teardown deletes objects of what it removes, and of nothing else, and it writes to the
session of what it removes only. When its requests find room, it deletes all of them.
-/

namespace RmwMicroxrcedds

open Outcome Registry

variable {cfg : Config} {admits : Admission} {s s' s'' : Rmw} {pool : Pool}
variable {session node nodeHandle handle slot topic : Nat} {roomy roomy' : Prop}
variable {objects : List ObjectId} {gone gone' : Pool → Nat → Prop} {ret : RmwRet}

/-- The requests of the session in between delete some of the objects, and all of them if they
found room. -/
def Deletes (s s' : Rmw) (session : Nat) (roomy : Prop) (objects : List ObjectId) : Prop :=
  ∃ written, Wrote (fun _ => True) s s' session written ∧
    (∀ request ∈ written, ∃ object ∈ objects, request = .deleteEntity object) ∧
    (roomy → ∀ object ∈ objects, .deleteEntity object ∈ written)

namespace Deletes

/-- At the start nothing has been asked to be deleted. -/
theorem nothing (s : Rmw) (session : Nat) (roomy : Prop) : Deletes s s session roomy [] :=
  ⟨[], .nothing _ _, fun _ absurd => (by cases absurd), fun _ _ absurd => by cases absurd⟩

/-- What is silent deletes nothing. -/
theorem same (deletes : Deletes s s' session roomy objects) (silent : Silent s' s'') :
    Deletes s s'' session roomy objects := by
  obtain ⟨written, wrote, only, all⟩ := deletes
  exact ⟨written, wrote.same silent, only, all⟩

/-- While the session runs, nothing is written. -/
theorem run {exchange : Exchange} {confirmed : Bool}
    (deletes : Deletes s s' session roomy objects)
    (returned : runXrceSession cfg session exchange s' = .ok (confirmed, s'')) :
    Deletes s s'' session roomy objects :=
  deletes.same (runXrceSession_silent returned)

/-- A deletion that finds room joins the objects asked to be deleted. -/
theorem delete (deletes : Deletes s s' session roomy objects) (object : ObjectId) {room : Bool}
    (finds : roomy → room = true) :
    Deletes s (s'.uxrBuffer session (.deleteEntity object) room).2 session roomy
      (object :: objects) := by
  obtain ⟨written, wrote, only, all⟩ := deletes
  refine ⟨_, wrote.asked (.deleteEntity object) room trivial fun other absurd => (by cases absurd),
    ?_, ?_⟩
  · intro request inside
    rcases List.mem_append.mp inside with isNew | isOld
    · cases room with
      | false => cases isNew
      | true => exact ⟨object, List.mem_cons_self, List.mem_singleton.mp isNew⟩
    · obtain ⟨other, within, isDelete⟩ := only request isOld
      exact ⟨other, List.mem_cons_of_mem _ within, isDelete⟩
  · intro isRoomy other within
    rw [finds isRoomy]
    rcases List.mem_cons.mp within with rfl | isOld
    · exact List.mem_cons_self
    · exact List.mem_append_right _ (all isRoomy other isOld)

end Deletes

/-- `destroy_topic` on a topic with an owner. -/
theorem destroyTopic_deletes {exchange : Exchange}
    (isOwner : (s.customTopics topic).ownerNode = some node)
    (context : (s.customNodes node).context = some session) (finds : roomy → exchange.room = true)
    (returned : destroyTopic cfg topic exchange s = .ok (ret, s')) :
    s'.customNodes = s.customNodes ∧
      Deletes s s' session roomy [(s.customTopics topic).topicId] := by
  simp only [destroyTopic, isOwner, context, deref, ok_bind] at returned
  obtain ⟨⟨confirmed, ran⟩, runs, returned⟩ := bind_eq_ok.mp returned
  have deletes := ((Deletes.nothing s session roomy).delete (s.customTopics topic).topicId
    finds).run runs
  have same := (unaltered_uxrBuffer s session
    (.deleteEntity (s.customTopics topic).topicId) exchange.room).trans
    (runXrceSession_unaltered runs)
  cases returned
  exact ⟨same.nodes, deletes.same (.of_same rfl rfl)⟩

/-- The deletion of two objects. -/
theorem deletePair_deletes {middle : Rmw} {first second : ObjectId} {teardown : EntityTeardown}
    {confirmed : Bool} (deletes : Deletes s middle session roomy objects)
    (findsFirst : roomy → teardown.endpoint.room = true)
    (findsSecond : roomy → teardown.entity.room = true)
    (returned : deletePair cfg session first second teardown middle = .ok (confirmed, s')) :
    Deletes s s' session roomy (second :: first :: objects) := by
  unfold deletePair at returned
  dsimp only at returned
  obtain ⟨⟨_, ran⟩, runs, returned⟩ := bind_eq_ok.mp returned
  obtain ⟨⟨_, ran'⟩, runs', returned⟩ := bind_eq_ok.mp returned
  have both := (((deletes.delete first findsFirst).delete second findsSecond).run runs).run runs'
  cases returned
  exact both

/-- Every request of the teardown found room. -/
structure EntityTeardown.Roomy (teardown : EntityTeardown) : Prop where
  topic : teardown.topic.room = true
  endpoint : teardown.endpoint.room = true
  entity : teardown.entity.room = true

/-- What the two destroy functions do between their checks and their end. -/
theorem teardownTail_deletes {first second : ObjectId} {teardown : EntityTeardown}
    (isOwner : (s.customTopics topic).ownerNode = some node)
    (context : (s.customNodes node).context = some session)
    (returned : teardownTail cfg pool handle topic (some node) first second teardown s =
      .ok (ret, s')) :
    Deletes s s' session teardown.Roomy [second, first, (s.customTopics topic).topicId] := by
  unfold teardownTail at returned
  obtain ⟨⟨_, titled⟩, destroyed, returned⟩ := bind_eq_ok.mp returned
  obtain ⟨nodes, deletes⟩ :=
    destroyTopic_deletes isOwner context EntityTeardown.Roomy.topic destroyed
  simp only [deref, ok_bind, nodes, context] at returned
  obtain ⟨⟨_, sent⟩, both, returned⟩ := bind_eq_ok.mp returned
  have all := deletePair_deletes deletes EntityTeardown.Roomy.endpoint
    EntityTeardown.Roomy.entity both
  obtain ⟨last, released, returned⟩ := bind_eq_ok.mp returned
  cases returned
  exact all.same (finiMemory_silent released)

/-- The entity had a handle, and has none any more. -/
def Lost (s s' : Rmw) (pool : Pool) (slot : Nat) : Prop :=
  (∃ handle, s.registry.Bound pool handle slot) ∧ ∀ handle, ¬ s'.registry.Bound pool handle slot

/-- The requests in between delete objects of what was lost, which was in the session, and all
of them if they found room. -/
def Withdraws (s s' : Rmw) (session : Nat) (roomy : Prop) : Prop :=
  ∃ written, Wrote (fun _ => True) s s' session written ∧
    (∀ request ∈ written, ∃ pool slot object, Lost s s' pool slot ∧
      s.registry.sessionOf pool slot = some session ∧
      object ∈ s.registry.belongings pool slot ∧ request = .deleteEntity object) ∧
    (roomy → ∀ pool slot, Lost s s' pool slot →
      ∀ object ∈ s.registry.belongings pool slot, .deleteEntity object ∈ written)

namespace Registry

variable {r r' : Registry}

/-- What is still held after a removal was held before, with the same contents. -/
theorem Removal.retains (removal : r.Removal r' gone) (sound : r.Sound) (sound' : r'.Sound) :
    r.Retains r' fun _ _ => False := by
  refine sound.retains sound' ?_ ?_ ?_
  · exact fun _ _ _ bound => Or.inl (removal.bound.mp bound).1
  · exact fun _ _ _ _ _ _ isNew => isNew.elim
  · exact fun _ _ _ held => removal.entity (sound'.held_allocated held)

/-- An entity that is kept keeps its session, its objects and its topic. -/
theorem Retains.belongings {new : Pool → Nat → Prop} (retains : r.Retains r' new)
    (topics : ∀ topic, (r'.entity pool slot).topicOf = some topic → pool.hasTopic = true)
    (bound : r'.Bound pool handle slot) (old : ¬ new pool slot)
    (oldTopic : ∀ topic, (r'.entity pool slot).topicOf = some topic → ¬ new .topic topic) :
    r'.belongings pool slot = r.belongings pool slot := by
  obtain ⟨-, same, -⟩ := (retains pool slot (Or.inl ⟨handle, bound⟩)).resolve_left old
  have titled : ∀ topic, (r'.entity pool slot).topicOf = some topic →
      (r'.entity .topic topic).objects = (r.entity .topic topic).objects := by
    intro topic isTopic
    have hasTopic := topics topic isTopic
    have held : r'.Held .topic topic := Or.inr ⟨rfl, pool, handle, slot, hasTopic, bound, isTopic⟩
    obtain ⟨-, sameTopic, -⟩ := (retains .topic topic held).resolve_left (oldTopic topic isTopic)
    rw [sameTopic]
  unfold Registry.belongings
  rw [same] at titled ⊢
  cases isTopic : (r.entity pool slot).topicOf with
  | none => rfl
  | some topic => rw [Option.elim_some, Option.elim_some, titled topic isTopic]

end Registry

/-- Only publishers and subscriptions have topics. -/
theorem Rmw.hasTopic_of_topicOf (isTopic : (s.registry.entity pool slot).topicOf = some topic) :
    pool.hasTopic = true := by
  cases pool <;> first | rfl | cases isTopic

namespace Withdraws

/-- With room whenever there is some, there is room under a stronger condition. -/
theorem mono (withdraws : Withdraws s s' session roomy) (stronger : roomy' → roomy) :
    Withdraws s s' session roomy' := by
  obtain ⟨written, wrote, only, all⟩ := withdraws
  exact ⟨written, wrote, only, fun isRoomy => all (stronger isRoomy)⟩

/-- What does nothing withdraws nothing. -/
theorem nothing (s : Rmw) (session : Nat) (roomy : Prop) : Withdraws s s session roomy := by
  refine ⟨[], .nothing _ _, fun _ absurd => (by cases absurd), ?_⟩
  intro _ pool slot lost
  obtain ⟨⟨handle, bound⟩, freed⟩ := lost
  exact absurd bound (freed handle)

/-- One entity was removed, and its objects were deleted. -/
theorem of_deletes (deletes : Deletes s s' session roomy objects)
    (removal : s.registry.Removal s'.registry fun pool' slot' => pool' = pool ∧ slot' = slot)
    (bound : s.registry.Bound pool handle slot)
    (sited : s.registry.sessionOf pool slot = some session)
    (same : ∀ object, object ∈ objects ↔ object ∈ s.registry.belongings pool slot) :
    Withdraws s s' session roomy := by
  obtain ⟨written, wrote, only, all⟩ := deletes
  have isLost : Lost s s' pool slot :=
    ⟨⟨handle, bound⟩, fun other still => (removal.bound.mp still).2 ⟨rfl, rfl⟩⟩
  refine ⟨written, wrote, fun request inside => ?_,
    fun isRoomy pool' slot' lost object within => ?_⟩
  · obtain ⟨object, within, isDelete⟩ := only request inside
    exact ⟨pool, slot, object, isLost, sited, (same object).mp within, isDelete⟩
  · obtain ⟨⟨other, before⟩, freed⟩ := lost
    obtain ⟨rfl, rfl⟩ : pool' = pool ∧ slot' = slot := by
      by_contra different
      exact freed other (removal.bound.mpr ⟨before, different⟩)
    exact all isRoomy object ((same object).mpr within)

/-- Two teardowns, one after the other. -/
theorem trans (first : Withdraws s s' session roomy) (second : Withdraws s' s'' session roomy)
    (sound : s.registry.Sound) (sound' : s'.registry.Sound)
    (removal : s.registry.Removal s'.registry gone)
    (removal' : s'.registry.Removal s''.registry gone') : Withdraws s s'' session roomy := by
  obtain ⟨written, wrote, only, all⟩ := first
  obtain ⟨written', wrote', only', all'⟩ := second
  have retains := removal.retains sound sound'
  have sameBelongings : ∀ pool handle slot, s'.registry.Bound pool handle slot →
      s'.registry.belongings pool slot = s.registry.belongings pool slot := by
    intro pool handle slot bound
    exact retains.belongings (fun _ => Rmw.hasTopic_of_topicOf) bound id fun _ _ => id
  have early : ∀ pool slot, Lost s s' pool slot → Lost s s'' pool slot := by
    intro pool slot lost
    exact ⟨lost.1, fun handle bound => lost.2 handle (removal'.bound.mp bound).1⟩
  have late : ∀ pool slot, Lost s' s'' pool slot → Lost s s'' pool slot := by
    intro pool slot lost
    obtain ⟨⟨handle, bound⟩, freed⟩ := lost
    exact ⟨⟨handle, (removal.bound.mp bound).1⟩, freed⟩
  refine ⟨written' ++ written, wrote.trans wrote', fun request inside => ?_,
    fun isRoomy pool slot lost object within => ?_⟩
  · rcases List.mem_append.mp inside with isLater | isFirst
    · obtain ⟨pool, slot, object, lost, sited, within, isDelete⟩ := only' request isLater
      obtain ⟨⟨handle, bound⟩, -⟩ := id lost
      obtain ⟨-, -, sameSession⟩ :=
        (retains pool slot (Or.inl ⟨handle, bound⟩)).resolve_left id
      rw [sameSession] at sited
      rw [sameBelongings pool handle slot bound] at within
      exact ⟨pool, slot, object, late pool slot lost, sited, within, isDelete⟩
    · obtain ⟨pool, slot, object, lost, rest⟩ := only request isFirst
      exact ⟨pool, slot, object, early pool slot lost, rest⟩
  · obtain ⟨⟨handle, bound⟩, freed⟩ := lost
    by_cases still : s'.registry.Bound pool handle slot
    · rw [← sameBelongings pool handle slot still] at within
      exact List.mem_append_left _ (all' isRoomy pool slot ⟨⟨handle, still⟩, freed⟩ object within)
    · have gone : Lost s s' pool slot := by
        refine ⟨⟨handle, bound⟩, fun other bound' => still ?_⟩
        have before := (removal.bound.mp bound').1
        rwa [← sound.handle_unique before bound]
      exact List.mem_append_right _ (all isRoomy pool slot gone object within)

end Withdraws

/-- `rmw_destroy_publisher`. -/
theorem rmwDestroyPublisher_withdraws (healthy : s.Healthy cfg admits) (sound : s.registry.Sound)
    {teardown : EntityTeardown} (nodeBound : s.registry.Bound .node nodeHandle node)
    (bound : s.registry.Bound .publisher handle slot)
    (sited : s.registry.sessionOf .publisher slot = some session)
    (acceptable : ∀ owner session, (s.customPublishers slot).ownerNode = some owner →
      (s.customNodes owner).context = some session →
      teardown.Acceptable cfg admits s.registry session) :
    Yields (rmwDestroyPublisher cfg (some nodeHandle) (some handle) teardown s) fun result =>
      Removes cfg admits s result.2 (fun pool slot' => pool = .publisher ∧ slot' = slot) ∧
        Withdraws s result.2 session teardown.Roomy := by
  obtain ⟨⟨ret, s'⟩, returned, -, removes⟩ :=
    rmwDestroyPublisher_removes healthy sound nodeBound bound acceptable
  obtain ⟨owner, ownerHandle, isOwner, ownerBound⟩ := (sound.placed bound).owned rfl
  obtain ⟨topic, isTopic, -, topicOwner⟩ := (sound.placed bound).topic rfl
  have isOwner' : (s.customPublishers slot).ownerNode = some owner := isOwner
  have isTopic' : (s.customPublishers slot).topic = some topic := isTopic
  have titled : (s.customTopics topic).ownerNode = some owner := topicOwner.trans isOwner
  have context : (s.customNodes owner).context = some session := by
    rw [sessionOf, if_neg (by decide), isOwner] at sited
    exact sited
  refine ⟨(ret, s'), returned, removes, ?_⟩
  simp only [rmwDestroyPublisher, checkDestroyed_of_bound healthy nodeBound bound, ok_bind,
    isTopic', isOwner', deref] at returned
  refine .of_deletes (teardownTail_deletes titled context returned) removes.removal bound sited ?_
  intro object
  have belongings : s.registry.belongings .publisher slot =
      [(s.customPublishers slot).publisherId, (s.customPublishers slot).datawriterId,
        (s.customTopics topic).topicId] := by
    rw [Registry.belongings, isTopic]
    rfl
  rw [belongings]

/-- `rmw_destroy_subscription`. -/
theorem rmwDestroySubscription_withdraws (healthy : s.Healthy cfg admits)
    (sound : s.registry.Sound) {teardown : EntityTeardown}
    (nodeBound : s.registry.Bound .node nodeHandle node)
    (bound : s.registry.Bound .subscription handle slot)
    (sited : s.registry.sessionOf .subscription slot = some session)
    (acceptable : ∀ owner session, (s.customSubscriptions slot).ownerNode = some owner →
      (s.customNodes owner).context = some session →
      teardown.Acceptable cfg admits s.registry session) :
    Yields (rmwDestroySubscription cfg (some nodeHandle) (some handle) teardown s) fun result =>
      Removes cfg admits s result.2 (fun pool slot' => pool = .subscription ∧ slot' = slot) ∧
        Withdraws s result.2 session teardown.Roomy := by
  obtain ⟨⟨ret, s'⟩, returned, -, removes⟩ :=
    rmwDestroySubscription_removes healthy sound nodeBound bound acceptable
  obtain ⟨owner, ownerHandle, isOwner, ownerBound⟩ := (sound.placed bound).owned rfl
  obtain ⟨topic, isTopic, -, topicOwner⟩ := (sound.placed bound).topic rfl
  have isOwner' : (s.customSubscriptions slot).ownerNode = some owner := isOwner
  have isTopic' : (s.customSubscriptions slot).topic = some topic := isTopic
  have titled : (s.customTopics topic).ownerNode = some owner := topicOwner.trans isOwner
  have context : (s.customNodes owner).context = some session := by
    rw [sessionOf, if_neg (by decide), isOwner] at sited
    exact sited
  refine ⟨(ret, s'), returned, removes, ?_⟩
  simp only [rmwDestroySubscription, checkDestroyed_of_bound healthy nodeBound bound, ok_bind,
    isTopic', isOwner', deref] at returned
  refine .of_deletes (teardownTail_deletes titled context returned) removes.removal bound sited ?_
  intro object
  have belongings : s.registry.belongings .subscription slot =
      [(s.customSubscriptions slot).subscriberId, (s.customSubscriptions slot).datareaderId,
        (s.customTopics topic).topicId] := by
    rw [Registry.belongings, isTopic]
    rfl
  rw [belongings]

/-- `rmw_destroy_service` and `rmw_destroy_client`, through a node of the endpoint's session. -/
theorem destroyEndpoint_withdraws (kind : EndpointKind) (healthy : s.Healthy cfg admits)
    (sound : s.registry.Sound) {exchange : Exchange}
    (nodeBound : s.registry.Bound .node nodeHandle node)
    (context : (s.customNodes node).context = some session)
    (bound : s.registry.Bound kind.pool handle slot)
    (sited : s.registry.sessionOf kind.pool slot = some session)
    (acceptable : ∀ session, (s.customNodes node).context = some session →
      exchange.Acceptable cfg admits s.registry session) :
    Yields (destroyEndpoint cfg kind (some nodeHandle) (some handle) exchange s) fun result =>
      Removes cfg admits s result.2 (fun pool slot' => pool = kind.pool ∧ slot' = slot) ∧
        Withdraws s result.2 session (exchange.room = true) := by
  obtain ⟨⟨ret, s'⟩, returned, -, removes⟩ :=
    destroyEndpoint_removes kind healthy sound nodeBound bound acceptable
  refine ⟨(ret, s'), returned, removes, ?_⟩
  simp only [destroyEndpoint, checkDestroyed_of_bound healthy nodeBound bound, ok_bind, context,
    deref] at returned
  obtain ⟨⟨confirmed, ran⟩, runs, returned⟩ := bind_eq_ok.mp returned
  have deletes := ((Deletes.nothing s session (exchange.room = true)).delete
    (s.customEndpoint kind slot).objectId id).run runs
  obtain ⟨last, released, returned⟩ := bind_eq_ok.mp returned
  cases returned
  refine .of_deletes (deletes.same (finiMemory_silent released)) removes.removal bound sited ?_
  intro object
  have belongings : s.registry.belongings kind.pool slot =
      [(s.customEndpoint kind slot).objectId] := by
    have entity : s.registry.entity kind.pool slot = .endpoint (s.customEndpoint kind slot) :=
      Rmw.entity_endpoint
    rw [Registry.belongings, entity]
    rfl
  rw [belongings]

/-- Every request of the teardown found room. -/
structure NodeTeardown.Roomy (teardown : NodeTeardown) : Prop where
  publisher : ∀ slot, (teardown.publisher slot).Roomy
  subscription : ∀ slot, (teardown.subscription slot).Roomy
  service : ∀ slot, (teardown.service slot).room = true
  client : ∀ slot, (teardown.client slot).room = true
  participant : teardown.participant.room = true

/-- A state of the cascade, after the removal of one more entity of the node. -/
theorem Midway.next (midway : Midway cfg admits s nodeHandle node session s')
    (removes : Removes cfg admits s' s'' gone)
    (owned : ∀ pool slot, gone pool slot → s'.registry.OwnedBy node pool slot) :
    Midway cfg admits s nodeHandle node session s'' := by
  obtain ⟨bound, same⟩ := removes.node_bound (fun _ _ isGone => (owned _ _ isGone).1) midway.bound
  obtain ⟨earlier, removal, within⟩ := midway.thinned
  refine ⟨removes.healthy, removes.sound, removes.removal.settled midway.settled, bound,
    same.trans midway.context, _, removal.trans removes.removal, fun pool slot isGone => ?_⟩
  rcases isGone with early | late
  · exact within pool slot early
  · have still := owned pool slot late
    obtain ⟨handle, isBound⟩ := still.2.1
    exact (removal.ownedBy_iff still.1 (midway.sound.placed isBound).allocated).mp still

/-- A loop body that destroys the item it is at when the node owns it. -/
theorem ownedItem_withdraws (destroy : Option Nat → Rmw → Exec (RmwRet × Rmw))
    {result : Option RmwRet} (leaf : pool.isLeaf = true) (settled : s.registry.Settled node)
    (inside : slot ∈ s.registry.allocated pool) (null : destroy none s = .ok (.error, s))
    (live : ∀ handle, s.registry.Bound pool handle slot →
      (s.registry.entity pool slot).ownerNode = some node →
      Yields (destroy (some handle) s) fun result => Withdraws s result.2 session roomy)
    (returned : (if (s.registry.entity pool slot).ownerNode = some node then do
        let (ret, s) ← destroy (s.registry.entity pool slot).rmwHandle s
        .ok (some ret, s)
      else .ok (none, s) : Exec (Option RmwRet × Rmw)) = .ok (result, s')) :
    Withdraws s s' session roomy := by
  split at returned
  · rename_i owner
    obtain ⟨⟨ret, last⟩, destroyed, returned⟩ := bind_eq_ok.mp returned
    cases returned
    cases isHandle : (s.registry.entity pool slot).rmwHandle with
    | none =>
        rw [isHandle, null] at destroyed
        cases destroyed
        exact .nothing s session roomy
    | some handle =>
        rw [isHandle] at destroyed
        have bound := settled pool slot handle leaf inside owner isHandle
        exact (live handle bound owner).of_eq_ok destroyed
  · cases returned
    exact .nothing s session roomy

/-- A loop of the cascade. -/
theorem cascadeLoop_withdraws (pool : Pool) (leaf : pool.isLeaf = true)
    {body : Nat → Rmw → Exec (Option RmwRet × Rmw)} (sound : s.registry.Sound)
    (midway : Midway cfg admits s nodeHandle node session s')
    (withdraws : Withdraws s s' session roomy)
    (step : ∀ item middle, Midway cfg admits s nodeHandle node session middle →
      item ∈ middle.registry.allocated pool → Yields (body item middle) fun result =>
        Removes cfg admits middle result.2 (fun pool' slot' =>
          pool' = pool ∧ slot' = item ∧ middle.registry.OwnedBy node pool item) ∧
        Withdraws middle result.2 session roomy) :
    Yields (s'.traceAllocated pool body) fun result =>
      Midway cfg admits s nodeHandle node session result.2 ∧
        Withdraws s result.2 session roomy := by
  have entities := ne_staticBuffer_of_isLeaf leaf
  refine (traceAllocated_keeps (fun rest middle =>
      Midway cfg admits s nodeHandle node session middle ∧ rest <:+ middle.allocated pool ∧
        Withdraws s middle session roomy) (fun _ _ inv => inv.1.healthy.wf pool)
    (fun _ _ inv => inv.2.1) ?_ ⟨midway, List.suffix_refl _, withdraws⟩).mono
    fun result post => ⟨post.1, post.2.2⟩
  rintro item rest middle ⟨midway, suffix, withdraws⟩
  have held : item ∈ middle.registry.allocated pool := by
    rw [Rmw.registry_allocated entities]
    exact suffix.subset List.mem_cons_self
  obtain ⟨gone, removal, -⟩ := midway.thinned
  refine (step item middle midway held).mono ?_
  rintro ⟨report, last⟩ ⟨removes, later⟩
  refine ⟨midway.next removes ?_, ?_,
    withdraws.trans later sound midway.sound removal removes.removal⟩
  · rintro pool' slot' ⟨rfl, rfl, owned⟩
    exact owned
  · have within : (item :: rest).Sublist (middle.registry.allocated pool) := by
      rw [Rmw.registry_allocated entities]
      exact suffix.sublist
    have nodup := midway.healthy.nodup.sublist within
    have tail : rest <:+ middle.registry.allocated pool := by
      rw [Rmw.registry_allocated entities]
      exact (List.suffix_cons item rest).trans suffix
    rw [← Rmw.registry_allocated entities]
    refine suffix_of_sublist (removes.removal.order pool) midway.healthy.nodup tail
      fun other later => ?_
    refine (removes.removal.kept (ne_topic_of_isLeaf leaf)).mpr
      ⟨tail.subset later, fun isGone => ?_⟩
    obtain ⟨-, rfl, -⟩ := isGone
    exact (List.nodup_cons.mp nodup).1 later

section

variable {teardown : NodeTeardown} {item : Nat}
  (midway : Midway cfg admits s nodeHandle node session s')

include midway

/-- An entity of the node is sited where the node is. -/
theorem Midway.sited (notNode : pool ≠ .node)
    (owner : (s'.registry.entity pool slot).ownerNode = some node) :
    s'.registry.sessionOf pool slot = some session := by
  rw [sessionOf, if_neg notNode, owner]
  exact midway.context

/-- The body of the loop over the publishers asks for the deletion of what it releases. -/
theorem destroyOwnedPublisher_withdraws
    (acceptable : teardown.Acceptable cfg admits s.registry node session)
    (inside : item ∈ s'.registry.allocated .publisher) :
    Yields (destroyOwnedPublisher cfg nodeHandle node teardown item s') fun result =>
      Removes cfg admits s' result.2 (fun pool slot =>
        pool = .publisher ∧ slot = item ∧ s'.registry.OwnedBy node .publisher item) ∧
      Withdraws s' result.2 session teardown.Roomy := by
  obtain ⟨result, returned, -, post⟩ := destroyOwnedPublisher_spec midway acceptable inside
  refine ⟨result, returned, post, ?_⟩
  refine ownedItem_withdraws (fun handle => rmwDestroyPublisher cfg (some nodeHandle) handle
    (teardown.publisher item)) rfl midway.settled inside ?_ (fun handle bound owner => ?_) returned
  · simp [rmwDestroyPublisher, checkDestroyed_of_null midway.healthy midway.bound]
  · refine (rmwDestroyPublisher_withdraws midway.healthy midway.sound midway.bound bound
      (midway.sited (by decide) owner) ?_).mono fun _ both => both.2.mono fun roomy =>
        roomy.publisher item
    intro other session' isOwner isSession
    obtain rfl : node = other := Option.some.inj (owner.symm.trans isOwner)
    obtain rfl : session = session' := Option.some.inj (midway.context.symm.trans isSession)
    exact acceptable.publisher _ _ midway.thinned

/-- The body of the loop over the subscriptions asks for the deletion of what it releases. -/
theorem destroyOwnedSubscription_withdraws
    (acceptable : teardown.Acceptable cfg admits s.registry node session)
    (inside : item ∈ s'.registry.allocated .subscription) :
    Yields (destroyOwnedSubscription cfg nodeHandle node teardown item s') fun result =>
      Removes cfg admits s' result.2 (fun pool slot =>
        pool = .subscription ∧ slot = item ∧ s'.registry.OwnedBy node .subscription item) ∧
      Withdraws s' result.2 session teardown.Roomy := by
  obtain ⟨result, returned, -, post⟩ := destroyOwnedSubscription_spec midway acceptable inside
  refine ⟨result, returned, post, ?_⟩
  refine ownedItem_withdraws (fun handle => rmwDestroySubscription cfg (some nodeHandle) handle
    (teardown.subscription item)) rfl midway.settled inside ?_ (fun handle bound owner => ?_)
    returned
  · simp [rmwDestroySubscription, checkDestroyed_of_null midway.healthy midway.bound]
  · refine (rmwDestroySubscription_withdraws midway.healthy midway.sound midway.bound bound
      (midway.sited (by decide) owner) ?_).mono fun _ both => both.2.mono fun roomy =>
        roomy.subscription item
    intro other session' isOwner isSession
    obtain rfl : node = other := Option.some.inj (owner.symm.trans isOwner)
    obtain rfl : session = session' := Option.some.inj (midway.context.symm.trans isSession)
    exact acceptable.subscription _ _ midway.thinned

/-- The body of the loops over the services and the clients asks for the deletion of what it
releases. -/
theorem destroyOwnedEndpoint_withdraws (kind : EndpointKind) {exchanges : Nat → Exchange}
    (finds : roomy → (exchanges item).room = true)
    (acceptable : (exchanges item).Acceptable cfg admits s'.registry session)
    (inside : item ∈ s'.registry.allocated kind.pool) :
    Yields (destroyOwnedEndpoint cfg kind nodeHandle node exchanges item s') fun result =>
      Removes cfg admits s' result.2 (fun pool slot =>
        pool = kind.pool ∧ slot = item ∧ s'.registry.OwnedBy node kind.pool item) ∧
      Withdraws s' result.2 session roomy := by
  obtain ⟨result, returned, -, post⟩ := destroyOwnedEndpoint_spec midway kind acceptable inside
  refine ⟨result, returned, post, ?_⟩
  have entity : s'.registry.entity kind.pool item = .endpoint (s'.customEndpoint kind item) :=
    Rmw.entity_endpoint
  have isOwner : (s'.customEndpoint kind item).ownerNode =
      (s'.registry.entity kind.pool item).ownerNode := by rw [entity]; rfl
  have isHandle : (s'.customEndpoint kind item).rmwHandle =
      (s'.registry.entity kind.pool item).rmwHandle := by rw [entity]; rfl
  rw [destroyOwnedEndpoint, isOwner, isHandle] at returned
  refine ownedItem_withdraws (fun handle => destroyEndpoint cfg kind (some nodeHandle) handle
    (exchanges item)) kind.isLeaf midway.settled inside ?_ (fun handle bound owner => ?_) returned
  · simp [destroyEndpoint, checkDestroyed_of_null midway.healthy midway.bound]
  · refine (destroyEndpoint_withdraws kind midway.healthy midway.sound midway.bound midway.context
      bound (midway.sited kind.ne_node owner) ?_).mono fun _ both => both.2.mono finds
    intro session' isSession
    obtain rfl : session = session' := Option.some.inj (midway.context.symm.trans isSession)
    exact acceptable

/-- The end of the cascade: the participant and the node. -/
theorem destroyEmptied_withdraws {exchange : Exchange} {results : List RmwRet}
    (acceptable : exchange.Acceptable cfg admits s'.registry session) :
    Yields (do
        let context ← deref (s'.customNodes node).context
        let (_, s') := s'.uxrBuffer context
          (.deleteEntity (s'.customNodes node).participantId) exchange.room
        let (confirmed, s') ← runXrceSession cfg context exchange s'
        let s' ← rmwUxrceFiniNodeMemory nodeHandle s'
        .ok ((results, confirmed), s') : Exec ((List RmwRet × Bool) × Rmw)) fun traced =>
      s'.registry.Removal traced.2.registry (fun pool slot => pool = .node ∧ slot = node) ∧
        Withdraws s' traced.2 session (exchange.room = true) := by
  simp only [midway.context, deref, ok_bind]
  have sentHealthy : (s'.uxrBuffer session (.deleteEntity (s'.customNodes node).participantId)
      exchange.room).2.Healthy cfg admits := (healthy_uxrBuffer _ _).mpr midway.healthy
  obtain ⟨⟨confirmed, ran⟩, runs, -, ranHealthy, undisturbed⟩ :=
    runXrceSession_spec sentHealthy (acceptable.congr (by rw [registry_uxrBuffer]))
  have ranRegistry : ran.registry = s'.registry := by
    rw [undisturbed.registry, registry_uxrBuffer]
  have inside := (midway.sound.placed midway.bound).allocated
  obtain ⟨last, released, -, -, agrees⟩ := rmwUxrceFiniNodeMemory_spec ranHealthy
    (ranRegistry ▸ midway.bound) (ranRegistry ▸ inside)
  rw [ranRegistry] at agrees
  have removal := (midway.sound.removal_dropEntity midway.healthy.nodup midway.bound rfl).agrees
    agrees
  rw [runs, ok_bind, released, ok_bind]
  refine yields_ok.mpr ⟨removal, .of_deletes ((((Deletes.nothing s' session
    (exchange.room = true)).delete (s'.customNodes node).participantId id).run runs).same
      (rmwUxrceFiniNodeMemory_silent released))
    removal midway.bound ?_ fun object => Iff.rfl⟩
  rw [sessionOf, if_pos rfl]
  exact midway.context

end

/-- `rmw_destroy_node` deletes the objects of the node and of its entities. -/
theorem rmwDestroyNode_withdraws (healthy : s.Healthy cfg admits) (sound : s.registry.Sound)
    {teardown : NodeTeardown} (nodeBound : s.registry.Bound .node nodeHandle node)
    (settled : s.registry.Settled node) (context : (s.customNodes node).context = some session)
    (acceptable : teardown.Acceptable cfg admits s.registry node session) :
    Yields (rmwDestroyNode cfg (some nodeHandle) teardown s) fun result =>
      Removes cfg admits s result.2 (fun pool slot =>
        s.registry.OwnedBy node pool slot ∨ pool = .node ∧ slot = node) ∧
      Withdraws s result.2 session teardown.Roomy := by
  obtain ⟨⟨ret, s'⟩, returned, removes⟩ :=
    rmwDestroyNode_removes healthy sound nodeBound settled context acceptable
  refine ⟨(ret, s'), returned, removes, ?_⟩
  rw [rmwDestroyNode_eq_trace healthy nodeBound] at returned
  obtain ⟨traced, traces, returned⟩ := bind_eq_ok.mp returned
  cases returned
  have start : Midway cfg admits s nodeHandle node session s :=
    ⟨healthy, sound, settled, nodeBound, context, .refl _⟩
  have walks : Yields (destroyNodeTrace cfg nodeHandle node teardown s) fun traced =>
      Withdraws s traced.2 session teardown.Roomy := by
    simp only [destroyNodeTrace]
    refine (cascadeLoop_withdraws .publisher rfl sound start (.nothing s session teardown.Roomy)
      fun item middle midway inside =>
        destroyOwnedPublisher_withdraws midway acceptable inside).bind ?_
    rintro ⟨results₁, s₁⟩ ⟨midway₁, withdraws₁⟩
    refine (cascadeLoop_withdraws .subscription rfl sound midway₁ withdraws₁
      fun item middle midway inside =>
        destroyOwnedSubscription_withdraws midway acceptable inside).bind ?_
    rintro ⟨results₂, s₂⟩ ⟨midway₂, withdraws₂⟩
    refine (cascadeLoop_withdraws .service rfl sound midway₂ withdraws₂
      fun item middle midway inside => destroyOwnedEndpoint_withdraws midway .service
        (fun roomy => roomy.service item) (acceptable.service _ _ midway.thinned) inside).bind ?_
    rintro ⟨results₃, s₃⟩ ⟨midway₃, withdraws₃⟩
    refine (cascadeLoop_withdraws .client rfl sound midway₃ withdraws₃
      fun item middle midway inside => destroyOwnedEndpoint_withdraws midway .client
        (fun roomy => roomy.client item) (acceptable.client _ _ midway.thinned) inside).bind ?_
    rintro ⟨results₄, s₄⟩ ⟨midway₄, withdraws₄⟩
    refine (destroyEmptied_withdraws midway₄
      (acceptable.participant _ midway₄.thinned)).mono fun traced ended => ?_
    obtain ⟨gone, removal, -⟩ := midway₄.thinned
    exact withdraws₄.trans (ended.2.mono fun roomy => roomy.participant) sound midway₄.sound
      removal ended.1
  exact walks.of_eq_ok traces

/-- A loop body that destroys the node it is at when it is one of the session. -/
theorem destroyOwnedNode_writesOnly {teardown : ContextTeardown} {result : Option RmwRet}
    (healthy : s.Healthy cfg admits) (sound : s.registry.Sound)
    (settled : ∀ handle, (s.customNodes node).context = some session →
      (s.customNodes node).rmwHandle = some handle →
      s.registry.Bound .node handle node ∧ s.registry.Settled node)
    (acceptable : (teardown.node node).Acceptable cfg admits s.registry node session)
    (returned : destroyOwnedNode cfg (some session) teardown node s = .ok (result, s')) :
    WritesOnly s s' session := by
  unfold destroyOwnedNode at returned
  split at returned
  · rename_i isContext
    obtain ⟨⟨ret, last⟩, destroyed, returned⟩ := bind_eq_ok.mp returned
    cases returned
    cases isHandle : (s.customNodes node).rmwHandle with
    | none =>
        rw [isHandle] at destroyed
        cases destroyed
        exact .refl s session
    | some handle =>
        rw [isHandle] at destroyed
        obtain ⟨bound, settledNode⟩ := settled handle isContext isHandle
        obtain ⟨-, written, wrote, -⟩ := (rmwDestroyNode_withdraws healthy sound bound settledNode
          isContext acceptable).of_eq_ok destroyed
        exact wrote.writesOnly
  · cases returned
    exact .refl s session

/-- The loop of `rmw_context_fini` writes to no session but the one of the context. -/
theorem finiNodes_writesOnly (healthy : s.Healthy cfg admits) (sound : s.registry.Sound)
    {teardown : ContextTeardown} (settled : s.registry.SettledIn session)
    (acceptable : teardown.Acceptable cfg admits s.registry session) :
    Yields (s.traceAllocated .node (destroyOwnedNode cfg (some session) teardown)) fun result =>
      WritesOnly s result.2 session := by
  refine (traceAllocated_keeps (fun rest middle =>
      (middle.Healthy cfg admits ∧ middle.registry.Sound ∧ rest <:+ middle.allocated .node) ∧
      s.registry.Thinned (s.registry.SitedIn session) middle.registry ∧
        WritesOnly s middle session)
    (fun _ _ inv => inv.1.1.wf .node) (fun _ _ inv => inv.1.2.2) ?_
    ⟨⟨healthy, sound, List.suffix_refl _⟩, .refl _, .refl s session⟩).mono
    fun result post => post.2.2
  rintro node rest middle ⟨⟨healthy', sound', suffix⟩, ⟨gone, removal, within⟩, writes⟩
  have inside : node ∈ middle.registry.allocated .node := by
    rw [Rmw.registry_allocated (by decide)]
    exact suffix.subset List.mem_cons_self
  have sameNode := removal.entity inside
  have held := (removal.kept (by decide)).mp inside
  have settledNode : ∀ handle, (middle.customNodes node).context = some session →
      (middle.customNodes node).rmwHandle = some handle →
      middle.registry.Bound .node handle node ∧ middle.registry.Settled node := by
    intro handle isContext isHandle
    obtain ⟨bound, isSettled⟩ := settled node held.1
      (sameNode ▸ (isContext : (middle.registry.entity .node node).context = some session)) handle
      (sameNode ▸ (isHandle : (middle.registry.entity .node node).rmwHandle = some handle))
    exact ⟨removal.bound.mpr ⟨bound, held.2⟩, removal.settled isSettled⟩
  have accepted := acceptable.node _ node ⟨gone, removal, within⟩
  obtain ⟨⟨result, last⟩, returned, -, removes⟩ :=
    destroyOwnedNode_spec healthy' sound' settledNode accepted
  refine ⟨(result, last), returned, ⟨removes.healthy, removes.sound, ?_⟩,
    ⟨_, removal.trans removes.removal, ?_⟩, ?_⟩
  · have whole : (node :: rest).Sublist (middle.registry.allocated .node) := by
      rw [Rmw.registry_allocated (by decide)]
      exact suffix.sublist
    have nodup := healthy'.nodup.sublist whole
    have tail : rest <:+ middle.registry.allocated .node := by
      rw [Rmw.registry_allocated (by decide)]
      exact (List.suffix_cons node rest).trans suffix
    have pools : last.registry.allocated .node = last.allocated .node :=
      Rmw.registry_allocated (by decide)
    rw [← pools]
    refine suffix_of_sublist (removes.removal.order .node) healthy'.nodup tail
      fun later isLater => ?_
    refine (removes.removal.kept (by decide)).mpr ⟨tail.subset isLater, ?_⟩
    rintro ⟨-, owned | ⟨-, rfl⟩⟩
    · cases owned.1
    · exact (List.nodup_cons.mp nodup).1 isLater
  · rintro pool slot (early | ⟨isNode, goes⟩)
    · exact within pool slot early
    · refine ⟨node, (removal.nodeOf_iff inside).mp isNode, goes.imp_left fun owned => ?_⟩
      obtain ⟨handle, bound⟩ := owned.2.1
      exact (removal.ownedBy_iff owned.1 (sound'.placed bound).allocated).mp owned
  · exact writes.trans (destroyOwnedNode_writesOnly healthy' sound' settledNode accepted returned)

/-- `rmw_context_fini` writes to no session but the one of the context. -/
theorem rmwContextFini_writesOnly (healthy : s.Healthy cfg admits) (sound : s.registry.Sound)
    {teardown : ContextTeardown} {context : Nat} (isImpl : s.registry.impl context = some session)
    (settled : s.registry.SettledIn session)
    (acceptable : teardown.Acceptable cfg admits s.registry session)
    (returned : rmwContextFini cfg context teardown s = .ok (ret, s')) :
    WritesOnly s s' session := by
  have isContext : (s.contexts context).impl = some session := isImpl
  rw [rmwContextFini_eq_trace] at returned
  obtain ⟨traced, traces, returned⟩ := bind_eq_ok.mp returned
  cases returned
  simp only [contextFiniTrace, isContext] at traces
  obtain ⟨⟨results, emptied⟩, walked, traces⟩ := bind_eq_ok.mp traces
  have writes := (finiNodes_writesOnly healthy sound settled acceptable).of_eq_ok walked
  simp only [deref, ok_bind] at traces
  obtain ⟨ran, received, traces⟩ := bind_eq_ok.mp traces
  cases traces
  refine writes.trans ⟨fun other different => ?_, .of_handles ?_⟩
  · rw [← deliverAll_sessions received]
    simp [Rmw.modifyContext, Rmw.modifySession, rmwUxrceFiniSessionMemory, Rmw.putMemory, different]
  · exact (deliverAll_unaltered received).handles

end RmwMicroxrcedds
