import RmwMicroxrcedds.Refinement.Node
import RmwMicroxrcedds.Refinement.Traversal

/-! # The cascade of `rmw_destroy_node`

Destroying a node destroys every live publisher, subscription, service and client it
owns, and then the node. Whatever the agent confirms, exactly these are removed.
-/

namespace RmwMicroxrcedds

open Outcome Registry

namespace Registry

variable {r r' : Registry} {pool : Pool} {slot node nodeHandle : Nat}
variable {gone doomed : Pool → Nat → Prop}

/-- A live entity of the node. -/
def OwnedBy (r : Registry) (node : Nat) (pool : Pool) (slot : Nat) : Prop :=
  pool.isLeaf = true ∧ (∃ handle, r.Bound pool handle slot) ∧
    (r.entity pool slot).ownerNode = some node

/-- No slot of the node carries the handle of a creation that failed. -/
def Settled (r : Registry) (node : Nat) : Prop :=
  ∀ pool slot handle, pool.isLeaf = true → slot ∈ r.allocated pool →
    (r.entity pool slot).ownerNode = some node →
    (r.entity pool slot).rmwHandle = some handle → r.Bound pool handle slot

/-- A registry on the way of a teardown: some of the doomed entities are gone. -/
def Thinned (r : Registry) (doomed : Pool → Nat → Prop) (r' : Registry) : Prop :=
  ∃ gone, r.Removal r' gone ∧ ∀ pool slot, gone pool slot → doomed pool slot

/-- A registry that has lost nothing is thinned. -/
theorem Thinned.refl (r : Registry) : r.Thinned doomed r :=
  ⟨_, .refl r, fun _ _ => False.elim⟩

theorem ne_topic_of_isLeaf (leaf : pool.isLeaf = true) : pool ≠ .topic := by
  rintro rfl
  cases leaf

theorem ne_node_of_isLeaf (leaf : pool.isLeaf = true) : pool ≠ .node := by
  rintro rfl
  cases leaf

theorem ne_staticBuffer_of_isLeaf (leaf : pool.isLeaf = true) : pool ≠ .staticBuffer := by
  rintro rfl
  cases leaf

/-- An entity that is still there is owned as before. -/
theorem Removal.ownedBy_iff (removal : r.Removal r' gone) (leaf : pool.isLeaf = true)
    (inside : slot ∈ r'.allocated pool) : r'.OwnedBy node pool slot ↔ r.OwnedBy node pool slot := by
  have stays := ((removal.kept (ne_topic_of_isLeaf leaf)).mp inside).2
  simp only [OwnedBy, removal.entity inside, removal.bound, stays, not_false_eq_true, and_true]

/-- A node stays settled when something is taken out. -/
theorem Removal.settled (removal : r.Removal r' gone) (settled : r.Settled node) :
    r'.Settled node := by
  intro pool slot handle leaf inside owner isHandle
  have held := (removal.kept (ne_topic_of_isLeaf leaf)).mp inside
  rw [removal.entity inside] at owner isHandle
  exact removal.bound.mpr ⟨settled pool slot handle leaf held.1 owner isHandle, held.2⟩

/-- The live entities of a node are gone when they were removed. -/
theorem Removal.childless (removal : r.Removal r' gone) (sound : r'.Sound)
    (all : ∀ pool slot, r.OwnedBy node pool slot → gone pool slot) : r'.Childless node := by
  intro pool handle slot leaf bound owner
  have old := removal.bound.mp bound
  have same := removal.entity (sound.placed bound).allocated
  exact old.2 (all pool slot ⟨leaf, ⟨handle, old.1⟩, same ▸ owner⟩)

/-- The result code of the destroy call for one entity, if it is one of the node's: without a
handle the call only fails. -/
def nestedReport (r : Registry) (node : Nat) (pool : Pool) (outcome : Nat → RmwRet)
    (slot : Nat) : Option RmwRet :=
  if (r.entity pool slot).ownerNode = some node then
    some (if (r.entity pool slot).rmwHandle.isSome then outcome slot else .error)
  else none

/-- The result codes of the destroy calls for the node's entities in one pool. -/
def nestedReports (r : Registry) (node : Nat) (pool : Pool) (outcome : Nat → RmwRet) :
    List RmwRet :=
  (r.allocated pool).filterMap (r.nestedReport node pool outcome)

/-- Members on which a partial map is undefined may be left out of a list. -/
theorem filterMap_eq_of_sublist {α β : Type} {choose : α → Option β} {items items' : List α}
    (order : items'.Sublist items) (nodup : items.Nodup)
    (undefined : ∀ item ∈ items, item ∉ items' → choose item = none) :
    items'.filterMap choose = items.filterMap choose := by
  induction order with
  | slnil => rfl
  | cons item order ih =>
      obtain ⟨fresh, nodup⟩ := List.nodup_cons.mp nodup
      have absent : choose item = none :=
        undefined item List.mem_cons_self fun inside => fresh (order.subset inside)
      rw [List.filterMap_cons_none absent]
      exact ih nodup fun other inside => undefined other (List.mem_cons_of_mem _ inside)
  | cons_cons item order ih =>
      obtain ⟨fresh, nodup⟩ := List.nodup_cons.mp nodup
      have same := ih nodup fun other inside outside => by
        refine undefined other (List.mem_cons_of_mem _ inside) fun either => ?_
        rcases List.mem_cons.mp either with rfl | later
        · exact fresh inside
        · exact outside later
      rw [List.filterMap_cons, List.filterMap_cons, same]

/-- As long as nothing of the node is gone from a pool, its destroy calls report the same. -/
theorem Removal.nestedReports {outcome : Nat → RmwRet} (removal : r.Removal r' gone)
    (notTopic : pool ≠ .topic) (nodup : (r.allocated pool).Nodup)
    (still : ∀ slot, gone pool slot → (r.entity pool slot).ownerNode ≠ some node) :
    r'.nestedReports node pool outcome = r.nestedReports node pool outcome := by
  have same : (r'.allocated pool).filterMap (r'.nestedReport node pool outcome) =
      (r'.allocated pool).filterMap (r.nestedReport node pool outcome) := by
    apply List.filterMap_congr
    intro slot inside
    simp only [nestedReport, removal.entity inside]
  unfold Registry.nestedReports
  rw [same]
  apply filterMap_eq_of_sublist (removal.order pool) nodup
  intro slot inside outside
  have isGone : gone pool slot := by
    by_contra stays
    exact outside ((removal.kept notTopic).mpr ⟨inside, stays⟩)
  exact if_neg (still slot isGone)

end Registry

variable {cfg : Config} {admits : Admission} {s s' : Rmw} {pool : Pool} {kind : EndpointKind}
variable {handle slot node nodeHandle session : Nat}

/-- An entity and what belongs to it were removed, and nothing else. -/
structure Removes (cfg : Config) (admits : Admission) (s s' : Rmw) (gone : Pool → Nat → Prop) :
    Prop where
  healthy : s'.Healthy cfg admits
  sound : s'.registry.Sound
  advance : Advance s s'
  removal : s.registry.Removal s'.registry gone

private theorem removes_dropLeaf (healthy : s.Healthy cfg admits) (sound : s.registry.Sound)
    (leaf : pool.isLeaf = true) (bound : s.registry.Bound pool handle slot)
    (healthy' : s'.Healthy cfg admits) (advance : Advance s s')
    (agrees : (s.registry.dropLeaf pool handle slot).Agrees s'.registry) :
    Removes cfg admits s s' fun pool' slot' => pool' = pool ∧ slot' = slot :=
  ⟨healthy', (sound.dropLeaf leaf bound).agrees agrees, advance,
    (sound.removal_dropLeaf (fun _ => healthy.nodup) bound).agrees agrees⟩

/-- `rmw_destroy_publisher` removes the publisher. -/
theorem rmwDestroyPublisher_removes (healthy : s.Healthy cfg admits) (sound : s.registry.Sound)
    {teardown : EntityTeardown} (nodeBound : s.registry.Bound .node nodeHandle node)
    (bound : s.registry.Bound .publisher handle slot)
    (acceptable : ∀ owner session, (s.customPublishers slot).ownerNode = some owner →
      (s.customNodes owner).context = some session →
      teardown.Acceptable cfg admits s.registry session) :
    Yields (rmwDestroyPublisher cfg (some nodeHandle) (some handle) teardown s) fun result =>
      result.1 = teardown.report cfg ∧
        Removes cfg admits s result.2 fun pool slot' => pool = .publisher ∧ slot' = slot := by
  refine (rmwDestroyPublisher_spec healthy sound nodeBound bound acceptable).mono ?_
  rintro result ⟨report, healthy', advance, topic, isTopic, agrees⟩
  have owns : (s.registry.entity .publisher slot).topicOf = some topic := isTopic
  refine ⟨report, removes_dropLeaf healthy sound rfl bound healthy' advance ?_⟩
  rw [dropLeaf_of_topic rfl owns]
  exact agrees

/-- `rmw_destroy_subscription` removes the subscription. -/
theorem rmwDestroySubscription_removes (healthy : s.Healthy cfg admits)
    (sound : s.registry.Sound) {teardown : EntityTeardown}
    (nodeBound : s.registry.Bound .node nodeHandle node)
    (bound : s.registry.Bound .subscription handle slot)
    (acceptable : ∀ owner session, (s.customSubscriptions slot).ownerNode = some owner →
      (s.customNodes owner).context = some session →
      teardown.Acceptable cfg admits s.registry session) :
    Yields (rmwDestroySubscription cfg (some nodeHandle) (some handle) teardown s) fun result =>
      result.1 = teardown.report cfg ∧
        Removes cfg admits s result.2 fun pool slot' => pool = .subscription ∧ slot' = slot := by
  refine (rmwDestroySubscription_spec healthy sound nodeBound bound acceptable).mono ?_
  rintro result ⟨report, healthy', advance, topic, isTopic, agrees⟩
  have owns : (s.registry.entity .subscription slot).topicOf = some topic := isTopic
  refine ⟨report, removes_dropLeaf healthy sound rfl bound healthy' advance ?_⟩
  rw [dropLeaf_of_topic rfl owns]
  exact agrees

/-- `rmw_destroy_service` and `rmw_destroy_client` remove their entity. -/
theorem destroyEndpoint_removes (kind : EndpointKind) (healthy : s.Healthy cfg admits)
    (sound : s.registry.Sound) {exchange : Exchange}
    (nodeBound : s.registry.Bound .node nodeHandle node)
    (bound : s.registry.Bound kind.pool handle slot)
    (acceptable : ∀ session, (s.customNodes node).context = some session →
      exchange.Acceptable cfg admits s.registry session) :
    Yields (destroyEndpoint cfg kind (some nodeHandle) (some handle) exchange s) fun result =>
      result.1 = reportOf (exchange.succeeds cfg) ∧
        Removes cfg admits s result.2 fun pool slot' => pool = kind.pool ∧ slot' = slot := by
  refine (destroyEndpoint_spec healthy sound nodeBound bound acceptable).mono ?_
  rintro result ⟨report, healthy', advance, agrees⟩
  refine ⟨report, removes_dropLeaf healthy sound EndpointKind.isLeaf bound healthy' advance ?_⟩
  rw [dropLeaf_of_not EndpointKind.hasTopic]
  exact agrees

/-- Without a handle the checks of the destroy functions fail. -/
theorem checkDestroyed_of_null (healthy : s.Healthy cfg admits)
    (nodeBound : s.registry.Bound .node nodeHandle node) :
    checkDestroyed pool (some nodeHandle) none s = .ok none := by
  obtain ⟨contents, _, isData, isRead, named⟩ := healthy.block_of_data nodeBound
  simp only [checkDestroyed, isRead, ok_bind, named, isData]

/-- A loop body that destroys the item it is at when the node owns it. -/
theorem ownedItem_spec (destroy : Option Nat → Rmw → Exec (RmwRet × Rmw))
    {outcome : Nat → RmwRet}
    (healthy : s.Healthy cfg admits) (sound : s.registry.Sound) (leaf : pool.isLeaf = true)
    (settled : s.registry.Settled node) (inside : slot ∈ s.registry.allocated pool)
    (null : destroy none s = .ok (.error, s))
    (live : ∀ handle, s.registry.Bound pool handle slot →
      (s.registry.entity pool slot).ownerNode = some node →
      Yields (destroy (some handle) s) fun result => result.1 = outcome slot ∧
        Removes cfg admits s result.2 fun pool' slot' => pool' = pool ∧ slot' = slot) :
    Yields (if (s.registry.entity pool slot).ownerNode = some node then do
        let (ret, s) ← destroy (s.registry.entity pool slot).rmwHandle s
        .ok (some ret, s)
      else .ok (none, s) : Exec (Option RmwRet × Rmw)) fun result =>
      result.1 = s.registry.nestedReport node pool outcome slot ∧
        Removes cfg admits s result.2 fun pool' slot' =>
          pool' = pool ∧ slot' = slot ∧ s.registry.OwnedBy node pool slot := by
  have nothing : ¬ s.registry.OwnedBy node pool slot → Removes cfg admits s s fun pool' slot' =>
      pool' = pool ∧ slot' = slot ∧ s.registry.OwnedBy node pool slot := fun free =>
    ⟨healthy, sound, .refl s, (Removal.refl _).congr fun _ _ =>
      ⟨fun absurd => free absurd.2.2, False.elim⟩⟩
  split
  · rename_i owner
    simp only [nestedReport, owner, ↓reduceIte]
    cases isHandle : (s.registry.entity pool slot).rmwHandle with
    | none =>
        simp only [null, ok_bind, yields_ok]
        refine ⟨rfl, nothing ?_⟩
        rintro ⟨-, ⟨handle, bound⟩, -⟩
        rw [(sound.placed bound).handle] at isHandle
        cases isHandle
    | some handle =>
        have bound := settled pool slot handle leaf inside owner isHandle
        refine (live handle bound owner).bind fun result removes => yields_ok.mpr ?_
        obtain ⟨isOutcome, removes⟩ := removes
        refine ⟨congrArg some isOutcome, removes.healthy, removes.sound, removes.advance,
          removes.removal.congr ?_⟩
        intro pool' slot'
        constructor
        · rintro ⟨rfl, rfl, -⟩
          exact ⟨rfl, rfl⟩
        · rintro ⟨rfl, rfl⟩
          exact ⟨rfl, rfl, leaf, ⟨handle, bound⟩, owner⟩
  · rename_i other
    simp only [nestedReport, other, ↓reduceIte]
    exact yields_ok.mpr ⟨rfl, nothing fun owned => other owned.2.2⟩

/-- The messages that arrive while a node is destroyed may be stored, whichever of its
entities are gone by then. -/
structure NodeTeardown.Acceptable (cfg : Config) (admits : Admission) (r : Registry)
    (node session : Nat) (teardown : NodeTeardown) : Prop where
  publisher : ∀ r' slot, r.Thinned (r.OwnedBy node) r' →
    (teardown.publisher slot).Acceptable cfg admits r' session
  subscription : ∀ r' slot, r.Thinned (r.OwnedBy node) r' →
    (teardown.subscription slot).Acceptable cfg admits r' session
  service : ∀ r' slot, r.Thinned (r.OwnedBy node) r' →
    (teardown.service slot).Acceptable cfg admits r' session
  client : ∀ r' slot, r.Thinned (r.OwnedBy node) r' →
    (teardown.client slot).Acceptable cfg admits r' session
  participant : ∀ r', r.Thinned (r.OwnedBy node) r' →
    teardown.participant.Acceptable cfg admits r' session

/-- What is acceptable stays so when more is admitted. -/
theorem NodeTeardown.Acceptable.mono {r : Registry} {teardown : NodeTeardown}
    {admits' : Admission} (acceptable : teardown.Acceptable cfg admits r node session)
    (within : admits.Within admits') : teardown.Acceptable cfg admits' r node session where
  publisher := fun r' slot thinned => (acceptable.publisher r' slot thinned).mono within
  subscription := fun r' slot thinned => (acceptable.subscription r' slot thinned).mono within
  service := fun r' slot thinned => (acceptable.service r' slot thinned).mono within
  client := fun r' slot thinned => (acceptable.client r' slot thinned).mono within
  participant := fun r' thinned => (acceptable.participant r' thinned).mono within

/-- No message arrives while the node is destroyed. -/
structure NodeTeardown.Quiet (teardown : NodeTeardown) : Prop where
  publisher : ∀ slot, (teardown.publisher slot).Quiet := by exact fun _ => {}
  subscription : ∀ slot, (teardown.subscription slot).Quiet := by exact fun _ => {}
  service : ∀ slot, (teardown.service slot).deliveries = [] := by exact fun _ => rfl
  client : ∀ slot, (teardown.client slot).deliveries = [] := by exact fun _ => rfl
  participant : teardown.participant.deliveries = [] := by rfl

/-- A teardown during which nothing arrives is acceptable. -/
theorem NodeTeardown.Quiet.acceptable {r : Registry} {teardown : NodeTeardown}
    (quiet : teardown.Quiet) : teardown.Acceptable cfg admits r node session where
  publisher := fun _ slot _ => (quiet.publisher slot).acceptable
  subscription := fun _ slot _ => (quiet.subscription slot).acceptable
  service := fun _ slot _ => Exchange.acceptable_of_quiet (quiet.service slot)
  client := fun _ slot _ => Exchange.acceptable_of_quiet (quiet.client slot)
  participant := fun _ _ => Exchange.acceptable_of_quiet quiet.participant

/-- The cascade after some of its loops: the live entities of the node are gone from the
pools done so far, and nothing else. -/
abbrev Cascade (cfg : Config) (admits : Admission) (s : Rmw) (node : Nat) (done : Pool → Prop)
    (s' : Rmw) : Prop :=
  Removes cfg admits s s' fun pool slot => done pool ∧ s.registry.OwnedBy node pool slot

/-- The node of the cascade is still there. -/
theorem Removes.node_bound {gone : Pool → Nat → Prop} (removes : Removes cfg admits s s' gone)
    (leaves : ∀ pool slot, gone pool slot → pool.isLeaf = true)
    (nodeBound : s.registry.Bound .node nodeHandle node) :
    s'.registry.Bound .node nodeHandle node ∧
      (s'.customNodes node).context = (s.customNodes node).context := by
  have bound : s'.registry.Bound .node nodeHandle node :=
    removes.removal.bound.mpr ⟨nodeBound, fun isGone => by cases leaves _ _ isGone⟩
  have same : s'.registry.entity .node node = s.registry.entity .node node :=
    removes.removal.entity (removes.sound.placed bound).allocated
  exact ⟨bound, by rw [Entity.node.inj same]⟩

/-- A state that the cascade passes through: the node is where it was, and entities of the node
are all that is gone. -/
structure Midway (cfg : Config) (admits : Admission) (s : Rmw)
    (nodeHandle node session : Nat) (s' : Rmw) : Prop where
  healthy : s'.Healthy cfg admits
  sound : s'.registry.Sound
  settled : s'.registry.Settled node
  bound : s'.registry.Bound .node nodeHandle node
  context : (s'.customNodes node).context = some session
  thinned : s.registry.Thinned (s.registry.OwnedBy node) s'.registry

/-- A loop that took entities of the node out leaves the teardown midway. -/
theorem Midway.of_removes {gone : Pool → Nat → Prop}
    (removes : Removes cfg admits s s' gone)
    (owned : ∀ pool slot, gone pool slot → s.registry.OwnedBy node pool slot)
    (settled : s.registry.Settled node) (nodeBound : s.registry.Bound .node nodeHandle node)
    (context : (s.customNodes node).context = some session) :
    Midway cfg admits s nodeHandle node session s' := by
  obtain ⟨bound, same⟩ := removes.node_bound (fun _ _ isGone => (owned _ _ isGone).1) nodeBound
  exact ⟨removes.healthy, removes.sound, removes.removal.settled settled, bound,
    same.trans context, gone, removes.removal, owned⟩

/-- A loop over one more pool. -/
private theorem cascadeLoop_spec (pool : Pool) {done : Pool → Prop} (outcome : Nat → RmwRet)
    {body : Nat → Rmw → Exec (Option RmwRet × Rmw)} (leaf : pool.isLeaf = true)
    (nodup : (s.registry.allocated pool).Nodup) (cascade : Cascade cfg admits s node done s')
    (later : ¬ done pool) (settled : s.registry.Settled node)
    (nodeBound : s.registry.Bound .node nodeHandle node)
    (context : (s.customNodes node).context = some session)
    (step : ∀ item s'', Midway cfg admits s nodeHandle node session s'' →
      item ∈ s''.registry.allocated pool → Yields (body item s'') fun result =>
        result.1 = s''.registry.nestedReport node pool outcome item ∧
          Removes cfg admits s'' result.2 fun pool' slot' =>
            pool' = pool ∧ slot' = item ∧ s''.registry.OwnedBy node pool item) :
    Yields (s'.traceAllocated pool body) fun result =>
      result.1 = s.registry.nestedReports node pool outcome ∧
        Cascade cfg admits s node (fun pool' => done pool' ∨ pool' = pool) result.2 := by
  have whole : s'.registry.nestedReports node pool outcome =
      s.registry.nestedReports node pool outcome :=
    cascade.removal.nestedReports (ne_topic_of_isLeaf leaf) nodup
      fun slot isGone => absurd isGone.1 later
  refine (sweep_spec (fun item pool' slot' =>
      pool' = pool ∧ slot' = item ∧ s.registry.OwnedBy node pool item)
    (s'.registry.nestedReport node pool outcome) (ne_staticBuffer_of_isLeaf leaf)
    (ne_topic_of_isLeaf leaf) cascade.healthy cascade.sound
    (fun item slot goes => goes.2.1) ?_).mono ?_
  · intro item rest s'' _ sweep
    have sofar : Removes cfg admits s s'' _ := ⟨sweep.healthy, sweep.sound,
      cascade.advance.trans sweep.advance, cascade.removal.trans sweep.removal⟩
    have inside : item ∈ s''.registry.allocated pool := by
      rw [Rmw.registry_allocated (ne_staticBuffer_of_isLeaf leaf)]
      exact sweep.suffix.subset List.mem_cons_self
    have midway : Midway cfg admits s nodeHandle node session s'' := by
      refine .of_removes sofar (fun pool' slot' isGone => ?_) settled nodeBound context
      obtain early | ⟨other, -, -, rfl, rfl, owned⟩ := isGone
      · exact early.2
      · exact owned
    refine (step item s'' midway inside).mono fun result post => ?_
    obtain ⟨isReport, removes⟩ := post
    refine ⟨?_, removes.healthy, removes.sound, removes.advance,
      removes.removal.congr fun pool' slot' => ?_⟩
    · rw [isReport]
      simp only [nestedReport, sweep.removal.entity inside]
    · rw [sofar.removal.ownedBy_iff leaf inside]
  · intro result swept
    obtain ⟨isReports, healthy, sound, advance, removal⟩ := swept
    rw [← Rmw.registry_allocated (ne_staticBuffer_of_isLeaf leaf)] at isReports
    refine ⟨isReports.trans whole, healthy, sound, cascade.advance.trans advance,
      (cascade.removal.trans removal).congr fun pool' slot' => ?_⟩
    constructor
    · rintro ⟨early | rfl, owned⟩
      · exact Or.inl ⟨early, owned⟩
      · by_cases early : done pool'
        · exact Or.inl ⟨early, owned⟩
        · refine Or.inr ⟨slot', (cascade.removal.kept (ne_topic_of_isLeaf leaf)).mpr
            ⟨?_, fun isGone => early isGone.1⟩, rfl, rfl, owned⟩
          obtain ⟨handle, bound⟩ := owned.2.1
          have kept := cascade.removal.bound.mpr ⟨bound, fun isGone => early isGone.1⟩
          exact (cascade.removal.order _).subset (cascade.sound.placed kept).allocated
    · rintro (⟨early, owned⟩ | ⟨item, -, rfl, rfl, owned⟩)
      · exact ⟨Or.inl early, owned⟩
      · exact ⟨Or.inr rfl, owned⟩

/-- The end of the cascade: the participant and the node. -/
private theorem destroyEmptied_spec {done : Pool → Prop} {exchange : Exchange}
    {results : List RmwRet}
    (cascade : Cascade cfg admits s node done s') (all : ∀ pool, pool.isLeaf = true → done pool)
    (bound : s'.registry.Bound .node nodeHandle node)
    (context : (s'.customNodes node).context = some session)
    (acceptable : exchange.Acceptable cfg admits s'.registry session) :
    Yields (do
        let context ← deref (s'.customNodes node).context
        let (_, s') := s'.uxrBuffer context
          (.deleteEntity (s'.customNodes node).participantId) exchange.room
        let (confirmed, s') ← runXrceSession cfg context exchange s'
        let s' ← rmwUxrceFiniNodeMemory nodeHandle s'
        .ok ((results, confirmed), s') : Exec ((List RmwRet × Bool) × Rmw)) fun traced =>
      traced.1 = (results, exchange.succeeds cfg) ∧
        Removes cfg admits s traced.2 fun pool slot =>
          s.registry.OwnedBy node pool slot ∨ pool = .node ∧ slot = node := by
  simp only [context, deref, ok_bind]
  refine (requestExchange_spec cascade.healthy _ acceptable rfl).bind ?_
  rintro ⟨confirmed, ran⟩ ⟨isConfirmed, ranHealthy, ranRegistry, ranAdvance, -⟩
  refine (rmwUxrceFiniNodeMemory_spec ranHealthy (ranRegistry ▸ bound)
    (ranRegistry ▸ (cascade.sound.placed bound).allocated)).bind ?_
  rintro last ⟨lastHealthy, sessions, agrees⟩
  rw [ranRegistry] at agrees
  have childless : s'.registry.Childless node := cascade.removal.childless cascade.sound
    fun pool slot owned => ⟨all pool owned.1, owned⟩
  have dropped : (s'.registry.dropEntity .node nodeHandle node).Sound :=
    cascade.sound.dropEntity bound rfl fun other _ otherBound =>
      otherBound.slot_unique bound ▸ childless
  have single := cascade.sound.removal_dropEntity cascade.healthy.nodup bound rfl
  refine yields_ok.mpr ⟨congrArg (results, ·) isConfirmed, lastHealthy, dropped.agrees agrees,
    ?_, ?_⟩
  · exact (cascade.advance.trans ranAdvance).trans (.of_sessions sessions)
  · refine ((cascade.removal.trans single).agrees agrees).congr fun pool slot => ?_
    exact or_congr_left ⟨fun owned => ⟨all pool owned.1, owned⟩, And.right⟩

/-- The cascade of `rmw_destroy_node`, with the result of every nested destroy call and
whether the deletion of the participant was confirmed. -/
def destroyNodeTrace (cfg : Config) (node customNode : Nat) (teardown : NodeTeardown) (s : Rmw) :
    Exec ((List RmwRet × Bool) × Rmw) := do
  let (publishers, s) ← s.traceAllocated .publisher
    (destroyOwnedPublisher cfg node customNode teardown)
  let (subscriptions, s) ← s.traceAllocated .subscription
    (destroyOwnedSubscription cfg node customNode teardown)
  let (services, s) ← s.traceAllocated .service
    (destroyOwnedEndpoint cfg .service node customNode teardown.service)
  let (clients, s) ← s.traceAllocated .client
    (destroyOwnedEndpoint cfg .client node customNode teardown.client)
  let context ← deref (s.customNodes customNode).context
  let (_, s) := s.uxrBuffer context
    (.deleteEntity (s.customNodes customNode).participantId) teardown.participant.room
  let (confirmed, s) ← runXrceSession cfg context teardown.participant s
  let s ← rmwUxrceFiniNodeMemory node s
  .ok ((publishers ++ subscriptions ++ services ++ clients, confirmed), s)

/-- What is left of the results of the nested calls: the last one, unless the participant
timed out. -/
def keptOf (results : List RmwRet) (confirmed : Bool) : RmwRet :=
  if confirmed then results.getLastD .ok else .timeout

/-- The last code of two walks is that of the second, if it has one. -/
theorem getLastD_append (front back : List RmwRet) (ret : RmwRet) :
    (front ++ back).getLastD ret = back.getLastD (front.getLastD ret) := by
  simp only [List.getLastD_eq_getLast?, List.getLast?_append]
  cases back.getLast? <;> rfl

/-- `rmw_destroy_node` returns what is left of the results of its cascade. -/
theorem rmwDestroyNode_eq_trace {teardown : NodeTeardown} (healthy : s.Healthy cfg admits)
    (nodeBound : s.registry.Bound .node nodeHandle node) :
    rmwDestroyNode cfg (some nodeHandle) teardown s =
      destroyNodeTrace cfg nodeHandle node teardown s >>= fun traced =>
        .ok (keptOf traced.1.1 traced.1.2, traced.2) := by
  obtain ⟨contents, _, isData, isRead, named⟩ := healthy.block_of_data nodeBound
  simp only [rmwDestroyNode, isRead, ok_bind, named, isData, destroyNodeTrace, bind_assoc,
    forEachAllocated_eq_trace, keptOf, getLastD_append]

/-- The results of the destroy calls for all entities of a node, in the order of the calls. -/
def NodeTeardown.reports (cfg : Config) (r : Registry) (teardown : NodeTeardown) (node : Nat) :
    List RmwRet :=
  r.nestedReports node .publisher (fun slot => (teardown.publisher slot).report cfg) ++
  r.nestedReports node .subscription (fun slot => (teardown.subscription slot).report cfg) ++
  r.nestedReports node .service (fun slot => reportOf ((teardown.service slot).succeeds cfg)) ++
  r.nestedReports node .client (fun slot => reportOf ((teardown.client slot).succeeds cfg))

/-- What is left of them when `rmw_destroy_node` returns. -/
def NodeTeardown.kept (cfg : Config) (r : Registry) (teardown : NodeTeardown) (node : Nat) :
    RmwRet :=
  keptOf (teardown.reports cfg r node) (teardown.participant.succeeds cfg)

section

variable {teardown : NodeTeardown} {item : Nat}
  (midway : Midway cfg admits s nodeHandle node session s')

include midway

/-- The body of the loop over the publishers. -/
theorem destroyOwnedPublisher_spec
    (acceptable : teardown.Acceptable cfg admits s.registry node session)
    (inside : item ∈ s'.registry.allocated .publisher) :
    Yields (destroyOwnedPublisher cfg nodeHandle node teardown item s') fun result =>
      result.1 = s'.registry.nestedReport node .publisher
          (fun item => (teardown.publisher item).report cfg) item ∧
        Removes cfg admits s' result.2 fun pool slot =>
          pool = .publisher ∧ slot = item ∧ s'.registry.OwnedBy node .publisher item := by
  refine ownedItem_spec (fun handle => rmwDestroyPublisher cfg (some nodeHandle) handle
    (teardown.publisher item)) midway.healthy midway.sound rfl midway.settled inside ?_
    fun handle isBound owner => ?_
  · simp [rmwDestroyPublisher, checkDestroyed_of_null midway.healthy midway.bound]
  · refine rmwDestroyPublisher_removes midway.healthy midway.sound midway.bound isBound ?_
    intro other session' isOwner isSession
    obtain rfl : node = other := Option.some.inj (owner.symm.trans isOwner)
    obtain rfl : session = session' := Option.some.inj (midway.context.symm.trans isSession)
    exact acceptable.publisher _ _ midway.thinned

/-- The body of the loop over the subscriptions. -/
theorem destroyOwnedSubscription_spec
    (acceptable : teardown.Acceptable cfg admits s.registry node session)
    (inside : item ∈ s'.registry.allocated .subscription) :
    Yields (destroyOwnedSubscription cfg nodeHandle node teardown item s') fun result =>
      result.1 = s'.registry.nestedReport node .subscription
          (fun item => (teardown.subscription item).report cfg) item ∧
        Removes cfg admits s' result.2 fun pool slot =>
          pool = .subscription ∧ slot = item ∧ s'.registry.OwnedBy node .subscription item := by
  refine ownedItem_spec (fun handle => rmwDestroySubscription cfg (some nodeHandle) handle
    (teardown.subscription item)) midway.healthy midway.sound rfl midway.settled inside ?_
    fun handle isBound owner => ?_
  · simp [rmwDestroySubscription, checkDestroyed_of_null midway.healthy midway.bound]
  · refine rmwDestroySubscription_removes midway.healthy midway.sound midway.bound isBound ?_
    intro other session' isOwner isSession
    obtain rfl : node = other := Option.some.inj (owner.symm.trans isOwner)
    obtain rfl : session = session' := Option.some.inj (midway.context.symm.trans isSession)
    exact acceptable.subscription _ _ midway.thinned

/-- The body of the loops over the services and the clients. -/
theorem destroyOwnedEndpoint_spec (kind : EndpointKind) {exchanges : Nat → Exchange}
    (acceptable : (exchanges item).Acceptable cfg admits s'.registry session)
    (inside : item ∈ s'.registry.allocated kind.pool) :
    Yields (destroyOwnedEndpoint cfg kind nodeHandle node exchanges item s') fun result =>
      result.1 = s'.registry.nestedReport node kind.pool
          (fun item => reportOf ((exchanges item).succeeds cfg)) item ∧
        Removes cfg admits s' result.2 fun pool slot =>
          pool = kind.pool ∧ slot = item ∧ s'.registry.OwnedBy node kind.pool item := by
  have entity : s'.registry.entity kind.pool item = .endpoint (s'.customEndpoint kind item) :=
    Rmw.entity_endpoint
  have isOwner : (s'.customEndpoint kind item).ownerNode =
      (s'.registry.entity kind.pool item).ownerNode := by rw [entity]; rfl
  have isHandle : (s'.customEndpoint kind item).rmwHandle =
      (s'.registry.entity kind.pool item).rmwHandle := by rw [entity]; rfl
  rw [destroyOwnedEndpoint, isOwner, isHandle]
  refine ownedItem_spec (fun handle => destroyEndpoint cfg kind (some nodeHandle) handle
    (exchanges item)) midway.healthy midway.sound kind.isLeaf midway.settled inside ?_
    fun handle isBound owner => ?_
  · simp [destroyEndpoint, checkDestroyed_of_null midway.healthy midway.bound]
  · refine destroyEndpoint_removes kind midway.healthy midway.sound midway.bound isBound ?_
    intro session' isSession
    obtain rfl : session = session' := Option.some.inj (midway.context.symm.trans isSession)
    exact acceptable

end

/-- On a live node the cascade removes the node and its live entities, with their topics,
and nothing else, whatever the agent confirms. -/
theorem destroyNodeTrace_spec (healthy : s.Healthy cfg admits) (sound : s.registry.Sound)
    {teardown : NodeTeardown} (nodeBound : s.registry.Bound .node nodeHandle node)
    (settled : s.registry.Settled node) (context : (s.customNodes node).context = some session)
    (acceptable : teardown.Acceptable cfg admits s.registry node session) :
    Yields (destroyNodeTrace cfg nodeHandle node teardown s) fun traced =>
      traced.1 = (teardown.reports cfg s.registry node, teardown.participant.succeeds cfg) ∧
        Removes cfg admits s traced.2 fun pool slot =>
          s.registry.OwnedBy node pool slot ∨ pool = .node ∧ slot = node := by
  simp only [destroyNodeTrace]
  have start : Cascade cfg admits s node (fun _ => False) s :=
    ⟨healthy, sound, .refl s, (Removal.refl _).congr fun _ _ => ⟨And.left, False.elim⟩⟩
  refine (cascadeLoop_spec .publisher
    (fun item => (teardown.publisher item).report cfg) rfl healthy.nodup start
    (by simp) settled nodeBound context
    fun item s' midway inside => destroyOwnedPublisher_spec midway acceptable inside).bind ?_
  rintro ⟨results₁, s₁⟩ ⟨isResults₁, cascade₁⟩
  refine (cascadeLoop_spec .subscription
    (fun item => (teardown.subscription item).report cfg) rfl healthy.nodup cascade₁
    (by simp) settled nodeBound context
    fun item s' midway inside => destroyOwnedSubscription_spec midway acceptable inside).bind ?_
  rintro ⟨results₂, s₂⟩ ⟨isResults₂, cascade₂⟩
  refine (cascadeLoop_spec .service
    (fun item => reportOf ((teardown.service item).succeeds cfg)) rfl healthy.nodup cascade₂
    (by simp) settled nodeBound context fun item s' midway inside =>
      destroyOwnedEndpoint_spec midway .service
        (acceptable.service _ _ midway.thinned) inside).bind ?_
  rintro ⟨results₃, s₃⟩ ⟨isResults₃, cascade₃⟩
  refine (cascadeLoop_spec .client
    (fun item => reportOf ((teardown.client item).succeeds cfg)) rfl healthy.nodup cascade₃
    (by simp) settled nodeBound context fun item s' midway inside =>
      destroyOwnedEndpoint_spec midway .client
        (acceptable.client _ _ midway.thinned) inside).bind ?_
  rintro ⟨results₄, s₄⟩ ⟨isResults₄, cascade₄⟩
  have midway : Midway cfg admits s nodeHandle node session s₄ :=
    .of_removes cascade₄ (fun _ _ isGone => isGone.2) settled nodeBound context
  have results : results₁ ++ results₂ ++ results₃ ++ results₄ =
      teardown.reports cfg s.registry node := by
    simp only at isResults₁ isResults₂ isResults₃ isResults₄
    rw [isResults₁, isResults₂, isResults₃, isResults₄]
    rfl
  rw [results]
  refine destroyEmptied_spec cascade₄ (fun pool leaf => ?_) midway.bound midway.context
    (acceptable.participant _ midway.thinned)
  revert leaf
  cases pool <;> simp [Pool.isLeaf]

/-- What `rmw_destroy_node` returns and removes. -/
theorem rmwDestroyNode_spec (healthy : s.Healthy cfg admits) (sound : s.registry.Sound)
    {teardown : NodeTeardown} (nodeBound : s.registry.Bound .node nodeHandle node)
    (settled : s.registry.Settled node) (context : (s.customNodes node).context = some session)
    (acceptable : teardown.Acceptable cfg admits s.registry node session) :
    Yields (rmwDestroyNode cfg (some nodeHandle) teardown s) fun result =>
      result.1 = teardown.kept cfg s.registry node ∧
        Removes cfg admits s result.2 fun pool slot =>
          s.registry.OwnedBy node pool slot ∨ pool = .node ∧ slot = node := by
  rw [rmwDestroyNode_eq_trace healthy nodeBound]
  apply (destroyNodeTrace_spec healthy sound nodeBound settled context acceptable).bind
  intro traced post
  obtain ⟨isTraced, removes⟩ := post
  refine yields_ok.mpr ⟨?_, removes⟩
  rw [isTraced]
  rfl

/-- `rmw_destroy_node` on a live node removes the node and its live entities, with their
topics, and nothing else, whatever the agent confirms. -/
theorem rmwDestroyNode_removes (healthy : s.Healthy cfg admits) (sound : s.registry.Sound)
    {teardown : NodeTeardown} (nodeBound : s.registry.Bound .node nodeHandle node)
    (settled : s.registry.Settled node) (context : (s.customNodes node).context = some session)
    (acceptable : teardown.Acceptable cfg admits s.registry node session) :
    Yields (rmwDestroyNode cfg (some nodeHandle) teardown s) fun result =>
      Removes cfg admits s result.2 fun pool slot =>
        s.registry.OwnedBy node pool slot ∨ pool = .node ∧ slot = node :=
  (rmwDestroyNode_spec healthy sound nodeBound settled context acceptable).mono
    fun _ post => post.2

end RmwMicroxrcedds
