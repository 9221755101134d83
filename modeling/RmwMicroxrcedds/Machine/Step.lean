import RmwMicroxrcedds.Machine.Change

/-! # One operation

An operation that is enabled, and safe, returns; it keeps the state healthy and the
registry sound, and changes the registry in one of the ways `Change` lists.
-/

namespace RmwMicroxrcedds

open Outcome Registry

variable {cfg : Config} {admits : Admission} {w w' : World} {s' : Rmw} {pool : Pool}
variable {handle slot node nodeHandle session context : Nat} {room : Bool}

/-- A live handle designates a slot. -/
theorem World.Live.bound (live : w.Live pool handle) (sound : w.rmw.registry.Sound) :
    ∃ slot, w.rmw.registry.Bound pool handle slot := by
  obtain ⟨contents, isBlock⟩ := Option.isSome_iff_exists.mp live.2
  have isData : w.rmw.registry.data pool handle = some contents.data := by
    simp [Rmw.registry, isBlock]
  cases data : contents.data with
  | none =>
      rw [data] at isData
      exact absurd isData sound.filled
  | some slot => exact ⟨slot, by rw [Bound, isData, data]⟩

/-- What is kept, and what is changed, by an operation that returns. -/
def Steps (cfg : Config) (admits : Admission) (op : Op) (w w' : World) : Prop :=
  w'.rmw.Healthy cfg admits ∧ w'.rmw.registry.Sound ∧
    Change cfg op.room (op.leaks cfg w.rmw) (op.gone w.rmw.registry) w w'

/-- The creation of an entity of a node, by the way it ends. -/
theorem Creation.change {exit : CreateExit} {result : Option Nat}
    {gone : Pool → Nat → Prop} (creation : Creation w.rmw s' room pool node session result exit)
    (leaf : pool.isLeaf = true) (sound : w.rmw.registry.Sound)
    (nodeBound : w.rmw.registry.Bound .node nodeHandle node)
    (context : (w.rmw.customNodes node).context = some session) (advance : Advance w.rmw s') :
    s'.registry.Sound ∧
      Change cfg room (exit.leaks pool) gone w (w.creating pool (result, s')) := by
  have unreturned : result = none →
      (w.creating pool (result, s')).returned = w.returned := by
    rintro rfl
    simp [World.creating]
  have notTopic := ne_topic_of_isLeaf leaf
  cases exit with
  | refused =>
      obtain ⟨null, agrees⟩ := creation
      exact ⟨sound.agrees agrees, .idle agrees advance (unreturned null) rfl⟩
  | leaked =>
      obtain ⟨null, slot, entity, free, agrees⟩ := creation
      have grown := ((Grown.refl w.rmw.registry [pool]).addSlot free
        (by simp)).agrees agrees
      exact ⟨sound.grown grown, .leaked grown (by simp [CreateExit.leaks]) advance
        (unreturned null) rfl⟩
  | topicless =>
      obtain ⟨null, slot, entity, free, -, agrees⟩ := creation
      have grown := ((Grown.refl w.rmw.registry [pool]).addSlot free
        (by simp)).agrees agrees
      exact ⟨sound.grown grown, .leaked grown (by simp [CreateExit.leaks]) advance
        (unreturned null) rfl⟩
  | topicLeaked =>
      obtain ⟨null, topic, entity, free, agrees⟩ := creation
      have grown := ((Grown.refl w.rmw.registry [.topic]).addSlot free
        (by simp)).agrees agrees
      exact ⟨sound.grown grown, .leaked grown (by simp [CreateExit.leaks]) advance
        (unreturned null) rfl⟩
  | bothLeaked =>
      obtain ⟨null, topic, topicEntity, slot, entity, topicFree, free, agrees⟩ := creation
      have free' : slot ∉ (w.rmw.registry.addSlot .topic topic topicEntity).allocated pool := by
        simpa [addSlot, notTopic] using free
      have grown := (((Grown.refl w.rmw.registry [.topic, pool]).addSlot
        topicFree (by simp)).addSlot free' (by simp)).agrees agrees
      exact ⟨sound.grown grown, .leaked grown (by simp [CreateExit.leaks]) advance
        (unreturned null) rfl⟩
  | created =>
      obtain ⟨handle, slot, entity, rfl, new, rest⟩ := creation
      have withTopic : ∃ base, WithTopic w.rmw s' pool node session entity base ∧
          (base.addEntity pool handle slot entity).Agrees s'.registry := by
        simp only [WithTopic]
        split at rest
        · rename_i topics
          obtain ⟨topic, topicEntity, newTopic, isTopic, agrees⟩ := rest
          simp only [topics, ↓reduceIte]
          exact ⟨_, ⟨topic, topicEntity, newTopic, isTopic, rfl⟩, agrees⟩
        · rename_i topics
          simp only [topics, Bool.false_eq_true, ↓reduceIte]
          exact ⟨_, rfl, rest⟩
      obtain ⟨base, withTopic, agrees⟩ := withTopic
      obtain ⟨baseSound, grown, topics⟩ := withTopic.base sound
      have free : slot ∉ base.allocated pool := by
        rw [grown.others (by simpa using notTopic)]
        exact new.free
      have fresh : base.data pool handle = none := by
        rw [grown.data]
        exact new.fresh
      have nodeBound' : base.Bound .node nodeHandle node := by
        rw [Bound, grown.data]
        exact nodeBound
      refine ⟨(baseSound.addLeaf leaf free fresh new.handle new.owner new.typed nodeBound'
        topics).agrees agrees, ?_⟩
      refine .leaf pool node nodeHandle session handle slot entity base leaf new nodeBound context
        withTopic agrees advance ?_ rfl
      simp [World.creating]
  | doubleReleased => exact creation.elim
  | crashed => exact creation.elim
  | unreturned => exact creation.elim

/-- The creation of a node, by the way it ends. -/
theorem NodeCreation.change {exit : CreateExit} {result : Option Nat}
    {gone : Pool → Nat → Prop} (creation : NodeCreation w.rmw s' session result exit)
    (sound : w.rmw.registry.Sound) (inside : session ∈ w.rmw.registry.allocated .session)
    (advance : Advance w.rmw s') :
    s'.registry.Sound ∧
      Change cfg room (exit.leaks .node) gone w (w.creating .node (result, s')) := by
  have unreturned : result = none →
      (w.creating .node (result, s')).returned = w.returned := by
    rintro rfl
    simp [World.creating]
  have added : ∀ {handle slot entity}, NewNode w.rmw s' session handle slot entity →
      (w.rmw.registry.addEntity .node handle slot (.node entity)).Agrees s'.registry →
      s'.registry.Sound := fun new agrees =>
    (sound.addNode new.free new.fresh new.handle new.context inside).agrees agrees
  cases exit with
  | refused =>
      obtain ⟨null, agrees⟩ := creation
      exact ⟨sound.agrees agrees, .idle agrees advance (unreturned null) rfl⟩
  | leaked =>
      obtain ⟨null, slot, entity, free, agrees⟩ := creation
      have grown := ((Grown.refl w.rmw.registry [.node]).addSlot free (by simp)).agrees agrees
      exact ⟨sound.grown grown, .leaked grown (by simp [CreateExit.leaks]) advance
        (unreturned null) rfl⟩
  | unreturned =>
      obtain ⟨null, handle, slot, entity, new, agrees⟩ := creation
      exact ⟨added new agrees, .node session handle slot entity new inside agrees advance
        (Or.inl ⟨by simp [CreateExit.leaks], unreturned null⟩) rfl⟩
  | created =>
      obtain ⟨handle, slot, entity, rfl, new, agrees⟩ := creation
      refine ⟨added new agrees, .node session handle slot entity new inside agrees advance
        (Or.inr ?_) rfl⟩
      simp [World.creating]
  | topicless => exact creation.elim
  | topicLeaked => exact creation.elim
  | bothLeaked => exact creation.elim
  | doubleReleased => exact creation.elim
  | crashed => exact creation.elim

/-- The node a creation is asked for, if any, is a live one of an allocated session. -/
theorem World.node_of_live (sound : w.rmw.registry.Sound) (live : w.Live .node nodeHandle) :
    ∃ node session, w.rmw.registry.Bound .node nodeHandle node ∧
      (w.rmw.customNodes node).context = some session ∧
      w.rmw.sessionOf (some nodeHandle) = some session := by
  obtain ⟨node, bound⟩ := live.bound sound
  obtain ⟨session, context, -⟩ := (sound.placed bound).sited rfl
  refine ⟨node, session, bound, context, ?_⟩
  have isSlot : w.rmw.registry.data .node nodeHandle = some (some node) := bound
  have isContext : (w.rmw.customNodes node).context = some session := context
  simp [Rmw.sessionOf, Rmw.nodeOf, isSlot, isContext]

/-- `rmw_create_publisher` on a live node. -/
theorem PublisherCall.creation_of_live {call : PublisherCall} (healthy : w.rmw.Healthy cfg admits)
    (sound : w.rmw.registry.Sound) (asked : (Op.createPublisher call).Asked w)
    (acceptable : (Op.createPublisher call).Acceptable cfg admits w.rmw)
    (safe : Safe cfg w (.createPublisher call)) (isNode : call.node = some nodeHandle) :
    ∃ node session, w.rmw.registry.Bound .node nodeHandle node ∧
      (w.rmw.customNodes node).context = some session ∧
      Yields (rmwCreatePublisher cfg call w.rmw) fun result =>
        result.2.Healthy cfg admits ∧ Advance w.rmw result.2 ∧
          Creation w.rmw result.2 true .publisher node session result.1
            (publisherExit cfg call w.rmw) := by
  obtain ⟨node, session, bound, context, isSession⟩ :=
    World.node_of_live sound (asked nodeHandle isNode)
  refine ⟨node, session, bound, context, rmwCreatePublisher_spec healthy (fun other isOther => ?_)
    context (acceptable session (isNode ▸ isSession))
    (fun double => safe.single (congrArg some double))
    fun crashed => safe.allocates (congrArg some crashed)⟩
  cases isNode.symm.trans isOther
  exact bound

/-- `rmw_create_subscription` on a live node. -/
theorem SubscriptionCall.creation_of_live {call : SubscriptionCall}
    (healthy : w.rmw.Healthy cfg admits)
    (sound : w.rmw.registry.Sound) (asked : (Op.createSubscription call).Asked w)
    (acceptable : (Op.createSubscription call).Acceptable cfg admits w.rmw)
    (safe : Safe cfg w (.createSubscription call)) (isNode : call.node = some nodeHandle) :
    ∃ node session, w.rmw.registry.Bound .node nodeHandle node ∧
      (w.rmw.customNodes node).context = some session ∧
      Yields (rmwCreateSubscription cfg call w.rmw) fun result =>
        result.2.Healthy cfg admits ∧ Advance w.rmw result.2 ∧
          Creation w.rmw result.2 true .subscription node session result.1
            (subscriptionExit cfg call w.rmw) := by
  obtain ⟨node, session, bound, context, isSession⟩ :=
    World.node_of_live sound (asked nodeHandle isNode)
  refine ⟨node, session, bound, context, rmwCreateSubscription_spec healthy
    (fun other isOther => ?_) context (acceptable session (isNode ▸ isSession))
    fun crashed => safe.allocates (congrArg some crashed)⟩
  cases isNode.symm.trans isOther
  exact bound

/-- `rmw_create_service` and `rmw_create_client` on a live node. -/
theorem EndpointCall.creation_of_live {kind : EndpointKind} {call : EndpointCall}
    (healthy : w.rmw.Healthy cfg admits) (sound : w.rmw.registry.Sound)
    (asked : (Op.createEndpoint kind call).Asked w)
    (acceptable : (Op.createEndpoint kind call).Acceptable cfg admits w.rmw)
    (safe : Safe cfg w (.createEndpoint kind call)) (isNode : call.node = some nodeHandle) :
    ∃ node session exit, w.rmw.registry.Bound .node nodeHandle node ∧
      (w.rmw.customNodes node).context = some session ∧
      (Op.createEndpoint kind call).exit cfg w.rmw = some exit ∧
      Yields (createEndpoint cfg kind call w.rmw) fun result =>
        result.2.Healthy cfg admits ∧ Advance w.rmw result.2 ∧
          Creation w.rmw result.2 call.dataRequestRoom kind.pool node session result.1 exit := by
  obtain ⟨node, session, bound, context, isSession⟩ :=
    World.node_of_live sound (asked nodeHandle isNode)
  have isExit : (Op.createEndpoint kind call).exit cfg w.rmw =
      some (endpointExit cfg kind call session w.rmw) := by
    simp [Op.exit, isNode, isSession]
  refine ⟨node, session, _, bound, context, isExit, createEndpoint_spec healthy
    (fun other isOther => ?_) context (acceptable session (isNode ▸ isSession))
    (fun double => safe.single (isExit.trans (congrArg some double)))
    fun crashed => safe.allocates (isExit.trans (congrArg some crashed))⟩
  cases isNode.symm.trans isOther
  exact bound

/-- `rmw_init`, by the way it ends. -/
theorem Initialisation.change {exit : InitExit} {call : InitCall} {ret : RmwRet} {leaks : List Pool}
    {gone : Pool → Nat → Prop} (initialisation : Initialisation cfg call w.rmw s' ret exit)
    (sound : w.rmw.registry.Sound) :
    s'.registry.Sound ∧ Change cfg room leaks gone w (w.opening call (ret, s')) := by
  have failed : ret ≠ .ok → (w.opening call (ret, s')).opened = w.opened := fun notOk =>
    if_neg notOk
  cases exit with
  | rejected =>
      obtain ⟨notOk, rfl⟩ := initialisation
      exact ⟨sound, .idle (.refl _) (.refl _) rfl (failed notOk)⟩
  | exhausted =>
      obtain ⟨notOk, same, sessions⟩ := initialisation
      exact ⟨same ▸ sound, .idle (.of_eq same) (.of_sessions sessions) rfl (failed notOk)⟩
  | failed =>
      obtain ⟨notOk, context, session, objects, -, attached⟩ := initialisation
      exact ⟨attached.sound sound, .attached context session objects attached rfl
        (Or.inl (failed notOk))⟩
  | completed =>
      obtain ⟨rfl, context, session, isContext, attached, started⟩ := initialisation
      refine ⟨attached.sound sound, .attached context session _ attached rfl
        (Or.inr ⟨?_, started, fun graph => by rw [graph]; rfl⟩)⟩
      have isImpl : (s'.contexts context).impl = some session := by
        have same : s'.registry.impl context = some session := by simp [attached.registry]
        exact same
      simp [World.opening, World.initialised, isContext, isImpl]

/-- The functions that remove entities, and no session. -/
theorem Removes.steps {op : Op} {gone : Pool → Nat → Prop}
    (removes : Removes cfg admits w.rmw s' gone)
    (same : ∀ pool slot, op.gone w.rmw.registry pool slot ↔ gone pool slot)
    (noSession : ∀ session, ¬ gone .session session) :
    Steps cfg admits op w { w with rmw := s' } :=
  ⟨removes.healthy, removes.sound, .removed (removes.removal.congr same) removes.advance rfl
    fun session => (and_iff_left ((same _ _).not.mpr (noSession session))).symm⟩

/-- What disturbs nothing changes nothing. -/
theorem Undisturbed.steps {op : Op} (undisturbed : Undisturbed w.rmw s')
    (healthy : s'.Healthy cfg admits) (sound : w.rmw.registry.Sound) :
    Steps cfg admits op w { w with rmw := s' } :=
  ⟨healthy, undisturbed.registry ▸ sound, .idle (.of_eq undisturbed.registry)
    (.of_sessions undisturbed.sessions) rfl rfl⟩

/-- The take functions on a live handle. -/
theorem takeFrom_spec (healthy : w.rmw.Healthy cfg admits) (sound : w.rmw.registry.Sound)
    {deserialize : List UInt8 → Bool} (inbox : pool.hasInbox = true)
    (bound : w.rmw.registry.Bound pool handle slot) :
    Yields (takeFrom pool deserialize handle w.rmw) fun result =>
      result.2.Healthy cfg admits ∧ Undisturbed w.rmw result.2 ∧
        Taken deserialize ⟨pool, slot⟩ w.rmw result.1 result.2 := by
  cases pool with
  | subscription => exact rmwTakeWithInfo_spec healthy sound bound
  | service => exact rmwTakeRequest_spec healthy sound bound
  | client => exact rmwTakeResponse_spec healthy sound bound
  | session | node | publisher | topic | staticBuffer => cases inbox

/-- A context whose session is removed points at none. -/
private theorem Removes.impl_lost {gone : Pool → Nat → Prop}
    (removes : Removes cfg admits w.rmw s' gone)
    (isImpl : w.rmw.registry.impl context = some session) (goes : gone .session session) :
    (s'.contexts context).impl = none := by
  refine Option.eq_none_iff_forall_ne_some.mpr fun other isOther => ?_
  obtain ⟨old, stays⟩ := removes.removal.impl.mp (isOther : s'.registry.impl context = some other)
  cases isImpl.symm.trans old
  exact stays goes

/-- A context lost its session, and with it all that was sited there. -/
private theorem closing_steps {op : Op} {ret : RmwRet}
    (removes : Removes cfg admits w.rmw s' fun pool slot =>
      w.rmw.registry.SitedIn session pool slot ∨ pool = .session ∧ slot = session)
    (isImpl : w.rmw.registry.impl context = some session)
    (same : ∀ pool slot, op.gone w.rmw.registry pool slot ↔
      ∃ session, w.rmw.registry.impl context = some session ∧
        (w.rmw.registry.SitedIn session pool slot ∨ pool = .session ∧ slot = session)) :
    Steps cfg admits op w (w.closing context (ret, s')) := by
  have goes : ∀ pool slot, op.gone w.rmw.registry pool slot ↔
      w.rmw.registry.SitedIn session pool slot ∨ pool = .session ∧ slot = session := by
    intro pool slot
    rw [same, isImpl]
    simp
  have isContext : (w.rmw.contexts context).impl = some session := isImpl
  have lost := removes.impl_lost isImpl (Or.inr ⟨rfl, rfl⟩)
  refine ⟨removes.healthy, removes.sound, .removed (removes.removal.congr goes) removes.advance rfl
    fun other => ?_⟩
  have sited : ¬ w.rmw.registry.SitedIn session .session other := by
    rintro ⟨node, -, owned | ⟨isNode, -⟩⟩
    · cases owned.1
    · cases isNode
  simp only [goes, sited, World.closing, List.mem_filter, isContext, lost, Option.isSome_none,
    Bool.or_false, bne_iff_ne, ne_eq, Option.some.injEq, false_or, true_and]
  exact and_congr_right fun _ => not_congr eq_comm

/-- `rmw_shutdown` finalises a context with a session, which names this implementation. -/
private theorem shutdown_steps (healthy : w.rmw.Healthy cfg admits) (sound : w.rmw.registry.Sound)
    {teardown : ContextTeardown} (isImpl : w.rmw.registry.impl context = some session)
    (acceptable : teardown.Acceptable cfg admits w.rmw.registry session)
    (settled : w.rmw.registry.SettledIn session) :
    Yields (exec cfg (.shutdown context teardown) w)
      (Steps cfg admits (.shutdown context teardown) w) := by
  have isContext : (w.rmw.contexts context).impl = some session := isImpl
  have identified := (healthy.identified context).of_impl (isContext ▸ rfl)
  simp only [exec, rmwShutdown, identified, checkTypeIdentifiersMatch, beq_self_eq_true, ok_bind,
    ↓reduceIte]
  refine yields_bind.mpr ((rmwContextFini_removes healthy sound isImpl settled acceptable).bind ?_)
  rintro ⟨ret, s'⟩ removes
  refine yields_ok.mpr (yields_pure.mpr (closing_steps ?_ isImpl fun _ _ => Iff.rfl))
  split
  · -- the context has no session any more when it is zeroed
    have lost := removes.impl_lost isImpl (Or.inr ⟨rfl, rfl⟩)
    have same : (s'.modifyContext context fun _ => {}).registry = s'.registry := by
      rw [registry_modifyContext]
      ext1 <;> try rfl
      simp [Registry.attach, ← lost, Rmw.registry]
    have zeroed : (s'.modifyContext context fun _ => {}).Healthy cfg admits :=
      removes.healthy.modifyContext _ (Or.inr ⟨rfl, rfl⟩)
    exact ⟨zeroed, same ▸ removes.sound, removes.advance, same ▸ removes.removal⟩
  · exact removes

/-- A creation that is refused at once changes nothing. -/
private theorem refused_steps {op : Op} {creation : Exec (Option Nat × Rmw)}
    (refused : creation = .ok (none, w.rmw)) (healthy : w.rmw.Healthy cfg admits)
    (sound : w.rmw.registry.Sound) :
    Yields (do return w.creating pool (← creation)) (Steps cfg admits op w) := by
  rw [refused]
  refine yields_bind.mpr (yields_ok.mpr (yields_pure.mpr ⟨healthy, sound, ?_⟩))
  exact .idle (.refl _) (.refl _) (by simp [World.creating]) rfl

/-- An enabled and safe operation returns, and does what its change says. -/
theorem exec_spec {op : Op} (healthy : w.rmw.Healthy cfg admits) (sound : w.rmw.registry.Sound)
    (asked : op.Asked w) (acceptable : op.Acceptable cfg admits w.rmw) (safe : Safe cfg w op) :
    Yields (exec cfg op w) (Steps cfg admits op w) := by
  cases op with
  | init call =>
      refine (rmwInit_spec healthy acceptable).bind ?_
      rintro ⟨ret, s'⟩ ⟨healthy', initialisation⟩
      obtain ⟨sound', change⟩ := initialisation.change sound
      exact yields_pure.mpr ⟨healthy', sound', change⟩
  | contextFini context teardown =>
      obtain ⟨session, isImpl⟩ := Option.isSome_iff_exists.mp asked
      refine (rmwContextFini_removes healthy sound isImpl (safe.settled session isImpl)
        (acceptable session isImpl)).bind ?_
      rintro ⟨ret, s'⟩ removes
      exact yields_pure.mpr (closing_steps removes isImpl fun _ _ => Iff.rfl)
  | shutdown context teardown =>
      obtain ⟨session, isImpl⟩ := Option.isSome_iff_exists.mp asked
      exact shutdown_steps healthy sound isImpl (acceptable session isImpl)
        (safe.settled session isImpl)
  | createNode call =>
      cases isContext : call.context with
      | none =>
          have refused : rmwCreateNode cfg call w.rmw = .ok (none, w.rmw) := by
            have allocates := safe.allocates
            obtain ⟨callContext, name, namespace_, _, _, _, _⟩ := call
            obtain rfl : callContext = none := isContext
            rcases name with _ | _ | ⟨_, _⟩ <;> rcases namespace_ with _ | _ | ⟨_, _⟩ <;>
              first | rfl | exact absurd rfl allocates
          exact refused_steps refused healthy sound
      | some context =>
          obtain ⟨session, isImpl⟩ := Option.isSome_iff_exists.mp (asked context isContext)
          refine (rmwCreateNode_spec healthy (fun other isOther => ?_)
            (acceptable context session isContext isImpl)
            fun crashed => safe.allocates (congrArg some crashed)).bind ?_
          · cases isContext.symm.trans isOther
            exact isImpl
          rintro ⟨result, s'⟩ ⟨healthy', advance, creation⟩
          obtain ⟨sound', change⟩ := creation.change sound (sound.impl isImpl) advance
          exact yields_pure.mpr ⟨healthy', sound', change⟩
  | createPublisher call =>
      cases isNode : call.node with
      | none => exact refused_steps (by simp [rmwCreatePublisher, isNode]) healthy sound
      | some nodeHandle =>
          obtain ⟨node, session, bound, context, created⟩ :=
            PublisherCall.creation_of_live healthy sound asked acceptable safe isNode
          refine created.bind ?_
          rintro ⟨result, s'⟩ ⟨healthy', advance, creation⟩
          obtain ⟨sound', change⟩ := creation.change rfl sound bound context advance
          exact yields_pure.mpr ⟨healthy', sound', change⟩
  | createSubscription call =>
      cases isNode : call.node with
      | none => exact refused_steps (by simp [rmwCreateSubscription, isNode]) healthy sound
      | some nodeHandle =>
          obtain ⟨node, session, bound, context, created⟩ :=
            SubscriptionCall.creation_of_live healthy sound asked acceptable safe isNode
          refine created.bind ?_
          rintro ⟨result, s'⟩ ⟨healthy', advance, creation⟩
          obtain ⟨sound', change⟩ := creation.change rfl sound bound context advance
          exact yields_pure.mpr ⟨healthy', sound', change⟩
  | createEndpoint kind call =>
      cases isNode : call.node with
      | none => exact refused_steps (by simp [createEndpoint, isNode]) healthy sound
      | some nodeHandle =>
          obtain ⟨node, session, exit, bound, context, isExit, created⟩ :=
            EndpointCall.creation_of_live healthy sound asked acceptable safe isNode
          refine created.bind ?_
          rintro ⟨result, s'⟩ ⟨healthy', advance, creation⟩
          have isLeaks : (Op.createEndpoint kind call).leaks cfg w.rmw = exit.leaks kind.pool := by
            simp only [Op.leaks, isExit]
            rfl
          obtain ⟨sound', change⟩ := creation.change EndpointKind.isLeaf sound bound context advance
          exact yields_pure.mpr ⟨healthy', sound', isLeaks ▸ change⟩
  | destroyNode nodeHandle teardown =>
      obtain ⟨node, session, bound, context, -⟩ := World.node_of_live sound asked
      refine (rmwDestroyNode_removes healthy sound bound (safe.settled node bound) context
        (acceptable node session bound context)).bind fun result removes => yields_pure.mpr ?_
      refine removes.steps (fun pool slot => ?_) fun other absurd => ?_
      · constructor
        · rintro ⟨other, otherBound, goes⟩
          cases otherBound.slot_unique bound
          exact goes
        · exact fun goes => ⟨node, bound, goes⟩
      · rcases absurd with owned | ⟨isNode, -⟩
        · cases owned.1
        · cases isNode
  | destroyPublisher nodeHandle publisher teardown =>
      obtain ⟨node, nodeBound⟩ := asked.1.bound sound
      obtain ⟨slot, bound⟩ := asked.2.bound sound
      refine (rmwDestroyPublisher_removes healthy sound nodeBound bound
        fun owner session => acceptable slot owner session bound).bind
        fun result post => yields_pure.mpr (post.2.steps (fun pool slot' => ?_) (by simp))
      exact and_congr_right fun _ =>
        ⟨fun other => other.slot_unique bound, fun same => same ▸ bound⟩
  | destroySubscription nodeHandle subscription teardown =>
      obtain ⟨node, nodeBound⟩ := asked.1.bound sound
      obtain ⟨slot, bound⟩ := asked.2.bound sound
      refine (rmwDestroySubscription_removes healthy sound nodeBound bound
        fun owner session => acceptable slot owner session bound).bind
        fun result post => yields_pure.mpr (post.2.steps (fun pool slot' => ?_) (by simp))
      exact and_congr_right fun _ =>
        ⟨fun other => other.slot_unique bound, fun same => same ▸ bound⟩
  | destroyEndpoint kind nodeHandle endpoint exchange =>
      obtain ⟨node, nodeBound⟩ := asked.1.bound sound
      obtain ⟨slot, bound⟩ := asked.2.bound sound
      refine (destroyEndpoint_removes kind healthy sound nodeBound bound
        fun session => acceptable node session nodeBound).bind
        fun result post => yields_pure.mpr (post.2.steps (fun pool slot' => ?_) ?_)
      · exact and_congr_right fun _ =>
          ⟨fun other => other.slot_unique bound, fun same => same ▸ bound⟩
      · rintro other ⟨isPool, -⟩
        cases kind <;> cases isPool
  | receive session delivery =>
      refine (deliver_spec healthy acceptable).bind fun s' spec => yields_pure.mpr ?_
      exact spec.2.1.steps spec.1 sound
  | take pool deserialize handle =>
      obtain ⟨slot, bound⟩ := asked.2.bound sound
      refine (takeFrom_spec healthy sound asked.1 bound).bind fun result spec => yields_pure.mpr ?_
      exact spec.2.1.steps spec.1 sound
  | wait call =>
      refine (rmwWait_spec healthy acceptable).bind fun result spec => yields_pure.mpr ?_
      exact spec.2.1.steps spec.1 sound

end RmwMicroxrcedds
