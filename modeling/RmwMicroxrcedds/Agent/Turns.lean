import RmwMicroxrcedds.Agent.Withdrawals

/-! # What an operation is to the sessions

An operation of a run opens a session, closes one, is refused, creates an entity in one, destroys
entities of one, or passes without a trace in any of them. `exec_turn` says so, and what comes
with it: which session was written to, what was created or removed, and what the agent was asked
for.
-/

namespace RmwMicroxrcedds

open Outcome Registry

variable {cfg : Config} {admits : Admission} {w w' : World} {s s' : Rmw} {op : Op}
variable {pool pool' : Pool} {session home node nodeHandle handle handle' slot slot' topic : Nat}
variable {room : Bool} {result : Option Nat} {exit : CreateExit} {gone : Pool → Nat → Prop}

/-- What has a handle with an entity added had it before, or is the entity. -/
theorem Registry.Bound.of_addEntity {r : Registry} {entity : Entity}
    (bound : (r.addEntity pool handle slot entity).Bound pool' handle' slot') :
    r.Bound pool' handle' slot' ∨ pool' = pool ∧ handle' = handle ∧ slot' = slot := by
  rw [Bound, addEntity, setData_data_apply] at bound
  split at bound
  · rename_i same
    exact Or.inr ⟨same.1, same.2, (Option.some.inj (Option.some.inj bound)).symm⟩
  · exact Or.inl bound

/-- An added entity is what its slot holds. -/
theorem Registry.Agrees.entity_added {r r' : Registry} {entity : Entity}
    (agrees : (r.addEntity pool handle slot entity).Agrees r') :
    r'.entity pool slot = entity := by
  have inside : slot ∈ (r.addEntity pool handle slot entity).allocated pool := by
    simp [Registry.addEntity, Registry.addSlot]
  rw [agrees.entity inside, Registry.addEntity, setData_entity, Registry.addSlot, take_entity,
    fill_entity_self]

/-- Something that is in the session and has objects of its own. -/
structure Sited (s : Rmw) (pool : Pool) (session slot : Nat) : Prop where
  session : s.registry.sessionOf pool slot = some session
  single : (s.registry.belongings pool slot).Nodup

/-- What has a handle after a creation had it before, or is what was created in the session. -/
structure News (s s' : Rmw) (pool : Pool) (session : Nat) (result : Option Nat) : Prop where
  origin : ∀ {pool' handle slot}, s'.registry.Bound pool' handle slot →
    s.registry.Bound pool' handle slot ∨ pool' = pool ∧ result = some handle
  sited : ∀ {handle slot}, result = some handle → s'.registry.Bound pool handle slot →
    Sited s' pool session slot

/-- Nothing has a handle that had none. -/
theorem News.of_null (null : result = none)
    (old : ∀ {pool' handle slot}, s'.registry.Bound pool' handle slot →
      s.registry.Bound pool' handle slot) : News s s' pool session result where
  origin := fun bound => Or.inl (old bound)
  sited := fun isHandle => by
    rw [null] at isHandle
    cases isHandle

/-- The entity that was added is the only news. -/
theorem News.of_added {r : Registry} {entity : Entity} (isHandle : result = some handle)
    (agrees : (r.addEntity pool handle slot entity).Agrees s'.registry)
    (data : r.data = s.registry.data) (sited : Sited s' pool session slot) :
    News s s' pool session result where
  origin := fun {pool' handle' slot'} bound => by
    rcases (agrees.bound_iff.mp bound).of_addEntity with before | ⟨rfl, rfl, -⟩
    · rw [Bound, data] at before
      exact Or.inl before
    · exact Or.inr ⟨rfl, isHandle⟩
  sited := fun {handle' slot'} isHandle' bound => by
    cases isHandle.symm.trans isHandle'
    have added : (r.addEntity pool handle slot entity).Bound pool handle slot := by
      simp [Bound, Registry.addEntity]
    obtain rfl := bound.slot_unique (agrees.bound_iff.mpr added)
    exact sited

/-- The objects of an entity and of its topic are of different types. -/
theorem nodup_objectTypes (leaf : pool.isLeaf = true) :
    (pool.objectTypes ++ [ObjectType.topic]).Nodup := by
  cases pool <;> first | decide | cases leaf

/-- A new entity is in the session of its node, and its objects are of different kinds. -/
theorem sited_of_objects {entity : Entity} (leaf : pool.isLeaf = true)
    (context : (s.customNodes node).context = some session)
    (isEntity : s'.registry.entity pool slot = entity)
    (sameNode : s'.registry.entity .node node = s.registry.entity .node node)
    (owner : entity.ownerNode = some node)
    (objects : entity.objects.map ObjectId.type = pool.objectTypes)
    (ofTopic : ((entity.topicOf.elim [] fun topic =>
      (s'.registry.entity .topic topic).objects).map ObjectId.type).Sublist [.topic]) :
    Sited s' pool session slot where
  session := by
    rw [sessionOf, if_neg (ne_node_of_isLeaf leaf), isEntity, owner, Option.bind_some, sameNode]
    exact context
  single := by
    apply List.Nodup.of_map ObjectId.type
    rw [belongings, isEntity, List.map_append, objects]
    exact (nodup_objectTypes leaf).sublist ((List.Sublist.refl _).append ofTopic)

/-- What a creation adds is the entity it returns, in the session of its node. -/
theorem Creation.news {exit : CreateExit}
    (creation : Creation s s' room pool node session result exit) (leaf : pool.isLeaf = true)
    (sound : s.registry.Sound) (nodeBound : s.registry.Bound .node nodeHandle node)
    (context : (s.customNodes node).context = some session) : News s s' pool session result := by
  have notTopic := ne_topic_of_isLeaf leaf
  have inside := (sound.placed nodeBound).allocated
  cases exit with
  | refused => exact .of_null creation.1 creation.2.bound_iff.mp
  | leaked =>
      obtain ⟨null, slot, entity, -, agrees⟩ := creation
      exact .of_null null agrees.bound_iff.mp
  | topicless =>
      obtain ⟨null, slot, entity, -, -, agrees⟩ := creation
      exact .of_null null agrees.bound_iff.mp
  | topicLeaked =>
      obtain ⟨null, topic, entity, -, agrees⟩ := creation
      exact .of_null null agrees.bound_iff.mp
  | bothLeaked =>
      obtain ⟨null, topic, topicEntity, slot, entity, -, -, agrees⟩ := creation
      exact .of_null null agrees.bound_iff.mp
  | created =>
      obtain ⟨handle, slot, entity, isHandle, new, rest⟩ := creation
      split at rest
      · obtain ⟨topic, topicEntity, newTopic, isTopic, agrees⟩ := rest
        have free : slot ∉ (s.registry.addSlot .topic topic (.topic topicEntity)).allocated
            pool := by
          simpa [addSlot, notTopic] using new.free
        have grown : s.registry.Grown [.topic]
            (s.registry.addSlot .topic topic (.topic topicEntity)) :=
          (Grown.refl _ _).addSlot newTopic.free (by simp)
        have isTitle : s'.registry.entity .topic topic = .topic topicEntity := by
          have within : topic ∈ (s.registry.addSlot .topic topic (.topic topicEntity)).allocated
              .topic := by simp [addSlot]
          rw [(Grown.refl _ []).entity_addEntity free agrees within, addSlot, take_entity,
            fill_entity_self]
        refine .of_added isHandle agrees rfl (sited_of_objects leaf context agrees.entity_added
          (grown.entity_addEntity free agrees inside) new.owner new.objects ?_)
        rw [isTopic, Option.elim_some, isTitle]
        simp [Entity.objects, newTopic.type]
      · rename_i topics
        refine .of_added isHandle rest rfl (sited_of_objects leaf context rest.entity_added
          ((Grown.refl _ []).entity_addEntity new.free rest inside) new.owner new.objects ?_)
        have untitled : entity.topicOf = none := by
          refine Option.eq_none_iff_forall_ne_some.mpr fun topic isTopic => topics ?_
          rw [← rest.entity_added] at isTopic
          exact Rmw.hasTopic_of_topicOf isTopic
        rw [untitled]
        exact List.nil_sublist _
  | doubleReleased | crashed | unreturned => exact creation.elim

/-- A node that is created but not returned is the exception. -/
theorem NodeCreation.news {exit : CreateExit}
    (creation : NodeCreation s s' session result exit) (returns : exit ≠ .unreturned) :
    News s s' .node session result := by
  cases exit with
  | refused => exact .of_null creation.1 creation.2.bound_iff.mp
  | leaked =>
      obtain ⟨null, slot, entity, -, agrees⟩ := creation
      exact .of_null null agrees.bound_iff.mp
  | unreturned => exact absurd rfl returns
  | created =>
      obtain ⟨handle, slot, entity, isHandle, new, agrees⟩ := creation
      refine .of_added isHandle agrees rfl ⟨?_, ?_⟩
      · rw [sessionOf, if_pos rfl, agrees.entity_added]
        exact new.context
      · rw [belongings, agrees.entity_added]
        simp [Entity.objects, Entity.topicOf]
  | topicless | topicLeaked | bothLeaked | doubleReleased | crashed => exact creation.elim

/-- What has a handle after a creation had it before, or is in the session of the node. -/
theorem News.origin_or (news : News s s' pool home result) {pool' : Pool}
    (bound : s'.registry.Bound pool' handle slot) :
    s.registry.Bound pool' handle slot ∨ s'.registry.sessionOf pool' slot = some home := by
  rcases news.origin bound with before | ⟨rfl, isHandle⟩
  · exact Or.inl before
  · exact Or.inr (news.sited isHandle bound).session

/-- The same of nodes, also of those that are not returned. -/
theorem NodeCreation.origin_or {exit : CreateExit}
    (creation : NodeCreation s s' home result exit) (bound : s'.registry.Bound pool handle slot) :
    s.registry.Bound pool handle slot ∨ s'.registry.sessionOf pool slot = some home := by
  have added : ∀ {newHandle newSlot entity}, NewNode s s' home newHandle newSlot entity →
      (s.registry.addEntity .node newHandle newSlot (.node entity)).Agrees s'.registry →
      s.registry.Bound pool handle slot ∨ s'.registry.sessionOf pool slot = some home := by
    intro newHandle newSlot entity new agrees
    rcases (agrees.bound_iff.mp bound).of_addEntity with before | ⟨rfl, rfl, rfl⟩
    · exact Or.inl before
    · refine Or.inr ?_
      rw [Registry.sessionOf, if_pos rfl, agrees.entity_added]
      exact new.context
  cases exit with
  | refused => exact Or.inl (creation.2.bound_iff.mp bound)
  | leaked =>
      obtain ⟨-, _, _, -, agrees⟩ := creation
      exact Or.inl (agrees.bound_iff.mp bound)
  | unreturned =>
      obtain ⟨-, _, _, _, new, agrees⟩ := creation
      exact added new agrees
  | created =>
      obtain ⟨_, _, _, -, new, agrees⟩ := creation
      exact added new agrees
  | topicless | topicLeaked | bothLeaked | doubleReleased | crashed => exact creation.elim

/-- A slot that is added to another pool leaves the sessions in use as they are. -/
theorem Registry.Agrees.sessions_of_addSlot {r r' : Registry} {entity : Entity}
    (agrees : (r.addSlot pool slot entity).Agrees r') (notSession : Pool.session ≠ pool) :
    r'.allocated .session = r.allocated .session := by
  rw [agrees.allocated]
  simp [Registry.addSlot, notSession]

/-- Adding an entity takes no session. -/
theorem Registry.Agrees.sessions_of_addEntity {r r' : Registry} {entity : Entity}
    (agrees : (r.addEntity pool handle slot entity).Agrees r') (notSession : Pool.session ≠ pool) :
    r'.allocated .session = r.allocated .session := by
  rw [agrees.allocated]
  simp [Registry.addEntity, Registry.addSlot, notSession]

theorem Pool.session_ne_of_isLeaf (leaf : pool.isLeaf = true) : Pool.session ≠ pool := by
  rintro rfl
  cases leaf

/-- The creation of an entity of a node takes no session. -/
theorem Creation.sessions (creation : Creation s s' room pool node session result exit)
    (leaf : pool.isLeaf = true) :
    s'.registry.allocated .session = s.registry.allocated .session := by
  have notSession := Pool.session_ne_of_isLeaf leaf
  cases exit with
  | refused => rw [creation.2.allocated]
  | leaked =>
      obtain ⟨-, slot, entity, -, agrees⟩ := creation
      exact agrees.sessions_of_addSlot notSession
  | topicless =>
      obtain ⟨-, slot, entity, -, -, agrees⟩ := creation
      exact agrees.sessions_of_addSlot notSession
  | topicLeaked =>
      obtain ⟨-, topic, entity, -, agrees⟩ := creation
      exact agrees.sessions_of_addSlot (by decide)
  | bothLeaked =>
      obtain ⟨-, topic, topicEntity, slot, entity, -, -, agrees⟩ := creation
      rw [agrees.sessions_of_addSlot notSession]
      exact (Agrees.refl _).sessions_of_addSlot (by decide)
  | created =>
      obtain ⟨handle, slot, entity, -, -, rest⟩ := creation
      split at rest
      · obtain ⟨topic, topicEntity, -, -, agrees⟩ := rest
        rw [agrees.sessions_of_addEntity notSession]
        exact (Agrees.refl _).sessions_of_addSlot (by decide)
      · exact rest.sessions_of_addEntity notSession
  | doubleReleased | crashed | unreturned => exact creation.elim

/-- The creation of a node takes no session. -/
theorem NodeCreation.sessions (creation : NodeCreation s s' session result exit) :
    s'.registry.allocated .session = s.registry.allocated .session := by
  cases exit with
  | refused => rw [creation.2.allocated]
  | leaked =>
      obtain ⟨-, slot, entity, -, agrees⟩ := creation
      exact agrees.sessions_of_addSlot (by decide)
  | unreturned =>
      obtain ⟨-, handle, slot, entity, -, agrees⟩ := creation
      exact agrees.sessions_of_addEntity (by decide)
  | created =>
      obtain ⟨handle, slot, entity, -, -, agrees⟩ := creation
      exact agrees.sessions_of_addEntity (by decide)
  | topicless | topicLeaked | bothLeaked | doubleReleased | crashed => exact creation.elim

/-- What goes with a node is in its session. -/
theorem Registry.GoesWith.sessionOf {r : Registry} (goes : r.GoesWith node pool slot)
    (context : (r.entity .node node).context = some session) :
    r.sessionOf pool slot = some session := by
  rcases goes with ⟨leaf, -, owner⟩ | ⟨rfl, rfl⟩
  · rw [Registry.sessionOf, if_neg (ne_node_of_isLeaf leaf), owner]
    exact context
  · rw [Registry.sessionOf, if_pos rfl]
    exact context

/-- A context whose session is removed points at none. -/
theorem Registry.Removal.impl_eq_none {r r' : Registry} {context closed : Nat}
    (removal : r.Removal r' gone) (isImpl : r.impl context = some closed)
    (goes : gone .session closed) : r'.impl context = none := by
  refine Option.eq_none_iff_forall_ne_some.mpr fun other isOther => ?_
  obtain ⟨old, kept⟩ := removal.impl.mp isOther
  cases isImpl.symm.trans old
  exact kept goes

/-- The handle is of an entity in the session. -/
def Registry.HandleIn (r : Registry) (session : Nat) (pool : Pool) (handle : Nat) : Prop :=
  ∃ slot, r.Bound pool handle slot ∧ r.sessionOf pool slot = some session

/-- The operation works in the session: through its context, through a node of it, or on an
entity of it. A service or a client is deleted in the session of the node that is given. -/
def Op.Within (r : Registry) (session : Nat) : Op → Prop
  | .contextFini context _ | .shutdown context _ => r.impl context = some session
  | .createNode call => ∃ context, call.context = some context ∧ r.impl context = some session
  | .createPublisher call => ∃ node, call.node = some node ∧ r.HandleIn session .node node
  | .createSubscription call => ∃ node, call.node = some node ∧ r.HandleIn session .node node
  | .createEndpoint _ call => ∃ node, call.node = some node ∧ r.HandleIn session .node node
  | .destroyNode node _ => r.HandleIn session .node node
  | .destroyPublisher _ publisher _ => r.HandleIn session .publisher publisher
  | .destroySubscription _ subscription _ => r.HandleIn session .subscription subscription
  | .destroyEndpoint kind node endpoint _ =>
      r.HandleIn session .node node ∨ r.HandleIn session kind.pool endpoint
  | .init _ | .receive _ _ | .take _ _ _ | .wait _ => False

/-- The requests by which an operation creates objects find room. -/
def Op.Roomy : Op → Prop
  | .init call => call.graph.Roomy
  | .createNode call => call.exchange.room = true
  | .createPublisher call => call.Roomy
  | .createSubscription call => call.Roomy
  | .createEndpoint _ call => call.creation.room = true
  | _ => True

/-- The requests by which an operation deletes objects find room. -/
def Op.Deletes : Op → Prop
  | .destroyNode _ teardown => teardown.Roomy
  | .destroyPublisher _ _ teardown | .destroySubscription _ _ teardown => teardown.Roomy
  | .destroyEndpoint _ _ _ exchange => exchange.room = true
  | _ => True

/-- A service or a client is destroyed through a node of its session. -/
def Op.AtHome (r : Registry) : Op → Prop
  | .destroyEndpoint kind nodeHandle endpoint _ => ∀ node slot,
      r.Bound .node nodeHandle node → r.Bound kind.pool endpoint slot →
      r.sessionOf kind.pool slot = r.sessionOf .node node
  | _ => True

/-- `rmw_destroy_service` and `rmw_destroy_client` write to the session of the node. -/
theorem destroyEndpoint_writesOnly (kind : EndpointKind) (healthy : s.Healthy cfg admits)
    {exchange : Exchange} {ret : RmwRet} (nodeBound : s.registry.Bound .node nodeHandle node)
    (context : (s.customNodes node).context = some home)
    (bound : s.registry.Bound kind.pool handle slot)
    (returned : destroyEndpoint cfg kind (some nodeHandle) (some handle) exchange s =
      .ok (ret, s')) : WritesOnly s s' home := by
  simp only [destroyEndpoint, checkDestroyed_of_bound healthy nodeBound bound, ok_bind, context,
    deref] at returned
  obtain ⟨⟨confirmed, ran⟩, runs, returned⟩ := bind_eq_ok.mp returned
  obtain ⟨last, released, returned⟩ := bind_eq_ok.mp returned
  cases returned
  obtain ⟨written, wrote, -⟩ := (((Deletes.nothing s home (exchange.room = true)).delete
    (s.customEndpoint kind slot).objectId id).run runs).same (finiMemory_silent released)
  exact wrote.writesOnly

/-- A creation in a session, and what it asks the agent for. -/
structure Op.Creates (cfg : Config) (op : Op) (w : World) (pool : Pool) (home : Nat)
    (result : Option Nat) (s' : Rmw) : Prop where
  within : op.Within w.rmw.registry home
  creation : op.exit cfg w.rmw ≠ none
  asks : Asks cfg w.rmw s' pool home op.Roomy result
  news : op.exit cfg w.rmw ≠ some .unreturned → News w.rmw s' pool home result
  origin : ∀ pool handle slot, s'.registry.Bound pool handle slot →
    w.rmw.registry.Bound pool handle slot ∨ s'.registry.sessionOf pool slot = some home
  sessions : s'.registry.allocated .session = w.rmw.registry.allocated .session

/-- The end of a session, with all that is in it. -/
structure Op.Closes (op : Op) (w : World) (context closed : Nat) (s' : Rmw) : Prop where
  within : op.Within w.rmw.registry closed
  isImpl : w.rmw.registry.impl context = some closed
  removal : w.rmw.registry.Removal s'.registry fun pool slot =>
    w.rmw.registry.SitedIn closed pool slot ∨ pool = .session ∧ slot = closed
  writes : WritesOnly w.rmw s' closed

/-- A removal of entities. What was in the session is deleted there, if a service or a client is
destroyed through a node of its own session. -/
structure Op.Destroys (op : Op) (w : World) (home : Nat) (gone : Pool → Nat → Prop) (s' : Rmw) :
    Prop where
  within : op.Within w.rmw.registry home
  removal : w.rmw.registry.Removal s'.registry gone
  writes : WritesOnly w.rmw s' home
  withdraws : op.AtHome w.rmw.registry → Withdraws w.rmw s' home op.Deletes ∧
    ∀ pool handle slot, w.rmw.registry.Bound pool handle slot → gone pool slot →
      w.rmw.registry.sessionOf pool slot = some home

/-- A creation of an entity of a node. -/
theorem Op.Creates.of_creation (within : op.Within w.rmw.registry home)
    (isCreation : op.exit cfg w.rmw ≠ none) (leaf : pool.isLeaf = true)
    (sound : w.rmw.registry.Sound) (nodeBound : w.rmw.registry.Bound .node nodeHandle node)
    (context : (w.rmw.customNodes node).context = some home)
    (asks : Asks cfg w.rmw s' pool home op.Roomy result)
    (creation : Creation w.rmw s' room pool node home result exit) :
    op.Creates cfg w pool home result s' := by
  have news := creation.news leaf sound nodeBound context
  exact ⟨within, isCreation, asks, fun _ => news, fun _ _ _ bound => news.origin_or bound,
    creation.sessions leaf⟩

/-- A removal from one session. -/
theorem Op.Destroys.of_withdraws (within : op.Within w.rmw.registry home)
    (removal : w.rmw.registry.Removal s'.registry gone)
    (withdraws : Withdraws w.rmw s' home op.Deletes)
    (sited : ∀ pool handle slot, w.rmw.registry.Bound pool handle slot → gone pool slot →
      w.rmw.registry.sessionOf pool slot = some home) : op.Destroys w home gone s' := by
  obtain ⟨written, wrote, -⟩ := id withdraws
  exact ⟨within, removal, wrote.writesOnly, fun _ => ⟨withdraws, sited⟩⟩

/-- `rmw_context_fini` ends the session of its context. -/
theorem Op.Closes.of_fini {context closed : Nat} {teardown : ContextTeardown} {ret : RmwRet}
    (within : op.Within w.rmw.registry closed) (healthy : w.rmw.Healthy cfg admits)
    (sound : w.rmw.registry.Sound) (isImpl : w.rmw.registry.impl context = some closed)
    (settled : w.rmw.registry.SettledIn closed)
    (acceptable : teardown.Acceptable cfg admits w.rmw.registry closed)
    (returned : rmwContextFini cfg context teardown w.rmw = .ok (ret, s')) :
    op.Closes w context closed s' where
  within := within
  isImpl := isImpl
  removal :=
    ((rmwContextFini_removes healthy sound isImpl settled acceptable).of_eq_ok returned).removal
  writes := rmwContextFini_writesOnly healthy sound isImpl settled acceptable returned

/-- The context has no session any more when `rmw_shutdown` zeroes it. -/
theorem Op.Closes.zeroed {context closed : Nat} (closes : op.Closes w context closed s') :
    op.Closes w context closed (s'.modifyContext context fun _ => {}) := by
  have lost : (s'.contexts context).impl = none :=
    closes.removal.impl_eq_none closes.isImpl (Or.inr ⟨rfl, rfl⟩)
  have same : (s'.modifyContext context fun _ => {}).registry = s'.registry := by
    rw [registry_modifyContext]
    ext1 <;> try rfl
    simp [Registry.attach, ← lost, Rmw.registry]
  exact ⟨closes.within, closes.isImpl, same ▸ closes.removal,
    closes.writes.trans ⟨fun _ _ => rfl, .of_handles rfl⟩⟩

/-- The session of a node is where its handle is. -/
theorem handleIn_of_bound {r : Registry} (bound : r.Bound .node nodeHandle node)
    (context : (r.entity .node node).context = some home) : r.HandleIn home .node nodeHandle := by
  refine ⟨node, bound, ?_⟩
  rw [Registry.sessionOf, if_pos rfl]
  exact context

/-- `rmw_destroy_service` and `rmw_destroy_client`. -/
theorem Op.Destroys.of_endpoint (kind : EndpointKind) {endpoint : Nat} {exchange : Exchange}
    {ret : RmwRet} (healthy : w.rmw.Healthy cfg admits) (sound : w.rmw.registry.Sound)
    (nodeBound : w.rmw.registry.Bound .node nodeHandle node)
    (context : (w.rmw.customNodes node).context = some home)
    (bound : w.rmw.registry.Bound kind.pool endpoint slot)
    (acceptable : ∀ session, (w.rmw.customNodes node).context = some session →
      exchange.Acceptable cfg admits w.rmw.registry session)
    (returned : RmwMicroxrcedds.destroyEndpoint cfg kind (some nodeHandle) (some endpoint) exchange
      w.rmw = .ok (ret, s')) :
    Op.Destroys (.destroyEndpoint kind nodeHandle endpoint exchange) w home
      (fun pool other => pool = kind.pool ∧ other = slot) s' where
  within := Or.inl (handleIn_of_bound nodeBound context)
  removal := ((destroyEndpoint_removes kind healthy sound nodeBound bound
    acceptable).of_eq_ok returned).2.removal
  writes := destroyEndpoint_writesOnly kind healthy nodeBound context bound returned
  withdraws := fun atHome => by
    have sited : w.rmw.registry.sessionOf kind.pool slot = some home := by
      rw [atHome node slot nodeBound bound, Registry.sessionOf, if_pos rfl]
      exact context
    refine ⟨((destroyEndpoint_withdraws kind healthy sound nodeBound context bound sited
      acceptable).of_eq_ok returned).2, ?_⟩
    rintro pool handle other - ⟨rfl, rfl⟩
    exact sited

/-- What one operation is to the sessions. -/
inductive Turn (cfg : Config) (w : World) : Op → World → Prop
  | opens (call : InitCall) (ret : RmwRet) (s' : Rmw)
      (returned : rmwInit cfg call w.rmw = .ok (ret, s'))
      (initialisation : Initialisation cfg call w.rmw s' ret (initExit cfg call w.rmw)) :
      Turn cfg w (.init call) (w.opening call (ret, s'))
  | closes (op : Op) (context closed : Nat) (ret : RmwRet) (s' : Rmw)
      (closes : op.Closes w context closed s') : Turn cfg w op (w.closing context (ret, s'))
  | refused (op : Op) (pool : Pool) : Turn cfg w op (w.creating pool (none, w.rmw))
  | creates (op : Op) (pool : Pool) (home : Nat) (result : Option Nat) (s' : Rmw)
      (creates : op.Creates cfg w pool home result s') :
      Turn cfg w op (w.creating pool (result, s'))
  | destroys (op : Op) (home : Nat) (gone : Pool → Nat → Prop) (s' : Rmw)
      (destroys : op.Destroys w home gone s') : Turn cfg w op { w with rmw := s' }
  | passes (op : Op) (s' : Rmw) (undisturbed : Undisturbed w.rmw s') :
      Turn cfg w op { w with rmw := s' }

/-- `rmw_create_node`. -/
private theorem createNode_turn {call : NodeCall} (healthy : w.rmw.Healthy cfg admits)
    (asked : (Op.createNode call).Asked w)
    (acceptable : (Op.createNode call).Acceptable cfg admits w.rmw)
    (safe : Safe cfg w (.createNode call)) (returned : exec cfg (.createNode call) w = .ok w') :
    Turn cfg w (.createNode call) w' := by
  cases isContext : call.context with
  | none =>
      have refused := rmwCreateNode_of_no_context isContext
        fun crashed => safe.allocates (congrArg some crashed)
      simp only [exec, refused, ok_bind] at returned
      cases returned
      exact .refused _ .node
  | some context =>
      obtain ⟨home, isImpl⟩ := Option.isSome_iff_exists.mp (asked context isContext)
      obtain ⟨⟨result, s'⟩, creates, isReturned⟩ := bind_eq_ok.mp returned
      cases isReturned
      obtain ⟨-, -, creation⟩ := (rmwCreateNode_spec healthy (fun other isOther => by
        cases isContext.symm.trans isOther
        exact isImpl) (acceptable context home isContext isImpl)
        fun crashed => safe.allocates (congrArg some crashed)).of_eq_ok creates
      exact .creates _ .node home result s' {
        within := ⟨context, isContext, isImpl⟩
        creation := by simp [Op.exit]
        asks := rmwCreateNode_asks isContext isImpl creates
        news := fun returns => creation.news fun absurd => returns (congrArg some absurd)
        origin := fun _ _ _ bound => creation.origin_or bound
        sessions := creation.sessions }

/-- Every operation of a safe run is one of these. -/
theorem exec_turn (healthy : w.rmw.Healthy cfg admits) (sound : w.rmw.registry.Sound)
    (asked : op.Asked w) (acceptable : op.Acceptable cfg admits w.rmw) (safe : Safe cfg w op)
    (returned : exec cfg op w = .ok w') : Turn cfg w op w' := by
  cases op with
  | init call =>
      obtain ⟨⟨ret, s'⟩, initialises, isReturned⟩ := bind_eq_ok.mp returned
      cases isReturned
      exact .opens call ret s' initialises
        ((rmwInit_spec healthy acceptable).of_eq_ok initialises).2
  | contextFini context teardown =>
      obtain ⟨closed, isImpl⟩ := Option.isSome_iff_exists.mp asked
      obtain ⟨⟨ret, s'⟩, finalises, isReturned⟩ := bind_eq_ok.mp returned
      cases isReturned
      exact .closes _ context closed ret s' (.of_fini isImpl healthy sound isImpl
        (safe.settled closed isImpl) (acceptable closed isImpl) finalises)
  | shutdown context teardown =>
      obtain ⟨closed, isImpl⟩ := Option.isSome_iff_exists.mp asked
      obtain ⟨⟨ret, s'⟩, shuts, isReturned⟩ := bind_eq_ok.mp returned
      cases isReturned
      obtain ⟨last, finalises, rfl⟩ := rmwShutdown_returns healthy isImpl shuts
      have closes : Op.Closes (.shutdown context teardown) w context closed last :=
        .of_fini isImpl healthy sound isImpl (safe.settled closed isImpl)
          (acceptable closed isImpl) finalises
      refine .closes _ context closed ret _ ?_
      split
      · exact closes.zeroed
      · exact closes
  | createNode call => exact createNode_turn healthy asked acceptable safe returned
  | createPublisher call =>
      cases isNode : call.node with
      | none =>
          simp only [exec, rmwCreatePublisher, isNode, ok_bind] at returned
          cases returned
          exact .refused _ .publisher
      | some nodeHandle =>
          obtain ⟨node, home, bound, context, created⟩ :=
            PublisherCall.creation_of_live healthy sound asked acceptable safe isNode
          obtain ⟨⟨result, s'⟩, creates, isReturned⟩ := bind_eq_ok.mp returned
          cases isReturned
          exact .creates _ .publisher home result s'
            (.of_creation ⟨nodeHandle, isNode, handleIn_of_bound bound context⟩
              (by simp [Op.exit]) rfl sound bound context
              (rmwCreatePublisher_asks isNode bound context creates)
              (created.of_eq_ok creates).2.2)
  | createSubscription call =>
      cases isNode : call.node with
      | none =>
          simp only [exec, rmwCreateSubscription, isNode, ok_bind] at returned
          cases returned
          exact .refused _ .subscription
      | some nodeHandle =>
          obtain ⟨node, home, bound, context, created⟩ :=
            SubscriptionCall.creation_of_live healthy sound asked acceptable safe isNode
          obtain ⟨⟨result, s'⟩, creates, isReturned⟩ := bind_eq_ok.mp returned
          cases isReturned
          exact .creates _ .subscription home result s'
            (.of_creation ⟨nodeHandle, isNode, handleIn_of_bound bound context⟩
              (by simp [Op.exit]) rfl sound bound context
              (rmwCreateSubscription_asks isNode bound context creates)
              (created.of_eq_ok creates).2.2)
  | createEndpoint kind call =>
      cases isNode : call.node with
      | none =>
          simp only [exec, createEndpoint, isNode, ok_bind] at returned
          cases returned
          exact .refused _ kind.pool
      | some nodeHandle =>
          obtain ⟨node, home, exit, bound, context, isExit, created⟩ :=
            EndpointCall.creation_of_live healthy sound asked acceptable safe isNode
          obtain ⟨⟨result, s'⟩, creates, isReturned⟩ := bind_eq_ok.mp returned
          cases isReturned
          exact .creates _ kind.pool home result s'
            (.of_creation ⟨nodeHandle, isNode, handleIn_of_bound bound context⟩
              (by rw [isExit]; exact Option.some_ne_none exit) EndpointKind.isLeaf sound bound
              context (createEndpoint_asks isNode bound context creates)
              (created.of_eq_ok creates).2.2)
  | destroyNode nodeHandle teardown =>
      obtain ⟨node, home, bound, context, -⟩ := World.node_of_live sound asked
      obtain ⟨⟨ret, s'⟩, destroys, isReturned⟩ := bind_eq_ok.mp returned
      cases isReturned
      obtain ⟨removes, withdraws⟩ := (rmwDestroyNode_withdraws healthy sound bound
        (safe.settled node bound) context (acceptable node home bound context)).of_eq_ok destroys
      exact .destroys _ home _ s'
        (.of_withdraws (handleIn_of_bound bound context) removes.removal withdraws
          fun pool handle slot _ goes => Registry.GoesWith.sessionOf goes context)
  | destroyPublisher nodeHandle publisher teardown =>
      obtain ⟨node, nodeBound⟩ := asked.1.bound sound
      obtain ⟨slot, bound⟩ := asked.2.bound sound
      obtain ⟨home, -, sited⟩ := sound.session_of_held (Or.inl ⟨_, bound⟩)
      obtain ⟨⟨ret, s'⟩, destroys, isReturned⟩ := bind_eq_ok.mp returned
      cases isReturned
      obtain ⟨removes, withdraws⟩ := (rmwDestroyPublisher_withdraws healthy sound nodeBound bound
        sited fun owner session => acceptable slot owner session bound).of_eq_ok destroys
      refine .destroys _ home _ s' (.of_withdraws ⟨slot, bound, sited⟩ removes.removal withdraws ?_)
      rintro pool handle other - ⟨rfl, rfl⟩
      exact sited
  | destroySubscription nodeHandle subscription teardown =>
      obtain ⟨node, nodeBound⟩ := asked.1.bound sound
      obtain ⟨slot, bound⟩ := asked.2.bound sound
      obtain ⟨home, -, sited⟩ := sound.session_of_held (Or.inl ⟨_, bound⟩)
      obtain ⟨⟨ret, s'⟩, destroys, isReturned⟩ := bind_eq_ok.mp returned
      cases isReturned
      obtain ⟨removes, withdraws⟩ := (rmwDestroySubscription_withdraws healthy sound nodeBound
        bound sited fun owner session =>
          acceptable slot owner session bound).of_eq_ok destroys
      refine .destroys _ home _ s' (.of_withdraws ⟨slot, bound, sited⟩ removes.removal withdraws ?_)
      rintro pool handle other - ⟨rfl, rfl⟩
      exact sited
  | destroyEndpoint kind nodeHandle endpoint exchange =>
      obtain ⟨node, home, nodeBound, context, -⟩ := World.node_of_live sound asked.1
      obtain ⟨slot, bound⟩ := asked.2.bound sound
      obtain ⟨⟨ret, s'⟩, destroys, isReturned⟩ := bind_eq_ok.mp returned
      cases isReturned
      exact .destroys _ home _ s' (.of_endpoint kind healthy sound nodeBound context bound
        (fun session => acceptable node session nodeBound) destroys)
  | receive from_ delivery =>
      obtain ⟨s', delivers, isReturned⟩ := bind_eq_ok.mp returned
      cases isReturned
      exact .passes _ s' ((deliver_spec healthy acceptable).of_eq_ok delivers).2.1
  | take pool deserialize handle =>
      obtain ⟨slot, bound⟩ := asked.2.bound sound
      obtain ⟨⟨result, s'⟩, takes, isReturned⟩ := bind_eq_ok.mp returned
      cases isReturned
      exact .passes _ s' ((takeFrom_spec healthy sound asked.1 bound).of_eq_ok takes).2.1
  | wait call =>
      obtain ⟨⟨result, s'⟩, waits, isReturned⟩ := bind_eq_ok.mp returned
      cases isReturned
      exact .passes _ s' ((rmwWait_spec healthy acceptable).of_eq_ok waits).2.1

/-- Whatever an operation is, the handles that are left keep their names. -/
theorem Turn.names (turn : Turn cfg w op w') : KeepsNames w.rmw w'.rmw := by
  cases turn with
  | opens call ret s' returned => exact .of_handles (rmwInit_handles returned)
  | closes op context closed ret s' closes => exact closes.writes.names
  | refused => exact .of_handles rfl
  | creates op pool home result s' creates =>
      obtain ⟨written, wrote, -⟩ := creates.asks
      exact wrote.names
  | destroys op home gone s' destroys => exact destroys.writes.names
  | passes op s' undisturbed => exact .of_handles undisturbed.handles

end RmwMicroxrcedds
