import RmwMicroxrcedds.Agent.Mirror
import RmwMicroxrcedds.Agent.Turns

/-! # Every operation tells the agent

Operation by operation: a creation asks for the objects of the new entity, a destroy function
for the deletion of those that go, `rmw_init` for the graph entities, and no other operation
writes to a session.
-/

namespace RmwMicroxrcedds

open Journals Outcome Registry

variable {cfg : Config} {admits : Admission} {w w' : World} {s s' : Rmw} {pool pool' : Pool}
variable {session other node nodeHandle handle handle' slot slot' topic : Nat}
variable {room : Bool} {result : Option Nat} {written : List XrceRequest} {complete roomy : Prop}
variable {gone : Pool → Nat → Prop} {leaks : List Pool}

/-- What a step tells the agent of a session that is open after it: the session was just
opened, or the step tells what it does, and all of it if it is complete. -/
def Speaks (cfg : Config) (complete : Prop) (w w' : World) (session : Nat) : Prop :=
  session ∉ w.opened ∧ Starts cfg w' session ∨
    session ∈ w.opened ∧ ∃ written, Tells cfg w w' session written ∧
      (complete → TellsAll w w' session written ∧ TellsOnly cfg w w' session written)

/-- What is told only under a condition is told under a stronger one. -/
theorem Speaks.mono {complete' : Prop} (speaks : Speaks cfg complete w w' session)
    (stronger : complete' → complete) : Speaks cfg complete' w w' session := by
  rcases speaks with starts | ⟨opened, written, tells, all⟩
  · exact Or.inl starts
  · exact Or.inr ⟨opened, written, tells, fun isComplete => all (stronger isComplete)⟩

/-- A session in which nothing is asked. -/
theorem Speaks.quiet (opened : session ∈ w.opened)
    (requests : (w'.rmw.customSessions session).requests =
      (w.rmw.customSessions session).requests)
    (nextId : (w'.rmw.customSessions session).nextId = (w.rmw.customSessions session).nextId)
    (graph : w'.rmw.registry.graph session = w.rmw.registry.graph session)
    (kept : ∀ pool slot, Lost w.rmw w'.rmw pool slot →
      w.rmw.registry.sessionOf pool slot ≠ some session)
    (news : ∀ pool handle slot, w'.rmw.registry.Bound pool handle slot →
      w'.rmw.registry.sessionOf pool slot = some session →
      w.rmw.registry.Bound pool handle slot) : Speaks cfg complete w w' session := by
  refine Or.inr ⟨opened, [], ?_, fun _ => ⟨?_, Or.inl fun _ absurd => by cases absurd⟩⟩
  · exact {
      requests := requests
      nextId := fun type => by rw [nextId]
      graph := graph
      fresh := fun _ absurd => by cases absurd
      drops := fun _ absurd => by cases absurd
      news := fun pool handle slot bound sited => Or.inl (news pool handle slot bound sited) }
  · intro pool slot lost sited
    exact absurd sited (kept pool slot lost)

/-- A session in which nothing happens. -/
theorem Speaks.silent (opened : session ∈ w.opened)
    (same : w'.rmw.customSessions session = w.rmw.customSessions session)
    (graph : w'.rmw.registry.graph session = w.rmw.registry.graph session)
    (kept : ∀ pool slot, Lost w.rmw w'.rmw pool slot →
      w.rmw.registry.sessionOf pool slot ≠ some session)
    (news : ∀ pool handle slot, w'.rmw.registry.Bound pool handle slot →
      w'.rmw.registry.sessionOf pool slot = some session →
      w.rmw.registry.Bound pool handle slot) : Speaks cfg complete w w' session :=
  .quiet opened (congrArg Session.requests same) (congrArg Session.nextId same) graph kept news

/-- What asks for nothing and touches no entity. -/
theorem Speaks.of_registry (opened : session ∈ w.opened)
    (requests : (w'.rmw.customSessions session).requests =
      (w.rmw.customSessions session).requests)
    (nextId : (w'.rmw.customSessions session).nextId = (w.rmw.customSessions session).nextId)
    (registry : w'.rmw.registry = w.rmw.registry) : Speaks cfg complete w w' session := by
  refine .quiet opened requests nextId (by rw [registry]) ?_ ?_
  · rintro pool slot ⟨⟨handle, bound⟩, freed⟩
    exact absurd (registry ▸ bound) (freed handle)
  · intro pool handle slot bound sited
    exact registry ▸ bound

/-- Without a request nothing is told. -/
theorem Speaks.unchanged (opened : session ∈ w.opened)
    (sessions : w'.rmw.customSessions = w.rmw.customSessions)
    (registry : w'.rmw.registry = w.rmw.registry) : Speaks cfg complete w w' session :=
  .of_registry opened (by rw [sessions]) (by rw [sessions]) registry

/-- What is lost was given back. -/
theorem Change.lost (change : Change cfg room leaks gone w w') (sound : w.rmw.registry.Sound)
    (lost : Lost w.rmw w'.rmw pool slot) : gone pool slot := by
  obtain ⟨⟨handle, bound⟩, freed⟩ := lost
  by_contra stays
  exact freed handle (change.keeps sound bound stays).1

/-- The graph entities of an open session stay. -/
theorem Change.graph_eq (change : Change cfg room leaks gone w w') (numbered : Numbered cfg w)
    (opened : session ∈ w.opened) :
    w'.rmw.registry.graph session = w.rmw.registry.graph session := by
  cases change with
  | idle agrees => rw [agrees.graph]
  | leaked grown => rw [grown.graph]
  | node session handle slot entity new inside agrees =>
      rw [agrees.graph]
      rfl
  | leaf pool node nodeHandle session handle slot entity base isLeaf new nodeBound context
      withTopic agrees =>
      rw [agrees.graph]
      unfold WithTopic at withTopic
      split at withTopic
      · obtain ⟨topic, topicEntity, -, -, rfl⟩ := withTopic
        rfl
      · rw [withTopic]
        rfl
  | removed removal => rw [removal.graph]
  | attached context fresh objects attached =>
      have different : session ≠ fresh := by
        rintro rfl
        exact attached.free (numbered.opened session opened)
      rw [attached.registry]
      exact Function.update_of_ne different _ _

/-- A creation whose requests find room tells the agent of what it creates; it is complete if
it returns something, or has asked for nothing. -/
theorem Asks.speaks (asks : Asks cfg w.rmw s' pool session roomy result) (isRoomy : roomy)
    (news : News w.rmw s' pool session result) (sound : w.rmw.registry.Sound)
    (sound' : s'.registry.Sound) (numbered : Numbered cfg w)
    (change : Change cfg room leaks gone w (w.creating pool (result, s')))
    (stays : ∀ pool slot, ¬ gone pool slot) (opened : other ∈ w.opened) :
    Speaks cfg (result ≠ none ∨ s'.customSessions = w.rmw.customSessions) w
      (w.creating pool (result, s')) other := by
  have unlost : ∀ pool slot, ¬ Lost w.rmw s' pool slot := fun pool slot lost =>
    stays pool slot (change.lost sound lost)
  have graph := change.graph_eq numbered opened
  obtain ⟨written, wrote, describes⟩ := asks
  by_cases same : other = session
  · subst same
    have isNew : ∀ {handle slot}, result = some handle → s'.registry.Bound pool handle slot →
        ∃ made, s'.MadeFrom cfg pool handle slot made ∧ journal written = journal made := by
      intro handle slot isHandle bound
      obtain ⟨slot', bound', makes⟩ := describes handle isHandle
      obtain rfl := bound.slot_unique bound'
      exact makes isRoomy
    refine Or.inr ⟨opened, written, ⟨wrote.requests, wrote.nextId, graph, wrote.fresh, ?_, ?_⟩,
      fun complete => ⟨fun pool slot lost => absurd lost (unlost pool slot), ?_⟩⟩
    · exact fun object inside => absurd rfl (wrote.allowed _ inside object)
    · intro pool' handle slot bound sited
      rcases news.origin bound with before | ⟨rfl, isHandle⟩
      · exact Or.inl before
      · obtain ⟨made, makes, isJournal⟩ := isNew isHandle bound
        exact Or.inr (makes.described (sound'.titled bound) (news.sited isHandle bound).single
          isJournal)
    · rcases complete with isSome | silent
      · obtain ⟨handle, isHandle⟩ := Option.ne_none_iff_exists'.mp isSome
        obtain ⟨slot, bound, -⟩ := describes handle isHandle
        obtain ⟨made, makes, isJournal⟩ := isNew isHandle bound
        refine Or.inr ⟨pool, handle, slot, made, ?_, bound, (news.sited isHandle bound).session,
          makes, isJournal⟩
        intro pool' handle' slot' different bound'
        exact (news.origin bound').resolve_right fun same => different same.1
      · have nothing : written = [] := by
          have requests := wrote.requests
          rw [silent] at requests
          exact List.self_eq_append_left.mp requests
        subst nothing
        exact Or.inl fun _ absurd => by cases absurd
  · refine .silent opened (wrote.others other same) graph
      (fun pool slot lost => absurd lost (unlost pool slot)) fun pool' handle slot bound sited => ?_
    rcases news.origin bound with before | ⟨rfl, isHandle⟩
    · exact before
    · have isSession := (news.sited isHandle bound).session
      exact absurd (Option.some.inj (sited.symm.trans isSession)) same

/-- A destroy function that writes to the session of all that goes. -/
theorem Withdraws.speaks (withdraws : Withdraws w.rmw s' session roomy)
    (removal : w.rmw.registry.Removal s'.registry gone)
    (sited : ∀ pool handle slot, w.rmw.registry.Bound pool handle slot → gone pool slot →
      w.rmw.registry.sessionOf pool slot = some session)
    (opened : other ∈ w.opened) : Speaks cfg roomy w { w with rmw := s' } other := by
  have goes : ∀ pool slot, Lost w.rmw s' pool slot →
      w.rmw.registry.sessionOf pool slot = some session := by
    rintro pool slot ⟨⟨handle, bound⟩, freed⟩
    refine sited pool handle slot bound (by_contra fun stays => ?_)
    exact freed handle (removal.bound.mpr ⟨bound, stays⟩)
  have old : ∀ pool handle slot, s'.registry.Bound pool handle slot →
      w.rmw.registry.Bound pool handle slot := fun pool handle slot bound =>
    (removal.bound.mp bound).1
  have graph : s'.registry.graph other = w.rmw.registry.graph other := by rw [removal.graph]
  obtain ⟨written, wrote, only, all⟩ := withdraws
  by_cases same : other = session
  · subst same
    have creates : ∀ request ∈ written, ∀ object, request.creates ≠ some object := by
      intro request inside object absurd
      obtain ⟨-, -, other, -, -, -, isDelete⟩ := only request inside
      rw [isDelete] at absurd
      cases absurd
    refine Or.inr ⟨opened, written, ⟨wrote.requests, wrote.nextId, graph, ?_, ?_, ?_⟩,
      fun isRoomy => ⟨fun pool slot lost _ => all isRoomy pool slot lost, Or.inl ?_⟩⟩
    · exact fun request inside object absurd =>
        (creates request inside object absurd).elim
    · intro object inside
      obtain ⟨pool, slot, object', lost, isSession, within, isDelete⟩ := only _ inside
      cases isDelete
      exact ⟨pool, slot, lost, isSession, within⟩
    · exact fun pool handle slot bound _ => Or.inl (old pool handle slot bound)
    · intro entry inside
      obtain ⟨request, within, isEntry⟩ := List.mem_filterMap.mp inside
      obtain ⟨-, -, object, -, -, -, rfl⟩ := only request within
      exact ⟨object, (Option.some.inj isEntry).symm⟩
  · refine .silent opened (wrote.others other same) graph (fun pool slot lost absurd => ?_)
      fun pool handle slot bound _ => old pool handle slot bound
    exact same (Option.some.inj (absurd.symm.trans (goes pool slot lost)))

/-- `rmw_init` tells the agent of the graph entities of the new session. -/
theorem Initialisation.speaks {exit : InitExit} {call : InitCall} {ret : RmwRet}
    (initialisation : Initialisation cfg call w.rmw s' ret exit) (roomy : call.graph.Roomy)
    (returned : rmwInit cfg call w.rmw = .ok (ret, s')) (sound : w.rmw.registry.Sound)
    (numbered : Numbered cfg w) (opened : session ∈ (w.opening call (ret, s')).opened) :
    Speaks cfg complete w (w.opening call (ret, s')) session := by
  have unopened : ret ≠ .ok → session ∈ w.opened := by
    intro failed
    rwa [World.opening, if_neg failed] at opened
  -- The sessions that were open are none of the new one, and it changes nothing for them.
  have silent : ∀ {context fresh objects}, Attached w.rmw s' context fresh objects →
      session ∈ w.opened → Speaks cfg complete w (w.opening call (ret, s')) session := by
    intro context fresh objects attached before
    have different : session ≠ fresh := by
      rintro rfl
      exact attached.free (numbered.opened session before)
    refine .silent before (attached.others session different) ?_ ?_ ?_
    · exact (congrFun (congrArg Registry.graph attached.registry) session).trans
        (Function.update_of_ne different _ _)
    · rintro pool slot ⟨⟨handle, bound⟩, freed⟩
      refine absurd ?_ (freed handle)
      have same : s'.registry.Bound pool handle slot := by
        rw [attached.registry]
        exact bound
      exact same
    · intro pool handle slot bound sited
      have same : s'.registry.Bound pool handle slot := bound
      rw [attached.registry] at same
      exact same
  cases exit with
  | rejected =>
      obtain ⟨failed, rfl⟩ := initialisation
      exact .unchanged (unopened failed) rfl rfl
  | exhausted =>
      obtain ⟨failed, registry, sessions⟩ := initialisation
      exact .unchanged (unopened failed) sessions registry
  | failed =>
      obtain ⟨failed, context, fresh, objects, -, attached⟩ := initialisation
      exact silent attached (unopened failed)
  | completed =>
      obtain ⟨rfl, context, fresh, isContext, attached, started⟩ := initialisation
      have isImpl : (s'.contexts context).impl = some fresh := by
        have same : s'.registry.impl context = some fresh := by simp [attached.registry]
        exact same
      rw [World.opening, if_pos rfl, World.initialised, isContext, Option.bind_some, isImpl]
        at opened
      rcases List.mem_append.mp opened with isFresh | before
      · obtain rfl : session = fresh := by simpa using isFresh
        have unopened' : session ∉ w.opened := fun before =>
          attached.free (numbered.opened session before)
        refine Or.inl ⟨unopened', rmwInit_requests roomy isContext returned isImpl,
          started.nextId, ?_, ?_⟩
        · intro graph
          have same : s'.registry.graph session = firstGraphObjects := by
            rw [attached.registry, graph]
            exact Function.update_self _ _ _
          exact same
        · intro pool handle slot bound sited
          have bound' : s'.registry.Bound pool handle slot := bound
          have sited' : s'.registry.sessionOf pool slot = some session := sited
          rw [attached.registry] at bound' sited'
          exact attached.free (sound.held_session (Or.inl ⟨handle, bound'⟩) sited')
      · exact silent attached before

/-- Closing a context writes to no session that stays open. -/
theorem Registry.Removal.speaks_closing {context closed : Nat} {ret : RmwRet}
    (removal : w.rmw.registry.Removal s'.registry fun pool slot =>
      w.rmw.registry.SitedIn closed pool slot ∨ pool = .session ∧ slot = closed)
    (isImpl : w.rmw.registry.impl context = some closed)
    (writes : WritesOnly w.rmw s' closed)
    (opened : session ∈ (w.closing context (ret, s')).opened) :
    Speaks cfg complete w (w.closing context (ret, s')) session := by
  obtain ⟨before, stays⟩ := List.mem_filter.mp opened
  have different : session ≠ closed := by
    rintro rfl
    have isContext : (w.rmw.contexts context).impl = some session := isImpl
    have lost : (s'.contexts context).impl = none :=
      removal.impl_eq_none isImpl (Or.inr ⟨rfl, rfl⟩)
    simp [isContext, lost] at stays
  refine .silent before (writes.others session different) ?_ ?_ ?_
  · exact congrFun removal.graph session
  · rintro pool slot ⟨⟨handle, bound⟩, freed⟩ sited
    have goes : w.rmw.registry.SitedIn closed pool slot ∨ pool = .session ∧ slot = closed := by
      by_contra kept
      exact freed handle (removal.bound.mpr ⟨bound, kept⟩)
    rcases goes with ⟨node, ⟨-, isContext⟩, goes⟩ | ⟨rfl, rfl⟩
    · exact different (Option.some.inj (sited.symm.trans (goes.sessionOf isContext)))
    · cases sited
  · exact fun pool handle slot bound _ => (removal.bound.mp bound).1

/-- A creation that returns null has asked the agent for nothing. -/
def Op.Spares (cfg : Config) (op : Op) (w w' : World) : Prop :=
  op.exit cfg w.rmw ≠ none → w'.returned = w.returned →
    w'.rmw.customSessions = w.rmw.customSessions

/-- The conditions under which the agent is told of every entity: the requests that create
objects find room, no node is created that is not returned, and services and clients are
destroyed in their own session. -/
structure Heard (cfg : Config) (w : World) (op : Op) : Prop extends Safe cfg w op where
  returns : op.exit cfg w.rmw ≠ some .unreturned
  roomy : op.Roomy
  home : op.AtHome w.rmw.registry

/-- A creation that spares the agent returns an entity, or has written nothing. -/
theorem ne_none_of_spares {op : Op} (spares : op.Spares cfg w (w.creating pool (result, s')))
    (creates : op.exit cfg w.rmw ≠ none) :
    result ≠ none ∨ s'.customSessions = w.rmw.customSessions := by
  cases result with
  | none => exact Or.inr (spares creates (by simp [World.creating]))
  | some handle => exact Or.inl (Option.some_ne_none handle)

/-- What disturbs nothing says nothing. -/
theorem Undisturbed.speaks (undisturbed : Undisturbed w.rmw s') (opened : session ∈ w.opened) :
    Speaks cfg complete w { w with rmw := s' } session :=
  .unchanged opened undisturbed.sessions undisturbed.registry

/-- A creation gives nothing back. -/
theorem Op.stays_of_creation {op : Op} (r : Registry) (creation : op.exit cfg s ≠ none) :
    ∀ pool slot, ¬ op.gone r pool slot := by
  cases op with
  | createNode | createPublisher | createSubscription | createEndpoint => exact fun _ _ => id
  | _ => exact absurd rfl creation

/-- Every operation that is heard speaks of what it does, in every session that is open. -/
theorem exec_speaks {op : Op} (healthy : w.rmw.Healthy cfg admits) (sound : w.rmw.registry.Sound)
    (numbered : Numbered cfg w) (asked : op.Asked w) (acceptable : op.Acceptable cfg admits w.rmw)
    (heard : Heard cfg w op) (returned : exec cfg op w = .ok w') (opened : session ∈ w'.opened) :
    Speaks cfg (op.Deletes ∧ op.Spares cfg w w') w w' session := by
  obtain ⟨-, sound', change⟩ :=
    (exec_spec healthy sound asked acceptable heard.toSafe).of_eq_ok returned
  cases exec_turn healthy sound asked acceptable heard.toSafe returned with
  | opens call ret s' initialises initialisation =>
      exact initialisation.speaks heard.roomy initialises sound numbered opened
  | closes op context closed ret s' closes =>
      exact closes.removal.speaks_closing closes.isImpl closes.writes opened
  | refused => exact .unchanged opened rfl rfl
  | creates op pool home result s' creates =>
      exact (creates.asks.speaks heard.roomy (creates.news heard.returns) sound sound' numbered
        change (Op.stays_of_creation _ creates.creation) opened).mono fun complete =>
          ne_none_of_spares complete.2 creates.creation
  | destroys op home gone s' destroys =>
      obtain ⟨withdraws, sited⟩ := destroys.withdraws heard.home
      exact (withdraws.speaks destroys.removal sited opened).mono And.left
  | passes op s' undisturbed => exact undisturbed.speaks opened

/-- In the zeroed layer no session is open. -/
theorem mirrored_start (cfg : Config) : Mirrored cfg (layer cfg).start where
  keys := fun _ opened => by cases opened
  graph := fun _ opened => by cases opened
  described := fun _ opened => by cases opened

end RmwMicroxrcedds
