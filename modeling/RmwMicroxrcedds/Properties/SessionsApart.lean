import RmwMicroxrcedds.Agent.Operations
import RmwMicroxrcedds.Machine.Run

/-! # Sessions stay apart

All contexts share the pools of the layer. Still, what is done through one of them leaves the
session of another as it is: its client, its entities, their handles and topics, and its graph
entities, whatever happens in between and however calls fail.
-/

namespace RmwMicroxrcedds

open Outcome Registry

variable {cfg : Config} {admits : Admission} {w w' w'' : World} {s s' : Rmw} {pool : Pool}
variable {session home node nodeHandle handle slot topic : Nat} {op : Op} {room : Bool}
variable {result : Option Nat} {leaks : List Pool} {gone : Pool → Nat → Prop}

/-- The session is open, and as it was: its client, its graph entities, and its live entities
with their handles, their names, their contents and their topics. -/
structure LeftAlone (session : Nat) (w w' : World) : Prop where
  opened : session ∈ w'.opened
  client : w'.rmw.customSessions session = w.rmw.customSessions session
  graph : w'.rmw.registry.graph session = w.rmw.registry.graph session
  live : ∀ pool handle slot, w'.rmw.registry.Bound pool handle slot ∧
      w'.rmw.registry.sessionOf pool slot = some session ↔
    w.rmw.registry.Bound pool handle slot ∧ w.rmw.registry.sessionOf pool slot = some session
  contents : ∀ pool handle slot, w.rmw.registry.Bound pool handle slot →
    w.rmw.registry.sessionOf pool slot = some session →
    w'.rmw.entity pool slot = w.rmw.entity pool slot ∧
      ∀ topic, (w.rmw.entity pool slot).topicOf = some topic →
        w'.rmw.entity .topic topic = w.rmw.entity .topic topic
  names : ∀ pool handle slot, w.rmw.registry.Bound pool handle slot →
    w.rmw.registry.sessionOf pool slot = some session →
    w'.rmw.namesOf pool handle = w.rmw.namesOf pool handle

/-- An open session is left alone by nothing. -/
theorem LeftAlone.refl (opened : session ∈ w.opened) : LeftAlone session w w :=
  ⟨opened, rfl, rfl, fun _ _ _ => Iff.rfl, fun _ _ _ _ _ => ⟨rfl, fun _ _ => rfl⟩,
    fun _ _ _ _ _ => rfl⟩

/-- What is left alone twice is left alone. -/
theorem LeftAlone.trans (first : LeftAlone session w w') (second : LeftAlone session w' w'') :
    LeftAlone session w w'' where
  opened := second.opened
  client := second.client.trans first.client
  graph := second.graph.trans first.graph
  live := fun pool handle slot => (second.live pool handle slot).trans (first.live pool handle slot)
  contents := by
    intro pool handle slot bound sited
    obtain ⟨bound', sited'⟩ := (first.live pool handle slot).mpr ⟨bound, sited⟩
    obtain ⟨same, titles⟩ := first.contents pool handle slot bound sited
    obtain ⟨same', titles'⟩ := second.contents pool handle slot bound' sited'
    refine ⟨same'.trans same, fun topic isTopic => ?_⟩
    exact (titles' topic (same ▸ isTopic)).trans (titles topic isTopic)
  names := by
    intro pool handle slot bound sited
    obtain ⟨bound', sited'⟩ := (first.live pool handle slot).mpr ⟨bound, sited⟩
    exact (second.names pool handle slot bound' sited').trans
      (first.names pool handle slot bound sited)

/-- An operation that does not work in a session gives back none of its entities. -/
theorem Op.stays_of_not_within {r : Registry} (sound : r.Sound) (apart : ¬ op.Within r session)
    (bound : r.Bound pool handle slot) (sited : r.sessionOf pool slot = some session) :
    ¬ op.gone r pool slot := by
  -- What goes with a node is in the session of the node.
  have cascade : ∀ {home}, (∃ node, r.NodeOf home node ∧ r.GoesWith node pool slot) →
      home = session := by
    rintro home ⟨node, ⟨-, context⟩, goes⟩
    exact Option.some.inj ((goes.sessionOf context).symm.trans sited)
  have notSession : ¬ ∃ home, pool = .session ∧ slot = home := by
    rintro ⟨-, rfl, -⟩
    cases sound.hasHandle bound
  cases op with
  | contextFini context teardown | shutdown context teardown =>
      rintro ⟨home, isImpl, goes | isSession⟩
      · exact apart (cascade goes ▸ isImpl)
      · exact notSession ⟨home, isSession⟩
  | destroyNode nodeHandle teardown =>
      rintro ⟨node, nodeBound, goes⟩
      obtain ⟨home, context, -⟩ := (sound.placed nodeBound).sited rfl
      refine apart ⟨node, nodeBound, ?_⟩
      rw [← sited, goes.sessionOf context, Registry.sessionOf, if_pos rfl, context]
  | destroyPublisher nodeHandle publisher teardown =>
      rintro ⟨rfl, isBound⟩
      exact apart ⟨slot, isBound, sited⟩
  | destroySubscription nodeHandle subscription teardown =>
      rintro ⟨rfl, isBound⟩
      exact apart ⟨slot, isBound, sited⟩
  | destroyEndpoint kind nodeHandle endpoint exchange =>
      rintro ⟨rfl, isBound⟩
      exact apart (Or.inr ⟨slot, isBound, sited⟩)
  | _ => exact id

/-- Nor does it close the session. -/
theorem Op.open_of_not_within {r : Registry} (apart : ¬ op.Within r session) :
    ¬ op.gone r .session session := by
  cases op with
  | contextFini context teardown | shutdown context teardown =>
      rintro ⟨home, isImpl, ⟨node, -, ⟨leaf, -⟩ | ⟨absurd, -⟩⟩ | ⟨-, rfl⟩⟩
      · cases leaf
      · cases absurd
      · exact apart isImpl
  | destroyNode nodeHandle teardown =>
      rintro ⟨node, -, ⟨leaf, -⟩ | ⟨absurd, -⟩⟩
      · cases leaf
      · cases absurd
  | destroyPublisher | destroySubscription => exact fun absurd => by cases absurd.1
  | destroyEndpoint kind =>
      rintro ⟨absurd, -⟩
      cases kind <;> cases absurd
  | _ => exact id

/-- A change that gives back nothing of a session, and adds nothing to it, leaves it alone. -/
theorem Change.leftAlone (change : Change cfg room leaks gone w w')
    (healthy : w.rmw.Healthy cfg admits) (sound : w.rmw.registry.Sound)
    (sound' : w'.rmw.registry.Sound) (numbered : Numbered cfg w) (opened : session ∈ w.opened)
    (stays : ∀ pool handle slot, w.rmw.registry.Bound pool handle slot →
      w.rmw.registry.sessionOf pool slot = some session → ¬ gone pool slot)
    (remains : ¬ gone .session session)
    (news : ∀ pool handle slot, w'.rmw.registry.Bound pool handle slot →
      w'.rmw.registry.sessionOf pool slot = some session → w.rmw.registry.Bound pool handle slot)
    (client : w'.rmw.customSessions session = w.rmw.customSessions session)
    (names : KeepsNames w.rmw w'.rmw) : LeftAlone session w w' := by
  have contents : SameContents w.rmw w'.rmw := fun pool slot => change.entity_same sound
  have keeps : ∀ {pool handle slot}, w.rmw.registry.Bound pool handle slot →
      w.rmw.registry.sessionOf pool slot = some session →
      w'.rmw.registry.Bound pool handle slot := fun bound sited =>
    (change.keeps sound bound (stays _ _ _ bound sited)).1
  refine ⟨?_, client, change.graph_eq numbered opened, fun pool handle slot => ⟨?_, ?_⟩, ?_, ?_⟩
  · cases change with
    | idle _ _ _ same | leaked _ _ _ _ same => exact same ▸ opened
    | node _ _ _ _ _ _ _ _ _ same => exact same ▸ opened
    | leaf _ _ _ _ _ _ _ _ _ _ _ _ _ _ _ _ same => exact same ▸ opened
    | removed _ _ _ same => exact (same session).mpr ⟨opened, remains⟩
    | attached context fresh objects attached returned same =>
        rcases same with same | ⟨same, -⟩
        · exact same ▸ opened
        · exact same ▸ List.mem_cons_of_mem _ opened
  · rintro ⟨bound', sited'⟩
    have bound := news pool handle slot bound' sited'
    exact ⟨bound, by rw [← contents.sessionOf_eq sound sound' bound bound']; exact sited'⟩
  · rintro ⟨bound, sited⟩
    have bound' := keeps bound sited
    exact ⟨bound', by rw [contents.sessionOf_eq sound sound' bound bound']; exact sited⟩
  · intro pool handle slot bound sited
    have bound' := keeps bound sited
    exact ⟨contents.entity_eq sound sound' bound bound',
      fun topic isTopic => contents.topic_eq sound sound' bound bound' isTopic⟩
  · intro pool handle slot bound sited
    exact names.namesOf_eq (healthy.allocated_of_bound bound) (keeps bound sited)

/-- Nothing was added to the session, and nothing written to it. -/
structure Rmw.Aside (s s' : Rmw) (session : Nat) : Prop where
  news : ∀ pool handle slot, s'.registry.Bound pool handle slot →
    s'.registry.sessionOf pool slot = some session → s.registry.Bound pool handle slot
  client : s'.customSessions session = s.customSessions session

/-- What disturbs nothing stays aside. -/
theorem Undisturbed.aside (undisturbed : Undisturbed s s') : s.Aside s' session where
  news := fun pool handle slot bound _ => by
    rw [undisturbed.registry] at bound
    exact bound
  client := congrFun undisturbed.sessions session

/-- A removal stays aside of the sessions it does not write to. -/
theorem Registry.Removal.aside (removal : s.registry.Removal s'.registry gone)
    (client : s'.customSessions session = s.customSessions session) : s.Aside s' session where
  news := fun _ _ _ bound _ => (removal.bound.mp bound).1
  client := client

/-- A creation stays aside of the sessions that are not the one of the node. -/
theorem Asks.aside {roomy : Prop} (asks : Asks cfg s s' pool home roomy result)
    (origin : ∀ pool handle slot, s'.registry.Bound pool handle slot →
      s.registry.Bound pool handle slot ∨ s'.registry.sessionOf pool slot = some home)
    (different : session ≠ home) : s.Aside s' session where
  news := fun pool handle slot bound sited => by
    refine (origin pool handle slot bound).resolve_right fun isHome => different ?_
    exact Option.some.inj (sited.symm.trans isHome)
  client := by
    obtain ⟨written, wrote, -⟩ := asks
    exact wrote.others session different

/-- `rmw_init` stays aside of the sessions in use. -/
theorem Initialisation.aside {exit : InitExit} {call : InitCall} {ret : RmwRet}
    (initialisation : Initialisation cfg call s s' ret exit)
    (inside : session ∈ s.registry.allocated .session) : s.Aside s' session := by
  have attached : ∀ {context fresh objects}, Attached s s' context fresh objects →
      s.Aside s' session := by
    intro context fresh objects attached
    refine ⟨fun pool handle slot bound _ => ?_, attached.others session ?_⟩
    · rw [attached.registry] at bound
      exact bound
    · rintro rfl
      exact attached.free inside
  cases exit with
  | rejected =>
      obtain ⟨-, rfl⟩ := initialisation
      exact ⟨fun _ _ _ bound _ => bound, rfl⟩
  | exhausted =>
      obtain ⟨-, registry, sessions⟩ := initialisation
      refine ⟨fun _ _ _ bound _ => ?_, congrFun sessions session⟩
      rw [registry] at bound
      exact bound
  | failed =>
      obtain ⟨-, _, _, _, -, isAttached⟩ := initialisation
      exact attached isAttached
  | completed =>
      obtain ⟨-, _, _, -, isAttached, -⟩ := initialisation
      exact attached isAttached

/-- An operation stays aside of the open sessions it does not work in. -/
theorem exec_aside (healthy : w.rmw.Healthy cfg admits) (sound : w.rmw.registry.Sound)
    (asked : op.Asked w) (acceptable : op.Acceptable cfg admits w.rmw) (safe : Safe cfg w op)
    (inside : session ∈ w.rmw.registry.allocated .session)
    (apart : ¬ op.Within w.rmw.registry session) (returned : exec cfg op w = .ok w') :
    w.rmw.Aside w'.rmw session := by
  have elsewhere : ∀ {home}, op.Within w.rmw.registry home → session ≠ home := by
    rintro home within rfl
    exact apart within
  cases exec_turn healthy sound asked acceptable safe returned with
  | opens call ret s' initialises initialisation => exact initialisation.aside inside
  | closes op context closed ret s' closes =>
      exact closes.removal.aside (closes.writes.others session (elsewhere closes.within))
  | refused => exact ⟨fun _ _ _ bound _ => bound, rfl⟩
  | creates op pool home result s' creates =>
      exact creates.asks.aside creates.origin (elsewhere creates.within)
  | destroys op home gone s' destroys =>
      exact destroys.removal.aside (destroys.writes.others session (elsewhere destroys.within))
  | passes op s' undisturbed => exact undisturbed.aside

/-- The operation is safe, and does not work in the session. -/
def Elsewhere (cfg : Config) (session : Nat) (w : World) (op : Op) : Prop :=
  Safe cfg w op ∧ ¬ op.Within w.rmw.registry session

/-- In every run, from wherever on all operations work in other sessions, or in none, an open
session is left alone, whatever other contexts are opened and closed, whatever entities are
created and destroyed in them, and whichever of these calls fail. -/
theorem sessions_stay_apart (reachable : Reachable (layer cfg) (Safe cfg) w)
    (opened : session ∈ w.opened)
    (run : Relation.ReflTransGen ((layer cfg).Moves (Elsewhere cfg session)) w w') :
    LeftAlone session w w' := by
  induction run with
  | refl => exact .refl opened
  | @tail w₁ w₂ run moves ih =>
      have reachable₁ := reachable.moves (fun _ _ elsewhere => elsewhere.1) run
      obtain ⟨op, enabled, ⟨safe, apart⟩, steps⟩ := moves
      obtain ⟨healthy, sound⟩ := reachable_sound reachable₁ fun _ _ => id
      have numbered := reachable_numbered reachable₁
      obtain ⟨-, sound', change⟩ :=
        (exec_spec healthy sound enabled.1 enabled.2 safe).of_eq_ok steps
      have aside := exec_aside healthy sound enabled.1 enabled.2 safe
        (numbered.opened session ih.opened) apart steps
      have turn := exec_turn healthy sound enabled.1 enabled.2 safe steps
      exact ih.trans (change.leftAlone healthy sound sound' numbered ih.opened
        (fun _ _ _ => Op.stays_of_not_within sound apart) (Op.open_of_not_within apart)
        aside.news aside.client turn.names)

namespace Small

/-- A build with room for two contexts, and a node in each of them. -/
def pairConfig : Config := { config with maxSessions := 2, maxNodes := 2 }

/-- The layer with the first context and its node. -/
def one : World :=
  (layer pairConfig).next (.createNode Small.node) ((layer pairConfig).next (.init init) {})

/-- The layer with the second context, too. -/
def two : World := (layer pairConfig).next (.init { init with context := some 1 }) one

/-- The layer with its node, too. -/
def pair : World := (layer pairConfig).next (.createNode { Small.node with context := some 1 }) two

theorem one_reachable : Reachable (layer pairConfig) (Safe pairConfig) one := by
  refine .next (.next .start ⟨trivial, fun _ _ _ inside => by cases inside⟩
    ⟨by decide, by decide, trivial⟩ rfl) ⟨fun context isContext => ?_, ?_⟩
    ⟨by decide, by decide, trivial⟩ rfl
  · cases isContext
    rfl
  · intro _ _ _ _ _ inside
    cases inside

/-- The second context is opened, and gets its node, without the first one. -/
theorem one_to_pair :
    Relation.ReflTransGen ((layer pairConfig).Moves (Elsewhere pairConfig 1)) one pair := by
  have opens : (layer pairConfig).Moves (Elsewhere pairConfig 1) one two :=
    ⟨.init { init with context := some 1 }, ⟨trivial, fun _ _ _ inside => by cases inside⟩,
      ⟨⟨by decide, by decide, trivial⟩, id⟩, rfl⟩
  refine .tail (.single opens) ⟨.createNode { Small.node with context := some 1 },
    ⟨fun context isContext => ?_, ?_⟩,
    ⟨⟨by decide +kernel, by decide +kernel, trivial⟩, ?_⟩, rfl⟩
  · cases isContext
    rfl
  · intro _ _ _ _ _ inside
    cases inside
  · rintro ⟨context, isContext, isImpl⟩
    cases isContext
    exact absurd isImpl (by decide +kernel)

end Small

/-- The session of the first context is left alone. -/
theorem Small.one_left_alone : LeftAlone 1 one pair :=
  sessions_stay_apart one_reachable (by decide) one_to_pair

end RmwMicroxrcedds
