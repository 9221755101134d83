import RmwMicroxrcedds.Agent.Operations
import RmwMicroxrcedds.Agent.References
import RmwMicroxrcedds.Machine.Run

/-! # The agent mirrors the layer

In a run in which requests find room, what the agent is asked to hold for an open session is
the layer's live entities as they describe themselves, in their own words: under their
identifiers, on the wire, too, while the counters of the session have not run past sixteen bits.
If in addition what is destroyed is deleted, and what fails has asked for nothing, the agent
holds nothing else, nothing it holds refers to anything it does not hold, and every request
to create something comes after those for what it refers to.
-/

namespace RmwMicroxrcedds

open Journals Outcome Registry

variable {cfg : Config} {w w' : World} {session : Nat} {pool : Pool} {handle slot : Nat}
variable {object other : ObjectId} {request : XrceRequest} {op : Op}

/-- The conditions under which the agent is told of what goes, too, and of nothing else. -/
structure Clean (cfg : Config) (w : World) (op : Op) : Prop extends Heard cfg w op where
  deletes : op.Deletes
  spares : op.Spares cfg w ((layer cfg).next op w)

/-- In every run that is heard the agent mirrors the layer. -/
theorem reachable_mirrored (reachable : Reachable (layer cfg) (Heard cfg) w) : Mirrored cfg w := by
  induction reachable with
  | start => exact mirrored_start cfg
  | step before enabled heard steps ih =>
      obtain ⟨healthy, sound⟩ := reachable_sound before fun _ _ heard => heard.toSafe
      have numbered := reachable_numbered (before.mono fun _ _ heard => heard.toSafe)
      obtain ⟨-, sound', change⟩ :=
        (exec_spec healthy sound enabled.1 enabled.2 heard.toSafe).of_eq_ok steps
      refine ih.step numbered sound sound' healthy
        (exec_turn healthy sound enabled.1 enabled.2 heard.toSafe steps).names
        (fun pool slot inside inside' => change.entity_same sound inside inside') ?_
      intro session opened
      rcases exec_speaks healthy sound numbered enabled.1 enabled.2 heard steps opened with
        ⟨-, starts⟩ | ⟨before, written, tells, -⟩
      · exact Or.inl starts
      · exact Or.inr ⟨before, written, tells⟩

/-- The small run is clean. -/
theorem Small.withPublisher_clean : Reachable (layer config) (Clean config) withPublisher := by
  apply withPublisher_reachable
  · exact ⟨⟨⟨by decide, by decide, trivial⟩, by decide, ⟨rfl, rfl, rfl, rfl⟩, trivial⟩, trivial,
      fun absurd => (absurd rfl).elim⟩
  · exact ⟨⟨⟨by decide, by decide, trivial⟩, by decide, rfl, trivial⟩, trivial,
      fun _ same => by cases congrFun same .node⟩
  · exact ⟨⟨⟨by decide, by decide, trivial⟩, by decide, ⟨rfl, rfl, rfl⟩, trivial⟩, trivial,
      fun _ same => by cases congrFun same .publisher⟩

/-- Identifiers below the counters of a session are not confused while these fit. -/
theorem injOn_wired {nextId : ObjectType → Nat} (fits : ∀ type, nextId type ≤ 2 ^ 16) :
    Set.InjOn ObjectId.wired {object | object.id < nextId object.type} := by
  intro object below other below' same
  obtain ⟨sameId, sameType⟩ := ObjectId.mk.inj same
  have small : object.id < 2 ^ 16 := Nat.lt_of_lt_of_le below (fits _)
  have small' : other.id < 2 ^ 16 := Nat.lt_of_lt_of_le below' (fits _)
  rw [wire, wire, Nat.mod_eq_of_lt small, Nat.mod_eq_of_lt small'] at sameId
  cases object
  cases other
  obtain rfl := sameId
  obtain rfl := sameType
  rfl

/-- What the agent holds under an identifier it gets to see. -/
theorem Mirrored.onAgent (mirrored : Mirrored cfg w) (opened : session ∈ w.opened)
    (fits : ∀ type, (w.rmw.customSessions session).nextId type ≤ 2 ^ 16)
    (isDemand : (w.rmw.customSessions session).demand object = some request) :
    (w.rmw.customSessions session).onAgent object.wired = some request := by
  have inside := mem_of_replay isDemand
  rw [Session.onAgent, ← isDemand]
  exact replay_rename (injOn_wired fits) (mirrored.keys session opened)
    (mirrored.keys session opened _ inside)

/-- Every live entity of an open session is on the agent, and is what the layer has stored of it:
its objects are created in their order, under its identifiers and the names in its handle, in the
participant of its node, with its topic, its types and its quality of service. Of the quality of
service of a service or a client only the stream is stored, and of a node not the domain. The
agent sees the same under the identifiers on the wire, as long as the counters of the session fit
in sixteen bits. The graph entities are on it as well. -/
theorem agent_mirrors_layer (reachable : Reachable (layer cfg) (Heard cfg) w)
    (opened : session ∈ w.opened) :
    (∀ pool handle slot, w.rmw.registry.Bound pool handle slot →
      w.rmw.registry.sessionOf pool slot = some session →
      w.rmw.Described cfg (w.rmw.customSessions session).demand pool handle slot ∧
      ((∀ type, (w.rmw.customSessions session).nextId type ≤ 2 ^ 16) →
        w.rmw.Described cfg (fun object => (w.rmw.customSessions session).onAgent object.wired)
          pool handle slot)) ∧
    (cfg.graph = true → ∀ request ∈ graphRequests cfg (w.rmw.registry.graph session),
      ∃ object, request.creates = some object ∧
        (w.rmw.customSessions session).demand object = some request) := by
  have mirrored := reachable_mirrored reachable
  constructor
  · intro pool handle slot bound sited
    have described := mirrored.described session opened pool handle slot bound sited
    refine ⟨described, fun fits => ?_⟩
    obtain ⟨made, makes, asked⟩ := described
    refine ⟨made, makes, fun request inside => ?_⟩
    obtain ⟨object, creates, isDemand⟩ := asked request inside
    exact ⟨object, creates, mirrored.onAgent opened fits isDemand⟩
  · intro graph request inside
    obtain ⟨object, creates, -, isDemand⟩ := mirrored.graph session opened graph request inside
    exact ⟨object, creates, isDemand⟩

/-- In the small run the publisher is on the agent, and described. -/
theorem Small.withPublisher_mirrored :
    withPublisher.rmw.Described config
      (fun object => (withPublisher.rmw.customSessions 0).onAgent object.wired)
      .publisher 0 1 :=
  ((agent_mirrors_layer (withPublisher_clean.mono fun _ _ clean => clean.toHeard)
    (by decide : 0 ∈ withPublisher.opened)).1 .publisher 0 1 (by decide) (by decide)).2
    fun type => by cases type <;> exact Nat.le_of_ble_eq_true rfl

end RmwMicroxrcedds
