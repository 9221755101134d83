import RmwMicroxrcedds.Agent.Operations
import RmwMicroxrcedds.Machine.Run
import RmwMicroxrcedds.Refinement.Sending

/-! # The layer with its senders

The machine of the layer, with the functions that write samples beside it. What is written is
recorded by session: by whom, under which number, and from which state of the layer. A session that
is opened again starts a new record.
-/

namespace RmwMicroxrcedds

open Outcome Registry

/-- A sample that was written, with the layer as it was then. -/
structure Sent where
  pool : Pool
  handle : Nat
  slot : Nat
  write : StreamWrite
  requestId : Nat
  sequenceId : Option Nat
  layer : Rmw

/-- The layer, the callbacks of its publishers, and what was written. -/
structure Station where
  world : World := {}
  continous : Nat → ContinousSerialization := fun _ => {}
  sent : Nat → List Sent := fun _ => []

/-- The operations of the layer, and those of the applications that write. -/
inductive StationOp where
  | layer (op : Op)
  | setContinous (publisher : Nat) (callbacks : ContinousSerialization)
  | publish (call : PublishCall)
  | sendRequest (call : SendCall)
  | sendResponse (header : RmwRequestId) (call : SendCall)

/-- The slot and the session of a handle. -/
def Rmw.writer (s : Rmw) (pool : Pool) (handle : Option Nat) : Option (Nat × Nat) :=
  handle.bind fun handle => (s.registry.data pool handle).join.bind fun slot =>
    (s.registry.sessionOf pool slot).map fun session => (slot, session)

namespace Station

/-- A sender returned. -/
def sending (st : Station) (pool : Pool) (handle : Option Nat) (result : SendResult × Rmw) :
    Station :=
  { st with
    world := { st.world with rmw := result.2 }
    sent :=
      match handle, st.world.rmw.writer pool handle, result.1.written with
      | some handle, some (slot, session), some write =>
          Function.update st.sent session
            ({ pool := pool
               handle := handle
               slot := slot
               write := write
               requestId := (result.2.customSessions session).lastRequestId
               sequenceId := result.1.sequenceId
               layer := st.world.rmw } :: st.sent session)
      | _, _, _ => st.sent }

/-- An operation of the layer returned. The callbacks of a slot are null when it is taken, and a
session that was opened has no record yet. -/
def passing (st : Station) (world : World) : Station where
  world := world
  continous := fun slot =>
    if slot ∈ world.rmw.allocated .publisher ∧ slot ∉ st.world.rmw.allocated .publisher then {}
    else st.continous slot
  sent := fun session =>
    if session ∈ world.opened ∧ session ∉ st.world.opened then [] else st.sent session

end Station

/-- One operation. -/
def execStation (cfg : Config) : StationOp → Station → Exec Station
  | .layer op, st => do return st.passing (← exec cfg op st.world)
  | .setContinous publisher callbacks, st => do
      return { st with
        continous := ← rmwUrosSetContinousSerializationCallbacks publisher callbacks st.continous
          st.world.rmw }
  | .publish call, st => do
      return st.sending .publisher call.publisher
        (← rmwPublish cfg st.continous call st.world.rmw)
  | .sendRequest call, st => do
      return st.sending .client (some call.handle) (← rmwSendRequest cfg call st.world.rmw)
  | .sendResponse header call, st => do
      return st.sending .service (some call.handle)
        (← rmwSendResponse cfg header call st.world.rmw)

/-- What the API asks of the caller of an operation. -/
def StationOp.Asked (st : Station) : StationOp → Prop
  | .layer op => op.Asked st.world
  | .setContinous publisher _ => st.world.Live .publisher publisher
  | .publish call => ∀ publisher, call.publisher = some publisher →
      st.world.Live .publisher publisher
  | .sendRequest call => st.world.Live .client call.handle
  | .sendResponse _ call => st.world.Live .service call.handle

/-- The messages that arrive during an operation may be stored. -/
def StationOp.Acceptable (cfg : Config) (admits : Admission) (s : Rmw) : StationOp → Prop
  | .layer op => op.Acceptable cfg admits s
  | .setContinous _ _ => True
  | .publish call => ∀ slot session, s.writer .publisher call.publisher = some (slot, session) →
      ∀ delivery ∈ call.flushed ++ call.deliveries,
        RmwMicroxrcedds.Acceptable cfg admits s.registry session delivery
  | .sendRequest call => ∀ slot session,
      s.writer .client (some call.handle) = some (slot, session) → ∀ delivery ∈ call.deliveries,
        RmwMicroxrcedds.Acceptable cfg admits s.registry session delivery
  | .sendResponse _ call => ∀ slot session,
      s.writer .service (some call.handle) = some (slot, session) → ∀ delivery ∈ call.deliveries,
        RmwMicroxrcedds.Acceptable cfg admits s.registry session delivery

/-- The station as a machine. -/
def station (cfg : Config) : Machine Station StationOp Fault where
  start := {}
  step := execStation cfg
  enabled := fun st op => op.Asked st ∧ op.Acceptable cfg everyone st.world.rmw

/-- The operations of the layer meet the condition. -/
def StationOp.Meets (allowed : World → Op → Prop) (st : Station) : StationOp → Prop
  | .layer op => allowed st.world op
  | _ => True

variable {cfg : Config} {admits : Admission} {st st' : Station} {w w' : World} {s : Rmw}
variable {allowed : World → Op → Prop} {op : StationOp} {pool : Pool}
variable {handle slot session : Nat}

/-- The writer behind a live handle of an entity of a node. -/
theorem writer_of_live (sound : w.rmw.registry.Sound) (leaf : pool.isLeaf = true)
    (live : w.Live pool handle) : ∃ slot session, w.rmw.registry.Bound pool handle slot ∧
      w.rmw.registry.sessionOf pool slot = some session ∧
      w.rmw.writer pool (some handle) = some (slot, session) ∧
      ∀ node, (w.rmw.entity pool slot).ownerNode = some node →
        (w.rmw.customNodes node).context = some session := by
  obtain ⟨slot, bound⟩ := live.bound sound
  obtain ⟨session, -, sited⟩ := sound.session_of_held (Or.inl ⟨_, bound⟩)
  have isSlot : w.rmw.registry.data pool handle = some (some slot) := bound
  refine ⟨slot, session, bound, sited, by simp [Rmw.writer, isSlot, sited], ?_⟩
  intro node isOwner
  have owner : (w.rmw.registry.entity pool slot).ownerNode = some node := isOwner
  rw [Registry.sessionOf, if_neg (ne_node_of_isLeaf leaf), owner] at sited
  exact sited

/-- What a sender does to the station. -/
inductive Sending (cfg : Config) (admits : Admission) (st st' : Station) : Prop
  | silent (world : st'.world = st.world) (sent : st'.sent = st.sent)
  | sends (pool : Pool) (handle slot session : Nat) (result : SendResult × Rmw)
      (leaf : pool.isLeaf = true) (bound : st.world.rmw.registry.Bound pool handle slot)
      (sited : st.world.rmw.registry.sessionOf pool slot = some session)
      (writer : st.world.rmw.writer pool (some handle) = some (slot, session))
      (sends : Sends cfg admits st.world.rmw pool session slot result)
      (isNext : st' = st.sending pool (some handle) result)

/-- Every operation of a station is one of the layer, or a sender. -/
theorem execStation_spec (healthy : st.world.rmw.Healthy cfg admits)
    (sound : st.world.rmw.registry.Sound) (asked : op.Asked st)
    (acceptable : op.Acceptable cfg admits st.world.rmw)
    (safe : op.Meets (Safe cfg) st) :
    Yields (execStation cfg op st) fun st' =>
      (∃ layerOp w', op = .layer layerOp ∧ exec cfg layerOp st.world = .ok w' ∧
        st' = st.passing w' ∧ Steps cfg admits layerOp st.world w') ∨
      Sending cfg admits st st' := by
  cases op with
  | layer layerOp =>
      obtain ⟨w', returned, steps⟩ := exec_spec healthy sound asked acceptable safe
      simp only [execStation, returned]
      exact yields_ok.mpr (Or.inl ⟨layerOp, w', rfl, returned, rfl, steps⟩)
  | setContinous publisher callbacks =>
      obtain ⟨slot, bound⟩ := World.Live.bound asked sound
      obtain ⟨contents, -, isData, isRead, -⟩ := healthy.block_of_data bound
      simp only [execStation, rmwUrosSetContinousSerializationCallbacks, isRead, ok_bind, isData,
        deref]
      exact yields_ok.mpr (Or.inr (.silent rfl rfl))
  | publish call =>
      cases isPublisher : call.publisher with
      | none =>
          have refused : rmwPublish cfg st.continous call st.world.rmw =
              .ok ({ ret := .error }, st.world.rmw) := by simp [rmwPublish, isPublisher]
          simp only [execStation, refused]
          refine yields_ok.mpr (Or.inr (.silent rfl ?_))
          simp [Station.sending]
      | some publisher =>
          obtain ⟨slot, session, bound, sited, writer, home⟩ :=
            writer_of_live sound rfl (asked publisher isPublisher)
          refine (rmwPublish_spec healthy sound home rfl isPublisher bound
            (acceptable slot session (isPublisher ▸ writer))).bind fun result sends => ?_
          exact yields_pure.mpr (Or.inr (.sends .publisher publisher slot session result rfl bound
            sited writer sends (isPublisher ▸ rfl)))
  | sendRequest call =>
      obtain ⟨slot, session, bound, sited, writer, home⟩ := writer_of_live sound rfl asked
      refine (rmwSendRequest_spec healthy sound home rfl bound
        (acceptable slot session writer)).bind fun result sends => ?_
      exact yields_pure.mpr (Or.inr (.sends .client call.handle slot session result rfl bound
        sited writer sends rfl))
  | sendResponse header call =>
      obtain ⟨slot, session, bound, sited, writer, home⟩ := writer_of_live sound rfl asked
      refine (rmwSendResponse_sends healthy sound home rfl bound
        (acceptable slot session writer)).bind fun result sends => ?_
      exact yields_pure.mpr (Or.inr (.sends .service call.handle slot session result rfl bound
        sited writer sends rfl))

/-- A sender changes nothing of the layer but a counter. -/
theorem Sends.change {result : SendResult × Rmw}
    (sends : Sends cfg admits w.rmw pool session slot result) {room : Bool}
    {gone : Pool → Nat → Prop} : Change cfg room [] gone w { w with rmw := result.2 } :=
  .idle (.of_eq sends.draws.registry) sends.draws.advance rfl rfl

/-- The layer of a station that ran is healthy, and its numbers are apart. -/
theorem station_sound (reachable : Reachable (station cfg) (StationOp.Meets allowed) st)
    (safe : ∀ w op, allowed w op → Safe cfg w op) :
    st.world.rmw.Healthy cfg everyone ∧ st.world.rmw.registry.Sound ∧ Numbered cfg st.world := by
  induction reachable with
  | start =>
      obtain ⟨healthy, sound⟩ :=
        reachable_sound (.start : Reachable (layer cfg) (Safe cfg) {}) fun _ _ => id
      exact ⟨healthy, sound, reachable_numbered .start⟩
  | @step st st' op before enabled meets steps ih =>
      obtain ⟨healthy, sound, numbered⟩ := ih
      have isSafe : op.Meets (Safe cfg) st := by
        cases op with
        | layer layerOp => exact safe _ _ meets
        | setContinous | publish | sendRequest | sendResponse => trivial
      rcases (execStation_spec healthy sound enabled.1 enabled.2 isSafe).of_eq_ok steps with
        ⟨layerOp, w', -, -, rfl, healthy', sound', change⟩ | sending
      · exact ⟨healthy', sound', change.numbered sound sound' numbered⟩
      · cases sending with
        | silent world =>
            rw [world]
            exact ⟨healthy, sound, numbered⟩
        | sends pool handle slot session result leaf bound sited writer sends isNext =>
            subst isNext
            have sound' : result.2.registry.Sound := sends.draws.registry ▸ sound
            have change : Change cfg true [] (fun _ _ => False) st.world
                { st.world with rmw := result.2 } := sends.change
            exact ⟨sends.healthy, sound', change.numbered sound sound' numbered⟩

/-- Every run of the layer is one of a station in which nobody writes. -/
theorem station_of_layer (reachable : Reachable (layer cfg) allowed w) :
    Reachable (station cfg) (StationOp.Meets allowed) { world := w } := by
  induction reachable with
  | start => exact .start
  | @step w w' op before enabled meets steps ih =>
      have returned : exec cfg op w = .ok w' := steps
      have same : ({ world := w } : Station).passing w' = { world := w' } := by
        simp [Station.passing]
      have isStep : execStation cfg (.layer op) { world := w } = .ok { world := w' } := by
        simp only [execStation, returned, ok_bind, same]
        rfl
      exact @Reachable.step _ _ _ (station cfg) _ _ _ (.layer op) ih enabled meets isStep

end RmwMicroxrcedds
