import RmwMicroxrcedds.Machine.Station

/-! # What is written reaches an object the agent has

Publishers, clients and services write to objects of their own. In a run in which creations are
heard, each sample is written to an object the agent had been asked for by then, and not asked
to delete: the one its entity was created with.
-/

namespace RmwMicroxrcedds

open Journals Outcome Registry

variable {cfg : Config} {st st' : Station} {w w' : World} {op : StationOp} {pool : Pool}
variable {session handle slot : Nat} {sent : Sent}

namespace Small

/-- `rmw_publish` of two bytes by the publisher of the small run. -/
def publish : PublishCall where
  publisher := some 0
  rosMessage := some ⟨2, [1, 2]⟩

end Small

/-- What meets a condition meets a weaker one. -/
theorem StationOp.Meets.mono {allowed allowed' : World → Op → Prop}
    (meets : op.Meets allowed st) (weaker : ∀ w op, allowed w op → allowed' w op) :
    op.Meets allowed' st := by
  cases op with
  | layer layerOp => exact weaker _ _ meets
  | setContinous | publish | sendRequest | sendResponse => trivial

/-- A sender asks for nothing. -/
theorem Sends.speaks {admits : Admission} {result : SendResult × Rmw} {complete : Prop}
    {other : Nat} (sends : Sends cfg admits w.rmw pool session slot result)
    (opened : other ∈ w.opened) : Speaks cfg complete w { w with rmw := result.2 } other := by
  by_cases same : other = session
  · subst same
    exact .of_registry opened sends.draws.requests sends.draws.nextId sends.draws.registry
  · have unchanged := sends.draws.others other same
    exact .of_registry opened (congrArg Session.requests unchanged)
      (congrArg Session.nextId unchanged) sends.draws.registry

/-- What an entity writes to is among what it is made from. -/
theorem Rmw.MadeFrom.outlet {s : Rmw} {made : List XrceRequest} {object : ObjectId}
    {stream : StreamId} (makes : s.MadeFrom cfg pool handle slot made)
    (outlet : s.outlet pool slot = some (object, stream)) :
    ∃ request ∈ made, request.creates = some object := by
  unfold Rmw.MadeFrom at makes
  unfold Rmw.outlet at outlet
  generalize s.entity pool slot = entity at makes outlet
  cases makes with
  | node => cases outlet
  | topicEnd entity topicEnd topicName callbacks title request isEnd named typed titled stream
      isTitle isRequest =>
      cases entity with
      | publisher publisher =>
          cases outlet
          cases isEnd
          exact ⟨request, List.mem_cons_self, (creates_datawriterRequest isRequest).1⟩
      | subscription => cases outlet
      | node | endpoint | topic | other => cases isEnd
  | endpoint endpoint kind serviceName members qos request named typed isKind stream isRequest =>
      cases outlet
      exact ⟨request, List.mem_cons_self, (creates_endpointRequest isRequest).1⟩

/-- What is in the record of a session after a sender was there before, or is its sample. -/
theorem Station.mem_sending {result : SendResult × Rmw} {other : Nat}
    (writer : st.world.rmw.writer pool (some handle) = some (slot, session))
    (inside : sent ∈ (st.sending pool (some handle) result).sent other) :
    sent ∈ st.sent other ∨ other = session ∧ ∃ write, result.1.written = some write ∧
      sent = { pool := pool, handle := handle, slot := slot, write := write,
               requestId := (result.2.customSessions session).lastRequestId,
               sequenceId := result.1.sequenceId, layer := st.world.rmw } := by
  unfold Station.sending at inside
  rw [writer] at inside
  cases isWritten : result.1.written with
  | none =>
      rw [isWritten] at inside
      exact Or.inl inside
  | some write =>
      rw [isWritten] at inside
      by_cases same : other = session
      · subst same
        dsimp only at inside
        rw [Function.update_self] at inside
        rcases List.mem_cons.mp inside with isNew | isOld
        · exact Or.inr ⟨rfl, write, rfl, isNew⟩
        · exact Or.inl isOld
      · dsimp only at inside
        rw [Function.update_of_ne same] at inside
        exact Or.inl inside

end RmwMicroxrcedds
