import RmwMicroxrcedds.Machine.Dialogue
import RmwMicroxrcedds.Properties.AgentTraffic

/-! # Responses answer requests

A client knows the response to a request by its sequence number. As long as the agent replies to
requests it was sent, and no two clients are waiting under one number, a response that is taken
carries the number that `rmw_send_request` returned for a request of that very client, however
sends, arrivals, takes and waits are interleaved.
-/

namespace RmwMicroxrcedds

open Outcome Registry

variable {cfg : Config} {st st' : Station} {op : StationOp} {call : SendCall} {s s' : Rmw}
variable {session client handle slot : Nat} {sent : Sent} {heard : List (Nat × Delivery)}
variable {w w' : World} {pool : Pool} {room : Bool} {leaks : List Pool} {gone : Pool → Nat → Prop}

/-- No two clients are waiting for data under one number. -/
def Rmw.ClientsApart (s : Rmw) : Prop :=
  ∀ client ∈ s.allocated .client, ∀ other ∈ s.allocated .client,
    wire (s.customClients client).dataRequest = wire (s.customClients other).dataRequest →
      client = other

/-- The sample is a request of the client, in the session. -/
structure Station.Requested (st : Station) (session client : Nat) (sent : Sent) : Prop where
  sited : st.world.rmw.registry.sessionOf .client client = some session
  inside : sent ∈ st.sent session
  isRequest : sent.pool = .client
  object : sent.write.object = (st.world.rmw.customClients client).objectId

/-- A reply that arrives in the session answers a request that a client of the session has sent:
it comes under the number the client waits with, and names the request by its number. -/
def Station.Answered (st : Station) (session : Nat) : Delivery → Prop
  | .reply requestId replyId _ _ => ∃ client ∈ st.world.rmw.allocated .client,
      wire (st.world.rmw.customClients client).dataRequest = wire requestId ∧
        ∃ sent, st.Requested session client sent ∧ replyId = wire sent.requestId
  | .topic _ _ _ | .request _ _ _ _ => True

/-- The operation creates and destroys nothing, and the agent replies to what it was sent, be it
during this very operation. -/
def Faithful (cfg : Config) (st : Station) (op : StationOp) : Prop :=
  op.Converses ∧ ∀ arrival ∈ op.arrivals st.world.rmw,
    ((station cfg).next op st).Answered arrival.1 arrival.2

/-- Every pending reply answers a request of the client it is pending for. -/
def Station.Correlated (st : Station) : Prop :=
  ∀ client message, (⟨.client, client⟩, message) ∈ st.world.rmw.mail →
    ∃ session sent, st.Requested session client sent ∧
      message.header = some (.replyId (wire sent.requestId))

/-- The registry knows the clients. -/
theorem customClients_of_registry (same : s'.registry = s.registry) (client : Nat) :
    s'.customClients client = s.customClients client :=
  Entity.endpoint.inj (congrFun (congrFun (congrArg Registry.entity same) .client) client)

/-- A request stays one while the dialogue continues. -/
theorem Continues.requested (continues : Continues cfg heard st st')
    (requested : st.Requested session client sent) : st'.Requested session client sent := by
  obtain ⟨new, isRecord⟩ := continues.record session
  exact {
    sited := by rw [continues.registry]; exact requested.sited
    inside := by rw [isRecord]; exact List.mem_append_right _ requested.inside
    isRequest := requested.isRequest
    object := by
      rw [customClients_of_registry continues.registry]
      exact requested.object }

/-- A reply that is stored for a client answers a request of that client, if clients are apart. -/
theorem Station.Answered.correlates {delivery : Delivery} (answered : st.Answered session delivery)
    (apart : st.world.rmw.ClientsApart)
    (isFor : st.world.rmw.registry.IsFor cfg session delivery ⟨.client, client⟩) :
    ∃ session sent, st.Requested session client sent ∧
      delivery.message.header = some (.replyId (wire sent.requestId)) := by
  cases delivery with
  | topic => cases isFor.pool
  | request => cases isFor.pool
  | reply requestId replyId stream length =>
      obtain ⟨other, inside, isNumber, sent, requested, rfl⟩ := answered
      have isNumber' : wire (st.world.rmw.customClients client).dataRequest = wire requestId :=
        beq_iff_eq.mp isFor.answers
      have inside' : client ∈ st.world.rmw.allocated .client := isFor.inside
      obtain rfl := apart other inside client inside' (isNumber.trans isNumber'.symm)
      exact ⟨session, sent, requested, rfl⟩

/-- One operation keeps pending replies correlated. -/
theorem Station.Correlated.step (correlated : st.Correlated) (apart : st'.world.rmw.ClientsApart)
    (continues : Continues cfg heard st st')
    (answered : ∀ arrival ∈ heard, st'.Answered arrival.1 arrival.2) : st'.Correlated := by
  intro client message inside
  rcases continues.hears _ inside with before | ⟨arrival, arrived, isFor, isMessage⟩
  · obtain ⟨session, sent, requested, header⟩ := correlated client message before
    exact ⟨session, sent, continues.requested requested, header⟩
  · obtain rfl : message = arrival.2.message := isMessage
    rw [← continues.registry] at isFor
    exact (answered arrival arrived).correlates apart isFor

/-- The request numbers of a session that stays open only grow. -/
theorem Change.lastRequestId_le (change : Change cfg room leaks gone w w')
    (numbered : Numbered cfg w) (opened : session ∈ w.opened) :
    (w.rmw.customSessions session).lastRequestId ≤
      (w'.rmw.customSessions session).lastRequestId := by
  cases change with
  | idle agrees advance => exact advance.lastRequestId session
  | leaked grown nonempty advance => exact advance.lastRequestId session
  | node home handle slot entity new inside agrees advance => exact advance.lastRequestId session
  | leaf pool node nodeHandle home handle slot entity base isLeaf new nodeBound context withTopic
      agrees advance => exact advance.lastRequestId session
  | removed removal advance => exact advance.lastRequestId session
  | attached context fresh objects attached =>
      have different : session ≠ fresh := by
        rintro rfl
        exact attached.free (numbered.opened session opened)
      rw [attached.others session different]

/-- The numbers in the record of a session grow from sample to sample, up to its counter. -/
structure Counted (st : Station) (session : Nat) : Prop where
  below : ∀ sent ∈ st.sent session, 0 < sent.requestId ∧
    sent.requestId ≤ (st.world.rmw.customSessions session).lastRequestId
  order : (st.sent session).Pairwise fun newer older => older.requestId < newer.requestId
  sequence : ∀ sent ∈ st.sent session, ∀ number, sent.sequenceId = some number →
    number = wire sent.requestId

/-- With the same record it is enough that the counter grows. -/
theorem Counted.mono (counted : Counted st session) (same : st'.sent session = st.sent session)
    (grows : (st.world.rmw.customSessions session).lastRequestId ≤
      (st'.world.rmw.customSessions session).lastRequestId) : Counted st' session where
  below := fun sent inside => by
    rw [same] at inside
    obtain ⟨positive, below⟩ := counted.below sent inside
    exact ⟨positive, Nat.le_trans below grows⟩
  order := by
    rw [same]
    exact counted.order
  sequence := by
    rw [same]
    exact counted.sequence

/-- A sample gets the next number. -/
theorem Counted.sending {admits : Admission} {result : SendResult × Rmw} {home : Nat}
    (counted : Counted st session)
    (writer : st.world.rmw.writer pool (some handle) = some (slot, home))
    (sends : Sends cfg admits st.world.rmw pool home slot result) :
    Counted (st.sending pool (some handle) result) session := by
  have grows : (st.world.rmw.customSessions session).lastRequestId ≤
      (result.2.customSessions session).lastRequestId := sends.draws.advance.lastRequestId session
  cases isWritten : result.1.written with
  | none => exact counted.mono (by simp [Station.sending, isWritten]) grows
  | some write =>
      by_cases same : session = home
      · subst same
        have drawn := sends.draws.lastRequestId
        rw [isWritten, Option.isSome_some, if_pos rfl] at drawn
        have isSent : (st.sending pool (some handle) result).sent session =
            { pool := pool, handle := handle, slot := slot, write := write,
              requestId := (result.2.customSessions session).lastRequestId,
              sequenceId := result.1.sequenceId,
              layer := st.world.rmw } :: st.sent session := by
          simp [Station.sending, writer, isWritten]
        refine ⟨?_, ?_, ?_⟩
        · rw [isSent]
          refine List.forall_mem_cons.mpr ⟨⟨?_, Nat.le_refl _⟩, fun sent inside => ?_⟩
          · exact drawn ▸ Nat.succ_pos _
          · obtain ⟨positive, below⟩ := counted.below sent inside
            exact ⟨positive, Nat.le_trans below grows⟩
        · rw [isSent]
          refine List.pairwise_cons.mpr ⟨fun sent inside => ?_, counted.order⟩
          have below := (counted.below sent inside).2
          exact drawn ▸ Nat.lt_succ_of_le below
        · rw [isSent]
          refine List.forall_mem_cons.mpr ⟨fun number isNumber => ?_, counted.sequence⟩
          exact sends.sequenceId number isNumber (by simp [isWritten])
      · exact counted.mono (by simp [Station.sending, writer, isWritten, same]) grows

/-- In every run the samples of an open session are counted. -/
theorem station_counted (reachable : Reachable (station cfg) (StationOp.Meets (Safe cfg)) st)
    (opened : session ∈ st.world.opened) : Counted st session := by
  induction reachable generalizing session with
  | start => cases opened
  | @step st st' op before enabled meets steps ih =>
      obtain ⟨healthy, sound, numbered⟩ := station_sound before fun _ _ => id
      rcases (execStation_spec healthy sound enabled.1 enabled.2 meets).of_eq_ok steps with
        ⟨layerOp, w', rfl, returned, rfl, -, -, change⟩ | sending
      · by_cases isOpen : session ∈ st.world.opened
        · exact (ih isOpen).mono (by simp [Station.passing, isOpen])
            (change.lastRequestId_le numbered isOpen)
        · have isOpen' : session ∈ w'.opened := opened
          have fresh : (st.passing w').sent session = [] := by
            simp [Station.passing, isOpen, isOpen']
          constructor <;> simp [fresh]
      · cases sending with
        | silent world isSent =>
            exact (ih (world ▸ opened)).mono (by rw [isSent]) (by rw [world])
        | sends pool handle slot home result leaf bound sited writer sends isNext =>
            subst isNext
            exact (ih opened).sending writer sends

/-- Samples of an open session have different numbers on the wire, while its counter has not run
past sixteen bits, and the number that is returned is the one on the wire. -/
theorem Counted.unique (counted : Counted st session)
    (fits : (st.world.rmw.customSessions session).lastRequestId < 2 ^ 16) {other : Sent}
    (inside : sent ∈ st.sent session) (inside' : other ∈ st.sent session)
    (same : other.sequenceId = some (wire sent.requestId)) : other = sent := by
  have small : ∀ sent ∈ st.sent session, wire sent.requestId = sent.requestId := fun sent inside =>
    Nat.mod_eq_of_lt (Nat.lt_of_le_of_lt (counted.below sent inside).2 fits)
  have sameNumber := counted.sequence other inside' _ same
  rw [small sent inside, small other inside'] at sameNumber
  have distinct : ((st.sent session).map Sent.requestId).Nodup := by
    rw [List.Nodup, List.pairwise_map]
    exact counted.order.imp fun less => Nat.ne_of_gt less
  exact List.inj_on_of_nodup_map distinct inside' inside sameNumber.symm

/-- Requests are on record with the number that was returned for them. -/
def Station.Sequenced (st : Station) : Prop :=
  ∀ session, ∀ sent ∈ st.sent session, sent.pool = .client →
    sent.sequenceId = some (wire sent.requestId)

/-- A request that is written has a number that is returned. -/
theorem rmwSendRequest_sequenceId {result : SendResult}
    (returned : rmwSendRequest cfg call s = .ok (result, s')) (written : result.written ≠ none) :
    ∃ number, result.sequenceId = some number := by
  obtain ⟨contents, -, returned⟩ := bind_eq_ok.mp returned
  split at returned
  · obtain ⟨client, -, returned⟩ := bind_eq_ok.mp returned
    dsimp only at returned
    split at returned
    · cases returned
    · obtain ⟨node, -, returned⟩ := bind_eq_ok.mp returned
      obtain ⟨context, -, returned⟩ := bind_eq_ok.mp returned
      split at returned
      · cases returned
        exact ⟨_, rfl⟩
      · obtain ⟨last, -, returned⟩ := bind_eq_ok.mp returned
        cases returned
        exact ⟨_, rfl⟩
  · cases returned
    exact absurd rfl written

/-- A sender keeps the numbers on record. -/
theorem Station.Sequenced.sending {home : Nat} {admits : Admission}
    {result : SendResult × Rmw} (sequenced : st.Sequenced)
    (writer : st.world.rmw.writer pool (some handle) = some (slot, home))
    (sends : Sends cfg admits st.world.rmw pool home slot result)
    (numbered : pool = .client → result.1.written ≠ none →
      ∃ number, result.1.sequenceId = some number) :
    (st.sending pool (some handle) result).Sequenced := by
  intro session sent inside isRequest
  rcases Station.mem_sending writer inside with isOld | ⟨-, write, isWritten, rfl⟩
  · exact sequenced session sent isOld isRequest
  · have written : result.1.written ≠ none := by
      rw [isWritten]
      exact Option.some_ne_none write
    obtain ⟨number, isNumber⟩ := numbered isRequest written
    have isLast := sends.sequenceId number isNumber written
    dsimp only
    rw [isNumber, isLast]

/-- In every run each request is on record with its number. -/
theorem station_sequenced (reachable : Reachable (station cfg) (StationOp.Meets (Safe cfg)) st) :
    st.Sequenced := by
  induction reachable with
  | start => exact fun _ _ absurd => by cases absurd
  | @step st st' op before enabled meets steps ih =>
      obtain ⟨healthy, sound, -⟩ := station_sound before fun _ _ => id
      obtain ⟨asked, acceptable⟩ := enabled
      have returned : execStation cfg op st = .ok st' := steps
      cases op with
      | layer layerOp =>
          obtain ⟨w', -, isNext⟩ := bind_eq_ok.mp returned
          cases isNext
          intro session sent inside
          dsimp only [Station.passing] at inside
          split at inside
          · cases inside
          · exact ih session sent inside
      | setContinous publisher callbacks =>
          obtain ⟨continous, -, isNext⟩ := bind_eq_ok.mp returned
          cases isNext
          exact ih
      | publish call =>
          cases isPublisher : call.publisher with
          | none =>
              simp only [execStation, rmwPublish, isPublisher, ok_bind] at returned
              cases returned
              simpa [Station.sending] using ih
          | some publisher =>
              obtain ⟨slot, session, bound, sited, writer, home⟩ :=
                writer_of_live sound rfl (asked publisher isPublisher)
              obtain ⟨result, publishes, isNext⟩ := bind_eq_ok.mp returned
              cases isNext
              have sends := (rmwPublish_spec healthy sound home rfl isPublisher bound
                (acceptable slot session (isPublisher ▸ writer))).of_eq_ok publishes
              rw [isPublisher]
              exact ih.sending writer sends fun absurd => by cases absurd
      | sendRequest call =>
          obtain ⟨slot, session, bound, sited, writer, home⟩ := writer_of_live sound rfl asked
          obtain ⟨result, sent, isNext⟩ := bind_eq_ok.mp returned
          cases isNext
          have sends := (rmwSendRequest_spec healthy sound home rfl bound
            (acceptable slot session writer)).of_eq_ok sent
          exact ih.sending writer sends fun _ => rmwSendRequest_sequenceId sent
      | sendResponse header call =>
          obtain ⟨slot, session, bound, sited, writer, home⟩ := writer_of_live sound rfl asked
          obtain ⟨result, sent, isNext⟩ := bind_eq_ok.mp returned
          cases isNext
          have sends := (rmwSendResponse_sends healthy sound home rfl bound
            (acceptable slot session writer)).of_eq_ok sent
          exact ih.sending writer sends fun absurd => by cases absurd

/-- What creates and destroys nothing is safe. -/
theorem StationOp.Converses.safe (converses : op.Converses) : op.Meets (Safe cfg) st := by
  cases op with
  | layer layerOp =>
      cases layerOp with
      | receive | take | wait =>
          refine ⟨?_, ?_, trivial⟩
          · exact fun absurd => by cases absurd
          · exact fun absurd => by cases absurd
      | _ => exact converses.elim
  | setContinous | publish | sendRequest | sendResponse => trivial

/-- In a faithful dialogue pending replies stay correlated, and clients apart. -/
theorem correlated_along (reachable : Reachable (station cfg) (StationOp.Meets (Safe cfg)) st)
    (correlated : st.Correlated) (apart : st.world.rmw.ClientsApart)
    (run : Relation.ReflTransGen ((station cfg).Moves (Faithful cfg)) st st') :
    st'.Correlated ∧ st'.world.rmw.ClientsApart := by
  induction run with
  | refl => exact ⟨correlated, apart⟩
  | @tail middle last run moves ih =>
      have reachable' := reachable.moves (fun _ _ faithful => faithful.1.safe) run
      obtain ⟨healthy, sound, -⟩ := station_sound reachable' fun _ _ => id
      obtain ⟨op, ⟨asked, acceptable⟩, ⟨converses, answered⟩, steps⟩ := moves
      have isNext : (station cfg).next op middle = last := by
        simp only [Machine.next, steps]
      rw [isNext] at answered
      have continues := execStation_continues healthy sound asked acceptable converses steps
      have apart' : last.world.rmw.ClientsApart := by
        have pools : last.world.rmw.allocated .client = middle.world.rmw.allocated .client :=
          congrFun (congrArg Registry.allocated continues.registry) .client
        intro client inside other inside'
        rw [pools] at inside inside'
        rw [customClients_of_registry continues.registry, customClients_of_registry
          continues.registry]
        exact ih.2 client inside other inside'
      exact ⟨ih.1.step apart' continues answered, apart'⟩

/-- In every faithful dialogue, of any length and however sends, arrivals, takes and waits are
interleaved: a response that `rmw_take_response` finds for a client carries the number that
`rmw_send_request` returned for a request of that client, and there is only one such request in
the session while its counter has not run past sixteen bits. -/
theorem responses_answer_requests
    (reachable : Reachable (station cfg) (StationOp.Meets (Safe cfg)) st)
    (quiet : ∀ entry ∈ st.world.rmw.mail, entry.1.pool ≠ .client)
    (apart : st.world.rmw.ClientsApart)
    (run : Relation.ReflTransGen ((station cfg).Moves (Faithful cfg)) st st')
    (live : st'.world.Live .client handle) (deserialize : List UInt8 → Bool) :
    ∃ result s', rmwTakeResponse deserialize handle st'.world.rmw = .ok (result, s') ∧
      (result.payload ≠ none → ∃ session client sent number,
        st'.world.rmw.registry.Bound .client handle client ∧ st'.Requested session client sent ∧
        sent.sequenceId = some number ∧ result.sequenceNumber = some (BitVec.ofNat 64 number) ∧
        (session ∈ st'.world.opened →
          (st'.world.rmw.customSessions session).lastRequestId < 2 ^ 16 →
          ∀ other ∈ st'.sent session, other.sequenceId = some number → other = sent)) := by
  have reachable' := reachable.moves (fun _ _ faithful => faithful.1.safe) run
  obtain ⟨healthy, sound, -⟩ := station_sound reachable' fun _ _ => id
  have start : st.Correlated := fun client message inside => absurd rfl (quiet _ inside)
  obtain ⟨correlated, -⟩ := correlated_along reachable start apart run
  obtain ⟨client, bound⟩ := live.bound sound
  obtain ⟨⟨result, s'⟩, takes, -, -, taken⟩ :=
    rmwTakeResponse_spec healthy sound bound
  refine ⟨result, s', takes, fun isPayload => ?_⟩
  rcases taken.mail with ⟨absurd, -⟩ | ⟨message, -, -, reports, split⟩
  · exact (isPayload absurd).elim
  · have inside : (⟨.client, client⟩, message) ∈ st'.world.rmw.mail := by
      rw [← Multiset.mem_coe, split]
      exact Multiset.mem_cons_self _ _
    obtain ⟨session, sent, requested, header⟩ := correlated client message inside
    have isNumber := station_sequenced reachable' session sent requested.inside requested.isRequest
    refine ⟨session, client, sent, wire sent.requestId, bound, requested, isNumber,
      reports _ header, fun opened fits other isOther same => ?_⟩
    exact (station_counted reachable' opened).unique fits requested.inside isOther same

namespace Small

/-- The small run with a client. -/
def withClient : World := (layer config).next (.createEndpoint .client service) withNode

theorem withClient_safe : Reachable (layer config) (Safe config) withClient := by
  refine .next (withNode_reachable ?_ ?_) ⟨fun node isNode => ?_, ?_⟩ ?_ rfl
  · exact ⟨by decide, by decide, trivial⟩
  · exact ⟨by decide, by decide, trivial⟩
  · cases isNode
    exact live_node
  · exact fun _ _ _ _ => Exchange.acceptable_of_quiet rfl
  · exact ⟨by decide, by decide, trivial⟩

/-- The client before it has asked. -/
def beforeRequest : Station := { world := withClient }

/-- A request of two bytes. -/
def ask : SendCall := { handle := 0, message := ⟨2, [1, 2]⟩ }

/-- The client has sent it. -/
def withRequest : Station := (station config).next (.sendRequest ask) beforeRequest

/-- The reply to it, of one byte. -/
def reply : Delivery := .reply 12 13 [7] 1

/-- The reply has arrived. -/
def withReply : Station := (station config).next (.layer (.receive 0 reply)) withRequest

/-- The agent replies to the request. -/
theorem reply_answered : withReply.Answered 0 reply :=
  ⟨0, by decide, by decide, _, ⟨by decide, List.mem_cons_self, rfl, rfl⟩, rfl⟩

theorem beforeRequest_to_withReply :
    Relation.ReflTransGen ((station config).Moves (Faithful config)) beforeRequest withReply := by
  have asks : (station config).Moves (Faithful config) beforeRequest withRequest := by
    refine ⟨.sendRequest ask, ⟨⟨by decide, rfl⟩, ?_⟩, ⟨trivial, ?_⟩, rfl⟩
    · exact fun _ _ _ _ inside => by cases inside
    · exact fun arrival inside => by cases inside
  refine .tail (.single asks) ⟨.layer (.receive 0 reply), ⟨?_, ?_⟩, ⟨trivial, ?_⟩, rfl⟩
  · exact (by decide : 0 ∈ withRequest.world.rmw.allocated .session)
  · exact ⟨(by decide : 1 ≤ 4), fun _ _ _ => trivial⟩
  · intro arrival inside
    obtain rfl := List.mem_singleton.mp inside
    exact reply_answered

theorem beforeRequest_quiet : ∀ entry ∈ beforeRequest.world.rmw.mail, entry.1.pool ≠ .client :=
  fun _ inside => by cases inside

theorem beforeRequest_apart : beforeRequest.world.rmw.ClientsApart := by
  have only : beforeRequest.world.rmw.allocated .client = [0] := by decide
  intro client inside other inside' _
  rw [only] at inside inside'
  exact (List.mem_singleton.mp inside).trans (List.mem_singleton.mp inside').symm

end Small

/-- In the small run the response carries the number of the request. -/
theorem responses_answer_requests_small : ∃ result s',
    rmwTakeResponse (fun _ => true) 0 Small.withReply.world.rmw = .ok (result, s') ∧
      result.payload = some [7] ∧ ∃ session client sent number,
        Small.withReply.Requested session client sent ∧ sent.sequenceId = some number ∧
          result.sequenceNumber = some (BitVec.ofNat 64 number) := by
  obtain ⟨result, s', takes, answers⟩ := responses_answer_requests
    (station_of_layer Small.withClient_safe)
    Small.beforeRequest_quiet
    Small.beforeRequest_apart Small.beforeRequest_to_withReply
    (⟨by decide, rfl⟩ : Small.withReply.world.Live .client 0) (fun _ => true)
  have isPayload : result.payload = some [7] := by
    have isResult : (rmwTakeResponse (fun _ => true) 0 Small.withReply.world.rmw).map
      (fun taken => taken.1.payload) = .ok (some [7]) := by decide +kernel
    rw [takes] at isResult
    exact Except.ok.inj isResult
  obtain ⟨session, client, sent, number, -, requested, isNumber, isSequence, -⟩ :=
    answers (by rw [isPayload]; exact Option.some_ne_none _)
  exact ⟨result, s', takes, isPayload, session, client, sent, number, requested, isNumber,
    isSequence⟩

end RmwMicroxrcedds
