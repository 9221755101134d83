import RmwMicroxrcedds.Agent.Objects
import RmwMicroxrcedds.Refinement.Requests

/-! # Writing to a session

`Wrote` says what a call wrote: to one session, some requests, whose new objects have numbers
drawn in between. A session that runs writes nothing and touches no entity.
-/

namespace RmwMicroxrcedds

open Outcome

variable {cfg : Config} {s s' s'' : Rmw} {session other : Nat} {written later : List XrceRequest}
variable {object : ObjectId} {kind : XrceRequest → Prop}

/-- A request that deletes nothing. -/
def XrceRequest.Keeps (request : XrceRequest) : Prop := ∀ object, request ≠ .deleteEntity object

/-- A request that creates an object deletes none. -/
theorem XrceRequest.keeps_of_creates {request : XrceRequest}
    (creates : request.creates = some object) : request.Keeps := by
  rintro other rfl
  cases creates

/-- From one state to the other the requests, all of one kind, were written to the session, and
nothing to any other; and the handles kept their names. -/
structure Wrote (kind : XrceRequest → Prop) (s s' : Rmw) (session : Nat)
    (written : List XrceRequest) : Prop where
  others : ∀ other, other ≠ session → s'.customSessions other = s.customSessions other
  requests : (s'.customSessions session).requests = written ++ (s.customSessions session).requests
  nextId : ∀ type, (s.customSessions session).nextId type ≤ (s'.customSessions session).nextId type
  fresh : ∀ request ∈ written, ∀ object, request.creates = some object →
    Issued s s' session object
  allowed : ∀ request ∈ written, kind request
  names : KeepsNames s s'

/-- What was written deletes nothing. -/
abbrev Adds : Rmw → Rmw → Nat → List XrceRequest → Prop := Wrote XrceRequest.Keeps

/-- No session but the one was written to, and the handles kept their names. -/
structure WritesOnly (s s' : Rmw) (session : Nat) : Prop where
  others : ∀ other, other ≠ session → s'.customSessions other = s.customSessions other
  names : KeepsNames s s'

theorem WritesOnly.refl (s : Rmw) (session : Nat) : WritesOnly s s session :=
  ⟨fun _ _ => rfl, .of_handles rfl⟩

/-- What writes to one session twice writes to that one only. -/
theorem WritesOnly.trans (first : WritesOnly s s' session) (second : WritesOnly s' s'' session) :
    WritesOnly s s'' session where
  others := fun other different =>
    (second.others other different).trans (first.others other different)
  names := first.names.trans second.names

/-- What is written by an operation on one session is written to that one. -/
theorem Wrote.writesOnly (wrote : Wrote kind s s' session written) : WritesOnly s s' session :=
  ⟨wrote.others, wrote.names⟩

namespace Wrote

/-- What is silent has written nothing. -/
theorem of_silent (session : Nat) (silent : Silent s s') : Wrote kind s s' session [] where
  others := fun other _ => congrFun silent.sessions other
  requests := by rw [silent.sessions, List.nil_append]
  nextId := fun type => by rw [silent.sessions]
  fresh := fun _ absurd => by cases absurd
  allowed := fun _ absurd => by cases absurd
  names := silent.names

theorem nothing (s : Rmw) (session : Nat) : Wrote kind s s session [] :=
  of_silent session (.of_same rfl rfl)

/-- An identifier that was issued before more is written was issued. -/
theorem issued_after (wrote : Wrote kind s' s'' session later)
    (issued : Issued s s' session object) :
    Issued s s'' session object :=
  ⟨issued.1, Nat.lt_of_lt_of_le issued.2 (wrote.nextId _)⟩

/-- An identifier that is issued after more was written was issued. -/
theorem issued_before (wrote : Wrote kind s s' session written)
    (issued : Issued s' s'' session object) :
    Issued s s'' session object :=
  ⟨Nat.le_trans (wrote.nextId _) issued.1, issued.2⟩

/-- What is written later stands in front of what was written before. -/
theorem trans (first : Wrote kind s s' session written) (second : Wrote kind s' s'' session later) :
    Wrote kind s s'' session (later ++ written) where
  others := fun other different =>
    (second.others other different).trans (first.others other different)
  requests := by rw [second.requests, first.requests, List.append_assoc]
  nextId := fun type => Nat.le_trans (first.nextId type) (second.nextId type)
  fresh := fun request inside object creates => by
    rcases List.mem_append.mp inside with isLater | isFirst
    · exact first.issued_before (second.fresh request isLater object creates)
    · exact second.issued_after (first.fresh request isFirst object creates)
  allowed := fun request inside =>
    (List.mem_append.mp inside).elim (second.allowed request) (first.allowed request)
  names := first.names.trans second.names

/-- What writes to no session may come in between. -/
theorem same (wrote : Wrote kind s s' session written) (silent : Silent s' s'') :
    Wrote kind s s'' session written := by
  have whole := wrote.trans (of_silent session silent)
  rwa [List.nil_append] at whole

/-- A number is drawn. -/
theorem number (wrote : Wrote kind s s' session written) (type : ObjectType) :
    Wrote kind s (s'.uxrObjectId session type).2 session written := by
  have drawn : Wrote kind s' (s'.uxrObjectId session type).2 session [] := {
    others := fun other different => by
      simp [Rmw.uxrObjectId, Rmw.modifySession, different]
    requests := by simp [Rmw.uxrObjectId, Rmw.modifySession]
    nextId := (advance_uxrObjectId type).nextId session
    fresh := fun _ absurd => by cases absurd
    allowed := fun _ absurd => by cases absurd
    names := .of_handles rfl }
  have whole := wrote.trans drawn
  rwa [List.nil_append] at whole

/-- The number that was drawn. -/
theorem issued (wrote : Wrote kind s s' session written) (type : ObjectType) :
    Issued s (s'.uxrObjectId session type).2 session (s'.uxrObjectId session type).1 :=
  wrote.issued_before (issued_uxrObjectId type)

/-- A request is written, if there is room for it. -/
theorem asked (wrote : Wrote kind s s' session written) (request : XrceRequest) (room : Bool)
    (allowed : kind request)
    (fresh : ∀ object, request.creates = some object → Issued s s' session object) :
    Wrote kind s (s'.uxrBuffer session request room).2 session
      ((if room then [request] else []) ++ written) := by
  cases room with
  | false => exact wrote
  | true =>
      refine ⟨fun other different => ?_, ?_, fun type => ?_, fun older inside object creates => ?_,
        List.forall_mem_cons.mpr ⟨allowed, wrote.allowed⟩,
        wrote.names.trans (.of_handles rfl)⟩
      · rw [← wrote.others other different]
        simp [Rmw.uxrBuffer, Rmw.modifySession, different]
      · simp [Rmw.uxrBuffer, Rmw.modifySession, wrote.requests]
      · simpa [Rmw.uxrBuffer, Rmw.modifySession] using wrote.nextId type
      · have isIssued : Issued s s' session object := by
          rcases List.mem_append.mp inside with isNew | isOld
          · obtain rfl := List.mem_singleton.mp isNew
            exact fresh object creates
          · exact wrote.fresh older isOld object creates
        simpa [Issued, Rmw.uxrBuffer, Rmw.modifySession] using isIssued

end Wrote

/-- No entity, no handle and no context is written. -/
structure Unaltered (s s' : Rmw) : Prop where
  handles : s'.handles = s.handles
  nodes : s'.customNodes = s.customNodes
  publishers : s'.customPublishers = s.customPublishers
  subscriptions : s'.customSubscriptions = s.customSubscriptions
  services : s'.customServices = s.customServices
  clients : s'.customClients = s.customClients
  topics : s'.customTopics = s.customTopics
  contexts : s'.contexts = s.contexts

theorem Unaltered.refl (s : Rmw) : Unaltered s s := ⟨rfl, rfl, rfl, rfl, rfl, rfl, rfl, rfl⟩

/-- What is unaltered twice is unaltered. -/
theorem Unaltered.trans (first : Unaltered s s') (second : Unaltered s' s'') : Unaltered s s'' where
  handles := second.handles.trans first.handles
  nodes := second.nodes.trans first.nodes
  publishers := second.publishers.trans first.publishers
  subscriptions := second.subscriptions.trans first.subscriptions
  services := second.services.trans first.services
  clients := second.clients.trans first.clients
  topics := second.topics.trans first.topics
  contexts := second.contexts.trans first.contexts

/-- Drawing an identifier alters no entity. -/
theorem unaltered_uxrObjectId (s : Rmw) (session : Nat) (type : ObjectType) :
    Unaltered s (s.uxrObjectId session type).2 :=
  ⟨rfl, rfl, rfl, rfl, rfl, rfl, rfl, rfl⟩

/-- Writing a request alters no entity. -/
theorem unaltered_uxrBuffer (s : Rmw) (session : Nat) (request : XrceRequest) (room : Bool) :
    Unaltered s (s.uxrBuffer session request room).2 := by
  cases room <;> exact ⟨rfl, rfl, rfl, rfl, rfl, rfl, rfl, rfl⟩

/-- A delivery alters no entity. -/
theorem deliver_unaltered {delivery : Delivery}
    (returned : deliver cfg session delivery s = .ok s') : Unaltered s s' := by
  rcases deliver_returned returned with ⟨-, stored⟩ | ⟨-, mem, buffers, rfl, -⟩
  · unfold storeGraph at stored
    split at stored <;> cases stored
    exact ⟨rfl, rfl, rfl, rfl, rfl, rfl, rfl, rfl⟩
  · exact ⟨rfl, rfl, rfl, rfl, rfl, rfl, rfl, rfl⟩

/-- Neither do all the deliveries of an exchange. -/
theorem deliverAll_unaltered {deliveries : List Delivery}
    (returned : deliverAll cfg session deliveries s = .ok s') : Unaltered s s' := by
  induction deliveries generalizing s with
  | nil =>
      cases returned
      exact .refl _
  | cons delivery rest ih =>
      obtain ⟨middle, first, returned⟩ := bind_eq_ok.mp returned
      exact (deliver_unaltered first).trans (ih returned)

/-- Running a session alters no entity. -/
theorem runXrceSession_unaltered {exchange : Exchange} {confirmed : Bool}
    (returned : runXrceSession cfg session exchange s = .ok (confirmed, s')) : Unaltered s s' := by
  unfold runXrceSession at returned
  split at returned
  · cases returned
    exact .refl s
  · obtain ⟨ran, received, returned⟩ := bind_eq_ok.mp returned
    cases returned
    exact deliverAll_unaltered received

/-- Running a session writes nothing to it. -/
theorem runXrceSession_silent {exchange : Exchange} {confirmed : Bool}
    (returned : runXrceSession cfg session exchange s = .ok (confirmed, s')) : Silent s s' :=
  .of_same (runXrceSession_sessions returned) (runXrceSession_unaltered returned).handles

/-- A session that runs writes nothing. -/
theorem Wrote.run {exchange : Exchange} {confirmed : Bool} (wrote : Wrote kind s s' session written)
    (returned : runXrceSession cfg other exchange s' = .ok (confirmed, s'')) :
    Wrote kind s s'' session written :=
  wrote.same (runXrceSession_silent returned)

end RmwMicroxrcedds
