import RmwMicroxrcedds.Model.Ping
import RmwMicroxrcedds.Properties.CleanSlate

/-! # The newest session first

The functions that reach the agent without naming a context go by the list of the sessions in
use. In a run without leaks these are the open ones, the newest first: a ping asks them in that
order until one is answered, and the time is that of the newest.
-/

namespace RmwMicroxrcedds

open Outcome

variable {cfg : Config} {admits : Admission} {w : World} {s : Rmw} {call : PingCall}

/-- The sessions a ping asks: all up to the first that is answered. -/
def PingCall.asks (call : PingCall) : List Nat → List Nat
  | [] => []
  | session :: rest =>
      if call.answers (some session) then [session] else session :: call.asks rest

/-- What a ping asks among the sessions given. -/
structure PingCall.Asks (call : PingCall) (sessions asked : List Nat) : Prop where
  order : asked <+: sessions
  first : asked.head? = sessions.head?
  unanswered : ∀ session ∈ asked.dropLast, call.answers (some session) = false
  last : asked = sessions ∨ ∃ session, asked.getLast? = some session ∧
    call.answers (some session) = true

/-- The sessions that are asked are the first ones, up to one that answers. -/
theorem PingCall.asks_spec (call : PingCall) (sessions : List Nat) :
    call.Asks sessions (call.asks sessions) := by
  induction sessions with
  | nil => exact ⟨List.prefix_refl _, rfl, fun _ absurd => (by cases absurd), Or.inl rfl⟩
  | cons session rest ih =>
      rw [PingCall.asks]
      split
      · rename_i answered
        exact ⟨⟨rest, rfl⟩, rfl, fun _ absurd => (by cases absurd), Or.inr ⟨session, rfl, answered⟩⟩
      · rename_i unanswered
        have silent : call.answers (some session) = false := Bool.eq_false_iff.mpr unanswered
        refine ⟨List.prefix_cons_inj session |>.mpr ih.order, rfl, ?_, ?_⟩
        · intro other inside
          cases isRest : call.asks rest with
          | nil =>
              rw [isRest] at inside
              cases inside
          | cons next others =>
              rw [isRest, List.dropLast_cons_cons] at inside
              rcases List.mem_cons.mp inside with rfl | later
              · exact silent
              · exact ih.unanswered other (isRest ▸ later)
        · refine ih.last.imp (fun same => by rw [same]) ?_
          rintro ⟨last, isLast, answered⟩
          refine ⟨last, ?_, answered⟩
          cases isRest : call.asks rest with
          | nil =>
              rw [isRest] at isLast
              cases isLast
          | cons next others =>
              rw [List.getLast?_cons_cons, ← isRest]
              exact isLast

/-- The loop asks the sessions in the order of the pool. -/
theorem pingSessions_eq (healthy : s.Healthy cfg admits) (call : PingCall) :
    ∀ (rest : List Nat) (fuel : Nat), rest.length ≤ fuel → rest <:+ s.allocated .session →
      pingSessions call s fuel rest.head? =
        .ok (rest.any fun session => call.answers (some session),
          (call.asks rest).map fun session => call.ping (some session)) := by
  intro rest
  induction rest with
  | nil =>
      intro fuel _ _
      cases fuel <;> rfl
  | cons session rest ih =>
      intro fuel enough suffix
      cases fuel with
      | zero => cases enough
      | succ fuel =>
          have held : session ∈ s.allocated .session := suffix.subset List.mem_cons_self
          obtain ⟨before, split⟩ := suffix
          have segment := (healthy.wf .session).allocated_segment
          have whole : (s.memory .session).allocated = before ++ session :: rest := split.symm
          rw [whole] at segment
          have next : ((s.memory .session).links session).next = rest.head? := segment.next_eq
          have suffix' : rest <:+ s.allocated .session := ⟨before ++ [session], by simp [← split]⟩
          rw [List.head?_cons, pingSessions]
          simp only [healthy.dataOf held, ok_bind, next,
            ih fuel (Nat.le_of_succ_le_succ enough) suffix', PingCall.asks, List.any_cons]
          by_cases answered : call.answers (some session) = true <;> simp [answered]

/-- The first session in use, as the functions find it. -/
theorem allocateditems_eq_head? (healthy : s.Healthy cfg admits) :
    (s.memory .session).allocateditems = (s.allocated .session).head? :=
  (healthy.wf .session).allocateditems_eq

/-- A ping without sessions opens a transport of its own; otherwise it asks the sessions in use
until one is answered. -/
theorem rmwUrosPingAgent_eq (healthy : s.Healthy cfg admits) (transports : TransportConfig)
    (call : PingCall) :
    rmwUrosPingAgent transports call s = .ok
      (if s.allocated .session = [] then pingAlone transports call
      else
        (if (s.allocated .session).any fun session => call.answers (some session) then .ok
          else .error,
          (call.asks (s.allocated .session)).map fun session => call.ping (some session))) := by
  have total : (s.free .session).length + (s.allocated .session).length =
      (s.memory .session).size := (healthy.wf .session).length_add
  have asked := pingSessions_eq healthy call (s.allocated .session) (s.memory .session).size
    (by omega) (List.suffix_refl _)
  unfold rmwUrosPingAgent
  rw [allocateditems_eq_head? healthy]
  cases inUse : s.allocated .session with
  | nil => rfl
  | cons session rest =>
      rw [inUse, List.head?_cons] at asked
      simp only [List.head?_cons, asked, ok_bind]
      rfl

/-- What is read is read from the newest session. -/
theorem readSession_eq (healthy : s.Healthy cfg admits) {Value : Type} (absent : Value)
    (read : Nat → Value) :
    readSession absent read s = .ok (((s.allocated .session).head?.map read).getD absent) := by
  unfold readSession
  rw [allocateditems_eq_head? healthy]
  cases inUse : s.allocated .session with
  | nil => rfl
  | cons session rest =>
      have held : session ∈ s.allocated .session := by simp [inUse]
      simp only [List.head?_cons, healthy.dataOf held, ok_bind]
      rfl

/-- In every run in which the calls that fail leave nothing behind, a ping asks the sessions of the
open contexts, the newest first, up to the first that is answered, and succeeds if one is; only
when no context is open it uses a transport of its own. Synchronising works on the newest open
context, and the time that is read is the one of that context. -/
theorem newest_session_first (reachable : Reachable (layer cfg) (Leakless cfg) w)
    (transports : TransportConfig) :
    (∀ call : PingCall, w.opened ≠ [] → ∃ asked, call.Asks w.opened asked ∧
      rmwUrosPingAgent transports call w.rmw =
        .ok (if ∃ session ∈ w.opened, call.answers (some session) = true then .ok else .error,
          asked.map fun session => call.ping (some session))) ∧
    (∀ call : PingCall, w.opened = [] →
      rmwUrosPingAgent transports call w.rmw = .ok (pingAlone transports call)) ∧
    (∀ timeoutMs succeeds, rmwUrosSyncSession timeoutMs succeeds w.rmw =
      .ok (match w.opened with
        | [] => (.error, none)
        | newest :: _ => (if succeeds newest then .ok else .error, some (newest, timeoutMs)))) ∧
    (∀ synchronized, rmwUrosEpochSynchronized synchronized w.rmw =
      .ok ((w.opened.head?.map synchronized).getD false)) ∧
    (∀ epoch, rmwUrosEpochMillis epoch w.rmw = .ok ((w.opened.head?.map epoch).getD 0) ∧
      rmwUrosEpochNanos epoch w.rmw = .ok ((w.opened.head?.map epoch).getD 0)) := by
  obtain ⟨healthy, -⟩ := reachable_leakless reachable
  have inUse := sessions_eq_opened reachable
  refine ⟨fun call some_open => ⟨call.asks w.opened, call.asks_spec _, ?_⟩, fun call none => ?_,
    fun timeoutMs succeeds => ?_, fun synchronized => ?_, fun epoch => ⟨?_, ?_⟩⟩
  · rw [rmwUrosPingAgent_eq healthy, inUse, if_neg some_open]
    simp only [List.any_eq_true]
  · rw [rmwUrosPingAgent_eq healthy, inUse, if_pos none]
  · unfold rmwUrosSyncSession
    rw [allocateditems_eq_head? healthy, inUse]
    cases isOpen : w.opened with
    | nil => rfl
    | cons newest others =>
        have held : newest ∈ w.rmw.allocated .session := by simp [inUse, isOpen]
        simp only [List.head?_cons, healthy.dataOf held, ok_bind]
  · rw [rmwUrosEpochSynchronized, readSession_eq healthy, inUse]
  · rw [rmwUrosEpochMillis, readSession_eq healthy, inUse]
  · rw [rmwUrosEpochNanos, readSession_eq healthy, inUse]

namespace Small

/-- The small build with room for two contexts. -/
def twoContextConfig : Config := { config with maxSessions := 2 }

/-- The layer after `rmw_init` on one context, and on another. -/
def twoContexts : World :=
  (layer twoContextConfig).next (.init { init with context := some 1 })
    ((layer twoContextConfig).next (.init init) {})

theorem twoContexts_leakless :
    Reachable (layer twoContextConfig) (Leakless twoContextConfig) twoContexts := by
  have leakless : ∀ {w : World} {call : InitCall},
      initExit twoContextConfig call w.rmw = .completed →
      Leakless twoContextConfig w (.init call) := by
    intro w call completed
    refine ⟨fun _ absurd => (by cases absurd), fun absurd => (by cases absurd), ?_⟩
    rintro call isCall
    cases isCall
    rw [completed]
    decide
  have first : Reachable (layer twoContextConfig) (Leakless twoContextConfig)
      ((layer twoContextConfig).next (.init init) {}) :=
    .next .start ⟨trivial, fun _ _ _ inside => by cases inside⟩ (leakless (by decide)) rfl
  exact first.next ⟨trivial, fun _ _ _ inside => by cases inside⟩ (leakless (by decide)) rfl

end Small

/-- Of two contexts the one that was opened last is synchronised. -/
theorem Small.publisher_session_first :
    (twoContexts.rmw.contexts 0).impl = some 1 ∧ (twoContexts.rmw.contexts 1).impl = some 0 ∧
      rmwUrosSyncSession 1000 (fun _ => true) twoContexts.rmw = .ok (.ok, some (0, 1000)) :=
  ⟨by decide, by decide, (newest_session_first twoContexts_leakless
    ⟨.custom, false, cstr "", cstr "", cstr "", {}⟩).2.2.1 1000 fun _ => true⟩

end RmwMicroxrcedds
