import RmwMicroxrcedds.Model.Init
import RmwMicroxrcedds.Model.OptionsMemory

/-! # Reaching the agent

`ping.c` and `time_sync.c`: whether the agent answers, over the transports of the sessions or, when
there are none, over one opened for the ping; and the time of the agent, as a session knows it.
-/

namespace RmwMicroxrcedds

/-- What a ping does with the transports: those of the sessions, and one of its own. -/
inductive LinkEvent where
  | opened (endpoint : TransportEndpoint)
  | pinged (session : Option Nat) (timeoutMs : BitVec 32) (attempts : BitVec 8)
  | closed
deriving DecidableEq

/-- The arguments of `rmw_uros_ping_agent`, how its own transport opens, and over which transports
the agent answers in time. -/
structure PingCall where
  timeoutMs : BitVec 32
  attempts : BitVec 8
  transport : TransportOutcome := .opened
  answers : Option Nat → Bool

/-- `uxr_ping_agent_attempts` on a transport. -/
def PingCall.ping (call : PingCall) (session : Option Nat) : LinkEvent :=
  .pinged session call.timeoutMs call.attempts

/-- The loop over the sessions, which ends with the first one that is answered. -/
def pingSessions (call : PingCall) (s : Rmw) : Nat → Option Nat → Exec (Bool × List LinkEvent)
  | _, none => .ok (false, [])
  | 0, some _ => .error .divergence
  | fuel + 1, some item => do
      let context ← s.dataOf .session item
      if call.answers (some context) then .ok (true, [call.ping (some context)])
      else do
        let (success, events) ← pingSessions call s fuel ((s.memory .session).links item).next
        .ok (success, call.ping (some context) :: events)

/-- The ping over a transport of its own, which is closed again. What
`rmw_uxrce_transport_init` opened before it failed is not. -/
def pingAlone (cfg : TransportConfig) (call : PingCall) : RmwRet × List LinkEvent :=
  let endpoint := rmwUxrceTransportInit cfg none
  match call.transport with
  | .notOpened => (.error, [])
  | .openedThenFailed => (.error, [.opened endpoint])
  | .opened =>
      (if call.answers none then .ok else .error, [.opened endpoint, call.ping none, .closed])

/-- `rmw_uros_ping_agent`. -/
def rmwUrosPingAgent (cfg : TransportConfig) (call : PingCall) (s : Rmw) :
    Exec (RmwRet × List LinkEvent) :=
  match (s.memory .session).allocateditems with
  | none => .ok (pingAlone cfg call)
  | some item => do
      let (success, events) ← pingSessions call s (s.memory .session).size (some item)
      .ok (if success then .ok else .error, events)

/-- `rmw_uros_sync_session`, with the session it synchronises and for how long, and whether
`uxr_sync_session` succeeds on it. -/
def rmwUrosSyncSession (timeoutMs : BitVec 32) (succeeds : Nat → Bool) (s : Rmw) :
    Exec (RmwRet × Option (Nat × BitVec 32)) :=
  match (s.memory .session).allocateditems with
  | none => .ok (.error, none)
  | some item => do
      let context ← s.dataOf .session item
      .ok (if succeeds context then .ok else .error, some (context, timeoutMs))

/-- The functions that read something of the first session, if there is one. -/
def readSession {Value : Type} (absent : Value) (read : Nat → Value) (s : Rmw) : Exec Value :=
  match (s.memory .session).allocateditems with
  | none => .ok absent
  | some item => do return read (← s.dataOf .session item)

/-- `rmw_uros_epoch_synchronized`. -/
def rmwUrosEpochSynchronized (synchronized : Nat → Bool) (s : Rmw) : Exec Bool :=
  readSession false synchronized s

/-- `rmw_uros_epoch_millis`. -/
def rmwUrosEpochMillis (epochMillis : Nat → BitVec 64) (s : Rmw) : Exec (BitVec 64) :=
  readSession 0 epochMillis s

/-- `rmw_uros_epoch_nanos`. -/
def rmwUrosEpochNanos (epochNanos : Nat → BitVec 64) (s : Rmw) : Exec (BitVec 64) :=
  readSession 0 epochNanos s

end RmwMicroxrcedds
