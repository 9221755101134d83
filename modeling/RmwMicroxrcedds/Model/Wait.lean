import RmwMicroxrcedds.Library.Arithmetic
import RmwMicroxrcedds.Model.Names
import RmwMicroxrcedds.Model.Take

/-! # Waiting

`rmw_wait` with its timeouts and the guard conditions, and `rmw_trigger_guard_condition`.
The flag of a guard condition is a block of its own; the wait set refers to it directly.
-/

namespace RmwMicroxrcedds

open Arithmetic

/-- `rmw_time_t`. -/
structure RmwTime where
  sec : BitVec 64
  nsec : BitVec 64

/-- `UXR_TIMEOUT_INF`. -/
def uxrTimeoutInf : BitVec 32 := -1

/-- `INT_MAX`, as a `uint64_t`. -/
def intMaxWord : BitVec 64 := BitVec.ofNat 64 intMax

/-- `UINT64_MAX`. -/
def uint64Max : BitVec 64 := BitVec.allOnes 64

/-- The conversion of a timeout to milliseconds in `rmw_wait`, in the arithmetic given. -/
def timeoutIn {m : Type → Type} [Monad m] (ops : Operations 64 m) (time : RmwTime) :
    m (BitVec 64) :=
  if time.sec ≥ uint64Max / 1000 then pure intMaxWord
  else do
    let timeout ← ops.mul time.sec 1000
    let timeoutMs := time.nsec / 1000000
    let room ← ops.sub uint64Max timeout
    if room ≤ timeoutMs then pure intMaxWord
    else do
      let timeout ← ops.add timeout timeoutMs
      if timeout > intMaxWord then pure intMaxWord else pure timeout

/-- The timeout of `rmw_wait`, before it is divided among the sessions. -/
def timeoutOf (waitTimeout : Option RmwTime) : BitVec 64 :=
  match waitTimeout with
  | some time => Id.run (timeoutIn (wrapping 64) time)
  | none => uxrTimeoutInf.signExtend 64

/-- The loop of `rmw_wait` that counts the sessions in a `uint8_t`. -/
def countSessions (mem : Mempool) : Nat → Option Nat → BitVec 8 → Exec (BitVec 8)
  | _, none, availableContexts => .ok availableContexts
  | 0, some _, _ => .error .divergence
  | fuel + 1, some item, availableContexts =>
      countSessions mem fuel (mem.links item).next (availableContexts + 1)

/-- The quotient of two numbers, computed in `float` and taken as exact, and its conversion to
`uint64_t`. A quotient that is infinite or not a number has no value there: what comes out is
unspecified. -/
def floatQuotient (unspecified timeout : BitVec 64) (availableContexts : BitVec 8) : BitVec 64 :=
  if availableContexts = 0 then unspecified
  else BitVec.ofNat 64 (timeout.toNat / availableContexts.toNat)

/-- `rmw_guard_condition_t`. -/
structure RmwGuardCondition where
  implementationIdentifier : Option String
  data : Option Nat

/-- The flags of the guard conditions, by their addresses. They are allocated and never
freed: `rmw_destroy_guard_condition` frees the handle only. -/
structure GuardFlags where
  flag : Nat → Option Bool := fun _ => none
  next : Nat := 0

/-- `*hasTriggered`. -/
def GuardFlags.read (flags : GuardFlags) (hasTriggered : Option Nat) : Exec (Nat × Bool) :=
  match hasTriggered with
  | none => .error .nullDereference
  | some address =>
      match flags.flag address with
      | none => .error .useAfterFree
      | some triggered => .ok (address, triggered)

/-- A write to `*hasTriggered`. -/
def GuardFlags.write (flags : GuardFlags) (address : Nat) (triggered : Bool) : GuardFlags :=
  { flags with flag := Function.update flags.flag address (some triggered) }

/-- The loop of `rmw_wait` over the guard conditions: the entries that were triggered stay and
are untriggered, the others become null. -/
def checkGuardConditions :
    List (Option Nat) → GuardFlags → Exec (List (Option Nat) × Bool × GuardFlags)
  | [], flags => .ok ([], false, flags)
  | hasTriggered :: rest, flags => do
      let (address, triggered) ← flags.read hasTriggered
      if triggered then
        let (kept, _, flags) ← checkGuardConditions rest (flags.write address false)
        .ok (hasTriggered :: kept, true, flags)
      else
        let (kept, ready, flags) ← checkGuardConditions rest flags
        .ok (none :: kept, ready, flags)

/-- The loops of `rmw_wait` over an array of entities, if there is one. -/
def checkArray (pool : Pool) (s : Rmw) (entities : Option (List (Option Nat))) :
    Exec (Option (List (Option Nat)) × Bool) :=
  match entities with
  | none => .ok (none, false)
  | some entities => do
      let (ready, any) ← checkReady pool s entities
      .ok (some ready, any)

/-- The loop of `rmw_wait` that runs every session for the time given, with the messages that
arrive meanwhile: the sessions it ran, and for how long. -/
def runSessionsUntilData (cfg : Config) (timeout : BitVec 32)
    (arrivals : Nat → BitVec 32 → List Delivery) :
    Nat → Option Nat → Rmw → Exec (List (Nat × BitVec 32) × Rmw)
  | _, none, s => .ok ([], s)
  | 0, some _, _ => .error .divergence
  | fuel + 1, some item, s => do
      let session ← s.dataOf .session item
      let s ← deliverAll cfg session (arrivals session timeout) s
      let (ran, s) ← runSessionsUntilData cfg timeout arrivals fuel
        ((s.memory .session).links item).next s
      .ok ((session, timeout) :: ran, s)

/-- The arguments of `rmw_wait`, and what the sessions depend on: the messages that arrive at
a session that runs for some time, and the value of a quotient that has none. -/
structure WaitArguments where
  subscriptions : Option (List (Option Nat)) := none
  guardConditions : Option (List (Option Nat)) := none
  services : Option (List (Option Nat)) := none
  clients : Option (List (Option Nat)) := none
  waitTimeout : Option RmwTime := none
  arrivals : Nat → BitVec 32 → List Delivery := fun _ _ => []
  unspecified : BitVec 64 := 0

/-- The arrays of `rmw_wait` when it returns, its return code, and how long each session was
told to run. -/
structure WaitReturn where
  subscriptions : Option (List (Option Nat))
  guardConditions : Option (List (Option Nat))
  services : Option (List (Option Nat))
  clients : Option (List (Option Nat))
  ret : RmwRet
  timeouts : List (Nat × BitVec 32)

/-- What `rmw_wait` looks at: the layer, and the guard conditions beside it. -/
structure Waitable where
  rmw : Rmw := {}
  guards : GuardFlags := {}

namespace Waitable

/-- `rmw_create_guard_condition`. -/
def rmwCreateGuardCondition (w : Waitable) : RmwGuardCondition × Waitable :=
  ({ implementationIdentifier := some eprosimaMicroxrceddsIdentifier
     data := some w.guards.next },
    { w with
      guards :=
        { flag := Function.update w.guards.flag w.guards.next (some false)
          next := w.guards.next + 1 } })

/-- `rmw_trigger_guard_condition`. -/
def rmwTriggerGuardCondition (guardCondition : Option RmwGuardCondition) (w : Waitable) :
    Exec (RmwRet × Waitable) :=
  match guardCondition with
  | none => .ok (.error, w)
  | some guardCondition =>
      if isUxrceRmwIdentifierValid guardCondition.implementationIdentifier then do
        let (address, _) ← w.guards.read guardCondition.data
        .ok (.ok, { w with guards := w.guards.write address true })
      else .ok (.error, w)

/-- The checks of the guard conditions, if there are any. -/
def checkGuards (guardConditions : Option (List (Option Nat))) (flags : GuardFlags) :
    Exec (Option (List (Option Nat)) × Bool × GuardFlags) :=
  match guardConditions with
  | none => .ok (none, false, flags)
  | some guardConditions => do
      let (kept, ready, flags) ← checkGuardConditions guardConditions flags
      .ok (some kept, ready, flags)

/-- `rmw_wait`. -/
def rmwWait (cfg : Config) (call : WaitArguments) (w : Waitable) :
    Exec (WaitReturn × Waitable) := do
  let timeout := timeoutOf call.waitTimeout
  let sessions := w.rmw.memory .session
  let availableContexts ← countSessions sessions sessions.size sessions.allocateditems 0
  let perSessionTimeout := floatQuotient call.unspecified timeout availableContexts
  -- the argument is an `int`
  let (timeouts, s) ← runSessionsUntilData cfg (perSessionTimeout.setWidth 32) call.arrivals
    sessions.size sessions.allocateditems w.rmw
  let (services, someService) ← checkArray .service s call.services
  let (clients, someClient) ← checkArray .client s call.clients
  let (subscriptions, someSubscription) ← checkArray .subscription s call.subscriptions
  let (guardConditions, someGuard, guards) ← checkGuards call.guardConditions w.guards
  .ok ({ subscriptions := subscriptions
         guardConditions := guardConditions
         services := services
         clients := clients
         ret := if someService || someClient || someSubscription || someGuard then .ok
           else .timeout
         timeouts := timeouts }, ⟨s, guards⟩)

end Waitable

/-- A call of `rmw_wait` as the layer sees it: the entities it lists, the flags of its guard
conditions, and the messages that arrive at each session while it runs. -/
structure WaitCall where
  services : List (Option Nat) := []
  clients : List (Option Nat) := []
  subscriptions : List (Option Nat) := []
  guardConditions : List Bool := []
  arrivals : Nat → List Delivery := fun _ => []

/-- The arguments of such a call, with the guard conditions at the addresses from `0` on. -/
def WaitCall.arguments (call : WaitCall) : WaitArguments where
  subscriptions := some call.subscriptions
  guardConditions := some ((List.range call.guardConditions.length).map some)
  services := some call.services
  clients := some call.clients
  arrivals := fun session _ => call.arrivals session

def WaitCall.guards (call : WaitCall) : GuardFlags where
  flag := fun address => call.guardConditions[address]?
  next := call.guardConditions.length

/-- `rmw_wait`, with what it does to the layer. -/
def rmwWait (cfg : Config) (call : WaitCall) (s : Rmw) : Exec (WaitReturn × Rmw) := do
  let (result, w) ← Waitable.rmwWait cfg call.arguments ⟨s, call.guards⟩
  .ok (result, w.rmw)

end RmwMicroxrcedds
