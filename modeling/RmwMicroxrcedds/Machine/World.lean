import RmwMicroxrcedds.Library.Machine
import RmwMicroxrcedds.Refinement.Initialisation
import RmwMicroxrcedds.Refinement.Waiting

/-! # Runs of the layer

The layer as a machine: its operations are the calls of the `rmw` API and the messages
that arrive at a session, in any order and with any outcome of the lookups, allocations
and exchanges inside. `Enabled` is what the API asks of its callers: handles that were
returned and not destroyed, contexts with a session, and messages that fit.
-/

namespace RmwMicroxrcedds

open Outcome

/-- The layer, with what its callers know: the handles that were returned, and the sessions
of contexts whose initialisation succeeded. -/
structure World where
  rmw : Rmw := {}
  returned : Pool → List Nat := fun _ => []
  opened : List Nat := []

/-- The calls of the API, and the arrival of a message. -/
inductive Op where
  | init (call : InitCall)
  | contextFini (context : Nat) (teardown : ContextTeardown)
  | shutdown (context : Nat) (teardown : ContextTeardown)
  | createNode (call : NodeCall)
  | createPublisher (call : PublisherCall)
  | createSubscription (call : SubscriptionCall)
  | createEndpoint (kind : EndpointKind) (call : EndpointCall)
  | destroyNode (node : Nat) (teardown : NodeTeardown)
  | destroyPublisher (node publisher : Nat) (teardown : EntityTeardown)
  | destroySubscription (node subscription : Nat) (teardown : EntityTeardown)
  | destroyEndpoint (kind : EndpointKind) (node endpoint : Nat) (exchange : Exchange)
  | receive (session : Nat) (delivery : Delivery)
  | take (pool : Pool) (deserialize : List UInt8 → Bool) (handle : Nat)
  | wait (call : WaitCall)

/-- The take function of the entities of a pool. -/
def takeFrom (pool : Pool) (deserialize : List UInt8 → Bool) (handle : Nat) (s : Rmw) :
    Exec (TakeResult × Rmw) :=
  match pool with
  | .subscription => rmwTakeWithInfo deserialize handle s
  | .service => rmwTakeRequest deserialize handle s
  | .client => rmwTakeResponse deserialize handle s
  | _ => .ok ({ ret := .error }, s)

namespace World

/-- A creation returned the handle, or null. -/
def creating (w : World) (pool : Pool) (result : Option Nat × Rmw) : World :=
  { w with
    rmw := result.2
    returned := Function.update w.returned pool (result.1.toList ++ w.returned pool) }

/-- A context may have lost its session. -/
def closing (w : World) (context : Nat) (result : RmwRet × Rmw) : World :=
  { w with
    rmw := result.2
    opened := w.opened.filter fun session =>
      (w.rmw.contexts context).impl != some session || (result.2.contexts context).impl.isSome }

/-- The session that `rmw_init` attached to its context. -/
def initialised (call : InitCall) (s : Rmw) : Option Nat :=
  call.context.bind fun context => (s.contexts context).impl

/-- `rmw_init` returned. -/
def opening (w : World) (call : InitCall) (result : RmwRet × Rmw) : World :=
  { w with
    rmw := result.2
    opened := if result.1 = .ok then (initialised call result.2).toList ++ w.opened else w.opened }

/-- A live handle: it was returned, and is not freed. -/
def Live (w : World) (pool : Pool) (handle : Nat) : Prop :=
  handle ∈ w.returned pool ∧ ((w.rmw.handles pool).block handle).isSome = true

end World

/-- One operation. -/
def exec (cfg : Config) : Op → World → Exec World
  | .init call, w => do return w.opening call (← rmwInit cfg call w.rmw)
  | .contextFini context teardown, w => do
      return w.closing context (← rmwContextFini cfg context teardown w.rmw)
  | .shutdown context teardown, w => do
      return w.closing context (← rmwShutdown cfg (some context) teardown w.rmw)
  | .createNode call, w => do return w.creating .node (← rmwCreateNode cfg call w.rmw)
  | .createPublisher call, w => do
      return w.creating .publisher (← rmwCreatePublisher cfg call w.rmw)
  | .createSubscription call, w => do
      return w.creating .subscription (← rmwCreateSubscription cfg call w.rmw)
  | .createEndpoint kind call, w => do
      return w.creating kind.pool (← createEndpoint cfg kind call w.rmw)
  | .destroyNode node teardown, w => do
      return { w with rmw := (← rmwDestroyNode cfg (some node) teardown w.rmw).2 }
  | .destroyPublisher node publisher teardown, w => do
      return { w with
        rmw := (← rmwDestroyPublisher cfg (some node) (some publisher) teardown w.rmw).2 }
  | .destroySubscription node subscription teardown, w => do
      return { w with
        rmw := (← rmwDestroySubscription cfg (some node) (some subscription) teardown w.rmw).2 }
  | .destroyEndpoint kind node endpoint exchange, w => do
      return { w with
        rmw := (← destroyEndpoint cfg kind (some node) (some endpoint) exchange w.rmw).2 }
  | .receive session delivery, w => do
      return { w with rmw := ← deliver cfg session delivery w.rmw }
  | .take pool deserialize handle, w => do
      return { w with rmw := (← takeFrom pool deserialize handle w.rmw).2 }
  | .wait call, w => do return { w with rmw := (← rmwWait cfg call w.rmw).2 }

/-- The slot of a node handle. -/
def Rmw.nodeOf (s : Rmw) (handle : Option Nat) : Option Nat :=
  handle.bind fun handle => (s.registry.data .node handle).join

/-- The session of a node handle. -/
def Rmw.sessionOf (s : Rmw) (handle : Option Nat) : Option Nat :=
  (s.nodeOf handle).bind fun node => (s.customNodes node).context

/-- How a creation ends. -/
def Op.exit (cfg : Config) (s : Rmw) : Op → Option CreateExit
  | .createNode call => some (nodeExit cfg call s)
  | .createPublisher call => some (publisherExit cfg call s)
  | .createSubscription call => some (subscriptionExit cfg call s)
  | .createEndpoint kind call =>
      some (endpointExit cfg kind call ((s.sessionOf call.node).getD 0) s)
  | _ => none

/-- The pool of the entity a creation is about. -/
def Op.pool : Op → Pool
  | .createNode _ => .node
  | .createPublisher _ => .publisher
  | .createSubscription _ => .subscription
  | .createEndpoint kind _ => kind.pool
  | _ => .session

/-- The pools in which a creation that ends so leaves a slot allocated that no handle of
the caller designates. -/
def CreateExit.leaks (pool : Pool) : CreateExit → List Pool
  | .leaked | .topicless | .unreturned => [pool]
  | .topicLeaked => [.topic]
  | .bothLeaked => [.topic, pool]
  | .refused | .created | .doubleReleased | .crashed => []

/-- The pools in which an operation leaks a slot. -/
def Op.leaks (cfg : Config) (s : Rmw) (op : Op) : List Pool :=
  match op.exit cfg s with
  | some exit => exit.leaks op.pool
  | none => []

/-- The data request of a service or a client that is created finds room in the stream. -/
def Op.room : Op → Bool
  | .createEndpoint _ call => call.dataRequestRoom
  | _ => true

/-- The slots an operation gives back, topics apart. -/
def Op.gone (r : Registry) : Op → Pool → Nat → Prop
  | .contextFini context _, pool, slot | .shutdown context _, pool, slot =>
      ∃ session, r.impl context = some session ∧
        (r.SitedIn session pool slot ∨ pool = .session ∧ slot = session)
  | .destroyNode node _, pool, slot =>
      ∃ customNode, r.Bound .node node customNode ∧ r.GoesWith customNode pool slot
  | .destroyPublisher _ publisher _, pool, slot =>
      pool = .publisher ∧ r.Bound .publisher publisher slot
  | .destroySubscription _ subscription _, pool, slot =>
      pool = .subscription ∧ r.Bound .subscription subscription slot
  | .destroyEndpoint kind _ endpoint _, pool, slot =>
      pool = kind.pool ∧ r.Bound kind.pool endpoint slot
  | _, _, _ => False

/-- Every message is admitted. -/
def everyone : Admission where message := fun _ _ => True

/-- The messages that arrive during an operation fit, and are for entities the admission
allows, in every registry they can meet. -/
def Op.Acceptable (cfg : Config) (admits : Admission) (s : Rmw) : Op → Prop
  | .init call => call.Acceptable cfg admits s.registry
  | .contextFini context teardown | .shutdown context teardown =>
      ∀ session, s.registry.impl context = some session →
        teardown.Acceptable cfg admits s.registry session
  | .createNode call => ∀ context session, call.context = some context →
      s.registry.impl context = some session →
      call.exchange.Acceptable cfg admits s.registry session
  | .createPublisher call => ∀ session, s.sessionOf call.node = some session →
      call.Acceptable cfg admits s.registry session
  | .createSubscription call => ∀ session, s.sessionOf call.node = some session →
      call.Acceptable cfg admits s session
  | .createEndpoint kind call => ∀ session, s.sessionOf call.node = some session →
      call.Acceptable cfg admits s kind session
  | .destroyNode node teardown => ∀ slot session, s.registry.Bound .node node slot →
      (s.customNodes slot).context = some session →
      teardown.Acceptable cfg admits s.registry slot session
  | .destroyPublisher _ publisher teardown => ∀ slot owner session,
      s.registry.Bound .publisher publisher slot →
      (s.customPublishers slot).ownerNode = some owner →
      (s.customNodes owner).context = some session →
      teardown.Acceptable cfg admits s.registry session
  | .destroySubscription _ subscription teardown => ∀ slot owner session,
      s.registry.Bound .subscription subscription slot →
      (s.customSubscriptions slot).ownerNode = some owner →
      (s.customNodes owner).context = some session →
      teardown.Acceptable cfg admits s.registry session
  | .destroyEndpoint _ node _ exchange => ∀ slot session, s.registry.Bound .node node slot →
      (s.customNodes slot).context = some session →
      exchange.Acceptable cfg admits s.registry session
  | .receive session delivery => RmwMicroxrcedds.Acceptable cfg admits s.registry session delivery
  | .take _ _ _ => True
  | .wait call => ∀ arrival ∈ arrivalsOf call.arrivals (s.allocated .session),
      RmwMicroxrcedds.Acceptable cfg admits s.registry arrival.1 arrival.2

/-- What the API asks of the caller of an operation. -/
def Op.Asked (w : World) : Op → Prop
  | .init _ | .wait _ => True
  | .contextFini context _ | .shutdown context _ => ((w.rmw.contexts context).impl).isSome = true
  | .createNode call => ∀ context, call.context = some context →
      ((w.rmw.contexts context).impl).isSome = true
  | .createPublisher call => ∀ node, call.node = some node → w.Live .node node
  | .createSubscription call => ∀ node, call.node = some node → w.Live .node node
  | .createEndpoint _ call => ∀ node, call.node = some node → w.Live .node node
  | .destroyNode node _ => w.Live .node node
  | .destroyPublisher node publisher _ => w.Live .node node ∧ w.Live .publisher publisher
  | .destroySubscription node subscription _ =>
      w.Live .node node ∧ w.Live .subscription subscription
  | .destroyEndpoint kind node endpoint _ => w.Live .node node ∧ w.Live kind.pool endpoint
  | .receive session _ => session ∈ w.rmw.allocated .session
  | .take pool _ handle => pool.hasInbox = true ∧ w.Live pool handle

/-- The operation may be asked for: its caller meets the API, and the messages fit. -/
def Enabled (cfg : Config) (w : World) (op : Op) : Prop :=
  op.Asked w ∧ op.Acceptable cfg everyone w.rmw

/-- The layer as a machine. It starts with everything zeroed. -/
def layer (cfg : Config) : Machine World Op Fault where
  start := {}
  step := exec cfg
  enabled := Enabled cfg

/-- No node in reach of a destroy function carries the handle of a creation that failed. -/
def Op.Settled (r : Registry) : Op → Prop
  | .destroyNode node _ => ∀ slot, r.Bound .node node slot → r.Settled slot
  | .contextFini context _ | .shutdown context _ =>
      ∀ session, r.impl context = some session → r.SettledIn session
  | _ => True

/-- The condition under which an operation does not run into one of the defects that end
in a fault or in a broken pool. -/
structure Safe (cfg : Config) (w : World) (op : Op) : Prop where
  single : op.exit cfg w.rmw ≠ some .doubleReleased
  allocates : op.exit cfg w.rmw ≠ some .crashed
  settled : op.Settled w.rmw.registry

end RmwMicroxrcedds
