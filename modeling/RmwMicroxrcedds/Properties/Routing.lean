import RmwMicroxrcedds.Machine.Run
import RmwMicroxrcedds.Refinement.Inbox

/-! # Routing across sessions

The sessions share one pool of subscriptions, one of services and one of clients, and
each numbers its entities from the same values on. The callbacks look for the first
allocated entity with the number of a message, whichever session it belongs to.
-/

namespace RmwMicroxrcedds

open Outcome Registry

variable {cfg : Config} {admits : Admission} {s s' : Rmw} {session slot : Nat}
variable {delivery : Delivery}

/-- The slot holds a live entity of a node of the session. -/
def Registry.SitsIn (r : Registry) (session : Nat) (pool : Pool) (slot : Nat) : Prop :=
  ∃ handle node, r.Bound pool handle slot ∧ (r.entity pool slot).ownerNode = some node ∧
    (r.entity .node node).context = some session

/-- Whatever was stored, was stored for a live entity of the session with the number of
the message. -/
def RoutedWithin (s s' : Rmw) (session : Nat) (delivery : Delivery) : Prop :=
  ∀ item ∈ s'.allocated .staticBuffer, item ∉ s.allocated .staticBuffer → ∃ slot,
    (s'.customStaticBuffers item).owner = some ⟨delivery.pool, slot⟩ ∧
      (s.entity delivery.pool slot).answers delivery = true ∧
      s.registry.SitsIn session delivery.pool slot

/-- The message is not stored at all, or the first entity with its number, of any session,
is one of its session. -/
def Unconfused (cfg : Config) (s : Rmw) (session : Nat) (delivery : Delivery) : Prop :=
  delivery.toGraph cfg s.registry session = true ∨ s.free .staticBuffer = [] ∨
    delivery.copied = false ∨
    ∀ slot, s.firstMatch delivery = some slot → s.registry.SitsIn session delivery.pool slot

/-- A callback keeps to its session exactly when the first entity with the number of the
message does, whatever sessions and entities there are. -/
theorem Received.routed_iff (received : Received cfg session delivery s s')
    (healthy : s.Healthy cfg admits) :
    RoutedWithin s s' session delivery ↔ Unconfused cfg s session delivery := by
  have unstored : s'.allocated .staticBuffer = s.allocated .staticBuffer →
      RoutedWithin s s' session delivery := by
    intro same item inside outside
    rw [same] at inside
    exact absurd inside outside
  cases received with
  | unaddressed nobody allocated buffers =>
      have nothing : (s.registry.addressee cfg session delivery).map Prod.fst = none := by
        rw [nobody]
        rfl
      rw [addressee_eq_firstMatch] at nothing
      refine iff_of_true (unstored allocated) ?_
      split at nothing
      · exact Or.inl (by assumption)
      · refine Or.inr (Or.inr (Or.inr fun slot found => ?_))
        rw [found] at nothing
        cases nothing
  | addressed owner provenance related isAddressee enqueued =>
      have found : (s.registry.addressee cfg session delivery).map Prod.fst = some owner := by
        rw [isAddressee]
        rfl
      rw [addressee_eq_firstMatch] at found
      cases enqueued with
      | full empty same =>
          rw [same] at unstored ⊢
          exact iff_of_true (unstored rfl) (Or.inr (Or.inl empty))
      | dropped item rest first notCopied allocated buffers =>
          exact iff_of_true (unstored allocated) (Or.inr (Or.inr (Or.inl notCopied)))
      | stored item rest first wasCopied allocated buffers =>
          split at found
          · cases found
          rename_i notGraph
          obtain ⟨slot, isFirst, rfl⟩ := Option.map_eq_some_iff.mp found
          have answers : (s.entity delivery.pool slot).answers delivery = true := by
            unfold Rmw.firstMatch at isFirst
            have passes := List.find?_some isFirst
            exact passes
          have fresh : item ∉ s.allocated .staticBuffer := by
            have isFree : item ∈ s.free .staticBuffer := by simp [first]
            exact (healthy.wf .staticBuffer).disjoint isFree
          have owned : (s'.customStaticBuffers item).owner = some ⟨delivery.pool, slot⟩ := by
            rw [buffers, Function.update_self]
            rfl
          constructor
          · intro routed
            obtain ⟨slot', isOwner, -, sits⟩ := routed item (by simp [allocated]) fresh
            refine Or.inr (Or.inr (Or.inr fun other isOther => ?_))
            cases owned.symm.trans isOwner
            cases isFirst.symm.trans isOther
            exact sits
          · intro unconfused other inside outside
            rw [allocated] at inside
            rcases List.mem_cons.mp inside with rfl | old
            · refine ⟨slot, owned, answers, ?_⟩
              rcases unconfused with graph | empty | notCopied | sits
              · exact absurd graph notGraph
              · rw [empty] at first
                cases first
              · rw [notCopied] at wasCopied
                cases wasCopied
              · exact sits slot isFirst
            · exact absurd old outside

/-- Every session that `rmw_init` opens starts from the same counters, which are its own. -/
theorem Initialisation.opened {call : InitCall} {ret : RmwRet} {exit : InitExit}
    (initialisation : Initialisation cfg call s s' ret exit) (ok : ret = .ok) :
    ∃ context session, call.context = some context ∧ (s'.contexts context).impl = some session ∧
      session ∉ s.registry.allocated .session ∧
      (s'.customSessions session).nextId = (if cfg.graph then graphCounters else fun _ => 0) ∧
      (s'.customSessions session).lastRequestId =
        cfg.initialRequestId + (s'.customSessions session).requests.length ∧
      ∀ other, other ≠ session → s'.customSessions other = s.customSessions other := by
  cases exit with
  | rejected => exact absurd ok initialisation.1
  | exhausted => exact absurd ok initialisation.1
  | failed => exact absurd ok initialisation.1
  | completed =>
      obtain ⟨-, context, session, isContext, attached, started⟩ := initialisation
      have isImpl : s'.registry.impl context = some session := by
        simp [attached.registry]
      exact ⟨context, session, isContext, isImpl, attached.free, started.nextId,
        started.lastRequestId, attached.others⟩

/-- For every state of the sessions and their entities: a message is stored for a live
entity of its own session exactly when the first entity with its number, of any session,
is one; and every session starts counting from the same values. -/
theorem routedWithin_iff (healthy : s.Healthy cfg everyone) :
    (∀ session delivery, delivery.Fits cfg →
      ∃ s', deliver cfg session delivery s = .ok s' ∧
        (RoutedWithin s s' session delivery ↔ Unconfused cfg s session delivery)) ∧
    ∀ call : InitCall, call.Acceptable cfg everyone s.registry →
      ∃ ret s', rmwInit cfg call s = .ok (ret, s') ∧ (ret = .ok →
        ∃ context session, call.context = some context ∧ (s'.contexts context).impl = some session ∧
          session ∉ s.registry.allocated .session ∧
          (s'.customSessions session).nextId = (if cfg.graph then graphCounters else fun _ => 0) ∧
          (s'.customSessions session).lastRequestId =
            cfg.initialRequestId + (s'.customSessions session).requests.length ∧
          ∀ other, other ≠ session → s'.customSessions other = s.customSessions other) := by
  constructor
  · intro session delivery fits
    obtain ⟨s', returns, -, -, received⟩ := deliver_spec healthy ⟨fits, fun _ _ _ => trivial⟩
    exact ⟨s', returns, received.routed_iff healthy⟩
  · intro call acceptable
    obtain ⟨⟨ret, s'⟩, returns, -, post⟩ := rmwInit_spec healthy acceptable
    exact ⟨ret, s', returns, post.opened⟩

namespace Twin

/-- The small build with room for two of each. -/
def config : Config :=
  { Small.config with maxSessions := 2, maxNodes := 2, maxSubscriptions := 2 }

/-- `rmw_init` on the given context, with every step succeeding. -/
def init (context : Nat) : Op := .init { Small.init with context := some context }

/-- `rmw_create_node` in the given context. -/
def node (context : Nat) : Op := .createNode { Small.node with context := some context }

/-- `rmw_create_subscription` on the given node. -/
def subscription (node : Nat) : Op :=
  .createSubscription { Small.subscription with node := some node }

def step (op : Op) (w : World) : World := (layer config).next op w

/-- The layer with one context, its node and a subscription. -/
def single : World := step (subscription 0) (step (node 0) (step (init 0) {}))

/-- The layer with two contexts, each with a node and a subscription. -/
def double : World := step (subscription 1) (step (node 1) (step (init 1) single))

variable {w : World}

/-- A step that ends as it should leads on. -/
theorem reach {op : Op} (before : Reachable (layer config) (Safe config) w)
    (enabled : Enabled config w op) (safe : Safe config w op)
    (returns : (exec config op w).isOk = true) :
    Reachable (layer config) (Safe config) (step op w) :=
  before.next enabled safe returns

theorem init_enabled (context : Nat) : Enabled config w (init context) :=
  ⟨trivial, fun _ _ _ inside => by cases inside⟩

theorem node_enabled (context : Nat)
    (attached : (w.rmw.contexts context).impl.isSome = true) :
    Enabled config w (node context) := by
  refine ⟨fun other isContext => ?_, fun _ _ _ _ => Exchange.acceptable_of_quiet rfl⟩
  cases isContext
  exact attached

theorem subscription_enabled (node : Nat) (live : w.Live .node node) :
    Enabled config w (subscription node) := by
  refine ⟨fun other isNode => ?_, fun _ _ _ _ => ⟨Exchange.acceptable_of_quiet rfl,
    Exchange.acceptable_of_quiet rfl, Exchange.acceptable_of_quiet rfl⟩⟩
  cases isNode
  exact live

theorem single_reachable : Reachable (layer config) (Safe config) single := by
  have context : Reachable (layer config) (Safe config) (step (init 0) {}) :=
    reach .start (init_enabled 0) ⟨by decide, by decide, trivial⟩ rfl
  exact reach (reach context (node_enabled 0 rfl) ⟨by decide, by decide, trivial⟩ rfl)
    (subscription_enabled 0 ⟨by decide, rfl⟩) ⟨by decide, by decide, trivial⟩ rfl

theorem double_reachable : Reachable (layer config) (Safe config) double := by
  have context : Reachable (layer config) (Safe config) (step (init 1) single) :=
    reach single_reachable (init_enabled 1) ⟨by decide, by decide, trivial⟩ rfl
  exact reach (reach context (node_enabled 1 rfl) ⟨by decide, by decide, trivial⟩ rfl)
    (subscription_enabled 1 ⟨by decide, rfl⟩) ⟨by decide, by decide, trivial⟩ rfl

end Twin

/-- Two contexts, each with a node and a subscription. -/
theorem routedWithin_iff_small :
    (∀ session delivery, delivery.Fits Twin.config →
      ∃ s', deliver Twin.config session delivery Twin.double.rmw = .ok s' ∧
        (RoutedWithin Twin.double.rmw s' session delivery ↔
          Unconfused Twin.config Twin.double.rmw session delivery)) ∧
    ∀ call : InitCall, call.Acceptable Twin.config everyone Twin.double.rmw.registry →
      ∃ ret s', rmwInit Twin.config call Twin.double.rmw = .ok (ret, s') ∧ (ret = .ok →
        ∃ context session, call.context = some context ∧ (s'.contexts context).impl = some session ∧
          session ∉ Twin.double.rmw.registry.allocated .session ∧
          (s'.customSessions session).nextId =
            (if Twin.config.graph then graphCounters else fun _ => 0) ∧
          (s'.customSessions session).lastRequestId =
            Twin.config.initialRequestId + (s'.customSessions session).requests.length ∧
          ∀ other, other ≠ session →
            s'.customSessions other = Twin.double.rmw.customSessions other) := by
  apply routedWithin_iff
  exact (reachable_sound Twin.double_reachable fun _ _ => id).1

/-- A sample that the first session delivers for its own subscription is stored for the one
of the second session, which has the same number. -/
theorem sample_crosses_sessions :
    Reachable (layer Twin.config) (fun _ _ => True) Twin.double ∧
      (Twin.double.rmw.contexts 0).impl = some 1 ∧
      Twin.double.rmw.registry.SitsIn 1 .subscription 1 ∧
      ∃ s', deliver Twin.config 1 Small.sample Twin.double.rmw = .ok s' ∧
        (s'.customStaticBuffers 1).owner = some ⟨.subscription, 0⟩ ∧
        ¬ RoutedWithin Twin.double.rmw s' 1 Small.sample := by
  refine ⟨Twin.double_reachable.mono fun _ _ _ => trivial, rfl, ⟨0, 1, rfl, rfl, rfl⟩, _, rfl, rfl,
    fun routed => ?_⟩
  obtain ⟨slot, isOwner, -, handle, node, -, owner, context⟩ := routed 1 (by decide) (by decide)
  cases isOwner
  cases owner
  cases context

end RmwMicroxrcedds
