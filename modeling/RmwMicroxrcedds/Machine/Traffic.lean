import RmwMicroxrcedds.Machine.Run
import RmwMicroxrcedds.Refinement.Inbox

/-! # Traffic on a fixed set of entities

Deliveries, takes and waits, in any order. Each of them is an event of the bags of
messages that the owners of the input buffers have, and so is a run of them.
-/

namespace RmwMicroxrcedds

open Outcome Registry

variable {cfg : Config} {s s' : Rmw} {session : Nat} {delivery : Delivery} {owner : EntityPtr}

/-- The pending messages, as bags. -/
def Rmw.bags (s : Rmw) : Multiset (EntityPtr × Message) := s.mail

/-- The message is for the entity: it carries its number, and is not for the graph. -/
structure Registry.IsFor (cfg : Config) (r : Registry) (session : Nat) (delivery : Delivery)
    (owner : EntityPtr) : Prop where
  notGraph : delivery.toGraph cfg r session = false
  pool : owner.pool = delivery.pool
  inside : owner.index ∈ r.allocated delivery.pool
  answers : (r.entity delivery.pool owner.index).answers delivery = true

/-- The traffic of a fixed set of entities. -/
inductive Traffic where
  | receive (session : Nat) (delivery : Delivery)
  | take (pool : Pool) (deserialize : List UInt8 → Bool) (handle : Nat)
  | wait (call : WaitCall)

/-- Payloads are no longer than an input buffer, and takes are on live handles. -/
def Traffic.Enabled (cfg : Config) (r : Registry) : Traffic → Prop
  | .receive _ delivery => delivery.Fits cfg
  | .take pool _ handle => pool.hasInbox = true ∧ ∃ slot, r.Bound pool handle slot
  | .wait call => ∀ arrival ∈ arrivalsOf call.arrivals (r.allocated .session), arrival.2.Fits cfg

/-- The code for one operation, with the result of a take. -/
def execTraffic (cfg : Config) : Traffic → Rmw → Exec (Option TakeResult × Rmw)
  | .receive session delivery, s => do return (none, ← deliver cfg session delivery s)
  | .take pool deserialize handle, s => do
      let (result, s) ← takeFrom pool deserialize handle s
      return (some result, s)
  | .wait call, s => do return (none, (← rmwWait cfg call s).2)

/-- The code for several operations, with the results of all takes. -/
def runTraffic (cfg : Config) : List Traffic → Rmw → Exec (List (Option TakeResult) × Rmw)
  | [], s => .ok ([], s)
  | op :: ops, s => do
      let (result, s) ← execTraffic cfg op s
      let (results, s) ← runTraffic cfg ops s
      return (result :: results, s)

/-- What a delivery is for the bags: the message arrives in the bag of the entity it is for,
when it could be copied and there is room, and otherwise it is lost. -/
inductive Arrival (cfg : Config) (r : Registry) (session : Nat) (delivery : Delivery)
    (all : Multiset (EntityPtr × Message)) : Bags.Event EntityPtr Message → Prop
  | arrived (owner : EntityPtr) (isFor : r.IsFor cfg session delivery owner)
      (copied : delivery.copied = true) (room : Multiset.card all < cfg.maxHistory) :
      Arrival cfg r session delivery all (.arrived owner delivery.message)
  | lost (refused : ∀ owner, r.IsFor cfg session delivery owner → delivery.copied = true →
      ¬ Multiset.card all < cfg.maxHistory) : Arrival cfg r session delivery all .lost

/-- Deliveries one after the other. -/
inductive Arrivals (cfg : Config) (r : Registry) : Multiset (EntityPtr × Message) →
    List (Nat × Delivery) → List (Bags.Event EntityPtr Message) →
    Multiset (EntityPtr × Message) → Prop
  | nil (all : Multiset (EntityPtr × Message)) : Arrivals cfg r all [] [] all
  | cons {all middle all' : Multiset (EntityPtr × Message)} {session : Nat} {delivery : Delivery}
      {rest : List (Nat × Delivery)} {event : Bags.Event EntityPtr Message}
      {events : List (Bags.Event EntityPtr Message)}
      (arrival : Arrival cfg r session delivery all event)
      (step : Bags.Step cfg.maxHistory all event middle)
      (others : Arrivals cfg r middle rest events all') :
      Arrivals cfg r all ((session, delivery) :: rest) (event :: events) all'

/-- What an operation with such a result is for the bags. A take that found a message has
handed it to the deserialiser, and removed it whatever the deserialiser said. -/
inductive Explains (cfg : Config) (r : Registry) (all : Multiset (EntityPtr × Message)) :
    Traffic → Option TakeResult → List (Bags.Event EntityPtr Message) →
    Multiset (EntityPtr × Message) → Prop
  | receive {session : Nat} {delivery : Delivery} {events : List (Bags.Event EntityPtr Message)}
      {all' : Multiset (EntityPtr × Message)}
      (arrivals : Arrivals cfg r all [(session, delivery)] events all') :
      Explains cfg r all (.receive session delivery) none events all'
  | wait {call : WaitCall} {events : List (Bags.Event EntityPtr Message)}
      {all' : Multiset (EntityPtr × Message)}
      (arrivals : Arrivals cfg r all (arrivalsOf call.arrivals (r.allocated .session)) events
        all') :
      Explains cfg r all (.wait call) none events all'
  | took {pool : Pool} {deserialize : List UInt8 → Bool} {handle slot : Nat}
      {result : TakeResult} {message : Message} {all' : Multiset (EntityPtr × Message)}
      (bound : r.Bound pool handle slot) (payload : result.payload = some message.payload)
      (taken : result.taken = deserialize message.payload)
      (reports : ∀ related, message.header = some related → result.Reports pool related)
      (step : Bags.Step cfg.maxHistory all (.took ⟨pool, slot⟩ message) all') :
      Explains cfg r all (.take pool deserialize handle) (some result) [.took ⟨pool, slot⟩ message]
        all'
  | missed {pool : Pool} {deserialize : List UInt8 → Bool} {handle slot : Nat}
      {result : TakeResult} (bound : r.Bound pool handle slot) (payload : result.payload = none)
      (taken : result.taken = false)
      (step : Bags.Step cfg.maxHistory all (.missed ⟨pool, slot⟩) all) :
      Explains cfg r all (.take pool deserialize handle) (some result) [.missed ⟨pool, slot⟩] all

/-- Operations one after the other. -/
inductive ExplainsAll (cfg : Config) (r : Registry) : Multiset (EntityPtr × Message) →
    List Traffic → List (Option TakeResult) → List (Bags.Event EntityPtr Message) →
    Multiset (EntityPtr × Message) → Prop
  | nil (all : Multiset (EntityPtr × Message)) : ExplainsAll cfg r all [] [] [] all
  | cons {all middle all' : Multiset (EntityPtr × Message)} {op : Traffic} {ops : List Traffic}
      {result : Option TakeResult} {results : List (Option TakeResult)}
      {events events' : List (Bags.Event EntityPtr Message)}
      (first : Explains cfg r all op result events middle)
      (rest : ExplainsAll cfg r middle ops results events' all') :
      ExplainsAll cfg r all (op :: ops) (result :: results) (events ++ events') all'

/-- Arrivals that are explained are a run of the bags. -/
theorem Arrivals.run {r : Registry} {all all' : Multiset (EntityPtr × Message)}
    {arrivals : List (Nat × Delivery)} {events : List (Bags.Event EntityPtr Message)}
    (explained : Arrivals cfg r all arrivals events all') :
    Bags.Run cfg.maxHistory all events all' := by
  induction explained with
  | nil all => exact .nil all
  | cons arrival step others ih => exact .cons step ih

/-- Traffic that is explained is a run of the bags. -/
theorem ExplainsAll.run {r : Registry} {all all' : Multiset (EntityPtr × Message)}
    {ops : List Traffic} {results : List (Option TakeResult)}
    {events : List (Bags.Event EntityPtr Message)}
    (explained : ExplainsAll cfg r all ops results events all') :
    Bags.Run cfg.maxHistory all events all' := by
  induction explained with
  | nil all => exact .nil all
  | cons first rest ih =>
      cases first with
      | receive arrivals => exact arrivals.run.append ih
      | wait arrivals => exact arrivals.run.append ih
      | took bound payload taken reports step => exact .cons step ih
      | missed bound payload taken step => exact .cons step ih

/-- The registry knows the pools of the entities that receive. -/
theorem registry_allocated_pool (s : Rmw) (delivery : Delivery) :
    s.registry.allocated delivery.pool = s.allocated delivery.pool := by
  cases delivery <;> rfl

/-- The addressee of a message is an entity it is for. -/
theorem isFor_of_addressee
    (isAddressee : (s.registry.addressee cfg session delivery).map Prod.fst = some owner) :
    s.registry.IsFor cfg session delivery owner := by
  rw [addressee_eq_firstMatch] at isAddressee
  split at isAddressee
  · cases isAddressee
  · rename_i notGraph
    obtain ⟨slot, first, rfl⟩ := Option.map_eq_some_iff.mp isAddressee
    unfold Rmw.firstMatch at first
    refine ⟨Bool.eq_false_of_not_eq_true notGraph, rfl, ?_, ?_⟩
    · rw [registry_allocated_pool]
      exact List.mem_of_find?_eq_some first
    · have answers := List.find?_some first
      exact answers

/-- A message that is for some entity has an addressee. -/
theorem addressee_of_isFor (isFor : s.registry.IsFor cfg session delivery owner) :
    ∃ first, (s.registry.addressee cfg session delivery).map Prod.fst = some first := by
  have found : (s.firstMatch delivery).isSome = true := by
    rw [Rmw.firstMatch, List.find?_isSome]
    refine ⟨owner.index, ?_, isFor.answers⟩
    rw [← registry_allocated_pool]
    exact isFor.inside
  obtain ⟨slot, first⟩ := Option.isSome_iff_exists.mp found
  refine ⟨⟨delivery.pool, slot⟩, ?_⟩
  rw [addressee_eq_firstMatch, isFor.notGraph, if_neg Bool.false_ne_true, first]
  rfl

/-- The states the traffic starts from, and stays in. -/
structure Attending (cfg : Config) (s : Rmw) : Prop where
  healthy : s.Healthy cfg everyone
  sound : s.registry.Sound
  initialised : (s.memory .staticBuffer).isInitialized = true

/-- What is healthy and has its input buffers. -/
def buffered : Admission where
  message := fun _ _ => True
  ready := fun pool => pool = .staticBuffer

/-- Who attends is healthy with its buffers. -/
theorem Attending.buffered (attending : Attending cfg s) : s.Healthy cfg buffered :=
  attending.healthy.readmit (fun _ _ _ _ => id) fun _ isBuffer => isBuffer ▸ attending.initialised

/-- What leaves the registry alone leaves the entities attending. -/
theorem Attending.next (attending : Attending cfg s)
    (healthy : s'.Healthy cfg RmwMicroxrcedds.buffered) (undisturbed : Undisturbed s s') :
    Attending cfg s' where
  healthy := healthy.readmit (fun _ _ _ _ => id) fun _ => False.elim
  sound := by
    rw [undisturbed.registry]
    exact attending.sound
  initialised := healthy.ready _ rfl

/-- A delivery is an arrival, or lost. -/
theorem deliver_arrives (attending : Attending cfg s) (fits : delivery.Fits cfg) :
    Yields (deliver cfg session delivery s) fun s' =>
      Attending cfg s' ∧ s'.registry = s.registry ∧
        ∃ event, Arrival cfg s.registry session delivery s.bags event ∧
          Bags.Step cfg.maxHistory s.bags event s'.bags := by
  apply (deliver_spec attending.buffered ⟨fits, fun _ _ _ => trivial⟩).mono
  intro s' spec
  obtain ⟨healthy', undisturbed, received⟩ := spec
  have room := free_ne_nil_iff attending.healthy attending.initialised
  have mail := received.mail attending.healthy
  refine ⟨attending.next healthy' undisturbed, undisturbed.registry, ?_⟩
  cases isRecipient : s.recipient cfg session delivery with
  | none =>
      rw [isRecipient] at mail
      have same : s'.bags = s.bags := by
        unfold Rmw.bags
        rw [mail]
        rfl
      rw [same]
      refine ⟨.lost, .lost fun owner isFor copied below => ?_, .lost⟩
      obtain ⟨first, isAddressee⟩ := addressee_of_isFor isFor
      rw [Rmw.recipient, if_pos ⟨copied, room.mpr below⟩, isAddressee] at isRecipient
      cases isRecipient
  | some owner =>
      rw [isRecipient] at mail
      have cons : s'.bags = (owner, delivery.message) ::ₘ s.bags := by
        unfold Rmw.bags
        rw [mail]
        rfl
      rw [cons]
      rw [Rmw.recipient] at isRecipient
      split at isRecipient
      · rename_i stores
        have below : Multiset.card s.bags < cfg.maxHistory := room.mp stores.2
        have isFor := isFor_of_addressee isRecipient
        exact ⟨_, .arrived owner isFor stores.1 below, .arrived owner _ below⟩
      · cases isRecipient

/-- Deliveries one after the other are arrivals. -/
theorem receiveAll_arrives {arrivals : List (Nat × Delivery)} (attending : Attending cfg s)
    (fits : ∀ arrival ∈ arrivals, arrival.2.Fits cfg) :
    Yields (receiveAll cfg arrivals s) fun s' =>
      Attending cfg s' ∧ s'.registry = s.registry ∧
        ∃ events, Arrivals cfg s.registry s.bags arrivals events s'.bags := by
  induction arrivals generalizing s with
  | nil => exact yields_ok.mpr ⟨attending, rfl, [], .nil _⟩
  | cons arrival rest ih =>
      obtain ⟨session, delivery⟩ := arrival
      apply (deliver_arrives attending (fits _ List.mem_cons_self)).bind
      intro middle spec
      obtain ⟨attendingMiddle, sameRegistry, event, isArrival, step⟩ := spec
      apply (ih attendingMiddle fun arrival inside =>
        fits arrival (List.mem_cons_of_mem _ inside)).mono
      intro last post
      obtain ⟨attendingLast, sameLast, events, others⟩ := post
      rw [sameRegistry] at sameLast others
      exact ⟨attendingLast, sameLast, event :: events, .cons isArrival step others⟩

/-- A take removes a message of its owner, or finds none. -/
theorem take_explained {pool : Pool} {handle slot : Nat} {deserialize : List UInt8 → Bool}
    (attending : Attending cfg s) (inbox : pool.hasInbox = true)
    (bound : s.registry.Bound pool handle slot) :
    Yields (takeFrom pool deserialize handle s) fun result =>
      Attending cfg result.2 ∧ result.2.registry = s.registry ∧
        ∃ events, Explains cfg s.registry s.bags (.take pool deserialize handle) (some result.1)
          events result.2.bags := by
  have spec : Yields (takeFrom pool deserialize handle ({ rmw := s } : World).rmw) _ :=
    takeFrom_spec attending.buffered attending.sound inbox bound
  apply spec.mono
  intro result post
  obtain ⟨healthy', undisturbed, taken⟩ := post
  refine ⟨attending.next healthy' undisturbed, undisturbed.registry, ?_⟩
  rcases taken.mail with ⟨payload, untaken, same, empty⟩ | ⟨message, payload, isTaken, reports, had⟩
  · have isEmpty : Bags.bag s.bags ⟨pool, slot⟩ = 0 := by
      have ofOwner := mail_of_owner (s := s) ⟨pool, slot⟩
      rw [show s.pending ⟨pool, slot⟩ = [] from empty, List.map_nil] at ofOwner
      unfold Bags.bag Rmw.bags
      rw [Multiset.filter_coe, Multiset.map_coe, ofOwner]
      rfl
    rw [show result.2 = s from same]
    exact ⟨_, .missed bound payload untaken (.missed _ isEmpty)⟩
  · exact ⟨_, .took bound payload isTaken reports (.took _ message _ had)⟩

/-- One operation is explained by the bags. -/
theorem execTraffic_explained {op : Traffic} (attending : Attending cfg s)
    (enabled : op.Enabled cfg s.registry) :
    Yields (execTraffic cfg op s) fun result =>
      Attending cfg result.2 ∧ result.2.registry = s.registry ∧
        ∃ events, Explains cfg s.registry s.bags op result.1 events result.2.bags := by
  cases op with
  | receive session delivery =>
      have fits : ∀ arrival ∈ [(session, delivery)], arrival.2.Fits cfg := by
        intro arrival inside
        rw [List.mem_singleton.mp inside]
        exact enabled
      obtain ⟨s', returns, attending', sameRegistry, events, arrivals⟩ :=
        receiveAll_arrives attending fits
      obtain ⟨middle, isDelivered, -⟩ := @deliver_arrives _ _ session _ attending enabled
      simp only [receiveAll, isDelivered, ok_bind] at returns
      cases returns
      simp only [execTraffic, isDelivered]
      exact yields_pure.mpr ⟨attending', sameRegistry, events, .receive arrivals⟩
  | take pool deserialize handle =>
      obtain ⟨inbox, slot, bound⟩ := enabled
      apply (take_explained attending inbox bound).bind
      intro result spec
      exact yields_pure.mpr spec
  | wait call =>
      have acceptable : ∀ arrival ∈ arrivalsOf call.arrivals (s.allocated .session),
          Acceptable cfg buffered s.registry arrival.1 arrival.2 := fun arrival inside =>
        ⟨enabled arrival inside, fun _ _ _ => trivial⟩
      apply (rmwWait_spec attending.buffered acceptable).bind
      intro result spec
      obtain ⟨-, -, received⟩ := spec
      obtain ⟨attending', sameRegistry, events, arrivals⟩ :=
        (receiveAll_arrives attending fun arrival inside => enabled arrival inside).of_eq_ok
        received
      exact yields_pure.mpr ⟨attending', sameRegistry, events, .wait arrivals⟩

/-- Any traffic is explained by the bags: it returns, and every arrival and every take is what
it is for the bags. -/
theorem runTraffic_explained {ops : List Traffic} (attending : Attending cfg s)
    (enabled : ∀ op ∈ ops, op.Enabled cfg s.registry) :
    ∃ results s' events, runTraffic cfg ops s = .ok (results, s') ∧ Attending cfg s' ∧
      s'.registry = s.registry ∧
      ExplainsAll cfg s.registry s.bags ops results events s'.bags := by
  induction ops generalizing s with
  | nil => exact ⟨[], s, [], rfl, attending, rfl, .nil _⟩
  | cons op ops ih =>
      obtain ⟨⟨result, middle⟩, first, attendingMiddle, sameRegistry, events, step⟩ :=
        execTraffic_explained attending (enabled op List.mem_cons_self)
      have isRegistry : middle.registry = s.registry := sameRegistry
      have others : ∀ op ∈ ops, op.Enabled cfg middle.registry := by
        intro op inside
        rw [isRegistry]
        exact enabled op (List.mem_cons_of_mem _ inside)
      obtain ⟨results, last, events', rest, attendingLast, sameLast, steps⟩ :=
        ih attendingMiddle others
      rw [isRegistry] at steps sameLast
      refine ⟨result :: results, last, events ++ events', ?_, attendingLast, sameLast,
        .cons step steps⟩
      simp only [runTraffic, first, rest, ok_bind]
      rfl

end RmwMicroxrcedds
