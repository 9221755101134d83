import RmwMicroxrcedds.Machine.Traffic

/-! # The pool of input buffers refines bags

Deliveries, takes and waits, in any order, on a fixed set of entities: the shared pool of input
buffers behaves like one bag of messages for each entity, with a bound on the messages in all of
them. A message goes to the first entity that it is for, and with distinct routing ids there is no
other.
-/

namespace RmwMicroxrcedds

open Outcome Registry

variable {cfg : Config} {s s' : Rmw} {session : Nat} {delivery : Delivery} {owner : EntityPtr}

/-- Any traffic on a fixed set of entities is explained by independent bags: it returns,
every arrival and every take is what it is for the bags, nothing that arrived is lost,
altered or handed to another entity, an owner nothing happens to keeps its bag, and the
bound is kept. -/
theorem bags_explain_traffic {ops : List Traffic} (attending : Attending cfg s)
    (enabled : ∀ op ∈ ops, op.Enabled cfg s.registry) :
    ∃ results s' events, runTraffic cfg ops s = .ok (results, s') ∧
      ExplainsAll cfg s.registry s.bags ops results events s'.bags ∧
      s.bags + Bags.arrivals events = Bags.takes events + s'.bags ∧
      (∀ owner, (∀ event ∈ events, ∀ message,
        event ≠ .arrived owner message ∧ event ≠ .took owner message) →
        Bags.bag s'.bags owner = Bags.bag s.bags owner) ∧
      Multiset.card s'.bags ≤ cfg.maxHistory := by
  obtain ⟨results, s', events, returns, attending', -, explains⟩ :=
    runTraffic_explained attending enabled
  refine ⟨results, s', events, returns, explains, explains.run.conserved,
    fun _ => explains.run.others, ?_⟩
  have total := length_free_add_mail attending'.healthy attending'.initialised
  have card : Multiset.card s'.bags = s'.mail.length := rfl
  omega

/-- The small run with a subscription attends to it. -/
theorem attending_small : Attending Small.config Small.withSubscription.rmw := by
  obtain ⟨healthy, sound⟩ := reachable_sound Small.withSubscription_safe fun _ _ => id
  exact ⟨healthy, sound, by decide⟩

/-- Two samples that arrive, a take whose deserialiser fails, and a wait. -/
theorem bags_explain_small_traffic : ∃ results s' events,
    runTraffic Small.config [.receive 0 Small.sample, .receive 0 Small.sample,
      .take .subscription (fun _ => false) 0, .wait {}] Small.withSubscription.rmw =
        .ok (results, s') ∧
      ExplainsAll Small.config Small.withSubscription.rmw.registry
        Small.withSubscription.rmw.bags [.receive 0 Small.sample, .receive 0 Small.sample,
          .take .subscription (fun _ => false) 0, .wait {}] results events s'.bags ∧
      Small.withSubscription.rmw.bags + Bags.arrivals events = Bags.takes events + s'.bags ∧
      (∀ owner, (∀ event ∈ events, ∀ message,
        event ≠ .arrived owner message ∧ event ≠ .took owner message) →
        Bags.bag s'.bags owner = Bags.bag Small.withSubscription.rmw.bags owner) ∧
      Multiset.card s'.bags ≤ Small.config.maxHistory := by
  apply bags_explain_traffic attending_small
  have fits : Small.sample.Fits Small.config := (by decide : 2 ≤ 4)
  have live : ∃ slot, Small.withSubscription.rmw.registry.Bound .subscription 0 slot := ⟨0, rfl⟩
  have quiet : (Traffic.wait {}).Enabled Small.config Small.withSubscription.rmw.registry := by
    intro arrival inside
    simp [arrivalsOf] at inside
  simp only [List.mem_cons, List.not_mem_nil, or_false, forall_eq_or_imp, forall_eq]
  exact ⟨fits, fits, ⟨rfl, live⟩, quiet⟩

end RmwMicroxrcedds
