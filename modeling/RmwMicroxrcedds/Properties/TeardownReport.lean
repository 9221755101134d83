import RmwMicroxrcedds.Machine.Run

/-! # What a teardown reports

The destroy functions go on after a failure, and they keep the result of the last call only.
The deletion of a topic is not looked at, an entity that fails is forgotten when the next one
of its node succeeds, and a node when the next one of its context does. A deletion counts as
confirmed when the session that ran for it did not time out.
-/

namespace RmwMicroxrcedds

open Outcome Registry

variable {cfg : Config} {w : World} {results : List RmwRet}
variable {confirmed : Bool}

/-- All deletions of a publisher or a subscription are confirmed. -/
def EntityTeardown.Confirmed (cfg : Config) (teardown : EntityTeardown) : Prop :=
  teardown.topic.succeeds cfg = true ∧ teardown.endpoint.succeeds cfg = true ∧
    teardown.entity.succeeds cfg = true

/-- Only the deletion of the topic times out. -/
def EntityTeardown.LosesTopic (cfg : Config) (teardown : EntityTeardown) : Prop :=
  teardown.topic.succeeds cfg = false ∧ teardown.endpoint.succeeds cfg = true ∧
    teardown.entity.succeeds cfg = true

/-- A failure is followed by other results, and the last of them is a success. -/
def Overwritten (results : List RmwRet) : Prop :=
  ∃ front last, results = front ++ [last] ∧ last = .ok ∧ ∃ result ∈ front, result ≠ .ok

/-- The teardown of a node in which an entity fails, a later one does not, and neither does
the participant. -/
def NodeTeardown.Overwrites (cfg : Config) (r : Registry) (teardown : NodeTeardown)
    (node : Nat) : Prop :=
  teardown.participant.succeeds cfg = true ∧ Overwritten (teardown.reports cfg r node)

/-- A deletion reports success if it is confirmed. -/
theorem reportOf_eq_ok : reportOf confirmed = .ok ↔ confirmed = true := by
  cases confirmed <;> simp [reportOf]

/-- A teardown reports success if both its deletions succeed. -/
theorem EntityTeardown.report_eq_ok {teardown : EntityTeardown} : teardown.report cfg = .ok ↔
    teardown.endpoint.succeeds cfg = true ∧ teardown.entity.succeeds cfg = true := by
  rw [EntityTeardown.report, reportOf_eq_ok, Bool.and_eq_true]

/-- A publisher or a subscription reports every failure except that of its topic. -/
theorem EntityTeardown.reports_iff {teardown : EntityTeardown} :
    (teardown.report cfg = .ok → teardown.Confirmed cfg) ↔ ¬ teardown.LosesTopic cfg := by
  rw [EntityTeardown.report_eq_ok, EntityTeardown.Confirmed, EntityTeardown.LosesTopic]
  cases teardown.topic.succeeds cfg <;> simp

/-- The last result speaks for all of them unless it overwrites a failure. -/
theorem last_iff : (results.getLastD .ok = .ok → ∀ result ∈ results, result = .ok) ↔
    ¬ Overwritten results := by
  rcases List.eq_nil_or_concat results with rfl | ⟨front, last, rfl⟩
  · have never : ¬ Overwritten [] := by
      rintro ⟨front, last, same, -⟩
      simp at same
    simp [never]
  · have isLast : (front ++ [last]).getLastD .ok = last := by simp
    rw [List.concat_eq_append, isLast]
    constructor
    · rintro all ⟨front', last', same, rfl, result, inside, failed⟩
      obtain ⟨rfl, isOk⟩ := List.append_inj' same rfl
      obtain rfl : last = .ok := (List.cons.inj isOk).1
      exact failed (all rfl result (List.mem_append_left _ inside))
    · intro kept isOk result inside
      by_contra failed
      rcases List.mem_append.mp inside with early | isLast
      · exact kept ⟨front, last, rfl, isOk, result, early, failed⟩
      · exact failed ((List.mem_singleton.mp isLast).trans isOk)

/-- What a node keeps of its results speaks for all of them, and for the participant, unless a
failure is overwritten. -/
theorem keptOf_iff : (keptOf results confirmed = .ok →
      (∀ result ∈ results, result = .ok) ∧ confirmed = true) ↔
    ¬ (confirmed = true ∧ Overwritten results) := by
  cases confirmed with
  | false => simp [keptOf]
  | true =>
      simp only [keptOf, ↓reduceIte, and_true, true_and]
      exact last_iff

/-- After any safe run, and for any pattern of confirmed and timed-out deletions: a publisher or
a subscription reports every failure unless only its topic fails, a node unless the failure of
an entity is overwritten, and a context unless that of a node is. -/
theorem teardown_reports_iff (reachable : Reachable (layer cfg) (Safe cfg) w) :
    (∀ nodeHandle handle teardown, Enabled cfg w (.destroyPublisher nodeHandle handle teardown) →
      ∃ ret s', rmwDestroyPublisher cfg (some nodeHandle) (some handle) teardown w.rmw =
          .ok (ret, s') ∧
        ((ret = .ok → teardown.Confirmed cfg) ↔ ¬ teardown.LosesTopic cfg)) ∧
    (∀ nodeHandle handle teardown,
      Enabled cfg w (.destroySubscription nodeHandle handle teardown) →
      ∃ ret s', rmwDestroySubscription cfg (some nodeHandle) (some handle) teardown w.rmw =
          .ok (ret, s') ∧
        ((ret = .ok → teardown.Confirmed cfg) ↔ ¬ teardown.LosesTopic cfg)) ∧
    (∀ nodeHandle node teardown, Enabled cfg w (.destroyNode nodeHandle teardown) →
      Safe cfg w (.destroyNode nodeHandle teardown) →
      w.rmw.registry.Bound .node nodeHandle node →
      ∃ ret results confirmed s',
        destroyNodeTrace cfg nodeHandle node teardown w.rmw = .ok ((results, confirmed), s') ∧
        rmwDestroyNode cfg (some nodeHandle) teardown w.rmw = .ok (ret, s') ∧
        ((ret = .ok → (∀ result ∈ results, result = .ok) ∧ confirmed = true) ↔
          ¬ teardown.Overwrites cfg w.rmw.registry node)) ∧
    ∀ context session teardown, Enabled cfg w (.contextFini context teardown) →
      Safe cfg w (.contextFini context teardown) →
      (w.rmw.contexts context).impl = some session →
      ∃ ret results s',
        contextFiniTrace cfg context teardown w.rmw = .ok (results, s') ∧
        rmwContextFini cfg context teardown w.rmw = .ok (ret, s') ∧
        ((ret = .ok → ∀ result ∈ results, result = .ok) ↔
          ¬ Overwritten (nodeReports cfg w.rmw.registry session teardown)) := by
  obtain ⟨healthy, sound⟩ := reachable_sound reachable fun _ _ => id
  refine ⟨?_, ?_, ?_, ?_⟩
  · intro nodeHandle handle teardown enabled
    obtain ⟨node, nodeBound⟩ := enabled.1.1.bound sound
    obtain ⟨slot, bound⟩ := enabled.1.2.bound sound
    obtain ⟨⟨ret, s'⟩, returned, isReport, -⟩ := rmwDestroyPublisher_removes healthy sound
      nodeBound bound fun owner session => enabled.2 slot owner session bound
    refine ⟨ret, s', returned, ?_⟩
    obtain rfl : ret = teardown.report cfg := isReport
    exact EntityTeardown.reports_iff
  · intro nodeHandle handle teardown enabled
    obtain ⟨node, nodeBound⟩ := enabled.1.1.bound sound
    obtain ⟨slot, bound⟩ := enabled.1.2.bound sound
    obtain ⟨⟨ret, s'⟩, returned, isReport, -⟩ := rmwDestroySubscription_removes healthy sound
      nodeBound bound fun owner session => enabled.2 slot owner session bound
    refine ⟨ret, s', returned, ?_⟩
    obtain rfl : ret = teardown.report cfg := isReport
    exact EntityTeardown.reports_iff
  · intro nodeHandle node teardown enabled safe bound
    obtain ⟨session, isContext, -⟩ := (sound.placed bound).sited rfl
    obtain ⟨⟨⟨results, confirmed⟩, s'⟩, traced, isTraced, -⟩ := destroyNodeTrace_spec healthy sound
      bound (safe.settled node bound) isContext (enabled.2 node session bound isContext)
    refine ⟨keptOf results confirmed, results, confirmed, s', traced, ?_, ?_⟩
    · rw [rmwDestroyNode_eq_trace healthy bound, traced]
      rfl
    · obtain ⟨rfl, rfl⟩ := Prod.mk.inj isTraced
      exact keptOf_iff
  · intro context session teardown enabled safe isImpl
    obtain ⟨⟨results, s'⟩, traced, isResults, -⟩ := contextFiniTrace_spec healthy sound
      isImpl (safe.settled session isImpl) (enabled.2 session isImpl)
    refine ⟨results.getLastD .ok, results, s', traced, ?_, ?_⟩
    · rw [rmwContextFini_eq_trace, traced]
      rfl
    · obtain rfl : results = nodeReports cfg w.rmw.registry session teardown := isResults
      exact last_iff

namespace Small

/-- The layer after a service was created beside the publisher. -/
def withPair : World := (layer config).next (.createEndpoint .service service) withPublisher

theorem withPair_reachable {allowed : World → Op → Prop} (first : allowed {} (.init init))
    (second : allowed withContext (.createNode node))
    (third : allowed withNode (.createPublisher publisher))
    (fourth : allowed withPublisher (.createEndpoint .service service)) :
    Reachable (layer config) allowed withPair := by
  refine .next (withPublisher_reachable first second third) ⟨fun node isNode => ?_, ?_⟩ fourth rfl
  · cases isNode
    exact ⟨by decide, rfl⟩
  · exact fun _ _ _ _ => Exchange.acceptable_of_quiet rfl

theorem withPair_safe : Reachable (layer config) (Safe config) withPair := by
  apply withPair_reachable <;> exact ⟨by decide, by decide, trivial⟩

/-- Both entities and the node carry their own handles. -/
theorem withPair_settled (op : Op) : op.Settled withPair.rmw.registry := by
  have tidy : Reachable (layer config) (Tidy config) withPair := by
    apply withPair_reachable
    · intro exit absurd
      cases absurd
    all_goals
      intro exit isExit
      exact Or.inl (Option.some.inj isExit).symm
  obtain ⟨-, sound, tight⟩ := reachable_tight tidy
  exact tight.settled sound op

/-- The deletion of the topic times out. -/
def topicTimeout : EntityTeardown where
  topic := { confirmed := false }

/-- The deletion of the writer of the publisher times out. -/
def writerTimeout : NodeTeardown where
  publisher := fun _ => { endpoint := { confirmed := false } }

end Small

/-- The deletion of the publisher beside the service, and of their node. -/
theorem teardown_reports_small :
    (∃ ret s', rmwDestroyPublisher Small.config (some 0) (some 0) Small.topicTimeout
        Small.withPair.rmw = .ok (ret, s') ∧
      ((ret = .ok → Small.topicTimeout.Confirmed Small.config) ↔
        ¬ Small.topicTimeout.LosesTopic Small.config)) ∧
    ∃ ret results confirmed s',
      destroyNodeTrace Small.config 0 0 Small.writerTimeout Small.withPair.rmw =
        .ok ((results, confirmed), s') ∧
      rmwDestroyNode Small.config (some 0) Small.writerTimeout Small.withPair.rmw = .ok (ret, s') ∧
      ((ret = .ok → (∀ result ∈ results, result = .ok) ∧ confirmed = true) ↔
        ¬ Small.writerTimeout.Overwrites Small.config Small.withPair.rmw.registry 0) := by
  obtain ⟨publishers, -, nodes, -⟩ := teardown_reports_iff Small.withPair_safe
  constructor
  · exact publishers 0 0 Small.topicTimeout ⟨⟨⟨by decide, rfl⟩, ⟨by decide, rfl⟩⟩,
      fun _ _ _ _ _ _ => EntityTeardown.Quiet.acceptable {}⟩
  · refine nodes 0 0 Small.writerTimeout ⟨⟨by decide, rfl⟩,
      fun _ _ _ _ => NodeTeardown.Quiet.acceptable {}⟩ ⟨by decide, by decide, ?_⟩ rfl
    exact Small.withPair_settled _

/-- A publisher whose topic stays with the agent reports success, and so does a node whose
publisher timed out before its service. -/
theorem timeouts_are_overwritten :
    (∃ s', rmwDestroyPublisher Small.config (some 0) (some 0) Small.topicTimeout
        Small.withPair.rmw = .ok (.ok, s') ∧ ¬ Small.topicTimeout.Confirmed Small.config) ∧
    ∃ s', destroyNodeTrace Small.config 0 0 Small.writerTimeout Small.withPair.rmw =
        .ok (([.timeout, .ok], true), s') ∧
      rmwDestroyNode Small.config (some 0) Small.writerTimeout Small.withPair.rmw =
        .ok (.ok, s') := by
  refine ⟨⟨_, rfl, ?_⟩, _, rfl, rfl⟩
  intro confirmed
  cases confirmed.1

end RmwMicroxrcedds
