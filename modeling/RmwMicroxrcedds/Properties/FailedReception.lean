import RmwMicroxrcedds.Machine.Run
import RmwMicroxrcedds.Refinement.Inbox

/-! # Receptions that fail

A callback that finds no input buffer, or cannot copy the payload, gives back what it took.
The graph branch of `on_topic` takes nothing and looks at nothing: it overwrites the
snapshot as far as the stream goes, and marks it as changed.
-/

namespace RmwMicroxrcedds

open Outcome Registry

variable {cfg : Config} {s s' : Rmw} {session : Nat} {delivery : Delivery}

/-- The pending messages of every entity, the number of free input buffers, and the graph
snapshots are the same. -/
structure Untouched (s s' : Rmw) : Prop where
  pending : ∀ owner, s'.pending owner = s.pending owner
  contents : ∀ owner, ∀ item ∈ s.pending owner,
    s'.customStaticBuffers item = s.customStaticBuffers item
  free : (s'.free .staticBuffer).length = (s.free .staticBuffer).length
  snapshot : s'.graphInfo = s.graphInfo

/-- The payload cannot be copied, or no input buffer is free. -/
def Fails (s : Rmw) (delivery : Delivery) : Prop :=
  delivery.copied = false ∨ s.free .staticBuffer = []

/-- The snapshot the graph branch leaves. -/
def GraphInfo.overwritten (old : GraphInfo) (delivery : Delivery) : GraphInfo :=
  { old with
    microBufferLength := delivery.length
    microBuffer := fun position => delivery.written.getD position (old.microBuffer position)
    initialized := true
    hasChanged := true }

/-- The message is not for the graph, or it is copied while an input buffer is free, or the
snapshot is by chance what is written. -/
def Spares (cfg : Config) (s : Rmw) (session : Nat) (delivery : Delivery) : Prop :=
  delivery.toGraph cfg s.registry session = false ∨
    delivery.copied = true ∧ s.free .staticBuffer ≠ [] ∨
    (s.graphInfo session).overwritten delivery = s.graphInfo session

/-- What a callback does to the snapshots, and that it keeps the number of input buffers. -/
theorem deliver_keeps (returned : deliver cfg session delivery s = .ok s') :
    (s'.memory .staticBuffer).size = (s.memory .staticBuffer).size ∧
      s'.graphInfo = if delivery.toGraph cfg s.registry session = true then
        Function.update s.graphInfo session ((s.graphInfo session).overwritten delivery)
        else s.graphInfo := by
  rcases deliver_returned returned with ⟨toGraph, stored⟩ | ⟨notGraph, mem, buffers, rfl, size⟩
  · unfold storeGraph at stored
    split at stored
    · cases stored
    · cases stored
      rw [if_pos toGraph]
      exact ⟨rfl, rfl⟩
  · simp only [notGraph, Rmw.withInput, Function.update_self, size, Bool.false_eq_true, ↓reduceIte,
      and_self]

/-- A failed reception leaves the allocated input buffers as they are. -/
theorem Received.failed (received : Received cfg session delivery s s')
    (healthy : s.Healthy cfg everyone) (fails : Fails s delivery) :
    s'.allocated .staticBuffer = s.allocated .staticBuffer ∧
      ∀ item ∈ s.allocated .staticBuffer,
        s'.customStaticBuffers item = s.customStaticBuffers item := by
  cases received with
  | unaddressed nobody allocated buffers =>
      exact ⟨allocated, fun item _ => congrFun buffers item⟩
  | addressed owner provenance related isAddressee enqueued isRelated =>
      cases enqueued with
      | full empty same =>
          rw [same]
          exact ⟨rfl, fun _ _ => rfl⟩
      | stored item rest first wasCopied allocated buffers =>
          rcases fails with notCopied | empty
          · rw [notCopied] at wasCopied
            cases wasCopied
          · rw [empty] at first
            cases first
      | dropped item rest first notCopied allocated buffers =>
          refine ⟨allocated, fun other inside => buffers other ?_⟩
          intro same
          exact not_pending_of_free healthy first (same ▸ inside)

/-- A failed reception leaves the input buffers and what is pending in them as they are, so all
that it may change are the snapshots. -/
theorem Received.untouched_iff (received : Received cfg session delivery s s')
    (healthy : s.Healthy cfg everyone) (healthy' : s'.Healthy cfg everyone)
    (size : (s'.memory .staticBuffer).size = (s.memory .staticBuffer).size)
    (fails : Fails s delivery) : Untouched s s' ↔ s'.graphInfo = s.graphInfo := by
  obtain ⟨allocated, buffers⟩ := received.failed healthy fails
  have total := (healthy.wf .staticBuffer).length_add
  have total' := (healthy'.wf .staticBuffer).length_add
  constructor
  · exact Untouched.snapshot
  · intro snapshot
    refine ⟨fun owner => ?_, fun owner item inside => ?_, ?_, snapshot⟩
    · unfold Rmw.pending
      rw [allocated]
      apply List.filter_congr
      intro item inside
      rw [buffers item inside]
    · exact buffers item (Rmw.mem_pending.mp inside).1
    · have same : (s'.memory .staticBuffer).allocated.length =
          (s.memory .staticBuffer).allocated.length := congrArg List.length allocated
      simp only [Rmw.free]
      omega

/-- A failed reception leaves the snapshots as they are exactly when the message spares them. -/
theorem snapshot_eq_iff_spares (returned : deliver cfg session delivery s = .ok s')
    (fails : Fails s delivery) : s'.graphInfo = s.graphInfo ↔ Spares cfg s session delivery := by
  have copies : ¬ (delivery.copied = true ∧ s.free .staticBuffer ≠ []) := by
    intro copies
    cases fails with
    | inl notCopied =>
        rw [notCopied] at copies
        cases copies.1
    | inr empty => exact copies.2 empty
  rw [(deliver_keeps returned).2, Spares, or_iff_right copies]
  by_cases toGraph : delivery.toGraph cfg s.registry session = true
  · rw [if_pos toGraph, toGraph, Function.update_eq_self_iff]
    simp
  · rw [if_neg toGraph]
    simp [toGraph]

/-- For every healthy state and every message whose bytes in the stream fit an input buffer:
the callback returns, and if it failed it has changed nothing, exactly when the message spares
the snapshot. -/
theorem untouched_iff_spares (healthy : s.Healthy cfg everyone)
    (fits : delivery.WrittenFits cfg) :
    ∃ s', deliver cfg session delivery s = .ok s' ∧
      ((Fails s delivery → Untouched s s') ↔ Spares cfg s session delivery) := by
  obtain ⟨s', returned, healthy', -, received⟩ :=
    deliver_received healthy fits fun _ _ _ => trivial
  refine ⟨s', returned, ?_⟩
  obtain ⟨size, -⟩ := deliver_keeps returned
  by_cases fails : Fails s delivery
  · rw [← snapshot_eq_iff_spares returned fails,
      ← received.untouched_iff healthy healthy' size fails]
    exact ⟨fun untouched => untouched fails, fun untouched _ => untouched⟩
  · have spares : Spares cfg s session delivery := by
      unfold Fails at fails
      simp only [not_or, Bool.not_eq_false] at fails
      exact Or.inr (Or.inl fails)
    exact ⟨fun _ => spares, fun _ failed => absurd failed fails⟩

namespace Small

/-- The small build with the graph. -/
def graphConfig : Config := { config with graph := true, topicNameMaxLength := 60 }

/-- The layer after `rmw_init`, with the graph. -/
def withGraph : Rmw := ((layer graphConfig).next (.init init) {}).rmw

/-- A snapshot of four bytes for the graph data reader. -/
def snapshot : Delivery := .topic ⟨0, .datareader⟩ [1, 2, 3, 4] 4

/-- A snapshot of four bytes of which the stream holds one. -/
def truncated : Delivery := .topic ⟨0, .datareader⟩ [9] 4

/-- The call of `rmw_init` goes through. -/
theorem withGraph_made :
    ((layer graphConfig).step (.init init) {}).isOk = true ∧
    Op.exit graphConfig {} (.init init) ≠ some .doubleReleased ∧
    Op.exit graphConfig {} (.init init) ≠ some .crashed := by
  decide +kernel

theorem withGraph_healthy : withGraph.Healthy graphConfig everyone := by
  obtain ⟨returns, whole, runs⟩ := withGraph_made
  have enabled : (layer graphConfig).enabled {} (.init init) :=
    ⟨trivial, fun _ _ _ inside => by cases inside⟩
  have reachable : Reachable (layer graphConfig) (Safe graphConfig)
      ((layer graphConfig).next (.init init) {}) :=
    .next .start enabled ⟨whole, runs, trivial⟩ returns
  exact (reachable_sound reachable fun _ _ => id).1

/-- What the two snapshots leave, one after the other. -/
theorem snapshots_run :
    (deliver graphConfig 0 snapshot withGraph >>= fun s =>
      (deliver graphConfig 0 truncated s).map fun s' =>
        ((s.graphInfo 0).snapshot, s.free .staticBuffer, (s'.graphInfo 0).snapshot,
          (s'.graphInfo 0).hasChanged)) =
      .ok ([1, 2, 3, 4], [1, 0], [9, 2, 3, 4], true) := by decide +kernel

end Small

/-- A truncated snapshot that arrives after `rmw_init`. -/
theorem untouched_iff_spares_small : ∃ s',
    deliver Small.graphConfig 0 Small.truncated Small.withGraph = .ok s' ∧
      ((Fails Small.withGraph Small.truncated → Untouched Small.withGraph s') ↔
        Spares Small.graphConfig Small.withGraph 0 Small.truncated) :=
  untouched_iff_spares Small.withGraph_healthy (by decide : 1 ≤ 4)

/-- After a whole snapshot, with every input buffer free, a truncated one replaces its first
byte and is announced as a change. -/
theorem truncated_snapshot_is_stored : ∃ s s',
    deliver Small.graphConfig 0 Small.snapshot Small.withGraph = .ok s ∧
      deliver Small.graphConfig 0 Small.truncated s = .ok s' ∧
      (s.graphInfo 0).snapshot = [1, 2, 3, 4] ∧ s.free .staticBuffer = [1, 0] ∧
      Small.truncated.copied = false ∧ (s'.graphInfo 0).snapshot = [9, 2, 3, 4] ∧
      (s'.graphInfo 0).hasChanged = true ∧ ¬ (Fails s Small.truncated → Untouched s s') := by
  obtain ⟨s, first, second⟩ := bind_eq_ok.mp Small.snapshots_run
  cases isLast : deliver Small.graphConfig 0 Small.truncated s with
  | error fault =>
      rw [isLast] at second
      cases second
  | ok s' =>
      rw [isLast] at second
      simp only [Except.map, Except.ok.injEq, Prod.mk.injEq] at second
      obtain ⟨before, free, after, changed⟩ := second
      refine ⟨s, s', first, isLast, before, free, rfl, after, changed, ?_⟩
      intro untouched
      have same := congrFun (untouched (Or.inl rfl)).snapshot 0
      rw [same, before] at after
      cases after

end RmwMicroxrcedds
