import RmwMicroxrcedds.Machine.Run
import RmwMicroxrcedds.Properties.GraphRoundTrip
import RmwMicroxrcedds.Refinement.GraphQueries

/-! # Graphs that arrive

A graph that arrives for the data reader of a context is the one that the queries on the nodes of
the context see from then on.
-/

namespace RmwMicroxrcedds

open Cdr Outcome

variable {σ : Type} {cfg : Config} {admits : Admission} {s s' : Rmw} {access : GraphAccess σ}
variable {bytes : BitVec 32 → List UInt8} {graph : Graph} {session slot : Nat}
variable {objectId : ObjectId} {behind : List UInt8}

/-- A graph that arrives with more bytes behind it. -/
def snapshotOf (bytes : BitVec 32 → List UInt8) (graph : Graph) (objectId : ObjectId)
    (behind : List UInt8) : Delivery :=
  .topic objectId (encodeGraph bytes graph ++ behind) (encodeGraph bytes graph).length

/-- Once a message has arrived for its data reader, a snapshot is initialised. -/
theorem initialized_of_received {delivery : Delivery} (built : cfg.graph = true)
    (isReader : objectId.same (s.graphInfo session).datareaderId = true)
    (received : onTopic cfg session objectId delivery s = .ok s') :
    (s'.graphInfo session).initialized = true := by
  rw [onTopic, built, isReader, Bool.and_self, if_pos rfl, storeGraph] at received
  split at received
  · cases received
  · cases received
    simp [Rmw.modifyGraphInfo]

/-- A graph that arrives leaves the layer healthy and the entities as they are, and every node of
the context decodes it. -/
theorem snapshot_seen (follows : access.reader.Follows bytes) (plain : graph.Plain)
    (holds : access.memory.Holds graph) (built : cfg.graph = true) (healthy : s.Healthy cfg admits)
    (isReader : objectId.same (s.graphInfo session).datareaderId = true)
    (acceptable : Acceptable cfg admits s.registry session
      (snapshotOf bytes graph objectId behind))
    (short : (encodeGraph bytes graph).length < 2 ^ 16)
    (isContext : (s.customNodes slot).context = some session) :
    ∃ s', deliver cfg session (snapshotOf bytes graph objectId behind) s = .ok s' ∧
      s'.Healthy cfg admits ∧ s'.registry = s.registry ∧ access.Decodes s' slot graph := by
  obtain ⟨s', received, decoded⟩ :=
    decode_encode follows plain holds built isReader acceptable.fits short behind
  obtain ⟨middle, delivered, healthy', undisturbed, -⟩ := deliver_spec healthy acceptable
  have same : middle = s' := by
    have twice : Except.ok middle = Except.ok s' := delivered.symm.trans received
    cases twice
    rfl
  subst same
  refine ⟨middle, delivered, healthy', undisturbed.registry, session, ?_, ?_, decoded⟩
  · have sameEntity : middle.registry.entity .node slot = s.registry.entity .node slot := by
      rw [undisturbed.registry]
    have sameNode : middle.customNodes slot = s.customNodes slot := Entity.node.inj sameEntity
    rw [sameNode, isContext]
  · exact initialized_of_received built isReader received

namespace Small

/-- The small build with the graph after `rmw_init`. -/
def wideContext : World := (layer wideConfig).next (.init init) {}

/-- A node in it. -/
def wideNode : World := (layer wideConfig).next (.createNode Small.node) wideContext

/-- The two calls go through, and make a node of the context `0` that has a data reader. -/
theorem wideNode_made :
    ((layer wideConfig).step (.init init) {}).isOk = true ∧
    ((layer wideConfig).step (.createNode Small.node) wideContext).isOk = true ∧
    (wideContext.rmw.contexts 0).impl.isSome = true ∧
    Op.exit wideConfig {} (.init init) ≠ some .doubleReleased ∧
    Op.exit wideConfig {} (.init init) ≠ some .crashed ∧
    Op.exit wideConfig wideContext.rmw (.createNode Small.node) ≠ some .doubleReleased ∧
    Op.exit wideConfig wideContext.rmw (.createNode Small.node) ≠ some .crashed ∧
    (⟨0, .datareader⟩ : ObjectId).same (wideNode.rmw.graphInfo 0).datareaderId = true ∧
    wideNode.rmw.registry.Bound .node 0 0 ∧
    (wideNode.rmw.customNodes 0).context = some 0 := by
  decide +kernel

theorem wideNode_reachable : Reachable (layer wideConfig) (Safe wideConfig) wideNode := by
  obtain ⟨initReturns, nodeReturns, attached, first, second, third, fourth, -⟩ := wideNode_made
  have before : Reachable (layer wideConfig) (Safe wideConfig) wideContext :=
    .next .start ⟨trivial, fun _ _ _ inside => by cases inside⟩ ⟨first, second, trivial⟩ initReturns
  refine .next before ⟨fun context isContext => ?_, ?_⟩ ⟨third, fourth, trivial⟩ nodeReturns
  · cases isContext
    exact attached
  · intro _ _ _ _ _ inside
    cases inside

/-- The kinds of entities, the reader of the round trip, and wide strings. -/
def graphAccess : GraphAccess Buffer where
  reader := plainReader
  memory := ample
  kinds := ⟨1, 2, 3, 4, by decide, by decide⟩
  initCapacity := fun _ => 256
  resizeCapacity := fun _ => 256

/-- A small graph that arrives is seen by the node. -/
theorem seen {graph : Graph} (plain : graph.Plain) (holds : ample.Holds graph)
    (fits : (encodeGraph wordBytes graph).length ≤ wideConfig.maxInputBufferSize) :
    ∃ s, deliver wideConfig 0 (snapshotOf wordBytes graph ⟨0, .datareader⟩ []) wideNode.rmw =
        .ok s ∧
      s.Healthy wideConfig everyone ∧ s.registry.Sound ∧ s.registry.Bound .node 0 0 ∧
      graphAccess.Decodes s 0 graph := by
  obtain ⟨healthy, sound⟩ := reachable_sound wideNode_reachable fun _ _ => id
  obtain ⟨-, -, -, -, -, -, -, isReader, bound, sited⟩ := wideNode_made
  have short : (encodeGraph wordBytes graph).length < 2 ^ 16 :=
    Nat.lt_of_le_of_lt fits (by decide)
  obtain ⟨s, received, healthy', kept, decodes⟩ := @snapshot_seen _ _ _ _ graphAccess _ _ _ _ _ []
    plainReader_follows plain holds rfl healthy isReader ⟨fits, fun _ _ _ => trivial⟩ short sited
  refine ⟨s, received, healthy', ?_, ?_, decodes⟩
  · rw [kept]
    exact sound
  · rw [kept]
    exact bound

/-- A publisher of `t`, and one of `u` without a type. -/
def untyped : Graph :=
  ⟨[⟨cstr "/", cstr "n", [⟨1, cstr "t", [cstr "T"]⟩, ⟨1, cstr "u", []⟩]⟩]⟩

theorem untyped_plain : untyped.Plain := by
  simp [Graph.Plain, GraphNode.Plain, GraphEntity.Plain, PlainText, untyped, cstr]

theorem untyped_holds : ample.Holds untyped where
  nodes := rfl
  entities := fun _ _ _ => Bool.or_true _
  types := fun _ _ _ _ _ _ => Bool.or_true _
  texts := by decide

end Small

end RmwMicroxrcedds
