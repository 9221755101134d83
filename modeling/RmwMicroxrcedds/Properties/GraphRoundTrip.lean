import RmwMicroxrcedds.Properties.FailedReception
import RmwMicroxrcedds.Properties.GraphSafety

/-! # Decoding an encoded graph

A graph is encoded with its fields in the order of the message definitions. When the reader
follows CDR, the decoder gets every encoded graph back.
-/

namespace RmwMicroxrcedds

open Cdr Outcome

section Encoding

variable (bytes : BitVec 32 → List UInt8)

/-- The output with `micro_ros_msgs/Entity`. -/
def putEntity (entity : GraphEntity) (out : List UInt8) : List UInt8 :=
  putSequence bytes (putText bytes) entity.types
    (putText bytes entity.name (putByte entity.entityType out))

/-- The output with `micro_ros_msgs/Node`. -/
def putNode (node : GraphNode) (out : List UInt8) : List UInt8 :=
  putSequence bytes (putEntity bytes) node.entities
    (putText bytes node.nodeName (putText bytes node.nodeNamespace out))

/-- `micro_ros_msgs/Graph`. -/
def encodeGraph (graph : Graph) : List UInt8 := putSequence bytes (putNode bytes) graph.nodes []

end Encoding

/-- A text that fits `temp_string`: without a NUL, and of at most 255 bytes. -/
def PlainText (text : CString) : Prop := 0 ∉ text ∧ text.length ≤ 255

def GraphEntity.Plain (entity : GraphEntity) : Prop :=
  PlainText entity.name ∧ ∀ type ∈ entity.types, PlainText type

def GraphNode.Plain (node : GraphNode) : Prop :=
  PlainText node.nodeNamespace ∧ PlainText node.nodeName ∧
    ∀ entity ∈ node.entities, entity.Plain

/-- Every text of the graph is plain. -/
def Graph.Plain (graph : Graph) : Prop := ∀ node ∈ graph.nodes, node.Plain

/-- There is memory for every sequence and every text of the graph. -/
structure GraphMemory.Holds (memory : GraphMemory) (graph : Graph) : Prop where
  nodes : memory.initSequence .nodes graph.nodes.length = true
  entities : ∀ i node, graph.nodes[i]? = some node →
    memory.initSequence (.entities i) node.entities.length = true
  types : ∀ i node j entity, graph.nodes[i]? = some node → node.entities[j]? = some entity →
    memory.initSequence (.types i j) entity.types.length = true
  texts : graph.stored memory = graph

variable {σ α : Type} {reader : Reader σ} {memory : GraphMemory}
variable {bytes : BitVec 32 → List UInt8} {data out : List UInt8} {s : σ}
variable {put : α → List UInt8 → List UInt8}

/-- An entity takes up space. -/
theorem appends_putEntity : Appends (putEntity bytes) := by
  intro entity out
  have typed : out <+: putByte entity.entityType out := prefix_putByte _
  obtain ⟨named, grows⟩ : _ <+: putText bytes entity.name _ ∧ _ :=
    appends_putText entity.name (putByte entity.entityType out)
  have listed : _ <+: putEntity bytes entity out := appends_putText.sequence entity.types
  refine ⟨typed.trans (named.trans listed), ?_⟩
  have := typed.length_le
  have := listed.length_le
  omega

/-- A node takes up space. -/
theorem appends_putNode : Appends (putNode bytes) := by
  intro node out
  obtain ⟨spaced, grows⟩ : _ <+: putText bytes node.nodeNamespace out ∧ _ :=
    appends_putText node.nodeNamespace out
  have named : _ <+: putText bytes node.nodeName (putText bytes node.nodeNamespace out) :=
    prefix_putText
  have listed : _ <+: putNode bytes node out := appends_putEntity.sequence node.entities
  refine ⟨spaced.trans (named.trans listed), ?_⟩
  have := named.length_le
  have := listed.length_le
  omega

/-- The reader gets an item back: behind an output that the data starts with, parsing yields
the item and goes on behind it. -/
def Undoes (reader : Reader σ) (data : List UInt8) (parse : σ → Except Lack (α × σ))
    (put : α → List UInt8 → List UInt8) (item : α) : Prop :=
  ∀ s out, reader.At data s out → put item out <+: data →
    ∃ s', parse s = .ok (item, s') ∧ reader.At data s' (put item out)

/-- A read that succeeds is what is needed. -/
theorem need_of_read {lack : Lack} {read : Option α × σ} {value : α}
    (isRead : read.1 = some value) :
    need lack read = .ok (value, read.2) := by
  obtain ⟨result, buffer⟩ := read
  cases isRead
  rfl

/-- Items that are got back one by one are got back as a sequence. -/
theorem undoes_items {parse : Nat → σ → Except Lack (α × σ)} (appends : Appends put)
    (items : List α) (index : Nat)
    (each : ∀ i item, items[i]? = some item → Undoes reader data (parse (index + i)) put item) :
    Undoes reader data (parseItems parse items.length index) (putItems put) items := by
  induction items generalizing index with
  | nil => exact fun s out here _ => ⟨s, rfl, here⟩
  | cons item items ih =>
      intro s out here starts
      obtain ⟨behind, -⟩ := appends.items items (put item out)
      obtain ⟨s', parsed, here'⟩ := each 0 item rfl s out here (behind.trans starts)
      have later : ∀ i item, items[i]? = some item →
          Undoes reader data (parse (index + 1 + i)) put item := by
        intro i item isItem
        rw [Nat.add_assoc, Nat.add_comm 1 i]
        exact each (i + 1) item isItem
      obtain ⟨s'', parsed', here''⟩ := ih (index + 1) later s' (put item out) here' starts
      refine ⟨s'', ?_, here''⟩
      rw [Nat.add_zero] at parsed
      simp only [List.length_cons, parseItems, parsed, parsed', ok_bind]

/-- A sequence that there is memory for is got back. -/
theorem undoes_sequence {parse : Nat → σ → Except Lack (α × σ)} {site : SequenceSite}
    (lack : Lack) (follows : reader.Follows bytes) (small : data.length < 2 ^ 32)
    (appends : Appends put)
    (items : List α) (granted : memory.initSequence site items.length = true)
    (each : ∀ i item, items[i]? = some item → Undoes reader data (parse i) put item) :
    Undoes reader data (parseSequence reader memory lack site parse) (putSequence bytes put)
      items := by
  intro s out here starts
  obtain ⟨behind, -⟩ := appends.items items (putWord bytes (BitVec.ofNat 32 items.length) out)
  obtain ⟨isRead, here'⟩ := here.word follows (behind.trans starts)
  have count : (BitVec.ofNat 32 items.length).toNat = items.length := by
    have few : items.length ≤ (putSequence bytes put items out).length := appends.length_le items
    have := starts.length_le
    rw [BitVec.toNat_ofNat, Nat.mod_eq_of_lt (by omega)]
  have each' : ∀ i item, items[i]? = some item → Undoes reader data (parse (0 + i)) put item := by
    intro i item isItem
    rw [Nat.zero_add]
    exact each i item isItem
  obtain ⟨s', parsed, here''⟩ := undoes_items appends items 0 each' _ _ here' starts
  refine ⟨s', ?_, here''⟩
  rw [parseSequence, need_of_read isRead, ok_bind]
  simp only [count, granted, ↓reduceIte, parsed]

/-- The text before the NUL that was read with it. -/
theorem terminated_clean {text : CString} (clean : 0 ∉ text) :
    terminated (tempString (some (text ++ [0]))) = some text := by
  have nonzero : ∀ byte ∈ text, decide (byte ≠ 0) = true := by
    intro byte inside
    simp only [decide_eq_true_eq]
    rintro rfl
    exact clean inside
  have ends : ∀ behind, (text ++ 0 :: behind).takeWhile (· ≠ 0) = text := by
    intro behind
    rw [List.takeWhile_append_of_pos nonzero, List.takeWhile_cons_of_neg (by decide),
      List.append_nil]
  rw [terminated, tempString, Option.getD_some, List.append_assoc, List.singleton_append, ends,
    if_pos (List.mem_append_right _ List.mem_cons_self)]

/-- A plain text is got back. -/
theorem undoes_text (lack : Lack) (follows : reader.Follows bytes) {text : CString}
    (plain : PlainText text) :
    Undoes reader data (parseText reader lack) (putText bytes) text := by
  intro s out here starts
  have short : text.length < tempStringSize := Nat.lt_succ_of_le plain.2
  have small : text.length + 1 < 2 ^ 32 := by
    have := plain.2
    omega
  obtain ⟨isRead, here'⟩ := here.text follows plain.1 short small starts
  refine ⟨_, ?_, here'⟩
  rw [parseText, need_of_read isRead, ok_bind]
  exact need_of_read (terminated_clean plain.1)

/-- The decoder reads the entity that was written. -/
theorem undoes_entity (follows : reader.Follows bytes) (small : data.length < 2 ^ 32)
    {node entity : Nat} {value : GraphEntity} (plain : value.Plain)
    (granted : memory.initSequence (.types node entity) value.types.length = true) :
    Undoes reader data (parseEntity reader memory node entity) (putEntity bytes) value := by
  intro s out here starts
  have listed : _ <+: putEntity bytes value out := appends_putText.sequence value.types
  have named : _ <+: putText bytes value.name (putByte value.entityType out) := prefix_putText
  obtain ⟨isType, here⟩ := here.byte follows (named.trans (listed.trans starts))
  obtain ⟨_, isName, here⟩ := undoes_text .entityName follows plain.1 _ _ here
    (listed.trans starts)
  have each : ∀ (i : Nat) (type : CString), value.types[i]? = some type →
      Undoes reader data (parseText reader .typeName) (putText bytes) type := by
    intro i type isItem
    exact undoes_text .typeName follows (plain.2 type (List.mem_of_getElem? isItem))
  obtain ⟨s', parsed, here⟩ := undoes_sequence .typesSize follows small appends_putText value.types
    granted each _ _ here starts
  refine ⟨s', ?_, here⟩
  rw [parseEntity, need_of_read isType, ok_bind]
  simp only [isName, parsed, ok_bind]

/-- The decoder reads the node that was written, with its entities. -/
theorem undoes_node (follows : reader.Follows bytes) (small : data.length < 2 ^ 32)
    {node : Nat} {value : GraphNode} (plain : value.Plain)
    (granted : memory.initSequence (.entities node) value.entities.length = true)
    (inner : ∀ j entity, value.entities[j]? = some entity →
      memory.initSequence (.types node j) entity.types.length = true) :
    Undoes reader data (parseNode reader memory node) (putNode bytes) value := by
  intro s out here starts
  obtain ⟨plainNamespace, plainName, plainEntities⟩ := plain
  have listed : _ <+: putNode bytes value out := appends_putEntity.sequence value.entities
  have named : _ <+: putText bytes value.nodeName (putText bytes value.nodeNamespace out) :=
    prefix_putText
  obtain ⟨_, isNamespace, here⟩ := undoes_text .nodeNamespace follows plainNamespace _ _
    here (named.trans (listed.trans starts))
  obtain ⟨_, isName, here⟩ := undoes_text .nodeName follows plainName _ _ here
    (listed.trans starts)
  have each : ∀ j entity, value.entities[j]? = some entity →
      Undoes reader data (parseEntity reader memory node j) (putEntity bytes) entity := by
    intro j entity isEntity
    exact undoes_entity follows small (plainEntities entity (List.mem_of_getElem? isEntity))
      (inner j entity isEntity)
  obtain ⟨s', parsed, here⟩ := undoes_sequence .entitiesSize follows small
    appends_putEntity value.entities granted each _ _ here starts
  refine ⟨s', ?_, here⟩
  rw [parseNode]
  simp only [isNamespace, isName, parsed, ok_bind]

/-- An array reads as the bytes its front was overwritten with. -/
theorem map_overwritten (bytes : List UInt8) (old : Nat → UInt8) :
    (List.range bytes.length).map (fun position => bytes.getD position (old position)) = bytes := by
  apply List.ext_getElem
  · simp
  · intro position inside inside'
    simp [inside']

/-- A snapshot that is an encoded graph holds the graph. -/
theorem parseGraph_encode (follows : reader.Follows bytes) {graph : Graph} (plain : graph.Plain)
    (holds : memory.Holds graph) (small : (encodeGraph bytes graph).length < 2 ^ 32)
    {graphInfo : GraphInfo} (stored : graphInfo.snapshot = encodeGraph bytes graph) :
    ∃ s, parseGraph reader memory graphInfo = .ok (graph, s) := by
  obtain ⟨isData, start, sane⟩ := follows.init graphInfo.snapshot graphInfo.microBufferLength
  have whole : graphInfo.snapshot.take graphInfo.microBufferLength = encodeGraph bytes graph := by
    rw [← GraphInfo.length_snapshot, List.take_length, stored]
  have each : ∀ i node, graph.nodes[i]? = some node →
      Undoes reader (encodeGraph bytes graph) (parseNode reader memory i) (putNode bytes) node := by
    intro i node isNode
    exact undoes_node follows small (plain node (List.mem_of_getElem? isNode))
      (holds.entities i node isNode) (fun j entity => holds.types i node j entity isNode)
  obtain ⟨s, parsed, -⟩ := undoes_sequence .nodesSize follows small appends_putNode
    graph.nodes holds.nodes each _ [] ⟨isData.trans whole, start, sane⟩ (List.prefix_refl _)
  exact ⟨s, by rw [parseGraph, parsed, ok_bind]⟩

/-- Such a snapshot is decoded to the graph. -/
theorem fillData_encode (follows : reader.Follows bytes) {graph : Graph} (plain : graph.Plain)
    (holds : memory.Holds graph) (small : (encodeGraph bytes graph).length < 2 ^ 32)
    {graphInfo : GraphInfo} (stored : graphInfo.snapshot = encodeGraph bytes graph) :
    rmwGraphFillDataFromBuffer reader memory graphInfo = .ok (.ok, graph) := by
  obtain ⟨s, parsed⟩ := parseGraph_encode follows plain holds small stored
  obtain ⟨run, decodes, returned⟩ := fillData_decodes reader memory graphInfo
  rw [parsed] at decodes
  have isRun : run = .ok (graph.stored memory, .ok, s) := decodes
  rw [returned, isRun, holds.texts]
  rfl

/-- For every graph of plain texts whose encoding fits the snapshot and whose length fits the
`uint16_t` of `on_topic`: once the encoding has arrived for the graph's data reader, decoding
the snapshot yields the graph, if there is memory for it. -/
theorem decode_encode (follows : reader.Follows bytes) {graph : Graph} (plain : graph.Plain)
    (holds : memory.Holds graph) {cfg : Config} {session : Nat} {objectId : ObjectId} {layer : Rmw}
    (built : cfg.graph = true)
    (isReader : objectId.same (layer.graphInfo session).datareaderId = true)
    (fits : (encodeGraph bytes graph).length ≤ cfg.maxInputBufferSize)
    (short : (encodeGraph bytes graph).length < 2 ^ 16) (behind : List UInt8) :
    ∃ layer', onTopic cfg session objectId
        (.topic objectId (encodeGraph bytes graph ++ behind) (encodeGraph bytes graph).length)
        layer = .ok layer' ∧
      rmwGraphFillDataFromBuffer reader memory (layer'.graphInfo session) = .ok (.ok, graph) := by
  have written : (Delivery.topic objectId (encodeGraph bytes graph ++ behind)
      (encodeGraph bytes graph).length).written = encodeGraph bytes graph := List.take_left' rfl
  have runs : ∀ delivery, onTopic cfg session objectId delivery layer =
      storeGraph cfg session delivery layer := by
    intro delivery
    rw [onTopic, built, isReader]
    rfl
  rw [runs, storeGraph, written, if_neg (by omega)]
  refine ⟨_, rfl, fillData_encode follows plain holds (by omega) ?_⟩
  simp only [Rmw.modifyGraphInfo, Function.update_self, GraphInfo.snapshot]
  exact map_overwritten _ _

namespace Small

/-- The small build with the graph, with input buffers of 128 bytes. -/
def wideConfig : Config := { graphConfig with maxInputBufferSize := 128 }

/-- The layer after `rmw_init`. -/
def wide : Rmw := ((layer wideConfig).next (.init init) {}).rmw

/-- Two nodes, one of them with an entity of one type. -/
def graph : Graph :=
  ⟨[⟨cstr "/", cstr "n", [⟨7, cstr "t", [cstr "T"]⟩]⟩, ⟨cstr "/", cstr "m", []⟩]⟩

theorem graph_plain : graph.Plain := by
  simp [Graph.Plain, GraphNode.Plain, GraphEntity.Plain, PlainText, graph, cstr]

theorem ample_holds : ample.Holds graph where
  nodes := rfl
  entities := fun _ _ _ => Bool.or_true _
  types := fun _ _ _ _ _ _ => Bool.or_true _
  texts := by decide

end Small

/-- A graph that arrives after `rmw_init` with two more bytes behind it. -/
theorem decode_encode_small : ∃ layer', onTopic Small.wideConfig 0 ⟨0, .datareader⟩
      (.topic ⟨0, .datareader⟩ (encodeGraph wordBytes Small.graph ++ [1, 2])
        (encodeGraph wordBytes Small.graph).length) Small.wide = .ok layer' ∧
    rmwGraphFillDataFromBuffer plainReader Small.ample (layer'.graphInfo 0) =
      .ok (.ok, Small.graph) :=
  decode_encode plainReader_follows Small.graph_plain Small.ample_holds rfl (by decide +kernel)
    (by decide +kernel) (by decide +kernel) [1, 2]

end RmwMicroxrcedds
