import RmwMicroxrcedds.Model.Graph
import RmwMicroxrcedds.Library.Outcome

/-! # The graph message

What a buffer holds as a graph message: its fields in the order of the message definitions,
up to the first thing that is lacking: a field that cannot be read, the NUL of a text, or the
memory for a sequence. The decoder is described by what is lacking.
-/

namespace RmwMicroxrcedds

open Cdr Outcome

variable {σ α β : Type}

/-- What a message lacks first. -/
inductive Lack where
  | nodesSize
  | nodeNamespace
  | nodeName
  | entitiesSize
  | entityType
  | entityName
  | typesSize
  | typeName
  | terminator
  | memory
deriving DecidableEq

/-- A field, if it could be read. -/
def need (lack : Lack) : Option α × σ → Except Lack (α × σ)
  | (none, _) => .error lack
  | (some value, buffer) => .ok (value, buffer)

/-- A counted sequence of items, each read with its index. -/
def parseItems (item : Nat → σ → Except Lack (α × σ)) :
    Nat → Nat → σ → Except Lack (List α × σ)
  | 0, _, buffer => .ok ([], buffer)
  | count + 1, index, buffer => do
      let (parsed, buffer) ← item index buffer
      let (rest, buffer) ← parseItems item count (index + 1) buffer
      .ok (parsed :: rest, buffer)

/-- The size of a sequence, and its items if there is memory for them. -/
def parseSequence (reader : Reader σ) (memory : GraphMemory) (lack : Lack) (site : SequenceSite)
    (item : Nat → σ → Except Lack (α × σ)) (buffer : σ) : Except Lack (List α × σ) := do
  let (size, buffer) ← need lack (reader.word buffer)
  if memory.initSequence site size.toNat then parseItems item size.toNat 0 buffer
  else .error .memory

/-- A text, if it could be read and has its NUL within `temp_string`. -/
def parseText (reader : Reader σ) (lack : Lack) (buffer : σ) : Except Lack (CString × σ) := do
  let (text, buffer) ← need lack (reader.text buffer tempStringSize)
  need .terminator (terminated (tempString (some text)), buffer)

def parseEntity (reader : Reader σ) (memory : GraphMemory) (node entity : Nat) (buffer : σ) :
    Except Lack (GraphEntity × σ) := do
  let (entityType, buffer) ← need .entityType (reader.byte buffer)
  let (name, buffer) ← parseText reader .entityName buffer
  let (types, buffer) ←
    parseSequence reader memory .typesSize (.types node entity)
      (fun _ => parseText reader .typeName) buffer
  .ok (⟨entityType, name, types⟩, buffer)

def parseNode (reader : Reader σ) (memory : GraphMemory) (node : Nat) (buffer : σ) :
    Except Lack (GraphNode × σ) := do
  let (nodeNamespace, buffer) ← parseText reader .nodeNamespace buffer
  let (nodeName, buffer) ← parseText reader .nodeName buffer
  let (entities, buffer) ←
    parseSequence reader memory .entitiesSize (.entities node) (parseEntity reader memory node)
      buffer
  .ok (⟨nodeNamespace, nodeName, entities⟩, buffer)

/-- The graph a buffer holds, or what is lacking. -/
def parseGraph (reader : Reader σ) (memory : GraphMemory) (graphInfo : GraphInfo) :
    Except Lack (Graph × σ) := do
  let (nodes, buffer) ← parseSequence reader memory .nodesSize .nodes (parseNode reader memory)
    (reader.init graphInfo.snapshot graphInfo.microBufferLength)
  .ok (⟨nodes⟩, buffer)

section Stored

variable (memory : GraphMemory)

/-- The name of a type as it is stored. -/
def storedType (node entity type : Nat) (name : CString) : CString :=
  memory.assign (.typeName node entity type) name

def GraphEntity.stored (node entity : Nat) (parsed : GraphEntity) : GraphEntity :=
  { parsed with
    name := memory.assign (.entityName node entity) parsed.name
    types := parsed.types.mapIdx (storedType memory node entity) }

def GraphNode.stored (node : Nat) (parsed : GraphNode) : GraphNode :=
  { nodeNamespace := memory.assign (.nodeNamespace node) parsed.nodeNamespace
    nodeName := memory.assign (.nodeName node) parsed.nodeName
    entities := parsed.entities.mapIdx (GraphEntity.stored memory node) }

/-- The graph with empty texts where there is no memory for them. -/
def Graph.stored (parsed : Graph) : Graph :=
  ⟨parsed.nodes.mapIdx (GraphNode.stored memory)⟩

end Stored

/-- What the decoder makes of a part of a message. Only a type's name that cannot be read goes
without a fault, because no size is read behind it; the other faults take a reader on which every
read behind a failed one fails. -/
def Decodes (reader : Reader σ) (stored : α → α) (run : Exec (α × RmwRet × σ)) :
    Except Lack (α × σ) → Prop
  | .ok (parsed, buffer) => run = .ok (stored parsed, .ok, buffer)
  | .error .typeName => ∃ decoded buffer, run = .ok (decoded, .error, buffer)
  | .error _ => reader.Sticky → ∃ fault, run = .error fault

section Decodes

variable {reader : Reader σ} {stored : α → α} {run : Exec (α × RmwRet × σ)} {lack : Lack}

/-- What faults with every sticky reader decodes an essential lack. -/
theorem decodes_error (essential : lack ≠ .typeName)
    (faults : reader.Sticky → ∃ fault, run = .error fault) :
    Decodes reader stored run (.error lack) := by
  cases lack <;> first | exact faults | exact absurd rfl essential

/-- An essential lack makes the decoder fault, when the reader is sticky. -/
theorem Decodes.faults (decodes : Decodes reader stored run (.error lack))
    (essential : lack ≠ .typeName) : reader.Sticky → ∃ fault, run = .error fault := by
  cases lack <;> first | exact decodes | exact absurd rfl essential

/-- Going on behind a part of a message: with the status of success the rest is decoded, and
with an error nothing is. -/
theorem Decodes.bind {stored' : β → β} {parse : Except Lack (α × σ)}
    {next : α × RmwRet × σ → Exec (β × RmwRet × σ)} {parseNext : α × σ → Except Lack (β × σ)}
    (first : Decodes reader stored run parse)
    (goes : ∀ parsed buffer,
      Decodes reader stored' (next (stored parsed, .ok, buffer)) (parseNext (parsed, buffer)))
    (stops : ∀ decoded buffer, ∃ decoded',
      next (decoded, .error, buffer) = .ok (decoded', .error, buffer)) :
    Decodes reader stored' (run >>= next) (parse >>= parseNext) := by
  cases parse with
  | ok result =>
      obtain ⟨parsed, buffer⟩ := result
      have returned : run = .ok (stored parsed, .ok, buffer) := first
      rw [returned]
      exact goes parsed buffer
  | error lack =>
      by_cases isType : lack = .typeName
      · subst isType
        obtain ⟨decoded, buffer, returned⟩ := first
        obtain ⟨decoded', stopped⟩ := stops decoded buffer
        exact ⟨decoded', buffer, by rw [returned]; exact stopped⟩
      · apply decodes_error isType
        intro sticky
        obtain ⟨fault, faults⟩ := first.faults isType sticky
        exact ⟨fault, by rw [faults]; rfl⟩

end Decodes

section Items

variable {reader : Reader σ} {store : Nat → α → α} {parse : Nat → σ → Except Lack (α × σ)}
  {body : Nat → σ → Exec (α × RmwRet × σ)}
  (loop : Nat → Nat → RmwRet → σ → Exec (List α × RmwRet × σ))
  (ends : ∀ index buffer, loop 0 index .ok buffer = .ok ([], .ok, buffer))
  (stops : ∀ count index buffer, ∃ items,
    loop count index .error buffer = .ok (items, .error, buffer))
  (goes : ∀ count index buffer, loop (count + 1) index .ok buffer =
    body index buffer >>= fun (decoded, ret, buffer) =>
      loop count (index + 1) ret buffer >>= fun (rest, ret, buffer) =>
        .ok (decoded :: rest, ret, buffer))
  (each : ∀ index buffer, Decodes reader (store index) (body index buffer) (parse index buffer))

include ends stops goes each

/-- From some index on, the loop makes of a sequence what its body makes of the items. -/
theorem decodes_items_from (count index : Nat) (buffer : σ) :
    Decodes reader (fun items => items.mapIdx fun i => store (index + i))
      (loop count index .ok buffer) (parseItems parse count index buffer) := by
  induction count generalizing index buffer with
  | zero => exact ends index buffer
  | succ count ih =>
      rw [goes, parseItems]
      refine (each index buffer).bind (fun parsed buffer => ?_) (fun decoded buffer => ?_)
      · refine (ih (index + 1) buffer).bind (fun rest buffer => ?_) (fun rest buffer => ⟨_, rfl⟩)
        have shift : (fun i => store (index + (i + 1))) = fun i => store (index + 1 + i) := by
          funext i
          rw [Nat.add_comm i 1, Nat.add_assoc]
        simp only [Decodes, List.mapIdx_cons, Nat.add_zero, shift]
      · obtain ⟨rest, stopped⟩ := stops count (index + 1) buffer
        exact ⟨decoded :: rest, by simp only [stopped, ok_bind]⟩

/-- The loop reads what the parser reads, item by item. -/
theorem decodes_items (count : Nat) (buffer : σ) :
    Decodes reader (fun items => items.mapIdx store) (loop count 0 .ok buffer)
      (parseItems parse count 0 buffer) := by
  have loops := decodes_items_from loop ends stops goes each count 0 buffer
  simp only [Nat.zero_add] at loops
  exact loops

end Items

/-- A part with a sequence in it: the size is read, the sequence initialised without a look at
the result, and the loop entered. -/
theorem decodes_sequence (reader : Reader σ) (memory : GraphMemory) {lack : Lack}
    (site : SequenceSite) {store : Nat → α → α} (stored : β → β) (wrap decoded : List α → β)
    {parse : Nat → σ → Except Lack (α × σ)} {loop : Nat → σ → Exec (List α × RmwRet × σ)}
    (essential : lack ≠ .typeName)
    (items : ∀ count buffer, Decodes reader (fun items => items.mapIdx store) (loop count buffer)
      (parseItems parse count 0 buffer))
    (wraps : ∀ items, decoded (items.mapIdx store) = stored (wrap items)) (buffer : σ) :
    Decodes reader stored
      (match reader.word buffer with
        | (none, _) => .error .uninitializedRead
        | (some size, buffer) =>
            if memory.initSequence site size.toNat then
              loop size.toNat buffer >>= fun (items, ret, buffer) =>
                .ok (decoded items, ret, buffer)
            else .error .nullDereference)
      (parseSequence reader memory lack site parse buffer >>= fun (items, buffer) =>
        .ok (wrap items, buffer)) := by
  unfold parseSequence
  rcases reader.word buffer with ⟨_ | size, behind⟩
  · exact decodes_error essential fun _ => ⟨_, rfl⟩
  · simp only [need, ok_bind]
    split
    · refine (items size.toNat behind).bind (fun items buffer => ?_) (fun items buffer => ⟨_, rfl⟩)
      rw [wraps]
      exact rfl
    · exact fun _ => ⟨_, rfl⟩

section Decoder

variable {reader : Reader σ} {memory : GraphMemory} {node entity : Nat} {buffer : σ}

/-- `temp_string` stays empty behind a read that fails. -/
theorem terminated_unread : terminated (tempString none) = some [] := by decide

/-- Behind a failed read a text is assigned empty, and the status is an error. -/
theorem fillText_lost {site : StringSite} {ret : RmwRet}
    (lost : (reader.text buffer tempStringSize).1 = none) :
    fillText reader memory site ret buffer =
      .ok (memory.assign site [], .error, (reader.text buffer tempStringSize).2) := by
  unfold fillText
  rcases isText : reader.text buffer tempStringSize with ⟨_ | text, behind⟩
  · simp only [terminated_unread]
    rfl
  · rw [isText] at lost
    cases lost

variable (reader memory) in
/-- A text is lacking, or it is read over the end of `temp_string`, or it is stored. -/
theorem fillText_cases (site : StringSite) (lack : Lack) (ret : RmwRet) (buffer : σ) :
    ((reader.text buffer tempStringSize).1 = none ∧
      parseText reader lack buffer = .error lack) ∨
    (parseText reader lack buffer = .error .terminator ∧
      fillText reader memory site ret buffer = .error .bufferOverread) ∨
    ∃ text behind, parseText reader lack buffer = .ok (text, behind) ∧
      fillText reader memory site ret buffer = .ok (memory.assign site text, ret, behind) := by
  unfold fillText parseText
  rcases reader.text buffer tempStringSize with ⟨_ | bytes, behind⟩
  · exact Or.inl ⟨rfl, rfl⟩
  · simp only [need, ok_bind]
    cases terminated (tempString (some bytes)) with
    | none => exact Or.inr (Or.inl ⟨rfl, rfl⟩)
    | some text => exact Or.inr (Or.inr ⟨text, behind, rfl, rfl⟩)

/-- The body of the loop over the types of an entity. -/
theorem fillType_decodes (type : Nat) (buffer : σ) :
    Decodes reader (storedType memory node entity type)
      (fillText reader memory (.typeName node entity type) .ok buffer)
      (parseText reader .typeName buffer) := by
  obtain ⟨lost, lacking⟩ | ⟨lacking, overread⟩ | ⟨text, behind, parsed, filled⟩ :=
    fillText_cases reader memory (.typeName node entity type) .typeName .ok buffer
  · rw [lacking, fillText_lost lost]
    exact ⟨_, _, rfl⟩
  · rw [lacking, overread]
    exact fun _ => ⟨_, rfl⟩
  · rw [parsed, filled]
    exact rfl

/-- The loop over the types of an entity. -/
theorem fillTypes_decodes (count : Nat) (buffer : σ) :
    Decodes reader (fun types => types.mapIdx (storedType memory node entity))
      (fillTypes reader memory node entity count 0 .ok buffer)
      (parseItems (fun _ => parseText reader .typeName) count 0 buffer) := by
  have stops : ∀ count type buffer, ∃ types,
      fillTypes reader memory node entity count type .error buffer =
        .ok (types, .error, buffer) := by
    intro count type buffer
    cases count <;> exact ⟨_, rfl⟩
  exact decodes_items (fillTypes reader memory node entity) (fun _ _ => rfl) stops
    (fun _ _ _ => rfl) fillType_decodes count buffer

/-- A size that cannot be read is used. -/
theorem word_lost {next : BitVec 32 → σ → Exec β} (lost : (reader.word buffer).1 = none) :
    (match reader.word buffer with
      | (none, _) => (.error .uninitializedRead : Exec β)
      | (some size, buffer) => next size buffer) = .error .uninitializedRead := by
  rcases isWord : reader.word buffer with ⟨_ | size, behind⟩
  · rfl
  · rw [isWord] at lost
    cases lost

/-- The body of the loop over the entities of a node. Behind a failed read it runs on until it
reads a size, which then fails too. -/
theorem fillEntity_decodes (entity : Nat) (buffer : σ) :
    Decodes reader (GraphEntity.stored memory node entity)
      (fillEntity reader memory node entity .ok buffer)
      (parseEntity reader memory node entity buffer) := by
  unfold fillEntity parseEntity
  rcases isByte : reader.byte buffer with ⟨_ | entityType, behind⟩
  · apply decodes_error (by decide)
    intro sticky
    have byteFails := sticky.byteFails buffer
    rw [isByte] at byteFails
    have noText := sticky.text behind tempStringSize (byteFails rfl)
    simp only [fillText_lost noText, ok_bind]
    exact ⟨_, word_lost (sticky.word_text noText)⟩
  · obtain ⟨lost, lacking⟩ | ⟨lacking, overread⟩ | ⟨name, behind', parsed, filled⟩ :=
      fillText_cases reader memory (.entityName node entity) .entityName .ok behind
    · simp only [need, lacking, ok_bind]
      apply decodes_error (by decide)
      intro sticky
      simp only [fillText_lost lost, ok_bind]
      exact ⟨_, word_lost (sticky.word_text lost)⟩
    · simp only [need, lacking, checkRetval_some, overread, ok_bind]
      exact fun _ => ⟨_, rfl⟩
    · simp only [need, checkRetval_some, parsed, filled, ok_bind]
      exact decodes_sequence reader memory (.types node entity)
        (GraphEntity.stored memory node entity)
        (GraphEntity.mk entityType name)
        (GraphEntity.mk entityType (memory.assign (.entityName node entity) name))
        (show Lack.typesSize ≠ .typeName by decide) fillTypes_decodes (fun types => rfl) behind'

/-- The loop over the entities of a node. -/
theorem fillEntities_decodes (count : Nat) (buffer : σ) :
    Decodes reader (fun entities => entities.mapIdx (GraphEntity.stored memory node))
      (fillEntities reader memory node count 0 .ok buffer)
      (parseItems (parseEntity reader memory node) count 0 buffer) := by
  have stops : ∀ count entity buffer, ∃ entities,
      fillEntities reader memory node count entity .error buffer =
        .ok (entities, .error, buffer) := by
    intro count entity buffer
    cases count <;> exact ⟨_, rfl⟩
  exact decodes_items (fillEntities reader memory node) (fun _ _ => rfl) stops (fun _ _ _ => rfl)
    fillEntity_decodes count buffer

/-- The body of the loop over the nodes. -/
theorem fillNode_decodes (node : Nat) (buffer : σ) :
    Decodes reader (GraphNode.stored memory node) (fillNode reader memory node .ok buffer)
      (parseNode reader memory node buffer) := by
  unfold fillNode parseNode
  obtain ⟨lost, lacking⟩ | ⟨lacking, overread⟩ | ⟨nodeNamespace, behind, parsed, filled⟩ :=
    fillText_cases reader memory (.nodeNamespace node) .nodeNamespace .ok buffer
  · rw [lacking]
    apply decodes_error (by decide)
    intro sticky
    have noText := sticky.text _ tempStringSize (sticky.textFails buffer tempStringSize lost)
    simp only [fillText_lost lost, fillText_lost noText, ok_bind]
    exact ⟨_, word_lost (sticky.word_text noText)⟩
  · rw [lacking, overread]
    exact fun _ => ⟨_, rfl⟩
  · obtain ⟨lost, lacking⟩ | ⟨lacking, overread⟩ | ⟨nodeName, behind', parsed', filled'⟩ :=
      fillText_cases reader memory (.nodeName node) .nodeName .ok behind
    · simp only [parsed, filled, lacking, ok_bind]
      apply decodes_error (by decide)
      intro sticky
      simp only [fillText_lost lost, ok_bind]
      exact ⟨_, word_lost (sticky.word_text lost)⟩
    · simp only [parsed, filled, lacking, overread, ok_bind]
      exact fun _ => ⟨_, rfl⟩
    · simp only [parsed, filled, parsed', filled', ok_bind]
      exact decodes_sequence reader memory (.entities node) (GraphNode.stored memory node)
        (GraphNode.mk nodeNamespace nodeName)
        (GraphNode.mk (memory.assign (.nodeNamespace node) nodeNamespace)
          (memory.assign (.nodeName node) nodeName))
        (show Lack.entitiesSize ≠ .typeName by decide) fillEntities_decodes
        (fun entities => rfl) behind'

/-- The loop over the nodes. -/
theorem fillNodes_decodes (count : Nat) (buffer : σ) :
    Decodes reader (fun nodes => nodes.mapIdx (GraphNode.stored memory))
      (fillNodes reader memory count 0 .ok buffer)
      (parseItems (parseNode reader memory) count 0 buffer) := by
  have stops : ∀ count node buffer, ∃ nodes,
      fillNodes reader memory count node .error buffer = .ok (nodes, .error, buffer) := by
    intro count node buffer
    cases count <;> exact ⟨_, rfl⟩
  exact decodes_items (fillNodes reader memory) (fun _ _ => rfl) stops (fun _ _ _ => rfl)
    fillNode_decodes count buffer

variable (reader memory) in
/-- What `rmw_graph_fill_data_from_buffer` makes of a message, by what is lacking. -/
theorem fillData_decodes (graphInfo : GraphInfo) :
    ∃ run, Decodes reader (Graph.stored memory) run (parseGraph reader memory graphInfo) ∧
      rmwGraphFillDataFromBuffer reader memory graphInfo =
        run.map fun (decoded, ret, _) => (ret, decoded) := by
  refine ⟨_, decodes_sequence reader memory .nodes (Graph.stored memory) Graph.mk Graph.mk
    (show Lack.nodesSize ≠ .typeName by decide) fillNodes_decodes (fun nodes => rfl)
    (reader.init graphInfo.snapshot graphInfo.microBufferLength), ?_⟩
  unfold rmwGraphFillDataFromBuffer
  dsimp only
  rcases reader.word (reader.init graphInfo.snapshot graphInfo.microBufferLength)
    with ⟨_ | size, behind⟩
  · rfl
  · dsimp only
    split
    · cases fillNodes reader memory size.toNat 0 .ok behind <;> rfl
    · rfl

end Decoder

end RmwMicroxrcedds
