import RmwMicroxrcedds.Library.Cdr
import RmwMicroxrcedds.Model.Callbacks

/-! # The graph decoder

`rmw_graph_fill_data_from_buffer`: the graph message in the snapshot buffer is decoded into
nested sequences. After a read that fails the code goes on to the end of the iteration it is
in, and the results of the sequence initialisations are not looked at.
-/

namespace RmwMicroxrcedds

open Cdr

variable {σ : Type}

/-- `micro_ros_msgs__msg__Entity`. -/
structure GraphEntity where
  entityType : UInt8 := 0
  name : CString := []
  types : List CString := []
deriving DecidableEq

/-- `micro_ros_msgs__msg__Node`. -/
structure GraphNode where
  nodeNamespace : CString := []
  nodeName : CString := []
  entities : List GraphEntity := []
deriving DecidableEq

/-- `micro_ros_msgs__msg__Graph`. -/
structure Graph where
  nodes : List GraphNode := []
deriving DecidableEq

/-- Where a sequence is initialised: for all nodes, the entities of a node, or the types of an
entity of a node. -/
inductive SequenceSite where
  | nodes
  | entities (node : Nat)
  | types (node entity : Nat)
deriving DecidableEq

/-- Where a string is assigned. -/
inductive StringSite where
  | nodeNamespace (node : Nat)
  | nodeName (node : Nat)
  | entityName (node entity : Nat)
  | typeName (node entity type : Nat)
deriving DecidableEq

/-- Whether the memory for a sequence of some elements, or for a string, can be had. -/
structure GraphMemory where
  sequences : SequenceSite → Nat → Bool
  strings : StringSite → Bool

/-- `*__Sequence__init`, which fails only for want of memory. -/
def GraphMemory.initSequence (memory : GraphMemory) (site : SequenceSite) (size : Nat) : Bool :=
  size == 0 || memory.sequences site size

/-- What `rosidl_runtime_c__String__assign` of a text leaves in an empty string. -/
def GraphMemory.assign (memory : GraphMemory) (site : StringSite) (text : CString) : CString :=
  if memory.strings site then text else []

/-- `UCDR_DESERIALIZE_AND_CHECK_RETVAL`. -/
def checkRetval {α : Type} (ret : RmwRet) (read : Option α) : RmwRet :=
  if read.isSome then ret else .error

@[simp] theorem checkRetval_some {α : Type} (ret : RmwRet) (value : α) :
    checkRetval ret (some value) = ret := rfl

/-- `sizeof(temp_string)`. -/
def tempStringSize : Nat := 256

/-- `temp_string`, set to zero and read into. A read that fails writes nothing. -/
def tempString (read : Option (List UInt8)) : List UInt8 :=
  read.getD [] ++ List.replicate (tempStringSize - (read.getD []).length) 0

/-- The text in an array, for which `strlen` has to find a NUL there. -/
def terminated (array : List UInt8) : Option CString :=
  if 0 ∈ array then some (array.takeWhile (· ≠ 0)) else none

/-- A text is read into `temp_string` and assigned from there. -/
def fillText (reader : Reader σ) (memory : GraphMemory) (site : StringSite) (ret : RmwRet)
    (buffer : σ) : Exec (CString × RmwRet × σ) :=
  let (read, buffer) := reader.text buffer tempStringSize
  match terminated (tempString read) with
  | none => .error .bufferOverread
  | some text => .ok (memory.assign site text, checkRetval ret read, buffer)

/-- The loop over the types of an entity, with the remaining number of them. An element that
is not reached stays empty. -/
def fillTypes (reader : Reader σ) (memory : GraphMemory) (node entity : Nat) :
    Nat → Nat → RmwRet → σ → Exec (List CString × RmwRet × σ)
  | 0, _, ret, buffer => .ok ([], ret, buffer)
  | count + 1, type, ret, buffer =>
      if ret = .ok then do
        let (name, ret, buffer) ←
          fillText reader memory (.typeName node entity type) ret buffer
        let (rest, ret, buffer) ←
          fillTypes reader memory node entity count (type + 1) ret buffer
        .ok (name :: rest, ret, buffer)
      else .ok (List.replicate (count + 1) [], ret, buffer)

/-- The body of the loop over the entities of a node. -/
def fillEntity (reader : Reader σ) (memory : GraphMemory) (node entity : Nat) (ret : RmwRet)
    (buffer : σ) : Exec (GraphEntity × RmwRet × σ) := do
  let (entityType, buffer) := reader.byte buffer
  let ret := checkRetval ret entityType
  let (name, ret, buffer) ← fillText reader memory (.entityName node entity) ret buffer
  let decoded : GraphEntity := { entityType := entityType.getD 0, name := name }
  match reader.word buffer with
  -- `types_size` is used all the same
  | (none, _) => .error .uninitializedRead
  | (some typesSize, buffer) =>
      if memory.initSequence (.types node entity) typesSize.toNat then do
        let (types, ret, buffer) ←
          fillTypes reader memory node entity typesSize.toNat 0 ret buffer
        .ok ({ decoded with types := types }, ret, buffer)
      else if ret = .ok then .error .nullDereference
      else .ok (decoded, ret, buffer)

/-- The loop over the entities of a node. -/
def fillEntities (reader : Reader σ) (memory : GraphMemory) (node : Nat) :
    Nat → Nat → RmwRet → σ → Exec (List GraphEntity × RmwRet × σ)
  | 0, _, ret, buffer => .ok ([], ret, buffer)
  | count + 1, entity, ret, buffer =>
      if ret = .ok then do
        let (decoded, ret, buffer) ← fillEntity reader memory node entity ret buffer
        let (rest, ret, buffer) ← fillEntities reader memory node count (entity + 1) ret buffer
        .ok (decoded :: rest, ret, buffer)
      else .ok (List.replicate (count + 1) {}, ret, buffer)

/-- The body of the loop over the nodes. -/
def fillNode (reader : Reader σ) (memory : GraphMemory) (node : Nat) (ret : RmwRet)
    (buffer : σ) : Exec (GraphNode × RmwRet × σ) := do
  let (nodeNamespace, ret, buffer) ← fillText reader memory (.nodeNamespace node) ret buffer
  let (nodeName, ret, buffer) ← fillText reader memory (.nodeName node) ret buffer
  let decoded : GraphNode := { nodeNamespace := nodeNamespace, nodeName := nodeName }
  match reader.word buffer with
  -- `entities_size` is used all the same
  | (none, _) => .error .uninitializedRead
  | (some entitiesSize, buffer) =>
      if memory.initSequence (.entities node) entitiesSize.toNat then do
        let (entities, ret, buffer) ←
          fillEntities reader memory node entitiesSize.toNat 0 ret buffer
        .ok ({ decoded with entities := entities }, ret, buffer)
      else if ret = .ok then .error .nullDereference
      else .ok (decoded, ret, buffer)

/-- The loop over the nodes. -/
def fillNodes (reader : Reader σ) (memory : GraphMemory) :
    Nat → Nat → RmwRet → σ → Exec (List GraphNode × RmwRet × σ)
  | 0, _, ret, buffer => .ok ([], ret, buffer)
  | count + 1, node, ret, buffer =>
      if ret = .ok then do
        let (decoded, ret, buffer) ← fillNode reader memory node ret buffer
        let (rest, ret, buffer) ← fillNodes reader memory count (node + 1) ret buffer
        .ok (decoded :: rest, ret, buffer)
      else .ok (List.replicate (count + 1) {}, ret, buffer)

/-- `rmw_graph_fill_data_from_buffer`. -/
def rmwGraphFillDataFromBuffer (reader : Reader σ) (memory : GraphMemory) (graphInfo : GraphInfo) :
    Exec (RmwRet × Graph) :=
  let buffer := reader.init graphInfo.snapshot graphInfo.microBufferLength
  match reader.word buffer with
  -- `nodes_size` is used all the same
  | (none, _) => .error .uninitializedRead
  | (some nodesSize, buffer) =>
      if memory.initSequence .nodes nodesSize.toNat then do
        let (nodes, ret, _) ← fillNodes reader memory nodesSize.toNat 0 .ok buffer
        .ok (ret, ⟨nodes⟩)
      else .error .nullDereference

end RmwMicroxrcedds
