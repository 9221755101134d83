import RmwMicroxrcedds.Model.Types

/-! # Elementary accesses

Reads and writes of the state of the layer: the pools by name, the members of an
entity, the handles on the heap, and the requests written to a session. The library
functions `rmw_allocate` and `rmw_free` only matter here for which handles are live,
and `uxr_buffer_*` for the request it writes and the request id it returns.
-/

namespace RmwMicroxrcedds

/-- The name of this implementation (`eprosima_microxrcedds_identifier`). -/
def eprosimaMicroxrceddsIdentifier : String := "rmw_microxrcedds"

/-- `is_uxrce_rmw_identifier_valid`. -/
def isUxrceRmwIdentifierValid (id : Option String) : Bool :=
  id == some eprosimaMicroxrceddsIdentifier

/-- `RMW_CHECK_TYPE_IDENTIFIERS_MATCH` against the identifier of this implementation. It
compares with `strcmp`, which must not be handed a null pointer. -/
def checkTypeIdentifiersMatch (elementTypeId : Option String) : Exec Bool :=
  match elementTypeId with
  | none => .error .nullDereference
  | some id => .ok (id == eprosimaMicroxrceddsIdentifier)

/-- `UXR_INVALID_REQUEST_ID`. -/
def uxrInvalidRequestId : Nat := 0

namespace Rmw

/-- `get_memory` on a pool. -/
def getMemory (s : Rmw) (pool : Pool) : Option Nat × Rmw :=
  ((s.memory pool).getMemory.1,
    { s with memory := Function.update s.memory pool (s.memory pool).getMemory.2 })

/-- `put_memory` on a pool. -/
def putMemory (s : Rmw) (pool : Pool) (item : Nat) : Rmw :=
  { s with memory := Function.update s.memory pool ((s.memory pool).putMemory item) }

/-- `rmw_uxrce_init_*_memory`. -/
def initMemory (s : Rmw) (pool : Pool) (size : Nat) : Rmw :=
  { s with memory := Function.update s.memory pool ((s.memory pool).initMemory size) }

/-- `item->data`, followed. -/
def dataOf (s : Rmw) (pool : Pool) (item : Nat) : Exec Nat := deref ((s.memory pool).data item)

/-- The free items of a pool. -/
def free (s : Rmw) (pool : Pool) : List Nat := (s.memory pool).free

/-- The allocated items of a pool. -/
def allocated (s : Rmw) (pool : Pool) : List Nat := (s.memory pool).allocated

def modifySession (s : Rmw) (index : Nat) (change : Session → Session) : Rmw :=
  { s with
    customSessions := Function.update s.customSessions index (change (s.customSessions index)) }

def modifyGraphInfo (s : Rmw) (index : Nat) (change : GraphInfo → GraphInfo) : Rmw :=
  { s with graphInfo := Function.update s.graphInfo index (change (s.graphInfo index)) }

def modifyNode (s : Rmw) (index : Nat) (change : Node → Node) : Rmw :=
  { s with customNodes := Function.update s.customNodes index (change (s.customNodes index)) }

def modifyPublisher (s : Rmw) (index : Nat) (change : Publisher → Publisher) : Rmw :=
  { s with
    customPublishers :=
      Function.update s.customPublishers index (change (s.customPublishers index)) }

def modifySubscription (s : Rmw) (index : Nat) (change : Subscription → Subscription) : Rmw :=
  { s with
    customSubscriptions :=
      Function.update s.customSubscriptions index (change (s.customSubscriptions index)) }

def modifyTopic (s : Rmw) (index : Nat) (change : Topic → Topic) : Rmw :=
  { s with customTopics := Function.update s.customTopics index (change (s.customTopics index)) }

def modifyStaticBuffer (s : Rmw) (index : Nat)
    (change : StaticInputBuffer → StaticInputBuffer) : Rmw :=
  { s with
    customStaticBuffers :=
      Function.update s.customStaticBuffers index (change (s.customStaticBuffers index)) }

def modifyContext (s : Rmw) (index : Nat) (change : RmwContext → RmwContext) : Rmw :=
  { s with contexts := Function.update s.contexts index (change (s.contexts index)) }

/-- `rmw_allocate` for a handle: the new block and the state with it. -/
def allocateHandle (s : Rmw) (pool : Pool) (handle : RmwHandle) : Nat × Rmw :=
  let heap := s.handles pool
  (heap.next,
    { s with
      handles := Function.update s.handles pool
        { block := Function.update heap.block heap.next (some handle), next := heap.next + 1 } })

/-- The handle in a block; a freed block may not be read. -/
def readHandle (s : Rmw) (pool : Pool) (block : Nat) : Exec RmwHandle :=
  match (s.handles pool).block block with
  | some handle => .ok handle
  | none => .error .useAfterFree

/-- The contents of a block become the given ones, or the block is freed. -/
def storeHandle (s : Rmw) (pool : Pool) (block : Nat) (contents : Option RmwHandle) : Rmw :=
  let heap := s.handles pool
  { s with
    handles := Function.update s.handles pool
      { heap with block := Function.update heap.block block contents } }

/-- `uxr_buffer_*`: write a request to the session. Without room in the output stream
nothing is written and the result is `UXR_INVALID_REQUEST_ID`; otherwise the result is
the next request id of the session. -/
def uxrBuffer (s : Rmw) (session : Nat) (request : XrceRequest) (room : Bool) : Nat × Rmw :=
  if room then
    let id := (s.customSessions session).lastRequestId + 1
    (id, s.modifySession session fun old =>
      { old with lastRequestId := id, requests := request :: old.requests })
  else (uxrInvalidRequestId, s)

/-- `uxr_object_id(context->id_*++, type)`. -/
def uxrObjectId (s : Rmw) (session : Nat) (type : ObjectType) : ObjectId × Rmw :=
  let id := (s.customSessions session).nextId type
  (⟨id, type⟩, s.modifySession session fun old =>
    { old with nextId := Function.update old.nextId type (id + 1) })

end Rmw

/-- Walk a pool's allocated items from `item` on, up to the first one whose entity
passes the test. -/
def findItem (mem : Mempool) (test : Nat → Bool) : Nat → Option Nat → Exec (Option Nat)
  | _, none => .ok none
  | 0, some _ => .error .divergence
  | fuel + 1, some item => do
      let entity ← deref (mem.data item)
      if test entity then .ok (some item)
      else findItem mem test fuel (mem.links item).next

/-- The first allocated item of a pool whose entity passes the test. -/
def Rmw.findAllocated (s : Rmw) (pool : Pool) (test : Nat → Bool) : Exec (Option Nat) :=
  findItem (s.memory pool) test (s.memory pool).size (s.memory pool).allocateditems

/-- Walk a pool's allocated items from `item` on, reading the successor of each item
before its body runs, and keep the result code of the last body that ran. -/
def forEachItem (pool : Pool) (body : Nat → Rmw → Exec (Option RmwRet × Rmw)) :
    Nat → Option Nat → RmwRet → Rmw → Exec (RmwRet × Rmw)
  | _, none, ret, s => .ok (ret, s)
  | 0, some _, _, _ => .error .divergence
  | fuel + 1, some item, ret, s => do
      let entity ← s.dataOf pool item
      let next := ((s.memory pool).links item).next
      let (result, s) ← body entity s
      forEachItem pool body fuel next (result.getD ret) s

/-- Run a body over the allocated items of a pool. -/
def Rmw.forEachAllocated (s : Rmw) (pool : Pool)
    (body : Nat → Rmw → Exec (Option RmwRet × Rmw)) (ret : RmwRet) : Exec (RmwRet × Rmw) :=
  forEachItem pool body (s.memory pool).size (s.memory pool).allocateditems ret s

end RmwMicroxrcedds
