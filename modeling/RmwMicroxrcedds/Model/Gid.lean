import RmwMicroxrcedds.Library.Bytes
import RmwMicroxrcedds.Model.Publisher

/-! # Publisher gids

`rmw_get_gid_for_publisher` and `rmw_compare_gids_equal`. Both work on objects of their caller,
so a gid is the range of a memory of bytes: first the pointer to the name of the implementation,
then the data. The sizes and the bytes of an object id are those of the client library and of
the headers of the rmw interface.
-/

namespace RmwMicroxrcedds

open Bytes

/-- `rmw_gid_t` and `uxrObjectId` as they lie in memory: the pointer that
`rmw_get_implementation_identifier` returns, `RMW_GID_STORAGE_SIZE`, the sizes of the two types,
and the bytes of the object id of a slot, whose padding may be any. -/
structure GidLayout where
  identifier : List UInt8
  gidStorageSize : Nat
  gidSize : Nat
  objectIdSize : Nat
  objectIdBytes : Nat → ObjectId → List UInt8
  holds : identifier.length + gidStorageSize ≤ gidSize
  whole : ∀ slot id, (objectIdBytes slot id).length = objectIdSize
  tells : ∀ slot slot' id id', objectIdBytes slot id = objectIdBytes slot' id' → id.same id' = true

namespace GidLayout

variable (layout : GidLayout)

/-- `gid->implementation_identifier == rmw_get_implementation_identifier()`. -/
def identified (memory : Memory) (gid : Nat) : Bool :=
  read memory gid layout.identifier.length == layout.identifier

/-- `gid->data`. -/
def data (gid : Nat) : Nat := gid + layout.identifier.length

end GidLayout

/-- `rmw_get_gid_for_publisher`. -/
def rmwGetGidForPublisher (layout : GidLayout) (publisher gid : Option Nat) (memory : Memory)
    (s : Rmw) : Exec (RmwRet × Memory) :=
  match publisher, gid with
  | some publisher, some gid => do
      let handle ← s.readHandle .publisher publisher
      if handle.implementationIdentifier ≠ some eprosimaMicroxrceddsIdentifier then
        .ok (.incorrectRmwImplementation, memory)
      else if layout.objectIdSize > layout.gidStorageSize then .ok (.error, memory)
      else
        let customPublisher ← deref handle.data
        let cleared := write memory (layout.data gid) (List.replicate layout.gidStorageSize 0)
        .ok (.ok, write cleared (layout.data gid)
          (layout.objectIdBytes customPublisher
            (s.customPublishers customPublisher).publisherId))
  | _, _ => .ok (.invalidArgument, memory)

/-- `rmw_compare_gids_equal`, and `*result` if it is written. It compares as many bytes from
`data` on as the whole gid has. -/
def rmwCompareGidsEqual (layout : GidLayout) (gid1 gid2 : Option Nat) (memory : Memory) :
    RmwRet × Option Bool :=
  match gid1, gid2 with
  | some gid1, some gid2 =>
      if layout.identified memory gid1 = false then (.incorrectRmwImplementation, none)
      else if layout.identified memory gid2 = false then (.incorrectRmwImplementation, none)
      else (.ok, some (read memory (layout.data gid1) layout.gidSize ==
        read memory (layout.data gid2) layout.gidSize))
  | _, _ => (.invalidArgument, none)

end RmwMicroxrcedds
