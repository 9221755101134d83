import RmwMicroxrcedds.Model.Topic

/-! # Releasing entities

The `rmw_uxrce_fini_*_memory` functions of publishers, subscriptions, services and
clients, which are one function over four pools, and the deletion of an entity from
the agent.
-/

namespace RmwMicroxrcedds

/-- Forget the handle of an entity (`custom_*->rmw_handle = NULL`). -/
def Rmw.clearRmwHandle (s : Rmw) (pool : Pool) (entity : Nat) : Rmw :=
  match pool with
  | .node => s.modifyNode entity fun old => { old with rmwHandle := none }
  | .publisher => s.modifyPublisher entity fun old => { old with rmwHandle := none }
  | .subscription => s.modifySubscription entity fun old => { old with rmwHandle := none }
  | .service =>
      { s with
        customServices := Function.update s.customServices entity
          { s.customServices entity with rmwHandle := none } }
  | .client =>
      { s with
        customClients := Function.update s.customClients entity
          { s.customClients entity with rmwHandle := none } }
  | _ => s

/-- The body shared by the four functions: the handle's name and its slot are released,
then the handle itself. A handle of another implementation is left alone. -/
def finiMemory (pool : Pool) (block : Nat) (s : Rmw) : Exec Rmw := do
  let handle ← s.readHandle pool block
  if isUxrceRmwIdentifierValid handle.implementationIdentifier then
    match handle.data with
    | some entity =>
        let s := s.clearRmwHandle pool entity
        let s := s.putMemory pool entity
        .ok (s.storeHandle pool block none)
    | none => .ok (s.storeHandle pool block none)
  else .ok s

/-- `rmw_uxrce_fini_publisher_memory`. -/
def rmwUxrceFiniPublisherMemory : Nat → Rmw → Exec Rmw := finiMemory .publisher

/-- `rmw_uxrce_fini_subscription_memory`. -/
def rmwUxrceFiniSubscriptionMemory : Nat → Rmw → Exec Rmw := finiMemory .subscription

/-- `rmw_uxrce_fini_service_memory`. -/
def rmwUxrceFiniServiceMemory : Nat → Rmw → Exec Rmw := finiMemory .service

/-- `rmw_uxrce_fini_client_memory`. -/
def rmwUxrceFiniClientMemory : Nat → Rmw → Exec Rmw := finiMemory .client

/-- What the agent and the link do while a publisher or a subscription is deleted: its
topic, its data writer or data reader, and the entity itself. -/
structure EntityTeardown where
  topic : Exchange := {}
  endpoint : Exchange := {}
  entity : Exchange := {}

/-- The checks that open every `rmw_destroy_*`: both handles are non-null, of this
implementation, and carry an entity. The result is the two entities. -/
def checkDestroyed (pool : Pool) (node handle : Option Nat) (s : Rmw) :
    Exec (Option (Nat × Nat)) := do
  match node with
  | none => .ok none
  | some node =>
      let nodeHandle ← s.readHandle .node node
      match isUxrceRmwIdentifierValid nodeHandle.implementationIdentifier, nodeHandle.data with
      | true, some customNode =>
          match handle with
          | none => .ok none
          | some handle =>
              let entityHandle ← s.readHandle pool handle
              match isUxrceRmwIdentifierValid entityHandle.implementationIdentifier,
                  entityHandle.data with
              | true, some entity => .ok (some (customNode, entity))
              | _, _ => .ok none
      | _, _ => .ok none

/-- The deletion of two objects from the agent: both requests are written, then the
session runs for each. -/
def deletePair (cfg : Config) (context : Nat) (first second : ObjectId)
    (teardown : EntityTeardown) (s : Rmw) : Exec (Bool × Rmw) := do
  let (_, s) := s.uxrBuffer context (.deleteEntity first) teardown.endpoint.room
  let (_, s) := s.uxrBuffer context (.deleteEntity second) teardown.entity.room
  let (confirmedFirst, s) ← runXrceSession cfg context teardown.endpoint s
  let (confirmedSecond, s) ← runXrceSession cfg context teardown.entity s
  .ok (confirmedFirst && confirmedSecond, s)

end RmwMicroxrcedds
