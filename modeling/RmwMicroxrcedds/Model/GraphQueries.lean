import RmwMicroxrcedds.Model.Graph
import RmwMicroxrcedds.Model.Names

/-! # Queries of the graph

The functions that decode the snapshot of a context and list what is in it, in a build with
`RMW_UXRCE_GRAPH` and with enough memory for what they return. A string array, or an array of
endpoint infos, is the list of its elements; the zero-initialised array is empty.
-/

namespace RmwMicroxrcedds

open Cdr

variable {σ α : Type}

/-- The constants of `micro_ros_msgs/Entity`. Two labels of one `switch` are different. -/
structure EntityKinds where
  publisher : UInt8
  subscriber : UInt8
  serviceServer : UInt8
  serviceClient : UInt8
  topicLabels : publisher ≠ subscriber
  serviceLabels : serviceServer ≠ serviceClient

/-- What the queries get from outside: the reader of the snapshots, memory for the decoded graph,
the kinds of entities, and the `capacity` that a string array has after it was initialised with,
or resized to, a number of strings. -/
structure GraphAccess (σ : Type) where
  reader : Reader σ
  memory : GraphMemory
  kinds : EntityKinds
  initCapacity : Nat → Nat
  resizeCapacity : Nat → Nat

/-- The common frame of the queries: the checks of the node and of the other arguments, and the
decoding of the graph. An output is `none` where nothing is written to it. -/
def queryGraph (access : GraphAccess σ) (node : Option Nat) (argumentsValid : Bool) (empty : α)
    (collect : Graph → Exec α) (s : Rmw) : Exec (RmwRet × Option α) :=
  match node with
  | none => .ok (.invalidArgument, none)
  | some node => do
      let handle ← s.readHandle .node node
      if ← checkTypeIdentifiersMatch handle.implementationIdentifier then
        if argumentsValid then
          let customNode ← deref handle.data
          let context ← deref (s.customNodes customNode).context
          let graphInfo := s.graphInfo context
          if graphInfo.initialized then
            let (ret, graph) ← rmwGraphFillDataFromBuffer access.reader access.memory graphInfo
            if ret = .ok then
              let collected ← collect graph
              .ok (.ok, some collected)
            else .ok (.error, some empty)
          else .ok (.ok, some empty)
        else .ok (.invalidArgument, none)
      else .ok (.incorrectRmwImplementation, none)

/-- `__rmw_count_entities`. -/
def rmwCountEntities (access : GraphAccess σ) (kind : UInt8) (node : Option Nat)
    (topicName : Option CString) (count : Bool) (s : Rmw) : Exec (RmwRet × Option Nat) :=
  match topicName with
  | none => queryGraph access node false 0 (fun _ => .ok 0) s
  | some topicName =>
      queryGraph access node count 0 (fun graph =>
        .ok (graph.nodes.foldl (fun count node =>
          node.entities.foldl (fun count entity =>
            if topicName = entity.name ∧ kind = entity.entityType then count + 1 else count)
            count) 0)) s

/-- `rmw_count_publishers`; `count` tells whether the pointer is not null. -/
def rmwCountPublishers (access : GraphAccess σ) (node : Option Nat) (topicName : Option CString)
    (count : Bool) (s : Rmw) : Exec (RmwRet × Option Nat) :=
  rmwCountEntities access access.kinds.publisher node topicName count s

/-- `rmw_count_subscribers`. -/
def rmwCountSubscribers (access : GraphAccess σ) (node : Option Nat) (topicName : Option CString)
    (count : Bool) (s : Rmw) : Exec (RmwRet × Option Nat) :=
  rmwCountEntities access access.kinds.subscriber node topicName count s

/-- `rmw_endpoint_type_t`. -/
inductive EndpointType where
  | invalid
  | publisher
  | subscription
deriving DecidableEq

/-- `__endpoint_kind_to_endpoint_type`. -/
def endpointKindToEndpointType (kinds : EntityKinds) (kind : UInt8) : EndpointType :=
  if kind = kinds.publisher then .publisher
  else if kind = kinds.subscriber then .subscription
  else .invalid

/-- `rmw_topic_endpoint_info_t`, less the gid and the profile, which are left blank. -/
structure TopicEndpointInfo where
  nodeName : CString
  nodeNamespace : CString
  topicType : CString
  endpointType : EndpointType
deriving DecidableEq

/-- `rmw_topic_endpoint_info_array_check_zero`, and the same check of other arrays. -/
def checkZero (array : Option (List α)) : Bool := (array.map List.isEmpty).getD false

/-- The body of the loops of `__rmw_get_endpoint_info_by_topic`. The data of an empty sequence of
types is null. -/
def addEndpointInfo (kinds : EntityKinds) (kind : UInt8) (topicName : Option CString)
    (node : GraphNode) (endpointsInfo : List TopicEndpointInfo) (entity : GraphEntity) :
    Exec (List TopicEndpointInfo) :=
  match topicName with
  | none => .error .nullDereference
  | some topicName =>
      if topicName = entity.name ∧ kind = entity.entityType then
        match entity.types with
        | [] => .error .nullDereference
        | type :: _ =>
            .ok (endpointsInfo ++ [⟨node.nodeName, node.nodeNamespace, type,
              endpointKindToEndpointType kinds kind⟩])
      else .ok endpointsInfo

/-- `__rmw_get_endpoint_info_by_topic`. -/
def rmwGetEndpointInfoByTopic (access : GraphAccess σ) (kind : UInt8) (node : Option Nat)
    (allocator : Bool) (topicName : Option CString)
    (endpointsInfo : Option (List TopicEndpointInfo)) (s : Rmw) :
    Exec (RmwRet × Option (List TopicEndpointInfo)) :=
  queryGraph access node (allocator && checkZero endpointsInfo) [] (fun graph =>
    graph.nodes.foldlM (fun endpointsInfo node =>
      node.entities.foldlM (addEndpointInfo access.kinds kind topicName node) endpointsInfo) []) s

/-- `rmw_get_publishers_info_by_topic`; `allocator` tells whether the allocator is valid. -/
def rmwGetPublishersInfoByTopic (access : GraphAccess σ) (node : Option Nat) (allocator : Bool)
    (topicName : Option CString) (publishersInfo : Option (List TopicEndpointInfo)) (s : Rmw) :
    Exec (RmwRet × Option (List TopicEndpointInfo)) :=
  rmwGetEndpointInfoByTopic access access.kinds.publisher node allocator topicName publishersInfo s

/-- `rmw_get_subscriptions_info_by_topic`. -/
def rmwGetSubscriptionsInfoByTopic (access : GraphAccess σ) (node : Option Nat) (allocator : Bool)
    (topicName : Option CString) (subscriptionsInfo : Option (List TopicEndpointInfo)) (s : Rmw) :
    Exec (RmwRet × Option (List TopicEndpointInfo)) :=
  rmwGetEndpointInfoByTopic access access.kinds.subscriber node allocator topicName
    subscriptionsInfo s

/-- What the two functions below make of the infos of the other side. -/
def countMatched (infos : RmwRet × Option (List TopicEndpointInfo)) : RmwRet × Option Nat :=
  if infos.1 = .ok then (.ok, infos.2.map List.length) else (.error, none)

/-- `rmw_publisher_count_matched_subscriptions`. -/
def rmwPublisherCountMatchedSubscriptions (access : GraphAccess σ) (publisher : Nat) (s : Rmw) :
    Exec (RmwRet × Option Nat) := do
  let handle ← s.readHandle .publisher publisher
  let customPublisher ← deref handle.data
  let ownerNode ← deref (s.customPublishers customPublisher).ownerNode
  let node := (s.customNodes ownerNode).rmwHandle
  let infos ← rmwGetSubscriptionsInfoByTopic access node true handle.name (some []) s
  .ok (countMatched infos)

/-- `rmw_subscription_count_matched_publishers`. -/
def rmwSubscriptionCountMatchedPublishers (access : GraphAccess σ) (subscription : Nat) (s : Rmw) :
    Exec (RmwRet × Option Nat) := do
  let handle ← s.readHandle .subscription subscription
  let customSubscription ← deref handle.data
  let ownerNode ← deref (s.customSubscriptions customSubscription).ownerNode
  let node := (s.customNodes ownerNode).rmwHandle
  let infos ← rmwGetPublishersInfoByTopic access node true handle.name (some []) s
  .ok (countMatched infos)

/-- The copies of `rmw_get_node_names` into arrays of so many strings: the bound of each copy is
the size of the array. -/
def copyNodeNames (graph : Graph) : List CString × List CString :=
  let size := graph.nodes.length
  (graph.nodes.map fun node => snprintfText size node.nodeName,
    graph.nodes.map fun node => snprintfText size node.nodeNamespace)

/-- `rmw_get_node_names`. -/
def rmwGetNodeNames (access : GraphAccess σ) (node : Option Nat)
    (nodeNames nodeNamespaces : Option (List CString)) (s : Rmw) :
    Exec (RmwRet × Option (List CString × List CString)) :=
  queryGraph access node (checkZero nodeNames && checkZero nodeNamespaces) ([], [])
    (fun graph => .ok (copyNodeNames graph)) s

/-- `rmw_names_and_types_t`. -/
structure NamesAndTypes where
  names : List CString := []
  types : List (List CString) := []
deriving DecidableEq

/-- The body of the loops of `rmw_get_topic_names_and_types` and
`rmw_get_service_names_and_types`, which differ in the kinds of entities they list. -/
def addNameAndTypes (access : GraphAccess σ) (listed : UInt8 → Bool) (list : NamesAndTypes)
    (entity : GraphEntity) : NamesAndTypes :=
  if listed entity.entityType then
    -- do not include in the list if it already exists
    if entity.name ∈ list.names then list
    else
      let currentPosition := list.names.length
      let capacity :=
        if currentPosition = 0 then access.initCapacity 1
        else access.resizeCapacity (currentPosition + 1)
      { names := list.names ++ [snprintfText capacity entity.name]
        types := list.types ++
          [entity.types.map (snprintfText (access.initCapacity entity.types.length))] }
  else list

/-- The two functions below, for the kinds of entities each lists. -/
def rmwGetNamesAndTypes (access : GraphAccess σ) (listed : UInt8 → Bool) (node : Option Nat)
    (allocator : Bool) (namesAndTypes : Option NamesAndTypes) (s : Rmw) :
    Exec (RmwRet × Option NamesAndTypes) :=
  queryGraph access node (allocator && namesAndTypes == some {}) {} (fun graph =>
    .ok (graph.nodes.foldl (fun list node =>
      node.entities.foldl (addNameAndTypes access listed) list) {})) s

/-- The `case` labels of `rmw_get_topic_names_and_types`. -/
def EntityKinds.isTopic (kinds : EntityKinds) (kind : UInt8) : Bool :=
  kind == kinds.publisher || kind == kinds.subscriber

/-- The `case` labels of `rmw_get_service_names_and_types`. -/
def EntityKinds.isService (kinds : EntityKinds) (kind : UInt8) : Bool :=
  kind == kinds.serviceServer || kind == kinds.serviceClient

/-- `rmw_get_topic_names_and_types`. -/
def rmwGetTopicNamesAndTypes (access : GraphAccess σ) (node : Option Nat) (allocator : Bool)
    (topicNamesAndTypes : Option NamesAndTypes) (s : Rmw) :
    Exec (RmwRet × Option NamesAndTypes) :=
  rmwGetNamesAndTypes access access.kinds.isTopic node allocator topicNamesAndTypes s

/-- `rmw_get_service_names_and_types`. -/
def rmwGetServiceNamesAndTypes (access : GraphAccess σ) (node : Option Nat) (allocator : Bool)
    (serviceNamesAndTypes : Option NamesAndTypes) (s : Rmw) :
    Exec (RmwRet × Option NamesAndTypes) :=
  rmwGetNamesAndTypes access access.kinds.isService node allocator serviceNamesAndTypes s

end RmwMicroxrcedds
