import RmwMicroxrcedds.Properties.GraphSnapshots

/-! # Endpoint counts and endpoint lists

The count of the publishers or subscriptions of a topic, the infos about them, and the counts of
matched endpoints go through the same entities of the graph. The infos want the first type of
each, which an entity need not have.
-/

namespace RmwMicroxrcedds

open Cdr Outcome

variable {σ : Type} {cfg : Config} {admits : Admission} {s : Rmw} {access : GraphAccess σ}
variable {graph : Graph} {node slot : Nat} {topicName : CString}

/-- The two kinds of entities that are counted and listed. -/
inductive EndpointSide where
  | publishers
  | subscriptions

namespace EndpointSide

/-- The kind of the entities. -/
def kind (side : EndpointSide) (kinds : EntityKinds) : UInt8 :=
  match side with
  | publishers => kinds.publisher
  | subscriptions => kinds.subscriber

/-- The endpoint kind in the infos. -/
def endpointType : EndpointSide → EndpointType
  | publishers => .publisher
  | subscriptions => .subscription

/-- `rmw_count_publishers` or `rmw_count_subscribers`. -/
def count (side : EndpointSide) (access : GraphAccess σ) (node : Option Nat)
    (topicName : Option CString) (s : Rmw) : Exec (RmwRet × Option Nat) :=
  match side with
  | publishers => rmwCountPublishers access node topicName true s
  | subscriptions => rmwCountSubscribers access node topicName true s

/-- `rmw_get_publishers_info_by_topic` or `rmw_get_subscriptions_info_by_topic`. -/
def infos (side : EndpointSide) (access : GraphAccess σ) (node : Option Nat)
    (topicName : Option CString) (s : Rmw) : Exec (RmwRet × Option (List TopicEndpointInfo)) :=
  match side with
  | publishers => rmwGetPublishersInfoByTopic access node true topicName (some []) s
  | subscriptions => rmwGetSubscriptionsInfoByTopic access node true topicName (some []) s

/-- The pool of the entities that count the ones of this side as matched. -/
def matchedBy : EndpointSide → Pool
  | publishers => .subscription
  | subscriptions => .publisher

/-- `rmw_subscription_count_matched_publishers` or `rmw_publisher_count_matched_subscriptions`. -/
def countMatched (side : EndpointSide) (access : GraphAccess σ) (handle : Nat) (s : Rmw) :
    Exec (RmwRet × Option Nat) :=
  match side with
  | publishers => rmwSubscriptionCountMatchedPublishers access handle s
  | subscriptions => rmwPublisherCountMatchedSubscriptions access handle s

/-- The kind of a side is reported as the type of that side. -/
theorem endpointType_eq (side : EndpointSide) (kinds : EntityKinds) :
    endpointKindToEndpointType kinds (side.kind kinds) = side.endpointType := by
  cases side with
  | publishers => exact if_pos rfl
  | subscriptions =>
      have different : ¬ kinds.subscriber = kinds.publisher := fun same =>
        kinds.topicLabels same.symm
      rw [kind, endpointKindToEndpointType, if_neg different, if_pos rfl]
      rfl

end EndpointSide

/-- What the info about an entity should say: the names of its node, its first type, and the
endpoint kind. -/
def EndpointSide.infoOf (side : EndpointSide) (found : GraphNode × GraphEntity) :
    Option TopicEndpointInfo :=
  found.2.types.head?.map fun type =>
    ⟨found.1.nodeName, found.1.nodeNamespace, type, side.endpointType⟩

/-- The count of a topic is the number of matching entities. -/
theorem count_eq (side : EndpointSide) (healthy : s.Healthy cfg admits)
    (bound : s.registry.Bound .node node slot) (decodes : access.Decodes s slot graph) :
    side.count access (some node) (some topicName) s =
      .ok (.ok, some (graph.matching topicName (side.kind access.kinds)).length) := by
  cases side with
  | publishers | subscriptions =>
      simp only [EndpointSide.count, rmwCountPublishers, rmwCountSubscribers, rmwCountEntities,
        queryGraph_eq healthy bound decodes, count_matching, ok_bind]
      rfl

/-- The infos about a topic are what the loops over the graph collect. -/
theorem infos_eq (side : EndpointSide) (healthy : s.Healthy cfg admits)
    (bound : s.registry.Bound .node node slot) (decodes : access.Decodes s slot graph) :
    side.infos access (some node) (some topicName) s =
      (graph.nodes.foldlM (fun endpointsInfo node => node.entities.foldlM
        (addEndpointInfo access.kinds (side.kind access.kinds) (some topicName) node)
          endpointsInfo) [] >>= fun infos => .ok (.ok, some infos)) := by
  have zero : (true && checkZero (some ([] : List TopicEndpointInfo))) = true := rfl
  cases side with
  | publishers | subscriptions =>
      simp only [EndpointSide.infos, rmwGetPublishersInfoByTopic,
        rmwGetSubscriptionsInfoByTopic, rmwGetEndpointInfoByTopic, zero,
        queryGraph_eq healthy bound decodes, EndpointSide.kind]

/-- The infos about a topic are returned if and only if they can be told of every entity. -/
theorem infos_eq_iff (side : EndpointSide) (healthy : s.Healthy cfg admits)
    (bound : s.registry.Bound .node node slot) (decodes : access.Decodes s slot graph)
    {infos : List TopicEndpointInfo} :
    side.infos access (some node) (some topicName) s = .ok (.ok, some infos) ↔
      infos.map some =
        (graph.matching topicName (side.kind access.kinds)).map side.infoOf := by
  have described : describe access.kinds (side.kind access.kinds) = side.infoOf := by
    funext found
    unfold describe EndpointSide.infoOf
    rw [side.endpointType_eq]
  rw [infos_eq side healthy bound decodes, bind_eq_ok, ← described, ← endpointInfos_eq_ok]
  constructor
  · intro returned
    obtain ⟨other, isOther, same⟩ := returned
    cases same
    exact isOther
  · exact fun returned => ⟨infos, returned, rfl⟩

/-- Infos can be told of all entities if and only if all have a type. -/
theorem exists_infos_iff (side : EndpointSide) (entities : List (GraphNode × GraphEntity)) :
    (∃ infos : List TopicEndpointInfo, infos.map some = entities.map side.infoOf) ↔
      ∀ found ∈ entities, found.2.types ≠ [] := by
  induction entities with
  | nil =>
      constructor
      · intro _ found inside
        cases inside
      · exact fun _ => ⟨[], rfl⟩
  | cons found entities ih =>
      rw [List.forall_mem_cons, ← ih]
      constructor
      · intro told
        obtain ⟨infos, told⟩ := told
        cases infos with
        | nil => cases told
        | cons info infos =>
            simp only [List.map_cons, List.cons.injEq] at told
            refine ⟨fun empty => ?_, infos, told.2⟩
            have isInfo := told.1
            rw [EndpointSide.infoOf, empty] at isInfo
            cases isInfo
      · intro told
        obtain ⟨some, infos, told⟩ := told
        obtain ⟨type, types, isTypes⟩ := List.exists_cons_of_ne_nil some
        refine ⟨⟨found.1.nodeName, found.1.nodeNamespace, type, side.endpointType⟩ :: infos, ?_⟩
        rw [List.map_cons, List.map_cons, told, EndpointSide.infoOf, isTypes]
        rfl

/-- The topic name of a publisher or a subscription, and the context of its owner. -/
structure EndpointSide.Matches (side : EndpointSide) (s : Rmw) (topicName : CString)
    (slot handle : Nat) : Prop where
  topic : ∃ contents, (s.handles side.matchedBy).block handle = some contents ∧
    contents.name = some topicName
  context : ∃ own owner, s.registry.Bound side.matchedBy handle own ∧
    (s.registry.entity side.matchedBy own).ownerNode = some owner ∧
    (s.customNodes owner).context = (s.customNodes slot).context

/-- The matched endpoints are counted by the infos that the node of the owner gets. -/
theorem countMatched_eq (side : EndpointSide) (healthy : s.Healthy cfg admits)
    (sound : s.registry.Sound) {handle : Nat} (matched : side.Matches s topicName slot handle) :
    ∃ owner ownerHandle, s.registry.Bound .node ownerHandle owner ∧
      (s.customNodes owner).context = (s.customNodes slot).context ∧
      side.countMatched access handle s =
        (side.infos access (some ownerHandle) (some topicName) s >>= fun infos =>
          .ok (RmwMicroxrcedds.countMatched infos)) := by
  obtain ⟨contents, isBlock, named⟩ := matched.topic
  obtain ⟨own, owner, bound, isOwner, context⟩ := matched.context
  obtain ⟨contents', isBlock', isData, isRead, -⟩ := healthy.block_of_data bound
  cases isBlock.symm.trans isBlock'
  have leaf : side.matchedBy.isLeaf = true := by cases side <;> rfl
  obtain ⟨owner', ownerHandle, isOwner', boundOwner⟩ := (sound.placed bound).owned leaf
  cases isOwner.symm.trans isOwner'
  have isHandle : (s.customNodes owner).rmwHandle = some ownerHandle :=
    (sound.placed boundOwner).handle
  refine ⟨owner, ownerHandle, boundOwner, context, ?_⟩
  cases side with
  | publishers =>
      have isRead' : s.readHandle .subscription handle = .ok contents := isRead
      have isOwner'' : (s.customSubscriptions own).ownerNode = some owner := isOwner
      simp only [EndpointSide.countMatched, rmwSubscriptionCountMatchedPublishers, isRead',
        ok_bind, isData, deref, isOwner'', isHandle, named, EndpointSide.infos]
  | subscriptions =>
      have isRead' : s.readHandle .publisher handle = .ok contents := isRead
      have isOwner'' : (s.customPublishers own).ownerNode = some owner := isOwner
      simp only [EndpointSide.countMatched, rmwPublisherCountMatchedSubscriptions, isRead',
        ok_bind, isData, deref, isOwner'', isHandle, named, EndpointSide.infos]

/-- The counts and the infos of a topic agree, and the infos are those of the matching entities
one by one, if and only if every matching entity has a type. -/
theorem endpoint_counts_agree_iff (side : EndpointSide) (healthy : s.Healthy cfg admits)
    (sound : s.registry.Sound) (bound : s.registry.Bound .node node slot)
    (decodes : access.Decodes s slot graph) (topicName : CString) :
    (∃ infos, side.infos access (some node) (some topicName) s = .ok (.ok, some infos) ∧
      side.count access (some node) (some topicName) s = .ok (.ok, some infos.length) ∧
      (∀ handle, side.Matches s topicName slot handle →
        side.countMatched access handle s = .ok (.ok, some infos.length)) ∧
      infos.map some = (graph.matching topicName (side.kind access.kinds)).map side.infoOf) ↔
      ∀ found ∈ graph.matching topicName (side.kind access.kinds), found.2.types ≠ [] := by
  rw [← exists_infos_iff side]
  apply exists_congr
  intro infos
  rw [infos_eq_iff side healthy bound decodes]
  constructor
  · exact fun agree => agree.1
  · intro told
    have number : infos.length = (graph.matching topicName (side.kind access.kinds)).length := by
      simpa using congrArg List.length told
    refine ⟨told, ?_, fun handle matched => ?_, told⟩
    · rw [number, count_eq side healthy bound decodes]
    · obtain ⟨owner, ownerHandle, boundOwner, context, counts⟩ :=
        countMatched_eq side healthy sound matched
      rw [counts, (infos_eq_iff side healthy boundOwner (decodes.of_context context)).mpr told]
      rfl

/-- The publishers of `t` in the small graph. -/
theorem endpoint_counts_agree_iff_small : ∃ s,
    deliver Small.wideConfig 0 (snapshotOf wordBytes Small.untyped ⟨0, .datareader⟩ [])
      Small.wideNode.rmw = .ok s ∧
    ((∃ infos,
      EndpointSide.publishers.infos Small.graphAccess (some 0) (some (cstr "t")) s =
        .ok (.ok, some infos) ∧
      EndpointSide.publishers.count Small.graphAccess (some 0) (some (cstr "t")) s =
        .ok (.ok, some infos.length) ∧
      (∀ handle, EndpointSide.publishers.Matches s (cstr "t") 0 handle →
        EndpointSide.publishers.countMatched Small.graphAccess handle s =
          .ok (.ok, some infos.length)) ∧
      infos.map some =
        (Small.untyped.matching (cstr "t") 1).map EndpointSide.publishers.infoOf) ↔
      ∀ found ∈ Small.untyped.matching (cstr "t") 1, found.2.types ≠ []) := by
  obtain ⟨s, received, healthy, sound, bound, decodes⟩ :=
    Small.seen Small.untyped_plain Small.untyped_holds (by decide +kernel)
  exact ⟨s, received, endpoint_counts_agree_iff .publishers healthy sound bound decodes _⟩

/-- A publisher without a type is counted, and its info reads the type it does not have. -/
theorem untyped_publisher_faults : ∃ s,
    deliver Small.wideConfig 0 (snapshotOf wordBytes Small.untyped ⟨0, .datareader⟩ [])
      Small.wideNode.rmw = .ok s ∧
    Small.graphAccess.Decodes s 0 Small.untyped ∧
    rmwCountPublishers Small.graphAccess (some 0) (some (cstr "u")) true s = .ok (.ok, some 1) ∧
    rmwGetPublishersInfoByTopic Small.graphAccess (some 0) true (some (cstr "u")) (some []) s =
      .error .nullDereference := by
  obtain ⟨s, received, healthy, sound, bound, decodes⟩ :=
    Small.seen Small.untyped_plain Small.untyped_holds (by decide +kernel)
  refine ⟨s, received, decodes, ?_, ?_⟩
  · exact count_eq .publishers healthy bound decodes
  · exact infos_eq .publishers healthy bound decodes

end RmwMicroxrcedds
