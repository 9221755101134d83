import RmwMicroxrcedds.Library.Firsts
import RmwMicroxrcedds.Model.GraphQueries
import RmwMicroxrcedds.Refinement.Entities

/-! # Queries of a decoded graph

Once the snapshot of a context decodes to a graph, a query returns what its loops collect. The
loops over the nodes and their entities are loops over one list; what each of them collects is
said in terms of that list.
-/

namespace RmwMicroxrcedds

open Cdr Outcome Firsts

variable {σ α : Type} {cfg : Config} {admits : Admission} {s : Rmw} {access : GraphAccess σ}
variable {graph : Graph} {node slot : Nat} {kind : UInt8} {topicName : CString}

/-- The snapshot of the context of a node decodes to the graph. -/
structure GraphAccess.Decodes (access : GraphAccess σ) (s : Rmw) (slot : Nat) (graph : Graph) :
    Prop where
  decoded : ∃ context, (s.customNodes slot).context = some context ∧
    (s.graphInfo context).initialized = true ∧
    rmwGraphFillDataFromBuffer access.reader access.memory (s.graphInfo context) = .ok (.ok, graph)

/-- The node of another slot in the same context decodes the same graph. -/
theorem GraphAccess.Decodes.of_context {slot' : Nat} (decodes : access.Decodes s slot graph)
    (same : (s.customNodes slot').context = (s.customNodes slot).context) :
    access.Decodes s slot' graph := by
  obtain ⟨context, isContext, decoded⟩ := decodes.decoded
  exact ⟨context, same.trans isContext, decoded⟩

/-- A query on a live node returns what it collects from the graph. -/
theorem queryGraph_eq (healthy : s.Healthy cfg admits) (bound : s.registry.Bound .node node slot)
    (decodes : access.Decodes s slot graph) (empty : α) (collect : Graph → Exec α) :
    queryGraph access (some node) true empty collect s =
      (collect graph >>= fun collected => .ok (.ok, some collected)) := by
  obtain ⟨contents, -, isData, isRead, named⟩ := healthy.block_of_data bound
  obtain ⟨context, isContext, initialized, decoded⟩ := decodes.decoded
  have named' : contents.implementationIdentifier = some eprosimaMicroxrceddsIdentifier :=
    eq_of_beq named
  simp only [queryGraph, isRead, ok_bind, named', checkTypeIdentifiersMatch, beq_self_eq_true,
    ↓reduceIte, isData, deref, isContext, initialized, decoded]

/-- The entities of a topic and a kind, each with its node, in the order of the loops. -/
def Graph.matching (graph : Graph) (topicName : CString) (kind : UInt8) :
    List (GraphNode × GraphEntity) :=
  graph.nodes.flatMap fun node =>
    (node.entities.filter fun entity => topicName = entity.name ∧ kind = entity.entityType).map
      (node, ·)

/-- The loop over the entities of one node adds the matching ones to the count. -/
private theorem countEntities_foldl (entities : List GraphEntity) (count : Nat) :
    entities.foldl (fun count entity =>
      if topicName = entity.name ∧ kind = entity.entityType then count + 1 else count) count =
      count + (entities.filter fun entity =>
        topicName = entity.name ∧ kind = entity.entityType).length := by
  induction entities generalizing count with
  | nil => rfl
  | cons entity entities ih =>
      rw [List.foldl_cons, ih]
      by_cases isMatch : topicName = entity.name ∧ kind = entity.entityType
      · rw [if_pos isMatch, List.filter_cons_of_pos (by simpa using isMatch), List.length_cons]
        omega
      · rw [if_neg isMatch, List.filter_cons_of_neg (by simpa using isMatch)]

/-- The loop over the nodes adds those of every node. -/
private theorem countNodes_foldl (nodes : List GraphNode) (count : Nat) :
    nodes.foldl (fun count node => node.entities.foldl (fun count entity =>
      if topicName = entity.name ∧ kind = entity.entityType then count + 1 else count) count)
      count = count + (Graph.matching ⟨nodes⟩ topicName kind).length := by
  induction nodes generalizing count with
  | nil => rfl
  | cons node nodes ih =>
      rw [List.foldl_cons, countEntities_foldl, ih]
      simp only [Graph.matching, List.flatMap_cons, List.length_append, List.length_map]
      omega

/-- The loops of `__rmw_count_entities` count the matching entities. -/
theorem count_matching :
    graph.nodes.foldl (fun count node => node.entities.foldl (fun count entity =>
      if topicName = entity.name ∧ kind = entity.entityType then count + 1 else count) count) 0 =
      (graph.matching topicName kind).length := by
  rw [countNodes_foldl, Nat.zero_add]

/-- What an info says about a matching entity that has a type: the first one. -/
def describe (kinds : EntityKinds) (kind : UInt8) (found : GraphNode × GraphEntity) :
    Option TopicEndpointInfo :=
  found.2.types.head?.map fun type =>
    ⟨found.1.nodeName, found.1.nodeNamespace, type, endpointKindToEndpointType kinds kind⟩

/-- The loop over the entities of one node returns if and only if the matching ones have a type,
and then with an info for each. -/
private theorem addEndpointInfo_foldlM {kinds : EntityKinds} {graphNode : GraphNode} :
    ∀ (entities : List GraphEntity) (before after : List TopicEndpointInfo),
      entities.foldlM (addEndpointInfo kinds kind (some topicName) graphNode) before = .ok after ↔
        ∃ more, after = before ++ more ∧ more.map some =
          ((entities.filter fun entity =>
            topicName = entity.name ∧ kind = entity.entityType).map (graphNode, ·)).map
              (describe kinds kind) := by
  intro entities
  induction entities with
  | nil =>
      intro before after
      constructor
      · intro returned
        cases returned
        exact ⟨[], by simp⟩
      · intro found
        obtain ⟨more, isAfter, none⟩ := found
        rw [isAfter, List.map_eq_nil_iff.mp none, List.append_nil]
        rfl
  | cons entity entities ih =>
      intro before after
      rw [List.foldlM_cons, addEndpointInfo]
      by_cases isMatch : topicName = entity.name ∧ kind = entity.entityType
      · rw [if_pos isMatch, List.filter_cons_of_pos (by simpa using isMatch)]
        cases isTypes : entity.types with
        | nil =>
            constructor
            · intro returned
              cases returned
            · intro found
              obtain ⟨more, -, described⟩ := found
              cases more with
              | nil => simp at described
              | cons info more => simp [describe, isTypes] at described
        | cons type types =>
            simp only [ok_bind, ih]
            constructor
            · intro found
              obtain ⟨more, isAfter, described⟩ := found
              refine ⟨_ :: more, by rw [isAfter, List.append_assoc]; rfl, ?_⟩
              rw [List.map_cons, List.map_cons, List.map_cons, described]
              simp [describe, isTypes]
            · intro found
              obtain ⟨more, isAfter, described⟩ := found
              cases more with
              | nil => simp at described
              | cons info more =>
                  simp only [List.map_cons, List.cons.injEq, describe, isTypes, List.head?_cons,
                    Option.map_some, Option.some.injEq] at described
                  obtain ⟨isInfo, described⟩ := described
                  refine ⟨more, ?_, described⟩
                  rw [isAfter, isInfo, List.append_assoc]
                  rfl
      · rw [if_neg isMatch, List.filter_cons_of_neg (by simpa using isMatch), ok_bind, ih]

/-- The loop over the nodes returns if and only if all matching entities have a type. -/
private theorem addEndpointInfos_foldlM {kinds : EntityKinds} (nodes : List GraphNode)
    (before after : List TopicEndpointInfo) :
    nodes.foldlM (fun endpointsInfo node => node.entities.foldlM
      (addEndpointInfo kinds kind (some topicName) node) endpointsInfo) before = .ok after ↔
      ∃ more, after = before ++ more ∧ more.map some =
        (Graph.matching ⟨nodes⟩ topicName kind).map (describe kinds kind) := by
  induction nodes generalizing before after with
  | nil =>
      constructor
      · intro returned
        cases returned
        exact ⟨[], by simp [Graph.matching]⟩
      · intro found
        obtain ⟨more, isAfter, none⟩ := found
        rw [isAfter, List.map_eq_nil_iff.mp none, List.append_nil]
        rfl
  | cons node nodes ih =>
      rw [List.foldlM_cons, bind_eq_ok]
      simp only [addEndpointInfo_foldlM, ih, Graph.matching, List.flatMap_cons, List.map_append]
      constructor
      · intro found
        obtain ⟨middle, ⟨first, isMiddle, isFirst⟩, rest, isAfter, isRest⟩ := found
        refine ⟨first ++ rest, by rw [isAfter, isMiddle, List.append_assoc], ?_⟩
        rw [List.map_append, isFirst, isRest]
      · intro found
        obtain ⟨more, isAfter, described⟩ := found
        obtain ⟨first, rest, isMore, isFirst, isRest⟩ := List.map_eq_append_iff.mp described
        exact ⟨before ++ first, ⟨first, rfl, isFirst⟩, rest,
          by rw [isAfter, isMore, List.append_assoc], isRest⟩

/-- The loops of `__rmw_get_endpoint_info_by_topic` return if and only if every matching entity
has a type, and then with an info for each, in their order. -/
theorem endpointInfos_eq_ok {kinds : EntityKinds} {infos : List TopicEndpointInfo} :
    graph.nodes.foldlM (fun endpointsInfo node => node.entities.foldlM
      (addEndpointInfo kinds kind (some topicName) node) endpointsInfo) [] = .ok infos ↔
      infos.map some = (graph.matching topicName kind).map (describe kinds kind) := by
  rw [addEndpointInfos_foldlM]
  simp

/-- The entities of a graph of the kinds listed, in the order of the loops. -/
def Graph.listed (graph : Graph) (listed : UInt8 → Bool) : List GraphEntity :=
  (graph.nodes.flatMap GraphNode.entities).filter fun entity => listed entity.entityType

/-- The bounds of the copies leave the names and the types of an entity as they are. -/
structure GraphAccess.Copies (access : GraphAccess σ) (entity : GraphEntity) : Prop where
  name : entity.name.length < access.initCapacity 1 ∧
    ∀ size, entity.name.length < access.resizeCapacity size
  types : ∀ type ∈ entity.types, type.length < access.initCapacity entity.types.length

/-- A text that fits is copied whole. -/
theorem snprintfText_of_lt {size : Nat} {text : CString} (fits : text.length < size) :
    snprintfText size text = text :=
  List.take_of_length_le (by omega)

/-- A list of names and types with the entities whose names and types are in it. -/
def listOf (entities : List GraphEntity) : NamesAndTypes :=
  ⟨entities.map GraphEntity.name, entities.map GraphEntity.types⟩

/-- An entity of a kind listed joins the list by its name. -/
theorem addNameAndTypes_listOf {listed : UInt8 → Bool} {kept : List GraphEntity}
    {entity : GraphEntity} (copies : access.Copies entity)
    (isListed : listed entity.entityType = true) :
    addNameAndTypes access listed (listOf kept) entity =
      listOf (join GraphEntity.name kept entity) := by
  have types : entity.types.map (snprintfText (access.initCapacity entity.types.length)) =
      entity.types := by
    conv_rhs => rw [← List.map_id entity.types]
    exact List.map_congr_left fun type inside => snprintfText_of_lt (copies.types type inside)
  have name : snprintfText (if (listOf kept).names.length = 0 then access.initCapacity 1
      else access.resizeCapacity ((listOf kept).names.length + 1)) entity.name = entity.name := by
    apply snprintfText_of_lt
    split
    · exact copies.name.1
    · exact copies.name.2 _
  rw [addNameAndTypes, if_pos isListed, join]
  by_cases there : entity.name ∈ kept.map GraphEntity.name
  · rw [if_pos there, if_pos (by exact there)]
  · rw [if_neg there, if_neg (by exact there), types]
    dsimp only
    rw [name]
    simp [listOf]

/-- The loop over entities joins those of the kinds listed to the list. -/
private theorem addNameAndTypes_foldl {listed : UInt8 → Bool} (entities kept : List GraphEntity)
    (copies : ∀ entity ∈ entities, listed entity.entityType = true → access.Copies entity) :
    entities.foldl (addNameAndTypes access listed) (listOf kept) =
      listOf ((entities.filter fun entity => listed entity.entityType).foldl
        (join GraphEntity.name) kept) := by
  induction entities generalizing kept with
  | nil => rfl
  | cons entity entities ih =>
      have copies' : ∀ entity ∈ entities, listed entity.entityType = true →
          access.Copies entity := fun other inside => copies other (List.mem_cons_of_mem _ inside)
      rw [List.foldl_cons]
      by_cases isListed : listed entity.entityType = true
      · rw [addNameAndTypes_listOf (copies entity List.mem_cons_self isListed) isListed,
          ih _ copies', List.filter_cons, if_pos isListed, List.foldl_cons]
      · rw [addNameAndTypes, if_neg isListed, ih _ copies', List.filter_cons, if_neg isListed]

/-- The loops list the first entity of each name. -/
theorem namesAndTypes_eq {listed : UInt8 → Bool}
    (copies : ∀ entity ∈ graph.listed listed, access.Copies entity) :
    graph.nodes.foldl (fun list node => node.entities.foldl (addNameAndTypes access listed) list)
      {} = listOf (firsts GraphEntity.name (graph.listed listed)) := by
  rw [← List.foldl_flatMap]
  exact addNameAndTypes_foldl _ [] fun entity inside isListed =>
    copies entity (List.mem_filter.mpr ⟨inside, isListed⟩)

end RmwMicroxrcedds
