import RmwMicroxrcedds.Properties.GraphSnapshots

/-! # Names and types of topics and services

The listings keep one entry for each name, with the types of the first entity that has the name.
The types that only a later entity advertises are not in the list.
-/

namespace RmwMicroxrcedds

open Cdr Outcome Firsts

variable {σ : Type} {cfg : Config} {admits : Admission} {s : Rmw} {access : GraphAccess σ}
variable {graph : Graph} {node slot : Nat}

/-- The two listings. -/
inductive Listing where
  | topics
  | services

namespace Listing

/-- The kinds of entities that are listed. -/
def listed (listing : Listing) (kinds : EntityKinds) : UInt8 → Bool :=
  match listing with
  | topics => kinds.isTopic
  | services => kinds.isService

/-- `rmw_get_topic_names_and_types` or `rmw_get_service_names_and_types`. -/
def namesAndTypes (listing : Listing) (access : GraphAccess σ) (node : Option Nat) (s : Rmw) :
    Exec (RmwRet × Option NamesAndTypes) :=
  match listing with
  | topics => rmwGetTopicNamesAndTypes access node true (some {}) s
  | services => rmwGetServiceNamesAndTypes access node true (some {}) s

/-- The listing has the names and types of the first entity of each name. -/
theorem namesAndTypes_eq (listing : Listing) (healthy : s.Healthy cfg admits)
    (bound : s.registry.Bound .node node slot) (decodes : access.Decodes s slot graph)
    (copies : ∀ entity ∈ graph.listed (listing.listed access.kinds), access.Copies entity) :
    listing.namesAndTypes access (some node) s = .ok (.ok, some
      (listOf (firsts GraphEntity.name (graph.listed (listing.listed access.kinds))))) := by
  have zero : (true && some ({} : NamesAndTypes) == some {}) = true := by decide
  rw [← RmwMicroxrcedds.namesAndTypes_eq copies]
  cases listing with
  | topics | services =>
      simp only [namesAndTypes, rmwGetTopicNamesAndTypes, rmwGetServiceNamesAndTypes,
        rmwGetNamesAndTypes, zero, queryGraph_eq healthy bound decodes, ok_bind, listed]

end Listing

/-- Each name of a list beside its types. -/
def NamesAndTypes.entries (list : NamesAndTypes) : List (CString × List CString) :=
  list.names.zip list.types

theorem entries_listOf (entities : List GraphEntity) :
    (listOf entities).entries = entities.map fun entity => (entity.name, entity.types) :=
  List.zip_map'

/-- A list of the entities in which every name has one entry. -/
structure NamesAndTypes.Lists (list : NamesAndTypes) (entities : List GraphEntity) : Prop where
  distinct : list.names.Nodup
  names : ∀ name, name ∈ list.names ↔ ∃ entity ∈ entities, entity.name = name
  aligned : list.types.length = list.names.length
  entries : ∀ name types, (name, types) ∈ list.entries →
    ∃ entity ∈ entities, entity.name = name ∧ entity.types = types

/-- The types listed for a name are all that an entity of the name advertises. -/
def NamesAndTypes.Complete (list : NamesAndTypes) (entities : List GraphEntity) : Prop :=
  ∀ name types, (name, types) ∈ list.entries →
    ∀ entity ∈ entities, entity.name = name → entity.types ⊆ types

variable {entities kept : List GraphEntity}

/-- The entities that are the first of their names make such a list. -/
theorem lists_listOf (firsts : AreFirsts GraphEntity.name entities kept) :
    (listOf kept).Lists entities where
  distinct := firsts.distinct
  names := fun name => firsts.key_iff.trans List.mem_map
  aligned := by simp [listOf]
  entries := by
    intro name types inside
    rw [entries_listOf] at inside
    obtain ⟨first, isKept, same⟩ := List.mem_map.mp inside
    cases same
    exact ⟨first, List.mem_of_find?_eq_some ((firsts.first first).mp isKept), rfl, rfl⟩

/-- It is complete if and only if no entity has a type that the first one of its name lacks. -/
theorem complete_listOf_iff (firsts : AreFirsts GraphEntity.name entities kept) :
    (listOf kept).Complete entities ↔ ∀ entity ∈ entities, ∀ first,
      entities.find? (fun other => other.name = entity.name) = some first →
        entity.types ⊆ first.types := by
  rw [← firsts.forall_iff, NamesAndTypes.Complete, entries_listOf]
  constructor
  · intro complete first isKept
    exact complete first.name first.types (List.mem_map_of_mem isKept)
  · intro complete name types inside
    obtain ⟨first, isKept, same⟩ := List.mem_map.mp inside
    cases same
    exact complete first isKept

/-- The listings list every name once, with types that an entity of the name advertises. They have
all the types of each name if and only if no entity advertises one that the first entity of its
name does not. -/
theorem names_and_types_complete_iff (listing : Listing) (healthy : s.Healthy cfg admits)
    (bound : s.registry.Bound .node node slot) (decodes : access.Decodes s slot graph)
    (copies : ∀ entity ∈ graph.listed (listing.listed access.kinds), access.Copies entity) :
    ∃ list, listing.namesAndTypes access (some node) s = .ok (.ok, some list) ∧
      list.Lists (graph.listed (listing.listed access.kinds)) ∧
      (list.Complete (graph.listed (listing.listed access.kinds)) ↔
        ∀ entity ∈ graph.listed (listing.listed access.kinds), ∀ first,
          (graph.listed (listing.listed access.kinds)).find?
            (fun other => other.name = entity.name) = some first →
              entity.types ⊆ first.types) :=
  ⟨_, listing.namesAndTypes_eq healthy bound decodes copies, lists_listOf (areFirsts_firsts _),
    complete_listOf_iff (areFirsts_firsts _)⟩

namespace Small

/-- A publisher and a subscription of `t` with different types. -/
def retyped : Graph :=
  ⟨[⟨cstr "/", cstr "n", [⟨1, cstr "t", [cstr "T"]⟩, ⟨2, cstr "t", [cstr "U"]⟩]⟩]⟩

theorem retyped_plain : retyped.Plain := by
  simp [Graph.Plain, GraphNode.Plain, GraphEntity.Plain, PlainText, retyped, cstr]

theorem retyped_holds : ample.Holds retyped where
  nodes := rfl
  entities := fun _ _ _ => Bool.or_true _
  types := fun _ _ _ _ _ _ => Bool.or_true _
  texts := by decide

/-- The copies of short texts are complete. -/
theorem graphAccess_copies {entity : GraphEntity} (name : entity.name.length < 256)
    (types : ∀ type ∈ entity.types, type.length < 256) : graphAccess.Copies entity :=
  ⟨⟨name, fun _ => name⟩, types⟩

theorem retyped_copies :
    ∀ entity ∈ retyped.listed (Listing.topics.listed graphAccess.kinds),
      graphAccess.Copies entity := by
  have short : ∀ entity ∈ retyped.listed (Listing.topics.listed graphAccess.kinds),
      entity.name.length < 256 ∧ ∀ type ∈ entity.types, type.length < 256 := by decide
  exact fun entity inside => graphAccess_copies (short entity inside).1 (short entity inside).2

end Small

/-- The topics of the small graph. -/
theorem names_and_types_complete_iff_small : ∃ s,
    deliver Small.wideConfig 0 (snapshotOf wordBytes Small.retyped ⟨0, .datareader⟩ [])
      Small.wideNode.rmw = .ok s ∧
    ∃ list, Listing.topics.namesAndTypes Small.graphAccess (some 0) s = .ok (.ok, some list) ∧
      list.Lists (Small.retyped.listed Small.graphAccess.kinds.isTopic) ∧
      (list.Complete (Small.retyped.listed Small.graphAccess.kinds.isTopic) ↔
        ∀ entity ∈ Small.retyped.listed Small.graphAccess.kinds.isTopic, ∀ first,
          (Small.retyped.listed Small.graphAccess.kinds.isTopic).find?
            (fun other => other.name = entity.name) = some first →
              entity.types ⊆ first.types) := by
  obtain ⟨s, received, healthy, -, bound, decodes⟩ :=
    Small.seen Small.retyped_plain Small.retyped_holds (by decide +kernel)
  exact ⟨s, received,
    names_and_types_complete_iff .topics healthy bound decodes Small.retyped_copies⟩

/-- A subscription of `t` advertises `U`, and `t` is listed without it. -/
theorem later_type_is_not_listed : ∃ s,
    deliver Small.wideConfig 0 (snapshotOf wordBytes Small.retyped ⟨0, .datareader⟩ [])
      Small.wideNode.rmw = .ok s ∧
    Small.graphAccess.Decodes s 0 Small.retyped ∧
    rmwGetTopicNamesAndTypes Small.graphAccess (some 0) true (some {}) s =
      .ok (.ok, some ⟨[cstr "t"], [[cstr "T"]]⟩) ∧
    ⟨2, cstr "t", [cstr "U"]⟩ ∈ Small.retyped.listed Small.graphAccess.kinds.isTopic := by
  obtain ⟨s, received, healthy, -, bound, decodes⟩ :=
    Small.seen Small.retyped_plain Small.retyped_holds (by decide +kernel)
  refine ⟨s, received, decodes, ?_, by decide⟩
  exact Listing.topics.namesAndTypes_eq healthy bound decodes Small.retyped_copies

end RmwMicroxrcedds
