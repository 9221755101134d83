import RmwMicroxrcedds.Properties.GraphSnapshots

/-! # Node names

The names of the nodes are copied with the number of nodes as the bound of each copy, so what is
returned of a name depends on how many nodes there are.
-/

namespace RmwMicroxrcedds

open Cdr Outcome

variable {σ : Type} {cfg : Config} {admits : Admission} {s : Rmw} {access : GraphAccess σ}
variable {graph : Graph} {node slot : Nat}

/-- The node names of a graph are the bounded copies of its loop. -/
theorem nodeNames_eq (healthy : s.Healthy cfg admits) (bound : s.registry.Bound .node node slot)
    (decodes : access.Decodes s slot graph) :
    rmwGetNodeNames access (some node) (some []) (some []) s =
      .ok (.ok, some (copyNodeNames graph)) := by
  have zero : (checkZero (some ([] : List CString)) && checkZero (some ([] : List CString))) =
      true := rfl
  rw [rmwGetNodeNames, zero, queryGraph_eq healthy bound decodes]
  rfl

/-- A copy into a buffer that has room for at least one character is complete if and only if the
text is shorter than the bound. -/
theorem snprintfText_eq_iff_lt {size : Nat} {text : CString} (room : 0 < size) :
    snprintfText size text = text ↔ text.length < size := by
  rw [snprintfText_eq_iff, Within]
  omega

/-- The copies of one text of every node are complete if and only if each text is shorter than
the number of nodes. -/
theorem copies_eq_iff (nodes : List GraphNode) (text : GraphNode → CString) :
    (nodes.map fun node => snprintfText nodes.length (text node)) = nodes.map text ↔
      ∀ node ∈ nodes, (text node).length < nodes.length := by
  rw [List.map_inj_left]
  constructor
  · intro complete node inside
    have room : 0 < nodes.length := List.length_pos_of_mem inside
    exact (snprintfText_eq_iff_lt room).mp (complete node inside)
  · intro short node inside
    have room : 0 < nodes.length := List.length_pos_of_mem inside
    exact (snprintfText_eq_iff_lt room).mpr (short node inside)

/-- Two arrays with a string for every node are returned, and the strings are the complete names
and namespaces of the nodes if and only if each of these is shorter than the number of nodes. -/
theorem node_names_complete_iff (healthy : s.Healthy cfg admits)
    (bound : s.registry.Bound .node node slot) (decodes : access.Decodes s slot graph) :
    ∃ names namespaces : List CString,
      rmwGetNodeNames access (some node) (some []) (some []) s =
        .ok (.ok, some (names, namespaces)) ∧
      names.length = graph.nodes.length ∧ namespaces.length = graph.nodes.length ∧
      ((∀ i : Nat, names[i]? = graph.nodes[i]?.map GraphNode.nodeName ∧
          namespaces[i]? = graph.nodes[i]?.map GraphNode.nodeNamespace) ↔
        ∀ node ∈ graph.nodes, node.nodeName.length < graph.nodes.length ∧
          node.nodeNamespace.length < graph.nodes.length) := by
  refine ⟨_, _, nodeNames_eq healthy bound decodes, List.length_map _, List.length_map _, ?_⟩
  rw [forall_and, forall₂_and, ← copies_eq_iff graph.nodes GraphNode.nodeName,
    ← copies_eq_iff graph.nodes GraphNode.nodeNamespace, List.ext_getElem?_iff,
    List.ext_getElem?_iff]
  simp only [List.getElem?_map]

/-- The node names of the small graph. -/
theorem node_names_complete_iff_small : ∃ s,
    deliver Small.wideConfig 0 (snapshotOf wordBytes Small.untyped ⟨0, .datareader⟩ [])
      Small.wideNode.rmw = .ok s ∧
    ∃ names namespaces : List CString,
      rmwGetNodeNames Small.graphAccess (some 0) (some []) (some []) s =
        .ok (.ok, some (names, namespaces)) ∧
      names.length = Small.untyped.nodes.length ∧
      namespaces.length = Small.untyped.nodes.length ∧
      ((∀ i : Nat, names[i]? = Small.untyped.nodes[i]?.map GraphNode.nodeName ∧
          namespaces[i]? = Small.untyped.nodes[i]?.map GraphNode.nodeNamespace) ↔
        ∀ node ∈ Small.untyped.nodes, node.nodeName.length < Small.untyped.nodes.length ∧
          node.nodeNamespace.length < Small.untyped.nodes.length) := by
  obtain ⟨s, received, healthy, -, bound, decodes⟩ :=
    Small.seen Small.untyped_plain Small.untyped_holds (by decide +kernel)
  exact ⟨s, received, node_names_complete_iff healthy bound decodes⟩

/-- In a graph of one node, whose name is `n` and whose namespace is `/`, the strings returned are
empty. -/
theorem single_node_is_unnamed : ∃ s,
    deliver Small.wideConfig 0 (snapshotOf wordBytes Small.untyped ⟨0, .datareader⟩ [])
      Small.wideNode.rmw = .ok s ∧
    Small.graphAccess.Decodes s 0 Small.untyped ∧
    rmwGetNodeNames Small.graphAccess (some 0) (some []) (some []) s =
      .ok (.ok, some ([[]], [[]])) ∧
    Small.untyped.nodes.map GraphNode.nodeName = [cstr "n"] ∧
    Small.untyped.nodes.map GraphNode.nodeNamespace = [cstr "/"] := by
  obtain ⟨s, received, healthy, -, bound, decodes⟩ :=
    Small.seen Small.untyped_plain Small.untyped_holds (by decide +kernel)
  exact ⟨s, received, decodes, nodeNames_eq healthy bound decodes, rfl, rfl⟩

end RmwMicroxrcedds
