import RmwMicroxrcedds.Agent.Mirror

/-! # What the requests refer to

An object is created in another one, and a data writer or reader also with a topic. The requests
for one entity come in an order in which each refers to earlier ones, or to the participant of
the node.
-/

namespace RmwMicroxrcedds

open Journals Registry

variable {cfg : Config} {w w' : World} {s : Rmw} {pool : Pool} {entity : Entity} {topic : Topic}
variable {session node handle slot : Nat} {made written : List XrceRequest}
variable {names : Names} {participant object other : ObjectId} {request : XrceRequest}
variable {earlier : List (Entry ObjectId XrceRequest)}

/-- The requests an entity is made from come after those they refer to. -/
theorem Makes.ordered (makes : Makes cfg pool names participant topic entity made)
    (ordered : Ordered XrceRequest.references earlier)
    (held : (∀ node, entity ≠ .node node) → (replay earlier participant).isSome = true) :
    Ordered XrceRequest.references (journal made ++ earlier) := by
  have cons : ∀ {request object} {rest : List XrceRequest}, request.creates = some object →
      journal (request :: rest) = .put object request :: journal rest := fun creates =>
    List.filterMap_cons_some (XrceRequest.entry_of_creates creates)
  cases makes with
  | node node domain name namespace_ request named isRequest =>
      obtain ⟨creates, refers⟩ := creates_participantRequest isRequest
      rw [cons creates]
      refine ⟨fun other inside => ?_, ordered⟩
      rw [refers] at inside
      cases inside
  | topicEnd entity topicEnd topicName callbacks title request isEnd named typed titled stream
      isTitle isRequest =>
      obtain ⟨createsTitle, titleRefers⟩ := creates_topicRequest isTitle
      obtain ⟨createsParent, parentRefers⟩ :=
        creates_parentRequest isEnd cfg topicEnd.parentId participant
      obtain ⟨createsEnd, endRefers⟩ := creates_endRequest isEnd isRequest
      have isHeld := held fun node isNode => by
        subst isNode
        cases isEnd
      rw [cons createsEnd, cons createsParent, cons createsTitle]
      refine ⟨fun other inside => ?_, fun other inside => ?_, fun other inside => ?_, ordered⟩
      · rcases List.mem_pair.mp (endRefers other inside) with rfl | rfl
        · exact isSome_replay_put.mpr (Or.inl rfl)
        · exact isSome_replay_put.mpr (Or.inr (isSome_replay_put.mpr (Or.inl rfl)))
      · rw [parentRefers, List.mem_singleton] at inside
        exact inside ▸ isSome_replay_put.mpr (Or.inr isHeld)
      · rw [titleRefers, List.mem_singleton] at inside
        exact inside ▸ isHeld
  | endpoint endpoint kind serviceName members qos request named typed isKind stream isRequest =>
      obtain ⟨creates, refers⟩ := creates_endpointRequest isRequest
      rw [cons creates]
      refine ⟨fun other inside => ?_, ordered⟩
      rw [refers, List.mem_singleton] at inside
      exact inside ▸ held (by simp)

/-- So do those of the graph. -/
theorem ordered_openingRequests (cfg : Config) :
    Ordered XrceRequest.references (journal (openingRequests cfg)) := by
  unfold openingRequests
  split
  · simp [graphRequests, journal, XrceRequest.entry, XrceRequest.creates, Ordered,
      XrceRequest.references, isSome_replay_put, firstGraphObjects]
  · trivial

/-- The agent has the participant of the node of a live entity. -/
theorem Mirrored.holds_participant (mirrored : Mirrored cfg w)
    (opened : session ∈ w.opened) (bound : w.rmw.registry.Bound .node handle node)
    (sited : w.rmw.registry.sessionOf .node node = some session) :
    ((w.rmw.customSessions session).demand (w.rmw.customNodes node).participantId).isSome =
      true := by
  obtain ⟨made, makes, asked⟩ := mirrored.described session opened .node handle node bound sited
  unfold Rmw.MadeFrom at makes
  generalize isEntity : w.rmw.entity .node node = entity at makes
  cases makes with
  | node node' domain name namespace_ request named isRequest =>
      obtain ⟨object, creates, isDemand⟩ := asked request List.mem_cons_self
      have isNode : w.rmw.customNodes node = node' := Entity.node.inj isEntity
      rw [(creates_participantRequest isRequest).1] at creates
      cases creates
      rw [isNode, isDemand]
      rfl
  | topicEnd entity topicEnd topicName callbacks title request isEnd =>
      subst isEntity
      cases isEnd
  | endpoint => cases isEntity

/-- The agent has the objects of a live entity and of its topic. -/
theorem Mirrored.holds (mirrored : Mirrored cfg w) (sound : w.rmw.registry.Sound)
    (opened : session ∈ w.opened) (bound : w.rmw.registry.Bound pool handle slot)
    (sited : w.rmw.registry.sessionOf pool slot = some session)
    (inside : object ∈ w.rmw.registry.belongings pool slot) : ∃ made request,
      w.rmw.MadeFrom cfg pool handle slot made ∧ request ∈ made ∧
      (w.rmw.customSessions session).demand object = some request ∧
      ∀ request ∈ made, ∃ object, request.creates = some object ∧
        (w.rmw.customSessions session).demand object = some request := by
  obtain ⟨made, makes, asked⟩ := mirrored.described session opened pool handle slot bound sited
  obtain ⟨objects, creates, perm⟩ := Makes.perm makes (sound.titled bound)
  have named : some object ∈ made.map XrceRequest.creates := by
    rw [creates]
    exact List.mem_map_of_mem (perm.symm.subset inside)
  obtain ⟨request, within, isObject⟩ := List.mem_map.mp named
  obtain ⟨object', isObject', isDemand⟩ := asked request within
  cases isObject.symm.trans isObject'
  exact ⟨made, request, makes, within, isDemand, asked⟩

/-- Every request to create something came after those for what it refers to. -/
def InOrder (w : World) : Prop :=
  ∀ session ∈ w.opened,
    Ordered XrceRequest.references (journal (w.rmw.customSessions session).requests)

/-- One operation keeps the order of the requests. -/
theorem InOrder.step (inOrder : InOrder w) (mirrored : Mirrored cfg w)
    (sound : w.rmw.registry.Sound) (sound' : w'.rmw.registry.Sound)
    (contents : SameContents w.rmw w'.rmw)
    (each : ∀ session ∈ w'.opened, Starts cfg w' session ∨
      session ∈ w.opened ∧ ∃ written, Tells cfg w w' session written ∧
        TellsOnly cfg w w' session written) : InOrder w' := by
  intro session opened
  rcases each session opened with starts | ⟨before, written, tells, only⟩
  · rw [starts.requests]
    exact ordered_openingRequests cfg
  · rw [tells.requests, journal_append]
    rcases only with drops | ⟨pool, handle, slot, made, others, bound, sited, makes, isJournal⟩
    · exact (inOrder session before).append_drops drops
    · rw [isJournal]
      refine Makes.ordered makes (inOrder session before) fun notNode => ?_
      -- The node of a new entity was there before.
      have different : pool ≠ .node := by
        rintro rfl
        exact notNode _ rfl
      have leaf := sound'.isLeaf_of_bound bound different
      obtain ⟨node, nodeHandle, owner, nodeBound'⟩ := (sound'.placed bound).owned leaf
      have nodeBound := others .node nodeHandle node different.symm nodeBound'
      have sameNode := contents.entity_eq sound sound' nodeBound nodeBound'
      have sited' : w.rmw.registry.sessionOf .node node = some session := by
        rw [Registry.sessionOf, if_neg different, owner] at sited
        rw [Registry.sessionOf, if_pos rfl, ← sameNode]
        exact sited
      have isNode : w'.rmw.customNodes node = w.rmw.customNodes node := Entity.node.inj sameNode
      have isOwner : (w'.rmw.entity pool slot).ownerNode = some node := owner
      rw [Rmw.participantOf_of_owner node isOwner, isNode]
      exact mirrored.holds_participant before nodeBound sited'

end RmwMicroxrcedds
