import RmwMicroxrcedds.Model.Node
import RmwMicroxrcedds.Refinement.Endpoint
import RmwMicroxrcedds.Refinement.Publisher
import RmwMicroxrcedds.Refinement.Subscription

/-! # Nodes refine the registry

The creation of a node, and the clean-up of its slot and handle.
-/

namespace RmwMicroxrcedds

open Outcome Registry

variable {cfg : Config} {admits : Admission} {s : Rmw}
variable {handle slot context session : Nat}

/-- The clean-up of a node frees its handle and releases its slot. -/
theorem rmwUxrceFiniNodeMemory_spec (healthy : s.Healthy cfg admits)
    (bound : s.registry.Bound .node handle slot) (inside : slot ∈ s.registry.allocated .node) :
    Yields (rmwUxrceFiniNodeMemory handle s) fun s' =>
      s'.Healthy cfg admits ∧ s'.customSessions = s.customSessions ∧
        (s.registry.dropEntity .node handle slot).Agrees s'.registry := by
  obtain ⟨contents, isBlock, isData, isRead, named⟩ := healthy.block_of_data bound
  obtain ⟨namespace_, written⟩ := Option.ne_none_iff_exists'.mp (healthy.spaced _ _ isBlock)
  simp only [rmwUxrceFiniNodeMemory, isRead, ok_bind, named, ↓reduceIte, written, isData]
  generalize isCleared : s.modifyNode slot (fun old =>
    { old with rmwHandle := none, context := none }) = cleared
  have clearedRegistry : ∃ entity, cleared.registry = s.registry.fill .node slot entity := by
    rw [← isCleared, registry_modifyNode]
    exact ⟨_, rfl⟩
  obtain ⟨entity, clearedRegistry⟩ := clearedRegistry
  have clearedHealthy : cleared.Healthy cfg admits := isCleared ▸ healthy
  have held : slot ∈ cleared.registry.allocated .node := by
    rw [clearedRegistry]
    exact inside
  obtain ⟨putHealthy, putRegistry⟩ := clearedHealthy.putMemory (by decide) held
  refine yields_ok.mpr ⟨putHealthy.storeHandle_none, isCleared ▸ rfl, ?_⟩
  rw [registry_storeHandle, putRegistry, clearedRegistry]
  exact .fill_released healthy.nodup

/-- How `rmw_create_node` ends. -/
def nodeExit (cfg : Config) (call : NodeCall) (s : Rmw) : CreateExit :=
  match call.name, call.namespace_ with
  | some (_ :: _), some (_ :: _) =>
      if call.context.isNone then .crashed
      else if (s.free .node).isEmpty then .refused
      else if !call.handleAllocated then .leaked
      else if !call.nameAllocated then .crashed
      else if !call.namespaceAllocated then .refused
      else if cfg.useRefs && (buildParticipantProfile cfg.entityNamingBufferLength).isNone then
        .unreturned
      else if !call.exchange.succeeds cfg then .refused
      else .created
  | _, _ => .refused

/-- What is true of a node that a call filled in for good. -/
structure NewNode (s s' : Rmw) (session handle slot : Nat) (entity : Node) : Prop where
  free : slot ∉ s.registry.allocated .node
  fresh : s.registry.data .node handle = none
  handle : entity.rmwHandle = some handle
  context : entity.context = some session
  type : entity.participantId.type = .participant
  issued : Issued s s' session entity.participantId

/-- What a creation of a node that ends in the given way leaves behind. -/
def NodeCreation (s s' : Rmw) (session : Nat) (result : Option Nat) : CreateExit → Prop
  | .refused => result = none ∧ s.registry.Agrees s'.registry
  | .leaked => result = none ∧ ∃ slot entity, slot ∉ s.registry.allocated .node ∧
      (s.registry.addSlot .node slot entity).Agrees s'.registry
  | .unreturned => result = none ∧ ∃ handle slot entity,
      NewNode s s' session handle slot entity ∧
      (s.registry.addEntity .node handle slot (.node entity)).Agrees s'.registry
  | .created => ∃ handle slot entity, result = some handle ∧
      NewNode s s' session handle slot entity ∧
      (s.registry.addEntity .node handle slot (.node entity)).Agrees s'.registry
  | .topicless | .topicLeaked | .bothLeaked | .doubleReleased | .crashed => False

/-- The request for a participant is made unless its profile does not fit. -/
theorem participantRequest_isSome (cfg : Config) (participantId : ObjectId) (domain : Nat)
    (name namespace_ : CString) :
    (participantRequest cfg participantId domain name namespace_).isSome =
      !(cfg.useRefs && (buildParticipantProfile cfg.entityNamingBufferLength).isNone) := by
  unfold participantRequest
  split
  · rename_i refs
    cases buildParticipantProfile cfg.entityNamingBufferLength <;> simp [refs]
  · rename_i binary
    simp [binary]

/-- How `create_node` goes on once the node has its slot, its handle and its names. -/
def participantExit (cfg : Config) (call : NodeCall) : CreateExit :=
  if cfg.useRefs && (buildParticipantProfile cfg.entityNamingBufferLength).isNone then
    .unreturned
  else if !call.exchange.succeeds cfg then .refused
  else .created

/-- `create_participant`, and the end of `create_node` behind it. -/
theorem createParticipant_spec {opened : Rmw} {call : NodeCall} {domain : Nat}
    {name namespace_ : CString} {entity : Node}
    (healthy : opened.Healthy cfg admits) (advance : Advance s opened)
    (free : slot ∉ s.registry.allocated .node) (fresh : s.registry.data .node handle = none)
    (isHandle : entity.rmwHandle = some handle) (isContext : entity.context = some session)
    (registry : opened.registry = s.registry.addEntity .node handle slot (.node entity))
    (acceptable : call.exchange.Acceptable cfg admits s.registry session) :
    Yields (createParticipant cfg call domain name namespace_ handle slot opened) fun result =>
      result.2.Healthy cfg admits ∧ Advance s result.2 ∧
        NodeCreation s result.2 session result.1 (participantExit cfg call) := by
  have isNode : opened.customNodes slot = entity := by
    have same : opened.registry.entity .node slot = .node entity := by
      rw [registry]
      simp [addEntity, addSlot]
    exact Entity.node.inj same
  simp only [createParticipant, isNode, isContext, deref, ok_bind]
  generalize isParticipantId : (opened.uxrObjectId session .participant).1 = participantId
  have isType : participantId.type = .participant := isParticipantId ▸ rfl
  have issued : Issued opened (opened.uxrObjectId session .participant).2 session participantId :=
    isParticipantId ▸ issued_uxrObjectId .participant
  generalize isNumbered : (opened.uxrObjectId session .participant).2.modifyNode slot
    (fun old => { old with participantId := participantId }) = numbered
  have numberedRegistry : numbered.registry = s.registry.addEntity .node handle slot
      (.node { entity with participantId := participantId }) := by
    rw [← isNumbered, registry_modifyNode, registry_uxrObjectId, registry, addEntity_fill, ← isNode]
    rfl
  have numberedHealthy : numbered.Healthy cfg admits := isNumbered ▸ healthy
  have numberedAdvance : Advance opened numbered := isNumbered ▸ advance_uxrObjectId .participant
  have numberedIssued : Issued opened numbered session participantId := isNumbered ▸ issued
  have isFit := participantRequest_isSome cfg participantId domain name namespace_
  cases isRequest : participantRequest cfg participantId domain name namespace_ with
  | none =>
      rw [isRequest] at isFit
      have misfit : (cfg.useRefs &&
          (buildParticipantProfile cfg.entityNamingBufferLength).isNone) = true := by
        simpa using isFit.symm
      simp only [participantExit, misfit, ↓reduceIte]
      exact yields_ok.mpr ⟨numberedHealthy, advance.trans numberedAdvance, rfl, handle, slot,
        { entity with participantId := participantId },
        ⟨free, fresh, isHandle, isContext, isType, numberedIssued.before advance⟩,
        .of_eq numberedRegistry⟩
  | some request =>
      rw [isRequest] at isFit
      have fits : (cfg.useRefs &&
          (buildParticipantProfile cfg.entityNamingBufferLength).isNone) = false :=
        (Bool.not_eq_true' _).mp isFit.symm
      simp only [participantExit, fits, Bool.false_eq_true, ↓reduceIte]
      refine (requestExchange_spec numberedHealthy _ acceptable (by
        rw [numberedRegistry, addEntity, inboxes_setData, inboxes_addSlot rfl])).bind ?_
      rintro ⟨confirmed, ran⟩ ⟨rfl, ranHealthy, sameRegistry, ranAdvance, -⟩
      have ranRegistry := sameRegistry.trans numberedRegistry
      cases created : call.exchange.succeeds cfg with
      | true =>
          simp only [↓reduceIte, Bool.not_true, Bool.false_eq_true]
          exact yields_ok.mpr ⟨ranHealthy, (advance.trans numberedAdvance).trans ranAdvance, handle,
            slot, { entity with participantId := participantId }, rfl,
            ⟨free, fresh, isHandle, isContext, isType,
              (numberedIssued.before advance).after ranAdvance⟩, .of_eq ranRegistry⟩
      | false =>
          simp only [Bool.false_eq_true, ↓reduceIte, Bool.not_false]
          have ranBound : ran.registry.Bound .node handle slot := by
            rw [ranRegistry]
            simp [Registry.Bound, addEntity]
          have ranInside : slot ∈ ran.registry.allocated .node := by
            rw [ranRegistry]
            simp [addEntity, addSlot]
          refine (rmwUxrceFiniNodeMemory_spec ranHealthy ranBound ranInside).bind ?_
          rintro last ⟨lastHealthy, sessions, agrees⟩
          rw [ranRegistry] at agrees
          exact yields_ok.mpr ⟨lastHealthy, ((advance.trans numberedAdvance).trans ranAdvance).trans
            (.of_sessions sessions), rfl, (agrees_addEntity_dropEntity free fresh).trans agrees⟩

/-- Without a context `rmw_create_node` is refused, unless it gets as far as reading it. -/
theorem rmwCreateNode_of_no_context {call : NodeCall} (isContext : call.context = none)
    (allocates : nodeExit cfg call s ≠ .crashed) :
    rmwCreateNode cfg call s = .ok (none, s) := by
  obtain ⟨callContext, name, namespace_, _, _, _, _⟩ := call
  obtain rfl : callContext = none := isContext
  rcases name with _ | _ | ⟨_, _⟩ <;> rcases namespace_ with _ | _ | ⟨_, _⟩ <;>
    first | rfl | exact absurd rfl allocates

/-- `rmw_create_node` from a healthy state, on a context with a session: it ends the way
its exit says. -/
theorem rmwCreateNode_spec (healthy : s.Healthy cfg admits) {call : NodeCall}
    (initialised : ∀ context, call.context = some context →
      (s.contexts context).impl = some session)
    (acceptable : call.exchange.Acceptable cfg admits s.registry session)
    (allocates : nodeExit cfg call s ≠ .crashed) :
    Yields (rmwCreateNode cfg call s) fun result =>
      result.2.Healthy cfg admits ∧ Advance s result.2 ∧
        NodeCreation s result.2 session result.1 (nodeExit cfg call s) := by
  have nothing : ∀ {exit : CreateExit}, exit = .refused →
      Yields (.ok (none, s) : Exec (Option Nat × Rmw)) fun result =>
        result.2.Healthy cfg admits ∧ Advance s result.2 ∧
          NodeCreation s result.2 session result.1 exit := by
    rintro _ rfl
    exact yields_ok.mpr ⟨healthy, .refl s, rfl, .refl _⟩
  obtain ⟨callContext, name, namespace_, handleAllocated, nameAllocated, namespaceAllocated,
    exchange⟩ := call
  rcases name with _ | _ | ⟨first, rest⟩
  · exact nothing rfl
  · exact nothing rfl
  rcases namespace_ with _ | _ | ⟨first', rest'⟩
  · exact nothing rfl
  · exact nothing rfl
  cases callContext with
  | none => exact absurd rfl allocates
  | some context =>
      have isImpl := initialised context rfl
      simp only [rmwCreateNode, deref, ok_bind, createNode]
      cases isFree : s.free .node with
      | nil =>
          have none := healthy.getMemory_of_free_nil isFree
          rw [none]
          exact nothing (by simp [nodeExit, isFree])
      | cons slot others =>
          obtain ⟨mem, taken, takenHealthy, takenRegistry⟩ :=
            healthy.getMemory_of_free_cons (by decide) isFree
          have free := healthy.not_mem_of_free (by decide) isFree
          have inside : slot ∈ (s.withMemory .node mem).registry.allocated .node := by
            simp [takenRegistry]
          rw [taken]
          simp only [takenHealthy.dataOf_registry inside, ok_bind]
          generalize isSited : (s.withMemory .node mem).modifyNode slot (fun old =>
            { old with context := ((s.withMemory .node mem).contexts context).impl }) = sited
          have sitedHealthy : sited.Healthy cfg admits := isSited ▸ takenHealthy
          have sitedRegistry : sited.registry = s.registry.addSlot .node slot
              (.node { s.customNodes slot with context := some session }) := by
            rw [← isSited, registry_modifyNode, takenRegistry]
            have same : ((s.withMemory .node mem).contexts context).impl = some session := isImpl
            rw [same]
            rfl
          have sitedNode : sited.customNodes slot =
              { s.customNodes slot with context := some session } := by
            have same : sited.registry.entity .node slot =
                .node { s.customNodes slot with context := some session } := by
              rw [sitedRegistry]
              simp [addSlot]
            exact Entity.node.inj same
          cases handleAllocated with
          | false =>
              have exit : nodeExit cfg ⟨some context, some (first :: rest),
                  some (first' :: rest'), false, nameAllocated, namespaceAllocated, exchange⟩ s =
                  .leaked := by simp [nodeExit, isFree]
              rw [exit]
              exact yields_ok.mpr ⟨sitedHealthy, .of_sessions (isSited ▸ rfl), rfl, slot, _, free,
                .of_eq sitedRegistry⟩
          | true =>
              cases nameAllocated with
              | false => exact absurd (by simp [nodeExit, isFree]) allocates
              | true =>
                  simp only [↓reduceIte, Bool.true_and]
                  generalize isContents : ({
                    implementationIdentifier := some eprosimaMicroxrceddsIdentifier
                    data := some slot
                    name := some (first :: rest)
                    namespace_ := some (if namespaceAllocated = true then some (first' :: rest')
                      else none) } : RmwHandle) = contents
                  have isNext : (sited.handles .node).next = (s.handles .node).next := by
                    rw [← isSited]
                    rfl
                  have fresh : s.registry.data .node (s.handles .node).next = none :=
                    healthy.next_free
                  generalize isOpened : (sited.allocateHandle .node contents).2.modifyNode slot
                    (fun old => { old with
                      rmwHandle := some (sited.allocateHandle .node contents).1 }) = opened
                  have isBlock : (sited.allocateHandle .node contents).1 =
                      (s.handles .node).next := isNext
                  have openedHealthy : opened.Healthy cfg admits := by
                    rw [← isOpened]
                    exact sitedHealthy.allocateHandle (isContents ▸ rfl)
                      fun _ => by simp [← isContents]
                  have openedRegistry : opened.registry = s.registry.addEntity .node
                      (s.handles .node).next slot (.node { s.customNodes slot with
                        context := some session, rmwHandle := some (s.handles .node).next }) := by
                    have data : contents.data = some slot := isContents ▸ rfl
                    have same : (sited.allocateHandle .node contents).2.customNodes slot =
                        { s.customNodes slot with context := some session } := sitedNode
                    rw [← isOpened, registry_modifyNode, registry_allocateHandle, sitedRegistry,
                      same, isBlock, isNext, data]
                    exact addEntity_fill
                  have openedAdvance : Advance s opened := by
                    rw [← isOpened, ← isSited]
                    exact .of_sessions rfl
                  rw [isBlock]
                  cases namespaceAllocated with
                  | true =>
                      have exit : nodeExit cfg ⟨some context, some (first :: rest),
                          some (first' :: rest'), true, true, true, exchange⟩ s =
                          participantExit cfg ⟨some context, some (first :: rest),
                            some (first' :: rest'), true, true, true, exchange⟩ := by
                        simp [nodeExit, isFree, participantExit]
                      rw [exit]
                      exact createParticipant_spec openedHealthy openedAdvance free fresh rfl rfl
                        openedRegistry acceptable
                  | false =>
                      have exit : nodeExit cfg ⟨some context, some (first :: rest),
                          some (first' :: rest'), true, true, false, exchange⟩ s = .refused := by
                        simp [nodeExit, isFree]
                      rw [exit]
                      have openedBound :
                          opened.registry.Bound .node (s.handles .node).next slot := by
                        rw [openedRegistry]
                        simp [Registry.Bound, addEntity]
                      have openedInside : slot ∈ opened.registry.allocated .node := by
                        rw [openedRegistry]
                        simp [addEntity, addSlot]
                      refine (rmwUxrceFiniNodeMemory_spec openedHealthy openedBound
                        openedInside).bind ?_
                      rintro last ⟨lastHealthy, sessions, agrees⟩
                      rw [openedRegistry] at agrees
                      exact yields_ok.mpr ⟨lastHealthy, openedAdvance.trans (.of_sessions sessions),
                        rfl, (agrees_addEntity_dropEntity free fresh).trans agrees⟩

end RmwMicroxrcedds
