import RmwMicroxrcedds.Refinement.Creation

/-! # Services and clients refine the registry -/

namespace RmwMicroxrcedds

open Outcome Registry

variable {cfg : Config} {admits : Admission} {s opened : Rmw} {kind : EndpointKind}
variable {handle slot node nodeHandle session : Nat} {rest : List Nat}

theorem EndpointKind.isLeaf : kind.pool.isLeaf = true := by cases kind <;> rfl

theorem EndpointKind.hasHandle : kind.pool.hasHandle = true := by cases kind <;> rfl

theorem EndpointKind.hasTopic : kind.pool.hasTopic = false := by cases kind <;> rfl

theorem EndpointKind.ne_node : kind.pool ≠ .node := by cases kind <;> simp [EndpointKind.pool]

/-- What the slot of a service or a client holds. -/
theorem Rmw.entity_endpoint : s.entity kind.pool slot = .endpoint (s.customEndpoint kind slot) := by
  cases kind <;> rfl

@[simp] theorem Rmw.customEndpoint_modifyEndpoint (change : Endpoint → Endpoint) :
    (s.modifyEndpoint kind slot change).customEndpoint kind slot =
      change (s.customEndpoint kind slot) := by
  cases kind <;> simp [Rmw.modifyEndpoint, Rmw.customEndpoint]

/-- Changing a service or a client writes to no session. -/
theorem Rmw.modifyEndpoint_sessions (change : Endpoint → Endpoint) :
    (s.modifyEndpoint kind slot change).customSessions = s.customSessions := by
  cases kind <;> rfl

/-- Nor does it touch a node. -/
theorem Rmw.modifyEndpoint_nodes (change : Endpoint → Endpoint) :
    (s.modifyEndpoint kind slot change).customNodes = s.customNodes := by
  cases kind <;> rfl

/-- The document that creates the endpoint can be built. -/
def endpointFits (cfg : Config) (kind : EndpointKind) (objectId : ObjectId)
    (serviceName : CString) (members : ServiceTypeSupport) (qos : QosProfile) : Bool :=
  !cfg.useRefs || (buildServiceXml cfg (generateName objectId 20).1 serviceName kind.requester
    members qos cfg.entityNamingBufferLength).2 != 0

/-- The request is made if and only if its parts fit. -/
theorem endpointRequest_isSome (cfg : Config) (kind : EndpointKind)
    (objectId participantId : ObjectId) (serviceName : CString)
    (members : ServiceTypeSupport) (qos : QosProfile) :
    (endpointRequest cfg kind objectId participantId serviceName members qos).isSome =
      endpointFits cfg kind objectId serviceName members qos := by
  unfold endpointRequest endpointFits
  split
  · rename_i refs
    by_cases zero : (buildServiceXml cfg (generateName objectId 20).1 serviceName kind.requester
      members qos cfg.entityNamingBufferLength).2 = 0 <;> simp [refs, zero]
  · rename_i binary
    simp [binary]

/-- How the creation goes on once the endpoint has its slot. -/
def filledEndpointExit (cfg : Config) (kind : EndpointKind) (call : EndpointCall)
    (typeSupport : TypeSupportHandle ServiceTypeSupport) (serviceName : CString)
    (qos : QosProfile) (session : Nat) (s : Rmw) : CreateExit :=
  match typeSupport with
  | .undefined | .nullData => .leaked
  | .found members =>
      if !endpointFits cfg kind
          ⟨(s.customSessions session).nextId kind.objectType, kind.objectType⟩ serviceName members
          qos then .leaked
      else if !call.creation.succeeds cfg then .doubleReleased
      else .created

/-- How `rmw_create_service` and `rmw_create_client` end, on a node of the session. -/
def endpointExit (cfg : Config) (kind : EndpointKind) (call : EndpointCall) (session : Nat)
    (s : Rmw) : CreateExit :=
  match call.node, call.typeSupport, call.serviceName, call.qos with
  | some _, some typeSupport, some (first :: rest), some qos =>
      if !call.handleAllocated then .crashed
      else if !call.nameAllocated || (s.free kind.pool).isEmpty then .refused
      else filledEndpointExit cfg kind call typeSupport (first :: rest) qos session s
  | _, _, _, _ => .refused

/-- The number an endpoint under construction carries: the one of the slot's previous
owner. -/
def endpointRouting (s : Rmw) (kind : EndpointKind) (slot : Nat) (entity : Entity) : Prop :=
  entity.dataRequest = some (s.customEndpoint kind slot).dataRequest

/-- The messages that arrive during the creation of an endpoint may be stored, whatever
number the slot being filled carries. -/
def EndpointCall.Acceptable (cfg : Config) (admits : Admission) (s : Rmw) (kind : EndpointKind)
    (session : Nat) (call : EndpointCall) : Prop :=
  ∀ r, Filling s kind.pool (endpointRouting s kind) r →
    call.creation.Acceptable cfg admits r session

/-- The request id of `uxr_buffer_*` is invalid or the latest of the session. -/
theorem requested_uxrBuffer (s : Rmw) (session : Nat) (request : XrceRequest) (room : Bool) :
    room = false ∧ (s.uxrBuffer session request room).1 = 0 ∨
      (s.customSessions session).lastRequestId < (s.uxrBuffer session request room).1 ∧
        (s.uxrBuffer session request room).1 ≤
          ((s.uxrBuffer session request room).2.customSessions session).lastRequestId := by
  cases room with
  | false => exact Or.inl ⟨rfl, rfl⟩
  | true =>
      right
      simp [Rmw.uxrBuffer, Rmw.modifySession]

/-- The endpoint is created on the agent and its handle gets the slot, or the slot is left
allocated because the document could not be built. -/
theorem createEndpointOnAgent_spec (healthy : s.Healthy cfg admits) {call : EndpointCall}
    {members : ServiceTypeSupport} {serviceName : CString} {qos : QosProfile}
    (inside : slot ∈ s.registry.allocated kind.pool)
    (null : s.registry.data kind.pool handle = some none)
    (acceptable : ∀ entity : Endpoint,
      entity.dataRequest = (s.customEndpoint kind slot).dataRequest →
      call.creation.Acceptable cfg admits
        (s.registry.fill kind.pool slot (.endpoint entity)) session)
    (single : endpointFits cfg kind
        ⟨(s.customSessions session).nextId kind.objectType, kind.objectType⟩ serviceName members
        qos = true → call.creation.succeeds cfg = true) :
    Yields (createEndpointOnAgent cfg kind call members serviceName qos handle slot node session s)
      fun result => result.2.Healthy cfg admits ∧ Advance s result.2 ∧
        if endpointFits cfg kind
            ⟨(s.customSessions session).nextId kind.objectType, kind.objectType⟩ serviceName members
            qos then
          ∃ entity : Endpoint, result.1 = some handle ∧
            entity.rmwHandle = (s.customEndpoint kind slot).rmwHandle ∧
            entity.ownerNode = (s.customEndpoint kind slot).ownerNode ∧
            entity.typeSupportCallbacks = (s.customEndpoint kind slot).typeSupportCallbacks ∧
            entity.objectId.type = kind.objectType ∧ Issued s result.2 session entity.objectId ∧
            (call.dataRequestRoom = false ∧ entity.dataRequest = 0 ∨
              (s.customSessions session).lastRequestId < entity.dataRequest ∧
                entity.dataRequest ≤ (result.2.customSessions session).lastRequestId) ∧
            result.2.registry = (s.registry.fill kind.pool slot (.endpoint entity)).setData
              kind.pool handle (some (some slot))
        else result.1 = none ∧ ∃ entity, result.2.registry =
          (s.registry.fill kind.pool slot entity).setData kind.pool handle none := by
  simp only [createEndpointOnAgent]
  generalize isObjectId : (s.uxrObjectId session kind.objectType).1 = objectId
  have isNext : objectId =
      ⟨(s.customSessions session).nextId kind.objectType, kind.objectType⟩ := isObjectId ▸ rfl
  have objectType : objectId.type = kind.objectType := by rw [isNext]
  have objectIssued : Issued s (s.uxrObjectId session kind.objectType).2 session objectId :=
    isObjectId ▸ issued_uxrObjectId kind.objectType
  generalize isNumbered : (s.uxrObjectId session kind.objectType).2.modifyEndpoint kind slot
    (fun old => { old with objectId := objectId }) = numbered
  have sameEndpoint : (s.uxrObjectId session kind.objectType).2.customEndpoint kind slot =
      s.customEndpoint kind slot := by cases kind <;> rfl
  have numberedRegistry : numbered.registry = s.registry.fill kind.pool slot
      (.endpoint { s.customEndpoint kind slot with objectId := objectId }) := by
    rw [← isNumbered, registry_modifyEndpoint, registry_uxrObjectId, sameEndpoint]
  have numberedHealthy : numbered.Healthy cfg admits := by
    rw [← isNumbered, healthy_modifyEndpoint]
    exact healthy
  have numberedSessions : numbered.customSessions =
      (s.uxrObjectId session kind.objectType).2.customSessions := by
    rw [← isNumbered, Rmw.modifyEndpoint_sessions]
  have numberedAdvance : Advance s numbered :=
    (advance_uxrObjectId kind.objectType).trans (.of_sessions numberedSessions)
  have numberedIssued : Issued s numbered session objectId :=
    objectIssued.after (.of_sessions numberedSessions)
  have numberedNull : numbered.registry.data kind.pool handle = some none := by
    rw [numberedRegistry]
    exact null
  have isFit := endpointRequest_isSome cfg kind objectId
    (numbered.customNodes node).participantId serviceName members qos
  rw [← isNext]
  cases isRequest : endpointRequest cfg kind objectId (numbered.customNodes node).participantId
      serviceName members qos with
  | none =>
      rw [isRequest] at isFit
      simp only [← isFit, Option.isSome_none, Bool.false_eq_true, ↓reduceIte]
      refine (fail_of_null numberedHealthy numberedNull).mono ?_
      rintro result ⟨resultHealthy, resultAdvance, isNull, resultRegistry⟩
      exact ⟨resultHealthy, numberedAdvance.trans resultAdvance, isNull, _,
        numberedRegistry ▸ resultRegistry⟩
  | some request =>
      rw [isRequest] at isFit
      rw [← isNext] at single
      have succeeds := single isFit.symm
      simp only [← isFit, Option.isSome_some, ↓reduceIte]
      generalize isSent : (numbered.uxrBuffer session request call.creation.room).2 = sent
      have sentRegistry : sent.registry = s.registry.fill kind.pool slot
          (.endpoint { s.customEndpoint kind slot with objectId := objectId }) := by
        rw [← isSent, registry_uxrBuffer, numberedRegistry]
      have sentHealthy : sent.Healthy cfg admits :=
        isSent ▸ (healthy_uxrBuffer _ _).mpr numberedHealthy
      have sentAdvance : Advance numbered sent := isSent ▸ advance_uxrBuffer _ _
      obtain ⟨contents, isBlock, isData, isRead, -⟩ :=
        sentHealthy.block_of_data (by rw [sentRegistry]; exact null)
      simp only [isRead, ok_bind]
      generalize isBound : sent.storeHandle kind.pool handle
        (some { contents with data := some slot }) = bound
      have boundHealthy : bound.Healthy cfg admits :=
        isBound ▸ sentHealthy.storeHandle_data isBlock _
      have boundRegistry : bound.registry = (s.registry.fill kind.pool slot
          (.endpoint { s.customEndpoint kind slot with objectId := objectId })).setData kind.pool
            handle (some (some slot)) := by
        rw [← isBound, registry_storeHandle, sentRegistry]
        rfl
      have boundAdvance : Advance sent bound := .of_sessions (isBound ▸ rfl)
      have isAcceptable : call.creation.Acceptable cfg admits (s.registry.fill kind.pool slot
          (.endpoint { s.customEndpoint kind slot with objectId := objectId })) session :=
        acceptable _ rfl
      refine (runXrceSession_spec boundHealthy (isAcceptable.congr (by
        rw [boundRegistry, inboxes_setData]))).bind ?_
      rintro ⟨confirmed, ran⟩ ⟨isConfirmed, ranHealthy, undisturbed⟩
      simp only at isConfirmed
      rw [isConfirmed, succeeds]
      simp only [↓reduceIte]
      have ranRegistry : ran.registry = bound.registry := undisturbed.registry
      have ranEndpoint : ran.customEndpoint kind slot =
          { s.customEndpoint kind slot with objectId := objectId } := by
        have same : ran.registry.entity kind.pool slot =
            .endpoint { s.customEndpoint kind slot with objectId := objectId } := by
          rw [ranRegistry, boundRegistry]
          simp
        exact Entity.endpoint.inj (Rmw.entity_endpoint.symm.trans same)
      have ranAdvance : Advance s ran := ((numberedAdvance.trans sentAdvance).trans
        boundAdvance).trans (.of_sessions undisturbed.sessions)
      generalize isStreamed : ran.modifyEndpoint kind slot (fun old =>
        { old with
          streamId := if qos.reliability = .bestEffort then .bestEffortOutput
            else .reliableOutput }) = streamed
      have streamedHealthy : streamed.Healthy cfg admits := by
        rw [← isStreamed, healthy_modifyEndpoint]
        exact ranHealthy
      have streamedAdvance : Advance s streamed := ranAdvance.trans
        (.of_sessions (by rw [← isStreamed, Rmw.modifyEndpoint_sessions]))
      have requested := requested_uxrBuffer streamed session
        (.requestData objectId (dataRequestStreamId qos)) call.dataRequestRoom
      generalize isRequested : streamed.uxrBuffer session
        (.requestData objectId (dataRequestStreamId qos)) call.dataRequestRoom = asked at requested
      have askedHealthy : asked.2.Healthy cfg admits :=
        isRequested ▸ (healthy_uxrBuffer _ _).mpr streamedHealthy
      have askedAdvance : Advance s asked.2 :=
        streamedAdvance.trans (isRequested ▸ advance_uxrBuffer _ _)
      have askedEndpoint : asked.2.customEndpoint kind slot =
        streamed.customEndpoint kind slot := by
        rw [← isRequested]
        cases call.dataRequestRoom <;> cases kind <;> rfl
      have askedRegistry : asked.2.registry = streamed.registry := by
        rw [← isRequested, registry_uxrBuffer]
      have lastSessions : (asked.2.modifyEndpoint kind slot fun old =>
          { old with dataRequest := asked.1 }).customSessions = asked.2.customSessions :=
        Rmw.modifyEndpoint_sessions _
      refine yields_ok.mpr ⟨(healthy_modifyEndpoint _ kind).mpr askedHealthy,
        askedAdvance.trans (.of_sessions lastSessions), { s.customEndpoint kind slot with
          objectId := objectId
          streamId := if qos.reliability = .bestEffort then .bestEffortOutput
            else .reliableOutput
          dataRequest := asked.1 }, rfl, rfl, rfl, rfl, objectType, ?_, ?_, ?_⟩
      · have later : Advance numbered asked.2 := by
          refine (sentAdvance.trans boundAdvance).trans
            (((Advance.of_sessions undisturbed.sessions).trans (.of_sessions ?_)).trans
              (isRequested ▸ advance_uxrBuffer _ _))
          rw [← isStreamed, Rmw.modifyEndpoint_sessions]
        exact (numberedIssued.after later).after (.of_sessions lastSessions)
      · simp only [lastSessions]
        exact requested.imp_right fun bounds =>
          ⟨Nat.lt_of_le_of_lt (streamedAdvance.lastRequestId session) bounds.1, bounds.2⟩
      · rw [registry_modifyEndpoint, askedEndpoint, askedRegistry, ← isStreamed,
          registry_modifyEndpoint, Rmw.customEndpoint_modifyEndpoint, ranEndpoint, ranRegistry,
          boundRegistry, fill_fill]
        exact congrArg (·.setData kind.pool handle (some (some slot))) (fill_fill _ _ _ _ _)

/-- The part of `rmw_create_service` and `rmw_create_client` behind the opening. -/
theorem fillEndpoint_spec {call : EndpointCall}
    {typeSupport : TypeSupportHandle ServiceTypeSupport} {serviceName : CString} {qos : QosProfile}
    (healthy : opened.Healthy cfg admits) (first : s.free kind.pool = slot :: rest)
    (sessions : opened.customSessions = s.customSessions)
    (old : opened.customEndpoint kind slot = s.customEndpoint kind slot)
    (opening : Opening s.registry opened.registry kind.pool handle slot
      (.endpoint (s.customEndpoint kind slot)))
    (context : (opened.customNodes node).context = some session)
    (acceptable : call.Acceptable cfg admits s kind session)
    (single : filledEndpointExit cfg kind call typeSupport serviceName qos session s ≠
      .doubleReleased) :
    Yields (fillEndpoint cfg kind call typeSupport serviceName qos handle slot (some node) opened)
      fun result => result.2.Healthy cfg admits ∧ Advance s result.2 ∧
        Creation s result.2 call.dataRequestRoom kind.pool node session result.1
          (filledEndpointExit cfg kind call typeSupport serviceName qos session s) := by
  simp only [fillEndpoint]
  generalize isEndpoint : ({ s.customEndpoint kind slot with
    rmwHandle := some handle, ownerNode := some node } : Endpoint) = endpoint
  have isHandle : endpoint.rmwHandle = some handle := isEndpoint ▸ rfl
  have isOwner : endpoint.ownerNode = some node := isEndpoint ▸ rfl
  have isRouting : endpoint.dataRequest = (s.customEndpoint kind slot).dataRequest :=
    isEndpoint ▸ rfl
  generalize isFilled : opened.modifyEndpoint kind slot (fun old =>
    { old with rmwHandle := some handle, ownerNode := some node }) = filled
  have filledHealthy : filled.Healthy cfg admits := by
    rw [← isFilled, healthy_modifyEndpoint]
    exact healthy
  have filledSessions : filled.customSessions = s.customSessions := by
    rw [← isFilled, Rmw.modifyEndpoint_sessions, sessions]
  have filledEndpoint : filled.customEndpoint kind slot = endpoint := by
    rw [← isFilled, Rmw.customEndpoint_modifyEndpoint, old, isEndpoint]
  have filledOpening : Opening s.registry filled.registry kind.pool handle slot
      (.endpoint endpoint) := by
    rw [← isFilled, registry_modifyEndpoint, old, isEndpoint]
    exact opening.fill
  have filledContext : (filled.customNodes node).context = some session := by
    rw [← isFilled, Rmw.modifyEndpoint_nodes]
    exact context
  cases typeSupport with
  | undefined => exact fail_of_opening filledHealthy (.of_sessions filledSessions) filledOpening
  | nullData =>
      have nullOpening : Opening s.registry (filled.modifyEndpoint kind slot fun old =>
          { old with typeSupportCallbacks := none }).registry kind.pool handle slot
          (.endpoint { endpoint with typeSupportCallbacks := none }) := by
        rw [registry_modifyEndpoint, filledEndpoint]
        exact filledOpening.fill
      exact fail_of_opening ((healthy_modifyEndpoint _ kind).mpr filledHealthy)
        (.of_sessions ((Rmw.modifyEndpoint_sessions _).trans filledSessions)) nullOpening
  | found members =>
      simp only [deref, ok_bind, Rmw.modifyEndpoint_nodes, filledContext]
      generalize isTyped : filled.modifyEndpoint kind slot (fun old =>
        { old with typeSupportCallbacks := some members }) = typed
      have typedHealthy : typed.Healthy cfg admits := by
        rw [← isTyped, healthy_modifyEndpoint]
        exact filledHealthy
      have typedSessions : typed.customSessions = s.customSessions := by
        rw [← isTyped, Rmw.modifyEndpoint_sessions, filledSessions]
      have typedEndpoint : typed.customEndpoint kind slot = { endpoint with
          typeSupportCallbacks := some members } := by
        rw [← isTyped, Rmw.customEndpoint_modifyEndpoint, filledEndpoint]
      have typedOpening : Opening s.registry typed.registry kind.pool handle slot
          (.endpoint { endpoint with typeSupportCallbacks := some members }) := by
        rw [← isTyped, registry_modifyEndpoint, filledEndpoint]
        exact filledOpening.fill
      have typedAcceptable : ∀ entity : Endpoint,
          entity.dataRequest = (typed.customEndpoint kind slot).dataRequest →
          call.creation.Acceptable cfg admits
            (typed.registry.fill kind.pool slot (.endpoint entity)) session := by
        intro entity routing
        refine acceptable _ ⟨handle, slot, rest, s.registry, .endpoint entity, first, rfl,
          typedOpening.fill, ?_⟩
        rw [typedEndpoint] at routing
        exact congrArg some (routing.trans isRouting)
      have isFit : endpointFits cfg kind
          ⟨(typed.customSessions session).nextId kind.objectType, kind.objectType⟩ serviceName
          members qos = endpointFits cfg kind
          ⟨(s.customSessions session).nextId kind.objectType, kind.objectType⟩ serviceName members
          qos := by rw [typedSessions]
      refine (createEndpointOnAgent_spec typedHealthy typedOpening.inside typedOpening.null
        typedAcceptable ?_).mono ?_
      · rw [isFit]
        intro fits
        simpa [filledEndpointExit, fits] using single
      rintro ⟨result, last⟩ ⟨lastHealthy, lastAdvance, post⟩
      have advance : Advance s last := (Advance.of_sessions typedSessions).trans lastAdvance
      refine ⟨lastHealthy, advance, ?_⟩
      rw [isFit] at post
      cases fits : endpointFits cfg kind
          ⟨(s.customSessions session).nextId kind.objectType, kind.objectType⟩ serviceName members
          qos with
      | false =>
          simp only [fits, Bool.false_eq_true, ↓reduceIte] at post
          simp only [filledEndpointExit, fits, Bool.not_false, ↓reduceIte]
          obtain ⟨isNull, entity, lastRegistry⟩ := post
          refine ⟨isNull, slot, entity, opening.free, ?_⟩
          rw [lastRegistry]
          exact typedOpening.fill.abandoned
      | true =>
          have succeeds : call.creation.succeeds cfg = true := by
            simpa [filledEndpointExit, fits] using single
          simp only [fits, ↓reduceIte] at post
          simp only [filledEndpointExit, fits, succeeds, Bool.not_true, Bool.false_eq_true,
            ↓reduceIte]
          obtain ⟨entity, rfl, sameHandle, sameOwner, sameTyped, objectType, issued, requested,
            lastRegistry⟩ := post
          rw [typedEndpoint] at sameHandle sameOwner sameTyped
          refine ⟨handle, slot, .endpoint entity, rfl, ⟨opening.free, opening.fresh,
            sameHandle.trans isHandle, sameOwner.trans isOwner, ?_, ?_, ?_, ?_⟩, ?_⟩
          · simp [Entity.typed, sameTyped]
          · cases kind <;> simp [Entity.objects, objectType, Pool.objectTypes, EndpointKind.pool,
              EndpointKind.objectType]
          · intro object inside
            simp only [Entity.objects, List.mem_cons, List.not_mem_nil, or_false] at inside
            rw [inside]
            exact issued.before (.of_sessions typedSessions)
          · intro number isNumber
            obtain rfl : entity.dataRequest = number := Option.some.inj isNumber
            rw [typedSessions] at requested
            exact requested
          · rw [EndpointKind.hasTopic, lastRegistry]
            exact typedOpening.fill.completed

/-- `rmw_create_service` and `rmw_create_client` from a healthy state, on a live node or
none: they never fault, and end the way their exit says. -/
theorem createEndpoint_spec (healthy : s.Healthy cfg admits) {call : EndpointCall}
    (live : ∀ nodeHandle, call.node = some nodeHandle → s.registry.Bound .node nodeHandle node)
    (context : (s.customNodes node).context = some session)
    (acceptable : call.Acceptable cfg admits s kind session)
    (single : endpointExit cfg kind call session s ≠ .doubleReleased)
    (allocates : endpointExit cfg kind call session s ≠ .crashed) :
    Yields (createEndpoint cfg kind call s) fun result =>
      result.2.Healthy cfg admits ∧ Advance s result.2 ∧
        Creation s result.2 call.dataRequestRoom kind.pool node session result.1
          (endpointExit cfg kind call session s) := by
  have nothing : ∀ {exit : CreateExit}, exit = .refused →
      Yields (.ok (none, s) : Exec (Option Nat × Rmw)) fun result =>
        result.2.Healthy cfg admits ∧ Advance s result.2 ∧
          Creation s result.2 call.dataRequestRoom kind.pool node session result.1 exit := by
    rintro _ rfl
    exact yields_ok.mpr ⟨healthy, .refl s, rfl, .refl _⟩
  obtain ⟨callNode, typeSupport, serviceName, qos, handleAllocated, nameAllocated, creation,
    dataRequestRoom⟩ := call
  cases callNode with
  | none => exact nothing rfl
  | some nodeHandle =>
      obtain ⟨contents, -, isData, isRead, named⟩ := healthy.block_of_data (live _ rfl)
      cases typeSupport with
      | none => exact nothing rfl
      | some typeSupport =>
          simp only [createEndpoint, isRead, ok_bind, named, ↓reduceIte]
          rcases serviceName with _ | _ | ⟨first, rest⟩
          · exact nothing rfl
          · exact nothing rfl
          cases qos with
          | none => exact nothing rfl
          | some qos =>
              cases handleAllocated with
              | false => exact absurd rfl allocates
              | true =>
                  cases nameAllocated with
                  | false => exact fail_of_allocated healthy EndpointKind.ne_node rfl rfl
                  | true =>
                      simp only [↓reduceIte]
                      generalize isContents : ({
                        implementationIdentifier := some eprosimaMicroxrceddsIdentifier
                        name := some (first :: rest) } : RmwHandle) = handleContents
                      have named : isUxrceRmwIdentifierValid
                          handleContents.implementationIdentifier = true := isContents ▸ rfl
                      have null : handleContents.data = none := isContents ▸ rfl
                      cases isFree : s.free kind.pool with
                      | nil =>
                          have handleHealthy : (s.allocateHandle kind.pool
                              handleContents).2.Healthy cfg admits :=
                            healthy.allocateHandle named fun isNode =>
                              absurd isNode EndpointKind.ne_node
                          rw [handleHealthy.getMemory_of_free_nil isFree]
                          have exit : endpointExit cfg kind ⟨some nodeHandle, some typeSupport,
                              some (first :: rest), some qos, true, true, creation,
                              dataRequestRoom⟩ session s = .refused := by
                            simp [endpointExit, isFree]
                          rw [exit]
                          exact fail_of_allocated healthy EndpointKind.ne_node named null
                      | cons slot others =>
                          obtain ⟨mem, taken, openedHealthy, opening⟩ :=
                            healthy.opens EndpointKind.isLeaf isFree named null
                          rw [taken]
                          simp only [openedHealthy.dataOf_registry opening.inside, ok_bind, isData]
                          have exit : endpointExit cfg kind ⟨some nodeHandle, some typeSupport,
                              some (first :: rest), some qos, true, true, creation,
                              dataRequestRoom⟩ session s =
                              filledEndpointExit cfg kind ⟨some nodeHandle, some typeSupport,
                                some (first :: rest), some qos, true, true, creation,
                                dataRequestRoom⟩ typeSupport (first :: rest) qos session s := by
                            simp [endpointExit, isFree]
                          rw [exit] at single ⊢
                          refine fillEndpoint_spec openedHealthy isFree rfl ?_ ?_ context acceptable
                            single
                          · cases kind <;> rfl
                          · rw [← Rmw.entity_endpoint]
                            exact opening

/-- `rmw_destroy_service` and `rmw_destroy_client` on a live handle, whatever the agent
does: the handle and its slot are given back, and nothing else. -/
theorem destroyEndpoint_spec (healthy : s.Healthy cfg admits) (sound : s.registry.Sound)
    {exchange : Exchange} (nodeBound : s.registry.Bound .node nodeHandle node)
    (bound : s.registry.Bound kind.pool handle slot)
    (acceptable : ∀ session, (s.customNodes node).context = some session →
      exchange.Acceptable cfg admits s.registry session) :
    Yields (destroyEndpoint cfg kind (some nodeHandle) (some handle) exchange s) fun result =>
      result.1 = reportOf (exchange.succeeds cfg) ∧ result.2.Healthy cfg admits ∧
      Advance s result.2 ∧
        (s.registry.dropEntity kind.pool handle slot).Agrees result.2.registry := by
  obtain ⟨session, context, -⟩ := (sound.placed nodeBound).sited rfl
  have isContext : (s.customNodes node).context = some session := context
  simp only [destroyEndpoint, checkDestroyed_of_bound healthy nodeBound bound, ok_bind, isContext,
    deref]
  refine (requestExchange_spec healthy _ (acceptable session context) rfl).bind ?_
  rintro ⟨confirmed, ran⟩ ⟨isConfirmed, ranHealthy, ranRegistry, ranAdvance, -⟩
  refine (finiMemory_of_bound ranHealthy EndpointKind.hasHandle (ranRegistry ▸ bound)
    (ranRegistry ▸ (sound.placed bound).allocated)).bind ?_
  rintro last ⟨lastHealthy, sessions, agrees⟩
  rw [ranRegistry] at agrees
  exact yields_ok.mpr ⟨congrArg reportOf isConfirmed, lastHealthy,
    ranAdvance.trans (.of_sessions sessions), agrees⟩

end RmwMicroxrcedds
