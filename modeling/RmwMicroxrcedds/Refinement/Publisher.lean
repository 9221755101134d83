import RmwMicroxrcedds.Refinement.Destruction

/-! # Publishers refine the registry -/

namespace RmwMicroxrcedds

open Outcome Registry

variable {cfg : Config} {admits : Admission} {s : Rmw}
variable {handle slot node nodeHandle session topic : Nat}

/-- The profile reference of a data writer fits its buffer. -/
def datawriterFits (cfg : Config) (topicName : CString) : Bool :=
  !cfg.useRefs || (buildDatawriterProfile topicName cfg.entityNamingBufferLength).isSome

/-- The request for a data writer is made if and only if its parts fit. -/
theorem datawriterRequest_isSome (cfg : Config) (datawriterId publisherId topicId : ObjectId)
    (topicName : CString) (qos : QosProfile) :
    (datawriterRequest cfg datawriterId publisherId topicId topicName qos).isSome =
      datawriterFits cfg topicName := by
  unfold datawriterRequest datawriterFits
  split <;> simp_all

/-- How the creation goes on once the publisher has its slot. -/
def filledPublisherExit (cfg : Config) (call : PublisherCall)
    (typeSupport : TypeSupportHandle MessageTypeSupport) (topicName : CString) (s : Rmw) :
    CreateExit :=
  match typeSupport with
  | .undefined | .nullData => .leaked
  | .found _ =>
      if !createsTopic cfg topicName call.topic s then .topicless
      else if !call.publisher.succeeds cfg || !datawriterFits cfg topicName then .topicLeaked
      else if !call.datawriter.succeeds cfg then .doubleReleased
      else .created

/-- How `rmw_create_publisher` ends. -/
def publisherExit (cfg : Config) (call : PublisherCall) (s : Rmw) : CreateExit :=
  match call.node, call.typeSupport, call.topicName, call.qos with
  | some _, some typeSupport, some (first :: rest), some _ =>
      if !call.handleAllocated then .crashed
      else if !call.nameAllocated || (s.free .publisher).isEmpty then .refused
      else filledPublisherExit cfg call typeSupport (first :: rest) s
  | _, _, _, _ => .refused

/-- The messages that arrive during `rmw_create_publisher` may be stored. -/
structure PublisherCall.Acceptable (cfg : Config) (admits : Admission) (r : Registry)
    (session : Nat) (call : PublisherCall) : Prop where
  topic : call.topic.Acceptable cfg admits r session
  publisher : call.publisher.Acceptable cfg admits r session
  datawriter : call.datawriter.Acceptable cfg admits r session

/-- The data writer is created and the handle gets its slot, or the slot is released. -/
theorem createDatawriter_spec (healthy : s.Healthy cfg admits) {call : PublisherCall}
    {topicName : CString} {qos : QosProfile}
    (inside : slot ∈ s.registry.allocated .publisher)
    (null : s.registry.data .publisher handle = some none)
    (hasTopic : (s.customPublishers slot).topic = some topic)
    (publisherAcceptable : call.publisher.Acceptable cfg admits s.registry session)
    (datawriterAcceptable : call.datawriter.Acceptable cfg admits s.registry session)
    (single : call.publisher.succeeds cfg = true → datawriterFits cfg topicName = true →
      call.datawriter.succeeds cfg = true) :
    Yields (createDatawriter cfg call topicName qos handle slot node session s) fun result =>
      result.2.Healthy cfg admits ∧ Advance s result.2 ∧
        if call.publisher.succeeds cfg && datawriterFits cfg topicName then
          ∃ publisherId datawriterId, result.1 = some handle ∧
            publisherId.type = .publisher ∧ datawriterId.type = .datawriter ∧
            Issued s result.2 session publisherId ∧ Issued s result.2 session datawriterId ∧
            result.2.registry =
              (s.registry.fill .publisher slot (.publisher { s.customPublishers slot with
                publisherId := publisherId, datawriterId := datawriterId })).setData
                .publisher handle (some (some slot))
        else result.1 = none ∧
          (s.registry.dropEntity .publisher handle slot).Agrees result.2.registry := by
  simp only [createDatawriter]
  generalize isPublisherId : (s.uxrObjectId session .publisher).1 = publisherId
  have publisherIssued : Issued s (s.uxrObjectId session .publisher).2 session publisherId :=
    isPublisherId ▸ issued_uxrObjectId .publisher
  have publisherType : publisherId.type = .publisher := isPublisherId ▸ rfl
  generalize isNumbered : (s.uxrObjectId session .publisher).2.modifyPublisher slot
    (fun old => { old with publisherId := publisherId }) = numbered
  have numberedRegistry : numbered.registry = s.registry.fill .publisher slot
      (.publisher { s.customPublishers slot with publisherId := publisherId }) := by
    rw [← isNumbered, registry_modifyPublisher, registry_uxrObjectId]
    rfl
  have numberedHealthy : numbered.Healthy cfg admits := isNumbered ▸ healthy
  have numberedAdvance : Advance s numbered := isNumbered ▸ advance_uxrObjectId .publisher
  have numberedIssued : Issued s numbered session publisherId := isNumbered ▸ publisherIssued
  refine (requestExchange_spec numberedHealthy _ publisherAcceptable (by
    rw [numberedRegistry, inboxes_fill rfl])).bind ?_
  rintro ⟨confirmed, ran⟩ ⟨rfl, ranHealthy, sameRegistry, ranAdvance, -⟩
  have ranRegistry := sameRegistry.trans numberedRegistry
  have ranNull : ran.registry.data .publisher handle = some none := by
    rw [ranRegistry]
    exact null
  cases created : call.publisher.succeeds cfg with
  | false =>
      exact fail_of_released healthy ranHealthy (numberedAdvance.trans ranAdvance) ranRegistry
        (by decide) inside null
  | true =>
      rw [created] at single
      obtain ⟨contents, isBlock, isData, isRead, -⟩ := ranHealthy.block_of_data ranNull
      simp only [isRead, ok_bind, ↓reduceIte, Bool.true_and]
      generalize isBound : ran.storeHandle .publisher handle
        (some { contents with data := some slot }) = bound
      have boundHealthy : bound.Healthy cfg admits :=
        isBound ▸ ranHealthy.storeHandle_data isBlock _
      have boundRegistry : bound.registry =
          (s.registry.fill .publisher slot (.publisher { s.customPublishers slot with
            publisherId := publisherId })).setData .publisher handle (some (some slot)) := by
        rw [← isBound, registry_storeHandle, ranRegistry]
        rfl
      have boundAdvance : Advance s bound := by
        rw [← isBound]
        exact (numberedAdvance.trans ranAdvance).trans (.of_sessions rfl)
      generalize isDatawriterId : (bound.uxrObjectId session .datawriter).1 = datawriterId
      have datawriterIssued : Issued bound (bound.uxrObjectId session .datawriter).2 session
          datawriterId := isDatawriterId ▸ issued_uxrObjectId .datawriter
      have datawriterType : datawriterId.type = .datawriter := isDatawriterId ▸ rfl
      generalize isFilled : (bound.uxrObjectId session .datawriter).2.modifyPublisher slot
        (fun old => { old with datawriterId := datawriterId }) = filled
      have isPublisher : bound.customPublishers slot = { s.customPublishers slot with
          publisherId := publisherId } := by
        have same : bound.registry.entity .publisher slot =
          .publisher { s.customPublishers slot with
          publisherId := publisherId } := by rw [boundRegistry]; simp
        exact Entity.publisher.inj same
      have filledRegistry : filled.registry =
          (s.registry.fill .publisher slot (.publisher { s.customPublishers slot with
            publisherId := publisherId, datawriterId := datawriterId })).setData
            .publisher handle (some (some slot)) := by
        rw [← isFilled, registry_modifyPublisher, registry_uxrObjectId, boundRegistry]
        simp only [Rmw.uxrObjectId, Rmw.modifySession, isPublisher]
        exact congrArg (·.setData .publisher handle (some (some slot))) (fill_fill _ _ _ _ _)
      have filledHealthy : filled.Healthy cfg admits := isFilled ▸ boundHealthy
      have filledAdvance : Advance s filled :=
        boundAdvance.trans (isFilled ▸ advance_uxrObjectId .datawriter)
      have filledTopic : (filled.customPublishers slot).topic = some topic := by
        rw [← isFilled]
        simp [Rmw.modifyPublisher, Rmw.uxrObjectId, Rmw.modifySession, isPublisher, hasTopic]
      have publisherIssued' : Issued s bound session publisherId :=
        (numberedIssued.after ranAdvance).after (isBound ▸ .of_sessions rfl)
      have datawriterIssued' : Issued s filled session datawriterId := by
        refine Issued.before boundAdvance ?_
        rw [← isFilled]
        exact datawriterIssued
      simp only [filledTopic, deref, ok_bind]
      have isFit := datawriterRequest_isSome cfg datawriterId publisherId
        (filled.customTopics topic).topicId topicName qos
      have filledBound : filled.registry.Bound .publisher handle slot := by
        rw [filledRegistry]
        simp [Bound]
      have filledInside : slot ∈ filled.registry.allocated .publisher := by
        rw [filledRegistry]
        exact inside
      cases isRequest : datawriterRequest cfg datawriterId publisherId
          (filled.customTopics topic).topicId topicName qos with
      | none =>
          rw [isRequest] at isFit
          simp only [← isFit, Option.isSome_none, Bool.false_eq_true, ↓reduceIte]
          refine (fail_of_bound filledHealthy rfl filledBound filledInside).mono ?_
          rintro result ⟨resultHealthy, resultAdvance, isNull, agrees⟩
          refine ⟨resultHealthy, filledAdvance.trans resultAdvance, isNull, Agrees.trans ?_ agrees⟩
          rw [filledRegistry]
          have rebound :
            (((s.registry.fill .publisher slot (.publisher { s.customPublishers slot with
              publisherId := publisherId, datawriterId := datawriterId })).setData
              .publisher handle (some (some slot))).dropEntity .publisher handle slot) =
              (s.registry.dropEntity .publisher handle slot).fill .publisher slot
                (.publisher { s.customPublishers slot with
                  publisherId := publisherId, datawriterId := datawriterId }) := by
            rw [dropEntity, setData_setData]
            rfl
          rw [rebound]
          exact .fill_released healthy.nodup
      | some request =>
          rw [isRequest] at isFit
          have succeeds := single rfl isFit.symm
          simp only [← isFit, Option.isSome_some, ↓reduceIte]
          refine (requestExchange_spec filledHealthy _ datawriterAcceptable (by
            rw [filledRegistry, inboxes_setData, inboxes_fill rfl])).bind ?_
          rintro ⟨confirmed, last⟩ ⟨isConfirmed, lastHealthy, lastRegistry, lastAdvance, -⟩
          simp only at isConfirmed
          rw [isConfirmed, succeeds]
          refine yields_ok.mpr ⟨lastHealthy, filledAdvance.trans lastAdvance, publisherId,
            datawriterId, rfl, publisherType, datawriterType, ?_,
            datawriterIssued'.after lastAdvance,
            ?_⟩
          · have bound_filled : Advance bound filled := isFilled ▸ advance_uxrObjectId .datawriter
            exact (publisherIssued'.after bound_filled).after lastAdvance
          · exact lastRegistry.trans filledRegistry

/-- The part of `rmw_create_publisher` behind the opening. -/
theorem fillPublisher_spec {opened : Rmw} {call : PublisherCall}
    {typeSupport : TypeSupportHandle MessageTypeSupport} {topicName : CString} {qos : QosProfile}
    (healthy : opened.Healthy cfg admits) (advance : Advance s opened)
    (opening : Opening s.registry opened.registry .publisher handle slot
      (.publisher (opened.customPublishers slot)))
    (context : (opened.customNodes node).context = some session)
    (acceptable : call.Acceptable cfg admits s.registry session)
    (single : filledPublisherExit cfg call typeSupport topicName opened ≠ .doubleReleased) :
    Yields (fillPublisher cfg call typeSupport topicName qos handle slot (some node) opened)
      fun result => result.2.Healthy cfg admits ∧ Advance s result.2 ∧
        Creation s result.2 true .publisher node session result.1
          (filledPublisherExit cfg call typeSupport topicName opened) := by
  simp only [fillPublisher, deref, ok_bind, context]
  generalize isPublisher : ({ opened.customPublishers slot with
    rmwHandle := some handle
    ownerNode := some node
    qos := qos
    streamId := if qos.reliability = .bestEffort then .bestEffortOutput
      else .reliableOutput } : Publisher) = publisher
  have isHandle : publisher.rmwHandle = some handle := isPublisher ▸ rfl
  have isOwner : publisher.ownerNode = some node := isPublisher ▸ rfl
  generalize isFilled : opened.modifyPublisher slot (fun old =>
    { old with
      rmwHandle := some handle
      ownerNode := some node
      qos := qos
      streamId := if qos.reliability = .bestEffort then .bestEffortOutput
        else .reliableOutput }) = filled
  have filledHealthy : filled.Healthy cfg admits := isFilled ▸ healthy
  have filledAdvance : Advance s filled := isFilled ▸ advance
  have filledPublisher : filled.customPublishers slot = publisher := by
    rw [← isFilled, ← isPublisher]
    simp [Rmw.modifyPublisher]
  have filledOpening : Opening s.registry filled.registry .publisher handle slot
      (.publisher publisher) := by
    rw [← isFilled, registry_modifyPublisher, isPublisher]
    exact opening.fill
  have filledContext : (filled.customNodes node).context = some session := isFilled ▸ context
  have filledTopics : createsTopic cfg topicName call.topic filled =
      createsTopic cfg topicName call.topic opened := isFilled ▸ rfl
  cases typeSupport with
  | undefined => exact fail_of_opening filledHealthy filledAdvance filledOpening
  | nullData =>
      have nullOpening : Opening s.registry (filled.modifyPublisher slot fun old =>
          { old with typeSupportCallbacks := none }).registry .publisher handle slot
          (.publisher { publisher with typeSupportCallbacks := none }) := by
        rw [registry_modifyPublisher, filledPublisher]
        exact filledOpening.fill
      exact fail_of_opening ((healthy_modifyPublisher _).mpr filledHealthy)
        filledAdvance nullOpening
  | found callbacks =>
      simp only
      generalize isTyped : filled.modifyPublisher slot (fun old =>
        { old with typeSupportCallbacks := some callbacks }) = typed
      have typedHealthy : typed.Healthy cfg admits := isTyped ▸ filledHealthy
      have typedAdvance : Advance s typed := isTyped ▸ filledAdvance
      have typedPublisher : typed.customPublishers slot = { publisher with
          typeSupportCallbacks := some callbacks } := by
        rw [← isTyped]
        simp [Rmw.modifyPublisher, filledPublisher]
      have typedOpening : Opening s.registry typed.registry .publisher handle slot
          (.publisher { publisher with typeSupportCallbacks := some callbacks }) := by
        rw [← isTyped, registry_modifyPublisher, filledPublisher]
        exact filledOpening.fill
      have typedTopics : createsTopic cfg topicName call.topic typed =
          createsTopic cfg topicName call.topic opened := filledTopics ▸ isTyped ▸ rfl
      refine (createTopic_spec typedHealthy (isTyped ▸ filledContext)
        (acceptable.topic.congr (typedOpening.inboxes rfl))).bind ?_
      rintro ⟨result, withTopic⟩ ⟨topicHealthy, topicAdvance, -, topicPost⟩
      simp only [typedTopics] at topicPost
      cases hasTopic : createsTopic cfg topicName call.topic opened with
      | false =>
          simp only [hasTopic, Bool.false_eq_true, ↓reduceIte] at topicPost
          obtain ⟨rfl, agrees⟩ := topicPost
          simp only [filledPublisherExit, hasTopic, Option.isSome_none, Bool.false_eq_true,
            ↓reduceIte, Bool.not_false]
          have nullOpening : Opening s.registry (withTopic.modifyPublisher slot fun old =>
              { old with topic := none }).registry .publisher handle slot
              (.publisher { withTopic.customPublishers slot with topic := none }) := by
            rw [registry_modifyPublisher]
            exact (typedOpening.trans agrees).fill
          exact fail_of_topicless ((healthy_modifyPublisher _).mpr topicHealthy)
            (typedAdvance.trans topicAdvance) nullOpening rfl
      | true =>
          simp only [hasTopic, ↓reduceIte] at topicPost
          obtain ⟨topic, topicEntity, topicFree, rfl, topicOwner, topicType, topicIssued,
            topicRegistry⟩ := topicPost
          simp only [Option.isSome_some, ↓reduceIte]
          generalize isOwned : withTopic.modifyPublisher slot (fun old =>
            { old with topic := some topic }) = owned
          have withPublisher : withTopic.customPublishers slot = { publisher with
              typeSupportCallbacks := some callbacks } := by
            have same : withTopic.registry.entity .publisher slot =
                typed.registry.entity .publisher slot := by
              rw [topicRegistry, take_entity, fill_entity_apply, if_neg (by simp)]
            exact (Entity.publisher.inj same).trans typedPublisher
          have ownedPublisher : owned.customPublishers slot = { publisher with
              typeSupportCallbacks := some callbacks, topic := some topic } := by
            rw [← isOwned]
            simp [Rmw.modifyPublisher, withPublisher]
          have titled : Titled s owned .publisher node session handle slot topic topicEntity
              (.publisher { publisher with
                typeSupportCallbacks := some callbacks, topic := some topic }) := by
            refine .of_opening typedOpening typedAdvance (by decide) topicFree topicOwner topicType
              (topicAdvance.trans (.of_sessions (isOwned ▸ rfl)))
              (topicIssued.after (.of_sessions (isOwned ▸ rfl))) ?_
            rw [← isOwned, registry_modifyPublisher, withPublisher, topicRegistry]
            rfl
          have ownedInboxes : owned.registry.inboxes = s.registry.inboxes := by
            rw [titled.opening.inboxes rfl, inboxes_addSlot rfl]
          have single' : call.publisher.succeeds cfg = true → datawriterFits cfg topicName = true →
              call.datawriter.succeeds cfg = true := by
            intro created fits
            simpa [filledPublisherExit, hasTopic, created, fits] using single
          refine (createDatawriter_spec (isOwned ▸ topicHealthy : owned.Healthy cfg admits)
            titled.opening.inside titled.opening.null (by rw [ownedPublisher])
            (acceptable.publisher.congr ownedInboxes) (acceptable.datawriter.congr ownedInboxes)
            single').mono ?_
          rintro ⟨result, last⟩ ⟨lastHealthy, lastAdvance, post⟩
          refine ⟨lastHealthy, titled.advance.trans lastAdvance, ?_⟩
          cases isCreated : call.publisher.succeeds cfg && datawriterFits cfg topicName with
          | false =>
              simp only [isCreated, Bool.false_eq_true, ↓reduceIte] at post
              have failed : (!call.publisher.succeeds cfg || !datawriterFits cfg topicName) =
                  true := by
                rw [← Bool.not_and, isCreated]
                rfl
              simp only [filledPublisherExit, hasTopic, failed, Bool.not_true, Bool.false_eq_true,
                ↓reduceIte]
              exact titled.topicLeaked post.1 post.2
          | true =>
              simp only [isCreated, ↓reduceIte] at post
              obtain ⟨publisherId, datawriterId, rfl, publisherType, datawriterType,
                publisherIssued, datawriterIssued, lastRegistry⟩ := post
              rw [Bool.and_eq_true] at isCreated
              simp only [filledPublisherExit, hasTopic, isCreated, single' isCreated.1 isCreated.2,
                Bool.not_true, Bool.or_self, Bool.false_eq_true, ↓reduceIte]
              rw [ownedPublisher] at lastRegistry
              refine titled.created lastRegistry rfl lastAdvance isHandle isOwner rfl rfl ?_ ?_ rfl
              · simp [Entity.objects, publisherType, datawriterType, Pool.objectTypes]
              · intro object inside
                simp only [Entity.objects, List.mem_cons, List.not_mem_nil, or_false] at inside
                rcases inside with rfl | rfl
                · exact publisherIssued
                · exact datawriterIssued

/-- `rmw_create_publisher` from a healthy state, on a live node or none: it never faults,
and ends the way its exit says. -/
theorem rmwCreatePublisher_spec (healthy : s.Healthy cfg admits) {call : PublisherCall}
    (live : ∀ nodeHandle, call.node = some nodeHandle → s.registry.Bound .node nodeHandle node)
    (context : (s.customNodes node).context = some session)
    (acceptable : call.Acceptable cfg admits s.registry session)
    (single : publisherExit cfg call s ≠ .doubleReleased)
    (allocates : publisherExit cfg call s ≠ .crashed) :
    Yields (rmwCreatePublisher cfg call s) fun result =>
      result.2.Healthy cfg admits ∧ Advance s result.2 ∧
        Creation s result.2 true .publisher node session result.1 (publisherExit cfg call s) := by
  have nothing : ∀ {exit : CreateExit}, exit = .refused →
      Yields (.ok (none, s) : Exec (Option Nat × Rmw)) fun result =>
        result.2.Healthy cfg admits ∧ Advance s result.2 ∧
          Creation s result.2 true .publisher node session result.1 exit := by
    rintro _ rfl
    exact yields_ok.mpr ⟨healthy, .refl s, rfl, .refl _⟩
  obtain ⟨callNode, typeSupport, topicName, qos, handleAllocated, nameAllocated, topic, publisher,
    datawriter⟩ := call
  cases callNode with
  | none => exact nothing rfl
  | some nodeHandle =>
      obtain ⟨contents, -, isData, isRead, named⟩ := healthy.block_of_data (live _ rfl)
      cases typeSupport with
      | none => exact nothing rfl
      | some typeSupport =>
          simp only [rmwCreatePublisher, isRead, ok_bind, named, ↓reduceIte]
          rcases topicName with _ | _ | ⟨first, rest⟩
          · exact nothing rfl
          · exact nothing rfl
          cases qos with
          | none => exact nothing rfl
          | some qos =>
              cases handleAllocated with
              | false => exact absurd rfl allocates
              | true =>
                  cases nameAllocated with
                  | false => exact fail_of_allocated healthy (by decide) rfl rfl
                  | true =>
                      simp only [↓reduceIte]
                      generalize isContents : ({
                        implementationIdentifier := some eprosimaMicroxrceddsIdentifier
                        name := some (first :: rest) } : RmwHandle) = handleContents
                      have named : isUxrceRmwIdentifierValid
                          handleContents.implementationIdentifier = true := isContents ▸ rfl
                      have null : handleContents.data = none := isContents ▸ rfl
                      cases isFree : s.free .publisher with
                      | nil =>
                          have handleHealthy : (s.allocateHandle .publisher
                              handleContents).2.Healthy cfg admits :=
                            healthy.allocateHandle named (by simp)
                          rw [handleHealthy.getMemory_of_free_nil isFree]
                          have exit : publisherExit cfg ⟨some nodeHandle, some typeSupport,
                              some (first :: rest), some qos, true, true, topic, publisher,
                              datawriter⟩ s = .refused := by simp [publisherExit, isFree]
                          rw [exit]
                          exact fail_of_allocated healthy (by decide) named null
                      | cons slot others =>
                          obtain ⟨mem, taken, openedHealthy, opening⟩ :=
                            healthy.opens rfl isFree named null
                          rw [taken]
                          simp only [openedHealthy.dataOf_registry opening.inside, ok_bind, isData]
                          have exit : publisherExit cfg ⟨some nodeHandle, some typeSupport,
                              some (first :: rest), some qos, true, true, topic, publisher,
                              datawriter⟩ s =
                              filledPublisherExit cfg ⟨some nodeHandle, some typeSupport,
                                some (first :: rest), some qos, true, true, topic, publisher,
                                datawriter⟩ typeSupport (first :: rest) s := by
                            simp [publisherExit, isFree]
                          rw [exit] at single ⊢
                          exact fillPublisher_spec openedHealthy (.of_sessions rfl) opening context
                            acceptable single

/-- `rmw_destroy_publisher` on a live handle, whatever the agent does: the handle, its slot
and its topic are given back, and nothing else. -/
theorem rmwDestroyPublisher_spec (healthy : s.Healthy cfg admits) (sound : s.registry.Sound)
    {teardown : EntityTeardown} (nodeBound : s.registry.Bound .node nodeHandle node)
    (bound : s.registry.Bound .publisher handle slot)
    (acceptable : ∀ owner session, (s.customPublishers slot).ownerNode = some owner →
      (s.customNodes owner).context = some session →
      teardown.Acceptable cfg admits s.registry session) :
    Yields (rmwDestroyPublisher cfg (some nodeHandle) (some handle) teardown s) fun result =>
      result.1 = teardown.report cfg ∧ result.2.Healthy cfg admits ∧ Advance s result.2 ∧
        ∃ topic, (s.customPublishers slot).topic = some topic ∧
          ((s.registry.dropEntity .publisher handle slot).release .topic topic).Agrees
            result.2.registry := by
  have placed := sound.placed bound
  obtain ⟨owner, ownerHandle, isOwner, ownerBound⟩ := placed.owned rfl
  obtain ⟨topic, isTopic, topicInside, topicOwner⟩ := placed.topic rfl
  obtain ⟨session, context, -⟩ := (sound.placed ownerBound).sited rfl
  have isOwner' : (s.customPublishers slot).ownerNode = some owner := isOwner
  have isTopic' : (s.customPublishers slot).topic = some topic := isTopic
  have tail := teardownTail_spec healthy (s.customPublishers slot).datawriterId
    (s.customPublishers slot).publisherId rfl bound placed.allocated topicInside
    (topicOwner.trans isOwner) (sound.placed ownerBound).allocated context
    (acceptable owner session isOwner context)
  simp only [rmwDestroyPublisher, checkDestroyed_of_bound healthy nodeBound bound, ok_bind,
    isTopic', isOwner', deref]
  exact tail.mono fun result post => ⟨post.1, post.2.1, post.2.2.1, topic, rfl, post.2.2.2⟩

end RmwMicroxrcedds
