import RmwMicroxrcedds.Refinement.Destruction
import RmwMicroxrcedds.Model.Subscription

/-! # Subscriptions refine the registry -/

namespace RmwMicroxrcedds

open Outcome Registry

variable {cfg : Config} {admits : Admission} {s opened : Rmw}
variable {handle slot node nodeHandle session topic : Nat} {rest : List Nat}

/-- The profile reference of a data reader fits its buffer. -/
def datareaderFits (cfg : Config) (topicName : CString) : Bool :=
  !cfg.useRefs || (buildDatareaderProfile topicName cfg.entityNamingBufferLength).isSome

/-- The request for a data reader is made if and only if its parts fit. -/
theorem datareaderRequest_isSome (cfg : Config) (datareaderId subscriberId topicId : ObjectId)
    (topicName : CString) (qos : QosProfile) :
    (datareaderRequest cfg datareaderId subscriberId topicId topicName qos).isSome =
      datareaderFits cfg topicName := by
  unfold datareaderRequest datareaderFits
  split <;> simp_all

/-- How the creation goes on once the subscription has its slot. -/
def filledSubscriptionExit (cfg : Config) (call : SubscriptionCall)
    (typeSupport : TypeSupportHandle MessageTypeSupport) (topicName : CString) (s : Rmw) :
    CreateExit :=
  match typeSupport with
  | .undefined | .nullData => .leaked
  | .found _ =>
      if !createsTopic cfg topicName call.topic s then .topicless
      else if !call.subscriber.succeeds cfg then .topicLeaked
      else if !datareaderFits cfg topicName then .bothLeaked
      else if !call.datareader.succeeds cfg then .topicLeaked
      else .created

/-- How `rmw_create_subscription` ends. -/
def subscriptionExit (cfg : Config) (call : SubscriptionCall) (s : Rmw) : CreateExit :=
  match call.node, call.typeSupport, call.topicName, call.qos with
  | some _, some typeSupport, some (first :: rest), some _ =>
      if !call.handleAllocated then .crashed
      else if !call.nameAllocated || (s.free .subscription).isEmpty then .refused
      else filledSubscriptionExit cfg call typeSupport (first :: rest) s
  | _, _, _, _ => .refused

/-- The numbers a subscription under construction carries: those of the slot's previous
owner, until it gets its own. -/
def subscriptionRouting (s : Rmw) (session slot : Nat) : Entity → Prop
  | .subscription entity =>
      entity.datareaderId = (s.customSubscriptions slot).datareaderId ∨
        entity.datareaderId = ⟨(s.customSessions session).nextId .datareader, .datareader⟩
  | _ => False

/-- The messages that arrive during `rmw_create_subscription` may be stored, whatever
number the slot being filled carries. -/
def SubscriptionCall.Acceptable (cfg : Config) (admits : Admission) (s : Rmw) (session : Nat)
    (call : SubscriptionCall) : Prop :=
  ∀ r, Filling s .subscription (subscriptionRouting s session) r →
    call.topic.Acceptable cfg admits r session ∧ call.subscriber.Acceptable cfg admits r session ∧
      call.datareader.Acceptable cfg admits r session

/-- The data reader is created and the handle gets its slot, or the slot is released; only
when the profile reference does not fit, it is left allocated. -/
theorem createDatareader_spec (healthy : s.Healthy cfg admits) {call : SubscriptionCall}
    {topicName : CString} {qos : QosProfile}
    (inside : slot ∈ s.registry.allocated .subscription)
    (null : s.registry.data .subscription handle = some none)
    (hasTopic : (s.customSubscriptions slot).topic = some topic)
    (acceptable : ∀ entity : Subscription,
      entity.datareaderId = (s.customSubscriptions slot).datareaderId ∨
        entity.datareaderId = ⟨(s.customSessions session).nextId .datareader, .datareader⟩ →
      call.subscriber.Acceptable cfg admits
          (s.registry.fill .subscription slot (.subscription entity)) session ∧
        call.datareader.Acceptable cfg admits
          (s.registry.fill .subscription slot (.subscription entity)) session) :
    Yields (createDatareader cfg call topicName qos handle slot node session s) fun result =>
      result.2.Healthy cfg admits ∧ Advance s result.2 ∧
        if call.subscriber.succeeds cfg && datareaderFits cfg topicName &&
            call.datareader.succeeds cfg then
          ∃ subscriberId datareaderId, result.1 = some handle ∧
            subscriberId.type = .subscriber ∧ datareaderId.type = .datareader ∧
            Issued s result.2 session subscriberId ∧ Issued s result.2 session datareaderId ∧
            result.2.registry =
              (s.registry.fill .subscription slot (.subscription { s.customSubscriptions slot with
                subscriberId := subscriberId, datareaderId := datareaderId })).setData
                .subscription handle (some (some slot))
        else if call.subscriber.succeeds cfg && !datareaderFits cfg topicName then
          result.1 = none ∧ ∃ entity, result.2.registry =
            (s.registry.fill .subscription slot entity).setData .subscription handle none
        else result.1 = none ∧
          (s.registry.dropEntity .subscription handle slot).Agrees result.2.registry := by
  simp only [createDatareader]
  generalize isSubscriberId : (s.uxrObjectId session .subscriber).1 = subscriberId
  have subscriberIssued : Issued s (s.uxrObjectId session .subscriber).2 session subscriberId :=
    isSubscriberId ▸ issued_uxrObjectId .subscriber
  have subscriberType : subscriberId.type = .subscriber := isSubscriberId ▸ rfl
  generalize isNumbered : (s.uxrObjectId session .subscriber).2.modifySubscription slot
    (fun old => { old with subscriberId := subscriberId }) = numbered
  have numberedRegistry : numbered.registry = s.registry.fill .subscription slot
      (.subscription { s.customSubscriptions slot with subscriberId := subscriberId }) := by
    rw [← isNumbered, registry_modifySubscription, registry_uxrObjectId]
    rfl
  have numberedHealthy : numbered.Healthy cfg admits := isNumbered ▸ healthy
  have numberedAdvance : Advance s numbered := isNumbered ▸ advance_uxrObjectId .subscriber
  have numberedIssues : IssuesOnly .subscriber s numbered :=
    isNumbered ▸ issuesOnly_uxrObjectId .subscriber
  have numberedIssued : Issued s numbered session subscriberId := isNumbered ▸ subscriberIssued
  refine (requestExchange_spec numberedHealthy _
    (acceptable { s.customSubscriptions slot with subscriberId := subscriberId }
      (Or.inl rfl)).1 (by rw [numberedRegistry])).bind ?_
  rintro ⟨confirmed, ran⟩ ⟨rfl, ranHealthy, sameRegistry, ranAdvance, issues⟩
  have ranRegistry := sameRegistry.trans numberedRegistry
  have ranIssues : IssuesOnly .subscriber s ran := numberedIssues.trans (issues .subscriber)
  have ranSubscription : ran.customSubscriptions slot = { s.customSubscriptions slot with
      subscriberId := subscriberId } := by
    have same : ran.registry.entity .subscription slot = .subscription
        { s.customSubscriptions slot with subscriberId := subscriberId } := by
      rw [ranRegistry]
      simp
    exact Entity.subscription.inj same
  cases created : call.subscriber.succeeds cfg with
  | false =>
      exact fail_of_released healthy ranHealthy (numberedAdvance.trans ranAdvance) ranRegistry
        (by decide) inside null
  | true =>
      simp only [↓reduceIte, Bool.true_and]
      generalize isDatareaderId : (ran.uxrObjectId session .datareader).1 = datareaderId
      have datareaderIssued : Issued ran (ran.uxrObjectId session .datareader).2 session
          datareaderId := isDatareaderId ▸ issued_uxrObjectId .datareader
      have datareaderType : datareaderId.type = .datareader := isDatareaderId ▸ rfl
      have isNext : datareaderId =
          ⟨(s.customSessions session).nextId .datareader, .datareader⟩ := by
        rw [← isDatareaderId, ← ranIssues session .datareader (by decide)]
        rfl
      generalize isFilled : (ran.uxrObjectId session .datareader).2.modifySubscription slot
        (fun old => { old with datareaderId := datareaderId }) = filled
      have filledRegistry : filled.registry = s.registry.fill .subscription slot
          (.subscription { s.customSubscriptions slot with
            subscriberId := subscriberId, datareaderId := datareaderId }) := by
        rw [← isFilled, registry_modifySubscription, registry_uxrObjectId, ranRegistry, fill_fill]
        simp only [Rmw.uxrObjectId, Rmw.modifySession, ranSubscription]
      have filledHealthy : filled.Healthy cfg admits := isFilled ▸ ranHealthy
      have filledAdvance : Advance s filled :=
        (numberedAdvance.trans ranAdvance).trans (isFilled ▸ advance_uxrObjectId .datareader)
      have filledTopic : (filled.customSubscriptions slot).topic = some topic := by
        rw [← isFilled]
        simp [Rmw.modifySubscription, Rmw.uxrObjectId, Rmw.modifySession, ranSubscription, hasTopic]
      have subscriberIssued' : Issued s filled session subscriberId :=
        (numberedIssued.after ranAdvance).after (isFilled ▸ advance_uxrObjectId .datareader)
      have datareaderIssued' : Issued s filled session datareaderId := by
        refine Issued.before (numberedAdvance.trans ranAdvance) ?_
        rw [← isFilled]
        exact datareaderIssued
      have filledNull : filled.registry.data .subscription handle = some none := by
        rw [filledRegistry]
        exact null
      simp only [filledTopic, deref, ok_bind]
      have isFit := datareaderRequest_isSome cfg datareaderId subscriberId
        (filled.customTopics topic).topicId topicName qos
      cases isRequest : datareaderRequest cfg datareaderId subscriberId
          (filled.customTopics topic).topicId topicName qos with
      | none =>
          rw [isRequest] at isFit
          simp only [← isFit, Option.isSome_none, Bool.false_eq_true, Bool.false_and,
            Bool.not_false,
            ↓reduceIte]
          refine (fail_of_null filledHealthy filledNull).mono ?_
          rintro result ⟨resultHealthy, resultAdvance, isNull, resultRegistry⟩
          exact ⟨resultHealthy, filledAdvance.trans resultAdvance, isNull, _,
            filledRegistry ▸ resultRegistry⟩
      | some request =>
          rw [isRequest] at isFit
          simp only [← isFit, Option.isSome_some, Bool.true_and, Bool.not_true, Bool.false_eq_true,
            ↓reduceIte]
          refine (requestExchange_spec filledHealthy _
            (acceptable { s.customSubscriptions slot with
              subscriberId := subscriberId, datareaderId := datareaderId }
              (Or.inr isNext)).2 (by rw [filledRegistry])).bind ?_
          rintro ⟨confirmed, last⟩ ⟨rfl, lastHealthy, sameRegistry', lastAdvance, -⟩
          have lastRegistry := sameRegistry'.trans filledRegistry
          cases call.datareader.succeeds cfg with
          | false =>
              exact fail_of_released healthy lastHealthy (filledAdvance.trans lastAdvance)
                lastRegistry (by decide) inside null
          | true =>
              have lastNull : last.registry.data .subscription handle = some none := by
                rw [lastRegistry]
                exact null
              obtain ⟨contents, isBlock, isData, isRead, -⟩ := lastHealthy.block_of_data lastNull
              simp only [isRead, ok_bind, ↓reduceIte]
              have boundHealthy := lastHealthy.storeHandle_data isBlock (some slot)
              have requestAdvance : Advance last ((last.storeHandle .subscription handle
                  (some { contents with data := some slot })).uxrBuffer session
                  (.requestData datareaderId (dataRequestStreamId qos))
                  call.dataRequestRoom).2 :=
                advance_uxrBuffer (s := last.storeHandle .subscription handle
                  (some { contents with data := some slot })) _ _
              refine yields_ok.mpr ⟨(healthy_uxrBuffer _ _).mpr boundHealthy,
                (filledAdvance.trans lastAdvance).trans requestAdvance, subscriberId, datareaderId,
                rfl, subscriberType, datareaderType,
                (subscriberIssued'.after lastAdvance).after requestAdvance,
                (datareaderIssued'.after lastAdvance).after requestAdvance, ?_⟩
              rw [registry_uxrBuffer, registry_storeHandle, lastRegistry]
              rfl

/-- The part of `rmw_create_subscription` behind the opening. -/
theorem fillSubscription_spec {call : SubscriptionCall}
    {typeSupport : TypeSupportHandle MessageTypeSupport} {topicName : CString} {qos : QosProfile}
    (healthy : opened.Healthy cfg admits) (first : s.free .subscription = slot :: rest)
    (sessions : opened.customSessions = s.customSessions)
    (old : opened.customSubscriptions slot = s.customSubscriptions slot)
    (opening : Opening s.registry opened.registry .subscription handle slot
      (.subscription (s.customSubscriptions slot)))
    (context : (opened.customNodes node).context = some session)
    (acceptable : call.Acceptable cfg admits s session)
    (exit : filledSubscriptionExit cfg call typeSupport topicName opened =
      filledSubscriptionExit cfg call typeSupport topicName s) :
    Yields (fillSubscription cfg call typeSupport topicName qos handle slot (some node) opened)
      fun result => result.2.Healthy cfg admits ∧ Advance s result.2 ∧
        Creation s result.2 true .subscription node session result.1
          (filledSubscriptionExit cfg call typeSupport topicName s) := by
  rw [← exit]
  simp only [fillSubscription]
  generalize isSubscription : ({ s.customSubscriptions slot with
    rmwHandle := some handle, ownerNode := some node, qos := qos } : Subscription) = subscription
  have isHandle : subscription.rmwHandle = some handle := isSubscription ▸ rfl
  have isOwner : subscription.ownerNode = some node := isSubscription ▸ rfl
  have isRouting : subscription.datareaderId = (s.customSubscriptions slot).datareaderId :=
    isSubscription ▸ rfl
  generalize isFilled : opened.modifySubscription slot (fun old =>
    { old with rmwHandle := some handle, ownerNode := some node, qos := qos }) = filled
  have filledHealthy : filled.Healthy cfg admits := isFilled ▸ healthy
  have filledAdvance : Advance s filled := .of_sessions (isFilled ▸ sessions)
  have filledSubscription : filled.customSubscriptions slot = subscription := by
    rw [← isFilled, ← isSubscription, ← old]
    simp [Rmw.modifySubscription]
  have filledOpening : Opening s.registry filled.registry .subscription handle slot
      (.subscription subscription) := by
    rw [← isFilled, registry_modifySubscription, old, isSubscription]
    exact opening.fill
  have filledContext : (filled.customNodes node).context = some session := isFilled ▸ context
  have filledTopics : createsTopic cfg topicName call.topic filled =
      createsTopic cfg topicName call.topic opened := isFilled ▸ rfl
  cases typeSupport with
  | undefined => exact fail_of_opening filledHealthy filledAdvance filledOpening
  | nullData =>
      have nullOpening : Opening s.registry (filled.modifySubscription slot fun old =>
          { old with typeSupportCallbacks := none }).registry .subscription handle slot
          (.subscription { subscription with typeSupportCallbacks := none }) := by
        rw [registry_modifySubscription, filledSubscription]
        exact filledOpening.fill
      exact fail_of_opening ((healthy_modifySubscription _).mpr filledHealthy)
        filledAdvance nullOpening
  | found callbacks =>
      simp only [deref, ok_bind]
      generalize isTyped : filled.modifySubscription slot (fun old =>
        { old with typeSupportCallbacks := some callbacks }) = typed
      have typedHealthy : typed.Healthy cfg admits := isTyped ▸ filledHealthy
      have typedAdvance : Advance s typed := isTyped ▸ filledAdvance
      have typedSessions : typed.customSessions = s.customSessions := by
        rw [← isTyped, ← isFilled]
        exact sessions
      have typedSubscription : typed.customSubscriptions slot = { subscription with
          typeSupportCallbacks := some callbacks } := by
        rw [← isTyped]
        simp [Rmw.modifySubscription, filledSubscription]
      have typedOpening : Opening s.registry typed.registry .subscription handle slot
          (.subscription { subscription with typeSupportCallbacks := some callbacks }) := by
        rw [← isTyped, registry_modifySubscription, filledSubscription]
        exact filledOpening.fill
      have typedTopics : createsTopic cfg topicName call.topic typed =
          createsTopic cfg topicName call.topic opened := filledTopics ▸ isTyped ▸ rfl
      have typedFilling : Filling s .subscription (subscriptionRouting s session) typed.registry :=
        ⟨handle, slot, rest, s.registry, _, first, rfl, typedOpening, Or.inl isRouting⟩
      refine (createTopic_spec typedHealthy (isTyped ▸ filledContext)
        (acceptable _ typedFilling).1).bind ?_
      rintro ⟨result, withTopic⟩ ⟨topicHealthy, topicAdvance, topicIssues, topicPost⟩
      simp only [typedTopics] at topicPost
      cases hasTopic : createsTopic cfg topicName call.topic opened with
      | false =>
          simp only [hasTopic, Bool.false_eq_true, ↓reduceIte] at topicPost
          obtain ⟨rfl, agrees⟩ := topicPost
          simp only [filledSubscriptionExit, hasTopic, Option.isSome_none, Bool.false_eq_true,
            ↓reduceIte, Bool.not_false]
          have nullOpening : Opening s.registry (withTopic.modifySubscription slot fun old =>
              { old with topic := none }).registry .subscription handle slot
              (.subscription { withTopic.customSubscriptions slot with topic := none }) := by
            rw [registry_modifySubscription]
            exact (typedOpening.trans agrees).fill
          exact fail_of_topicless ((healthy_modifySubscription _).mpr topicHealthy)
            (typedAdvance.trans topicAdvance) nullOpening rfl
      | true =>
          simp only [hasTopic, ↓reduceIte] at topicPost
          obtain ⟨topic, topicEntity, topicFree, rfl, topicOwner, topicType, topicIssued,
            topicRegistry⟩ := topicPost
          simp only [Option.isSome_some, ↓reduceIte]
          generalize isOwned : withTopic.modifySubscription slot (fun old =>
            { old with topic := some topic }) = owned
          have withSubscription : withTopic.customSubscriptions slot = { subscription with
              typeSupportCallbacks := some callbacks } := by
            have same : withTopic.registry.entity .subscription slot =
                typed.registry.entity .subscription slot := by
              rw [topicRegistry, take_entity, fill_entity_apply, if_neg (by simp)]
            exact (Entity.subscription.inj same).trans typedSubscription
          have ownedSubscription : owned.customSubscriptions slot = { subscription with
              typeSupportCallbacks := some callbacks, topic := some topic } := by
            rw [← isOwned]
            simp [Rmw.modifySubscription, withSubscription]
          have titled : Titled s owned .subscription node session handle slot topic topicEntity
              (.subscription { subscription with
                typeSupportCallbacks := some callbacks, topic := some topic }) := by
            refine .of_opening typedOpening typedAdvance (by decide) topicFree topicOwner topicType
              (topicAdvance.trans (.of_sessions (isOwned ▸ rfl)))
              (topicIssued.after (.of_sessions (isOwned ▸ rfl))) ?_
            rw [← isOwned, registry_modifySubscription, withSubscription, topicRegistry]
            rfl
          have ownedContext : (owned.customNodes node).context = some session := by
            have same : withTopic.registry.entity .node node =
              typed.registry.entity .node node := by
              rw [topicRegistry, take_entity, fill_entity_apply, if_neg (by simp)]
            have isContext : (typed.customNodes node).context = some session :=
              isTyped ▸ filledContext
            rw [← isOwned]
            exact (congrArg Node.context (Entity.node.inj same)).trans isContext
          have ownedNext : (owned.customSessions session).nextId .datareader =
              (s.customSessions session).nextId .datareader := by
            rw [← isOwned, ← typedSessions]
            exact topicIssues session .datareader (by decide)
          have ownedAcceptable : ∀ entity : Subscription,
              entity.datareaderId = (owned.customSubscriptions slot).datareaderId ∨
                entity.datareaderId =
                  ⟨(owned.customSessions session).nextId .datareader, .datareader⟩ →
              call.subscriber.Acceptable cfg admits
                  (owned.registry.fill .subscription slot (.subscription entity)) session ∧
                call.datareader.Acceptable cfg admits
                  (owned.registry.fill .subscription slot (.subscription entity)) session := by
            intro entity routing
            rw [ownedSubscription, ownedNext] at routing
            exact (acceptable _ ⟨handle, slot, rest, _, .subscription entity, first,
              inboxes_addSlot rfl, titled.opening.fill,
              routing.imp_left fun same => same.trans isRouting⟩).2
          simp only [ownedContext, ok_bind]
          refine (createDatareader_spec (isOwned ▸ topicHealthy : owned.Healthy cfg admits)
            titled.opening.inside titled.opening.null (by rw [ownedSubscription])
            ownedAcceptable).mono ?_
          rintro ⟨result, last⟩ ⟨lastHealthy, lastAdvance, post⟩
          refine ⟨lastHealthy, titled.advance.trans lastAdvance, ?_⟩
          simp only [filledSubscriptionExit, hasTopic, Bool.not_true, Bool.false_eq_true,
            ↓reduceIte]
          cases isSubscribed : call.subscriber.succeeds cfg with
          | false =>
              simp only [isSubscribed, Bool.false_and, Bool.false_eq_true, ↓reduceIte] at post
              exact titled.topicLeaked post.1 post.2
          | true =>
              cases isFit : datareaderFits cfg topicName with
              | false =>
                  simp only [isSubscribed, isFit, Bool.and_false, Bool.false_and, Bool.and_self,
                    Bool.not_false, Bool.false_eq_true, ↓reduceIte] at post
                  obtain ⟨isNull, entity, lastRegistry⟩ := post
                  exact titled.bothLeaked isNull lastRegistry
              | true =>
                  cases isReading : call.datareader.succeeds cfg with
                  | false =>
                      simp only [isSubscribed, isFit, isReading, Bool.and_false, Bool.and_true,
                        Bool.not_true, Bool.false_eq_true, ↓reduceIte] at post
                      exact titled.topicLeaked post.1 post.2
                  | true =>
                      simp only [isSubscribed, isFit, isReading, Bool.and_self, ↓reduceIte] at post
                      obtain ⟨subscriberId, datareaderId, rfl, subscriberType, datareaderType,
                        subscriberIssued, datareaderIssued, lastRegistry⟩ := post
                      rw [ownedSubscription] at lastRegistry
                      refine titled.created lastRegistry rfl lastAdvance isHandle isOwner rfl rfl
                        ?_ ?_ rfl
                      · simp [Entity.objects, subscriberType, datareaderType, Pool.objectTypes]
                      · intro object inside
                        simp only [Entity.objects, List.mem_cons, List.not_mem_nil,
                          or_false] at inside
                        rcases inside with rfl | rfl
                        · exact subscriberIssued
                        · exact datareaderIssued

/-- `rmw_create_subscription` from a healthy state, on a live node or none: it never
faults, and ends the way its exit says. -/
theorem rmwCreateSubscription_spec (healthy : s.Healthy cfg admits) {call : SubscriptionCall}
    (live : ∀ nodeHandle, call.node = some nodeHandle → s.registry.Bound .node nodeHandle node)
    (context : (s.customNodes node).context = some session)
    (acceptable : call.Acceptable cfg admits s session)
    (allocates : subscriptionExit cfg call s ≠ .crashed) :
    Yields (rmwCreateSubscription cfg call s) fun result =>
      result.2.Healthy cfg admits ∧ Advance s result.2 ∧
        Creation s result.2 true .subscription node session result.1
        (subscriptionExit cfg call s) := by
  have nothing : ∀ {exit : CreateExit}, exit = .refused →
      Yields (.ok (none, s) : Exec (Option Nat × Rmw)) fun result =>
        result.2.Healthy cfg admits ∧ Advance s result.2 ∧
          Creation s result.2 true .subscription node session result.1 exit := by
    rintro _ rfl
    exact yields_ok.mpr ⟨healthy, .refl s, rfl, .refl _⟩
  obtain ⟨callNode, typeSupport, topicName, qos, handleAllocated, nameAllocated, topic, subscriber,
    datareader, dataRequestRoom⟩ := call
  cases callNode with
  | none => exact nothing rfl
  | some nodeHandle =>
      obtain ⟨contents, -, isData, isRead, named⟩ := healthy.block_of_data (live _ rfl)
      cases typeSupport with
      | none => exact nothing rfl
      | some typeSupport =>
          simp only [rmwCreateSubscription, isRead, ok_bind, named, ↓reduceIte]
          rcases topicName with _ | _ | ⟨first, rest⟩
          · exact nothing rfl
          · exact nothing rfl
          cases qos with
          | none => exact nothing rfl
          | some qos =>
              cases handleAllocated with
              | false => exact absurd rfl allocates
              | true =>
                  cases nameAllocated with
                  | false => exact fail_of_allocated healthy (by decide) rfl rfl
                  | true =>
                      simp only [↓reduceIte]
                      generalize isContents : ({
                        implementationIdentifier := some eprosimaMicroxrceddsIdentifier
                        name := some (first :: rest) } : RmwHandle) = handleContents
                      have named : isUxrceRmwIdentifierValid
                          handleContents.implementationIdentifier = true := isContents ▸ rfl
                      have null : handleContents.data = none := isContents ▸ rfl
                      cases isFree : s.free .subscription with
                      | nil =>
                          have handleHealthy : (s.allocateHandle .subscription
                              handleContents).2.Healthy cfg admits :=
                            healthy.allocateHandle named (by simp)
                          rw [handleHealthy.getMemory_of_free_nil isFree]
                          have exit : subscriptionExit cfg ⟨some nodeHandle, some typeSupport,
                              some (first :: rest), some qos, true, true, topic, subscriber,
                              datareader, dataRequestRoom⟩ s = .refused := by
                            simp [subscriptionExit, isFree]
                          rw [exit]
                          exact fail_of_allocated healthy (by decide) named null
                      | cons slot others =>
                          obtain ⟨mem, taken, openedHealthy, opening⟩ :=
                            healthy.opens rfl isFree named null
                          rw [taken]
                          simp only [openedHealthy.dataOf_registry opening.inside, ok_bind, isData]
                          have exit : subscriptionExit cfg ⟨some nodeHandle, some typeSupport,
                              some (first :: rest), some qos, true, true, topic, subscriber,
                              datareader, dataRequestRoom⟩ s =
                              filledSubscriptionExit cfg ⟨some nodeHandle, some typeSupport,
                                some (first :: rest), some qos, true, true, topic, subscriber,
                                datareader, dataRequestRoom⟩ typeSupport (first :: rest) s := by
                            simp [subscriptionExit, isFree]
                          rw [exit]
                          exact fillSubscription_spec openedHealthy isFree rfl rfl opening context
                            acceptable rfl

/-- `rmw_destroy_subscription` on a live handle, whatever the agent does: the handle, its
slot and its topic are given back, and nothing else. -/
theorem rmwDestroySubscription_spec (healthy : s.Healthy cfg admits) (sound : s.registry.Sound)
    {teardown : EntityTeardown} (nodeBound : s.registry.Bound .node nodeHandle node)
    (bound : s.registry.Bound .subscription handle slot)
    (acceptable : ∀ owner session, (s.customSubscriptions slot).ownerNode = some owner →
      (s.customNodes owner).context = some session →
      teardown.Acceptable cfg admits s.registry session) :
    Yields (rmwDestroySubscription cfg (some nodeHandle) (some handle) teardown s) fun result =>
      result.1 = teardown.report cfg ∧ result.2.Healthy cfg admits ∧ Advance s result.2 ∧
        ∃ topic, (s.customSubscriptions slot).topic = some topic ∧
          ((s.registry.dropEntity .subscription handle slot).release .topic topic).Agrees
            result.2.registry := by
  have placed := sound.placed bound
  obtain ⟨owner, ownerHandle, isOwner, ownerBound⟩ := placed.owned rfl
  obtain ⟨topic, isTopic, topicInside, topicOwner⟩ := placed.topic rfl
  obtain ⟨session, context, -⟩ := (sound.placed ownerBound).sited rfl
  have isOwner' : (s.customSubscriptions slot).ownerNode = some owner := isOwner
  have isTopic' : (s.customSubscriptions slot).topic = some topic := isTopic
  have tail := teardownTail_spec healthy (s.customSubscriptions slot).datareaderId
    (s.customSubscriptions slot).subscriberId rfl bound placed.allocated topicInside
    (topicOwner.trans isOwner) (sound.placed ownerBound).allocated context
    (acceptable owner session isOwner context)
  simp only [rmwDestroySubscription, checkDestroyed_of_bound healthy nodeBound bound, ok_bind,
    isTopic', isOwner', deref]
  exact tail.mono fun result post => ⟨post.1, post.2.1, post.2.2.1, topic, rfl, post.2.2.2⟩

end RmwMicroxrcedds
