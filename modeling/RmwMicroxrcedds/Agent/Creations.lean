import RmwMicroxrcedds.Agent.Writing

/-! # What the creations ask the agent for

Whatever way a creation ends, it writes to the session of its node only, and for objects with
numbers of its own. When it returns a handle and its requests found room, they are those the
new entity is made from.
-/

namespace RmwMicroxrcedds

open Outcome Registry

variable {cfg : Config} {s s' : Rmw} {pool : Pool} {session node nodeHandle handle slot : Nat}
variable {result : Option Nat} {written : List XrceRequest}

/-- What a creation of an entity of the pool writes. -/
def Asks (cfg : Config) (s s' : Rmw) (pool : Pool) (session : Nat) (roomy : Prop)
    (result : Option Nat) : Prop :=
  ∃ written, Adds s s' session written ∧ ∀ handle, result = some handle →
    ∃ slot, s'.registry.Bound pool handle slot ∧ (roomy →
      ∃ made, s'.MadeFrom cfg pool handle slot made ∧ journal written = journal made)

/-- Nothing is returned, so nothing is to be said of it. -/
theorem Wrote.ends_null {made : List XrceRequest → Nat → Prop} (wrote : Adds s s' session written)
    (null : result = none) : ∃ written, Adds s s' session written ∧
      ∀ handle, result = some handle → made written handle := by
  refine ⟨written, wrote, fun handle isHandle => ?_⟩
  rw [null] at isHandle
  cases isHandle

/-- A creation that ends behind the label `fail` returns nothing, and writes nothing more. -/
theorem Wrote.ends_fail {made : List XrceRequest → Nat → Prop} {middle : Rmw}
    (wrote : Adds s middle session written)
    (returned : (finiMemory pool handle middle >>= fun s => .ok (none, s) :
      Exec (Option Nat × Rmw)) = .ok (result, s')) : ∃ written, Adds s s' session written ∧
      ∀ handle, result = some handle → made written handle := by
  obtain ⟨null, same⟩ := fail_returned returned
  exact (wrote.same same).ends_null null

/-- A request for an object that was numbered since is written, and the session runs. -/
theorem Wrote.exchanged {middle ran : Rmw} {request : XrceRequest} {object : ObjectId}
    {exchange : Exchange} {confirmed : Bool} (wrote : Adds s middle session written)
    (creates : request.creates = some object) (issued : Issued s middle session object)
    (runs : runXrceSession cfg session exchange
      (middle.uxrBuffer session request exchange.room).2 = .ok (confirmed, ran)) :
    Adds s ran session ((if exchange.room then [request] else []) ++ written) ∧
      Unaltered middle ran := by
  have asked := wrote.asked request exchange.room (XrceRequest.keeps_of_creates creates)
    fun other isOther => by
      cases creates.symm.trans isOther
      exact issued
  exact ⟨asked.run runs, (unaltered_uxrBuffer _ _ _ _).trans (runXrceSession_unaltered runs)⟩

/-- Nothing is returned. -/
theorem Asks.of_null {roomy : Prop} (wrote : Adds s s' session written)
    (null : result = none) : Asks cfg s s' pool session roomy result :=
  wrote.ends_null null

/-- A creation that ends behind the label `fail` asks for nothing more. -/
theorem Asks.of_fail {roomy : Prop} {middle : Rmw} (wrote : Adds s middle session written)
    (returned : (finiMemory pool handle middle >>= fun s => .ok (none, s) :
      Exec (Option Nat × Rmw)) = .ok (result, s')) : Asks cfg s s' pool session roomy result :=
  wrote.ends_fail returned

/-- Nothing was written before the clean-up. -/
theorem Asks.of_early_fail {roomy : Prop} {middle : Rmw}
    (returned : (finiMemory pool handle middle >>= fun s => .ok (none, s) :
      Exec (Option Nat × Rmw)) = .ok (result, s'))
    (silent : Silent s middle) : Asks cfg s s' pool session roomy result :=
  .of_fail (.of_silent session silent) returned

/-- What writes to no session may come first. -/
theorem Asks.of_before {roomy : Prop} {middle : Rmw}
    (asks : Asks cfg middle s' pool session roomy result) (silent : Silent s middle) :
    Asks cfg s s' pool session roomy result := by
  obtain ⟨written, wrote, made⟩ := asks
  have whole := (Wrote.of_silent session silent).trans wrote
  rw [List.append_nil] at whole
  exact ⟨written, whole, made⟩

/-- The handle in a block that is read. -/
theorem read_of_bound {contents : RmwHandle} (bound : s.registry.Bound pool handle slot)
    (read : s.readHandle pool handle = .ok contents) : contents.data = some slot := by
  simp only [Bound, Rmw.registry, Option.map_eq_some_iff] at bound
  obtain ⟨contents', isBlock, isData⟩ := bound
  simp only [Rmw.readHandle, isBlock, Except.ok.injEq] at read
  exact read ▸ isData

/-- A block that was stored with an entity designates it. -/
theorem bound_of_handles (stored : Rmw) (contents : RmwHandle)
    (handles : s'.handles = (stored.storeHandle pool handle (some contents)).handles)
    (isData : contents.data = some slot) : s'.registry.Bound pool handle slot := by
  simp [Bound, Rmw.registry, handles, Rmw.storeHandle, isData]

/-- `create_topic` writes its request, and leaves the entities of the other pools alone. -/
theorem createTopic_wrote {topicName : CString} {callbacks : MessageTypeSupport}
    {exchange : Exchange} (context : (s.customNodes node).context = some session)
    (returned : createTopic cfg node topicName callbacks exchange s = .ok (result, s')) :
    (s'.customNodes = s.customNodes ∧ s'.customPublishers = s.customPublishers ∧
      s'.customSubscriptions = s.customSubscriptions ∧ s'.handles = s.handles) ∧
    ∃ written, Adds s s' session written ∧ ∀ topic, result = some topic →
      (s'.customTopics topic).messageTypeSupportCallbacks = some callbacks ∧
      (exchange.room = true → ∃ title, written = [title] ∧
        topicRequest cfg (s'.customTopics topic).topicId (s.customNodes node).participantId
          topicName callbacks = some title) := by
  unfold createTopic at returned
  split at returned
  · rename_i next first
    obtain rfl : (s.getMemory .topic).2 = next := congrArg Prod.snd first
    cases returned
    exact ⟨⟨rfl, rfl, rfl, rfl⟩, [], .of_silent _ (.of_same rfl rfl),
      fun _ absurd => by cases absurd⟩
  · rename_i item next first
    obtain rfl : (s.getMemory .topic).2 = next := congrArg Prod.snd first
    obtain ⟨topic, -, returned⟩ := bind_eq_ok.mp returned
    have isContext : ((s.getMemory .topic).2.customNodes node).context = some session := context
    rw [isContext] at returned
    simp only [deref, ok_bind] at returned
    have start : Adds s (s.getMemory .topic).2 session [] := .of_silent _ (.of_same rfl rfl)
    have numbered := start.number .topic
    generalize isNumbered : (s.getMemory .topic).2.uxrObjectId session .topic = drawn at returned
    have isIssued := isNumbered ▸ start.issued .topic
    rw [isNumbered] at numbered
    have before := isNumbered ▸
      unaltered_uxrObjectId (s.getMemory .topic).2 session .topic
    generalize isFilled : drawn.2.modifyTopic topic _ = filled at returned
    have filledWrote : Adds s filled session [] := numbered.same (isFilled ▸ .of_same rfl rfl)
    have nodes : filled.customNodes = s.customNodes := isFilled ▸ before.nodes
    have others : filled.customNodes = s.customNodes ∧
        filled.customPublishers = s.customPublishers ∧
        filled.customSubscriptions = s.customSubscriptions ∧ filled.handles = s.handles :=
      ⟨nodes, isFilled ▸ before.publishers, isFilled ▸ before.subscriptions,
        isFilled ▸ before.handles⟩
    have isTopic : filled.customTopics topic =
        { ownerNode := some node
          messageTypeSupportCallbacks := some callbacks
          topicId := drawn.1 } := by
      rw [← isFilled]
      simp [Rmw.modifyTopic]
    rw [nodes] at returned
    split at returned
    · cases returned
      exact ⟨others, [], filledWrote.same (.of_same rfl rfl), fun topic absurd => by cases absurd⟩
    · rename_i title isTitle
      obtain ⟨⟨confirmed, ran⟩, runs, returned⟩ := bind_eq_ok.mp returned
      obtain ⟨ranWrote, same⟩ := filledWrote.exchanged (creates_topicRequest isTitle).1
        (isFilled ▸ isIssued) runs
      have kept : ran.customNodes = s.customNodes ∧
          ran.customPublishers = s.customPublishers ∧
          ran.customSubscriptions = s.customSubscriptions ∧ ran.handles = s.handles :=
        ⟨same.nodes.trans others.1, same.publishers.trans others.2.1,
          same.subscriptions.trans others.2.2.1, same.handles.trans others.2.2.2⟩
      dsimp only at returned
      split at returned
      · cases returned
        refine ⟨kept, _, ranWrote, fun other isOther => ?_⟩
        cases isOther
        rw [same.topics, isTopic]
        refine ⟨rfl, fun room => ⟨title, by simp [room], isTitle⟩⟩
      · cases returned
        exact ⟨kept, _, ranWrote.same (.of_same rfl rfl), fun topic absurd => by cases absurd⟩

/-- The requests of the creation found room. -/
structure PublisherCall.Roomy (call : PublisherCall) : Prop where
  topic : call.topic.room = true
  publisher : call.publisher.room = true
  datawriter : call.datawriter.room = true

/-- The publisher and its data writer. -/
theorem createDatawriter_wrote {call : PublisherCall} {topicName : CString} {qos : QosProfile}
    {topic : Nat} (isTopic : (s.customPublishers slot).topic = some topic)
    (returned : createDatawriter cfg call topicName qos handle slot node session s =
      .ok (result, s')) :
    ∃ written, Adds s s' session written ∧ ∀ other, result = some other →
      other = handle ∧ s'.registry.Bound .publisher handle slot ∧
      s'.customNodes = s.customNodes ∧ s'.customTopics = s.customTopics ∧
      ∃ publisherId datawriterId,
        s'.customPublishers slot = { s.customPublishers slot with
          publisherId := publisherId, datawriterId := datawriterId } ∧
        (call.Roomy → ∃ writer,
          written = [writer, publisherRequest cfg publisherId (s.customNodes node).participantId] ∧
          datawriterRequest cfg datawriterId publisherId (s.customTopics topic).topicId topicName
            qos = some writer) := by
  unfold createDatawriter at returned
  generalize isNumbered : s.uxrObjectId session .publisher = drawn at returned
  have start : Adds s drawn.2 session [] := isNumbered ▸ (Wrote.nothing _ _).number .publisher
  have isIssued : Issued s drawn.2 session drawn.1 := isNumbered ▸ issued_uxrObjectId .publisher
  have before : Unaltered s drawn.2 := isNumbered ▸ unaltered_uxrObjectId _ _ .publisher
  obtain ⟨publisherId, numbered⟩ := drawn
  dsimp only at returned start isIssued before
  generalize isFilled : numbered.modifyPublisher slot _ = filled at returned
  have nodes : filled.customNodes = s.customNodes := isFilled ▸ before.nodes
  have topics : filled.customTopics = s.customTopics := isFilled ▸ before.topics
  have isFirst : filled.customPublishers slot =
      { s.customPublishers slot with publisherId := publisherId } := by
    rw [← isFilled, ← before.publishers]
    simp [Rmw.modifyPublisher]
  have filledWrote : Adds s filled session [] := start.same (isFilled ▸ .of_same rfl rfl)
  obtain ⟨⟨created, ran⟩, runs, returned⟩ := bind_eq_ok.mp returned
  rw [nodes] at runs
  obtain ⟨ranWrote, ranSame⟩ := filledWrote.exchanged (creates_publisherRequest _ _ _).1
    (isFilled ▸ isIssued) runs
  dsimp only at returned
  split at returned
  · obtain ⟨contents, read, returned⟩ := bind_eq_ok.mp returned
    generalize isStored : ran.storeHandle .publisher handle _ = stored at returned
    have storedWrote : Adds s stored session _ :=
      ranWrote.same (isStored ▸ .storeHandle_data read (some slot))
    generalize isNumbered' : stored.uxrObjectId session .datawriter = drawn' at returned
    have numberedWrote := storedWrote.number .datawriter
    have isIssued' := storedWrote.issued .datawriter
    have after : Unaltered stored drawn'.2 := isNumbered' ▸ unaltered_uxrObjectId _ _ .datawriter
    rw [isNumbered'] at numberedWrote isIssued'
    obtain ⟨datawriterId, numbered'⟩ := drawn'
    dsimp only at returned numberedWrote isIssued' after
    generalize isFilled' : numbered'.modifyPublisher slot _ = filled' at returned
    have filledWrote' : Adds s filled' session _ :=
      numberedWrote.same (isFilled' ▸ .of_same rfl rfl)
    have isSecond : filled'.customPublishers slot = { s.customPublishers slot with
        publisherId := publisherId, datawriterId := datawriterId } := by
      have same : numbered'.customPublishers = filled.customPublishers :=
        after.publishers.trans (isStored ▸ ranSame.publishers)
      rw [← isFilled']
      simp [Rmw.modifyPublisher, same, isFirst]
    have nodes' : filled'.customNodes = s.customNodes := by
      rw [← isFilled', ← nodes, ← ranSame.nodes]
      exact after.nodes.trans (isStored ▸ rfl)
    have topics' : filled'.customTopics = s.customTopics := by
      rw [← isFilled', ← topics, ← ranSame.topics]
      exact after.topics.trans (isStored ▸ rfl)
    rw [isSecond, isTopic, topics'] at returned
    simp only [deref, ok_bind] at returned
    split at returned
    · exact filledWrote'.ends_fail returned
    · rename_i writer isWriter
      obtain ⟨⟨created', ran'⟩, runs', returned⟩ := bind_eq_ok.mp returned
      obtain ⟨ranWrote', ranSame'⟩ := filledWrote'.exchanged
        (creates_datawriterRequest isWriter).1 (isFilled' ▸ isIssued') runs'
      dsimp only at returned
      split at returned
      · cases returned
        refine ⟨_, ranWrote', fun other isOther => ?_⟩
        cases isOther
        refine ⟨rfl, ?_, ranSame'.nodes.trans nodes', ranSame'.topics.trans topics',
          publisherId, datawriterId, ?_, fun roomy => ⟨writer, ?_, isWriter⟩⟩
        · refine bound_of_handles ran { contents with data := some slot }
            ?_ rfl
          rw [ranSame'.handles, ← isFilled', isStored]
          exact after.handles
        · rw [ranSame'.publishers]
          exact isSecond
        · simp [roomy.publisher, roomy.datawriter]
      · exact (ranWrote'.same (.putMemory _ _ _)).ends_fail returned
  · exact (ranWrote.same (.putMemory _ _ _)).ends_fail returned

/-- The slot, the topic, and the rest. -/
theorem fillPublisher_asks {call : PublisherCall}
    {typeSupport : TypeSupportHandle MessageTypeSupport} {topicName : CString} {qos : QosProfile}
    (context : (s.customNodes node).context = some session)
    (named : s.Named .publisher handle ⟨some topicName, none⟩)
    (returned : fillPublisher cfg call typeSupport topicName qos handle slot (some node) s =
      .ok (result, s')) : Asks cfg s s' .publisher session call.Roomy result := by
  unfold fillPublisher at returned
  rw [deref, ok_bind, context] at returned
  simp only [deref, ok_bind] at returned
  generalize isFilled : s.modifyPublisher slot _ = filled at returned
  have start : Adds s filled session [] := .of_silent session (isFilled ▸ .of_same rfl rfl)
  cases typeSupport with
  | undefined => exact .of_fail start returned
  | nullData =>
      have nulled : Adds s (filled.modifyPublisher slot fun old =>
          { old with typeSupportCallbacks := none }) session _ := start.same (.of_same rfl rfl)
      exact .of_fail nulled returned
  | found callbacks =>
      dsimp only at returned
      generalize isTyped : filled.modifyPublisher slot _ = typed at returned
      have typedWrote : Adds s typed session _ := start.same (isTyped ▸ .of_same rfl rfl)
      have typedContext : (typed.customNodes node).context = some session := by
        rw [← isTyped, ← isFilled]
        exact context
      obtain ⟨⟨topic, titled⟩, created, returned⟩ := bind_eq_ok.mp returned
      obtain ⟨⟨nodes, publishers, -, -⟩, title, titleWrote, made⟩ :=
        createTopic_wrote typedContext created
      dsimp only at returned
      generalize isOwned : titled.modifyPublisher slot _ = owned at returned
      have ownedWrote : Adds s owned session _ :=
        (typedWrote.trans titleWrote).same (isOwned ▸ .of_same rfl rfl)
      have isPublisher : owned.customPublishers slot = { s.customPublishers slot with
          rmwHandle := some handle
          ownerNode := some node
          qos := qos
          streamId := if qos.reliability = .bestEffort then .bestEffortOutput else .reliableOutput
          typeSupportCallbacks := some callbacks
          topic := topic } := by
        rw [← isOwned]
        simp only [Rmw.modifyPublisher, Function.update_self, publishers]
        rw [← isTyped, ← isFilled]
        simp [Rmw.modifyPublisher]
      have ownedNodes : owned.customNodes = typed.customNodes := isOwned ▸ nodes
      cases topic with
      | none => exact .of_fail ownedWrote returned
      | some topic =>
          simp only [Option.isSome_some, ↓reduceIte] at returned
          have hasTopic : (owned.customPublishers slot).topic = some topic :=
            congrArg Publisher.topic isPublisher
          obtain ⟨written, wrote, ends⟩ := createDatawriter_wrote hasTopic returned
          have whole := ownedWrote.trans wrote
          refine ⟨_, whole, fun other isOther => ?_⟩
          obtain ⟨rfl, bound, lastNodes, lastTopics, publisherId, datawriterId, isLast, asked⟩ :=
            ends other isOther
          refine ⟨slot, bound, fun roomy => ?_⟩
          obtain ⟨isTitled, titles⟩ := made topic rfl
          obtain ⟨titleRequest, rfl, isTitle⟩ := titles roomy.topic
          obtain ⟨writer, rfl, isWriter⟩ := asked roomy
          have isTopic : owned.customTopics topic = titled.customTopics topic := isOwned ▸ rfl
          rw [isTopic] at isWriter
          rw [← ownedNodes] at isTitle
          have entity : s'.entity .publisher slot = .publisher (s'.customPublishers slot) := rfl
          unfold Rmw.MadeFrom
          rw [entity, isLast, isPublisher, Rmw.participantOf_of_owner node rfl,
            Rmw.titleOf_of_topic topic rfl, lastNodes, lastTopics, isTopic]
          exact ⟨_, .topicEnd _ _ topicName callbacks titleRequest writer rfl
            (named.name whole.names bound) rfl isTitled rfl isTitle isWriter, rfl⟩

/-- `rmw_create_publisher`. -/
theorem rmwCreatePublisher_asks {call : PublisherCall} (isNode : call.node = some nodeHandle)
    (bound : s.registry.Bound .node nodeHandle node)
    (context : (s.customNodes node).context = some session)
    (returned : rmwCreatePublisher cfg call s = .ok (result, s')) :
    Asks cfg s s' .publisher session call.Roomy result := by
  have nothing : Adds s s session [] := .nothing _ _
  unfold rmwCreatePublisher at returned
  rw [isNode] at returned
  split at returned
  · rename_i other typeSupport isOther isTyped
    cases isOther
    obtain ⟨contents, read, returned⟩ := bind_eq_ok.mp returned
    rw [read_of_bound bound read] at returned
    split at returned
    · split at returned
      · rename_i first rest qos isName isQos
        dsimp only at returned
        split at returned
        · generalize isContents : RmwHandle.mk _ _ _ _ = given at returned
          have allocated := Silent.allocateHandle s .publisher given
          have named := named_allocateHandle s .publisher given
          split at returned
          · rename_i isNamed
            split at returned
            · rename_i next taken
              obtain rfl := congrArg Prod.snd taken
              exact .of_early_fail returned (allocated.trans (.of_same rfl rfl))
            · rename_i item next taken
              obtain rfl := congrArg Prod.snd taken
              obtain ⟨slot, -, returned⟩ := bind_eq_ok.mp returned
              refine (fillPublisher_asks ?_ ?_ returned).of_before
                (allocated.trans (.of_same rfl rfl))
              · exact context
              · refine ⟨named.below, named.names.trans ?_⟩
                rw [← isContents]
                simp [RmwHandle.names, isNamed]
          · exact .of_early_fail returned allocated
        · cases returned
      · cases returned
        exact .of_null nothing rfl
    · cases returned
      exact .of_null nothing rfl
  · cases returned
    exact .of_null nothing rfl

/-- The requests that create objects found room. -/
structure SubscriptionCall.Roomy (call : SubscriptionCall) : Prop where
  topic : call.topic.room = true
  subscriber : call.subscriber.room = true
  datareader : call.datareader.room = true

/-- A request for data is no entry of the journal. -/
theorem journal_requestData (object : ObjectId) (stream : StreamId) (room : Bool)
    (earlier : List XrceRequest) :
    journal ((if room then [.requestData object stream] else []) ++ earlier) = journal earlier := by
  cases room <;> rfl

/-- The subscriber and its data reader, and the request for data. -/
theorem createDatareader_wrote {call : SubscriptionCall} {topicName : CString} {qos : QosProfile}
    {topic : Nat} (isTopic : (s.customSubscriptions slot).topic = some topic)
    (returned : createDatareader cfg call topicName qos handle slot node session s =
      .ok (result, s')) :
    ∃ written, Adds s s' session written ∧ ∀ other, result = some other →
      other = handle ∧ s'.registry.Bound .subscription handle slot ∧
      s'.customNodes = s.customNodes ∧ s'.customTopics = s.customTopics ∧
      ∃ subscriberId datareaderId,
        s'.customSubscriptions slot = { s.customSubscriptions slot with
          subscriberId := subscriberId, datareaderId := datareaderId } ∧
        (call.Roomy → ∃ reader, journal written =
              journal [reader,
                subscriberRequest cfg subscriberId (s.customNodes node).participantId] ∧
          datareaderRequest cfg datareaderId subscriberId (s.customTopics topic).topicId topicName
            qos = some reader) := by
  unfold createDatareader at returned
  generalize isNumbered : s.uxrObjectId session .subscriber = drawn at returned
  have start : Adds s drawn.2 session [] := isNumbered ▸ (Wrote.nothing _ _).number .subscriber
  have isIssued : Issued s drawn.2 session drawn.1 := isNumbered ▸ issued_uxrObjectId .subscriber
  have before : Unaltered s drawn.2 := isNumbered ▸ unaltered_uxrObjectId _ _ .subscriber
  obtain ⟨subscriberId, numbered⟩ := drawn
  dsimp only at returned start isIssued before
  generalize isFilled : numbered.modifySubscription slot _ = filled at returned
  have nodes : filled.customNodes = s.customNodes := isFilled ▸ before.nodes
  have topics : filled.customTopics = s.customTopics := isFilled ▸ before.topics
  have isFirst : filled.customSubscriptions slot =
      { s.customSubscriptions slot with subscriberId := subscriberId } := by
    rw [← isFilled, ← before.subscriptions]
    simp [Rmw.modifySubscription]
  have filledWrote : Adds s filled session [] := start.same (isFilled ▸ .of_same rfl rfl)
  obtain ⟨⟨created, ran⟩, runs, returned⟩ := bind_eq_ok.mp returned
  rw [nodes] at runs
  obtain ⟨ranWrote, ranSame⟩ := filledWrote.exchanged (creates_subscriberRequest _ _ _).1
    (isFilled ▸ isIssued) runs
  dsimp only at returned
  split at returned
  · generalize isNumbered' : ran.uxrObjectId session .datareader = drawn' at returned
    have numberedWrote := ranWrote.number .datareader
    have isIssued' := ranWrote.issued .datareader
    have after : Unaltered ran drawn'.2 := isNumbered' ▸ unaltered_uxrObjectId _ _ .datareader
    rw [isNumbered'] at numberedWrote isIssued'
    obtain ⟨datareaderId, numbered'⟩ := drawn'
    dsimp only at returned numberedWrote isIssued' after
    generalize isFilled' : numbered'.modifySubscription slot _ = filled' at returned
    have filledWrote' : Adds s filled' session _ :=
      numberedWrote.same (isFilled' ▸ .of_same rfl rfl)
    have isSecond : filled'.customSubscriptions slot = { s.customSubscriptions slot with
        subscriberId := subscriberId, datareaderId := datareaderId } := by
      have same : numbered'.customSubscriptions = filled.customSubscriptions :=
        after.subscriptions.trans ranSame.subscriptions
      rw [← isFilled']
      simp [Rmw.modifySubscription, same, isFirst]
    have nodes' : filled'.customNodes = s.customNodes := by
      rw [← isFilled', ← nodes, ← ranSame.nodes]
      exact after.nodes
    have topics' : filled'.customTopics = s.customTopics := by
      rw [← isFilled', ← topics, ← ranSame.topics]
      exact after.topics
    rw [isSecond, isTopic, topics'] at returned
    simp only [deref, ok_bind] at returned
    split at returned
    · exact filledWrote'.ends_fail returned
    · rename_i reader isReader
      obtain ⟨⟨created', ran'⟩, runs', returned⟩ := bind_eq_ok.mp returned
      obtain ⟨ranWrote', ranSame'⟩ := filledWrote'.exchanged
        (creates_datareaderRequest isReader).1 (isFilled' ▸ isIssued') runs'
      dsimp only at returned
      split at returned
      · obtain ⟨contents, read, returned⟩ := bind_eq_ok.mp returned
        generalize isStored : ran'.storeHandle .subscription handle _ = stored at returned
        have storedWrote : Adds s stored session _ :=
          ranWrote'.same (isStored ▸ .storeHandle_data read (some slot))
        have dataWrote := storedWrote.asked (.requestData datareaderId (dataRequestStreamId qos))
          call.dataRequestRoom (fun _ absurd => by cases absurd)
          fun object absurd => by cases absurd
        have dataSame := unaltered_uxrBuffer stored session
          (.requestData datareaderId (dataRequestStreamId qos)) call.dataRequestRoom
        have ranNodes := ranSame'.nodes.trans nodes'
        have ranTopics := ranSame'.topics.trans topics'
        cases returned
        refine ⟨_, dataWrote, fun other isOther => ?_⟩
        cases isOther
        refine ⟨rfl, ?_, ?_, ?_, subscriberId, datareaderId, ?_, fun roomy =>
          ⟨reader, ?_, isReader⟩⟩
        · refine bound_of_handles ran' { contents with data := some slot }
            ?_ rfl
          rw [dataSame.handles, isStored]
        · exact dataSame.nodes.trans (isStored ▸ ranNodes)
        · exact dataSame.topics.trans (isStored ▸ ranTopics)
        · rw [dataSame.subscriptions, ← isStored, ← isSecond]
          exact congrFun ranSame'.subscriptions slot
        · rw [journal_requestData]
          simp [roomy.subscriber, roomy.datareader]
      · exact (ranWrote'.same (.putMemory _ _ _)).ends_fail returned
  · exact (ranWrote.same (.putMemory _ _ _)).ends_fail returned

/-- The slot, the topic, and the rest. -/
theorem fillSubscription_asks {call : SubscriptionCall}
    {typeSupport : TypeSupportHandle MessageTypeSupport} {topicName : CString} {qos : QosProfile}
    (context : (s.customNodes node).context = some session)
    (named : s.Named .subscription handle ⟨some topicName, none⟩)
    (returned : fillSubscription cfg call typeSupport topicName qos handle slot (some node) s =
      .ok (result, s')) : Asks cfg s s' .subscription session call.Roomy result := by
  unfold fillSubscription at returned
  generalize isFilled : s.modifySubscription slot _ = filled at returned
  have start : Adds s filled session [] := .of_silent session (isFilled ▸ .of_same rfl rfl)
  cases typeSupport with
  | undefined => exact .of_fail start returned
  | nullData =>
      have nulled : Adds s (filled.modifySubscription slot fun old =>
          { old with typeSupportCallbacks := none }) session _ := start.same (.of_same rfl rfl)
      exact .of_fail nulled returned
  | found callbacks =>
      simp only [deref, ok_bind] at returned
      generalize isTyped : filled.modifySubscription slot _ = typed at returned
      have typedWrote : Adds s typed session _ := start.same (isTyped ▸ .of_same rfl rfl)
      have typedContext : (typed.customNodes node).context = some session := by
        rw [← isTyped, ← isFilled]
        exact context
      obtain ⟨⟨topic, titled⟩, created, returned⟩ := bind_eq_ok.mp returned
      obtain ⟨⟨nodes, -, subscriptions, -⟩, title, titleWrote, made⟩ :=
        createTopic_wrote typedContext created
      dsimp only at returned
      generalize isOwned : titled.modifySubscription slot _ = owned at returned
      have ownedWrote : Adds s owned session _ :=
        (typedWrote.trans titleWrote).same (isOwned ▸ .of_same rfl rfl)
      have isSubscription : owned.customSubscriptions slot = { s.customSubscriptions slot with
          rmwHandle := some handle
          ownerNode := some node
          qos := qos
          typeSupportCallbacks := some callbacks
          topic := topic } := by
        rw [← isOwned]
        simp only [Rmw.modifySubscription, Function.update_self, subscriptions]
        rw [← isTyped, ← isFilled]
        simp [Rmw.modifySubscription]
      have ownedNodes : owned.customNodes = typed.customNodes := isOwned ▸ nodes
      cases topic with
      | none => exact .of_fail ownedWrote returned
      | some topic =>
          simp only [Option.isSome_some, ↓reduceIte] at returned
          rw [ownedNodes, typedContext] at returned
          simp only [ok_bind] at returned
          have hasTopic : (owned.customSubscriptions slot).topic = some topic :=
            congrArg Subscription.topic isSubscription
          obtain ⟨written, wrote, ends⟩ := createDatareader_wrote hasTopic returned
          have whole := ownedWrote.trans wrote
          refine ⟨_, whole, fun other isOther => ?_⟩
          obtain ⟨rfl, bound, lastNodes, lastTopics, subscriberId, datareaderId, isLast, asked⟩ :=
            ends other isOther
          refine ⟨slot, bound, fun roomy => ?_⟩
          obtain ⟨isTitled, titles⟩ := made topic rfl
          obtain ⟨titleRequest, rfl, isTitle⟩ := titles roomy.topic
          obtain ⟨reader, isJournal, isReader⟩ := asked roomy
          have isTopic : owned.customTopics topic = titled.customTopics topic := isOwned ▸ rfl
          rw [isTopic] at isReader
          rw [← ownedNodes] at isTitle
          have entity : s'.entity .subscription slot =
              .subscription (s'.customSubscriptions slot) := rfl
          unfold Rmw.MadeFrom
          rw [entity, isLast, isSubscription, Rmw.participantOf_of_owner node rfl,
            Rmw.titleOf_of_topic topic rfl, lastNodes, lastTopics, isTopic]
          refine ⟨_, .topicEnd _ _ topicName callbacks titleRequest reader rfl
            (named.name whole.names bound) rfl isTitled trivial isTitle isReader, ?_⟩
          rw [List.append_nil, journal_append, isJournal]
          exact (journal_append _ _).symm

/-- `rmw_create_subscription`. -/
theorem rmwCreateSubscription_asks {call : SubscriptionCall}
    (isNode : call.node = some nodeHandle) (bound : s.registry.Bound .node nodeHandle node)
    (context : (s.customNodes node).context = some session)
    (returned : rmwCreateSubscription cfg call s = .ok (result, s')) :
    Asks cfg s s' .subscription session call.Roomy result := by
  have nothing : Adds s s session [] := .nothing _ _
  unfold rmwCreateSubscription at returned
  rw [isNode] at returned
  split at returned
  · rename_i other typeSupport isOther isTyped
    cases isOther
    obtain ⟨contents, read, returned⟩ := bind_eq_ok.mp returned
    rw [read_of_bound bound read] at returned
    split at returned
    · split at returned
      · rename_i first rest qos isName isQos
        dsimp only at returned
        split at returned
        · generalize isContents : RmwHandle.mk _ _ _ _ = given at returned
          have allocated := Silent.allocateHandle s .subscription given
          have named := named_allocateHandle s .subscription given
          split at returned
          · rename_i isNamed
            split at returned
            · rename_i next taken
              obtain rfl := congrArg Prod.snd taken
              exact .of_early_fail returned (allocated.trans (.of_same rfl rfl))
            · rename_i item next taken
              obtain rfl := congrArg Prod.snd taken
              obtain ⟨slot, -, returned⟩ := bind_eq_ok.mp returned
              refine (fillSubscription_asks ?_ ?_ returned).of_before
                (allocated.trans (.of_same rfl rfl))
              · exact context
              · refine ⟨named.below, named.names.trans ?_⟩
                rw [← isContents]
                simp [RmwHandle.names, isNamed]
          · exact .of_early_fail returned allocated
        · cases returned
      · cases returned
        exact .of_null nothing rfl
    · cases returned
      exact .of_null nothing rfl
  · cases returned
    exact .of_null nothing rfl

variable {kind : EndpointKind}

/-- Changing a service or a client touches no handle. -/
theorem Rmw.modifyEndpoint_handles (change : Endpoint → Endpoint) :
    (s.modifyEndpoint kind slot change).handles = s.handles := by
  cases kind <;> rfl

theorem Rmw.modifyEndpoint_silent (change : Endpoint → Endpoint) :
    Silent s (s.modifyEndpoint kind slot change) :=
  .of_same (modifyEndpoint_sessions change) (modifyEndpoint_handles change)

/-- Both services and clients are unaltered. -/
theorem Unaltered.customEndpoint (same : Unaltered s s') :
    s'.customEndpoint kind slot = s.customEndpoint kind slot := by
  cases kind with
  | service => exact congrFun same.services slot
  | client => exact congrFun same.clients slot

/-- The endpoint, and the request for data. -/
theorem createEndpointOnAgent_asks {call : EndpointCall} {members : ServiceTypeSupport}
    {serviceName : CString} {qos : QosProfile}
    (isOwner : (s.customEndpoint kind slot).ownerNode = some node)
    (typed : (s.customEndpoint kind slot).typeSupportCallbacks = some members)
    (named : s.Named kind.pool handle ⟨some serviceName, none⟩)
    (returned : createEndpointOnAgent cfg kind call members serviceName qos handle slot node session
      s = .ok (result, s')) :
    Asks cfg s s' kind.pool session (call.creation.room = true) result := by
  unfold createEndpointOnAgent at returned
  generalize isNumbered : s.uxrObjectId session kind.objectType = drawn at returned
  have start : Adds s drawn.2 session [] :=
    isNumbered ▸ (Wrote.nothing _ _).number kind.objectType
  have isIssued : Issued s drawn.2 session drawn.1 :=
    isNumbered ▸ issued_uxrObjectId kind.objectType
  have before : Unaltered s drawn.2 := isNumbered ▸ unaltered_uxrObjectId _ _ kind.objectType
  have isKind : drawn.1.type = kind.objectType := isNumbered ▸ rfl
  obtain ⟨objectId, numbered⟩ := drawn
  dsimp only at returned start isIssued before
  generalize isFilled : numbered.modifyEndpoint kind slot _ = filled at returned
  have filledWrote : Adds s filled session [] :=
    start.same (isFilled ▸ Rmw.modifyEndpoint_silent _)
  have nodes : filled.customNodes = s.customNodes := by
    rw [← isFilled, Rmw.modifyEndpoint_nodes]
    exact before.nodes
  have isEndpoint : filled.customEndpoint kind slot =
      { s.customEndpoint kind slot with objectId := objectId } := by
    rw [← isFilled, Rmw.customEndpoint_modifyEndpoint, before.customEndpoint]
  rw [nodes] at returned
  split at returned
  · exact .of_fail filledWrote returned
  · rename_i request isRequest
    have sentWrote := filledWrote.asked request call.creation.room
      (XrceRequest.keeps_of_creates (creates_endpointRequest isRequest).1) fun object creates => by
      cases creates.symm.trans (creates_endpointRequest isRequest).1
      rw [← isFilled]
      simpa only [Issued, Rmw.modifyEndpoint_sessions] using isIssued
    have sentSame := unaltered_uxrBuffer filled session request
      call.creation.room
    obtain ⟨contents, read, returned⟩ := bind_eq_ok.mp returned
    generalize isStored : Rmw.storeHandle _ kind.pool handle _ = stored at returned
    have storedWrote : Adds s stored session _ :=
      sentWrote.same (isStored ▸ .storeHandle_data read (some slot))
    obtain ⟨⟨created, ran⟩, runs, returned⟩ := bind_eq_ok.mp returned
    have ranWrote := storedWrote.run runs
    have ranSame := runXrceSession_unaltered runs
    dsimp only at returned
    split at returned
    · generalize isStreamed : ran.modifyEndpoint kind slot _ = streamed at returned
      have streamedWrote : Adds s streamed session _ := ranWrote.same
        (isStreamed ▸ Rmw.modifyEndpoint_silent _)
      have dataWrote := streamedWrote.asked (.requestData objectId (dataRequestStreamId qos))
        call.dataRequestRoom (fun _ absurd => by cases absurd) fun object absurd => by cases absurd
      have dataSame := unaltered_uxrBuffer streamed session
        (.requestData objectId (dataRequestStreamId qos)) call.dataRequestRoom
      generalize isData :
        streamed.uxrBuffer session (.requestData objectId (dataRequestStreamId qos))
          call.dataRequestRoom = data at returned dataWrote dataSame
      obtain ⟨number, data⟩ := data
      dsimp only at returned dataWrote dataSame
      have isLast : data.customEndpoint kind slot = { s.customEndpoint kind slot with
          objectId := objectId
          streamId :=
            if qos.reliability = .bestEffort then .bestEffortOutput else .reliableOutput } := by
        have same : stored.customEndpoint kind slot = filled.customEndpoint kind slot := by
          rw [← isStored]
          exact sentSame.customEndpoint
        rw [dataSame.customEndpoint, ← isStreamed, Rmw.customEndpoint_modifyEndpoint,
          ranSame.customEndpoint, same, isEndpoint]
      have lastNodes : data.customNodes = s.customNodes := by
        rw [dataSame.nodes, ← isStreamed, Rmw.modifyEndpoint_nodes, ranSame.nodes, ← isStored]
        exact sentSame.nodes.trans nodes
      generalize isEnded : data.modifyEndpoint kind slot _ = ended at returned
      have endedWrote : Adds s ended session _ :=
        dataWrote.same (isEnded ▸ Rmw.modifyEndpoint_silent _)
      have bound : ended.registry.Bound kind.pool handle slot := by
        refine bound_of_handles (filled.uxrBuffer session request call.creation.room).2
          { contents with data := some slot } ?_ rfl
        rw [← isEnded, Rmw.modifyEndpoint_handles, dataSame.handles, ← isStreamed,
          Rmw.modifyEndpoint_handles, ranSame.handles, isStored]
      have isNamed := named.name endedWrote.names bound
      cases returned
      refine ⟨_, endedWrote, fun other isOther => ?_⟩
      cases isOther
      refine ⟨slot, bound, fun room => ?_⟩
      unfold Rmw.MadeFrom
      rw [← isEnded] at isNamed ⊢
      rw [Rmw.entity_endpoint, Rmw.customEndpoint_modifyEndpoint, isLast,
        Rmw.participantOf_of_owner node, Rmw.modifyEndpoint_nodes, lastNodes]
      · refine ⟨_, .endpoint _ kind serviceName members qos request isNamed typed
          ⟨rfl, isKind⟩ rfl isRequest, ?_⟩
        rw [journal_requestData, room]
        rfl
      · exact isOwner
    · have released : Adds s (ran.putMemory kind.pool slot) session _ :=
        ranWrote.same (.putMemory _ _ _)
      exact .of_fail released returned

/-- The slot, and the rest. -/
theorem fillEndpoint_asks {call : EndpointCall} {typeSupport : TypeSupportHandle ServiceTypeSupport}
    {serviceName : CString} {qos : QosProfile}
    (context : (s.customNodes node).context = some session)
    (named : s.Named kind.pool handle ⟨some serviceName, none⟩)
    (returned : fillEndpoint cfg kind call typeSupport serviceName qos handle slot (some node) s =
      .ok (result, s')) : Asks cfg s s' kind.pool session (call.creation.room = true) result := by
  unfold fillEndpoint at returned
  generalize isFilled : s.modifyEndpoint kind slot _ = filled at returned
  have start : Adds s filled session [] :=
    .of_silent session (isFilled ▸ Rmw.modifyEndpoint_silent _)
  cases typeSupport with
  | undefined => exact .of_fail start returned
  | nullData =>
      have nulled : Adds s (filled.modifyEndpoint kind slot fun old =>
          { old with typeSupportCallbacks := none }) session _ :=
        start.same (Rmw.modifyEndpoint_silent _)
      exact .of_fail nulled returned
  | found members =>
      simp only [deref, ok_bind] at returned
      generalize isTyped : filled.modifyEndpoint kind slot _ = typed at returned
      have isEndpoint : typed.customEndpoint kind slot = { s.customEndpoint kind slot with
          rmwHandle := some handle
          ownerNode := some node
          typeSupportCallbacks := some members } := by
        rw [← isTyped, Rmw.customEndpoint_modifyEndpoint, ← isFilled,
          Rmw.customEndpoint_modifyEndpoint]
      have isContext : (typed.customNodes node).context = some session := by
        rw [← isTyped, Rmw.modifyEndpoint_nodes, ← isFilled, Rmw.modifyEndpoint_nodes]
        exact context
      have silent : Silent s typed := by
        rw [← isTyped, ← isFilled]
        exact (Rmw.modifyEndpoint_silent _).trans (Rmw.modifyEndpoint_silent _)
      have isNamed : typed.Named kind.pool handle ⟨some serviceName, none⟩ := by
        have same : typed.handles = s.handles := by
          rw [← isTyped, Rmw.modifyEndpoint_handles, ← isFilled, Rmw.modifyEndpoint_handles]
        exact named.of_handles same
      rw [isContext] at returned
      simp only [ok_bind] at returned
      exact (createEndpointOnAgent_asks (by rw [isEndpoint]) (by rw [isEndpoint]) isNamed
        returned).of_before silent

/-- `rmw_create_service` and `rmw_create_client`. -/
theorem createEndpoint_asks {call : EndpointCall} (isNode : call.node = some nodeHandle)
    (bound : s.registry.Bound .node nodeHandle node)
    (context : (s.customNodes node).context = some session)
    (returned : createEndpoint cfg kind call s = .ok (result, s')) :
    Asks cfg s s' kind.pool session (call.creation.room = true) result := by
  have nothing : Adds s s session [] := .nothing _ _
  unfold createEndpoint at returned
  rw [isNode] at returned
  split at returned
  · rename_i other typeSupport isOther isTyped
    cases isOther
    obtain ⟨contents, read, returned⟩ := bind_eq_ok.mp returned
    rw [read_of_bound bound read] at returned
    split at returned
    · split at returned
      · rename_i first rest qos isName isQos
        dsimp only at returned
        split at returned
        · generalize isContents : RmwHandle.mk _ _ _ _ = given at returned
          have allocated := Silent.allocateHandle s kind.pool given
          have named := named_allocateHandle s kind.pool given
          split at returned
          · rename_i isNamed
            split at returned
            · rename_i next taken
              obtain rfl := congrArg Prod.snd taken
              exact .of_early_fail returned (allocated.trans (.of_same rfl rfl))
            · rename_i item next taken
              obtain rfl := congrArg Prod.snd taken
              obtain ⟨slot, -, returned⟩ := bind_eq_ok.mp returned
              refine (fillEndpoint_asks ?_ ?_ returned).of_before
                (allocated.trans (.of_same rfl rfl))
              · exact context
              · refine ⟨named.below, named.names.trans ?_⟩
                rw [← isContents]
                simp [RmwHandle.names, isNamed]
          · exact .of_early_fail returned allocated
        · cases returned
      · cases returned
        exact .of_null nothing rfl
    · cases returned
      exact .of_null nothing rfl
  · cases returned
    exact .of_null nothing rfl

/-- The participant of a node that has its slot, its handle and its names. -/
theorem createParticipant_asks {call : NodeCall} {domain : Nat} {name namespace_ : CString}
    (context : (s.customNodes slot).context = some session)
    (bound : s.registry.Bound .node handle slot)
    (named : s.Named .node handle ⟨some name, some (some namespace_)⟩)
    (returned : createParticipant cfg call domain name namespace_ handle slot s =
      .ok (result, s')) : Asks cfg s s' .node session (call.exchange.room = true) result := by
  unfold createParticipant at returned
  rw [context] at returned
  simp only [deref, ok_bind] at returned
  generalize isNumbered : s.uxrObjectId session .participant = drawn at returned
  have start : Adds s drawn.2 session [] := isNumbered ▸ (Wrote.nothing _ _).number .participant
  have isIssued : Issued s drawn.2 session drawn.1 := isNumbered ▸ issued_uxrObjectId .participant
  have before : Unaltered s drawn.2 := isNumbered ▸ unaltered_uxrObjectId _ _ .participant
  obtain ⟨participantId, numbered⟩ := drawn
  dsimp only at returned start isIssued before
  generalize isFilled : numbered.modifyNode slot _ = filled at returned
  have filledWrote : Adds s filled session _ := start.same (isFilled ▸ .of_same rfl rfl)
  have isParticipant : (filled.customNodes slot).participantId = participantId := by
    rw [← isFilled]
    simp [Rmw.modifyNode]
  split at returned
  · cases returned
    exact .of_null filledWrote rfl
  · rename_i request isRequest
    obtain ⟨⟨created, ran⟩, runs, returned⟩ := bind_eq_ok.mp returned
    obtain ⟨ranWrote, ranSame⟩ := filledWrote.exchanged (creates_participantRequest isRequest).1
      (isFilled ▸ isIssued) runs
    dsimp only at returned
    split at returned
    · cases returned
      refine ⟨_, ranWrote, fun other isOther => ?_⟩
      cases isOther
      have handles : s'.handles = s.handles := by
        rw [ranSame.handles, ← isFilled]
        exact before.handles
      have bound' : s'.registry.Bound .node handle slot := by
        simpa only [Bound, Rmw.registry, handles] using bound
      refine ⟨slot, bound', fun room => ?_⟩
      have entity : s'.entity .node slot = .node (filled.customNodes slot) :=
        congrArg Entity.node (congrFun ranSame.nodes slot)
      rw [← isParticipant] at isRequest
      unfold Rmw.MadeFrom
      rw [entity, room, (named.of_handles handles).names]
      exact ⟨_, .node _ _ _ _ request rfl isRequest, rfl⟩
    · obtain ⟨last, released, returned⟩ := bind_eq_ok.mp returned
      cases returned
      exact .of_null (ranWrote.same (rmwUxrceFiniNodeMemory_silent released)) rfl

/-- `rmw_create_node` writes to the session of its context. The handle designates the slot
whose participant was asked for. -/
theorem rmwCreateNode_asks {call : NodeCall} {context : Nat}
    (isContext : call.context = some context)
    (isImpl : (s.contexts context).impl = some session)
    (returned : rmwCreateNode cfg call s = .ok (result, s')) :
    Asks cfg s s' .node session (call.exchange.room = true) result := by
  have nothing : Adds s s session [] := .nothing _ _
  unfold rmwCreateNode at returned
  rw [isContext] at returned
  split at returned
  · rename_i first rest first' rest' isName isNamespace
    simp only [deref, ok_bind] at returned
    unfold createNode at returned
    split at returned
    · rename_i next taken
      obtain rfl := congrArg Prod.snd taken
      cases returned
      exact .of_null (nothing.same (.of_same rfl rfl)) rfl
    · rename_i item next taken
      obtain rfl := congrArg Prod.snd taken
      obtain ⟨slot, -, returned⟩ := bind_eq_ok.mp returned
      have isImpl' : ((s.getMemory .node).2.contexts context).impl = some session := isImpl
      rw [isImpl'] at returned
      generalize isFilled : (s.getMemory .node).2.modifyNode slot _ = filled at returned
      have early : Silent s filled := isFilled ▸ .of_same rfl rfl
      have isFilledNode : (filled.customNodes slot).context = some session := by
        rw [← isFilled]
        simp [Rmw.modifyNode]
      split at returned
      · dsimp only at returned
        generalize isContents : RmwHandle.mk _ _ _ _ = given at returned
        generalize isAllocated : filled.allocateHandle .node given = allocated at returned
        obtain ⟨block, allocated⟩ := allocated
        dsimp only at returned
        generalize isHandled : allocated.modifyNode slot _ = handled at returned
        have silent : Silent filled handled := by
          have opened : Silent filled (filled.allocateHandle .node given).2 := .allocateHandle _ _ _
          rw [isAllocated] at opened
          exact opened.trans (isHandled ▸ .of_same rfl rfl)
        have isHandledNode : (handled.customNodes slot).context = some session := by
          have same : allocated.customNodes = filled.customNodes :=
            congrArg (fun pair => pair.2.customNodes) isAllocated.symm
          rw [← isHandled]
          simpa [Rmw.modifyNode, same] using isFilledNode
        have bound : handled.registry.Bound .node block slot := by
          have isData : given.data = some slot := isContents ▸ rfl
          have isBlock : (filled.handles .node).next = block := congrArg Prod.fst isAllocated
          have isState := congrArg (fun pair => pair.2.handles) isAllocated
          have blocks : ((handled.handles .node).block block).map RmwHandle.data =
              some (some slot) := by
            rw [← isHandled]
            dsimp only [Rmw.modifyNode]
            rw [← isState, ← isBlock]
            simp [Rmw.allocateHandle, isData]
          exact blocks
        split at returned
        · rename_i isNamed
          have named : handled.Named .node block
              ⟨some (first :: rest), some (some (first' :: rest'))⟩ := by
            have named := named_allocateHandle filled .node given
            rw [isAllocated] at named
            refine Rmw.Named.of_handles ⟨named.below, named.names.trans ?_⟩ (isHandled ▸ rfl)
            rw [Bool.and_eq_true] at isNamed
            rw [← isContents]
            simp [RmwHandle.names, isNamed.1, isNamed.2]
          exact (createParticipant_asks isHandledNode bound named returned).of_before
            (early.trans silent)
        · obtain ⟨last, released, returned⟩ := bind_eq_ok.mp returned
          cases returned
          exact .of_null (.of_silent session
            ((early.trans silent).trans (rmwUxrceFiniNodeMemory_silent released))) rfl
      · cases returned
        exact .of_null (.of_silent session early) rfl
  · cases returned
    exact .of_null nothing rfl

end RmwMicroxrcedds
