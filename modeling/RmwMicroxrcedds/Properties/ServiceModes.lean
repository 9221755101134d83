import RmwMicroxrcedds.Properties.NameTruncation

/-! # The two ways to name a service

With references a service or a client is created from a document, otherwise from its names.
The document and the names are built by different functions, which size their buffers and
read the QoS profile differently.
-/

namespace RmwMicroxrcedds

variable {cfg : Config} {serviceNameId serviceName : CString} {requester : Bool}
variable {members : ServiceTypeSupport} {qos : QosProfile} {bufferSize : Nat}

/-- The names a service and its clients meet on. -/
structure ServiceNames where
  requestTopic : CString
  replyTopic : CString
  requestType : CString
  replyType : CString
deriving DecidableEq

/-- What `generate_service_topics` and `generate_service_types` produce in binary mode. -/
def binaryNames (cfg : Config) (serviceName : CString) (members : ServiceTypeSupport) :
    ServiceNames where
  requestTopic := (generateServiceTopics serviceName cfg.topicNameMaxLength).1
  replyTopic := (generateServiceTopics serviceName cfg.topicNameMaxLength).2
  requestType := (generateServiceTypes members cfg.typeNameMaxLength).1
  replyType := (generateServiceTypes members cfg.typeNameMaxLength).2

/-- The topics `build_service_xml` takes a service to have. -/
def xmlRequestTopic (serviceName : CString) (qos : QosProfile) : CString :=
  if qos.avoidRosNamespaceConventions then serviceName else fullRequestTopic serviceName

def xmlReplyTopic (serviceName : CString) (qos : QosProfile) : CString :=
  if qos.avoidRosNamespaceConventions then serviceName else fullReplyTopic serviceName

/-- The sizes of `req_full_topic_name` and `res_full_topic_name`. -/
def xmlRequestSize (cfg : Config) : Nat :=
  cfg.topicNameMaxLength + 1 + (rosRequestPrefix.length + 1) + 1 + (rosRequestSubfix.length + 1)

def xmlReplySize (cfg : Config) : Nat :=
  cfg.topicNameMaxLength + 1 + (rosReplyPrefix.length + 1) + 1 + (rosReplySubfix.length + 1)

/-- The names `build_service_xml` writes into its document. -/
def xmlNames (cfg : Config) (serviceName : CString) (members : ServiceTypeSupport)
    (qos : QosProfile) : ServiceNames where
  requestTopic := snprintfText (xmlRequestSize cfg) (xmlRequestTopic serviceName qos)
  replyTopic := snprintfText (xmlReplySize cfg) (xmlReplyTopic serviceName qos)
  requestType := (generateServiceTypes members cfg.typeNameMaxLength).1
  replyType := (generateServiceTypes members cfg.typeNameMaxLength).2

/-- The document of `build_service_xml` for given names. -/
def serviceDocument (serviceNameId serviceName : CString) (requester : Bool)
    (names : ServiceNames) : CString :=
  let kind := if requester then cstr "requester" else cstr "replier"
  cstr "<dds><" ++ kind ++ cstr " profile_name=\"" ++ serviceNameId ++
    cstr "\" service_name=\"" ++ serviceName ++ cstr "\" request_type=\"" ++ names.requestType ++
    cstr "\" reply_type=\"" ++ names.replyType ++ cstr "\"><request_topic_name>" ++
    names.requestTopic ++ cstr "</request_topic_name><reply_topic_name>" ++
    names.replyTopic ++ cstr "</reply_topic_name></" ++ kind ++ cstr "></dds>"

/-- A document that is built is the one for its names, as far as it fits, and the request topic
was found to fit its buffer. -/
theorem buildServiceXml_eq
    (built : (buildServiceXml cfg serviceNameId serviceName requester members qos
      bufferSize).2 ≠ 0) :
    (buildServiceXml cfg serviceNameId serviceName requester members qos bufferSize).1 =
        snprintfText bufferSize (serviceDocument serviceNameId serviceName requester
          (xmlNames cfg serviceName members qos)) ∧
      0 ≤ snprintfResult (xmlRequestTopic serviceName qos) ∧
      snprintfResult (xmlRequestTopic serviceName qos) < xmlRequestSize cfg := by
  by_cases request : snprintfResult (xmlRequestTopic serviceName qos) < 0 ∨
      snprintfResult (xmlRequestTopic serviceName qos) ≥ xmlRequestSize cfg
  · exact absurd (congrArg Prod.snd (if_pos request)) built
  by_cases reply : snprintfResult (xmlReplyTopic serviceName qos) < 0 ∨
      snprintfResult (xmlReplyTopic serviceName qos) ≥
        ((if qos.avoidRosNamespaceConventions then xmlRequestSize cfg
          else xmlReplySize cfg : Nat) : Int)
  · exact absurd (congrArg Prod.snd ((if_neg request).trans (if_pos reply))) built
  refine ⟨congrArg Prod.fst ((if_neg request).trans (if_neg reply)), ?_⟩
  omega

/-- A text that passes the check of its length is complete. -/
theorem within_of_result {size : Nat} {text : CString} (nonneg : 0 ≤ snprintfResult text)
    (below : snprintfResult text < size) : Within size text := by
  unfold Within
  unfold snprintfResult at nonneg below
  split at nonneg
  · rename_i small
    rw [if_pos small] at below
    omega
  · omega

theorem xmlRequestSize_eq : xmlRequestSize cfg = cfg.topicNameMaxLength + 13 := by
  simp [xmlRequestSize, rosRequestPrefix, rosRequestSubfix, cstr]

theorem xmlReplySize_eq : xmlReplySize cfg = cfg.topicNameMaxLength + 11 := by
  simp [xmlReplySize, rosReplyPrefix, rosReplySubfix, cstr]

/-- With the prefixes the names agree exactly when they fit the buffers of binary mode. -/
theorem names_agree_of_conventions (conventions : qos.avoidRosNamespaceConventions = false)
    (fits : Within (xmlRequestSize cfg) (xmlRequestTopic serviceName qos)) :
    xmlNames cfg serviceName members qos = binaryNames cfg serviceName members ↔
      Within cfg.topicNameMaxLength (fullRequestTopic serviceName) := by
  have request : xmlRequestTopic serviceName qos = fullRequestTopic serviceName := by
    simp [xmlRequestTopic, conventions]
  have reply : xmlReplyTopic serviceName qos = fullReplyTopic serviceName := by
    simp [xmlReplyTopic, conventions]
  have replyFits : Within (xmlReplySize cfg) (fullReplyTopic serviceName) := by
    rw [request, Within, length_fullRequestTopic, xmlRequestSize_eq] at fits
    rw [Within, length_fullReplyTopic, xmlReplySize_eq]
    omega
  rw [request] at fits
  simp only [xmlNames, binaryNames, request, reply, snprintfText_eq_iff.mpr fits,
    snprintfText_eq_iff.mpr replyFits, generateServiceTopics_eq, ServiceNames.mk.injEq, and_true]
  rw [eq_comm, snprintfText_eq_iff, @eq_comm _ (fullReplyTopic serviceName), snprintfText_eq_iff,
    and_iff_left_of_imp within_replyTopic]

/-- Without the prefixes one name cannot be both topics of binary mode, unless these are cut off
before they differ. -/
theorem names_agree_of_avoiding (avoiding : qos.avoidRosNamespaceConventions = true)
    (fits : Within (xmlRequestSize cfg) (xmlRequestTopic serviceName qos)) :
    xmlNames cfg serviceName members qos = binaryNames cfg serviceName members ↔
      cfg.topicNameMaxLength ≤ 2 ∧
        serviceName = (cstr "r").take (cfg.topicNameMaxLength - 1) := by
  have request : xmlRequestTopic serviceName qos = serviceName := by
    simp [xmlRequestTopic, avoiding]
  have reply : xmlReplyTopic serviceName qos = serviceName := by
    simp [xmlReplyTopic, avoiding]
  rw [request] at fits
  simp only [xmlNames, binaryNames, request, reply, snprintfText_eq_iff.mpr fits,
    generateServiceTopics_eq, ServiceNames.mk.injEq, and_true]
  have heads : fullRequestTopic serviceName = 114 :: 113 :: (serviceName ++ rosRequestSubfix) ∧
      fullReplyTopic serviceName = 114 :: 114 :: (serviceName ++ rosReplySubfix) := ⟨rfl, rfl⟩
  have single : cstr "r" = [114] := rfl
  rw [heads.1, heads.2, single]
  have replySize : xmlReplySize cfg - 1 = cfg.topicNameMaxLength + 10 := by
    rw [xmlReplySize_eq]
    omega
  unfold snprintfText
  rw [replySize]
  constructor
  · intro same
    obtain ⟨isRequest, isReply⟩ := same
    -- with room for two letters the second one differs
    rcases Nat.lt_or_ge 2 cfg.topicNameMaxLength with large | small
    · have twice : 2 ≤ cfg.topicNameMaxLength - 1 := by omega
      obtain ⟨more, isMore⟩ := Nat.exists_eq_add_of_le' twice
      rw [isMore, List.take_succ_cons, List.take_succ_cons] at isRequest isReply
      rw [isRequest, List.take_succ_cons, List.take_succ_cons] at isReply
      cases (List.cons.inj (List.cons.inj isReply).2).1
    · refine ⟨small, isRequest.trans ?_⟩
      have atMost : cfg.topicNameMaxLength - 1 = 0 ∨ cfg.topicNameMaxLength - 1 = 1 := by omega
      rcases atMost with none | one
      · rw [none, List.take_zero, List.take_zero]
      · rw [one]
        rfl
  · intro short
    obtain ⟨small, isName⟩ := short
    have atMost : cfg.topicNameMaxLength - 1 = 0 ∨ cfg.topicNameMaxLength - 1 = 1 := by omega
    rcases atMost with none | one
    · rw [none, List.take_zero] at isName
      rw [isName, none]
      simp
    · rw [one] at isName
      rw [isName, one]
      simp

/-- The documents of `build_service_xml` carry the names of binary mode, in full, exactly when the
document fits and either the names have their prefixes and fit the buffers of binary mode, or
these buffers have no room for more than the first letter. -/
theorem service_names_agree_iff
    (built : (buildServiceXml cfg serviceNameId serviceName requester members qos
      bufferSize).2 ≠ 0) :
    ((buildServiceXml cfg serviceNameId serviceName requester members qos bufferSize).1 =
        serviceDocument serviceNameId serviceName requester (xmlNames cfg serviceName members qos) ∧
      xmlNames cfg serviceName members qos = binaryNames cfg serviceName members ↔
    Within bufferSize (serviceDocument serviceNameId serviceName requester
        (xmlNames cfg serviceName members qos)) ∧
      if qos.avoidRosNamespaceConventions then cfg.topicNameMaxLength ≤ 2 ∧
        serviceName = (cstr "r").take (cfg.topicNameMaxLength - 1)
      else Within cfg.topicNameMaxLength (fullRequestTopic serviceName)) ∧
    ∀ kind objectId participantId,
      endpointRequest { cfg with useRefs := false } kind objectId participantId serviceName members
        qos = some (.createEndpointBin objectId participantId serviceName
          (binaryNames cfg serviceName members).requestType
          (binaryNames cfg serviceName members).replyType
          (binaryNames cfg serviceName members).requestTopic
          (binaryNames cfg serviceName members).replyTopic) := by
  obtain ⟨document, nonneg, below⟩ := buildServiceXml_eq built
  have fits := within_of_result nonneg below
  refine ⟨?_, fun _ _ _ => rfl⟩
  rw [document, snprintfText_eq_iff]
  apply and_congr_right
  intro _
  cases conventions : qos.avoidRosNamespaceConventions with
  | false => exact names_agree_of_conventions conventions fits
  | true => exact names_agree_of_avoiding conventions fits

namespace Small

/-- A build with references and room for topic names of twelve bytes. -/
def refsConfig : Config := { config with useRefs := true, topicNameMaxLength := 12 }

/-- The members of the small service. -/
def serviceMembers : ServiceTypeSupport := ⟨⟨none, cstr "a"⟩, ⟨none, cstr "b"⟩⟩

end Small

/-- The service `s` has the same names in both modes. -/
theorem service_names_agree_small :
    xmlNames Small.refsConfig (cstr "s") Small.serviceMembers {} =
      binaryNames Small.refsConfig (cstr "s") Small.serviceMembers := by
  have built :
    (buildServiceXml Small.refsConfig (cstr "0_8") (cstr "s") false Small.serviceMembers {}
      300).2 ≠ 0 := by decide +kernel
  apply ((service_names_agree_iff built).1.mpr ⟨?_, ?_⟩).2
  · unfold Within
    decide +kernel
  · unfold Within
    decide +kernel

/-- Without the conventions, and with a name that is short enough for the document only, the
topics of the two modes differ. -/
theorem service_names_differ :
    (buildServiceXml Small.refsConfig (cstr "0_8") (cstr "s") false Small.serviceMembers
        { avoidRosNamespaceConventions := true } 300).2 ≠ 0 ∧
      (xmlNames Small.refsConfig (cstr "s") Small.serviceMembers
        { avoidRosNamespaceConventions := true }).requestTopic = cstr "s" ∧
      (binaryNames Small.refsConfig (cstr "s") Small.serviceMembers).requestTopic =
        cstr "rqsRequest" ∧
    (buildServiceXml Small.refsConfig (cstr "0_8") (cstr "abcd") false Small.serviceMembers {}
        300).2 ≠ 0 ∧
      (xmlNames Small.refsConfig (cstr "abcd") Small.serviceMembers {}).requestTopic =
        cstr "rqabcdRequest" ∧
      (binaryNames Small.refsConfig (cstr "abcd") Small.serviceMembers).requestTopic =
        cstr "rqabcdReque" := by
  decide +kernel

end RmwMicroxrcedds
