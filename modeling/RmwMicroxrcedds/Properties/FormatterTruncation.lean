import RmwMicroxrcedds.Properties.ServiceModes

/-! # What the formatters report

Most formatters test the result of `snprintf` for being negative and too large at once, which
only a text longer than any `int` can be. They report truncation exactly where another check
finds it: for a topic name that is too long, and for the topic names of a service.
-/

namespace RmwMicroxrcedds

variable {cfg : Config} {size : Nat} {text : CString} {outcome : CString × Int}
variable {topicName : CString} {members : MessageTypeSupport} {qos : QosProfile}

/-- A complete text for a buffer of some size, and the names in it that are written to buffers
of their own before. -/
structure Document where
  size : Nat
  text : CString
  parts : List (Nat × CString) := []

/-- The text and every name in it are shorter than their buffers. -/
def Document.Fits (document : Document) : Prop :=
  Within document.size document.text ∧ ∀ part ∈ document.parts, Within part.1 part.2

/-- A formatter that returns a nonzero value has written the complete text with the complete
names, and one for which any of them does not fit returns zero. -/
def Document.Reported (document : Document) (outcome : CString × Int) : Prop :=
  (outcome.2 ≠ 0 → outcome.1 = document.text ∧ ∀ part ∈ document.parts, Within part.1 part.2) ∧
    (¬ document.Fits → outcome.2 = 0)

/-- A formatter that writes the complete text when everything fits is correct where it does, and
where it returns zero. -/
theorem Document.reported_iff {document : Document}
    (writes : document.Fits → outcome.2 ≠ 0 → outcome.1 = document.text) :
    document.Reported outcome ↔ document.Fits ∨ outcome.2 = 0 := by
  constructor
  · intro reported
    by_cases fits : document.Fits
    · exact Or.inl fits
    · exact Or.inr (reported.2 fits)
  · intro correct
    cases correct with
    | inl fits => exact ⟨fun built => ⟨writes fits built, fits.2⟩, fun cut => absurd fits cut⟩
    | inr zero => exact ⟨fun built => absurd zero built, fun _ => zero⟩

/-- `snprintf` fails on the text, and the size of the buffer is a negative `int`. -/
def Overlong (size : Nat) (text : CString) : Prop := intMax < text.length ∧ intOfSize size < 0

/-- The check of a text against its buffer that can fail: the text is too long for the buffer,
or for an `int`. -/
def Rejected (size : Nat) (text : CString) : Prop := size ≤ text.length ∨ intMax < text.length

/-- The check of the formatters finds the texts that are too long. -/
theorem truncationChecked_iff :
    truncationChecked (snprintfResult text) size = true ↔ Overlong size text := by
  rw [truncationChecked, Bool.and_eq_true, decide_eq_true_eq, decide_eq_true_eq, snprintfResult,
    Overlong]
  split <;> omega

/-- The check that most formatters make returns zero for overlong texts only. -/
theorem checkedResult_eq_zero (nonempty : text ≠ []) :
    checkedResult text size = 0 ↔ Overlong size text := by
  have positive := List.length_pos_iff_ne_nil.mpr nonempty
  unfold checkedResult
  split
  · rename_i checked
    exact ⟨fun _ => truncationChecked_iff.mp checked, fun _ => rfl⟩
  · rename_i unchecked
    have notOverlong : ¬ Overlong size text := fun overlong =>
      unchecked (truncationChecked_iff.mpr overlong)
    refine ⟨fun zero => ?_, fun overlong => absurd overlong notOverlong⟩
    unfold snprintfResult at zero
    split at zero <;> omega

/-- The check with a signed comparison finds them, too. -/
theorem rejected_iff :
    (snprintfResult text < 0 ∨ snprintfResult text ≥ size) ↔ Rejected size text := by
  rw [Rejected, snprintfResult]
  split <;> omega

/-- The document of a participant. -/
def participantDocument (name : CString) : CString :=
  cstr "<dds><participant><rtps><name>" ++ name ++ cstr "</name></rtps></participant></dds>"

/-- The document of a topic with its name and its type. -/
def topicDocument (name type : CString) : CString :=
  cstr "<dds><topic><name>" ++ name ++ cstr "</name><dataType>" ++ type ++
    cstr "</dataType></topic></dds>"

/-- The document of a data writer or a data reader. -/
def endpointDocument (element : CString) (qos : QosProfile) (name type : CString) : CString :=
  cstr "<dds><" ++ element ++
    cstr "><historyMemoryPolicy>PREALLOCATED_WITH_REALLOC</historyMemoryPolicy>" ++
    cstr "<qos><reliability><kind>" ++
    (if qos.reliability = .bestEffort then cstr "BEST_EFFORT" else cstr "RELIABLE") ++
    cstr "</kind></reliability></qos>" ++ cstr "<topic><kind>NO_KEY</kind><name>" ++ name ++
    cstr "</name><dataType>" ++ type ++
    cstr "</dataType><historyQos><kind>KEEP_ALL</kind></historyQos></topic></" ++ element ++
    cstr "></dds>"

/-- The buffers of the names in the document of a topic, a data writer or a data reader. -/
def namedParts (cfg : Config) (topicName : CString) (members : MessageTypeSupport)
    (qos : QosProfile) : List (Nat × CString) :=
  [(xmlTopicNameSize cfg, xmlTopicName topicName qos),
    (cfg.typeNameMaxLength, fullTypeName members)]

/-- The names as they are written to these buffers. -/
def writtenTopic (cfg : Config) (topicName : CString) (qos : QosProfile) : CString :=
  snprintfText (xmlTopicNameSize cfg) (xmlTopicName topicName qos)

def writtenType (cfg : Config) (members : MessageTypeSupport) : CString :=
  snprintfText cfg.typeNameMaxLength (fullTypeName members)

/-- The size of the check of the reply topic in `build_service_xml`. -/
def xmlReplyBound (cfg : Config) (qos : QosProfile) : Nat :=
  if qos.avoidRosNamespaceConventions then xmlRequestSize cfg else xmlReplySize cfg

/-- The names of a service that are not cut off. -/
def completeNames (serviceName : CString) (members : ServiceTypeSupport) (qos : QosProfile) :
    ServiceNames where
  requestTopic := xmlRequestTopic serviceName qos
  replyTopic := xmlReplyTopic serviceName qos
  requestType := fullTypeName members.requestMembers
  replyType := fullTypeName members.responseMembers

/-- The buffers of the names in the document of a service. -/
def serviceParts (cfg : Config) (serviceName : CString) (members : ServiceTypeSupport)
    (qos : QosProfile) : List (Nat × CString) :=
  [(xmlRequestSize cfg, xmlRequestTopic serviceName qos),
    (xmlReplySize cfg, xmlReplyTopic serviceName qos),
    (cfg.typeNameMaxLength, fullTypeName members.requestMembers),
    (cfg.typeNameMaxLength, fullTypeName members.responseMembers)]

namespace Document

/-- What `build_participant_xml` is to write. -/
def participant (size : Nat) (name : CString) : Document := ⟨size, participantDocument name, []⟩

/-- What `build_topic_xml` is to write. -/
def topic (cfg : Config) (size : Nat) (topicName : CString) (members : MessageTypeSupport)
    (qos : QosProfile) : Document :=
  ⟨size, topicDocument (xmlTopicName topicName qos) (fullTypeName members),
    namedParts cfg topicName members qos⟩

/-- What `build_datawriter_xml` and `build_datareader_xml` are to write. -/
def endpoint (cfg : Config) (size : Nat) (element topicName : CString)
    (members : MessageTypeSupport) (qos : QosProfile) : Document :=
  ⟨size, endpointDocument element qos (xmlTopicName topicName qos) (fullTypeName members),
    namedParts cfg topicName members qos⟩

/-- What `build_service_xml` is to write. -/
def service (cfg : Config) (size : Nat) (serviceNameId serviceName : CString) (requester : Bool)
    (members : ServiceTypeSupport) (qos : QosProfile) : Document :=
  ⟨size, serviceDocument serviceNameId serviceName requester
    (completeNames serviceName members qos), serviceParts cfg serviceName members qos⟩

/-- What `generate_topic_name` is to write. -/
def fullTopicName (size : Nat) (topicName : CString) : Document :=
  ⟨size, rosTopicPrefix ++ topicName, []⟩

/-- What `generate_name` is to write. -/
def objectName (size : Nat) (id : ObjectId) : Document :=
  ⟨size, decimal (wire id.id) ++ cstr "_" ++ decimal id.type.raw.toNat, []⟩

end Document

/-- A formatter that refuses some inputs and writes a text for all others, with the check that
most of them make: it is correct where everything fits, and where it returns zero. -/
theorem Document.reported_iff_of_checks {document : Document} {refused : Prop} {written : CString}
    (whole : (∀ part ∈ document.parts, Within part.1 part.2) → written = document.text)
    (nonempty : written ≠ []) (refuses : refused → outcome.2 = 0)
    (built : ¬ refused →
      outcome = (snprintfText document.size written, checkedResult written document.size)) :
    document.Reported outcome ↔
      document.Fits ∨ refused ∨ Overlong document.size written := by
  by_cases isRefused : refused
  · have zero := refuses isRefused
    rw [Document.reported_iff fun _ nonzero => absurd zero nonzero]
    simp only [zero, isRefused, true_or, or_true]
  · rw [Document.reported_iff, built isRefused, checkedResult_eq_zero nonempty]
    · simp only [isRefused, false_or]
    · intro fits _
      rw [built isRefused, whole fits.2]
      exact snprintfText_eq_iff.mpr fits.1

/-- A formatter that writes its text whatever it is. -/
theorem Document.reported_iff_of_written (document : Document) (nonempty : document.text ≠ []) :
    document.Reported (snprintfText document.size document.text,
        checkedResult document.text document.size) ↔
      document.Fits ∨ Overlong document.size document.text := by
  have iff : document.Reported (snprintfText document.size document.text,
        checkedResult document.text document.size) ↔
      document.Fits ∨ False ∨ Overlong document.size document.text :=
    Document.reported_iff_of_checks (fun _ => rfl) nonempty False.elim fun _ => rfl
  rwa [false_or] at iff

/-- Names that fit their buffers are written completely. -/
theorem writtenTopic_of_parts
    (fit : ∀ part ∈ namedParts cfg topicName members qos, Within part.1 part.2) :
    writtenTopic cfg topicName qos = xmlTopicName topicName qos ∧
      writtenType cfg members = fullTypeName members := by
  simp only [namedParts, List.mem_cons, List.not_mem_nil, or_false, forall_eq_or_imp,
    forall_eq] at fit
  exact ⟨snprintfText_eq_iff.mpr fit.1, snprintfText_eq_iff.mpr fit.2⟩

/-- `build_topic_xml` refuses a topic name that is too long. -/
theorem topic_reported_iff :
    (Document.topic cfg size topicName members qos).Reported
        (buildTopicXml cfg topicName members qos size) ↔
      (Document.topic cfg size topicName members qos).Fits ∨
        (cfg.topicNameMaxLength < topicName.length ∨ Overlong size (xmlTopicName topicName qos)) ∨
        Overlong size
          (topicDocument (writtenTopic cfg topicName qos) (writtenType cfg members)) := by
  have typed : (generateTypeName members cfg.typeNameMaxLength).2 ≠ 0 := by
    simp [generateTypeName]
  apply Document.reported_iff_of_checks
  · intro fit
    obtain ⟨isTopic, isType⟩ := writtenTopic_of_parts fit
    rw [isTopic, isType]
    rfl
  · exact List.append_ne_nil_of_right_ne_nil _ (by decide)
  · intro refused
    unfold buildTopicXml
    rcases refused with long | overlong
    · exact congrArg Prod.snd (if_pos (Or.inl long))
    · dsimp only
      split
      · rfl
      · exact congrArg Prod.snd (if_pos (truncationChecked_iff.mpr overlong))
  · intro accepted
    obtain ⟨short, notOverlong⟩ := not_or.mp accepted
    unfold buildTopicXml
    dsimp only
    rw [if_neg (not_or.mpr ⟨short, typed⟩),
      if_neg fun checked => notOverlong (truncationChecked_iff.mp checked)]
    rfl

/-- `build_xml` refuses nothing but overlong texts. -/
theorem endpoint_reported_iff {element : CString} :
    (Document.endpoint cfg size element topicName members qos).Reported
        (buildXml cfg element topicName members qos size) ↔
      (Document.endpoint cfg size element topicName members qos).Fits ∨
        Overlong size (xmlTopicName topicName qos) ∨
        Overlong size (endpointDocument element qos (writtenTopic cfg topicName qos)
          (writtenType cfg members)) := by
  have typed : (generateTypeName members cfg.typeNameMaxLength).2 ≠ 0 := by
    simp [generateTypeName]
  apply Document.reported_iff_of_checks
  · intro fit
    obtain ⟨isTopic, isType⟩ := writtenTopic_of_parts fit
    rw [isTopic, isType]
    rfl
  · exact List.append_ne_nil_of_right_ne_nil _ (by decide)
  · intro overlong
    unfold buildXml
    dsimp only
    rw [if_neg typed]
    exact congrArg Prod.snd (if_pos (truncationChecked_iff.mpr overlong))
  · intro accepted
    unfold buildXml
    dsimp only
    rw [if_neg typed, if_neg fun checked => accepted (truncationChecked_iff.mp checked)]
    rfl

/-- `build_service_xml` refuses topic names that do not fit the buffers it checks them
against. -/
theorem service_reported_iff {serviceNameId serviceName : CString} {requester : Bool}
    {members : ServiceTypeSupport} :
    (Document.service cfg size serviceNameId serviceName requester members qos).Reported
        (buildServiceXml cfg serviceNameId serviceName requester members qos size) ↔
      (Document.service cfg size serviceNameId serviceName requester members qos).Fits ∨
        (Rejected (xmlRequestSize cfg) (xmlRequestTopic serviceName qos) ∨
          Rejected (xmlReplyBound cfg qos) (xmlReplyTopic serviceName qos)) ∨
        Overlong size (serviceDocument serviceNameId serviceName requester
          (xmlNames cfg serviceName members qos)) := by
  have checks : buildServiceXml cfg serviceNameId serviceName requester members qos size =
      if snprintfResult (xmlRequestTopic serviceName qos) < 0 ∨
          snprintfResult (xmlRequestTopic serviceName qos) ≥ xmlRequestSize cfg then ([], 0)
      else if snprintfResult (xmlReplyTopic serviceName qos) < 0 ∨
          snprintfResult (xmlReplyTopic serviceName qos) ≥ xmlReplyBound cfg qos then ([], 0)
      else
        (snprintfText size (serviceDocument serviceNameId serviceName requester
            (xmlNames cfg serviceName members qos)),
          checkedResult (serviceDocument serviceNameId serviceName requester
            (xmlNames cfg serviceName members qos)) size) := rfl
  rw [checks]
  apply Document.reported_iff_of_checks
  · intro fit
    simp only [Document.service, serviceParts, List.mem_cons, List.not_mem_nil, or_false,
      forall_eq_or_imp, forall_eq] at fit
    obtain ⟨request, reply, requestType, replyType⟩ := fit
    have names : xmlNames cfg serviceName members qos = completeNames serviceName members qos := by
      simp only [xmlNames, completeNames, ServiceNames.mk.injEq]
      exact ⟨snprintfText_eq_iff.mpr request, snprintfText_eq_iff.mpr reply,
        snprintfText_eq_iff.mpr requestType, snprintfText_eq_iff.mpr replyType⟩
    rw [names]
    rfl
  · exact List.append_ne_nil_of_right_ne_nil _ (by decide)
  · intro refused
    rcases refused with request | reply
    · rw [if_pos (rejected_iff.mpr request)]
    · split
      · rfl
      · rw [if_pos (rejected_iff.mpr reply)]
  · intro accepted
    obtain ⟨request, reply⟩ := not_or.mp accepted
    rw [if_neg fun checked => request (rejected_iff.mp checked),
      if_neg fun checked => reply (rejected_iff.mp checked)]
    rfl

/-- A type name is as long as `generate_type_name` says when it has no namespace, and by the
separator longer when it has one. -/
theorem length_fullTypeName (size : Nat) : (fullTypeName members).length + 1 =
    (generateTypeName members size).2 + if members.messageNamespace.isSome then 2 else 0 := by
  cases isNamespace : members.messageNamespace with
  | none =>
      simp [fullTypeName, generateTypeName, isNamespace, cstr]
      omega
  | some space =>
      simp [fullTypeName, generateTypeName, isNamespace, cstr]
      omega

/-- For every text, every buffer size and every build: a formatter that returns a nonzero value
has written its complete text, and one whose text does not fit returns zero, exactly when all
parts fit or one of the checks that can fail does; and `generate_type_name` returns the size of
the type name exactly when the type has no namespace. -/
theorem formatters_report_iff (cfg : Config) (size : Nat) :
    (∀ name, (Document.participant size name).Reported (buildParticipantXml name size) ↔
      (Document.participant size name).Fits ∨ Overlong size (participantDocument name)) ∧
    (∀ serviceNameId serviceName requester members qos,
      (Document.service cfg size serviceNameId serviceName requester members qos).Reported
          (buildServiceXml cfg serviceNameId serviceName requester members qos size) ↔
        (Document.service cfg size serviceNameId serviceName requester members qos).Fits ∨
          (Rejected (xmlRequestSize cfg) (xmlRequestTopic serviceName qos) ∨
            Rejected (xmlReplyBound cfg qos) (xmlReplyTopic serviceName qos)) ∨
          Overlong size (serviceDocument serviceNameId serviceName requester
            (xmlNames cfg serviceName members qos))) ∧
    (∀ topicName members qos,
      (Document.topic cfg size topicName members qos).Reported
          (buildTopicXml cfg topicName members qos size) ↔
        (Document.topic cfg size topicName members qos).Fits ∨
          (cfg.topicNameMaxLength < topicName.length ∨ Overlong size (xmlTopicName topicName qos)) ∨
          Overlong size
            (topicDocument (writtenTopic cfg topicName qos) (writtenType cfg members))) ∧
    (∀ topicName members qos,
      (Document.endpoint cfg size (cstr "data_writer") topicName members qos).Reported
          (buildDatawriterXml cfg topicName members qos size) ↔
        (Document.endpoint cfg size (cstr "data_writer") topicName members qos).Fits ∨
          Overlong size (xmlTopicName topicName qos) ∨
          Overlong size (endpointDocument (cstr "data_writer") qos
            (writtenTopic cfg topicName qos) (writtenType cfg members))) ∧
    (∀ topicName members qos,
      (Document.endpoint cfg size (cstr "data_reader") topicName members qos).Reported
          (buildDatareaderXml cfg topicName members qos size) ↔
        (Document.endpoint cfg size (cstr "data_reader") topicName members qos).Fits ∨
          Overlong size (xmlTopicName topicName qos) ∨
          Overlong size (endpointDocument (cstr "data_reader") qos
            (writtenTopic cfg topicName qos) (writtenType cfg members))) ∧
    (∀ id, (Document.objectName size id).Reported (generateName id size) ↔
      (Document.objectName size id).Fits ∨ Overlong size (Document.objectName size id).text) ∧
    (∀ topicName,
      (Document.fullTopicName size topicName).Reported (generateTopicName topicName size) ↔
        (Document.fullTopicName size topicName).Fits ∨
          Overlong size (rosTopicPrefix ++ topicName)) ∧
    ∀ members, (generateTypeName members size).2 = (fullTypeName members).length + 1 ↔
      members.messageNamespace = none := by
  refine ⟨fun name => ?_, fun serviceNameId serviceName requester members qos => ?_,
    fun topicName members qos => topic_reported_iff,
    fun topicName members qos => endpoint_reported_iff,
    fun topicName members qos => endpoint_reported_iff, fun id => ?_, fun topicName => ?_,
    fun members => ?_⟩
  · exact Document.reported_iff_of_written (Document.participant size name)
      (List.append_ne_nil_of_right_ne_nil _ (by decide))
  · exact service_reported_iff
  · exact Document.reported_iff_of_written (Document.objectName size id)
      (by simp [Document.objectName, cstr])
  · exact Document.reported_iff_of_written (Document.fullTopicName size topicName)
      (by simp [Document.fullTopicName, rosTopicPrefix, cstr])
  · rw [length_fullTypeName size]
    cases members.messageNamespace <;> simp

/-- A document that is cut off by its buffer, and one with a type name that is cut off, are
reported as written, a topic name as well, and the size of a type name with a namespace is too
small. -/
theorem truncation_is_not_reported :
    ¬ (Document.participant 16 (cstr "n")).Reported (buildParticipantXml (cstr "n") 16) ∧
    ¬ (Document.endpoint Small.config 512 (cstr "data_writer") (cstr "t") ⟨none, cstr "Image"⟩
        {}).Reported
      (buildDatawriterXml Small.config (cstr "t") ⟨none, cstr "Image"⟩ {} 512) ∧
    ¬ (Document.fullTopicName 4 (cstr "chatter")).Reported
      (generateTopicName (cstr "chatter") 4) ∧
    (generateTypeName ⟨some (cstr "std_msgs"), cstr "Int32"⟩ 64).2 ≠
      (fullTypeName ⟨some (cstr "std_msgs"), cstr "Int32"⟩).length + 1 := by
  refine ⟨?_, ?_, ?_, by decide⟩
  · intro reported
    obtain ⟨whole, -⟩ := reported.1 (by decide +kernel)
    exact absurd (congrArg List.length whole) (by decide +kernel)
  · intro reported
    obtain ⟨whole, -⟩ := reported.1 (by decide +kernel)
    exact absurd (congrArg List.length whole) (by decide +kernel)
  · intro reported
    obtain ⟨whole, -⟩ := reported.1 (by decide)
    exact absurd (congrArg List.length whole) (by decide)

end RmwMicroxrcedds
