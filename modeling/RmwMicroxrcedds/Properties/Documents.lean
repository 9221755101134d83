import RmwMicroxrcedds.Library.Template
import RmwMicroxrcedds.Properties.FormatterTruncation

/-! # What documents say

The agent is told of some objects by documents, which the layer writes with `snprintf`. As long
as the names in it are plain and all of it fits its buffers, a document says what it is of, under
which names, with which types and with which quality of service, and it says nothing else.
-/

namespace RmwMicroxrcedds

open Template

/-- The elements of documents. -/
inductive XmlElement where
  | participant
  | topic
  | dataWriter
  | dataReader
  | requester
  | replier
deriving DecidableEq

namespace XmlElement

/-- All elements. -/
def all : List XmlElement := [participant, topic, dataWriter, dataReader, requester, replier]

theorem mem_all (element : XmlElement) : element ∈ all := by
  cases element <;> decide

/-- The template of a data writer or a data reader. -/
def endpoint (element : CString) : Template UInt8 where
  start := cstr "<dds><" ++ element ++
    cstr "><historyMemoryPolicy>PREALLOCATED_WITH_REALLOC</historyMemoryPolicy>" ++
    cstr "<qos><reliability><kind>"
  stops :=
    [⟨cstr "</kind></reliability></qos>" ++ cstr "<topic><kind>NO_KEY</kind><name>", by decide⟩,
      ⟨cstr "</name><dataType>", by decide⟩,
      ⟨cstr "</dataType><historyQos><kind>KEEP_ALL</kind></historyQos></topic></" ++ element ++
        cstr "></dds>", List.append_ne_nil_of_right_ne_nil _ (by decide)⟩]

/-- The template of a requester or a replier. -/
def service (element : CString) : Template UInt8 where
  start := cstr "<dds><" ++ element ++ cstr " profile_name=\""
  stops :=
    [⟨cstr "\" service_name=\"", by decide⟩, ⟨cstr "\" request_type=\"", by decide⟩,
      ⟨cstr "\" reply_type=\"", by decide⟩, ⟨cstr "\"><request_topic_name>", by decide⟩,
      ⟨cstr "</request_topic_name><reply_topic_name>", by decide⟩,
      ⟨cstr "</reply_topic_name></" ++ element ++ cstr "></dds>",
        List.append_ne_nil_of_right_ne_nil _ (by decide)⟩]

/-- The document of an element, with holes for names, types and quality of service. -/
def template : XmlElement → Template UInt8
  | participant =>
      ⟨cstr "<dds><participant><rtps><name>",
        [⟨cstr "</name></rtps></participant></dds>", by decide⟩]⟩
  | topic =>
      ⟨cstr "<dds><topic><name>", [⟨cstr "</name><dataType>", by decide⟩,
        ⟨cstr "</dataType></topic></dds>", by decide⟩]⟩
  | dataWriter => endpoint (cstr "data_writer")
  | dataReader => endpoint (cstr "data_reader")
  | requester => service (cstr "requester")
  | replier => service (cstr "replier")

/-- No two elements have documents that begin alike. -/
theorem apart : Apart template := by
  intro element other
  cases element <;> cases other <;> decide

/-- Values end where markup begins. -/
theorem letter_mem (element : XmlElement) :
    ∀ stop ∈ element.template.stops, stop.letter ∈ cstr "<\"" := by
  cases element <;> decide

end XmlElement

/-- What a document is to say. -/
inductive XmlContent where
  | participant (name : CString)
  | topic (topicName : CString) (members : MessageTypeSupport) (qos : QosProfile)
  | endpoint (writer : Bool) (topicName : CString) (members : MessageTypeSupport)
      (qos : QosProfile)
  | service (requester : Bool) (serviceNameId serviceName : CString) (members : ServiceTypeSupport)
      (qos : QosProfile)

namespace XmlContent

/-- The function that writes it. -/
def build (cfg : Config) (size : Nat) : XmlContent → CString × Int
  | participant name => buildParticipantXml name size
  | topic topicName members qos => buildTopicXml cfg topicName members qos size
  | endpoint true topicName members qos => buildDatawriterXml cfg topicName members qos size
  | endpoint false topicName members qos => buildDatareaderXml cfg topicName members qos size
  | service requester serviceNameId serviceName members qos =>
      buildServiceXml cfg serviceNameId serviceName requester members qos size

/-- The complete document, with its buffers. -/
def document (cfg : Config) (size : Nat) : XmlContent → Document
  | participant name => .participant size name
  | topic topicName members qos => .topic cfg size topicName members qos
  | endpoint true topicName members qos =>
      .endpoint cfg size (cstr "data_writer") topicName members qos
  | endpoint false topicName members qos =>
      .endpoint cfg size (cstr "data_reader") topicName members qos
  | service requester serviceNameId serviceName members qos =>
      .service cfg size serviceNameId serviceName requester members qos

/-- The element of the document. -/
def element : XmlContent → XmlElement
  | participant _ => .participant
  | topic _ _ _ => .topic
  | endpoint true _ _ _ => .dataWriter
  | endpoint false _ _ _ => .dataReader
  | service true _ _ _ _ => .requester
  | service false _ _ _ _ => .replier

/-- The names, types and quality of service in the document. -/
def values : XmlContent → List CString
  | participant name => [name]
  | topic topicName members qos => [xmlTopicName topicName qos, fullTypeName members]
  | endpoint _ topicName members qos =>
      [if qos.reliability = .bestEffort then cstr "BEST_EFFORT" else cstr "RELIABLE",
        xmlTopicName topicName qos, fullTypeName members]
  | service _ serviceNameId serviceName members qos =>
      [serviceNameId, serviceName, fullTypeName members.requestMembers,
        fullTypeName members.responseMembers, xmlRequestTopic serviceName qos,
        xmlReplyTopic serviceName qos]

/-- There is no markup in the names and types. -/
def Plain (content : XmlContent) : Prop :=
  ∀ value ∈ content.values, ∀ markup ∈ cstr "<\"", markup ∉ value

variable {cfg : Config} {size : Nat} {content : XmlContent}

/-- A document that is built and fits is written completely. -/
theorem build_eq (fits : (content.document cfg size).Fits)
    (built : (content.build cfg size).2 ≠ 0) :
    (content.build cfg size).1 = (content.document cfg size).text := by
  cases content with
  | participant name =>
      exact snprintfText_eq_iff.mpr fits.1
  | topic topicName members qos => exact ((topic_reported_iff.mpr (Or.inl fits)).1 built).1
  | endpoint writer topicName members qos =>
      cases writer with
      | true => exact ((endpoint_reported_iff.mpr (Or.inl fits)).1 built).1
      | false => exact ((endpoint_reported_iff.mpr (Or.inl fits)).1 built).1
  | service requester serviceNameId serviceName members qos =>
      exact ((service_reported_iff.mpr (Or.inl fits)).1 built).1

/-- The complete document is the template of its element, filled in. -/
theorem text_eq_fill (content : XmlContent) :
    (content.document cfg size).text = content.element.template.fill content.values := by
  cases content with
  | participant name => simp [document, element, values, Document.participant,
      participantDocument, XmlElement.template, fill, fillStops]
  | topic topicName members qos => simp [document, element, values, Document.topic,
      topicDocument, XmlElement.template, fill, fillStops]
  | endpoint writer topicName members qos =>
      cases writer <;> simp [document, element, values, Document.endpoint,
        endpointDocument, XmlElement.template, XmlElement.endpoint, fill, fillStops]
  | service requester serviceNameId serviceName members qos =>
      cases requester <;> simp [document, element, values, Document.service,
        serviceDocument, completeNames, XmlElement.template, XmlElement.service, fill, fillStops]

/-- Plain names fit the template. -/
theorem Plain.fits (plain : content.Plain) :
    Fits content.element.template.stops content.values := by
  apply fits_of_forall
  · cases content with
    | participant | topic => rfl
    | endpoint writer => cases writer <;> rfl
    | service requester => cases requester <;> rfl
  · intro stop isStop value isValue
    exact plain value isValue stop.letter (content.element.letter_mem stop isStop)

end XmlContent

variable {cfg : Config} {size : Nat} {content other : XmlContent}

/-- For all names, types and qualities of service: the text that `build_participant_xml`,
`build_topic_xml`, `build_datawriter_xml`, `build_datareader_xml` or `build_service_xml` writes,
when it reports no failure, everything fits its buffer and there is no markup in the names, can be
read in one way only. A reader that knows the six templates finds the element and the values. -/
theorem documents_read_back (fits : (content.document cfg size).Fits)
    (built : (content.build cfg size).2 ≠ 0) (plain : content.Plain) (element : XmlElement)
    (values : List CString) :
    readAny XmlElement.template XmlElement.all (content.build cfg size).1 =
        some (element, values) ↔
      element = content.element ∧ values = content.values := by
  have isRead : readAny XmlElement.template XmlElement.all (content.build cfg size).1 =
      some (content.element, content.values) := by
    rw [content.build_eq fits built, content.text_eq_fill]
    exact (XmlElement.apart.readAny_eq_some content.element.mem_all).mpr ⟨plain.fits, rfl⟩
  rw [isRead]
  constructor
  · intro same
    cases same
    exact ⟨rfl, rfl⟩
  · rintro ⟨rfl, rfl⟩
    rfl

namespace Small

/-- The client `s`, for its document. -/
def documentClient : XmlContent :=
  .service true (cstr "0_7") (cstr "s") ⟨⟨none, cstr "a"⟩, ⟨some (cstr "n"), cstr "b"⟩⟩ {}

/-- A build with references, and room for names of twelve bytes and documents of 511. -/
def documentConfig : Config :=
  { config with
    useRefs := true
    topicNameMaxLength := 12
    typeNameMaxLength := 12
    entityNamingBufferLength := 512 }

theorem documentClient_fits : (documentClient.document documentConfig 512).Fits := by
  unfold Document.Fits Within
  decide +kernel

theorem documentClient_plain : documentClient.Plain := by
  unfold XmlContent.Plain
  decide +kernel

end Small

/-- The document of the small client is read as the client. -/
theorem documents_read_back_small :
    readAny XmlElement.template XmlElement.all
        (Small.documentClient.build Small.documentConfig 512).1 =
      some (.requester, [cstr "0_7", cstr "s", cstr "dds_::a_", cstr "n::dds_::b_",
        cstr "rqsRequest", cstr "rrsReply"]) :=
  (documents_read_back Small.documentClient_fits (by decide +kernel)
    Small.documentClient_plain _ _).mpr ⟨rfl, by decide +kernel⟩

end RmwMicroxrcedds
