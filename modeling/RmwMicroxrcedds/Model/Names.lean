import Mathlib.Data.List.TakeDrop
import RmwMicroxrcedds.Model.Types

/-! # Names and XML

`utils.c`: the names and documents a creation request carries, written with `snprintf`
into buffers of fixed size.
-/

namespace RmwMicroxrcedds

/-- The largest `int`. -/
def intMax : Nat := 2 ^ 31 - 1

/-- What `snprintf` leaves in a buffer of the given size. -/
def snprintfText (size : Nat) (text : CString) : CString := text.take (size - 1)

/-- The text fits into a buffer of the size, with its NUL. -/
def Within (size : Nat) (text : CString) : Prop := text.length ≤ size - 1

/-- `snprintf` keeps exactly the texts that leave room for the terminator. -/
theorem snprintfText_eq_iff {size : Nat} {text : CString} :
    snprintfText size text = text ↔ Within size text := by
  rw [snprintfText, List.take_eq_self_iff, Within]

/-- What `snprintf` returns: the length of the whole text, negative when that is no
`int`. -/
def snprintfResult (text : CString) : Int := if text.length ≤ intMax then text.length else -1

/-- The cast of a `size_t` to `int`. -/
def intOfSize (size : Nat) : Int := (BitVec.ofNat 32 size).toInt

/-- The check made after most calls of `snprintf`: `(ret < 0) && (ret >= (int)size)`. -/
def truncationChecked (ret : Int) (size : Nat) : Bool := ret < 0 && ret ≥ intOfSize size

/-- The result of a formatter that checks its last `snprintf` that way. -/
def checkedResult (text : CString) (size : Nat) : Int :=
  if truncationChecked (snprintfResult text) size then 0 else snprintfResult text

def rosTopicPrefix : CString := cstr "rt"
def rosRequestPrefix : CString := cstr "rq"
def rosReplyPrefix : CString := cstr "rr"
def rosRequestSubfix : CString := cstr "Request"
def rosReplySubfix : CString := cstr "Reply"

/-- The full name of a message type: `namespace::dds_::name_`. -/
def fullTypeName (members : MessageTypeSupport) : CString :=
  members.messageNamespace.getD [] ++
    (if members.messageNamespace.isSome then cstr "::" else []) ++
    cstr "dds" ++ cstr "_" ++ cstr "::" ++ members.messageName ++ cstr "_"

/-- `generate_type_name`: the text in the buffer, and the returned size. -/
def generateTypeName (members : MessageTypeSupport) (bufferSize : Nat) : CString × Nat :=
  (snprintfText bufferSize (fullTypeName members),
    (cstr "dds").length + (cstr "_").length + (cstr "::").length + members.messageName.length +
      (cstr "_").length + (members.messageNamespace.getD []).length + 1)

/-- `generate_topic_name`: the text in the buffer, and the result. -/
def generateTopicName (topicName : CString) (bufferSize : Nat) : CString × Int :=
  let text := rosTopicPrefix ++ topicName
  (snprintfText bufferSize text, checkedResult text bufferSize)

/-- The decimal digits of a number. -/
def decimal (number : Nat) : CString :=
  (Nat.toDigits 10 number).map fun char => UInt8.ofNat char.toNat

/-- The raw value of an object type on the wire. -/
def ObjectType.raw : ObjectType → UInt8
  | participant => 0x01
  | topic => 0x02
  | publisher => 0x03
  | subscriber => 0x04
  | datawriter => 0x05
  | datareader => 0x06
  | requester => 0x07
  | replier => 0x08
  | other raw => raw

/-- `generate_name`: the text in the buffer, and the result. -/
def generateName (id : ObjectId) (bufferSize : Nat) : CString × Int :=
  let text := decimal (wire id.id) ++ cstr "_" ++ decimal id.type.raw.toNat
  (snprintfText bufferSize text, checkedResult text bufferSize)

/-- `generate_service_topics`: the request and the reply topic. -/
def generateServiceTopics (serviceName : CString) (bufferSize : Nat) : CString × CString :=
  (snprintfText bufferSize (rosRequestPrefix ++ serviceName ++ rosRequestSubfix),
    snprintfText bufferSize (rosReplyPrefix ++ serviceName ++ rosReplySubfix))

/-- `generate_service_types`: the request and the reply type. -/
def generateServiceTypes (members : ServiceTypeSupport) (bufferSize : Nat) : CString × CString :=
  ((generateTypeName members.requestMembers bufferSize).1,
    (generateTypeName members.responseMembers bufferSize).1)

/-- `build_participant_xml`: the document and the result. -/
def buildParticipantXml (participantName : CString) (bufferSize : Nat) : CString × Int :=
  let text := cstr "<dds><participant><rtps><name>" ++ participantName ++
    cstr "</name></rtps></participant></dds>"
  (snprintfText bufferSize text, checkedResult text bufferSize)

/-- `build_service_xml`: the document and the result, zero when a topic name does not fit
its buffer. -/
def buildServiceXml (cfg : Config) (serviceNameId serviceName : CString) (requester : Bool)
    (members : ServiceTypeSupport) (qos : QosProfile) (bufferSize : Nat) : CString × Int :=
  let types := generateServiceTypes members cfg.typeNameMaxLength
  let requestSize := cfg.topicNameMaxLength + 1 + (rosRequestPrefix.length + 1) + 1 +
    (rosRequestSubfix.length + 1)
  let replySize := cfg.topicNameMaxLength + 1 + (rosReplyPrefix.length + 1) + 1 +
    (rosReplySubfix.length + 1)
  let requestTopic :=
    if qos.avoidRosNamespaceConventions then serviceName
    else rosRequestPrefix ++ serviceName ++ rosRequestSubfix
  let replyTopic :=
    if qos.avoidRosNamespaceConventions then serviceName
    else rosReplyPrefix ++ serviceName ++ rosReplySubfix
  -- without the prefixes the reply topic is checked against the request buffer
  let replyBound := if qos.avoidRosNamespaceConventions then requestSize else replySize
  if snprintfResult requestTopic < 0 ∨ snprintfResult requestTopic ≥ requestSize then ([], 0)
  else if snprintfResult replyTopic < 0 ∨ snprintfResult replyTopic ≥ replyBound then ([], 0)
  else
    let kind := if requester then cstr "requester" else cstr "replier"
    let text := cstr "<dds><" ++ kind ++ cstr " profile_name=\"" ++ serviceNameId ++
      cstr "\" service_name=\"" ++ serviceName ++ cstr "\" request_type=\"" ++ types.1 ++
      cstr "\" reply_type=\"" ++ types.2 ++ cstr "\"><request_topic_name>" ++
      snprintfText requestSize requestTopic ++ cstr "</request_topic_name><reply_topic_name>" ++
      snprintfText replySize replyTopic ++ cstr "</reply_topic_name></" ++ kind ++ cstr "></dds>"
    (snprintfText bufferSize text, checkedResult text bufferSize)

/-- The topic name as the topic, data writer and data reader documents carry it, before
it is written to its buffer. -/
def xmlTopicName (topicName : CString) (qos : QosProfile) : CString :=
  if qos.avoidRosNamespaceConventions then topicName else rosTopicPrefix ++ topicName

/-- The size of the buffer `full_topic_name`. -/
def xmlTopicNameSize (cfg : Config) : Nat :=
  cfg.topicNameMaxLength + 1 + (rosTopicPrefix.length + 1)

/-- `build_topic_xml`: the document and the result. -/
def buildTopicXml (cfg : Config) (topicName : CString) (members : MessageTypeSupport)
    (qos : QosProfile) (bufferSize : Nat) : CString × Int :=
  let type := generateTypeName members cfg.typeNameMaxLength
  let name := xmlTopicName topicName qos
  if cfg.topicNameMaxLength < topicName.length ∨ type.2 = 0 then ([], 0)
  else if truncationChecked (snprintfResult name) bufferSize then ([], 0)
  else
    let text := cstr "<dds><topic><name>" ++ snprintfText (xmlTopicNameSize cfg) name ++
      cstr "</name><dataType>" ++ type.1 ++ cstr "</dataType></topic></dds>"
    (snprintfText bufferSize text, checkedResult text bufferSize)

/-- `build_xml`, which `build_datawriter_xml` and `build_datareader_xml` call with their
element name: the document and the result. -/
def buildXml (cfg : Config) (element topicName : CString) (members : MessageTypeSupport)
    (qos : QosProfile) (bufferSize : Nat) : CString × Int :=
  let type := generateTypeName members cfg.typeNameMaxLength
  let name := xmlTopicName topicName qos
  if type.2 = 0 then ([], 0)
  else if truncationChecked (snprintfResult name) bufferSize then ([], 0)
  else
    let kind := if qos.reliability = .bestEffort then cstr "BEST_EFFORT" else cstr "RELIABLE"
    let text := cstr "<dds><" ++ element ++
      cstr "><historyMemoryPolicy>PREALLOCATED_WITH_REALLOC</historyMemoryPolicy>" ++
      cstr "<qos><reliability><kind>" ++ kind ++ cstr "</kind></reliability></qos>" ++
      cstr "<topic><kind>NO_KEY</kind><name>" ++ snprintfText (xmlTopicNameSize cfg) name ++
      cstr "</name><dataType>" ++ type.1 ++
      cstr "</dataType><historyQos><kind>KEEP_ALL</kind></historyQos></topic></" ++ element ++
      cstr "></dds>"
    (snprintfText bufferSize text, checkedResult text bufferSize)

/-- `build_datawriter_xml`. -/
def buildDatawriterXml (cfg : Config) (topicName : CString) (members : MessageTypeSupport)
    (qos : QosProfile) (bufferSize : Nat) : CString × Int :=
  buildXml cfg (cstr "data_writer") topicName members qos bufferSize

/-- `build_datareader_xml`. -/
def buildDatareaderXml (cfg : Config) (topicName : CString) (members : MessageTypeSupport)
    (qos : QosProfile) (bufferSize : Nat) : CString × Int :=
  buildXml cfg (cstr "data_reader") topicName members qos bufferSize

/-- `build_subscriber_xml`: the empty document. -/
def buildSubscriberXml : CString × Int := ([], 1)

/-- `build_participant_profile`: the reference, unless it does not fit. -/
def buildParticipantProfile (bufferSize : Nat) : Option CString :=
  let profile := cstr "participant_profile"
  if profile.length + 1 ≤ bufferSize then some profile else none

/-- The reference to a profile named after a topic without its leading slash, unless it
does not fit. -/
def buildProfile (suffix topicName : CString) (bufferSize : Nat) : Option CString :=
  let text := topicName.tail ++ suffix
  let written := snprintfResult text
  if written > 0 ∧ written < intOfSize bufferSize then some (snprintfText bufferSize text) else none

/-- `build_topic_profile`. -/
def buildTopicProfile (topicName : CString) (bufferSize : Nat) : Option CString :=
  buildProfile (cstr "__t") topicName bufferSize

/-- `build_datawriter_profile`. -/
def buildDatawriterProfile (topicName : CString) (bufferSize : Nat) : Option CString :=
  buildProfile (cstr "__dw") topicName bufferSize

/-- `build_datareader_profile`. -/
def buildDatareaderProfile (topicName : CString) (bufferSize : Nat) : Option CString :=
  buildProfile (cstr "__dr") topicName bufferSize

end RmwMicroxrcedds
