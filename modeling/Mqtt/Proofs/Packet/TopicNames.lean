import Mqtt.Proofs.Packet.Construction

/-! # The topic names in a packet

A packet carries the topic names of a message or of a will message, and of the answers
that these ask for. The rule of topic names is asked of all but one: no packet that is
decoded and no packet that is encoded has a wildcard or a null character in them
(`Mqtt.Packet.Travels.plain_topicName`). Nothing is asked of the response topic of a will
message (`Mqtt.Packet.willResponse_wildcard`).
-/

namespace Mqtt

namespace TopicName

/-- The name holds neither a wildcard nor the null character. -/
def Plain (name : String) : Prop :=
  ∀ c ∈ name.toList, c ≠ '+' ∧ c ≠ '#' ∧ c ≠ '\x00'

/-- The rule of topic names passes exactly the plain ones. -/
theorem check_eq_ok_iff {name : String} : check name = .ok () ↔ Plain name := by
  simp only [check, Except.ite_error_eq_ok_iff, and_true, Plain, List.any_eq_true,
    List.contains_iff_mem, isWildcard, Bool.or_eq_true, decide_eq_true_eq, not_exists, not_and,
    not_or]
  constructor
  · rintro ⟨wildcards, null⟩ c member
    obtain ⟨plus, hash⟩ := wildcards c member
    exact ⟨plus, hash, fun same => null (same ▸ member)⟩
  · intro plain
    refine ⟨fun c member => ⟨(plain c member).1, (plain c member).2.1⟩, ?_⟩
    exact fun member => (plain _ member).2.2 rfl

end TopicName

open TopicName (Plain)

/-- The topic of a message and that of the answer to it are plain. -/
theorem Publish.plain_topics {packet : Publish} (fits : packet.check = .ok ()) :
    Plain packet.topic ∧ ∀ name ∈ packet.properties.responseTopic, Plain name := by
  obtain ⟨topic, -, -, -, -, response, -⟩ := check_eq_ok_iff.mp fits
  refine ⟨TopicName.check_eq_ok_iff.mp topic, ?_⟩
  intro name member
  rw [Option.mem_def.mp member] at response
  exact TopicName.check_eq_ok_iff.mp response

/-- The topic of a will message that is encoded is plain. -/
theorem Connect.plain_willTopic {packet : Connect} {written : Bytes}
    (wrote : packet.encode = .ok written) : ∀ will ∈ packet.will, Plain will.topic := by
  obtain ⟨name, block, client, bytes, username, password, -, -, -, -, wroteWill, -⟩ :=
    encode_eq_ok_iff.mp wrote
  intro will member
  rw [Option.mem_def.mp member] at wroteWill
  obtain ⟨fits, -⟩ := Will.encode_eq_ok_iff.mp wroteWill
  rw [Will.checkTopic, Except.bind_unit_eq_ok_iff] at fits
  exact TopicName.check_eq_ok_iff.mp fits.1

namespace Packet

/-- What a packet carries a topic name for. -/
inductive TopicRole where
  /-- The topic of the message of a PUBLISH packet. -/
  | message
  /-- The topic for the answer to that message. -/
  | response
  /-- The topic of the will message of a CONNECT packet. -/
  | will
  /-- The topic for the answer to that message. -/
  | willResponse
deriving DecidableEq, Repr

/-- The topic name that a packet carries in a role. -/
def topicName : Packet → TopicRole → Option String
  | publish packet, .message => some packet.topic
  | publish packet, .response => packet.properties.responseTopic
  | connect packet, .will => packet.will.map Will.topic
  | connect packet, .willResponse => packet.will.bind fun will => will.properties.responseTopic
  | _, _ => none

/-- A packet that comes from a frame or goes into one. -/
inductive Travels : Packet → Prop
  | decoded {packet : Packet} {frame : Bytes} (found : decode frame = .ok packet) : Travels packet
  | encoded {packet : Packet} {frame : Bytes} (held : packet.Held)
      (wrote : packet.encode = .ok frame) : Travels packet

variable {packet : Packet} {role : TopicRole} {name : String}

/-- A packet that travels obeys the rules and can be written. -/
theorem Travels.encodeBody (travels : packet.Travels) :
    packet.WellFormed ∧ ∃ body, packet.encodeBody = .ok body := by
  cases travels with
  | decoded found =>
      obtain ⟨control, digits, body, packetType, -, -, -, bodyFound⟩ :=
        ofFrame_eq_ok_iff.mp (decode_eq_ok_iff.mp found)
      obtain ⟨ownFlags, bodyRead⟩ := ofBody_eq_ok_iff.mp bodyFound
      obtain ⟨-, -, wellFormed, written, wrote, -⟩ := encodeBody_of_readBody ownFlags bodyRead
      exact ⟨wellFormed, written, wrote⟩
  | encoded held wrote =>
      obtain ⟨body, header, wroteBody, -⟩ := encode_eq_ok_iff.mp wrote
      exact ⟨held.wellFormed, body, wroteBody⟩

/-- No topic name in a packet that is decoded, and none in a packet that is held and
encoded, contains a wildcard or the null character, except for the response topic of a
will message. -/
theorem Travels.plain_topicName (travels : packet.Travels)
    (carried : packet.topicName role = some name) (asked : role ≠ .willResponse) :
    Plain name := by
  obtain ⟨wellFormed, body, wrote⟩ := travels.encodeBody
  cases packet with
  | publish packet =>
      obtain ⟨topic, response⟩ := packet.plain_topics wellFormed
      cases role with
      | message =>
          cases carried
          exact topic
      | response => exact response name carried
      | _ => cases carried
  | connect packet =>
      cases role with
      | will =>
          obtain ⟨will, member, rfl⟩ := Option.map_eq_some_iff.mp carried
          exact packet.plain_willTopic wrote will member
      | willResponse => exact (asked rfl).elim
      | _ => cases carried
  | _ => cases carried

/-- A message whose response topic has two levels. -/
theorem Travels.plain_topicName_response :
    let packet : Packet := .publish { topic := "t", properties := { responseTopic := some "a/b" } }
    decode [48, 10, 0, 1, 116, 6, 8, 0, 3, 97, 47, 98] = .ok packet ∧
      packet.topicName .response = some "a/b" ∧ TopicRole.response ≠ .willResponse ∧
      Plain "a/b" := by
  intro packet
  have found : decode [48, 10, 0, 1, 116, 6, 8, 0, 3, 97, 47, 98] = .ok packet := by
    decide +kernel
  have carried : packet.topicName .response = some "a/b" := rfl
  have asked : TopicRole.response ≠ .willResponse := by decide
  exact ⟨found, carried, asked, (Travels.decoded found).plain_topicName carried asked⟩

/-- The response topic of a will message is decoded and encoded with a wildcard in it. -/
theorem willResponse_wildcard :
    let will : Will := { topic := "t", properties := { responseTopic := some "a/#" } }
    let packet : Packet := .connect { clientId := "c", will := some will }
    let frame : Bytes :=
      [16, 26, 0, 4, 77, 81, 84, 84, 5, 6, 0, 60, 0, 0, 1, 99, 6, 8, 0, 3, 97, 47, 35, 0, 1, 116,
        0, 0]
    decode frame = .ok packet ∧ packet.Held ∧ packet.encode = .ok frame ∧
      packet.topicName .willResponse = some "a/#" ∧ ¬ Plain "a/#" := by
  intro will packet frame
  have held : packet.Held := .made (.built (build_eq_ok_iff.mpr ⟨rfl, rfl⟩))
  have wildcard : ¬ Plain "a/#" := by
    intro plain
    have member : '#' ∈ "a/#".toList := by simp
    exact (plain '#' member).2.1 rfl
  exact ⟨by decide +kernel, held, by decide +kernel, rfl, wildcard⟩

end Packet

end Mqtt
