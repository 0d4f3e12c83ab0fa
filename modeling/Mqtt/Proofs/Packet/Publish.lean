import Mqtt.Packet.Publish
import Mqtt.Proofs.Property.Agreement
import Mqtt.Proofs.Wire.Code

/-! # A PUBLISH packet, written and read

The header flags of a message hold its marks and its quality of service, and are
again the flags of a message that is read from them (`Mqtt.Publish.flags_of_bits`).
A message that obeys the rules is read back as it was written
(`Mqtt.Publish.read_encode`), and one that is read can be written in no more
bytes after the same flags (`Mqtt.Publish.encode_of_read`).
-/

namespace Mqtt

open PropertyBlock

variable {bytes rest written : Bytes}

namespace PublishProperties

theorem agrees_iff {block : PropertyBlock} {properties : PublishProperties} :
    block.Agrees properties.toBlock ↔
      block.OfKinds kinds ∧
        block.values .payloadFormatIndicator =
          (properties.payloadFormatIndicator.map Bool.toUInt8).toList ∧
        block.values .messageExpiryInterval = properties.messageExpiryInterval.toList ∧
        block.values .topicAlias = properties.topicAlias.toList ∧
        block.values .responseTopic = properties.responseTopic.toList ∧
        block.values .correlationData = properties.correlationData.toList ∧
        block.values .userProperty = properties.userProperties ∧
        block.values .subscriptionIdentifier = properties.subscriptionIdentifiers ∧
        block.values .contentType = properties.contentType.toList := by
  rw [PropertyBlock.agrees_iff (show properties.toBlock.OfKinds kinds by simp [toBlock, kinds])]
  simp [toBlock, kinds]

theorem represents : Represents toBlock ofBlock fun _ => True := by
  intro block properties
  simp only [agrees_iff, ofBlock, Except.bind_eq_ok_iff, checkKinds_eq_ok_iff,
    Except.pure_eq_ok_iff, true_and]
  constructor
  · intro found
    obtain ⟨-, own, _, format, _, expiry, _, topicAlias, _, response, _, correlation, _, content,
      rfl⟩ := found
    have format := (flag?_eq_ok_iff .payloadFormatIndicator id id fun _ _ => Iff.rfl).mp format
    exact ⟨own, format, value?_eq_ok_iff.mp expiry, value?_eq_ok_iff.mp topicAlias,
      value?_eq_ok_iff.mp response, value?_eq_ok_iff.mp correlation, rfl, rfl,
      value?_eq_ok_iff.mp content⟩
  · intro agrees
    obtain ⟨own, format, expiry, topicAlias, response, correlation, userProperties, identifiers,
      content⟩ := agrees
    have format := (flag?_eq_ok_iff .payloadFormatIndicator id id fun _ _ => Iff.rfl).mpr format
    exact ⟨(), own, _, format, _, value?_eq_ok_iff.mpr expiry, _, value?_eq_ok_iff.mpr topicAlias,
      _, value?_eq_ok_iff.mpr response, _, value?_eq_ok_iff.mpr correlation, _,
      value?_eq_ok_iff.mpr content, by
        rw [PropertyBlock.userProperties, userProperties, identifiers]⟩

end PublishProperties

namespace Publish

variable {packet : Publish} {flags : UInt8}

/-- The check of a message passes where its seven rules hold. -/
theorem check_eq_ok_iff {result : Unit} :
    packet.check = .ok result ↔
      TopicName.check packet.topic = .ok () ∧
        ¬ (packet.topic.isEmpty && packet.properties.topicAlias.isNone) = true ∧
        ¬ packet.properties.topicAlias = some 0 ∧
        checkPacketId packet.qos packet.packetId = .ok () ∧
        ¬ (packet.duplicate && decide (packet.qos = .atMostOnce)) = true ∧
        packet.properties.responseTopic.elim (.ok ()) TopicName.check = .ok () ∧
        checkSubscriptionIdentifiers packet.properties.subscriptionIdentifiers = .ok () := by
  simp only [check, Except.throw_eq_error, Except.error_bind, Except.bind_unit_eq_ok_iff,
    Except.ite_error_eq_ok_iff]

/-- The identifier that the rule asks for. -/
theorem checkPacketId_eq_ok_iff {qos : QoS} {packetId : Option UInt16} :
    checkPacketId qos packetId = .ok () ↔
      (qos = .atMostOnce ∧ packetId = none) ∨
        (qos ≠ .atMostOnce ∧ ∃ value, packetId = some value ∧ value ≠ 0) := by
  cases qos <;> cases packetId <;> simp [checkPacketId]

/-- The rule of the packet identifier is one of those of a message. -/
theorem checkPacketId_of_check (fits : packet.check = .ok ()) :
    checkPacketId packet.qos packet.packetId = .ok () := by
  obtain ⟨-, -, -, packetId, -⟩ := check_eq_ok_iff.mp fits
  exact packetId

/-- The mark of a repetition breaks no rule. -/
theorem check_asDuplicate (fits : packet.check = .ok ()) : packet.asDuplicate.check = .ok () := by
  obtain ⟨name, topic, topicAlias, packetId, -, properties⟩ := check_eq_ok_iff.mp fits
  apply check_eq_ok_iff.mpr
  refine ⟨name, topic, topicAlias, packetId, ?_, properties⟩
  simp only [asDuplicate, Bool.and_eq_true, decide_eq_true_eq]
  intro marked
  exact marked.1 (of_decide_eq_true marked.2)

/-- An identifier is read exactly where the rule asks for one. -/
theorem readPacketId_eq_ok_iff {qos : QoS} {packetId : Option UInt16} :
    readPacketId qos bytes = .ok (packetId, rest) ↔
      checkPacketId qos packetId = .ok () ∧
        bytes = packetId.elim [] Bytes.ofUInt16 ++ rest := by
  cases qos <;> cases packetId <;> simp [readPacketId, checkPacketId]

/-! ## Header flags -/

/-- The flags of a message say its quality of service and both marks. -/
theorem bits_of_flags (packet : Publish) :
    bitPairOf packet.flags 1 = packet.qos.toByte ∧ bitOf packet.flags 3 = packet.duplicate ∧
      bitOf packet.flags 0 = packet.retain := by
  unfold flags
  cases packet.duplicate <;> cases packet.qos <;> cases packet.retain <;> decide

/-- Flags of four bits are those of a message with the marks and the quality of
service that they hold. -/
theorem flags_of_bits (small : flags < 16) (qos : bitPairOf flags 1 = packet.qos.toByte)
    (duplicate : bitOf flags 3 = packet.duplicate) (retain : bitOf flags 0 = packet.retain) :
    packet.flags = flags := by
  have each : ∀ value < 16,
      (bitOf (UInt8.ofNat value) 3).toUInt8 <<< 3 ||| bitPairOf (UInt8.ofNat value) 1 <<< 1 |||
        (bitOf (UInt8.ofNat value) 0).toUInt8 = UInt8.ofNat value := by
    decide
  have found := each flags.toNat (UInt8.lt_iff_toNat_lt.mp small)
  rw [UInt8.ofNat_toNat, qos, duplicate, retain] at found
  exact found

/-! ## The packet -/

/-- A PUBLISH packet is read from its parts, and its rules are checked. -/
theorem read_eq_ok_iff :
    read flags bytes = .ok (packet, rest) ↔
      rest = [] ∧ packet.check = .ok () ∧
        (bitPairOf flags 1 = packet.qos.toByte ∧ bitOf flags 3 = packet.duplicate ∧
          bitOf flags 0 = packet.retain) ∧
        ∃ topic inner block, Field.ofText packet.topic = .ok topic ∧
          bytes = topic ++ (packet.packetId.elim [] Bytes.ofUInt16 ++ inner) ∧
          PropertyBlock.read inner = .ok (block, packet.payload) ∧
          PublishProperties.ofBlock block = .ok packet.properties := by
  simp only [read, Reader.bind_eq_ok_iff, Reader.ofExcept_eq_ok_iff, QoS.ofByte_eq_ok_iff,
    readPacketId_eq_ok_iff, Reader.rest_eq_ok_iff, Reader.pure_eq_ok_iff, Prod.mk.injEq]
  constructor
  · intro found
    obtain ⟨qos, _, ⟨level, rfl⟩, topic, _, topicFound, packetId, _, ⟨-, rfl⟩, block, _, blockFound,
      properties, _, ⟨typed, rfl⟩, payload, _, ⟨rfl, rfl⟩, _, _, ⟨fits, rfl⟩, rfl, rfl⟩ := found
    obtain ⟨-, written, wrote, rfl⟩ := Reader.text_mirrors.mp topicFound
    exact ⟨rfl, fits, ⟨level, rfl, rfl⟩, written, _, block, wrote, rfl, blockFound, typed⟩
  · intro found
    obtain ⟨rfl, fits, ⟨level, duplicate, retain⟩, topic, inner, block, wrote, rfl, blockFound,
      typed⟩ := found
    refine ⟨packet.qos, _, ⟨level, rfl⟩, packet.topic, _,
      Reader.text_mirrors.read_written trivial wrote _, packet.packetId, inner,
      ⟨checkPacketId_of_check fits, rfl⟩, block, packet.payload, blockFound, packet.properties, _,
      ⟨typed, rfl⟩, packet.payload, [], ⟨rfl, rfl⟩, (), [], ⟨?_, rfl⟩, ?_, rfl⟩
    · rw [duplicate, retain]
      exact fits
    · rw [duplicate, retain]

/-- A PUBLISH packet is written as its parts, without a check. -/
theorem encode_eq_ok_iff :
    packet.encode = .ok written ↔
      ∃ topic block, Field.ofText packet.topic = .ok topic ∧
        packet.properties.toBlock.encode = .ok block ∧
        topic ++ packet.packetId.elim [] Bytes.ofUInt16 ++ block ++ packet.payload = written := by
  simp only [encode, Except.bind_eq_ok_iff, Except.pure_eq_ok_iff, exists_and_left]

/-- A message that is written is read back after its own flags. -/
theorem read_encode (fits : packet.check = .ok ()) (wrote : packet.encode = .ok written) :
    read packet.flags written = .ok (packet, []) := by
  obtain ⟨topic, block, wroteTopic, wroteBlock, rfl⟩ := encode_eq_ok_iff.mp wrote
  obtain ⟨blockFound, typed⟩ :=
    PublishProperties.represents.read_encode trivial wroteBlock packet.payload
  apply read_eq_ok_iff.mpr
  refine ⟨rfl, fits, bits_of_flags packet, topic, block ++ packet.payload, _,
    wroteTopic, ?_, blockFound, typed⟩
  simp only [List.append_assoc]

/-- A PUBLISH packet that is read can be written with the same flags and in no more bytes.
-/
theorem encode_of_read (small : flags < 16) (found : read flags bytes = .ok (packet, rest)) :
    packet.check = .ok () ∧ packet.flags = flags ∧ ∃ written, packet.encode = .ok written ∧
      written.length + rest.length ≤ bytes.length := by
  obtain ⟨rfl, fits, ⟨level, duplicate, retain⟩, topic, inner, block, wroteTopic, rfl, blockFound,
    typed⟩ := read_eq_ok_iff.mp found
  obtain ⟨-, written, wrote, shorter⟩ :=
    PublishProperties.represents.encode_of_read blockFound typed
  refine ⟨fits, flags_of_bits small level duplicate retain, _,
    encode_eq_ok_iff.mpr ⟨topic, written, wroteTopic, wrote, rfl⟩, ?_⟩
  simp only [List.length_append, List.length_nil]
  omega

end Publish

end Mqtt
