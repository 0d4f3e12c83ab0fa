import Mqtt.Packet.ConnAck
import Mqtt.Proofs.Property.Agreement
import Mqtt.Proofs.Wire.Code

/-! # A CONNACK packet, written and read

A packet with one of its own reason codes is read back as it was written
(`Mqtt.ConnAck.read_encode`), and one that is read can be written in no more
bytes (`Mqtt.ConnAck.encode_of_read`). The rule that a server does not name the
highest quality of service is checked on both ways.
-/

namespace Mqtt

open PropertyBlock

variable {bytes rest written : Bytes}

namespace ConnAckProperties

variable {properties : ConnAckProperties}

/-- A server may name any highest quality of service but the greatest. -/
theorem check_eq_ok_iff {result : Unit} :
    properties.check = .ok result ↔ properties.maximumQoS ≠ some .exactlyOnce := by
  simp only [check, Except.throw_eq_error, Except.ite_error_eq_ok_iff, Except.pure_eq_ok_iff,
    and_true, ne_eq]

/-- The highest quality of service is read from its number, if it is one of the two lower
levels. -/
theorem maximumQoSOfByte_eq_ok_iff (value : UInt8) (level : QoS) :
    maximumQoSOfByte value = .ok level ↔ level ≠ .exactlyOnce ∧ value = level.toByte := by
  unfold maximumQoSOfByte
  by_cases zero : value = 0
  · cases level <;> simp [zero, QoS.toByte]
  · by_cases one : value = 1
    · cases level <;> simp [one, QoS.toByte]
    · cases level <;> simp [zero, one, QoS.toByte]

/-- A block agrees with the properties when it holds the value of each, and nothing else. -/
theorem agrees_iff {block : PropertyBlock} :
    block.Agrees properties.toBlock ↔
      block.OfKinds kinds ∧
        block.values .sessionExpiryInterval = properties.sessionExpiryInterval.toList ∧
        block.values .receiveMaximum = properties.receiveMaximum.toList ∧
        block.values .maximumQoS = (properties.maximumQoS.map QoS.toByte).toList ∧
        block.values .retainAvailable = (properties.retainAvailable.map Bool.toUInt8).toList ∧
        block.values .maximumPacketSize = properties.maximumPacketSize.toList ∧
        block.values .assignedClientIdentifier = properties.assignedClientIdentifier.toList ∧
        block.values .topicAliasMaximum = properties.topicAliasMaximum.toList ∧
        block.values .reasonString = properties.reasonString.toList ∧
        block.values .userProperty = properties.userProperties ∧
        block.values .wildcardSubscriptionAvailable =
          (properties.wildcardSubscriptionAvailable.map Bool.toUInt8).toList ∧
        block.values .subscriptionIdentifiersAvailable =
          (properties.subscriptionIdentifiersAvailable.map Bool.toUInt8).toList ∧
        block.values .sharedSubscriptionAvailable =
          (properties.sharedSubscriptionAvailable.map Bool.toUInt8).toList ∧
        block.values .serverKeepAlive = properties.serverKeepAlive.toList ∧
        block.values .responseInformation = properties.responseInformation.toList ∧
        block.values .serverReference = properties.serverReference.toList ∧
        block.values .authenticationMethod = properties.authenticationMethod.toList ∧
        block.values .authenticationData = properties.authenticationData.toList := by
  rw [PropertyBlock.agrees_iff (show properties.toBlock.OfKinds kinds by simp [toBlock, kinds])]
  simp [toBlock, kinds]

/-- The properties are read from any block that agrees with them, if they obey their rule.
-/
theorem represents : Represents toBlock ofBlock fun properties => properties.check = .ok () := by
  intro block properties
  simp only [agrees_iff, ofBlock, Except.bind_eq_ok_iff, checkKinds_eq_ok_iff,
    Except.pure_eq_ok_iff, check_eq_ok_iff]
  constructor
  · intro found
    obtain ⟨-, own, _, level, _, expiry, _, receive, _, retain, _, size, _, client, _, aliases, _,
      reasonString, _, wildcard, _, identifiers, _, shared, _, keepAlive, _, information, _,
      reference, _, method, _, data, rfl⟩ := found
    obtain ⟨low, level⟩ := (valueAs?_eq_ok_iff .maximumQoS QoS.toByte (· ≠ .exactlyOnce)
      maximumQoSOfByte_eq_ok_iff).mp level
    have retain :=
      (flag?_eq_ok_iff .retainAvailable id id fun _ _ => Iff.rfl).mp retain
    have wildcard :=
      (flag?_eq_ok_iff .wildcardSubscriptionAvailable id id fun _ _ => Iff.rfl).mp wildcard
    have identifiers :=
      (flag?_eq_ok_iff .subscriptionIdentifiersAvailable id id fun _ _ => Iff.rfl).mp identifiers
    have shared :=
      (flag?_eq_ok_iff .sharedSubscriptionAvailable id id fun _ _ => Iff.rfl).mp shared
    exact ⟨fun highest => low _ highest rfl, own, value?_eq_ok_iff.mp expiry,
      value?_eq_ok_iff.mp receive, level, retain, value?_eq_ok_iff.mp size,
      value?_eq_ok_iff.mp client, value?_eq_ok_iff.mp aliases, value?_eq_ok_iff.mp reasonString,
      rfl, wildcard, identifiers, shared, value?_eq_ok_iff.mp keepAlive,
      value?_eq_ok_iff.mp information, value?_eq_ok_iff.mp reference, value?_eq_ok_iff.mp method,
      value?_eq_ok_iff.mp data⟩
  · intro agrees
    obtain ⟨low, own, expiry, receive, level, retain, size, client, aliases, reasonString,
      userProperties, wildcard, identifiers, shared, keepAlive, information, reference, method,
      data⟩ := agrees
    have allowed : ∀ found ∈ properties.maximumQoS, found ≠ .exactlyOnce := by
      intro found named highest
      exact low (highest ▸ named)
    have level := (valueAs?_eq_ok_iff .maximumQoS QoS.toByte (· ≠ .exactlyOnce)
      maximumQoSOfByte_eq_ok_iff).mpr ⟨allowed, level⟩
    have retain :=
      (flag?_eq_ok_iff .retainAvailable id id fun _ _ => Iff.rfl).mpr retain
    have wildcard :=
      (flag?_eq_ok_iff .wildcardSubscriptionAvailable id id fun _ _ => Iff.rfl).mpr wildcard
    have identifiers :=
      (flag?_eq_ok_iff .subscriptionIdentifiersAvailable id id fun _ _ => Iff.rfl).mpr identifiers
    have shared :=
      (flag?_eq_ok_iff .sharedSubscriptionAvailable id id fun _ _ => Iff.rfl).mpr shared
    exact ⟨(), own, _, level, _, value?_eq_ok_iff.mpr expiry, _, value?_eq_ok_iff.mpr receive, _,
      retain, _, value?_eq_ok_iff.mpr size, _, value?_eq_ok_iff.mpr client, _,
      value?_eq_ok_iff.mpr aliases, _, value?_eq_ok_iff.mpr reasonString, _, wildcard, _,
      identifiers, _, shared, _, value?_eq_ok_iff.mpr keepAlive, _,
      value?_eq_ok_iff.mpr information, _, value?_eq_ok_iff.mpr reference, _,
      value?_eq_ok_iff.mpr method, _, value?_eq_ok_iff.mpr data, by
        rw [PropertyBlock.userProperties, userProperties]⟩

end ConnAckProperties

namespace ConnAck

variable {packet : ConnAck}

theorem check_eq_ok_iff {result : Unit} :
    packet.check = .ok result ↔ packet.reason ∈ PacketType.connAck.reasonCodes :=
  PacketType.checkReason_eq_ok_iff

/-- The flags are those of a session that is present or absent when no other bit
is set. -/
theorem flags_eq_iff {flags : UInt8} {present : Bool} :
    (flags &&& 254 = 0 ∧ decide (flags = 1) = present) ↔ flags = present.toUInt8 := by
  cases present
  · exact Bytes.forall_byte
      (fun flags => (flags &&& 254 = 0 ∧ decide (flags = 1) = false) ↔ flags = false.toUInt8)
      (by decide +kernel) flags
  · exact Bytes.forall_byte
      (fun flags => (flags &&& 254 = 0 ∧ decide (flags = 1) = true) ↔ flags = true.toUInt8)
      (by decide +kernel) flags

/-- A CONNACK packet is read from its flag, its reason and a block. -/
theorem read_eq_ok_iff :
    read bytes = .ok (packet, rest) ↔
      packet.reason ∈ PacketType.connAck.reasonCodes ∧
        ∃ inner block,
          bytes = packet.sessionPresent.toUInt8 :: packet.reason.code :: inner ∧
          PropertyBlock.read inner = .ok (block, rest) ∧
          ConnAckProperties.ofBlock block = .ok packet.properties := by
  simp only [read, Reader.bind_eq_ok_iff, Reader.byte_eq_ok_iff, Reader.throw_bind,
    Reader.ite_apply, Reader.throw_apply, Except.ite_error_eq_ok_iff, Reader.ofExcept_eq_ok_iff,
    PacketType.readReason_eq_ok_iff, Reader.pure_eq_ok_iff, Prod.mk.injEq, Classical.not_not]
  constructor
  · intro found
    obtain ⟨flags, _, rfl, clear, reason, inner, ⟨own, rfl⟩, block, _, blockFound, properties, _,
      ⟨typed, rfl⟩, rfl, rfl⟩ := found
    refine ⟨own, inner, block, ?_, blockFound, typed⟩
    rw [← flags_eq_iff.mp ⟨clear, rfl⟩]
  · intro found
    obtain ⟨own, inner, block, rfl, blockFound, typed⟩ := found
    obtain ⟨clear, present⟩ := flags_eq_iff.mpr (rfl : packet.sessionPresent.toUInt8 = _)
    exact ⟨_, _, rfl, clear, packet.reason, inner, ⟨own, rfl⟩, block, rest, blockFound,
      packet.properties, rest, ⟨typed, rfl⟩, by rw [present], rfl⟩

/-- A CONNACK packet is written under the rule of its properties. -/
theorem encode_eq_ok_iff :
    packet.encode = .ok written ↔
      packet.properties.check = .ok () ∧
        ∃ block, packet.properties.toBlock.encode = .ok block ∧
          packet.sessionPresent.toUInt8 :: packet.reason.code :: block = written := by
  rw [encode, Except.bind_unit_eq_ok_iff, Except.mapError_eq_ok_iff]
  simp only [Except.bind_eq_ok_iff, Except.pure_eq_ok_iff]

/-- A CONNACK packet that is written is read back. -/
theorem read_encode (fits : packet.check = .ok ()) (wrote : packet.encode = .ok written) :
    read written = .ok (packet, []) := by
  obtain ⟨low, block, wroteBlock, rfl⟩ := encode_eq_ok_iff.mp wrote
  obtain ⟨blockFound, typed⟩ := ConnAckProperties.represents.read_encode low wroteBlock []
  rw [List.append_nil] at blockFound
  apply read_eq_ok_iff.mpr
  exact ⟨check_eq_ok_iff.mp fits, block, _, rfl, blockFound, typed⟩

/-- A CONNACK packet that is read can be written in no more bytes. -/
theorem encode_of_read (found : read bytes = .ok (packet, rest)) :
    packet.check = .ok () ∧ ∃ written, packet.encode = .ok written ∧
      written.length + rest.length ≤ bytes.length := by
  obtain ⟨own, inner, block, rfl, blockFound, typed⟩ := read_eq_ok_iff.mp found
  obtain ⟨low, written, wrote, shorter⟩ :=
    ConnAckProperties.represents.encode_of_read blockFound typed
  refine ⟨check_eq_ok_iff.mpr own, _, encode_eq_ok_iff.mpr ⟨low, written, wrote, rfl⟩, ?_⟩
  simp only [List.length_cons]
  omega

end ConnAck

end Mqtt
