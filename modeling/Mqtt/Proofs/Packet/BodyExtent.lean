import Mqtt.Proofs.Packet.Body
import Mqtt.Proofs.Property.Spelling
import Mqtt.Proofs.Wire.SelfDelimiting

/-! # Bodies that find their own end

Every part of a CONNECT, a CONNACK and an AUTH packet has a fixed number of bytes or is
written after its length, and flags in front say which parts there are. So these packets
find their own end, whatever follows, and a beginning of a body is never one of them
(`Mqtt.Packet.readBody_own_end`).
-/

namespace Mqtt

open Reader

/-- A block knows where it ends, by the length in front of it. -/
theorem PropertyBlock.selfDelimiting_read : PropertyBlock.read.SelfDelimiting := by
  intro bytes block rest found
  obtain ⟨digits, parts, spelled, rfl⟩ := read_eq_ok_iff_spelledBy.mp found
  exact ⟨digits ++ parts.flatten, rfl,
    fun more => read_eq_ok_iff_spelledBy.mpr ⟨digits, parts, spelled, rfl⟩⟩

/-- The typed properties of a block, and then what follows them. -/
theorem PropertyBlock.selfDelimiting_typed {α β : Type} {ofBlock : PropertyBlock → Except Fault α}
    {next : α → Reader β} (others : ∀ properties, (next properties).SelfDelimiting) :
    (do
      let block ← PropertyBlock.read
      let properties ← Reader.ofExcept (ofBlock block)
      next properties : Reader β).SelfDelimiting :=
  PropertyBlock.selfDelimiting_read.bind fun _ =>
    (selfDelimiting_ofExcept _).bind others

theorem PacketType.selfDelimiting_readReason (packetType : PacketType) :
    packetType.readReason.SelfDelimiting :=
  readReason_mirrors.selfDelimiting

/-- A will message knows where it ends. -/
theorem Will.selfDelimiting_read (qos : QoS) (retain : Bool) :
    (Will.read qos retain).SelfDelimiting := by
  apply PropertyBlock.selfDelimiting_typed
  intro properties
  refine text_mirrors.selfDelimiting.bind fun topic => ?_
  refine (selfDelimiting_ofExcept _).bind fun _ => ?_
  refine binary_mirrors.selfDelimiting.bind fun payload => ?_
  exact selfDelimiting_pure _

namespace Connect

theorem selfDelimiting_readIf {α : Type} {reader : Reader α} (present : Bool)
    (selfDelimiting : reader.SelfDelimiting) : (readIf present reader).SelfDelimiting := by
  cases present with
  | false => exact selfDelimiting_pure none
  | true => exact selfDelimiting.map some

theorem selfDelimiting_readWill (announced : Option (QoS × Bool)) :
    (readWill announced).SelfDelimiting := by
  cases announced with
  | none => exact selfDelimiting_pure none
  | some marks => exact (Will.selfDelimiting_read marks.1 marks.2).map some

/-- The flags byte stands in front of the fields that it announces. -/
theorem selfDelimiting_read : Connect.read.SelfDelimiting := by
  refine text_mirrors.selfDelimiting.bind fun name => .unless ?_
  refine (selfDelimiting_byteOr _).bind fun version => .unless ?_
  refine (selfDelimiting_byteOr _).bind fun flags => ?_
  refine (selfDelimiting_ofExcept _).bind fun announced => ?_
  refine (selfDelimiting_twoBytesOr _).bind fun keepAlive => ?_
  refine PropertyBlock.selfDelimiting_typed fun properties => ?_
  refine text_mirrors.selfDelimiting.bind fun clientId => ?_
  refine (selfDelimiting_readWill _).bind fun will => ?_
  refine (selfDelimiting_readIf _ text_mirrors.selfDelimiting).bind fun username => ?_
  refine (selfDelimiting_readIf _ binary_mirrors.selfDelimiting).bind fun password => ?_
  exact selfDelimiting_pure _

end Connect

theorem ConnAck.selfDelimiting_read : ConnAck.read.SelfDelimiting := by
  refine (selfDelimiting_byteOr _).bind fun flags => .unless ?_
  refine (PacketType.selfDelimiting_readReason _).bind fun reason => ?_
  refine PropertyBlock.selfDelimiting_typed fun properties => ?_
  exact selfDelimiting_pure _

theorem Auth.selfDelimiting_read : Auth.read.SelfDelimiting := by
  refine (selfDelimiting_byteOr _).bind fun code => ?_
  refine (selfDelimiting_ofExcept _).bind fun reason => ?_
  refine PropertyBlock.selfDelimiting_typed fun properties => ?_
  exact selfDelimiting_pure _

namespace Packet

variable {packetType : PacketType} {flags : UInt8} {packet : Packet} {bytes rest : Bytes}

/-- Three kinds of packet know where their bodies end. -/
theorem selfDelimiting_readBody
    (ends : packetType = .connect ∨ packetType = .connAck ∨ packetType = .auth)
    (flags : UInt8) : (readBody packetType flags).SelfDelimiting := by
  rcases ends with rfl | rfl | rfl
  · exact Connect.selfDelimiting_read.map connect
  · exact ConnAck.selfDelimiting_read.map connAck
  · exact Auth.selfDelimiting_read.map auth

/-- The bytes that a CONNECT, a CONNACK or an AUTH packet is read from are read as the same
packet whatever follows them, which is left alone, and no beginning of the bytes that ends
before them is read as a packet. -/
theorem readBody_own_end
    (ends : packetType = .connect ∨ packetType = .connAck ∨ packetType = .auth)
    (found : readBody packetType flags bytes = .ok (packet, rest)) :
    ∃ front, bytes = front ++ rest ∧
      (∀ more, readBody packetType flags (front ++ more) = .ok (packet, more)) ∧
      ∀ part, part <+: bytes → part.length < front.length →
        ∃ fault, readBody packetType flags part = .error fault := by
  have selfDelimiting := selfDelimiting_readBody ends flags
  obtain ⟨front, rfl, extended⟩ := selfDelimiting found
  refine ⟨front, rfl, extended, fun part beginning shorter => ?_⟩
  refine selfDelimiting.error_of_shorter found beginning ?_
  rw [List.length_append]
  omega

/-- A body in which every part of a CONNECT packet is there, in front of one more byte. -/
theorem readBody_own_end_connect :
    let packet : Packet := .connect {
      clientId := "c", username := some "u", password := some [112]
      will := some { topic := "t", payload := [9], qos := .atLeastOnce, retain := true } }
    let front : Bytes := [0, 4, 77, 81, 84, 84, 5, 238, 0, 60, 0, 0, 1, 99, 0, 0, 1, 116,
      0, 1, 9, 0, 1, 117, 0, 1, 112]
    readBody .connect 0 (front ++ [7]) = .ok (packet, [7]) ∧
      ∃ taken, front ++ [7] = taken ++ [7] ∧
        ∀ part, part <+: front ++ [7] → part.length < taken.length →
          ∃ fault, readBody .connect 0 part = .error fault := by
  intro packet front
  have found : readBody .connect 0 (front ++ [7]) = .ok (packet, [7]) := by decide +kernel
  obtain ⟨taken, split, -, shorter⟩ := readBody_own_end (.inl rfl) found
  exact ⟨found, taken, split, shorter⟩

end Packet

end Mqtt
