import Mqtt.Packet.Auth
import Mqtt.Proofs.Property.Agreement
import Mqtt.Proofs.Wire.Code

/-! # An AUTH packet, written and read

A packet with one of its own reason codes is read back as it was written
(`Mqtt.Auth.read_encode`), and one that is read can be written in no more bytes
(`Mqtt.Auth.encode_of_read`). Neither asks for a method that is not empty: a
reader takes the empty one, which construction refuses.
-/

namespace Mqtt

open PropertyBlock

variable {bytes rest written : Bytes}

namespace AuthProperties

/-- A block agrees with the properties when it holds one method and what else there is of
them. -/
theorem agrees_iff {block : PropertyBlock} {properties : AuthProperties} :
    block.Agrees properties.toBlock ↔
      block.OfKinds kinds ∧
        block.values .authenticationMethod = [properties.authenticationMethod] ∧
        block.values .authenticationData = properties.authenticationData.toList ∧
        block.values .reasonString = properties.reasonString.toList ∧
        block.values .userProperty = properties.userProperties := by
  rw [PropertyBlock.agrees_iff (show properties.toBlock.OfKinds kinds by simp [toBlock, kinds])]
  simp [toBlock, kinds]

theorem represents : Represents toBlock ofBlock fun _ => True := by
  intro block properties
  simp only [agrees_iff, ofBlock, Except.bind_eq_ok_iff, checkKinds_eq_ok_iff,
    Except.pure_eq_ok_iff, true_and]
  constructor
  · intro found
    obtain ⟨-, own, _, method, _, data, _, reasonString, rfl⟩ := found
    exact ⟨own, value_eq_ok_iff.mp method, value?_eq_ok_iff.mp data,
      value?_eq_ok_iff.mp reasonString, rfl⟩
  · intro agrees
    obtain ⟨own, method, data, reasonString, userProperties⟩ := agrees
    exact ⟨(), own, _, value_eq_ok_iff.mpr method, _, value?_eq_ok_iff.mpr data, _,
      value?_eq_ok_iff.mpr reasonString, by rw [PropertyBlock.userProperties, userProperties]⟩

end AuthProperties

namespace Auth

variable {packet : Auth}

/-- Construction enforces the rule that reading enforces, and one more. -/
theorem checkReason_of_check (fits : packet.check = .ok ()) :
    PacketType.auth.checkReason packet.reason = .ok () := by
  simp only [check, Except.bind_eq_ok_iff] at fits
  obtain ⟨_, own, -⟩ := fits
  exact own

/-- An AUTH packet is read from its reason and a block. -/
theorem read_eq_ok_iff :
    read bytes = .ok (packet, rest) ↔
      packet.reason ∈ PacketType.auth.reasonCodes ∧
        ∃ inner block, bytes = packet.reason.code :: inner ∧
          PropertyBlock.read inner = .ok (block, rest) ∧
          AuthProperties.ofBlock block = .ok packet.properties := by
  simp only [read, Reader.bind_eq_ok_iff, Reader.byteOr_eq_ok_iff, Reader.ofExcept_eq_ok_iff,
    PacketType.reasonOfByte_eq_ok_iff, Reader.pure_eq_ok_iff, Prod.mk.injEq]
  constructor
  · intro found
    obtain ⟨_, inner, rfl, reason, _, ⟨⟨own, rfl⟩, rfl⟩, block, _, blockFound, properties, _,
      ⟨typed, rfl⟩, rfl, rfl⟩ := found
    exact ⟨own, inner, block, rfl, blockFound, typed⟩
  · intro found
    obtain ⟨own, inner, block, rfl, blockFound, typed⟩ := found
    exact ⟨_, inner, rfl, packet.reason, inner, ⟨⟨own, rfl⟩, rfl⟩, block, rest, blockFound,
      packet.properties, rest, ⟨typed, rfl⟩, rfl, rfl⟩

/-- An AUTH packet is written as its reason and its block. -/
theorem encode_eq_ok_iff :
    packet.encode = .ok written ↔ ∃ block, packet.properties.toBlock.encode = .ok block ∧
      packet.reason.code :: block = written := by
  simp only [encode, Except.bind_eq_ok_iff, Except.pure_eq_ok_iff]

/-- An AUTH packet that is written is read back, even with an empty method. -/
theorem read_encode (fits : PacketType.auth.checkReason packet.reason = .ok ())
    (wrote : packet.encode = .ok written) : read written = .ok (packet, []) := by
  obtain ⟨block, wroteBlock, rfl⟩ := encode_eq_ok_iff.mp wrote
  obtain ⟨blockFound, typed⟩ := AuthProperties.represents.read_encode trivial wroteBlock []
  rw [List.append_nil] at blockFound
  apply read_eq_ok_iff.mpr
  exact ⟨PacketType.checkReason_eq_ok_iff.mp fits, block, _, rfl, blockFound, typed⟩

/-- An AUTH packet that is read can be written in no more bytes. -/
theorem encode_of_read (found : read bytes = .ok (packet, rest)) :
    PacketType.auth.checkReason packet.reason = .ok () ∧
      ∃ written, packet.encode = .ok written ∧ written.length + rest.length ≤ bytes.length := by
  obtain ⟨own, inner, block, rfl, blockFound, typed⟩ := read_eq_ok_iff.mp found
  obtain ⟨-, written, wrote, shorter⟩ := AuthProperties.represents.encode_of_read blockFound typed
  refine ⟨PacketType.checkReason_eq_ok_iff.mpr own, _,
    encode_eq_ok_iff.mpr ⟨written, wrote, rfl⟩, ?_⟩
  rw [List.length_cons, List.length_cons]
  omega

end Auth

end Mqtt
