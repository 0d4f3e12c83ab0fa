import Mqtt.Packet.SubscriptionAck
import Mqtt.Proofs.Packet.Ack

/-! # A SUBACK or an UNSUBACK packet, written and read

The reason codes are the bytes after the properties, to the end of the packet.
A packet that obeys the rules is read back as it was written
(`Mqtt.SubscriptionAck.read_encode`), and one that is read can be written in no
more bytes (`Mqtt.SubscriptionAck.encode_of_read`).
-/

namespace Mqtt

namespace SubscriptionAck

variable {stage : SubscriptionStage} {ack : SubscriptionAck} {bytes rest written : Bytes}

/-- Construction asks for an identifier other than zero and for reasons of the stage. -/
theorem check_eq_ok_iff {result : Unit} :
    ack.check stage = .ok result ↔
      ack.packetId ≠ 0 ∧ ack.reasons ≠ [] ∧
        ∀ reason ∈ ack.reasons, reason ∈ stage.packetType.reasonCodes := by
  simp only [check, Except.throw_eq_error, Except.error_bind, Except.ite_error_eq_ok_iff,
    Except.forM_eq_ok_iff, PacketType.checkReason_eq_ok_iff, List.isEmpty_iff, ne_eq]

/-- An answer to a subscription is read from its identifier, its block and its reasons. -/
theorem read_eq_ok_iff :
    read stage bytes = .ok (ack, rest) ↔
      rest = [] ∧ ack.check stage = .ok () ∧
        ∃ inner block, bytes = Bytes.ofUInt16 ack.packetId ++ inner ∧
          PropertyBlock.read inner = .ok (block, ack.reasons.map ReasonCode.code) ∧
          AckProperties.ofBlock stage.packetType block = .ok ack.properties := by
  simp only [read, Reader.bind_eq_ok_iff, Reader.packetId_eq_ok_iff, Reader.ofExcept_eq_ok_iff,
    PacketType.readReasons_eq_ok_iff, Reader.throw_bind, Reader.ite_apply, Reader.throw_apply,
    Except.ite_error_eq_ok_iff, Reader.pure_eq_ok_iff, Prod.mk.injEq, check_eq_ok_iff,
    List.isEmpty_iff]
  constructor
  · intro found
    obtain ⟨packetId, inner, ⟨nonzero, rfl⟩, block, _, blockFound, properties, _, ⟨typed, rfl⟩,
      reasons, _, ⟨rfl, own, rfl⟩, some, rfl, rfl⟩ := found
    exact ⟨rfl, ⟨nonzero, some, own⟩, inner, block, rfl, blockFound, typed⟩
  · intro found
    obtain ⟨rfl, ⟨nonzero, some, own⟩, inner, block, rfl, blockFound, typed⟩ := found
    exact ⟨ack.packetId, inner, ⟨nonzero, rfl⟩, block, _, blockFound, ack.properties, _,
      ⟨typed, rfl⟩, ack.reasons, [], ⟨rfl, own, rfl⟩, some, rfl, rfl⟩

/-- An answer to a subscription is written as its identifier, its block and its reasons. -/
theorem encode_eq_ok_iff :
    ack.encode = .ok written ↔
      ∃ block, ack.properties.toBlock.encode = .ok block ∧
        Bytes.ofUInt16 ack.packetId ++ block ++ ack.reasons.map ReasonCode.code = written := by
  simp only [encode, Except.bind_eq_ok_iff, Except.pure_eq_ok_iff]

/-- An answer to a subscription that is written is read back. -/
theorem read_encode (fits : ack.check stage = .ok ()) (wrote : ack.encode = .ok written) :
    read stage written = .ok (ack, []) := by
  obtain ⟨block, wroteBlock, rfl⟩ := encode_eq_ok_iff.mp wrote
  obtain ⟨blockFound, typed⟩ := (AckProperties.represents stage.packetType).read_encode trivial
    wroteBlock (ack.reasons.map ReasonCode.code)
  apply read_eq_ok_iff.mpr
  exact ⟨rfl, fits, _, _, List.append_assoc _ _ _, blockFound, typed⟩

/-- An answer to a subscription that is read can be written in no more bytes. -/
theorem encode_of_read (found : read stage bytes = .ok (ack, rest)) :
    ack.check stage = .ok () ∧ ∃ written, ack.encode = .ok written ∧
      written.length + rest.length ≤ bytes.length := by
  obtain ⟨rfl, fits, inner, block, rfl, blockFound, typed⟩ := read_eq_ok_iff.mp found
  obtain ⟨-, written, wrote, shorter⟩ :=
    (AckProperties.represents stage.packetType).encode_of_read blockFound typed
  refine ⟨fits, _, encode_eq_ok_iff.mpr ⟨written, wrote, rfl⟩, ?_⟩
  simp only [List.length_append, List.length_nil]
  omega

end SubscriptionAck

end Mqtt
