import Mqtt.Packet
import Mqtt.Proofs.Packet.Auth
import Mqtt.Proofs.Packet.ConnAck
import Mqtt.Proofs.Packet.Connect
import Mqtt.Proofs.Packet.Disconnect
import Mqtt.Proofs.Packet.Publish
import Mqtt.Proofs.Packet.Subscribe
import Mqtt.Proofs.Packet.SubscriptionAck

/-! # The body of a packet, written and read

What holds of the body of each kind of packet holds of packets: a body that is
written after its header flags is read back (`Mqtt.Packet.readBody_encodeBody`),
and a packet that is read from a body is of the kind and has the flags that its
header announced, and can be written again
(`Mqtt.Packet.encodeBody_of_readBody`).
-/

namespace Mqtt

namespace Packet

variable {packet : Packet} {packetType : PacketType} {flags : UInt8} {body rest : Bytes}

/-- The rules that a packet obeys when it is read: those of construction, except
that an AUTH packet may have a method with an empty name. -/
def WellFormed : Packet → Prop
  | auth packet => PacketType.auth.checkReason packet.reason = .ok ()
  | packet => packet.check = .ok ()

/-- The rules of construction include those of reading. -/
theorem wellFormed_of_check (fits : packet.check = .ok ()) : packet.WellFormed := by
  cases packet with
  | auth packet => exact Auth.checkReason_of_check fits
  | _ => exact fits

/-- An acknowledgement in the form of an identifier and a reason code other than
success. -/
def ReasonOnly (packet : Packet) (body : Bytes) : Prop :=
  ∃ stage packetId reason, packet = .ack stage { packetId, reason } ∧
    reason ≠ .success ∧ body = Bytes.ofUInt16 packetId ++ [reason.code]

theorem ReasonOnly.length_eq (reasonOnly : packet.ReasonOnly body) : body.length = 3 := by
  obtain ⟨_, _, _, -, -, rfl⟩ := reasonOnly
  rfl

/-- All four acknowledgements are read in the same way. -/
theorem readBody_ack (stage : AckStage) (flags : UInt8) :
    readBody stage.packetType flags = ack stage <$> Ack.read stage := by
  cases stage <;> rfl

/-- Both answers to a subscription are read in the same way. -/
theorem readBody_subscriptionAck (stage : SubscriptionStage) (flags : UInt8) :
    readBody stage.packetType flags = subscriptionAck stage <$> SubscriptionAck.read stage := by
  cases stage <;> rfl

/-- A body that is written is read back after the flags of its packet. -/
theorem readBody_encodeBody (fits : packet.WellFormed) (wrote : packet.encodeBody = .ok body) :
    readBody packet.packetType packet.flags body = .ok (packet, []) := by
  cases packet with
  | connect packet =>
      apply Reader.map_eq_ok_iff.mpr
      exact ⟨packet, Connect.read_encode wrote, rfl⟩
  | connAck packet =>
      apply Reader.map_eq_ok_iff.mpr
      exact ⟨packet, ConnAck.read_encode fits wrote, rfl⟩
  | publish packet =>
      apply Reader.map_eq_ok_iff.mpr
      exact ⟨packet, Publish.read_encode fits wrote, rfl⟩
  | ack stage packet =>
      have found := Ack.read_encode fits wrote
      cases stage <;> exact Reader.map_eq_ok_iff.mpr ⟨packet, found, rfl⟩
  | subscribe packet =>
      apply Reader.map_eq_ok_iff.mpr
      exact ⟨packet, Subscribe.read_encode fits wrote, rfl⟩
  | subscriptionAck stage packet =>
      have found := SubscriptionAck.read_encode fits wrote
      cases stage <;> exact Reader.map_eq_ok_iff.mpr ⟨packet, found, rfl⟩
  | unsubscribe packet =>
      apply Reader.map_eq_ok_iff.mpr
      exact ⟨packet, Unsubscribe.read_encode fits wrote, rfl⟩
  | pingReq =>
      cases wrote
      rfl
  | pingResp =>
      cases wrote
      rfl
  | disconnect packet =>
      apply Reader.map_eq_ok_iff.mpr
      exact ⟨packet, Disconnect.read_encode fits wrote, rfl⟩
  | auth packet =>
      apply Reader.map_eq_ok_iff.mpr
      exact ⟨packet, Auth.read_encode fits wrote, rfl⟩

/-- The flags of a packet are flags that its kind may have. -/
theorem checkFlags_flags (packet : Packet) :
    packet.packetType.checkFlags packet.flags = .ok () := by
  cases packet with
  | publish packet =>
      have small : packet.flags < 16 := by
        unfold Publish.flags
        cases packet.duplicate <;> cases packet.qos <;> cases packet.retain <;> decide
      exact if_neg (UInt8.not_le.mpr small)
  | _ => exact PacketType.checkFlags_reserved _

/-- Flags that a kind other than PUBLISH may have are those reserved for it. -/
theorem eq_reservedFlags (other : packetType ≠ .publish)
    (fits : packetType.checkFlags flags = .ok ()) : packetType.reservedFlags.getD 0 = flags := by
  unfold PacketType.checkFlags at fits
  cases reserved : packetType.reservedFlags with
  | none =>
      cases packetType <;> first | exact (other rfl).elim | cases reserved
  | some expected =>
      simp only [reserved, Except.ite_error_eq_ok_iff, Classical.not_not, and_true] at fits
      exact fits.2.symm

/-- What is known of a packet that was read from a body: it is of the kind and has
the flags of the header, obeys the rules, and can be written in no more bytes,
but for one byte more where an acknowledgement has a reason code and no
properties. -/
structure ReadFrom (packet : Packet) (packetType : PacketType) (flags : UInt8)
    (body rest : Bytes) : Prop where
  packetType_eq : packet.packetType = packetType
  flags_eq : packet.flags = flags
  wellFormed : packet.WellFormed
  encodeBody : ∃ written, packet.encodeBody = .ok written ∧
    (written.length + rest.length ≤ body.length ∨
      packet.ReasonOnly body ∧ written.length = body.length + 1)

/-- What was read as an acknowledgement is of its stage and can be written. -/
theorem readFrom_ack (stage : AckStage) {ack : Ack}
    (fits : stage.packetType.checkFlags flags = .ok ())
    (found : Ack.read stage body = .ok (ack, rest)) :
    ReadFrom (.ack stage ack) stage.packetType flags body rest := by
  have other : stage.packetType ≠ .publish := by cases stage <;> decide
  have reserved : (Packet.ack stage ack).flags = flags := eq_reservedFlags other fits
  obtain ⟨wellFormed, written, wrote, length⟩ := Ack.encode_of_read found
  refine ⟨rfl, reserved, wellFormed, written, wrote, ?_⟩
  rcases length with shorter | ⟨reason, bare, -, rfl, longer⟩
  · exact .inl shorter
  · refine .inr ⟨⟨stage, ack.packetId, ack.reason, ?_, reason, rfl⟩, longer⟩
    rw [← bare]

/-- What was read as an answer to a subscription is of its stage and can be written. -/
theorem readFrom_subscriptionAck (stage : SubscriptionStage) {ack : SubscriptionAck}
    (fits : stage.packetType.checkFlags flags = .ok ())
    (found : SubscriptionAck.read stage body = .ok (ack, rest)) :
    ReadFrom (.subscriptionAck stage ack) stage.packetType flags body rest := by
  have other : stage.packetType ≠ .publish := by cases stage <;> decide
  have reserved : (Packet.subscriptionAck stage ack).flags = flags := eq_reservedFlags other fits
  obtain ⟨wellFormed, written, wrote, shorter⟩ := SubscriptionAck.encode_of_read found
  exact ⟨rfl, reserved, wellFormed, written, wrote, .inl shorter⟩

/-- A body that was read as a packet can be written again. -/
theorem encodeBody_of_readBody (fits : packetType.checkFlags flags = .ok ())
    (found : readBody packetType flags body = .ok (packet, rest)) :
    packet.ReadFrom packetType flags body rest := by
  cases packetType with
  | connect =>
      obtain ⟨packet, bodyFound, rfl⟩ := Reader.map_eq_ok_iff.mp found
      obtain ⟨written, wrote, shorter⟩ := Connect.encode_of_read bodyFound
      exact ⟨rfl, eq_reservedFlags (by decide) fits, rfl, written, wrote, .inl shorter⟩
  | connAck =>
      obtain ⟨packet, bodyFound, rfl⟩ := Reader.map_eq_ok_iff.mp found
      obtain ⟨wellFormed, written, wrote, shorter⟩ := ConnAck.encode_of_read bodyFound
      exact ⟨rfl, eq_reservedFlags (by decide) fits, wellFormed, written, wrote, .inl shorter⟩
  | publish =>
      obtain ⟨packet, bodyFound, rfl⟩ := Reader.map_eq_ok_iff.mp found
      obtain ⟨wellFormed, same, written, wrote, shorter⟩ :=
        Publish.encode_of_read (PacketType.checkFlags_lt fits) bodyFound
      exact ⟨rfl, same, wellFormed, written, wrote, .inl shorter⟩
  | pubAck =>
      obtain ⟨ack, bodyFound, rfl⟩ := Reader.map_eq_ok_iff.mp found
      exact readFrom_ack .pubAck fits bodyFound
  | pubRec =>
      obtain ⟨ack, bodyFound, rfl⟩ := Reader.map_eq_ok_iff.mp found
      exact readFrom_ack .pubRec fits bodyFound
  | pubRel =>
      obtain ⟨ack, bodyFound, rfl⟩ := Reader.map_eq_ok_iff.mp found
      exact readFrom_ack .pubRel fits bodyFound
  | pubComp =>
      obtain ⟨ack, bodyFound, rfl⟩ := Reader.map_eq_ok_iff.mp found
      exact readFrom_ack .pubComp fits bodyFound
  | subscribe =>
      obtain ⟨packet, bodyFound, rfl⟩ := Reader.map_eq_ok_iff.mp found
      obtain ⟨wellFormed, written, wrote, shorter⟩ := Subscribe.encode_of_read bodyFound
      exact ⟨rfl, eq_reservedFlags (by decide) fits, wellFormed, written, wrote, .inl shorter⟩
  | subAck =>
      obtain ⟨ack, bodyFound, rfl⟩ := Reader.map_eq_ok_iff.mp found
      exact readFrom_subscriptionAck .subAck fits bodyFound
  | unsubscribe =>
      obtain ⟨packet, bodyFound, rfl⟩ := Reader.map_eq_ok_iff.mp found
      obtain ⟨wellFormed, written, wrote, shorter⟩ := Unsubscribe.encode_of_read bodyFound
      exact ⟨rfl, eq_reservedFlags (by decide) fits, wellFormed, written, wrote, .inl shorter⟩
  | unsubAck =>
      obtain ⟨ack, bodyFound, rfl⟩ := Reader.map_eq_ok_iff.mp found
      exact readFrom_subscriptionAck .unsubAck fits bodyFound
  | pingReq =>
      cases found
      exact ⟨rfl, eq_reservedFlags (by decide) fits, rfl, [], rfl, .inl (by simp)⟩
  | pingResp =>
      cases found
      exact ⟨rfl, eq_reservedFlags (by decide) fits, rfl, [], rfl, .inl (by simp)⟩
  | disconnect =>
      obtain ⟨packet, bodyFound, rfl⟩ := Reader.map_eq_ok_iff.mp found
      obtain ⟨wellFormed, written, wrote, shorter⟩ := Disconnect.encode_of_read bodyFound
      exact ⟨rfl, eq_reservedFlags (by decide) fits, wellFormed, written, wrote, .inl shorter⟩
  | auth =>
      obtain ⟨packet, bodyFound, rfl⟩ := Reader.map_eq_ok_iff.mp found
      obtain ⟨wellFormed, written, wrote, shorter⟩ := Auth.encode_of_read bodyFound
      exact ⟨rfl, eq_reservedFlags (by decide) fits, wellFormed, written, wrote, .inl shorter⟩

/-- Only PUBLISH looks at the flags. -/
theorem readBody_eq_of_ne (other : packetType ≠ .publish) (first second : UInt8) :
    readBody packetType first = readBody packetType second := by
  cases packetType with
  | publish => exact (other rfl).elim
  | _ => rfl

/-- A packet that is read obeys the rules, whatever the flags and whatever follows it. -/
theorem wellFormed_of_readBody (found : readBody packetType flags body = .ok (packet, rest)) :
    packet.WellFormed := by
  by_cases message : packetType = .publish
  · subst message
    obtain ⟨publish, bodyFound, rfl⟩ := Reader.map_eq_ok_iff.mp found
    obtain ⟨-, fits, -⟩ := Publish.read_eq_ok_iff.mp bodyFound
    exact fits
  · have reserved := packetType.checkFlags_reserved
    rw [readBody_eq_of_ne message flags (packetType.reservedFlags.getD 0)] at found
    exact (encodeBody_of_readBody reserved found).wellFormed

end Packet

end Mqtt
