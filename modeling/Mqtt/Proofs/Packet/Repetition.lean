import Mqtt.Proofs.Packet

/-! # Messages that are sent again

The mark of a repetition stands in the header flags alone, and whether it may be there
depends on the quality of service alone. So a message that is marked is written exactly if
the message itself is, as the same frame but for one bit of the first byte
(`Mqtt.Packet.encode_asDuplicate`), and it obeys the same rules
(`Mqtt.Publish.repeats_asDuplicate`).
-/

namespace Mqtt

namespace Packet

/-- A frame is a control byte, the shortest digits of the length of a body, and that body, if
the length is in range. -/
theorem encode_eq (packet : Packet) :
    packet.encode = packet.encodeBody >>= fun body =>
      if body.length > maximumVarInt then .error (.tooLarge body.length maximumVarInt)
      else .ok ((packet.packetType.code <<< 4 ||| packet.flags) ::
        (VarInt.digits (VarInt.size body.length) body.length ++ body)) := by
  unfold encode
  cases packet.encodeBody with
  | error error => rfl
  | ok body =>
      rw [Except.ok_bind, Except.ok_bind, FixedHeader.encode_of_checkFlags packet.checkFlags_flags]
      split <;> rfl

end Packet

namespace Publish

variable {message : Publish}

/-- A message that is not acknowledged has no mark, and gets none. -/
theorem asDuplicate_of_never (fits : message.check = .ok ()) (never : message.qos = .atMostOnce) :
    message.asDuplicate = message := by
  obtain ⟨-, -, -, -, unmarked, -⟩ := check_eq_ok_iff.mp fits
  have same : decide (message.qos ≠ .atMostOnce) = message.duplicate := by
    simpa [never] using unmarked
  rw [asDuplicate, same]

/-- A message that is acknowledged gets the mark. -/
theorem asDuplicate_of_acknowledged (acknowledged : message.qos ≠ .atMostOnce) :
    message.asDuplicate = { message with duplicate := true } := by
  simp only [asDuplicate, acknowledged, ne_eq, not_false_eq_true, decide_true]

/-- The mark is bit 3 of the header flags. -/
theorem flags_asDuplicate (acknowledged : message.qos ≠ .atMostOnce) :
    message.asDuplicate.flags = message.flags ||| 8 := by
  rw [asDuplicate_of_acknowledged acknowledged]
  simp only [flags]
  cases message.duplicate <;> cases message.qos <;> cases message.retain <;> decide

end Publish

namespace Packet

variable {message : Publish}

/-- The mark is bit 3 of the first byte of a frame, and nothing else depends on it. -/
theorem encode_asDuplicate (acknowledged : message.qos ≠ .atMostOnce) :
    (Packet.publish message.asDuplicate).encode =
      (Packet.publish message).encode.map (List.modifyHead (· ||| 8)) := by
  have flags : (Packet.publish message.asDuplicate).flags = (Packet.publish message).flags ||| 8 :=
    Publish.flags_asDuplicate acknowledged
  have body : (Packet.publish message.asDuplicate).encodeBody =
      (Packet.publish message).encodeBody := rfl
  rw [encode_eq, encode_eq, flags, body]
  cases (Packet.publish message).encodeBody with
  | error error => rfl
  | ok body =>
      simp only [Except.ok_bind]
      split
      · rfl
      · rw [← UInt8.or_assoc]
        rfl

end Packet

namespace Publish

/-- A message is the repetition of another: it is what is sent when the other is sent again. -/
structure Repeats (again message : Publish) : Prop where
  /-- It obeys the rules of construction. -/
  fits : again.check = .ok ()
  /-- It differs at most in the mark. -/
  same : { again with duplicate := message.duplicate } = message
  /-- It is its own repetition. -/
  stable : again.asDuplicate = again
  /-- A message that is not acknowledged is left as it is. -/
  never : message.qos = .atMostOnce → again = message
  /-- Of any other message, the repetition is written exactly if the message is, as the same
  frame with bit 3 of the first byte set. -/
  frame : message.qos ≠ .atMostOnce →
    (Packet.publish again).encode =
      (Packet.publish message).encode.map (List.modifyHead (· ||| 8))
  /-- The repetition is read from its frame. -/
  decode : ∀ frame, (Packet.publish again).encode = .ok frame →
    Packet.decode frame = .ok (.publish again)

/-- A message that is marked as a duplicate repeats the message. -/
theorem repeats_asDuplicate {message : Publish} (fits : message.check = .ok ()) :
    message.asDuplicate.Repeats message where
  fits := check_asDuplicate fits
  same := rfl
  stable := rfl
  never := asDuplicate_of_never fits
  frame := Packet.encode_asDuplicate
  decode _ wrote := Packet.decode_of_encode (check_asDuplicate fits) wrote

end Publish

end Mqtt
