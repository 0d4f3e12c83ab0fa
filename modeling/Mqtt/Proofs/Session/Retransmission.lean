import Mqtt.Proofs.Packet.Repetition
import Mqtt.Proofs.Session.Run

/-! # Messages in flight that are sent again

Every message in flight is one that was stored, so it obeys the rules and is acknowledged
(`Mqtt.Session.lawful_run`). It is sent again with the mark of a repetition, and its frame is
read as the same message with that mark
(`Mqtt.Session.retransmission_changes_mark`).
-/

namespace Mqtt

namespace Session

variable {session : Session} {event : Event}

/-- Every message in flight obeys the rules of construction and is acknowledged. -/
def Lawful (session : Session) : Prop :=
  ∀ (packetId : UInt16) (publish : InFlightPublish),
    session.inFlight[packetId]? = some (.publish publish) →
      publish.packet.check = .ok () ∧ publish.packet.qos ≠ .atMostOnce

/-- A new session holds nothing, so all it holds is lawful. -/
theorem lawful_new : ({} : Session).Lawful := by
  intro packetId publish found
  simp at found

/-- An operation brings into flight only messages that obey the rules. -/
theorem Lawful.step (lawful : event.before.Lawful) (steps : Steps event) :
    event.after.Lawful := by
  intro packetId publish found
  cases steps.brings with
  | @message session message now entry made acknowledged nonzero =>
      rw [getElem?_put] at found
      split at found
      · cases found
        subst made
        exact ⟨message.fits, acknowledged⟩
      · exact lawful packetId publish found
  | pubrel made released =>
      rw [getElem?_put] at found
      split at found
      · cases found
      · exact lawful packetId publish found
  | nothing shrinks => exact lawful packetId publish (shrinks.within _ _ found)

/-- After every run, the messages in flight obey the rules. -/
theorem lawful_run (operations : List Operation) : (run {} operations).2.Lawful := by
  have kept : (run {} operations).2.Indexed ∧ (run {} operations).2.Lawful := by
    refine @run_induction (fun _ session => session.Indexed ∧ session.Lawful) _
      ⟨indexed_new, lawful_new⟩ ?_ operations
    intro events current operation held
    have steps := steps_event held.1 operation
    exact ⟨steps.indexed held.1, held.2.step steps⟩
  exact kept.2

/-- A message in flight that obeys the rules carries the identifier that it is held under. -/
theorem packetId_of_lawful {packetId : UInt16} {publish : InFlightPublish}
    (indexed : session.Indexed) (lawful : session.Lawful)
    (found : session.inFlight[packetId]? = some (.publish publish)) :
    publish.packet.packetId = some packetId := by
  obtain ⟨fits, acknowledged⟩ := lawful packetId publish found
  obtain ⟨own, -⟩ := indexed packetId _ found
  obtain ⟨carried, same, -⟩ := Message.packetId_of_acknowledged ⟨publish.packet, fits⟩ acknowledged
  rw [InFlight.packetId, InFlightPublish.packetId, same, Option.getD_some] at own
  rw [same, own]

/-- The repetition of a message that a program can hold obeys the rules and differs at most
in the mark, and so do the frames of both. In every session that operations lead to, a
message in flight whose packet can be written is sent again as the same frame with the mark,
which is read as that packet with the mark: it still carries the identifier that it is held
under. -/
theorem retransmission_changes_mark :
    (∀ message : Publish, (Packet.publish message).Held →
      message.asDuplicate.Repeats message) ∧
    ∀ (operations : List Operation) (packetId : UInt16) (publish : InFlightPublish),
      (run {} operations).2.inFlight[packetId]? = some (.publish publish) →
        publish.packet.packetId = some packetId ∧
        ∀ frame, (Packet.publish publish.packet).encode = .ok frame →
          (InFlight.publish publish).toPacket.encode = .ok (frame.modifyHead (· ||| 8)) ∧
            Packet.decode (frame.modifyHead (· ||| 8)) =
              .ok (.publish { publish.packet with duplicate := true }) := by
  constructor
  · intro message held
    exact Publish.repeats_asDuplicate held.wellFormed
  · intro operations packetId publish found
    obtain ⟨fits, acknowledged⟩ := lawful_run operations packetId publish found
    refine ⟨packetId_of_lawful (indexed_run operations) (lawful_run operations) found, ?_⟩
    intro frame wrote
    have repeats := Publish.repeats_asDuplicate fits
    have again : (Packet.publish publish.packet.asDuplicate).encode =
        .ok (frame.modifyHead (· ||| 8)) := by
      rw [repeats.frame acknowledged, wrote]
      rfl
    refine ⟨again, ?_⟩
    rw [repeats.decode _ again, Publish.asDuplicate_of_acknowledged acknowledged]

/-- A message that is stored is sent again with the first byte 0x3c in place of 0x34, and a
message that is not acknowledged is left as it is. -/
theorem retransmission_changes_mark_stored :
    let message : Message :=
      ⟨{ topic := "a", qos := .exactlyOnce, packetId := some 7, payload := [9] },
        by decide +kernel⟩
    let never : Publish := { topic := "a" }
    let publish := message.inFlight ⟨0⟩ 1
    (run {} [.store message ⟨0⟩]).2.inFlight[(7 : UInt16)]? = some (.publish publish) ∧
      (Packet.publish message.publish).encode = .ok [52, 7, 0, 1, 97, 0, 7, 0, 9] ∧
      (InFlight.publish publish).toPacket.encode = .ok [60, 7, 0, 1, 97, 0, 7, 0, 9] ∧
      Packet.decode [60, 7, 0, 1, 97, 0, 7, 0, 9] =
        .ok (.publish { message.publish with duplicate := true }) ∧
      (Packet.publish never).Held ∧ never.asDuplicate = never := by
  intro message never publish
  have found : (run {} [.store message ⟨0⟩]).2.inFlight[(7 : UInt16)]? =
      some (.publish publish) := by rfl
  have wrote : (Packet.publish message.publish).encode = .ok [52, 7, 0, 1, 97, 0, 7, 0, 9] := by
    decide +kernel
  have fits : never.check = .ok () := by decide +kernel
  have built : Packet.build (.publish never) = .ok (.publish never) :=
    Packet.build_eq_ok_iff.mpr ⟨fits, rfl⟩
  have held : (Packet.publish never).Held := .made (.built built)
  obtain ⟨repeats, sentAgain⟩ := retransmission_changes_mark
  obtain ⟨-, frames⟩ := sentAgain [.store message ⟨0⟩] 7 publish found
  obtain ⟨again, decoded⟩ := frames _ wrote
  exact ⟨found, wrote, again, decoded, held, (repeats never held).never rfl⟩

end Session

end Mqtt
