import Mqtt.Packet.Ack
import Mqtt.Proofs.Packet.Tail

/-! # Acknowledgements, written and read

The three forms of an acknowledgement are told apart by what follows the
identifier (`Mqtt.Ack.read_eq_ok_iff`). One that is written is read back
(`Mqtt.Ack.read_encode`). One that is read can be written in no more bytes, but
for a reason code other than success without properties: what is written then
has one byte more, the length of an empty block (`Mqtt.Ack.encode_of_read`).
-/

namespace Mqtt

open PropertyBlock

variable {bytes rest written : Bytes}

/-- A block agrees with the properties when it holds the reason string and the user
properties, and nothing else. -/
theorem AckProperties.agrees_iff {block : PropertyBlock} {properties : AckProperties} :
    block.Agrees properties.toBlock ↔
      block.OfKinds kinds ∧ block.values .reasonString = properties.reasonString.toList ∧
        block.values .userProperty = properties.userProperties := by
  rw [PropertyBlock.agrees_iff (show properties.toBlock.OfKinds kinds by simp [toBlock, kinds])]
  simp [toBlock, kinds]

/-- The properties are read from any block that agrees with them, and from no other. -/
theorem AckProperties.represents (packetType : PacketType) :
    Represents toBlock (ofBlock packetType) fun _ => True := by
  intro block properties
  simp only [AckProperties.agrees_iff, ofBlock, Except.bind_eq_ok_iff, checkKinds_eq_ok_iff,
    Except.pure_eq_ok_iff, true_and]
  constructor
  · intro found
    obtain ⟨-, own, _, reasonString, rfl⟩ := found
    exact ⟨own, value?_eq_ok_iff.mp reasonString, rfl⟩
  · intro agrees
    obtain ⟨own, reasonString, userProperties⟩ := agrees
    exact ⟨(), own, _, value?_eq_ok_iff.mpr reasonString, by
      rw [PropertyBlock.userProperties, userProperties]⟩

namespace Ack

variable {stage : AckStage} {ack : Ack}

/-- Construction asks for an identifier other than zero and a reason of the stage. -/
theorem check_eq_ok_iff {result : Unit} :
    ack.check stage = .ok result ↔
      ack.packetId ≠ 0 ∧ ack.reason ∈ stage.packetType.reasonCodes := by
  simp only [check, Except.throw_eq_error, Except.error_bind, Except.ite_error_eq_ok_iff,
    PacketType.checkReason_eq_ok_iff, ne_eq]

/-- An acknowledgement is an identifier; or an identifier and a reason code; or an
identifier, a reason code and a block of its properties. -/
theorem read_eq_ok_iff :
    read stage bytes = .ok (ack, rest) ↔
      ack.packetId ≠ 0 ∧ ∃ left, bytes = Bytes.ofUInt16 ack.packetId ++ left ∧
        ((left = [] ∧ rest = [] ∧ ack.reason = .success ∧ ack.properties = {}) ∨
          (ack.reason ∈ stage.packetType.reasonCodes ∧
            ((left = [ack.reason.code] ∧ rest = [] ∧ ack.properties = {}) ∨
              ∃ inner block, left = ack.reason.code :: inner ∧ inner ≠ [] ∧
                PropertyBlock.read inner = .ok (block, rest) ∧
                AckProperties.ofBlock stage.packetType block = .ok ack.properties))) := by
  rw [read, Reader.bind_eq_ok_iff]
  simp only [Reader.packetId_eq_ok_iff, readTail_eq_ok_iff]
  constructor
  · intro found
    obtain ⟨packetId, left, ⟨nonzero, rfl⟩, form⟩ := found
    rcases form with ⟨rfl, rfl, rfl⟩ | ⟨reason, own, ⟨rfl, rfl, rfl⟩ | form⟩
    · exact ⟨nonzero, _, rfl, .inl ⟨rfl, rfl, rfl, rfl⟩⟩
    · exact ⟨nonzero, _, rfl, .inr ⟨own, .inl ⟨rfl, rfl, rfl⟩⟩⟩
    · obtain ⟨inner, block, properties, rfl, more, blockFound, typed, rfl⟩ := form
      exact ⟨nonzero, _, rfl, .inr ⟨own, .inr ⟨inner, block, rfl, more, blockFound, typed⟩⟩⟩
  · intro found
    obtain ⟨packetId, reason, properties⟩ := ack
    obtain ⟨nonzero, left, rfl, form⟩ := found
    refine ⟨packetId, left, ⟨nonzero, rfl⟩, ?_⟩
    rcases form with ⟨rfl, rfl, success, bare⟩ | ⟨own, ⟨rfl, rfl, bare⟩ | form⟩
    · exact .inl ⟨rfl, rfl, by rw [← success, ← bare]⟩
    · exact .inr ⟨reason, own, .inl ⟨rfl, rfl, by rw [← bare]⟩⟩
    · obtain ⟨inner, block, rfl, more, blockFound, typed⟩ := form
      exact .inr ⟨reason, own,
        .inr ⟨inner, block, properties, rfl, more, blockFound, typed, rfl⟩⟩

/-- A plain success is written as its identifier, and all else with reason and properties.
-/
theorem encode_eq_ok_iff :
    ack.encode = .ok written ↔
      (ack.reason = .success ∧ ack.properties = {} ∧ Bytes.ofUInt16 ack.packetId = written) ∨
        (¬ (ack.reason = .success ∧ ack.properties = {}) ∧
          ∃ block, ack.properties.toBlock.encode = .ok block ∧
            Bytes.ofUInt16 ack.packetId ++ ack.reason.code :: block = written) := by
  unfold encode
  by_cases plain : ack.reason = .success ∧ ack.properties = {}
  · simp [plain]
  · simp only [Bool.and_eq_true, decide_eq_true_eq, plain, ↓reduceIte, Except.bind_eq_ok_iff,
      Except.pure_eq_ok_iff, not_false_eq_true, true_and]
    constructor
    · exact .inr
    · intro form
      rcases form with ⟨success, bare, -⟩ | form
      · exact (plain ⟨success, bare⟩).elim
      · exact form

/-- An acknowledgement that is written is read back. -/
theorem read_encode (fits : ack.check stage = .ok ()) (wrote : ack.encode = .ok written) :
    read stage written = .ok (ack, []) := by
  obtain ⟨nonzero, own⟩ := check_eq_ok_iff.mp fits
  apply read_eq_ok_iff.mpr
  refine ⟨nonzero, ?_⟩
  rcases encode_eq_ok_iff.mp wrote with ⟨success, bare, rfl⟩ | ⟨-, block, wroteBlock, rfl⟩
  · exact ⟨[], (List.append_nil _).symm, .inl ⟨rfl, rfl, success, bare⟩⟩
  · obtain ⟨blockFound, typed⟩ :=
      (AckProperties.represents stage.packetType).read_encode trivial wroteBlock []
    rw [List.append_nil] at blockFound
    exact ⟨_, rfl, .inr ⟨own, .inr
      ⟨block, _, rfl, encode_ne_nil wroteBlock, blockFound, typed⟩⟩⟩

/-- An acknowledgement that is read obeys the rules and can be written in no more
bytes, but for one byte more where a reason code stands without properties. -/
theorem encode_of_read (found : read stage bytes = .ok (ack, rest)) :
    ack.check stage = .ok () ∧ ∃ written, ack.encode = .ok written ∧
      (written.length + rest.length ≤ bytes.length ∨
        (ack.reason ≠ .success ∧ ack.properties = {} ∧ rest = [] ∧
          bytes = Bytes.ofUInt16 ack.packetId ++ [ack.reason.code] ∧
          written.length = bytes.length + 1)) := by
  obtain ⟨nonzero, left, rfl, form⟩ := read_eq_ok_iff.mp found
  rw [check_eq_ok_iff]
  rcases form with ⟨rfl, rfl, success, bare⟩ | ⟨own, form⟩
  · refine ⟨⟨nonzero, ?_⟩, _, encode_eq_ok_iff.mpr (.inl ⟨success, bare, rfl⟩), .inl (by simp)⟩
    rw [success]
    cases stage <;> decide
  · refine ⟨⟨nonzero, own⟩, ?_⟩
    by_cases plain : ack.reason = .success ∧ ack.properties = {}
    · refine ⟨_, encode_eq_ok_iff.mpr (.inl ⟨plain.1, plain.2, rfl⟩), .inl ?_⟩
      rcases form with ⟨rfl, rfl, -⟩ | ⟨inner, block, rfl, -, blockFound, -⟩
      · simp
      · obtain ⟨_, -, shorter⟩ := PropertyBlock.encode_of_read blockFound (List.Perm.refl _)
        simp only [List.length_append, List.length_cons]
        omega
    · rcases form with ⟨rfl, rfl, bare⟩ | ⟨inner, block, rfl, -, blockFound, typed⟩
      · have wrote : ack.properties.toBlock.encode = .ok [0] := by rw [bare]; rfl
        refine ⟨_, encode_eq_ok_iff.mpr (.inr ⟨plain, _, wrote, rfl⟩), .inr ?_⟩
        exact ⟨fun success => plain ⟨success, bare⟩, bare, rfl, rfl, by simp⟩
      · obtain ⟨-, written, wrote, shorter⟩ :=
          (AckProperties.represents stage.packetType).encode_of_read blockFound typed
        refine ⟨_, encode_eq_ok_iff.mpr (.inr ⟨plain, written, wrote, rfl⟩), .inl ?_⟩
        simp only [List.length_append, List.length_cons]
        omega

end Ack

end Mqtt
