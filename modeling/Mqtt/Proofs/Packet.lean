import Mqtt.Proofs.FixedHeader
import Mqtt.Proofs.Packet.Body

/-! # Frames, written and read

A frame is a header and a body of the length that the header announces
(`Mqtt.Packet.ofFrame_eq_ok_iff`). A packet that obeys the rules is the packet of
the frame it is written as (`Mqtt.Packet.decode_of_encode`). Decoding takes more
than one spelling of a packet, and encoding gives the one that is written: it
begins with the same control byte, and is no longer than the others but for the
acknowledgements that leave out the length of their properties.
-/

namespace Mqtt

namespace Packet

variable {packet : Packet} {packetType : PacketType} {flags : UInt8} {body frame : Bytes}

/-- A body is that of a packet when its flags are accepted and it is read to its end. -/
theorem ofBody_eq_ok_iff :
    ofBody packetType flags body = .ok packet ↔
      packetType.checkFlags flags = .ok () ∧
        readBody packetType flags body = .ok (packet, []) := by
  simp only [ofBody, Except.bind_eq_ok_iff]
  constructor
  · intro found
    obtain ⟨_, fits, ⟨_, trailing⟩, bodyFound, whole⟩ := found
    simp only [Except.throw_eq_error, Except.error_bind, Except.ite_error_eq_ok_iff,
      Bool.not_eq_eq_eq_not, Bool.not_true, Bool.not_eq_false, List.isEmpty_iff,
      Except.pure_eq_ok_iff] at whole
    obtain ⟨rfl, rfl⟩ := whole
    exact ⟨fits, bodyFound⟩
  · intro found
    obtain ⟨fits, bodyFound⟩ := found
    exact ⟨(), fits, (packet, []), bodyFound, rfl⟩

/-- Behind a header that announces the length of a body, the frame is read as the
body is. -/
theorem ofFrame_eq_ofBody {control : UInt8} {digits : Bytes}
    (kind : PacketType.ofControlByte control = .ok packetType)
    (spells : VarInt.Spells digits body.length) :
    ofFrame (control :: (digits ++ body)) = ofBody packetType (control &&& 15) body := by
  have header : FixedHeader.read (control :: (digits ++ body)) =
      .ok (⟨packetType, control &&& 15, body.length⟩, body) :=
    FixedHeader.read_eq_ok_iff.mpr ⟨control, digits, rfl, kind, rfl, spells⟩
  simp only [ofFrame, header, Except.ok_bind, Nat.lt_irrefl, ↓reduceIte, gt_iff_lt]

/-- A frame is a control byte of a known kind, digits that spell the length of a
body, and that body. -/
theorem ofFrame_eq_ok_iff :
    ofFrame frame = .ok packet ↔
      ∃ control digits body packetType, frame = control :: (digits ++ body) ∧
        PacketType.ofControlByte control = .ok packetType ∧ VarInt.Spells digits body.length ∧
        ofBody packetType (control &&& 15) body = .ok packet := by
  constructor
  · intro found
    simp only [ofFrame, Except.bind_eq_ok_iff] at found
    obtain ⟨⟨⟨packetType, flags, length⟩, body⟩, headerFound, bodyFound⟩ := found
    simp only [Except.throw_eq_error, Except.error_bind, Except.ite_error_eq_ok_iff] at bodyFound
    obtain ⟨enough, nothingMore, bodyFound⟩ := bodyFound
    obtain ⟨control, digits, rfl, kind, rfl, spells⟩ := FixedHeader.read_eq_ok_iff.mp headerFound
    have exact : length = body.length := by omega
    exact ⟨control, digits, body, packetType, rfl, kind, exact ▸ spells, bodyFound⟩
  · intro found
    obtain ⟨control, digits, body, packetType, rfl, kind, spells, bodyFound⟩ := found
    rw [ofFrame_eq_ofBody kind spells]
    exact bodyFound

/-- Decoding a frame is reading it, with every fault called malformed. -/
theorem decode_eq_ok_iff : decode frame = .ok packet ↔ ofFrame frame = .ok packet :=
  Except.mapError_eq_ok_iff

/-- A frame is the header of a body and that body. -/
theorem encode_eq_ok_iff :
    packet.encode = .ok frame ↔
      ∃ body header, packet.encodeBody = .ok body ∧
        FixedHeader.encode ⟨packet.packetType, packet.flags, body.length⟩ = .ok header ∧
        header ++ body = frame := by
  simp only [encode, Except.bind_eq_ok_iff, Except.pure_eq_ok_iff, exists_and_left]

/-- A packet that obeys the rules is read from the frame it is written as. -/
theorem decode_of_encode (fits : packet.WellFormed) (wrote : packet.encode = .ok frame) :
    decode frame = .ok packet := by
  obtain ⟨body, header, wroteBody, wroteHeader, rfl⟩ := encode_eq_ok_iff.mp wrote
  obtain ⟨-, ownFlags, digits, length, rfl⟩ := FixedHeader.encode_eq_ok_iff.mp wroteHeader
  obtain ⟨kind, low⟩ := PacketType.ofControlByte_of_checkFlags ownFlags
  have spells := (VarInt.spells_of_encode length).1
  have bodyFound : ofBody packet.packetType packet.flags body = .ok packet := by
    apply ofBody_eq_ok_iff.mpr
    exact ⟨ownFlags, readBody_encodeBody fits wroteBody⟩
  apply decode_eq_ok_iff.mpr
  rw [List.cons_append, ofFrame_eq_ofBody kind spells, low]
  exact bodyFound

/-! ## Packets that are made -/

/-- A packet that the operations on packets make: one that construction takes, or
the repetition of a message. -/
inductive Made : Packet → Prop
  | built {candidate packet : Packet} (built : build candidate = .ok packet) : Made packet
  | repeated {message : Publish} (made : Made (.publish message)) :
      Made (.publish message.asDuplicate)

/-- Construction gives back the packet that it was given, if this obeys the rules. -/
theorem build_eq_ok_iff {candidate : Packet} :
    build candidate = .ok packet ↔ candidate.check = .ok () ∧ candidate = packet := by
  simp only [build, Except.bind_unit_eq_ok_iff, Except.mapError_eq_ok_iff, Except.pure_eq_ok_iff]

/-- A packet that was made obeys the rules. -/
theorem Made.check (made : Made packet) : packet.check = .ok () := by
  induction made with
  | built built =>
      obtain ⟨fits, rfl⟩ := build_eq_ok_iff.mp built
      exact fits
  | repeated _ fits => exact Publish.check_asDuplicate fits

/-- A packet that was made is read from the frame it is written as. -/
theorem Made.decode_encode (made : Made packet) (wrote : packet.encode = .ok frame) :
    decode frame = .ok packet :=
  decode_of_encode (wellFormed_of_check made.check) wrote

/-- A message with an alias and a user property, as a repetition: its flags are 10, so the
mark of a duplicate and the quality of service are read back from them. -/
theorem Made.decode_encode_repetition :
    let message : Publish := {
      qos := .atLeastOnce, topic := "a/b", packetId := some 10, payload := [1, 2]
      properties := { topicAlias := some 3, userProperties := [⟨"k", "v"⟩] } }
    let frame : Bytes :=
      [58, 20, 0, 3, 97, 47, 98, 0, 10, 10, 35, 0, 3, 38, 0, 1, 107, 0, 1, 118, 1, 2]
    Made (.publish message.asDuplicate) ∧
      (Packet.publish message.asDuplicate).encode = .ok frame ∧
      decode frame = .ok (.publish message.asDuplicate) := by
  intro message frame
  have built : build (.publish message) = .ok (.publish message) :=
    build_eq_ok_iff.mpr ⟨by decide +kernel, rfl⟩
  have made : Made (.publish message.asDuplicate) := .repeated (.built built)
  have wrote : (Packet.publish message.asDuplicate).encode = .ok frame := by decide +kernel
  exact ⟨made, wrote, decode_encode made wrote⟩

/-- A packet that a program can hold: one that was made, or one that was read, from
a whole frame or from the bytes after a header. -/
inductive Held : Packet → Prop
  | made {packet : Packet} (made : Made packet) : Held packet
  | read {packet : Packet} {packetType : PacketType} {flags : UInt8} {body rest : Bytes}
      (found : readBody packetType flags body = .ok (packet, rest)) : Held packet

/-- A packet that a program can hold obeys the rules that reading enforces. -/
theorem Held.wellFormed (held : Held packet) : packet.WellFormed := by
  cases held with
  | made made => exact wellFormed_of_check made.check
  | read found => exact wellFormed_of_readBody found

/-! ## Frames that are written again -/

/-- A packet of the kind and with the flags of a control byte is written after that
byte and the shortest spelling of the length of its body. -/
theorem encode_of_encodeBody {control : UInt8} {written : Bytes}
    (kind : PacketType.ofControlByte control = .ok packet.packetType)
    (sameFlags : packet.flags = control &&& 15)
    (ownFlags : packet.packetType.checkFlags (control &&& 15) = .ok ())
    (wrote : packet.encodeBody = .ok written) (fits : written.length ≤ maximumVarInt) :
    ∃ left, packet.encode = .ok (control :: left) ∧
      left.length = VarInt.size written.length + written.length := by
  obtain ⟨digits, wroteDigits⟩ := VarInt.encode_of_le fits
  refine ⟨digits ++ written, ?_, ?_⟩
  · apply encode_eq_ok_iff.mpr
    refine ⟨written, control :: digits, wrote, ?_, rfl⟩
    apply FixedHeader.encode_eq_ok_iff.mpr
    refine ⟨fits, sameFlags ▸ ownFlags, digits, wroteDigits, ?_⟩
    rw [sameFlags, PacketType.controlByte_of_ofControlByte kind]
  · rw [List.length_append, (VarInt.spells_of_encode wroteDigits).2]

/-- A body that is no longer is written in no more bytes with its length in front. -/
theorem size_add_length_le {digits written : Bytes} (spells : VarInt.Spells digits body.length)
    (shorter : written.length ≤ body.length) :
    VarInt.size written.length + written.length ≤ digits.length + body.length := by
  have smaller := VarInt.size_mono shorter
  have size := spells.size_le
  omega

/-- A packet that is decoded can be written, as a frame with the same control byte
that is no longer than the one it was decoded from, but for an acknowledgement
of an identifier and a reason code. -/
theorem encode_decode (found : decode frame = .ok packet) :
    ∃ rewritten, packet.encode = .ok rewritten ∧ decode rewritten = .ok packet ∧
      (∃ control others left, frame = control :: others ∧ rewritten = control :: left) ∧
      (rewritten.length ≤ frame.length ∨
        rewritten.length = frame.length + 1 ∧
          ∃ header body, FixedHeader.read frame = .ok (header, body) ∧ packet.ReasonOnly body) := by
  obtain ⟨control, digits, body, packetType, rfl, kind, spells, bodyFound⟩ :=
    ofFrame_eq_ok_iff.mp (decode_eq_ok_iff.mp found)
  obtain ⟨ownFlags, bodyRead⟩ := ofBody_eq_ok_iff.mp bodyFound
  obtain ⟨rfl, sameFlags, wellFormed, written, wrote, length⟩ :=
    encodeBody_of_readBody ownFlags bodyRead
  rcases length with shorter | ⟨reasonOnly, longer⟩
  · rw [List.length_nil, Nat.add_zero] at shorter
    obtain ⟨left, rewrote, leftLength⟩ := encode_of_encodeBody kind sameFlags ownFlags wrote
      (Nat.le_trans shorter spells.le_maximumVarInt)
    refine ⟨control :: left, rewrote, decode_of_encode wellFormed rewrote,
      ⟨control, _, left, rfl, rfl⟩, .inl ?_⟩
    have bound := size_add_length_le spells shorter
    simp only [List.length_cons, List.length_append, leftLength]
    omega
  · -- The written body has four bytes, so its length takes one digit, which may be
    -- fewer than the digits that were read.
    have three := reasonOnly.length_eq
    have four : written.length = 4 := by rw [longer, three]
    obtain ⟨left, rewrote, leftLength⟩ := encode_of_encodeBody kind sameFlags ownFlags wrote
      (by rw [four]; decide)
    refine ⟨control :: left, rewrote, decode_of_encode wellFormed rewrote,
      ⟨control, _, left, rfl, rfl⟩, ?_⟩
    have one : VarInt.size written.length = 1 := by rw [four]; rfl
    have positive := spells.length_pos
    simp only [List.length_cons, List.length_append, leftLength]
    by_cases short : digits.length = 1
    · refine .inr ⟨by omega, ⟨packet.packetType, control &&& 15, body.length⟩, body, ?_, reasonOnly⟩
      apply FixedHeader.read_eq_ok_iff.mpr
      exact ⟨control, digits, rfl, kind, rfl, spells⟩
    · exact .inl (by omega)

/-- An acknowledgement with a reason code and no properties is written in one byte more. -/
theorem encode_decode_reasonOnly :
    let packet : Packet := .ack .pubAck { packetId := 5, reason := .noMatchingSubscribers }
    let frame : Bytes := [64, 3, 0, 5, 16]
    decode frame = .ok packet ∧
      ∃ rewritten, packet.encode = .ok rewritten ∧ decode rewritten = .ok packet ∧
        (∃ control others left, frame = control :: others ∧ rewritten = control :: left) ∧
        (rewritten.length ≤ frame.length ∨
          rewritten.length = frame.length + 1 ∧
            ∃ header body, FixedHeader.read frame = .ok (header, body) ∧
              packet.ReasonOnly body) := by
  intro packet frame
  have found : decode frame = .ok packet := rfl
  exact ⟨found, encode_decode found⟩

end Packet

end Mqtt
