import Mqtt.Proofs.FrameReader.Stream

/-! # The size of a frame and the remaining length

A reader compares its limit with the size of a whole frame, a writer with the
remaining length that the header announces. A default reader has the greatest
remaining length as its limit, so it refuses the frames with the five greatest
remaining lengths, which can be written: one of them is the frame of a message with
a large payload (`Mqtt.FrameReader.refuses_largest`). Every other frame it takes
(`Mqtt.FrameReader.next_extend_default`).
-/

namespace Mqtt

namespace VarInt

/-- An integer has at most four digits. -/
theorem size_le_four (value : Nat) : size value ≤ 4 := by
  unfold size
  split_ifs <;> decide

/-- An integer that three digits cannot hold has four. -/
theorem size_eq_four {value : Nat} (large : 2097151 < value) : size value = 4 := by
  simp only [size, show ¬ value ≤ 127 by omega, show ¬ value ≤ 16383 by omega,
    show ¬ value ≤ 2097151 by omega, ↓reduceIte]

end VarInt

namespace FrameReader

variable {reader : FrameReader} {packet : Packet} {frame body : Bytes}

/-- The first bytes of a frame that a packet was written as: a control byte of the
kind of the packet and digits that spell the length of its body. -/
theorem exists_header_of_encode (wrote : packet.encode = .ok frame) :
    ∃ control digits body, frame = control :: (digits ++ body) ∧
      packet.encodeBody = .ok body ∧ body.length ≤ maximumVarInt ∧
      PacketType.ofControlByte control = .ok packet.packetType ∧
      VarInt.Spells digits body.length ∧ digits.length = VarInt.size body.length := by
  obtain ⟨body, header, wroteBody, wroteHeader, rfl⟩ := Packet.encode_eq_ok_iff.mp wrote
  obtain ⟨fits, flags, digits, length, rfl⟩ := FixedHeader.encode_eq_ok_iff.mp wroteHeader
  obtain ⟨spells, size⟩ := VarInt.spells_of_encode length
  obtain ⟨kind, -⟩ := PacketType.ofControlByte_of_checkFlags flags
  exact ⟨_, digits, body, rfl, wroteBody, fits, kind, spells, size⟩

/-- A reader with nothing but a frame of a packet takes the packet if it allows the
size of the frame. -/
theorem next_of_fits (held : packet.Held) (wrote : packet.encode = .ok frame)
    (shown : reader.buffer = frame) (fits : frame.length ≤ reader.maximumSize) :
    reader.next = (.ok (some packet), { reader with buffer := [] }) := by
  obtain ⟨accepts, found⟩ := (Carries.packet held wrote).accepts fits
  have whole : reader.buffer = frame ++ [] := by rw [shown, List.append_nil]
  have answer := ask_of_accepts whole accepts
  simp only [ask, found, Answer.mk.injEq, true_and] at answer
  exact Prod.ext answer.1 answer.2

/-- A reader refuses a frame of a packet that is larger than it allows, and keeps it. -/
theorem next_of_large (wrote : packet.encode = .ok frame) (shown : reader.buffer = frame)
    (large : reader.maximumSize < frame.length) :
    reader.next = (.error (.tooLarge frame.length reader.maximumSize), reader) := by
  obtain ⟨control, digits, body, rfl, -, -, kind, spells, -⟩ := exists_header_of_encode wrote
  have announced := spells.peek_append body
  have size : (control :: (digits ++ body)).length =
      1 + digits.length + (UInt32.ofNat body.length).toNat := by
    rw [spells.toNat_ofNat, List.length_cons, List.length_append]
    omega
  have some : digits ++ body ≠ [] :=
    List.append_ne_nil_of_left_ne_nil (List.ne_nil_of_length_pos spells.length_pos) body
  have rejected : front reader.maximumSize reader.buffer =
      .rejected (.tooLarge (control :: (digits ++ body)).length reader.maximumSize) := by
    apply front_eq_rejected_iff.mpr
    refine ⟨control, digits ++ body, shown, some, ?_⟩
    rw [size] at large ⊢
    exact .tooLarge kind announced large
  simp only [next, rejected]

/-- A default reader takes a packet from the frame that it was written as, and has
nothing left, if the remaining length is at least five below the greatest one. It
refuses the frame if the remaining length is greater than that, and keeps it. -/
theorem next_extend_default (held : packet.Held) (wrote : packet.encode = .ok frame) :
    ∃ body, packet.encodeBody = .ok body ∧ body.length ≤ maximumVarInt ∧
      (({} : FrameReader).extend frame).next =
        if body.length + 5 ≤ maximumVarInt then (.ok (some packet), {})
        else (.error (.tooLarge (body.length + 5) maximumVarInt), { buffer := frame }) := by
  obtain ⟨control, digits, body, same, wroteBody, fits, -, -, size⟩ :=
    exists_header_of_encode wrote
  have length : frame.length = 1 + VarInt.size body.length + body.length := by
    rw [same, List.length_cons, List.length_append, size]
    omega
  have atMost := VarInt.size_le_four body.length
  refine ⟨body, wroteBody, fits, ?_⟩
  split
  · next small =>
      have fitsDefault : frame.length ≤ maximumVarInt := by omega
      exact next_of_fits held wrote rfl fitsDefault
  · next large =>
      have beyond : 2097151 < body.length := by
        unfold maximumVarInt at large
        omega
      have four := VarInt.size_eq_four beyond
      have whole : frame.length = body.length + 5 := by omega
      rw [← whole]
      refine next_of_large wrote rfl ?_
      change maximumVarInt < frame.length
      omega

/-- A PINGRESP packet is far below the limit, and is read. -/
theorem next_extend_default_pingResp :
    Packet.pingResp.Held ∧ Packet.pingResp.encode = .ok [208, 0] ∧
      ∃ body, Packet.pingResp.encodeBody = .ok body ∧ body.length ≤ maximumVarInt ∧
        (({} : FrameReader).extend [208, 0]).next =
          if body.length + 5 ≤ maximumVarInt then (.ok (some .pingResp), {})
          else (.error (.tooLarge (body.length + 5) maximumVarInt), { buffer := [208, 0] }) := by
  have held : Packet.pingResp.Held := .made (.built (Packet.build_eq_ok_iff.mpr ⟨rfl, rfl⟩))
  exact ⟨held, rfl, next_extend_default held rfl⟩

/-- A message with the topic `a` is written in four bytes and its payload. -/
theorem encodeBody_message (payload : Bytes) :
    (Packet.publish { topic := "a", payload }).encodeBody = .ok ([0, 1, 97, 0] ++ payload) := by
  have topic : Field.ofText "a" = .ok [0, 1, 97] := by decide +kernel
  have properties : PropertyBlock.encode (PublishProperties.toBlock {}) = .ok [0] := rfl
  simp only [Packet.encodeBody, Publish.encode, topic, properties, Except.ok_bind]
  rfl

/-- A message with any payload can be built. -/
theorem made_message (payload : Bytes) : (Packet.publish { topic := "a", payload }).Made := by
  have same : (Packet.publish { topic := "a", payload }).check =
      (Packet.publish { topic := "a" }).check := rfl
  have fits : (Packet.publish { topic := "a" }).check = .ok () := by decide +kernel
  rw [← same] at fits
  exact .built (Packet.build_eq_ok_iff.mpr ⟨fits, rfl⟩)

/-- A default reader refuses the frame of a message that was made. -/
theorem refuses_largest :
    let packet : Packet := .publish { topic := "a", payload := List.replicate 268435447 0 }
    packet.Made ∧ ∃ frame, packet.encode = .ok frame ∧
      (({} : FrameReader).extend frame).next =
        (.error (.tooLarge 268435456 268435455), { buffer := frame }) := by
  intro packet
  have wroteBody := encodeBody_message (List.replicate 268435447 0)
  have length : ([0, 1, 97, 0] ++ List.replicate 268435447 (0 : UInt8)).length = 268435451 := by
    rw [List.length_append, List.length_replicate]
    rfl
  have kind : PacketType.ofControlByte 48 = .ok packet.packetType := rfl
  have fits : ([0, 1, 97, 0] ++ List.replicate 268435447 (0 : UInt8)).length ≤ maximumVarInt := by
    rw [length]
    decide
  obtain ⟨left, wrote, leftLength⟩ := Packet.encode_of_encodeBody kind rfl rfl wroteBody fits
  refine ⟨made_message _, _, wrote, ?_⟩
  have whole : (48 :: left).length = 268435456 := by
    rw [List.length_cons, leftLength, length]
    rfl
  have large : maximumVarInt < (48 :: left).length := by
    rw [whole]
    decide
  have shown : (({} : FrameReader).extend (48 :: left)).buffer = 48 :: left := rfl
  rw [next_of_large wrote shown large, whole]
  rfl

end FrameReader

end Mqtt
