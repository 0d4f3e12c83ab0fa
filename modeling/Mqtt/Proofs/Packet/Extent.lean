import Mqtt.Proofs.Packet

/-! # Where a frame ends

A header tells how many bytes follow it, so a frame tells where it ends, whatever its
body would allow: bytes behind it are trailing bytes (`Mqtt.Packet.ofFrame_append`), and
without its last bytes it is a frame that has not arrived whole
(`Mqtt.Packet.ofFrame_of_cut`). No frame is the beginning of another one
(`Mqtt.Packet.decode_self_delimiting`).
-/

namespace Mqtt

/-- The bytes of a frame end before it does: inside its header or inside its body. -/
inductive Fault.Unfinished : Fault → Prop
  | header : Unfinished .headerMissing
  | length : Unfinished .varIntMissing
  | body {length available : Nat} (fewer : available < length) :
      Unfinished (.bodyMissing length available)

namespace Packet

variable {packet : Packet} {frame part cut more : Bytes}

/-- Bytes behind a frame are trailing bytes of its packet. -/
theorem ofFrame_append (found : ofFrame frame = .ok packet) (further : more ≠ []) :
    ofFrame (frame ++ more) = .error (.frameTrailing more.length packet.packetType) := by
  obtain ⟨control, digits, body, packetType, rfl, kind, spells, bodyFound⟩ :=
    ofFrame_eq_ok_iff.mp found
  obtain ⟨ownFlags, bodyRead⟩ := ofBody_eq_ok_iff.mp bodyFound
  have own := (encodeBody_of_readBody ownFlags bodyRead).packetType_eq
  have header : FixedHeader.read (control :: (digits ++ body) ++ more) =
      .ok (⟨packetType, control &&& 15, body.length⟩, body ++ more) := by
    apply FixedHeader.read_append
    exact FixedHeader.read_eq_ok_iff.mpr ⟨control, digits, rfl, kind, rfl, spells⟩
  have positive := List.length_pos_iff.mpr further
  have enough : ¬ (body ++ more).length < body.length := by
    rw [List.length_append]
    omega
  have trailing : (body ++ more).length > body.length := by
    rw [List.length_append]
    omega
  have count : (body ++ more).length - body.length = more.length := by
    rw [List.length_append, Nat.add_sub_cancel_left]
  rw [ofFrame, header, Except.ok_bind]
  simp only [enough, trailing, count, own, ↓reduceIte]
  rfl

/-- A body that is shorter than its header announces is missing bytes. -/
theorem ofFrame_of_missing {control : UInt8} {packetType : PacketType} {digits body : Bytes}
    {length : Nat} (kind : PacketType.ofControlByte control = .ok packetType)
    (spells : VarInt.Spells digits length) (fewer : body.length < length) :
    ofFrame (control :: (digits ++ body)) = .error (.bodyMissing length body.length) := by
  have header : FixedHeader.read (control :: (digits ++ body)) =
      .ok (⟨packetType, control &&& 15, length⟩, body) :=
    FixedHeader.read_eq_ok_iff.mpr ⟨control, digits, rfl, kind, rfl, spells⟩
  rw [ofFrame, header, Except.ok_bind]
  simp only [fewer, ↓reduceIte]
  rfl

/-- A frame without its last bytes is unfinished. -/
theorem ofFrame_of_cut (found : ofFrame (part ++ cut) = .ok packet) (short : cut ≠ []) :
    ∃ fault, fault.Unfinished ∧ ofFrame part = .error fault := by
  obtain ⟨control, digits, body, packetType, whole, kind, spells, -⟩ := ofFrame_eq_ok_iff.mp found
  have positive := List.length_pos_iff.mpr short
  cases part with
  | nil => exact ⟨_, .header, rfl⟩
  | cons first left =>
      rw [List.cons_append, List.cons.injEq] at whole
      obtain ⟨rfl, split⟩ := whole
      -- The digits of the length decide which of the two readers runs out of bytes.
      by_cases inLength : left.length < digits.length
      · obtain ⟨lost, rfl⟩ : left <+: digits :=
          List.prefix_of_prefix_length_le ⟨cut, split⟩ ⟨body, rfl⟩ (Nat.le_of_lt inLength)
        have some : lost ≠ [] := by
          rintro rfl
          simp at inLength
        refine ⟨_, .length, ?_⟩
        rw [ofFrame, FixedHeader.read_of_cut kind spells some]
        rfl
      · obtain ⟨kept, rfl⟩ : digits <+: left :=
          List.prefix_of_prefix_length_le ⟨body, split.symm⟩ ⟨cut, rfl⟩ (Nat.le_of_not_lt inLength)
        rw [List.append_assoc] at split
        obtain rfl := List.append_cancel_left split
        have fewer : kept.length < (kept ++ cut).length := by
          rw [List.length_append]
          omega
        exact ⟨_, .body fewer, ofFrame_of_missing kind spells fewer⟩

/-- A frame with bytes behind it is no frame, and neither is one without its last bytes: it
ends where its header says. So no frame is the beginning of another one, whatever packets
the two hold. -/
theorem decode_self_delimiting (found : decode frame = .ok packet) :
    (∀ more, more ≠ [] → decode (frame ++ more) =
        .error (.malformed (.frameTrailing more.length packet.packetType))) ∧
      (∀ part, part <+: frame → part ≠ frame →
        ∃ fault, fault.Unfinished ∧ decode part = .error (.malformed fault)) ∧
      ∀ other another, decode other = .ok another → frame <+: other → frame = other := by
  have whole := decode_eq_ok_iff.mp found
  refine ⟨?_, ?_, ?_⟩
  · intro more further
    rw [decode, ofFrame_append whole further]
    rfl
  · rintro part ⟨cut, rfl⟩ proper
    have short : cut ≠ [] := by
      rintro rfl
      exact proper (List.append_nil part).symm
    obtain ⟨fault, unfinished, failed⟩ := ofFrame_of_cut whole short
    refine ⟨fault, unfinished, ?_⟩
    rw [decode, failed]
    rfl
  · rintro other another foundOther ⟨more, rfl⟩
    by_contra different
    have further : more ≠ [] := by
      rintro rfl
      exact different (List.append_nil frame).symm
    rw [decode, ofFrame_append whole further] at foundOther
    cases foundOther

/-- One byte more or less would leave the message a body that can be read. -/
theorem decode_self_delimiting_payload :
    let packet : Packet := .publish { topic := "a", payload := [255] }
    decode [48, 133, 0, 0, 1, 97, 0, 255] = .ok packet ∧
      decode [48, 133, 0, 0, 1, 97, 0, 255, 7] = .error (.malformed (.frameTrailing 1 .publish)) ∧
      ∃ fault, fault.Unfinished ∧
        decode [48, 133, 0, 0, 1, 97, 0] = .error (.malformed fault) := by
  intro packet
  have found : decode [48, 133, 0, 0, 1, 97, 0, 255] = .ok packet := by decide +kernel
  obtain ⟨longer, shorter, -⟩ := decode_self_delimiting found
  refine ⟨found, longer [7] (by decide), shorter _ ⟨[255], rfl⟩ (by decide)⟩

end Packet

end Mqtt
