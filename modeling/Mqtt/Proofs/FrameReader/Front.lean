import Mqtt.FrameReader
import Mqtt.Proofs.Packet

/-! # What the front of a buffer shows

A whole frame is shown exactly when the buffer begins with one that is not too
large (`Mqtt.FrameReader.front_eq_frame_iff`), and a header is rejected for one
of three reasons (`Mqtt.FrameReader.front_eq_rejected_iff`). Bytes that arrive
later change neither (`Mqtt.FrameReader.front_append_of_frame`,
`Mqtt.FrameReader.front_append_of_rejected`).
-/

namespace Mqtt

namespace FrameReader

variable {maximumSize : Nat} {buffer body rest : Bytes} {packetType : PacketType} {flags : UInt8}
  {error : PacketError}

/-- A frame that a reader takes: a control byte of a known kind, digits that spell
the number of bytes that follow them, and no more bytes than the reader allows. -/
structure IsFrame (maximumSize : Nat) (control : UInt8) (digits body : Bytes)
    (packetType : PacketType) : Prop where
  kind : PacketType.ofControlByte control = .ok packetType
  spells : VarInt.Spells digits body.length
  fits : 1 + digits.length + body.length ≤ maximumSize

/-- Why a header is rejected: its kind is unknown, its remaining length is
malformed, or it announces a frame that is too large. -/
inductive Rejects (maximumSize : Nat) (control : UInt8) (lengthBytes : Bytes) :
    PacketError → Prop where
  | unknownKind {fault : Fault} (unknown : PacketType.ofControlByte control = .error fault) :
      Rejects maximumSize control lengthBytes (.malformed fault)
  | malformedLength {packetType : PacketType} {fault : Fault}
      (kind : PacketType.ofControlByte control = .ok packetType)
      (malformed : VarInt.peek lengthBytes = .error fault) :
      Rejects maximumSize control lengthBytes (.malformed fault)
  | tooLarge {packetType : PacketType} {remainingLength : UInt32} {width : Nat}
      (kind : PacketType.ofControlByte control = .ok packetType)
      (announced : VarInt.peek lengthBytes = .ok (some (remainingLength, width)))
      (large : maximumSize < 1 + width + remainingLength.toNat) :
      Rejects maximumSize control lengthBytes
        (.tooLarge (1 + width + remainingLength.toNat) maximumSize)

/-- What a buffer shows of its first frame. -/
inductive Shows (maximumSize : Nat) : Bytes → Front → Prop where
  | short {buffer : Bytes} (short : buffer.length < 2) : Shows maximumSize buffer .incomplete
  | rejected {control : UInt8} {lengthBytes : Bytes} {error : PacketError}
      (some : lengthBytes ≠ []) (rejects : Rejects maximumSize control lengthBytes error) :
      Shows maximumSize (control :: lengthBytes) (.rejected error)
  | lengthOpen {control : UInt8} {lengthBytes : Bytes} {packetType : PacketType}
      (kind : PacketType.ofControlByte control = .ok packetType)
      (waits : VarInt.peek lengthBytes = .ok none) :
      Shows maximumSize (control :: lengthBytes) .incomplete
  | bodyOpen {control : UInt8} {digits begun : Bytes} {remainingLength : Nat}
      {packetType : PacketType} (kind : PacketType.ofControlByte control = .ok packetType)
      (spells : VarInt.Spells digits remainingLength)
      (fits : 1 + digits.length + remainingLength ≤ maximumSize)
      (less : begun.length < remainingLength) :
      Shows maximumSize (control :: (digits ++ begun)) .incomplete
  | frame {control : UInt8} {digits body rest : Bytes} {packetType : PacketType}
      (isFrame : IsFrame maximumSize control digits body packetType) :
      Shows maximumSize (control :: (digits ++ (body ++ rest)))
        (.frame packetType (control &&& 15) body rest)

/-- Two bytes are enough to look for a header. -/
theorem front_cons {control first : UInt8} {others : Bytes} :
    front maximumSize (control :: first :: others) =
      match PacketType.ofControlByte control with
      | .error fault => .rejected (.malformed fault)
      | .ok packetType =>
          match VarInt.peek (first :: others) with
          | .error fault => .rejected (.malformed fault)
          | .ok none => .incomplete
          | .ok (some (remainingLength, width)) =>
              if 1 + width + remainingLength.toNat > maximumSize then
                .rejected (.tooLarge (1 + width + remainingLength.toNat) maximumSize)
              else
                match Bytes.splitExact? remainingLength.toNat ((first :: others).drop width) with
                | none => .incomplete
                | some (body, rest) => .frame packetType (control &&& 15) body rest :=
  rfl

/-- What a buffer shows is so. -/
theorem shows_front (maximumSize : Nat) (buffer : Bytes) :
    Shows maximumSize buffer (front maximumSize buffer) := by
  match buffer with
  | [] => exact .short (by simp)
  | [_] => exact .short (by simp)
  | control :: first :: others =>
      have some : first :: others ≠ [] := List.cons_ne_nil _ _
      rw [front_cons]
      cases kind : PacketType.ofControlByte control with
      | error fault => exact .rejected some (.unknownKind kind)
      | ok packetType =>
          cases announced : VarInt.peek (first :: others) with
          | error fault => exact .rejected some (.malformedLength kind announced)
          | ok length =>
              match length with
              | none => exact .lengthOpen kind announced
              | Option.some (remainingLength, width) =>
                  by_cases large : 1 + width + remainingLength.toNat > maximumSize
                  · simp only [large, ↓reduceIte]
                    exact .rejected some (.tooLarge kind announced large)
                  · obtain ⟨digits, left, same, spells, rfl⟩ := VarInt.peek_eq_some_iff.mp announced
                    simp only [large, ↓reduceIte, same, List.drop_left]
                    cases split : Bytes.splitExact? remainingLength.toNat left with
                    | none =>
                        have less := Bytes.splitExact?_eq_none_iff.mp split
                        exact .bodyOpen kind spells (Nat.not_lt.mp large) less
                    | some parts =>
                        obtain ⟨rfl, exact⟩ := Bytes.splitExact?_eq_some_iff.mp split
                        rw [← exact] at large spells
                        exact .frame ⟨kind, spells, Nat.not_lt.mp large⟩

/-- A buffer that begins with a frame that is not too large shows it. -/
theorem front_eq_frame {control : UInt8} {digits : Bytes}
    (isFrame : IsFrame maximumSize control digits body packetType) (rest : Bytes) :
    front maximumSize (control :: (digits ++ (body ++ rest))) =
      .frame packetType (control &&& 15) body rest := by
  obtain ⟨kind, spells, fits⟩ := isFrame
  cases digits with
  | nil => exact absurd spells.length_pos (Nat.lt_irrefl 0)
  | cons first others =>
      have announced := spells.peek_append (body ++ rest)
      rw [List.cons_append] at announced ⊢
      rw [front_cons, kind, announced]
      simp only [spells.toNat_ofNat, Nat.not_lt.mpr fits, ↓reduceIte, ← List.cons_append,
        List.drop_left, Bytes.splitExact?_append rest rfl]

/-- A buffer shows a frame exactly where it begins with one. -/
theorem front_eq_frame_iff :
    front maximumSize buffer = .frame packetType flags body rest ↔
      ∃ control digits, buffer = control :: (digits ++ (body ++ rest)) ∧
        flags = control &&& 15 ∧ IsFrame maximumSize control digits body packetType := by
  constructor
  · intro shown
    have shows := shows_front maximumSize buffer
    rw [shown] at shows
    cases shows with
    | frame isFrame => exact ⟨_, _, rfl, rfl, isFrame⟩
  · intro found
    obtain ⟨control, digits, rfl, rfl, isFrame⟩ := found
    exact front_eq_frame isFrame rest

/-- A frame that is there stays where it is when more bytes arrive. -/
theorem front_append_of_frame (shown : front maximumSize buffer = .frame packetType flags body rest)
    (more : Bytes) :
    front maximumSize (buffer ++ more) = .frame packetType flags body (rest ++ more) := by
  obtain ⟨control, digits, rfl, rfl, isFrame⟩ := front_eq_frame_iff.mp shown
  simp only [List.cons_append, List.append_assoc]
  exact front_eq_frame isFrame (rest ++ more)

/-- A header is rejected when it has begun its remaining length and there is a reason to. -/
theorem front_eq_rejected_iff :
    front maximumSize buffer = .rejected error ↔
      ∃ control lengthBytes, buffer = control :: lengthBytes ∧ lengthBytes ≠ [] ∧
        Rejects maximumSize control lengthBytes error := by
  constructor
  · intro shown
    have shows := shows_front maximumSize buffer
    rw [shown] at shows
    cases shows with
    | rejected some rejects => exact ⟨_, _, rfl, some, rejects⟩
  · intro found
    obtain ⟨control, lengthBytes, rfl, some, rejects⟩ := found
    cases lengthBytes with
    | nil => exact (some rfl).elim
    | cons first others =>
        rw [front_cons]
        cases rejects with
        | unknownKind unknown => rw [unknown]
        | malformedLength kind malformed => rw [kind, malformed]
        | tooLarge kind announced large =>
            rw [kind, announced]
            simp only [gt_iff_lt, large, ↓reduceIte]

/-- The reason for which a header is rejected stays when more bytes arrive. -/
theorem Rejects.append {control : UInt8} {lengthBytes : Bytes}
    (rejects : Rejects maximumSize control lengthBytes error) (more : Bytes) :
    Rejects maximumSize control (lengthBytes ++ more) error := by
  cases rejects with
  | unknownKind unknown => exact .unknownKind unknown
  | malformedLength kind malformed =>
      exact .malformedLength kind (VarInt.peek_append_of_error malformed more)
  | tooLarge kind announced large =>
      exact .tooLarge kind (VarInt.peek_append_of_some announced more) large

/-- A header that is rejected stays so when more bytes arrive. -/
theorem front_append_of_rejected (shown : front maximumSize buffer = .rejected error)
    (more : Bytes) : front maximumSize (buffer ++ more) = .rejected error := by
  obtain ⟨control, lengthBytes, rfl, some, rejects⟩ := front_eq_rejected_iff.mp shown
  apply front_eq_rejected_iff.mpr
  exact ⟨control, lengthBytes ++ more, rfl, List.append_ne_nil_of_left_ne_nil some more,
    rejects.append more⟩

end FrameReader

end Mqtt
