import Mqtt.FixedHeader
import Mqtt.Proofs.Wire.Code
import Mqtt.Proofs.Wire.VarInt

/-! # What a fixed header says

Reading a header takes exactly a control byte of a known kind and digits that
spell the remaining length (`Mqtt.FixedHeader.read_eq_ok_iff`), so a header that
was written is read back whatever follows it (`Mqtt.FixedHeader.read_encode`). A header
with the flags of its kind is written exactly if the remaining length is in range
(`Mqtt.FixedHeader.encode_of_checkFlags`).
-/

namespace Mqtt

namespace FixedHeader

variable {header : FixedHeader} {bytes rest : Bytes}

/-- A header is read from a control byte of its kind and flags and a spelling of its
length. -/
theorem read_eq_ok_iff :
    read bytes = .ok (header, rest) ↔
      ∃ control digits, bytes = control :: (digits ++ rest) ∧
        PacketType.ofControlByte control = .ok header.packetType ∧
        header.flags = control &&& 15 ∧ VarInt.Spells digits header.remainingLength := by
  simp only [read, Reader.bind_eq_ok_iff, Reader.byteOr_eq_ok_iff, Reader.ofExcept_eq_ok_iff,
    VarInt.read_eq_ok_iff, Reader.pure_eq_ok_iff, Prod.mk.injEq]
  constructor
  · intro found
    obtain ⟨control, left, rfl, packetType, left, ⟨kind, rfl⟩, length, left, ⟨digits, rfl,
      spells⟩, rfl, rfl⟩ := found
    exact ⟨control, digits, rfl, kind, rfl, spells⟩
  · intro found
    obtain ⟨control, digits, rfl, kind, flags, spells⟩ := found
    obtain ⟨packetType, ownFlags, length⟩ := header
    have same := spells.toNat_ofNat
    exact ⟨control, _, rfl, packetType, _, ⟨kind, rfl⟩, UInt32.ofNat length, rest,
      ⟨digits, rfl, by rw [same]; exact spells⟩, by rw [same, ← flags], rfl⟩

/-- Bytes behind a header do not change how it is read. -/
theorem read_append (found : read bytes = .ok (header, rest)) (more : Bytes) :
    read (bytes ++ more) = .ok (header, rest ++ more) := by
  obtain ⟨control, digits, rfl, kind, flags, spells⟩ := read_eq_ok_iff.mp found
  apply read_eq_ok_iff.mpr
  refine ⟨control, digits, ?_, kind, flags, spells⟩
  rw [List.cons_append, List.append_assoc]

/-- A header that is cut short behind its control byte has an unfinished length. -/
theorem read_of_cut {control : UInt8} {packetType : PacketType} {digits cut : Bytes} {length : Nat}
    (kind : PacketType.ofControlByte control = .ok packetType)
    (spells : VarInt.Spells (digits ++ cut) length) (short : cut ≠ []) :
    read (control :: digits) = .error .varIntMissing := by
  have first : Reader.byteOr .headerMissing (control :: digits) = .ok (control, digits) := rfl
  have second : Reader.ofExcept (PacketType.ofControlByte control) digits =
      .ok (packetType, digits) := by
    rw [kind]
    rfl
  rw [read, Reader.bind_of_ok first, Reader.bind_of_ok second,
    Reader.bind_of_error (spells.read_of_cut short)]

/-- A header that can be written holds a kind with flags that it may have, in
front of a remaining length in range. -/
theorem encode_eq_ok_iff :
    header.encode = .ok bytes ↔
      header.remainingLength ≤ maximumVarInt ∧
        header.packetType.checkFlags header.flags = .ok () ∧
        ∃ digits, VarInt.encode header.remainingLength = .ok digits ∧
          bytes = (header.packetType.code <<< 4 ||| header.flags) :: digits := by
  simp only [encode, Except.throw_eq_error, Except.error_bind, Except.ite_error_eq_ok_iff,
    Nat.not_lt, gt_iff_lt, Except.bind_eq_ok_iff, Except.mapError_eq_ok_iff,
    PacketType.controlByte_eq_ok_iff, Except.pure_eq_ok_iff]
  constructor
  · intro found
    obtain ⟨fits, control, ⟨flags, rfl⟩, digits, wrote, rfl⟩ := found
    exact ⟨fits, flags, digits, wrote, rfl⟩
  · intro found
    obtain ⟨fits, flags, digits, wrote, rfl⟩ := found
    exact ⟨fits, _, ⟨flags, rfl⟩, digits, wrote, rfl⟩

/-- A header with flags that its kind may have is a control byte and the shortest digits of
the remaining length, if that is in range. -/
theorem encode_of_checkFlags (flags : header.packetType.checkFlags header.flags = .ok ()) :
    header.encode =
      if header.remainingLength > maximumVarInt then
        .error (.tooLarge header.remainingLength maximumVarInt)
      else .ok ((header.packetType.code <<< 4 ||| header.flags) ::
        VarInt.digits (VarInt.size header.remainingLength) header.remainingLength) := by
  have control := PacketType.controlByte_eq_ok_iff.mpr ⟨flags, rfl⟩
  by_cases large : header.remainingLength > maximumVarInt
  · simp only [encode, large, ↓reduceIte, Except.throw_eq_error, Except.error_bind]
  · simp only [encode, large, ↓reduceIte, control, VarInt.encode, Except.mapError, Except.ok_bind]
    rfl

/-- A header that was written is read back. -/
theorem read_encode (wrote : header.encode = .ok bytes) (rest : Bytes) :
    read (bytes ++ rest) = .ok (header, rest) := by
  obtain ⟨-, flags, digits, length, rfl⟩ := encode_eq_ok_iff.mp wrote
  obtain ⟨kind, low⟩ := PacketType.ofControlByte_of_checkFlags flags
  apply read_eq_ok_iff.mpr
  exact ⟨_, digits, rfl, kind, low.symm, (VarInt.spells_of_encode length).1⟩

/-- A header is written in as many bytes as its encoded length. -/
theorem length_encode (wrote : header.encode = .ok bytes) :
    bytes.length = header.encodedLength := by
  obtain ⟨-, -, digits, length, rfl⟩ := encode_eq_ok_iff.mp wrote
  rw [List.length_cons, (VarInt.spells_of_encode length).2, encodedLength, Nat.add_comm]

end FixedHeader

end Mqtt
