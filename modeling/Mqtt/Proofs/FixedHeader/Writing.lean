import Mqtt.Proofs.FixedHeader
import Mqtt.Proofs.Wire.Append

/-! # Headers put into a buffer

A header is put in two parts, and the second one may fail on its own. It does not, because
the remaining length is compared with its limit before the control byte is put
(`Mqtt.FixedHeader.appends_encode`). So a header is in the buffer as a whole, to be read back
whatever follows it, or the buffer is as it was (`Mqtt.FixedHeader.written_whole_or_not`).
-/

namespace Mqtt

namespace FixedHeader

/-- Puts a header, first its control byte and then the digits of its remaining length. -/
def append (header : FixedHeader) : Append Unit := do
  if header.remainingLength > maximumVarInt then
    throw (.tooLarge header.remainingLength maximumVarInt)
  let control ← Append.ofExcept ((header.packetType.controlByte header.flags).mapError .invalid)
  Append.byte control
  VarInt.append header.remainingLength

/-- Behind the control byte, the digits cannot fail. -/
theorem appends_encode (header : FixedHeader) : Append.Appends header.append header.encode := by
  refine .guarded fun fits => .ofExcept fun control => ?_
  obtain ⟨digits, wrote⟩ := VarInt.encode_of_le (Nat.not_lt.mp fits)
  have puts := VarInt.appends_encode header.remainingLength
  rw [wrote] at puts ⊢
  exact (Append.appends_byte control).andThen puts

variable {header : FixedHeader} {buffer : Bytes}

/-! ## What is left in the buffer -/

/-- A header that can be written is appended to the buffer. -/
theorem write_of_ok {bytes : Bytes} (wrote : header.encode = .ok bytes) :
    header.write buffer = (.ok (), buffer ++ bytes) := by
  rw [write, wrote]

/-- A header that cannot be written leaves the buffer as it was. -/
theorem write_of_error {error : PacketError} (failed : header.encode = .error error) :
    header.write buffer = (.error error, buffer) := by
  rw [write, failed]

/-- Appending a header succeeds exactly when it can be written. -/
theorem write_succeeds_iff :
    (header.write buffer).1 = .ok () ↔ ∃ bytes, header.encode = .ok bytes := by
  cases outcome : header.encode with
  | error error => simp [write_of_error outcome]
  | ok bytes => simp [write_of_ok outcome]

/-- A header can be written exactly if its remaining length is in range and its flags are
four bits, which are those reserved for its kind if there are any. -/
theorem exists_encode_iff :
    (∃ bytes, header.encode = .ok bytes) ↔
      header.remainingLength ≤ maximumVarInt ∧ header.flags < 16 ∧
        ∀ reserved ∈ header.packetType.reservedFlags, header.flags = reserved := by
  rw [← PacketType.checkFlags_eq_ok_iff]
  constructor
  · intro wrote
    obtain ⟨bytes, wrote⟩ := wrote
    obtain ⟨fits, flags, -⟩ := encode_eq_ok_iff.mp wrote
    exact ⟨fits, flags⟩
  · intro lawful
    obtain ⟨fits, flags⟩ := lawful
    obtain ⟨digits, wrote⟩ := VarInt.encode_of_le fits
    exact ⟨_, encode_eq_ok_iff.mpr ⟨fits, flags, digits, wrote, rfl⟩⟩

/-- A header that is written is behind what the buffer held, and is read back whatever
follows it. -/
theorem write_of_succeeds (done : (header.write buffer).1 = .ok ()) :
    ∃ written, (header.write buffer).2 = buffer ++ written ∧
      written.length = header.encodedLength ∧
      ∀ suffix, read (written ++ suffix) = .ok (header, suffix) := by
  obtain ⟨written, wrote⟩ := write_succeeds_iff.mp done
  exact ⟨written, by rw [write_of_ok wrote], length_encode wrote, read_encode wrote⟩

/-- A failed writing leaves no bytes behind. -/
theorem write_of_fails (failed : (header.write buffer).1 ≠ .ok ()) :
    (header.write buffer).2 = buffer := by
  cases outcome : header.encode with
  | error error => rw [write_of_error outcome]
  | ok bytes => exact (failed (write_succeeds_iff.mpr ⟨bytes, outcome⟩)).elim

/-- A remaining length out of range is reported whatever the flags are. -/
theorem write_of_large (large : maximumVarInt < header.remainingLength) :
    (header.write buffer).1 = .error (.tooLarge header.remainingLength maximumVarInt) := by
  have failed : header.encode = .error (.tooLarge header.remainingLength maximumVarInt) :=
    if_pos large
  rw [write_of_error failed]

/-- Putting the parts of a header one after the other writes the header. It succeeds exactly
if the remaining length is in range and the flags are those that the kind may have. Then the
header stands behind what the buffer held, in as many bytes as its encoded length, and is read
back whatever follows it. Otherwise the buffer is as it was, and a remaining length out of
range is reported before wrong flags. -/
theorem written_whole_or_not (header : FixedHeader) (buffer : Bytes) :
    header.append.onto buffer = header.write buffer ∧
    ((header.write buffer).1 = .ok () ↔
      header.remainingLength ≤ maximumVarInt ∧ header.flags < 16 ∧
        ∀ reserved ∈ header.packetType.reservedFlags, header.flags = reserved) ∧
    ((header.write buffer).1 = .ok () → ∃ written,
      (header.write buffer).2 = buffer ++ written ∧ written.length = header.encodedLength ∧
        ∀ suffix, read (written ++ suffix) = .ok (header, suffix)) ∧
    ((header.write buffer).1 ≠ .ok () → (header.write buffer).2 = buffer) ∧
    (maximumVarInt < header.remainingLength →
      (header.write buffer).1 = .error (.tooLarge header.remainingLength maximumVarInt)) :=
  ⟨appends_encode header buffer, write_succeeds_iff.trans exists_encode_iff, write_of_succeeds,
    write_of_fails, write_of_large⟩

/-- The greatest PUBLISH is announced in five bytes. One byte more is too large, whatever the
flags are, and the buffer keeps what it held. -/
theorem written_whole_or_not_greatest :
    (∃ written, (write ⟨.publish, 13, 268435455⟩ [208, 0]).2 = [208, 0] ++ written ∧
      written.length = 5 ∧
      ∀ suffix, read (written ++ suffix) = .ok (⟨.publish, 13, 268435455⟩, suffix)) ∧
    (write ⟨.pubRel, 0, 268435456⟩ [208, 0]).1 = .error (.tooLarge 268435456 268435455) ∧
    (write ⟨.pubRel, 0, 268435456⟩ [208, 0]).2 = [208, 0] := by
  obtain ⟨-, lawful, whole, -⟩ := written_whole_or_not ⟨.publish, 13, 268435455⟩ [208, 0]
  obtain ⟨-, -, -, nothing, large⟩ := written_whole_or_not ⟨.pubRel, 0, 268435456⟩ [208, 0]
  have tooLarge := large (by decide)
  refine ⟨whole (lawful.mpr ⟨by decide, by decide, nofun⟩), tooLarge, nothing ?_⟩
  rw [tooLarge]
  exact nofun

end FixedHeader

end Mqtt
