import Mqtt.Proofs.Cursor.Field
import Mqtt.Proofs.Wire.Append

/-! # Variable byte integers there and back

What is written is the one shortest input that reads as the number, and reading fails
exactly where none of the first four bytes ends a number
(`Mqtt.VarInt.written_read_exactly`). Looking ahead tells the same three ways of reading
apart, and whatever it has told does not depend on the bytes that follow
(`Mqtt.VarInt.peek_agrees_read`).
-/

namespace Mqtt

namespace VarInt

/-! ## Reading -/

/-- No other input of at most as many bytes as the shortest spelling reads as the number. -/
theorem Shortest.eq_of_read {digits other rest : Bytes} {value : UInt32}
    (shortest : Shortest digits value.toNat) (short : other.length ≤ digits.length)
    (found : read other = .ok (value, rest)) : other = digits := by
  obtain ⟨front, rfl, spells⟩ := read_eq_ok_iff.mp found
  rw [List.length_append] at short
  have same : front = digits := by
    by_contra different
    have longer := shortest.shorter front spells different
    omega
  subst same
  have nothing : rest = [] := List.length_eq_zero_iff.mp (by omega)
  rw [nothing, List.append_nil]

/-- A number that is read is in range and takes one to four bytes. -/
theorem read_extent {bytes rest : Bytes} {value : UInt32} (found : read bytes = .ok (value, rest)) :
    value.toNat ≤ maximumVarInt ∧
      ∃ front, bytes = front ++ rest ∧ 1 ≤ front.length ∧ front.length ≤ 4 := by
  obtain ⟨front, split, spells⟩ := read_eq_ok_iff.mp found
  exact ⟨spells.le_maximumVarInt, front, split, spells.length_pos, spells.length_le⟩

/-- From the digit at a given place on, reading fails exactly if every digit up to the
fourth is marked: for want of a digit, or because of the one behind the fourth. -/
theorem readFrom_eq_error_iff {bytes : Bytes} {weight value : UInt32} {place : Nat} {fault : Fault}
    (low : place ≤ 4) (isPower : weight.toNat = 128 ^ place) :
    readFrom weight value bytes = .error fault ↔
      (∀ byte ∈ bytes.take (4 - place), byte &&& 128 ≠ 0) ∧
        fault = if bytes.length + place ≤ 4 then .varIntMissing else .varIntTooLong := by
  induction bytes generalizing weight value place with
  | nil => simp [readFrom, low, eq_comm]
  | cons byte others ih =>
      rw [readFrom, List.length_cons]
      by_cases beyond : weight > greatestWeight
      -- Any byte behind the fourth digit is one too many, whether it is marked or not.
      · have high := (greatestWeight_lt_iff isPower).mp beyond
        have none : 4 - place = 0 := by omega
        have long : ¬ others.length + 1 + place ≤ 4 := by omega
        simp [beyond, none, long, eq_comm]
      · have room : place ≤ 3 := Nat.not_lt.mp (mt (greatestWeight_lt_iff isPower).mpr beyond)
        have left : 4 - place = 4 - (place + 1) + 1 := by omega
        rw [left, List.take_succ_cons, List.forall_mem_cons]
        by_cases last : byte &&& 128 = 0
        · simp [beyond, last]
        · simp only [beyond, last, ↓reduceIte, ne_eq, not_false_eq_true, true_and]
          rw [ih (Nat.succ_le_succ room) (toNat_nextWeight room isPower), Nat.add_assoc,
            Nat.add_comm 1 place]

/-- Reading fails exactly if each of the first four bytes is marked, or each byte where there
are fewer. The fault tells whether a fifth byte is there. -/
theorem read_eq_error_iff {bytes : Bytes} {fault : Fault} :
    read bytes = .error fault ↔
      (∀ byte ∈ bytes.take 4, byte &&& 128 ≠ 0) ∧
        fault = if bytes.length ≤ 4 then .varIntMissing else .varIntTooLong :=
  readFrom_eq_error_iff (Nat.zero_le 4) rfl

/-- Reading fails exactly where no digit without a mark is among the first four bytes. -/
theorem read_fails_iff {bytes : Bytes} :
    (∃ fault, read bytes = .error fault) ↔ ∀ byte ∈ bytes.take 4, byte &&& 128 ≠ 0 := by
  simp only [read_eq_error_iff, exists_and_left, exists_eq, and_true]

/-- A number is cut short or has too many digits; reading finds no other fault. -/
theorem read_fault {bytes : Bytes} {fault : Fault} (failed : read bytes = .error fault) :
    fault = .varIntMissing ∨ fault = .varIntTooLong := by
  obtain ⟨-, rfl⟩ := read_eq_error_iff.mp failed
  by_cases short : bytes.length ≤ 4
  · exact .inl (if_pos short)
  · exact .inr (if_neg short)

/-! ## Writing -/

/-- A number that is out of range is refused before a byte is put. -/
theorem onto_of_lt {value : Nat} (large : maximumVarInt < value) (buffer : Bytes) :
    (append value).onto buffer = (.error (.invalid (.varIntTooLarge value)), buffer) := by
  rw [appends_encode value buffer, encode, if_pos large]

/-- A number in range is put as its one shortest spelling, which reads as the number
whatever follows it. -/
theorem written_of_le {value : UInt32} (fits : value.toNat ≤ maximumVarInt) :
    ∃ written, encode value.toNat = .ok written ∧ written.length = size value.toNat ∧
      (∀ buffer, (append value.toNat).onto buffer = (.ok (), buffer ++ written)) ∧
      (∀ suffix, read (written ++ suffix) = .ok (value, suffix)) ∧
      ∀ other rest, other.length ≤ written.length → read other = .ok (value, rest) →
        other = written := by
  obtain ⟨written, wrote⟩ := encode_of_le fits
  obtain ⟨spells, length⟩ := spells_of_encode wrote
  refine ⟨written, wrote, length, fun buffer => ?_, spells.read_append, fun other rest => ?_⟩
  · rw [appends_encode value.toNat buffer, wrote]
  · exact (shortest_of_encode wrote).eq_of_read

/-- A number in range is written in as many bytes as its size, is read back whatever
follows it, and nothing else of at most that length reads as it; a number out of range
leaves the buffer as it was. What is read is in range and takes one to four bytes, reading
fails exactly if each of the first four bytes is marked, and no step of it leaves the 32
bits of the value and of the weight. -/
theorem written_read_exactly (value : UInt32) (bytes : Bytes) :
    (value.toNat ≤ maximumVarInt →
      ∃ written, encode value.toNat = .ok written ∧ written.length = size value.toNat ∧
        (∀ buffer, (append value.toNat).onto buffer = (.ok (), buffer ++ written)) ∧
        (∀ suffix, read (written ++ suffix) = .ok (value, suffix)) ∧
        ∀ other rest, other.length ≤ written.length → read other = .ok (value, rest) →
          other = written) ∧
    (maximumVarInt < value.toNat → ∀ buffer,
      (append value.toNat).onto buffer =
        (.error (.invalid (.varIntTooLarge value.toNat)), buffer)) ∧
    (∀ found rest, read bytes = .ok (found, rest) →
      found.toNat ≤ maximumVarInt ∧
        ∃ front, bytes = front ++ rest ∧ 1 ≤ front.length ∧ front.length ≤ 4) ∧
    ((∃ fault, read bytes = .error fault) ↔ ∀ byte ∈ bytes.take 4, byte &&& 128 ≠ 0) ∧
    Scan.varInt.Realizes read ∧
    ∀ crash, Scan.varInt.run bytes ≠ .error (.crashed crash) :=
  ⟨written_of_le, onto_of_lt, fun _ _ => read_extent, read_fails_iff, Scan.realizes_varInt,
    Scan.realizes_varInt.run_ne_crashed bytes⟩

/-- The greatest number takes four bytes, and the next one is refused. -/
theorem written_read_exactly_greatest :
    (∃ written, encode 268435455 = .ok written ∧ written.length = 4 ∧
      ∀ suffix, read (written ++ suffix) = .ok (268435455, suffix)) ∧
    (∀ buffer, (append 268435456).onto buffer =
      (.error (.invalid (.varIntTooLarge 268435456)), buffer)) ∧
    ∃ fault, read [255, 255, 255, 255, 127] = .error fault := by
  obtain ⟨within, -⟩ := written_read_exactly 268435455 []
  obtain ⟨-, beyond, -, fails, -⟩ := written_read_exactly 268435456 [255, 255, 255, 255, 127]
  obtain ⟨written, wrote, length, -, back, -⟩ := within (by decide)
  refine ⟨⟨written, wrote, length, back⟩, beyond (by decide), fails.mpr fun byte among => ?_⟩
  obtain rfl : byte = 255 := by simpa using among
  decide

/-! ## Looking ahead -/

/-- Looking ahead finds a number exactly if reading does, and tells how many bytes that
takes. -/
theorem peek_eq_some_iff_read {bytes : Bytes} {value : UInt32} {width : Nat} :
    peek bytes = .ok (some (value, width)) ↔
      ∃ front rest, bytes = front ++ rest ∧ front.length = width ∧
        read bytes = .ok (value, rest) := by
  rw [peek_eq_some_iff]
  constructor
  · intro found
    obtain ⟨front, rest, rfl, spells, length⟩ := found
    exact ⟨front, rest, rfl, length, spells.read_append rest⟩
  · intro found
    obtain ⟨front, rest, rfl, length, found⟩ := found
    obtain ⟨digits, split, spells⟩ := read_eq_ok_iff.mp found
    exact ⟨front, rest, rfl, List.append_cancel_right split ▸ spells, length⟩

/-- Looking ahead waits exactly if reading runs out of bytes. -/
theorem peek_eq_none_iff_read {bytes : Bytes} :
    peek bytes = .ok none ↔ read bytes = .error .varIntMissing := by
  refine ⟨read_of_peek_none, fun cut => ?_⟩
  rw [peek_eq, cut]

/-- Looking ahead fails exactly if reading finds too many digits. -/
theorem peek_eq_error_iff_read {bytes : Bytes} {fault : Fault} :
    peek bytes = .error fault ↔ fault = .varIntTooLong ∧ read bytes = .error fault := by
  constructor
  · intro failed
    rw [peek_eq] at failed
    split at failed
    · cases failed
    · cases failed
    · next other finished outcome =>
        cases failed
        obtain missing | long := read_fault outcome
        · exact (finished missing).elim
        · exact ⟨long, outcome⟩
  · intro failed
    obtain ⟨rfl, failed⟩ := failed
    rw [peek_eq, failed]

/-- An answer other than waiting stays when bytes are added. -/
theorem peek_append {bytes : Bytes} (settled : peek bytes ≠ .ok none) (more : Bytes) :
    peek (bytes ++ more) = peek bytes := by
  cases answer : peek bytes with
  | error fault => exact peek_append_of_error answer more
  | ok found =>
      cases found with
      | none => exact (settled answer).elim
      | some pair => exact peek_append_of_some answer more

/-- Looking ahead finds a number and its width exactly if reading takes as many bytes for
that number, waits exactly if reading runs out of bytes and fails exactly if reading finds
too many digits. Unless it waits, its answer stays when bytes are added. The scan, which asks
for a byte before it compares the weight, does what reading does. -/
theorem peek_agrees_read (bytes : Bytes) :
    (∀ value width, peek bytes = .ok (some (value, width)) ↔
      ∃ front rest, bytes = front ++ rest ∧ front.length = width ∧
        read bytes = .ok (value, rest)) ∧
    (peek bytes = .ok none ↔ read bytes = .error .varIntMissing) ∧
    (∀ fault, peek bytes = .error fault ↔
      fault = .varIntTooLong ∧ read bytes = .error fault) ∧
    (peek bytes ≠ .ok none → ∀ more, peek (bytes ++ more) = peek bytes) ∧
    Scan.varInt.Realizes read :=
  ⟨fun _ _ => peek_eq_some_iff_read, peek_eq_none_iff_read, fun _ => peek_eq_error_iff_read,
    peek_append, Scan.realizes_varInt⟩

/-- Four marked bytes wait for a fifth one, which is refused whatever it is. -/
theorem peek_agrees_read_fifth :
    read [128, 128, 128, 128] = .error .varIntMissing ∧
    peek [128, 128, 128, 128, 1] ≠ .ok none ∧
    (∀ more, peek ([128, 128, 128, 128, 1] ++ more) = .error .varIntTooLong) ∧
    read [128, 128, 128, 128, 1] = .error .varIntTooLong := by
  obtain ⟨-, waits, -⟩ := peek_agrees_read [128, 128, 128, 128]
  obtain ⟨-, -, fails, stays, -⟩ := peek_agrees_read [128, 128, 128, 128, 1]
  have settled : peek [128, 128, 128, 128, 1] ≠ .ok none := by decide
  exact ⟨waits.mp rfl, settled, stays settled, ((fails .varIntTooLong).mp rfl).2⟩

end VarInt

end Mqtt
