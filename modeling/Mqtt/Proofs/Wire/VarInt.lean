import Mathlib.Tactic.NormNum
import Mathlib.Tactic.Ring
import Mathlib.Tactic.SplitIfs
import Mqtt.Proofs.Wire.Reader
import Mqtt.Wire.VarInt

/-! # What digits spell a number

Digits spell a number when every one but the last is marked, there are at most
four, and their weighted sum is the number (`Mqtt.VarInt.Spells`). Reading takes
exactly the digits in front that spell a number
(`Mqtt.VarInt.read_eq_ok_iff`), writing produces the fewest that do
(`Mqtt.VarInt.spells_of_encode`, `Mqtt.VarInt.Spells.size_le`), which every other
spelling exceeds (`Mqtt.VarInt.shortest_of_encode`), and looking ahead agrees
with reading (`Mqtt.VarInt.peekFrom_eq`). It waits as long as there are at most four
digits, all marked (`Mqtt.VarInt.peek_eq_none_iff`).
-/

namespace Mqtt

namespace VarInt

/-- The number that digits stand for, the low digit first. -/
def valueOf : Bytes → Nat
  | [] => 0
  | digit :: others => digit.toNat % 128 + 128 * valueOf others

/-- Every digit but the last is marked. -/
inductive Terminated : Bytes → Prop where
  | last {digit : UInt8} : digit &&& 128 = 0 → Terminated [digit]
  | more {digit : UInt8} {others : Bytes} :
      digit &&& 128 ≠ 0 → Terminated others → Terminated (digit :: others)

/-- The digits are the whole of a variable byte integer with a given value, not
necessarily the shortest. -/
structure Spells (digits : Bytes) (value : Nat) : Prop where
  terminated : Terminated digits
  length_le : digits.length ≤ 4
  value_eq : valueOf digits = value

/-- A spelling has a last digit, so it is not empty. -/
theorem Terminated.length_pos {digits : Bytes} (terminated : Terminated digits) :
    0 < digits.length := by
  cases terminated <;> simp

/-- Every number is spelled with at least one digit. -/
theorem Spells.length_pos {digits : Bytes} {value : Nat} (spells : Spells digits value) :
    0 < digits.length :=
  spells.terminated.length_pos

/-- Digits stand for less than the power of 128 that their number allows. -/
theorem valueOf_lt (digits : Bytes) : valueOf digits < 128 ^ digits.length := by
  induction digits with
  | nil => simp [valueOf]
  | cons digit others ih =>
      have low := Nat.mod_lt digit.toNat (show 0 < 128 by decide)
      rw [valueOf, List.length_cons, Nat.pow_succ]
      omega

/-- At most four digits stand for a number in range. -/
theorem Spells.le_maximumVarInt {digits : Bytes} {value : Nat} (spells : Spells digits value) :
    value ≤ maximumVarInt := by
  have bound := valueOf_lt digits
  have weight : 128 ^ digits.length ≤ 128 ^ 4 := Nat.pow_le_pow_right (by decide) spells.length_le
  rw [spells.value_eq] at bound
  simp only [maximumVarInt]
  omega

/-- A number in range is kept in 32 bits. -/
theorem Spells.toNat_ofNat {digits : Bytes} {value : Nat} (spells : Spells digits value) :
    (UInt32.ofNat value).toNat = value := by
  have bound := spells.le_maximumVarInt
  simp only [maximumVarInt] at bound
  rw [UInt32.toNat_ofNat']
  omega

/-- No spelling of a number has fewer digits than its size. -/
theorem Spells.size_le {digits : Bytes} {value : Nat} (spells : Spells digits value) :
    size value ≤ digits.length := by
  have bound := valueOf_lt digits
  have positive := spells.length_pos
  have short := spells.length_le
  rw [spells.value_eq] at bound
  have lengths : digits.length = 1 ∨ digits.length = 2 ∨ digits.length = 3 ∨
      digits.length = 4 := by omega
  unfold size
  rcases lengths with length | length | length | length <;> rw [length] at bound ⊢ <;>
    split_ifs <;> omega

/-! ## Spellings of the same length -/

/-- The mark of a digit is its highest bit. -/
theorem unmarked_iff (digit : UInt8) : digit &&& 128 = 0 ↔ digit.toNat < 128 :=
  Bytes.forall_byte (fun digit => digit &&& 128 = 0 ↔ digit.toNat < 128) (by decide +kernel) digit

/-- Two marked digits, or two that are not marked, differ in what they stand for. -/
theorem digit_eq {first second : UInt8} (marks : first &&& 128 = 0 ↔ second &&& 128 = 0)
    (low : first.toNat % 128 = second.toNat % 128) : first = second := by
  rw [unmarked_iff, unmarked_iff] at marks
  have firstBound := first.toNat_lt
  have secondBound := second.toNat_lt
  apply UInt8.toNat_inj.mp
  omega

/-- A number has only one spelling of a given length. -/
theorem Terminated.eq_of_length_eq {first second : Bytes} (terminated : Terminated first)
    (otherTerminated : Terminated second) (length : first.length = second.length)
    (value : valueOf first = valueOf second) : first = second := by
  induction terminated generalizing second with
  | @last digit last =>
      cases otherTerminated with
      | @last other otherLast =>
          simp only [valueOf, Nat.mul_zero, Nat.add_zero] at value
          rw [digit_eq ⟨fun _ => otherLast, fun _ => last⟩ value]
      | more _ longer =>
          have positive := longer.length_pos
          simp only [List.length_cons, List.length_nil] at length
          omega
  | @more digit digits marked terminated ih =>
      cases otherTerminated with
      | last =>
          have positive := terminated.length_pos
          simp only [List.length_cons, List.length_nil] at length
          omega
      | @more other others otherMarked otherTerminated =>
          rw [valueOf, valueOf] at value
          have low : digit.toNat % 128 = other.toNat % 128 := by omega
          have high : valueOf digits = valueOf others := by omega
          have marks : digit &&& 128 = 0 ↔ other &&& 128 = 0 :=
            ⟨fun last => (marked last).elim, fun last => (otherMarked last).elim⟩
          rw [digit_eq marks low, ih otherTerminated (Nat.succ.inj length) high]

/-! ## Reading -/

/-- Without its mark, a digit stands for what its low seven bits say. -/
theorem toNat_digit (digit : UInt8) : (digit &&& 127).toUInt32.toNat = digit.toNat % 128 := by
  rw [UInt8.toNat_toUInt32, UInt8.toNat_and]
  exact Nat.and_two_pow_sub_one_eq_mod digit.toNat 7

/-- A weight beyond the greatest belongs to a fifth digit. -/
theorem greatestWeight_lt_iff {weight : UInt32} {place : Nat}
    (isPower : weight.toNat = 128 ^ place) :
    greatestWeight < weight ↔ 3 < place := by
  rw [UInt32.lt_iff_toNat_lt, isPower]
  change 128 ^ 3 < 128 ^ place ↔ 3 < place
  exact Nat.pow_lt_pow_iff_right (by decide)

/-- The weight of the next digit does not leave the 32 bits it is kept in. -/
theorem toNat_nextWeight {weight : UInt32} {place : Nat} (low : place ≤ 3)
    (isPower : weight.toNat = 128 ^ place) : (weight * 128).toNat = 128 ^ (place + 1) := by
  have bound : 128 ^ (place + 1) ≤ 128 ^ 4 := Nat.pow_le_pow_right (by decide) (by omega)
  rw [UInt32.toNat_mul, isPower, show (128 : UInt32).toNat = 128 from rfl, ← Nat.pow_succ]
  exact Nat.mod_eq_of_lt (by omega)

/-- What one more digit does to the value and to the weight. Neither leaves the
32 bits it is kept in. -/
theorem step_toNat {weight value : UInt32} {place : Nat} (digit : UInt8) (low : place ≤ 3)
    (isPower : weight.toNat = 128 ^ place) (below : value.toNat < 128 ^ place) :
    (value + (digit &&& 127).toUInt32 * weight).toNat =
        value.toNat + 128 ^ place * (digit.toNat % 128) ∧
      value.toNat + 128 ^ place * (digit.toNat % 128) < 128 ^ (place + 1) ∧
      (weight * 128).toNat = 128 ^ (place + 1) := by
  have lowDigit := Nat.mod_lt digit.toNat (show 0 < 128 by decide)
  have places : place = 0 ∨ place = 1 ∨ place = 2 ∨ place = 3 := by omega
  rw [toNat_nextWeight low isPower, UInt32.toNat_add, UInt32.toNat_mul, toNat_digit, isPower]
  rcases places with rfl | rfl | rfl | rfl <;> norm_num at below ⊢ <;> omega

/-- From the digit at a given place on, reading takes exactly the terminated
digits in front, if there is room for them, and adds what they stand for. -/
theorem readFrom_eq_ok_iff {bytes rest : Bytes} {weight value result : UInt32} (place : Nat)
    (isPower : weight.toNat = 128 ^ place) (below : value.toNat < 128 ^ place) :
    readFrom weight value bytes = .ok (result, rest) ↔
      ∃ digits, bytes = digits ++ rest ∧ Terminated digits ∧ digits.length + place ≤ 4 ∧
        result.toNat = value.toNat + 128 ^ place * valueOf digits := by
  induction bytes generalizing weight value place with
  | nil =>
      simp only [readFrom, reduceCtorEq, false_iff]
      intro found
      obtain ⟨digits, empty, terminated, -, -⟩ := found
      have positive := terminated.length_pos
      simp only [(List.append_eq_nil_iff.mp empty.symm).1, List.length_nil, Nat.lt_irrefl]
        at positive
  | cons byte others ih =>
      rw [readFrom, Except.ite_error_eq_ok_iff, gt_iff_lt, greatestWeight_lt_iff isPower,
        Nat.not_lt]
      constructor
      · intro found
        obtain ⟨low, found⟩ := found
        obtain ⟨valueEq, valueBelow, weightEq⟩ := step_toNat byte low isPower below
        by_cases last : byte &&& 128 = 0
        · simp only [last, ↓reduceIte, Except.ok.injEq, Prod.mk.injEq] at found
          obtain ⟨rfl, rfl⟩ := found
          exact ⟨[byte], rfl, .last last, by simp only [List.length_singleton]; omega, by
            simp only [valueEq, valueOf, Nat.mul_zero, Nat.add_zero]⟩
        · simp only [last, ↓reduceIte] at found
          rw [ih _ weightEq (by rw [valueEq]; exact valueBelow)] at found
          obtain ⟨digits, rfl, terminated, room, resultEq⟩ := found
          refine ⟨byte :: digits, rfl, .more last terminated, by
            simp only [List.length_cons]; omega, ?_⟩
          rw [resultEq, valueEq, valueOf, Nat.pow_succ]
          ring
      · intro found
        obtain ⟨digits, split, terminated, room, resultEq⟩ := found
        have positive := terminated.length_pos
        have low : place ≤ 3 := by omega
        obtain ⟨valueEq, valueBelow, weightEq⟩ := step_toNat byte low isPower below
        refine ⟨low, ?_⟩
        cases terminated with
        | last last =>
            simp only [List.singleton_append, List.cons.injEq] at split
            obtain ⟨rfl, rfl⟩ := split
            simp only [last, ↓reduceIte, Except.ok.injEq, Prod.mk.injEq, and_true]
            apply UInt32.toNat_inj.mp
            rw [valueEq, resultEq, valueOf, valueOf, Nat.mul_zero, Nat.add_zero]
        | more marked terminated =>
            simp only [List.cons_append, List.cons.injEq] at split
            obtain ⟨rfl, rfl⟩ := split
            simp only [marked, ↓reduceIte]
            rw [ih _ weightEq (by rw [valueEq]; exact valueBelow)]
            simp only [List.length_cons] at room
            refine ⟨_, rfl, terminated, by omega, ?_⟩
            rw [resultEq, valueEq, valueOf, Nat.pow_succ]
            ring

/-- Reading takes exactly the digits in front that spell a number. -/
theorem read_eq_ok_iff {bytes rest : Bytes} {value : UInt32} :
    read bytes = .ok (value, rest) ↔
      ∃ digits, bytes = digits ++ rest ∧ Spells digits value.toNat := by
  rw [read, readFrom_eq_ok_iff 0 rfl (by decide)]
  constructor
  · intro found
    obtain ⟨digits, split, terminated, room, valueEq⟩ := found
    exact ⟨digits, split, terminated, room, by rw [valueEq]; simp⟩
  · intro found
    obtain ⟨digits, split, spells⟩ := found
    exact ⟨digits, split, spells.terminated, spells.length_le, by simp [spells.value_eq]⟩

/-- Bytes behind a number do not change how it is read. -/
theorem Spells.read_append {digits : Bytes} {value : UInt32} (spells : Spells digits value.toNat)
    (rest : Bytes) : read (digits ++ rest) = .ok (value, rest) :=
  read_eq_ok_iff.mpr ⟨digits, rfl, spells⟩

/-! ## Writing -/

theorem length_digits (count value : Nat) : (digits count value).length = count := by
  induction count generalizing value with
  | zero => rfl
  | succ count ih => simp only [digits, List.length_cons, ih]

theorem ofNat_mod_toNat (value : Nat) : (UInt8.ofNat (value % 128)).toNat = value % 128 := by
  rw [UInt8.toNat_ofNat']
  omega

/-- A mark leaves the low part of a digit alone. -/
theorem marked_toNat (digit : UInt8) : (digit ||| 128).toNat % 128 = digit.toNat % 128 := by
  rw [UInt8.toNat_or, show (128 : UInt8).toNat = 2 ^ 7 from rfl, show 128 = 2 ^ 7 from rfl,
    Nat.or_mod_two_pow]
  simp

theorem marked_ne_zero (digit : UInt8) : (digit ||| 128) &&& 128 ≠ 0 :=
  Bytes.forall_byte (fun digit => (digit ||| 128) &&& 128 ≠ 0) (by decide +kernel) digit

theorem unmarked_of_lt {value : Nat} (small : value < 128) : UInt8.ofNat value &&& 128 = 0 := by
  have each : ∀ value < 128, UInt8.ofNat value &&& 128 = 0 := by decide
  exact each value small

/-- As many digits as a number needs are terminated and stand for it. -/
theorem digits_spell (count value : Nat) (enough : value < 128 ^ (count + 1))
    (needed : 128 ^ count ≤ value ∨ count = 0) :
    Terminated (digits (count + 1) value) ∧ valueOf (digits (count + 1) value) = value := by
  induction count generalizing value with
  | zero =>
      have none : ¬ value / 128 > 0 := by omega
      have same : value % 128 = value := by omega
      simp only [digits, none, ↓reduceIte, valueOf, Nat.mul_zero, Nat.add_zero, same]
      refine ⟨.last (unmarked_of_lt (by omega)), ?_⟩
      rw [UInt8.toNat_ofNat']
      omega
  | succ count ih =>
      have large : 128 ^ (count + 1) ≤ value := by omega
      have enoughLeft : value / 128 < 128 ^ (count + 1) := by
        rw [Nat.div_lt_iff_lt_mul (by decide), ← Nat.pow_succ]
        exact enough
      have neededLeft : 128 ^ count ≤ value / 128 := by
        rw [Nat.le_div_iff_mul_le (by decide), ← Nat.pow_succ]
        exact large
      have positive : value / 128 > 0 := Nat.lt_of_lt_of_le (Nat.pow_pos (by decide)) neededLeft
      obtain ⟨terminated, valueEq⟩ := ih _ enoughLeft (.inl neededLeft)
      rw [digits]
      simp only [positive, ↓reduceIte]
      refine ⟨.more (marked_ne_zero _) terminated, ?_⟩
      rw [valueOf, valueEq, marked_toNat, ofNat_mod_toNat]
      omega

/-- What is written spells the number in as many digits as its size. -/
theorem spells_of_encode {value : Nat} {written : Bytes} (wrote : encode value = .ok written) :
    Spells written value ∧ written.length = size value := by
  simp only [encode, Except.ite_error_eq_ok_iff, Except.ok.injEq, Nat.not_lt, gt_iff_lt] at wrote
  obtain ⟨fits, rfl⟩ := wrote
  simp only [maximumVarInt] at fits
  have length := length_digits (size value) value
  unfold size at length ⊢
  split_ifs at length ⊢ with one two three
  · obtain ⟨terminated, valueEq⟩ := digits_spell 0 value (by omega) (.inr rfl)
    exact ⟨⟨terminated, by rw [length]; decide, valueEq⟩, length⟩
  · obtain ⟨terminated, valueEq⟩ := digits_spell 1 value (by omega) (.inl (by omega))
    exact ⟨⟨terminated, by rw [length]; decide, valueEq⟩, length⟩
  · obtain ⟨terminated, valueEq⟩ := digits_spell 2 value (by omega) (.inl (by omega))
    exact ⟨⟨terminated, by rw [length]; decide, valueEq⟩, length⟩
  · obtain ⟨terminated, valueEq⟩ := digits_spell 3 value (by omega) (.inl (by omega))
    exact ⟨⟨terminated, by rw [length], valueEq⟩, length⟩

/-- The digits are the one spelling of a number that is shorter than every other. -/
structure Shortest (digits : Bytes) (value : Nat) : Prop where
  spells : Spells digits value
  shorter : ∀ other, Spells other value → other ≠ digits → digits.length < other.length

/-- What is written is the shortest spelling of the number. -/
theorem shortest_of_encode {value : Nat} {written : Bytes} (wrote : encode value = .ok written) :
    Shortest written value := by
  obtain ⟨spells, length⟩ := spells_of_encode wrote
  refine ⟨spells, fun other otherSpells different => ?_⟩
  have least := otherSpells.size_le
  rw [← length] at least
  apply Nat.lt_of_le_of_ne least
  intro sameLength
  apply different
  exact otherSpells.terminated.eq_of_length_eq spells.terminated sameLength.symm
    (otherSpells.value_eq.trans spells.value_eq.symm)

/-- A greater number never takes fewer digits. -/
theorem size_mono {first second : Nat} (less : first ≤ second) : size first ≤ size second := by
  unfold size
  split_ifs <;> omega

/-- Every number in range can be written. -/
theorem encode_of_le {value : Nat} (fits : value ≤ maximumVarInt) :
    ∃ written, encode value = .ok written :=
  ⟨_, if_neg (Nat.not_lt.mpr fits)⟩

/-! ## Looking ahead -/

/-- Reading a variable byte integer takes at least one byte. -/
theorem readFrom_consumes (weight value : UInt32) : (readFrom weight value).Consumes := by
  intro bytes result rest found
  induction bytes generalizing weight value with
  | nil => cases found
  | cons byte others ih =>
      rw [readFrom, Except.ite_error_eq_ok_iff] at found
      obtain ⟨-, found⟩ := found
      by_cases last : byte &&& 128 = 0
      · simp only [last, ↓reduceIte, Except.ok.injEq, Prod.mk.injEq] at found
        rw [← found.2]
        exact Nat.lt_succ_self _
      · simp only [last, ↓reduceIte] at found
        exact Nat.lt_succ_of_lt (ih _ _ found)

/-- Looking ahead answers as reading does, with the number of digits in place of
the bytes behind them; where reading runs out of bytes, it waits. -/
theorem peekFrom_eq (weight value : UInt32) (width : Nat) (bytes : Bytes) :
    peekFrom weight value width bytes =
      match readFrom weight value bytes with
      | .ok (result, rest) => .ok (some (result, width + (bytes.length - rest.length)))
      | .error .varIntMissing => .ok none
      | .error fault => .error fault := by
  induction bytes generalizing weight value width with
  | nil => rfl
  | cons byte others ih =>
      rw [peekFrom, readFrom]
      by_cases beyond : weight > greatestWeight
      · simp only [beyond, ↓reduceIte]
      · by_cases last : byte &&& 128 = 0
        · simp only [beyond, last, ↓reduceIte, List.length_cons, Nat.add_sub_cancel_left]
        · simp only [beyond, last, ↓reduceIte, ih]
          cases found :
              readFrom (weight * 128) (value + (byte &&& 127).toUInt32 * weight) others with
          | error fault => cases fault <;> rfl
          | ok pair =>
              have shorter := readFrom_consumes _ _ found
              simp only [List.length_cons, Except.ok.injEq, Option.some.injEq, Prod.mk.injEq,
                true_and]
              omega

/-- Looking ahead answers as reading does. -/
theorem peek_eq (bytes : Bytes) :
    peek bytes =
      match read bytes with
      | .ok (result, rest) => .ok (some (result, 0 + (bytes.length - rest.length)))
      | .error .varIntMissing => .ok none
      | .error fault => .error fault :=
  peekFrom_eq 1 0 0 bytes

/-- Looking ahead finds a number exactly when the bytes begin with digits that
spell it, and tells how many these are. -/
theorem peek_eq_some_iff {bytes : Bytes} {value : UInt32} {width : Nat} :
    peek bytes = .ok (some (value, width)) ↔
      ∃ digits rest, bytes = digits ++ rest ∧ Spells digits value.toNat ∧
        digits.length = width := by
  rw [peek_eq]
  constructor
  · intro found
    split at found
    · next result rest read =>
        obtain ⟨digits, rfl, spells⟩ := read_eq_ok_iff.mp read
        simp only [List.length_append, Nat.add_sub_cancel, Nat.zero_add, Except.ok.injEq,
          Option.some.injEq, Prod.mk.injEq] at found
        obtain ⟨rfl, rfl⟩ := found
        exact ⟨digits, rest, rfl, spells, rfl⟩
    · cases found
    · cases found
  · intro found
    obtain ⟨digits, rest, rfl, spells, rfl⟩ := found
    rw [spells.read_append]
    simp

/-- Where looking ahead waits, reading runs out of bytes. -/
theorem read_of_peek_none {bytes : Bytes} (waits : peek bytes = .ok none) :
    read bytes = .error .varIntMissing := by
  rw [peek_eq] at waits
  split at waits
  · cases waits
  · assumption
  · cases waits

/-- A number in front of other bytes is seen with its width. -/
theorem Spells.peek_append {digits : Bytes} {value : Nat} (spells : Spells digits value)
    (rest : Bytes) : peek (digits ++ rest) = .ok (some (UInt32.ofNat value, digits.length)) := by
  apply peek_eq_some_iff.mpr
  rw [spells.toNat_ofNat]
  exact ⟨digits, rest, rfl, spells, rfl⟩

/-- A number that is found stays when bytes are added. -/
theorem peek_append_of_some {bytes : Bytes} {value : UInt32} {width : Nat}
    (found : peek bytes = .ok (some (value, width))) (more : Bytes) :
    peek (bytes ++ more) = .ok (some (value, width)) := by
  obtain ⟨digits, rest, rfl, spells, length⟩ := peek_eq_some_iff.mp found
  apply peek_eq_some_iff.mpr
  exact ⟨digits, rest ++ more, List.append_assoc _ _ _, spells, length⟩

/-- A fault that is seen already stays when bytes are added. -/
theorem peekFrom_append_of_error {weight value : UInt32} {width : Nat} {bytes : Bytes}
    {fault : Fault} (failed : peekFrom weight value width bytes = .error fault) (more : Bytes) :
    peekFrom weight value width (bytes ++ more) = .error fault := by
  induction bytes generalizing weight value width with
  | nil => cases failed
  | cons byte others ih =>
      rw [peekFrom] at failed
      rw [List.cons_append, peekFrom]
      by_cases beyond : weight > greatestWeight
      · simpa only [beyond, ↓reduceIte] using failed
      · by_cases last : byte &&& 128 = 0
        · simp only [beyond, last, ↓reduceIte, reduceCtorEq] at failed
        · simp only [beyond, last, ↓reduceIte] at failed ⊢
          exact ih failed

/-- Digits that are malformed stay so when bytes are added. -/
theorem peek_append_of_error {bytes : Bytes} {fault : Fault} (failed : peek bytes = .error fault)
    (more : Bytes) : peek (bytes ++ more) = .error fault :=
  peekFrom_append_of_error failed more

/-- From the digit at a given place on, looking ahead waits exactly while every digit is
marked and none is behind the fourth. -/
theorem peekFrom_eq_none_iff {bytes : Bytes} {weight value : UInt32} {width place : Nat}
    (low : place ≤ 4) (isPower : weight.toNat = 128 ^ place) :
    peekFrom weight value width bytes = .ok none ↔
      bytes.length + place ≤ 4 ∧ ∀ byte ∈ bytes, byte &&& 128 ≠ 0 := by
  induction bytes generalizing weight value width place with
  | nil => simp [peekFrom, low]
  | cons byte others ih =>
      rw [peekFrom, List.length_cons, List.forall_mem_cons]
      by_cases beyond : weight > greatestWeight
      · have full := (greatestWeight_lt_iff isPower).mp beyond
        simp only [beyond, ↓reduceIte, reduceCtorEq, false_iff, not_and]
        omega
      · have room : place ≤ 3 := Nat.not_lt.mp (mt (greatestWeight_lt_iff isPower).mpr beyond)
        by_cases last : byte &&& 128 = 0
        · simp [beyond, last]
        · simp only [beyond, last, ↓reduceIte, ne_eq, not_false_eq_true, true_and]
          rw [ih (Nat.succ_le_succ room) (toNat_nextWeight room isPower), Nat.add_assoc,
            Nat.add_comm 1 place]

/-- Looking ahead waits exactly while there are at most four digits and each is marked. -/
theorem peek_eq_none_iff {bytes : Bytes} :
    peek bytes = .ok none ↔ bytes.length ≤ 4 ∧ ∀ byte ∈ bytes, byte &&& 128 ≠ 0 :=
  peekFrom_eq_none_iff (Nat.zero_le 4) rfl

/-- Digits that are cut short are a number that is still to come. -/
theorem Spells.read_of_cut {digits cut : Bytes} {value : Nat}
    (spells : Spells (digits ++ cut) value) (short : cut ≠ []) : read digits = .error .varIntMissing := by
  have whole := spells.peek_append []
  rw [List.append_nil] at whole
  cases ahead : peek digits with
  | error fault =>
      rw [peek_append_of_error ahead cut] at whole
      cases whole
  | ok found =>
      cases found with
      | none => exact read_of_peek_none ahead
      | some pair =>
          obtain ⟨early, width⟩ := pair
          obtain ⟨front, rest, split, -, length⟩ := peek_eq_some_iff.mp ahead
          rw [peek_append_of_some ahead cut] at whole
          have positive := List.length_pos_iff.mpr short
          have lengths := congrArg List.length split
          simp only [Except.ok.injEq, Option.some.injEq, Prod.mk.injEq] at whole
          simp only [List.length_append] at whole lengths
          omega

end VarInt

end Mqtt
