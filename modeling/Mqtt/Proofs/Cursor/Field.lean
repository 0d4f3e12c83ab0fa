import Mqtt.Property.Block
import Mqtt.Proofs.Cursor.Scan
import Mqtt.Proofs.Property.Basic
import Mqtt.Proofs.Wire.VarInt

/-! # Fields under a cursor

The fields of a packet as they are scanned: every step that reads, slices or moves is
behind a comparison with the number of bytes that are left, and the arithmetic of a
variable byte integer is behind the bound on its weight. Each scan realizes the reader
of its field, so none of the steps crashes.
-/

namespace Mqtt

namespace Scan

variable {α : Type} {before after : Bytes}

/-! ## Fixed lengths -/

/-- A given number of bytes, if that many are left. -/
def exactly (count : Nat) (missing : Nat → Fault) : Scan Bytes := do
  let left ← remaining
  if left < count then refuse .malformed (missing left)
  take count

/-- A slice of a known length ends where the bytes do that are read exactly. -/
theorem realizes_exactly (count : Nat) (missing : Nat → Fault) :
    (exactly count missing).Realizes (Reader.exactly count missing) := by
  intro before after
  rw [exactly, remaining_bind_between]
  cases split : Bytes.splitExact? count after with
  | none =>
      have short := Bytes.splitExact?_eq_none_iff.mp split
      simp only [Reader.exactly, split, short, ↓reduceIte]
      exact .refused _
  | some parts =>
      obtain ⟨rfl, rfl⟩ := Bytes.splitExact?_eq_some_iff.mp split
      have enough : ¬ (parts.1 ++ parts.2).length < parts.1.length := by
        rw [List.length_append]
        omega
      simp only [Reader.exactly, split, enough, ↓reduceIte, take_between]
      exact .found parts.1 rfl

/-- Everything that is left. -/
def rest : Scan Bytes := do
  take (← remaining)

theorem realizes_rest : rest.Realizes Reader.rest := by
  intro before after
  have whole : take after.length (.between before (after ++ [])) =
      .ok (after, .between (before ++ after) []) := take_between after
  rw [List.append_nil] at whole
  rw [rest, remaining_bind_between, whole]
  exact .found after (List.append_nil after).symm

/-- The number that bytes stand for, the high one first. -/
def number (bytes : Bytes) : Nat :=
  bytes.foldl (fun value byte => value * 256 + byte.toNat) 0

/-- An integer of a given number of bytes, or a fault where there are fewer. -/
def integer (count : Nat) (ofNumber : Nat → α) (missing : Fault) : Scan α := do
  return ofNumber (number (← exactly count fun _ => missing))

/-- An integer is a slice of its length, which is there or not. -/
theorem realizes_integer {count : Nat} {ofNumber : Nat → α} {missing : Fault} {reader : Reader α}
    (short : ∀ bytes : Bytes, bytes.length < count → reader bytes = .error missing)
    (enough : ∀ front rest : Bytes, front.length = count →
      reader (front ++ rest) = .ok (ofNumber (number front), rest)) :
    (integer count ofNumber missing).Realizes reader := by
  have same : reader = (do return ofNumber (number (← Reader.exactly count fun _ => missing))) := by
    funext bytes
    cases found : Reader.exactly count (fun _ => missing) bytes with
    | error fault =>
        rw [Reader.bind_of_error found]
        unfold Reader.exactly at found
        split at found
        · cases found
        · next absent =>
            cases found
            exact short bytes (Bytes.splitExact?_eq_none_iff.mp absent)
    | ok pair =>
        rw [Reader.bind_of_ok found]
        obtain ⟨rfl, exact⟩ := Reader.exactly_eq_ok_iff.mp found
        exact enough pair.1 pair.2 exact
  rw [same]
  exact (realizes_exactly count _).bind fun bytes => .pure _

/-- One byte. -/
def byte : Scan UInt8 :=
  integer 1 UInt8.ofNat .byteMissing

/-- An integer of two bytes. -/
def twoBytes : Scan UInt16 :=
  integer 2 UInt16.ofNat .twoBytesMissing

/-- An integer of four bytes. -/
def fourBytes : Scan UInt32 :=
  integer 4 UInt32.ofNat .fourBytesMissing

theorem realizes_byte : byte.Realizes Reader.byte := by
  apply realizes_integer
  · intro bytes short
    match bytes with
    | [] => rfl
  · intro front rest length
    match front with
    | [value] => simp [Reader.byte, Reader.byteOr, number]

theorem realizes_twoBytes : twoBytes.Realizes Reader.twoBytes := by
  apply realizes_integer
  · intro bytes short
    match bytes with
    | [] => rfl
    | [_] => rfl
  · intro front rest length
    match front with
    | [high, low] =>
        simp [Reader.twoBytes, Reader.twoBytesOr, number, Bytes.toUInt16]

theorem realizes_fourBytes : fourBytes.Realizes Reader.fourBytes := by
  apply realizes_integer
  · intro bytes short
    match bytes with
    | [] => rfl
    | [_] => rfl
    | [_, _] => rfl
    | [_, _, _] => rfl
  · intro front rest length
    match front with
    | [first, second, third, fourth] =>
        simp [Reader.fourBytes, number, Bytes.toUInt32]

/-- One byte, or another fault where there is none. -/
theorem realizes_byteOr (missing : Fault) :
    (instead (.malformed missing) byte).Realizes (Reader.byteOr missing) := by
  apply realizes_byte.instead
  intro bytes
  cases bytes <;> rfl

/-- An integer of two bytes, or another fault where there are fewer. -/
theorem realizes_twoBytesOr (missing : Fault) :
    (instead (.malformed missing) twoBytes).Realizes (Reader.twoBytesOr missing) := by
  apply realizes_twoBytes.instead
  intro bytes
  match bytes with
  | [] => rfl
  | [_] => rfl
  | _ :: _ :: _ => rfl

/-- A packet identifier, which is never zero. -/
def packetId : Scan UInt16 := do
  let packetId ← instead (.malformed .packetIdMissing) twoBytes
  if packetId = 0 then refuse .malformed .packetIdZero
  return packetId

/-- A packet identifier is an integer of two bytes other than zero, for a cursor too. -/
theorem realizes_packetId : packetId.Realizes Reader.packetId := by
  refine (realizes_twoBytesOr _).bind fun packetId => ?_
  exact .ite (.refuse _) (.pure _)

/-! ## Announced lengths -/

/-- A text after its length. -/
def text : Scan String := do
  let length ← instead (.malformed .textLengthMissing) twoBytes
  let bytes ← exactly length.toNat (.textMissing length.toNat)
  match Bytes.toText? bytes with
  | some text => return text
  | none => refuse .malformed .textNotUnicode

/-- A text is scanned as its length, a slice of that length and what the slice spells. -/
theorem realizes_text : text.Realizes Reader.text := by
  refine (realizes_twoBytesOr _).bind fun length => ?_
  refine (realizes_exactly _ _).bind fun bytes => ?_
  cases Bytes.toText? bytes with
  | some text => exact .pure text
  | none => exact .refuse _

/-- Bytes after their number. -/
def binary : Scan Bytes := do
  let length ← instead (.malformed .binaryLengthMissing) twoBytes
  exactly length.toNat (.binaryMissing length.toNat)

theorem realizes_binary : binary.Realizes Reader.binary :=
  (realizes_twoBytesOr _).bind fun _ => realizes_exactly _ _

/-! ## Variable byte integers -/

/-- One digit, on top of the value of those before it: the integer, if the digit is
the last one, or the weight of the next digit and the value so far. -/
def digitRound : UInt32 × UInt32 → Scan ((UInt32 × UInt32) ⊕ UInt32)
  | (weight, value) => do
      if (← remaining) = 0 then refuse .malformed .varIntMissing
      else
        let digit := UInt8.ofNat (number (← take 1))
        if weight > VarInt.greatestWeight then refuse .malformed .varIntTooLong
        let value ← add value (← multiply (digit &&& 127).toUInt32 weight)
        if digit &&& 128 = 0 then return .inr value
        return .inl (← multiply weight 128, value)

/-- A variable byte integer. -/
def varInt : Scan UInt32 :=
  loop digitRound (1, 0)

/-- None of the numbers that one more digit makes leaves its 32 bits. -/
theorem digit_fits {weight value : UInt32} {place : Nat} (digit : UInt8) (low : place ≤ 3)
    (isPower : weight.toNat = 128 ^ place) (below : value.toNat < 128 ^ place) :
    (digit &&& 127).toUInt32.toNat * weight.toNat < UInt32.size ∧
      value.toNat + ((digit &&& 127).toUInt32 * weight).toNat < UInt32.size ∧
      weight.toNat * (128 : UInt32).toNat < UInt32.size := by
  have lowDigit := Nat.mod_lt digit.toNat (show 0 < 128 by decide)
  have places : place = 0 ∨ place = 1 ∨ place = 2 ∨ place = 3 := by omega
  rw [UInt32.toNat_mul, VarInt.toNat_digit, isPower, show (128 : UInt32).toNat = 128 from rfl,
    show UInt32.size = 4294967296 from rfl]
  rcases places with rfl | rfl | rfl | rfl <;> norm_num at below ⊢ <;> omega

/-- A number whose digits end too early is malformed. -/
theorem digitRound_nil (weight value : UInt32) :
    digitRound (weight, value) (.between before []) =
      .error (.refused (.malformed .varIntMissing)) := by
  rw [digitRound, remaining_bind_between]
  rfl

theorem take_one_between (digit : UInt8) (others : Bytes) :
    take 1 (.between before (digit :: others)) =
      .ok ([digit], .between (before ++ [digit]) others) :=
  take_between [digit]

/-- A fifth digit is malformed, whatever it is. -/
theorem digitRound_of_high {weight value : UInt32} (digit : UInt8) (others : Bytes)
    (high : weight > VarInt.greatestWeight) :
    digitRound (weight, value) (.between before (digit :: others)) =
      .error (.refused (.malformed .varIntTooLong)) := by
  have some : ¬ (digit :: others).length = 0 := Nat.succ_ne_zero _
  rw [digitRound, remaining_bind_between, if_neg some,
    bind_of_ok (take_one_between digit others), if_pos high]
  rfl

/-- A digit that may be read is added to the value, and no step of that crashes. -/
theorem digitRound_of_low {weight value : UInt32} {place : Nat} (before : Bytes) (digit : UInt8)
    (others : Bytes) (low : place ≤ 3) (isPower : weight.toNat = 128 ^ place)
    (below : value.toNat < 128 ^ place) :
    digitRound (weight, value) (.between before (digit :: others)) =
      .ok (if digit &&& 128 = 0 then .inr (value + (digit &&& 127).toUInt32 * weight)
        else .inl (weight * 128, value + (digit &&& 127).toUInt32 * weight),
        .between (before ++ [digit]) others) := by
  obtain ⟨product, sum, next⟩ := digit_fits digit low isPower below
  have fits : ¬ weight > VarInt.greatestWeight := by
    rw [gt_iff_lt, VarInt.greatestWeight_lt_iff isPower]
    omega
  have same : UInt8.ofNat (number [digit]) = digit := by simp [number]
  have some : ¬ (digit :: others).length = 0 := Nat.succ_ne_zero _
  rw [digitRound, remaining_bind_between, if_neg some,
    bind_of_ok (take_one_between digit others), if_neg fits]
  simp only [same, multiply, add, product, sum, next, ↓reduceIte, pure_bind]
  split <;> rfl

/-- From the digit with a given weight on, the rounds do what reading does. -/
theorem digitRounds_agree {weight value : UInt32} {bound : Nat}
    (enough : after.length < bound) (place : Nat) (isPower : weight.toNat = 128 ^ place)
    (below : value.toNat < 128 ^ place) :
    Agrees before after (VarInt.readFrom weight value after)
      (rounds digitRound bound (weight, value) (.between before after)) := by
  -- The weight stays the power of 128 that belongs to the place of the digit. A digit at a
  -- place beyond the third is refused before it is added, so no number grows further.
  induction after generalizing before weight value place bound with
  | nil =>
      obtain ⟨bound, rfl⟩ := Nat.exists_eq_succ_of_ne_zero (Nat.ne_zero_of_lt enough)
      rw [rounds_of_error (digitRound_nil weight value)]
      exact .refused _
  | cons digit others ih =>
      obtain ⟨bound, rfl⟩ := Nat.exists_eq_succ_of_ne_zero (Nat.ne_zero_of_lt enough)
      by_cases high : weight > VarInt.greatestWeight
      · rw [rounds_of_error (digitRound_of_high digit others high), VarInt.readFrom, if_pos high]
        exact .refused _
      · have low : place ≤ 3 := by
          rw [gt_iff_lt, VarInt.greatestWeight_lt_iff isPower] at high
          omega
        obtain ⟨valueEq, valueBelow, weightEq⟩ := VarInt.step_toNat digit low isPower below
        have round := digitRound_of_low before digit others low isPower below
        rw [VarInt.readFrom, if_neg high]
        by_cases last : digit &&& 128 = 0
        · simp only [last, ↓reduceIte] at round ⊢
          rw [rounds_of_result round]
          exact .found _ (List.singleton_append.symm)
        · simp only [last, ↓reduceIte] at round ⊢
          rw [rounds_of_next round]
          change Agrees before ([digit] ++ others) _ _
          apply Agrees.behind
          exact ih (Nat.lt_of_succ_lt_succ enough) (place + 1) weightEq (valueEq ▸ valueBelow)

/-- The scan of a number adds up what the reader adds up, and no sum leaves its type. -/
theorem realizes_varInt : varInt.Realizes VarInt.read := by
  intro before after
  rw [varInt, loop_between]
  exact digitRounds_agree (Nat.lt_succ_self _) 0 rfl (by decide)

/-- A variable byte integer other than zero. -/
def nonzero : Scan UInt32 := do
  let value ← varInt
  if value = 0 then refuse .malformed .subscriptionIdentifierZero
  return value

/-- The scan of a subscription identifier refuses zero as the reader does. -/
theorem realizes_nonzero : nonzero.Realizes ValueType.readNonzero :=
  realizes_varInt.bind fun _ => .ite (.refuse _) (.pure _)

/-! ## Items -/

/-- One more item, if something is left, or all items. -/
def itemRound (item : Scan α) (found : List α) : Scan (List α ⊕ List α) := do
  if (← remaining) = 0 then return .inr found
  return .inl (found ++ [← item])

/-- Items until nothing is left. -/
def items (item : Scan α) : Scan (List α) :=
  loop (itemRound item) []

theorem itemRound_nil (item : Scan α) (found : List α) :
    itemRound item found (.between before []) = .ok (.inr found, .between before []) := by
  rw [itemRound, remaining_bind_between]
  rfl

/-- While bytes are left, a round scans one more item. -/
theorem itemRound_of_ne_nil (item : Scan α) (found : List α) (before : Bytes)
    (some : after ≠ []) :
    itemRound item found (.between before after) =
      (item >>= fun value => pure (.inl (found ++ [value])) : Scan (List α ⊕ List α))
        (.between before after) := by
  have left : ¬ after.length = 0 := fun none => some (List.length_eq_zero_iff.mp none)
  rw [itemRound, remaining_bind_between, if_neg left]

/-- After the items already found, the rounds do what reading does. -/
theorem itemRounds_agree {item : Scan α} {reader : Reader α} (realizes : item.Realizes reader)
    (consumes : reader.Consumes) {bound : Nat} (found : List α) (before after : Bytes)
    (enough : after.length < bound) :
    Agrees before after
      ((Reader.items reader after).map fun (values, left) => (found ++ values, left))
      (rounds (itemRound item) bound found (.between before after)) := by
  -- An item takes at least one byte, so the number of rounds stays above what is left.
  induction bound generalizing found before after with
  | zero => exact absurd enough (Nat.not_lt_zero _)
  | succ bound ih =>
      by_cases none : after = []
      · subst none
        rw [rounds_of_result (itemRound_nil item found)]
        apply Agrees.ok_iff.mpr
        exact ⟨[], rfl, by simp⟩
      · have round := itemRound_of_ne_nil item found before none
        obtain ⟨fault, outcome, stopped⟩ | ⟨value, front, rest, rfl, outcome, next⟩ :=
          realizes.outcomes before after
        · rw [bind_of_error stopped] at round
          rw [rounds_of_error round, Reader.items_of_error none outcome]
          exact .refused fault
        · have shorter := consumes outcome
          rw [bind_of_ok next] at round
          rw [rounds_of_next round, Reader.items_of_ok consumes outcome]
          have later := ih (found ++ [value]) (before ++ front) rest (by omega)
          apply Agrees.behind
          revert later
          cases Reader.items reader rest with
          | error fault => exact id
          | ok values =>
              intro later
              simpa only [Except.map, List.append_assoc, List.singleton_append] using later

/-- Items are scanned until nothing is left, in as many rounds as there are bytes at most.
-/
theorem realizes_items {item : Scan α} {reader : Reader α} (realizes : item.Realizes reader)
    (consumes : reader.Consumes) : (items item).Realizes (Reader.items reader) := by
  intro before after
  have agrees := itemRounds_agree realizes consumes [] before after (Nat.lt_succ_self _)
  rw [items, loop_between]
  revert agrees
  cases Reader.items reader after with
  | error fault => exact id
  | ok values => exact id

/-! ## Stretches -/

/-- What a cursor of its own finds in a stretch of bytes that starts what is left, if
that many bytes are left. Then the cursor moves over the stretch. -/
def within (count : Nat) (missing : Nat → Fault) (inner : Scan α) : Scan α := do
  let left ← remaining
  if left < count then refuse .malformed (missing left)
  let first ← position
  let bytes ← slice first (first + count)
  let value ← inside bytes inner
  advance count
  return value

/-- What is scanned within a length has a cursor of its own. -/
theorem realizes_within {inner : Scan α} {reader : Reader α} (realizes : inner.Realizes reader)
    (count : Nat) (missing : Nat → Fault) :
    (within count missing inner).Realizes (Reader.within count missing reader) := by
  intro before after
  rw [within, remaining_bind_between, Reader.within]
  cases split : Bytes.splitExact? count after with
  | none =>
      have short := Bytes.splitExact?_eq_none_iff.mp split
      have refused : Reader.exactly count missing after = .error (missing after.length) := by
        simp only [Reader.exactly, split]
      rw [Reader.bind_of_error refused, if_pos short]
      exact .refused _
  | some parts =>
      obtain ⟨front, rest⟩ := parts
      obtain ⟨rfl, rfl⟩ := Bytes.splitExact?_eq_some_iff.mp split
      have enough : ¬ (front ++ rest).length < front.length := by
        rw [List.length_append]
        omega
      have found : Reader.exactly front.length missing (front ++ rest) = .ok (front, rest) := by
        simp only [Reader.exactly, split]
      have first : position (.between before (front ++ rest)) =
          .ok (before.length, .between before (front ++ rest)) := rfl
      rw [Reader.bind_of_ok found, if_neg enough]
      dsimp only
      rw [bind_of_ok first, bind_of_ok (slice_between front)]
      have inside := inside_apply realizes front (.between before (front ++ rest))
      cases outcome : (reader front).map Prod.fst with
      | error fault =>
          rw [outcome] at inside
          rw [bind_of_error inside]
          exact .refused fault
      | ok value =>
          rw [outcome] at inside
          rw [bind_of_ok inside, bind_of_ok (advance_between front)]
          exact .found value rfl

/-! ## Properties -/

/-- A name and its value. -/
def pair : Scan UserProperty := do
  let name ← text
  let value ← text
  return ⟨name, value⟩

/-- A value of a type. -/
def value : (valueType : ValueType) → Scan valueType.Value
  | .byte => byte
  | .twoBytes => twoBytes
  | .fourBytes => fourBytes
  | .varInt => nonzero
  | .text => text
  | .binary => binary
  | .pair => pair

theorem realizes_value (valueType : ValueType) : (value valueType).Realizes valueType.read := by
  cases valueType with
  | byte => exact realizes_byte
  | twoBytes => exact realizes_twoBytes
  | fourBytes => exact realizes_fourBytes
  | varInt => exact realizes_nonzero
  | text => exact realizes_text
  | binary => exact realizes_binary
  | pair => exact realizes_text.bind fun name => realizes_text.bind fun value => .pure _

/-- An identifier and a value of its kind. -/
def property : Scan Property := do
  let identifier ← instead (.malformed .propertyIdentifierMissing) byte
  match PropertyKind.ofIdentifier? identifier with
  | none => refuse .malformed (.propertyUnknown identifier)
  | some kind =>
      let value ← value kind.valueType
      return ⟨kind, value⟩

/-- A property is scanned by the kind that its identifier announces. -/
theorem realizes_property : property.Realizes Property.read := by
  refine (realizes_byteOr _).bind fun identifier => ?_
  cases PropertyKind.ofIdentifier? identifier with
  | none => exact .refuse _
  | some kind =>
      have read := realizes_value kind.valueType
      rw [← PropertyKind.readValue_eq] at read
      exact read.bind fun value => .pure _

/-- Properties of a total length that is announced. -/
def properties : Scan PropertyBlock := do
  let length ← varInt
  within length.toNat (.propertiesMissing length.toNat) (items property)

/-- A block is scanned as its length and the properties within. -/
theorem realizes_properties : properties.Realizes PropertyBlock.read :=
  realizes_varInt.bind fun _ =>
    realizes_within (realizes_items realizes_property Property.read_consumes) _ _

end Scan

end Mqtt
