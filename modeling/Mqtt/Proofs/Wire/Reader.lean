import Mqtt.Wire.Code
import Mqtt.Wire.Field

/-! # What a reader finds

A computation that may fail succeeds exactly when each of its steps does, and a
reader built from others finds a value exactly when each of them finds its part.
For the readers of one field this is an equation on the bytes: a reader finds a
value exactly when the bytes begin with the value as it is written
(`Mqtt.Reader.Mirrors`).
-/

namespace Mqtt

/-! ## Computations that may fail -/

namespace Except

variable {ε ε' α β : Type}

/-- Two steps succeed when the first does, and the second on its value. -/
@[simp] theorem bind_eq_ok_iff {first : Except ε α} {second : α → Except ε β} {result : β} :
    (first >>= second) = .ok result ↔ ∃ value, first = .ok value ∧ second value = .ok result := by
  cases first with
  | error fault => simp [bind, Except.bind]
  | ok value => simp [bind, Except.bind]

/-- A check in front of a step only decides whether the step is taken. -/
theorem bind_unit_eq_ok_iff {first : Except ε Unit} {second : Unit → Except ε β} {result : β} :
    (first >>= second) = .ok result ↔ first = .ok () ∧ second () = .ok result := by
  cases first with
  | error fault => simp [bind, Except.bind]
  | ok value => simp [bind, Except.bind]

@[simp] theorem pure_eq_ok_iff {value result : α} :
    (pure value : Except ε α) = .ok result ↔ value = result := by
  simp [pure, Except.pure]

@[simp] theorem throw_eq_error (fault : ε) : (throw fault : Except ε α) = .error fault :=
  rfl

@[simp] theorem ok_bind (value : α) (second : α → Except ε β) :
    ((.ok value : Except ε α) >>= second) = second value :=
  rfl

@[simp] theorem error_bind (fault : ε) (second : α → Except ε β) :
    ((.error fault : Except ε α) >>= second) = .error fault :=
  rfl

@[simp] theorem map_eq_ok_iff {change : α → β} {first : Except ε α} {result : β} :
    first.map change = .ok result ↔ ∃ value, first = .ok value ∧ change value = result := by
  cases first <;> simp [Except.map]

theorem map_eq_error_iff {change : α → β} {first : Except ε α} {fault : ε} :
    first.map change = .error fault ↔ first = .error fault := by
  cases first <;> simp [Except.map]

@[simp] theorem mapError_eq_ok_iff {change : ε → ε'} {first : Except ε α} {result : α} :
    first.mapError change = .ok result ↔ first = .ok result := by
  cases first with
  | error fault => exact ⟨nofun, nofun⟩
  | ok value =>
      change (.ok value : Except ε' α) = .ok result ↔ (.ok value : Except ε α) = .ok result
      simp only [Except.ok.injEq]

/-- A guard lets through what does not break its rule. -/
@[simp] theorem ite_error_eq_ok_iff {broken : Prop} [Decidable broken] {fault : ε}
    {other : Except ε α} {result : α} :
    (if broken then .error fault else other) = .ok result ↔ ¬ broken ∧ other = .ok result := by
  by_cases holds : broken <;> simp [holds]

/-- Every element passes a check exactly when the checks of all of them do. -/
theorem forM_eq_ok_iff {check : α → Except ε Unit} {values : List α} {result : Unit} :
    values.forM check = .ok result ↔ ∀ value ∈ values, check value = .ok () := by
  induction values with
  | nil => simp
  | cons value others ih =>
      change (check value >>= fun _ => others.forM check) = .ok result ↔ _
      rw [bind_unit_eq_ok_iff, ih, List.forall_mem_cons]

theorem mapM_nil_eq_ok_iff {change : α → Except ε β} {results : List β} :
    ([] : List α).mapM change = .ok results ↔ results = [] := by
  rw [List.mapM_nil, pure_eq_ok_iff, eq_comm]

theorem mapM_cons_eq_ok_iff {change : α → Except ε β} {value : α} {values : List α}
    {results : List β} :
    (value :: values).mapM change = .ok results ↔
      ∃ result others, change value = .ok result ∧ values.mapM change = .ok others ∧
        results = result :: others := by
  simp only [List.mapM_cons, bind_eq_ok_iff, pure_eq_ok_iff]
  constructor
  · intro found
    obtain ⟨result, found, others, rest, rfl⟩ := found
    exact ⟨result, others, found, rest, rfl⟩
  · intro found
    obtain ⟨result, others, found, rest, rfl⟩ := found
    exact ⟨result, found, others, rest, rfl⟩

end Except

/-- What holds of each of the 256 bytes holds of every byte. -/
theorem Bytes.forall_byte (holds : UInt8 → Prop) (each : ∀ value < 256, holds (UInt8.ofNat value))
    (byte : UInt8) : holds byte := by
  have found := each byte.toNat byte.toNat_lt
  rwa [UInt8.ofNat_toNat] at found

namespace Reader

variable {α β : Type} {bytes rest : Bytes}

/-! ## Steps of a reader -/

attribute [simp] bind_eq_ok_iff

@[simp] theorem pure_eq_ok_iff {value : α} {result : α × Bytes} :
    (pure value : Reader α) bytes = .ok result ↔ (value, bytes) = result := by
  change Except.ok (value, bytes) = .ok result ↔ _
  rw [Except.ok.injEq]

@[simp] theorem map_eq_ok_iff {change : α → β} {reader : Reader α} {result : β} :
    (change <$> reader) bytes = .ok (result, rest) ↔
      ∃ value, reader bytes = .ok (value, rest) ∧ change value = result := by
  change (reader bytes >>= fun pair => pure (change pair.1, pair.2)) = .ok (result, rest) ↔ _
  simp only [Except.bind_eq_ok_iff, Except.pure_eq_ok_iff, Prod.mk.injEq, Prod.exists]
  constructor
  · intro found
    obtain ⟨value, left, found, same, rfl⟩ := found
    exact ⟨value, found, same⟩
  · intro found
    obtain ⟨value, found, same⟩ := found
    exact ⟨value, rest, found, same, rfl⟩

@[simp] theorem ofExcept_eq_ok_iff {result : Except Fault α} {value : α} :
    ofExcept result bytes = .ok (value, rest) ↔ result = .ok value ∧ bytes = rest := by
  cases result <;> simp [ofExcept, Except.map]

@[simp] theorem remaining_eq_ok_iff {left : Bytes} :
    remaining bytes = .ok (left, rest) ↔ bytes = left ∧ bytes = rest := by
  simp [remaining]

@[simp] theorem throw_apply (fault : Fault) : (throw fault : Reader α) bytes = .error fault :=
  rfl

@[simp] theorem throw_bind (fault : Fault) (second : α → Reader β) :
    (throw fault >>= second : Reader β) = throw fault :=
  rfl

@[simp] theorem ite_apply {condition : Prop} [Decidable condition] (first second : Reader α) :
    (if condition then first else second) bytes =
      if condition then first bytes else second bytes := by
  split <;> rfl

/-! ## Fields -/

@[simp] theorem byteOr_eq_ok_iff {missing : Fault} {value : UInt8} :
    byteOr missing bytes = .ok (value, rest) ↔ bytes = value :: rest := by
  cases bytes <;> simp [byteOr]

@[simp] theorem byte_eq_ok_iff {value : UInt8} :
    byte bytes = .ok (value, rest) ↔ bytes = value :: rest :=
  byteOr_eq_ok_iff

@[simp] theorem twoBytesOr_eq_ok_iff {missing : Fault} {value : UInt16} :
    twoBytesOr missing bytes = .ok (value, rest) ↔ bytes = Bytes.ofUInt16 value ++ rest := by
  constructor
  · intro found
    unfold twoBytesOr at found
    split at found
    · next high low left =>
        simp only [Except.ok.injEq, Prod.mk.injEq] at found
        obtain ⟨rfl, rfl⟩ := found
        simp [Bytes.ofUInt16_toUInt16]
    · cases found
  · intro same
    subst same
    simp [Bytes.ofUInt16, twoBytesOr, Bytes.toUInt16_bytes]

@[simp] theorem twoBytes_eq_ok_iff {value : UInt16} :
    twoBytes bytes = .ok (value, rest) ↔ bytes = Bytes.ofUInt16 value ++ rest :=
  twoBytesOr_eq_ok_iff

@[simp] theorem fourBytes_eq_ok_iff {value : UInt32} :
    fourBytes bytes = .ok (value, rest) ↔ bytes = Bytes.ofUInt32 value ++ rest := by
  constructor
  · intro found
    unfold fourBytes at found
    split at found
    · next first second third fourth left =>
        simp only [Except.ok.injEq, Prod.mk.injEq] at found
        obtain ⟨rfl, rfl⟩ := found
        simp [Bytes.ofUInt32_toUInt32]
    · cases found
  · intro same
    subst same
    simp [Bytes.ofUInt32, fourBytes, Bytes.toUInt32_bytes]

@[simp] theorem exactly_eq_ok_iff {count : Nat} {missing : Nat → Fault} {front : Bytes} :
    exactly count missing bytes = .ok (front, rest) ↔
      bytes = front ++ rest ∧ front.length = count := by
  rw [← Bytes.splitExact?_eq_some_iff]
  unfold exactly
  split
  · next split found => simp [found]
  · next absent => simp [absent]

@[simp] theorem rest_eq_ok_iff {left : Bytes} :
    Reader.rest bytes = .ok (left, rest) ↔ bytes = left ∧ rest = [] := by
  simp [Reader.rest, eq_comm]

/-- A reader mirrors a way of writing: it finds a value exactly when the value
obeys a rule and the bytes begin with it as it is written. -/
def Mirrors (reader : Reader α) (write : α → Except PacketError Bytes) (valid : α → Prop) : Prop :=
  ∀ ⦃bytes value rest⦄, reader bytes = .ok (value, rest) ↔
    valid value ∧ ∃ written, write value = .ok written ∧ bytes = written ++ rest

/-- A value that is written is read back, whatever follows it. -/
theorem Mirrors.read_written {reader : Reader α} {write : α → Except PacketError Bytes}
    {valid : α → Prop} (mirrors : reader.Mirrors write valid) {value : α} {written : Bytes}
    (fits : valid value) (wrote : write value = .ok written) (rest : Bytes) :
    reader (written ++ rest) = .ok (value, rest) :=
  mirrors.mpr ⟨fits, written, wrote, rfl⟩

/-- A reader that undoes a writer of at least one byte takes at least one. -/
theorem Mirrors.consumes {reader : Reader α} {write : α → Except PacketError Bytes}
    {valid : α → Prop} (mirrors : reader.Mirrors write valid)
    (some : ∀ value written, write value = .ok written → written ≠ []) : reader.Consumes := by
  intro bytes value rest found
  obtain ⟨-, written, wrote, rfl⟩ := mirrors.mp found
  have positive := List.length_pos_iff.mpr (some value written wrote)
  rw [List.length_append]
  omega

/-- The length that is written in front of a field is the length of the field. -/
theorem toNat_length {length : Nat} (fits : length ≤ maximumFieldLength) :
    (UInt16.ofNat length).toNat = length := by
  simp only [maximumFieldLength] at fits
  rw [UInt16.toNat_ofNat']
  omega

/-- A length of two bytes never exceeds the greatest field length. -/
theorem length_le_maximumFieldLength {front : Bytes} {length : UInt16}
    (exact : front.length = length.toNat) : front.length ≤ maximumFieldLength := by
  have bound := length.toNat_lt
  simp only [maximumFieldLength]
  omega

/-- Reading binary data undoes writing it. -/
theorem binary_mirrors : binary.Mirrors Field.ofBinary fun _ => True := by
  intro bytes value rest
  simp only [binary, bind_eq_ok_iff, twoBytesOr_eq_ok_iff, exactly_eq_ok_iff, Field.ofBinary,
    true_and]
  constructor
  · intro found
    obtain ⟨length, left, rfl, rfl, exact⟩ := found
    have fits := length_le_maximumFieldLength exact
    refine ⟨_, if_neg (Nat.not_lt.mpr fits), ?_⟩
    rw [exact, UInt16.ofNat_toNat, List.append_assoc]
  · intro found
    obtain ⟨written, wrote, rfl⟩ := found
    simp only [Except.ite_error_eq_ok_iff, Except.ok.injEq, Nat.not_lt] at wrote
    obtain ⟨fits, rfl⟩ := wrote
    exact ⟨UInt16.ofNat value.length, value ++ rest, by rw [List.append_assoc], rfl,
      (toNat_length fits).symm⟩

/-- Reading a text undoes writing it. -/
theorem text_mirrors : text.Mirrors Field.ofText fun _ => True := by
  intro bytes value rest
  simp only [text, bind_eq_ok_iff, twoBytesOr_eq_ok_iff, exactly_eq_ok_iff, Field.ofText, true_and]
  constructor
  · intro found
    obtain ⟨length, left, rfl, front, left, ⟨rfl, exact⟩, found⟩ := found
    have fits := length_le_maximumFieldLength exact
    cases read : Bytes.toText? front with
    | some text =>
        simp only [read, pure_eq_ok_iff, Prod.mk.injEq] at found
        obtain ⟨rfl, rfl⟩ := found
        have spelled := Bytes.ofText_of_toText? read
        have size : text.utf8ByteSize = front.length := by
          rw [← Bytes.length_ofText, spelled]
        refine ⟨_, if_neg (by rw [size]; exact Nat.not_lt.mpr fits), ?_⟩
        rw [size, exact, UInt16.ofNat_toNat, spelled, List.append_assoc]
    | none =>
        simp only [read] at found
        cases found
  · intro found
    obtain ⟨written, wrote, rfl⟩ := found
    simp only [Except.ite_error_eq_ok_iff, Except.ok.injEq, Nat.not_lt] at wrote
    obtain ⟨fits, rfl⟩ := wrote
    refine ⟨UInt16.ofNat value.utf8ByteSize, Bytes.ofText value ++ rest, by
      rw [List.append_assoc], Bytes.ofText value, rest, ⟨rfl, ?_⟩, ?_⟩
    · rw [Bytes.length_ofText, toNat_length fits]
    · rw [Bytes.toText?_ofText]
      rfl

/-- A packet identifier is an integer of two bytes other than zero. -/
@[simp] theorem packetId_eq_ok_iff {value : UInt16} :
    packetId bytes = .ok (value, rest) ↔ value ≠ 0 ∧ bytes = Bytes.ofUInt16 value ++ rest := by
  simp only [packetId, bind_eq_ok_iff, twoBytesOr_eq_ok_iff, throw_bind, ite_apply, throw_apply,
    Except.ite_error_eq_ok_iff, pure_eq_ok_iff, Prod.mk.injEq]
  constructor
  · intro found
    obtain ⟨found, left, rfl, nonzero, rfl, rfl⟩ := found
    exact ⟨nonzero, rfl⟩
  · intro found
    obtain ⟨nonzero, rfl⟩ := found
    exact ⟨value, rest, rfl, nonzero, rfl, rfl⟩

/-! ## Items -/

@[simp] theorem items_nil_eq_ok_iff {item : Reader α} (consumes : item.Consumes) :
    items item bytes = .ok ([], rest) ↔ bytes = [] ∧ rest = [] := by
  constructor
  · intro found
    by_cases empty : bytes = []
    · subst empty
      rw [items_nil] at found
      cases found
      exact ⟨rfl, rfl⟩
    · cases first : item bytes with
      | error fault =>
          rw [items_of_error empty first] at found
          cases found
      | ok pair =>
          rw [items_of_ok consumes first, Except.map_eq_ok_iff] at found
          obtain ⟨_, -, same⟩ := found
          cases same
  · intro found
    obtain ⟨rfl, rfl⟩ := found
    rfl

/-- A list of items is read when its first item is and the others are read from
the bytes that the first one leaves. -/
@[simp] theorem items_cons_eq_ok_iff {item : Reader α} (consumes : item.Consumes) {value : α}
    {values : List α} :
    items item bytes = .ok (value :: values, rest) ↔
      ∃ left, item bytes = .ok (value, left) ∧ items item left = .ok (values, rest) := by
  constructor
  · intro found
    have some : bytes ≠ [] := by
      intro same
      subst same
      cases found
    cases first : item bytes with
    | error fault =>
        rw [items_of_error some first] at found
        cases found
    | ok pair =>
        obtain ⟨head, left⟩ := pair
        rw [items_of_ok consumes first, Except.map_eq_ok_iff] at found
        obtain ⟨⟨others, left'⟩, others_found, same⟩ := found
        cases same
        exact ⟨left, rfl, others_found⟩
  · intro found
    obtain ⟨left, first, others⟩ := found
    rw [items_of_ok consumes first, others]
    rfl

/-- Reading a list of items leaves no bytes. -/
theorem items_leave_nothing {item : Reader α} {values : List α}
    (found : items item bytes = .ok (values, rest)) : rest = [] := by
  simp only [items, Except.map_eq_ok_iff, Prod.mk.injEq] at found
  obtain ⟨_, -, -, rfl⟩ := found
  rfl

/-- Items that are each read as they are written are read one after the other as
they are written. -/
theorem Mirrors.items_eq_ok_iff {item : Reader α} {write : α → Except PacketError Bytes}
    {valid : α → Prop} (mirrors : item.Mirrors write valid) (consumes : item.Consumes)
    {values : List α} :
    items item bytes = .ok (values, rest) ↔
      rest = [] ∧ (∀ value ∈ values, valid value) ∧
        ∃ parts, values.mapM write = .ok parts ∧ bytes = parts.flatten := by
  induction values generalizing bytes with
  | nil =>
      rw [items_nil_eq_ok_iff consumes]
      constructor
      · intro found
        obtain ⟨rfl, rfl⟩ := found
        exact ⟨rfl, fun _ member => (List.not_mem_nil member).elim, [], rfl, rfl⟩
      · intro found
        obtain ⟨rfl, -, parts, wrote, rfl⟩ := found
        rw [Except.mapM_nil_eq_ok_iff] at wrote
        rw [wrote]
        exact ⟨rfl, rfl⟩
  | cons value values ih =>
      rw [items_cons_eq_ok_iff consumes]
      constructor
      · intro found
        obtain ⟨left, first, others⟩ := found
        obtain ⟨fits, part, wrote, rfl⟩ := mirrors.mp first
        obtain ⟨rfl, allFit, parts, wroteOthers, rfl⟩ := ih.mp others
        refine ⟨rfl, ?_, part :: parts,
          Except.mapM_cons_eq_ok_iff.mpr ⟨part, parts, wrote, wroteOthers, rfl⟩, rfl⟩
        exact List.forall_mem_cons.mpr ⟨fits, allFit⟩
      · intro found
        obtain ⟨rfl, allFit, parts, wrote, rfl⟩ := found
        obtain ⟨part, parts, wroteFirst, wroteOthers, rfl⟩ := Except.mapM_cons_eq_ok_iff.mp wrote
        obtain ⟨fits, othersFit⟩ := List.forall_mem_cons.mp allFit
        exact ⟨parts.flatten, mirrors.mpr ⟨fits, part, wroteFirst, rfl⟩,
          ih.mpr ⟨rfl, othersFit, parts, wroteOthers, rfl⟩⟩

end Reader

end Mqtt
