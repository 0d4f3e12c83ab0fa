import Mqtt.Proofs.Wire.VarInt
import Mqtt.Property.Basic

/-! # One property, written and read

A property that is written is read back, whatever follows it
(`Mqtt.Property.read_encode`), and one that is read can be written in no more
bytes than it was read from (`Mqtt.Property.encode_of_read`): only a subscription
identifier has more than one spelling.
-/

namespace Mqtt

variable {bytes rest written : Bytes}

namespace Field

/-- A text is written in two bytes more than it has. -/
theorem length_ofText {text : String} (wrote : ofText text = .ok written) :
    written.length = 2 + text.utf8ByteSize := by
  simp only [ofText, Except.ite_error_eq_ok_iff, Except.ok.injEq] at wrote
  obtain ⟨-, rfl⟩ := wrote
  rw [List.length_append, Bytes.length_ofText]
  rfl

/-- Binary data is written in two bytes more than it has. -/
theorem length_ofBinary {value : Bytes} (wrote : ofBinary value = .ok written) :
    written.length = 2 + value.length := by
  simp only [ofBinary, Except.ite_error_eq_ok_iff, Except.ok.injEq] at wrote
  obtain ⟨-, rfl⟩ := wrote
  rw [List.length_append]
  rfl

end Field

namespace ValueType

/-- A pair of texts is read exactly where it stands as it is written. -/
theorem readPair_eq_ok_iff {value : UserProperty} :
    readPair bytes = .ok (value, rest) ↔
      ∃ written, encode .pair value = .ok written ∧ bytes = written ++ rest := by
  obtain ⟨name, text⟩ := value
  simp only [readPair, encode, Reader.bind_eq_ok_iff, Reader.pure_eq_ok_iff,
    Except.bind_eq_ok_iff, Except.pure_eq_ok_iff, Prod.mk.injEq]
  constructor
  · intro found
    obtain ⟨_, left, nameFound, _, left', textFound, ⟨⟩, rfl⟩ := found
    obtain ⟨-, first, wroteName, rfl⟩ := Reader.text_mirrors.mp nameFound
    obtain ⟨-, second, wroteText, rfl⟩ := Reader.text_mirrors.mp textFound
    exact ⟨_, ⟨first, wroteName, second, wroteText, rfl⟩, by rw [List.append_assoc]⟩
  · intro found
    obtain ⟨written, ⟨first, wroteName, second, wroteText, rfl⟩, rfl⟩ := found
    exact ⟨name, second ++ rest,
      Reader.text_mirrors.mpr ⟨trivial, first, wroteName, by rw [List.append_assoc]⟩,
      text, rest, Reader.text_mirrors.mpr ⟨trivial, second, wroteText, rfl⟩, rfl, rfl⟩

/-- A number other than zero is read where the bytes begin with a spelling of it. -/
theorem readNonzero_eq_ok_iff {value : UInt32} :
    readNonzero bytes = .ok (value, rest) ↔
      value ≠ 0 ∧ ∃ digits, bytes = digits ++ rest ∧ VarInt.Spells digits value.toNat := by
  simp only [readNonzero, Reader.bind_eq_ok_iff, VarInt.read_eq_ok_iff, Reader.throw_bind,
    Reader.ite_apply, Reader.throw_apply, Except.ite_error_eq_ok_iff, Reader.pure_eq_ok_iff,
    Prod.mk.injEq]
  constructor
  · intro found
    obtain ⟨found, left, spelled, nonzero, rfl, rfl⟩ := found
    exact ⟨nonzero, spelled⟩
  · intro found
    obtain ⟨nonzero, spelled⟩ := found
    exact ⟨value, rest, spelled, nonzero, rfl, rfl⟩

/-- A value that is written is read back. -/
theorem read_encode : (valueType : ValueType) → {value : valueType.Value} →
    valueType.encode value = .ok written → (rest : Bytes) →
      valueType.read (written ++ rest) = .ok (value, rest)
  | byte, value, wrote, rest => by
      cases wrote
      rfl
  | twoBytes, (value : UInt16), wrote, rest => by
      cases wrote
      exact Reader.twoBytes_eq_ok_iff.mpr rfl
  | fourBytes, (value : UInt32), wrote, rest => by
      cases wrote
      exact Reader.fourBytes_eq_ok_iff.mpr rfl
  | varInt, (value : UInt32), wrote, rest => by
      simp only [encode, Except.ite_error_eq_ok_iff] at wrote
      obtain ⟨nonzero, wrote⟩ := wrote
      apply readNonzero_eq_ok_iff.mpr
      exact ⟨nonzero, _, rfl, (VarInt.spells_of_encode wrote).1⟩
  | text, (value : String), wrote, rest =>
      Reader.text_mirrors.mpr ⟨trivial, written, wrote, rfl⟩
  | binary, (value : Bytes), wrote, rest =>
      Reader.binary_mirrors.mpr ⟨trivial, written, wrote, rfl⟩
  | pair, (value : UserProperty), wrote, rest =>
      readPair_eq_ok_iff.mpr ⟨written, wrote, rfl⟩

/-- A value that is read can be written in no more bytes. -/
theorem encode_of_read : (valueType : ValueType) → {value : valueType.Value} →
    valueType.read bytes = .ok (value, rest) →
      ∃ written, valueType.encode value = .ok written ∧
        written.length + rest.length ≤ bytes.length
  | byte, (value : UInt8), found => by
      rw [show bytes = value :: rest from Reader.byte_eq_ok_iff.mp found]
      exact ⟨[value], rfl, by simp only [List.length_cons, List.length_nil]; omega⟩
  | twoBytes, (value : UInt16), found => by
      rw [show bytes = _ from Reader.twoBytes_eq_ok_iff.mp found, List.length_append]
      exact ⟨_, rfl, Nat.le_refl _⟩
  | fourBytes, (value : UInt32), found => by
      rw [show bytes = _ from Reader.fourBytes_eq_ok_iff.mp found, List.length_append]
      exact ⟨_, rfl, Nat.le_refl _⟩
  | varInt, (value : UInt32), found => by
      obtain ⟨nonzero, digits, rfl, spells⟩ := readNonzero_eq_ok_iff.mp found
      obtain ⟨written, wrote⟩ := VarInt.encode_of_le spells.le_maximumVarInt
      refine ⟨written, by simp only [encode, nonzero, ↓reduceIte, wrote], ?_⟩
      rw [(VarInt.spells_of_encode wrote).2, List.length_append]
      exact Nat.add_le_add_right spells.size_le _
  | text, (value : String), found => by
      obtain ⟨-, written, wrote, rfl⟩ := Reader.text_mirrors.mp found
      exact ⟨written, wrote, by rw [List.length_append]⟩
  | binary, (value : Bytes), found => by
      obtain ⟨-, written, wrote, rfl⟩ := Reader.binary_mirrors.mp found
      exact ⟨written, wrote, by rw [List.length_append]⟩
  | pair, (value : UserProperty), found => by
      obtain ⟨written, wrote, rfl⟩ := readPair_eq_ok_iff.mp found
      exact ⟨written, wrote, by rw [List.length_append]⟩

/-- A value is written in as many bytes as its size. -/
theorem length_encode : (valueType : ValueType) → {value : valueType.Value} →
    valueType.encode value = .ok written → written.length = valueType.size value
  | byte, value, wrote => by
      cases wrote
      rfl
  | twoBytes, (value : UInt16), wrote => by
      cases wrote
      rfl
  | fourBytes, (value : UInt32), wrote => by
      cases wrote
      rfl
  | varInt, (value : UInt32), wrote => by
      simp only [encode, Except.ite_error_eq_ok_iff] at wrote
      exact (VarInt.spells_of_encode wrote.2).2
  | text, (value : String), wrote => Field.length_ofText wrote
  | binary, (value : Bytes), wrote => Field.length_ofBinary wrote
  | pair, (value : UserProperty), wrote => by
      simp only [encode, Except.bind_eq_ok_iff, Except.pure_eq_ok_iff] at wrote
      obtain ⟨name, wroteName, text, wroteText, rfl⟩ := wrote
      rw [List.length_append, Field.length_ofText wroteName, Field.length_ofText wroteText]
      rfl

end ValueType

/-- Only the values of subscription identifiers are variable byte integers. -/
theorem PropertyKind.valueType_ne_varInt {kind : PropertyKind}
    (other : kind ≠ .subscriptionIdentifier) : kind.valueType ≠ .varInt := by
  cases kind with
  | subscriptionIdentifier => exact absurd rfl other
  | _ => decide

namespace Property

variable {property : Property}

/-- A property is written when its value is, behind its identifier. -/
theorem encode_eq_ok_iff :
    property.encode = .ok written ↔
      ∃ value, property.kind.valueType.encode property.value = .ok value ∧
        property.identifier :: value = written := by
  simp only [encode, PropertyKind.encodeValue_eq, Except.bind_eq_ok_iff, Except.pure_eq_ok_iff]

/-- A property is read when its identifier and then its value are. -/
theorem read_eq_ok_iff :
    read bytes = .ok (property, rest) ↔
      ∃ left, bytes = property.identifier :: left ∧
        property.kind.valueType.read left = .ok (property.value, rest) := by
  simp only [read, Reader.bind_eq_ok_iff, Reader.byteOr_eq_ok_iff]
  constructor
  · intro found
    obtain ⟨identifier, left, rfl, found⟩ := found
    cases named : PropertyKind.ofIdentifier? identifier with
    | none =>
        simp only [named] at found
        cases found
    | some kind =>
        simp only [named, PropertyKind.readValue_eq, Reader.bind_eq_ok_iff,
          Reader.pure_eq_ok_iff, Prod.mk.injEq] at found
        obtain ⟨value, left', found, rfl, rfl⟩ := found
        exact ⟨left, by rw [← PropertyKind.identifier_of_ofIdentifier? named]; rfl, found⟩
  · intro found
    obtain ⟨left, rfl, found⟩ := found
    refine ⟨_, left, rfl, ?_⟩
    rw [identifier, PropertyKind.ofIdentifier?_identifier]
    apply Reader.bind_eq_ok_iff.mpr
    rw [PropertyKind.readValue_eq]
    exact ⟨_, _, found, rfl⟩

/-- A property that is written is read back. -/
theorem read_encode (wrote : property.encode = .ok written) (rest : Bytes) :
    read (written ++ rest) = .ok (property, rest) := by
  obtain ⟨value, wroteValue, rfl⟩ := encode_eq_ok_iff.mp wrote
  apply read_eq_ok_iff.mpr
  exact ⟨_, rfl, ValueType.read_encode _ wroteValue rest⟩

/-- A property that is read can be written in no more bytes. -/
theorem encode_of_read (found : read bytes = .ok (property, rest)) :
    ∃ written, property.encode = .ok written ∧ written.length + rest.length ≤ bytes.length := by
  obtain ⟨left, rfl, valueFound⟩ := read_eq_ok_iff.mp found
  obtain ⟨value, wrote, shorter⟩ := ValueType.encode_of_read _ valueFound
  refine ⟨_, encode_eq_ok_iff.mpr ⟨value, wrote, rfl⟩, ?_⟩
  simp only [List.length_cons]
  omega

/-- A property is written in as many bytes as its encoded length. -/
theorem length_encode (wrote : property.encode = .ok written) :
    written.length = property.encodedLength := by
  obtain ⟨value, wroteValue, rfl⟩ := encode_eq_ok_iff.mp wrote
  rw [List.length_cons, ValueType.length_encode _ wroteValue, encodedLength,
    PropertyKind.valueSize_eq, Nat.add_comm]

/-- Every property has at least its identifier. -/
theorem encodedLength_pos (property : Property) : 0 < property.encodedLength := by
  unfold encodedLength
  omega

/-- Reading a property takes its identifier at least. -/
theorem read_consumes : read.Consumes := by
  intro bytes property rest found
  obtain ⟨written, wrote, shorter⟩ := encode_of_read found
  have positive := encodedLength_pos property
  rw [← length_encode wrote] at positive
  omega

end Property

end Mqtt
