import Mqtt.Proofs.Property.Block
import Mqtt.Proofs.Wire.Success

/-! # How a property block is laid out

A block is written as the shortest spelling of its length and then its properties,
each in as many bytes as its encoded length says. Writing fails for no other reason
than a value beyond its limits or a block that is too long for its length
(`Mqtt.PropertyBlock.encode_layout`).
-/

namespace Mqtt

/-! ## Limits -/

namespace Field

/-- A text is written if it fits the length in front of it. -/
theorem succeeds_ofText {text : String} :
    Except.Succeeds (ofText text) ↔ text.utf8ByteSize ≤ maximumFieldLength := by
  simp only [ofText, Except.succeeds_ite_error, Except.succeeds_ok, Nat.not_lt, gt_iff_lt, and_true]

/-- Binary data is written if it fits the length in front of it. -/
theorem succeeds_ofBinary {bytes : Bytes} :
    Except.Succeeds (ofBinary bytes) ↔ bytes.length ≤ maximumFieldLength := by
  simp only [ofBinary, Except.succeeds_ite_error, Except.succeeds_ok, Nat.not_lt, gt_iff_lt,
    and_true]

end Field

namespace ValueType

/-- The limits of a value. A text and binary data fit the length in front of them, in
a pair both texts do, and a variable byte integer is in range and not zero. -/
def WithinLimits : (valueType : ValueType) → valueType.Value → Prop
  | byte, _ => True
  | twoBytes, _ => True
  | fourBytes, _ => True
  | varInt, (value : UInt32) => value ≠ 0 ∧ value.toNat ≤ maximumVarInt
  | text, (value : String) => value.utf8ByteSize ≤ maximumFieldLength
  | binary, (value : Bytes) => value.length ≤ maximumFieldLength
  | pair, (value : UserProperty) =>
      value.name.utf8ByteSize ≤ maximumFieldLength ∧
        value.value.utf8ByteSize ≤ maximumFieldLength

/-- Exactly the values within their limits are written. -/
theorem succeeds_encode : (valueType : ValueType) → (value : valueType.Value) →
    (Except.Succeeds (valueType.encode value) ↔ valueType.WithinLimits value)
  | byte, value => iff_of_true ⟨_, rfl⟩ trivial
  | twoBytes, value => iff_of_true ⟨_, rfl⟩ trivial
  | fourBytes, value => iff_of_true ⟨_, rfl⟩ trivial
  | varInt, (value : UInt32) => by
      simp only [encode, VarInt.encode, Except.succeeds_ite_error, Except.succeeds_ok, Nat.not_lt,
        gt_iff_lt, and_true]
      exact Iff.rfl
  | text, (value : String) => Field.succeeds_ofText
  | binary, (value : Bytes) => Field.succeeds_ofBinary
  | pair, (value : UserProperty) => by
      simp only [WithinLimits, ← Field.succeeds_ofText, Except.Succeeds, encode,
        Except.bind_eq_ok_iff, Except.pure_eq_ok_iff]
      constructor
      · rintro ⟨_, name, wroteName, text, wroteText, -⟩
        exact ⟨⟨name, wroteName⟩, ⟨text, wroteText⟩⟩
      · rintro ⟨⟨name, wroteName⟩, ⟨text, wroteText⟩⟩
        exact ⟨_, name, wroteName, text, wroteText, rfl⟩

end ValueType

/-- The value of a property is within its limits. -/
def Property.WithinLimits (property : Property) : Prop :=
  property.kind.valueType.WithinLimits property.value

/-- A property is written exactly when its value is within its limits. -/
theorem Property.succeeds_encode (property : Property) :
    Except.Succeeds property.encode ↔ property.WithinLimits := by
  rw [WithinLimits, ← ValueType.succeeds_encode]
  simp only [Except.Succeeds, encode_eq_ok_iff]
  constructor
  · rintro ⟨_, value, wrote, -⟩
    exact ⟨value, wrote⟩
  · rintro ⟨value, wrote⟩
    exact ⟨_, value, wrote, rfl⟩

/-! ## The block -/

namespace PropertyBlock

variable {block : PropertyBlock} {parts : List Bytes}

/-- All properties of a block can be written exactly when their values are within their
limits. -/
theorem writable_iff : block.Writable ↔ ∀ property ∈ block, property.WithinLimits := by
  simp only [← Property.succeeds_encode]
  exact Iff.rfl

/-- A block is written exactly when its properties are within their limits and it is
not too long. -/
theorem succeeds_encode :
    Except.Succeeds block.encode ↔
      (∀ property ∈ block, property.WithinLimits) ∧ block.encodedLength ≤ maximumVarInt := by
  rw [← writable_iff]
  constructor
  · rintro ⟨written, wrote⟩
    exact ⟨writable_of_encode wrote, (encode_eq_ok_iff.mp wrote).1⟩
  · rintro ⟨writable, fits⟩
    obtain ⟨written, wrote, -⟩ := writable.encode fits
    exact ⟨written, wrote⟩

/-- Each property has its own part of what is written, as long as its encoded
length. -/
theorem forall_parts (wrote : block.mapM Property.encode = .ok parts) :
    List.Forall₂ (fun property part =>
      property.encode = .ok part ∧ part.length = property.encodedLength) block parts :=
  (Except.mapM_eq_ok_iff.mp wrote).imp fun _ _ wrotePart =>
    ⟨wrotePart, Property.length_encode wrotePart⟩

/-- A block is written as the shortest spelling of its encoded length, and then in as
many bytes its properties, one after the other, each in as many bytes as its own
encoded length. What is written is read back, whatever follows it. Writing fails
exactly when a property is beyond its limits or the block is too long. -/
theorem encode_layout (block : PropertyBlock) :
    (∀ written, block.encode = .ok written →
      (∃ digits parts, written = digits ++ parts.flatten ∧
        VarInt.Shortest digits block.encodedLength ∧
        parts.flatten.length = block.encodedLength ∧
        List.Forall₂ (fun property part =>
          property.encode = .ok part ∧ part.length = property.encodedLength) block parts) ∧
      ∀ rest, read (written ++ rest) = .ok (block, rest)) ∧
    ((∃ error, block.encode = .error error) ↔
      (∃ property ∈ block, ¬ property.WithinLimits) ∨ maximumVarInt < block.encodedLength) := by
  constructor
  · intro written wrote
    obtain ⟨-, digits, parts, length, wroteParts, rfl⟩ := encode_eq_ok_iff.mp wrote
    refine ⟨⟨digits, parts, rfl, VarInt.shortest_of_encode length,
      length_flatten_encode wroteParts, forall_parts wroteParts⟩, read_encode wrote⟩
  · rw [Except.exists_error_iff, succeeds_encode, not_and_or, Nat.not_le]
    simp only [not_forall, exists_prop]

end PropertyBlock

end Mqtt
