import Mqtt.Proofs.Property.Block
import Mqtt.Proofs.Wire.Alike
import Mqtt.Proofs.Wire.Success

/-! # The spellings of a property block

Digits and parts spell a block when each part spells a property and the digits spell
the number of bytes of all parts (`Mqtt.PropertyBlock.SpelledBy`). Reading finds a block
exactly where digits and parts in front spell it, so bytes behind the declared length
neither change what is found nor lend a property what it lacks. Only the digits and the
subscription identifiers have more than one spelling: a block that was read is written
as it was spelled where these were the shortest, and in fewer bytes elsewhere
(`Mqtt.PropertyBlock.read_spelled_encode`).
-/

namespace Mqtt

variable {bytes rest : Bytes}

/-! ## Numbers -/

namespace VarInt

/-- A number that is spelled is written as its shortest spelling. -/
theorem Spells.written {digits : Bytes} {value : Nat} (spells : Spells digits value) :
    ∃ written, encode value = .ok written ∧ (written = digits ↔ Shortest digits value) ∧
      (written ≠ digits → written.length < digits.length) := by
  obtain ⟨written, wrote⟩ := encode_of_le spells.le_maximumVarInt
  have shortest := shortest_of_encode wrote
  have shorter (different : written ≠ digits) : written.length < digits.length :=
    shortest.shorter digits spells different.symm
  refine ⟨written, wrote, ?_, shorter⟩
  constructor
  · rintro rfl
    exact shortest
  · intro digitsShortest
    by_contra different
    exact Nat.lt_asymm (shorter different)
      (digitsShortest.shorter written shortest.spells different)

end VarInt

/-! ## Values -/

namespace ValueType

/-- The bytes are a spelling of the value. A variable byte integer may have more digits
than it needs; every other value has one spelling, the one that is written. -/
def SpelledBy : (valueType : ValueType) → valueType.Value → Bytes → Prop
  | byte, value, spelling => encode .byte value = .ok spelling
  | twoBytes, value, spelling => encode .twoBytes value = .ok spelling
  | fourBytes, value, spelling => encode .fourBytes value = .ok spelling
  | varInt, (value : UInt32), spelling => value ≠ 0 ∧ VarInt.Spells spelling value.toNat
  | text, value, spelling => encode .text value = .ok spelling
  | binary, value, spelling => encode .binary value = .ok spelling
  | pair, value, spelling => encode .pair value = .ok spelling

/-- A value is found where the bytes begin with a spelling of it. -/
theorem read_eq_ok_iff : (valueType : ValueType) → {value : valueType.Value} →
    (valueType.read bytes = .ok (value, rest) ↔
      ∃ spelling, valueType.SpelledBy value spelling ∧ bytes = spelling ++ rest)
  | byte, (value : UInt8) => by
      simp only [read, SpelledBy, encode, Reader.byte_eq_ok_iff, Except.ok.injEq,
        exists_eq_left', List.singleton_append]
  | twoBytes, (value : UInt16) => by
      simp only [read, SpelledBy, encode, Reader.twoBytes_eq_ok_iff, Except.ok.injEq,
        exists_eq_left']
  | fourBytes, (value : UInt32) => by
      simp only [read, SpelledBy, encode, Reader.fourBytes_eq_ok_iff, Except.ok.injEq,
        exists_eq_left']
  | varInt, (value : UInt32) => by
      simp only [read, SpelledBy, readNonzero_eq_ok_iff, and_assoc, exists_and_left]
      exact and_congr_right fun _ => exists_congr fun _ => and_comm
  | text, (value : String) => Reader.text_mirrors.trans (Iff.of_eq (true_and _))
  | binary, (value : Bytes) => Reader.binary_mirrors.trans (Iff.of_eq (true_and _))
  | pair, (value : UserProperty) => readPair_eq_ok_iff

/-- Only a variable byte integer is spelled in another way than it is written. -/
theorem SpelledBy.encode_eq : {valueType : ValueType} → {value : valueType.Value} →
    {spelling : Bytes} → valueType.SpelledBy value spelling → valueType ≠ .varInt →
      valueType.encode value = .ok spelling
  | byte, _, _, spelled, _ => spelled
  | twoBytes, _, _, spelled, _ => spelled
  | fourBytes, _, _, spelled, _ => spelled
  | varInt, _, _, _, other => absurd rfl other
  | text, _, _, spelled, _ => spelled
  | binary, _, _, spelled, _ => spelled
  | pair, _, _, spelled, _ => spelled

end ValueType

/-! ## Properties -/

namespace Property

variable {property : Property} {part : Bytes}

/-- The bytes are the identifier of the property and a spelling of its value. -/
def SpelledBy (property : Property) (part : Bytes) : Prop :=
  ∃ spelling, property.kind.valueType.SpelledBy property.value spelling ∧
    part = property.identifier :: spelling

/-- If the property is a subscription identifier, its number has the fewest digits. -/
def Shortest (property : Property) (part : Bytes) : Prop :=
  ∀ value : UInt32, property = ⟨.subscriptionIdentifier, value⟩ →
    VarInt.Shortest part.tail value.toNat

/-- A property is found where the bytes begin with a spelling of it. -/
theorem read_eq_ok_iff_spelledBy :
    read bytes = .ok (property, rest) ↔
      ∃ part, property.SpelledBy part ∧ bytes = part ++ rest := by
  simp only [read_eq_ok_iff, ValueType.read_eq_ok_iff, SpelledBy]
  constructor
  · rintro ⟨_, rfl, spelling, spelled, rfl⟩
    exact ⟨_, ⟨spelling, spelled, rfl⟩, rfl⟩
  · rintro ⟨_, ⟨spelling, spelled, rfl⟩, rfl⟩
    exact ⟨_, rfl, spelling, spelled, rfl⟩

/-- A property that is spelled is written with the fewest digits for its number, if it
has one. -/
theorem SpelledBy.written (spelled : property.SpelledBy part) :
    ∃ written, property.encode = .ok written ∧ (written = part ↔ property.Shortest part) ∧
      (written ≠ part → written.length < part.length) := by
  obtain ⟨spelling, spelledValue, rfl⟩ := spelled
  by_cases subscription : property.kind = .subscriptionIdentifier
  · obtain ⟨_, value⟩ := property
    subst subscription
    obtain ⟨nonzero, spells⟩ : value ≠ (0 : UInt32) ∧ VarInt.Spells spelling value.toNat :=
      spelledValue
    obtain ⟨digits, wrote, same, shorter⟩ := spells.written
    refine ⟨_, encode_eq_ok_iff.mpr ⟨digits, ?_, rfl⟩, ?_, ?_⟩
    · simp only [ValueType.encode, nonzero, ↓reduceIte, wrote]
    · rw [List.cons.injEq, same]
      constructor
      · rintro ⟨-, shortest⟩ _ ⟨⟩
        exact shortest
      · exact fun shortest => ⟨rfl, shortest value rfl⟩
    · intro different
      rw [List.length_cons, List.length_cons]
      exact Nat.succ_lt_succ (shorter fun same => different (by rw [same]))
  · have wrote := spelledValue.encode_eq (PropertyKind.valueType_ne_varInt subscription)
    refine ⟨_, encode_eq_ok_iff.mpr ⟨spelling, wrote, rfl⟩, iff_of_true rfl ?_,
      fun different => absurd rfl different⟩
    rintro value rfl
    exact absurd rfl subscription

end Property

/-! ## Blocks -/

namespace PropertyBlock

variable {block : PropertyBlock} {digits inner : Bytes} {parts : List Bytes}

/-- The digits are a spelling of the number of bytes of the parts, each of which is a
spelling of a property of the block. -/
structure SpelledBy (block : PropertyBlock) (digits : Bytes) (parts : List Bytes) : Prop where
  length : VarInt.Spells digits parts.flatten.length
  properties : List.Forall₂ Property.SpelledBy block parts

/-- The digits are the fewest for the number of bytes of the parts, and so are those of
every subscription identifier. -/
structure Shortest (block : PropertyBlock) (digits : Bytes) (parts : List Bytes) : Prop where
  length : VarInt.Shortest digits parts.flatten.length
  identifiers : List.Forall₂ Property.Shortest block parts

/-- Properties are found where the bytes are made of spellings of them. -/
theorem items_eq_ok_iff_spelledBy :
    Reader.items Property.read inner = .ok (block, []) ↔
      ∃ parts, List.Forall₂ Property.SpelledBy block parts ∧ inner = parts.flatten := by
  induction block generalizing inner with
  | nil =>
      rw [Reader.items_nil_eq_ok_iff Property.read_consumes]
      constructor
      · rintro ⟨rfl, -⟩
        exact ⟨[], .nil, rfl⟩
      · rintro ⟨_, ⟨⟩, rfl⟩
        exact ⟨rfl, rfl⟩
  | cons property block ih =>
      simp only [Reader.items_cons_eq_ok_iff Property.read_consumes, ih,
        Property.read_eq_ok_iff_spelledBy]
      constructor
      · rintro ⟨_, ⟨part, spelled, rfl⟩, parts, others, rfl⟩
        exact ⟨part :: parts, .cons spelled others, rfl⟩
      · rintro ⟨_, _ | ⟨spelled, others⟩, rfl⟩
        exact ⟨_, ⟨_, spelled, rfl⟩, _, others, rfl⟩

/-- A block is found where the bytes begin with a spelling of it. -/
theorem read_eq_ok_iff_spelledBy :
    read bytes = .ok (block, rest) ↔
      ∃ digits parts, block.SpelledBy digits parts ∧
        bytes = digits ++ parts.flatten ++ rest := by
  simp only [read_eq_ok_iff, items_eq_ok_iff_spelledBy]
  constructor
  · rintro ⟨digits, _, rfl, length, parts, properties, rfl⟩
    exact ⟨digits, parts, ⟨length, properties⟩, (List.append_assoc _ _ _).symm⟩
  · rintro ⟨digits, parts, ⟨length, properties⟩, rfl⟩
    exact ⟨digits, _, List.append_assoc _ _ _, length, parts, properties, rfl⟩

/-- What is found in a block of a declared length does not depend on the bytes behind
it, a fault included. -/
theorem read_delimits (length : VarInt.Spells digits inner.length) :
    read.Delimits (digits ++ inner) := by
  refine ⟨(Reader.items Property.read inner).map Prod.fst, fun rest => ?_⟩
  rw [read_append length]
  cases Reader.items Property.read inner <;> rfl

/-- No property runs past the declared length, even if bytes follow. -/
theorem read_append_eq_ok_iff_spelledBy (length : VarInt.Spells digits inner.length)
    {more left : Bytes} :
    read (digits ++ inner ++ more) = .ok (block, left) ↔
      left = more ∧ ∃ parts, block.SpelledBy digits parts ∧ inner = parts.flatten := by
  rw [read_append_eq_ok_iff length, items_eq_ok_iff_spelledBy]
  constructor
  · rintro ⟨⟨parts, properties, rfl⟩, rfl⟩
    exact ⟨rfl, parts, ⟨length, properties⟩, rfl⟩
  · rintro ⟨rfl, parts, spelled, rfl⟩
    exact ⟨⟨parts, spelled.properties, rfl⟩, rfl⟩

/-- The properties that are spelled are written one by one, each in at most as many
bytes as it was spelled. -/
theorem mapM_encode_of_spelledBy (spelled : List.Forall₂ Property.SpelledBy block parts) :
    ∃ written, block.mapM Property.encode = .ok written ∧
      (written = parts ↔ List.Forall₂ Property.Shortest block parts) ∧
      (written ≠ parts → written.flatten.length < parts.flatten.length) := by
  induction spelled with
  | nil => exact ⟨[], rfl, iff_of_true rfl .nil, fun different => absurd rfl different⟩
  | @cons property part block parts spelled _ ih =>
      obtain ⟨first, wroteFirst, firstSame, firstShorter⟩ := spelled.written
      obtain ⟨others, wroteOthers, othersSame, othersShorter⟩ := ih
      refine ⟨first :: others,
        Except.mapM_cons_eq_ok_iff.mpr ⟨first, others, wroteFirst, wroteOthers, rfl⟩, ?_, ?_⟩
      · rw [List.forall₂_cons, List.cons.injEq, firstSame, othersSame]
      · intro different
        simp only [List.flatten_cons, List.length_append]
        by_cases sameFirst : first = part
        · subst sameFirst
          have shorter := othersShorter fun same => different (by rw [same])
          omega
        · have shorter := firstShorter sameFirst
          by_cases sameOthers : others = parts
          · rw [sameOthers]
            omega
          · have othersLess := othersShorter sameOthers
            omega

/-- A block is written as the digits of the length of its parts and the parts. -/
theorem encode_of_parts (wroteParts : block.mapM Property.encode = .ok parts)
    (wroteDigits : VarInt.encode parts.flatten.length = .ok digits) :
    block.encode = .ok (digits ++ parts.flatten) := by
  have fits := (VarInt.spells_of_encode wroteDigits).1.le_maximumVarInt
  rw [length_flatten_encode wroteParts] at fits wroteDigits
  exact encode_eq_ok_iff.mpr ⟨fits, digits, parts, wroteDigits, wroteParts, rfl⟩

/-- A block that is spelled is written as it is spelled if its digits and those of its
subscription identifiers are the fewest, and otherwise in fewer bytes. -/
theorem SpelledBy.written (spelled : block.SpelledBy digits parts) :
    ∃ written, block.encode = .ok written ∧
      (written = digits ++ parts.flatten ↔ block.Shortest digits parts) ∧
      (written ≠ digits ++ parts.flatten →
        written.length < (digits ++ parts.flatten).length) := by
  obtain ⟨length, properties⟩ := spelled
  obtain ⟨writtenParts, wroteParts, partsSame, partsShorter⟩ := mapM_encode_of_spelledBy properties
  by_cases sameParts : writtenParts = parts
  · subst sameParts
    obtain ⟨writtenDigits, wroteDigits, digitsSame, digitsShorter⟩ := length.written
    refine ⟨_, encode_of_parts wroteParts wroteDigits, ?_, ?_⟩
    · rw [List.append_left_inj, digitsSame]
      constructor
      · exact fun shortest => ⟨shortest, partsSame.mp rfl⟩
      · exact fun shortest => shortest.length
    · intro different
      have shorter := digitsShorter fun same => different (by rw [same])
      simp only [List.length_append]
      omega
  · -- Fewer bytes in the properties never take more digits.
    have shorter := partsShorter sameParts
    obtain ⟨writtenDigits, wroteDigits⟩ :=
      VarInt.encode_of_le (Nat.le_trans shorter.le length.le_maximumVarInt)
    have fewerDigits := Nat.le_trans (VarInt.size_mono shorter.le) length.size_le
    rw [← (VarInt.spells_of_encode wroteDigits).2] at fewerDigits
    have less : (writtenDigits ++ writtenParts.flatten).length <
        (digits ++ parts.flatten).length := by
      simp only [List.length_append]
      omega
    refine ⟨_, encode_of_parts wroteParts wroteDigits, iff_of_false ?_ ?_, fun _ => less⟩
    · exact fun same => less.ne (by rw [same])
    · exact fun shortest => sameParts (partsSame.mpr shortest.identifiers)

/-- A block that is read was spelled in front of the bytes. It is found there whatever
follows, and behind the same digits, any bytes in the place of its properties give the
same outcome whatever follows, a value only where they are made of whole properties. The
block can be written: in the same bytes if the digits of its length and of its
subscription identifiers are the fewest, and otherwise in fewer bytes. -/
theorem read_spelled_encode (found : read bytes = .ok (block, rest)) :
    ∃ digits parts, block.SpelledBy digits parts ∧ bytes = digits ++ parts.flatten ++ rest ∧
      (∀ more, read (digits ++ parts.flatten ++ more) = .ok (block, more)) ∧
      (∀ inner, inner.length = parts.flatten.length →
        read.Delimits (digits ++ inner) ∧
        ∀ other more left, read (digits ++ inner ++ more) = .ok (other, left) ↔
          left = more ∧ ∃ otherParts, other.SpelledBy digits otherParts ∧
            inner = otherParts.flatten) ∧
      ∃ written, block.encode = .ok written ∧
        (written = digits ++ parts.flatten ↔ block.Shortest digits parts) ∧
        (written ≠ digits ++ parts.flatten →
          written.length < (digits ++ parts.flatten).length) := by
  obtain ⟨digits, parts, spelled, rfl⟩ := read_eq_ok_iff_spelledBy.mp found
  refine ⟨digits, parts, spelled, rfl, ?_, ?_, spelled.written⟩
  · exact fun more => read_eq_ok_iff_spelledBy.mpr ⟨digits, parts, spelled, rfl⟩
  · intro inner sameLength
    have length : VarInt.Spells digits inner.length := sameLength ▸ spelled.length
    exact ⟨read_delimits length, fun _ _ _ => read_append_eq_ok_iff_spelledBy length⟩

/-- A block of three bytes with a subscription identifier, each number with one digit
more than it needs, in front of a byte that is left alone. -/
theorem read_spelled_encode_overlong :
    read [131, 0, 11, 133, 0, 7] = .ok ([⟨.subscriptionIdentifier, (5 : UInt32)⟩], [7]) ∧
      ∃ digits parts,
        PropertyBlock.SpelledBy [⟨.subscriptionIdentifier, (5 : UInt32)⟩] digits parts ∧
          [131, 0, 11, 133, 0, 7] = digits ++ parts.flatten ++ [7] :=
  have found : read [131, 0, 11, 133, 0, 7] =
      .ok ([⟨.subscriptionIdentifier, (5 : UInt32)⟩], [7]) := by
    decide +kernel
  have ⟨digits, parts, spelled, split, _⟩ := read_spelled_encode found
  ⟨found, digits, parts, spelled, split⟩

end PropertyBlock

end Mqtt
