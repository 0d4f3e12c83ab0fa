import Mqtt.Proofs.Property.Basic
import Mqtt.Property.Block

/-! # A property block, written and read

A block that is written is read back, whatever follows it
(`Mqtt.PropertyBlock.read_encode`). A block that is read can be written in no
more bytes than it was read from, and so can every rearrangement of it
(`Mqtt.PropertyBlock.encode_of_read`): the length of a block is the sum of the
lengths of its properties, whatever their order.
-/

namespace Mqtt

namespace PropertyBlock

variable {block other : PropertyBlock} {bytes rest written digits inner : Bytes}

@[simp] theorem encodedLength_nil : encodedLength [] = 0 :=
  rfl

@[simp] theorem encodedLength_cons (property : Property) (block : PropertyBlock) :
    encodedLength (property :: block) = property.encodedLength + block.encodedLength :=
  rfl

@[simp] theorem encodedLength_append (first second : PropertyBlock) :
    encodedLength (first ++ second) = first.encodedLength + second.encodedLength := by
  induction first with
  | nil => simp only [List.nil_append, encodedLength_nil, Nat.zero_add]
  | cons property first ih => simp only [List.cons_append, encodedLength_cons, ih, Nat.add_assoc]

/-- The properties of one kind have their values' bytes and one more each. -/
@[simp] theorem encodedLength_slots (kind : PropertyKind) (values : List kind.Value) :
    encodedLength (slots kind values) = (values.map fun value => 1 + kind.valueSize value).sum := by
  induction values with
  | nil => rfl
  | cons value values ih =>
      rw [List.map_cons, List.sum_cons, ← ih]
      rfl

@[simp] theorem encodedLength_slot (kind : PropertyKind) (value : Option kind.Value) :
    encodedLength (slot kind value) = value.elim 0 fun found => 1 + kind.valueSize found := by
  cases value with
  | none => rfl
  | some found => rfl

/-- Every property of a block can be written on its own. -/
def Writable (block : PropertyBlock) : Prop :=
  ∀ property ∈ block, ∃ written, property.encode = .ok written

/-- Whether all properties can be written does not depend on their order. -/
theorem Writable.perm (writable : block.Writable) (same : block.Perm other) : other.Writable := by
  intro property member
  exact writable property (same.mem_iff.mpr member)

/-- The length of a block does not depend on the order of its properties. -/
theorem encodedLength_perm (same : block.Perm other) :
    block.encodedLength = other.encodedLength := by
  induction same with
  | nil => rfl
  | cons property _ ih => rw [encodedLength_cons, encodedLength_cons, ih]
  | swap first second block =>
      simp only [encodedLength_cons]
      omega
  | trans _ _ first second => exact first.trans second

/-! ## Writing -/

/-- The properties are written in as many bytes as the length of their block says. -/
theorem length_flatten_encode {parts : List Bytes}
    (wrote : block.mapM Property.encode = .ok parts) :
    parts.flatten.length = block.encodedLength := by
  induction block generalizing parts with
  | nil =>
      rw [Except.mapM_nil_eq_ok_iff] at wrote
      rw [wrote]
      rfl
  | cons property block ih =>
      obtain ⟨part, parts, first, others, rfl⟩ := Except.mapM_cons_eq_ok_iff.mp wrote
      rw [List.flatten_cons, List.length_append, Property.length_encode first, ih others,
        encodedLength_cons]

/-- A block of properties that can be written has its parts. -/
theorem Writable.encode_parts (writable : block.Writable) :
    ∃ parts, block.mapM Property.encode = .ok parts := by
  induction block with
  | nil => exact ⟨[], rfl⟩
  | cons property block ih =>
      obtain ⟨part, wrote⟩ := writable property List.mem_cons_self
      obtain ⟨parts, others⟩ := ih fun property member =>
        writable property (List.mem_cons_of_mem _ member)
      exact ⟨part :: parts, Except.mapM_cons_eq_ok_iff.mpr ⟨part, parts, wrote, others, rfl⟩⟩

/-- A block that is not too long is written as its length and its parts. -/
theorem encode_eq_ok_iff :
    block.encode = .ok written ↔
      block.encodedLength ≤ maximumVarInt ∧
        ∃ digits parts, VarInt.encode block.encodedLength = .ok digits ∧
          block.mapM Property.encode = .ok parts ∧ digits ++ parts.flatten = written := by
  simp only [encode, Except.throw_eq_error, Except.error_bind, Except.ite_error_eq_ok_iff,
    Nat.not_lt, gt_iff_lt, Except.bind_eq_ok_iff, Except.pure_eq_ok_iff, exists_and_left]

theorem writable_of_parts {parts : List Bytes} (wrote : block.mapM Property.encode = .ok parts) :
    block.Writable := by
  induction block generalizing parts with
  | nil => exact fun _ member => (List.not_mem_nil member).elim
  | cons property block ih =>
      obtain ⟨part, parts, first, others, rfl⟩ := Except.mapM_cons_eq_ok_iff.mp wrote
      intro found member
      rcases List.mem_cons.mp member with same | later
      · rw [same]
        exact ⟨part, first⟩
      · exact ih others found later

/-- Only properties that can be written are in a block that is written. -/
theorem writable_of_encode (wrote : block.encode = .ok written) : block.Writable := by
  obtain ⟨-, _, _, -, parts, -⟩ := encode_eq_ok_iff.mp wrote
  exact writable_of_parts parts

/-- A block is written in the bytes of its length and of its properties. -/
theorem length_encode (wrote : block.encode = .ok written) :
    written.length = VarInt.size block.encodedLength + block.encodedLength := by
  obtain ⟨-, digits, parts, length, wroteParts, rfl⟩ := encode_eq_ok_iff.mp wrote
  rw [List.length_append, (VarInt.spells_of_encode length).2, length_flatten_encode wroteParts]

/-- A block that is not too large and whose properties can be written is written
as its length and its properties. -/
theorem Writable.encode (writable : block.Writable) (fits : block.encodedLength ≤ maximumVarInt) :
    ∃ written, block.encode = .ok written ∧
      written.length = VarInt.size block.encodedLength + block.encodedLength := by
  obtain ⟨digits, length⟩ := VarInt.encode_of_le fits
  obtain ⟨parts, wrote⟩ := writable.encode_parts
  have written := encode_eq_ok_iff.mpr ⟨fits, digits, parts, length, wrote, rfl⟩
  exact ⟨_, written, length_encode written⟩

/-! ## Reading -/

/-- A block is read when digits in front spell the number of bytes that its
properties fill. -/
theorem read_eq_ok_iff :
    read bytes = .ok (block, rest) ↔
      ∃ digits inner, bytes = digits ++ (inner ++ rest) ∧ VarInt.Spells digits inner.length ∧
        Reader.items Property.read inner = .ok (block, []) := by
  simp only [read, Reader.within, Reader.bind_eq_ok_iff, VarInt.read_eq_ok_iff,
    Reader.exactly_eq_ok_iff, Reader.ofExcept_eq_ok_iff, Except.map_eq_ok_iff]
  constructor
  · intro found
    obtain ⟨length, _, ⟨digits, rfl, spells⟩, inner, _, ⟨rfl, exact⟩, ⟨⟨_, left⟩, items, rfl⟩,
      rfl⟩ := found
    have nothing := Reader.items_leave_nothing items
    subst nothing
    exact ⟨digits, inner, rfl, exact ▸ spells, items⟩
  · intro found
    obtain ⟨digits, inner, rfl, spells, items⟩ := found
    have same := spells.toNat_ofNat
    exact ⟨UInt32.ofNat inner.length, inner ++ rest, ⟨digits, rfl, by rw [same]; exact spells⟩,
      inner, rest, ⟨rfl, same.symm⟩, ⟨(block, []), items, rfl⟩, rfl⟩

/-- Behind the digits of a length, the properties are those in as many bytes, and what
follows is left alone. -/
theorem read_append (length : VarInt.Spells digits inner.length) (rest : Bytes) :
    read (digits ++ inner ++ rest) =
      (Reader.items Property.read inner).map fun found => (found.1, rest) := by
  have same := length.toNat_ofNat
  have lengthFound : VarInt.read (digits ++ (inner ++ rest)) =
      .ok (UInt32.ofNat inner.length, inner ++ rest) :=
    VarInt.read_eq_ok_iff.mpr ⟨digits, rfl, same.symm ▸ length⟩
  have innerFound : Reader.exactly (UInt32.ofNat inner.length).toNat
      (.propertiesMissing (UInt32.ofNat inner.length).toNat) (inner ++ rest) =
        .ok (inner, rest) :=
    Reader.exactly_eq_ok_iff.mpr ⟨rfl, same.symm⟩
  rw [List.append_assoc, read, Reader.bind_of_ok lengthFound, Reader.within,
    Reader.bind_of_ok innerFound]
  cases Reader.items Property.read inner <;> rfl

/-- Behind a length, exactly as many bytes are read as properties as the length says. -/
theorem read_append_eq_ok_iff (length : VarInt.Spells digits inner.length) {left : Bytes} :
    read (digits ++ inner ++ rest) = .ok (block, left) ↔
      Reader.items Property.read inner = .ok (block, []) ∧ rest = left := by
  simp only [read_append length, Except.map_eq_ok_iff, Prod.mk.injEq, Prod.exists]
  constructor
  · rintro ⟨found, nothing, items, rfl, rfl⟩
    obtain rfl := Reader.items_leave_nothing items
    exact ⟨items, rfl⟩
  · rintro ⟨items, rfl⟩
    exact ⟨block, [], items, rfl, rfl⟩

/-- Properties that are written are read back, and no more. -/
theorem items_encode {parts : List Bytes} (wrote : block.mapM Property.encode = .ok parts) :
    Reader.items Property.read parts.flatten = .ok (block, []) := by
  induction block generalizing parts with
  | nil =>
      rw [Except.mapM_nil_eq_ok_iff] at wrote
      rw [wrote]
      rfl
  | cons property block ih =>
      obtain ⟨part, parts, first, others, rfl⟩ := Except.mapM_cons_eq_ok_iff.mp wrote
      rw [Reader.items_cons_eq_ok_iff Property.read_consumes]
      exact ⟨parts.flatten, Property.read_encode first _, ih others⟩

/-- A block that is written is read back. -/
theorem read_encode (wrote : block.encode = .ok written) (rest : Bytes) :
    read (written ++ rest) = .ok (block, rest) := by
  obtain ⟨-, digits, parts, length, wroteParts, rfl⟩ := encode_eq_ok_iff.mp wrote
  apply read_eq_ok_iff.mpr
  refine ⟨digits, parts.flatten, List.append_assoc _ _ _, ?_, items_encode wroteParts⟩
  rw [length_flatten_encode wroteParts]
  exact (VarInt.spells_of_encode length).1

/-- Properties that are read can be written in no more bytes. -/
theorem writable_of_items (found : Reader.items Property.read inner = .ok (block, rest)) :
    block.Writable ∧ block.encodedLength ≤ inner.length := by
  induction block generalizing inner with
  | nil => exact ⟨fun _ member => (List.not_mem_nil member).elim, Nat.zero_le _⟩
  | cons property block ih =>
      obtain ⟨left, first, others⟩ :=
        (Reader.items_cons_eq_ok_iff Property.read_consumes).mp found
      obtain ⟨part, wrote, shorter⟩ := Property.encode_of_read first
      obtain ⟨writable, fits⟩ := ih others
      have length := Property.length_encode wrote
      refine ⟨?_, by rw [encodedLength_cons]; omega⟩
      intro found member
      rcases List.mem_cons.mp member with same | later
      · rw [same]
        exact ⟨part, wrote⟩
      · exact writable found later

/-- A block that is read can be written in no more bytes, in any order of its
properties. -/
theorem encode_of_read (found : read bytes = .ok (block, rest)) (same : block.Perm other) :
    ∃ written, other.encode = .ok written ∧ written.length + rest.length ≤ bytes.length := by
  obtain ⟨digits, inner, rfl, spells, items⟩ := read_eq_ok_iff.mp found
  obtain ⟨writable, shorter⟩ := writable_of_items items
  rw [encodedLength_perm same] at shorter
  obtain ⟨written, wrote, length⟩ := (writable.perm same).encode
    (Nat.le_trans shorter spells.le_maximumVarInt)
  have size := Nat.le_trans (VarInt.size_mono shorter) spells.size_le
  refine ⟨written, wrote, ?_⟩
  rw [length, List.length_append, List.length_append]
  omega

/-- Every block is written in at least one byte. -/
theorem encode_ne_nil (wrote : block.encode = .ok written) : written ≠ [] := by
  obtain ⟨-, digits, parts, length, -, rfl⟩ := encode_eq_ok_iff.mp wrote
  have positive := (VarInt.spells_of_encode length).1.length_pos
  intro empty
  rw [List.append_eq_nil_iff] at empty
  rw [empty.1] at positive
  exact Nat.lt_irrefl _ positive

end PropertyBlock

end Mqtt
