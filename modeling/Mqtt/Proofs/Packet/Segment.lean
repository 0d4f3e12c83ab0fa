import Mqtt.Proofs.Property.Agreement
import Mqtt.Proofs.Property.Layout

/-! # The segments of a body

The body of a packet is a row of segments: bytes as they are, texts and binary data
after their lengths, and property blocks. A layout of segments whose variable byte
integers are in range fits in a packet exactly when no text and no binary data is too long
for the length in front of it and the segments together are not too long
(`Mqtt.Layout.encode_fits_iff`).
-/

namespace Mqtt

/-! ## Fields with a length in front -/

/-- Each field is short enough for the length in front of it. -/
def FieldsFit (fields : List Bytes) : Prop :=
  ∀ field ∈ fields, field.length ≤ maximumFieldLength

@[simp] theorem fieldsFit_nil : FieldsFit [] :=
  fun _ member => (List.not_mem_nil member).elim

@[simp] theorem fieldsFit_cons {field : Bytes} {fields : List Bytes} :
    FieldsFit (field :: fields) ↔ field.length ≤ maximumFieldLength ∧ FieldsFit fields :=
  List.forall_mem_cons

@[simp] theorem fieldsFit_append {first second : List Bytes} :
    FieldsFit (first ++ second) ↔ FieldsFit first ∧ FieldsFit second :=
  List.forall_mem_append

namespace ValueType

/-- The texts and the binary data in a value, as bytes. -/
def fields : (valueType : ValueType) → valueType.Value → List Bytes
  | byte, _ => []
  | twoBytes, _ => []
  | fourBytes, _ => []
  | varInt, _ => []
  | text, (value : String) => [Bytes.ofText value]
  | binary, (value : Bytes) => [value]
  | pair, (value : UserProperty) => [Bytes.ofText value.name, Bytes.ofText value.value]

/-- A variable byte integer is in range and not zero. -/
@[simp] def InRange : (valueType : ValueType) → valueType.Value → Prop
  | varInt, (value : UInt32) => value ≠ 0 ∧ value.toNat ≤ maximumVarInt
  | byte, _ => True
  | twoBytes, _ => True
  | fourBytes, _ => True
  | text, _ => True
  | binary, _ => True
  | pair, _ => True

/-- A value is within its limits when its texts and data fit and its number is in range. -/
theorem withinLimits_iff (valueType : ValueType) (value : valueType.Value) :
    valueType.WithinLimits value ↔
      FieldsFit (valueType.fields value) ∧ valueType.InRange value := by
  cases valueType <;>
    simp only [WithinLimits, fields, InRange, fieldsFit_nil, fieldsFit_cons,
      Bytes.length_ofText, and_true, true_and]

end ValueType

namespace PropertyBlock

variable {block : PropertyBlock} {written : Bytes}

/-- The texts and the binary data in the values of a block. -/
def fields (block : PropertyBlock) : List Bytes :=
  block.flatMap fun property => property.kind.valueType.fields property.value

@[simp] theorem fields_append (first second : PropertyBlock) :
    fields (first ++ second) = first.fields ++ second.fields :=
  List.flatMap_append

@[simp] theorem fields_slots (kind : PropertyKind) (values : List kind.Value) :
    fields (slots kind values) = values.flatMap fun value => kind.valueType.fields value :=
  List.flatMap_map ..

@[simp] theorem fields_slot (kind : PropertyKind) (value : Option kind.Value) :
    fields (slot kind value) = value.toList.flatMap fun found => kind.valueType.fields found :=
  fields_slots kind value.toList

/-- The variable byte integers in a block are in range and not zero. -/
def InRange (block : PropertyBlock) : Prop :=
  ∀ property ∈ block, property.kind.valueType.InRange property.value

@[simp] theorem inRange_append {first second : PropertyBlock} :
    InRange (first ++ second) ↔ first.InRange ∧ second.InRange :=
  List.forall_mem_append

@[simp] theorem inRange_slots {kind : PropertyKind} {values : List kind.Value} :
    (slots kind values).InRange ↔ ∀ value ∈ values, kind.valueType.InRange value :=
  List.forall_mem_map

@[simp] theorem inRange_slot {kind : PropertyKind} {value : Option kind.Value} :
    (slot kind value).InRange ↔ ∀ found ∈ value, kind.valueType.InRange found := by
  simp only [slot, inRange_slots, Option.mem_toList, Option.mem_def]

/-- The properties of a block are within their limits when its texts and data fit and its
numbers are in range. -/
theorem withinLimits_iff :
    (∀ property ∈ block, property.WithinLimits) ↔ FieldsFit block.fields ∧ block.InRange := by
  simp only [Property.WithinLimits, ValueType.withinLimits_iff, imp_and, forall_and, FieldsFit,
    fields, List.forall_mem_flatMap, InRange]

/-- The texts and data of a block that is written fit. -/
theorem fieldsFit_of_encode (wrote : block.encode = .ok written) : FieldsFit block.fields :=
  (withinLimits_iff.mp (succeeds_encode.mp ⟨written, wrote⟩).1).1

end PropertyBlock

/-! ## Segments -/

/-- A segment of the body of a packet. -/
inductive Segment where
  /-- Bytes as they are. -/
  | bytes (content : Bytes)
  /-- A text after its length. -/
  | text (content : String)
  /-- Bytes after their number. -/
  | binary (content : Bytes)
  /-- Properties after their total length. -/
  | block (properties : PropertyBlock)

namespace Segment

variable {segment : Segment} {part : Bytes}

/-- The bytes of a segment. -/
def encode : Segment → Except PacketError Bytes
  | bytes content => return content
  | text content => Field.ofText content
  | binary content => Field.ofBinary content
  | block properties => properties.encode

/-- The number of bytes of a segment. -/
def size : Segment → Nat
  | bytes content => content.length
  | text content => 2 + content.utf8ByteSize
  | binary content => 2 + content.length
  | block properties => VarInt.size properties.encodedLength + properties.encodedLength

/-- The texts and the binary data in a segment. -/
def fields : Segment → List Bytes
  | bytes _ => []
  | text content => [Bytes.ofText content]
  | binary content => [content]
  | block properties => properties.fields

/-- The variable byte integers in a segment are in range and not zero. -/
@[simp] def InRange : Segment → Prop
  | bytes _ => True
  | text _ => True
  | binary _ => True
  | block properties => properties.InRange

/-- A segment is written in as many bytes as its size. -/
theorem length_encode (wrote : segment.encode = .ok part) : part.length = segment.size := by
  cases segment with
  | bytes content =>
      cases wrote
      rfl
  | text content => exact Field.length_ofText wrote
  | binary content => exact Field.length_ofBinary wrote
  | block properties => exact PropertyBlock.length_encode wrote

/-- The texts and data of a segment that is written fit. -/
theorem fieldsFit_of_encode (wrote : segment.encode = .ok part) : FieldsFit segment.fields := by
  cases segment with
  | bytes content => exact fieldsFit_nil
  | text content => exact fieldsFit_cons.mpr ⟨Field.succeeds_ofText.mp ⟨part, wrote⟩, fieldsFit_nil⟩
  | binary content =>
      exact fieldsFit_cons.mpr ⟨Field.succeeds_ofBinary.mp ⟨part, wrote⟩, fieldsFit_nil⟩
  | block properties => exact PropertyBlock.fieldsFit_of_encode wrote

/-- A segment whose fields fit is written if it is not too long. -/
theorem succeeds_encode (inRange : segment.InRange) (fieldsFit : FieldsFit segment.fields)
    (fits : segment.size ≤ maximumVarInt) : Except.Succeeds segment.encode := by
  cases segment with
  | bytes content => exact ⟨content, rfl⟩
  | text content => exact Field.succeeds_ofText.mpr (fieldsFit_cons.mp fieldsFit).1
  | binary content => exact Field.succeeds_ofBinary.mpr (fieldsFit_cons.mp fieldsFit).1
  | block properties =>
      apply PropertyBlock.succeeds_encode.mpr
      refine ⟨PropertyBlock.withinLimits_iff.mpr ⟨fieldsFit, inRange⟩, ?_⟩
      exact Nat.le_trans (Nat.le_add_left _ _) fits

end Segment

/-! ## Layouts -/

/-- The segments of a body, one after the other. -/
abbrev Layout := List Segment

namespace Layout

variable {segment : Segment} {layout first second : Layout} {body : Bytes}

/-- The bytes of a row of segments. -/
def encode : Layout → Except PacketError Bytes
  | [] => return []
  | segment :: others => do
      let part ← segment.encode
      let body ← encode others
      return part ++ body

/-- The number of bytes of a row of segments. -/
def size (layout : Layout) : Nat :=
  (layout.map Segment.size).sum

/-- The texts and the binary data in a row of segments. -/
def fields (layout : Layout) : List Bytes :=
  layout.flatMap Segment.fields

/-- The variable byte integers in a row of segments are in range and not zero. -/
def InRange (layout : Layout) : Prop :=
  ∀ segment ∈ layout, segment.InRange

@[simp] theorem size_nil : size [] = 0 :=
  rfl

@[simp] theorem size_cons : size (segment :: layout) = segment.size + layout.size :=
  rfl

@[simp] theorem size_append : size (first ++ second) = first.size + second.size := by
  simp only [size, List.map_append, List.sum_append]

@[simp] theorem size_map {α : Type} {segment : α → Segment} {values : List α} :
    size (values.map segment) = (values.map fun value => (segment value).size).sum := by
  rw [size, List.map_map]
  rfl

@[simp] theorem size_flatMap {α : Type} {layout : α → Layout} {values : List α} :
    size (values.flatMap layout) = (values.map fun value => (layout value).size).sum := by
  induction values with
  | nil => rfl
  | cons value values ih => rw [List.flatMap_cons, size_append, ih, List.map_cons, List.sum_cons]

@[simp] theorem fields_nil : fields [] = [] :=
  rfl

@[simp] theorem fields_cons : fields (segment :: layout) = segment.fields ++ layout.fields :=
  rfl

@[simp] theorem fields_append : fields (first ++ second) = first.fields ++ second.fields :=
  List.flatMap_append

@[simp] theorem fields_map {α : Type} {segment : α → Segment} {values : List α} :
    fields (values.map segment) = values.flatMap fun value => (segment value).fields :=
  List.flatMap_map ..

@[simp] theorem fields_flatMap {α : Type} {layout : α → Layout} {values : List α} :
    fields (values.flatMap layout) = values.flatMap fun value => (layout value).fields :=
  List.flatMap_assoc

@[simp] theorem inRange_nil : InRange [] :=
  fun _ member => (List.not_mem_nil member).elim

@[simp] theorem inRange_cons : InRange (segment :: layout) ↔ segment.InRange ∧ layout.InRange :=
  List.forall_mem_cons

@[simp] theorem inRange_append : InRange (first ++ second) ↔ first.InRange ∧ second.InRange :=
  List.forall_mem_append

@[simp] theorem inRange_map {α : Type} {segment : α → Segment} {values : List α} :
    InRange (values.map segment) ↔ ∀ value ∈ values, (segment value).InRange :=
  List.forall_mem_map

@[simp] theorem inRange_flatMap {α : Type} {layout : α → Layout} {values : List α} :
    InRange (values.flatMap layout) ↔ ∀ value ∈ values, (layout value).InRange :=
  List.forall_mem_flatMap

/-- A row of segments is written from the front. -/
theorem encode_cons_eq_ok_iff :
    encode (segment :: layout) = .ok body ↔
      ∃ part, segment.encode = .ok part ∧ ∃ others, encode layout = .ok others ∧
        part ++ others = body := by
  simp only [encode, Except.bind_eq_ok_iff, Except.pure_eq_ok_iff]

/-- Two rows of segments are written one after the other. -/
theorem encode_append (first second : Layout) :
    encode (first ++ second) = do
      let front ← encode first
      let others ← encode second
      return front ++ others := by
  induction first with
  | nil => simp only [List.nil_append, encode, pure_bind, bind_pure]
  | cons segment first ih =>
      simp only [List.cons_append, encode, ih, bind_assoc, pure_bind, List.append_assoc]

/-- A row of segments is written in as many bytes as its size. -/
theorem length_encode (wrote : layout.encode = .ok body) : body.length = layout.size := by
  induction layout generalizing body with
  | nil =>
      cases wrote
      rfl
  | cons segment layout ih =>
      obtain ⟨part, wrotePart, others, wroteOthers, rfl⟩ := encode_cons_eq_ok_iff.mp wrote
      rw [List.length_append, Segment.length_encode wrotePart, ih wroteOthers]
      rfl

/-- The texts and data of a row of segments that is written fit. -/
theorem fieldsFit_of_encode (wrote : layout.encode = .ok body) : FieldsFit layout.fields := by
  induction layout generalizing body with
  | nil => exact fieldsFit_nil
  | cons segment layout ih =>
      obtain ⟨part, wrotePart, others, wroteOthers, -⟩ := encode_cons_eq_ok_iff.mp wrote
      exact fieldsFit_append.mpr ⟨Segment.fieldsFit_of_encode wrotePart, ih wroteOthers⟩

/-- A row of segments whose fields fit is written if it is not too long. -/
theorem succeeds_encode (inRange : layout.InRange) (fieldsFit : FieldsFit layout.fields)
    (fits : layout.size ≤ maximumVarInt) : Except.Succeeds layout.encode := by
  induction layout with
  | nil => exact ⟨[], rfl⟩
  | cons segment layout ih =>
      obtain ⟨segmentInRange, othersInRange⟩ := List.forall_mem_cons.mp inRange
      obtain ⟨segmentFieldsFit, othersFieldsFit⟩ := fieldsFit_append.mp fieldsFit
      rw [size_cons] at fits
      obtain ⟨part, wrotePart⟩ :=
        Segment.succeeds_encode segmentInRange segmentFieldsFit (by omega)
      obtain ⟨others, wroteOthers⟩ := ih othersInRange othersFieldsFit (by omega)
      exact ⟨part ++ others,
        encode_cons_eq_ok_iff.mpr ⟨part, wrotePart, others, wroteOthers, rfl⟩⟩

/-- A layout is written as a body of a packet exactly when its fields fit and it is not
too long. -/
theorem encode_fits_iff (inRange : layout.InRange) :
    (∃ body, layout.encode = .ok body ∧ body.length ≤ maximumVarInt) ↔
      FieldsFit layout.fields ∧ layout.size ≤ maximumVarInt := by
  constructor
  · rintro ⟨body, wrote, fits⟩
    exact ⟨fieldsFit_of_encode wrote, length_encode wrote ▸ fits⟩
  · rintro ⟨fieldsFit, fits⟩
    obtain ⟨body, wrote⟩ := succeeds_encode inRange fieldsFit fits
    exact ⟨body, wrote, (length_encode wrote).symm ▸ fits⟩

end Layout

end Mqtt
