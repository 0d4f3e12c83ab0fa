import Mqtt.Proofs.Property.Acceptance
import Mqtt.Proofs.Wire.Alike

/-! # Properties in another order

An owner types two blocks of the same properties as the same values if the properties
of each kind that may be repeated come in the same order in both
(`Mqtt.PropertyOwner.ofBlock_eq_ok_iff_of_perm`). On bytes, a property block is the length of its
parts and the parts, and it may be shuffled: the parts are put in another order, in which
the repeatable ones keep theirs. A shuffled block is read like the block
(`Mqtt.PropertyOwner.Shuffled.alike`).
-/

namespace Mqtt

open PropertyBlock

/-! ## Blocks -/

/-- A list of at most one value has one order. -/
theorem eq_of_perm_of_length_le_one {α : Type} {first second : List α}
    (same : first.Perm second) (short : first.length ≤ 1) : first = second := by
  match first, short with
  | [], _ => exact same.nil_eq
  | [_], _ => exact same.singleton_eq

namespace PropertyOwner

variable {owner : PropertyOwner} {first second : PropertyBlock}

/-- A rearrangement of a block that an owner accepts agrees with the block if the kinds
that may be repeated do. -/
theorem Accepts.agrees (accepts : owner.Accepts first) (same : first.Perm second)
    (order : ∀ kind ∈ owner.repeatable, first.values kind = second.values kind) :
    first.Agrees second := by
  intro kind
  by_cases repeated : kind ∈ owner.repeatable
  · exact order kind repeated
  · exact eq_of_perm_of_length_le_one (same.filterMap _) (accepts.once kind repeated)

/-- Properties in another order are the same where the kinds that may repeat keep theirs. -/
theorem ofBlock_of_perm {properties : owner.Properties} (same : first.Perm second)
    (order : ∀ kind ∈ owner.repeatable, first.values kind = second.values kind)
    (typed : owner.ofBlock first = .ok properties) : owner.ofBlock second = .ok properties := by
  have accepts := (succeeds_ofBlock owner first).mp ⟨properties, typed⟩
  obtain ⟨fits, agrees⟩ := owner.represents.mp typed
  refine owner.represents.mpr ⟨fits, fun kind => ?_⟩
  rw [← agrees kind, accepts.agrees same order kind]

/-- A rearrangement of a block is typed as the block is. -/
theorem ofBlock_eq_ok_iff_of_perm {properties : owner.Properties} (same : first.Perm second)
    (order : ∀ kind ∈ owner.repeatable, first.values kind = second.values kind) :
    owner.ofBlock first = .ok properties ↔ owner.ofBlock second = .ok properties :=
  ⟨ofBlock_of_perm same order,
    ofBlock_of_perm same.symm fun kind repeated => (order kind repeated).symm⟩

end PropertyOwner

/-! ## Parts of a block -/

/-- The property that some bytes are the whole of. -/
def Property.ofPart? (part : Bytes) : Option Property :=
  match read part with
  | .ok (property, []) => some property
  | _ => none

/-- A part is a property if one can be read from it and nothing is left. -/
theorem Property.ofPart?_eq_some_iff {part : Bytes} {property : Property} :
    ofPart? part = some property ↔ read part = .ok (property, []) := by
  unfold ofPart?
  split
  · next own found => simp [found]
  · next other =>
      simp only [reduceCtorEq, false_iff]
      exact other property

/-- Nothing is delimited by no bytes, as all depends on what follows. -/
theorem Property.ne_nil_of_delimits {part : Bytes} (delimits : read.Delimits part) :
    part ≠ [] := by
  rintro rfl
  obtain ⟨outcome, taken⟩ := delimits
  have missing : .error .propertyIdentifierMissing = outcome.map (·, ([] : Bytes)) := taken []
  have found : .ok (⟨.payloadFormatIndicator, (0 : UInt8)⟩, []) =
      outcome.map (·, ([1, 0] : Bytes)) := taken [1, 0]
  cases outcome with
  | error fault => cases found
  | ok property => cases missing

/-- Bytes that the reader of properties takes are read as a property, or not at all,
whatever follows. -/
theorem Property.read_append_of_delimits {part : Bytes} (delimits : read.Delimits part) :
    (∃ property, ofPart? part = some property ∧
        ∀ rest, read (part ++ rest) = .ok (property, rest)) ∨
      ∃ fault, ofPart? part = none ∧ ∀ rest, read (part ++ rest) = .error fault := by
  obtain ⟨outcome, taken⟩ := delimits
  have alone := taken []
  rw [List.append_nil] at alone
  cases outcome with
  | ok property =>
      exact .inl ⟨property, ofPart?_eq_some_iff.mpr alone, taken⟩
  | error fault =>
      refine .inr ⟨fault, ?_, taken⟩
      simp only [ofPart?, alone, Except.map]

namespace PropertyBlock

variable {parts : List Bytes} {block : PropertyBlock}

/-- Parts are read as a block when each of them is a property. -/
theorem items_flatten_eq_ok_iff (delimits : ∀ part ∈ parts, Property.read.Delimits part) :
    Reader.items Property.read parts.flatten = .ok (block, []) ↔
      (∀ part ∈ parts, Property.ofPart? part ≠ none) ∧
        parts.filterMap Property.ofPart? = block := by
  induction parts generalizing block with
  | nil => simp [Reader.items_nil]
  | cons part parts ih =>
      obtain ⟨first, others⟩ := List.forall_mem_cons.mp delimits
      rw [List.flatten_cons, List.forall_mem_cons]
      rcases Property.read_append_of_delimits first with
        ⟨property, whole, taken⟩ | ⟨fault, none, taken⟩
      · rw [Reader.items_of_ok Property.read_consumes (taken _), List.filterMap_cons_some whole]
        simp only [Except.map_eq_ok_iff, Prod.exists, Prod.mk.injEq, whole, ne_eq, reduceCtorEq,
          not_false_eq_true, true_and]
        constructor
        · rintro ⟨block, left, found, rfl, rfl⟩
          obtain ⟨all, rfl⟩ := (ih others).mp found
          exact ⟨all, rfl⟩
        · rintro ⟨all, rfl⟩
          exact ⟨_, [], (ih others).mpr ⟨all, rfl⟩, rfl, rfl⟩
      · have some : part ++ parts.flatten ≠ [] :=
          List.append_ne_nil_of_left_ne_nil (Property.ne_nil_of_delimits first) _
        rw [Reader.items_of_error some (taken _)]
        simp [none]

end PropertyBlock

namespace PropertyOwner

/-- A property block, typed. -/
def read (owner : PropertyOwner) : Reader owner.Properties := do
  Reader.ofExcept (owner.ofBlock (← PropertyBlock.read))

/-- A property block and the same parts in another order. The values of each kind that
may be repeated are in the same order in both. -/
inductive Shuffled (owner : PropertyOwner) : Bytes → Bytes → Prop where
  | parts {digits : Bytes} {first second : List Bytes}
      (length : VarInt.Spells digits first.flatten.length)
      (delimits : ∀ part ∈ first, Property.read.Delimits part)
      (same : first.Perm second)
      (order : ∀ kind ∈ owner.repeatable,
        values (first.filterMap Property.ofPart?) kind =
          values (second.filterMap Property.ofPart?) kind) :
      Shuffled owner (digits ++ first.flatten) (digits ++ second.flatten)

variable {owner : PropertyOwner} {first second digits rest left : Bytes}

/-- Parts that each end on their own are read as the properties they are. -/
theorem read_parts_eq_ok_iff {parts : List Bytes} {properties : owner.Properties}
    (length : VarInt.Spells digits parts.flatten.length)
    (delimits : ∀ part ∈ parts, Property.read.Delimits part) :
    owner.read (digits ++ parts.flatten ++ rest) = .ok (properties, left) ↔
      (∀ part ∈ parts, Property.ofPart? part ≠ none) ∧
        owner.ofBlock (parts.filterMap Property.ofPart?) = .ok properties ∧ rest = left := by
  simp only [read, Reader.bind_eq_ok_iff, Reader.ofExcept_eq_ok_iff,
    read_append_eq_ok_iff length, items_flatten_eq_ok_iff delimits]
  constructor
  · rintro ⟨block, _, ⟨⟨whole, rfl⟩, rfl⟩, typed, rfl⟩
    exact ⟨whole, typed, rfl⟩
  · rintro ⟨whole, typed, rfl⟩
    exact ⟨_, rest, ⟨⟨whole, rfl⟩, rfl⟩, typed, rfl⟩

/-- Neither side of a shuffled block is empty: its length is in front. -/
theorem Shuffled.ne_nil (shuffled : owner.Shuffled first second) : first ≠ [] ∧ second ≠ [] := by
  obtain ⟨length, -, -, -⟩ := shuffled
  have some := List.ne_nil_of_length_pos length.length_pos
  exact ⟨List.append_ne_nil_of_left_ne_nil some _, List.append_ne_nil_of_left_ne_nil some _⟩

/-- A shuffled block is read like the block. -/
theorem Shuffled.alike (shuffled : owner.Shuffled first second) (rest : Bytes) :
    owner.read.Alike (first ++ rest) (second ++ rest) := by
  obtain ⟨length, delimits, same, order⟩ := shuffled
  rintro ⟨properties, left⟩
  rw [read_parts_eq_ok_iff length delimits,
    read_parts_eq_ok_iff (same.flatten.length_eq ▸ length) fun part member =>
      delimits part (same.mem_iff.mpr member),
    ofBlock_eq_ok_iff_of_perm (same.filterMap _) order]
  simp only [same.mem_iff]

end PropertyOwner

end Mqtt
