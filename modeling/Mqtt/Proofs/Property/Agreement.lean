import Mqtt.Proofs.Property.Block

/-! # Blocks that hold the same values

Two blocks agree when they hold the same values of every kind, each kind in the
same order. Blocks that agree are rearrangements of one another
(`Mqtt.PropertyBlock.Agrees.perm`). What a packet looks up in a block depends
only on these values, so the typed properties of a packet are those of a block
exactly when the block agrees with them as they are written
(`Mqtt.PropertyBlock.Represents`).
-/

namespace Mqtt

namespace PropertyBlock

variable {block first second other : PropertyBlock} {kind : PropertyKind}

/-- Two blocks hold the same values of every kind, in the same order. -/
def Agrees (first second : PropertyBlock) : Prop :=
  ∀ kind, first.values kind = second.values kind

theorem Agrees.refl (block : PropertyBlock) : block.Agrees block :=
  fun _ => rfl

/-! ## Values of a kind -/

@[simp] theorem values_nil : values [] kind = [] :=
  rfl

@[simp] theorem values_cons_self (value : kind.Value) (block : PropertyBlock) :
    values (⟨kind, value⟩ :: block) kind = value :: block.values kind := by
  simp only [values, List.filterMap_cons, Property.valueOf?_mk]

@[simp] theorem values_cons_of_ne {property : Property} (unlike : property.kind ≠ kind)
    (block : PropertyBlock) : values (property :: block) kind = block.values kind := by
  simp only [values, List.filterMap_cons, Property.valueOf?_of_ne unlike]

@[simp] theorem values_append (first second : PropertyBlock) :
    values (first ++ second) kind = first.values kind ++ second.values kind :=
  List.filterMap_append

@[simp] theorem values_slots (found : List kind.Value) :
    (slots kind found).values kind = found := by
  induction found with
  | nil => rfl
  | cons value others ih =>
      change values (⟨kind, value⟩ :: slots kind others) kind = _
      rw [values_cons_self, ih]

@[simp] theorem values_slots_of_ne {otherKind : PropertyKind} (unlike : otherKind ≠ kind)
    (found : List otherKind.Value) : (slots otherKind found).values kind = [] := by
  induction found with
  | nil => rfl
  | cons value others ih =>
      change values (⟨otherKind, value⟩ :: slots otherKind others) kind = _
      rw [values_cons_of_ne unlike, ih]

@[simp] theorem values_slot (found : Option kind.Value) :
    (slot kind found).values kind = found.toList :=
  values_slots _

@[simp] theorem values_slot_of_ne {otherKind : PropertyKind} (unlike : otherKind ≠ kind)
    (found : Option otherKind.Value) : (slot otherKind found).values kind = [] :=
  values_slots_of_ne unlike _

theorem values_eq_nil (absent : ∀ property ∈ block, property.kind ≠ kind) :
    block.values kind = [] := by
  induction block with
  | nil => rfl
  | cons property block ih =>
      rw [values_cons_of_ne (absent property List.mem_cons_self)]
      exact ih fun property member => absent property (List.mem_cons_of_mem _ member)

/-- The values of a kind are those of its properties in the block. -/
theorem mem_values_iff {value : kind.Value} :
    value ∈ block.values kind ↔ (⟨kind, value⟩ : Property) ∈ block := by
  simp only [values, List.mem_filterMap, Property.valueOf?_eq_some_iff, exists_eq_right]

theorem values_ne_nil {property : Property} (member : property ∈ block) :
    block.values property.kind ≠ [] :=
  List.ne_nil_of_mem (mem_values_iff.mpr member)

/-! ## Kinds in a block -/

/-- Every property of a block is of one of the given kinds. -/
def OfKinds (block : PropertyBlock) (kinds : List PropertyKind) : Prop :=
  ∀ property ∈ block, property.kind ∈ kinds

@[simp] theorem ofKinds_append {kinds : List PropertyKind} :
    OfKinds (first ++ second) kinds ↔ first.OfKinds kinds ∧ second.OfKinds kinds := by
  simp only [OfKinds, List.mem_append, or_imp, forall_and]

@[simp] theorem ofKinds_slots {kinds : List PropertyKind} (member : kind ∈ kinds)
    (found : List kind.Value) : (slots kind found).OfKinds kinds := by
  intro property inside
  obtain ⟨value, -, rfl⟩ := List.mem_map.mp inside
  exact member

@[simp] theorem ofKinds_slot {kinds : List PropertyKind} (member : kind ∈ kinds)
    (found : Option kind.Value) : (slot kind found).OfKinds kinds :=
  ofKinds_slots member _

/-- The check of the kinds passes exactly the blocks that hold no other kind. -/
theorem checkKinds_eq_ok_iff {packetType : PacketType} {kinds : List PropertyKind} {result : Unit} :
    block.checkKinds packetType kinds = .ok result ↔ block.OfKinds kinds := by
  unfold checkKinds
  cases foreign : block.find? fun property => !kinds.contains property.kind with
  | some property =>
      have unlike := List.find?_some foreign
      have member := List.mem_of_find?_eq_some foreign
      simp only [Bool.not_eq_eq_eq_not, Bool.not_true, List.contains_eq_mem,
        decide_eq_false_iff_not] at unlike
      simp only [reduceCtorEq, false_iff]
      intro own
      exact unlike (own property member)
  | none =>
      simp only [List.find?_eq_none, Bool.not_eq_eq_eq_not, Bool.not_true, List.contains_eq_mem,
        Bool.not_eq_false, decide_eq_true_eq] at foreign
      simp only [true_iff]
      exact foreign

/-! ## Agreement -/

/-- A property occurs as often as its value among the values of its kind. -/
theorem count_eq (block : PropertyBlock) (kind : PropertyKind) (value : kind.Value) :
    block.count ⟨kind, value⟩ = (block.values kind).count value := by
  induction block with
  | nil => rfl
  | cons property block ih =>
      obtain ⟨ownKind, ownValue⟩ := property
      rw [List.count_cons, ih]
      by_cases same : ownKind = kind
      · subst same
        rw [values_cons_self, List.count_cons]
        by_cases equal : ownValue = value
        · simp [equal]
        · simp [equal]
      · rw [values_cons_of_ne same]
        have unlike : (⟨ownKind, ownValue⟩ : Property) ≠ ⟨kind, value⟩ :=
          fun equal => same (congrArg Property.kind equal)
        simp [unlike]

/-- Blocks that agree are rearrangements of one another. -/
theorem Agrees.perm (agrees : first.Agrees second) : first.Perm second := by
  apply List.perm_iff_count.mpr
  intro property
  rw [count_eq, count_eq, agrees property.kind]

/-- Agreement with a block whose kinds are known is agreement on those kinds and
the absence of others. -/
theorem agrees_iff {kinds : List PropertyKind} (own : second.OfKinds kinds) :
    first.Agrees second ↔
      first.OfKinds kinds ∧ ∀ kind ∈ kinds, first.values kind = second.values kind := by
  constructor
  · intro agrees
    refine ⟨?_, fun kind _ => agrees kind⟩
    intro property member
    by_contra foreign
    have absent : second.values property.kind = [] := values_eq_nil fun found found_member same =>
      foreign (same ▸ own found found_member)
    exact values_ne_nil member (absent ▸ agrees property.kind)
  · intro found kind
    obtain ⟨allowed, same⟩ := found
    by_cases member : kind ∈ kinds
    · exact same kind member
    · have absentFirst : ∀ property ∈ first, property.kind ≠ kind := fun property found equal =>
        member (equal ▸ allowed property found)
      have absentSecond : ∀ property ∈ second, property.kind ≠ kind := fun property found equal =>
        member (equal ▸ own property found)
      rw [values_eq_nil absentFirst, values_eq_nil absentSecond]

/-! ## Looking up -/

/-- What may occur at most once is found if it is the whole list. -/
theorem atMostOne_eq_ok_iff {α : Type} {identifier : UInt8} {values : List α} {found : Option α} :
    atMostOne identifier values = .ok found ↔ values = found.toList := by
  unfold atMostOne
  split
  · cases found <;> simp
  · cases found <;> simp [eq_comm]
  · cases found <;> simp

/-- A look-up of an optional value succeeds where the kind has just this value, or none. -/
theorem value?_eq_ok_iff {found : Option kind.Value} :
    block.value? kind = .ok found ↔ block.values kind = found.toList :=
  atMostOne_eq_ok_iff

/-- A look-up of a required value succeeds where the kind has just this value. -/
theorem value_eq_ok_iff {found : kind.Value} :
    block.value kind = .ok found ↔ block.values kind = [found] := by
  simp only [value, Except.bind_eq_ok_iff, value?_eq_ok_iff]
  constructor
  · intro read
    obtain ⟨value, values, read⟩ := read
    cases value with
    | none => cases read
    | some value =>
        rw [Except.pure_eq_ok_iff] at read
        rw [values, read]
        rfl
  · intro values
    exact ⟨some found, values, rfl⟩

/-- A value with a meaning is found when the block holds what is written for the
meaning. -/
theorem valueAs?_eq_ok_iff {α : Type} (kind : PropertyKind) {meaning : kind.Value → Except Fault α}
    (back : α → kind.Value) (allowed : α → Prop)
    (inverse : ∀ value result, meaning value = .ok result ↔ allowed result ∧ value = back result)
    {found : Option α} :
    block.valueAs? kind meaning = .ok found ↔
      (∀ result ∈ found, allowed result) ∧ block.values kind = (found.map back).toList := by
  simp only [valueAs?, Except.bind_eq_ok_iff, value?_eq_ok_iff]
  constructor
  · intro read
    obtain ⟨value, values, read⟩ := read
    cases value with
    | none =>
        cases read
        exact ⟨fun _ absent => (Option.not_mem_none _ absent).elim, values⟩
    | some value =>
        simp only [Option.mapM_some, map_eq_pure_bind, Except.bind_eq_ok_iff, Except.pure_eq_ok_iff]
          at read
        obtain ⟨result, read, rfl⟩ := read
        obtain ⟨fits, rfl⟩ := (inverse value result).mp read
        exact ⟨fun _ same => Option.some.inj same ▸ fits, values⟩
  · intro read
    obtain ⟨fits, values⟩ := read
    refine ⟨found.map back, values, ?_⟩
    cases found with
    | none => rfl
    | some result =>
        have read := (inverse (back result) result).mpr ⟨fits result rfl, rfl⟩
        simp only [Option.map_some, Option.mapM_some, read]
        rfl

/-- A flag is read from its own byte only. -/
theorem flagOfByte_eq_ok_iff {byte : UInt8} {flag : Bool} :
    flagOfByte kind byte = .ok flag ↔ byte = flag.toUInt8 := by
  unfold flagOfByte
  by_cases zero : byte = 0
  · cases flag <;> simp [zero, Bool.toUInt8]
  · by_cases one : byte = 1
    · cases flag <;> simp [one, Bool.toUInt8]
    · cases flag <;> simp [zero, one, Bool.toUInt8]

/-- A look-up of an optional flag succeeds where the kind has just the byte of the flag,
or none. -/
theorem flag?_eq_ok_iff (kind : PropertyKind) (toByte : kind.Value → UInt8)
    (back : UInt8 → kind.Value)
    (inverse : ∀ value byte, toByte value = byte ↔ value = back byte) {found : Option Bool} :
    block.flag? kind toByte = .ok found ↔
      block.values kind = (found.map fun flag => back flag.toUInt8).toList := by
  rw [flag?, valueAs?_eq_ok_iff kind (fun flag => back flag.toUInt8) fun _ => True]
  · simp
  · intro value flag
    rw [flagOfByte_eq_ok_iff, inverse, true_and]

/-! ## Typed properties -/

section Represents

variable {α : Type} {toBlock : α → PropertyBlock} {ofBlock : PropertyBlock → Except Fault α}
  {valid : α → Prop} {value : α} {bytes rest written : Bytes}

/-- A block is read as typed properties exactly when they obey a rule and the
block agrees with them as they are written. -/
def Represents (toBlock : α → PropertyBlock) (ofBlock : PropertyBlock → Except Fault α)
    (valid : α → Prop) : Prop :=
  ∀ ⦃block value⦄, ofBlock block = .ok value ↔ valid value ∧ block.Agrees (toBlock value)

/-- Typed properties that are written are read back. -/
theorem Represents.read_encode (represents : Represents toBlock ofBlock valid) (fits : valid value)
    (wrote : (toBlock value).encode = .ok written) (rest : Bytes) :
    read (written ++ rest) = .ok (toBlock value, rest) ∧ ofBlock (toBlock value) = .ok value :=
  ⟨PropertyBlock.read_encode wrote rest, represents.mpr ⟨fits, Agrees.refl _⟩⟩

/-- Typed properties that are read obey their rule and can be written in no more
bytes. -/
theorem Represents.encode_of_read (represents : Represents toBlock ofBlock valid)
    (found : read bytes = .ok (block, rest)) (typed : ofBlock block = .ok value) :
    valid value ∧ ∃ written, (toBlock value).encode = .ok written ∧
      written.length + rest.length ≤ bytes.length := by
  obtain ⟨fits, agrees⟩ := represents.mp typed
  exact ⟨fits, PropertyBlock.encode_of_read found agrees.perm⟩

end Represents

end PropertyBlock

end Mqtt
