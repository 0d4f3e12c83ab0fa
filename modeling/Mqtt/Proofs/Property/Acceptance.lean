import Mqtt.Proofs.Property.Layout
import Mqtt.Proofs.Property.Lookup

/-! # The blocks that are accepted

A block is accepted by the part of a packet it belongs to exactly when all of its
properties are of the kinds that the part may have, only those that may be repeated are
repeated, every byte among the values is 0 or 1, and the rules of the part hold. Any
other block is malformed, and whatever the block, no accessor finds a value of another
type than it takes (`Mqtt.PropertyOwner.lookUp_accepts`).
-/

namespace Mqtt

/-- The value of a property if it is one byte, which is so for flags and for the highest
quality of service of a server. -/
def Property.byte? (property : Property) : Option UInt8 :=
  Accessor.byte.take property.kind.valueType property.value

namespace PropertyBlock

variable {block : PropertyBlock} {kind : PropertyKind}

/-- A kind that may not be repeated occurs at most once, and bytes are 0 or 1. -/
def Legible (block : PropertyBlock) (repeatable : List PropertyKind) (kind : PropertyKind) :
    Prop :=
  (kind ∉ repeatable → (block.values kind).length ≤ 1) ∧
    ∀ value ∈ block.values kind, ∀ byte ∈ Property.byte? ⟨kind, value⟩, byte = 0 ∨ byte = 1

/-- All properties are of the given kinds, and each of these kinds is legible. -/
def Readable (block : PropertyBlock) (kinds repeatable : List PropertyKind) : Prop :=
  block.OfKinds kinds ∧ ∀ kind ∈ kinds, block.Legible repeatable kind

@[simp] theorem succeeds_checkKinds {packetType : PacketType} {kinds : List PropertyKind} :
    Except.Succeeds (block.checkKinds packetType kinds) ↔ block.OfKinds kinds := by
  simp only [Except.Succeeds, checkKinds_eq_ok_iff, exists_const]

@[simp] theorem succeeds_atMostOne {α : Type} {identifier : UInt8} {values : List α} :
    Except.Succeeds (atMostOne identifier values) ↔ values.length ≤ 1 := by
  match values with
  | [] => simp [atMostOne]
  | [_] => simp [atMostOne]
  | _ :: _ :: _ => simp [atMostOne]

/-- A value that stands for something is found where its kind occurs at most once and
the value has a meaning. -/
@[simp] theorem succeeds_valueAs? {α : Type} {meaning : kind.Value → Except Fault α} :
    Except.Succeeds (block.valueAs? kind meaning) ↔
      (block.values kind).length ≤ 1 ∧
        ∀ value ∈ block.values kind, Except.Succeeds (meaning value) := by
  rw [valueAs?, Except.succeeds_bind]
  constructor
  · rintro ⟨found, values, read⟩
    rw [value?_eq_ok_iff] at values
    rw [values]
    cases found with
    | none => simp
    | some value => simpa using read
  · rintro ⟨once, meant⟩
    obtain ⟨found, values⟩ := succeeds_atMostOne.mpr once
    refine ⟨found, values, ?_⟩
    cases found with
    | none => simp
    | some value => simpa [value?_eq_ok_iff.mp values] using meant

@[simp] theorem succeeds_flagOfByte {byte : UInt8} :
    Except.Succeeds (flagOfByte kind byte) ↔ byte = 0 ∨ byte = 1 := by
  simp only [Except.Succeeds, flagOfByte_eq_ok_iff, Bool.exists_bool, Bool.toUInt8]
  exact Iff.rfl

end PropertyBlock

open PropertyBlock

variable {block : PropertyBlock}

/-! ## What each owner can read -/

/-- A will message takes every block that is readable, and repeats only user properties. -/
theorem WillProperties.succeeds_ofBlock :
    Except.Succeeds (ofBlock block) ↔ block.Readable kinds [.userProperty] := by
  simp [Readable, ofBlock, kinds, value?, flag?, Legible, Property.byte?, Accessor.byte]

/-- A PUBLISH packet takes every block that is readable, and repeats subscription
identifiers too. -/
theorem PublishProperties.succeeds_ofBlock :
    Except.Succeeds (ofBlock block) ↔
      block.Readable kinds [.userProperty, .subscriptionIdentifier] := by
  simp [Readable, ofBlock, kinds, value?, flag?, Legible, Property.byte?, Accessor.byte]

theorem AckProperties.succeeds_ofBlock {packetType : PacketType} :
    Except.Succeeds (ofBlock packetType block) ↔ block.Readable kinds [.userProperty] := by
  simp [Readable, ofBlock, kinds, value?, Legible, Property.byte?, Accessor.byte]

/-- A SUBSCRIBE packet takes every block that is readable, with one subscription
identifier at most. -/
theorem SubscribeProperties.succeeds_ofBlock :
    Except.Succeeds (ofBlock block) ↔ block.Readable kinds [.userProperty] := by
  simp [Readable, ofBlock, kinds, value?, Legible, Property.byte?, Accessor.byte]

/-- An UNSUBSCRIBE packet takes every block of user properties. -/
theorem Unsubscribe.succeeds_propertiesOfBlock :
    Except.Succeeds (propertiesOfBlock block) ↔ block.Readable kinds [.userProperty] := by
  simp [Readable, propertiesOfBlock, kinds, Legible, Property.byte?, Accessor.byte]

theorem DisconnectProperties.succeeds_ofBlock :
    Except.Succeeds (ofBlock block) ↔ block.Readable kinds [.userProperty] := by
  simp [Readable, ofBlock, kinds, value?, Legible, Property.byte?, Accessor.byte]

namespace ConnAckProperties

@[simp] theorem succeeds_maximumQoSOfByte {byte : UInt8} :
    Except.Succeeds (maximumQoSOfByte byte) ↔ byte = 0 ∨ byte = 1 := by
  unfold maximumQoSOfByte
  by_cases zero : byte = 0
  · simp [zero]
  · by_cases one : byte = 1 <;> simp [zero, one]

/-- A CONNACK packet takes every block that is readable. -/
theorem succeeds_ofBlock :
    Except.Succeeds (ofBlock block) ↔ block.Readable kinds [.userProperty] := by
  -- The highest quality of service is looked up before all the others.
  have looked : Except.Succeeds (ofBlock block) ↔
      block.OfKinds kinds ∧
        ∀ kind ∈ .maximumQoS :: kinds.erase .maximumQoS, block.Legible [.userProperty] kind := by
    simp [ofBlock, kinds, value?, flag?, Legible, Property.byte?, Accessor.byte]
  have moved : kinds.Perm (.maximumQoS :: kinds.erase .maximumQoS) :=
    List.perm_cons_erase (by simp [kinds])
  simp only [looked, moved.mem_iff, Readable]

end ConnAckProperties

namespace AuthProperties

/-- The authentication method is found where it occurs exactly once. -/
theorem succeeds_method :
    Except.Succeeds (block.value .authenticationMethod) ↔
      (block.values .authenticationMethod).length = 1 :=
  (exists_congr fun _ => value_eq_ok_iff).trans List.length_eq_one_iff.symm

/-- The method must occur exactly once, which is more than at most once. -/
theorem succeeds_ofBlock :
    Except.Succeeds (ofBlock block) ↔
      block.Readable kinds [.userProperty] ∧
        (block.values .authenticationMethod).length = 1 := by
  have steps : Except.Succeeds (ofBlock block) ↔ _ :=
    Except.succeeds_bind_of fun _ _ =>
    Except.succeeds_bind_of fun _ _ =>
    Except.succeeds_bind_of fun _ _ => Except.succeeds_bind_pure
  have legible : (∀ kind ∈ kinds, block.Legible [.userProperty] kind) ↔
      (block.values .authenticationMethod).length ≤ 1 ∧
        (block.values .authenticationData).length ≤ 1 ∧
        (block.values .reasonString).length ≤ 1 := by
    simp [kinds, Legible, Property.byte?, Accessor.byte]
  rw [steps, Readable, legible, succeeds_method]
  simp only [succeeds_checkKinds, value?, succeeds_atMostOne]
  constructor
  · rintro ⟨own, method, others⟩
    exact ⟨⟨own, method.le, others⟩, method⟩
  · rintro ⟨⟨own, -, others⟩, method⟩
    exact ⟨own, method, others⟩

end AuthProperties

namespace ConnectProperties

/-- The rules of the values that were found are rules on the block. -/
theorem succeeds_check {properties : ConnectProperties}
    (receive : block.value? .receiveMaximum = .ok properties.receiveMaximum)
    (size : block.value? .maximumPacketSize = .ok properties.maximumPacketSize)
    (method : block.value? .authenticationMethod = .ok properties.authenticationMethod)
    (data : block.value? .authenticationData = .ok properties.authenticationData) :
    Except.Succeeds properties.check ↔
      (0 : UInt16) ∉ block.values .receiveMaximum ∧
        (0 : UInt32) ∉ block.values .maximumPacketSize ∧
        (block.values .authenticationData ≠ [] → block.values .authenticationMethod ≠ []) := by
  rw [value?_eq_ok_iff.mp receive, value?_eq_ok_iff.mp size, value?_eq_ok_iff.mp method,
    value?_eq_ok_iff.mp data]
  simp [check, Option.isSome_iff_ne_none]

/-- A CONNECT packet takes the readable blocks that obey its three rules. -/
theorem succeeds_ofBlock :
    Except.Succeeds (ofBlock block) ↔
      block.Readable kinds [.userProperty] ∧
        (0 : UInt16) ∉ block.values .receiveMaximum ∧
        (0 : UInt32) ∉ block.values .maximumPacketSize ∧
        (block.values .authenticationData ≠ [] → block.values .authenticationMethod ≠ []) := by
  -- The values that the rules are about are named; the others only have to be found.
  have steps : Except.Succeeds (ofBlock block) ↔ _ :=
    Except.succeeds_bind_of fun _ _ =>
    Except.succeeds_bind_of fun _ _ =>
    Except.succeeds_bind_of fun _ receive =>
    Except.succeeds_bind_of fun _ size =>
    Except.succeeds_bind_of fun _ _ =>
    Except.succeeds_bind_of fun _ _ =>
    Except.succeeds_bind_of fun _ _ =>
    Except.succeeds_bind_of fun _ method =>
    Except.succeeds_bind_of fun _ data =>
    Except.succeeds_bind_pure.trans (succeeds_check receive size method data)
  rw [steps]
  simp [Readable, kinds, value?, flag?, Legible, Property.byte?, Accessor.byte, and_assoc]

end ConnectProperties

namespace PropertyOwner

/-! ## What each owner accepts -/

/-- The rules of an owner on the values of its properties, and on which of them stand
together. -/
def Rules : PropertyOwner → PropertyBlock → Prop
  | connect, block =>
      (0 : UInt16) ∉ block.values .receiveMaximum ∧
        (0 : UInt32) ∉ block.values .maximumPacketSize ∧
        (block.values .authenticationData ≠ [] → block.values .authenticationMethod ≠ [])
  | auth, block => (block.values .authenticationMethod).length = 1
  | _, _ => True

/-- The blocks that an owner accepts. -/
structure Accepts (owner : PropertyOwner) (block : PropertyBlock) : Prop where
  allowed : block.OfKinds owner.kinds
  once : ∀ kind ∉ owner.repeatable, (block.values kind).length ≤ 1
  zeroOrOne : ∀ property ∈ block, ∀ byte ∈ property.byte?, byte = 0 ∨ byte = 1
  rules : owner.Rules block

/-- Only the kinds that an owner may have need to be looked at. -/
theorem accepts_iff {owner : PropertyOwner} :
    owner.Accepts block ↔
      block.Readable owner.kinds owner.repeatable ∧ owner.Rules block := by
  constructor
  · rintro ⟨allowed, once, zeroOrOne, rules⟩
    refine ⟨⟨allowed, fun kind _ => ⟨once kind, ?_⟩⟩, rules⟩
    exact fun value found => zeroOrOne _ (mem_values_iff.mp found)
  · rintro ⟨⟨allowed, legible⟩, rules⟩
    refine ⟨allowed, ?_, ?_, rules⟩
    · intro kind single
      by_cases own : kind ∈ owner.kinds
      · exact (legible kind own).1 single
      · have absent : ∀ property ∈ block, property.kind ≠ kind := fun property member same =>
          own (same ▸ allowed property member)
        rw [values_eq_nil absent]
        exact Nat.zero_le 1
    · intro property member
      exact (legible property.kind (allowed property member)).2 property.value
        (mem_values_iff.mpr member)

/-- Where an owner has no rules, being readable is all. -/
theorem succeeds_of_unruled {α : Type} {result : Except Fault α} {readable : Prop}
    (found : Except.Succeeds result ↔ readable) :
    Except.Succeeds result ↔ readable ∧ True := by
  simpa only [and_true] using found

/-- A block is typed exactly when its owner accepts it. -/
theorem succeeds_ofBlock (owner : PropertyOwner) (block : PropertyBlock) :
    Except.Succeeds (owner.ofBlock block) ↔ owner.Accepts block := by
  rw [accepts_iff]
  cases owner with
  | connect => exact ConnectProperties.succeeds_ofBlock
  | will => exact succeeds_of_unruled WillProperties.succeeds_ofBlock
  | connAck => exact succeeds_of_unruled ConnAckProperties.succeeds_ofBlock
  | publish => exact succeeds_of_unruled PublishProperties.succeeds_ofBlock
  | acknowledgement packetType => exact succeeds_of_unruled AckProperties.succeeds_ofBlock
  | subscribe => exact succeeds_of_unruled SubscribeProperties.succeeds_ofBlock
  | unsubscribe => exact succeeds_of_unruled Unsubscribe.succeeds_propertiesOfBlock
  | disconnect => exact succeeds_of_unruled DisconnectProperties.succeeds_ofBlock
  | auth => exact AuthProperties.succeeds_ofBlock

/-- Looking the properties of a block up has the outcome of typing it: a value exactly
when the owner accepts the block, and a malformed block otherwise. No accessor ever
finds a value of another type than it takes. -/
theorem lookUp_accepts (owner : PropertyOwner) (block : PropertyBlock) :
    (∀ properties, owner.lookUp block = .ok properties ↔ owner.ofBlock block = .ok properties) ∧
    ((∃ properties, owner.ofBlock block = .ok properties) ↔ owner.Accepts block) ∧
    (¬ owner.Accepts block → ∃ fault, owner.ofBlock block = .error fault ∧
      owner.lookUp block = .error (.refused (.malformed fault))) ∧
    ∀ kind wanted, owner.lookUp block ≠ .error (.mismatched kind wanted) := by
  have follows : owner.lookUp block = Lookup.ofFault (owner.ofBlock block) := owner.follows block
  refine ⟨?_, succeeds_ofBlock owner block, ?_, ?_⟩
  · intro properties
    rw [follows, Lookup.ofFault, Except.mapError_eq_ok_iff]
  · rw [← succeeds_ofBlock, ← Except.exists_error_iff]
    rintro ⟨fault, failed⟩
    exact ⟨fault, failed, by rw [follows, failed]; rfl⟩
  · rw [follows]
    cases owner.ofBlock block with
    | error fault => rintro kind wanted ⟨⟩
    | ok properties => rintro kind wanted ⟨⟩

end PropertyOwner

end Mqtt
