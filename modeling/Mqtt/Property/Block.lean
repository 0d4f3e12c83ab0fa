import Mqtt.PacketType
import Mqtt.Property.Basic

/-! # Property blocks

The properties of a packet, in order, written after their total length. A
packet looks its own properties up by kind: most may occur at most once, and
`slot` and `slots` write back what the look-ups find.
-/

namespace Mqtt

/-- The properties of a packet, in the order in which they are written. -/
abbrev PropertyBlock := List Property

namespace PropertyBlock

/-! ## Writing and reading -/

/-- The total length of the properties, without the length in front of them. -/
def encodedLength (block : PropertyBlock) : Nat :=
  block.foldr (fun property others => property.encodedLength + others) 0

/-- The total length and the properties. -/
def encode (block : PropertyBlock) : Except PacketError Bytes := do
  let length := block.encodedLength
  if length > maximumVarInt then throw (.invalid (.propertiesTooLarge length))
  let front ← VarInt.encode length
  let properties ← block.mapM Property.encode
  return front ++ properties.flatten

/-- A total length and properties of exactly that length. -/
def read : Reader PropertyBlock := do
  let length ← VarInt.read
  Reader.within length.toNat (.propertiesMissing length.toNat) (Reader.items Property.read)

/-! ## Looking up -/

/-- The properties with a given identifier, in order. -/
def all (block : PropertyBlock) (identifier : UInt8) : PropertyBlock :=
  block.filter (·.identifier = identifier)

/-- The one element of a list that holds at most one. -/
def atMostOne {α : Type} (identifier : UInt8) : List α → Except Fault (Option α)
  | [] => .ok none
  | [value] => .ok (some value)
  | _ :: _ :: _ => .error (.propertyRepeated identifier)

/-- The property with a given identifier, which may occur at most once. -/
def singleOrNone (block : PropertyBlock) (identifier : UInt8) : Except Fault (Option Property) :=
  atMostOne identifier (block.all identifier)

/-- The property with a given identifier, which must occur exactly once. -/
def single (block : PropertyBlock) (identifier : UInt8) : Except Fault Property := do
  match ← block.singleOrNone identifier with
  | some property => return property
  | none => throw (.propertyAbsent identifier)

/-- The values of a kind, in order. -/
def values (block : PropertyBlock) (kind : PropertyKind) : List kind.Value :=
  block.filterMap (Property.valueOf? kind)

/-- The value of a kind that may occur at most once. -/
def value? (block : PropertyBlock) (kind : PropertyKind) : Except Fault (Option kind.Value) :=
  atMostOne kind.identifier (block.values kind)

/-- The value of a kind that must occur exactly once. -/
def value (block : PropertyBlock) (kind : PropertyKind) : Except Fault kind.Value := do
  match ← block.value? kind with
  | some value => return value
  | none => throw (.propertyAbsent kind.identifier)

/-- The truth value of a byte that is 0 or 1. -/
def flagOfByte (kind : PropertyKind) (value : UInt8) : Except Fault Bool :=
  if value = 0 then .ok false
  else if value = 1 then .ok true
  else .error (.propertyNotFlag kind value)

/-- What the value of a kind stands for, if the kind occurs, which it may at most
once. -/
def valueAs? {α : Type} (block : PropertyBlock) (kind : PropertyKind)
    (meaning : kind.Value → Except Fault α) : Except Fault (Option α) := do
  (← block.value? kind).mapM meaning

/-- The flag of a kind that may occur at most once and whose values are bytes. -/
def flag? (block : PropertyBlock) (kind : PropertyKind) (toByte : kind.Value → UInt8) :
    Except Fault (Option Bool) :=
  block.valueAs? kind fun value => flagOfByte kind (toByte value)

/-- The user properties, in order. -/
def userProperties (block : PropertyBlock) : List UserProperty :=
  block.values .userProperty

/-- The rule that a packet carries only its own kinds of property; the first
property of another kind breaks it. -/
def checkKinds (block : PropertyBlock) (packetType : PacketType) (allowed : List PropertyKind) :
    Except Fault Unit :=
  match block.find? fun property => !allowed.contains property.kind with
  | some property => .error (.propertyNotAllowed property.kind packetType)
  | none => .ok ()

/-! ## Writing back -/

/-- The properties of a kind with given values. -/
def slots (kind : PropertyKind) (values : List kind.Value) : PropertyBlock :=
  values.map (Property.mk kind)

/-- The property of a kind with a value that may be absent. -/
def slot (kind : PropertyKind) (value : Option kind.Value) : PropertyBlock :=
  slots kind value.toList

end PropertyBlock

end Mqtt
