import Mqtt.Property.Kind
import Mqtt.Wire.Field
import Mqtt.Wire.VarInt

/-! # Properties

A property is a kind with a value of that kind's type. It is written as its
identifier and its value.
-/

namespace Mqtt

/-- A name with its value. The same name may occur more than once. -/
structure UserProperty where
  name : String
  value : String
deriving DecidableEq, Repr, Inhabited

namespace ValueType

/-- The values of a type. -/
@[reducible] def Value : ValueType → Type
  | byte => UInt8
  | twoBytes => UInt16
  | fourBytes | varInt => UInt32
  | text => String
  | binary => Bytes
  | pair => UserProperty

instance : (valueType : ValueType) → DecidableEq valueType.Value
  | byte => inferInstanceAs (DecidableEq UInt8)
  | twoBytes => inferInstanceAs (DecidableEq UInt16)
  | fourBytes | varInt => inferInstanceAs (DecidableEq UInt32)
  | text => inferInstanceAs (DecidableEq String)
  | binary => inferInstanceAs (DecidableEq Bytes)
  | pair => inferInstanceAs (DecidableEq UserProperty)

/-- The number of bytes of a value. -/
def size : (valueType : ValueType) → valueType.Value → Nat
  | byte, _ => 1
  | twoBytes, _ => 2
  | fourBytes, _ => 4
  | varInt, (value : UInt32) => VarInt.size value.toNat
  | text, (value : String) => 2 + value.utf8ByteSize
  | binary, (value : Bytes) => 2 + value.length
  | pair, (value : UserProperty) =>
      (2 + value.name.utf8ByteSize) + (2 + value.value.utf8ByteSize)

/-- The bytes of a value. -/
def encode : (valueType : ValueType) → valueType.Value → Except PacketError Bytes
  | byte, (value : UInt8) => .ok [value]
  | twoBytes, (value : UInt16) => .ok (Bytes.ofUInt16 value)
  | fourBytes, (value : UInt32) => .ok (Bytes.ofUInt32 value)
  | varInt, (value : UInt32) =>
      if value = 0 then .error (.invalid .subscriptionIdentifierZero)
      else VarInt.encode value.toNat
  | text, (value : String) => Field.ofText value
  | binary, (value : Bytes) => Field.ofBinary value
  | pair, (value : UserProperty) => do
      let name ← Field.ofText value.name
      let value ← Field.ofText value.value
      return name ++ value

/-- A variable byte integer other than zero. -/
def readNonzero : Reader UInt32 := do
  let value ← VarInt.read
  if value = 0 then throw .subscriptionIdentifierZero
  return value

/-- A name and its value. -/
def readPair : Reader UserProperty := do
  let name ← Reader.text
  let value ← Reader.text
  return ⟨name, value⟩

/-- A value of a type. -/
def read : (valueType : ValueType) → Reader valueType.Value
  | byte => Reader.byte
  | twoBytes => Reader.twoBytes
  | fourBytes => Reader.fourBytes
  | varInt => readNonzero
  | text => Reader.text
  | binary => Reader.binary
  | pair => readPair

end ValueType

namespace PropertyKind

/-- The values of a kind. -/
@[reducible] def Value (kind : PropertyKind) : Type :=
  kind.valueType.Value

/-- The number of bytes of a value of a kind. -/
def valueSize : (kind : PropertyKind) → kind.Value → Nat
  | payloadFormatIndicator | requestProblemInformation | requestResponseInformation | maximumQoS
  | retainAvailable | wildcardSubscriptionAvailable | subscriptionIdentifiersAvailable
  | sharedSubscriptionAvailable => ValueType.size .byte
  | serverKeepAlive | receiveMaximum | topicAliasMaximum | topicAlias => ValueType.size .twoBytes
  | messageExpiryInterval | sessionExpiryInterval | willDelayInterval
  | maximumPacketSize => ValueType.size .fourBytes
  | subscriptionIdentifier => ValueType.size .varInt
  | contentType | responseTopic | assignedClientIdentifier | authenticationMethod
  | responseInformation | serverReference | reasonString => ValueType.size .text
  | correlationData | authenticationData => ValueType.size .binary
  | userProperty => ValueType.size .pair

/-- The bytes of a value of a kind. -/
def encodeValue : (kind : PropertyKind) → kind.Value → Except PacketError Bytes
  | payloadFormatIndicator | requestProblemInformation | requestResponseInformation | maximumQoS
  | retainAvailable | wildcardSubscriptionAvailable | subscriptionIdentifiersAvailable
  | sharedSubscriptionAvailable => ValueType.encode .byte
  | serverKeepAlive | receiveMaximum | topicAliasMaximum
  | topicAlias => ValueType.encode .twoBytes
  | messageExpiryInterval | sessionExpiryInterval | willDelayInterval
  | maximumPacketSize => ValueType.encode .fourBytes
  | subscriptionIdentifier => ValueType.encode .varInt
  | contentType | responseTopic | assignedClientIdentifier | authenticationMethod
  | responseInformation | serverReference | reasonString => ValueType.encode .text
  | correlationData | authenticationData => ValueType.encode .binary
  | userProperty => ValueType.encode .pair

/-- A value of a kind. -/
def readValue : (kind : PropertyKind) → Reader kind.Value
  | payloadFormatIndicator => Reader.byte
  | messageExpiryInterval => Reader.fourBytes
  | contentType => Reader.text
  | responseTopic => Reader.text
  | correlationData => Reader.binary
  | subscriptionIdentifier => ValueType.readNonzero
  | sessionExpiryInterval => Reader.fourBytes
  | assignedClientIdentifier => Reader.text
  | serverKeepAlive => Reader.twoBytes
  | authenticationMethod => Reader.text
  | authenticationData => Reader.binary
  | requestProblemInformation => Reader.byte
  | willDelayInterval => Reader.fourBytes
  | requestResponseInformation => Reader.byte
  | responseInformation => Reader.text
  | serverReference => Reader.text
  | reasonString => Reader.text
  | receiveMaximum => Reader.twoBytes
  | topicAliasMaximum => Reader.twoBytes
  | topicAlias => Reader.twoBytes
  | maximumQoS => Reader.byte
  | retainAvailable => Reader.byte
  | userProperty => ValueType.readPair
  | maximumPacketSize => Reader.fourBytes
  | wildcardSubscriptionAvailable => Reader.byte
  | subscriptionIdentifiersAvailable => Reader.byte
  | sharedSubscriptionAvailable => Reader.byte

/-! The three tables group the kinds by the same types. -/

/-- The size of a value of a kind is that of a value of its type. -/
theorem valueSize_eq (kind : PropertyKind) : kind.valueSize = kind.valueType.size := by
  cases kind <;> rfl

/-- A value of a kind is written as one of its type. -/
theorem encodeValue_eq (kind : PropertyKind) : kind.encodeValue = kind.valueType.encode := by
  cases kind <;> rfl

/-- A value of a kind is read as one of its type. -/
theorem readValue_eq (kind : PropertyKind) : kind.readValue = kind.valueType.read := by
  cases kind <;> rfl

end PropertyKind

/-- A property: a kind and a value of its type. -/
structure Property where
  kind : PropertyKind
  value : kind.Value
deriving DecidableEq

namespace Property

/-- The byte that announces the property. -/
def identifier (property : Property) : UInt8 :=
  property.kind.identifier

/-- The number of bytes of a property: its identifier and its value. -/
def encodedLength (property : Property) : Nat :=
  1 + property.kind.valueSize property.value

/-- The identifier and the value. -/
def encode (property : Property) : Except PacketError Bytes := do
  let value ← property.kind.encodeValue property.value
  return property.identifier :: value

/-- An identifier and a value of its kind. -/
def read : Reader Property := do
  let identifier ← Reader.byteOr .propertyIdentifierMissing
  match PropertyKind.ofIdentifier? identifier with
  | none => throw (.propertyUnknown identifier)
  | some kind =>
      let value ← kind.readValue
      return ⟨kind, value⟩

/-- The value of a property, if it is of a given kind. -/
def valueOf? (kind : PropertyKind) (property : Property) : Option kind.Value :=
  if same : property.kind = kind then some (same ▸ property.value) else none

@[simp] theorem valueOf?_mk (kind : PropertyKind) (value : kind.Value) :
    valueOf? kind ⟨kind, value⟩ = some value :=
  dif_pos rfl

theorem valueOf?_of_ne {kind : PropertyKind} {property : Property}
    (other : property.kind ≠ kind) :
    valueOf? kind property = none :=
  dif_neg other

/-- The value under a kind, together with the kind, is the whole property. -/
theorem valueOf?_eq_some_iff {kind : PropertyKind} {property : Property} {value : kind.Value} :
    valueOf? kind property = some value ↔ property = ⟨kind, value⟩ := by
  obtain ⟨propertyKind, propertyValue⟩ := property
  constructor
  · intro found
    by_cases same : propertyKind = kind
    · subst same
      simp only [valueOf?_mk, Option.some.injEq] at found
      rw [found]
    · rw [valueOf?_of_ne same] at found
      cases found
  · rintro ⟨⟩
    exact valueOf?_mk kind value

end Property

end Mqtt
