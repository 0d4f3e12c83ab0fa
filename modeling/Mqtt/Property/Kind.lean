/-! # Property kinds

The twenty-seven kinds of property, each with one identifier byte and one type
of value.
-/

namespace Mqtt

/-- The kind of a property. -/
inductive PropertyKind where
  | payloadFormatIndicator
  | messageExpiryInterval
  | contentType
  | responseTopic
  | correlationData
  | subscriptionIdentifier
  | sessionExpiryInterval
  | assignedClientIdentifier
  | serverKeepAlive
  | authenticationMethod
  | authenticationData
  | requestProblemInformation
  | willDelayInterval
  | requestResponseInformation
  | responseInformation
  | serverReference
  | reasonString
  | receiveMaximum
  | topicAliasMaximum
  | topicAlias
  | maximumQoS
  | retainAvailable
  | userProperty
  | maximumPacketSize
  | wildcardSubscriptionAvailable
  | subscriptionIdentifiersAvailable
  | sharedSubscriptionAvailable
deriving DecidableEq, Repr, Inhabited

/-- How the value of a property is written. -/
inductive ValueType where
  /-- One byte. -/
  | byte
  /-- An integer of two bytes, the high one first. -/
  | twoBytes
  /-- An integer of four bytes, the high one first. -/
  | fourBytes
  /-- A variable byte integer other than zero. -/
  | varInt
  /-- A text after its length. -/
  | text
  /-- Bytes after their number. -/
  | binary
  /-- Two texts, a name and its value. -/
  | pair
deriving DecidableEq, Repr

namespace PropertyKind

/-- Every kind, in ascending order of identifier. -/
def all : List PropertyKind :=
  [payloadFormatIndicator, messageExpiryInterval, contentType, responseTopic, correlationData,
   subscriptionIdentifier, sessionExpiryInterval, assignedClientIdentifier, serverKeepAlive,
   authenticationMethod, authenticationData, requestProblemInformation, willDelayInterval,
   requestResponseInformation, responseInformation, serverReference, reasonString,
   receiveMaximum, topicAliasMaximum, topicAlias, maximumQoS, retainAvailable, userProperty,
   maximumPacketSize, wildcardSubscriptionAvailable, subscriptionIdentifiersAvailable,
   sharedSubscriptionAvailable]

/-- The byte that announces a property of this kind. -/
def identifier : PropertyKind → UInt8
  | payloadFormatIndicator => 0x01
  | messageExpiryInterval => 0x02
  | contentType => 0x03
  | responseTopic => 0x08
  | correlationData => 0x09
  | subscriptionIdentifier => 0x0b
  | sessionExpiryInterval => 0x11
  | assignedClientIdentifier => 0x12
  | serverKeepAlive => 0x13
  | authenticationMethod => 0x15
  | authenticationData => 0x16
  | requestProblemInformation => 0x17
  | willDelayInterval => 0x18
  | requestResponseInformation => 0x19
  | responseInformation => 0x1a
  | serverReference => 0x1c
  | reasonString => 0x1f
  | receiveMaximum => 0x21
  | topicAliasMaximum => 0x22
  | topicAlias => 0x23
  | maximumQoS => 0x24
  | retainAvailable => 0x25
  | userProperty => 0x26
  | maximumPacketSize => 0x27
  | wildcardSubscriptionAvailable => 0x28
  | subscriptionIdentifiersAvailable => 0x29
  | sharedSubscriptionAvailable => 0x2a

/-- The kind announced by a byte, if there is one. -/
def ofIdentifier? : UInt8 → Option PropertyKind
  | 0x01 => some payloadFormatIndicator
  | 0x02 => some messageExpiryInterval
  | 0x03 => some contentType
  | 0x08 => some responseTopic
  | 0x09 => some correlationData
  | 0x0b => some subscriptionIdentifier
  | 0x11 => some sessionExpiryInterval
  | 0x12 => some assignedClientIdentifier
  | 0x13 => some serverKeepAlive
  | 0x15 => some authenticationMethod
  | 0x16 => some authenticationData
  | 0x17 => some requestProblemInformation
  | 0x18 => some willDelayInterval
  | 0x19 => some requestResponseInformation
  | 0x1a => some responseInformation
  | 0x1c => some serverReference
  | 0x1f => some reasonString
  | 0x21 => some receiveMaximum
  | 0x22 => some topicAliasMaximum
  | 0x23 => some topicAlias
  | 0x24 => some maximumQoS
  | 0x25 => some retainAvailable
  | 0x26 => some userProperty
  | 0x27 => some maximumPacketSize
  | 0x28 => some wildcardSubscriptionAvailable
  | 0x29 => some subscriptionIdentifiersAvailable
  | 0x2a => some sharedSubscriptionAvailable
  | _ => none

/-- The type of the values of this kind. -/
@[reducible] def valueType : PropertyKind → ValueType
  | payloadFormatIndicator | requestProblemInformation | requestResponseInformation | maximumQoS
  | retainAvailable | wildcardSubscriptionAvailable | subscriptionIdentifiersAvailable
  | sharedSubscriptionAvailable => .byte
  | serverKeepAlive | receiveMaximum | topicAliasMaximum | topicAlias => .twoBytes
  | messageExpiryInterval | sessionExpiryInterval | willDelayInterval
  | maximumPacketSize => .fourBytes
  | subscriptionIdentifier => .varInt
  | contentType | responseTopic | assignedClientIdentifier | authenticationMethod
  | responseInformation | serverReference | reasonString => .text
  | correlationData | authenticationData => .binary
  | userProperty => .pair

/-- The name in messages of the kind that a byte announces. -/
def nameOfIdentifier : UInt8 → String
  | 0x01 => "Payload Format Indicator"
  | 0x02 => "Message Expiry Interval"
  | 0x03 => "Content Type"
  | 0x08 => "Response Topic"
  | 0x09 => "Correlation Data"
  | 0x0b => "Subscription Identifier"
  | 0x11 => "Session Expiry Interval"
  | 0x12 => "Assigned Client Identifier"
  | 0x13 => "Server Keep Alive"
  | 0x15 => "Authentication Method"
  | 0x16 => "Authentication Data"
  | 0x17 => "Request Problem Information"
  | 0x18 => "Will Delay Interval"
  | 0x19 => "Request Response Information"
  | 0x1a => "Response Information"
  | 0x1c => "Server Reference"
  | 0x1f => "Reason String"
  | 0x21 => "Receive Maximum"
  | 0x22 => "Topic Alias Maximum"
  | 0x23 => "Topic Alias"
  | 0x24 => "Maximum QoS"
  | 0x25 => "Retain Available"
  | 0x26 => "User Property"
  | 0x27 => "Maximum Packet Size"
  | 0x28 => "Wildcard Subscription Available"
  | 0x29 => "Subscription Identifier Available"
  | 0x2a => "Shared Subscription Available"
  | _ => "Unknown"

/-- The name of a kind in messages. -/
def name (kind : PropertyKind) : String :=
  nameOfIdentifier kind.identifier

/-- The byte of a kind announces that kind. -/
theorem ofIdentifier?_identifier (kind : PropertyKind) :
    ofIdentifier? kind.identifier = some kind := by
  cases kind <;> rfl

/-- A byte announces no kind but the one it belongs to. -/
theorem identifier_of_ofIdentifier? {identifier : UInt8} {kind : PropertyKind}
    (found : ofIdentifier? identifier = some kind) : kind.identifier = identifier := by
  unfold ofIdentifier? at found
  split at found <;> cases found <;> rfl

/-- Kinds with the same identifier are the same. -/
theorem identifier_injective {first second : PropertyKind}
    (same : first.identifier = second.identifier) : first = second := by
  have found := ofIdentifier?_identifier first
  rw [same, ofIdentifier?_identifier] at found
  exact (Option.some.inj found).symm

/-- A byte announces the first kind with that identifier, so both tables say the same. -/
theorem ofIdentifier?_eq_find? (identifier : UInt8) :
    ofIdentifier? identifier = all.find? (·.identifier = identifier) := by
  cases found : ofIdentifier? identifier with
  | some kind =>
      rw [← identifier_of_ofIdentifier? found]
      cases kind <;> rfl
  | none =>
      symm
      rw [List.find?_eq_none]
      rintro kind - same
      rw [← of_decide_eq_true same, ofIdentifier?_identifier] at found
      cases found

/-- Exactly the bytes that announce no kind have no name. -/
theorem nameOfIdentifier_eq_unknown_iff {identifier : UInt8} :
    nameOfIdentifier identifier = "Unknown" ↔ ofIdentifier? identifier = none := by
  unfold nameOfIdentifier ofIdentifier?
  split <;> simp

end PropertyKind

end Mqtt
