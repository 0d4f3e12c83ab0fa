import Mqtt.Property.Kind
import Mqtt.QoS
import Mqtt.ReasonCode
import Mqtt.Text.Quoted

/-! # What can be wrong with a packet

A fault is a rule of the format that some bytes or some packet breaks. The same
rule can be broken by bytes from the network, by the arguments of a packet under
construction, or by a packet that is to be written; a packet error is a fault
together with that occasion, or a frame beyond a size limit.
-/

namespace Mqtt

/-- The greatest number a variable byte integer can hold, and so the greatest
remaining length of a packet. -/
def maximumVarInt : Nat := 268435455

/-- The greatest length in bytes of a text or of binary data. -/
def maximumFieldLength : Nat := 65535

/-- A rule of the packet format that is broken. -/
inductive Fault where
  /-- The bytes end inside a variable byte integer. -/
  | varIntMissing
  /-- A variable byte integer goes on after four bytes. -/
  | varIntTooLong
  | varIntTooLarge (value : Nat)
  | byteMissing
  | twoBytesMissing
  | fourBytesMissing
  | textLengthMissing
  | textMissing (length available : Nat)
  | textNotUnicode
  | textTooLong (length : Nat)
  | binaryLengthMissing
  | binaryMissing (length available : Nat)
  | binaryTooLong (length : Nat)
  | packetIdMissing
  | packetIdZero
  | propertiesMissing (length available : Nat)
  | propertiesTooLarge (length : Nat)
  | propertyIdentifierMissing
  | propertyUnknown (identifier : UInt8)
  | propertyNotAllowed (kind : PropertyKind) (packetType : PacketType)
  | propertyRepeated (identifier : UInt8)
  | propertyAbsent (identifier : UInt8)
  | propertyNotFlag (kind : PropertyKind) (value : UInt8)
  | subscriptionIdentifierZero
  | subscriptionIdentifierOutOfRange (value : UInt32)
  | receiveMaximumZero
  | maximumPacketSizeZero
  | maximumQoSTooHigh
  | maximumQoSUnknown (value : UInt8)
  | topicAliasZero
  | authenticationMethodAbsent
  | authenticationMethodEmpty
  | headerMissing
  | packetTypeUnknown (code : UInt8)
  | flagsTooWide (flags : UInt8)
  | flagsReserved (packetType : PacketType) (expected flags : UInt8)
  | flagsUnwritable (packetType : PacketType) (expected flags : UInt8)
  | bodyMissing (length available : Nat)
  | frameTrailing (count : Nat) (packetType : PacketType)
  | bodyTrailing (count : Nat) (packetType : PacketType)
  | protocolNameUnsupported (name : String)
  | protocolVersionUnsupported (version : UInt8)
  | connectFlagsReserved
  | connAckFlagsReserved
  | willRetainWithoutWill
  | willQoSWithoutWill
  | willTopicEmpty
  | qosUnknown (value : UInt8)
  | retainHandlingUnknown (value : UInt8)
  | subscriptionOptionsReserved
  | reasonMissing
  | reasonUnknown (byte : UInt8)
  | reasonNotAllowed (reason : ReasonCode) (packetType : PacketType)
  | reasonsEmpty (packetType : PacketType)
  | filtersEmpty (packetType : PacketType)
  | topicNameWildcard (name : String)
  | topicNameNull
  | topicNameEmpty
  | filterEmpty
  | filterNull
  | filterMultiLevel (filter : String)
  | filterSingleLevel (filter : String)
  | packetIdUnexpected (packetId : UInt16)
  | packetIdRequired (qos : QoS)
  | duplicateUnexpected
deriving DecidableEq, Repr

namespace Fault

/-- The wording of a fault. -/
def text : Fault → String
  | varIntMissing => "Unable to read variable byte integer"
  | varIntTooLong => "Malformed variable byte integer"
  | varIntTooLarge value =>
      s!"Variable byte integer {value} exceeds maximum of {maximumVarInt}"
  | byteMissing => "Failed to read u8"
  | twoBytesMissing => "Failed to read u16"
  | fourBytesMissing => "Failed to read u32"
  | textLengthMissing => "Failed to read UTF-8 string length"
  | textMissing length available =>
      s!"UTF-8 string length {length} exceeds remaining {available} bytes"
  | textNotUnicode => "String is not valid UTF-8"
  | textTooLong length =>
      s!"String length {length} exceeds maximum allowed size of {maximumFieldLength} bytes"
  | binaryLengthMissing => "Failed to read binary data length"
  | binaryMissing length available =>
      s!"Binary data length {length} exceeds remaining {available} bytes"
  | binaryTooLong length =>
      s!"Binary data length {length} exceeds maximum allowed size of {maximumFieldLength} bytes"
  | packetIdMissing => "Failed to read packet identifier"
  | packetIdZero => "Packet identifier must be non-zero"
  | propertiesMissing length available =>
      s!"Property length {length} exceeds remaining {available} bytes"
  | propertiesTooLarge length => s!"Property block of {length} bytes is too large"
  | propertyIdentifierMissing => "Failed to read property identifier"
  | propertyUnknown identifier => s!"Unknown property identifier: {hexText identifier}"
  | propertyNotAllowed kind packetType =>
      s!"Property {kind.name} is not allowed in {packetType.name}"
  | propertyRepeated identifier =>
      s!"Property {PropertyKind.nameOfIdentifier identifier} must not appear more than once"
  | propertyAbsent identifier =>
      s!"Missing required property: {PropertyKind.nameOfIdentifier identifier}"
  | propertyNotFlag kind value => s!"Property {kind.name} must be 0 or 1, got {value}"
  | subscriptionIdentifierZero => "Subscription identifier must be non-zero"
  | subscriptionIdentifierOutOfRange value => s!"Invalid subscription identifier: {value}"
  | receiveMaximumZero => "Receive Maximum must be greater than 0"
  | maximumPacketSizeZero => "Maximum Packet Size must be greater than 0"
  | maximumQoSTooHigh => "Maximum QoS must be 0 or 1"
  | maximumQoSUnknown value => s!"Maximum QoS must be 0 or 1, got {value}"
  | topicAliasZero => "Topic Alias must be greater than 0"
  | authenticationMethodAbsent => "Authentication Data requires an Authentication Method"
  | authenticationMethodEmpty => "Authentication Method must not be empty"
  | headerMissing => "Failed to read fixed header"
  | packetTypeUnknown code => s!"Invalid packet type: {code}"
  | flagsTooWide flags => s!"Flags {flagText flags} do not fit in 4 bits"
  | flagsReserved packetType expected flags =>
      s!"Fixed header flags of {packetType.name} are reserved: " ++
        s!"expected {flagText expected}, got {flagText flags}"
  | flagsUnwritable packetType expected flags =>
      s!"{packetType.name} flags must be {flagText expected}, got {flagText flags}"
  | bodyMissing length available =>
      s!"Remaining length {length} exceeds the {available} bytes available"
  | frameTrailing count packetType => s!"{count} trailing bytes after {packetType.name} packet"
  | bodyTrailing count packetType =>
      s!"{count} unexpected trailing bytes in {packetType.name}"
  | protocolNameUnsupported name => s!"Unsupported protocol name: {name}"
  | protocolVersionUnsupported version => s!"Unsupported protocol version: {version}"
  | connectFlagsReserved => "Connect flags are reserved"
  | connAckFlagsReserved => "Connect acknowledge flags are reserved"
  | willRetainWithoutWill => "Will retain must be 0 if will flag is 0"
  | willQoSWithoutWill => "Will QoS must be 0 if will flag is 0"
  | willTopicEmpty => "Will topic must not be empty"
  | qosUnknown value => s!"Invalid QoS: {value}"
  | retainHandlingUnknown value => s!"Invalid retain handling: {value}"
  | subscriptionOptionsReserved => "Subscription options reserved bits must be 0"
  | reasonMissing => "AUTH requires a reason code"
  | reasonUnknown byte => s!"Unknown reason code: {hexText byte}"
  | reasonNotAllowed reason packetType =>
      s!"Reason code {reason.text} is not valid in {packetType.name}"
  | reasonsEmpty packetType => s!"{packetType.name} must contain at least one reason code"
  | filtersEmpty packetType => s!"{packetType.name} must contain at least one topic filter"
  | topicNameWildcard name => s!"Topic name {quoted name} must not contain wildcards"
  | topicNameNull => "Topic name must not contain the null character"
  | topicNameEmpty => "Topic name must not be empty without a Topic Alias"
  | filterEmpty => "Topic filter must not be empty"
  | filterNull => "Topic filter must not contain the null character"
  | filterMultiLevel filter =>
      s!"Multi-level wildcard misplaced in topic filter {quoted filter}"
  | filterSingleLevel filter =>
      s!"Single-level wildcard misplaced in topic filter {quoted filter}"
  | packetIdUnexpected packetId =>
      s!"QoS 0 PUBLISH must not carry a packet identifier, got {packetId}"
  | packetIdRequired qos => s!"{qos.text} PUBLISH requires a packet identifier"
  | duplicateUnexpected => "DUP flag must be 0 for QoS 0 messages"

end Fault

/-- Why a packet cannot be read, built or written. -/
inductive PacketError where
  /-- Bytes, or a field too long for its length to be written, break the format. -/
  | malformed (fault : Fault)
  /-- The arguments of a packet break the format. -/
  | invalid (fault : Fault)
  /-- A frame is larger than a limit allows. -/
  | tooLarge (size maximum : Nat)
deriving DecidableEq, Repr

/-- The wording of a packet error. -/
def PacketError.message : PacketError → String
  | malformed fault => s!"Malformed Packet: {fault.text}"
  | invalid fault => s!"Invalid Argument: {fault.text}"
  | tooLarge size maximum => s!"Packet Too Large: {size} bytes exceeds maximum of {maximum}"

end Mqtt
