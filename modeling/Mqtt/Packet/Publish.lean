import Mqtt.Property.Block
import Mqtt.Topic.Name
import Mqtt.Wire.Code

/-! # PUBLISH

An application message. Its header flags hold the duplicate mark in bit 3, the
quality of service in bits 1 and 2 and the retain mark in bit 0; a packet
identifier is there exactly when the message is acknowledged.
-/

namespace Mqtt

/-- The properties of a PUBLISH packet. -/
structure PublishProperties where
  payloadFormatIndicator : Option Bool := none
  messageExpiryInterval : Option UInt32 := none
  topicAlias : Option UInt16 := none
  responseTopic : Option String := none
  correlationData : Option Bytes := none
  userProperties : List UserProperty := []
  subscriptionIdentifiers : List UInt32 := []
  contentType : Option String := none
deriving DecidableEq, Repr, Inhabited

namespace PublishProperties

/-- The kinds of property that a PUBLISH packet may have. -/
def kinds : List PropertyKind :=
  [.payloadFormatIndicator, .messageExpiryInterval, .topicAlias, .responseTopic,
   .correlationData, .userProperty, .subscriptionIdentifier, .contentType]

open PropertyBlock in
/-- The properties in the order in which they are written. -/
def toBlock (properties : PublishProperties) : PropertyBlock :=
  slot .payloadFormatIndicator (properties.payloadFormatIndicator.map Bool.toUInt8) ++
  slot .messageExpiryInterval properties.messageExpiryInterval ++
  slot .topicAlias properties.topicAlias ++
  slot .responseTopic properties.responseTopic ++
  slot .correlationData properties.correlationData ++
  slots .userProperty properties.userProperties ++
  slots .subscriptionIdentifier properties.subscriptionIdentifiers ++
  slot .contentType properties.contentType

/-- The properties in a block that holds only those of a PUBLISH packet. -/
def ofBlock (block : PropertyBlock) : Except Fault PublishProperties := do
  block.checkKinds .publish kinds
  return {
    payloadFormatIndicator := ← block.flag? .payloadFormatIndicator id
    messageExpiryInterval := ← block.value? .messageExpiryInterval
    topicAlias := ← block.value? .topicAlias
    responseTopic := ← block.value? .responseTopic
    correlationData := ← block.value? .correlationData
    userProperties := block.userProperties
    subscriptionIdentifiers := block.values .subscriptionIdentifier
    contentType := ← block.value? .contentType }

end PublishProperties

/-- A PUBLISH packet. -/
structure Publish where
  /-- This may be a repetition of an earlier packet. -/
  duplicate : Bool := false
  qos : QoS := .atMostOnce
  retain : Bool := false
  topic : String
  packetId : Option UInt16 := none
  properties : PublishProperties := {}
  payload : Bytes := []
deriving DecidableEq, Repr, Inhabited

namespace Publish

/-- The rule on the packet identifier: it is there exactly when the message is
acknowledged, and is not zero. -/
def checkPacketId : QoS → Option UInt16 → Except Fault Unit
  | .atMostOnce, some packetId => .error (.packetIdUnexpected packetId)
  | .atMostOnce, none => .ok ()
  | qos, none => .error (.packetIdRequired qos)
  | _, some packetId => if packetId = 0 then .error .packetIdZero else .ok ()

/-- The rule on subscription identifiers: each is a variable byte integer other
than zero. -/
def checkSubscriptionIdentifiers (identifiers : List UInt32) : Except Fault Unit :=
  match identifiers.find? fun value => value = 0 || value.toNat > maximumVarInt with
  | some value => .error (.subscriptionIdentifierOutOfRange value)
  | none => .ok ()

/-- The rules of a PUBLISH packet, which construction and reading enforce. -/
def check (packet : Publish) : Except Fault Unit := do
  TopicName.check packet.topic
  if packet.topic.isEmpty && packet.properties.topicAlias.isNone then throw .topicNameEmpty
  if packet.properties.topicAlias = some 0 then throw .topicAliasZero
  checkPacketId packet.qos packet.packetId
  if packet.duplicate && packet.qos = .atMostOnce then throw .duplicateUnexpected
  packet.properties.responseTopic.elim (.ok ()) TopicName.check
  checkSubscriptionIdentifiers packet.properties.subscriptionIdentifiers

/-- The packet marked as a repetition. A message that is not acknowledged is
never repeated, so it gets no mark. -/
def asDuplicate (packet : Publish) : Publish :=
  { packet with duplicate := packet.qos ≠ .atMostOnce }

/-- The header flags. -/
def flags (packet : Publish) : UInt8 :=
  packet.duplicate.toUInt8 <<< 3 ||| packet.qos.toByte <<< 1 ||| packet.retain.toUInt8

/-- The packet without its fixed header. -/
def encode (packet : Publish) : Except PacketError Bytes := do
  let topic ← Field.ofText packet.topic
  let packetId := packet.packetId.elim [] Bytes.ofUInt16
  let properties ← packet.properties.toBlock.encode
  return topic ++ packetId ++ properties ++ packet.payload

/-- The packet identifier of a message with a given quality of service. -/
def readPacketId : QoS → Reader (Option UInt16)
  | .atMostOnce => pure none
  | _ => some <$> Reader.packetId

/-- The packet after a fixed header with given flags. -/
def read (flags : UInt8) : Reader Publish := do
  let qos ← Reader.ofExcept (QoS.ofByte (bitPairOf flags 1))
  let topic ← Reader.text
  let packetId ← readPacketId qos
  let properties ← Reader.ofExcept (PublishProperties.ofBlock (← PropertyBlock.read))
  let payload ← Reader.rest
  let packet : Publish := {
    duplicate := bitOf flags 3
    retain := bitOf flags 0
    qos, topic, packetId, properties, payload }
  Reader.ofExcept packet.check
  return packet

end Publish

end Mqtt
