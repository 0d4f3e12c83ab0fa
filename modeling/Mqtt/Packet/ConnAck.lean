import Mqtt.Property.Block
import Mqtt.Wire.Code

/-! # CONNACK

The answer of the server to a CONNECT packet, with the limits of the server.
-/

namespace Mqtt

/-- The properties of a CONNACK packet. -/
structure ConnAckProperties where
  sessionExpiryInterval : Option UInt32 := none
  receiveMaximum : Option UInt16 := none
  maximumQoS : Option QoS := none
  retainAvailable : Option Bool := none
  maximumPacketSize : Option UInt32 := none
  assignedClientIdentifier : Option String := none
  topicAliasMaximum : Option UInt16 := none
  reasonString : Option String := none
  userProperties : List UserProperty := []
  wildcardSubscriptionAvailable : Option Bool := none
  subscriptionIdentifiersAvailable : Option Bool := none
  sharedSubscriptionAvailable : Option Bool := none
  serverKeepAlive : Option UInt16 := none
  responseInformation : Option String := none
  serverReference : Option String := none
  authenticationMethod : Option String := none
  authenticationData : Option Bytes := none
deriving DecidableEq, Repr, Inhabited

namespace ConnAckProperties

/-- The kinds of property that a CONNACK packet may have. -/
def kinds : List PropertyKind :=
  [.sessionExpiryInterval, .receiveMaximum, .maximumQoS, .retainAvailable, .maximumPacketSize,
   .assignedClientIdentifier, .topicAliasMaximum, .reasonString, .userProperty,
   .wildcardSubscriptionAvailable, .subscriptionIdentifiersAvailable,
   .sharedSubscriptionAvailable, .serverKeepAlive, .responseInformation, .serverReference,
   .authenticationMethod, .authenticationData]

/-- The rule of the values: a server that supports the highest quality of
service does not say so. -/
def check (properties : ConnAckProperties) : Except Fault Unit := do
  if properties.maximumQoS = some .exactlyOnce then throw .maximumQoSTooHigh

open PropertyBlock in
/-- The properties in the order in which they are written. -/
def toBlock (properties : ConnAckProperties) : PropertyBlock :=
  slot .sessionExpiryInterval properties.sessionExpiryInterval ++
  slot .receiveMaximum properties.receiveMaximum ++
  slot .maximumQoS (properties.maximumQoS.map QoS.toByte) ++
  slot .retainAvailable (properties.retainAvailable.map Bool.toUInt8) ++
  slot .maximumPacketSize properties.maximumPacketSize ++
  slot .assignedClientIdentifier properties.assignedClientIdentifier ++
  slot .topicAliasMaximum properties.topicAliasMaximum ++
  slot .reasonString properties.reasonString ++
  slots .userProperty properties.userProperties ++
  slot .wildcardSubscriptionAvailable
    (properties.wildcardSubscriptionAvailable.map Bool.toUInt8) ++
  slot .subscriptionIdentifiersAvailable
    (properties.subscriptionIdentifiersAvailable.map Bool.toUInt8) ++
  slot .sharedSubscriptionAvailable
    (properties.sharedSubscriptionAvailable.map Bool.toUInt8) ++
  slot .serverKeepAlive properties.serverKeepAlive ++
  slot .responseInformation properties.responseInformation ++
  slot .serverReference properties.serverReference ++
  slot .authenticationMethod properties.authenticationMethod ++
  slot .authenticationData properties.authenticationData

/-- The quality of service that a server may name as its highest. -/
def maximumQoSOfByte (value : UInt8) : Except Fault QoS :=
  if value = 0 then .ok .atMostOnce
  else if value = 1 then .ok .atLeastOnce
  else .error (.maximumQoSUnknown value)

/-- The properties in a block that holds only those of a CONNACK packet. -/
def ofBlock (block : PropertyBlock) : Except Fault ConnAckProperties := do
  block.checkKinds .connAck kinds
  return {
    maximumQoS := ← block.valueAs? .maximumQoS maximumQoSOfByte
    sessionExpiryInterval := ← block.value? .sessionExpiryInterval
    receiveMaximum := ← block.value? .receiveMaximum
    retainAvailable := ← block.flag? .retainAvailable id
    maximumPacketSize := ← block.value? .maximumPacketSize
    assignedClientIdentifier := ← block.value? .assignedClientIdentifier
    topicAliasMaximum := ← block.value? .topicAliasMaximum
    reasonString := ← block.value? .reasonString
    userProperties := block.userProperties
    wildcardSubscriptionAvailable := ← block.flag? .wildcardSubscriptionAvailable id
    subscriptionIdentifiersAvailable := ← block.flag? .subscriptionIdentifiersAvailable id
    sharedSubscriptionAvailable := ← block.flag? .sharedSubscriptionAvailable id
    serverKeepAlive := ← block.value? .serverKeepAlive
    responseInformation := ← block.value? .responseInformation
    serverReference := ← block.value? .serverReference
    authenticationMethod := ← block.value? .authenticationMethod
    authenticationData := ← block.value? .authenticationData }

end ConnAckProperties

/-- A CONNACK packet. -/
structure ConnAck where
  sessionPresent : Bool := false
  reason : ReasonCode
  properties : ConnAckProperties := {}
deriving DecidableEq, Repr, Inhabited

namespace ConnAck

/-- The rule that construction enforces. -/
def check (packet : ConnAck) : Except Fault Unit :=
  PacketType.connAck.checkReason packet.reason

/-- The connection is accepted. -/
def isSuccess (packet : ConnAck) : Bool :=
  packet.reason = .success

/-- The packet without its fixed header. -/
def encode (packet : ConnAck) : Except PacketError Bytes := do
  packet.properties.check.mapError .invalid
  let properties ← packet.properties.toBlock.encode
  return packet.sessionPresent.toUInt8 :: packet.reason.code :: properties

/-- The packet after its fixed header. -/
def read : Reader ConnAck := do
  let flags ← Reader.byte
  if flags &&& 254 ≠ 0 then throw .connAckFlagsReserved
  let reason ← PacketType.connAck.readReason
  let properties ← Reader.ofExcept (ConnAckProperties.ofBlock (← PropertyBlock.read))
  return { sessionPresent := flags = 1, reason, properties }

end ConnAck

end Mqtt
