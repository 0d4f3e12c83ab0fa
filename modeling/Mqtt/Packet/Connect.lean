import Mqtt.Property.Block
import Mqtt.Topic.Name
import Mqtt.Wire.Code

/-! # CONNECT

The first packet of a client. Its flags byte says which of the will message, the
user name and the password follow the client identifier, in that order.
-/

namespace Mqtt

/-- The protocol name in a CONNECT packet. -/
def protocolName : String :=
  "MQTT"

/-- The protocol version in a CONNECT packet. -/
def protocolVersion : UInt8 :=
  5

/-- The keep alive of a CONNECT packet that does not ask for another, in
seconds. -/
def defaultKeepAlive : UInt16 :=
  60

/-- The properties of a will message. -/
structure WillProperties where
  delayInterval : Option UInt32 := none
  payloadFormatIndicator : Option Bool := none
  messageExpiryInterval : Option UInt32 := none
  contentType : Option String := none
  responseTopic : Option String := none
  correlationData : Option Bytes := none
  userProperties : List UserProperty := []
deriving DecidableEq, Repr, Inhabited

namespace WillProperties

/-- The kinds of property that a will message may have. -/
def kinds : List PropertyKind :=
  [.willDelayInterval, .payloadFormatIndicator, .messageExpiryInterval, .contentType,
   .responseTopic, .correlationData, .userProperty]

open PropertyBlock in
/-- The properties in the order in which they are written. -/
def toBlock (properties : WillProperties) : PropertyBlock :=
  slot .willDelayInterval properties.delayInterval ++
  slot .payloadFormatIndicator (properties.payloadFormatIndicator.map Bool.toUInt8) ++
  slot .messageExpiryInterval properties.messageExpiryInterval ++
  slot .contentType properties.contentType ++
  slot .responseTopic properties.responseTopic ++
  slot .correlationData properties.correlationData ++
  slots .userProperty properties.userProperties

/-- The properties in a block that holds only those of a will message. -/
def ofBlock (block : PropertyBlock) : Except Fault WillProperties := do
  block.checkKinds .connect kinds
  return {
    delayInterval := ← block.value? .willDelayInterval
    payloadFormatIndicator := ← block.flag? .payloadFormatIndicator id
    messageExpiryInterval := ← block.value? .messageExpiryInterval
    contentType := ← block.value? .contentType
    responseTopic := ← block.value? .responseTopic
    correlationData := ← block.value? .correlationData
    userProperties := block.userProperties }

end WillProperties

/-- The message that the server publishes when the connection is lost. -/
structure Will where
  topic : String
  payload : Bytes := []
  qos : QoS := .atMostOnce
  retain : Bool := false
  properties : WillProperties := {}
deriving DecidableEq, Repr, Inhabited

namespace Will

/-- The rules of the topic of a will message: those of a topic name, and it is
not empty. -/
def checkTopic (topic : String) : Except Fault Unit := do
  TopicName.check topic
  if topic.isEmpty then throw .willTopicEmpty

/-- The properties, the topic and the payload; quality of service and retain are
in the connect flags. -/
def encode (will : Will) : Except PacketError Bytes := do
  (checkTopic will.topic).mapError .invalid
  let properties ← will.properties.toBlock.encode
  let topic ← Field.ofText will.topic
  let payload ← Field.ofBinary will.payload
  return properties ++ topic ++ payload

/-- The properties, the topic and the payload of a will message with a given
quality of service and retain flag. -/
def read (qos : QoS) (retain : Bool) : Reader Will := do
  let properties ← Reader.ofExcept (WillProperties.ofBlock (← PropertyBlock.read))
  let topic ← Reader.text
  Reader.ofExcept (checkTopic topic)
  let payload ← Reader.binary
  return { topic, payload, qos, retain, properties }

end Will

/-- The properties of a CONNECT packet. -/
structure ConnectProperties where
  sessionExpiryInterval : Option UInt32 := none
  receiveMaximum : Option UInt16 := none
  maximumPacketSize : Option UInt32 := none
  topicAliasMaximum : Option UInt16 := none
  requestResponseInformation : Option Bool := none
  requestProblemInformation : Option Bool := none
  userProperties : List UserProperty := []
  authenticationMethod : Option String := none
  authenticationData : Option Bytes := none
deriving DecidableEq, Repr, Inhabited

namespace ConnectProperties

/-- The kinds of property that a CONNECT packet may have. -/
def kinds : List PropertyKind :=
  [.sessionExpiryInterval, .receiveMaximum, .maximumPacketSize, .topicAliasMaximum,
   .requestResponseInformation, .requestProblemInformation, .userProperty,
   .authenticationMethod, .authenticationData]

/-- The rules of the values: two limits are not zero, and authentication data
comes with a method. -/
def check (properties : ConnectProperties) : Except Fault Unit := do
  if properties.receiveMaximum = some 0 then throw .receiveMaximumZero
  if properties.maximumPacketSize = some 0 then throw .maximumPacketSizeZero
  if properties.authenticationData.isSome && properties.authenticationMethod.isNone then
    throw .authenticationMethodAbsent

open PropertyBlock in
/-- The properties in the order in which they are written. -/
def toBlock (properties : ConnectProperties) : PropertyBlock :=
  slot .sessionExpiryInterval properties.sessionExpiryInterval ++
  slot .receiveMaximum properties.receiveMaximum ++
  slot .maximumPacketSize properties.maximumPacketSize ++
  slot .topicAliasMaximum properties.topicAliasMaximum ++
  slot .requestResponseInformation
    (properties.requestResponseInformation.map Bool.toUInt8) ++
  slot .requestProblemInformation (properties.requestProblemInformation.map Bool.toUInt8) ++
  slots .userProperty properties.userProperties ++
  slot .authenticationMethod properties.authenticationMethod ++
  slot .authenticationData properties.authenticationData

/-- The properties in a block that holds only those of a CONNECT packet and
obeys their rules. -/
def ofBlock (block : PropertyBlock) : Except Fault ConnectProperties := do
  block.checkKinds .connect kinds
  let properties : ConnectProperties := {
    sessionExpiryInterval := ← block.value? .sessionExpiryInterval
    receiveMaximum := ← block.value? .receiveMaximum
    maximumPacketSize := ← block.value? .maximumPacketSize
    topicAliasMaximum := ← block.value? .topicAliasMaximum
    requestResponseInformation := ← block.flag? .requestResponseInformation id
    requestProblemInformation := ← block.flag? .requestProblemInformation id
    userProperties := block.userProperties
    authenticationMethod := ← block.value? .authenticationMethod
    authenticationData := ← block.value? .authenticationData }
  properties.check
  return properties

end ConnectProperties

/-- A CONNECT packet. -/
structure Connect where
  cleanStart : Bool := true
  keepAlive : UInt16 := defaultKeepAlive
  properties : ConnectProperties := {}
  clientId : String
  will : Option Will := none
  username : Option String := none
  password : Option Bytes := none
deriving DecidableEq, Repr, Inhabited

namespace Connect

/-- What the flags byte says about the will message: whether there is one in
bit 2, its quality of service in bits 3 and 4, its retain flag in bit 5. -/
def willFlags : Option Will → UInt8
  | none => 0
  | some will => (4 : UInt8) ||| will.qos.toByte <<< 3 ||| will.retain.toUInt8 <<< 5

/-- The flags byte, which the contents of the packet decide. -/
def flags (packet : Connect) : UInt8 :=
  packet.cleanStart.toUInt8 <<< 1 ||| willFlags packet.will |||
    packet.password.isSome.toUInt8 <<< 6 ||| packet.username.isSome.toUInt8 <<< 7

/-- The packet without its fixed header. -/
def encode (packet : Connect) : Except PacketError Bytes := do
  let name ← Field.ofText protocolName
  packet.properties.check.mapError .invalid
  let properties ← packet.properties.toBlock.encode
  let clientId ← Field.ofText packet.clientId
  let will ← packet.will.elim (.ok []) Will.encode
  let username ← packet.username.elim (.ok []) Field.ofText
  let password ← packet.password.elim (.ok []) Field.ofBinary
  return name ++ protocolVersion :: packet.flags :: Bytes.ofUInt16 packet.keepAlive ++
    properties ++ clientId ++ will ++ username ++ password

/-- What a flags byte announces. -/
structure Announced where
  cleanStart : Bool
  /-- The quality of service and the retain flag of a will message. -/
  will : Option (QoS × Bool)
  username : Bool
  password : Bool
deriving DecidableEq, Repr

/-- What a flags byte announces. The lowest bit is reserved, and without a will
message its bits are clear. -/
def announced (flags : UInt8) : Except Fault Announced := do
  if bitOf flags 0 then throw .connectFlagsReserved
  let hasWill := bitOf flags 2
  if !hasWill && bitOf flags 5 then throw .willRetainWithoutWill
  if !hasWill && bitPairOf flags 3 ≠ 0 then throw .willQoSWithoutWill
  let willQoS ← QoS.ofByte (bitPairOf flags 3)
  return {
    cleanStart := bitOf flags 1
    will := if hasWill then some (willQoS, bitOf flags 5) else none
    username := bitOf flags 7
    password := bitOf flags 6 }

/-- A value that is there if it is announced. -/
def readIf {α : Type} (present : Bool) (reader : Reader α) : Reader (Option α) :=
  if present then some <$> reader else pure none

/-- The will message whose quality of service and retain flag are announced. -/
def readWill : Option (QoS × Bool) → Reader (Option Will)
  | some (qos, retain) => some <$> Will.read qos retain
  | none => pure none

/-- The packet after its fixed header. -/
def read : Reader Connect := do
  let name ← Reader.text
  if name ≠ protocolName then throw (.protocolNameUnsupported name)
  let version ← Reader.byte
  if version ≠ protocolVersion then throw (.protocolVersionUnsupported version)
  let announced ← Reader.ofExcept (announced (← Reader.byte))
  let keepAlive ← Reader.twoBytes
  let properties ← Reader.ofExcept (ConnectProperties.ofBlock (← PropertyBlock.read))
  let clientId ← Reader.text
  let will ← readWill announced.will
  let username ← readIf announced.username Reader.text
  let password ← readIf announced.password Reader.binary
  return { cleanStart := announced.cleanStart, keepAlive, properties, clientId, will, username,
           password }

end Connect

end Mqtt
