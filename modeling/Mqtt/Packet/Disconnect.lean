import Mqtt.Property.Block
import Mqtt.Wire.Code

/-! # DISCONNECT

The last packet of a connection. A normal disconnection without properties is
written without a body, and a block of no properties is not written.
-/

namespace Mqtt

/-- The properties of a DISCONNECT packet. -/
structure DisconnectProperties where
  sessionExpiryInterval : Option UInt32 := none
  reasonString : Option String := none
  userProperties : List UserProperty := []
  serverReference : Option String := none
deriving DecidableEq, Repr, Inhabited

namespace DisconnectProperties

/-- The kinds of property that a DISCONNECT packet may have. -/
def kinds : List PropertyKind :=
  [.sessionExpiryInterval, .reasonString, .userProperty, .serverReference]

open PropertyBlock in
/-- The properties in the order in which they are written. -/
def toBlock (properties : DisconnectProperties) : PropertyBlock :=
  slot .sessionExpiryInterval properties.sessionExpiryInterval ++
  slot .serverReference properties.serverReference ++
  slot .reasonString properties.reasonString ++
  slots .userProperty properties.userProperties

/-- The properties in a block that holds only those of a DISCONNECT packet. -/
def ofBlock (block : PropertyBlock) : Except Fault DisconnectProperties := do
  block.checkKinds .disconnect kinds
  return {
    sessionExpiryInterval := ← block.value? .sessionExpiryInterval
    reasonString := ← block.value? .reasonString
    userProperties := block.userProperties
    serverReference := ← block.value? .serverReference }

end DisconnectProperties

/-- A DISCONNECT packet. -/
structure Disconnect where
  reason : ReasonCode := .normalDisconnection
  properties : DisconnectProperties := {}
deriving DecidableEq, Repr, Inhabited

namespace Disconnect

/-- The rule that construction enforces. -/
def check (packet : Disconnect) : Except Fault Unit :=
  PacketType.disconnect.checkReason packet.reason

/-- The packet without its fixed header. -/
def encode (packet : Disconnect) : Except PacketError Bytes := do
  let block := packet.properties.toBlock
  if block.isEmpty then
    return if packet.reason = .normalDisconnection then [] else [packet.reason.code]
  return packet.reason.code :: (← block.encode)

/-- The packet after its fixed header: nothing, or a reason code, or a reason
code and properties. -/
def read : Reader Disconnect := do
  if (← Reader.remaining).isEmpty then return {}
  let reason ← PacketType.disconnect.readReason
  if (← Reader.remaining).isEmpty then return { reason }
  let properties ← Reader.ofExcept (DisconnectProperties.ofBlock (← PropertyBlock.read))
  return { reason, properties }

end Disconnect

end Mqtt
