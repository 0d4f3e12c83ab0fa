import Mqtt.Packet.Ack

/-! # SUBACK and UNSUBACK

The answers of the server to a SUBSCRIBE and to an UNSUBSCRIBE packet, with one
reason code for each topic filter.
-/

namespace Mqtt

/-- The two answers with a list of reason codes. -/
inductive SubscriptionStage where
  /-- The answer to a SUBSCRIBE packet. -/
  | subAck
  /-- The answer to an UNSUBSCRIBE packet. -/
  | unsubAck
deriving DecidableEq, Repr, Inhabited

namespace SubscriptionStage

/-- The kind of packet of an answer. -/
def packetType : SubscriptionStage → PacketType
  | subAck => .subAck
  | unsubAck => .unsubAck

end SubscriptionStage

/-- An answer with one reason code for each topic filter of the request. -/
structure SubscriptionAck where
  packetId : UInt16
  properties : AckProperties := {}
  reasons : List ReasonCode
deriving DecidableEq, Repr, Inhabited

namespace SubscriptionAck

/-- The rules that construction enforces. -/
def check (stage : SubscriptionStage) (ack : SubscriptionAck) : Except Fault Unit := do
  if ack.packetId = 0 then throw .packetIdZero
  if ack.reasons.isEmpty then throw (.reasonsEmpty stage.packetType)
  ack.reasons.forM stage.packetType.checkReason

/-- The packet without its fixed header. -/
def encode (ack : SubscriptionAck) : Except PacketError Bytes := do
  let properties ← ack.properties.toBlock.encode
  return Bytes.ofUInt16 ack.packetId ++ properties ++ ack.reasons.map ReasonCode.code

/-- The packet after its fixed header. -/
def read (stage : SubscriptionStage) : Reader SubscriptionAck := do
  let packetId ← Reader.packetId
  let properties ← Reader.ofExcept
    (AckProperties.ofBlock stage.packetType (← PropertyBlock.read))
  let reasons ← Reader.items stage.packetType.readReason
  if reasons.isEmpty then throw (.reasonsEmpty stage.packetType)
  return { packetId, properties, reasons }

end SubscriptionAck

end Mqtt
