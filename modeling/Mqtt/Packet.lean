import Mqtt.FixedHeader
import Mqtt.Packet.Auth
import Mqtt.Packet.ConnAck
import Mqtt.Packet.Connect
import Mqtt.Packet.Disconnect
import Mqtt.Packet.Publish
import Mqtt.Packet.Subscribe
import Mqtt.Packet.SubscriptionAck

/-! # Control packets

The control packets of all kinds, how one is written after its fixed header, and
how one is read from a whole frame or from the bytes after a header.
-/

namespace Mqtt

/-- A control packet. -/
inductive Packet where
  | connect (packet : Connect)
  | connAck (packet : ConnAck)
  | publish (packet : Publish)
  /-- PUBACK, PUBREC, PUBREL or PUBCOMP. -/
  | ack (stage : AckStage) (packet : Ack)
  | subscribe (packet : Subscribe)
  /-- SUBACK or UNSUBACK. -/
  | subscriptionAck (stage : SubscriptionStage) (packet : SubscriptionAck)
  | unsubscribe (packet : Unsubscribe)
  | pingReq
  | pingResp
  | disconnect (packet : Disconnect)
  | auth (packet : Auth)
deriving DecidableEq, Repr, Inhabited

namespace Packet

/-- The kind of a packet. -/
def packetType : Packet → PacketType
  | connect _ => .connect
  | connAck _ => .connAck
  | publish _ => .publish
  | ack stage _ => stage.packetType
  | subscribe _ => .subscribe
  | subscriptionAck stage _ => stage.packetType
  | unsubscribe _ => .unsubscribe
  | pingReq => .pingReq
  | pingResp => .pingResp
  | disconnect _ => .disconnect
  | auth _ => .auth

/-- The packet identifier, for packets that are matched with an answer. -/
def packetId : Packet → Option UInt16
  | publish packet => packet.packetId
  | ack _ packet => some packet.packetId
  | subscribe packet => some packet.packetId
  | subscriptionAck _ packet => some packet.packetId
  | unsubscribe packet => some packet.packetId
  | _ => none

/-! ## Construction -/

/-- The rules that construction enforces. -/
def check : Packet → Except Fault Unit
  | connAck packet => packet.check
  | publish packet => packet.check
  | ack stage packet => packet.check stage
  | subscribe packet => packet.check
  | subscriptionAck stage packet => packet.check stage
  | unsubscribe packet => packet.check
  | disconnect packet => packet.check
  | auth packet => packet.check
  | connect _ | pingReq | pingResp => .ok ()

/-- A packet that obeys the rules. -/
def build (packet : Packet) : Except PacketError Packet := do
  packet.check.mapError .invalid
  return packet

/-! ## Writing -/

/-- The header flags: those of the message for PUBLISH, the reserved ones for
the others. -/
def flags : Packet → UInt8
  | publish packet => packet.flags
  | packet => packet.packetType.reservedFlags.getD 0

/-- The packet without its fixed header. -/
def encodeBody : Packet → Except PacketError Bytes
  | connect packet => packet.encode
  | connAck packet => packet.encode
  | publish packet => packet.encode
  | ack _ packet => packet.encode
  | subscribe packet => packet.encode
  | subscriptionAck _ packet => packet.encode
  | unsubscribe packet => packet.encode
  | pingReq | pingResp => .ok []
  | disconnect packet => packet.encode
  | auth packet => packet.encode

/-- The packet as a whole frame. -/
def encode (packet : Packet) : Except PacketError Bytes := do
  let body ← packet.encodeBody
  let header ← FixedHeader.encode
    { packetType := packet.packetType, flags := packet.flags, remainingLength := body.length }
  return header ++ body

/-! ## Reading -/

/-- A packet of a given kind after a header with given flags. Only PUBLISH looks
at the flags, and bytes after the packet are left. -/
def readBody (packetType : PacketType) (flags : UInt8) : Reader Packet :=
  match packetType with
  | .connect => connect <$> Connect.read
  | .connAck => connAck <$> ConnAck.read
  | .publish => publish <$> Publish.read flags
  | .pubAck => ack .pubAck <$> Ack.read .pubAck
  | .pubRec => ack .pubRec <$> Ack.read .pubRec
  | .pubRel => ack .pubRel <$> Ack.read .pubRel
  | .pubComp => ack .pubComp <$> Ack.read .pubComp
  | .subscribe => subscribe <$> Subscribe.read
  | .subAck => subscriptionAck .subAck <$> SubscriptionAck.read .subAck
  | .unsubscribe => unsubscribe <$> Unsubscribe.read
  | .unsubAck => subscriptionAck .unsubAck <$> SubscriptionAck.read .unsubAck
  | .pingReq => pure pingReq
  | .pingResp => pure pingResp
  | .disconnect => disconnect <$> Disconnect.read
  | .auth => auth <$> Auth.read

/-- The packet of a given kind that fills the bytes after a header with given
flags. -/
def ofBody (packetType : PacketType) (flags : UInt8) (body : Bytes) : Except Fault Packet := do
  packetType.checkFlags flags
  let (packet, trailing) ← readBody packetType flags body
  if !trailing.isEmpty then throw (.bodyTrailing trailing.length packetType)
  return packet

/-- The packet that fills a whole frame. -/
def ofFrame (frame : Bytes) : Except Fault Packet := do
  let (header, body) ← FixedHeader.read frame
  if body.length < header.remainingLength then
    throw (.bodyMissing header.remainingLength body.length)
  if body.length > header.remainingLength then
    throw (.frameTrailing (body.length - header.remainingLength) header.packetType)
  ofBody header.packetType header.flags body

/-- The packet of a given kind that fills the bytes after a header with given
flags. -/
def decodeBody (packetType : PacketType) (flags : UInt8) (body : Bytes) :
    Except PacketError Packet :=
  (ofBody packetType flags body).mapError .malformed

/-- The packet that fills a whole frame. -/
def decode (frame : Bytes) : Except PacketError Packet :=
  (ofFrame frame).mapError .malformed

end Packet

end Mqtt
