import Mqtt.Property.Block
import Mqtt.Wire.Code

/-! # Acknowledgements of a message

PUBACK answers a message that is delivered at least once; PUBREC, PUBREL and
PUBCOMP complete the delivery of one that is delivered exactly once. All four
have one form, in which a plain success leaves out all but the identifier.
-/

namespace Mqtt

/-- The reason string and the user properties, all that an acknowledgement
carries. -/
structure AckProperties where
  reasonString : Option String := none
  userProperties : List UserProperty := []
deriving DecidableEq, Repr, Inhabited

namespace AckProperties

/-- The kinds of property that an acknowledgement may have. -/
def kinds : List PropertyKind :=
  [.reasonString, .userProperty]

open PropertyBlock in
/-- The properties in the order in which they are written. -/
def toBlock (properties : AckProperties) : PropertyBlock :=
  slot .reasonString properties.reasonString ++ slots .userProperty properties.userProperties

/-- The properties in a block that holds only those of an acknowledgement. -/
def ofBlock (packetType : PacketType) (block : PropertyBlock) : Except Fault AckProperties := do
  block.checkKinds packetType kinds
  return {
    reasonString := ← block.value? .reasonString
    userProperties := block.userProperties }

end AckProperties

/-- The four acknowledgements of a message. -/
inductive AckStage where
  /-- The answer to a message delivered at least once. -/
  | pubAck
  /-- The first answer to a message delivered exactly once. -/
  | pubRec
  /-- The sender's answer to PUBREC, which releases the message. -/
  | pubRel
  /-- The answer to PUBREL, which completes the delivery. -/
  | pubComp
deriving DecidableEq, Repr, Inhabited

namespace AckStage

/-- The kind of packet of a stage. -/
def packetType : AckStage → PacketType
  | pubAck => .pubAck
  | pubRec => .pubRec
  | pubRel => .pubRel
  | pubComp => .pubComp

end AckStage

/-- An acknowledgement of a message. -/
structure Ack where
  packetId : UInt16
  reason : ReasonCode := .success
  properties : AckProperties := {}
deriving DecidableEq, Repr, Inhabited

namespace Ack

/-- The rules that construction enforces. -/
def check (stage : AckStage) (ack : Ack) : Except Fault Unit := do
  if ack.packetId = 0 then throw .packetIdZero
  stage.packetType.checkReason ack.reason

/-- An acknowledgement that obeys the rules. -/
def build (stage : AckStage) (ack : Ack) : Except PacketError Ack := do
  (ack.check stage).mapError .invalid
  return ack

/-- The packet without its fixed header. -/
def encode (ack : Ack) : Except PacketError Bytes := do
  if ack.reason = .success && ack.properties = {} then return Bytes.ofUInt16 ack.packetId
  let properties ← ack.properties.toBlock.encode
  return Bytes.ofUInt16 ack.packetId ++ ack.reason.code :: properties

/-- The packet after its fixed header: an identifier, or an identifier and a
reason code, or all three parts. -/
def read (stage : AckStage) : Reader Ack := do
  let packetId ← Reader.packetId
  if (← Reader.remaining).isEmpty then return { packetId }
  let reason ← stage.packetType.readReason
  if (← Reader.remaining).isEmpty then return { packetId, reason }
  let properties ← Reader.ofExcept
    (AckProperties.ofBlock stage.packetType (← PropertyBlock.read))
  return { packetId, reason, properties }

end Ack

end Mqtt
