import Mqtt.Property.Block
import Mqtt.Wire.Code

/-! # AUTH

One step of an extended authentication, which always names its method.
-/

namespace Mqtt

/-- The properties of an AUTH packet. -/
structure AuthProperties where
  authenticationMethod : String
  authenticationData : Option Bytes := none
  reasonString : Option String := none
  userProperties : List UserProperty := []
deriving DecidableEq, Repr, Inhabited

namespace AuthProperties

/-- The kinds of property that an AUTH packet may have. -/
def kinds : List PropertyKind :=
  [.authenticationMethod, .authenticationData, .reasonString, .userProperty]

open PropertyBlock in
/-- The properties in the order in which they are written. -/
def toBlock (properties : AuthProperties) : PropertyBlock :=
  slot .authenticationMethod (some properties.authenticationMethod) ++
  slot .authenticationData properties.authenticationData ++
  slot .reasonString properties.reasonString ++
  slots .userProperty properties.userProperties

/-- The properties in a block that holds only those of an AUTH packet, and an
authentication method. -/
def ofBlock (block : PropertyBlock) : Except Fault AuthProperties := do
  block.checkKinds .auth kinds
  return {
    authenticationMethod := ← block.value .authenticationMethod
    authenticationData := ← block.value? .authenticationData
    reasonString := ← block.value? .reasonString
    userProperties := block.userProperties }

end AuthProperties

/-- An AUTH packet. -/
structure Auth where
  reason : ReasonCode
  properties : AuthProperties
deriving DecidableEq, Repr, Inhabited

namespace Auth

/-- The rules that construction enforces. Reading does without the second: it
takes a method with an empty name. -/
def check (packet : Auth) : Except Fault Unit := do
  PacketType.auth.checkReason packet.reason
  if packet.properties.authenticationMethod.isEmpty then throw .authenticationMethodEmpty

/-- The packet without its fixed header. -/
def encode (packet : Auth) : Except PacketError Bytes := do
  return packet.reason.code :: (← packet.properties.toBlock.encode)

/-- The packet after its fixed header. -/
def read : Reader Auth := do
  let reason ← Reader.ofExcept
    (PacketType.auth.reasonOfByte (← Reader.byteOr .reasonMissing))
  let properties ← Reader.ofExcept (AuthProperties.ofBlock (← PropertyBlock.read))
  return { reason, properties }

end Auth

end Mqtt
