/-! # Control packet types

The fifteen kinds of control packet, their codes and the header flags reserved
for them.
-/

namespace Mqtt

/-- The kind of a control packet. -/
inductive PacketType where
  | connect
  | connAck
  | publish
  | pubAck
  | pubRec
  | pubRel
  | pubComp
  | subscribe
  | subAck
  | unsubscribe
  | unsubAck
  | pingReq
  | pingResp
  | disconnect
  | auth
deriving DecidableEq, Repr, Inhabited

namespace PacketType

/-- The four-bit code of a kind, the high half of the control byte. -/
def code : PacketType → UInt8
  | connect => 1
  | connAck => 2
  | publish => 3
  | pubAck => 4
  | pubRec => 5
  | pubRel => 6
  | pubComp => 7
  | subscribe => 8
  | subAck => 9
  | unsubscribe => 10
  | unsubAck => 11
  | pingReq => 12
  | pingResp => 13
  | disconnect => 14
  | auth => 15

/-- Every kind, in ascending order of code. -/
def all : List PacketType :=
  [connect, connAck, publish, pubAck, pubRec, pubRel, pubComp, subscribe, subAck, unsubscribe,
   unsubAck, pingReq, pingResp, disconnect, auth]

/-- The kind with a given code, if there is one. -/
def ofCode? (code : UInt8) : Option PacketType :=
  all.find? (·.code = code)

/-- The header flags a packet of this kind must carry; none for PUBLISH, whose
flags describe the message. -/
def reservedFlags : PacketType → Option UInt8
  | publish => none
  | pubRel | subscribe | unsubscribe => some 2
  | _ => some 0

/-- The name of a kind in messages. -/
def name : PacketType → String
  | connect => "CONNECT"
  | connAck => "CONNACK"
  | publish => "PUBLISH"
  | pubAck => "PUBACK"
  | pubRec => "PUBREC"
  | pubRel => "PUBREL"
  | pubComp => "PUBCOMP"
  | subscribe => "SUBSCRIBE"
  | subAck => "SUBACK"
  | unsubscribe => "UNSUBSCRIBE"
  | unsubAck => "UNSUBACK"
  | pingReq => "PINGREQ"
  | pingResp => "PINGRESP"
  | disconnect => "DISCONNECT"
  | auth => "AUTH"

/-- The code of a kind is the code of no other kind. -/
theorem ofCode?_code (packetType : PacketType) : ofCode? packetType.code = some packetType := by
  cases packetType <;> rfl

/-- A code belongs to no kind but the one that has it. -/
theorem code_of_ofCode? {code : UInt8} {packetType : PacketType}
    (found : ofCode? code = some packetType) : packetType.code = code := by
  simpa using List.find?_some found

end PacketType

end Mqtt
