import Mqtt.Wire.Reader

/-! # Codes in a byte

The named values that stand in one byte of a packet, with the fault of a byte
that names none.
-/

namespace Mqtt

/-- One bit of a byte; the lowest is at position 0. -/
def bitOf (byte position : UInt8) : Bool :=
  byte >>> position &&& 1 = 1

/-- The two bits of a byte from a position up. -/
def bitPairOf (byte position : UInt8) : UInt8 :=
  byte >>> position &&& 3

/-- The quality of service with a given number. -/
def QoS.ofByte (value : UInt8) : Except Fault QoS :=
  match QoS.ofByte? value with
  | some level => .ok level
  | none => .error (.qosUnknown value)

/-- The reason code of a byte, where zero has a given meaning. -/
def ReasonCode.ofByte (zeroMeaning : ReasonCode) (byte : UInt8) : Except Fault ReasonCode :=
  match ReasonCode.ofByte? zeroMeaning byte with
  | some reason => .ok reason
  | none => .error (.reasonUnknown byte)

namespace PacketType

/-- The rule that a packet carries only its own reason codes. -/
def checkReason (packetType : PacketType) (reason : ReasonCode) : Except Fault Unit :=
  if packetType.reasonCodes.contains reason then .ok ()
  else .error (.reasonNotAllowed reason packetType)

/-- The reason code of a byte in a packet. -/
def reasonOfByte (packetType : PacketType) (byte : UInt8) : Except Fault ReasonCode := do
  let reason ← ReasonCode.ofByte packetType.zeroReason byte
  packetType.checkReason reason
  return reason

/-- The reason code of a packet. -/
def readReason (packetType : PacketType) : Reader ReasonCode := do
  Reader.ofExcept (packetType.reasonOfByte (← Reader.byte))

/-- The kind of packet that a control byte announces in its high half. -/
def ofControlByte (control : UInt8) : Except Fault PacketType :=
  match ofCode? (control >>> 4) with
  | some packetType => .ok packetType
  | none => .error (.packetTypeUnknown (control >>> 4))

/-- The control byte of a packet: its code in the high half, its flags in the
low half. -/
def controlByte (packetType : PacketType) (flags : UInt8) : Except Fault UInt8 :=
  if flags ≥ 16 then .error (.flagsTooWide flags)
  else
    match packetType.reservedFlags with
    | some expected =>
        if flags ≠ expected then .error (.flagsUnwritable packetType expected flags)
        else .ok (packetType.code <<< 4 ||| flags)
    | none => .ok (packetType.code <<< 4 ||| flags)

/-- The rule on the flags of a packet that is read. -/
def checkFlags (packetType : PacketType) (flags : UInt8) : Except Fault Unit :=
  if flags ≥ 16 then .error (.flagsTooWide flags)
  else
    match packetType.reservedFlags with
    | some expected =>
        if flags ≠ expected then .error (.flagsReserved packetType expected flags) else .ok ()
    | none => .ok ()

end PacketType

end Mqtt
