import Mqtt.Wire.Code
import Mqtt.Wire.VarInt

/-! # Fixed headers

Every packet starts with a control byte, which holds its kind and four flags,
and the number of bytes that follow the header.
-/

namespace Mqtt

/-- The header of a packet. -/
structure FixedHeader where
  packetType : PacketType
  flags : UInt8
  remainingLength : Nat
deriving DecidableEq, Repr

namespace FixedHeader

/-- The number of bytes of a header. -/
def encodedLength (header : FixedHeader) : Nat :=
  1 + VarInt.size header.remainingLength

/-- The bytes of a header. A remaining length out of range is reported before
wrong flags. -/
def encode (header : FixedHeader) : Except PacketError Bytes := do
  if header.remainingLength > maximumVarInt then
    throw (.tooLarge header.remainingLength maximumVarInt)
  let control ← (header.packetType.controlByte header.flags).mapError .invalid
  let length ← VarInt.encode header.remainingLength
  return control :: length

/-- Puts a header at the end of a buffer, or leaves the buffer as it was. -/
def write (header : FixedHeader) (buffer : Bytes) : Except PacketError Unit × Bytes :=
  match header.encode with
  | .ok bytes => (.ok (), buffer ++ bytes)
  | .error error => (.error error, buffer)

/-- A header. Its flags are not compared with those reserved for its kind. -/
def read : Reader FixedHeader := do
  let control ← Reader.byteOr .headerMissing
  let packetType ← Reader.ofExcept (PacketType.ofControlByte control)
  let remainingLength ← VarInt.read
  return { packetType, flags := control &&& 15, remainingLength := remainingLength.toNat }

end FixedHeader

end Mqtt
