import Mqtt.Wire.Reader

/-! # Writing fields

A text or binary data is written after its length in two bytes, so it has at
most 65,535 bytes.
-/

namespace Mqtt

namespace Field

/-- A text after its length. -/
def ofText (text : String) : Except PacketError Bytes :=
  if text.utf8ByteSize > maximumFieldLength then
    .error (.malformed (.textTooLong text.utf8ByteSize))
  else .ok (Bytes.ofUInt16 (UInt16.ofNat text.utf8ByteSize) ++ Bytes.ofText text)

/-- Bytes after their number. -/
def ofBinary (bytes : Bytes) : Except PacketError Bytes :=
  if bytes.length > maximumFieldLength then .error (.malformed (.binaryTooLong bytes.length))
  else .ok (Bytes.ofUInt16 (UInt16.ofNat bytes.length) ++ bytes)

end Field

end Mqtt
