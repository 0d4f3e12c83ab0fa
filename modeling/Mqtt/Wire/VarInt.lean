import Mqtt.Wire.Reader

/-! # Variable byte integers

An integer in at most four digits of base 128, the low digit first. Every digit
but the last has the high bit of its byte set.
-/

namespace Mqtt

namespace VarInt

/-- The weight of the fourth digit, the greatest that a digit may have. -/
def greatestWeight : UInt32 := 128 * 128 * 128

/-- Reads the digits from the one with a given weight on, on top of the value of
the digits before it. -/
def readFrom (weight value : UInt32) : Reader UInt32
  | [] => .error .varIntMissing
  | byte :: rest =>
      if weight > greatestWeight then .error .varIntTooLong
      else
        let value := value + (byte &&& 127).toUInt32 * weight
        if byte &&& 128 = 0 then .ok (value, rest) else readFrom (weight * 128) value rest

/-- A variable byte integer. -/
def read : Reader UInt32 :=
  readFrom 1 0

/-- Looks for the digits from the one with a given weight on, on top of the
value and the number of the digits before it. -/
def peekFrom (weight value : UInt32) (width : Nat) : Bytes → Except Fault (Option (UInt32 × Nat))
  | [] => .ok none
  | byte :: rest =>
      if weight > greatestWeight then .error .varIntTooLong
      else
        let value := value + (byte &&& 127).toUInt32 * weight
        if byte &&& 128 = 0 then .ok (some (value, width + 1))
        else peekFrom (weight * 128) value (width + 1) rest

/-- The variable byte integer at the front of some bytes and the number of its
digits, or nothing while more bytes are needed. -/
def peek (bytes : Bytes) : Except Fault (Option (UInt32 × Nat)) :=
  peekFrom 1 0 0 bytes

/-- The number of digits of an integer; never more than four. -/
def size (value : Nat) : Nat :=
  if value ≤ 127 then 1
  else if value ≤ 16383 then 2
  else if value ≤ 2097151 then 3
  else 4

/-- The first digits of an integer, each marked if a nonzero part follows. -/
def digits : Nat → Nat → Bytes
  | 0, _ => []
  | count + 1, value =>
      let digit := UInt8.ofNat (value % 128)
      (if value / 128 > 0 then digit ||| 128 else digit) :: digits count (value / 128)

/-- The bytes of an integer, in as few digits as it needs. -/
def encode (value : Nat) : Except PacketError Bytes :=
  if value > maximumVarInt then .error (.invalid (.varIntTooLarge value))
  else .ok (digits (size value) value)

end VarInt

end Mqtt
