import Mqtt.Packet

/-! # Packets from a stream

Bytes arrive in pieces of any size. A frame reader holds them back until a whole
frame is there, and takes frames off the front one at a time.
-/

namespace Mqtt

/-- The bytes of a stream that no packet has taken yet, and the greatest size of
a frame. -/
structure FrameReader where
  buffer : Bytes := []
  maximumSize : Nat := maximumVarInt
deriving DecidableEq, Repr, Inhabited

namespace FrameReader

/-- Adds bytes that have arrived. -/
def extend (reader : FrameReader) (bytes : Bytes) : FrameReader :=
  { reader with buffer := reader.buffer ++ bytes }

/-- What the front of a buffer shows of the next frame. -/
inductive Front where
  /-- The header or the body is not complete. -/
  | incomplete
  /-- The header can never start a frame that is accepted. -/
  | rejected (error : PacketError)
  /-- A whole frame: its kind, its flags, its body, and the bytes after it. -/
  | frame (packetType : PacketType) (flags : UInt8) (body rest : Bytes)
deriving DecidableEq, Repr

/-- What the front of a buffer shows of the next frame. The header decides as
soon as it is complete, before the body is. -/
def front (maximumSize : Nat) : Bytes → Front
  | control :: lengthBytes@(_ :: _) =>
      match PacketType.ofControlByte control with
      | .error fault => .rejected (.malformed fault)
      | .ok packetType =>
          match VarInt.peek lengthBytes with
          | .error fault => .rejected (.malformed fault)
          | .ok none => .incomplete
          | .ok (some (remainingLength, width)) =>
              let size := 1 + width + remainingLength.toNat
              if size > maximumSize then .rejected (.tooLarge size maximumSize)
              else
                match Bytes.splitExact? remainingLength.toNat (lengthBytes.drop width) with
                | none => .incomplete
                | some (body, rest) => .frame packetType (control &&& 15) body rest
  | _ => .incomplete

/-- Takes the next packet, if its whole frame has arrived. A frame whose body is
malformed is taken as well; a rejected header stays. -/
def next (reader : FrameReader) : Except PacketError (Option Packet) × FrameReader :=
  match front reader.maximumSize reader.buffer with
  | .incomplete => (.ok none, reader)
  | .rejected error => (.error error, reader)
  | .frame packetType flags body rest =>
      ((Packet.decodeBody packetType flags body).map some, { reader with buffer := rest })

end FrameReader

end Mqtt
