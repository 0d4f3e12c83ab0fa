/-! # Packet identifiers

Identifiers are handed out in a cycle from 1 to 65,535; zero is not an
identifier.
-/

namespace Mqtt

/-- The identifier after another in the cycle. -/
def PacketId.succ (packetId : UInt16) : UInt16 :=
  if packetId = 65535 then 1 else packetId + 1

/-- Hands out packet identifiers in a cycle. -/
structure PacketIdAllocator where
  /-- The identifier to be handed out next. -/
  upcoming : UInt16 := 1
deriving DecidableEq, Repr, Inhabited

namespace PacketIdAllocator

/-- The next identifier, whether or not it is in use. -/
def nextId (allocator : PacketIdAllocator) : UInt16 × PacketIdAllocator :=
  (allocator.upcoming, ⟨PacketId.succ allocator.upcoming⟩)

/-- The first identifier that is not in use among a given number of the next
ones. -/
def nextFreeWithin (inUse : UInt16 → Bool) :
    Nat → PacketIdAllocator → Option UInt16 × PacketIdAllocator
  | 0, allocator => (none, allocator)
  | count + 1, allocator =>
      let (packetId, allocator) := allocator.nextId
      if inUse packetId then nextFreeWithin inUse count allocator
      else (some packetId, allocator)

/-- The next identifier that is not in use, unless all 65,535 are. -/
def nextFreeId (inUse : UInt16 → Bool) (allocator : PacketIdAllocator) :
    Option UInt16 × PacketIdAllocator :=
  nextFreeWithin inUse 65535 allocator

end PacketIdAllocator

end Mqtt
