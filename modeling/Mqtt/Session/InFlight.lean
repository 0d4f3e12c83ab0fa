import Mqtt.Packet

/-! # Packets in flight

An outgoing message that awaits its acknowledgement, or the PUBREL packet that
has taken its place. Both remember when the message was stored, and a sequence
key that orders them for retransmission.
-/

namespace Mqtt

/-- A moment, in nanoseconds from some fixed one. -/
structure Instant where
  nanoseconds : Int
deriving DecidableEq, Repr, Inhabited

namespace Instant

instance : LE Instant where
  le first second := first.nanoseconds ≤ second.nanoseconds

instance (first second : Instant) : Decidable (first ≤ second) :=
  inferInstanceAs (Decidable (first.nanoseconds ≤ second.nanoseconds))

/-- The nanoseconds from one moment to another; zero if the other comes first. -/
def elapsed (since now : Instant) : Nat :=
  (now.nanoseconds - since.nanoseconds).toNat

end Instant

/-- The number of nanoseconds in a second. -/
def nanosecondsPerSecond : Nat :=
  1000000000

/-- An outgoing message that awaits PUBACK or PUBREC. -/
structure InFlightPublish where
  packet : Publish
  /-- When the message was stored. -/
  created : Instant
  /-- Packets are sent again in ascending order of key. -/
  key : Nat
deriving DecidableEq, Repr, Inhabited

namespace InFlightPublish

/-- The identifier of the message; zero if it has none. -/
def packetId (publish : InFlightPublish) : UInt16 :=
  publish.packet.packetId.getD 0

/-- More time than the message expiry interval has passed. -/
def isExpired (publish : InFlightPublish) (now : Instant) : Bool :=
  publish.packet.properties.messageExpiryInterval.any fun seconds =>
    publish.created.elapsed now > seconds.toNat * nanosecondsPerSecond

end InFlightPublish

/-- A PUBREL packet that awaits PUBCOMP. -/
structure InFlightPubrel where
  packet : Ack
  /-- When the message that it releases was stored. -/
  created : Instant
  /-- Packets are sent again in ascending order of key. -/
  key : Nat
deriving DecidableEq, Repr, Inhabited

/-- An outgoing packet that is not fully acknowledged. -/
inductive InFlight where
  | publish (packet : InFlightPublish)
  | pubrel (packet : InFlightPubrel)
deriving DecidableEq, Repr, Inhabited

namespace InFlight

/-- The packet identifier. -/
def packetId : InFlight → UInt16
  | publish packet => packet.packetId
  | pubrel packet => packet.packet.packetId

/-- The sequence key. -/
def key : InFlight → Nat
  | publish packet => packet.key
  | pubrel packet => packet.key

/-- When the message was stored. -/
def created : InFlight → Instant
  | publish packet => packet.created
  | pubrel packet => packet.created

/-- A message may expire; a PUBREL packet never does. -/
def isExpired (now : Instant) : InFlight → Bool
  | publish packet => packet.isExpired now
  | pubrel _ => false

/-- The packet to send again; a message is marked as a repetition. -/
def toPacket : InFlight → Packet
  | publish packet => .publish packet.packet.asDuplicate
  | pubrel packet => .ack .pubRel packet.packet

end InFlight

end Mqtt
