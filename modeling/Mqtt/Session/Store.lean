import Std.Data.ExtTreeMap
import Std.Data.ExtTreeSet
import Mqtt.Session.InFlight

/-! # Session state

What a session remembers between packets: the outgoing packets in flight, held
under their identifiers, and the identifiers of incoming messages that are
delivered exactly once and not yet released. Every operation gives its answer
and the state after it.
-/

namespace Mqtt

/-- Why a session refuses an operation. -/
inductive SessionError where
  /-- No packet is in flight under an identifier. -/
  | noSuchElement (packetId : UInt16)
  /-- A message that is never acknowledged cannot be in flight. -/
  | neverAcknowledged
  | noPacketId
  /-- The PUBREL packet cannot be built. -/
  | refused (error : PacketError)
deriving DecidableEq, Repr

/-- The wording of a session error. -/
def SessionError.message : SessionError → String
  | noSuchElement packetId =>
      s!"No Such Element: no in-flight packet with identifier {packetId}"
  | neverAcknowledged => "Invalid Argument: QoS 0 PUBLISH is never acknowledged"
  | noPacketId => "Invalid Argument: PUBLISH has no packet identifier"
  | refused error => s!"Invalid Argument: {error.message}"

/-- The state of a session. -/
structure Session where
  /-- The outgoing packets in flight, under their identifiers. -/
  inFlight : Std.ExtTreeMap UInt16 InFlight := ∅
  /-- The identifiers of incoming messages that are not yet released. -/
  incoming : Std.ExtTreeSet UInt16 := ∅
  /-- The last sequence key that was given out. -/
  lastKey : Nat := 0

namespace Session

/-! ## Outgoing packets -/

/-- Puts a message in flight, in place of any packet with its identifier. -/
def store (session : Session) (publish : Publish) (now : Instant) :
    Except SessionError InFlightPublish × Session :=
  if publish.qos = .atMostOnce then (.error .neverAcknowledged, session)
  else
    match publish.packetId with
    | none => (.error .noPacketId, session)
    | some packetId =>
        let key := session.lastKey + 1
        let entry : InFlightPublish := { packet := publish, created := now, key }
        (.ok entry, { session with
          inFlight := session.inFlight.insert packetId (.publish entry)
          lastKey := key })

/-- Puts a PUBREL packet in the place of a message, given by its identifier
alone. The PUBREL packet keeps the time of the message and gets a new sequence
key; one that is already there stays as it is. -/
def replace (session : Session) (publish : InFlightPublish) :
    Except SessionError InFlightPubrel × Session :=
  let packetId := publish.packetId
  match session.inFlight[packetId]? with
  | none => (.error (.noSuchElement packetId), session)
  | some (.pubrel pubrel) => (.ok pubrel, session)
  | some (.publish stored) =>
      match Ack.build .pubRel { packetId } with
      | .error error => (.error (.refused error), session)
      | .ok packet =>
          let key := session.lastKey + 1
          let entry : InFlightPubrel := { packet, created := stored.created, key }
          (.ok entry, { session with
            inFlight := session.inFlight.insert packetId (.pubrel entry)
            lastKey := key })

/-- Takes the packet with an identifier out of flight. -/
def acknowledge (session : Session) (packetId : UInt16) : Option InFlight × Session :=
  (session.inFlight[packetId]?,
    { session with inFlight := session.inFlight.erase packetId })

/-- The packets in flight, in ascending order of key. -/
def entries (session : Session) : List InFlight :=
  session.inFlight.values.mergeSort fun first second => first.key ≤ second.key

/-- The packets in flight that have not expired, in ascending order of key. -/
def unacknowledgedAt (session : Session) (now : Instant) : List InFlight :=
  session.entries.filter fun entry => !entry.isExpired now

/-- A packet is in flight under an identifier. -/
def contains (session : Session) (packetId : UInt16) : Bool :=
  session.inFlight.contains packetId

/-- The number of packets in flight. -/
def size (session : Session) : Nat :=
  session.inFlight.size

/-! ## Incoming messages -/

/-- Records the identifier of an incoming message and tells whether it was
recorded before, so that the message is a repetition. -/
def remember (session : Session) (publish : Publish) : Except SessionError Bool × Session :=
  match publish.packetId with
  | none => (.error .noPacketId, session)
  | some packetId =>
      (.ok (session.incoming.contains packetId),
        { session with incoming := session.incoming.insert packetId })

/-- The identifier of an incoming message is recorded. -/
def remembers (session : Session) (publish : Publish) : Bool :=
  publish.packetId.any session.incoming.contains

/-- Forgets the identifier of an incoming message that a PUBREL packet
releases. -/
def release (session : Session) (pubrel : Ack) : Session :=
  { session with incoming := session.incoming.erase pubrel.packetId }

/-- Forgets every outgoing packet and every incoming identifier. Sequence keys
go on. -/
def clear (session : Session) : Session :=
  { session with inFlight := ∅, incoming := ∅ }

end Session

end Mqtt
