import Mqtt.Packet
import Mqtt.Proofs.Cursor.Field
import Mqtt.Proofs.Packet.Subscribe

/-! # Packets under a cursor

The packets of all kinds as they are scanned, from the bytes after a header and from a
whole frame. Each scan realizes the reader of its packet, so whatever bytes arrive,
and whatever kind and flags a header announces, decoding ends with a packet or with
the error of a malformed packet, and no step on the way crashes
(`Mqtt.Packet.decoding_never_crashes`).
-/

namespace Mqtt

open Scan (Realizes)

/-! ## Bodies -/

namespace PacketType

/-- The reason code of a packet. -/
def scanReason (packetType : PacketType) : Scan ReasonCode := do
  Scan.ofExcept .malformed (packetType.reasonOfByte (← Scan.byte))

/-- The scan of a reason refuses the codes that the kind of packet does not have. -/
theorem realizes_scanReason (packetType : PacketType) :
    packetType.scanReason.Realizes packetType.readReason :=
  Scan.realizes_byte.bind fun _ => .ofExcept _

end PacketType

namespace Ack

/-- The packet after its fixed header. -/
def scan (stage : AckStage) : Scan Ack := do
  let packetId ← Scan.packetId
  if (← Scan.remaining) = 0 then return { packetId }
  let reason ← stage.packetType.scanReason
  if (← Scan.remaining) = 0 then return { packetId, reason }
  let properties ← Scan.ofExcept .malformed
    (AckProperties.ofBlock stage.packetType (← Scan.properties))
  return { packetId, reason, properties }

/-- The scan of an acknowledgement asks twice whether bytes are left, as the reader does. -/
theorem realizes_scan (stage : AckStage) : (scan stage).Realizes (read stage) := by
  refine Scan.realizes_packetId.bind fun packetId => .ifNothingLeft (.pure _) ?_
  refine stage.packetType.realizes_scanReason.bind fun reason => .ifNothingLeft (.pure _) ?_
  refine Scan.realizes_properties.bind fun block => (Realizes.ofExcept _).bind fun properties => ?_
  exact .pure _

end Ack

namespace Auth

/-- The packet after its fixed header. -/
def scan : Scan Auth := do
  let reason ← Scan.ofExcept .malformed
    (PacketType.auth.reasonOfByte (← Scan.instead (.malformed .reasonMissing) Scan.byte))
  let properties ← Scan.ofExcept .malformed (AuthProperties.ofBlock (← Scan.properties))
  return { reason, properties }

theorem realizes_scan : scan.Realizes read := by
  refine (Scan.realizes_byteOr _).bind fun code => (Realizes.ofExcept _).bind fun reason => ?_
  refine Scan.realizes_properties.bind fun block => (Realizes.ofExcept _).bind fun properties => ?_
  exact .pure _

end Auth

namespace ConnAck

/-- The packet after its fixed header. -/
def scan : Scan ConnAck := do
  let flags ← Scan.byte
  if flags &&& 254 ≠ 0 then Scan.refuse .malformed .connAckFlagsReserved
  let reason ← PacketType.connAck.scanReason
  let properties ← Scan.ofExcept .malformed (ConnAckProperties.ofBlock (← Scan.properties))
  return { sessionPresent := flags = 1, reason, properties }

theorem realizes_scan : scan.Realizes read := by
  refine Scan.realizes_byte.bind fun flags => .ite (.refuse _) ?_
  refine PacketType.connAck.realizes_scanReason.bind fun reason => ?_
  refine Scan.realizes_properties.bind fun block => (Realizes.ofExcept _).bind fun properties => ?_
  exact .pure _

end ConnAck

namespace Will

/-- The properties, the topic and the payload of a will message with a given
quality of service and retain flag. -/
def scan (qos : QoS) (retain : Bool) : Scan Will := do
  let properties ← Scan.ofExcept .malformed (WillProperties.ofBlock (← Scan.properties))
  let topic ← Scan.text
  Scan.ofExcept .malformed (checkTopic topic)
  let payload ← Scan.binary
  return { topic, payload, qos, retain, properties }

theorem realizes_scan (qos : QoS) (retain : Bool) :
    (scan qos retain).Realizes (read qos retain) := by
  refine Scan.realizes_properties.bind fun block => (Realizes.ofExcept _).bind fun properties => ?_
  refine Scan.realizes_text.bind fun topic => (Realizes.ofExcept _).bind fun _ => ?_
  exact Scan.realizes_binary.bind fun payload => .pure _

end Will

namespace Connect

/-- A value that is there if it is announced. -/
def scanIf {α : Type} (present : Bool) (scan : Scan α) : Scan (Option α) :=
  if present then some <$> scan else pure none

/-- What is announced is scanned, and what is not is not. -/
theorem realizes_scanIf {α : Type} {scan : Scan α} {reader : Reader α} (present : Bool)
    (realizes : scan.Realizes reader) : (scanIf present scan).Realizes (readIf present reader) :=
  .ite (realizes.map some) (.pure none)

/-- The will message whose quality of service and retain flag are announced. -/
def scanWill : Option (QoS × Bool) → Scan (Option Will)
  | some (qos, retain) => some <$> Will.scan qos retain
  | none => pure none

/-- A will message is scanned if it is announced. -/
theorem realizes_scanWill (announced : Option (QoS × Bool)) :
    (scanWill announced).Realizes (readWill announced) := by
  cases announced with
  | none => exact .pure none
  | some will => exact (Will.realizes_scan will.1 will.2).map some

/-- The packet after its fixed header. -/
def scan : Scan Connect := do
  let name ← Scan.text
  if name ≠ protocolName then Scan.refuse .malformed (.protocolNameUnsupported name)
  let version ← Scan.byte
  if version ≠ protocolVersion then Scan.refuse .malformed (.protocolVersionUnsupported version)
  let announced ← Scan.ofExcept .malformed (announced (← Scan.byte))
  let keepAlive ← Scan.twoBytes
  let properties ← Scan.ofExcept .malformed (ConnectProperties.ofBlock (← Scan.properties))
  let clientId ← Scan.text
  let will ← scanWill announced.will
  let username ← scanIf announced.username Scan.text
  let password ← scanIf announced.password Scan.binary
  return { cleanStart := announced.cleanStart, keepAlive, properties, clientId, will, username,
           password }

theorem realizes_scan : scan.Realizes read := by
  refine Scan.realizes_text.bind fun name => .ite (.refuse _) ?_
  refine Scan.realizes_byte.bind fun version => .ite (.refuse _) ?_
  refine Scan.realizes_byte.bind fun flags => (Realizes.ofExcept _).bind fun announced => ?_
  refine Scan.realizes_twoBytes.bind fun keepAlive => ?_
  refine Scan.realizes_properties.bind fun block => (Realizes.ofExcept _).bind fun properties => ?_
  refine Scan.realizes_text.bind fun clientId => ?_
  refine (realizes_scanWill announced.will).bind fun will => ?_
  refine (realizes_scanIf announced.username Scan.realizes_text).bind fun username => ?_
  refine (realizes_scanIf announced.password Scan.realizes_binary).bind fun password => ?_
  exact .pure _

end Connect

namespace Disconnect

/-- The packet after its fixed header. -/
def scan : Scan Disconnect := do
  if (← Scan.remaining) = 0 then return {}
  let reason ← PacketType.disconnect.scanReason
  if (← Scan.remaining) = 0 then return { reason }
  let properties ← Scan.ofExcept .malformed (DisconnectProperties.ofBlock (← Scan.properties))
  return { reason, properties }

theorem realizes_scan : scan.Realizes read := by
  refine .ifNothingLeft (.pure _) ?_
  refine PacketType.disconnect.realizes_scanReason.bind fun reason => .ifNothingLeft (.pure _) ?_
  refine Scan.realizes_properties.bind fun block => (Realizes.ofExcept _).bind fun properties => ?_
  exact .pure _

end Disconnect

namespace Publish

/-- The packet identifier of a message with a given quality of service. -/
def scanPacketId : QoS → Scan (Option UInt16)
  | .atMostOnce => pure none
  | _ => some <$> Scan.packetId

/-- The packet identifier of a message is scanned if the message is acknowledged. -/
theorem realizes_scanPacketId (qos : QoS) : (scanPacketId qos).Realizes (readPacketId qos) := by
  cases qos with
  | atMostOnce => exact .pure none
  | atLeastOnce => exact Scan.realizes_packetId.map some
  | exactlyOnce => exact Scan.realizes_packetId.map some

/-- The packet after a fixed header with given flags. -/
def scan (flags : UInt8) : Scan Publish := do
  let qos ← Scan.ofExcept .malformed (QoS.ofByte (bitPairOf flags 1))
  let topic ← Scan.text
  let packetId ← scanPacketId qos
  let properties ← Scan.ofExcept .malformed (PublishProperties.ofBlock (← Scan.properties))
  let payload ← Scan.rest
  let packet : Publish := {
    duplicate := bitOf flags 3
    retain := bitOf flags 0
    qos, topic, packetId, properties, payload }
  Scan.ofExcept .malformed packet.check
  return packet

theorem realizes_scan (flags : UInt8) : (scan flags).Realizes (read flags) := by
  refine (Realizes.ofExcept _).bind fun qos => Scan.realizes_text.bind fun topic => ?_
  refine (realizes_scanPacketId qos).bind fun packetId => ?_
  refine Scan.realizes_properties.bind fun block => (Realizes.ofExcept _).bind fun properties => ?_
  refine Scan.realizes_rest.bind fun payload => ?_
  exact (Realizes.ofExcept _).bind fun _ => .pure _

end Publish

namespace Subscription

/-- A topic filter, its options byte, and the rules of both. -/
def scan : Scan Subscription := do
  let filter ← Scan.text
  let options ← Scan.ofExcept .malformed (SubscriptionOptions.ofByte (← Scan.byte))
  Scan.ofExcept .malformed (TopicFilter.check filter)
  return ⟨filter, options⟩

theorem realizes_scan : scan.Realizes read := by
  refine Scan.realizes_text.bind fun filter => Scan.realizes_byte.bind fun byte => ?_
  refine (Realizes.ofExcept _).bind fun options => (Realizes.ofExcept _).bind fun _ => ?_
  exact .pure _

end Subscription

namespace Subscribe

/-- The packet after its fixed header. -/
def scan : Scan Subscribe := do
  let packetId ← Scan.packetId
  let properties ← Scan.ofExcept .malformed (SubscribeProperties.ofBlock (← Scan.properties))
  let subscriptions ← Scan.items Subscription.scan
  if subscriptions.isEmpty then Scan.refuse .malformed (.filtersEmpty .subscribe)
  return { packetId, properties, subscriptions }

theorem realizes_scan : scan.Realizes read := by
  refine Scan.realizes_packetId.bind fun packetId => ?_
  refine Scan.realizes_properties.bind fun block => (Realizes.ofExcept _).bind fun properties => ?_
  have items := Scan.realizes_items Subscription.realizes_scan Subscription.read_consumes
  exact items.bind fun subscriptions => .ite (.refuse _) (.pure _)

end Subscribe

namespace Unsubscribe

/-- A topic filter that obeys the rules. -/
def scanFilter : Scan String := do
  let filter ← Scan.text
  Scan.ofExcept .malformed (TopicFilter.check filter)
  return filter

theorem realizes_scanFilter : scanFilter.Realizes readFilter :=
  Scan.realizes_text.bind fun _ => (Realizes.ofExcept _).bind fun _ => .pure _

/-- The packet after its fixed header. -/
def scan : Scan Unsubscribe := do
  let packetId ← Scan.packetId
  let userProperties ← Scan.ofExcept .malformed (propertiesOfBlock (← Scan.properties))
  let filters ← Scan.items scanFilter
  if filters.isEmpty then Scan.refuse .malformed (.filtersEmpty .unsubscribe)
  return { packetId, userProperties, filters }

theorem realizes_scan : scan.Realizes read := by
  refine Scan.realizes_packetId.bind fun packetId => ?_
  refine Scan.realizes_properties.bind fun block => (Realizes.ofExcept _).bind fun properties => ?_
  have items := Scan.realizes_items realizes_scanFilter readFilter_consumes
  exact items.bind fun filters => .ite (.refuse _) (.pure _)

end Unsubscribe

namespace SubscriptionAck

/-- The packet after its fixed header. -/
def scan (stage : SubscriptionStage) : Scan SubscriptionAck := do
  let packetId ← Scan.packetId
  let properties ← Scan.ofExcept .malformed
    (AckProperties.ofBlock stage.packetType (← Scan.properties))
  let reasons ← Scan.items stage.packetType.scanReason
  if reasons.isEmpty then Scan.refuse .malformed (.reasonsEmpty stage.packetType)
  return { packetId, properties, reasons }

theorem realizes_scan (stage : SubscriptionStage) : (scan stage).Realizes (read stage) := by
  refine Scan.realizes_packetId.bind fun packetId => ?_
  refine Scan.realizes_properties.bind fun block => (Realizes.ofExcept _).bind fun properties => ?_
  have items := Scan.realizes_items stage.packetType.realizes_scanReason
    stage.packetType.readReason_consumes
  exact items.bind fun reasons => .ite (.refuse _) (.pure _)

end SubscriptionAck

/-! ## Headers and frames -/

namespace FixedHeader

/-- A header. -/
def scan : Scan FixedHeader := do
  let control ← Scan.instead (.malformed .headerMissing) Scan.byte
  let packetType ← Scan.ofExcept .malformed (PacketType.ofControlByte control)
  let remainingLength ← Scan.varInt
  return { packetType, flags := control &&& 15, remainingLength := remainingLength.toNat }

theorem realizes_scan : scan.Realizes read := by
  refine (Scan.realizes_byteOr _).bind fun control => ?_
  refine (Realizes.ofExcept _).bind fun packetType => ?_
  exact Scan.realizes_varInt.bind fun remainingLength => .pure _

end FixedHeader

namespace Packet

/-- A packet of a given kind after a header with given flags. -/
def scanBody (packetType : PacketType) (flags : UInt8) : Scan Packet :=
  match packetType with
  | .connect => connect <$> Connect.scan
  | .connAck => connAck <$> ConnAck.scan
  | .publish => publish <$> Publish.scan flags
  | .pubAck => ack .pubAck <$> Ack.scan .pubAck
  | .pubRec => ack .pubRec <$> Ack.scan .pubRec
  | .pubRel => ack .pubRel <$> Ack.scan .pubRel
  | .pubComp => ack .pubComp <$> Ack.scan .pubComp
  | .subscribe => subscribe <$> Subscribe.scan
  | .subAck => subscriptionAck .subAck <$> SubscriptionAck.scan .subAck
  | .unsubscribe => unsubscribe <$> Unsubscribe.scan
  | .unsubAck => subscriptionAck .unsubAck <$> SubscriptionAck.scan .unsubAck
  | .pingReq => pure pingReq
  | .pingResp => pure pingResp
  | .disconnect => disconnect <$> Disconnect.scan
  | .auth => auth <$> Auth.scan

/-- The body of each kind of packet is scanned by the scan of that kind. -/
theorem realizes_scanBody (packetType : PacketType) (flags : UInt8) :
    (scanBody packetType flags).Realizes (readBody packetType flags) := by
  cases packetType with
  | connect => exact Connect.realizes_scan.map connect
  | connAck => exact ConnAck.realizes_scan.map connAck
  | publish => exact (Publish.realizes_scan flags).map publish
  | pubAck => exact (Ack.realizes_scan .pubAck).map (ack .pubAck)
  | pubRec => exact (Ack.realizes_scan .pubRec).map (ack .pubRec)
  | pubRel => exact (Ack.realizes_scan .pubRel).map (ack .pubRel)
  | pubComp => exact (Ack.realizes_scan .pubComp).map (ack .pubComp)
  | subscribe => exact Subscribe.realizes_scan.map subscribe
  | subAck => exact (SubscriptionAck.realizes_scan .subAck).map (subscriptionAck .subAck)
  | unsubscribe => exact Unsubscribe.realizes_scan.map unsubscribe
  | unsubAck => exact (SubscriptionAck.realizes_scan .unsubAck).map (subscriptionAck .unsubAck)
  | pingReq => exact .pure pingReq
  | pingResp => exact .pure pingResp
  | disconnect => exact Disconnect.realizes_scan.map disconnect
  | auth => exact Auth.realizes_scan.map auth

/-- The packet of a given kind that fills the bytes after a header with given flags. -/
def scanFilling (packetType : PacketType) (flags : UInt8) : Scan Packet := do
  Scan.ofExcept .malformed (packetType.checkFlags flags)
  let packet ← scanBody packetType flags
  let left ← Scan.remaining
  if left ≠ 0 then Scan.refuse .malformed (.bodyTrailing left packetType)
  return packet

/-- A body is scanned to its end, and bytes that are left are malformed. -/
theorem realizes_scanFilling (packetType : PacketType) (flags : UInt8) :
    (scanFilling packetType flags).Realizes fun body =>
      (ofBody packetType flags body).map fun packet => (packet, []) := by
  intro before after
  dsimp only
  rw [scanFilling, ofBody]
  cases packetType.checkFlags flags with
  | error fault => exact .refused fault
  | ok _ =>
      have passed : (Scan.ofExcept .malformed (.ok ()) : Scan Unit) (.between before after) =
          .ok ((), .between before after) := rfl
      rw [Scan.bind_of_ok passed, Except.ok_bind]
      obtain ⟨fault, outcome, stopped⟩ | ⟨packet, front, trailing, rfl, outcome, found⟩ :=
        (realizes_scanBody packetType flags).outcomes before after
      · rw [outcome, Scan.bind_of_error stopped]
        exact .refused fault
      · rw [outcome, Scan.bind_of_ok found, Scan.remaining_bind_between]
        cases trailing with
        | nil => exact .found packet rfl
        | cons byte others => exact .refused _

/-- The packet that fills a whole frame. -/
def scan : Scan Packet := do
  let header ← FixedHeader.scan
  let available ← Scan.remaining
  if available < header.remainingLength then
    Scan.refuse .malformed (.bodyMissing header.remainingLength available)
  if available > header.remainingLength then
    let trailing ← Scan.subtract available header.remainingLength
    Scan.refuse .malformed (.frameTrailing trailing header.packetType)
  let first ← Scan.position
  let body ← Scan.sliceFrom first
  Scan.inside body (scanFilling header.packetType header.flags)

/-- A whole frame is scanned to what it is decoded as. -/
theorem run_scan (frame : Bytes) : scan.run frame = Scan.ending (ofFrame frame) := by
  have start : ({ data := frame } : Cursor) = .between [] frame := rfl
  rw [Scan.run, start, scan, ofFrame]
  obtain ⟨fault, outcome, stopped⟩ | ⟨header, front, body, rfl, outcome, found⟩ :=
    FixedHeader.realizes_scan.outcomes [] frame
  · rw [outcome, Scan.bind_of_error stopped]
    rfl
  · rw [List.nil_append] at found
    rw [outcome, Scan.bind_of_ok found, Scan.remaining_bind_between, Except.ok_bind]
    dsimp only
    by_cases less : body.length < header.remainingLength
    · rw [if_pos less, if_pos less]
      rfl
    · rw [if_neg less, if_neg less]
      by_cases more : body.length > header.remainingLength
      · rw [if_pos more, if_pos more, Scan.subtract, if_pos (Nat.le_of_lt more)]
        rfl
      · have place : Scan.position (.between front body) =
            .ok (front.length, .between front body) := rfl
        rw [if_neg more, if_neg more, Scan.bind_of_ok place, Scan.bind_of_ok Scan.sliceFrom_between,
          Scan.inside_apply (realizes_scanFilling header.packetType header.flags)]
        cases ofBody header.packetType header.flags body <;> rfl

/-- A whole body is scanned to what it is decoded as. -/
theorem run_scanFilling (packetType : PacketType) (flags : UInt8) (body : Bytes) :
    (scanFilling packetType flags).run body = Scan.ending (ofBody packetType flags body) := by
  rw [(realizes_scanFilling packetType flags).run_eq]
  cases ofBody packetType flags body <;> rfl

/-- Whatever bytes arrive, decoding them as a frame, as the body of a packet of any kind
with any flags, and as a header ends with a value or because they are malformed, and so
does the scan that takes the same steps under a cursor: none of its steps crashes, and
it refuses the bytes with no other kind of error. -/
theorem decoding_never_crashes (bytes : Bytes) (packetType : PacketType) (flags : UInt8) :
    Scan.EndsAs (decode bytes) (scan.run bytes) ∧
      Scan.EndsAs (decodeBody packetType flags bytes) ((scanFilling packetType flags).run bytes) ∧
      Scan.EndsAs (((FixedHeader.read bytes).map Prod.fst).mapError .malformed)
        (FixedHeader.scan.run bytes) := by
  rw [run_scan, run_scanFilling, FixedHeader.realizes_scan.run_eq]
  exact ⟨Scan.endsAs_ending _, Scan.endsAs_ending _, Scan.endsAs_ending _⟩

end Packet

end Mqtt
