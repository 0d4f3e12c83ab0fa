import Mqtt.Proofs.Packet
import Mqtt.Proofs.Property.Order

/-! # Packets with shuffled properties

A body begins with the fields that stand in front of a property block of its packet
(`Mqtt.Packet.Precedes`). Whatever stands behind the block, a body in which the block is
shuffled is decoded as the same packet, or fails as well
(`Mqtt.Packet.decodeBody_shuffled`).
-/

namespace Mqtt

open Reader (alike_byteOr_bind alike_ofExcept_bind alike_unless alike_remaining_bind
  delimits_twoBytesOr delimits_packetId)

variable {first second : Bytes}

/-! ## Behind the fields in front of a block -/

/-- A typed block is read, and then what follows it. -/
theorem PropertyOwner.alike_typed (owner : PropertyOwner) {β : Type}
    {next : owner.Properties → Reader β} (alike : owner.read.Alike first second) :
    (PropertyBlock.read >>= fun block =>
      Reader.ofExcept (owner.ofBlock block) >>= next).Alike first second := by
  rw [← bind_assoc]
  exact alike.bind next

/-- After the same reason code, readers go on alike. -/
theorem PacketType.alike_readReason {packetType : PacketType} {code : UInt8} {β : Type}
    {next : ReasonCode → Reader β} (alike : ∀ reason, (next reason).Alike first second) :
    (packetType.readReason >>= next).Alike (code :: first) (code :: second) := by
  rw [PacketType.readReason, bind_assoc]
  exact alike_byteOr_bind <| alike_ofExcept_bind fun reason _ => alike reason

/-- Up to its properties, a CONNECT packet is the same. -/
theorem Connect.alike {name keepAlive : Bytes} {version flags : UInt8}
    (named : Reader.text.Delimits name) (timed : keepAlive.length = 2)
    (alike : PropertyOwner.connect.read.Alike first second) :
    read.Alike (name ++ version :: flags :: (keepAlive ++ first))
      (name ++ version :: flags :: (keepAlive ++ second)) :=
  named.alike fun _ => alike_unless fun _ =>
  alike_byteOr_bind <| alike_unless fun _ =>
  alike_byteOr_bind <| alike_ofExcept_bind fun _ _ =>
  (delimits_twoBytesOr timed).alike fun _ => PropertyOwner.connect.alike_typed alike

/-- A flags byte with the bit of the will message announces one. -/
theorem Connect.will_of_announced {flags : UInt8} {found : Announced}
    (announces : announced flags = .ok found) (flagged : bitOf flags 2) :
    ∃ qos retain, found.will = some (qos, retain) := by
  simp only [announced, flagged, Bool.not_true, Bool.false_and, Bool.false_eq_true, ↓reduceIte,
    Except.throw_eq_error, Except.error_bind, Except.ite_error_eq_ok_iff, Except.bind_eq_ok_iff,
    Except.pure_eq_ok_iff] at announces
  obtain ⟨-, qos, -, rfl⟩ := announces
  exact ⟨qos, _, rfl⟩

/-- A will message begins with its properties. -/
theorem Will.alike {qos : QoS} {retain : Bool}
    (alike : PropertyOwner.will.read.Alike first second) :
    (read qos retain).Alike first second :=
  PropertyOwner.will.alike_typed alike

/-- Up to the properties of its will message, a CONNECT packet is the same. -/
theorem Connect.alike_will {name keepAlive block clientId : Bytes} {version flags : UInt8}
    (named : Reader.text.Delimits name) (timed : keepAlive.length = 2)
    (blocked : PropertyBlock.read.Delimits block) (identified : Reader.text.Delimits clientId)
    (flagged : bitOf flags 2) (alike : PropertyOwner.will.read.Alike first second) :
    read.Alike (name ++ version :: flags :: (keepAlive ++ (block ++ (clientId ++ first))))
      (name ++ version :: flags :: (keepAlive ++ (block ++ (clientId ++ second)))) :=
  named.alike fun _ => alike_unless fun _ =>
  alike_byteOr_bind <| alike_unless fun _ =>
  alike_byteOr_bind <| alike_ofExcept_bind fun announced announces =>
  (delimits_twoBytesOr timed).alike fun _ => blocked.alike fun _ =>
  alike_ofExcept_bind fun _ _ => identified.alike fun _ => by
    obtain ⟨qos, retain, will⟩ := will_of_announced announces flagged
    rw [will]
    exact ((Will.alike alike).map some).bind _

theorem ConnAck.alike {flags reason : UInt8}
    (alike : PropertyOwner.connAck.read.Alike first second) :
    read.Alike (flags :: reason :: first) (flags :: reason :: second) :=
  alike_byteOr_bind <| alike_unless fun _ =>
  PacketType.alike_readReason fun _ => PropertyOwner.connAck.alike_typed alike

/-- After the same packet identifier, or none, readers go on alike. -/
theorem Publish.alike_readPacketId {packetId : Bytes} {qos : QoS} {β : Type}
    {next : Option UInt16 → Reader β}
    (identified : packetId.length = if qos.toByte = 0 then 0 else 2)
    (alike : ∀ packetId, (next packetId).Alike first second) :
    (readPacketId qos >>= next).Alike (packetId ++ first) (packetId ++ second) := by
  cases qos with
  | atMostOnce =>
      obtain rfl := List.length_eq_zero_iff.mp identified
      exact alike none
  | atLeastOnce | exactlyOnce =>
      change ((some <$> Reader.packetId) >>= next).Alike _ _
      rw [bind_map_left]
      exact (delimits_packetId identified).alike fun packetId => alike (some packetId)

theorem Publish.alike {topic packetId : Bytes} {flags : UInt8}
    (named : Reader.text.Delimits topic)
    (identified : packetId.length = if bitPairOf flags 1 = 0 then 0 else 2)
    (alike : PropertyOwner.publish.read.Alike first second) :
    (read flags).Alike (topic ++ (packetId ++ first)) (topic ++ (packetId ++ second)) :=
  alike_ofExcept_bind fun _ level => named.alike fun _ =>
  alike_readPacketId (QoS.ofByte_eq_ok_iff.mp level ▸ identified) fun _ =>
  PropertyOwner.publish.alike_typed alike

/-- Up to its properties, an acknowledgement is the same. Both bodies go on behind the
reason, so neither is in the short form. -/
theorem Ack.alike {packetId : Bytes} {reason : UInt8} (stage : AckStage)
    (identified : packetId.length = 2)
    (firstSome : first ≠ []) (secondSome : second ≠ [])
    (alike : (PropertyOwner.acknowledgement stage.packetType).read.Alike first second) :
    (read stage).Alike (packetId ++ reason :: first) (packetId ++ reason :: second) :=
  (delimits_packetId identified).alike fun _ =>
  alike_remaining_bind (List.cons_ne_nil _ _) (List.cons_ne_nil _ _) <|
  PacketType.alike_readReason fun _ =>
  alike_remaining_bind firstSome secondSome <|
  (PropertyOwner.acknowledgement stage.packetType).alike_typed alike

theorem SubscriptionAck.alike {packetId : Bytes} (stage : SubscriptionStage)
    (identified : packetId.length = 2)
    (alike : (PropertyOwner.acknowledgement stage.packetType).read.Alike first second) :
    (read stage).Alike (packetId ++ first) (packetId ++ second) :=
  (delimits_packetId identified).alike fun _ =>
  (PropertyOwner.acknowledgement stage.packetType).alike_typed alike

theorem Subscribe.alike {packetId : Bytes} (identified : packetId.length = 2)
    (alike : PropertyOwner.subscribe.read.Alike first second) :
    read.Alike (packetId ++ first) (packetId ++ second) :=
  (delimits_packetId identified).alike fun _ => PropertyOwner.subscribe.alike_typed alike

theorem Unsubscribe.alike {packetId : Bytes} (identified : packetId.length = 2)
    (alike : PropertyOwner.unsubscribe.read.Alike first second) :
    read.Alike (packetId ++ first) (packetId ++ second) :=
  (delimits_packetId identified).alike fun _ => PropertyOwner.unsubscribe.alike_typed alike

/-- Up to its properties, a DISCONNECT packet is the same, as neither body is in the short
form. -/
theorem Disconnect.alike {reason : UInt8} (firstSome : first ≠ []) (secondSome : second ≠ [])
    (alike : PropertyOwner.disconnect.read.Alike first second) :
    read.Alike (reason :: first) (reason :: second) :=
  alike_remaining_bind (List.cons_ne_nil _ _) (List.cons_ne_nil _ _) <|
  PacketType.alike_readReason fun _ =>
  alike_remaining_bind firstSome secondSome <| PropertyOwner.disconnect.alike_typed alike

theorem Auth.alike {reason : UInt8} (alike : PropertyOwner.auth.read.Alike first second) :
    read.Alike (reason :: first) (reason :: second) :=
  alike_byteOr_bind <| alike_ofExcept_bind fun _ _ => PropertyOwner.auth.alike_typed alike

/-! ## Bodies -/

namespace Packet

/-- The fields in front of a property block in the body of a packet of a kind with given
header flags. The block of a will message is there if bit 2 of the connect flags is set,
and the identifier of a PUBLISH packet if its quality of service is not the lowest. -/
inductive Precedes : PacketType → UInt8 → PropertyOwner → Bytes → Prop where
  | connect {flags : UInt8} {name keepAlive : Bytes} {version connectFlags : UInt8}
      (named : Reader.text.Delimits name) (timed : keepAlive.length = 2) :
      Precedes .connect flags .connect (name ++ version :: connectFlags :: keepAlive)
  | will {flags : UInt8} {name keepAlive block clientId : Bytes} {version connectFlags : UInt8}
      (named : Reader.text.Delimits name) (timed : keepAlive.length = 2)
      (blocked : PropertyBlock.read.Delimits block) (identified : Reader.text.Delimits clientId)
      (flagged : bitOf connectFlags 2) :
      Precedes .connect flags .will
        (name ++ version :: connectFlags :: (keepAlive ++ (block ++ clientId)))
  | connAck {flags connAckFlags reason : UInt8} :
      Precedes .connAck flags .connAck [connAckFlags, reason]
  | publish {flags : UInt8} {topic packetId : Bytes} (named : Reader.text.Delimits topic)
      (identified : packetId.length = if bitPairOf flags 1 = 0 then 0 else 2) :
      Precedes .publish flags .publish (topic ++ packetId)
  | ack {flags reason : UInt8} {packetId : Bytes} (stage : AckStage)
      (identified : packetId.length = 2) :
      Precedes stage.packetType flags (.acknowledgement stage.packetType) (packetId ++ [reason])
  | subscriptionAck {flags : UInt8} {packetId : Bytes} (stage : SubscriptionStage)
      (identified : packetId.length = 2) :
      Precedes stage.packetType flags (.acknowledgement stage.packetType) packetId
  | subscribe {flags : UInt8} {packetId : Bytes} (identified : packetId.length = 2) :
      Precedes .subscribe flags .subscribe packetId
  | unsubscribe {flags : UInt8} {packetId : Bytes} (identified : packetId.length = 2) :
      Precedes .unsubscribe flags .unsubscribe packetId
  | disconnect {flags reason : UInt8} : Precedes .disconnect flags .disconnect [reason]
  | auth {flags reason : UInt8} : Precedes .auth flags .auth [reason]

variable {packetType : PacketType} {flags : UInt8} {owner : PropertyOwner} {before : Bytes}

/-- Behind the fields in front of a property block, bodies are read alike if the typed
block is. -/
theorem Precedes.alike_readBody (precedes : Precedes packetType flags owner before)
    (firstSome : first ≠ []) (secondSome : second ≠ []) (alike : owner.read.Alike first second) :
    (readBody packetType flags).Alike (before ++ first) (before ++ second) := by
  cases precedes with
  | connect named timed =>
      simp only [List.append_assoc, List.cons_append]
      exact (Connect.alike named timed alike).map Packet.connect
  | will named timed blocked identified flagged =>
      simp only [List.append_assoc, List.cons_append]
      exact (Connect.alike_will named timed blocked identified flagged alike).map Packet.connect
  | connAck => exact (ConnAck.alike alike).map Packet.connAck
  | publish named identified =>
      simp only [List.append_assoc]
      exact (Publish.alike named identified alike).map Packet.publish
  | ack stage identified =>
      rw [readBody_ack, List.append_assoc, List.append_assoc]
      exact (Ack.alike stage identified firstSome secondSome alike).map (Packet.ack stage)
  | subscriptionAck stage identified =>
      rw [readBody_subscriptionAck]
      exact (SubscriptionAck.alike stage identified alike).map (Packet.subscriptionAck stage)
  | subscribe identified => exact (Subscribe.alike identified alike).map Packet.subscribe
  | unsubscribe identified => exact (Unsubscribe.alike identified alike).map Packet.unsubscribe
  | disconnect => exact (Disconnect.alike firstSome secondSome alike).map Packet.disconnect
  | auth => exact (Auth.alike alike).map Packet.auth

/-- Bodies in which a property block is shuffled are decoded as the same packet, or
neither of them is decoded. -/
theorem decodeBody_shuffled (precedes : Precedes packetType flags owner before)
    (shuffled : owner.Shuffled first second) (after : Bytes) (packet : Packet) :
    decodeBody packetType flags (before ++ first ++ after) = .ok packet ↔
      decodeBody packetType flags (before ++ second ++ after) = .ok packet := by
  obtain ⟨firstSome, secondSome⟩ := shuffled.ne_nil
  have alike : (readBody packetType flags).Alike
      (before ++ (first ++ after)) (before ++ (second ++ after)) :=
    precedes.alike_readBody (List.append_ne_nil_of_left_ne_nil firstSome _)
      (List.append_ne_nil_of_left_ne_nil secondSome _) (shuffled.alike after)
  simp only [decodeBody, Except.mapError_eq_ok_iff, ofBody_eq_ok_iff, List.append_assoc]
  exact and_congr_right fun _ => alike (packet, [])

/-- A message for two subscriptions, whose content type may stand anywhere among the
other properties. -/
theorem decodeBody_shuffled_publish :
    let properties : PublishProperties :=
      { userProperties := [⟨"a", "1"⟩], subscriptionIdentifiers := [7, 5],
        contentType := some "x" }
    let packet : Packet := .publish { topic := "t", properties, payload := [255] }
    let first : List Bytes := [[11, 7], [38, 0, 1, 97, 0, 1, 49], [11, 5], [3, 0, 1, 120]]
    let second : List Bytes := [[3, 0, 1, 120], [11, 7], [11, 5], [38, 0, 1, 97, 0, 1, 49]]
    Precedes .publish 0 .publish [0, 1, 116] ∧
      PropertyOwner.publish.Shuffled ([15] ++ first.flatten) ([15] ++ second.flatten) ∧
      decodeBody .publish 0 ([0, 1, 116] ++ ([15] ++ first.flatten) ++ [255]) = .ok packet ∧
      decodeBody .publish 0 ([0, 1, 116] ++ ([15] ++ second.flatten) ++ [255]) = .ok packet := by
  intro properties packet first second
  have named : Reader.text.Delimits [0, 1, 116] :=
    ⟨.ok "t", Reader.text_mirrors.read_written trivial (by decide +kernel)⟩
  have precedes : Precedes .publish 0 .publish [0, 1, 116] := .publish named (by decide)
  have delimits : ∀ part ∈ first, Property.read.Delimits part := by
    simp only [first, List.forall_mem_cons]
    exact ⟨⟨.ok ⟨.subscriptionIdentifier, (7 : UInt32)⟩, Property.read_encode rfl⟩,
      ⟨.ok ⟨.userProperty, ⟨"a", "1"⟩⟩, Property.read_encode (by decide +kernel)⟩,
      ⟨.ok ⟨.subscriptionIdentifier, (5 : UInt32)⟩, Property.read_encode rfl⟩,
      ⟨.ok ⟨.contentType, "x"⟩, Property.read_encode (by decide +kernel)⟩,
      List.forall_mem_nil _⟩
  have shuffled : PropertyOwner.publish.Shuffled ([15] ++ first.flatten) ([15] ++ second.flatten) :=
    .parts ⟨.last rfl, by decide, rfl⟩ delimits (by decide) (by decide +kernel)
  have found : decodeBody .publish 0 ([0, 1, 116] ++ ([15] ++ first.flatten) ++ [255]) =
      .ok packet := by decide +kernel
  exact ⟨precedes, shuffled, found, (decodeBody_shuffled precedes shuffled [255] packet).mp found⟩

end Packet

end Mqtt
