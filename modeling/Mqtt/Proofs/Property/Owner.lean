import Mqtt.Proofs.Packet.Ack
import Mqtt.Proofs.Packet.Auth
import Mqtt.Proofs.Packet.ConnAck
import Mqtt.Proofs.Packet.Connect
import Mqtt.Proofs.Packet.Disconnect
import Mqtt.Proofs.Packet.Publish
import Mqtt.Proofs.Packet.Subscribe

/-! # The owners of property blocks

Each part of a packet that has properties types the block that is read, and writes
a block for typed properties. Nothing is lost between the two: what is written for a
block that was typed is a rearrangement of the block, in which the values of each
kind have kept their order (`Mqtt.PropertyOwner.writtenBlock_of_ofBlock`).
-/

namespace Mqtt

open PropertyBlock

/-- The parts of packets that have properties. -/
inductive PropertyOwner where
  | connect
  /-- The will message in a CONNECT packet. -/
  | will
  | connAck
  | publish
  /-- PUBACK, PUBREC, PUBREL, PUBCOMP, SUBACK or UNSUBACK. -/
  | acknowledgement (packetType : PacketType)
  | subscribe
  | unsubscribe
  | disconnect
  | auth
deriving DecidableEq, Repr

namespace PropertyOwner

/-- The typed properties of an owner. -/
@[reducible] def Properties : PropertyOwner → Type
  | connect => ConnectProperties
  | will => WillProperties
  | connAck => ConnAckProperties
  | publish => PublishProperties
  | acknowledgement _ => AckProperties
  | subscribe => SubscribeProperties
  | unsubscribe => List UserProperty
  | disconnect => DisconnectProperties
  | auth => AuthProperties

/-- The kinds of property that an owner may have. -/
def kinds : PropertyOwner → List PropertyKind
  | connect => ConnectProperties.kinds
  | will => WillProperties.kinds
  | connAck => ConnAckProperties.kinds
  | publish => PublishProperties.kinds
  | acknowledgement _ => AckProperties.kinds
  | subscribe => SubscribeProperties.kinds
  | unsubscribe => Unsubscribe.kinds
  | disconnect => DisconnectProperties.kinds
  | auth => AuthProperties.kinds

/-- The kinds of property that an owner may have more than once. -/
def repeatable : PropertyOwner → List PropertyKind
  | publish => [.userProperty, .subscriptionIdentifier]
  | _ => [.userProperty]

/-- The typed properties that a block holds. -/
def ofBlock : (owner : PropertyOwner) → PropertyBlock → Except Fault owner.Properties
  | connect => ConnectProperties.ofBlock
  | will => WillProperties.ofBlock
  | connAck => ConnAckProperties.ofBlock
  | publish => PublishProperties.ofBlock
  | acknowledgement packetType => AckProperties.ofBlock packetType
  | subscribe => SubscribeProperties.ofBlock
  | unsubscribe => Unsubscribe.propertiesOfBlock
  | disconnect => DisconnectProperties.ofBlock
  | auth => AuthProperties.ofBlock

/-- The rules that writing enforces on typed properties. -/
def check : (owner : PropertyOwner) → owner.Properties → Except Fault Unit
  | connect => ConnectProperties.check
  | connAck => ConnAckProperties.check
  | _ => fun _ => .ok ()

/-- Typed properties in the order in which they are written. -/
def toBlock : (owner : PropertyOwner) → owner.Properties → PropertyBlock
  | connect => ConnectProperties.toBlock
  | will => WillProperties.toBlock
  | connAck => ConnAckProperties.toBlock
  | publish => PublishProperties.toBlock
  | acknowledgement _ => AckProperties.toBlock
  | subscribe => SubscribeProperties.toBlock
  | unsubscribe => slots .userProperty
  | disconnect => DisconnectProperties.toBlock
  | auth => AuthProperties.toBlock

/-- The block that is written for typed properties, if they obey the rules. -/
def writtenBlock (owner : PropertyOwner) (properties : owner.Properties) :
    Except PacketError PropertyBlock := do
  (owner.check properties).mapError .invalid
  return owner.toBlock properties

/-- The two packets whose properties have rules for writing are written with their
blocks. -/
theorem encode_connect (packet : Connect) :
    packet.encode = do
      let name ← Field.ofText protocolName
      let properties ← (← connect.writtenBlock packet.properties).encode
      let clientId ← Field.ofText packet.clientId
      let will ← packet.will.elim (.ok []) Will.encode
      let username ← packet.username.elim (.ok []) Field.ofText
      let password ← packet.password.elim (.ok []) Field.ofBinary
      return name ++ protocolVersion :: packet.flags :: Bytes.ofUInt16 packet.keepAlive ++
        properties ++ clientId ++ will ++ username ++ password := by
  simp only [Connect.encode, writtenBlock, check, toBlock, bind_assoc, pure_bind]

/-- A CONNACK packet writes its block behind two bytes. -/
theorem encode_connAck (packet : ConnAck) :
    packet.encode = do
      let properties ← (← connAck.writtenBlock packet.properties).encode
      return packet.sessionPresent.toUInt8 :: packet.reason.code :: properties := by
  simp only [ConnAck.encode, writtenBlock, check, toBlock, bind_assoc, pure_bind]

/-- Writing enforces no rule where reading needs none. -/
theorem represents_of_unruled {α : Type} {toBlock : α → PropertyBlock}
    {ofBlock : PropertyBlock → Except Fault α}
    (represents : Represents toBlock ofBlock fun _ => True) :
    Represents toBlock ofBlock fun _ => (.ok () : Except Fault Unit) = .ok () := by
  simpa only using represents

/-- A block is typed exactly as the properties that obey the rules and that are written
as a block that agrees with it. -/
theorem represents : (owner : PropertyOwner) →
    Represents owner.toBlock owner.ofBlock fun properties => owner.check properties = .ok ()
  | connect => ConnectProperties.represents
  | will => represents_of_unruled WillProperties.represents
  | connAck => ConnAckProperties.represents
  | publish => represents_of_unruled PublishProperties.represents
  | acknowledgement packetType => represents_of_unruled (AckProperties.represents packetType)
  | subscribe => represents_of_unruled SubscribeProperties.represents
  | unsubscribe => represents_of_unruled Unsubscribe.represents
  | disconnect => represents_of_unruled DisconnectProperties.represents
  | auth => represents_of_unruled AuthProperties.represents

variable {owner : PropertyOwner} {properties : owner.Properties} {block : PropertyBlock}

/-- The written block is that of the properties, if these obey their rules. -/
theorem writtenBlock_eq_ok_iff {written : PropertyBlock} :
    owner.writtenBlock properties = .ok written ↔
      owner.check properties = .ok () ∧ owner.toBlock properties = written := by
  rw [writtenBlock, Except.bind_unit_eq_ok_iff, Except.mapError_eq_ok_iff, Except.pure_eq_ok_iff]

/-- What is written for the properties of a block is a rearrangement of the block. The
values of each kind keep their order, so those of a kind that may be repeated do. -/
theorem writtenBlock_of_ofBlock (typed : owner.ofBlock block = .ok properties) :
    ∃ written, owner.writtenBlock properties = .ok written ∧ written.Perm block ∧
      ∀ kind, written.values kind = block.values kind := by
  obtain ⟨fits, agrees⟩ := owner.represents.mp typed
  refine ⟨owner.toBlock properties, writtenBlock_eq_ok_iff.mpr ⟨fits, rfl⟩, agrees.perm.symm, ?_⟩
  exact fun kind => (agrees kind).symm

/-- A message that matches two subscriptions, with its properties out of the order in
which they are written. -/
theorem writtenBlock_of_ofBlock_publish :
    let block : PropertyBlock :=
      [⟨.subscriptionIdentifier, (7 : UInt32)⟩, ⟨.contentType, "text"⟩,
       ⟨.userProperty, ⟨"b", "1"⟩⟩, ⟨.subscriptionIdentifier, (5 : UInt32)⟩,
       ⟨.userProperty, ⟨"a", "2"⟩⟩]
    let properties : PublishProperties :=
      { userProperties := [⟨"b", "1"⟩, ⟨"a", "2"⟩], subscriptionIdentifiers := [7, 5],
        contentType := some "text" }
    PropertyOwner.publish.ofBlock block = .ok properties ∧
      ∃ written, PropertyOwner.publish.writtenBlock properties = .ok written ∧
        written.Perm block ∧ ∀ kind, written.values kind = block.values kind := by
  intro block properties
  have typed : PropertyOwner.publish.ofBlock block = .ok properties := rfl
  exact ⟨typed, writtenBlock_of_ofBlock typed⟩

end PropertyOwner

end Mqtt
