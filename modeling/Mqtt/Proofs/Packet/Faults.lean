import Mqtt.Packet
import Mqtt.Proofs.Wire.Reader

/-! # Faults in the body of a packet

The kind of a packet is settled by its control byte: whatever is wrong with the
bytes behind a header, the fault is never that the kind is unknown
(`Mqtt.Packet.inBody_ofBody`).
-/

namespace Mqtt

/-- A fault that can be found behind the header of a packet. -/
def Fault.InBody : Fault → Prop
  | .packetTypeUnknown _ => False
  | _ => True

namespace Except

variable {α β : Type} {change : α → β} {fault : Fault} {first : Except Fault α}

/-- A computation that fails only with faults behind the header. -/
def InBody (result : Except Fault α) : Prop :=
  ∀ fault, result = .error fault → fault.InBody

@[simp] theorem inBody_ok (value : α) : InBody (.ok value) := by
  intro fault found
  cases found

@[simp] theorem inBody_pure (value : α) : InBody (pure value) :=
  inBody_ok value

@[simp] theorem inBody_error : InBody (.error fault : Except Fault α) ↔ fault.InBody := by
  simp [InBody]

/-- Two steps fail behind the header when each of them does. -/
@[simp] theorem inBody_bind {second : α → Except Fault β} :
    InBody (first >>= second) ↔
      InBody first ∧ ∀ value, first = .ok value → InBody (second value) := by
  cases first with
  | error fault => simp [inBody_error]
  | ok value =>
      change InBody (second value) ↔ _
      simp

@[simp] theorem inBody_map : InBody (first.map change) ↔ InBody first := by
  cases first <;> simp [Except.map]

@[simp] theorem inBody_mapped : InBody (change <$> first) ↔ InBody first :=
  inBody_map

@[simp] theorem inBody_ite {condition : Prop} [Decidable condition] {second : Except Fault α} :
    InBody (if condition then first else second) ↔
      (condition → InBody first) ∧ (¬ condition → InBody second) := by
  split <;> simp [*]

end Except

/-! ## Readers -/

namespace Reader

variable {α β : Type} {first : Reader α} {bytes : Bytes}

/-- Two readers fail behind the header when each of them does, on what the first leaves. -/
@[simp] theorem inBody_bind {second : α → Reader β} :
    Except.InBody ((first >>= second) bytes) ↔
      Except.InBody (first bytes) ∧
        ∀ value rest, first bytes = .ok (value, rest) → Except.InBody (second value rest) := by
  change Except.InBody (first bytes >>= fun pair => second pair.1 pair.2) ↔ _
  rw [Except.inBody_bind, Prod.forall]

@[simp] theorem inBody_pure (value : α) : Except.InBody ((pure value : Reader α) bytes) :=
  Except.inBody_ok _

@[simp] theorem inBody_map {change : α → β} :
    Except.InBody ((change <$> first) bytes) ↔ Except.InBody (first bytes) := by
  rw [map_eq_pure_bind, inBody_bind]
  simp

@[simp] theorem inBody_ofExcept {result : Except Fault α} :
    Except.InBody (ofExcept result bytes) ↔ Except.InBody result :=
  Except.inBody_map

@[simp] theorem inBody_remaining : Except.InBody (remaining bytes) :=
  Except.inBody_ok _

@[simp] theorem inBody_rest : Except.InBody (rest bytes) :=
  Except.inBody_ok _

/-- A missing byte fails with the fault that is named for it. -/
@[simp] theorem inBody_byteOr {missing : Fault} :
    Except.InBody (byteOr missing bytes) ↔ (bytes = [] → missing.InBody) := by
  cases bytes <;> simp [byteOr]

@[simp] theorem inBody_twoBytesOr {missing : Fault} :
    Except.InBody (twoBytesOr missing bytes) ↔ (bytes.length < 2 → missing.InBody) := by
  match bytes with
  | [] => simp [twoBytesOr]
  | [_] => simp [twoBytesOr]
  | _ :: _ :: others =>
      have enough : ¬ others.length + 1 + 1 < 2 := by omega
      simp [twoBytesOr, enough]

/-- Too few bytes fail with the fault that is named for them. -/
@[simp] theorem inBody_exactly {count : Nat} {missing : Nat → Fault} :
    Except.InBody (exactly count missing bytes) ↔
      (bytes.length < count → (missing bytes.length).InBody) := by
  rw [← Bytes.splitExact?_eq_none_iff]
  unfold exactly
  split
  · next found => simp [found]
  · next absent => simp [absent]

@[simp] theorem inBody_fourBytes : Except.InBody (fourBytes bytes) := by
  unfold fourBytes
  split <;> simp [Fault.InBody]

@[simp] theorem inBody_byte : Except.InBody (byte bytes) := by
  simp [byte, Fault.InBody]

@[simp] theorem inBody_twoBytes : Except.InBody (twoBytes bytes) := by
  simp [twoBytes, Fault.InBody]

/-- A text that is cut short or spells nothing is no fault of the header. -/
@[simp] theorem inBody_text : Except.InBody (text bytes) := by
  simp only [text, inBody_bind, inBody_twoBytesOr, inBody_exactly, Fault.InBody, implies_true,
    true_and]
  intro length _ _ front _ _
  cases Bytes.toText? front <;> simp [Fault.InBody]

@[simp] theorem inBody_binary : Except.InBody (binary bytes) := by
  simp [binary, Fault.InBody]

/-- A packet identifier that is cut short or zero is no fault of the header. -/
@[simp] theorem inBody_packetId : Except.InBody (packetId bytes) := by
  simp only [packetId, inBody_bind, inBody_twoBytesOr, Fault.InBody, implies_true, true_and]
  intro value _ _
  by_cases zero : value = 0 <;> simp [zero, Fault.InBody]

/-- Items fail only as one of them does. -/
theorem inBody_itemsWithin {item : Reader α} (behind : ∀ bytes, Except.InBody (item bytes))
    (bound : Nat) (read : List α) (bytes : Bytes) :
    Except.InBody (itemsWithin item bound read bytes) := by
  induction bound generalizing read bytes with
  | zero => exact Except.inBody_ok _
  | succ bound ih =>
      cases bytes with
      | nil => exact Except.inBody_ok _
      | cons byte others =>
          have failure := behind (byte :: others)
          cases found : item (byte :: others) with
          | error fault =>
              rw [itemsWithin_of_error found]
              rw [found] at failure
              exact Except.inBody_error.mpr (Except.inBody_error.mp failure)
          | ok pair =>
              rw [itemsWithin_of_ok found]
              exact ih _ _

/-- A list of items fails only as an item does. -/
@[simp] theorem inBody_items {item : Reader α} (behind : ∀ bytes, Except.InBody (item bytes)) :
    Except.InBody (items item bytes) :=
  Except.inBody_map.mpr (inBody_itemsWithin behind _ _ _)

/-- What is read within a length is cut short behind the header, or fails as it does itself. -/
@[simp] theorem inBody_within {inner : Reader α} {count : Nat} {missing : Nat → Fault}
    (behind : ∀ left, (missing left).InBody) (insideBehind : ∀ bytes, Except.InBody (inner bytes)) :
    Except.InBody (within count missing inner bytes) := by
  simp only [within, inBody_bind, inBody_ofExcept, Except.inBody_map]
  exact ⟨inBody_exactly.mpr fun _ => behind _, fun front _ _ => insideBehind front⟩

end Reader

/-! ## Fields -/

/-- No fault of a number is one of a header. -/
@[simp] theorem VarInt.inBody_read {bytes : Bytes} : Except.InBody (VarInt.read bytes) := by
  have each : ∀ (bytes : Bytes) (weight value : UInt32),
      Except.InBody (VarInt.readFrom weight value bytes) := by
    intro bytes
    induction bytes with
    | nil => simp [VarInt.readFrom, Fault.InBody]
    | cons byte others ih => simp [VarInt.readFrom, ih, Fault.InBody]
  exact each bytes 1 0

@[simp] theorem ValueType.inBody_read (valueType : ValueType) {bytes : Bytes} :
    Except.InBody (valueType.read bytes) := by
  cases valueType <;> simp [ValueType.read, ValueType.readNonzero, ValueType.readPair, Fault.InBody]

@[simp] theorem Property.inBody_read {bytes : Bytes} : Except.InBody (Property.read bytes) := by
  simp only [Property.read, Reader.inBody_bind, Reader.inBody_byteOr, Fault.InBody, implies_true,
    true_and]
  intro identifier left _
  cases PropertyKind.ofIdentifier? identifier <;>
    simp [PropertyKind.readValue_eq, Fault.InBody]

/-- No fault of a block is one of a header. -/
@[simp] theorem PropertyBlock.inBody_read {bytes : Bytes} :
    Except.InBody (PropertyBlock.read bytes) := by
  simp only [PropertyBlock.read, Reader.inBody_bind, VarInt.inBody_read, true_and]
  intro length left _
  exact Reader.inBody_within (fun _ => trivial) fun _ =>
    Reader.inBody_items fun _ => Property.inBody_read

namespace PropertyBlock

variable {block : PropertyBlock} {kind : PropertyKind} {packetType : PacketType}

/-- A property of another kind is not a fault of the header. -/
@[simp] theorem inBody_checkKinds {kinds : List PropertyKind} :
    Except.InBody (block.checkKinds packetType kinds) := by
  unfold checkKinds
  split <;> simp [Fault.InBody]

@[simp] theorem inBody_value? : Except.InBody (block.value? kind) := by
  unfold value? atMostOne
  split <;> simp [Fault.InBody]

@[simp] theorem inBody_value : Except.InBody (block.value kind) := by
  simp only [value, Except.inBody_bind, inBody_value?, true_and]
  intro found _
  cases found <;> simp [Fault.InBody]

/-- What a value stands for fails only as its meaning does. -/
theorem inBody_valueAs? {α : Type} {meaning : kind.Value → Except Fault α}
    (behind : ∀ value, Except.InBody (meaning value)) :
    Except.InBody (block.valueAs? kind meaning) := by
  simp only [valueAs?, Except.inBody_bind, inBody_value?, true_and]
  intro found _
  cases found with
  | none => simp
  | some value => simp [behind value]

@[simp] theorem inBody_flag? {toByte : kind.Value → UInt8} :
    Except.InBody (block.flag? kind toByte) := by
  apply inBody_valueAs?
  intro value
  unfold flagOfByte
  simp [Fault.InBody]

end PropertyBlock

/-! ## Codes -/

@[simp] theorem QoS.inBody_ofByte {value : UInt8} : Except.InBody (QoS.ofByte value) := by
  unfold QoS.ofByte
  split <;> simp [Fault.InBody]

namespace PacketType

variable {packetType : PacketType}

@[simp] theorem inBody_checkReason {reason : ReasonCode} :
    Except.InBody (packetType.checkReason reason) := by
  simp [checkReason, Fault.InBody]

@[simp] theorem inBody_reasonOfByte {byte : UInt8} :
    Except.InBody (packetType.reasonOfByte byte) := by
  simp only [reasonOfByte, ReasonCode.ofByte, Except.inBody_bind, inBody_checkReason,
    Except.inBody_pure, implies_true, and_true]
  split <;> simp [Fault.InBody]

@[simp] theorem inBody_readReason {bytes : Bytes} :
    Except.InBody (packetType.readReason bytes) := by
  simp [readReason]

/-- Flags that a kind of packet does not accept are a fault behind the control byte. -/
@[simp] theorem inBody_checkFlags {flags : UInt8} :
    Except.InBody (packetType.checkFlags flags) := by
  unfold checkFlags
  cases packetType.reservedFlags <;> simp [Fault.InBody]

end PacketType

/-! ## Topics -/

@[simp] theorem TopicName.inBody_check {name : String} : Except.InBody (TopicName.check name) := by
  simp [TopicName.check, Fault.InBody]

@[simp] theorem TopicFilter.inBody_check {filter : String} :
    Except.InBody (TopicFilter.check filter) := by
  have each : ∀ levels, Except.InBody (TopicFilter.checkLevels filter levels) := by
    intro levels
    induction levels with
    | nil => simp [TopicFilter.checkLevels]
    | cons level others ih => simp [TopicFilter.checkLevels, ih, Fault.InBody]
  simp [TopicFilter.check, each, Fault.InBody]

@[simp] theorem Subscription.inBody_read {bytes : Bytes} :
    Except.InBody (Subscription.read bytes) := by
  have options : ∀ value, Except.InBody (SubscriptionOptions.ofByte value) := by
    intro value
    simp only [SubscriptionOptions.ofByte]
    cases RetainHandling.ofByte? (bitPairOf value 4) <;> simp [Fault.InBody]
  simp [Subscription.read, options]

/-! ## Packets -/

/- The look-ups of a block are one after the other, and no rewriting with them gets
through the types of the values. -/

@[simp] theorem AckProperties.inBody_ofBlock {packetType : PacketType} {block : PropertyBlock} :
    Except.InBody (AckProperties.ofBlock packetType block) := by
  simp only [AckProperties.ofBlock, Except.inBody_bind]
  repeat' first
    | exact PropertyBlock.inBody_checkKinds
    | exact PropertyBlock.inBody_value?
    | exact Except.inBody_pure _
    | refine ⟨?_, fun _ _ => ?_⟩

@[simp] theorem AuthProperties.inBody_ofBlock {block : PropertyBlock} :
    Except.InBody (AuthProperties.ofBlock block) := by
  simp only [AuthProperties.ofBlock, Except.inBody_bind]
  repeat' first
    | exact PropertyBlock.inBody_checkKinds
    | exact PropertyBlock.inBody_value
    | exact PropertyBlock.inBody_value?
    | exact Except.inBody_pure _
    | refine ⟨?_, fun _ _ => ?_⟩

@[simp] theorem ConnAckProperties.inBody_ofBlock {block : PropertyBlock} :
    Except.InBody (ConnAckProperties.ofBlock block) := by
  have level : ∀ value, Except.InBody (ConnAckProperties.maximumQoSOfByte value) := by
    intro value
    simp [ConnAckProperties.maximumQoSOfByte, Fault.InBody]
  simp only [ConnAckProperties.ofBlock, Except.inBody_bind]
  repeat' first
    | exact PropertyBlock.inBody_checkKinds
    | exact PropertyBlock.inBody_valueAs? level
    | exact PropertyBlock.inBody_value?
    | exact PropertyBlock.inBody_flag?
    | exact Except.inBody_pure _
    | refine ⟨?_, fun _ _ => ?_⟩

@[simp] theorem WillProperties.inBody_ofBlock {block : PropertyBlock} :
    Except.InBody (WillProperties.ofBlock block) := by
  simp only [WillProperties.ofBlock, Except.inBody_bind]
  repeat' first
    | exact PropertyBlock.inBody_checkKinds
    | exact PropertyBlock.inBody_value?
    | exact PropertyBlock.inBody_flag?
    | exact Except.inBody_pure _
    | refine ⟨?_, fun _ _ => ?_⟩

@[simp] theorem ConnectProperties.inBody_ofBlock {block : PropertyBlock} :
    Except.InBody (ConnectProperties.ofBlock block) := by
  have rules : ∀ properties, Except.InBody (ConnectProperties.check properties) := by
    intro properties
    simp [ConnectProperties.check, Fault.InBody]
  simp only [ConnectProperties.ofBlock, Except.inBody_bind]
  repeat' first
    | exact PropertyBlock.inBody_checkKinds
    | exact PropertyBlock.inBody_value?
    | exact PropertyBlock.inBody_flag?
    | exact rules _
    | exact Except.inBody_pure _
    | refine ⟨?_, fun _ _ => ?_⟩

@[simp] theorem PublishProperties.inBody_ofBlock {block : PropertyBlock} :
    Except.InBody (PublishProperties.ofBlock block) := by
  simp only [PublishProperties.ofBlock, Except.inBody_bind]
  repeat' first
    | exact PropertyBlock.inBody_checkKinds
    | exact PropertyBlock.inBody_value?
    | exact PropertyBlock.inBody_flag?
    | exact Except.inBody_pure _
    | refine ⟨?_, fun _ _ => ?_⟩

@[simp] theorem SubscribeProperties.inBody_ofBlock {block : PropertyBlock} :
    Except.InBody (SubscribeProperties.ofBlock block) := by
  simp only [SubscribeProperties.ofBlock, Except.inBody_bind]
  repeat' first
    | exact PropertyBlock.inBody_checkKinds
    | exact PropertyBlock.inBody_value?
    | exact Except.inBody_pure _
    | refine ⟨?_, fun _ _ => ?_⟩

@[simp] theorem DisconnectProperties.inBody_ofBlock {block : PropertyBlock} :
    Except.InBody (DisconnectProperties.ofBlock block) := by
  simp only [DisconnectProperties.ofBlock, Except.inBody_bind]
  repeat' first
    | exact PropertyBlock.inBody_checkKinds
    | exact PropertyBlock.inBody_value?
    | exact Except.inBody_pure _
    | refine ⟨?_, fun _ _ => ?_⟩

theorem Ack.inBody_read {stage : AckStage} {bytes : Bytes} :
    Except.InBody (Ack.read stage bytes) := by
  simp [Ack.read]

theorem Auth.inBody_read {bytes : Bytes} : Except.InBody (Auth.read bytes) := by
  simp [Auth.read, Fault.InBody]

theorem ConnAck.inBody_read {bytes : Bytes} : Except.InBody (ConnAck.read bytes) := by
  simp [ConnAck.read, Fault.InBody]

theorem Disconnect.inBody_read {bytes : Bytes} : Except.InBody (Disconnect.read bytes) := by
  simp [Disconnect.read]

theorem SubscriptionAck.inBody_read {stage : SubscriptionStage} {bytes : Bytes} :
    Except.InBody (SubscriptionAck.read stage bytes) := by
  simp [SubscriptionAck.read, Fault.InBody]

theorem Subscribe.inBody_read {bytes : Bytes} : Except.InBody (Subscribe.read bytes) := by
  simp [Subscribe.read, Fault.InBody]

theorem Unsubscribe.inBody_read {bytes : Bytes} : Except.InBody (Unsubscribe.read bytes) := by
  simp [Unsubscribe.read, Unsubscribe.propertiesOfBlock, Unsubscribe.readFilter, Fault.InBody]

/-- The checks of a PUBLISH packet fail behind the header as well. -/
theorem Publish.inBody_read {flags : UInt8} {bytes : Bytes} :
    Except.InBody (Publish.read flags bytes) := by
  have packetId : ∀ level bytes, Except.InBody (Publish.readPacketId level bytes) := by
    intro level bytes
    cases level <;> simp [Publish.readPacketId]
  have identifier : ∀ level packetId, Except.InBody (Publish.checkPacketId level packetId) := by
    intro level packetId
    cases level <;> cases packetId <;> simp [Publish.checkPacketId, Fault.InBody]
  have response : ∀ topic : Option String,
      Except.InBody (topic.elim (.ok ()) TopicName.check) := by
    intro topic
    cases topic <;> simp
  have identifiers : ∀ values, Except.InBody (Publish.checkSubscriptionIdentifiers values) := by
    intro values
    unfold Publish.checkSubscriptionIdentifiers
    split <;> simp [Fault.InBody]
  simp [Publish.read, Publish.check, packetId, identifier, response, identifiers, Fault.InBody]

/-- The flags and the will message of a CONNECT packet fail behind the header as well. -/
theorem Connect.inBody_read {bytes : Bytes} : Except.InBody (Connect.read bytes) := by
  have flags : ∀ value, Except.InBody (Connect.announced value) := by
    intro value
    simp [Connect.announced, Fault.InBody]
  have will : ∀ marks bytes, Except.InBody (Connect.readWill marks bytes) := by
    intro marks bytes
    cases marks with
    | none => simp [Connect.readWill]
    | some marks => simp [Connect.readWill, Will.read, Will.checkTopic, Fault.InBody]
  have username : ∀ present bytes, Except.InBody (Connect.readIf present Reader.text bytes) := by
    intro present bytes
    cases present <;> simp [Connect.readIf]
  have password : ∀ present bytes, Except.InBody (Connect.readIf present Reader.binary bytes) := by
    intro present bytes
    cases present <;> simp [Connect.readIf]
  simp [Connect.read, flags, will, username, password, Fault.InBody]

/-- Reading a body of any kind fails behind the header. -/
theorem Packet.inBody_readBody {packetType : PacketType} {flags : UInt8} {body : Bytes} :
    Except.InBody (Packet.readBody packetType flags body) := by
  cases packetType with
  | connect => exact Reader.inBody_map.mpr Connect.inBody_read
  | connAck => exact Reader.inBody_map.mpr ConnAck.inBody_read
  | publish => exact Reader.inBody_map.mpr Publish.inBody_read
  | pubAck | pubRec | pubRel | pubComp => exact Reader.inBody_map.mpr Ack.inBody_read
  | subscribe => exact Reader.inBody_map.mpr Subscribe.inBody_read
  | subAck | unsubAck => exact Reader.inBody_map.mpr SubscriptionAck.inBody_read
  | unsubscribe => exact Reader.inBody_map.mpr Unsubscribe.inBody_read
  | pingReq | pingResp => exact Reader.inBody_pure _
  | disconnect => exact Reader.inBody_map.mpr Disconnect.inBody_read
  | auth => exact Reader.inBody_map.mpr Auth.inBody_read

/-- The kind of a packet is never unknown behind its header. -/
theorem Packet.inBody_ofBody {packetType : PacketType} {flags : UInt8} {body : Bytes} :
    Except.InBody (Packet.ofBody packetType flags body) := by
  simp [Packet.ofBody, Packet.inBody_readBody, Fault.InBody]

end Mqtt
