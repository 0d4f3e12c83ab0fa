import Mqtt.Proofs.Packet
import Mqtt.Proofs.Property.Spelling

/-! # The forms of a packet with an optional tail

An acknowledgement after its identifier, and a DISCONNECT packet from the start, may end
in a tail: nothing, a reason code, or a reason code and a property block
(`Mqtt.Tail`). Exactly the bodies of these forms are decoded. A reason code that is left
out is the success of its packet, and a block that is left out holds no properties
(`Mqtt.Packet.decodeBody_eq_ok_iff_tail`).
-/

namespace Mqtt

/-! ## Blocks of user properties and single ones -/

namespace PropertyBlock

variable {block : PropertyBlock} {kinds singles : List PropertyKind}

/-- A block holds user properties and properties of some other kinds, each of these kinds
at most once. -/
structure HoldsOnce (block : PropertyBlock) (singles : List PropertyKind) : Prop where
  kinds : ∀ property ∈ block, property.kind = .userProperty ∨ property.kind ∈ singles
  once : ∀ kind ∈ singles, (block.values kind).length ≤ 1

/-- Such a block has only kinds of the packet, and each but user properties once. -/
theorem holdsOnce_iff (same : ∀ kind, kind ∈ kinds ↔ kind = .userProperty ∨ kind ∈ singles) :
    block.HoldsOnce singles ↔
      block.OfKinds kinds ∧ ∀ kind ∈ singles, (block.values kind).length ≤ 1 := by
  simp only [OfKinds, same]
  constructor
  · exact fun holds => ⟨holds.kinds, holds.once⟩
  · exact fun holds => ⟨holds.1, holds.2⟩

/-- The values of a kind are an optional value when there is at most one and it is the
first. -/
theorem values_eq_toList_iff (kind : PropertyKind) {value : Option kind.Value} :
    block.values kind = value.toList ↔
      (block.values kind).length ≤ 1 ∧ (block.values kind).head? = value := by
  rcases block.values kind with _ | ⟨first, _ | ⟨second, others⟩⟩ <;> cases value <;> simp

end PropertyBlock

namespace AckProperties

/-- The properties with the values of a block. -/
def ofValues (block : PropertyBlock) : AckProperties where
  reasonString := (block.values .reasonString).head?
  userProperties := block.values .userProperty

/-- The properties of an acknowledgement are the values of a block that holds each once. -/
theorem ofBlock_eq_ok_iff_values {packetType : PacketType} {block : PropertyBlock}
    {properties : AckProperties} :
    ofBlock packetType block = .ok properties ↔
      block.HoldsOnce [.reasonString] ∧ ofValues block = properties := by
  have same (kind : PropertyKind) :
      kind ∈ kinds ↔ kind = .userProperty ∨ kind ∈ [.reasonString] := by
    cases kind <;> decide
  obtain ⟨reasonString, userProperties⟩ := properties
  rw [represents packetType, true_and, agrees_iff, PropertyBlock.holdsOnce_iff same]
  rw [PropertyBlock.values_eq_toList_iff .reasonString]
  simp only [List.forall_mem_singleton, ofValues, AckProperties.mk.injEq, and_assoc]

end AckProperties

namespace DisconnectProperties

/-- The properties with the values of a block. -/
def ofValues (block : PropertyBlock) : DisconnectProperties where
  sessionExpiryInterval := (block.values .sessionExpiryInterval).head?
  reasonString := (block.values .reasonString).head?
  userProperties := block.values .userProperty
  serverReference := (block.values .serverReference).head?

/-- The properties of a DISCONNECT packet are the values of a block that holds each once. -/
theorem ofBlock_eq_ok_iff_values {block : PropertyBlock} {properties : DisconnectProperties} :
    ofBlock block = .ok properties ↔
      block.HoldsOnce [.sessionExpiryInterval, .reasonString, .serverReference] ∧
        ofValues block = properties := by
  have same (kind : PropertyKind) : kind ∈ kinds ↔
      kind = .userProperty ∨ kind ∈ [.sessionExpiryInterval, .reasonString, .serverReference] := by
    cases kind <;> decide
  obtain ⟨sessionExpiryInterval, reasonString, userProperties, serverReference⟩ := properties
  rw [represents, true_and, agrees_iff, PropertyBlock.holdsOnce_iff same]
  rw [PropertyBlock.values_eq_toList_iff .sessionExpiryInterval,
    PropertyBlock.values_eq_toList_iff .reasonString,
    PropertyBlock.values_eq_toList_iff .serverReference]
  simp only [List.forall_mem_cons, List.not_mem_nil, false_imp_iff, implies_true, and_true,
    ofValues, DisconnectProperties.mk.injEq]
  constructor
  · rintro ⟨own, ⟨oneExpiry, expiry⟩, ⟨oneString, string⟩, users, oneReference, reference⟩
    exact ⟨⟨own, oneExpiry, oneString, oneReference⟩, expiry, string, users, reference⟩
  · rintro ⟨⟨own, oneExpiry, oneString, oneReference⟩, expiry, string, users, reference⟩
    exact ⟨own, ⟨oneExpiry, expiry⟩, ⟨oneString, string⟩, users, oneReference, reference⟩

end DisconnectProperties

/-! ## Tails -/

/-- The tail of a packet: nothing, or one of its own reason codes, or one of its own reason
codes and a block of user properties and of single ones. -/
inductive Tail (packetType : PacketType) (singles : List PropertyKind) :
    Bytes → Option ReasonCode → PropertyBlock → Prop where
  | nothing : Tail packetType singles [] none []
  | reason {reason : ReasonCode} (own : reason ∈ packetType.reasonCodes) :
      Tail packetType singles [reason.code] (some reason) []
  | properties {reason : ReasonCode} {block : PropertyBlock} {digits : Bytes}
      {parts : List Bytes} (own : reason ∈ packetType.reasonCodes)
      (spelled : block.SpelledBy digits parts) (holds : block.HoldsOnce singles) :
      Tail packetType singles (reason.code :: (digits ++ parts.flatten)) (some reason) block

section

variable {α β : Type} {packetType : PacketType} {singles : List PropertyKind}
  {ofBlock : PropertyBlock → Except Fault α} {ofValues : PropertyBlock → α} {value : β}
  {bytes : Bytes}

/-- A tail is read to the end exactly where it has one of the three forms. -/
theorem readTail_eq_ok_iff_tail (usual : ReasonCode) (full : ReasonCode → α → β)
    (typed : ∀ {block properties}, ofBlock block = .ok properties ↔
      block.HoldsOnce singles ∧ ofValues block = properties) :
    (do
      if (← Reader.remaining).isEmpty then return full usual (ofValues [])
      let reason ← packetType.readReason
      if (← Reader.remaining).isEmpty then return full reason (ofValues [])
      let properties ← Reader.ofExcept (ofBlock (← PropertyBlock.read))
      return full reason properties : Reader β) bytes = .ok (value, []) ↔
      ∃ reason block, Tail packetType singles bytes reason block ∧
        value = full (reason.getD usual) (ofValues block) := by
  rw [readTail_eq_ok_iff]
  constructor
  · rintro (⟨rfl, -, rfl⟩ | ⟨reason, own, ⟨rfl, -, rfl⟩ | form⟩)
    · exact ⟨none, [], .nothing, rfl⟩
    · exact ⟨some reason, [], .reason own, rfl⟩
    · obtain ⟨inner, block, _, rfl, -, blockFound, typedFound, rfl⟩ := form
      obtain ⟨digits, parts, spelled, rfl⟩ := PropertyBlock.read_eq_ok_iff_spelledBy.mp blockFound
      obtain ⟨holds, rfl⟩ := typed.mp typedFound
      rw [List.append_nil]
      exact ⟨some reason, block, .properties own spelled holds, rfl⟩
  · rintro ⟨_, block, tail, rfl⟩
    cases tail with
    | nothing => exact .inl ⟨rfl, rfl, rfl⟩
    | reason own => exact .inr ⟨_, own, .inl ⟨rfl, rfl, rfl⟩⟩
    | @properties reason _ digits parts own spelled holds =>
        have some : digits ++ parts.flatten ≠ [] :=
          List.append_ne_nil_of_left_ne_nil (List.length_pos_iff.mp spelled.length.length_pos) _
        have blockFound : PropertyBlock.read (digits ++ parts.flatten) = .ok (block, []) :=
          PropertyBlock.read_eq_ok_iff_spelledBy.mpr
            ⟨digits, parts, spelled, (List.append_nil _).symm⟩
        exact .inr ⟨reason, own, .inr ⟨_, block, _, rfl, some, blockFound,
          typed.mpr ⟨holds, rfl⟩, rfl⟩⟩

end

/-- An acknowledgement is an identifier and a tail. -/
theorem Ack.read_eq_ok_iff_tail {stage : AckStage} {ack : Ack} {bytes : Bytes} :
    read stage bytes = .ok (ack, []) ↔
      ∃ packetId tail reason block, packetId ≠ 0 ∧ bytes = Bytes.ofUInt16 packetId ++ tail ∧
        Tail stage.packetType [.reasonString] tail reason block ∧
        ack = { packetId, reason := reason.getD .success, properties := .ofValues block } := by
  rw [read, Reader.bind_eq_ok_iff]
  simp only [Reader.packetId_eq_ok_iff]
  constructor
  · rintro ⟨packetId, tail, ⟨nonzero, rfl⟩, found⟩
    obtain ⟨reason, block, form, rfl⟩ := (readTail_eq_ok_iff_tail .success
      (Ack.mk packetId) AckProperties.ofBlock_eq_ok_iff_values).mp found
    exact ⟨packetId, tail, reason, block, nonzero, rfl, form, rfl⟩
  · rintro ⟨packetId, tail, reason, block, nonzero, rfl, form, rfl⟩
    refine ⟨packetId, tail, ⟨nonzero, rfl⟩, ?_⟩
    exact (readTail_eq_ok_iff_tail .success (Ack.mk packetId)
      AckProperties.ofBlock_eq_ok_iff_values).mpr ⟨reason, block, form, rfl⟩

/-- A DISCONNECT packet is a tail. -/
theorem Disconnect.read_eq_ok_iff_tail {packet : Disconnect} {bytes : Bytes} :
    read bytes = .ok (packet, []) ↔
      ∃ reason block,
        Tail .disconnect [.sessionExpiryInterval, .reasonString, .serverReference] bytes
          reason block ∧
        packet = { reason := reason.getD .normalDisconnection, properties := .ofValues block } :=
  readTail_eq_ok_iff_tail .normalDisconnection Disconnect.mk
    DisconnectProperties.ofBlock_eq_ok_iff_values

namespace Packet

variable {packetType : PacketType} {packet : Packet} {body : Bytes}

/-- Behind a header with the flags of its kind, a packet is decoded when it is read to the
end of the body. -/
theorem decodeBody_reserved_eq_ok_iff (other : packetType ≠ .publish) :
    decodeBody packetType (packetType.reservedFlags.getD 0) body = .ok packet ↔
      readBody packetType 0 body = .ok (packet, []) := by
  rw [decodeBody, Except.mapError_eq_ok_iff, ofBody_eq_ok_iff,
    and_iff_right packetType.checkFlags_reserved, readBody_eq_of_ne other]

/-- The bodies of acknowledgements are exactly an identifier other than zero and a tail
with at most one reason string, and those of DISCONNECT packets exactly a tail with at
most one session expiry interval, one reason string and one server reference. A reason
code that is left out is success, or a normal disconnection, and a block that is left out
holds no properties. -/
theorem decodeBody_eq_ok_iff_tail (packet : Packet) (body : Bytes) :
    (∀ stage : AckStage,
      decodeBody stage.packetType (stage.packetType.reservedFlags.getD 0) body = .ok packet ↔
        ∃ packetId tail reason block, packetId ≠ 0 ∧ body = Bytes.ofUInt16 packetId ++ tail ∧
          Tail stage.packetType [.reasonString] tail reason block ∧
          packet = .ack stage { packetId
                                reason := reason.getD .success
                                properties := .ofValues block }) ∧
    (decodeBody .disconnect (PacketType.disconnect.reservedFlags.getD 0) body = .ok packet ↔
      ∃ reason block,
        Tail .disconnect [.sessionExpiryInterval, .reasonString, .serverReference] body
          reason block ∧
        packet = .disconnect { reason := reason.getD .normalDisconnection
                               properties := .ofValues block }) := by
  constructor
  · intro stage
    have other : stage.packetType ≠ .publish := by cases stage <;> decide
    rw [decodeBody_reserved_eq_ok_iff other, readBody_ack, Reader.map_eq_ok_iff]
    simp only [Ack.read_eq_ok_iff_tail]
    constructor
    · rintro ⟨_, ⟨packetId, tail, reason, block, nonzero, rfl, form, rfl⟩, rfl⟩
      exact ⟨packetId, tail, reason, block, nonzero, rfl, form, rfl⟩
    · rintro ⟨packetId, tail, reason, block, nonzero, rfl, form, rfl⟩
      exact ⟨_, ⟨packetId, tail, reason, block, nonzero, rfl, form, rfl⟩, rfl⟩
  · rw [decodeBody_reserved_eq_ok_iff (by decide), readBody, Reader.map_eq_ok_iff]
    simp only [Disconnect.read_eq_ok_iff_tail]
    constructor
    · rintro ⟨_, ⟨reason, block, form, rfl⟩, rfl⟩
      exact ⟨reason, block, form, rfl⟩
    · rintro ⟨reason, block, form, rfl⟩
      exact ⟨_, ⟨reason, block, form, rfl⟩, rfl⟩

/-- An explicit block of no properties is a form of its own. -/
example : decodeBody .pubAck 0 [0, 5, 0, 0] = .ok (.ack .pubAck { packetId := 5 }) := by
  rfl

end Packet

end Mqtt
