import Mqtt.Proofs.Packet
import Mqtt.Proofs.Packet.BodyExtent
import Mqtt.Proofs.Property.Owner

/-! # Packets that end in a list

A SUBSCRIBE and an UNSUBSCRIBE packet and the answers to them are an identifier, a property
block and a list of items to the end of the body. An item finds its own end and is checked
by itself, so lists behind one identifier and block are joined by joining their bytes, and
a list is split by splitting them (`Mqtt.ListKind.decodeBody_joined`).
-/

namespace Mqtt

/-- The kinds of packet that end in a list. -/
inductive ListKind where
  | subscribe
  | unsubscribe
  /-- SUBACK or UNSUBACK. -/
  | answer (stage : SubscriptionStage)
deriving DecidableEq, Repr

namespace ListKind

/-- The kind as a kind of packet. -/
def packetType : ListKind → PacketType
  | subscribe => .subscribe
  | unsubscribe => .unsubscribe
  | answer stage => stage.packetType

/-- The owner of the properties. -/
@[reducible] def owner : ListKind → PropertyOwner
  | subscribe => .subscribe
  | unsubscribe => .unsubscribe
  | answer stage => .acknowledgement stage.packetType

/-- What the list holds: subscriptions, topic filters or reason codes. -/
@[reducible] def Item : ListKind → Type
  | subscribe => Subscription
  | unsubscribe => String
  | answer _ => ReasonCode

/-- An item, with the rules that it obeys. -/
def readItem : (kind : ListKind) → Reader kind.Item
  | subscribe => Subscription.read
  | unsubscribe => Unsubscribe.readFilter
  | answer stage => stage.packetType.readReason

/-- The fault of an empty list. -/
def empty : ListKind → Fault
  | subscribe => .filtersEmpty .subscribe
  | unsubscribe => .filtersEmpty .unsubscribe
  | answer stage => .reasonsEmpty stage.packetType

/-- The packet with an identifier, properties and a list. -/
def packet : (kind : ListKind) → UInt16 → kind.owner.Properties → List kind.Item → Packet
  | subscribe => fun packetId properties subscriptions =>
      .subscribe { packetId, properties, subscriptions }
  | unsubscribe => fun packetId userProperties filters =>
      .unsubscribe { packetId, userProperties, filters }
  | answer stage => fun packetId properties reasons =>
      .subscriptionAck stage { packetId, properties, reasons }

/-- A list packet is made of its identifier, its properties and its items, and nothing
else. -/
theorem packet_inj {kind : ListKind} {packetId packetId' : UInt16}
    {properties properties' : kind.owner.Properties} {items items' : List kind.Item} :
    kind.packet packetId properties items = kind.packet packetId' properties' items' ↔
      packetId = packetId' ∧ properties = properties' ∧ items = items' := by
  cases kind <;> simp [packet]

/-- A packet identifier and a property block. -/
def readOpening : Reader (UInt16 × PropertyBlock) := do
  let packetId ← Reader.packetId
  let block ← PropertyBlock.read
  return (packetId, block)

/-- All four kinds are read in the same way. -/
theorem readBody_eq (kind : ListKind) (flags : UInt8) :
    Packet.readBody kind.packetType flags = do
      let (packetId, block) ← readOpening
      let properties ← Reader.ofExcept (kind.owner.ofBlock block)
      let items ← Reader.items kind.readItem
      if items.isEmpty then throw kind.empty
      return kind.packet packetId properties items := by
  cases kind with
  | subscribe =>
      simp only [packetType, Packet.readBody, Subscribe.read, readOpening, map_bind, bind_assoc,
        pure_bind, apply_ite, map_pure, Reader.throw_bind]
      rfl
  | unsubscribe =>
      simp only [packetType, Packet.readBody, Unsubscribe.read, readOpening, map_bind, bind_assoc,
        pure_bind, apply_ite, map_pure, Reader.throw_bind]
      rfl
  | answer stage =>
      simp only [packetType, Packet.readBody_subscriptionAck, SubscriptionAck.read, readOpening,
        map_bind, bind_assoc, pure_bind, apply_ite, map_pure, Reader.throw_bind]
      rfl

/-! ## Openings and items -/

theorem selfDelimiting_packetId : Reader.packetId.SelfDelimiting :=
  (Reader.selfDelimiting_twoBytesOr _).bind fun packetId =>
    .unless (Reader.selfDelimiting_pure packetId)

/-- The identifier and the block know where they end. -/
theorem selfDelimiting_readOpening : readOpening.SelfDelimiting :=
  selfDelimiting_packetId.bind fun packetId =>
    PropertyBlock.selfDelimiting_read.bind fun block =>
      Reader.selfDelimiting_pure (packetId, block)

/-- An item of any of the four kinds knows where it ends. -/
theorem selfDelimiting_readItem : (kind : ListKind) → kind.readItem.SelfDelimiting
  | subscribe => Subscription.read_mirrors.selfDelimiting
  | unsubscribe => Unsubscribe.readFilter_mirrors.selfDelimiting
  | answer stage => stage.packetType.selfDelimiting_readReason

/-- An item of any of the four kinds takes at least one byte. -/
theorem readItem_consumes : (kind : ListKind) → kind.readItem.Consumes
  | subscribe => Subscription.read_consumes
  | unsubscribe => Unsubscribe.readFilter_consumes
  | answer stage => stage.packetType.readReason_consumes

variable {kind : ListKind} {flags : UInt8} {head body bytes : Bytes} {block : PropertyBlock}

/-- A body is decoded where its opening is read, the block can be typed, and the rest is read
as a list that is not empty. -/
theorem decodeBody_eq_ok_iff {packet : Packet} :
    Packet.decodeBody kind.packetType flags body = .ok packet ↔
      kind.packetType.checkFlags flags = .ok () ∧ ∃ packetId block bytes properties items,
        readOpening body = .ok ((packetId, block), bytes) ∧
          kind.owner.ofBlock block = .ok properties ∧
          Reader.items kind.readItem bytes = .ok (items, []) ∧ items ≠ [] ∧
          kind.packet packetId properties items = packet := by
  rw [Packet.decodeBody, Except.mapError_eq_ok_iff, Packet.ofBody_eq_ok_iff, readBody_eq]
  simp only [Reader.bind_eq_ok_iff, Reader.ofExcept_eq_ok_iff, Reader.throw_bind, Reader.ite_apply,
    Reader.throw_apply, Except.ite_error_eq_ok_iff, Reader.pure_eq_ok_iff, Prod.mk.injEq,
    List.isEmpty_iff]
  constructor
  · rintro ⟨fits, ⟨packetId, block⟩, bytes, opened, properties, _, ⟨typed, rfl⟩, items, _, found,
      some, same, rfl⟩
    exact ⟨fits, packetId, block, bytes, properties, items, opened, typed, found, some, same⟩
  · rintro ⟨fits, packetId, block, bytes, properties, items, opened, typed, found, some, same⟩
    exact ⟨fits, (packetId, block), bytes, opened, properties, bytes, ⟨typed, rfl⟩, items, [],
      found, some, same, rfl⟩

/-- Behind an identifier and a block that can be typed, a body is decoded exactly where it is
read as a list to its end, if the list is not empty. -/
theorem decodeBody_opened_iff {opening packetId : UInt16} {properties : kind.owner.Properties}
    {items : List kind.Item} (opened : readOpening head = .ok ((opening, block), [])) :
    Packet.decodeBody kind.packetType flags (head ++ bytes) =
        .ok (kind.packet packetId properties items) ↔
      kind.packetType.checkFlags flags = .ok () ∧ opening = packetId ∧
        kind.owner.ofBlock block = .ok properties ∧ items ≠ [] ∧
        Reader.items kind.readItem bytes = .ok (items, []) := by
  have read := selfDelimiting_readOpening.read_append opened bytes
  rw [decodeBody_eq_ok_iff]
  constructor
  · rintro ⟨fits, _, _, _, _, _, found, typed, itemsFound, some, same⟩
    cases read.symm.trans found
    obtain ⟨rfl, rfl, rfl⟩ := packet_inj.mp same
    exact ⟨fits, rfl, typed, some, itemsFound⟩
  · rintro ⟨fits, rfl, typed, some, itemsFound⟩
    exact ⟨fits, opening, block, bytes, properties, items, read, typed, itemsFound, some, rfl⟩

/-- Behind one identifier and one block, the bytes of two lists in a row are the bytes of the
joined list, with the same identifier and properties, and the bytes of a list that is split
into two, neither of them empty, are those of the one and then those of the other. -/
theorem decodeBody_joined (kind : ListKind) (flags : UInt8) {head : Bytes}
    {opening : UInt16 × PropertyBlock} (opened : readOpening head = .ok (opening, [])) :
    (∀ first second packetId packetId' properties properties' xs ys,
      Packet.decodeBody kind.packetType flags (head ++ first) =
          .ok (kind.packet packetId properties xs) →
      Packet.decodeBody kind.packetType flags (head ++ second) =
          .ok (kind.packet packetId' properties' ys) →
      packetId = packetId' ∧ properties = properties' ∧
        Packet.decodeBody kind.packetType flags (head ++ first ++ second) =
          .ok (kind.packet packetId properties (xs ++ ys))) ∧
    ∀ whole packetId properties xs ys,
      Packet.decodeBody kind.packetType flags (head ++ whole) =
          .ok (kind.packet packetId properties (xs ++ ys)) →
      xs ≠ [] → ys ≠ [] →
      ∃ first second, whole = first ++ second ∧
        Packet.decodeBody kind.packetType flags (head ++ first) =
          .ok (kind.packet packetId properties xs) ∧
        Packet.decodeBody kind.packetType flags (head ++ second) =
          .ok (kind.packet packetId properties ys) := by
  have joined {bytes : Bytes} {xs ys : List kind.Item} :=
    @Reader.items_append_eq_ok_iff _ _ bytes kind.selfDelimiting_readItem kind.readItem_consumes
      xs ys
  obtain ⟨opening, block⟩ := opening
  simp only [List.append_assoc, decodeBody_opened_iff opened]
  constructor
  · rintro first second packetId packetId' properties properties' xs ys
      ⟨fits, rfl, typed, some, firstFound⟩ ⟨-, rfl, typed', -, secondFound⟩
    obtain rfl := Except.ok.inj (typed.symm.trans typed')
    refine ⟨rfl, rfl, fits, rfl, typed, List.append_ne_nil_of_left_ne_nil some ys, ?_⟩
    exact joined.mpr ⟨first, second, rfl, firstFound, secondFound⟩
  · rintro whole packetId properties xs ys ⟨fits, rfl, typed, -, found⟩ firstSome secondSome
    obtain ⟨first, second, rfl, firstFound, secondFound⟩ := joined.mp found
    exact ⟨first, second, rfl, ⟨fits, rfl, typed, firstSome, firstFound⟩,
      fits, rfl, typed, secondSome, secondFound⟩

/-- Two subscriptions are joined behind a block whose length is spelled with one digit too
many. -/
theorem decodeBody_joined_subscribe :
    let head : Bytes := [0, 10, 130, 0, 11, 5]
    let first : Bytes := [0, 3, 97, 47, 35, 1]
    let second : Bytes := [0, 1, 98, 0]
    let one : Subscription := { filter := "a/#", options := { qos := .atLeastOnce } }
    let other : Subscription := { filter := "b", options := {} }
    let packet (subscriptions : List Subscription) : Packet :=
      .subscribe
        { packetId := 10, properties := { subscriptionIdentifier := some 5 }, subscriptions }
    readOpening head = .ok ((10, [⟨.subscriptionIdentifier, (5 : UInt32)⟩]), []) ∧
      Packet.decodeBody .subscribe 2 (head ++ first) = .ok (packet [one]) ∧
      Packet.decodeBody .subscribe 2 (head ++ second) = .ok (packet [other]) ∧
      Packet.decodeBody .subscribe 2 (head ++ first ++ second) = .ok (packet [one, other]) := by
  intro head first second one other packet
  have opened : readOpening head =
      .ok ((10, [⟨.subscriptionIdentifier, (5 : UInt32)⟩]), []) := by rfl
  have firstFound : Packet.decodeBody .subscribe 2 (head ++ first) = .ok (packet [one]) := by
    decide +kernel
  have secondFound : Packet.decodeBody .subscribe 2 (head ++ second) = .ok (packet [other]) := by
    decide +kernel
  obtain ⟨-, -, joined⟩ := (decodeBody_joined .subscribe 2 opened).1 _ _ _ _ _ _ [one] [other]
    firstFound secondFound
  exact ⟨opened, firstFound, secondFound, joined⟩

end ListKind

end Mqtt
