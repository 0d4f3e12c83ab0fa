import Mqtt.Proofs.Packet.ItemList
import Mqtt.Proofs.Topic.Filter
import Mqtt.Proofs.Wire.Success

/-! # The topic filters in a packet

A topic filter comes into a program in four ways: in a subscription or in an UNSUBSCRIBE
packet that is built, and in a SUBSCRIBE or an UNSUBSCRIBE packet that is decoded. Each way
takes the filters of the grammar and no other (`Mqtt.TopicFilter.accepted_iff_wellFormed`).
For a packet that is decoded this is said about its body. Every item is found again where it
was written and then checked (`Mqtt.Reader.Checks`), so of the bodies that spell a list,
those are decoded in which every item passes.
-/

namespace Mqtt

/-! ## Items that are found and then checked -/

namespace Reader

variable {α : Type} {reader : Reader α} {write : α → Except PacketError Bytes}
  {check : α → Except Fault Unit}

/-- A reader finds each value where it is written, whatever follows, and then checks it. -/
def Checks (reader : Reader α) (write : α → Except PacketError Bytes)
    (check : α → Except Fault Unit) : Prop :=
  ∀ ⦃value written⦄, write value = .ok written →
    ∀ rest, reader (written ++ rest) = (check value).map fun _ => (value, rest)

/-- Items in a row are found, and the first that does not pass its check decides. -/
theorem Checks.items_flatten (checks : reader.Checks write check) (consumes : reader.Consumes)
    (some : ∀ {value written}, write value = .ok written → written ≠ []) {values : List α}
    {parts : List Bytes} (wrote : values.mapM write = .ok parts) :
    items reader parts.flatten = (values.forM check).map fun _ => (values, []) := by
  induction values generalizing parts with
  | nil =>
      rw [Except.mapM_nil_eq_ok_iff] at wrote
      subst wrote
      rfl
  | cons value values ih =>
      obtain ⟨part, parts, wroteFirst, wroteOthers, rfl⟩ := Except.mapM_cons_eq_ok_iff.mp wrote
      have first := checks wroteFirst parts.flatten
      rw [List.flatten_cons]
      change _ = (check value >>= fun _ => values.forM check).map _
      cases passes : check value with
      | error fault =>
          rw [passes] at first
          exact items_of_error (List.append_ne_nil_of_left_ne_nil (some wroteFirst) _) first
      | ok _ =>
          rw [passes] at first
          rw [items_of_ok consumes first, ih wroteOthers, Except.ok_bind]
          cases values.forM check <;> rfl

end Reader

/-- A written subscription is read back unless its filter is refused. -/
theorem Subscription.read_checks :
    read.Checks encode fun subscription => TopicFilter.check subscription.filter := by
  intro subscription written wrote rest
  simp only [encode, Except.bind_eq_ok_iff, Except.pure_eq_ok_iff] at wrote
  obtain ⟨front, wrote, rfl⟩ := wrote
  have filterFound := Reader.text_mirrors.read_written trivial wrote
    ([subscription.options.toByte] ++ rest)
  have byteFound : Reader.byte ([subscription.options.toByte] ++ rest) =
      .ok (subscription.options.toByte, rest) := rfl
  have typed := SubscriptionOptions.ofByte_eq_ok_iff.mpr (Eq.refl subscription.options.toByte)
  rw [List.append_assoc, read, Reader.bind_of_ok filterFound,
    Reader.bind_of_ok byteFound, Reader.bind_of_ok (Reader.ofExcept_eq_ok_iff.mpr ⟨typed, rfl⟩)]
  change _ = (TopicFilter.check subscription.filter).map _
  cases TopicFilter.check subscription.filter <;> rfl

/-- A written filter is read back unless it is refused. -/
theorem Unsubscribe.readFilter_checks : readFilter.Checks Field.ofText TopicFilter.check := by
  intro filter written wrote rest
  have found := Reader.text_mirrors.read_written trivial wrote rest
  rw [readFilter, Reader.bind_of_ok found]
  cases TopicFilter.check filter <;> rfl

/-! ## Lists that are decoded -/

namespace ListKind

/-- An item as it is written. -/
def writeItem : (kind : ListKind) → kind.Item → Except PacketError Bytes
  | subscribe => Subscription.encode
  | unsubscribe => Field.ofText
  | answer _ => fun reason => .ok [reason.code]

/-- A body that is a packet of a kind but for the rules that the items are to obey. -/
def Spells (kind : ListKind) (body : Bytes) (packetId : UInt16)
    (properties : kind.owner.Properties) (items : List kind.Item) : Prop :=
  items ≠ [] ∧ ∃ block parts, readOpening body = .ok ((packetId, block), parts.flatten) ∧
    kind.owner.ofBlock block = .ok properties ∧ items.mapM kind.writeItem = .ok parts

/-- The packets of a kind are decoded from the bodies that spell one whose items obey a
rule. From a body that spells a packet with another item, nothing is decoded. -/
structure DecodesExactly (kind : ListKind) (rule : kind.Item → Prop) : Prop where
  accepted : ∀ {flags body packetId properties items packet},
    kind.Spells body packetId properties items →
      (Packet.decodeBody kind.packetType flags body = .ok packet ↔
        kind.packetType.checkFlags flags = .ok () ∧ (∀ item ∈ items, rule item) ∧
          kind.packet packetId properties items = packet)
  spelled : ∀ {flags body packet},
    Packet.decodeBody kind.packetType flags body = .ok packet →
      ∃ packetId properties items, kind.Spells body packetId properties items

variable {kind : ListKind} {check : kind.Item → Except Fault Unit} {valid rule : kind.Item → Prop}

theorem writeItem_ne_nil {item : kind.Item} {written : Bytes}
    (wrote : kind.writeItem item = .ok written) : written ≠ [] := by
  cases kind with
  | subscribe => exact Subscription.encode_ne_nil wrote
  | unsubscribe => exact Field.ofText_ne_nil wrote
  | answer stage =>
      cases wrote
      exact List.cons_ne_nil _ _

/-- Where every item is found again and then checked, the rule decides. -/
theorem decodesExactly (checks : kind.readItem.Checks kind.writeItem check)
    (mirrors : kind.readItem.Mirrors kind.writeItem valid)
    (decides : ∀ item, check item = .ok () ↔ rule item) : kind.DecodesExactly rule where
  accepted := by
    rintro flags body packetId properties items packet ⟨some, block, parts, opened, typed, wrote⟩
    have listed := checks.items_flatten kind.readItem_consumes writeItem_ne_nil wrote
    rw [decodeBody_eq_ok_iff]
    constructor
    · -- The opening and the list are each read in one way, so what is decoded is what is spelled.
      rintro ⟨fits, _, _, _, _, _, openedToo, typedToo, found, -, rfl⟩
      cases opened.symm.trans openedToo
      cases typed.symm.trans typedToo
      obtain ⟨_, passed, same⟩ := Except.map_eq_ok_iff.mp (listed.symm.trans found)
      cases same
      rw [Except.forM_eq_ok_iff] at passed
      exact ⟨fits, fun item member => (decides item).mp (passed item member), rfl⟩
    · rintro ⟨fits, obey, rfl⟩
      have passed : items.forM check = .ok () :=
        Except.forM_eq_ok_iff.mpr fun item member => (decides item).mpr (obey item member)
      rw [passed] at listed
      exact ⟨fits, packetId, block, _, properties, items, opened, typed, listed, some, rfl⟩
  spelled := by
    intro flags body packet found
    obtain ⟨-, packetId, block, bytes, properties, items, opened, typed, listed, some, -⟩ :=
      decodeBody_eq_ok_iff.mp found
    obtain ⟨-, -, parts, wrote, rfl⟩ :=
      (mirrors.items_eq_ok_iff kind.readItem_consumes).mp listed
    exact ⟨packetId, properties, items, some, block, parts, opened, typed, wrote⟩

end ListKind

namespace TopicFilter

/-- The rules of topic filters are those of the grammar, and filters are accepted under
these rules alone: in a subscription that is built, in an UNSUBSCRIBE packet that is built,
and in a SUBSCRIBE or an UNSUBSCRIBE packet that is decoded. -/
theorem accepted_iff_wellFormed :
    (∀ filter, check filter = .ok () ↔ WellFormed filter) ∧
      (∀ filter options result, Subscription.build filter options = .ok result ↔
        WellFormed filter ∧ ⟨filter, options⟩ = result) ∧
      (∀ packet result, Packet.build (.unsubscribe packet) = .ok result ↔
        packet.packetId ≠ 0 ∧ packet.filters ≠ [] ∧
          (∀ filter ∈ packet.filters, WellFormed filter) ∧ .unsubscribe packet = result) ∧
      ListKind.subscribe.DecodesExactly (fun subscription => WellFormed subscription.filter) ∧
      ListKind.unsubscribe.DecodesExactly WellFormed := by
  refine ⟨fun filter => check_eq_ok_iff, ?_, ?_, ?_, ?_⟩
  · intro filter options result
    rw [← check_eq_ok_iff, Subscription.build]
    cases check filter with
    | error fault => simp
    | ok _ => simp
  · intro packet result
    simp only [Packet.build_eq_ok_iff, Packet.check, Unsubscribe.check_eq_ok_iff, check_eq_ok_iff,
      and_assoc]
  · exact ListKind.decodesExactly Subscription.read_checks Subscription.read_mirrors
      fun _ => check_eq_ok_iff
  · exact ListKind.decodesExactly Unsubscribe.readFilter_checks Unsubscribe.readFilter_mirrors
      fun _ => check_eq_ok_iff

/-- A filter in which a `#` does not begin its level is refused in a body that spells a
SUBSCRIBE packet with it. -/
theorem accepted_iff_wellFormed_hash :
    let body : Bytes := [0, 10, 0, 0, 3, 43, 47, 35, 1, 0, 2, 97, 35, 0]
    let subscriptions : List Subscription :=
      [{ filter := "+/#", options := { qos := .atLeastOnce } }, { filter := "a#", options := {} }]
    WellFormed "+/#" ∧ ¬ WellFormed "a#" ∧
      ListKind.subscribe.Spells body 10 {} subscriptions ∧
      ∀ packet, Packet.decodeBody .subscribe 2 body ≠ .ok packet := by
  intro body subscriptions
  obtain ⟨checked, -, -, decoded, -⟩ := accepted_iff_wellFormed
  have misplaced : ¬ WellFormed "a#" := by
    rw [← checked]
    decide +kernel
  have spells : ListKind.subscribe.Spells body 10 {} subscriptions :=
    ⟨List.cons_ne_nil _ _, [], [[0, 3, 43, 47, 35, 1], [0, 2, 97, 35, 0]], by decide +kernel, rfl,
      by decide +kernel⟩
  refine ⟨(checked _).mp (by decide +kernel), misplaced, spells, fun packet found => ?_⟩
  obtain ⟨-, fit, -⟩ := (decoded.accepted spells).mp found
  exact misplaced (fit _ (List.mem_cons_of_mem _ List.mem_cons_self))

end TopicFilter

end Mqtt
