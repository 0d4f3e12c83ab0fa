import Mqtt.Packet.Subscribe
import Mqtt.Proofs.Property.Agreement
import Mqtt.Proofs.Wire.Code

/-! # SUBSCRIBE and UNSUBSCRIBE packets, written and read

Both end in a list of items to the end of the packet, each of which is read
exactly as it is written (`Mqtt.Subscription.read_mirrors`,
`Mqtt.Unsubscribe.readFilter_mirrors`). A request that obeys the rules is read
back, and one that is read can be written in no more bytes. The rule on the
subscription identifier is not checked when a packet is read, but the properties
that a block can hold already obey it.
-/

namespace Mqtt

open PropertyBlock

variable {bytes rest written : Bytes}

/-! ## Items -/

/-- The options are read from their own byte only. -/
theorem SubscriptionOptions.ofByte_eq_ok_iff {value : UInt8} {options : SubscriptionOptions} :
    ofByte value = .ok options ↔ value = options.toByte := by
  constructor
  · intro found
    have each := Bytes.forall_byte
      (fun value => ∀ options ∈ (ofByte value).toOption, value = options.toByte)
      (by decide +kernel) value
    apply each
    rw [found]
    rfl
  · intro same
    obtain ⟨qos, noLocal, retainAsPublished, retainHandling⟩ := options
    rw [same]
    cases qos <;> cases noLocal <;> cases retainAsPublished <;> cases retainHandling <;> rfl

/-- Subscriptions are read as they are written, if their filters obey the rules. -/
theorem Subscription.read_mirrors :
    read.Mirrors encode fun subscription => TopicFilter.check subscription.filter = .ok () := by
  intro bytes subscription rest
  simp only [read, encode, Reader.bind_eq_ok_iff, Reader.byte_eq_ok_iff, Reader.ofExcept_eq_ok_iff,
    SubscriptionOptions.ofByte_eq_ok_iff, Reader.pure_eq_ok_iff, Prod.mk.injEq,
    Except.bind_eq_ok_iff, Except.pure_eq_ok_iff]
  constructor
  · intro found
    obtain ⟨filter, _, filterFound, _, _, rfl, options, _, ⟨rfl, rfl⟩, _, _, ⟨fits, rfl⟩, rfl,
      rfl⟩ := found
    obtain ⟨-, front, wrote, rfl⟩ := Reader.text_mirrors.mp filterFound
    exact ⟨fits, _, ⟨front, wrote, rfl⟩, by rw [List.append_assoc]; rfl⟩
  · intro found
    obtain ⟨fits, _, ⟨front, wrote, rfl⟩, rfl⟩ := found
    rw [List.append_assoc]
    exact ⟨subscription.filter, _, Reader.text_mirrors.read_written trivial wrote _,
      _, rest, rfl, subscription.options, rest, ⟨rfl, rfl⟩, (), rest, ⟨fits, rfl⟩, rfl, rfl⟩

theorem Subscription.encode_ne_nil {subscription : Subscription}
    (wrote : subscription.encode = .ok written) : written ≠ [] := by
  simp only [encode, Except.bind_eq_ok_iff, Except.pure_eq_ok_iff] at wrote
  obtain ⟨_, -, rfl⟩ := wrote
  simp

theorem Subscription.read_consumes : read.Consumes :=
  read_mirrors.consumes fun _ _ => encode_ne_nil

/-- Reading a filter undoes writing it, if it is well formed. -/
theorem Unsubscribe.readFilter_mirrors :
    readFilter.Mirrors Field.ofText fun filter => TopicFilter.check filter = .ok () := by
  intro bytes filter rest
  simp only [readFilter, Reader.bind_eq_ok_iff, Reader.ofExcept_eq_ok_iff, Reader.pure_eq_ok_iff,
    Prod.mk.injEq]
  constructor
  · intro found
    obtain ⟨_, _, filterFound, _, _, ⟨fits, rfl⟩, rfl, rfl⟩ := found
    exact ⟨fits, (Reader.text_mirrors.mp filterFound).2⟩
  · intro found
    obtain ⟨fits, written, wrote, rfl⟩ := found
    exact ⟨filter, rest, Reader.text_mirrors.read_written trivial wrote rest, (), rest,
      ⟨fits, rfl⟩, rfl, rfl⟩

theorem Field.ofText_ne_nil {text : String} (wrote : Field.ofText text = .ok written) :
    written ≠ [] := by
  simp only [Field.ofText, Except.ite_error_eq_ok_iff, Except.ok.injEq] at wrote
  obtain ⟨-, rfl⟩ := wrote
  simp [Bytes.ofUInt16]

theorem Unsubscribe.readFilter_consumes : readFilter.Consumes :=
  readFilter_mirrors.consumes fun _ _ => Field.ofText_ne_nil

/-! ## SUBSCRIBE -/

namespace SubscribeProperties

variable {properties : SubscribeProperties}

/-- A block agrees with the properties when it holds the identifier and the user
properties. -/
theorem agrees_iff {block : PropertyBlock} :
    block.Agrees properties.toBlock ↔
      block.OfKinds kinds ∧
        block.values .subscriptionIdentifier = properties.subscriptionIdentifier.toList ∧
        block.values .userProperty = properties.userProperties := by
  rw [PropertyBlock.agrees_iff (show properties.toBlock.OfKinds kinds by simp [toBlock, kinds])]
  simp [toBlock, kinds]

theorem represents : Represents toBlock ofBlock fun _ => True := by
  intro block properties
  simp only [agrees_iff, ofBlock, Except.bind_eq_ok_iff, checkKinds_eq_ok_iff,
    Except.pure_eq_ok_iff, true_and]
  constructor
  · intro found
    obtain ⟨-, own, _, identifier, rfl⟩ := found
    exact ⟨own, value?_eq_ok_iff.mp identifier, rfl⟩
  · intro agrees
    obtain ⟨own, identifier, userProperties⟩ := agrees
    exact ⟨(), own, _, value?_eq_ok_iff.mpr identifier, by
      rw [PropertyBlock.userProperties, userProperties]⟩

/-- Only a subscription identifier that obeys the rule can be written. -/
theorem check_of_encode (wrote : properties.toBlock.encode = .ok written) :
    properties.check = .ok () := by
  unfold check
  cases found : properties.subscriptionIdentifier with
  | none => rfl
  | some value =>
      have member : Property.mk .subscriptionIdentifier value ∈ properties.toBlock := by
        simp [toBlock, found, slot, slots]
      obtain ⟨part, wrotePart⟩ := writable_of_encode wrote _ member
      obtain ⟨digits, wroteDigits, -⟩ := Property.encode_eq_ok_iff.mp wrotePart
      obtain ⟨nonzero, wroteDigits⟩ := Except.ite_error_eq_ok_iff.mp wroteDigits
      have bound := (VarInt.spells_of_encode wroteDigits).1.le_maximumVarInt
      refine if_neg ?_
      simp only [Bool.or_eq_true, decide_eq_true_eq, not_or, Nat.not_lt, gt_iff_lt]
      exact ⟨nonzero, bound⟩

end SubscribeProperties

namespace Subscribe

variable {packet : Subscribe}

/-- The check of a SUBSCRIBE packet passes where its filters are well formed, there is
one, and its identifiers are in range. -/
theorem check_eq_ok_iff {result : Unit} :
    packet.check = .ok result ↔
      (∀ subscription ∈ packet.subscriptions, TopicFilter.check subscription.filter = .ok ()) ∧
        packet.packetId ≠ 0 ∧ packet.subscriptions ≠ [] ∧ packet.properties.check = .ok () := by
  simp only [check, Except.throw_eq_error, Except.error_bind, Except.bind_eq_ok_iff,
    Except.forM_eq_ok_iff, Except.ite_error_eq_ok_iff, List.isEmpty_iff, exists_const, ne_eq]

/-- A SUBSCRIBE packet is read from its identifier, its block and its subscriptions. -/
theorem read_eq_ok_iff :
    read bytes = .ok (packet, rest) ↔
      rest = [] ∧ packet.packetId ≠ 0 ∧ packet.subscriptions ≠ [] ∧
        (∀ subscription ∈ packet.subscriptions, TopicFilter.check subscription.filter = .ok ()) ∧
        ∃ inner block parts, bytes = Bytes.ofUInt16 packet.packetId ++ inner ∧
          packet.subscriptions.mapM Subscription.encode = .ok parts ∧
          PropertyBlock.read inner = .ok (block, parts.flatten) ∧
          SubscribeProperties.ofBlock block = .ok packet.properties := by
  simp only [read, Reader.bind_eq_ok_iff, Reader.packetId_eq_ok_iff, Reader.ofExcept_eq_ok_iff,
    Subscription.read_mirrors.items_eq_ok_iff Subscription.read_consumes, Reader.throw_bind,
    Reader.ite_apply, Reader.throw_apply, Except.ite_error_eq_ok_iff, Reader.pure_eq_ok_iff,
    Prod.mk.injEq, List.isEmpty_iff]
  constructor
  · intro found
    obtain ⟨packetId, inner, ⟨nonzero, rfl⟩, block, _, blockFound, properties, _, ⟨typed, rfl⟩,
      subscriptions, _, ⟨rfl, fit, parts, wrote, rfl⟩, some, rfl, rfl⟩ := found
    exact ⟨rfl, nonzero, some, fit, inner, block, parts, rfl, wrote, blockFound, typed⟩
  · intro found
    obtain ⟨rfl, nonzero, some, fit, inner, block, parts, rfl, wrote, blockFound, typed⟩ := found
    exact ⟨packet.packetId, inner, ⟨nonzero, rfl⟩, block, _, blockFound, packet.properties, _,
      ⟨typed, rfl⟩, packet.subscriptions, [], ⟨rfl, fit, parts, wrote, rfl⟩, some, rfl, rfl⟩

/-- A SUBSCRIBE packet is written as its identifier, its block and its subscriptions. -/
theorem encode_eq_ok_iff :
    packet.encode = .ok written ↔
      ∃ block parts, packet.properties.toBlock.encode = .ok block ∧
        packet.subscriptions.mapM Subscription.encode = .ok parts ∧
        Bytes.ofUInt16 packet.packetId ++ block ++ parts.flatten = written := by
  simp only [encode, Except.bind_eq_ok_iff, Except.pure_eq_ok_iff, exists_and_left]

/-- A SUBSCRIBE packet that is written is read back. -/
theorem read_encode (fits : packet.check = .ok ()) (wrote : packet.encode = .ok written) :
    read written = .ok (packet, []) := by
  obtain ⟨fit, nonzero, some, -⟩ := check_eq_ok_iff.mp fits
  obtain ⟨block, parts, wroteBlock, wroteParts, rfl⟩ := encode_eq_ok_iff.mp wrote
  obtain ⟨blockFound, typed⟩ :=
    SubscribeProperties.represents.read_encode trivial wroteBlock parts.flatten
  apply read_eq_ok_iff.mpr
  exact ⟨rfl, nonzero, some, fit, _, _, parts, List.append_assoc _ _ _,
    wroteParts, blockFound, typed⟩

/-- A SUBSCRIBE packet that is read can be written in no more bytes. -/
theorem encode_of_read (found : read bytes = .ok (packet, rest)) :
    packet.check = .ok () ∧ ∃ written, packet.encode = .ok written ∧
      written.length + rest.length ≤ bytes.length := by
  obtain ⟨rfl, nonzero, some, fit, inner, block, parts, rfl, wroteParts, blockFound, typed⟩ :=
    read_eq_ok_iff.mp found
  obtain ⟨-, written, wrote, shorter⟩ :=
    SubscribeProperties.represents.encode_of_read blockFound typed
  have inRange := SubscribeProperties.check_of_encode wrote
  refine ⟨check_eq_ok_iff.mpr ⟨fit, nonzero, some, inRange⟩, _,
    encode_eq_ok_iff.mpr ⟨written, parts, wrote, wroteParts, rfl⟩, ?_⟩
  simp only [List.length_append, List.length_nil] at shorter ⊢
  omega

end Subscribe

/-! ## UNSUBSCRIBE -/

namespace Unsubscribe

variable {packet : Unsubscribe}

/-- The user properties are read from any block of them. -/
theorem represents :
    Represents (slots .userProperty) propertiesOfBlock fun _ => True := by
  intro block userProperties
  rw [PropertyBlock.agrees_iff (show (slots _ _).OfKinds kinds by simp [kinds])]
  simp only [propertiesOfBlock, Except.bind_eq_ok_iff, checkKinds_eq_ok_iff,
    Except.pure_eq_ok_iff, exists_const, kinds, List.mem_singleton, forall_eq, values_slots,
    PropertyBlock.userProperties, true_and]

/-- The check of an UNSUBSCRIBE packet passes where its filters are well formed and there
is one. -/
theorem check_eq_ok_iff {result : Unit} :
    packet.check = .ok result ↔
      packet.packetId ≠ 0 ∧ packet.filters ≠ [] ∧
        ∀ filter ∈ packet.filters, TopicFilter.check filter = .ok () := by
  simp only [check, Except.throw_eq_error, Except.error_bind, Except.ite_error_eq_ok_iff,
    Except.forM_eq_ok_iff, List.isEmpty_iff, ne_eq]

/-- An UNSUBSCRIBE packet is read from its identifier, its block and its filters. -/
theorem read_eq_ok_iff :
    read bytes = .ok (packet, rest) ↔
      rest = [] ∧ packet.check = .ok () ∧
        ∃ inner block parts, bytes = Bytes.ofUInt16 packet.packetId ++ inner ∧
          packet.filters.mapM Field.ofText = .ok parts ∧
          PropertyBlock.read inner = .ok (block, parts.flatten) ∧
          propertiesOfBlock block = .ok packet.userProperties := by
  simp only [read, Reader.bind_eq_ok_iff, Reader.packetId_eq_ok_iff, Reader.ofExcept_eq_ok_iff,
    readFilter_mirrors.items_eq_ok_iff readFilter_consumes, Reader.throw_bind, Reader.ite_apply,
    Reader.throw_apply, Except.ite_error_eq_ok_iff, Reader.pure_eq_ok_iff, Prod.mk.injEq,
    check_eq_ok_iff, List.isEmpty_iff]
  constructor
  · intro found
    obtain ⟨packetId, inner, ⟨nonzero, rfl⟩, block, _, blockFound, properties, _, ⟨typed, rfl⟩,
      filters, _, ⟨rfl, fit, parts, wrote, rfl⟩, some, rfl, rfl⟩ := found
    exact ⟨rfl, ⟨nonzero, some, fit⟩, inner, block, parts, rfl, wrote, blockFound, typed⟩
  · intro found
    obtain ⟨rfl, ⟨nonzero, some, fit⟩, inner, block, parts, rfl, wrote, blockFound, typed⟩ := found
    exact ⟨packet.packetId, inner, ⟨nonzero, rfl⟩, block, _, blockFound, packet.userProperties, _,
      ⟨typed, rfl⟩, packet.filters, [], ⟨rfl, fit, parts, wrote, rfl⟩, some, rfl, rfl⟩

/-- An UNSUBSCRIBE packet is written as its identifier, its block and its filters. -/
theorem encode_eq_ok_iff :
    packet.encode = .ok written ↔
      ∃ block parts, (slots .userProperty packet.userProperties).encode = .ok block ∧
        packet.filters.mapM Field.ofText = .ok parts ∧
        Bytes.ofUInt16 packet.packetId ++ block ++ parts.flatten = written := by
  simp only [encode, Except.bind_eq_ok_iff, Except.pure_eq_ok_iff, exists_and_left]

/-- An UNSUBSCRIBE packet that is written is read back. -/
theorem read_encode (fits : packet.check = .ok ()) (wrote : packet.encode = .ok written) :
    read written = .ok (packet, []) := by
  obtain ⟨block, parts, wroteBlock, wroteParts, rfl⟩ := encode_eq_ok_iff.mp wrote
  obtain ⟨blockFound, typed⟩ := represents.read_encode trivial wroteBlock parts.flatten
  apply read_eq_ok_iff.mpr
  exact ⟨rfl, fits, _, _, parts, List.append_assoc _ _ _, wroteParts, blockFound, typed⟩

/-- An UNSUBSCRIBE packet that is read can be written in no more bytes. -/
theorem encode_of_read (found : read bytes = .ok (packet, rest)) :
    packet.check = .ok () ∧ ∃ written, packet.encode = .ok written ∧
      written.length + rest.length ≤ bytes.length := by
  obtain ⟨rfl, fits, inner, block, parts, rfl, wroteParts, blockFound, typed⟩ :=
    read_eq_ok_iff.mp found
  obtain ⟨-, written, wrote, shorter⟩ := represents.encode_of_read blockFound typed
  refine ⟨fits, _, encode_eq_ok_iff.mpr ⟨written, parts, wrote, wroteParts, rfl⟩, ?_⟩
  simp only [List.length_append, List.length_nil] at shorter ⊢
  omega

end Unsubscribe

end Mqtt
