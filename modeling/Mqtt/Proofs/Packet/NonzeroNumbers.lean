import Mqtt.Proofs.Packet.Layout

/-! # Numbers that are never zero

Some numbers in a packet must not be zero: two limits of a connection, a topic alias,
subscription identifiers and packet identifiers. No packet that is decoded and no packet
that is encoded carries zero in the place of one of them, unless it is a CONNACK packet
(`Mqtt.Packet.Travels.zero_notMem_numbers`). Of a CONNACK packet the two limits are asked
neither where it is decoded nor where it is encoded (`Mqtt.Packet.connAck_zeros`).
-/

namespace Mqtt

namespace Packet

/-- What a packet carries a number for that must not be zero. -/
inductive NumberRole where
  /-- How many acknowledgements may be outstanding. -/
  | receiveMaximum
  /-- The greatest number of bytes of a packet. -/
  | maximumPacketSize
  /-- A number in the place of a topic. -/
  | topicAlias
  /-- The number of a subscription. -/
  | subscriptionIdentifier
  /-- The number that matches a packet with its answer. -/
  | packetId
deriving DecidableEq, Repr

/-- The numbers that a packet carries in a role. -/
def numbers : Packet → NumberRole → List UInt32
  | connect packet, .receiveMaximum => packet.properties.receiveMaximum.toList.map UInt16.toUInt32
  | connect packet, .maximumPacketSize => packet.properties.maximumPacketSize.toList
  | connAck packet, .receiveMaximum => packet.properties.receiveMaximum.toList.map UInt16.toUInt32
  | connAck packet, .maximumPacketSize => packet.properties.maximumPacketSize.toList
  | publish packet, .topicAlias => packet.properties.topicAlias.toList.map UInt16.toUInt32
  | publish packet, .subscriptionIdentifier => packet.properties.subscriptionIdentifiers
  | subscribe packet, .subscriptionIdentifier => packet.properties.subscriptionIdentifier.toList
  | packet, .packetId => packet.packetId.toList.map UInt16.toUInt32
  | _, _ => []

/-- A number of two bytes is zero only if it is the zero of two bytes. -/
theorem zero_mem_map_toUInt32 {value : Option UInt16} :
    0 ∈ value.toList.map UInt16.toUInt32 ↔ value = some 0 := by
  have onlyZero (short : UInt16) : short.toUInt32 = 0 ↔ short = 0 :=
    UInt16.toUInt32_inj (b := 0)
  simp only [List.mem_map, Option.mem_toList, onlyZero, exists_eq_right]

/-- The packet identifiers of a packet are the one that it has, or none. -/
theorem numbers_packetId (packet : Packet) :
    packet.numbers .packetId = packet.packetId.toList.map UInt16.toUInt32 := by
  cases packet <;> rfl

variable {packet : Packet} {role : NumberRole}

/-- The rules ask of every packet identifier that it is not zero. -/
theorem packetId_ne_zero (fits : packet.WellFormed) : packet.packetId ≠ some 0 := by
  cases packet with
  | publish packet =>
      obtain ⟨-, absent⟩ | ⟨-, value, present, nonzero⟩ :=
        Publish.checkPacketId_eq_ok_iff.mp (Publish.checkPacketId_of_check fits)
      · simp [packetId, absent]
      · simpa [packetId, present] using nonzero
  | ack stage packet =>
      obtain ⟨nonzero, -⟩ := Ack.check_eq_ok_iff.mp fits
      simpa [packetId] using nonzero
  | subscribe packet =>
      obtain ⟨-, nonzero, -⟩ := Subscribe.check_eq_ok_iff.mp fits
      simpa [packetId] using nonzero
  | subscriptionAck stage packet =>
      obtain ⟨nonzero, -⟩ := SubscriptionAck.check_eq_ok_iff.mp fits
      simpa [packetId] using nonzero
  | unsubscribe packet =>
      obtain ⟨nonzero, -⟩ := Unsubscribe.check_eq_ok_iff.mp fits
      simpa [packetId] using nonzero
  | _ => exact nofun

/-- No packet that is decoded, and none that is held and encoded, carries zero as a Receive
Maximum, a Maximum Packet Size, a Topic Alias, a Subscription Identifier or a packet
identifier, except for a CONNACK packet. -/
theorem Travels.zero_notMem_numbers (travels : packet.Travels)
    (elsewhere : packet.packetType ≠ .connAck) : 0 ∉ packet.numbers role := by
  -- The rules that reading and construction share say nothing of the limits in a CONNECT
  -- packet. Writing asks them, and a packet that was decoded can be written.
  obtain ⟨wellFormed, body, wrote⟩ := travels.encodeBody
  obtain ⟨rules, -⟩ := encodeBody_eq_ok_iff.mp wrote
  cases role with
  | receiveMaximum =>
      cases packet with
      | connect packet => exact mt zero_mem_map_toUInt32.mp rules.receiveMaximum
      | connAck packet => exact (elsewhere rfl).elim
      | _ => exact List.not_mem_nil
  | maximumPacketSize =>
      cases packet with
      | connect packet => exact mt Option.mem_toList.mp rules.maximumPacketSize
      | connAck packet => exact (elsewhere rfl).elim
      | _ => exact List.not_mem_nil
  | topicAlias =>
      cases packet with
      | publish packet =>
          obtain ⟨-, -, topicAlias, -⟩ := Publish.check_eq_ok_iff.mp wellFormed
          exact mt zero_mem_map_toUInt32.mp topicAlias
      | _ => exact List.not_mem_nil
  | subscriptionIdentifier =>
      cases packet with
      | publish packet =>
          intro zero
          exact (Publish.inRange_identifiers wellFormed 0 zero).1 rfl
      | subscribe packet =>
          intro zero
          exact (Subscribe.inRange_identifier wellFormed 0 (Option.mem_toList.mp zero)).1 rfl
      | _ => exact List.not_mem_nil
  | packetId =>
      rw [numbers_packetId, zero_mem_map_toUInt32]
      exact packetId_ne_zero wellFormed

/-- An acknowledged message with an alias and two subscription identifiers. -/
theorem Travels.zero_notMem_numbers_publish :
    let packet : Packet := .publish {
      qos := .atLeastOnce, topic := "", packetId := some 10
      properties := { topicAlias := some 3, subscriptionIdentifiers := [1, 200] } }
    decode [50, 13, 0, 0, 0, 10, 8, 35, 0, 3, 11, 1, 11, 200, 1] = .ok packet ∧
      packet.packetType ≠ .connAck ∧ packet.numbers .subscriptionIdentifier = [1, 200] ∧
      ∀ role, 0 ∉ packet.numbers role := by
  intro packet
  have found : decode [50, 13, 0, 0, 0, 10, 8, 35, 0, 3, 11, 1, 11, 200, 1] = .ok packet := by
    decide +kernel
  have elsewhere : packet.packetType ≠ .connAck := by decide
  exact ⟨found, elsewhere, rfl, fun _ => (Travels.decoded found).zero_notMem_numbers elsewhere⟩

/-- A CONNACK packet is decoded and encoded with zero for both limits. -/
theorem connAck_zeros :
    let packet : Packet := .connAck {
      reason := .success
      properties := { receiveMaximum := some 0, maximumPacketSize := some 0 } }
    let frame : Bytes := [32, 11, 0, 0, 8, 33, 0, 0, 39, 0, 0, 0, 0]
    decode frame = .ok packet ∧ packet.Held ∧ packet.encode = .ok frame ∧
      0 ∈ packet.numbers .receiveMaximum ∧ 0 ∈ packet.numbers .maximumPacketSize := by
  intro packet frame
  have held : packet.Held := .made (.built (build_eq_ok_iff.mpr ⟨rfl, rfl⟩))
  exact ⟨by decide +kernel, held, by decide +kernel, by decide, by decide⟩

end Packet

end Mqtt
