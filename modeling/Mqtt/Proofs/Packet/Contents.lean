import Mqtt.Proofs.Packet.Layout

/-! # The contents of a packet

What the lengths in a packet depend on, read off its own fields and not off the segments
and blocks that it is written as: its texts and binary data (`Mqtt.Packet.fields_eq`)
and the number of bytes of its body (`Mqtt.Packet.bodyLength_eq`).
-/

namespace Mqtt

/-! ## Single properties -/

/-- The name and the value of a user property, as bytes. -/
def UserProperty.fields (property : UserProperty) : List Bytes :=
  [Bytes.ofText property.name, Bytes.ofText property.value]

/-! The bytes of a property: its identifier and its value, with two bytes for the length of
a text and of binary data. A property that is absent has none. -/

namespace PropertySize

/-- A number of a given width, or a flag. -/
def number {α : Type} (width : Nat) (value : Option α) : Nat :=
  value.elim 0 fun _ => 1 + width

/-- A variable byte integer. -/
def varInt (value : UInt32) : Nat :=
  1 + VarInt.size value.toNat

/-- A text. -/
def text (value : Option String) : Nat :=
  value.elim 0 fun content => 1 + (2 + content.utf8ByteSize)

/-- Binary data. -/
def binary (value : Option Bytes) : Nat :=
  value.elim 0 fun content => 1 + (2 + content.length)

/-- User properties, each with two texts. -/
def pairs (values : List UserProperty) : Nat :=
  (values.map fun pair =>
    1 + ((2 + pair.name.utf8ByteSize) + (2 + pair.value.utf8ByteSize))).sum

/-- The length of all properties of a packet, and the properties. -/
def block (length : Nat) : Nat :=
  VarInt.size length + length

end PropertySize

/-- A sum over a value that may be absent. -/
theorem sum_toList {α : Type} (size : α → Nat) (value : Option α) :
    (value.toList.map size).sum = value.elim 0 size := by
  cases value <;> rfl

/-- Values without texts and binary data add nothing to a list of them. -/
theorem flatMap_nothing {α : Type} (values : List α) :
    (values.flatMap fun _ => ([] : List Bytes)) = [] :=
  List.flatMap_eq_nil_iff.mpr fun _ _ => rfl

/-! ## The properties of a packet -/

section

open PropertySize PropertyBlock

namespace AckProperties

/-- The texts and the binary data, in the order in which they are written. -/
def fields (properties : AckProperties) : List Bytes :=
  properties.reasonString.toList.map Bytes.ofText ++
  properties.userProperties.flatMap UserProperty.fields

/-- The number of bytes. -/
def size (properties : AckProperties) : Nat :=
  text properties.reasonString + pairs properties.userProperties

/-- The block that is written has these texts and data. -/
theorem fields_toBlock (properties : AckProperties) :
    properties.toBlock.fields = properties.fields := by
  simp only [toBlock, fields_append, fields_slot, fields_slots, ValueType.fields,
    ← List.map_eq_flatMap]
  rfl

/-- The block that is written has this many bytes. -/
theorem encodedLength_toBlock (properties : AckProperties) :
    properties.toBlock.encodedLength = properties.size := by
  simp only [toBlock, encodedLength_append, encodedLength_slot, encodedLength_slots,
    PropertyKind.valueSize, ValueType.size]
  rfl

end AckProperties

namespace AuthProperties

/-- The texts and the binary data, in the order in which they are written. -/
def fields (properties : AuthProperties) : List Bytes :=
  [Bytes.ofText properties.authenticationMethod] ++
  properties.authenticationData.toList ++
  properties.reasonString.toList.map Bytes.ofText ++
  properties.userProperties.flatMap UserProperty.fields

/-- The number of bytes. -/
def size (properties : AuthProperties) : Nat :=
  text (some properties.authenticationMethod) + binary properties.authenticationData +
  text properties.reasonString + pairs properties.userProperties

/-- The block that is written has these texts and data. -/
theorem fields_toBlock (properties : AuthProperties) :
    properties.toBlock.fields = properties.fields := by
  simp only [toBlock, fields_append, fields_slot, fields_slots, ValueType.fields,
    ← List.map_eq_flatMap, List.map_id', Option.toList_some, List.map_cons,
    List.map_nil]
  rfl

/-- The block that is written has this many bytes. -/
theorem encodedLength_toBlock (properties : AuthProperties) :
    properties.toBlock.encodedLength = properties.size := by
  simp only [toBlock, encodedLength_append, encodedLength_slot, encodedLength_slots,
    PropertyKind.valueSize, ValueType.size]
  rfl

end AuthProperties

namespace WillProperties

/-- The texts and the binary data, in the order in which they are written. -/
def fields (properties : WillProperties) : List Bytes :=
  properties.contentType.toList.map Bytes.ofText ++
  properties.responseTopic.toList.map Bytes.ofText ++
  properties.correlationData.toList ++
  properties.userProperties.flatMap UserProperty.fields

/-- The number of bytes. -/
def size (properties : WillProperties) : Nat :=
  number 4 properties.delayInterval + number 1 properties.payloadFormatIndicator +
  number 4 properties.messageExpiryInterval + text properties.contentType +
  text properties.responseTopic + binary properties.correlationData +
  pairs properties.userProperties

/-- The block that is written has these texts and data. -/
theorem fields_toBlock (properties : WillProperties) :
    properties.toBlock.fields = properties.fields := by
  simp only [toBlock, fields_append, fields_slot, fields_slots, ValueType.fields,
    flatMap_nothing, ← List.map_eq_flatMap, List.map_id', List.nil_append]
  rfl

/-- The block that is written has this many bytes. -/
theorem encodedLength_toBlock (properties : WillProperties) :
    properties.toBlock.encodedLength = properties.size := by
  simp only [toBlock, encodedLength_append, encodedLength_slot, encodedLength_slots,
    Option.elim_map, PropertyKind.valueSize, ValueType.size]
  rfl

end WillProperties

namespace ConnectProperties

/-- The texts and the binary data, in the order in which they are written. -/
def fields (properties : ConnectProperties) : List Bytes :=
  properties.userProperties.flatMap UserProperty.fields ++
  properties.authenticationMethod.toList.map Bytes.ofText ++
  properties.authenticationData.toList

/-- The number of bytes. -/
def size (properties : ConnectProperties) : Nat :=
  number 4 properties.sessionExpiryInterval + number 2 properties.receiveMaximum +
  number 4 properties.maximumPacketSize + number 2 properties.topicAliasMaximum +
  number 1 properties.requestResponseInformation +
  number 1 properties.requestProblemInformation + pairs properties.userProperties +
  text properties.authenticationMethod + binary properties.authenticationData

/-- The block that is written has these texts and data. -/
theorem fields_toBlock (properties : ConnectProperties) :
    properties.toBlock.fields = properties.fields := by
  simp only [toBlock, fields_append, fields_slot, fields_slots, ValueType.fields,
    flatMap_nothing, ← List.map_eq_flatMap, List.map_id', List.nil_append]
  rfl

/-- The block that is written has this many bytes. -/
theorem encodedLength_toBlock (properties : ConnectProperties) :
    properties.toBlock.encodedLength = properties.size := by
  simp only [toBlock, encodedLength_append, encodedLength_slot, encodedLength_slots,
    Option.elim_map, PropertyKind.valueSize, ValueType.size]
  rfl

end ConnectProperties

namespace ConnAckProperties

/-- The texts and the binary data, in the order in which they are written. -/
def fields (properties : ConnAckProperties) : List Bytes :=
  properties.assignedClientIdentifier.toList.map Bytes.ofText ++
  properties.reasonString.toList.map Bytes.ofText ++
  properties.userProperties.flatMap UserProperty.fields ++
  properties.responseInformation.toList.map Bytes.ofText ++
  properties.serverReference.toList.map Bytes.ofText ++
  properties.authenticationMethod.toList.map Bytes.ofText ++
  properties.authenticationData.toList

/-- The number of bytes. -/
def size (properties : ConnAckProperties) : Nat :=
  number 4 properties.sessionExpiryInterval + number 2 properties.receiveMaximum +
  number 1 properties.maximumQoS + number 1 properties.retainAvailable +
  number 4 properties.maximumPacketSize + text properties.assignedClientIdentifier +
  number 2 properties.topicAliasMaximum + text properties.reasonString +
  pairs properties.userProperties + number 1 properties.wildcardSubscriptionAvailable +
  number 1 properties.subscriptionIdentifiersAvailable +
  number 1 properties.sharedSubscriptionAvailable + number 2 properties.serverKeepAlive +
  text properties.responseInformation + text properties.serverReference +
  text properties.authenticationMethod + binary properties.authenticationData

/-- The block that is written has these texts and data. -/
theorem fields_toBlock (properties : ConnAckProperties) :
    properties.toBlock.fields = properties.fields := by
  simp only [toBlock, fields_append, fields_slot, fields_slots, ValueType.fields,
    flatMap_nothing, ← List.map_eq_flatMap, List.map_id', List.nil_append,
    List.append_nil]
  rfl

/-- The block that is written has this many bytes. -/
theorem encodedLength_toBlock (properties : ConnAckProperties) :
    properties.toBlock.encodedLength = properties.size := by
  simp only [toBlock, encodedLength_append, encodedLength_slot, encodedLength_slots,
    Option.elim_map, PropertyKind.valueSize, ValueType.size]
  rfl

end ConnAckProperties

namespace PublishProperties

/-- The texts and the binary data, in the order in which they are written. -/
def fields (properties : PublishProperties) : List Bytes :=
  properties.responseTopic.toList.map Bytes.ofText ++
  properties.correlationData.toList ++
  properties.userProperties.flatMap UserProperty.fields ++
  properties.contentType.toList.map Bytes.ofText

/-- The number of bytes. -/
def size (properties : PublishProperties) : Nat :=
  number 1 properties.payloadFormatIndicator + number 4 properties.messageExpiryInterval +
  number 2 properties.topicAlias + text properties.responseTopic +
  binary properties.correlationData + pairs properties.userProperties +
  (properties.subscriptionIdentifiers.map varInt).sum + text properties.contentType

/-- The block that is written has these texts and data. -/
theorem fields_toBlock (properties : PublishProperties) :
    properties.toBlock.fields = properties.fields := by
  simp only [toBlock, fields_append, fields_slot, fields_slots, ValueType.fields,
    flatMap_nothing, ← List.map_eq_flatMap, List.map_id', List.nil_append,
    List.append_nil]
  rfl

/-- The block that is written has this many bytes. -/
theorem encodedLength_toBlock (properties : PublishProperties) :
    properties.toBlock.encodedLength = properties.size := by
  simp only [toBlock, encodedLength_append, encodedLength_slot, encodedLength_slots,
    Option.elim_map, PropertyKind.valueSize, ValueType.size]
  rfl

end PublishProperties

namespace SubscribeProperties

/-- The texts and the binary data, in the order in which they are written. -/
def fields (properties : SubscribeProperties) : List Bytes :=
  properties.userProperties.flatMap UserProperty.fields

/-- The number of bytes. -/
def size (properties : SubscribeProperties) : Nat :=
  properties.subscriptionIdentifier.elim 0 varInt + pairs properties.userProperties

/-- The block that is written has these texts and data. -/
theorem fields_toBlock (properties : SubscribeProperties) :
    properties.toBlock.fields = properties.fields := by
  simp only [toBlock, fields_append, fields_slot, fields_slots, ValueType.fields,
    flatMap_nothing, List.nil_append]
  rfl

/-- The block that is written has this many bytes. -/
theorem encodedLength_toBlock (properties : SubscribeProperties) :
    properties.toBlock.encodedLength = properties.size := by
  simp only [toBlock, encodedLength_append, encodedLength_slot, encodedLength_slots,
    PropertyKind.valueSize, ValueType.size]
  rfl

end SubscribeProperties

namespace DisconnectProperties

/-- The texts and the binary data, in the order in which they are written. -/
def fields (properties : DisconnectProperties) : List Bytes :=
  properties.serverReference.toList.map Bytes.ofText ++
  properties.reasonString.toList.map Bytes.ofText ++
  properties.userProperties.flatMap UserProperty.fields

/-- The number of bytes. -/
def size (properties : DisconnectProperties) : Nat :=
  number 4 properties.sessionExpiryInterval + text properties.serverReference +
  text properties.reasonString + pairs properties.userProperties

/-- The block that is written has these texts and data. -/
theorem fields_toBlock (properties : DisconnectProperties) :
    properties.toBlock.fields = properties.fields := by
  simp only [toBlock, fields_append, fields_slot, fields_slots, ValueType.fields,
    flatMap_nothing, ← List.map_eq_flatMap, List.nil_append]
  rfl

/-- The block that is written has this many bytes. -/
theorem encodedLength_toBlock (properties : DisconnectProperties) :
    properties.toBlock.encodedLength = properties.size := by
  simp only [toBlock, encodedLength_append, encodedLength_slot, encodedLength_slots,
    PropertyKind.valueSize, ValueType.size]
  rfl

end DisconnectProperties

/-! ## Packets -/

/-- The texts and the binary data of a will message. -/
def Will.fields (will : Will) : List Bytes :=
  will.properties.fields ++ [Bytes.ofText will.topic, will.payload]

/-- The number of bytes of a will message. -/
def Will.size (will : Will) : Nat :=
  block will.properties.size + (2 + will.topic.utf8ByteSize) + (2 + will.payload.length)

/-- A will message is laid out with its own texts and data. -/
theorem Will.fields_layout (will : Will) : will.layout.fields = will.fields := by
  simp [layout, fields, Segment.fields, WillProperties.fields_toBlock]

/-- A will message is laid out in as many bytes as its own fields need. -/
theorem Will.size_layout (will : Will) : will.layout.size = will.size := by
  simp [layout, size, Segment.size, block, WillProperties.encodedLength_toBlock, Nat.add_assoc]

/-- A packet identifier, where there is one, has two bytes. -/
theorem Publish.length_packetId (packetId : Option UInt16) :
    (packetId.elim [] Bytes.ofUInt16).length = packetId.elim 0 fun _ => 2 := by
  cases packetId <;> rfl

/-- A plain success is laid out without properties, but then there are none that have texts
or data. -/
theorem Ack.fields_layout (ack : Ack) : ack.layout.fields = ack.properties.fields := by
  by_cases plain : ack.reason = .success ∧ ack.properties = {}
  · rw [layout, if_pos plain, plain.2]
    rfl
  · rw [layout, if_neg plain]
    simp [Segment.fields, AckProperties.fields_toBlock]

/-- A plain success is laid out as the packet identifier alone. -/
theorem Ack.size_layout (ack : Ack) :
    ack.layout.size =
      if ack.reason = .success ∧ ack.properties = {} then 2
      else 3 + block ack.properties.size := by
  rw [layout]
  split
  · rfl
  · simp [Segment.size, block, AckProperties.encodedLength_toBlock]

/-- Where no block is laid out, there are no properties that have texts or data. -/
theorem Disconnect.fields_layout (packet : Disconnect) :
    packet.layout.fields = packet.properties.fields := by
  by_cases bare : packet.properties = {}
  · rw [layout, if_pos bare, bare]
    rfl
  · rw [layout, if_neg bare]
    simp [Segment.fields, DisconnectProperties.fields_toBlock]

/-- Without properties a normal disconnection is laid out as nothing, and any other as its
reason code. -/
theorem Disconnect.size_layout (packet : Disconnect) :
    packet.layout.size =
      if packet.properties = {} then
        if packet.reason = .normalDisconnection then 0 else 1
      else 1 + block packet.properties.size := by
  rw [layout]
  split
  · split <;> rfl
  · simp [Segment.size, block, DisconnectProperties.encodedLength_toBlock]

namespace Packet

/-- The texts and the binary data of a packet are those of its own fields, in the order in
which they are written. -/
theorem fields_eq (packet : Packet) :
    packet.fields = match packet with
      | connect packet =>
          [Bytes.ofText protocolName] ++ packet.properties.fields ++
          [Bytes.ofText packet.clientId] ++ packet.will.toList.flatMap Will.fields ++
          packet.username.toList.map Bytes.ofText ++ packet.password.toList
      | connAck packet => packet.properties.fields
      | publish packet => [Bytes.ofText packet.topic] ++ packet.properties.fields
      | ack _ packet => packet.properties.fields
      | subscribe packet =>
          packet.properties.fields ++
          packet.subscriptions.map fun subscription => Bytes.ofText subscription.filter
      | subscriptionAck _ packet => packet.properties.fields
      | unsubscribe packet =>
          packet.userProperties.flatMap UserProperty.fields ++ packet.filters.map Bytes.ofText
      | pingReq => []
      | pingResp => []
      | disconnect packet => packet.properties.fields
      | auth packet => packet.properties.fields := by
  cases packet with
  | connect packet =>
      simp only [fields, layout, Connect.layout, Layout.fields_append, Layout.fields_cons,
        Layout.fields_nil, Layout.fields_map, Layout.fields_flatMap, Will.fields_layout,
        Segment.fields, ConnectProperties.fields_toBlock, ← List.map_eq_flatMap, List.map_id',
        List.nil_append, List.append_nil, List.append_assoc]
  | connAck packet =>
      simp [fields, layout, ConnAck.layout, Segment.fields, ConnAckProperties.fields_toBlock]
  | publish packet =>
      simp [fields, layout, Publish.layout, Segment.fields, PublishProperties.fields_toBlock]
  | ack stage packet => exact packet.fields_layout
  | subscribe packet =>
      simp [fields, layout, Subscribe.layout, Subscription.layout, Segment.fields,
        SubscribeProperties.fields_toBlock, ← List.map_eq_flatMap]
  | subscriptionAck stage packet =>
      simp [fields, layout, SubscriptionAck.layout, Segment.fields, AckProperties.fields_toBlock]
  | unsubscribe packet =>
      simp only [fields, layout, Unsubscribe.layout, Segment.fields, ValueType.fields,
        Layout.fields_append, Layout.fields_cons, Layout.fields_nil, Layout.fields_map,
        PropertyBlock.fields_slots, ← List.map_eq_flatMap, List.nil_append, List.append_nil]
      rfl
  | pingReq => rfl
  | pingResp => rfl
  | disconnect packet => exact packet.fields_layout
  | auth packet =>
      simp [fields, layout, Auth.layout, Segment.fields, AuthProperties.fields_toBlock]

/-- The body of a packet has as many bytes as its own fields need. The properties come with
their length, texts and binary data with two bytes for theirs; a plain success and a normal
disconnection leave out what they can. -/
theorem bodyLength_eq (packet : Packet) :
    packet.bodyLength = match packet with
      | connect packet =>
          (2 + protocolName.utf8ByteSize) + 4 + block packet.properties.size +
          (2 + packet.clientId.utf8ByteSize) + packet.will.elim 0 (fun will => will.size) +
          packet.username.elim 0 (fun username => 2 + username.utf8ByteSize) +
          packet.password.elim 0 fun password => 2 + password.length
      | connAck packet => 2 + block packet.properties.size
      | publish packet =>
          (2 + packet.topic.utf8ByteSize) + packet.packetId.elim 0 (fun _ => 2) +
          block packet.properties.size + packet.payload.length
      | ack _ packet =>
          if packet.reason = .success ∧ packet.properties = {} then 2
          else 3 + block packet.properties.size
      | subscribe packet =>
          2 + block packet.properties.size +
          (packet.subscriptions.map fun subscription =>
            2 + subscription.filter.utf8ByteSize + 1).sum
      | subscriptionAck _ packet => 2 + block packet.properties.size + packet.reasons.length
      | unsubscribe packet =>
          2 + block (pairs packet.userProperties) +
          (packet.filters.map fun filter => 2 + filter.utf8ByteSize).sum
      | pingReq => 0
      | pingResp => 0
      | disconnect packet =>
          if packet.properties = {} then
            if packet.reason = .normalDisconnection then 0 else 1
          else 1 + block packet.properties.size
      | auth packet => 1 + block packet.properties.size := by
  cases packet with
  | connect packet =>
      simp only [bodyLength, layout, Connect.layout, Layout.size_append, Layout.size_cons,
        Layout.size_nil, Layout.size_map, Layout.size_flatMap, Will.size_layout, Segment.size,
        ConnectProperties.encodedLength_toBlock, sum_toList, block, List.length_cons,
        Bytes.length_ofUInt16]
      omega
  | connAck packet =>
      simp [bodyLength, layout, ConnAck.layout, Segment.size, block,
        ConnAckProperties.encodedLength_toBlock]
  | publish packet =>
      simp [bodyLength, layout, Publish.layout, Segment.size, block,
        PublishProperties.encodedLength_toBlock, Publish.length_packetId, Nat.add_assoc]
  | ack stage packet => exact packet.size_layout
  | subscribe packet =>
      simp [bodyLength, layout, Subscribe.layout, Subscription.layout, Segment.size, block,
        SubscribeProperties.encodedLength_toBlock, Nat.add_assoc]
  | subscriptionAck stage packet =>
      simp [bodyLength, layout, SubscriptionAck.layout, Segment.size, block,
        AckProperties.encodedLength_toBlock, Nat.add_assoc]
  | unsubscribe packet =>
      simp [bodyLength, layout, Unsubscribe.layout, Segment.size, block, pairs,
        PropertyKind.valueSize, ValueType.size, Nat.add_assoc]
  | pingReq => rfl
  | pingResp => rfl
  | disconnect packet => exact packet.size_layout
  | auth packet =>
      simp [bodyLength, layout, Auth.layout, Segment.size, block,
        AuthProperties.encodedLength_toBlock]

end Packet

end

end Mqtt
