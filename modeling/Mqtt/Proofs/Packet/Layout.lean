import Mqtt.Proofs.Packet.Segment
import Mqtt.Proofs.Packet.TopicNames

/-! # Which packets can be written

The body of every packet is laid out in segments (`Mqtt.Packet.layout`), and writing a
packet is writing its layout, for CONNECT and CONNACK under rules that their construction
does not enforce (`Mqtt.Packet.encodeBody_eq_ok_iff`). So a packet that a program can
hold is written exactly when it obeys these rules, its texts and binary data fit the
lengths in front of them and its body is not too long
(`Mqtt.Packet.Held.encode_iff_fits`).
-/

namespace Mqtt

variable {body : Bytes}

/-! ## The layouts -/

/-- The properties, the topic and the payload. -/
def Will.layout (will : Will) : Layout :=
  [.block will.properties.toBlock, .text will.topic, .binary will.payload]

/-- The protocol with the flags and the keep alive, the properties, the client identifier,
and of the will message, the user name and the password those that are there. -/
def Connect.layout (packet : Connect) : Layout :=
  [.text protocolName, .bytes (protocolVersion :: packet.flags :: Bytes.ofUInt16 packet.keepAlive),
    .block packet.properties.toBlock, .text packet.clientId] ++
  packet.will.toList.flatMap Will.layout ++ packet.username.toList.map Segment.text ++
  packet.password.toList.map Segment.binary

/-- The flags, the reason code and the properties. -/
def ConnAck.layout (packet : ConnAck) : Layout :=
  [.bytes [packet.sessionPresent.toUInt8, packet.reason.code], .block packet.properties.toBlock]

/-- The topic, the identifier if there is one, the properties and the payload. -/
def Publish.layout (packet : Publish) : Layout :=
  [.text packet.topic, .bytes (packet.packetId.elim [] Bytes.ofUInt16),
    .block packet.properties.toBlock, .bytes packet.payload]

/-- The identifier, and but for a plain success the reason code and the properties. -/
def Ack.layout (ack : Ack) : Layout :=
  if ack.reason = .success ∧ ack.properties = {} then [.bytes (Bytes.ofUInt16 ack.packetId)]
  else [.bytes (Bytes.ofUInt16 ack.packetId ++ [ack.reason.code]), .block ack.properties.toBlock]

/-- The filter and the options byte. -/
def Subscription.layout (subscription : Subscription) : Layout :=
  [.text subscription.filter, .bytes [subscription.options.toByte]]

/-- The identifier, the properties and the subscriptions. -/
def Subscribe.layout (packet : Subscribe) : Layout :=
  [.bytes (Bytes.ofUInt16 packet.packetId), .block packet.properties.toBlock] ++
  packet.subscriptions.flatMap Subscription.layout

/-- The identifier, the properties and the reason codes. -/
def SubscriptionAck.layout (ack : SubscriptionAck) : Layout :=
  [.bytes (Bytes.ofUInt16 ack.packetId), .block ack.properties.toBlock,
    .bytes (ack.reasons.map ReasonCode.code)]

/-- The identifier, the properties and the filters. -/
def Unsubscribe.layout (packet : Unsubscribe) : Layout :=
  [.bytes (Bytes.ofUInt16 packet.packetId),
    .block (PropertyBlock.slots .userProperty packet.userProperties)] ++
  packet.filters.map Segment.text

/-- The reason code and the properties. Without properties there is no block, and a
normal disconnection then leaves out the reason code. -/
def Disconnect.layout (packet : Disconnect) : Layout :=
  if packet.properties = {} then
    [.bytes (if packet.reason = .normalDisconnection then [] else [packet.reason.code])]
  else [.bytes [packet.reason.code], .block packet.properties.toBlock]

/-- The reason code and the properties. -/
def Auth.layout (packet : Auth) : Layout :=
  [.bytes [packet.reason.code], .block packet.properties.toBlock]

/-- The segments of the body. -/
def Packet.layout : Packet → Layout
  | connect packet => packet.layout
  | connAck packet => packet.layout
  | publish packet => packet.layout
  | ack _ packet => packet.layout
  | subscribe packet => packet.layout
  | subscriptionAck _ packet => packet.layout
  | unsubscribe packet => packet.layout
  | pingReq => []
  | pingResp => []
  | disconnect packet => packet.layout
  | auth packet => packet.layout

/-! ## Rules of writing -/

/-- What writing asks of a CONNECT packet: two limits are not zero, authentication data
comes with a method, and the topic of a will message is plain and not empty. -/
structure Connect.WritingRules (packet : Connect) : Prop where
  receiveMaximum : packet.properties.receiveMaximum ≠ some 0
  maximumPacketSize : packet.properties.maximumPacketSize ≠ some 0
  authentication : packet.properties.authenticationData.isSome →
    packet.properties.authenticationMethod.isSome
  will : ∀ will ∈ packet.will, will.topic ≠ "" ∧ TopicName.Plain will.topic

/-- What writing asks of a packet, beside lengths. -/
def Packet.WritingRules : Packet → Prop
  | connect packet => packet.WritingRules
  | connAck packet => packet.properties.maximumQoS ≠ some .exactlyOnce
  | _ => True

/-- The check of the properties of a CONNECT packet passes where its three rules hold. -/
theorem ConnectProperties.check_eq_ok_iff {properties : ConnectProperties} :
    properties.check = .ok () ↔
      properties.receiveMaximum ≠ some 0 ∧ properties.maximumPacketSize ≠ some 0 ∧
        (properties.authenticationData.isSome → properties.authenticationMethod.isSome) := by
  simp only [check, Except.throw_eq_error, Except.error_bind, Except.ite_error_eq_ok_iff,
    Except.pure_eq_ok_iff, and_true, ne_eq, Bool.and_eq_true, not_and, Bool.not_eq_true,
    Option.isNone_eq_false_iff]

/-- The check of a will topic passes where the topic is plain and not empty. -/
theorem Will.checkTopic_eq_ok_iff {topic : String} :
    checkTopic topic = .ok () ↔ topic ≠ "" ∧ TopicName.Plain topic := by
  simp only [checkTopic, Except.bind_unit_eq_ok_iff, TopicName.check_eq_ok_iff,
    Except.throw_eq_error, Except.ite_error_eq_ok_iff, Except.pure_eq_ok_iff, and_true,
    String.isEmpty_iff, ne_eq]
  exact and_comm

/-- Writing checks the rules of the properties and of the will topic in two places. -/
theorem Connect.writingRules_iff {packet : Connect} :
    packet.WritingRules ↔
      packet.properties.check = .ok () ∧
        ∀ message ∈ packet.will, Will.checkTopic message.topic = .ok () := by
  simp only [ConnectProperties.check_eq_ok_iff, Will.checkTopic_eq_ok_iff]
  constructor
  · rintro ⟨receiveMaximum, maximumPacketSize, authentication, will⟩
    exact ⟨⟨receiveMaximum, maximumPacketSize, authentication⟩, will⟩
  · rintro ⟨⟨receiveMaximum, maximumPacketSize, authentication⟩, will⟩
    exact ⟨receiveMaximum, maximumPacketSize, authentication, will⟩

/-! ## Writing a layout -/

namespace Layout

variable {α : Type}

/-- An optional segment is written if it is there. -/
theorem encode_option (segment : α → Segment) (value : Option α) :
    encode (value.toList.map segment) =
      value.elim (.ok []) fun value => (segment value).encode := by
  cases value with
  | none => rfl
  | some value =>
      simp only [Option.toList_some, List.map_cons, List.map_nil, encode, pure_bind,
        List.append_nil, bind_pure, Option.elim_some]

/-- Segments that repeat for the items of a list are written item by item. -/
theorem encode_flatMap (layout : α → Layout) (values : List α) :
    encode (values.flatMap layout) = do
      let parts ← values.mapM fun value => encode (layout value)
      return parts.flatten := by
  induction values with
  | nil => rfl
  | cons value values ih => simp [encode_append, ih]

end Layout

theorem Publish.encode_eq_layout (packet : Publish) : packet.encode = packet.layout.encode := by
  simp only [encode, layout, Layout.encode, Segment.encode, bind_assoc, pure_bind,
    List.append_assoc, List.append_nil]

/-- An acknowledgement is written as it is laid out, in both of its forms. -/
theorem Ack.encode_eq_layout (ack : Ack) : ack.encode = ack.layout.encode := by
  unfold encode layout
  by_cases plain : ack.reason = .success ∧ ack.properties = {}
  · simp only [plain, decide_true, Bool.and_self, and_self, ↓reduceIte, Layout.encode,
      Segment.encode, pure_bind, List.append_nil]
  · simp only [Bool.and_eq_true, decide_eq_true_eq, plain, ↓reduceIte, Layout.encode,
      Segment.encode, pure_bind, bind_assoc, List.append_assoc, List.append_nil,
      List.singleton_append]

theorem Subscription.encode_eq_layout (subscription : Subscription) :
    subscription.encode = subscription.layout.encode := by
  simp only [encode, layout, Layout.encode, Segment.encode, pure_bind, List.append_nil]

theorem Subscribe.encode_eq_layout (packet : Subscribe) :
    packet.encode = packet.layout.encode := by
  simp only [encode, layout, Layout.encode_append, Layout.encode_flatMap, Layout.encode,
    Segment.encode, ← Subscription.encode_eq_layout, bind_assoc, pure_bind,
    List.append_assoc, List.append_nil]

theorem SubscriptionAck.encode_eq_layout (ack : SubscriptionAck) :
    ack.encode = ack.layout.encode := by
  simp only [encode, layout, Layout.encode, Segment.encode, bind_assoc, pure_bind,
    List.append_assoc, List.append_nil]

theorem Unsubscribe.encode_eq_layout (packet : Unsubscribe) :
    packet.encode = packet.layout.encode := by
  simp only [encode, layout, Layout.encode_append, List.map_eq_flatMap, Layout.encode_flatMap,
    Layout.encode, Segment.encode, bind_assoc, pure_bind, bind_pure,
    List.append_assoc, List.append_nil]

/-- A DISCONNECT packet is written as it is laid out, in each of its forms. -/
theorem Disconnect.encode_eq_layout (packet : Disconnect) :
    packet.encode = packet.layout.encode := by
  unfold encode layout
  by_cases bare : packet.properties = {}
  · have nothing : DisconnectProperties.toBlock {} = [] := rfl
    simp only [bare, nothing, List.isEmpty_nil, ↓reduceIte, Layout.encode, Segment.encode,
      pure_bind, List.append_nil]
  · have some : packet.properties.toBlock ≠ [] :=
      fun nothing => bare (DisconnectProperties.eq_default_of_toBlock nothing)
    simp only [bare, List.isEmpty_eq_false_iff.mpr some, Bool.false_eq_true, ↓reduceIte,
      Layout.encode, Segment.encode, pure_bind, bind_assoc, List.append_nil, List.singleton_append]

theorem Auth.encode_eq_layout (packet : Auth) : packet.encode = packet.layout.encode := by
  simp only [encode, layout, Layout.encode, Segment.encode, bind_assoc, pure_bind,
    List.append_nil, List.singleton_append]

/-- A CONNACK packet is written as it is laid out, after the check of its properties. -/
theorem ConnAck.encode_eq_layout (packet : ConnAck) :
    packet.encode =
      packet.properties.check.mapError .invalid >>= fun _ => packet.layout.encode := by
  simp only [encode, layout, Layout.encode, Segment.encode, bind_assoc, pure_bind,
    List.append_nil, List.cons_append, List.nil_append]

/-- A will message is written as it is laid out, after the check of its topic. -/
theorem Will.encode_eq_layout (will : Will) :
    will.encode =
      (checkTopic will.topic).mapError .invalid >>= fun _ => will.layout.encode := by
  simp only [encode, layout, Layout.encode, Segment.encode, bind_assoc, pure_bind,
    List.append_nil, List.append_assoc]

/-- Where there is a will message, writing it is writing its layout under the rule of its
topic. -/
theorem Will.encode_eq_ok_iff_layout {will : Option Will} :
    will.elim (.ok []) Will.encode = .ok body ↔
      (∀ message ∈ will, checkTopic message.topic = .ok ()) ∧
        Layout.encode (will.toList.flatMap Will.layout) = .ok body := by
  cases will with
  | none => simp [Layout.encode]
  | some message =>
      simp only [Option.elim_some, Option.toList_some, List.flatMap_singleton, encode_eq_layout,
        Except.bind_unit_eq_ok_iff, Except.mapError_eq_ok_iff, Option.mem_def,
        Option.some.injEq, forall_eq']

/-- The layout of a CONNECT packet is written part by part. -/
theorem Connect.layout_encode (packet : Connect) :
    packet.layout.encode = do
      let name ← Field.ofText protocolName
      let block ← packet.properties.toBlock.encode
      let client ← Field.ofText packet.clientId
      let will ← Layout.encode (packet.will.toList.flatMap Will.layout)
      let username ← packet.username.elim (.ok []) Field.ofText
      let password ← packet.password.elim (.ok []) Field.ofBinary
      return name ++ protocolVersion :: packet.flags :: Bytes.ofUInt16 packet.keepAlive ++
        block ++ client ++ will ++ username ++ password := by
  simp only [layout, Layout.encode_append, Layout.encode_option, Layout.encode, Segment.encode,
    bind_assoc, pure_bind, List.append_assoc, List.cons_append, List.nil_append]

/-- A CONNECT packet is written as it is laid out, if it obeys the rules of writing. -/
theorem Connect.encode_eq_ok_iff_layout {packet : Connect} :
    packet.encode = .ok body ↔ packet.WritingRules ∧ packet.layout.encode = .ok body := by
  simp only [writingRules_iff, encode_eq_ok_iff, layout_encode, Will.encode_eq_ok_iff_layout,
    Except.bind_eq_ok_iff, Except.pure_eq_ok_iff]
  constructor
  · rintro ⟨name, block, client, will, username, password, wroteName, fits, wroteBlock,
      wroteClient, ⟨topic, wroteWill⟩, wroteUsername, wrotePassword, rfl⟩
    exact ⟨⟨fits, topic⟩, name, wroteName, block, wroteBlock, client, wroteClient, will, wroteWill,
      username, wroteUsername, password, wrotePassword, rfl⟩
  · rintro ⟨⟨fits, topic⟩, name, wroteName, block, wroteBlock, client, wroteClient, will,
      wroteWill, username, wroteUsername, password, wrotePassword, rfl⟩
    exact ⟨name, block, client, will, username, password, wroteName, fits, wroteBlock,
      wroteClient, ⟨topic, wroteWill⟩, wroteUsername, wrotePassword, rfl⟩

/-- The subscription identifiers of a message that obeys the rules are in range. -/
theorem Publish.inRange_identifiers {packet : Publish} (fits : packet.check = .ok ()) :
    ∀ value ∈ packet.properties.subscriptionIdentifiers,
      value ≠ 0 ∧ value.toNat ≤ maximumVarInt := by
  obtain ⟨-, -, -, -, -, -, identifiers⟩ := check_eq_ok_iff.mp fits
  unfold checkSubscriptionIdentifiers at identifiers
  split at identifiers
  · cases identifiers
  · next none => simpa using none

/-- The subscription identifier of a SUBSCRIBE packet that obeys the rules is in range. -/
theorem Subscribe.inRange_identifier {packet : Subscribe} (fits : packet.check = .ok ()) :
    ∀ value ∈ packet.properties.subscriptionIdentifier,
      value ≠ 0 ∧ value.toNat ≤ maximumVarInt := by
  obtain ⟨-, -, -, identifier⟩ := check_eq_ok_iff.mp fits
  unfold SubscribeProperties.check at identifier
  intro value present
  rw [Option.mem_def.mp present] at identifier
  simpa using identifier

namespace Packet

variable {packet : Packet}

/-- Packets on which writing has no rules are written as they are laid out. -/
theorem encodeBody_of_free (free : packet.WritingRules)
    (same : packet.encodeBody = packet.layout.encode) :
    packet.encodeBody = .ok body ↔ packet.WritingRules ∧ packet.layout.encode = .ok body := by
  rw [same, and_iff_right free]

/-- A body is written when the packet obeys the rules and its layout is written. -/
theorem encodeBody_eq_ok_iff :
    packet.encodeBody = .ok body ↔ packet.WritingRules ∧ packet.layout.encode = .ok body := by
  cases packet with
  | connect packet => exact Connect.encode_eq_ok_iff_layout
  | connAck packet =>
      rw [encodeBody, ConnAck.encode_eq_layout, Except.bind_unit_eq_ok_iff,
        Except.mapError_eq_ok_iff, ConnAckProperties.check_eq_ok_iff]
      rfl
  | publish packet => exact encodeBody_of_free trivial packet.encode_eq_layout
  | ack stage packet => exact encodeBody_of_free trivial packet.encode_eq_layout
  | subscribe packet => exact encodeBody_of_free trivial packet.encode_eq_layout
  | subscriptionAck stage packet => exact encodeBody_of_free trivial packet.encode_eq_layout
  | unsubscribe packet => exact encodeBody_of_free trivial packet.encode_eq_layout
  | pingReq => exact encodeBody_of_free trivial rfl
  | pingResp => exact encodeBody_of_free trivial rfl
  | disconnect packet => exact encodeBody_of_free trivial packet.encode_eq_layout
  | auth packet => exact encodeBody_of_free trivial packet.encode_eq_layout

/-! ## Packets that are held -/

/-- The texts and the binary data of a packet, as bytes: its topics, its filters, the
client identifier, the will payload, the user name, the password, and those in the values
of its properties. `Mqtt.Packet.fields_eq` lists them for each packet. -/
def fields (packet : Packet) : List Bytes :=
  packet.layout.fields

/-- The number of bytes of the body. `Mqtt.Packet.bodyLength_eq` counts them from the fields
of each packet. -/
def bodyLength (packet : Packet) : Nat :=
  packet.layout.size

/-- The subscription identifiers of a packet that obeys the rules are in range. -/
theorem inRange_layout (fits : packet.WellFormed) : packet.layout.InRange := by
  cases packet with
  | connect packet =>
      simp [layout, Connect.layout, Will.layout, ConnectProperties.toBlock, WillProperties.toBlock]
  | connAck packet => simp [layout, ConnAck.layout, ConnAckProperties.toBlock]
  | publish packet =>
      simpa [layout, Publish.layout, PublishProperties.toBlock] using
        Publish.inRange_identifiers fits
  | ack stage packet =>
      rw [layout, Ack.layout]
      split <;> simp [AckProperties.toBlock]
  | subscribe packet =>
      simpa [layout, Subscribe.layout, Subscription.layout, SubscribeProperties.toBlock] using
        Subscribe.inRange_identifier fits
  | subscriptionAck stage packet => simp [layout, SubscriptionAck.layout, AckProperties.toBlock]
  | unsubscribe packet => simp [layout, Unsubscribe.layout]
  | disconnect packet =>
      rw [layout, Disconnect.layout]
      split <;> simp [DisconnectProperties.toBlock]
  | auth packet => simp [layout, Auth.layout, AuthProperties.toBlock]
  | pingReq => exact Layout.inRange_nil
  | pingResp => exact Layout.inRange_nil

/-- A frame is a control byte, the length of a body and that body, which is the layout of
a packet that obeys the rules of writing. -/
theorem encode_eq_ok_iff_layout {frame : Bytes} :
    packet.encode = .ok frame ↔
      packet.WritingRules ∧ ∃ body, packet.layout.encode = .ok body ∧
        body.length ≤ maximumVarInt ∧ ∃ digits, VarInt.encode body.length = .ok digits ∧
          frame = (packet.packetType.code <<< 4 ||| packet.flags) :: (digits ++ body) := by
  simp only [encode_eq_ok_iff, encodeBody_eq_ok_iff, FixedHeader.encode_eq_ok_iff,
    packet.checkFlags_flags, true_and]
  constructor
  · rintro ⟨body, _, ⟨rules, wrote⟩, ⟨fits, digits, length, rfl⟩, rfl⟩
    exact ⟨rules, body, wrote, fits, digits, length, rfl⟩
  · rintro ⟨rules, body, wrote, fits, digits, length, rfl⟩
    exact ⟨body, _, ⟨rules, wrote⟩, ⟨fits, digits, length, rfl⟩, rfl⟩

/-- A packet that a program can hold is written exactly when each of its texts and each
binary data in it has at most as many bytes as the length in front of it can say, its body
has at most as many bytes as the header can say, and it obeys the rules of writing. The
frame is its control byte, the shortest spelling of the length of its body, and the
body. -/
theorem Held.encode_iff_fits (held : packet.Held) :
    ((∃ frame, packet.encode = .ok frame) ↔
      (∀ field ∈ packet.fields, field.length ≤ maximumFieldLength) ∧
        packet.bodyLength ≤ maximumVarInt ∧ packet.WritingRules) ∧
    ∀ frame, packet.encode = .ok frame →
      ∃ digits body, packet.encodeBody = .ok body ∧ body.length = packet.bodyLength ∧
        VarInt.Shortest digits body.length ∧
        frame = (packet.packetType.code <<< 4 ||| packet.flags) :: (digits ++ body) := by
  have fitsIff := Layout.encode_fits_iff (inRange_layout held.wellFormed)
  constructor
  · rw [← and_assoc, and_comm (b := packet.WritingRules)]
    change _ ↔ packet.WritingRules ∧ FieldsFit packet.layout.fields ∧
      packet.layout.size ≤ maximumVarInt
    rw [← fitsIff]
    constructor
    · rintro ⟨frame, wrote⟩
      obtain ⟨rules, body, wroteBody, fits, -⟩ := encode_eq_ok_iff_layout.mp wrote
      exact ⟨rules, body, wroteBody, fits⟩
    · rintro ⟨rules, body, wroteBody, fits⟩
      obtain ⟨digits, length⟩ := VarInt.encode_of_le fits
      exact ⟨_, encode_eq_ok_iff_layout.mpr ⟨rules, body, wroteBody, fits, digits, length, rfl⟩⟩
  · intro frame wrote
    obtain ⟨rules, body, wroteBody, -, digits, length, rfl⟩ := encode_eq_ok_iff_layout.mp wrote
    exact ⟨digits, body, encodeBody_eq_ok_iff.mpr ⟨rules, wroteBody⟩,
      Layout.length_encode wroteBody, VarInt.shortest_of_encode length, rfl⟩

/-- A SUBSCRIBE packet with a subscription identifier of two digits. -/
theorem Held.encode_iff_fits_subscribe :
    let packet : Packet := .subscribe {
      packetId := 10, properties := { subscriptionIdentifier := some 200 }
      subscriptions := [{ filter := "a/#", options := { qos := .atLeastOnce } }] }
    let frame : Bytes := [130, 12, 0, 10, 3, 11, 200, 1, 0, 3, 97, 47, 35, 1]
    packet.Held ∧ packet.encode = .ok frame ∧
      (∀ field ∈ packet.fields, field.length ≤ maximumFieldLength) ∧
      ∃ digits body, packet.encodeBody = .ok body ∧ VarInt.Shortest digits body.length ∧
        frame = (packet.packetType.code <<< 4 ||| packet.flags) :: (digits ++ body) := by
  intro packet frame
  have built : build packet = .ok packet := build_eq_ok_iff.mpr ⟨by decide +kernel, rfl⟩
  have held : packet.Held := .made (.built built)
  have wrote : packet.encode = .ok frame := by decide +kernel
  obtain ⟨fits, form⟩ := held.encode_iff_fits
  obtain ⟨digits, body, wroteBody, -, shortest, split⟩ := form frame wrote
  exact ⟨held, wrote, (fits.mp ⟨frame, wrote⟩).1, digits, body, wroteBody, shortest, split⟩

end Packet

end Mqtt
