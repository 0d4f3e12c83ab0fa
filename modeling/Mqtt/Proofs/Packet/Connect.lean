import Mqtt.Packet.Connect
import Mqtt.Proofs.Property.Agreement
import Mqtt.Proofs.Wire.Code

/-! # A CONNECT packet, written and read

The flags byte of a packet announces what the packet holds
(`Mqtt.Connect.announced_flags`), so each part is read exactly where it was
written (`Mqtt.Connect.read_encode`). A packet that is read can be written in no
more bytes (`Mqtt.Connect.encode_of_read`).
-/

namespace Mqtt

open PropertyBlock

variable {bytes rest written : Bytes}

/-! ## The will message -/

namespace WillProperties

/-- A block agrees with the properties of a will message when it holds the value of each. -/
theorem agrees_iff {block : PropertyBlock} {properties : WillProperties} :
    block.Agrees properties.toBlock ↔
      block.OfKinds kinds ∧
        block.values .willDelayInterval = properties.delayInterval.toList ∧
        block.values .payloadFormatIndicator =
          (properties.payloadFormatIndicator.map Bool.toUInt8).toList ∧
        block.values .messageExpiryInterval = properties.messageExpiryInterval.toList ∧
        block.values .contentType = properties.contentType.toList ∧
        block.values .responseTopic = properties.responseTopic.toList ∧
        block.values .correlationData = properties.correlationData.toList ∧
        block.values .userProperty = properties.userProperties := by
  rw [PropertyBlock.agrees_iff (show properties.toBlock.OfKinds kinds by simp [toBlock, kinds])]
  simp [toBlock, kinds]

/-- The properties of a will message are read from any block that agrees with them. -/
theorem represents : Represents toBlock ofBlock fun _ => True := by
  intro block properties
  simp only [agrees_iff, ofBlock, Except.bind_eq_ok_iff, checkKinds_eq_ok_iff,
    Except.pure_eq_ok_iff, true_and]
  constructor
  · intro found
    obtain ⟨-, own, _, delay, _, format, _, expiry, _, content, _, response, _, correlation, rfl⟩ :=
      found
    have format := (flag?_eq_ok_iff .payloadFormatIndicator id id fun _ _ => Iff.rfl).mp format
    exact ⟨own, value?_eq_ok_iff.mp delay, format, value?_eq_ok_iff.mp expiry,
      value?_eq_ok_iff.mp content, value?_eq_ok_iff.mp response, value?_eq_ok_iff.mp correlation,
      rfl⟩
  · intro agrees
    obtain ⟨own, delay, format, expiry, content, response, correlation, userProperties⟩ := agrees
    have format := (flag?_eq_ok_iff .payloadFormatIndicator id id fun _ _ => Iff.rfl).mpr format
    exact ⟨(), own, _, value?_eq_ok_iff.mpr delay, _, format, _, value?_eq_ok_iff.mpr expiry, _,
      value?_eq_ok_iff.mpr content, _, value?_eq_ok_iff.mpr response, _,
      value?_eq_ok_iff.mpr correlation, by rw [PropertyBlock.userProperties, userProperties]⟩

end WillProperties

namespace Will

variable {will : Will} {qos : QoS} {retain : Bool}

/-- A will message is written under the rule of its topic. -/
theorem encode_eq_ok_iff :
    will.encode = .ok written ↔
      checkTopic will.topic = .ok () ∧ ∃ block topic payload,
        will.properties.toBlock.encode = .ok block ∧ Field.ofText will.topic = .ok topic ∧
        Field.ofBinary will.payload = .ok payload ∧ block ++ topic ++ payload = written := by
  rw [encode, Except.bind_unit_eq_ok_iff, Except.mapError_eq_ok_iff]
  simp only [Except.bind_eq_ok_iff, Except.pure_eq_ok_iff, exists_and_left]

/-- A will message is read from its block, topic and payload, under the rule of its topic.
-/
theorem read_eq_ok_iff :
    read qos retain bytes = .ok (will, rest) ↔
      will.qos = qos ∧ will.retain = retain ∧ checkTopic will.topic = .ok () ∧
        ∃ block topic payload, Field.ofText will.topic = .ok topic ∧
          Field.ofBinary will.payload = .ok payload ∧
          PropertyBlock.read bytes = .ok (block, topic ++ (payload ++ rest)) ∧
          WillProperties.ofBlock block = .ok will.properties := by
  simp only [read, Reader.bind_eq_ok_iff, Reader.ofExcept_eq_ok_iff, Reader.pure_eq_ok_iff,
    Prod.mk.injEq]
  constructor
  · intro found
    obtain ⟨block, _, blockFound, properties, _, ⟨typed, rfl⟩, topic, _, topicFound, _, _,
      ⟨fits, rfl⟩, payload, _, payloadFound, rfl, rfl⟩ := found
    obtain ⟨-, topicBytes, wroteTopic, rfl⟩ := Reader.text_mirrors.mp topicFound
    obtain ⟨-, payloadBytes, wrotePayload, rfl⟩ := Reader.binary_mirrors.mp payloadFound
    exact ⟨rfl, rfl, fits, block, topicBytes, payloadBytes, wroteTopic, wrotePayload, blockFound,
      typed⟩
  · intro found
    obtain ⟨rfl, rfl, fits, block, topic, payload, wroteTopic, wrotePayload, blockFound, typed⟩ :=
      found
    exact ⟨block, _, blockFound, will.properties, _, ⟨typed, rfl⟩, will.topic, _,
      Reader.text_mirrors.read_written trivial wroteTopic _, (), _, ⟨fits, rfl⟩, will.payload,
      rest, Reader.binary_mirrors.read_written trivial wrotePayload rest, rfl, rfl⟩

/-- A will message that is written is read back, whatever follows it. -/
theorem read_encode (wrote : will.encode = .ok written) (rest : Bytes) :
    read will.qos will.retain (written ++ rest) = .ok (will, rest) := by
  obtain ⟨fits, block, topic, payload, wroteBlock, wroteTopic, wrotePayload, rfl⟩ :=
    encode_eq_ok_iff.mp wrote
  obtain ⟨blockFound, typed⟩ :=
    WillProperties.represents.read_encode trivial wroteBlock (topic ++ (payload ++ rest))
  apply read_eq_ok_iff.mpr
  refine ⟨rfl, rfl, fits, _, topic, payload, wroteTopic, wrotePayload, ?_, typed⟩
  simpa only [List.append_assoc] using blockFound

/-- A will message that is read can be written in no more bytes. -/
theorem encode_of_read (found : read qos retain bytes = .ok (will, rest)) :
    ∃ written, will.encode = .ok written ∧ written.length + rest.length ≤ bytes.length := by
  obtain ⟨-, -, fits, block, topic, payload, wroteTopic, wrotePayload, blockFound, typed⟩ :=
    read_eq_ok_iff.mp found
  obtain ⟨-, written, wrote, shorter⟩ := WillProperties.represents.encode_of_read blockFound typed
  refine ⟨_, encode_eq_ok_iff.mpr
    ⟨fits, written, topic, payload, wrote, wroteTopic, wrotePayload, rfl⟩, ?_⟩
  simp only [List.length_append] at shorter ⊢
  omega

end Will

/-! ## The properties -/

namespace ConnectProperties

/-- A block agrees with the properties of a CONNECT packet when it holds the value of
each. -/
theorem agrees_iff {block : PropertyBlock} {properties : ConnectProperties} :
    block.Agrees properties.toBlock ↔
      block.OfKinds kinds ∧
        block.values .sessionExpiryInterval = properties.sessionExpiryInterval.toList ∧
        block.values .receiveMaximum = properties.receiveMaximum.toList ∧
        block.values .maximumPacketSize = properties.maximumPacketSize.toList ∧
        block.values .topicAliasMaximum = properties.topicAliasMaximum.toList ∧
        block.values .requestResponseInformation =
          (properties.requestResponseInformation.map Bool.toUInt8).toList ∧
        block.values .requestProblemInformation =
          (properties.requestProblemInformation.map Bool.toUInt8).toList ∧
        block.values .userProperty = properties.userProperties ∧
        block.values .authenticationMethod = properties.authenticationMethod.toList ∧
        block.values .authenticationData = properties.authenticationData.toList := by
  rw [PropertyBlock.agrees_iff (show properties.toBlock.OfKinds kinds by simp [toBlock, kinds])]
  simp [toBlock, kinds]

/-- The properties are read from any block that agrees with them, if they obey their
rules. -/
theorem represents : Represents toBlock ofBlock fun properties => properties.check = .ok () := by
  intro block properties
  simp only [agrees_iff, ofBlock, Except.bind_eq_ok_iff, checkKinds_eq_ok_iff,
    Except.pure_eq_ok_iff]
  constructor
  · intro found
    obtain ⟨-, own, _, expiry, _, receive, _, size, _, aliases, _, response, _, problem, _, method,
      _, data, _, fits, rfl⟩ := found
    have response :=
      (flag?_eq_ok_iff .requestResponseInformation id id fun _ _ => Iff.rfl).mp response
    have problem :=
      (flag?_eq_ok_iff .requestProblemInformation id id fun _ _ => Iff.rfl).mp problem
    exact ⟨fits, own, value?_eq_ok_iff.mp expiry, value?_eq_ok_iff.mp receive,
      value?_eq_ok_iff.mp size, value?_eq_ok_iff.mp aliases, response, problem, rfl,
      value?_eq_ok_iff.mp method, value?_eq_ok_iff.mp data⟩
  · intro agrees
    obtain ⟨fits, own, expiry, receive, size, aliases, response, problem, userProperties, method,
      data⟩ := agrees
    have response :=
      (flag?_eq_ok_iff .requestResponseInformation id id fun _ _ => Iff.rfl).mpr response
    have problem :=
      (flag?_eq_ok_iff .requestProblemInformation id id fun _ _ => Iff.rfl).mpr problem
    rw [PropertyBlock.userProperties, userProperties]
    exact ⟨(), own, _, value?_eq_ok_iff.mpr expiry, _, value?_eq_ok_iff.mpr receive, _,
      value?_eq_ok_iff.mpr size, _, value?_eq_ok_iff.mpr aliases, _, response, _, problem, _,
      value?_eq_ok_iff.mpr method, _, value?_eq_ok_iff.mpr data, (), fits, rfl⟩

end ConnectProperties

/-! ## The packet -/

namespace Connect

variable {packet : Connect}

/-- The flags byte of a packet announces what the packet holds. -/
theorem announced_flags (packet : Connect) :
    announced packet.flags = .ok {
      cleanStart := packet.cleanStart
      will := packet.will.map fun will => (will.qos, will.retain)
      username := packet.username.isSome
      password := packet.password.isSome } := by
  unfold flags
  cases packet.cleanStart <;> cases packet.username.isSome <;> cases packet.password.isSome <;>
    cases packet.will with
    | none => rfl
    | some will =>
        simp only [willFlags, Option.map_some]
        cases will.qos <;> cases will.retain <;> rfl

/-- An optional field is read when it is announced, as it is written. -/
theorem readIf_eq_ok_iff {α : Type} {reader : Reader α} {write : α → Except PacketError Bytes}
    (mirrors : reader.Mirrors write fun _ => True) {present : Bool} {found : Option α} :
    readIf present reader bytes = .ok (found, rest) ↔
      found.isSome = present ∧ ∃ written, found.elim (.ok []) write = .ok written ∧
        bytes = written ++ rest := by
  cases present with
  | false => cases found <;> simp [readIf]
  | true =>
      cases found with
      | none => simp [readIf]
      | some value =>
          simp only [readIf, ↓reduceIte, Reader.map_eq_ok_iff, Option.some.injEq,
            exists_eq_right, Option.isSome_some, Option.elim_some, true_and]
          rw [mirrors, true_and]

/-- A will message, where there is one, is read back by what the flags announce of it. -/
theorem readWill_encode {will : Option Will}
    (wrote : will.elim (.ok []) Will.encode = .ok written) (rest : Bytes) :
    readWill (will.map fun will => (will.qos, will.retain)) (written ++ rest) =
      .ok (will, rest) := by
  cases will with
  | none =>
      cases wrote
      rfl
  | some will => exact Reader.map_eq_ok_iff.mpr ⟨will, Will.read_encode wrote rest, rfl⟩

/-- A will message that was read as announced can be written in no more bytes. -/
theorem encode_of_readWill {announced : Option (QoS × Bool)} {will : Option Will}
    (found : readWill announced bytes = .ok (will, rest)) :
    ∃ written, will.elim (.ok []) Will.encode = .ok written ∧
      written.length + rest.length ≤ bytes.length := by
  cases announced with
  | none =>
      cases found
      exact ⟨[], rfl, by simp⟩
  | some marks =>
      obtain ⟨_, willFound, rfl⟩ := Reader.map_eq_ok_iff.mp found
      exact Will.encode_of_read willFound

/-- A CONNECT packet is read from its parts, those that its flags announce among them. -/
theorem read_eq_ok_iff :
    read bytes = .ok (packet, rest) ↔
      ∃ name flags announcement inner block client left username password,
        Field.ofText protocolName = .ok name ∧
        bytes = name ++ protocolVersion :: flags :: (Bytes.ofUInt16 packet.keepAlive ++ inner) ∧
        announced flags = .ok announcement ∧
        announcement.cleanStart = packet.cleanStart ∧
        announcement.username = packet.username.isSome ∧
        announcement.password = packet.password.isSome ∧
        PropertyBlock.read inner = .ok (block, client ++ left) ∧
        ConnectProperties.ofBlock block = .ok packet.properties ∧
        Field.ofText packet.clientId = .ok client ∧
        readWill announcement.will left = .ok (packet.will, username ++ (password ++ rest)) ∧
        packet.username.elim (.ok []) Field.ofText = .ok username ∧
        packet.password.elim (.ok []) Field.ofBinary = .ok password := by
  simp only [read, Reader.bind_eq_ok_iff, Reader.byte_eq_ok_iff, Reader.throw_bind,
    Reader.ite_apply, Reader.throw_apply, Except.ite_error_eq_ok_iff, Reader.ofExcept_eq_ok_iff,
    Reader.twoBytes_eq_ok_iff, readIf_eq_ok_iff Reader.text_mirrors,
    readIf_eq_ok_iff Reader.binary_mirrors, Reader.pure_eq_ok_iff, Prod.mk.injEq,
    Classical.not_not, ne_eq]
  constructor
  · intro found
    obtain ⟨_, _, nameFound, rfl, _, _, rfl, rfl, flags, _, rfl, announcement, _, ⟨meaning, rfl⟩,
      keepAlive, inner, rfl, block, _, blockFound, properties, _, ⟨typed, rfl⟩, clientId, _,
      clientFound, will, _, willFound, username, _,
      ⟨hasUsername, usernameBytes, wroteUsername, rfl⟩, password, _,
      ⟨hasPassword, passwordBytes, wrotePassword, rfl⟩, rfl, rfl⟩ := found
    obtain ⟨-, name, wroteName, rfl⟩ := Reader.text_mirrors.mp nameFound
    obtain ⟨-, client, wroteClient, rfl⟩ := Reader.text_mirrors.mp clientFound
    exact ⟨name, flags, announcement, inner, block, client, _, usernameBytes, passwordBytes,
      wroteName, rfl, meaning, rfl, hasUsername.symm, hasPassword.symm, blockFound, typed,
      wroteClient, willFound, wroteUsername, wrotePassword⟩
  · intro found
    obtain ⟨name, flags, announcement, inner, block, client, left, username, password, wroteName,
      rfl, meaning, cleanStart, hasUsername, hasPassword, blockFound, typed, wroteClient, willFound,
      wroteUsername, wrotePassword⟩ := found
    refine ⟨protocolName, _, Reader.text_mirrors.read_written trivial wroteName _, rfl,
      protocolVersion, _, rfl, rfl, flags, _, rfl, announcement, _, ⟨meaning, rfl⟩,
      packet.keepAlive, inner, rfl, block, _, blockFound, packet.properties, _, ⟨typed, rfl⟩,
      packet.clientId, left,
      Reader.text_mirrors.read_written trivial wroteClient left, packet.will, _, willFound,
      packet.username, _, ⟨hasUsername.symm, username, wroteUsername, rfl⟩, packet.password, rest,
      ⟨hasPassword.symm, password, wrotePassword, rfl⟩, ?_, rfl⟩
    rw [cleanStart]

/-- A CONNECT packet is written as its parts, those that are there among them. -/
theorem encode_eq_ok_iff :
    packet.encode = .ok written ↔
      ∃ name block client will username password,
        Field.ofText protocolName = .ok name ∧ packet.properties.check = .ok () ∧
        packet.properties.toBlock.encode = .ok block ∧
        Field.ofText packet.clientId = .ok client ∧
        packet.will.elim (.ok []) Will.encode = .ok will ∧
        packet.username.elim (.ok []) Field.ofText = .ok username ∧
        packet.password.elim (.ok []) Field.ofBinary = .ok password ∧
        name ++ protocolVersion :: packet.flags :: Bytes.ofUInt16 packet.keepAlive ++ block ++
          client ++ will ++ username ++ password = written := by
  simp only [encode, Except.bind_eq_ok_iff, Except.mapError_eq_ok_iff, Except.pure_eq_ok_iff]
  constructor
  · intro wrote
    obtain ⟨name, wroteName, _, fits, block, wroteBlock, client, wroteClient, will, wroteWill,
      username, wroteUsername, password, wrotePassword, rfl⟩ := wrote
    exact ⟨name, block, client, will, username, password, wroteName, fits, wroteBlock, wroteClient,
      wroteWill, wroteUsername, wrotePassword, rfl⟩
  · intro wrote
    obtain ⟨name, block, client, will, username, password, wroteName, fits, wroteBlock, wroteClient,
      wroteWill, wroteUsername, wrotePassword, rfl⟩ := wrote
    exact ⟨name, wroteName, (), fits, block, wroteBlock, client, wroteClient, will, wroteWill,
      username, wroteUsername, password, wrotePassword, rfl⟩

/-- A CONNECT packet that is written is read back. -/
theorem read_encode (wrote : packet.encode = .ok written) : read written = .ok (packet, []) := by
  obtain ⟨name, block, client, will, username, password, wroteName, fits, wroteBlock, wroteClient,
    wroteWill, wroteUsername, wrotePassword, rfl⟩ := encode_eq_ok_iff.mp wrote
  obtain ⟨blockFound, typed⟩ := ConnectProperties.represents.read_encode fits wroteBlock
    (client ++ (will ++ (username ++ (password ++ []))))
  apply read_eq_ok_iff.mpr
  refine ⟨name, packet.flags, _, _, _, client, _, username, password, wroteName,
    ?_, announced_flags packet, rfl, rfl, rfl, blockFound, typed, wroteClient,
    readWill_encode wroteWill _, wroteUsername, wrotePassword⟩
  simp only [List.append_assoc, List.cons_append, List.append_nil]

/-- A CONNECT packet that is read can be written in no more bytes. -/
theorem encode_of_read (found : read bytes = .ok (packet, rest)) :
    ∃ written, packet.encode = .ok written ∧ written.length + rest.length ≤ bytes.length := by
  obtain ⟨name, flags, announcement, inner, block, client, left, username, password, wroteName, rfl,
    -, -, -, -, blockFound, typed, wroteClient, willFound, wroteUsername, wrotePassword⟩ :=
    read_eq_ok_iff.mp found
  obtain ⟨fits, blockBytes, wroteBlock, shorterBlock⟩ :=
    ConnectProperties.represents.encode_of_read blockFound typed
  obtain ⟨will, wroteWill, shorterWill⟩ := encode_of_readWill willFound
  refine ⟨_, encode_eq_ok_iff.mpr ⟨name, blockBytes, client, will, username, password, wroteName,
    fits, wroteBlock, wroteClient, wroteWill, wroteUsername, wrotePassword, rfl⟩, ?_⟩
  simp only [List.length_append, List.length_cons] at shorterBlock shorterWill ⊢
  omega

end Connect

end Mqtt
