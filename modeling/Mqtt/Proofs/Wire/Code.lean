import Mqtt.Proofs.Wire.Reader

/-! # What codes in a byte stand for

A packet takes a reason byte exactly when it is the code of one of its own reason
codes (`Mqtt.PacketType.readReason_eq_ok_iff`), and a control byte holds the kind
and the flags it was made of.
-/

namespace Mqtt

/-- A byte is read as no level but the one with that number. -/
theorem QoS.toByte_of_ofByte? {value : UInt8} {level : QoS}
    (named : QoS.ofByte? value = some level) : level.toByte = value := by
  unfold QoS.ofByte? at named
  split at named <;> cases named <;> rfl

/-- A level is read from its own number only. -/
theorem QoS.ofByte_eq_ok_iff {value : UInt8} {level : QoS} :
    QoS.ofByte value = .ok level ↔ value = level.toByte := by
  constructor
  · intro found
    unfold QoS.ofByte at found
    split at found
    · next other named =>
        cases found
        exact (QoS.toByte_of_ofByte? named).symm
    · cases found
  · intro same
    rw [same]
    simp only [QoS.ofByte, QoS.ofByte?_toByte]

namespace PacketType

variable {packetType : PacketType}

/-- A kind of packet accepts exactly the reasons in its list. -/
@[simp] theorem checkReason_eq_ok_iff {reason : ReasonCode} {result : Unit} :
    packetType.checkReason reason = .ok result ↔ reason ∈ packetType.reasonCodes := by
  unfold checkReason
  by_cases own : reason ∈ packetType.reasonCodes
  · simp [own]
  · simp [own]

/-- The reason that zero stands for has the code zero. -/
theorem code_zeroReason : packetType.zeroReason.code = 0 := by
  cases packetType <;> rfl

/-- Among the reason codes of one packet, zero has one meaning. -/
theorem eq_zeroReason_of_code {reason : ReasonCode} (own : reason ∈ packetType.reasonCodes)
    (zero : reason.code = 0) : reason = packetType.zeroReason := by
  have one : ∀ reason ∈ packetType.reasonCodes, reason.code = 0 →
      reason = packetType.zeroReason := by
    cases packetType <;> decide
  exact one reason own zero

/-- A reason is named by its own code, and only in the kinds of packet that have it. -/
theorem reasonOfByte_eq_ok_iff {reason : ReasonCode} {byte : UInt8} :
    packetType.reasonOfByte byte = .ok reason ↔
      reason ∈ packetType.reasonCodes ∧ byte = reason.code := by
  simp only [reasonOfByte, Except.bind_eq_ok_iff, checkReason_eq_ok_iff, Except.pure_eq_ok_iff]
  constructor
  · intro found
    obtain ⟨found, named, -, own, rfl⟩ := found
    unfold ReasonCode.ofByte at named
    split at named
    · next reason code =>
        cases named
        exact ⟨own, (ReasonCode.code_of_ofByte? code_zeroReason code).symm⟩
    · cases named
  · intro found
    obtain ⟨own, rfl⟩ := found
    refine ⟨reason, ?_, (), own, rfl⟩
    have code : ReasonCode.ofByte? packetType.zeroReason reason.code = some reason := by
      by_cases zero : reason.code = 0
      · rw [ReasonCode.ofByte?, if_pos zero, ← eq_zeroReason_of_code own zero]
      · exact ReasonCode.ofByte?_code zero _
    simp only [ReasonCode.ofByte, code]

/-- A reason is read from its own code, in the kinds of packet that have it. -/
@[simp] theorem readReason_eq_ok_iff {reason : ReasonCode} {bytes rest : Bytes} :
    packetType.readReason bytes = .ok (reason, rest) ↔
      reason ∈ packetType.reasonCodes ∧ bytes = reason.code :: rest := by
  simp only [readReason, Reader.bind_eq_ok_iff, Reader.byte_eq_ok_iff, Reader.ofExcept_eq_ok_iff,
    reasonOfByte_eq_ok_iff]
  constructor
  · intro found
    obtain ⟨byte, left, rfl, ⟨own, rfl⟩, rfl⟩ := found
    exact ⟨own, rfl⟩
  · intro found
    obtain ⟨own, rfl⟩ := found
    exact ⟨reason.code, rest, rfl, ⟨own, rfl⟩, rfl⟩

/-- Reading a reason undoes writing its code. -/
theorem readReason_mirrors :
    packetType.readReason.Mirrors (fun reason => .ok [reason.code])
      (· ∈ packetType.reasonCodes) := by
  intro bytes reason rest
  simp only [readReason_eq_ok_iff, Except.ok.injEq, exists_eq_left', List.singleton_append]

theorem readReason_consumes (packetType : PacketType) : packetType.readReason.Consumes :=
  readReason_mirrors.consumes fun _ _ wrote => by
    cases wrote
    exact List.cons_ne_nil _ _

/-- A list of reasons is read from their codes, to the last byte. -/
theorem readReasons_eq_ok_iff {reasons : List ReasonCode} {bytes rest : Bytes} :
    Reader.items packetType.readReason bytes = .ok (reasons, rest) ↔
      rest = [] ∧ (∀ reason ∈ reasons, reason ∈ packetType.reasonCodes) ∧
        bytes = reasons.map ReasonCode.code := by
  have each : (reasons.mapM fun reason => (.ok [reason.code] : Except PacketError Bytes)) =
      .ok (reasons.map fun reason => [reason.code]) := List.mapM_pure
  have joined : (reasons.map fun reason => [reason.code]).flatten = reasons.map ReasonCode.code :=
    List.map_eq_flatMap.symm
  rw [readReason_mirrors.items_eq_ok_iff packetType.readReason_consumes, each]
  simp only [Except.ok.injEq, exists_eq_left', joined]

/-- The kind of a packet is in the high half of its control byte. -/
theorem ofControlByte_eq_ok_iff {control : UInt8} :
    ofControlByte control = .ok packetType ↔ ofCode? (control >>> 4) = some packetType := by
  unfold ofControlByte
  cases ofCode? (control >>> 4) <;> simp

/-- A control byte is the kind and the flags it holds. -/
theorem controlByte_of_ofControlByte {control : UInt8}
    (announced : ofControlByte control = .ok packetType) :
    packetType.code <<< 4 ||| (control &&& 15) = control := by
  rw [code_of_ofCode? (ofControlByte_eq_ok_iff.mp announced)]
  exact Bytes.forall_byte (fun control => control >>> 4 <<< 4 ||| (control &&& 15) = control)
    (by decide +kernel) control

/-- The flags that are reserved for a kind are flags that it may have. -/
theorem checkFlags_reserved (packetType : PacketType) :
    packetType.checkFlags (packetType.reservedFlags.getD 0) = .ok () := by
  cases packetType <;> rfl

/-- The flags that a kind may have are four bits, and those reserved for it if there are any. -/
theorem checkFlags_eq_ok_iff {flags : UInt8} :
    packetType.checkFlags flags = .ok () ↔
      flags < 16 ∧ ∀ reserved ∈ packetType.reservedFlags, flags = reserved := by
  unfold checkFlags
  rw [Except.ite_error_eq_ok_iff, ge_iff_le, UInt8.not_le]
  cases packetType.reservedFlags with
  | none => simp
  | some expected => simp

/-- Flags that are accepted fit the low half of the control byte. -/
theorem checkFlags_lt {flags : UInt8} {result : Unit}
    (fits : packetType.checkFlags flags = .ok result) : flags < 16 := by
  unfold checkFlags at fits
  rw [Except.ite_error_eq_ok_iff] at fits
  exact UInt8.not_le.mp fits.1

/-- The two halves of a control byte are found again. -/
theorem flags_of_lt (packetType : PacketType) {flags : UInt8} (small : flags < 16) :
    (packetType.code <<< 4 ||| flags) >>> 4 = packetType.code ∧
      (packetType.code <<< 4 ||| flags) &&& 15 = flags := by
  have each : ∀ flags < 16, (packetType.code <<< 4 ||| UInt8.ofNat flags) >>> 4 = packetType.code ∧
      (packetType.code <<< 4 ||| UInt8.ofNat flags) &&& 15 = UInt8.ofNat flags := by
    cases packetType <;> decide
  have found := each flags.toNat (UInt8.lt_iff_toNat_lt.mp small)
  rwa [UInt8.ofNat_toNat] at found

/-- The flags that can be written are those that are read. -/
theorem controlByte_eq_ok_iff {flags control : UInt8} :
    packetType.controlByte flags = .ok control ↔
      packetType.checkFlags flags = .ok () ∧ packetType.code <<< 4 ||| flags = control := by
  unfold controlByte checkFlags
  cases packetType.reservedFlags with
  | none => simp
  | some expected => simp only [Except.ite_error_eq_ok_iff, Except.ok.injEq, and_true, and_assoc]

/-- Flags in a control byte that can be written are read with it. -/
theorem ofControlByte_of_checkFlags {flags : UInt8} (fits : packetType.checkFlags flags = .ok ()) :
    ofControlByte (packetType.code <<< 4 ||| flags) = .ok packetType ∧
      (packetType.code <<< 4 ||| flags) &&& 15 = flags := by
  obtain ⟨high, low⟩ := flags_of_lt packetType (checkFlags_lt fits)
  rw [ofControlByte_eq_ok_iff, high]
  exact ⟨ofCode?_code packetType, low⟩

end PacketType

end Mqtt
