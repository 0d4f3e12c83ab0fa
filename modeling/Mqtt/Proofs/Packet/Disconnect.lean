import Mqtt.Packet.Disconnect
import Mqtt.Proofs.Packet.Tail

/-! # A DISCONNECT packet, written and read

The reason code and the properties are left out where they can be, and what is
left out is what a reader puts in its place (`Mqtt.Disconnect.read_encode`). A
packet that is read can be written in no more bytes
(`Mqtt.Disconnect.encode_of_read`).
-/

namespace Mqtt

open PropertyBlock

variable {bytes rest written : Bytes}

namespace DisconnectProperties

theorem agrees_iff {block : PropertyBlock} {properties : DisconnectProperties} :
    block.Agrees properties.toBlock ↔
      block.OfKinds kinds ∧
        block.values .sessionExpiryInterval = properties.sessionExpiryInterval.toList ∧
        block.values .reasonString = properties.reasonString.toList ∧
        block.values .userProperty = properties.userProperties ∧
        block.values .serverReference = properties.serverReference.toList := by
  rw [PropertyBlock.agrees_iff (show properties.toBlock.OfKinds kinds by simp [toBlock, kinds])]
  simp [toBlock, kinds]

theorem represents : Represents toBlock ofBlock fun _ => True := by
  intro block properties
  simp only [agrees_iff, ofBlock, Except.bind_eq_ok_iff, checkKinds_eq_ok_iff,
    Except.pure_eq_ok_iff, true_and]
  constructor
  · intro found
    obtain ⟨-, own, _, expiry, _, reasonString, _, reference, rfl⟩ := found
    exact ⟨own, value?_eq_ok_iff.mp expiry, value?_eq_ok_iff.mp reasonString, rfl,
      value?_eq_ok_iff.mp reference⟩
  · intro agrees
    obtain ⟨own, expiry, reasonString, userProperties, reference⟩ := agrees
    exact ⟨(), own, _, value?_eq_ok_iff.mpr expiry, _, value?_eq_ok_iff.mpr reasonString, _,
      value?_eq_ok_iff.mpr reference, by rw [PropertyBlock.userProperties, userProperties]⟩

/-- Only the properties that are all absent are written as nothing. -/
theorem eq_default_of_toBlock {properties : DisconnectProperties}
    (nothing : properties.toBlock = []) : properties = {} := by
  have typed := represents.mpr ⟨trivial, Agrees.refl properties.toBlock⟩
  rw [nothing] at typed
  cases typed
  rfl

end DisconnectProperties

namespace Disconnect

variable {packet : Disconnect}

theorem check_eq_ok_iff {result : Unit} :
    packet.check = .ok result ↔ packet.reason ∈ PacketType.disconnect.reasonCodes :=
  PacketType.checkReason_eq_ok_iff

/-- A DISCONNECT packet is nothing; or a reason code; or a reason code and a block
of its properties. -/
theorem read_eq_ok_iff :
    read bytes = .ok (packet, rest) ↔
      (bytes = [] ∧ rest = [] ∧ packet = {}) ∨
        (packet.reason ∈ PacketType.disconnect.reasonCodes ∧
          ((bytes = [packet.reason.code] ∧ rest = [] ∧ packet.properties = {}) ∨
            ∃ inner block, bytes = packet.reason.code :: inner ∧ inner ≠ [] ∧
              PropertyBlock.read inner = .ok (block, rest) ∧
              DisconnectProperties.ofBlock block = .ok packet.properties)) := by
  rw [read, readTail_eq_ok_iff]
  constructor
  · intro form
    rcases form with ⟨rfl, rfl, rfl⟩ | ⟨reason, own, ⟨rfl, rfl, rfl⟩ | form⟩
    · exact .inl ⟨rfl, rfl, rfl⟩
    · exact .inr ⟨own, .inl ⟨rfl, rfl, rfl⟩⟩
    · obtain ⟨inner, block, properties, rfl, more, blockFound, typed, rfl⟩ := form
      exact .inr ⟨own, .inr ⟨inner, block, rfl, more, blockFound, typed⟩⟩
  · intro form
    obtain ⟨reason, properties⟩ := packet
    rcases form with ⟨rfl, rfl, same⟩ | ⟨own, ⟨rfl, rfl, bare⟩ | form⟩
    · exact .inl ⟨rfl, rfl, same.symm⟩
    · exact .inr ⟨reason, own, .inl ⟨rfl, rfl, by rw [← bare]⟩⟩
    · obtain ⟨inner, block, rfl, more, blockFound, typed⟩ := form
      exact .inr ⟨reason, own,
        .inr ⟨inner, block, properties, rfl, more, blockFound, typed, rfl⟩⟩

/-- Without properties a DISCONNECT packet has no block, and a normal one then no reason. -/
theorem encode_eq_ok_iff :
    packet.encode = .ok written ↔
      (packet.properties = {} ∧
        (if packet.reason = .normalDisconnection then [] else [packet.reason.code]) = written) ∨
        (packet.properties ≠ {} ∧ ∃ block, packet.properties.toBlock.encode = .ok block ∧
          packet.reason.code :: block = written) := by
  unfold encode
  by_cases bare : packet.properties = {}
  · have nothing : DisconnectProperties.toBlock {} = [] := rfl
    simp only [nothing, List.isEmpty_nil, ↓reduceIte, Except.pure_eq_ok_iff, bare, true_and,
      ne_eq, not_true_eq_false, false_and, or_false]
  · have some : packet.properties.toBlock ≠ [] := fun nothing =>
      bare (DisconnectProperties.eq_default_of_toBlock nothing)
    simp only [List.isEmpty_iff, some, ↓reduceIte, Except.bind_eq_ok_iff, Except.pure_eq_ok_iff,
      bare, false_and, ne_eq, not_false_eq_true, true_and, false_or]

/-- A DISCONNECT packet that is written is read back. -/
theorem read_encode (fits : packet.check = .ok ()) (wrote : packet.encode = .ok written) :
    read written = .ok (packet, []) := by
  have own := check_eq_ok_iff.mp fits
  apply read_eq_ok_iff.mpr
  rcases encode_eq_ok_iff.mp wrote with ⟨bare, rfl⟩ | ⟨-, block, wroteBlock, rfl⟩
  · by_cases normal : packet.reason = .normalDisconnection
    · refine .inl ⟨if_pos normal, rfl, ?_⟩
      rw [← normal, ← bare]
    · exact .inr ⟨own, .inl ⟨if_neg normal, rfl, bare⟩⟩
  · obtain ⟨blockFound, typed⟩ := DisconnectProperties.represents.read_encode trivial wroteBlock []
    rw [List.append_nil] at blockFound
    exact .inr ⟨own, .inr ⟨block, _, rfl, encode_ne_nil wroteBlock, blockFound, typed⟩⟩

/-- A DISCONNECT packet that is read obeys the rules and can be written in no more
bytes. -/
theorem encode_of_read (found : read bytes = .ok (packet, rest)) :
    packet.check = .ok () ∧ ∃ written, packet.encode = .ok written ∧
      written.length + rest.length ≤ bytes.length := by
  rcases read_eq_ok_iff.mp found with ⟨rfl, rfl, rfl⟩ | ⟨own, form⟩
  · exact ⟨rfl, [], rfl, Nat.le_refl _⟩
  · refine ⟨check_eq_ok_iff.mpr own, ?_⟩
    by_cases bare : packet.properties = {}
    · refine ⟨_, encode_eq_ok_iff.mpr (.inl ⟨bare, rfl⟩), ?_⟩
      have small : (if packet.reason = .normalDisconnection then []
          else [packet.reason.code]).length ≤ 1 := by
        split <;> simp
      rcases form with ⟨rfl, rfl, -⟩ | ⟨inner, block, rfl, -, blockFound, -⟩
      · exact small
      · obtain ⟨_, -, shorter⟩ := PropertyBlock.encode_of_read blockFound (List.Perm.refl _)
        rw [List.length_cons]
        omega
    · rcases form with ⟨-, -, nothing⟩ | ⟨inner, block, rfl, -, blockFound, typed⟩
      · exact (bare nothing).elim
      · obtain ⟨-, written, wrote, shorter⟩ :=
          DisconnectProperties.represents.encode_of_read blockFound typed
        refine ⟨_, encode_eq_ok_iff.mpr (.inr ⟨bare, written, wrote, rfl⟩), ?_⟩
        rw [List.length_cons, List.length_cons]
        omega

end Disconnect

end Mqtt
