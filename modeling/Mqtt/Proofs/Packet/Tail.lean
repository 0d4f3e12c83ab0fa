import Mqtt.Proofs.Property.Agreement
import Mqtt.Proofs.Wire.Code

/-! # A reason code and properties that may be left out

An acknowledgement and a DISCONNECT packet end in a reason code and properties.
The properties may be left out, and so may both, where the reason code has its
default. Which form a packet has is decided by where its bytes end
(`Mqtt.readTail_eq_ok_iff`).
-/

namespace Mqtt

variable {α β : Type} {packetType : PacketType} {ofBlock : PropertyBlock → Except Fault α}
  {plain value : β} {short : ReasonCode → β} {full : ReasonCode → α → β} {bytes rest : Bytes}

/-- Nothing is left, or a reason code, or a reason code and a block. -/
theorem readTail_eq_ok_iff :
    (do
      if (← Reader.remaining).isEmpty then return plain
      let reason ← packetType.readReason
      if (← Reader.remaining).isEmpty then return short reason
      let properties ← Reader.ofExcept (ofBlock (← PropertyBlock.read))
      return full reason properties : Reader β) bytes = .ok (value, rest) ↔
      (bytes = [] ∧ rest = [] ∧ plain = value) ∨
        ∃ reason ∈ packetType.reasonCodes,
          (bytes = [reason.code] ∧ rest = [] ∧ short reason = value) ∨
            ∃ inner block properties, bytes = reason.code :: inner ∧ inner ≠ [] ∧
              PropertyBlock.read inner = .ok (block, rest) ∧ ofBlock block = .ok properties ∧
              full reason properties = value := by
  simp only [Reader.bind_eq_ok_iff, Reader.remaining_eq_ok_iff, Reader.ite_apply,
    List.isEmpty_iff]
  constructor
  · intro found
    obtain ⟨_, _, ⟨rfl, rfl⟩, found⟩ := found
    by_cases empty : bytes = []
    · simp only [empty, ↓reduceIte, Reader.pure_eq_ok_iff, Prod.mk.injEq] at found
      obtain ⟨same, rfl⟩ := found
      exact .inl ⟨empty, rfl, same⟩
    · simp only [empty, ↓reduceIte, Reader.bind_eq_ok_iff, PacketType.readReason_eq_ok_iff,
        Reader.remaining_eq_ok_iff, Reader.ite_apply] at found
      obtain ⟨reason, inner, ⟨own, rfl⟩, _, _, ⟨rfl, rfl⟩, found⟩ := found
      refine .inr ⟨reason, own, ?_⟩
      by_cases bare : inner = []
      · simp only [bare, ↓reduceIte, Reader.pure_eq_ok_iff, Prod.mk.injEq] at found
        obtain ⟨same, rfl⟩ := found
        exact .inl ⟨by rw [bare], rfl, same⟩
      · simp only [bare, ↓reduceIte, Reader.bind_eq_ok_iff, Reader.ofExcept_eq_ok_iff,
          Reader.pure_eq_ok_iff, Prod.mk.injEq] at found
        obtain ⟨block, _, blockFound, properties, _, ⟨typed, rfl⟩, same, rfl⟩ := found
        exact .inr ⟨inner, block, properties, rfl, bare, blockFound, typed, same⟩
  · intro form
    refine ⟨bytes, bytes, ⟨rfl, rfl⟩, ?_⟩
    rcases form with ⟨rfl, rfl, rfl⟩ | ⟨reason, own, ⟨rfl, rfl, rfl⟩ | form⟩
    · rfl
    · simp only [reduceCtorEq, ↓reduceIte, Reader.bind_eq_ok_iff, PacketType.readReason_eq_ok_iff]
      exact ⟨reason, [], ⟨own, rfl⟩, [], [], rfl, rfl⟩
    · obtain ⟨inner, block, properties, rfl, more, blockFound, typed, rfl⟩ := form
      simp only [reduceCtorEq, ↓reduceIte, Reader.bind_eq_ok_iff, PacketType.readReason_eq_ok_iff,
        Reader.remaining_eq_ok_iff, Reader.ite_apply]
      refine ⟨reason, inner, ⟨own, rfl⟩, inner, inner, ⟨rfl, rfl⟩, ?_⟩
      simp only [more, ↓reduceIte, Reader.bind_eq_ok_iff, Reader.ofExcept_eq_ok_iff]
      exact ⟨block, rest, blockFound, properties, rest, ⟨typed, rfl⟩, rfl⟩

end Mqtt
