import Mqtt.Proofs.Wire.Reader

/-! # Bytes that are read alike

A reader reads two byte strings alike when it finds in each what it finds in the other.
It does so when both begin with the same field, whose end does not depend on what
follows it, and are read alike behind this field (`Mqtt.Reader.Delimits.alike`).
-/

namespace Mqtt

namespace Reader

variable {α β : Type} {reader : Reader α} {next : α → Reader β} {field first second : Bytes}

/-- The same is found in two byte strings, and the same bytes are left. -/
def Alike (reader : Reader α) (first second : Bytes) : Prop :=
  ∀ result, reader first = .ok result ↔ reader second = .ok result

/-- A reader takes the bytes of a field off the front, with an outcome that does not
depend on what follows them. -/
def Delimits (reader : Reader α) (field : Bytes) : Prop :=
  ∃ outcome : Except Fault α, ∀ rest, reader (field ++ rest) = outcome.map (·, rest)

/-! ## Reading on -/

/-- Two inputs that a reader takes alike stay alike for what is read after it. -/
theorem Alike.bind (alike : reader.Alike first second) (next : α → Reader β) :
    (reader >>= next).Alike first second := by
  intro result
  simp only [bind_eq_ok_iff, alike _]

theorem Alike.map (alike : reader.Alike first second) (change : α → β) :
    (change <$> reader).Alike first second := by
  rw [map_eq_pure_bind]
  exact alike.bind _

/-- A rule that is broken is broken in both. -/
theorem alike_unless {broken : Prop} [Decidable broken] {fault : Fault} {other : Unit → Reader α}
    (alike : ¬ broken → reader.Alike first second) :
    (if broken then throw fault >>= other else reader).Alike first second := by
  by_cases holds : broken
  · intro result
    simp only [holds, ↓reduceIte, throw_bind, throw_apply]
  · simpa only [holds, ↓reduceIte] using alike holds

/-- What is checked between two readers does not depend on the input. -/
theorem alike_ofExcept_bind {result : Except Fault α}
    (alike : ∀ value, result = .ok value → (next value).Alike first second) :
    (ofExcept result >>= next).Alike first second := by
  cases result with
  | error fault => exact fun _ => Iff.rfl
  | ok value => exact alike value rfl

/-- Neither of two byte strings ends here. -/
theorem alike_remaining_bind (firstSome : first ≠ []) (secondSome : second ≠ [])
    {other : Reader α} (alike : reader.Alike first second) :
    (remaining >>= fun left => if left.isEmpty then other else reader).Alike first second := by
  intro result
  have firstLeft : remaining first = .ok (first, first) := rfl
  have secondLeft : remaining second = .ok (second, second) := rfl
  rw [bind_of_ok firstLeft, bind_of_ok secondLeft, List.isEmpty_eq_false_iff.mpr firstSome,
    List.isEmpty_eq_false_iff.mpr secondSome]
  exact alike result

/-! ## Fields -/

/-- Behind a field that both have in front, two byte strings are read on alike. -/
theorem Delimits.alike (delimits : reader.Delimits field)
    (alike : ∀ value, (next value).Alike first second) :
    (reader >>= next).Alike (field ++ first) (field ++ second) := by
  obtain ⟨outcome, taken⟩ := delimits
  intro result
  cases outcome with
  | error fault => rw [bind_of_error (taken first), bind_of_error (taken second)]
  | ok value =>
      rw [bind_of_ok (taken first), bind_of_ok (taken second)]
      exact alike value result

/-- The byte in front is read, and the readers go on alike. -/
theorem alike_byteOr_bind {missing : Fault} {byte : UInt8} {next : UInt8 → Reader β}
    (alike : (next byte).Alike first second) :
    (byteOr missing >>= next).Alike (byte :: first) (byte :: second) :=
  alike

/-- Two bytes are a field of two bytes, whatever follows. -/
theorem delimits_twoBytesOr {missing : Fault} (length : field.length = 2) :
    (twoBytesOr missing).Delimits field := by
  match field, length with
  | [high, low], _ => exact ⟨.ok (Bytes.toUInt16 high low), fun _ => rfl⟩

/-- A packet identifier is a field of two bytes, whatever follows. -/
theorem delimits_packetId (length : field.length = 2) : packetId.Delimits field := by
  match field, length with
  | [high, low], _ =>
      have taken (rest : Bytes) : twoBytesOr .packetIdMissing ([high, low] ++ rest) =
          .ok (Bytes.toUInt16 high low, rest) := rfl
      by_cases zero : Bytes.toUInt16 high low = 0
      · refine ⟨.error .packetIdZero, fun rest => ?_⟩
        rw [packetId, bind_of_ok (taken rest), if_pos zero]
        rfl
      · refine ⟨.ok (Bytes.toUInt16 high low), fun rest => ?_⟩
        rw [packetId, bind_of_ok (taken rest), if_neg zero]
        rfl

end Reader

end Mqtt
