import Mathlib.Data.List.Forall2
import Mqtt.Proofs.Wire.Reader

/-! # Computations that find a value

Whether a computation succeeds, without regard to the value: it does when each of its
steps does. Where a later step does not depend on the values of those before it, the
steps can be taken apart (`Mqtt.Except.succeeds_bind_of`).
-/

namespace Mqtt

namespace Except

variable {ε α β : Type} {first : Except ε α} {second : α → Except ε β}

/-- A computation that finds a value. -/
def Succeeds (result : Except ε α) : Prop :=
  ∃ value, result = .ok value

@[simp] theorem exists_eq_ok_iff : (∃ value, first = .ok value) ↔ Succeeds first :=
  Iff.rfl

/-- A computation fails when it does not succeed. -/
theorem exists_error_iff : (∃ error, first = .error error) ↔ ¬ Succeeds first := by
  cases first <;> simp [Succeeds]

/-! ## Steps -/

@[simp] theorem succeeds_ok (value : α) : Succeeds (.ok value : Except ε α) :=
  ⟨value, rfl⟩

@[simp] theorem succeeds_pure (value : α) : Succeeds (pure value : Except ε α) :=
  succeeds_ok value

@[simp] theorem not_succeeds_error (fault : ε) : ¬ Succeeds (.error fault : Except ε α) := by
  rintro ⟨value, found⟩
  cases found

@[simp] theorem succeeds_ite_error {broken : Prop} [Decidable broken] {fault : ε} :
    Succeeds (if broken then .error fault else first) ↔ ¬ broken ∧ Succeeds first := by
  simp only [Succeeds, ite_error_eq_ok_iff, exists_and_left]

/-- Two steps succeed when the second does on the value of the first. -/
@[simp] theorem succeeds_bind :
    Succeeds (first >>= second) ↔ ∃ value, first = .ok value ∧ Succeeds (second value) := by
  cases first with
  | error fault => simp
  | ok value => simp

@[simp] theorem succeeds_map {change : α → β} : Succeeds (change <$> first) ↔ Succeeds first := by
  rw [map_eq_pure_bind, succeeds_bind]
  simp

theorem succeeds_bind_pure {change : α → β} :
    Succeeds (first >>= fun value => pure (change value)) ↔ Succeeds first := by
  rw [bind_pure_comp, succeeds_map]

/-- Two steps succeed when the first one does, if it is settled beforehand whether the
second one does. -/
theorem succeeds_bind_of {settled : Prop}
    (same : ∀ value, first = .ok value → (Succeeds (second value) ↔ settled)) :
    Succeeds (first >>= second) ↔ Succeeds first ∧ settled := by
  rw [succeeds_bind]
  constructor
  · rintro ⟨value, found, others⟩
    exact ⟨⟨value, found⟩, (same value found).mp others⟩
  · rintro ⟨⟨value, found⟩, others⟩
    exact ⟨value, found, (same value found).mpr others⟩

/-! ## Lists of computations -/

/-- The results of a list of computations stand beside the values they come from. -/
theorem mapM_eq_ok_iff {change : α → Except ε β} {values : List α} {results : List β} :
    values.mapM change = .ok results ↔
      List.Forall₂ (fun value result => change value = .ok result) values results := by
  induction values generalizing results with
  | nil =>
      rw [mapM_nil_eq_ok_iff]
      constructor
      · rintro rfl
        exact .nil
      · rintro ⟨⟩
        rfl
  | cons value values ih =>
      rw [mapM_cons_eq_ok_iff]
      constructor
      · rintro ⟨result, others, found, rest, rfl⟩
        exact .cons found (ih.mp rest)
      · rintro (_ | ⟨found, rest⟩)
        exact ⟨_, _, found, ih.mpr rest, rfl⟩

end Except

end Mqtt
