import Mqtt.Text.Combining
import Mqtt.Text.Invisible

/-! # Printable characters

The characters that a quoted text shows as themselves: those with a shape of
their own that do not join the character before them.
-/

namespace Mqtt

/-- A character with a shape of its own. -/
def isPrintable (c : Char) : Bool :=
  !invisibleRanges.contains c.toNat && !combiningRanges.contains c.toNat

/-- Printable are the characters whose code point lies in no range of either table. -/
theorem isPrintable_iff (c : Char) :
    isPrintable c = true ↔
      (∀ range ∈ invisibleRanges, ¬ (range.1 ≤ c.toNat ∧ c.toNat ≤ range.2)) ∧
        ∀ range ∈ combiningRanges, ¬ (range.1 ≤ c.toNat ∧ c.toNat ≤ range.2) := by
  rw [isPrintable, Bool.and_eq_true, Bool.not_eq_true', Bool.not_eq_true', ← Bool.not_eq_true,
    ← Bool.not_eq_true, contains_invisibleRanges_iff, contains_combiningRanges_iff]
  simp only [not_exists, not_and]

end Mqtt
