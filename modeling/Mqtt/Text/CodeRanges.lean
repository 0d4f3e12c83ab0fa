/-! # Ranges of code points

A set of characters as the closed ranges of its code points. The ranges ascend
and do not touch, so a look-up ends at the first range above the code point.
-/

namespace Mqtt

/-- Closed ranges of code points. -/
abbrev CodeRanges := List (Nat × Nat)

namespace CodeRanges

/-- The ranges ascend from a least code point on and do not touch. -/
def ascendingFrom (least : Nat) : CodeRanges → Bool
  | [] => true
  | (low, high) :: others => least ≤ low && low ≤ high && ascendingFrom (high + 2) others

/-- A code point lies in one of some ascending ranges. -/
def contains : CodeRanges → Nat → Bool
  | [], _ => false
  | (low, high) :: others, code => low ≤ code && (code ≤ high || contains others code)

/-- Every range begins at the least code point or above it. -/
theorem le_of_ascendingFrom {ranges : CodeRanges} {least : Nat} {range : Nat × Nat}
    (ascending : ranges.ascendingFrom least = true) (member : range ∈ ranges) :
    least ≤ range.1 := by
  induction ranges generalizing least with
  | nil => cases member
  | cons first others ih =>
      obtain ⟨low, high⟩ := first
      simp only [ascendingFrom, Bool.and_eq_true, decide_eq_true_eq] at ascending
      obtain ⟨⟨above, ordered⟩, ascending⟩ := ascending
      cases member with
      | head => exact above
      | tail _ member =>
          have := ih ascending member
          omega

/-- The look-up ends early but leaves out no range: it finds exactly the code points
that lie in one. -/
theorem contains_iff {ranges : CodeRanges} {least code : Nat}
    (ascending : ranges.ascendingFrom least = true) :
    ranges.contains code = true ↔ ∃ range ∈ ranges, range.1 ≤ code ∧ code ≤ range.2 := by
  induction ranges generalizing least with
  | nil => simp [contains]
  | cons first others ih =>
      obtain ⟨low, high⟩ := first
      simp only [ascendingFrom, Bool.and_eq_true, decide_eq_true_eq] at ascending
      obtain ⟨⟨_, ordered⟩, ascending⟩ := ascending
      simp only [contains, Bool.and_eq_true, Bool.or_eq_true, decide_eq_true_eq, ih ascending]
      constructor
      · rintro ⟨above, below | ⟨range, member, inside⟩⟩
        · exact ⟨(low, high), List.mem_cons_self, above, below⟩
        · exact ⟨range, List.mem_cons_of_mem _ member, inside⟩
      · rintro ⟨range, member, above, below⟩
        cases member with
        | head => exact ⟨above, Or.inl below⟩
        | tail _ member =>
            have := le_of_ascendingFrom ascending member
            exact ⟨by omega, Or.inr ⟨range, member, above, below⟩⟩

end CodeRanges

end Mqtt
