import Mqtt.Proofs.PacketId

/-! # The search for a free identifier

Calls lead from a new allocator to every identifier but zero
(`Mqtt.PacketIdAllocator.reachable_iff`). From there a search goes through the others in
the order of the cycle, up to the greatest one and then from one on
(`Mqtt.PacketId.iterate_succ_eq_cycleFrom`). It stops at the first that is not in use, and
is back where it began if there is none
(`Mqtt.PacketIdAllocator.Reachable.nextFreeId_first`).
-/

namespace Mqtt

namespace PacketId

variable {start : UInt16}

/-- The identifiers in the order of the cycle: from a given one up to the greatest, and then
from one up to the one before it. -/
def cycleFrom (start : UInt16) : List UInt16 :=
  (List.range' start.toNat (65536 - start.toNat) ++ List.range' 1 (start.toNat - 1)).map
    UInt16.ofNat

/-- Steps of the cycle count up as long as they do not pass the greatest identifier. -/
theorem iterate_succ_eq_range' (nonzero : start ≠ 0) (count : Nat)
    (room : start.toNat + count ≤ 65536) :
    List.iterate succ start count = (List.range' start.toNat count).map UInt16.ofNat := by
  rw [← List.range_map_iterate, List.range'_eq_map_range, List.map_map]
  apply List.map_congr_left
  intro steps member
  have below := List.mem_range.mp member
  have positive := toNat_pos nonzero
  apply UInt16.toNat_inj.mp
  rw [toNat_iterate_succ nonzero, Function.comp_apply, UInt16.toNat_ofNat']
  omega

/-- The step after the greatest identifier leads to one. -/
theorem iterate_succ_eq_one (nonzero : start ≠ 0) : succ^[65536 - start.toNat] start = 1 := by
  have positive := toNat_pos nonzero
  have bound := start.toNat_lt
  apply UInt16.toNat_inj.mp
  rw [toNat_iterate_succ nonzero, show (1 : UInt16).toNat = 1 from rfl]
  omega

/-- As many steps as there are identifiers go once through all of them. -/
theorem iterate_succ_eq_cycleFrom (nonzero : start ≠ 0) :
    List.iterate succ start 65535 = cycleFrom start := by
  have positive := toNat_pos nonzero
  have bound := start.toNat_lt
  have one : (1 : UInt16) ≠ 0 := by decide
  have ahead := iterate_succ_eq_range' nonzero (65536 - start.toNat) (by omega)
  have again : List.iterate succ 1 (start.toNat - 1) =
      (List.range' 1 (start.toNat - 1)).map UInt16.ofNat := by
    apply iterate_succ_eq_range' one
    rw [show (1 : UInt16).toNat = 1 from rfl]
    omega
  calc List.iterate succ start 65535
      = List.iterate succ start ((65536 - start.toNat) + (start.toNat - 1)) := by
        congr 1
        omega
    _ = List.iterate succ start (65536 - start.toNat) ++
          List.iterate succ (succ^[65536 - start.toNat] start) (start.toNat - 1) :=
        List.iterate_add ..
    _ = cycleFrom start := by
        rw [iterate_succ_eq_one nonzero, ahead, again, cycleFrom, List.map_append]

/-- The cycle ends where it began. -/
theorem iterate_succ_cycle (nonzero : start ≠ 0) : succ^[65535] start = start := by
  have positive := toNat_pos nonzero
  have bound := start.toNat_lt
  apply UInt16.toNat_inj.mp
  rw [toNat_iterate_succ nonzero]
  omega

end PacketId

namespace PacketIdAllocator

variable {allocator : PacketIdAllocator}

/-! ## Allocators that calls lead to -/

/-- The allocators that calls lead to from a new one. -/
inductive Reachable : PacketIdAllocator → Prop
  | new : Reachable {}
  | next {allocator : PacketIdAllocator} (reachable : Reachable allocator) :
      Reachable allocator.nextId.2
  | nextFree {allocator : PacketIdAllocator} (reachable : Reachable allocator)
      (inUse : UInt16 → Bool) : Reachable (allocator.nextFreeId inUse).2

/-- No allocator that can be reached is at zero. -/
theorem Reachable.upcoming_ne_zero (reachable : Reachable allocator) : allocator.upcoming ≠ 0 := by
  induction reachable with
  | new => decide
  | next _ ih => exact PacketId.succ_ne_zero ih
  | nextFree _ inUse ih => exact nextFreeId_upcoming_ne_zero ih

/-- Steps of the cycle are calls for the next identifier. -/
theorem reachable_iterate_succ (steps : Nat) : Reachable ⟨PacketId.succ^[steps] 1⟩ := by
  induction steps with
  | zero => exact .new
  | succ steps ih =>
      rw [Function.iterate_succ_apply']
      exact ih.next

/-- Calls lead to every identifier but zero. -/
theorem reachable_iff : Reachable allocator ↔ allocator.upcoming ≠ 0 := by
  constructor
  · exact Reachable.upcoming_ne_zero
  · intro nonzero
    have one : (1 : UInt16) ≠ 0 := by decide
    have member := (PacketId.mem_iterate_succ one).mpr nonzero
    obtain ⟨steps, -, same⟩ := List.mem_iterate.mp member
    have reached := reachable_iterate_succ steps
    rw [← same] at reached
    exact reached

/-! ## Where a search ends -/

/-- A search leaves the allocator behind the identifier that it finds, or behind all those
that it has tried. -/
theorem nextFreeWithin_upcoming (inUse : UInt16 → Bool) (count : Nat)
    (allocator : PacketIdAllocator) :
    (nextFreeWithin inUse count allocator).2.upcoming =
      (nextFreeWithin inUse count allocator).1.elim
        (PacketId.succ^[count] allocator.upcoming) PacketId.succ := by
  induction count generalizing allocator with
  | zero => rfl
  | succ count ih =>
      by_cases used : inUse allocator.nextId.1 = true
      · rw [nextFreeWithin_of_used used, ih, Function.iterate_succ_apply]
        rfl
      · rw [nextFreeWithin_of_free used]
        rfl

/-- In every allocator that calls lead to, a search finds an identifier exactly if it is the
first one not in use in the order of the cycle, and goes on behind it the next time. It
never finds zero or an identifier in use. It fails exactly if every identifier is in use,
and then begins at the same one the next time. -/
theorem Reachable.nextFreeId_first (reachable : Reachable allocator) (inUse : UInt16 → Bool) :
    (∀ packetId, (allocator.nextFreeId inUse).1 = some packetId ↔
      ∃ passed left, PacketId.cycleFrom allocator.upcoming = passed ++ packetId :: left ∧
        (∀ other ∈ passed, inUse other = true) ∧ inUse packetId = false) ∧
    (∀ packetId, (allocator.nextFreeId inUse).1 = some packetId →
      packetId ≠ 0 ∧ inUse packetId = false ∧
        (allocator.nextFreeId inUse).2.upcoming =
          if packetId = 65535 then 1 else packetId + 1) ∧
    ((allocator.nextFreeId inUse).1 = none ↔
      ∀ packetId, packetId ≠ 0 → inUse packetId = true) ∧
    ((allocator.nextFreeId inUse).1 = none → (allocator.nextFreeId inUse).2 = allocator) := by
  have nonzero := reachable.upcoming_ne_zero
  have upcoming := nextFreeWithin_upcoming inUse 65535 allocator
  refine ⟨?_, ?_, nextFreeId_eq_none_iff nonzero, ?_⟩
  · intro packetId
    rw [nextFreeId, nextFreeWithin_fst, PacketId.iterate_succ_eq_cycleFrom nonzero,
      List.find?_eq_some_iff_append]
    simp only [Bool.not_eq_eq_eq_not, Bool.not_true, Bool.not_false]
    constructor
    · intro found
      obtain ⟨free, passed, left, order, used⟩ := found
      exact ⟨passed, left, order, used, free⟩
    · intro found
      obtain ⟨passed, left, order, used, free⟩ := found
      exact ⟨free, passed, left, order, used⟩
  · intro packetId found
    obtain ⟨free, packetIdNonzero⟩ := free_of_nextFreeId nonzero found
    refine ⟨packetIdNonzero, free, ?_⟩
    rw [nextFreeId] at found ⊢
    rw [upcoming, found]
    rfl
  · intro failed
    rw [nextFreeId] at failed ⊢
    rw [failed, Option.elim_none, PacketId.iterate_succ_cycle nonzero] at upcoming
    exact congrArg PacketIdAllocator.mk upcoming

/-- A search from the last identifier but one goes on at the beginning of the cycle, and
comes back to where it began if every identifier is in use. -/
theorem Reachable.nextFreeId_first_wraps :
    let allocator : PacketIdAllocator := ⟨65534⟩
    let inUse : UInt16 → Bool := fun packetId => packetId ≤ 2 || 65534 ≤ packetId
    Reachable allocator ∧ (allocator.nextFreeId inUse).1 = some 3 ∧
      (∃ passed left, PacketId.cycleFrom 65534 = passed ++ 3 :: left ∧
        (∀ other ∈ passed, inUse other = true) ∧ inUse 3 = false) ∧
      (allocator.nextFreeId inUse).2.upcoming = 4 ∧
      allocator.nextFreeId (fun _ => true) = (none, allocator) := by
  intro allocator inUse
  have reachable : Reachable allocator := reachable_iff.mpr (by decide)
  have found : (allocator.nextFreeId inUse).1 = some 3 := by rfl
  obtain ⟨first, sound, -, -⟩ := reachable.nextFreeId_first inUse
  obtain ⟨-, -, exhausted, back⟩ := reachable.nextFreeId_first fun _ => true
  have failed := exhausted.mpr fun _ _ => rfl
  exact ⟨reachable, found, (first 3).mp found, (sound 3 found).2.2, Prod.ext failed (back failed)⟩

end PacketIdAllocator

end Mqtt
