import Mathlib.Data.List.Iterate
import Mathlib.Data.List.Nodup
import Mathlib.Data.List.Perm.Subperm
import Mqtt.PacketId

/-! # The cycle of packet identifiers

From any identifier on, 65,535 steps of the cycle go through every identifier once
(`Mqtt.PacketId.mem_iterate_succ`, `Mqtt.PacketId.nodup_iterate_succ`). A search takes what
it tries by such steps (`Mqtt.PacketIdAllocator.takes_triedWithin`), so it fails only when
every identifier is in use (`Mqtt.PacketIdAllocator.nextFreeId_eq_none_iff`), and
identifiers that differ are 65,535 only when they are all there are
(`Mqtt.PacketId.length_eq_iff`).
-/

namespace Mqtt

namespace PacketId

variable {packetId start : UInt16}

theorem toNat_pos (nonzero : packetId ≠ 0) : 0 < packetId.toNat :=
  Nat.pos_of_ne_zero fun zero => nonzero (UInt16.toNat_inj.mp zero)

/-- The successor, counted from zero: one more, and zero again after 65,534. -/
theorem toNat_succ (nonzero : packetId ≠ 0) :
    (succ packetId).toNat = packetId.toNat % 65535 + 1 := by
  have positive := toNat_pos nonzero
  have bound := packetId.toNat_lt
  unfold succ
  by_cases last : packetId = 65535
  · simp [last]
  · have different : packetId.toNat ≠ 65535 := fun same => last (UInt16.toNat_inj.mp same)
    simp only [last, ↓reduceIte, UInt16.toNat_add]
    rw [show (1 : UInt16).toNat = 1 from rfl]
    omega

/-- The identifier after another is never zero. -/
theorem succ_ne_zero (nonzero : packetId ≠ 0) : succ packetId ≠ 0 := by
  intro zero
  have value := toNat_succ nonzero
  rw [zero] at value
  cases value

/-- Steps of the cycle never lead to zero. -/
theorem iterate_succ_ne_zero (nonzero : packetId ≠ 0) (steps : Nat) :
    succ^[steps] packetId ≠ 0 := by
  induction steps with
  | zero => exact nonzero
  | succ steps ih =>
      rw [Function.iterate_succ_apply']
      exact succ_ne_zero ih

/-- Where a number of steps of the cycle lead. -/
theorem toNat_iterate_succ (nonzero : packetId ≠ 0) (steps : Nat) :
    (succ^[steps] packetId).toNat = (packetId.toNat - 1 + steps) % 65535 + 1 := by
  have positive := toNat_pos nonzero
  have bound := packetId.toNat_lt
  induction steps with
  | zero =>
      rw [Function.iterate_zero_apply]
      omega
  | succ steps ih =>
      rw [Function.iterate_succ_apply', toNat_succ (iterate_succ_ne_zero nonzero steps), ih]
      omega

/-- The identifiers that 65,535 steps of the cycle go through are all there are. -/
theorem mem_iterate_succ (nonzero : start ≠ 0) :
    packetId ∈ List.iterate succ start 65535 ↔ packetId ≠ 0 := by
  rw [List.mem_iterate]
  constructor
  · intro found
    obtain ⟨steps, -, rfl⟩ := found
    exact iterate_succ_ne_zero nonzero steps
  · intro packetIdNonzero
    have positive := toNat_pos packetIdNonzero
    have bound := packetId.toNat_lt
    have startPositive := toNat_pos nonzero
    have startBound := start.toNat_lt
    -- The identifier is ahead of the start, or comes after the cycle has begun again.
    refine ⟨(packetId.toNat + 65535 - start.toNat) % 65535, Nat.mod_lt _ (by decide), ?_⟩
    apply UInt16.toNat_inj.mp
    rw [toNat_iterate_succ nonzero]
    omega

/-- No identifier comes twice in 65,535 steps of the cycle. -/
theorem nodup_iterate_succ (nonzero : start ≠ 0) : (List.iterate succ start 65535).Nodup := by
  rw [← List.range_map_iterate]
  apply List.Nodup.map_on _ List.nodup_range
  intro first firstMember second secondMember same
  have firstBound := List.mem_range.mp firstMember
  have secondBound := List.mem_range.mp secondMember
  have values := congrArg UInt16.toNat same
  rw [toNat_iterate_succ nonzero, toNat_iterate_succ nonzero] at values
  omega

/-- Identifiers that differ are 65,535 exactly when they are all there are. -/
theorem length_eq_iff {packetIds : List UInt16} (distinct : packetIds.Nodup)
    (nonzero : ∀ packetId ∈ packetIds, packetId ≠ 0) :
    packetIds.length = 65535 ↔ ∀ packetId, packetId ≠ 0 → packetId ∈ packetIds := by
  have one : (1 : UInt16) ≠ 0 := by decide
  have allLength := List.length_iterate succ 1 65535
  have within : packetIds.Subperm (List.iterate succ 1 65535) := by
    apply List.subperm_of_subset distinct
    intro packetId member
    exact (mem_iterate_succ one).mpr (nonzero packetId member)
  constructor
  · intro length packetId packetIdNonzero
    have same := within.perm_of_length_le (by rw [allLength, length])
    exact same.mem_iff.mpr ((mem_iterate_succ one).mpr packetIdNonzero)
  · intro all
    have whole : (List.iterate succ 1 65535).Subperm packetIds := by
      apply List.subperm_of_subset (nodup_iterate_succ one)
      intro packetId member
      exact all packetId ((mem_iterate_succ one).mp member)
    have enough := whole.length_le
    have bounded := within.length_le
    omega

end PacketId

namespace PacketIdAllocator

variable {inUse : UInt16 → Bool} {packetId : UInt16} {taken : List UInt16}
  {allocator after : PacketIdAllocator}

/-! ## Steps -/

/-- Steps of an allocator one after another, each a call for the next identifier: what they
take, and where they lead. -/
inductive Takes : PacketIdAllocator → List UInt16 → PacketIdAllocator → Prop
  | none (allocator : PacketIdAllocator) : Takes allocator [] allocator
  | step {allocator after : PacketIdAllocator} {taken : List UInt16}
      (rest : Takes allocator.nextId.2 taken after) :
      Takes allocator (allocator.nextId.1 :: taken) after

namespace Takes

/-- Steps behind steps take what both take. -/
theorem append {middle : PacketIdAllocator} {more : List UInt16}
    (first : Takes allocator taken middle) (second : Takes middle more after) :
    Takes allocator (taken ++ more) after := by
  induction first with
  | none => exact second
  | step _ ih => exact .step (ih second)

/-- Steps can be parted anywhere. -/
theorem parted {first second : List UInt16} (takes : Takes allocator (first ++ second) after) :
    ∃ middle, Takes allocator first middle ∧ Takes middle second after := by
  induction first generalizing allocator with
  | nil => exact ⟨allocator, .none allocator, takes⟩
  | cons packetId first ih =>
      cases takes with
      | step rest =>
          obtain ⟨middle, before, behind⟩ := ih rest
          exact ⟨middle, .step before, behind⟩

/-- What steps of an allocator take are steps of the cycle. -/
theorem eq_iterate (takes : Takes allocator taken after) :
    taken = List.iterate PacketId.succ allocator.upcoming taken.length := by
  induction takes with
  | none => rfl
  | step _ ih => exact congrArg _ ih

/-- An allocator has gone as many places on as its steps have taken. -/
theorem upcoming_eq (takes : Takes allocator taken after) :
    after.upcoming = PacketId.succ^[taken.length] allocator.upcoming := by
  induction takes with
  | none => rfl
  | step _ ih => exact ih

/-- Steps never make zero the next identifier. -/
theorem upcoming_ne_zero (takes : Takes allocator taken after) (nonzero : allocator.upcoming ≠ 0) :
    after.upcoming ≠ 0 := by
  rw [takes.upcoming_eq]
  exact PacketId.iterate_succ_ne_zero nonzero taken.length

end Takes

/-! ## Searches -/

/-- The identifiers that a search among a given number of the next ones takes: all that are
in use up to the first that is not, and this one. -/
def triedWithin (inUse : UInt16 → Bool) : Nat → PacketIdAllocator → List UInt16
  | 0, _ => []
  | count + 1, allocator =>
      let (packetId, allocator) := allocator.nextId
      packetId :: if inUse packetId then triedWithin inUse count allocator else []

/-- A search that tries an identifier in use goes on with the next one. -/
theorem nextFreeWithin_of_used {count : Nat} (used : inUse allocator.nextId.1 = true) :
    nextFreeWithin inUse (count + 1) allocator = nextFreeWithin inUse count allocator.nextId.2 :=
  if_pos used

/-- A search that tries a free identifier ends with it. -/
theorem nextFreeWithin_of_free {count : Nat} (free : ¬inUse allocator.nextId.1 = true) :
    nextFreeWithin inUse (count + 1) allocator = (some allocator.nextId.1, allocator.nextId.2) :=
  if_neg free

theorem triedWithin_of_used {count : Nat} (used : inUse allocator.nextId.1 = true) :
    triedWithin inUse (count + 1) allocator =
      allocator.nextId.1 :: triedWithin inUse count allocator.nextId.2 :=
  congrArg _ (if_pos used)

theorem triedWithin_of_free {count : Nat} (free : ¬inUse allocator.nextId.1 = true) :
    triedWithin inUse (count + 1) allocator = [allocator.nextId.1] :=
  congrArg _ (if_neg free)

/-- A search takes what it tries in steps one after another. -/
theorem takes_triedWithin (inUse : UInt16 → Bool) (count : Nat) (allocator : PacketIdAllocator) :
    Takes allocator (triedWithin inUse count allocator)
      (nextFreeWithin inUse count allocator).2 := by
  induction count generalizing allocator with
  | zero => exact .none allocator
  | succ count ih =>
      by_cases used : inUse allocator.nextId.1 = true
      · rw [triedWithin_of_used used, nextFreeWithin_of_used used]
        exact .step (ih allocator.nextId.2)
      · rw [triedWithin_of_free used, nextFreeWithin_of_free used]
        exact .step (.none allocator.nextId.2)

/-- A search finds the first identifier of the cycle that is not in use. -/
theorem nextFreeWithin_fst (inUse : UInt16 → Bool) (count : Nat) (allocator : PacketIdAllocator) :
    (nextFreeWithin inUse count allocator).1 =
      (List.iterate PacketId.succ allocator.upcoming count).find? fun packetId =>
        !inUse packetId := by
  induction count generalizing allocator with
  | zero => rfl
  | succ count ih =>
      rw [List.iterate]
      by_cases used : inUse allocator.nextId.1 = true
      · rw [nextFreeWithin_of_used used, ih]
        exact (List.find?_cons_of_neg (by simpa [nextId] using used)).symm
      · rw [nextFreeWithin_of_free used]
        exact (List.find?_cons_of_pos (by simpa [nextId] using used)).symm

/-- A search never makes zero the next identifier. -/
theorem nextFreeId_upcoming_ne_zero (nonzero : allocator.upcoming ≠ 0) :
    (nextFreeId inUse allocator).2.upcoming ≠ 0 :=
  (takes_triedWithin inUse 65535 allocator).upcoming_ne_zero nonzero

/-- An identifier that a search finds is not in use and not zero. -/
theorem free_of_nextFreeId (nonzero : allocator.upcoming ≠ 0)
    (found : (nextFreeId inUse allocator).1 = some packetId) :
    inUse packetId = false ∧ packetId ≠ 0 := by
  rw [nextFreeId, nextFreeWithin_fst] at found
  have free := List.find?_some found
  have member := List.mem_of_find?_eq_some found
  exact ⟨by simpa using free, (PacketId.mem_iterate_succ nonzero).mp member⟩

/-- A search fails exactly when every identifier is in use. -/
theorem nextFreeId_eq_none_iff (nonzero : allocator.upcoming ≠ 0) :
    (nextFreeId inUse allocator).1 = none ↔ ∀ packetId, packetId ≠ 0 → inUse packetId = true := by
  rw [nextFreeId, nextFreeWithin_fst, List.find?_eq_none]
  simp only [PacketId.mem_iterate_succ nonzero, Bool.not_eq_eq_eq_not, Bool.not_true,
    Bool.not_eq_false]

end PacketIdAllocator

end Mqtt
