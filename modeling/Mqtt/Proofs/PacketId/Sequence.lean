import Mathlib.Data.List.Infix
import Mqtt.Proofs.PacketId

/-! # The sequence of identifiers

Whoever takes identifiers from an allocator, by calls for the next one or by searches for
one that is not in use, takes them by steps of the same cycle
(`Mqtt.PacketIdAllocator.takes_run`). So the identifiers taken from a new allocator count
up from one and begin again after the greatest one, and among 65,535 in a row each comes
once (`Mqtt.PacketIdAllocator.run_in_turn`).
-/

namespace Mqtt

namespace PacketIdAllocator

/-! ## Calls -/

/-- A call of an allocator. Each search has a predicate of its own. As it asks about no
identifier twice, the predicate stands for any way of answering. -/
inductive Call where
  /-- For the next identifier. -/
  | next
  /-- For the next identifier that is not in use. -/
  | nextFree (inUse : UInt16 → Bool)

namespace Call

/-- The identifier that a call answers with. -/
def answer (allocator : PacketIdAllocator) : Call → Option UInt16
  | .next => some allocator.nextId.1
  | .nextFree inUse => (allocator.nextFreeId inUse).1

/-- The identifiers that a call takes: the next one, or all that a search tries. -/
def taken (allocator : PacketIdAllocator) : Call → List UInt16
  | .next => [allocator.nextId.1]
  | .nextFree inUse => triedWithin inUse 65535 allocator

/-- The allocator after a call. -/
def after (allocator : PacketIdAllocator) : Call → PacketIdAllocator
  | .next => allocator.nextId.2
  | .nextFree inUse => (allocator.nextFreeId inUse).2

end Call

/-- The identifiers that calls take, in order, and the allocator after them. -/
def run : PacketIdAllocator → List Call → List UInt16 × PacketIdAllocator
  | allocator, [] => ([], allocator)
  | allocator, call :: calls =>
      let (taken, final) := run (call.after allocator) calls
      (call.taken allocator ++ taken, final)

variable {packetId : UInt16} {taken : List UInt16} {allocator after : PacketIdAllocator}

/-! ## Steps from a new allocator -/

namespace Takes

/-- What is taken after a number of steps from a new allocator. -/
theorem toNat_getElem? {steps : Nat} (takes : Takes {} taken after)
    (found : taken[steps]? = some packetId) : packetId.toNat = steps % 65535 + 1 := by
  have bound := (List.getElem?_eq_some_iff.mp found).1
  rw [takes.eq_iterate, List.getElem?_iterate _ _ _ _ bound] at found
  cases found
  rw [PacketId.toNat_iterate_succ (by decide), show (1 : UInt16).toNat = 1 from rfl]
  omega

/-- The identifier after some steps of a new allocator is told by their number. -/
theorem toNat_nextId (takes : Takes {} taken after) :
    after.nextId.1.toNat = taken.length % 65535 + 1 := by
  have next := takes.append (.step (.none after.nextId.2))
  exact next.toNat_getElem? List.getElem?_concat_length

/-- A new allocator never hands out zero. -/
theorem zero_notMem (takes : Takes {} taken after) : 0 ∉ taken := by
  intro member
  obtain ⟨steps, found⟩ := List.mem_iff_getElem?.mp member
  have value := takes.toNat_getElem? found
  cases value

/-- In no more than 65,535 steps no identifier is taken twice. -/
theorem nodup (takes : Takes allocator taken after) (nonzero : allocator.upcoming ≠ 0)
    (room : taken.length ≤ 65535) : taken.Nodup := by
  have whole := PacketId.nodup_iterate_succ nonzero
  rw [show 65535 = taken.length + (65535 - taken.length) by omega, List.iterate_add,
    ← takes.eq_iterate] at whole
  exact whole.of_append_left

/-- In 65,535 steps from any identifier each one is taken once. -/
theorem count_eq (takes : Takes allocator taken after) (nonzero : allocator.upcoming ≠ 0)
    (length : taken.length = 65535) (packetId : UInt16) :
    taken.count packetId = if packetId = 0 then 0 else 1 := by
  have member : packetId ∈ taken ↔ packetId ≠ 0 := by
    rw [takes.eq_iterate, length]
    exact PacketId.mem_iterate_succ nonzero
  by_cases zero : packetId = 0
  · rw [if_pos zero, List.count_eq_zero, member]
    exact not_not_intro zero
  · rw [if_neg zero]
    exact List.count_eq_one_of_mem (takes.nodup nonzero length.le) (member.mpr zero)

end Takes

/-! ## The answer of a search -/

/-- What a search answers that may try a number of identifiers, and has tried these: the last
of them if it is the first that is not in use, or none if all are in use and it may try no
more. -/
inductive Concludes (inUse : UInt16 → Bool) (count : Nat) : List UInt16 → Option UInt16 → Prop
  | found {passed : List UInt16} {packetId : UInt16} (room : passed.length < count)
      (used : ∀ other ∈ passed, inUse other = true) (free : inUse packetId = false) :
      Concludes inUse count (passed ++ [packetId]) (some packetId)
  | exhausted {tried : List UInt16} (all : tried.length = count)
      (used : ∀ other ∈ tried, inUse other = true) : Concludes inUse count tried none

variable {inUse : UInt16 → Bool} {count : Nat} {answer : Option UInt16}

namespace Concludes

/-- A search that goes on past an identifier in use has its answer from the others. -/
theorem cons (used : inUse packetId = true) (concludes : Concludes inUse count taken answer) :
    Concludes inUse (count + 1) (packetId :: taken) answer := by
  cases concludes with
  | found room usedBefore free =>
      rw [← List.cons_append]
      exact .found (Nat.succ_lt_succ room) (List.forall_mem_cons.mpr ⟨used, usedBefore⟩) free
  | exhausted all usedAll =>
      exact .exhausted (congrArg _ all) (List.forall_mem_cons.mpr ⟨used, usedAll⟩)

/-- What a search answers with is what it has tried last. -/
theorem mem (concludes : Concludes inUse count taken (some packetId)) : packetId ∈ taken := by
  cases concludes with
  | found => exact List.mem_concat_self

/-- A search tries no more identifiers than it may. -/
theorem length_le (concludes : Concludes inUse count taken answer) : taken.length ≤ count := by
  cases concludes with
  | found room =>
      rw [List.length_append, List.length_singleton]
      exact room
  | exhausted all => exact all.le

/-- A search tries as many as it may if all are in use. -/
theorem length_eq (concludes : Concludes inUse count taken answer)
    (used : ∀ packetId, inUse packetId = true) : taken.length = count := by
  cases concludes with
  | @found passed packetId room usedBefore free =>
      rw [used packetId] at free
      cases free
  | exhausted all => exact all

end Concludes

/-- A search answers by the rule from what it tried. -/
theorem concludes_triedWithin (inUse : UInt16 → Bool) (count : Nat)
    (allocator : PacketIdAllocator) :
    Concludes inUse count (triedWithin inUse count allocator)
      (nextFreeWithin inUse count allocator).1 := by
  induction count generalizing allocator with
  | zero => exact .exhausted rfl (List.forall_mem_nil _)
  | succ count ih =>
      by_cases used : inUse allocator.nextId.1 = true
      · rw [triedWithin_of_used used, nextFreeWithin_of_used used]
        exact (ih allocator.nextId.2).cons used
      · rw [triedWithin_of_free used, nextFreeWithin_of_free used,
          ← List.nil_append [allocator.nextId.1]]
        exact .found (Nat.succ_pos count) (List.forall_mem_nil _)
          (Bool.eq_false_of_not_eq_true used)

/-! ## Runs of calls -/

theorem Call.takes (call : Call) (allocator : PacketIdAllocator) :
    Takes allocator (call.taken allocator) (call.after allocator) := by
  cases call with
  | next => exact .step (.none allocator.nextId.2)
  | nextFree inUse => exact takes_triedWithin inUse 65535 allocator

/-- An identifier that a call answers with is among those that it takes. -/
theorem Call.mem_taken {call : Call} (answered : call.answer allocator = some packetId) :
    packetId ∈ call.taken allocator := by
  cases call with
  | next =>
      cases answered
      exact List.mem_singleton_self _
  | nextFree inUse =>
      have concludes := concludes_triedWithin inUse 65535 allocator
      rw [← nextFreeId] at concludes
      rw [Call.answer] at answered
      rw [answered] at concludes
      exact concludes.mem

/-- Calls one after another are steps one after another. -/
theorem takes_run (allocator : PacketIdAllocator) (calls : List Call) :
    Takes allocator (run allocator calls).1 (run allocator calls).2 := by
  induction calls generalizing allocator with
  | nil => exact .none allocator
  | cons call calls ih => exact (call.takes allocator).append (ih (call.after allocator))

/-- Whatever calls were made of a new allocator, all that they took they took by steps one
after another. The identifiers taken count up from one, and from one again after 65,535. A
call for the next identifier goes on in this count. A search takes those in use up to its
answer, or 65,535 of them if it has none, and tries none of them twice. No call answers with
zero, and among 65,535 identifiers taken in a row each comes once. -/
theorem run_in_turn (calls : List Call) :
    Takes {} (run {} calls).1 (run {} calls).2 ∧
    (∀ steps packetId, (run {} calls).1[steps]? = some packetId →
      packetId.toNat = steps % 65535 + 1) ∧
    (run {} calls).2.nextId.1.toNat = (run {} calls).1.length % 65535 + 1 ∧
    (∀ inUse, Concludes inUse 65535 (triedWithin inUse 65535 (run {} calls).2)
      ((run {} calls).2.nextFreeId inUse).1 ∧
        (triedWithin inUse 65535 (run {} calls).2).Nodup) ∧
    (∀ call : Call, call.answer (run {} calls).2 ≠ some 0) ∧
    ∀ window, window <:+: (run {} calls).1 → window.length = 65535 →
      ∀ packetId, window.count packetId = if packetId = 0 then 0 else 1 := by
  have takes := takes_run {} calls
  refine ⟨takes, fun _ _ => takes.toNat_getElem?, takes.toNat_nextId, ?_, ?_, ?_⟩
  · intro inUse
    have concludes := concludes_triedWithin inUse 65535 (run {} calls).2
    have tries := takes_triedWithin inUse 65535 (run {} calls).2
    exact ⟨concludes, tries.nodup (takes.upcoming_ne_zero (by decide)) concludes.length_le⟩
  · intro call answered
    have further := takes.append (call.takes (run {} calls).2)
    exact further.zero_notMem (List.mem_append_right _ (Call.mem_taken answered))
  · intro window inside length
    obtain ⟨earlier, later, parts⟩ := inside
    rw [← parts] at takes
    obtain ⟨_, untilHere, -⟩ := takes.parted
    obtain ⟨start, before, here⟩ := untilHere.parted
    exact here.count_eq (before.upcoming_ne_zero (by decide)) length

/-- After a call for the next identifier, a search that finds every identifier in use takes
each of them once, from two around to one. Then it is the turn of two again. -/
theorem run_in_turn_again :
    let calls : List Call := [.next, .nextFree fun _ => true]
    let tried := triedWithin (fun _ => true) 65535 ⟨2⟩
    tried <:+: (run {} calls).1 ∧ tried.length = 65535 ∧
      (∀ packetId, tried.count packetId = if packetId = 0 then 0 else 1) ∧
      (run {} calls).2.nextId.1.toNat = 2 := by
  intro calls tried
  obtain ⟨-, -, -, searches, -, -⟩ := run_in_turn [.next]
  obtain ⟨-, -, next, -, -, windows⟩ := run_in_turn calls
  obtain ⟨concludes, -⟩ := searches fun _ => true
  have second : (run {} [.next]).2 = ⟨2⟩ := rfl
  rw [second] at concludes
  have length : tried.length = 65535 := concludes.length_eq fun _ => rfl
  -- Stated for every predicate, so that the search is not carried out.
  have parts : ∀ inUse, (run {} [.next, .nextFree inUse]).1 =
      [1] ++ triedWithin inUse 65535 ⟨2⟩ := by
    intro inUse
    rw [← List.append_nil (triedWithin inUse 65535 ⟨2⟩)]
    rfl
  have taken : (run {} calls).1 = [1] ++ tried := parts fun _ => true
  have inside : tried <:+: (run {} calls).1 := by
    rw [taken]
    exact (List.suffix_append [1] tried).isInfix
  refine ⟨inside, length, windows tried inside length, ?_⟩
  rw [next, taken, List.length_append, length, List.length_singleton]

end PacketIdAllocator

end Mqtt
