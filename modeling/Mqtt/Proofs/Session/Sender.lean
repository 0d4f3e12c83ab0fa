import Mathlib.Data.List.DropRight
import Mqtt.Proofs.PacketId
import Mqtt.Proofs.Session.Run

/-! # A session with an allocator

A sender looks for an identifier that no packet in flight has before it stores a
message under it. Then no message takes the place of another, each stays in flight
until it is acknowledged or the session is cleared, and there is always a free
identifier but when 65,535 packets are in flight
(`Mqtt.Sender.Run.loses_nothing`). What carries this is that an identifier which was
found free stays free until a message takes it (`Mqtt.Sender.Sound`).
-/

namespace Mqtt

namespace Session

variable {session : Session} {packetId : UInt16} {entry : InFlight}

/-! ## The number of packets in flight -/

theorem contains_eq_false_iff :
    session.contains packetId = false ↔ session.inFlight[packetId]? = none := by
  rw [contains, Std.ExtTreeMap.contains_eq_isSome_getElem?, Option.isSome_eq_false_iff,
    Option.isNone_iff_eq_none]

theorem contains_of_getElem? (found : session.inFlight[packetId]? = some entry) :
    session.contains packetId = true := by
  rw [contains, Std.ExtTreeMap.contains_eq_isSome_getElem?, found, Option.isSome_some]

/-- A packet put in flight under a free identifier is one more. -/
theorem size_put (session : Session) (entry : InFlight) :
    (session.put entry).size =
      if session.contains entry.packetId then session.size else session.size + 1 :=
  Std.ExtTreeMap.size_insert

/-- A packet taken out of flight is one less. -/
theorem size_drop (session : Session) (packetId : UInt16) :
    (session.drop packetId).size =
      if session.contains packetId then session.size - 1 else session.size :=
  Std.ExtTreeMap.size_erase

theorem size_ne_zero (found : session.inFlight[packetId]? = some entry) : session.size ≠ 0 := by
  intro zero
  rw [Std.ExtTreeMap.eq_empty_iff_size_eq_zero.mpr zero, Std.ExtTreeMap.getElem?_empty] at found
  cases found

/-- As identifiers are not zero, 65,535 packets in flight have them all. -/
theorem Indexed.size_eq_iff (indexed : session.Indexed) :
    session.size = 65535 ↔ ∀ packetId, packetId ≠ 0 → session.contains packetId = true := by
  have nonzero : ∀ packetId ∈ session.inFlight.keys, packetId ≠ 0 := by
    intro packetId member
    have held := Std.ExtTreeMap.mem_iff_isSome_getElem?.mp (Std.ExtTreeMap.mem_keys.mp member)
    obtain ⟨entry, found⟩ := Option.isSome_iff_exists.mp held
    exact (indexed packetId entry found).2
  rw [size, ← Std.ExtTreeMap.length_keys,
    PacketId.length_eq_iff Std.ExtTreeMap.nodup_keys nonzero]
  simp only [contains, Std.ExtTreeMap.mem_keys, Std.ExtTreeMap.contains_iff_mem]

end Session

/-- A session, and an allocator of identifiers for the messages that it stores. -/
structure Sender where
  session : Session := {}
  allocator : PacketIdAllocator := {}
  /-- The identifier that was last found free, until a message takes it. -/
  granted : Option UInt16 := none

namespace Sender

open Session

/-! ## Runs -/

/-- Looks for an identifier that no packet in flight has. -/
def grant (sender : Sender) : Sender :=
  let (granted, allocator) := sender.allocator.nextFreeId sender.session.contains
  { sender with allocator, granted }

/-- Takes the next identifier for another purpose, whether or not it is free. -/
def skip (sender : Sender) : Sender :=
  { sender with allocator := sender.allocator.nextId.2 }

/-- Performs an operation on the session. A message that is put in flight takes the
identifier that was found free. -/
def perform (sender : Sender) (operation : Operation) : Sender :=
  let event := sender.session.event operation
  { sender with
    session := event.after
    granted := if event.stored?.isSome then none else sender.granted }

/-- A message that is acknowledged carries the identifier that was found free. Other
operations are permitted at any time. -/
def Permits (sender : Sender) : Operation → Prop
  | .store message _ =>
      message.publish.qos ≠ .atMostOnce → message.publish.packetId = sender.granted
  | _ => True

/-- A run of a sender, with what it performs on the session. -/
inductive Run (start : Sender) : List Event → Sender → Prop
  | start : Run start [] start
  | grants {events : List Event} {sender : Sender} (run : Run start events sender) :
      Run start events sender.grant
  | skips {events : List Event} {sender : Sender} (run : Run start events sender) :
      Run start events sender.skip
  | performs {events : List Event} {sender : Sender} (run : Run start events sender)
      (operation : Operation) (permitted : sender.Permits operation) :
      Run start (events ++ [sender.session.event operation]) (sender.perform operation)

/-- The operations after the session was last cleared. -/
def sinceClear (events : List Event) : List Event :=
  events.rtakeWhile fun event => !event.operation.clears

/-- What becomes of a packet in flight that is not acknowledged: it stays, or a PUBREL
packet takes the place of a message and keeps the time at which it was stored. -/
inductive Becomes : InFlight → InFlight → Prop
  | same (entry : InFlight) : Becomes entry entry
  | released {publish : InFlightPublish} {pubrel : InFlightPubrel}
      (created : pubrel.created = publish.created) : Becomes (.publish publish) (.pubrel pubrel)

/-- What becomes of what an entry became is what becomes of the entry. -/
theorem Becomes.trans {first second third : InFlight} (become : Becomes first second)
    (next : Becomes second third) : Becomes first third := by
  cases become with
  | same => exact next
  | released created =>
      cases next with
      | same => exact .released created

/-- The number of messages that were put in flight. -/
def storedCount (events : List Event) : Nat :=
  events.countP fun event => event.stored?.isSome

/-- The number of packets that an acknowledgement took out of flight. -/
def acknowledgedCount (events : List Event) : Nat :=
  events.countP fun event => event.acknowledged?.isSome

/-! ## One operation -/

variable {events : List Event} {event : Event} {sender : Sender} {packetId : UInt16}
  {entry : InFlight}

/-- The operation does not put a message in the place of a packet in flight. -/
def Fresh (event : Event) : Prop :=
  ∀ stored, event.stored? = some stored → event.before.contains stored.packetId = false

/-- A message takes the identifier that was found free. -/
theorem granted_of_stored {stored : InFlightPublish} (steps : Steps event)
    (permitted : sender.Permits event.operation) (stores : event.stored? = some stored) :
    sender.granted = some stored.packetId := by
  cases steps with
  | @stores session message now stored made acknowledged nonzero =>
      cases stores
      subst made
      obtain ⟨packetId, carried, -⟩ := message.packetId_of_acknowledged acknowledged
      rw [← permitted acknowledged, carried]
      simp only [Message.inFlight, InFlightPublish.packetId, carried, Option.getD_some]
  | releases => cases stores
  | acknowledges => cases stores
  | clears => cases stores
  | keeps quiet =>
      rw [quiet.stored_eq] at stores
      cases stores

/-- A free identifier stays free unless a message is stored. -/
theorem vacant_of_unstored (steps : Steps event) (unstored : event.stored? = none)
    (vacant : event.before.inFlight[packetId]? = none) :
    event.after.inFlight[packetId]? = none := by
  cases steps with
  | stores => cases unstored
  | @releases session publish stored pubrel made found =>
      subst made
      have different : publish.packetId ≠ packetId := by
        intro same
        rw [same, vacant] at found
        cases found
      rw [getElem?_put]
      exact (if_neg different).trans vacant
  | acknowledges session other =>
      rw [getElem?_drop, vacant, ite_self]
  | clears session => exact getElem?_clear session packetId
  | keeps quiet =>
      rw [quiet.inFlight_eq]
      exact vacant

/-- A packet stays in flight, unless an acknowledgement or clearing takes it out. -/
theorem kept_of_fresh (steps : Steps event) (fresh : Fresh event)
    (undropped : event.operation.drops packetId = false)
    (found : event.before.inFlight[packetId]? = some entry) :
    ∃ kept, event.after.inFlight[packetId]? = some kept ∧ Becomes entry kept := by
  cases steps with
  | @stores session message now stored made acknowledged nonzero =>
      have different : stored.packetId ≠ packetId := by
        intro same
        have vacant := contains_eq_false_iff.mp (fresh stored rfl)
        rw [same, found] at vacant
        cases vacant
      rw [getElem?_put]
      exact ⟨entry, (if_neg different).trans found, .same entry⟩
  | @releases session publish stored pubrel made there =>
      subst made
      rw [getElem?_put]
      by_cases same : publish.packetId = packetId
      · -- Only a message is replaced, so the packet was that message.
        rw [same, found] at there
        cases there
        exact ⟨_, if_pos same, .released rfl⟩
      · exact ⟨entry, (if_neg same).trans found, .same entry⟩
  | acknowledges session other =>
      have different : ¬other = packetId := of_decide_eq_false undropped
      rw [getElem?_drop, if_neg different]
      exact ⟨entry, found, .same entry⟩
  | clears session => cases undropped
  | keeps quiet =>
      rw [quiet.inFlight_eq]
      exact ⟨entry, found, .same entry⟩

/-- An operation that does not clear the session changes the number of packets in flight
by what it stores and what it acknowledges. -/
theorem size_of_fresh (steps : Steps event) (fresh : Fresh event)
    (unclear : event.operation.clears = false) :
    event.after.size + acknowledgedCount [event] = event.before.size + storedCount [event] := by
  cases steps with
  | @stores session message now stored made acknowledged nonzero =>
      change (session.put (.publish stored)).size = session.size + 1
      have vacant : session.contains stored.packetId = false := fresh stored rfl
      simp only [size_put, InFlight.packetId, vacant, Bool.false_eq_true, ↓reduceIte]
  | @releases session publish stored pubrel made found =>
      subst made
      change (session.put (.pubrel _)).size = session.size
      simp only [size_put, InFlight.packetId, InFlightPublish.release, contains_of_getElem? found,
        ↓reduceIte]
  | acknowledges session packetId =>
      cases found : session.inFlight[packetId]? with
      | none =>
          change (session.drop packetId).size = session.size
          simp only [size_drop, contains_eq_false_iff.mpr found, Bool.false_eq_true, ↓reduceIte]
      | some entry =>
          change (session.drop packetId).size + 1 = session.size
          have positive := size_ne_zero found
          simp only [size_drop, contains_of_getElem? found, ↓reduceIte]
          omega
  | clears session => cases unclear
  | keeps quiet =>
      simp only [size, acknowledgedCount, storedCount, List.countP_singleton,
        quiet.inFlight_eq, quiet.acknowledged_eq, quiet.stored_eq, Option.isSome_none]

/-- After clearing nothing is in flight. -/
theorem size_of_clears (steps : Steps event) (clears : event.operation.clears = true) :
    event.after.size = 0 := by
  cases steps with
  | stores => cases clears
  | releases => cases clears
  | acknowledges => cases clears
  | clears session => exact Std.ExtTreeMap.size_empty
  | keeps quiet =>
      rw [quiet.not_clears] at clears
      cases clears

/-! ## A whole run -/

/-- What holds of a sender after each run from the start. -/
structure Sound (events : List Event) (sender : Sender) : Prop where
  indexed : sender.session.Indexed
  upcoming_ne_zero : sender.allocator.upcoming ≠ 0
  /-- The identifier that was found free is still free. -/
  vacant : ∀ packetId, sender.granted = some packetId →
    sender.session.inFlight[packetId]? = none
  fresh : ∀ event ∈ events, Fresh event
  /-- As many packets are in flight as were stored and not acknowledged. -/
  size_eq : sender.session.size + acknowledgedCount (sinceClear events) =
    storedCount (sinceClear events)

namespace Sound

theorem new : Sound [] {} where
  indexed := indexed_new
  upcoming_ne_zero := by decide
  vacant := by
    intro packetId granted
    cases granted
  fresh := by
    intro event member
    cases member
  size_eq := rfl

/-- Looking for a free identifier keeps a sender sound. -/
theorem grant (sound : Sound events sender) : Sound events sender.grant where
  indexed := sound.indexed
  upcoming_ne_zero := PacketIdAllocator.nextFreeId_upcoming_ne_zero sound.upcoming_ne_zero
  vacant := by
    intro packetId granted
    have free := PacketIdAllocator.free_of_nextFreeId sound.upcoming_ne_zero granted
    exact contains_eq_false_iff.mp free.1
  fresh := sound.fresh
  size_eq := sound.size_eq

/-- Taking an identifier for another purpose keeps a sender sound. -/
theorem skip (sound : Sound events sender) : Sound events sender.skip where
  indexed := sound.indexed
  upcoming_ne_zero := PacketId.succ_ne_zero sound.upcoming_ne_zero
  vacant := sound.vacant
  fresh := sound.fresh
  size_eq := sound.size_eq

/-- A permitted operation puts no message in the place of a packet in flight. -/
theorem fresh_event (sound : Sound events sender) (operation : Operation)
    (permitted : sender.Permits operation) : Fresh (sender.session.event operation) := by
  intro stored stores
  have granted := granted_of_stored (steps_event sound.indexed operation) permitted stores
  exact contains_eq_false_iff.mpr (sound.vacant _ granted)

/-- A permitted operation keeps a sender sound. -/
theorem perform (sound : Sound events sender) (operation : Operation)
    (permitted : sender.Permits operation) :
    Sound (events ++ [sender.session.event operation]) (sender.perform operation) where
  indexed := (steps_event sound.indexed operation).indexed sound.indexed
  upcoming_ne_zero := sound.upcoming_ne_zero
  vacant := by
    intro packetId granted
    cases stores : (sender.session.event operation).stored? with
    | none =>
        simp only [Sender.perform, stores, Option.isSome_none, Bool.false_eq_true,
          ↓reduceIte] at granted
        exact vacant_of_unstored (steps_event sound.indexed operation) stores
          (sound.vacant packetId granted)
    | some stored =>
        -- The message has taken the identifier, so that none is granted any more.
        simp only [Sender.perform, stores, Option.isSome_some, ↓reduceIte] at granted
        cases granted
  fresh := by
    intro event member
    rcases List.mem_append.mp member with earlier | last
    · exact sound.fresh event earlier
    · rw [List.mem_singleton.mp last]
      exact sound.fresh_event operation permitted
  size_eq := by
    have steps := steps_event sound.indexed operation
    have fresh := sound.fresh_event operation permitted
    have before := sound.size_eq
    cases clears : operation.clears with
    | true =>
        rw [sinceClear, List.rtakeWhile_concat_neg _ _ _ (by simp [Session.event, clears])]
        exact size_of_clears steps clears
    | false =>
        have change : (sender.perform operation).session.size +
            acknowledgedCount [sender.session.event operation] =
              sender.session.size + storedCount [sender.session.event operation] :=
          size_of_fresh steps fresh clears
        rw [sinceClear, List.rtakeWhile_concat_pos _ _ _ (by simp [Session.event, clears])]
        simp only [acknowledgedCount, storedCount, List.countP_append] at change before ⊢
        simp only [sinceClear] at before
        omega

end Sound

/-- Every run keeps a sender sound. -/
theorem Run.sound {start : Sender} {later : List Event} (run : Run start later sender)
    (sound : Sound events start) : Sound (events ++ later) sender := by
  induction run with
  | start =>
      rw [List.append_nil]
      exact sound
  | grants _ ih => exact ih.grant
  | skips _ ih => exact ih.skip
  | performs _ operation permitted ih =>
      rw [← List.append_assoc]
      exact ih.perform operation permitted

/-- A packet stays in flight while no acknowledgement and no clearing takes it out. -/
theorem Run.kept {start : Sender} {later : List Event} (run : Run start later sender)
    (sound : Sound events start) (found : start.session.inFlight[packetId]? = some entry)
    (undropped : ∀ event ∈ later, event.operation.drops packetId = false) :
    ∃ kept, sender.session.inFlight[packetId]? = some kept ∧ Becomes entry kept := by
  induction run with
  | start => exact ⟨entry, found, .same entry⟩
  | grants _ ih => exact ih undropped
  | skips _ ih => exact ih undropped
  | performs run operation permitted ih =>
      obtain ⟨middle, held, become⟩ := ih fun event member =>
        undropped event (List.mem_append_left _ member)
      have reached := run.sound sound
      have undroppedLast := undropped _ (List.mem_append_right _ (List.mem_singleton_self _))
      obtain ⟨kept, heldAfter, becomeAfter⟩ := kept_of_fresh
        (steps_event reached.indexed operation) (reached.fresh_event operation permitted)
        undroppedLast held
      exact ⟨kept, heldAfter, become.trans becomeAfter⟩

/-- In every run from a new session and a new allocator, no message takes the place of a
packet in flight; a packet stays until its acknowledgement or until the session is
cleared; since then as many packets are in flight as were stored and not acknowledged;
and the search for an identifier fails exactly when 65,535 packets are in flight. -/
theorem Run.loses_nothing (run : Run {} events sender) :
    (∀ event ∈ events, Fresh event) ∧
      (∀ (packetId : UInt16) (entry : InFlight) (later : List Event) (final : Sender),
        sender.session.inFlight[packetId]? = some entry → Run sender later final →
        (∀ event ∈ later, event.operation.drops packetId = false) →
        ∃ kept, final.session.inFlight[packetId]? = some kept ∧ Becomes entry kept) ∧
      sender.session.size + acknowledgedCount (sinceClear events) =
        storedCount (sinceClear events) ∧
      ((sender.allocator.nextFreeId sender.session.contains).1 = none ↔
        sender.session.size = 65535) := by
  have sound : Sound events sender := run.sound .new
  refine ⟨sound.fresh, ?_, sound.size_eq, ?_⟩
  · intro packetId entry later final found next undropped
    exact next.kept sound found undropped
  · rw [PacketIdAllocator.nextFreeId_eq_none_iff sound.upcoming_ne_zero,
      sound.indexed.size_eq_iff]

/-- Two messages are in flight; then the first is released and the second acknowledged. -/
theorem Run.loses_nothing_released :
    let first : Message := ⟨{ qos := .exactlyOnce, topic := "a", packetId := some 1 }, rfl⟩
    let second : Message := ⟨{ qos := .atLeastOnce, topic := "b", packetId := some 3 }, rfl⟩
    let sender : Sender :=
      (grant {}).perform (.store first ⟨0⟩) |>.skip.grant.perform (.store second ⟨1⟩)
    let final : Sender :=
      sender.perform (.replace (first.inFlight ⟨0⟩ 1)) |>.perform (.acknowledge 3)
    ∃ events later : List Event, Run {} events sender ∧ Run sender later final ∧
      (∀ event ∈ events, Fresh event) ∧
      sender.session.size = 2 ∧
      (sender.allocator.nextFreeId sender.session.contains).1 ≠ none ∧
      ∃ entry kept, sender.session.inFlight[(1 : UInt16)]? = some entry ∧
        final.session.inFlight[(1 : UInt16)]? = some kept ∧ Becomes entry kept := by
  intro first second sender final
  have run : Run {} _ sender :=
    .performs (.grants (.skips (.performs (.grants .start) (.store first ⟨0⟩) fun _ => rfl)))
      (.store second ⟨1⟩) fun _ => rfl
  have next : Run sender _ final :=
    .performs (.performs .start (.replace (first.inFlight ⟨0⟩ 1)) trivial) (.acknowledge 3) trivial
  obtain ⟨fresh, keeps, size_eq, full⟩ := run.loses_nothing
  have size : sender.session.size = 2 := size_eq
  have found : sender.session.inFlight[(1 : UInt16)]? = some (.publish (first.inFlight ⟨0⟩ 1)) := by
    decide +kernel
  obtain ⟨kept, held, become⟩ := keeps 1 _ _ final found next (by
    simp [Operation.drops, Session.event])
  refine ⟨_, _, run, next, fresh, size, ?_, _, kept, found, held, become⟩
  intro nothingFree
  have whole := full.mp nothingFree
  rw [size] at whole
  cases whole

end Sender

end Mqtt
