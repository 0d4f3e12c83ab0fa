import Mqtt.Proofs.Session.Run

/-! # What is in flight and how it got there

Whatever operations were performed on a session, each packet in flight goes back to
the message that was last stored under its identifier: it is that message, or the
PUBREL packet that took its place (`Mqtt.Session.Continues`). The sequence keys that
were given out are the numbers from one on, each once and in order, and the packets
in flight have different ones (`Mqtt.Session.run_consistent`).
-/

namespace Mqtt

namespace Session

variable {session : Session} {events : List Event} {event : Event} {packetId : UInt16}

/-! ## The history of a session -/

/-- The message that was last stored under an identifier. -/
def lastStored (packetId : UInt16) (events : List Event) : Option InFlightPublish :=
  events.reverse.findSome? fun event =>
    event.stored?.filter fun entry => entry.packetId = packetId

/-- An event that stores nothing leaves the last stored message as it was. -/
theorem lastStored_concat_of_none (unstored : event.stored? = none) (packetId : UInt16)
    (events : List Event) :
    lastStored packetId (events ++ [event]) = lastStored packetId events := by
  rw [lastStored, List.reverse_concat, List.findSome?_cons, unstored, lastStored]
  rfl

/-- An event that stores a message makes it the last under its identifier. -/
theorem lastStored_concat_of_some {entry : InFlightPublish} (stored : event.stored? = some entry)
    (packetId : UInt16) (events : List Event) :
    lastStored packetId (events ++ [event]) =
      if entry.packetId = packetId then some entry else lastStored packetId events := by
  rw [lastStored, List.reverse_concat, List.findSome?_cons, stored, Option.filter_some]
  by_cases own : entry.packetId = packetId
  · simp only [own, decide_true, ↓reduceIte]
  · simp only [own, decide_false, Bool.false_eq_true, ↓reduceIte, lastStored]

/-- The sequence key that an operation gave out, with a message that it stored or a
PUBREL packet that it made. -/
def Event.key? (event : Event) : Option Nat :=
  (event.stored?.map InFlightPublish.key).or (event.released?.map InFlightPubrel.key)

/-- The sequence keys that were given out, in order. -/
def keysGiven (events : List Event) : List Nat :=
  events.filterMap Event.key?

/-- What a packet in flight is, after the message that was last stored under its
identifier: the message, or a plain PUBREL packet that took its place later. -/
inductive Continues (packetId : UInt16) (stored : InFlightPublish) : InFlight → Prop
  | publish (acknowledged : stored.packet.qos = .atLeastOnce ∨ stored.packet.qos = .exactlyOnce) :
      Continues packetId stored (.publish stored)
  | pubrel {pubrel : InFlightPubrel}
      (plain : pubrel.packet = { packetId, reason := .success, properties := {} })
      (created : pubrel.created = stored.created) (later : stored.key < pubrel.key) :
      Continues packetId stored (.pubrel pubrel)

/-- What is in flight in a session agrees with what was performed on it. -/
structure Consistent (session : Session) (events : List Event) : Prop where
  /-- A packet is held under its own identifier, which is not zero. -/
  indexed : session.Indexed
  /-- A packet goes back to the message that was last stored under its identifier. -/
  origin : ∀ (packetId : UInt16) (entry : InFlight), session.inFlight[packetId]? = some entry →
    ∃ stored, lastStored packetId events = some stored ∧ Continues packetId stored entry
  /-- A sequence key lies between one and the last one given out. -/
  key_range : ∀ (packetId : UInt16) (entry : InFlight),
    session.inFlight[packetId]? = some entry → 1 ≤ entry.key ∧ entry.key ≤ session.lastKey
  /-- Different packets have different sequence keys. -/
  key_injective : ∀ (first second : UInt16) (one other : InFlight),
    session.inFlight[first]? = some one → session.inFlight[second]? = some other →
      one.key = other.key → first = second
  /-- The sequence keys given out are the numbers from one on. -/
  keysGiven_eq : keysGiven events = List.range' 1 session.lastKey

namespace Consistent

theorem new : Consistent {} [] where
  indexed := indexed_new
  origin packetId entry found := by simp at found
  key_range packetId entry found := by simp at found
  key_injective first second one other found := by simp at found
  keysGiven_eq := rfl

/-- Taking packets out, or leaving them as they are. -/
theorem shrink (consistent : event.before.Consistent events) (shrinks : event.Shrinks) :
    event.after.Consistent (events ++ [event]) where
  indexed packetId entry found := consistent.indexed packetId entry (shrinks.within _ _ found)
  origin packetId entry found := by
    rw [lastStored_concat_of_none shrinks.stored_eq]
    exact consistent.origin packetId entry (shrinks.within _ _ found)
  key_range packetId entry found := by
    rw [shrinks.lastKey_eq]
    exact consistent.key_range packetId entry (shrinks.within _ _ found)
  key_injective first second one other oneFound otherFound :=
    consistent.key_injective first second one other (shrinks.within _ _ oneFound)
      (shrinks.within _ _ otherFound)
  keysGiven_eq := by
    rw [keysGiven, List.filterMap_append, shrinks.lastKey_eq, ← consistent.keysGiven_eq]
    simp [Event.key?, shrinks.stored_eq, shrinks.released_eq, keysGiven]

/-- Putting a packet with the next sequence key in flight. -/
theorem put (consistent : event.before.Consistent events) (entry : InFlight)
    (after_eq : event.after = event.before.put entry) (nonzero : entry.packetId ≠ 0)
    (next : entry.key = event.before.lastKey + 1) (key_eq : event.key? = some entry.key)
    (origin : ∃ stored, lastStored entry.packetId (events ++ [event]) = some stored ∧
      Continues entry.packetId stored entry)
    (others : ∀ packetId, entry.packetId ≠ packetId →
      lastStored packetId (events ++ [event]) = lastStored packetId events) :
    event.after.Consistent (events ++ [event]) where
  indexed := by
    rw [after_eq]
    exact consistent.indexed.put nonzero
  origin packetId held found := by
    rw [after_eq, getElem?_put] at found
    split at found
    · next same =>
        cases found
        rw [← same]
        exact origin
    · next different =>
        rw [others packetId different]
        exact consistent.origin packetId held found
  key_range packetId held found := by
    rw [after_eq, getElem?_put] at found
    rw [after_eq, put_lastKey]
    split at found
    · cases found
      omega
    · have range := consistent.key_range packetId held found
      omega
  key_injective first second one other oneFound otherFound keys := by
    rw [after_eq, getElem?_put] at oneFound otherFound
    split at oneFound
    · next firstOwn =>
        cases oneFound
        split at otherFound
        · next secondOwn => exact firstOwn.symm.trans secondOwn
        · have range := consistent.key_range second other otherFound
          omega
    · split at otherFound
      · cases otherFound
        have range := consistent.key_range first one oneFound
        omega
      · exact consistent.key_injective first second one other oneFound otherFound keys
  keysGiven_eq := by
    rw [keysGiven, List.filterMap_append, after_eq, put_lastKey, next, List.range'_1_concat,
      ← consistent.keysGiven_eq]
    simp [key_eq, next, keysGiven, Nat.add_comm]

/-- What an operation does to the packets in flight keeps them in agreement. -/
theorem step (consistent : event.before.Consistent events) (steps : Steps event) :
    event.after.Consistent (events ++ [event]) := by
  cases steps.brings with
  | @message session message now entry made acknowledged nonzero =>
      have next : entry.key = session.lastKey + 1 := by rw [made, Message.inFlight]
      refine consistent.put (.publish entry) rfl nonzero next rfl ?_ ?_
      · refine ⟨entry, ?_, .publish (QoS.atLeastOnce_or_exactlyOnce acknowledged)⟩
        rw [lastStored_concat_of_some rfl]
        exact if_pos rfl
      · intro other different
        rw [lastStored_concat_of_some rfl]
        exact if_neg different
  | @pubrel session publish stored entry made found =>
      obtain ⟨latest, lastStored_eq, continues⟩ := consistent.origin _ _ found
      obtain ⟨-, nonzero⟩ := consistent.indexed _ _ found
      obtain ⟨-, storedBound⟩ := consistent.key_range _ _ found
      cases continues with
      | publish acknowledged =>
          subst made
          refine consistent.put (.pubrel _) rfl nonzero rfl ?_ ?_ ?_
          · rw [Event.key?, Event.released?_of_publish rfl found]
            rfl
          · rw [lastStored_concat_of_none rfl]
            exact ⟨stored, lastStored_eq, .pubrel rfl rfl (Nat.lt_succ_of_le storedBound)⟩
          · intro other _
            rw [lastStored_concat_of_none rfl]
  | nothing shrinks => exact consistent.shrink shrinks

/-- A run keeps what is in flight in agreement with the operations before it and its own. -/
theorem run (consistent : session.Consistent events) (operations : List Operation) :
    (session.run operations).2.Consistent (events ++ (session.run operations).1) := by
  induction operations generalizing session events with
  | nil =>
      rw [Session.run, List.append_nil]
      exact consistent
  | cons operation operations ih =>
      have next := ih (consistent.step (steps_event consistent.indexed operation))
      rw [List.append_assoc] at next
      exact next

end Consistent

/-- In every session that operations lead to, what is in flight agrees with the
operations, and the sequence keys that were given out have increased. -/
theorem run_consistent (operations : List Operation) :
    (run {} operations).2.Consistent (run {} operations).1 ∧
      (keysGiven (run {} operations).1).Pairwise (· < ·) := by
  have consistent : (run {} operations).2.Consistent (run {} operations).1 := by
    refine @run_induction (fun events session => session.Consistent events) _ .new ?_ operations
    intro events current operation consistent
    exact consistent.step (steps_event consistent.indexed operation)
  refine ⟨consistent, ?_⟩
  rw [consistent.keysGiven_eq]
  exact List.pairwise_lt_range' 1

end Session

end Mqtt
