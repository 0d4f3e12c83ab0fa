import Mathlib.Data.List.Induction
import Mqtt.Proofs.Session.Consistency

/-! # The PUBREL stage

Only a message that is delivered exactly once is released by a PUBREL packet; one
that is delivered at least once awaits its PUBACK packet. A session finds the message
to be released by its identifier alone, so it keeps to this exactly as long as no
message that is delivered at least once is in flight under an identifier that is to be
released (`Mqtt.Session.onlyExactlyOnce_iff`). One such release breaks it, by way of
the message that the session itself has answered with
(`Mqtt.Session.releases_atLeastOnce`).
-/

namespace Mqtt

namespace Session

variable {session : Session} {events : List Event} {event : Event} {operation : Operation}

/-- The operation puts a PUBREL packet in the place of a message that is delivered at
least once. -/
def Event.ReleasesAtLeastOnce (event : Event) : Prop :=
  ∃ publish stored, event.operation = .replace publish ∧
    event.before.inFlight[publish.packetId]? = some (.publish stored) ∧
      stored.packet.qos = .atLeastOnce

/-- Every PUBREL packet in flight releases a message that is delivered exactly once: the
one that was last stored under its identifier. -/
def OnlyExactlyOnce (session : Session) (events : List Event) : Prop :=
  ∀ (packetId : UInt16) (pubrel : InFlightPubrel),
    session.inFlight[packetId]? = some (.pubrel pubrel) →
      ∃ stored, lastStored packetId events = some stored ∧ stored.packet.qos = .exactlyOnce

/-- A new session has released nothing, so nothing that it should not have. -/
theorem onlyExactlyOnce_new : OnlyExactlyOnce {} [] := by
  intro packetId pubrel found
  simp at found

/-- A message in flight is the one that was last stored under its identifier. -/
theorem Consistent.lastStored_eq {packetId : UInt16} {stored : InFlightPublish}
    (consistent : session.Consistent events)
    (found : session.inFlight[packetId]? = some (.publish stored)) :
    lastStored packetId events = some stored ∧
      (stored.packet.qos = .atLeastOnce ∨ stored.packet.qos = .exactlyOnce) := by
  obtain ⟨latest, lastStored_eq, continues⟩ := consistent.origin _ _ found
  cases continues with
  | publish acknowledged => exact ⟨lastStored_eq, acknowledged⟩

/-! ## One operation -/

/-- An operation that stores nothing and brings nothing into flight. -/
theorem OnlyExactlyOnce.shrink (only : event.before.OnlyExactlyOnce events)
    (shrinks : event.Shrinks) : event.after.OnlyExactlyOnce (events ++ [event]) := by
  intro packetId pubrel found
  rw [lastStored_concat_of_none shrinks.stored_eq]
  exact only packetId pubrel (shrinks.within _ _ found)

/-- A release of a message that is delivered exactly once keeps to the rule, and so does
every operation that releases no message. -/
theorem OnlyExactlyOnce.step (only : event.before.OnlyExactlyOnce events)
    (consistent : event.before.Consistent events) (steps : Steps event)
    (orderly : ¬ event.ReleasesAtLeastOnce) : event.after.OnlyExactlyOnce (events ++ [event]) := by
  cases steps.brings with
  | message made acknowledged nonzero =>
      intro packetId pubrel found
      rw [getElem?_put] at found
      split at found
      · cases found
      · next other =>
          obtain ⟨stored, lastStored_eq, exactlyOnce⟩ := only packetId pubrel found
          refine ⟨stored, ?_, exactlyOnce⟩
          rw [lastStored_concat_of_some rfl]
          exact (if_neg other).trans lastStored_eq
  | @pubrel session publish stored entry made found =>
      intro packetId pubrel held
      rw [lastStored_concat_of_none rfl]
      rw [getElem?_put] at held
      split at held
      · next own =>
          subst made
          obtain rfl : publish.packetId = packetId := own
          obtain ⟨lastStored_eq, atLeastOnce | exactlyOnce⟩ := consistent.lastStored_eq found
          · exact (orderly ⟨publish, stored, rfl, found, atLeastOnce⟩).elim
          · exact ⟨stored, lastStored_eq, exactlyOnce⟩
      · exact only packetId pubrel held
  | nothing shrinks => exact only.shrink shrinks

/-- A release of a message that is delivered at least once breaks the rule. -/
theorem not_onlyExactlyOnce (consistent : session.Consistent events)
    (releases : (session.event operation).ReleasesAtLeastOnce) :
    ¬ (session.event operation).after.OnlyExactlyOnce (events ++ [session.event operation]) := by
  obtain ⟨publish, stored, replaces, found, atLeastOnce⟩ := releases
  obtain rfl : operation = .replace publish := replaces
  obtain ⟨own, nonzero⟩ := consistent.indexed _ _ found
  obtain ⟨lastStored_eq, -⟩ := consistent.lastStored_eq found
  intro only
  have after_eq : (session.event (.replace publish)).after =
      session.put (.pubrel (stored.release publish.packetId (session.lastKey + 1))) :=
    congrArg Prod.snd (replace_of_publish found nonzero)
  have unstored : (session.event (.replace publish)).stored? = none := rfl
  have held : (session.event (.replace publish)).after.inFlight[publish.packetId]? =
      some (.pubrel (stored.release publish.packetId (session.lastKey + 1))) := by
    rw [after_eq, getElem?_put]
    exact if_pos rfl
  obtain ⟨latest, latest_eq, exactlyOnce⟩ := only _ _ held
  rw [lastStored_concat_of_none unstored, lastStored_eq] at latest_eq
  cases latest_eq
  rw [atLeastOnce] at exactlyOnce
  cases exactlyOnce

/-! ## Runs -/

/-- After a run and on the way to its end, every PUBREL packet in flight releases a
message that is delivered exactly once, exactly if the run releases no message that is
delivered at least once. -/
theorem onlyExactlyOnce_iff (operations : List Operation) :
    (∀ earlier, earlier <+: operations →
        (run {} earlier).2.OnlyExactlyOnce (run {} earlier).1) ↔
      ∀ event ∈ (run {} operations).1, ¬ event.ReleasesAtLeastOnce := by
  induction operations using List.reverseRecOn with
  | nil =>
      simp only [List.prefix_nil, forall_eq]
      exact iff_of_true onlyExactlyOnce_new fun event member => (List.not_mem_nil member).elim
  | append_singleton operations operation ih =>
      have reached := Consistent.new.run operations
      rw [List.nil_append] at reached
      have steps := steps_event reached.indexed operation
      -- What is new at the end of a run is its last session on one side and its last event on
      -- the other.
      simp only [List.prefix_concat_iff, run_concat, List.mem_append, List.mem_singleton, or_imp,
        forall_and, forall_eq, ih]
      constructor
      · rintro ⟨after, orderly⟩
        exact ⟨orderly, fun releases => not_onlyExactlyOnce reached releases after⟩
      · rintro ⟨orderly, last⟩
        have before := ih.mpr orderly operations (List.prefix_refl operations)
        exact ⟨before.step reached steps last, orderly⟩

/-- A message that is delivered at least once is released, by way of the message that the
session answered with when it was stored. -/
theorem releases_atLeastOnce :
    let message : Message :=
      ⟨{ topic := "a", qos := .atLeastOnce, packetId := some 7 }, by decide +kernel⟩
    let stored := message.inFlight ⟨0⟩ 1
    let operations := [.store message ⟨0⟩, .replace stored]
    (({} : Session).store message.publish ⟨0⟩).1 = .ok stored ∧
      (run {} operations).2.inFlight[(7 : UInt16)]? = some (.pubrel (stored.release 7 2)) ∧
      lastStored 7 (run {} operations).1 = some stored ∧ stored.packet.qos = .atLeastOnce := by
  intro message stored operations
  have acknowledged : message.publish.qos ≠ .atMostOnce := by decide
  have storing : ({} : Session).store message.publish ⟨0⟩ =
      (.ok stored, ({} : Session).put (.publish stored)) :=
    store_of_acknowledged message ⟨0⟩ acknowledged
  have found : (({} : Session).put (.publish stored)).inFlight[stored.packetId]? =
      some (.publish stored) := by
    rw [getElem?_put]
    exact if_pos rfl
  have replacing := replace_of_publish found (message.packetId_inFlight ⟨0⟩ 1 acknowledged)
  refine ⟨congrArg Prod.fst storing, ?_, ?_, rfl⟩
  · simp only [operations, run, event, perform, storing, replacing, Prod.map, id, getElem?_put]
    exact if_pos rfl
  · simp only [operations, run, event, perform, storing, replacing, Prod.map, id]
    rfl

end Session

end Mqtt
