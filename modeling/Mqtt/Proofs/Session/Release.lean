import Mqtt.Proofs.Session.Run

/-! # Releases that are repeated

A PUBREC packet may come again, long after the message that it answers was released. The
PUBREL packet in flight stays as it is until it is acknowledged, or the session is cleared,
or a message is stored under its identifier (`Mqtt.Session.run_pubrel`). Until then every
request to release its message is answered with it and changes nothing. A request that is
refused changes nothing either, and a release is refused only where nothing is in flight
(`Mqtt.Session.replace_repeats`).
-/

namespace Mqtt

namespace Session

variable {session : Session} {event : Event} {packetId : UInt16} {pubrel : InFlightPubrel}

/-! ## Requests that are refused -/

/-- A message that is not stored leaves the session as it is. -/
theorem store_of_error {publish : Publish} {now : Instant} {error : SessionError}
    (refused : (session.store publish now).1 = .error error) :
    (session.store publish now).2 = session := by
  unfold store at refused ⊢
  split at refused
  · next never => rw [if_pos never]
  · next acknowledged =>
      rw [if_neg acknowledged]
      cases carried : publish.packetId with
      | none => rfl
      | some packetId =>
          rw [carried] at refused
          cases refused

/-- A message that is not remembered leaves the session as it is. -/
theorem remember_of_error {publish : Publish} {error : SessionError}
    (refused : (session.remember publish).1 = .error error) :
    (session.remember publish).2 = session := by
  unfold remember at refused ⊢
  cases carried : publish.packetId with
  | none => rfl
  | some packetId =>
      rw [carried] at refused
      cases refused

/-! ## Requests to release a message -/

/-- A PUBREL packet in flight is the answer to a request to release its message. -/
theorem replace_of_pubrel {publish : InFlightPublish}
    (held : session.inFlight[publish.packetId]? = some (.pubrel pubrel)) :
    session.replace publish = (.ok pubrel, session) := by
  simp only [replace, held]

/-- A request to release a message is refused where nothing is in flight under its
identifier. Otherwise it is answered with the PUBREL packet that is in flight after it. -/
theorem Indexed.replace_cases (indexed : session.Indexed) (publish : InFlightPublish) :
    session.replace publish = (.error (.noSuchElement publish.packetId), session) ∨
      ∃ pubrel after, session.replace publish = (.ok pubrel, after) ∧ after.Indexed ∧
        after.inFlight[publish.packetId]? = some (.pubrel pubrel) := by
  cases found : session.inFlight[publish.packetId]? with
  | none =>
      refine .inl ?_
      simp only [replace, found]
  | some entry =>
      obtain ⟨-, nonzero⟩ := indexed _ _ found
      cases entry with
      | pubrel pubrel => exact .inr ⟨pubrel, session, replace_of_pubrel found, indexed, found⟩
      | publish stored =>
          refine .inr ⟨_, _, replace_of_publish found nonzero, indexed.put nonzero, ?_⟩
          rw [getElem?_put]
          exact if_pos rfl

/-! ## Until the exchange ends -/

/-- The operation neither takes the packet with an identifier out of flight nor puts a
message in its place. -/
structure Event.Leaves (packetId : UInt16) (event : Event) : Prop where
  undropped : event.operation.drops packetId = false
  unstored : ∀ stored ∈ event.stored?, stored.packetId ≠ packetId

/-- One operation keeps a PUBREL packet in flight. -/
theorem Event.Leaves.keeps_pubrel (leaves : event.Leaves packetId) (steps : Steps event)
    (held : event.before.inFlight[packetId]? = some (.pubrel pubrel)) :
    event.after.inFlight[packetId]? = some (.pubrel pubrel) := by
  cases steps with
  | @stores session message now entry made acknowledged nonzero =>
      have different : entry.packetId ≠ packetId := leaves.unstored entry rfl
      rw [getElem?_put]
      exact (if_neg different).trans held
  | @releases session publish stored entry made found =>
      -- What is released is a message, so it is not under this identifier.
      have different : publish.packetId ≠ packetId := by
        rintro rfl
        rw [held] at found
        cases found
      subst made
      rw [getElem?_put]
      exact (if_neg different).trans held
  | acknowledges session other =>
      have different : other ≠ packetId := of_decide_eq_false leaves.undropped
      rw [getElem?_drop, if_neg different]
      exact held
  | clears session => cases leaves.undropped
  | keeps quiet =>
      rw [quiet.inFlight_eq]
      exact held

/-- A run keeps a PUBREL packet in flight as long as its operations leave it. -/
theorem run_pubrel (indexed : session.Indexed)
    (held : session.inFlight[packetId]? = some (.pubrel pubrel)) {operations : List Operation}
    (leave : ∀ event ∈ (run session operations).1, event.Leaves packetId) :
    (run session operations).2.inFlight[packetId]? = some (.pubrel pubrel) := by
  induction operations generalizing session with
  | nil => exact held
  | cons operation operations ih =>
      obtain ⟨leaves, others⟩ := List.forall_mem_cons.mp leave
      have steps := steps_event indexed operation
      exact ih (steps.indexed indexed) (leaves.keeps_pubrel steps held) others

/-- In every session that operations lead to, a request to release a message that is
answered with a PUBREL packet is answered with the same one again and changes nothing, in
whatever form it comes and whatever was done in between, until the packet is acknowledged,
the session is cleared or a message is stored under the identifier. A request that is
refused leaves the session as it is, and a release is refused only as nothing is in flight
under the identifier. -/
theorem replace_repeats (operations : List Operation) :
    let session := (run {} operations).2
    (∀ publish pubrel, (session.replace publish).1 = .ok pubrel →
      ∀ later again, again.packetId = publish.packetId →
        (∀ event ∈ (run (session.replace publish).2 later).1, event.Leaves publish.packetId) →
        (run (session.replace publish).2 later).2.replace again =
          (.ok pubrel, (run (session.replace publish).2 later).2)) ∧
    (∀ publish now error, (session.store publish now).1 = .error error →
      (session.store publish now).2 = session) ∧
    (∀ publish error, (session.replace publish).1 = .error error →
      (session.replace publish).2 = session ∧ error = .noSuchElement publish.packetId) ∧
    ∀ publish error, (session.remember publish).1 = .error error →
      (session.remember publish).2 = session := by
  intro session
  have indexed : session.Indexed := indexed_run operations
  refine ⟨?_, fun _ _ _ => store_of_error, ?_, fun _ _ => remember_of_error⟩
  · intro publish pubrel answered later again same leave
    obtain refused | ⟨released, after, replaced, afterIndexed, held⟩ :=
      indexed.replace_cases publish
    · rw [refused] at answered
      cases answered
    · rw [replaced] at answered leave ⊢
      cases answered
      apply replace_of_pubrel
      rw [same]
      exact run_pubrel afterIndexed held leave
  · intro publish error refused
    obtain absent | ⟨released, after, replaced, -⟩ := indexed.replace_cases publish
    · rw [absent] at refused ⊢
      cases refused
      exact ⟨rfl, rfl⟩
    · rw [replaced] at refused
      cases refused

/-- A release is repeated by way of a message that the session never held, after another
message was stored and acknowledged and an incoming message has come under the same
identifier. -/
theorem replace_repeats_foreign :
    let message : Message :=
      ⟨{ topic := "a", qos := .exactlyOnce, packetId := some 3 }, by decide +kernel⟩
    let other : Message :=
      ⟨{ topic := "b", qos := .atLeastOnce, packetId := some 4 }, by decide +kernel⟩
    let session := (run {} [.store message ⟨0⟩]).2
    let publish := message.inFlight ⟨0⟩ 1
    let foreign : InFlightPublish :=
      { packet := { topic := "c", packetId := some 3 }, created := ⟨9⟩, key := 8 }
    let later := [.store other ⟨5⟩, .remember message.publish, .acknowledge 4, .replace foreign]
    (session.replace publish).1 = .ok (publish.release 3 2) ∧
      (run (session.replace publish).2 later).2.replace foreign =
        (.ok (publish.release 3 2), (run (session.replace publish).2 later).2) := by
  intro message other session publish foreign later
  have answered : (session.replace publish).1 = .ok (publish.release 3 2) := by rfl
  have leave : ∀ event ∈ (run (session.replace publish).2 later).1,
      event.operation.drops 3 = false ∧ ∀ stored ∈ event.stored?, stored.packetId ≠ 3 := by
    decide +kernel
  refine ⟨answered, ?_⟩
  exact (replace_repeats [.store message ⟨0⟩]).1 publish _ answered later foreign rfl
    fun event member => ⟨(leave event member).1, (leave event member).2⟩

end Session

end Mqtt
