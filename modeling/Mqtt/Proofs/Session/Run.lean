import Mqtt.Proofs.Packet.Publish
import Mqtt.Session.Store

/-! # Runs of a session

Operations on a session come in any order, with any arguments. Only four of them
change what is in flight: a message that is stored and a PUBREL packet that takes
its place are put in flight with a new sequence key, and an acknowledgement and
clearing take packets out (`Mqtt.Session.steps_event`). For what holds of each packet
in flight only those that are put there matter (`Mqtt.Session.Steps.brings`). What holds
of a new session and is kept by each operation holds after every run
(`Mqtt.Session.run_induction`).
-/

namespace Mqtt

/-- A message that obeys the rules of construction, as every message does that is
made or read. -/
structure Message where
  publish : Publish
  fits : publish.check = .ok ()

/-- A message that is acknowledged has an identifier other than zero. -/
theorem Message.packetId_of_acknowledged (message : Message)
    (acknowledged : message.publish.qos ≠ .atMostOnce) :
    ∃ packetId, message.publish.packetId = some packetId ∧ packetId ≠ 0 := by
  have rule := Publish.checkPacketId_of_check message.fits
  rcases Publish.checkPacketId_eq_ok_iff.mp rule with ⟨never, -⟩ | ⟨-, carried⟩
  · exact (acknowledged never).elim
  · exact carried

/-- The message as it is put in flight. -/
def Message.inFlight (message : Message) (now : Instant) (key : Nat) : InFlightPublish :=
  { packet := message.publish, created := now, key }

/-- A message that is acknowledged is in flight under an identifier other than zero. -/
theorem Message.packetId_inFlight (message : Message) (now : Instant) (key : Nat)
    (acknowledged : message.publish.qos ≠ .atMostOnce) :
    (message.inFlight now key).packetId ≠ 0 := by
  obtain ⟨packetId, carried, nonzero⟩ := message.packetId_of_acknowledged acknowledged
  simpa only [inFlight, InFlightPublish.packetId, carried, Option.getD_some] using nonzero

/-- The PUBREL packet that is put in the place of a message. -/
def InFlightPublish.release (publish : InFlightPublish) (packetId : UInt16) (key : Nat) :
    InFlightPubrel :=
  { packet := { packetId }, created := publish.created, key }

namespace Session

/-! ## Operations -/

/-- A question about a session. -/
inductive Query where
  | unacknowledgedAt (now : Instant)
  | remembers (publish : Publish)
  | contains (packetId : UInt16)
  | size

/-- An operation on a session. A message is replaced by way of any message in flight
with its identifier, also one that this session never held. -/
inductive Operation where
  | store (message : Message) (now : Instant)
  | replace (publish : InFlightPublish)
  | acknowledge (packetId : UInt16)
  | remember (publish : Publish)
  | release (pubrel : Ack)
  | clear
  | query (query : Query)

/-- What a session answers to an operation. -/
inductive Answer where
  | stored (result : Except SessionError InFlightPublish)
  | replaced (result : Except SessionError InFlightPubrel)
  | acknowledged (entry : Option InFlight)
  | remembered (result : Except SessionError Bool)
  | done
  | entries (entries : List InFlight)
  | truth (holds : Bool)
  | count (count : Nat)

/-- The answer to a question. -/
def reply (session : Session) : Query → Answer
  | .unacknowledgedAt now => .entries (session.unacknowledgedAt now)
  | .remembers publish => .truth (session.remembers publish)
  | .contains packetId => .truth (session.contains packetId)
  | .size => .count session.size

/-- The operation takes the packet with an identifier out of flight, if there is one. -/
def Operation.drops (packetId : UInt16) : Operation → Bool
  | .acknowledge other => other = packetId
  | .clear => true
  | _ => false

/-- The operation takes all packets out of flight. -/
def Operation.clears : Operation → Bool
  | .clear => true
  | _ => false

/-- The answer to an operation and the session after it. -/
def perform (session : Session) : Operation → Answer × Session
  | .store message now => (session.store message.publish now).map .stored id
  | .replace publish => (session.replace publish).map .replaced id
  | .acknowledge packetId => (session.acknowledge packetId).map .acknowledged id
  | .remember publish => (session.remember publish).map .remembered id
  | .release pubrel => (.done, session.release pubrel)
  | .clear => (.done, session.clear)
  | .query query => (session.reply query, session)

/-- An operation that was performed. -/
structure Event where
  before : Session
  operation : Operation
  answer : Answer
  after : Session

/-- Performs an operation. -/
def event (session : Session) (operation : Operation) : Event :=
  ⟨session, operation, (session.perform operation).1, (session.perform operation).2⟩

/-- Performs operations one after another. -/
def run : Session → List Operation → List Event × Session
  | session, [] => ([], session)
  | session, operation :: operations =>
      let (events, final) := run (session.event operation).after operations
      (session.event operation :: events, final)

/-- Performing operations after others goes on from where those lead. -/
theorem run_append (session : Session) (first second : List Operation) :
    run session (first ++ second) =
      ((run session first).1 ++ (run (run session first).2 second).1,
        (run (run session first).2 second).2) := by
  induction first generalizing session with
  | nil => rfl
  | cons operation first ih =>
      rw [List.cons_append, run, ih]
      rfl

/-- A run of one more operation has one more event. -/
theorem run_concat (session : Session) (operations : List Operation) (operation : Operation) :
    run session (operations ++ [operation]) =
      ((run session operations).1 ++ [(run session operations).2.event operation],
        ((run session operations).2.event operation).after) :=
  run_append session operations [operation]

/-- What holds at the start and is kept by every operation holds after a run. -/
theorem run_induction {holds : List Event → Session → Prop} {session : Session}
    (start : holds [] session)
    (step : ∀ events current operation, holds events current →
      holds (events ++ [current.event operation]) (current.event operation).after)
    (operations : List Operation) :
    holds (run session operations).1 (run session operations).2 := by
  have continues : ∀ (events : List Event) (current : Session), holds events current →
      holds (events ++ (run current operations).1) (run current operations).2 := by
    induction operations with
    | nil =>
        intro events current reached
        rw [run, List.append_nil]
        exact reached
    | cons operation operations ih =>
        intro events current reached
        have later := ih _ _ (step events current operation reached)
        rw [List.append_assoc] at later
        exact later
  exact continues [] session start

/-! ## What is put in flight and taken out -/

/-- Puts a packet in flight under its identifier. Its key is the last one given out. -/
def put (session : Session) (entry : InFlight) : Session :=
  { session with
    inFlight := session.inFlight.insert entry.packetId entry
    lastKey := entry.key }

/-- Takes the packet with an identifier out of flight. -/
def drop (session : Session) (packetId : UInt16) : Session :=
  { session with inFlight := session.inFlight.erase packetId }

@[simp] theorem put_lastKey (session : Session) (entry : InFlight) :
    (session.put entry).lastKey = entry.key :=
  rfl

/-- A packet put in flight is found under its identifier, and the others as before. -/
@[simp] theorem getElem?_put (session : Session) (entry : InFlight) (other : UInt16) :
    (session.put entry).inFlight[other]? =
      if entry.packetId = other then some entry else session.inFlight[other]? := by
  simp only [put, Std.ExtTreeMap.getElem?_insert, Std.compare_eq_iff_eq]

/-- A packet taken out of flight is not found, and the others are as before. -/
@[simp] theorem getElem?_drop (session : Session) (packetId other : UInt16) :
    (session.drop packetId).inFlight[other]? =
      if packetId = other then none else session.inFlight[other]? := by
  simp only [drop, Std.ExtTreeMap.getElem?_erase, Std.compare_eq_iff_eq]

@[simp] theorem getElem?_clear (session : Session) (other : UInt16) :
    session.clear.inFlight[other]? = none :=
  Std.ExtTreeMap.getElem?_empty

/-! ## What an operation does -/

/-- Every packet in flight is held under its own identifier, which is not zero. -/
def Indexed (session : Session) : Prop :=
  ∀ (packetId : UInt16) (entry : InFlight), session.inFlight[packetId]? = some entry →
    entry.packetId = packetId ∧ packetId ≠ 0

namespace Event

/-- The message that the operation put in flight. -/
def stored? (event : Event) : Option InFlightPublish :=
  match event.answer with
  | .stored (.ok entry) => some entry
  | _ => none

/-- The PUBREL packet that the operation put in flight, not one that was there. -/
def released? (event : Event) : Option InFlightPubrel :=
  match event.answer with
  | .replaced (.ok entry) =>
      if event.before.inFlight[entry.packet.packetId]? = some (.pubrel entry) then none
      else some entry
  | _ => none

/-- The PUBREL packet in the answer is the one that the event releases. -/
theorem released?_of_publish {event : Event} {entry : InFlightPubrel} {stored : InFlightPublish}
    (answered : event.answer = .replaced (.ok entry))
    (found : event.before.inFlight[entry.packet.packetId]? = some (.publish stored)) :
    event.released? = some entry := by
  have notThere : event.before.inFlight[entry.packet.packetId]? ≠ some (.pubrel entry) := by
    rw [found]
    simp
  simp only [released?, answered, notThere, ↓reduceIte]

/-- The packet that an acknowledgement took out of flight. -/
def acknowledged? (event : Event) : Option InFlight :=
  match event.answer with
  | .acknowledged entry => entry
  | _ => none

/-- The operation leaves the packets in flight and the sequence keys as they are. -/
structure Quiet (event : Event) : Prop where
  inFlight_eq : event.after.inFlight = event.before.inFlight
  lastKey_eq : event.after.lastKey = event.before.lastKey
  stored_eq : event.stored? = none
  released_eq : event.released? = none
  acknowledged_eq : event.acknowledged? = none
  not_clears : event.operation.clears = false

/-- The operation brings no packet into flight and gives out no sequence key. -/
structure Shrinks (event : Event) : Prop where
  within : ∀ (packetId : UInt16) (entry : InFlight),
    event.after.inFlight[packetId]? = some entry → event.before.inFlight[packetId]? = some entry
  lastKey_eq : event.after.lastKey = event.before.lastKey
  stored_eq : event.stored? = none
  released_eq : event.released? = none

end Event

/-- What an operation does to the packets in flight. -/
inductive Steps : Event → Prop
  | stores {session : Session} {message : Message} {now : Instant} {entry : InFlightPublish}
      (made : entry = message.inFlight now (session.lastKey + 1))
      (acknowledged : entry.packet.qos ≠ .atMostOnce) (nonzero : entry.packetId ≠ 0) :
      Steps ⟨session, .store message now, .stored (.ok entry), session.put (.publish entry)⟩
  | releases {session : Session} {publish stored : InFlightPublish} {entry : InFlightPubrel}
      (made : entry = stored.release publish.packetId (session.lastKey + 1))
      (found : session.inFlight[publish.packetId]? = some (.publish stored)) :
      Steps ⟨session, .replace publish, .replaced (.ok entry), session.put (.pubrel entry)⟩
  | acknowledges (session : Session) (packetId : UInt16) :
      Steps ⟨session, .acknowledge packetId, .acknowledged session.inFlight[packetId]?,
        session.drop packetId⟩
  | clears (session : Session) : Steps ⟨session, .clear, .done, session.clear⟩
  | keeps {event : Event} (quiet : event.Quiet) : Steps event

variable {session : Session}

/-- A message that is acknowledged is put in flight under the next key. -/
theorem store_of_acknowledged (message : Message) (now : Instant)
    (acknowledged : message.publish.qos ≠ .atMostOnce) :
    session.store message.publish now =
      (.ok (message.inFlight now (session.lastKey + 1)),
        session.put (.publish (message.inFlight now (session.lastKey + 1)))) := by
  obtain ⟨packetId, carried, -⟩ := message.packetId_of_acknowledged acknowledged
  simp only [store, acknowledged, carried, ↓reduceIte, Message.inFlight, put, InFlight.packetId,
    InFlight.key, InFlightPublish.packetId, Option.getD_some]

/-- A message in flight is replaced by a PUBREL packet under the next key. -/
theorem replace_of_publish {publish stored : InFlightPublish}
    (found : session.inFlight[publish.packetId]? = some (.publish stored))
    (nonzero : publish.packetId ≠ 0) :
    session.replace publish =
      (.ok (stored.release publish.packetId (session.lastKey + 1)),
        session.put (.pubrel (stored.release publish.packetId (session.lastKey + 1)))) := by
  have built : Ack.build .pubRel { packetId := publish.packetId } =
      .ok { packetId := publish.packetId } := by
    simp [Ack.build, Ack.check, nonzero]
    rfl
  simp only [replace, found, built, InFlightPublish.release, put, InFlight.packetId, InFlight.key]

/-- An operation that answers with an error, or with what it finds, changes nothing in
flight. -/
theorem steps_event (indexed : session.Indexed) (operation : Operation) :
    Steps (session.event operation) := by
  cases operation with
  | store message now =>
      by_cases never : message.publish.qos = .atMostOnce
      · have refused : session.store message.publish now = (.error .neverAcknowledged, session) :=
          if_pos never
        simp only [event, perform, refused]
        exact .keeps ⟨rfl, rfl, rfl, rfl, rfl, rfl⟩
      · have nonzero := message.packetId_inFlight now (session.lastKey + 1) never
        simp only [event, perform, store_of_acknowledged message now never]
        exact .stores rfl never nonzero
  | replace publish =>
      cases found : session.inFlight[publish.packetId]? with
      | none =>
          simp only [event, perform, replace, found]
          exact .keeps ⟨rfl, rfl, rfl, rfl, rfl, rfl⟩
      | some entry =>
          obtain ⟨own, nonzero⟩ := indexed _ _ found
          cases entry with
          | publish stored =>
              simp only [event, perform, replace_of_publish found nonzero]
              exact .releases rfl found
          | pubrel pubrel =>
              simp only [event, perform, replace, found]
              refine .keeps ⟨rfl, rfl, rfl, ?_, rfl, rfl⟩
              have there : session.inFlight[pubrel.packet.packetId]? = some (.pubrel pubrel) := by
                rw [show pubrel.packet.packetId = publish.packetId from own]
                exact found
              simp only [Event.released?, Prod.map, there, ↓reduceIte]
  | acknowledge packetId => exact .acknowledges session packetId
  | remember publish =>
      cases carried : publish.packetId with
      | none =>
          simp only [event, perform, remember, carried]
          exact .keeps ⟨rfl, rfl, rfl, rfl, rfl, rfl⟩
      | some packetId =>
          simp only [event, perform, remember, carried]
          exact .keeps ⟨rfl, rfl, rfl, rfl, rfl, rfl⟩
  | release pubrel => exact .keeps ⟨rfl, rfl, rfl, rfl, rfl, rfl⟩
  | clear => exact .clears session
  | query query =>
      cases query <;> exact .keeps ⟨rfl, rfl, rfl, rfl, rfl, rfl⟩

/-- What an operation brings into flight: a message, a PUBREL packet in the place of one, or
nothing. -/
inductive Brings : Event → Prop
  | message {session : Session} {message : Message} {now : Instant} {entry : InFlightPublish}
      (made : entry = message.inFlight now (session.lastKey + 1))
      (acknowledged : entry.packet.qos ≠ .atMostOnce) (nonzero : entry.packetId ≠ 0) :
      Brings ⟨session, .store message now, .stored (.ok entry), session.put (.publish entry)⟩
  | pubrel {session : Session} {publish stored : InFlightPublish} {entry : InFlightPubrel}
      (made : entry = stored.release publish.packetId (session.lastKey + 1))
      (found : session.inFlight[publish.packetId]? = some (.publish stored)) :
      Brings ⟨session, .replace publish, .replaced (.ok entry), session.put (.pubrel entry)⟩
  | nothing {event : Event} (shrinks : event.Shrinks) : Brings event

/-- Each way to change a session brings into flight what it should. -/
theorem Steps.brings {event : Event} (steps : Steps event) : Brings event := by
  cases steps with
  | stores made acknowledged nonzero => exact .message made acknowledged nonzero
  | releases made found => exact .pubrel made found
  | acknowledges session packetId =>
      refine .nothing ⟨?_, rfl, rfl, rfl⟩
      intro other entry found
      rw [getElem?_drop] at found
      split at found
      · cases found
      · exact found
  | clears session =>
      refine .nothing ⟨?_, rfl, rfl, rfl⟩
      intro other entry found
      rw [getElem?_clear] at found
      cases found
  | keeps quiet =>
      refine .nothing ⟨?_, quiet.lastKey_eq, quiet.stored_eq, quiet.released_eq⟩
      intro other entry found
      rw [← quiet.inFlight_eq]
      exact found

/-! ## Identifiers -/

theorem indexed_new : ({} : Session).Indexed := by
  intro packetId entry found
  simp at found

theorem Indexed.put {entry : InFlight} (indexed : session.Indexed)
    (nonzero : entry.packetId ≠ 0) : (session.put entry).Indexed := by
  intro packetId other found
  rw [getElem?_put] at found
  split at found
  · next same =>
      cases found
      exact ⟨same, same ▸ nonzero⟩
  · exact indexed packetId other found

/-- Every step keeps the packets in flight under their own identifiers. -/
theorem Steps.indexed {event : Event} (steps : Steps event) (indexed : event.before.Indexed) :
    event.after.Indexed := by
  cases steps.brings with
  | message made acknowledged nonzero => exact indexed.put nonzero
  | pubrel made found =>
      subst made
      exact indexed.put (indexed _ _ found).2
  | nothing shrinks => exact fun other entry found => indexed other entry (shrinks.within _ _ found)

/-- After every run, packets are held under their own identifiers. -/
theorem indexed_run (operations : List Operation) : (run {} operations).2.Indexed := by
  refine @run_induction (fun _ session => session.Indexed) _ indexed_new ?_ operations
  intro events current operation indexed
  exact (steps_event indexed operation).indexed indexed

end Session

end Mqtt
