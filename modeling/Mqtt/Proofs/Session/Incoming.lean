import Mqtt.Proofs.Session.Run

/-! # Incoming messages of a session

The two directions of a session share the identifiers but not what is kept under
them. An incoming identifier is recorded exactly if the latest operation on it
remembers it, after any run (`Mqtt.Session.mem_incoming_run_iff`), so a message that
is delivered exactly once is told from its repetition by the history of its
identifier alone (`Mqtt.Session.repetition_iff_rememberedLast`).
-/

namespace Mqtt

namespace Session

/-! ## The history of an identifier -/

/-- The operation records an incoming identifier. -/
def Operation.Remembers (packetId : UInt16) : Operation → Prop
  | .remember publish => publish.packetId = some packetId
  | _ => False

/-- The operation forgets an incoming identifier, recorded or not. -/
def Operation.Forgets (packetId : UInt16) : Operation → Prop
  | .release pubrel => pubrel.packetId = packetId
  | .clear => True
  | _ => False

/-- Some operation remembers or forgets an identifier, and the latest one remembers
it. -/
def RememberedLast (packetId : UInt16) (operations : List Operation) : Prop :=
  ∃ earlier operation later, operations = earlier ++ operation :: later ∧
    operation.Remembers packetId ∧
      ∀ next ∈ later, ¬ next.Remembers packetId ∧ ¬ next.Forgets packetId

theorem not_rememberedLast_nil (packetId : UInt16) : ¬ RememberedLast packetId [] := by
  intro remembered
  obtain ⟨earlier, operation, later, split, -, -⟩ := remembered
  simp at split

/-- One more operation decides for an identifier, unless it neither remembers nor
forgets it. -/
theorem rememberedLast_concat_iff (packetId : UInt16) (operations : List Operation)
    (operation : Operation) :
    RememberedLast packetId (operations ++ [operation]) ↔
      operation.Remembers packetId ∨
        ¬ operation.Forgets packetId ∧ RememberedLast packetId operations := by
  constructor
  · intro remembered
    obtain ⟨earlier, recorded, later, split, remembers, quiet⟩ := remembered
    obtain rfl | ⟨front, last, rfl⟩ := later.eq_nil_or_concat
    · obtain ⟨-, same⟩ := List.append_inj' split rfl
      cases same
      exact .inl remembers
    · rw [List.concat_eq_append] at split quiet
      rw [← List.cons_append, ← List.append_assoc] at split
      obtain ⟨rest, same⟩ := List.append_inj' split rfl
      cases same
      have silent := quiet operation (by simp)
      have others := fun next member => quiet next (List.mem_append_left _ member)
      exact .inr ⟨silent.2, earlier, recorded, front, rest, remembers, others⟩
  · intro either
    obtain remembers | ⟨kept, earlier, recorded, later, split, remembers, quiet⟩ := either
    · exact ⟨operations, operation, [], rfl, remembers, by simp⟩
    · by_cases again : operation.Remembers packetId
      · exact ⟨operations, operation, [], rfl, again, by simp⟩
      · refine ⟨earlier, recorded, later ++ [operation], by simp [split], remembers, ?_⟩
        intro next member
        obtain earlierMember | last := List.mem_append.mp member
        · exact quiet next earlierMember
        · rw [List.mem_singleton.mp last]
          exact ⟨again, kept⟩

/-! ## What is recorded -/

/-- A new session has recorded no identifier. -/
theorem notMem_incoming_new (packetId : UInt16) : packetId ∉ ({} : Session).incoming :=
  Std.ExtTreeSet.not_mem_empty

/-- Storing a message leaves the incoming identifiers as they are. -/
@[simp] theorem incoming_store (session : Session) (publish : Publish) (now : Instant) :
    (session.store publish now).2.incoming = session.incoming := by
  unfold store
  split
  · rfl
  · split <;> rfl

/-- Replacing a message leaves the incoming identifiers as they are. -/
@[simp] theorem incoming_replace (session : Session) (publish : InFlightPublish) :
    (session.replace publish).2.incoming = session.incoming := by
  simp only [replace]
  split
  · rfl
  · rfl
  · split <;> rfl

/-- What one operation does to the incoming identifiers: it adds the one that it
remembers and takes out those that it forgets. -/
theorem mem_incoming_event_iff (session : Session) (operation : Operation)
    (packetId : UInt16) :
    packetId ∈ (session.event operation).after.incoming ↔
      operation.Remembers packetId ∨
        ¬ operation.Forgets packetId ∧ packetId ∈ session.incoming := by
  cases operation with
  | store message now =>
      simp only [event, perform, Prod.map, id, incoming_store, Operation.Remembers,
        Operation.Forgets, not_false_eq_true, true_and, false_or]
  | replace publish =>
      simp only [event, perform, Prod.map, id, incoming_replace, Operation.Remembers,
        Operation.Forgets, not_false_eq_true, true_and, false_or]
  | acknowledge other =>
      simp only [event, perform, Prod.map, id, acknowledge, Operation.Remembers,
        Operation.Forgets, not_false_eq_true, true_and, false_or]
  | remember publish =>
      cases carried : publish.packetId with
      | none => simp [event, perform, remember, carried, Operation.Remembers, Operation.Forgets]
      | some other =>
          simp [event, perform, remember, carried, Operation.Remembers, Operation.Forgets]
  | release pubrel =>
      simp [event, perform, release, Operation.Remembers, Operation.Forgets]
  | clear => simp [event, perform, clear, Operation.Remembers, Operation.Forgets]
  | query query =>
      simp only [event, perform, Operation.Remembers, Operation.Forgets, not_false_eq_true,
        true_and, false_or]

/-- The events of a run are its operations, in order. -/
theorem map_operation_run (session : Session) (operations : List Operation) :
    (run session operations).1.map Event.operation = operations := by
  induction operations generalizing session with
  | nil => rfl
  | cons operation operations ih =>
      rw [run, List.map_cons, ih]
      rfl

/-- After any run, an identifier is recorded exactly if it was remembered last. -/
theorem mem_incoming_run_iff (operations : List Operation) (packetId : UInt16) :
    packetId ∈ (run {} operations).2.incoming ↔ RememberedLast packetId operations := by
  suffices agrees : packetId ∈ (run {} operations).2.incoming ↔
      RememberedLast packetId ((run {} operations).1.map Event.operation) by
    rwa [map_operation_run] at agrees
  refine @run_induction (fun events session => packetId ∈ session.incoming ↔
    RememberedLast packetId (events.map Event.operation)) _ ?_ ?_ operations
  · exact iff_of_false (notMem_incoming_new packetId) (not_rememberedLast_nil packetId)
  · intro events current operation agrees
    rw [List.map_append, List.map_singleton, mem_incoming_event_iff, agrees]
    exact (rememberedLast_concat_iff packetId _ _).symm

/-! ## The two directions -/

/-- The operation is on outgoing packets. -/
def Operation.Outgoing : Operation → Prop
  | .store _ _ | .replace _ | .acknowledge _ => True
  | _ => False

/-- The operation is on incoming messages. -/
def Operation.Incoming : Operation → Prop
  | .remember _ | .release _ => True
  | _ => False

/-- An operation on outgoing packets leaves the incoming identifiers as they are. -/
theorem incoming_event_of_outgoing (session : Session) {operation : Operation}
    (outgoing : operation.Outgoing) :
    (session.event operation).after.incoming = session.incoming := by
  cases operation with
  | store message now => exact incoming_store session message.publish now
  | replace publish => exact incoming_replace session publish
  | acknowledge packetId => rfl
  | _ => exact outgoing.elim

/-- An operation on incoming messages leaves what is in flight as it is. -/
theorem inFlight_event_of_incoming (session : Session) {operation : Operation}
    (incoming : operation.Incoming) :
    (session.event operation).after.inFlight = session.inFlight ∧
      (session.event operation).after.lastKey = session.lastKey := by
  cases operation with
  | remember publish =>
      simp only [event, perform, remember]
      split <;> exact ⟨rfl, rfl⟩
  | release pubrel => exact ⟨rfl, rfl⟩
  | _ => exact incoming.elim

/-- Whether a message is a repetition is read off the incoming identifiers alone. -/
theorem answers_eq_of_incoming_eq {first second : Session}
    (same : first.incoming = second.incoming) (publish : Publish) :
    (first.remember publish).1 = (second.remember publish).1 ∧
      first.remembers publish = second.remembers publish := by
  simp only [remember, remembers, same, and_true]
  split <;> rfl

/-- Remembering a message tells whether the latest operation on its identifier
remembered it, asking tells the same and changes nothing, operations on outgoing
packets leave both answers as they are, and operations on incoming messages leave
the packets in flight, their order and the sequence keys as they are. -/
theorem repetition_iff_rememberedLast (operations : List Operation) (publish : Publish)
    {packetId : UInt16} (carried : publish.packetId = some packetId) :
    (∃ repeated : Bool, (repeated = true ↔ RememberedLast packetId operations) ∧
      ((run {} operations).2.perform (.remember publish)).1 = .remembered (.ok repeated) ∧
      (run {} operations).2.perform (.query (.remembers publish)) =
        (.truth repeated, (run {} operations).2)) ∧
    (∀ (session : Session) (operation : Operation), operation.Outgoing →
      ((session.event operation).after.remember publish).1 = (session.remember publish).1 ∧
      (session.event operation).after.remembers publish = session.remembers publish) ∧
    ∀ (session : Session) (operation : Operation), operation.Incoming →
      (session.event operation).after.inFlight = session.inFlight ∧
      (session.event operation).after.entries = session.entries ∧
      (session.event operation).after.lastKey = session.lastKey := by
  refine ⟨⟨(run {} operations).2.incoming.contains packetId, ?_, ?_, ?_⟩, ?_, ?_⟩
  · exact mem_incoming_run_iff operations packetId
  · simp only [perform, remember, carried, Prod.map]
  · simp only [perform, reply, remembers, carried, Option.any_some]
  · intro session operation outgoing
    exact answers_eq_of_incoming_eq (incoming_event_of_outgoing session outgoing) publish
  · intro session operation incoming
    obtain ⟨inFlight, lastKey⟩ := inFlight_event_of_incoming session incoming
    exact ⟨inFlight, by simp only [entries, inFlight], lastKey⟩

/-- A message that comes again after an acknowledgement of an outgoing packet with its
identifier, and after the release of another message, is a repetition. -/
theorem repetition_after_acknowledge :
    let publish : Publish := { topic := "a", qos := .exactlyOnce, packetId := some 42 }
    ((run {} [.remember publish, .acknowledge 42, .release { packetId := 7 }]).2.perform
      (.remember publish)).1 = .remembered (.ok true) := by
  intro publish
  have history : RememberedLast 42
      [.remember publish, .acknowledge 42, .release { packetId := 7 }] :=
    ⟨[], _, _, rfl, rfl, by simp [Operation.Remembers, Operation.Forgets]⟩
  obtain ⟨⟨repeated, agrees, answer, -⟩, -⟩ :=
    repetition_iff_rememberedLast [.remember publish, .acknowledge 42, .release { packetId := 7 }]
      publish (rfl : publish.packetId = some 42)
  rw [answer, agrees.mpr history]

end Session

end Mqtt
