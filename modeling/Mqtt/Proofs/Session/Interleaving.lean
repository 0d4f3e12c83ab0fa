import Mathlib.Data.Set.Defs
import Mqtt.Proofs.Session.Run

/-! # Acknowledgements among other operations

Messages are sent and received on one path and acknowledgements arrive on another, so
the operations of the two come in any order that keeps the order of each. Where each
operation of one path commutes with each of the other, that order makes no difference:
every operation is answered as on its own path alone, and the session is the same in
the end (`Mqtt.Session.run_of_commutes`). An acknowledgement takes its packet out and
does nothing else, so it commutes with every operation that leaves its identifier alone
(`Mqtt.Session.Operation.Avoids.commutes`).
-/

namespace Mqtt

/-- A list has the members of two others, and those of each in order. -/
inductive Interleaves {α : Type} : List α → List α → List α → Prop
  | nil : Interleaves [] [] []
  | left {first second both : List α} (next : α) (others : Interleaves first second both) :
      Interleaves (next :: first) second (next :: both)
  | right {first second both : List α} (next : α) (others : Interleaves first second both) :
      Interleaves first (next :: second) (next :: both)

namespace Session

/-! ## Operations that commute -/

/-- The operations of a run, each with its answer. -/
def outcomes (session : Session) (operations : List Operation) : List (Operation × Answer) :=
  (run session operations).1.map fun event => (event.operation, event.answer)

/-- Neither of two operations changes how the other is answered, and both lead to the same
session in either order. -/
structure Operation.Commutes (first second : Operation) : Prop where
  first_answer : ∀ session : Session,
    ((session.perform second).2.perform first).1 = (session.perform first).1
  second_answer : ∀ session : Session,
    ((session.perform first).2.perform second).1 = (session.perform second).1
  session_eq : ∀ session : Session,
    ((session.perform second).2.perform first).2 = ((session.perform first).2.perform second).2

theorem Operation.Commutes.symm {first second : Operation} (commutes : first.Commutes second) :
    second.Commutes first where
  first_answer := commutes.second_answer
  second_answer := commutes.first_answer
  session_eq session := (commutes.session_eq session).symm

/-- An operation that commutes with those of a run changes no answer when it comes before
them, and may as well come after them. -/
theorem run_after_commuting {operations : List Operation} {early : Operation}
    (commute : ∀ operation ∈ operations, operation.Commutes early) (session : Session) :
    outcomes (session.perform early).2 operations = outcomes session operations ∧
      (run (session.perform early).2 operations).2 =
        ((run session operations).2.perform early).2 := by
  induction operations generalizing session with
  | nil => exact ⟨rfl, rfl⟩
  | cons operation operations ih =>
      obtain ⟨commutes, others⟩ := List.forall_mem_cons.mp commute
      obtain ⟨answers, final⟩ := ih others (session.perform operation).2
      rw [← commutes.session_eq] at answers final
      refine ⟨?_, final⟩
      exact congrArg₂ List.cons (congrArg _ (commutes.first_answer session)) answers

/-- Operations on two paths that commute are answered as on either path alone, in whatever
order they come, and the session in the end is the one after one path and then the
other. -/
theorem run_of_commutes {first second both : List Operation}
    (commute : ∀ one ∈ first, ∀ other ∈ second, one.Commutes other)
    (interleaves : Interleaves first second both) (session : Session) :
    Interleaves (outcomes session first) (outcomes session second) (outcomes session both) ∧
      (run session both).2 = (run session (first ++ second)).2 := by
  induction interleaves generalizing session with
  | nil => exact ⟨.nil, rfl⟩
  | @left first second both next others ih =>
      obtain ⟨commutes, commute⟩ := List.forall_mem_cons.mp commute
      obtain ⟨answers, final⟩ := ih commute (session.perform next).2
      have unchanged :=
        (run_after_commuting (fun other member => (commutes other member).symm) session).1
      rw [unchanged] at answers
      exact ⟨.left _ answers, final⟩
  | @right first second both next others ih =>
      -- The operation comes before all that is left of the first path and is moved behind it.
      have commutes := fun one member => commute one member next List.mem_cons_self
      have rest := fun one member other later =>
        commute one member other (List.mem_cons_of_mem _ later)
      obtain ⟨answers, final⟩ := ih rest (session.perform next).2
      obtain ⟨unchanged, later⟩ := run_after_commuting commutes session
      rw [unchanged] at answers
      refine ⟨.right _ answers, ?_⟩
      calc (run (session.perform next).2 both).2
          = (run (run (session.perform next).2 first).2 second).2 := by rw [final, run_append]
        _ = (run ((run session first).2.perform next).2 second).2 := by rw [later]
        _ = (run session (first ++ next :: second)).2 := by
          rw [run_append]
          rfl

/-! ## Acknowledgements -/

variable {identifiers : Set UInt16} {packetId : UInt16} {operation : Operation}

/-- The operation stores or replaces a message whose identifier is not among some others,
or is on an incoming message, whatever its identifier. -/
def Operation.Avoids (identifiers : Set UInt16) : Operation → Prop
  | .store message _ => ∀ packetId ∈ identifiers, message.publish.packetId ≠ some packetId
  | .replace publish => publish.packetId ∉ identifiers
  | .remember _ | .release _ => True
  | _ => False

/-- The operation acknowledges a packet whose identifier is among some others. -/
def Operation.Acknowledges (identifiers : Set UInt16) (operation : Operation) : Prop :=
  ∃ packetId ∈ identifiers, operation = .acknowledge packetId

/-- The session with another packet in flight under an identifier, or with none. -/
def withHeld (session : Session) (packetId : UInt16) (held : Option InFlight) : Session :=
  { session with inFlight := session.inFlight.alter packetId fun _ => held }

/-- A look-up finds what was put under the identifier, and elsewhere what was there. -/
@[simp] theorem getElem?_withHeld (session : Session) (packetId other : UInt16)
    (held : Option InFlight) :
    (session.withHeld packetId held).inFlight[other]? =
      if packetId = other then held else session.inFlight[other]? := by
  simp only [withHeld, Std.ExtTreeMap.getElem?_alter, Std.compare_eq_iff_eq]

/-- A packet is put in flight, or taken out, where the lookups in the result say so. -/
theorem withHeld_eq {session : Session} {packetId : UInt16} {held : Option InFlight}
    {inFlight : Std.ExtTreeMap UInt16 InFlight}
    (lookup : ∀ other : UInt16,
      (if packetId = other then held else session.inFlight[other]?) = inFlight[other]?) :
    session.withHeld packetId held = { session with inFlight } := by
  have same : (session.withHeld packetId held).inFlight = inFlight := by
    apply Std.ExtTreeMap.ext_getElem?
    intro other
    rw [getElem?_withHeld, lookup]
  simp only [withHeld] at same ⊢
  rw [same]

/-- A packet put where it already is changes nothing. -/
theorem withHeld_self (session : Session) (packetId : UInt16) :
    session.withHeld packetId session.inFlight[packetId]? = session := by
  apply withHeld_eq
  intro other
  split
  · next own => rw [own]
  · rfl

/-- Putting nothing under an identifier takes its packet out. -/
theorem withHeld_none (session : Session) (packetId : UInt16) :
    session.withHeld packetId none = session.drop packetId := by
  apply withHeld_eq
  intro other
  exact (getElem?_drop session packetId other).symm

/-- Packets are put in flight under different identifiers in any order. -/
theorem insert_alter_comm (inFlight : Std.ExtTreeMap UInt16 InFlight) {packetId other : UInt16}
    (different : packetId ≠ other) (held : Option InFlight) (entry : InFlight) :
    (inFlight.alter packetId fun _ => held).insert other entry =
      (inFlight.insert other entry).alter packetId fun _ => held := by
  apply Std.ExtTreeMap.ext_getElem?
  intro found
  simp only [Std.ExtTreeMap.getElem?_insert, Std.ExtTreeMap.getElem?_alter,
    Std.compare_eq_iff_eq]
  by_cases own : other = found
  · subst own
    simp only [different, ↓reduceIte]
  · simp only [own, ↓reduceIte]

/-- An operation that leaves an identifier alone does the same whatever is in flight under
it, and leaves that in flight. -/
theorem perform_withHeld (session : Session) (avoids : operation.Avoids identifiers)
    (member : packetId ∈ identifiers) (held : Option InFlight) :
    (session.withHeld packetId held).perform operation =
      ((session.perform operation).1, (session.perform operation).2.withHeld packetId held) := by
  cases operation with
  | store message now =>
      simp only [perform, store]
      split
      · rfl
      · split
        · rfl
        · next other carried =>
            have different : packetId ≠ other := by
              rintro rfl
              exact avoids packetId member carried
            simp only [Prod.map, id, withHeld, insert_alter_comm _ different]
  | replace publish =>
      have different : packetId ≠ publish.packetId := by
        rintro rfl
        exact avoids member
      have found : (session.withHeld packetId held).inFlight[publish.packetId]? =
          session.inFlight[publish.packetId]? := by
        rw [getElem?_withHeld, if_neg different]
      simp only [perform, replace, found]
      split
      · rfl
      · rfl
      · split
        · rfl
        · simp only [Prod.map, id, withHeld, insert_alter_comm _ different]
  | remember publish =>
      simp only [perform, remember]
      split <;> rfl
  | release pubrel => rfl
  | _ => exact avoids.elim

/-- An operation that leaves an identifier alone leaves what is in flight under it. -/
theorem getElem?_perform (session : Session) (avoids : operation.Avoids identifiers)
    (member : packetId ∈ identifiers) :
    (session.perform operation).2.inFlight[packetId]? = session.inFlight[packetId]? := by
  -- What is in flight already is put there once more, which changes nothing.
  have performed := perform_withHeld session avoids member session.inFlight[packetId]?
  rw [withHeld_self] at performed
  have after_eq := congrArg (fun pair => pair.2.inFlight[packetId]?) performed
  simpa only [getElem?_withHeld, ↓reduceIte] using after_eq

/-- An operation that leaves some identifiers alone commutes with the acknowledgement of
each. -/
theorem Operation.Avoids.commutes {acknowledgement : Operation}
    (avoids : operation.Avoids identifiers)
    (acknowledges : acknowledgement.Acknowledges identifiers) :
    operation.Commutes acknowledgement := by
  obtain ⟨packetId, member, rfl⟩ := acknowledges
  have performed : ∀ session : Session,
      (session.perform (.acknowledge packetId)).2.perform operation =
        ((session.perform operation).1,
          ((session.perform operation).2.perform (.acknowledge packetId)).2) := by
    intro session
    have performed := perform_withHeld session avoids member none
    rw [withHeld_none, withHeld_none] at performed
    exact performed
  exact {
    first_answer session := by rw [performed]
    second_answer session := congrArg Answer.acknowledged (getElem?_perform session avoids member)
    session_eq session := by rw [performed] }

/-- Whatever session they start from, acknowledgements are answered as if nothing else
came, and operations that leave their identifiers alone as if no acknowledgement came:
the order in which the two come makes no difference, to an answer or to the session in
the end. -/
theorem run_of_interleaves {traffic acknowledgements both : List Operation}
    (avoid : ∀ operation ∈ traffic, operation.Avoids identifiers)
    (acknowledge : ∀ operation ∈ acknowledgements, operation.Acknowledges identifiers)
    (interleaves : Interleaves traffic acknowledgements both) (session : Session) :
    Interleaves (outcomes session traffic) (outcomes session acknowledgements)
        (outcomes session both) ∧
      (run session both).2 = (run session (traffic ++ acknowledgements)).2 := by
  have commute : ∀ one ∈ traffic, ∀ other ∈ acknowledgements, one.Commutes other := by
    intro one member other otherMember
    exact (avoid one member).commutes (acknowledge other otherMember)
  exact run_of_commutes commute interleaves session

/-- One message is acknowledged after another one is released and before a third one is
stored. -/
theorem run_of_interleaves_between :
    let first : Message :=
      ⟨{ topic := "a", qos := .atLeastOnce, packetId := some 1 }, by decide +kernel⟩
    let second : Message :=
      ⟨{ topic := "a", qos := .exactlyOnce, packetId := some 2 }, by decide +kernel⟩
    let third : Message :=
      ⟨{ topic := "a", qos := .atLeastOnce, packetId := some 3 }, by decide +kernel⟩
    let session := (run {} [.store first ⟨0⟩, .store second ⟨5⟩]).2
    let replacing := Operation.replace (second.inFlight ⟨5⟩ 2)
    let storing := Operation.store third ⟨9⟩
    let acknowledging := Operation.acknowledge 1
    replacing.Avoids {1} ∧ storing.Avoids {1} ∧ acknowledging.Acknowledges {1} ∧
      Interleaves (outcomes session [replacing, storing]) (outcomes session [acknowledging])
        (outcomes session [replacing, acknowledging, storing]) ∧
      (run session [replacing, acknowledging, storing]).2 =
        (run session [replacing, storing, acknowledging]).2 := by
  intro first second third session replacing storing acknowledging
  have different : (2 : UInt16) ≠ 1 := by decide
  have replaces : replacing.Avoids {1} := different
  have stores : storing.Avoids {1} := by
    rintro packetId rfl
    decide
  have acknowledges : acknowledging.Acknowledges {1} := ⟨1, rfl, rfl⟩
  have interleaves : Interleaves [replacing, storing] [acknowledging]
      [replacing, acknowledging, storing] := .left _ (.right _ (.left _ .nil))
  refine ⟨replaces, stores, acknowledges, ?_⟩
  have avoid : ∀ operation ∈ [replacing, storing], operation.Avoids {1} :=
    List.forall_mem_cons.mpr ⟨replaces, List.forall_mem_singleton.mpr stores⟩
  exact run_of_interleaves avoid (List.forall_mem_singleton.mpr acknowledges) interleaves session

end Session

end Mqtt
