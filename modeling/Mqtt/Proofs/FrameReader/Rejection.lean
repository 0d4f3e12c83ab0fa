import Mqtt.Proofs.FrameReader.Drain

/-! # Headers that are refused

A reader refuses a header that announces an unknown kind of packet, a malformed remaining
length or a frame that is too large. What it has seen of the header decides this, whatever
comes behind (`Mqtt.FrameReader.front_append_of_rejected`), and a header that is refused is
not taken off the buffer. So the reader gives the same error from then on and only collects
the bytes that arrive (`Mqtt.FrameReader.run_of_rejected`): no packet is read from behind the
header. No other error stays (`Mqtt.FrameReader.refusesHeader_iff_forever`).
-/

namespace Mqtt

namespace FrameReader

variable {reader : FrameReader} {error : PacketError}

/-- The next call for a packet is answered with an error for the header in front: its kind
of packet is unknown, its remaining length is malformed, or its frame is too large. -/
inductive RefusesHeader (reader : FrameReader) : PacketError → Prop
  | unknownKind {code : UInt8}
      (answered : reader.next.1 = .error (.malformed (.packetTypeUnknown code))) :
      RefusesHeader reader (.malformed (.packetTypeUnknown code))
  | malformedLength {error : PacketError} (malformed : reader.LengthMalformed)
      (answered : reader.next.1 = .error error) : RefusesHeader reader error
  | tooLarge {size maximum : Nat} (answered : reader.next.1 = .error (.tooLarge size maximum)) :
      RefusesHeader reader (.tooLarge size maximum)

/-- A refused header is answered with its fault. -/
theorem RefusesHeader.answered (refuses : reader.RefusesHeader error) :
    reader.ask.result = .error error := by
  cases refuses with
  | unknownKind answered => exact answered
  | malformedLength _ answered => exact answered
  | tooLarge answered => exact answered

/-- A refused header leaves the reader as it was. -/
theorem RefusesHeader.unchanged (refuses : reader.RefusesHeader error) :
    reader.ask.after = reader := by
  apply (ask_sound reader).refused
  cases refuses with
  | unknownKind answered => exact .inr (.inr (.inl ⟨_, answered⟩))
  | malformedLength malformed _ => exact .inr (.inr (.inr malformed))
  | tooLarge answered => exact .inr (.inl ⟨_, _, answered⟩)

/-- The only kind of fault of a control byte is an unknown kind of packet. -/
theorem fault_of_ofControlByte {control : UInt8} {fault : Fault}
    (unknown : PacketType.ofControlByte control = .error fault) :
    fault = .packetTypeUnknown (control >>> 4) := by
  unfold PacketType.ofControlByte at unknown
  split at unknown
  · cases unknown
  · cases unknown
    rfl

/-- An error that leaves the reader as it was is one for the header in front. -/
theorem rejected_of_unchanged (answered : reader.ask.result = .error error)
    (same : reader.ask.after = reader) :
    front reader.maximumSize reader.buffer = .rejected error := by
  rcases waits_or_rejected (settled_of_error answered same) with waits | ⟨other, shown⟩
  · rw [answered] at waits
    cases waits
  · simp only [ask, next, shown, Except.error.injEq] at answered
    rw [shown, answered]

/-- The headers that are refused are those that are rejected as soon as they are seen. -/
theorem refusesHeader_iff_rejected :
    reader.RefusesHeader error ↔ front reader.maximumSize reader.buffer = .rejected error := by
  constructor
  · exact fun refuses => rejected_of_unchanged refuses.answered refuses.unchanged
  · intro shown
    have answered : reader.next.1 = .error error := by simp only [next, shown]
    obtain ⟨control, lengthBytes, buffer, -, rejects⟩ := front_eq_rejected_iff.mp shown
    cases rejects with
    | unknownKind unknown =>
        rw [fault_of_ofControlByte unknown] at answered ⊢
        exact .unknownKind answered
    | malformedLength _ malformed =>
        exact .malformedLength ⟨control, lengthBytes, _, buffer, malformed⟩ answered
    | tooLarge _ _ _ => exact .tooLarge answered

/-! ## After a header was rejected -/

/-- A reader that has rejected a header gives the error and stays as it is. -/
theorem ask_of_rejected (shown : front reader.maximumSize reader.buffer = .rejected error) :
    reader.ask = ⟨reader, .error error, reader⟩ := by
  simp only [ask, next, shown]

/-- A reader that rejects what it shows rejects it with any bytes added. -/
theorem ask_extend_of_rejected (shown : front reader.maximumSize reader.buffer = .rejected error)
    (more : Bytes) :
    (reader.extend more).ask = ⟨reader.extend more, .error error, reader.extend more⟩ :=
  ask_of_rejected (front_append_of_rejected shown more)

/-- A run of a reader that has rejected a header gives nothing but the error, and adds its
bytes to the buffer. -/
theorem run_of_rejected (shown : front reader.maximumSize reader.buffer = .rejected error)
    (calls : List Call) :
    (run reader calls).2 = reader.extend (added calls) ∧
      ∀ answer ∈ (run reader calls).1, answer.result = .error error := by
  induction calls generalizing reader with
  | nil =>
      refine ⟨?_, fun _ member => (List.not_mem_nil member).elim⟩
      simp only [run, added_nil, extend, List.append_nil]
  | cons call calls ih =>
      cases call with
      | extend bytes =>
          obtain ⟨final, results⟩ := @ih (reader.extend bytes) (front_append_of_rejected shown bytes)
          refine ⟨?_, results⟩
          simpa only [run, added_extend, extend, List.append_assoc] using final
      | next =>
          obtain ⟨final, results⟩ := ih shown
          simp only [run, ask_of_rejected shown, added_next, List.forall_mem_cons]
          exact ⟨final, trivial, results⟩

/-- A reader refuses the header in front with an error exactly if it gives this error at
every later call for a packet, whatever bytes have arrived and however often it was asked
in between, and keeps all bytes that it had and that have arrived. -/
theorem refusesHeader_iff_forever :
    reader.RefusesHeader error ↔
      ∀ calls, (run reader calls).2 = reader.extend (added calls) ∧
        (run reader calls).2.next = (.error error, (run reader calls).2) ∧
        ∀ answer ∈ (run reader calls).1, answer.result = .error error := by
  rw [refusesHeader_iff_rejected]
  constructor
  · intro shown calls
    obtain ⟨final, results⟩ := run_of_rejected shown calls
    refine ⟨final, ?_, results⟩
    have again := ask_extend_of_rejected shown (added calls)
    rw [final]
    exact Prod.ext (congrArg Answer.result again) (congrArg Answer.after again)
  · intro forever
    obtain ⟨-, now, -⟩ := forever []
    exact rejected_of_unchanged (congrArg Prod.fst now) (congrArg Prod.snd now)

/-- A frame of five bytes is too large for a reader that allows four. The frame behind it,
a whole PINGRESP packet, is never read. -/
theorem refusesHeader_iff_forever_tooLarge :
    let reader : FrameReader := { buffer := [48, 3], maximumSize := 4 }
    let calls : List Call := [.extend [0, 1], .next, .extend [97, 208, 0], .next]
    reader.RefusesHeader (.tooLarge 5 4) ∧
      (run reader calls).2 = { buffer := [48, 3, 0, 1, 97, 208, 0], maximumSize := 4 } ∧
      (run reader calls).2.next = (.error (.tooLarge 5 4), (run reader calls).2) ∧
      ∀ answer ∈ (run reader calls).1, answer.result = .error (.tooLarge 5 4) := by
  intro reader calls
  have refuses : reader.RefusesHeader (.tooLarge 5 4) := .tooLarge rfl
  exact ⟨refuses, refusesHeader_iff_forever.mp refuses calls⟩

end FrameReader

end Mqtt
