import Mqtt.Proofs.FrameReader.Drain

/-! # Readers that wait

A reader waits while it holds the beginning of a header or of a frame that it allows. The
header is at most a control byte and four marked digits, since a fifth digit is malformed
(`Mqtt.VarInt.peek_eq_none_iff`), and a frame that is too large is rejected as soon as its
length is known. So a reader that waits holds no more than five bytes or one less than its
limit (`Mqtt.FrameReader.length_le_of_incomplete`), whatever was sent to it.
-/

namespace Mqtt

namespace FrameReader

variable {reader : FrameReader} {maximumSize : Nat} {buffer frame : Bytes} {packet : Packet}

/-- An incomplete header has at most five bytes, an incomplete frame fewer than the reader
allows. -/
theorem length_le_of_incomplete (shown : front maximumSize buffer = .incomplete) :
    buffer.length ≤ max 5 (maximumSize - 1) := by
  have shows := shows_front maximumSize buffer
  rw [shown] at shows
  cases shows with
  | short short => omega
  | @lengthOpen control lengthBytes packetType kind waits =>
      obtain ⟨atMost, -⟩ := VarInt.peek_eq_none_iff.mp waits
      rw [List.length_cons]
      omega
  | @bodyOpen control digits begun remainingLength packetType kind spells fits less =>
      rw [List.length_cons, List.length_append]
      omega

/-- A reader that answers that there is no packet yet shows no whole frame. -/
theorem incomplete_of_waits (waits : reader.ask.result = .ok none) :
    front reader.maximumSize reader.buffer = .incomplete := by
  cases shown : front reader.maximumSize reader.buffer with
  | incomplete => rfl
  | rejected error =>
      simp only [ask, next, shown] at waits
      cases waits
  | frame packetType flags body rest =>
      simp only [ask, next, shown] at waits
      obtain ⟨_, -, same⟩ := Except.map_eq_ok_iff.mp waits
      cases same

/-- A frame that is accepted is within the limit. -/
theorem Accepts.length_le (accepts : Accepts maximumSize frame) : frame.length ≤ maximumSize := by
  obtain ⟨control, digits, body, packetType, rfl, -, -, fits⟩ := accepts
  rw [List.length_cons, List.length_append]
  omega

/-- A packet is what a frame holds that was taken and that is not too large. -/
theorem accepts_of_packet (found : reader.ask.result = .ok (some packet)) :
    Accepts reader.maximumSize reader.ask.taken ∧
      Packet.decode reader.ask.taken = .ok packet := by
  have unsettled : ¬ reader.ask.settled = true := by
    simp only [Answer.settled, found, Bool.false_eq_true, not_false_eq_true]
  have changed := of_decide_eq_true (ask_unsettled unsettled).2
  obtain ⟨accepts, result⟩ := (ask_sound reader).takesFrame changed
  rw [found] at result
  obtain ⟨_, decoded, same⟩ := Except.map_eq_ok_iff.mp result.symm
  cases same
  exact ⟨accepts, decoded⟩

/-- What the limit of a reader says of an answer. -/
structure Answer.Bounded (answer : Answer) (maximumSize : Nat) : Prop where
  /-- A reader that waits holds at most five bytes or one less than its limit. -/
  waiting : answer.result = .ok none → answer.after.buffer.length ≤ max 5 (maximumSize - 1)
  /-- A packet is decoded from the front of the buffer, which is no longer than the limit. -/
  taken : ∀ packet, answer.result = .ok (some packet) →
    answer.before.buffer = answer.taken ++ answer.after.buffer ∧
      Packet.decode answer.taken = .ok packet ∧ answer.taken.length ≤ maximumSize

/-- Every answer of a reader is bounded by its limit. -/
theorem ask_bounded (reader : FrameReader) : reader.ask.Bounded reader.maximumSize where
  waiting waits := by
    rw [(ask_sound reader).refused (.inl waits)]
    exact length_le_of_incomplete (incomplete_of_waits waits)
  taken packet found := by
    obtain ⟨accepts, decoded⟩ := accepts_of_packet found
    exact ⟨(ask_sound reader).buffer_eq, decoded, accepts.length_le⟩

/-- Whatever bytes arrive and whenever packets are asked for, a reader that waits for more
holds at most five bytes or one less than its limit, and takes no packet from a frame that is
longer than the limit. This holds of every answer on the way and of the one that is left when
the reader is drained. -/
theorem run_bounded (reader : FrameReader) (calls : List Call) :
    (∀ answer ∈ (run reader calls).1, answer.Bounded reader.maximumSize) ∧
      (run reader calls).2.drain.2.Bounded reader.maximumSize := by
  constructor
  · intro answer member
    obtain ⟨asked, maximumSize⟩ := ask_of_mem_run reader calls answer member
    rw [← maximumSize, ← asked]
    exact ask_bounded answer.before
  · obtain ⟨-, asked⟩ := drain_settles (run reader calls).2
    have bounded := ask_bounded (run reader calls).2.drain.2.after
    rw [← asked, maximumSize_drain] at bounded
    rw [← maximumSize_run reader calls]
    exact bounded

/-- A reader takes a packet from a frame of two bytes and then holds one byte less than its
limit. -/
theorem run_bounded_reached :
    let reader : FrameReader := { maximumSize := 8 }
    let calls : List Call := [.extend [208, 0, 48, 6, 0, 1, 97, 0, 0], .next, .next]
    ∃ taken waiting, (run reader calls).1 = [taken, waiting] ∧
      taken.result = .ok (some .pingResp) ∧ taken.taken.length ≤ 8 ∧
      waiting.result = .ok none ∧ waiting.after.buffer.length ≤ max 5 7 ∧
      waiting.after.buffer = [48, 6, 0, 1, 97, 0, 0] := by
  intro reader calls
  obtain ⟨bounded, -⟩ := run_bounded reader calls
  let taken := reader.extend [208, 0, 48, 6, 0, 1, 97, 0, 0] |>.ask
  have answers : (run reader calls).1 = [taken, taken.after.ask] := rfl
  rw [answers, List.forall_mem_cons, List.forall_mem_singleton] at bounded
  obtain ⟨first, second⟩ := bounded
  obtain ⟨-, -, short⟩ := first.taken .pingResp rfl
  exact ⟨taken, taken.after.ask, answers, rfl, short, rfl, second.waiting rfl, rfl⟩

end FrameReader

end Mqtt
