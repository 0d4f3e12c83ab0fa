import Mqtt.Proofs.FrameReader.Run

/-! # A reader that is drained

A caller asks for packets until there is nothing to ask for
(`Mqtt.FrameReader.drain`). A frame that was there is answered in the same way
after more bytes have arrived (`Mqtt.FrameReader.ask_extend`), so it makes no
difference in which pieces the bytes arrive and when packets are asked for
(`Mqtt.FrameReader.drain_run`). A reader with nothing to ask for waits or has
rejected a header (`Mqtt.FrameReader.waits_or_rejected`).
-/

namespace Mqtt

namespace FrameReader

variable {reader : FrameReader} {answer : Answer} {frame rest : Bytes}

/-! ## Calls that settle a reader -/

/-- A call leaves the reader as it was, or the buffer is shorter after it. -/
theorem Steps.settled_or_shorter (steps : Steps answer) :
    answer.settled = true ∧ answer.after = answer.before ∨
      answer.settled = false ∧
        answer.after.buffer.length < answer.before.buffer.length := by
  cases steps with
  | waits reader => exact .inl ⟨rfl, rfl⟩
  | rejects shown rejects => exact .inl ⟨by simp [Answer.settled, Answer.consumed], rfl⟩
  | @takes reader frame rest shown accepts =>
      obtain ⟨control, digits, body, packetType, rfl, isFrame⟩ := accepts
      have shorter : rest.length < reader.buffer.length := by
        rw [shown, List.length_append, List.length_cons]
        omega
      refine .inr ⟨?_, shorter⟩
      have changed : rest ≠ reader.buffer := fun same => Nat.lt_irrefl _ (same ▸ shorter)
      cases Packet.decode (control :: (digits ++ body)) with
      | ok packet => rfl
      | error error => simp [Answer.settled, Answer.consumed, Except.map, changed]

/-- A reader that is settled is not changed by a call. -/
theorem ask_settled (settled : reader.ask.settled = true) :
    reader.ask.after = reader ∧ reader.ask.consumed = false := by
  rcases (ask_steps reader).settled_or_shorter with ⟨-, same⟩ | ⟨unsettled, -⟩
  · refine ⟨same, ?_⟩
    simp only [Answer.consumed, same, ne_eq, not_true_eq_false, decide_false]
  · rw [settled] at unsettled
    cases unsettled

/-- A reader that is not settled gives up bytes in a call. -/
theorem ask_unsettled (unsettled : ¬ reader.ask.settled = true) :
    reader.ask.after.buffer.length < reader.buffer.length ∧ reader.ask.consumed = true := by
  rcases (ask_steps reader).settled_or_shorter with ⟨settled, -⟩ | ⟨-, shorter⟩
  · exact (unsettled settled).elim
  · have changed : reader.ask.after.buffer ≠ reader.ask.before.buffer := fun same =>
      Nat.lt_irrefl _ (same ▸ shorter)
    exact ⟨shorter, by simp only [Answer.consumed, changed, ne_eq, not_false_eq_true, decide_true]⟩

/-- An error that leaves the reader as it was settles it. -/
theorem settled_of_error {error : PacketError} (answered : reader.ask.result = .error error)
    (same : reader.ask.after = reader) : reader.ask.settled = true := by
  have kept : reader.ask.after.buffer = reader.ask.before.buffer := congrArg buffer same
  simp only [Answer.settled, answered, Answer.consumed, kept, ne_eq, not_true_eq_false,
    decide_false, Bool.not_false]

/-- A frame that was there is taken in the same way when more bytes have arrived. -/
theorem ask_extend (took : ¬ reader.ask.settled = true) (more : Bytes) :
    (reader.extend more).ask =
      ⟨reader.extend more, reader.ask.result, reader.ask.after.extend more⟩ := by
  cases shown : front reader.maximumSize reader.buffer with
  | incomplete => simp [ask, next, shown, Answer.settled] at took
  | rejected error => simp [ask, next, shown, Answer.settled, Answer.consumed] at took
  | frame packetType flags body rest =>
      have stays := front_append_of_frame shown more
      simp only [ask, next, extend, shown, stays]

/-- A call that takes bytes shows that the reader was not settled. -/
theorem not_settled_of_shorter (shorter : reader.ask.after.buffer.length < reader.buffer.length) :
    ¬ reader.ask.settled = true := by
  intro settled
  rw [(ask_settled settled).1] at shorter
  exact Nat.lt_irrefl _ shorter

/-- Bytes that are added do not settle a reader. -/
theorem settled_ask_extend (unsettled : ¬ reader.ask.settled = true) (more : Bytes) :
    ¬ (reader.extend more).ask.settled = true := by
  have shorter := (ask_unsettled unsettled).1
  apply not_settled_of_shorter
  rw [ask_extend unsettled]
  simp only [extend, List.length_append]
  omega

/-- A reader that has a whole frame takes it. -/
theorem ask_of_accepts (shown : reader.buffer = frame ++ rest)
    (accepts : Accepts reader.maximumSize frame) :
    reader.ask =
      ⟨reader, (Packet.decode frame).map some, { reader with buffer := rest }⟩ := by
  obtain ⟨control, digits, body, packetType, rfl, isFrame⟩ := accepts
  have front := front_eq_frame isFrame rest
  rw [decode_eq_decodeBody isFrame]
  simp only [List.cons_append, List.append_assoc] at shown
  simp only [ask, next, shown, front]

/-- A call that takes a frame does not settle the reader. -/
theorem not_settled_of_accepts (shown : reader.buffer = frame ++ rest)
    (accepts : Accepts reader.maximumSize frame) : ¬ reader.ask.settled = true := by
  apply not_settled_of_shorter
  rw [ask_of_accepts shown accepts, shown]
  obtain ⟨control, digits, body, packetType, rfl, isFrame⟩ := accepts
  simp only [List.length_append, List.length_cons]
  omega

/-- A reader with nothing to ask for waits, unless it has rejected a header. -/
theorem waits_or_rejected (settled : reader.ask.settled = true) :
    reader.ask.result = .ok none ∨
      ∃ error, front reader.maximumSize reader.buffer = .rejected error := by
  cases shown : front reader.maximumSize reader.buffer with
  | incomplete =>
      left
      simp only [ask, next, shown]
  | rejected error => exact .inr ⟨error, rfl⟩
  | frame packetType flags body rest =>
      obtain ⟨control, digits, same, -, isFrame⟩ := front_eq_frame_iff.mp shown
      have whole : reader.buffer = control :: (digits ++ body) ++ rest := by
        rw [same, List.cons_append, List.append_assoc]
      have accepts : Accepts reader.maximumSize (control :: (digits ++ body)) :=
        ⟨control, digits, body, packetType, rfl, isFrame⟩
      exact (not_settled_of_accepts whole accepts settled).elim

/-! ## Draining -/

/-- Asks for packets until there is nothing to ask for. The last answer stands
apart. -/
def drain (reader : FrameReader) : List Answer × Answer :=
  if reader.ask.settled then ([], reader.ask)
  else
    let (answers, last) := drain reader.ask.after
    (reader.ask :: answers, last)
termination_by reader.buffer.length
decreasing_by exact (ask_unsettled ‹_›).1

theorem drain_of_settled (settled : reader.ask.settled = true) :
    reader.drain = ([], reader.ask) := by
  rw [drain, if_pos settled]

/-- Draining any other reader is a call and draining what is left. -/
theorem drain_of_unsettled (unsettled : ¬ reader.ask.settled = true) :
    reader.drain = (reader.ask :: reader.ask.after.drain.1, reader.ask.after.drain.2) := by
  rw [drain, if_neg unsettled]

/-- A drained reader stays as it is when it is asked once more. -/
theorem drain_settles (reader : FrameReader) :
    reader.drain.2.settled = true ∧ reader.drain.2 = reader.drain.2.after.ask := by
  induction reader using drain.induct with
  | case1 reader settled =>
      rw [drain_of_settled settled]
      exact ⟨settled, by rw [(ask_settled settled).1]⟩
  | case2 reader unsettled _ _ _ ih =>
      rw [drain_of_unsettled unsettled]
      exact ih

/-- Draining never changes the limit. -/
theorem maximumSize_drain (reader : FrameReader) :
    reader.drain.2.after.maximumSize = reader.maximumSize := by
  induction reader using drain.induct with
  | case1 reader settled =>
      rw [drain_of_settled settled]
      exact (ask_sound reader).maximumSize_eq
  | case2 reader unsettled _ _ _ ih =>
      rw [drain_of_unsettled unsettled]
      exact ih.trans (ask_sound reader).maximumSize_eq

/-- The answers to the calls that took bytes, in order. -/
def consumedResults (answers : List Answer) : List (Except PacketError (Option Packet)) :=
  (answers.filter Answer.consumed).map Answer.result

theorem consumedResults_cons_of_consumed {answers : List Answer} (took : answer.consumed = true) :
    consumedResults (answer :: answers) = answer.result :: consumedResults answers := by
  rw [consumedResults, List.filter_cons_of_pos took, List.map_cons, consumedResults]

theorem consumedResults_cons_of_not_consumed {answers : List Answer}
    (left : answer.consumed = false) :
    consumedResults (answer :: answers) = consumedResults answers := by
  rw [consumedResults, List.filter_cons_of_neg (by simp [left]), consumedResults]

/-- However bytes arrive and whenever packets are asked for, a reader that is then
drained has answered as one that gets the bytes in one piece, and is left with
the same answer and the same bytes. -/
theorem drain_run (reader : FrameReader) (calls : List Call) :
    consumedResults ((run reader calls).1 ++ (run reader calls).2.drain.1) =
        consumedResults (reader.extend (added calls)).drain.1 ∧
      (run reader calls).2.drain.2 = (reader.extend (added calls)).drain.2 := by
  induction calls generalizing reader with
  | nil =>
      have same : reader.extend (added []) = reader := by simp [extend]
      rw [same]
      exact ⟨rfl, rfl⟩
  | cons call calls ih =>
      cases call with
      | extend bytes =>
          have same : reader.extend (added (.extend bytes :: calls)) =
              (reader.extend bytes).extend (added calls) := by
            simp [extend, List.append_assoc]
          rw [same]
          exact ih (reader.extend bytes)
      | next =>
          obtain ⟨results, last⟩ := ih reader.ask.after
          simp only [run, List.cons_append, added_next]
          by_cases settled : reader.ask.settled = true
          · obtain ⟨same, left⟩ := ask_settled settled
            rw [same] at results last ⊢
            rw [consumedResults_cons_of_not_consumed left]
            exact ⟨results, last⟩
          · -- The frame is the first of the whole stream too, and the rest of the
            -- stream is what the other calls add behind the bytes that are left.
            have whole := settled_ask_extend settled (added calls)
            have took := (ask_unsettled whole).2
            rw [consumedResults_cons_of_consumed (ask_unsettled settled).2, results, last,
              drain_of_unsettled whole, consumedResults_cons_of_consumed took,
              ask_extend settled (added calls)]
            exact ⟨rfl, rfl⟩

end FrameReader

end Mqtt
