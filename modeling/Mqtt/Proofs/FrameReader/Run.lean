import Mqtt.Proofs.FrameReader.Front
import Mqtt.Proofs.Packet.Faults

/-! # Runs of a reader

Bytes are added and packets are asked for in any order. A call either leaves the
reader as it was or takes one whole frame and answers as decoding the frame does
(`Mqtt.FrameReader.ask_steps`), so the bytes that a run adds are those of the
frames it takes and those it leaves. A reader that is drained has answered the
same however its bytes arrived, since a frame that was there stays where it is
when more bytes arrive.
-/

namespace Mqtt

namespace FrameReader

/-! ## Calls and answers -/

/-- A call on a reader. -/
inductive Call where
  | extend (bytes : Bytes)
  | next

/-- The bytes that calls add, in order. -/
def added (calls : List Call) : Bytes :=
  calls.flatMap fun
    | .extend bytes => bytes
    | .next => []

/-- An answer to a call for the next packet, with the reader before and after. -/
structure Answer where
  before : FrameReader
  result : Except PacketError (Option Packet)
  after : FrameReader
deriving DecidableEq

/-- Asks a reader for its next packet. -/
def ask (reader : FrameReader) : Answer :=
  ⟨reader, reader.next.1, reader.next.2⟩

namespace Answer

/-- The bytes at the front of the buffer that the call took. -/
def taken (answer : Answer) : Bytes :=
  answer.before.buffer.take (answer.before.buffer.length - answer.after.buffer.length)

/-- The call changed the buffer. -/
def consumed (answer : Answer) : Bool :=
  answer.after.buffer ≠ answer.before.buffer

/-- There is nothing to ask for until more bytes arrive: no packet yet, or an error
that left the buffer as it was. -/
def settled (answer : Answer) : Bool :=
  match answer.result with
  | .ok none => true
  | .ok (some _) => false
  | .error _ => !answer.consumed

end Answer

/-- The answers to the calls for a packet, and the reader after all calls. -/
def run : FrameReader → List Call → List Answer × FrameReader
  | reader, [] => ([], reader)
  | reader, .extend bytes :: calls => run (reader.extend bytes) calls
  | reader, .next :: calls =>
      let (answers, final) := run reader.ask.after calls
      (reader.ask :: answers, final)

/-! ## One call -/

/-- A whole frame that a reader with a greatest size takes. -/
def Accepts (maximumSize : Nat) (frame : Bytes) : Prop :=
  ∃ control digits body packetType, frame = control :: (digits ++ body) ∧
    IsFrame maximumSize control digits body packetType

/-- The remaining length of the first header in the buffer is malformed. -/
def LengthMalformed (reader : FrameReader) : Prop :=
  ∃ control lengthBytes fault, reader.buffer = control :: lengthBytes ∧
    VarInt.peek lengthBytes = .error fault

/-- What a call does: it waits, or it rejects a header, and leaves the reader as it
was; or it takes a frame and answers with its packet. -/
inductive Steps : Answer → Prop where
  | waits (reader : FrameReader) : Steps ⟨reader, .ok none, reader⟩
  | rejects {reader : FrameReader} {control : UInt8} {lengthBytes : Bytes} {error : PacketError}
      (shown : reader.buffer = control :: lengthBytes)
      (rejects : Rejects reader.maximumSize control lengthBytes error) :
      Steps ⟨reader, .error error, reader⟩
  | takes {reader : FrameReader} {frame rest : Bytes} (shown : reader.buffer = frame ++ rest)
      (accepts : Accepts reader.maximumSize frame) :
      Steps ⟨reader, (Packet.decode frame).map some, { reader with buffer := rest }⟩

/-- A frame is decoded as the body that its header announces. -/
theorem decode_eq_decodeBody {maximumSize : Nat} {control : UInt8} {digits body : Bytes}
    {packetType : PacketType} (isFrame : IsFrame maximumSize control digits body packetType) :
    Packet.decode (control :: (digits ++ body)) =
      Packet.decodeBody packetType (control &&& 15) body := by
  rw [Packet.decode, Packet.ofFrame_eq_ofBody isFrame.kind isFrame.spells, Packet.decodeBody]

/-- Every call of a reader waits, rejects a header or takes a frame. -/
theorem ask_steps (reader : FrameReader) : Steps reader.ask := by
  obtain ⟨buffer, maximumSize⟩ := reader
  have shows := shows_front maximumSize buffer
  simp only [ask, next]
  cases shown : front maximumSize buffer with
  | incomplete => exact .waits _
  | rejected error =>
      rw [shown] at shows
      cases shows with
      | rejected some rejects => exact .rejects rfl rejects
  | frame packetType flags body rest =>
      obtain ⟨control, digits, rfl, rfl, isFrame⟩ := front_eq_frame_iff.mp shown
      have shape : control :: (digits ++ (body ++ rest)) = control :: (digits ++ body) ++ rest := by
        simp only [List.cons_append, List.append_assoc]
      have accepts : Accepts maximumSize (control :: (digits ++ body)) :=
        ⟨control, digits, body, packetType, rfl, isFrame⟩
      have step := @Steps.takes ⟨_, maximumSize⟩ _ _ shape accepts
      rw [decode_eq_decodeBody isFrame] at step
      exact step

/-! ## What a call takes -/

/-- A frame that is taken fails for what is behind its header. -/
theorem decode_error_of_accepts {maximumSize : Nat} {frame : Bytes} {error : PacketError}
    (accepts : Accepts maximumSize frame) (failed : Packet.decode frame = .error error) :
    ∃ fault, error = .malformed fault ∧ fault.InBody := by
  obtain ⟨control, digits, body, packetType, rfl, isFrame⟩ := accepts
  rw [decode_eq_decodeBody isFrame, Packet.decodeBody] at failed
  have behind := @Packet.inBody_ofBody packetType (control &&& 15) body
  cases found : Packet.ofBody packetType (control &&& 15) body with
  | ok packet =>
      rw [found] at failed
      cases failed
  | error fault =>
      rw [found] at failed behind
      cases failed
      exact ⟨fault, rfl, Except.inBody_error.mp behind⟩

/-- A buffer that begins with a frame has a length that can be read. -/
theorem not_lengthMalformed_of_accepts {reader : FrameReader} {frame rest : Bytes}
    (shown : reader.buffer = frame ++ rest) (accepts : Accepts reader.maximumSize frame) :
    ¬ reader.LengthMalformed := by
  intro malformed
  obtain ⟨control, digits, body, packetType, rfl, isFrame⟩ := accepts
  obtain ⟨_, lengthBytes, fault, same, failed⟩ := malformed
  rw [shown] at same
  simp only [List.cons_append, List.append_assoc, List.cons.injEq] at same
  obtain ⟨-, rfl⟩ := same
  rw [isFrame.spells.peek_append] at failed
  cases failed

namespace Answer

variable {answer : Answer}

/-- The answers of a reader that takes nothing: no packet yet, a frame that is too
large, a packet of an unknown kind, or a remaining length that is malformed. The
last is told by the header, since the length of a property block in the body of a
frame can have the same fault. -/
def Refused (answer : Answer) : Prop :=
  answer.result = .ok none ∨
    (∃ size maximum, answer.result = .error (.tooLarge size maximum)) ∨
    (∃ code, answer.result = .error (.malformed (.packetTypeUnknown code))) ∨
    answer.before.LengthMalformed

/-- What holds of an answer: the bytes taken are the front of the buffer, they are
one frame, whose packet is the answer, if the buffer changed, and it does not
change when nothing may be taken. -/
structure Sound (answer : Answer) : Prop where
  maximumSize_eq : answer.after.maximumSize = answer.before.maximumSize
  buffer_eq : answer.before.buffer = answer.taken ++ answer.after.buffer
  takesFrame : answer.after.buffer ≠ answer.before.buffer →
    Accepts answer.before.maximumSize answer.taken ∧
      answer.result = (Packet.decode answer.taken).map some
  refused : answer.Refused → answer.after = answer.before

theorem sound_of_unchanged {reader : FrameReader} (result : Except PacketError (Option Packet)) :
    Sound ⟨reader, result, reader⟩ where
  maximumSize_eq := rfl
  buffer_eq := by simp [taken]
  takesFrame changed := (changed rfl).elim
  refused _ := rfl

/-- Whatever a call does, its answer is sound. -/
theorem sound_of_steps (steps : Steps answer) : answer.Sound := by
  cases steps with
  | waits reader => exact sound_of_unchanged _
  | rejects shown rejects => exact sound_of_unchanged _
  | @takes reader frame rest shown accepts =>
      have takenFrame : taken ⟨reader, (Packet.decode frame).map some,
          { reader with buffer := rest }⟩ = frame := by
        simp [taken, shown]
      refine ⟨rfl, by rw [takenFrame, shown], fun _ => ?_, fun refused => ?_⟩
      · rw [takenFrame]
        exact ⟨accepts, rfl⟩
      · exfalso
        rcases refused with waits | ⟨size, maximum, large⟩ | ⟨code, unknown⟩ | malformed
        · obtain ⟨packet, -, same⟩ := Except.map_eq_ok_iff.mp waits
          cases same
        · obtain ⟨_, same, -⟩ :=
            decode_error_of_accepts accepts (Except.map_eq_error_iff.mp large)
          cases same
        · obtain ⟨_, same, behind⟩ :=
            decode_error_of_accepts accepts (Except.map_eq_error_iff.mp unknown)
          cases same
          exact behind
        · exact not_lengthMalformed_of_accepts shown accepts malformed

end Answer

/-! ## What a run takes -/

@[simp] theorem added_nil : added [] = [] :=
  rfl

@[simp] theorem added_extend (bytes : Bytes) (calls : List Call) :
    added (.extend bytes :: calls) = bytes ++ added calls :=
  rfl

@[simp] theorem added_next (calls : List Call) : added (.next :: calls) = added calls :=
  rfl

/-- Every answer of a reader is sound. -/
theorem ask_sound (reader : FrameReader) : reader.ask.Sound :=
  Answer.sound_of_steps (ask_steps reader)

/-- Every answer of a run is one of a reader with the same limit. -/
theorem ask_of_mem_run (reader : FrameReader) (calls : List Call) :
    ∀ answer ∈ (run reader calls).1,
      answer.before.ask = answer ∧ answer.before.maximumSize = reader.maximumSize := by
  induction calls generalizing reader with
  | nil => exact fun _ member => (List.not_mem_nil member).elim
  | cons call calls ih =>
      cases call with
      | extend bytes => exact ih (reader.extend bytes)
      | next =>
          intro answer member
          rcases List.mem_cons.mp member with same | later
          · rw [same]
            exact ⟨rfl, rfl⟩
          · obtain ⟨asked, maximumSize⟩ := ih reader.ask.after answer later
            exact ⟨asked, maximumSize.trans (ask_sound reader).maximumSize_eq⟩

/-- A run does not change the limit. -/
theorem maximumSize_run (reader : FrameReader) (calls : List Call) :
    (run reader calls).2.maximumSize = reader.maximumSize := by
  induction calls generalizing reader with
  | nil => rfl
  | cons call calls ih =>
      cases call with
      | extend bytes => exact ih (reader.extend bytes)
      | next => exact (ih reader.ask.after).trans (ask_sound reader).maximumSize_eq

/-- Every answer in a run is sound, and the limit stays the same. -/
theorem run_sound (reader : FrameReader) (calls : List Call) :
    ∀ answer ∈ (run reader calls).1,
      answer.Sound ∧ answer.before.maximumSize = reader.maximumSize := by
  intro answer member
  obtain ⟨asked, maximumSize⟩ := ask_of_mem_run reader calls answer member
  refine ⟨?_, maximumSize⟩
  rw [← asked]
  exact ask_sound answer.before

/-- No byte is lost or invented in a run: what was there and was added is taken or left. -/
theorem buffer_append_added (reader : FrameReader) (calls : List Call) :
    reader.buffer ++ added calls =
      ((run reader calls).1.map Answer.taken).flatten ++ (run reader calls).2.buffer := by
  induction calls generalizing reader with
  | nil => simp [run]
  | cons call calls ih =>
      cases call with
      | extend bytes =>
          have later := ih (reader.extend bytes)
          simp only [extend, List.append_assoc] at later
          exact later
      | next =>
          have front := (ask_sound reader).buffer_eq
          have later := ih reader.ask.after
          change reader.buffer = _ at front
          rw [front, added_next, List.append_assoc, later]
          simp only [run, List.map_cons, List.flatten_cons, List.append_assoc]

/-- The bytes that a run adds are those of the frames that were taken and those that
are left, and each call takes one frame and answers with its packet, or nothing. -/
theorem run_conserves (reader : FrameReader) (calls : List Call) :
    reader.buffer ++ added calls =
        ((run reader calls).1.map Answer.taken).flatten ++ (run reader calls).2.buffer ∧
      ∀ answer ∈ (run reader calls).1,
        answer.before.buffer = answer.taken ++ answer.after.buffer ∧
          (answer.after.buffer ≠ answer.before.buffer →
            Accepts reader.maximumSize answer.taken ∧
              answer.result = (Packet.decode answer.taken).map some) ∧
          (answer.Refused → answer.after = answer.before) := by
  refine ⟨buffer_append_added reader calls, ?_⟩
  intro answer member
  obtain ⟨sound, maximumSize⟩ := run_sound reader calls answer member
  refine ⟨sound.buffer_eq, fun changed => ?_, sound.refused⟩
  rw [← maximumSize]
  exact sound.takesFrame changed

end FrameReader

end Mqtt
