import Mqtt.Proofs.FrameReader.Rejection

/-! # A stream of frames

A sender puts whole frames on a stream, some of which may have a body that is
malformed, and the bytes arrive in chunks. A reader that is drained after each
chunk gives one answer for each frame, in order, and has no bytes left
(`Mqtt.FrameReader.feed_stream`). It is enough to know how a reader is drained that
has all frames (`Mqtt.FrameReader.drain_stream`), since draining it on the way only
takes the first answers earlier (`Mqtt.FrameReader.drain_extend`).
-/

namespace Mqtt

namespace FrameReader

variable {reader : FrameReader} {maximumSize : Nat} {frame rest : Bytes} {frames : List Bytes}
  {content : Except PacketError Packet} {contents : List (Except PacketError Packet)}

/-- What a frame on a stream holds: a packet that was written as the frame, or the
error with which its body is refused. -/
inductive Carries : Bytes → Except PacketError Packet → Prop
  | packet {packet : Packet} {frame : Bytes} (held : packet.Held)
      (wrote : packet.encode = .ok frame) : Carries frame (.ok packet)
  | malformed {control : UInt8} {digits body : Bytes} {packetType : PacketType}
      {error : PacketError} (kind : PacketType.ofControlByte control = .ok packetType)
      (spells : VarInt.Spells digits body.length)
      (refused : Packet.decodeBody packetType (control &&& 15) body = .error error) :
      Carries (control :: (digits ++ body)) (.error error)

/-- A frame that is not too large is one that the reader takes, and what it holds is
what decoding it gives. -/
theorem Carries.accepts (carries : Carries frame content) (fits : frame.length ≤ maximumSize) :
    Accepts maximumSize frame ∧ Packet.decode frame = content := by
  cases carries with
  | packet held wrote =>
      have found := Packet.decode_of_encode held.wellFormed wrote
      obtain ⟨control, digits, body, packetType, rfl, kind, spells, -⟩ :=
        Packet.ofFrame_eq_ok_iff.mp (Packet.decode_eq_ok_iff.mp found)
      simp only [List.length_cons, List.length_append] at fits
      exact ⟨⟨control, digits, body, packetType, rfl, kind, spells, by omega⟩, found⟩
  | @malformed control digits body packetType error kind spells refused =>
      simp only [List.length_cons, List.length_append] at fits
      have isFrame : IsFrame maximumSize control digits body packetType :=
        ⟨kind, spells, by omega⟩
      rw [decode_eq_decodeBody isFrame]
      exact ⟨⟨control, digits, body, packetType, rfl, isFrame⟩, refused⟩

/-- The only error that a frame on a stream holds is that it is malformed. -/
theorem Carries.malformed_of_error {error : PacketError} (carries : Carries frame (.error error)) :
    ∃ fault, error = .malformed fault := by
  cases carries with
  | @malformed control digits body packetType _ kind spells refused =>
      cases found : Packet.ofBody packetType (control &&& 15) body with
      | ok packet =>
          rw [Packet.decodeBody, found] at refused
          cases refused
      | error fault =>
          rw [Packet.decodeBody, found] at refused
          cases refused
          exact ⟨fault, rfl⟩

/-- Whatever a stream carries that is no packet is malformed. -/
theorem malformed_of_mem (carries : List.Forall₂ Carries frames contents) :
    ∀ error, .error error ∈ contents → ∃ fault, error = .malformed fault := by
  induction carries with
  | nil => exact fun _ member => (List.not_mem_nil member).elim
  | cons carries _ ih =>
      intro error member
      rcases List.mem_cons.mp member with rfl | later
      · exact carries.malformed_of_error
      · exact ih error later

/-! ## All frames at once -/

/-- A reader that has nothing but whole frames answers with what each of them holds,
and then waits with nothing left. -/
theorem drain_stream (carries : List.Forall₂ Carries frames contents)
    (fits : ∀ frame ∈ frames, frame.length ≤ reader.maximumSize)
    (shown : reader.buffer = frames.flatten) :
    reader.drain.1.map Answer.result = contents.map (Except.map some) ∧
      reader.drain.2.result = .ok none ∧ reader.drain.2.after.buffer = [] := by
  induction carries generalizing reader with
  | nil =>
      have waits : reader.ask = ⟨reader, .ok none, reader⟩ := by
        simp only [List.flatten_nil] at shown
        simp only [ask, next, shown, front]
      have settled : reader.ask.settled = true := by rw [waits]; rfl
      rw [drain_of_settled settled, waits]
      exact ⟨rfl, rfl, shown⟩
  | @cons frame content frames contents carries _ ih =>
      simp only [List.mem_cons, forall_eq_or_imp] at fits
      obtain ⟨accepts, found⟩ := carries.accepts fits.1
      rw [List.flatten_cons] at shown
      have step := ask_of_accepts shown accepts
      obtain ⟨results, waits, nothing⟩ := @ih { reader with buffer := frames.flatten } fits.2 rfl
      rw [drain_of_unsettled (not_settled_of_accepts shown accepts), step, found]
      exact ⟨by rw [List.map_cons, List.map_cons, results], waits, nothing⟩

/-! ## Frames in chunks -/

/-- Adds chunks one after another and drains the reader after each. -/
def feed : FrameReader → List Bytes → List (List Answer × Answer) × FrameReader
  | reader, [] => ([], reader)
  | reader, chunk :: chunks =>
      let drained := (reader.extend chunk).drain
      let (others, final) := feed drained.2.after chunks
      (drained :: others, final)

/-- The answers to all calls but the last after each chunk. -/
def fedResults (fed : List (List Answer × Answer)) : List (Except PacketError (Option Packet)) :=
  fed.flatMap fun drained => drained.1.map Answer.result

/-- A reader that is drained before more bytes arrive answers as one that is drained
afterwards. -/
theorem drain_extend (reader : FrameReader) (more : Bytes) :
    (reader.extend more).drain.1.map Answer.result =
        reader.drain.1.map Answer.result ++
          (reader.drain.2.after.extend more).drain.1.map Answer.result ∧
      (reader.extend more).drain.2 = (reader.drain.2.after.extend more).drain.2 := by
  induction reader using drain.induct with
  | case1 reader settled =>
      rw [drain_of_settled settled, (ask_settled settled).1]
      exact ⟨rfl, rfl⟩
  | case2 reader unsettled _ _ _ ih =>
      obtain ⟨results, last⟩ := ih
      rw [drain_of_unsettled unsettled, drain_of_unsettled (settled_ask_extend unsettled more),
        ask_extend unsettled more, last]
      refine ⟨?_, rfl⟩
      rw [List.map_cons, List.map_cons, results, List.cons_append]

/-- A reader that has rejected a header is not one that waits when more bytes have
arrived. -/
theorem waits_of_extend_waits {more : Bytes}
    (waits : (reader.extend more).drain.2.result = .ok none) :
    reader.drain.2.result = .ok none := by
  obtain ⟨settled, same⟩ := drain_settles reader
  rw [(drain_extend reader more).2] at waits
  rw [same] at settled ⊢
  rcases waits_or_rejected settled with waitsNow | ⟨error, shown⟩
  · exact waitsNow
  · have rejects := ask_extend_of_rejected shown more
    have settles := settled_of_error (congrArg Answer.result rejects) (congrArg Answer.after rejects)
    rw [drain_of_settled settles, rejects] at waits
    cases waits

/-- A reader that is drained after each chunk answers as one that gets the chunks in
one piece, and waits after each if that one waits in the end. -/
theorem feed_eq_drain (settled : reader.ask.settled = true) (chunks : List Bytes) :
    fedResults (feed reader chunks).1 =
        (reader.extend chunks.flatten).drain.1.map Answer.result ∧
      (feed reader chunks).2 = (reader.extend chunks.flatten).drain.2.after ∧
      ((reader.extend chunks.flatten).drain.2.result = .ok none →
        ∀ drained ∈ (feed reader chunks).1, drained.2.result = .ok none) := by
  induction chunks generalizing reader with
  | nil =>
      have same : reader.extend [].flatten = reader := by simp [extend]
      rw [same, drain_of_settled settled]
      exact ⟨rfl, (ask_settled settled).1.symm, fun _ _ member => (List.not_mem_nil member).elim⟩
  | cons chunk chunks ih =>
      have same : reader.extend (chunk :: chunks).flatten =
          (reader.extend chunk).extend chunks.flatten := by
        simp only [extend, List.flatten_cons, List.append_assoc]
      obtain ⟨drainSettled, drainSame⟩ := drain_settles (reader.extend chunk)
      rw [drainSame] at drainSettled
      obtain ⟨results, final, waits⟩ := ih drainSettled
      obtain ⟨allResults, last⟩ := drain_extend (reader.extend chunk) chunks.flatten
      rw [same, allResults, last]
      refine ⟨?_, final, ?_⟩
      · rw [← results]
        simp only [feed, fedResults, List.flatMap_cons]
      · intro waitsAtLast drained member
        rcases List.mem_cons.mp member with rfl | later
        · rw [← last] at waitsAtLast
          exact waits_of_extend_waits waitsAtLast
        · exact waits waitsAtLast drained later

/-- However a stream of frames is cut into chunks, a reader that is asked for packets
after each chunk until it waits gives one answer for each frame, in order: the packet
that was written as the frame, or the error of a malformed body. It has no bytes
left. -/
theorem feed_stream (carries : List.Forall₂ Carries frames contents)
    (fits : ∀ frame ∈ frames, frame.length ≤ maximumSize) {chunks : List Bytes}
    (cut : chunks.flatten = frames.flatten) :
    fedResults (feed { maximumSize } chunks).1 = contents.map (Except.map some) ∧
      (∀ error, .error error ∈ contents → ∃ fault, error = .malformed fault) ∧
      (∀ drained ∈ (feed { maximumSize } chunks).1, drained.2.result = .ok none) ∧
      (feed { maximumSize } chunks).2.buffer = [] := by
  have settled : ({ maximumSize } : FrameReader).ask.settled = true := rfl
  obtain ⟨results, final, waits⟩ := feed_eq_drain settled chunks
  have shown : (({ maximumSize } : FrameReader).extend chunks.flatten).buffer = frames.flatten := by
    rw [cut, extend, List.nil_append]
  obtain ⟨allResults, waitsAtLast, nothing⟩ := drain_stream carries fits shown
  refine ⟨results.trans allResults, malformed_of_mem carries, waits waitsAtLast, ?_⟩
  rw [final]
  exact nothing

/-- A malformed frame between two packets, in pieces of other lengths, stops neither of
them. -/
theorem feed_stream_resumes :
    let frames : List Bytes := [[64, 2, 0, 5], [64, 2, 0, 0], [208, 0]]
    let contents : List (Except PacketError Packet) :=
      [.ok (.ack .pubAck { packetId := 5 }), .error (.malformed .packetIdZero), .ok .pingResp]
    let chunks : List Bytes := [[64], [2, 0], [5, 64, 2, 0], [0, 208], [0]]
    List.Forall₂ Carries frames contents ∧ (∀ frame ∈ frames, frame.length ≤ 4) ∧
      chunks.flatten = frames.flatten ∧
      fedResults (feed { maximumSize := 4 } chunks).1 = contents.map (Except.map some) ∧
      (∀ error, .error error ∈ contents → ∃ fault, error = .malformed fault) ∧
      (∀ drained ∈ (feed { maximumSize := 4 } chunks).1, drained.2.result = .ok none) ∧
      (feed { maximumSize := 4 } chunks).2.buffer = [] := by
  intro frames contents chunks
  have carries : List.Forall₂ Carries frames contents := by
    refine .cons ?_ (.cons ?_ (.cons ?_ .nil))
    · exact .packet (.made (.built (Packet.build_eq_ok_iff.mpr ⟨rfl, rfl⟩))) rfl
    · exact @Carries.malformed 64 [2] [0, 0] .pubAck _ rfl ⟨.last rfl, by decide, rfl⟩ rfl
    · exact .packet (.made (.built (Packet.build_eq_ok_iff.mpr ⟨rfl, rfl⟩))) rfl
  have fits : ∀ frame ∈ frames, frame.length ≤ 4 := by decide
  have cut : chunks.flatten = frames.flatten := rfl
  exact ⟨carries, fits, cut, feed_stream carries fits cut⟩

end FrameReader

end Mqtt
