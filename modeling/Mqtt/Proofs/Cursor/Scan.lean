import Mqtt.Proofs.Wire.Reader

/-! # Bytes under a cursor

A scan goes over bytes that stay where they are and moves a cursor. Its steps do not
ask whether they can be taken: one that reads, slices or moves past the end, or whose
number leaves its type, crashes the scan, and so does a loop that never ends. A scan
may also refuse the bytes with an error. A scan realizes a reader if it finds the
same value, moves the cursor over the bytes that the reader takes, refuses as
malformed what the reader finds a fault in, and never crashes
(`Mqtt.Scan.Realizes`). Scans that are put together realize readers that are put
together in the same way.
-/

namespace Mqtt

/-- Bytes and the place up to which they have been read. -/
structure Cursor where
  data : Bytes
  position : Nat := 0

/-- A cursor between the bytes that were read and those that are left. -/
def Cursor.between (before after : Bytes) : Cursor :=
  ⟨before ++ after, before.length⟩

/-- A step that cannot be taken. -/
inductive Crash where
  | readPastEnd
  | sliceOutOfRange
  | movedPastEnd
  | overflow
  | underflow
  | endless
deriving DecidableEq, Repr

/-- How a scan ends without a value. -/
inductive Stop where
  | refused (error : PacketError)
  | crashed (crash : Crash)
deriving DecidableEq, Repr

/-- A value that is found by moving a cursor. -/
abbrev Scan := StateT Cursor (Except Stop)

namespace Scan

variable {α β σ : Type}

/-! ## Steps -/

/-- Crashes. -/
def crash (crash : Crash) : Scan α :=
  throw (.crashed crash)

/-- Refuses the bytes because of a fault, with a kind of error. -/
def refuse (kind : Fault → PacketError) (fault : Fault) : Scan α :=
  throw (.refused (kind fault))

/-- The number of bytes behind the cursor. -/
def remaining : Scan Nat :=
  fun cursor => .ok (cursor.data.length - cursor.position, cursor)

/-- The place of the cursor. -/
def position : Scan Nat :=
  fun cursor => .ok (cursor.position, cursor)

/-- Reads the next bytes. -/
def take (count : Nat) : Scan Bytes := fun cursor =>
  if cursor.data.length - cursor.position < count then .error (.crashed .readPastEnd)
  else
    .ok ((cursor.data.drop cursor.position).take count,
      { cursor with position := cursor.position + count })

/-- Moves the cursor without reading. -/
def advance (count : Nat) : Scan Unit := fun cursor =>
  if cursor.data.length - cursor.position < count then .error (.crashed .movedPastEnd)
  else .ok ((), { cursor with position := cursor.position + count })

/-- The bytes from one place up to another, wherever the cursor is. -/
def slice (first last : Nat) : Scan Bytes := fun cursor =>
  if first ≤ last ∧ last ≤ cursor.data.length then
    .ok ((cursor.data.take last).drop first, cursor)
  else .error (.crashed .sliceOutOfRange)

/-- The bytes from one place on, wherever the cursor is. -/
def sliceFrom (first : Nat) : Scan Bytes :=
  fun cursor => slice first cursor.data.length cursor

/-- The sum of two numbers of 32 bits. -/
def add (first second : UInt32) : Scan UInt32 :=
  if first.toNat + second.toNat < UInt32.size then return first + second else crash .overflow

/-- The product of two numbers of 32 bits. -/
def multiply (first second : UInt32) : Scan UInt32 :=
  if first.toNat * second.toNat < UInt32.size then return first * second else crash .overflow

/-- The difference of two numbers of bytes. -/
def subtract (first second : Nat) : Scan Nat :=
  if second ≤ first then return first - second else crash .underflow

/-- The result of a computation that needs no bytes. A fault is refused with a kind of
error. -/
def ofExcept (kind : Fault → PacketError) : Except Fault α → Scan α
  | .ok value => return value
  | .error fault => refuse kind fault

/-- Scans, and refuses with another error what the scan refuses. -/
def instead (error : PacketError) (scan : Scan α) : Scan α := fun cursor =>
  match scan cursor with
  | .error (.refused _) => .error (.refused error)
  | outcome => outcome

/-- What a scan finds in some bytes from their first one on. -/
def run (scan : Scan α) (bytes : Bytes) : Except Stop α :=
  (scan { data := bytes }).map Prod.fst

/-- Scans other bytes from their first one on. The cursor stays where it is. -/
def inside (bytes : Bytes) (scan : Scan α) : Scan α :=
  fun cursor => (scan.run bytes).map fun value => (value, cursor)

/-- Rounds until one of them gives a result, at most a given number of them. -/
def rounds (round : σ → Scan (σ ⊕ α)) : Nat → σ → Scan α
  | 0, _ => crash .endless
  | bound + 1, state => do
      match ← round state with
      | .inl next => rounds round bound next
      | .inr result => return result

/-- Rounds until one of them gives a result. A round that reads nothing and gives no
result could go on for ever, so there are at most as many rounds as bytes, and one
more. -/
def loop (round : σ → Scan (σ ⊕ α)) (start : σ) : Scan α := do
  rounds round ((← remaining) + 1) start

/-! ## Steps between the bytes read and the bytes left -/

variable {before after : Bytes}

@[simp] theorem pure_apply (value : α) (cursor : Cursor) :
    (pure value : Scan α) cursor = .ok (value, cursor) :=
  rfl

theorem bind_of_ok {first : Scan α} {second : α → Scan β} {cursor next : Cursor} {value : α}
    (found : first cursor = .ok (value, next)) :
    (first >>= second) cursor = second value next := by
  change (first cursor >>= fun pair => second pair.1 pair.2) = second value next
  rw [found]
  rfl

theorem bind_of_error {first : Scan α} {second : α → Scan β} {cursor : Cursor} {stop : Stop}
    (stopped : first cursor = .error stop) : (first >>= second) cursor = .error stop := by
  change (first cursor >>= fun pair => second pair.1 pair.2) = .error stop
  rw [stopped]
  rfl

@[simp] theorem remaining_between :
    remaining (.between before after) = .ok (after.length, .between before after) := by
  simp only [remaining, Cursor.between, List.length_append, Nat.add_sub_cancel_left]

@[simp] theorem remaining_bind_between (second : Nat → Scan β) :
    (remaining >>= second) (.between before after) =
      second after.length (.between before after) :=
  bind_of_ok remaining_between

/-- Bytes that are left can be read. -/
@[simp] theorem take_between (front : Bytes) :
    take front.length (.between before (front ++ after)) =
      .ok (front, .between (before ++ front) after) := by
  simp only [take, Cursor.between, List.length_append, List.drop_left, List.take_left,
    List.append_assoc]
  rw [if_neg (by omega)]

/-- Bytes that are not left cannot be read. -/
example : (take 2).run [1] = .error (.crashed .readPastEnd) := rfl

/-- The cursor can be moved over bytes that are left. -/
@[simp] theorem advance_between (front : Bytes) :
    advance front.length (.between before (front ++ after)) =
      .ok ((), .between (before ++ front) after) := by
  simp only [advance, Cursor.between, List.length_append, List.append_assoc]
  rw [if_neg (by omega)]

/-- The bytes from the cursor on can be sliced as far as they go. -/
@[simp] theorem slice_between (front : Bytes) :
    slice before.length (before.length + front.length) (.between before (front ++ after)) =
      .ok (front, .between before (front ++ after)) := by
  have inRange : before.length ≤ before.length + front.length ∧
      before.length + front.length ≤ (before ++ (front ++ after)).length := by
    simp only [List.length_append]
    omega
  have cut : (before ++ (front ++ after)).take (before.length + front.length) =
      before ++ front := by
    rw [← List.append_assoc, ← List.length_append, List.take_left]
  simp only [slice, Cursor.between, inRange, and_self, ↓reduceIte, cut, List.drop_left]

/-- The bytes that are left can be sliced. -/
theorem sliceFrom_between :
    sliceFrom before.length (.between before after) = .ok (after, .between before after) := by
  have whole : slice before.length (before.length + after.length) (.between before (after ++ [])) =
      .ok (after, .between before (after ++ [])) := slice_between after
  rw [List.append_nil] at whole
  rw [sliceFrom, ← whole, ← List.length_append]
  rfl

/-! ## Realizing a reader -/

/-- What a scan does agrees with what a reader does with the bytes that are left. -/
inductive Agrees (before after : Bytes) :
    Except Fault (α × Bytes) → Except Stop (α × Cursor) → Prop
  | refused (fault : Fault) :
      Agrees before after (.error fault) (.error (.refused (.malformed fault)))
  | found (value : α) {front rest : Bytes} (split : after = front ++ rest) :
      Agrees before after (.ok (value, rest)) (.ok (value, .between (before ++ front) rest))

namespace Agrees

variable {outcome : Except Stop (α × Cursor)}

/-- A scan agrees with a fault when it refuses the bytes as malformed. -/
theorem error_iff {fault : Fault} :
    Agrees (α := α) before after (.error fault) outcome ↔
      outcome = .error (.refused (.malformed fault)) := by
  constructor
  · intro agrees
    cases agrees
    rfl
  · intro same
    subst same
    exact .refused fault

/-- A scan agrees with a value when it finds it and moves over the bytes that were taken. -/
theorem ok_iff {value : α} {rest : Bytes} :
    Agrees before after (.ok (value, rest)) outcome ↔
      ∃ front, after = front ++ rest ∧
        outcome = .ok (value, .between (before ++ front) rest) := by
  constructor
  · intro agrees
    cases agrees with
    | @found _ front _ split => exact ⟨front, split, rfl⟩
  · intro found
    obtain ⟨front, split, rfl⟩ := found
    exact .found value split

/-- What is done after some bytes were read is done with them among the bytes that
were left. -/
theorem behind {front rest : Bytes} {result : Except Fault (α × Bytes)}
    (agrees : Agrees (before ++ front) rest result outcome) :
    Agrees before (front ++ rest) result outcome := by
  cases agrees with
  | refused fault => exact .refused fault
  | @found value next rest split =>
      subst split
      apply ok_iff.mpr
      exact ⟨front ++ next, (List.append_assoc front next rest).symm, by rw [List.append_assoc]⟩

end Agrees

/-- Wherever the cursor is, the scan does what the reader does. -/
def Realizes (scan : Scan α) (reader : Reader α) : Prop :=
  ∀ before after, Agrees before after (reader after) (scan (.between before after))

namespace Realizes

variable {scan other : Scan α} {reader otherReader : Reader α}

theorem pure (value : α) : Realizes (Pure.pure value) (Pure.pure value) := by
  intro before after
  apply Agrees.ok_iff.mpr
  exact ⟨[], rfl, by rw [List.append_nil, pure_apply]⟩

/-- To refuse the bytes as malformed is to find a fault in them. -/
theorem refuse (fault : Fault) :
    Realizes (Scan.refuse .malformed fault : Scan α) (throw fault) :=
  fun _ _ => .refused fault

/-- A check refuses as malformed what it finds a fault in. -/
theorem ofExcept (result : Except Fault α) :
    Realizes (Scan.ofExcept .malformed result) (Reader.ofExcept result) := by
  cases result with
  | ok value => exact pure value
  | error fault => exact refuse fault

/-- A scan that realizes a reader stops where the reader finds a fault, and finds its
value behind the bytes that the reader takes. -/
theorem outcomes (realizes : Realizes scan reader) (before after : Bytes) :
    (∃ fault, reader after = .error fault ∧
      scan (.between before after) = .error (.refused (.malformed fault))) ∨
    ∃ value front rest, after = front ++ rest ∧ reader after = .ok (value, rest) ∧
      scan (.between before after) = .ok (value, .between (before ++ front) rest) := by
  have agrees := realizes before after
  cases outcome : reader after with
  | error fault =>
      rw [outcome, Agrees.error_iff] at agrees
      exact .inl ⟨fault, rfl, agrees⟩
  | ok pair =>
      rw [outcome, Agrees.ok_iff] at agrees
      obtain ⟨front, split, found⟩ := agrees
      exact .inr ⟨pair.1, front, pair.2, split, rfl, found⟩

/-- Scans in a row realize readers in a row. -/
theorem bind {next : α → Scan β} {nextReader : α → Reader β} (first : Realizes scan reader)
    (second : ∀ value, Realizes (next value) (nextReader value)) :
    Realizes (scan >>= next) (reader >>= nextReader) := by
  intro before after
  obtain ⟨fault, outcome, stopped⟩ | ⟨value, front, rest, rfl, outcome, found⟩ :=
    first.outcomes before after
  · rw [Reader.bind_of_error outcome, bind_of_error stopped]
    exact .refused fault
  · rw [Reader.bind_of_ok outcome, bind_of_ok found]
    exact (second value (before ++ front) rest).behind

/-- A change of the value keeps what a scan realizes. -/
theorem map (change : α → β) (realizes : Realizes scan reader) :
    Realizes (change <$> scan) (change <$> reader) :=
  realizes.bind fun value => pure (change value)

/-- A choice between scans realizes the choice between their readers. -/
theorem ite {condition : Prop} [Decidable condition] (holds : Realizes scan reader)
    (fails : Realizes other otherReader) :
    Realizes (if condition then scan else other) (if condition then reader else otherReader) := by
  split
  · exact holds
  · exact fails

/-- A scan and a reader that go on in one way where nothing is left and in another
where something is. -/
theorem ifNothingLeft (nothing : Realizes scan reader) (something : Realizes other otherReader) :
    Realizes (do if (← remaining) = 0 then scan else other)
      (do if (← Reader.remaining).isEmpty then reader else otherReader) := by
  intro before after
  have left : Reader.remaining after = .ok (after, after) := rfl
  rw [remaining_bind_between, Reader.bind_of_ok left]
  cases after with
  | nil => exact nothing before []
  | cons byte others => exact something before (byte :: others)

/-- An error that is put in the place of another is the fault that is put in the place
of another. -/
theorem instead {scan : Scan α} {reader : Reader α} (realizes : Realizes scan reader)
    {otherReader : Reader α} {fault : Fault}
    (same : ∀ bytes, otherReader bytes = (reader bytes).mapError fun _ => fault) :
    Realizes (Scan.instead (.malformed fault) scan) otherReader := by
  intro before after
  rw [same]
  obtain ⟨first, outcome, stopped⟩ | ⟨value, front, rest, split, outcome, found⟩ :=
    realizes.outcomes before after
  · simp only [Scan.instead, outcome, stopped]
    exact .refused fault
  · simp only [Scan.instead, outcome, found]
    exact .found value split

end Realizes

/-- How a scan that realizes a reader ends, after the result of the reader. -/
def ending (result : Except Fault α) : Except Stop α :=
  result.mapError fun fault => .refused (.malformed fault)

/-- A decoding and a scan end alike: with the same value, or because the bytes are
malformed. A scan that crashes, or that refuses the bytes with another kind of error,
ends like no decoding. -/
inductive EndsAs : Except PacketError α → Except Stop α → Prop
  | value (value : α) : EndsAs (.ok value) (.ok value)
  | malformed (fault : Fault) :
      EndsAs (.error (.malformed fault)) (.error (.refused (.malformed fault)))

/-- A scan that ends like a decoding ends with a value or as malformed. -/
theorem endsAs_ending (result : Except Fault α) :
    EndsAs (result.mapError .malformed) (ending result) := by
  cases result with
  | ok value => exact .value value
  | error fault => exact .malformed fault

/-- Scanning some bytes finds what the reader finds in them. -/
theorem Realizes.run_eq {scan : Scan α} {reader : Reader α} (realizes : Realizes scan reader)
    (bytes : Bytes) : scan.run bytes = ending ((reader bytes).map Prod.fst) := by
  have start : ({ data := bytes } : Cursor) = .between [] bytes := rfl
  obtain ⟨fault, outcome, stopped⟩ | ⟨value, front, rest, -, outcome, found⟩ :=
    realizes.outcomes [] bytes
  · rw [run, start, outcome, stopped]
    rfl
  · rw [run, start, outcome, found]
    rfl

/-- A scan that realizes a reader crashes on no bytes. -/
theorem Realizes.run_ne_crashed {scan : Scan α} {reader : Reader α}
    (realizes : scan.Realizes reader) (bytes : Bytes) (crash : Crash) :
    scan.run bytes ≠ .error (.crashed crash) := by
  rw [realizes.run_eq]
  cases (reader bytes).map Prod.fst <;> exact nofun

/-- A cursor of its own finds what the reader finds, or stops the scan as malformed. -/
theorem inside_apply {scan : Scan α} {reader : Reader α} (realizes : Realizes scan reader)
    (bytes : Bytes) (cursor : Cursor) :
    inside bytes scan cursor =
      Scan.ofExcept .malformed ((reader bytes).map Prod.fst) cursor := by
  rw [inside, realizes.run_eq]
  cases (reader bytes).map Prod.fst <;> rfl

/-! ## Rounds -/

section Rounds

variable {round : σ → Scan (σ ⊕ α)} {bound : Nat} {state : σ} {cursor next : Cursor}

theorem rounds_of_error {stop : Stop} (stopped : round state cursor = .error stop) :
    rounds round (bound + 1) state cursor = .error stop := by
  rw [rounds, bind_of_error stopped]

theorem rounds_of_next {other : σ} (found : round state cursor = .ok (.inl other, next)) :
    rounds round (bound + 1) state cursor = rounds round bound other next := by
  rw [rounds, bind_of_ok found]

theorem rounds_of_result {result : α} (found : round state cursor = .ok (.inr result, next)) :
    rounds round (bound + 1) state cursor = .ok (result, next) := by
  rw [rounds, bind_of_ok found]
  rfl

/-- A loop has a round for each byte that is left, and one more. -/
theorem loop_between (round : σ → Scan (σ ⊕ α)) (start : σ) :
    loop round start (.between before after) =
      rounds round (after.length + 1) start (.between before after) := by
  rw [loop, remaining_bind_between]

end Rounds

end Scan

end Mqtt
