import Mqtt.Wire.VarInt

/-! # Bytes put at the end of a buffer

A packet is written into a buffer one part after the other, and a step that fails takes
nothing back of what was put there before it. A writing appends an encoding if it puts
exactly its bytes at the end of whatever the buffer holds, and nothing where there is no
encoding (`Mqtt.Append.Appends`). Writings in a row do so only if none fails behind one
that put something (`Mqtt.Append.Appends.andThen`). A variable byte integer is appended
digit by digit (`Mqtt.VarInt.appends_encode`).
-/

namespace Mqtt

/-- Puts bytes at the end of a buffer. Those put before an error stay there. -/
abbrev Append := ExceptT PacketError (StateM Bytes)

namespace Append

variable {α : Type}

/-- How the writing ends, and the buffer that it leaves. -/
def onto (append : Append α) (buffer : Bytes) : Except PacketError α × Bytes :=
  append buffer

/-- Puts one byte. -/
def byte (value : UInt8) : Append Unit :=
  fun buffer => (.ok (), buffer ++ [value])

/-- A value that puts no bytes, or an error. -/
def ofExcept (result : Except PacketError α) : Append α :=
  fun buffer => (result, buffer)

/-- The writing puts the bytes of an encoding at the end of every buffer. Where there is no
encoding it ends with the error and leaves the buffer as it was. -/
def Appends (append : Append Unit) (encoding : Except PacketError Bytes) : Prop :=
  ∀ buffer, append.onto buffer =
    match encoding with
    | .ok bytes => (.ok (), buffer ++ bytes)
    | .error error => (.error error, buffer)

/-! ## Steps in a row -/

section Steps

variable {first : Append α} {next : α → Append Unit} {buffer left : Bytes}

/-- After a step that is done, the next one goes on with the buffer it left. -/
theorem onto_bind_of_ok {value : α} (done : first.onto buffer = (.ok value, left)) :
    (first >>= next).onto buffer = (next value).onto left := by
  simp only [onto, bind, ExceptT.bind, ExceptT.mk, StateT.bind] at done ⊢
  rw [done]
  rfl

/-- A step that fails ends the writing with the buffer it left. -/
theorem onto_bind_of_error {error : PacketError}
    (failed : first.onto buffer = (.error error, left)) :
    (first >>= next).onto buffer = (.error error, left) := by
  simp only [onto, bind, ExceptT.bind, ExceptT.mk, StateT.bind] at failed ⊢
  rw [failed]
  rfl

end Steps

theorem appends_pure : Appends (pure ()) (.ok []) := by
  intro buffer
  simp only [List.append_nil]
  rfl

theorem appends_byte (value : UInt8) : Appends (byte value) (.ok [value]) :=
  fun _ => rfl

theorem appends_throw (error : PacketError) : Appends (throw error) (.error error) :=
  fun _ => rfl

namespace Appends

variable {first second : Append Unit}

/-- A writing that cannot fail may stand behind another. -/
theorem andThen {bytes others : Bytes} (puts : Appends first (.ok bytes))
    (putsOthers : Appends second (.ok others)) :
    Appends (do first; second) (.ok (bytes ++ others)) := by
  intro buffer
  rw [onto_bind_of_ok (puts buffer), putsOthers (buffer ++ bytes)]
  simp only [List.append_assoc]

/-- One that does fail leaves what was put before it. -/
example (error : PacketError) :
    onto (do byte 1; throw error : Append Unit) [] = (.error error, [1]) :=
  rfl

/-- Where a check fails, nothing has been put yet. -/
theorem guarded {broken : Prop} [Decidable broken] {error : PacketError}
    {encoding : Except PacketError Bytes} (puts : ¬ broken → Appends first encoding) :
    Appends (do
        if broken then throw error
        first)
      (if broken then .error error else encoding) := by
  by_cases holds : broken
  · simp only [holds, ↓reduceIte]
    exact fun buffer => onto_bind_of_error (appends_throw error buffer)
  · simp only [holds, ↓reduceIte]
    exact puts holds

/-- A value is computed before anything that depends on it is put. -/
theorem ofExcept {result : Except PacketError α} {next : α → Append Unit}
    {encoding : α → Except PacketError Bytes}
    (puts : ∀ value, Appends (next value) (encoding value)) :
    Appends (Append.ofExcept result >>= next) (result >>= encoding) := by
  intro buffer
  cases result with
  | error error => exact onto_bind_of_error rfl
  | ok value => exact (onto_bind_of_ok rfl).trans (puts value buffer)

end Appends

end Append

/-! ## Variable byte integers -/

namespace VarInt

/-- Puts the first digits of an integer, each marked if a nonzero part follows. -/
def putDigits : Nat → Nat → Append Unit
  | 0, _ => pure ()
  | count + 1, value => do
      let digit := UInt8.ofNat (value % 128)
      Append.byte (if value / 128 > 0 then digit ||| 128 else digit)
      putDigits count (value / 128)

/-- Puts an integer, digit by digit. -/
def append (value : Nat) : Append Unit := do
  if value > maximumVarInt then throw (.invalid (.varIntTooLarge value))
  putDigits (size value) value

/-- Digits that are put one by one are appended in the same order. -/
theorem appends_digits (count value : Nat) :
    Append.Appends (putDigits count value) (.ok (digits count value)) := by
  induction count generalizing value with
  | zero => exact Append.appends_pure
  | succ count ih => exact (Append.appends_byte _).andThen (ih (value / 128))

/-- An integer that is out of range is refused before its first digit. -/
theorem appends_encode (value : Nat) : Append.Appends (append value) (encode value) :=
  .guarded fun _ => appends_digits (size value) value

end VarInt

end Mqtt
