import Mqtt.Fault
import Mqtt.Wire.Bytes

/-! # Readers

A reader takes a value from the front of some bytes and leaves the rest, or
finds a fault. Readers run one after the other in `do` blocks.
-/

namespace Mqtt

/-- Takes a value from the front of the bytes that are left. -/
abbrev Reader := StateT Bytes (Except Fault)

namespace Reader

variable {α β : Type}

/-- The bytes that are left. -/
def remaining : Reader Bytes :=
  fun bytes => .ok (bytes, bytes)

/-- A value that needs no bytes, or a fault. -/
def ofExcept (result : Except Fault α) : Reader α :=
  fun bytes => result.map fun value => (value, bytes)

/-- One byte, or a given fault where there is none. -/
def byteOr (missing : Fault) : Reader UInt8
  | [] => .error missing
  | byte :: rest => .ok (byte, rest)

/-- One byte. -/
def byte : Reader UInt8 :=
  byteOr .byteMissing

/-- An integer of two bytes, or a given fault where there are fewer. -/
def twoBytesOr (missing : Fault) : Reader UInt16
  | high :: low :: rest => .ok (Bytes.toUInt16 high low, rest)
  | _ => .error missing

/-- An integer of two bytes. -/
def twoBytes : Reader UInt16 :=
  twoBytesOr .twoBytesMissing

/-- An integer of four bytes. -/
def fourBytes : Reader UInt32
  | first :: second :: third :: fourth :: rest =>
      .ok (Bytes.toUInt32 first second third fourth, rest)
  | _ => .error .fourBytesMissing

/-- A given number of bytes, or the fault for a given number of bytes left. -/
def exactly (count : Nat) (missing : Nat → Fault) : Reader Bytes := fun bytes =>
  match Bytes.splitExact? count bytes with
  | some split => .ok split
  | none => .error (missing bytes.length)

/-- Everything that is left. -/
def rest : Reader Bytes :=
  fun bytes => .ok (bytes, [])

/-- A text after its length in two bytes. -/
def text : Reader String := do
  let length ← twoBytesOr .textLengthMissing
  let bytes ← exactly length.toNat (.textMissing length.toNat)
  match Bytes.toText? bytes with
  | some text => return text
  | none => throw .textNotUnicode

/-- Bytes after their number in two bytes. -/
def binary : Reader Bytes := do
  let length ← twoBytesOr .binaryLengthMissing
  exactly length.toNat (.binaryMissing length.toNat)

/-- A packet identifier, which is never zero. -/
def packetId : Reader UInt16 := do
  let packetId ← twoBytesOr .packetIdMissing
  if packetId = 0 then throw .packetIdZero
  return packetId

/-- Items until nothing is left, at most a given number of them, after the
items already read, the latest of which comes first. -/
def itemsWithin (item : Reader α) : Nat → List α → Bytes → Except Fault (List α)
  | 0, read, _ => .ok read.reverse
  | _ + 1, read, [] => .ok read.reverse
  | bound + 1, read, bytes =>
      match item bytes with
      | .error fault => .error fault
      | .ok (value, rest) => itemsWithin item bound (value :: read) rest

/-- Items until nothing is left. An item takes at least one byte, so there are
no more items than bytes. -/
def items (item : Reader α) : Reader (List α) := fun bytes =>
  (itemsWithin item bytes.length [] bytes).map fun values => (values, [])

/-- A value inside a stretch of bytes that starts what is left. -/
def within (count : Nat) (missing : Nat → Fault) (inner : Reader α) : Reader α := do
  let bytes ← exactly count missing
  ofExcept ((inner bytes).map Prod.fst)

/-! ## One reader after another -/

/-- A reader that finds a value hands the bytes it leaves to the next one. -/
theorem bind_of_ok {first : Reader α} {second : α → Reader β} {bytes rest : Bytes} {value : α}
    (found : first bytes = .ok (value, rest)) : (first >>= second) bytes = second value rest := by
  change (first bytes >>= fun pair => second pair.1 pair.2) = second value rest
  rw [found]
  rfl

/-- A reader that finds a fault ends the reading. -/
theorem bind_of_error {first : Reader α} {second : α → Reader β} {bytes : Bytes}
    {fault : Fault}
    (found : first bytes = .error fault) : (first >>= second) bytes = .error fault := by
  change (first bytes >>= fun pair => second pair.1 pair.2) = .error fault
  rw [found]
  rfl

/-- Two readers in a row find a value when the first finds one and the second
finds it in the bytes that are left. -/
theorem bind_eq_ok_iff {first : Reader α} {second : α → Reader β} {bytes : Bytes}
    {result : β × Bytes} :
    (first >>= second) bytes = .ok result ↔
      ∃ value rest, first bytes = .ok (value, rest) ∧ second value rest = .ok result := by
  cases found : first bytes with
  | error fault => simp [bind_of_error found]
  | ok pair =>
      rw [bind_of_ok found]
      constructor
      · exact fun next => ⟨pair.1, pair.2, rfl, next⟩
      · rintro ⟨value, rest, same, next⟩
        cases same
        exact next

/-! ## Items -/

/-- A reader that takes at least one byte whenever it finds a value. -/
def Consumes (reader : Reader α) : Prop :=
  ∀ ⦃bytes value rest⦄, reader bytes = .ok (value, rest) → rest.length < bytes.length

/-- One more item in front of the others uses up one round of the bound. -/
theorem itemsWithin_of_ok {item : Reader α} {bound : Nat} {read : List α} {byte : UInt8}
    {others rest : Bytes} {value : α} (found : item (byte :: others) = .ok (value, rest)) :
    itemsWithin item (bound + 1) read (byte :: others) =
      itemsWithin item bound (value :: read) rest := by
  simp only [itemsWithin, found]

/-- A fault in one item ends the list with that fault. -/
theorem itemsWithin_of_error {item : Reader α} {bound : Nat} {read : List α} {byte : UInt8}
    {others : Bytes} {fault : Fault} (found : item (byte :: others) = .error fault) :
    itemsWithin item (bound + 1) read (byte :: others) = .error fault := by
  simp only [itemsWithin, found]

/-- Items already read only come in front of those still to be read, and a bound
above the number of bytes makes no difference. -/
theorem itemsWithin_eq {item : Reader α} (consumes : item.Consumes) :
    ∀ (bound : Nat) (read : List α) (bytes : Bytes), bytes.length ≤ bound →
      itemsWithin item bound read bytes =
        (itemsWithin item bytes.length [] bytes).map (read.reverse ++ ·) := by
  intro bound
  induction bound using Nat.strongRecOn with
  | ind bound ih =>
      intro read bytes enough
      cases bytes with
      | nil => cases bound <;> simp [itemsWithin, Except.map]
      | cons byte others =>
          cases bound with
          | zero => exact absurd enough (Nat.not_succ_le_zero _)
          | succ bound =>
              cases found : item (byte :: others) with
              | error fault =>
                  rw [itemsWithin_of_error found, List.length_cons, itemsWithin_of_error found]
                  rfl
              | ok pair =>
                  obtain ⟨value, rest⟩ := pair
                  have shorter := consumes found
                  simp only [List.length_cons] at shorter enough
                  rw [itemsWithin_of_ok found, List.length_cons, itemsWithin_of_ok found,
                    ih bound (Nat.lt_succ_self _) (value :: read) rest (by omega),
                    ih others.length (by omega) [value] rest (by omega)]
                  cases itemsWithin item rest.length [] rest with
                  | error fault => rfl
                  | ok values => simp [Except.map]

theorem items_nil (item : Reader α) : items item [] = .ok ([], []) :=
  rfl

/-- Items are read one after the other. -/
theorem items_of_ok {item : Reader α} (consumes : item.Consumes) {bytes rest : Bytes} {value : α}
    (found : item bytes = .ok (value, rest)) :
    items item bytes = (items item rest).map fun (values, left) => (value :: values, left) := by
  have shorter := consumes found
  cases bytes with
  | nil => exact absurd shorter (Nat.not_lt_zero _)
  | cons byte others =>
      simp only [List.length_cons] at shorter
      rw [items, List.length_cons, itemsWithin_of_ok found, items,
        itemsWithin_eq consumes others.length [value] rest (by omega)]
      cases itemsWithin item rest.length [] rest with
      | error fault => rfl
      | ok values => rfl

/-- The first fault in an item ends the reading. -/
theorem items_of_error {item : Reader α} {bytes : Bytes} {fault : Fault} (some : bytes ≠ [])
    (found : item bytes = .error fault) : items item bytes = .error fault := by
  cases bytes with
  | nil => exact absurd rfl some
  | cons byte others =>
      rw [items, List.length_cons, itemsWithin_of_error found]
      rfl

end Reader

end Mqtt
