/-! # Byte strings

Bytes as they travel, fixed-width integers with the high byte first, and the
bytes of a text.
-/

namespace Mqtt

/-- Bytes as they travel. -/
abbrev Bytes := List UInt8

namespace Bytes

/-- The first bytes and the rest, if there are that many. -/
def splitExact? (count : Nat) (bytes : Bytes) : Option (Bytes × Bytes) :=
  let (front, rest) := bytes.splitAt count
  if front.length = count then some (front, rest) else none

/-- Exactly the strings that begin with the wanted number of bytes are split. -/
theorem splitExact?_eq_some_iff {count : Nat} {bytes front rest : Bytes} :
    splitExact? count bytes = some (front, rest) ↔
      bytes = front ++ rest ∧ front.length = count := by
  simp only [splitExact?, List.splitAt_eq, Option.ite_none_right_eq_some, Option.some.injEq,
    Prod.mk.injEq]
  constructor
  · rintro ⟨enough, rfl, rfl⟩
    exact ⟨(List.take_append_drop count bytes).symm, enough⟩
  · rintro ⟨rfl, rfl⟩
    simp

/-- What stands in front of the rest is split off again. -/
theorem splitExact?_append {count : Nat} {front : Bytes} (rest : Bytes)
    (exact : front.length = count) : splitExact? count (front ++ rest) = some (front, rest) :=
  splitExact?_eq_some_iff.mpr ⟨rfl, exact⟩

/-- Only a shortage of bytes stops a split. -/
theorem splitExact?_eq_none_iff {count : Nat} {bytes : Bytes} :
    splitExact? count bytes = none ↔ bytes.length < count := by
  simp only [splitExact?, List.splitAt_eq, ite_eq_right_iff, reduceCtorEq, imp_false,
    List.length_take]
  omega

/-- A two-byte integer, the high byte first. -/
def ofUInt16 (value : UInt16) : Bytes :=
  [UInt8.ofNat (value.toNat / 256), value.toUInt8]

/-- The integer of two bytes. -/
def toUInt16 (high low : UInt8) : UInt16 :=
  UInt16.ofNat (high.toNat * 256 + low.toNat)

/-- The two bytes of an integer give it back. -/
theorem toUInt16_bytes (value : UInt16) :
    toUInt16 (UInt8.ofNat (value.toNat / 256)) value.toUInt8 = value := by
  apply UInt16.toNat_inj.mp
  have bound := value.toNat_lt
  simp only [toUInt16, UInt16.toNat_ofNat', UInt8.toNat_ofNat', UInt16.toNat_toUInt8]
  omega

/-- Two bytes are the bytes of the integer they stand for. -/
theorem ofUInt16_toUInt16 (high low : UInt8) : ofUInt16 (toUInt16 high low) = [high, low] := by
  have highBound := high.toNat_lt
  have lowBound := low.toNat_lt
  simp only [ofUInt16, toUInt16, List.cons.injEq, and_true]
  constructor
  · apply UInt8.toNat_inj.mp
    simp only [UInt16.toNat_ofNat', UInt8.toNat_ofNat']
    omega
  · apply UInt8.toNat_inj.mp
    simp only [UInt16.toNat_toUInt8, UInt16.toNat_ofNat']
    omega

/-- A four-byte integer, the high byte first. -/
def ofUInt32 (value : UInt32) : Bytes :=
  [UInt8.ofNat (value.toNat / 16777216), UInt8.ofNat (value.toNat / 65536),
    UInt8.ofNat (value.toNat / 256), value.toUInt8]

/-- The integer of four bytes. -/
def toUInt32 (first second third fourth : UInt8) : UInt32 :=
  UInt32.ofNat
    (((first.toNat * 256 + second.toNat) * 256 + third.toNat) * 256 + fourth.toNat)

/-- The four bytes of an integer give it back. -/
theorem toUInt32_bytes (value : UInt32) :
    toUInt32 (UInt8.ofNat (value.toNat / 16777216)) (UInt8.ofNat (value.toNat / 65536))
      (UInt8.ofNat (value.toNat / 256)) value.toUInt8 = value := by
  apply UInt32.toNat_inj.mp
  have bound := value.toNat_lt
  simp only [toUInt32, UInt32.toNat_ofNat', UInt8.toNat_ofNat', UInt32.toNat_toUInt8]
  omega

/-- Four bytes are the bytes of the integer they stand for. -/
theorem ofUInt32_toUInt32 (first second third fourth : UInt8) :
    ofUInt32 (toUInt32 first second third fourth) = [first, second, third, fourth] := by
  have firstBound := first.toNat_lt
  have secondBound := second.toNat_lt
  have thirdBound := third.toNat_lt
  have fourthBound := fourth.toNat_lt
  simp only [ofUInt32, toUInt32, List.cons.injEq, and_true]
  refine ⟨?_, ?_, ?_, ?_⟩ <;> apply UInt8.toNat_inj.mp
  · simp only [UInt32.toNat_ofNat', UInt8.toNat_ofNat']
    omega
  · simp only [UInt32.toNat_ofNat', UInt8.toNat_ofNat']
    omega
  · simp only [UInt32.toNat_ofNat', UInt8.toNat_ofNat']
    omega
  · simp only [UInt32.toNat_toUInt8, UInt32.toNat_ofNat']
    omega

/-- The bytes of a text. -/
def ofText (text : String) : Bytes :=
  text.toUTF8.data.toList

/-- The text of some bytes, if they are the bytes of a text. -/
def toText? (bytes : Bytes) : Option String :=
  String.fromUTF8? ⟨bytes.toArray⟩

@[simp] theorem length_ofUInt16 (value : UInt16) : (ofUInt16 value).length = 2 :=
  rfl

@[simp] theorem length_ofText (text : String) : (ofText text).length = text.utf8ByteSize :=
  rfl

/-- The bytes of a text give it back. -/
theorem toText?_ofText (text : String) : toText? (ofText text) = some text := by
  simp only [toText?, ofText, Array.toArray_toList]
  exact dif_pos text.isValidUTF8

/-- Bytes that are those of a text are its bytes and no others. -/
theorem ofText_of_toText? {bytes : Bytes} {text : String} (read : toText? bytes = some text) :
    ofText text = bytes := by
  simp only [toText?, String.fromUTF8?, Option.dite_none_right_eq_some, Option.some.injEq] at read
  obtain ⟨valid, rfl⟩ := read
  rfl

end Bytes

end Mqtt
