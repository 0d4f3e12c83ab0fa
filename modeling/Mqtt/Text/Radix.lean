/-! # Numerals in base two and sixteen

Codes and flag bits are shown with a base mark in front and zeros in front of
the digits, up to a least number of digits.
-/

namespace Mqtt

/-- The digits of a number in a base, with zeros in front up to a least
number of digits. -/
def paddedDigits (base width value : Nat) : String :=
  let digits := Nat.toDigits base value
  String.ofList (List.replicate (width - digits.length) '0' ++ digits)

/-- A code in base sixteen, of at least two digits. -/
def hexText (value : UInt8) : String :=
  "0x" ++ paddedDigits 16 2 value.toNat

/-- Flag bits in base two, at least four of them. -/
def flagText (value : UInt8) : String :=
  "0b" ++ paddedDigits 2 4 value.toNat

end Mqtt
