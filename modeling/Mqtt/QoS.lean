/-! # Quality of service

The three delivery guarantees of an application message, ordered by strength.
-/

namespace Mqtt

/-- The delivery guarantee of a message. -/
inductive QoS where
  /-- Sent once and never acknowledged. -/
  | atMostOnce
  /-- Acknowledged; duplicates are possible. -/
  | atLeastOnce
  /-- Delivered once, through the four packet exchange. -/
  | exactlyOnce
deriving DecidableEq, Repr, Inhabited

namespace QoS

/-- The number of a level. -/
def toByte : QoS → UInt8
  | atMostOnce => 0
  | atLeastOnce => 1
  | exactlyOnce => 2

/-- The level with a given number, if there is one. -/
def ofByte? : UInt8 → Option QoS
  | 0 => some atMostOnce
  | 1 => some atLeastOnce
  | 2 => some exactlyOnce
  | _ => none

/-- The name of a level in messages. -/
def text (level : QoS) : String :=
  s!"QoS {level.toByte}"

instance : LT QoS where
  lt first second := first.toByte < second.toByte

instance (first second : QoS) : Decidable (first < second) :=
  inferInstanceAs (Decidable (first.toByte < second.toByte))

/-- The number of a level is read as that level. -/
theorem ofByte?_toByte (level : QoS) : ofByte? level.toByte = some level := by
  cases level <;> rfl

/-- A message that is acknowledged has one of the two upper levels. -/
theorem atLeastOnce_or_exactlyOnce {level : QoS} (acknowledged : level ≠ atMostOnce) :
    level = atLeastOnce ∨ level = exactlyOnce := by
  cases level with
  | atMostOnce => exact (acknowledged rfl).elim
  | atLeastOnce => exact .inl rfl
  | exactlyOnce => exact .inr rfl

end QoS

end Mqtt
