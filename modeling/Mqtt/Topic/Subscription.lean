import Mqtt.Topic.Filter
import Mqtt.Wire.Code
import Mqtt.Wire.Field

/-! # Subscriptions

A topic filter with the options of its subscription, which are written in one
byte: the quality of service in bits 0 and 1, No Local in bit 2, Retain As
Published in bit 3 and the retain handling in bits 4 and 5.
-/

namespace Mqtt

/-- When retained messages are sent for a new subscription. -/
inductive RetainHandling where
  | sendAtSubscribe
  | sendIfNew
  | doNotSend
deriving DecidableEq, Repr, Inhabited

namespace RetainHandling

/-- The number of a retain handling. -/
def toByte : RetainHandling → UInt8
  | sendAtSubscribe => 0
  | sendIfNew => 1
  | doNotSend => 2

/-- The retain handling with a given number, if there is one. -/
def ofByte? : UInt8 → Option RetainHandling
  | 0 => some sendAtSubscribe
  | 1 => some sendIfNew
  | 2 => some doNotSend
  | _ => none

end RetainHandling

/-- How the messages of a subscription are sent. -/
structure SubscriptionOptions where
  qos : QoS := .atMostOnce
  /-- Messages do not come back to the client that published them. -/
  noLocal : Bool := false
  /-- Messages keep the retain flag they were published with. -/
  retainAsPublished : Bool := false
  retainHandling : RetainHandling := .sendAtSubscribe
deriving DecidableEq, Repr, Inhabited

namespace SubscriptionOptions

/-- The options byte. -/
def toByte (options : SubscriptionOptions) : UInt8 :=
  options.qos.toByte ||| options.noLocal.toUInt8 <<< 2 |||
    options.retainAsPublished.toUInt8 <<< 3 ||| options.retainHandling.toByte <<< 4

/-- The options of a byte whose two high bits are clear. -/
def ofByte (value : UInt8) : Except Fault SubscriptionOptions := do
  if bitPairOf value 6 ≠ 0 then throw .subscriptionOptionsReserved
  let qos ← QoS.ofByte (bitPairOf value 0)
  let handling := bitPairOf value 4
  match RetainHandling.ofByte? handling with
  | none => throw (.retainHandlingUnknown handling)
  | some retainHandling =>
      return { qos, retainHandling
               noLocal := bitOf value 2
               retainAsPublished := bitOf value 3 }

end SubscriptionOptions

/-- A topic filter with its subscription options. -/
structure Subscription where
  filter : String
  options : SubscriptionOptions
deriving DecidableEq, Repr, Inhabited

namespace Subscription

/-- A subscription whose filter obeys the rules. -/
def build (filter : String) (options : SubscriptionOptions) : Except PacketError Subscription :=
  match TopicFilter.check filter with
  | .ok () => .ok ⟨filter, options⟩
  | .error fault => .error (.invalid fault)

/-- A topic filter, its options byte, and the rules of both. -/
def read : Reader Subscription := do
  let filter ← Reader.text
  let options ← Reader.ofExcept (SubscriptionOptions.ofByte (← Reader.byte))
  Reader.ofExcept (TopicFilter.check filter)
  return ⟨filter, options⟩

/-- The filter and the options byte. -/
def encode (subscription : Subscription) : Except PacketError Bytes := do
  return (← Field.ofText subscription.filter) ++ [subscription.options.toByte]

end Subscription

end Mqtt
