import Mqtt.Property.Block
import Mqtt.Topic.Subscription
import Mqtt.Wire.Code

/-! # SUBSCRIBE and UNSUBSCRIBE

The requests of a client to begin and to end subscriptions, each with at least
one topic filter.
-/

namespace Mqtt

/-- The properties of a SUBSCRIBE packet. -/
structure SubscribeProperties where
  subscriptionIdentifier : Option UInt32 := none
  userProperties : List UserProperty := []
deriving DecidableEq, Repr, Inhabited

namespace SubscribeProperties

/-- The kinds of property that a SUBSCRIBE packet may have. -/
def kinds : List PropertyKind :=
  [.subscriptionIdentifier, .userProperty]

/-- The rule on the subscription identifier: it is a variable byte integer other
than zero. -/
def check (properties : SubscribeProperties) : Except Fault Unit :=
  match properties.subscriptionIdentifier with
  | none => .ok ()
  | some value =>
      if value = 0 || value.toNat > maximumVarInt then
        .error (.subscriptionIdentifierOutOfRange value)
      else .ok ()

open PropertyBlock in
/-- The properties in the order in which they are written. -/
def toBlock (properties : SubscribeProperties) : PropertyBlock :=
  slot .subscriptionIdentifier properties.subscriptionIdentifier ++
  slots .userProperty properties.userProperties

/-- The properties in a block that holds only those of a SUBSCRIBE packet. -/
def ofBlock (block : PropertyBlock) : Except Fault SubscribeProperties := do
  block.checkKinds .subscribe kinds
  return {
    subscriptionIdentifier := ← block.value? .subscriptionIdentifier
    userProperties := block.userProperties }

end SubscribeProperties

/-- A SUBSCRIBE packet. -/
structure Subscribe where
  packetId : UInt16
  properties : SubscribeProperties := {}
  subscriptions : List Subscription
deriving DecidableEq, Repr, Inhabited

namespace Subscribe

/-- The rules that construction enforces, those of the filters first. -/
def check (packet : Subscribe) : Except Fault Unit := do
  packet.subscriptions.forM fun subscription => TopicFilter.check subscription.filter
  if packet.packetId = 0 then throw .packetIdZero
  if packet.subscriptions.isEmpty then throw (.filtersEmpty .subscribe)
  packet.properties.check

/-- The packet without its fixed header. -/
def encode (packet : Subscribe) : Except PacketError Bytes := do
  let properties ← packet.properties.toBlock.encode
  let subscriptions ← packet.subscriptions.mapM Subscription.encode
  return Bytes.ofUInt16 packet.packetId ++ properties ++ subscriptions.flatten

/-- The packet after its fixed header. -/
def read : Reader Subscribe := do
  let packetId ← Reader.packetId
  let properties ← Reader.ofExcept (SubscribeProperties.ofBlock (← PropertyBlock.read))
  let subscriptions ← Reader.items Subscription.read
  if subscriptions.isEmpty then throw (.filtersEmpty .subscribe)
  return { packetId, properties, subscriptions }

end Subscribe

/-- An UNSUBSCRIBE packet. -/
structure Unsubscribe where
  packetId : UInt16
  userProperties : List UserProperty := []
  filters : List String
deriving DecidableEq, Repr, Inhabited

namespace Unsubscribe

/-- The kinds of property that an UNSUBSCRIBE packet may have. -/
def kinds : List PropertyKind :=
  [.userProperty]

/-- The user properties in a block that holds nothing else. -/
def propertiesOfBlock (block : PropertyBlock) : Except Fault (List UserProperty) := do
  block.checkKinds .unsubscribe kinds
  return block.userProperties

/-- The rules that construction enforces. -/
def check (packet : Unsubscribe) : Except Fault Unit := do
  if packet.packetId = 0 then throw .packetIdZero
  if packet.filters.isEmpty then throw (.filtersEmpty .unsubscribe)
  packet.filters.forM TopicFilter.check

/-- The packet without its fixed header. -/
def encode (packet : Unsubscribe) : Except PacketError Bytes := do
  let properties ← (PropertyBlock.slots .userProperty packet.userProperties).encode
  let filters ← packet.filters.mapM Field.ofText
  return Bytes.ofUInt16 packet.packetId ++ properties ++ filters.flatten

/-- A topic filter that obeys the rules. -/
def readFilter : Reader String := do
  let filter ← Reader.text
  Reader.ofExcept (TopicFilter.check filter)
  return filter

/-- The packet after its fixed header. -/
def read : Reader Unsubscribe := do
  let packetId ← Reader.packetId
  let userProperties ← Reader.ofExcept (propertiesOfBlock (← PropertyBlock.read))
  let filters ← Reader.items readFilter
  if filters.isEmpty then throw (.filtersEmpty .unsubscribe)
  return { packetId, userProperties, filters }

end Unsubscribe

end Mqtt
