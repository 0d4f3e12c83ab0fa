import Mqtt.Proofs.Property.Owner

/-! # Looking properties up by their identifiers

An accessor finds a property by its identifier and takes the value of one type out of
it. A property of another type would be a mismatch, a way to fail that looking a kind
up does not have. But the identifier settles the kind and the kind settles the type: an
accessor for the type of a kind finds what looking the kind up finds
(`Mqtt.Lookup.follows_find`), and so the properties of every packet can be looked up
with accessors (`Mqtt.PropertyOwner.follows`).
-/

namespace Mqtt

/-- Why properties are not found. -/
inductive LookupError where
  | refused (error : PacketError)
  /-- A property of a kind is not of the wanted type. -/
  | mismatched (kind : PropertyKind) (wanted : String)
deriving DecidableEq, Repr

/-- A computation that looks properties up. -/
abbrev Lookup := Except LookupError

namespace Lookup

/-- A result as a look-up, in which a fault makes the bytes malformed. -/
def ofFault {α : Type} (result : Except Fault α) : Lookup α :=
  result.mapError fun fault => .refused (.malformed fault)

end Lookup

/-! ## Accessors -/

/-- An accessor takes values of one type out of properties. -/
structure Accessor (α : Type) where
  /-- The type in messages. -/
  wanted : String
  /-- The value, if it is of the type. -/
  take : (valueType : ValueType) → valueType.Value → Option α

namespace Accessor

variable {α : Type}

def byte : Accessor UInt8 where
  wanted := "a byte"
  take
    | .byte, (value : UInt8) => some value
    | _, _ => none

def twoBytes : Accessor UInt16 where
  wanted := "a two byte integer"
  take
    | .twoBytes, (value : UInt16) => some value
    | _, _ => none

/-- The one accessor of two types, which takes subscription identifiers as well. -/
def fourBytes : Accessor UInt32 where
  wanted := "a four byte integer"
  take
    | .fourBytes, (value : UInt32) => some value
    | .varInt, (value : UInt32) => some value
    | _, _ => none

def text : Accessor String where
  wanted := "a UTF-8 string"
  take
    | .text, (value : String) => some value
    | _, _ => none

def binary : Accessor Bytes where
  wanted := "a binary data"
  take
    | .binary, (value : Bytes) => some value
    | _, _ => none

/-- The value of a property. -/
def valueOf (accessor : Accessor α) (property : Property) : Lookup α :=
  match accessor.take property.kind.valueType property.value with
  | some value => .ok value
  | none => .error (.mismatched property.kind accessor.wanted)

/-- The value of the property with the identifier of a kind, which may occur at most
once. -/
def find (accessor : Accessor α) (block : PropertyBlock) (kind : PropertyKind) :
    Lookup (Option α) := do
  (← Lookup.ofFault (block.singleOrNone kind.identifier)).mapM accessor.valueOf

/-- What a value that is found stands for. -/
def findAs {β : Type} (accessor : Accessor α) (block : PropertyBlock) (kind : PropertyKind)
    (meaning : α → Except Fault β) : Lookup (Option β) := do
  (← accessor.find block kind).mapM fun value => Lookup.ofFault (meaning value)

/-- The flag with the identifier of a kind. -/
def findFlag (block : PropertyBlock) (kind : PropertyKind) : Lookup (Option Bool) :=
  byte.findAs block kind (PropertyBlock.flagOfByte kind)

end Accessor

namespace PropertyBlock

variable {kind : PropertyKind}

/-- The values of the properties with the identifier of a kind, in order. -/
def allValues (block : PropertyBlock) (kind : PropertyKind) : List kind.Value :=
  (block.all kind.identifier).filterMap (Property.valueOf? kind)

/-- The properties with the identifier of a kind are those of the kind. -/
theorem all_identifier (block : PropertyBlock) (kind : PropertyKind) :
    block.all kind.identifier = slots kind (block.values kind) := by
  induction block with
  | nil => rfl
  | cons property block ih =>
      obtain ⟨own, value⟩ := property
      by_cases same : own = kind
      · subst same
        rw [values_cons_self, all, List.filter_cons_of_pos (by simp [Property.identifier])]
        exact congrArg (⟨own, value⟩ :: ·) ih
      · have unlike : ¬ (Property.mk own value).identifier = kind.identifier := fun equal =>
          same (PropertyKind.identifier_injective equal)
        rw [values_cons_of_ne same, all, List.filter_cons_of_neg (by simpa using unlike)]
        exact ih

/-- The values with the identifier of a kind are those of the kind. -/
theorem allValues_eq (block : PropertyBlock) (kind : PropertyKind) :
    block.allValues kind = block.values kind := by
  rw [allValues, all_identifier]
  exact values_slots _

/-- A list keeps its length when its values change, and with it the answer. -/
theorem atMostOne_map {α β : Type} (identifier : UInt8) (change : α → β) (values : List α) :
    atMostOne identifier (values.map change) =
      (atMostOne identifier values).map (Option.map change) := by
  match values with
  | [] => rfl
  | [_] => rfl
  | _ :: _ :: _ => rfl

/-- A look-up by identifier finds the property of the value that a look-up by kind finds. -/
theorem singleOrNone_identifier (block : PropertyBlock) (kind : PropertyKind) :
    block.singleOrNone kind.identifier =
      (block.value? kind).map (Option.map (Property.mk kind)) := by
  rw [singleOrNone, all_identifier, slots, atMostOne_map, value?]

/-- A required look-up by identifier finds the property of the value that one by kind
finds. -/
theorem single_identifier (block : PropertyBlock) (kind : PropertyKind) :
    block.single kind.identifier = (block.value kind).map (Property.mk kind) := by
  rw [single, singleOrNone_identifier, value]
  cases block.value? kind with
  | error fault => rfl
  | ok found => cases found <;> rfl

end PropertyBlock

namespace Lookup

open PropertyBlock

variable {α β : Type} {block : PropertyBlock} {lookup : Lookup α} {result : Except Fault α}

/-! ## Look-ups that never mismatch -/

/-- A look-up follows a computation when it has the same value or the same fault, so
that no accessor in it meets a mismatch. -/
def Follows (lookup : Lookup α) (result : Except Fault α) : Prop :=
  lookup = ofFault result

theorem Follows.ofFault (result : Except Fault α) : Follows (ofFault result) result :=
  rfl

theorem Follows.pure {value value' : α} (same : value = value') :
    Follows (pure value) (pure value') :=
  congrArg _ same

/-- A look-up follows a computation step by step. -/
theorem Follows.bind {next : α → Lookup β} {next' : α → Except Fault β}
    (first : Follows lookup result) (second : ∀ value, Follows (next value) (next' value)) :
    Follows (lookup >>= next) (result >>= next') := by
  subst first
  cases result with
  | error fault => rfl
  | ok value => exact second value

/-- A look-up follows a computation on a value that may be absent. -/
theorem Follows.mapM {meaning : α → Lookup β} {meaning' : α → Except Fault β}
    (follows : ∀ value, Follows (meaning value) (meaning' value)) (value : Option α) :
    Follows (value.mapM meaning) (value.mapM meaning') := by
  cases value with
  | none => rfl
  | some value => exact (follows value).bind fun _ => .pure rfl

/-- An accessor for the type of a kind finds what looking the kind up finds. -/
theorem follows_find (kind : PropertyKind) {accessor : Accessor kind.Value}
    (fits : accessor.take kind.valueType = some) :
    Follows (accessor.find block kind) (block.value? kind) := by
  have found (value : kind.Value) : accessor.valueOf ⟨kind, value⟩ = .ok value := by
    simp only [Accessor.valueOf, fits]
  rw [Accessor.find, singleOrNone_identifier]
  cases block.value? kind with
  | error fault => rfl
  | ok value =>
      cases value with
      | none => rfl
      | some value =>
          change (Option.some (Property.mk kind value)).mapM accessor.valueOf = _
          rw [Option.mapM_some, found]
          rfl

/-- An accessor that fits the type of its kind follows the look-up of what a value stands
for. -/
theorem follows_findAs (kind : PropertyKind) {accessor : Accessor kind.Value}
    (fits : accessor.take kind.valueType = some) (meaning : kind.Value → Except Fault β) :
    Follows (accessor.findAs block kind meaning) (block.valueAs? kind meaning) :=
  (follows_find kind fits).bind fun value =>
    .mapM (fun value => .ofFault (meaning value)) value

end Lookup

/-! ## The properties of each owner -/

open Accessor Lookup

variable {block : PropertyBlock}

/-- The properties of a CONNECT packet, found by their identifiers. -/
def ConnectProperties.lookUp (block : PropertyBlock) : Lookup ConnectProperties := do
  ofFault (block.checkKinds .connect kinds)
  let properties : ConnectProperties := {
    sessionExpiryInterval := ← fourBytes.find block .sessionExpiryInterval
    receiveMaximum := ← twoBytes.find block .receiveMaximum
    maximumPacketSize := ← fourBytes.find block .maximumPacketSize
    topicAliasMaximum := ← twoBytes.find block .topicAliasMaximum
    requestResponseInformation := ← findFlag block .requestResponseInformation
    requestProblemInformation := ← findFlag block .requestProblemInformation
    userProperties := block.allValues .userProperty
    authenticationMethod := ← text.find block .authenticationMethod
    authenticationData := ← binary.find block .authenticationData }
  ofFault properties.check
  return properties

/-- The properties of a will message, found by their identifiers. -/
def WillProperties.lookUp (block : PropertyBlock) : Lookup WillProperties := do
  ofFault (block.checkKinds .connect kinds)
  return {
    delayInterval := ← fourBytes.find block .willDelayInterval
    payloadFormatIndicator := ← findFlag block .payloadFormatIndicator
    messageExpiryInterval := ← fourBytes.find block .messageExpiryInterval
    contentType := ← text.find block .contentType
    responseTopic := ← text.find block .responseTopic
    correlationData := ← binary.find block .correlationData
    userProperties := block.allValues .userProperty }

/-- The properties of a CONNACK packet, found by their identifiers. -/
def ConnAckProperties.lookUp (block : PropertyBlock) : Lookup ConnAckProperties := do
  ofFault (block.checkKinds .connAck kinds)
  return {
    maximumQoS := ← byte.findAs block .maximumQoS maximumQoSOfByte
    sessionExpiryInterval := ← fourBytes.find block .sessionExpiryInterval
    receiveMaximum := ← twoBytes.find block .receiveMaximum
    retainAvailable := ← findFlag block .retainAvailable
    maximumPacketSize := ← fourBytes.find block .maximumPacketSize
    assignedClientIdentifier := ← text.find block .assignedClientIdentifier
    topicAliasMaximum := ← twoBytes.find block .topicAliasMaximum
    reasonString := ← text.find block .reasonString
    userProperties := block.allValues .userProperty
    wildcardSubscriptionAvailable := ← findFlag block .wildcardSubscriptionAvailable
    subscriptionIdentifiersAvailable := ← findFlag block .subscriptionIdentifiersAvailable
    sharedSubscriptionAvailable := ← findFlag block .sharedSubscriptionAvailable
    serverKeepAlive := ← twoBytes.find block .serverKeepAlive
    responseInformation := ← text.find block .responseInformation
    serverReference := ← text.find block .serverReference
    authenticationMethod := ← text.find block .authenticationMethod
    authenticationData := ← binary.find block .authenticationData }

/-- The properties of a PUBLISH packet, found by their identifiers. -/
def PublishProperties.lookUp (block : PropertyBlock) : Lookup PublishProperties := do
  ofFault (block.checkKinds .publish kinds)
  return {
    payloadFormatIndicator := ← findFlag block .payloadFormatIndicator
    messageExpiryInterval := ← fourBytes.find block .messageExpiryInterval
    topicAlias := ← twoBytes.find block .topicAlias
    responseTopic := ← text.find block .responseTopic
    correlationData := ← binary.find block .correlationData
    userProperties := block.allValues .userProperty
    subscriptionIdentifiers := block.allValues .subscriptionIdentifier
    contentType := ← text.find block .contentType }

/-- The properties of an acknowledgement, found by their identifiers. -/
def AckProperties.lookUp (packetType : PacketType) (block : PropertyBlock) :
    Lookup AckProperties := do
  ofFault (block.checkKinds packetType kinds)
  return {
    reasonString := ← text.find block .reasonString
    userProperties := block.allValues .userProperty }

/-- The properties of a SUBSCRIBE packet, found by their identifiers. -/
def SubscribeProperties.lookUp (block : PropertyBlock) : Lookup SubscribeProperties := do
  ofFault (block.checkKinds .subscribe kinds)
  return {
    subscriptionIdentifier := ← fourBytes.find block .subscriptionIdentifier
    userProperties := block.allValues .userProperty }

/-- The properties of an UNSUBSCRIBE packet, found by their identifiers. -/
def Unsubscribe.lookUpProperties (block : PropertyBlock) : Lookup (List UserProperty) := do
  ofFault (block.checkKinds .unsubscribe kinds)
  return block.allValues .userProperty

/-- The properties of a DISCONNECT packet, found by their identifiers. -/
def DisconnectProperties.lookUp (block : PropertyBlock) : Lookup DisconnectProperties := do
  ofFault (block.checkKinds .disconnect kinds)
  return {
    sessionExpiryInterval := ← fourBytes.find block .sessionExpiryInterval
    reasonString := ← text.find block .reasonString
    userProperties := block.allValues .userProperty
    serverReference := ← text.find block .serverReference }

/-- The authentication method of an AUTH packet, which must occur exactly once. -/
def AuthProperties.findMethod (block : PropertyBlock) : Lookup String := do
  let property ← ofFault (block.single PropertyKind.authenticationMethod.identifier)
  match property.valueOf? .authenticationMethod with
  | some method => return method
  | none => throw (.mismatched property.kind "an authentication method")

/-- The properties of an AUTH packet, found by their identifiers. -/
def AuthProperties.lookUp (block : PropertyBlock) : Lookup AuthProperties := do
  ofFault (block.checkKinds .auth kinds)
  return {
    authenticationMethod := ← findMethod block
    authenticationData := ← binary.find block .authenticationData
    reasonString := ← text.find block .reasonString
    userProperties := block.allValues .userProperty }

/-! ## No accessor mismatches -/

/-- The accessors of a CONNECT packet fit the types of their kinds. -/
theorem ConnectProperties.follows : Follows (lookUp block) (ofBlock block) :=
  .bind (.ofFault _) fun _ =>
  .bind (follows_find .sessionExpiryInterval rfl) fun _ =>
  .bind (follows_find .receiveMaximum rfl) fun _ =>
  .bind (follows_find .maximumPacketSize rfl) fun _ =>
  .bind (follows_find .topicAliasMaximum rfl) fun _ =>
  .bind (follows_findAs .requestResponseInformation rfl _) fun _ =>
  .bind (follows_findAs .requestProblemInformation rfl _) fun _ =>
  .bind (follows_find .authenticationMethod rfl) fun _ =>
  .bind (follows_find .authenticationData rfl) fun _ => by
    rw [PropertyBlock.allValues_eq]
    exact .bind (.ofFault _) fun _ => .pure rfl

theorem WillProperties.follows : Follows (lookUp block) (ofBlock block) :=
  .bind (.ofFault _) fun _ =>
  .bind (follows_find .willDelayInterval rfl) fun _ =>
  .bind (follows_findAs .payloadFormatIndicator rfl _) fun _ =>
  .bind (follows_find .messageExpiryInterval rfl) fun _ =>
  .bind (follows_find .contentType rfl) fun _ =>
  .bind (follows_find .responseTopic rfl) fun _ =>
  .bind (follows_find .correlationData rfl) fun _ =>
  .pure (by rw [PropertyBlock.allValues_eq, PropertyBlock.userProperties])

theorem ConnAckProperties.follows : Follows (lookUp block) (ofBlock block) :=
  .bind (.ofFault _) fun _ =>
  .bind (follows_findAs .maximumQoS rfl _) fun _ =>
  .bind (follows_find .sessionExpiryInterval rfl) fun _ =>
  .bind (follows_find .receiveMaximum rfl) fun _ =>
  .bind (follows_findAs .retainAvailable rfl _) fun _ =>
  .bind (follows_find .maximumPacketSize rfl) fun _ =>
  .bind (follows_find .assignedClientIdentifier rfl) fun _ =>
  .bind (follows_find .topicAliasMaximum rfl) fun _ =>
  .bind (follows_find .reasonString rfl) fun _ =>
  .bind (follows_findAs .wildcardSubscriptionAvailable rfl _) fun _ =>
  .bind (follows_findAs .subscriptionIdentifiersAvailable rfl _) fun _ =>
  .bind (follows_findAs .sharedSubscriptionAvailable rfl _) fun _ =>
  .bind (follows_find .serverKeepAlive rfl) fun _ =>
  .bind (follows_find .responseInformation rfl) fun _ =>
  .bind (follows_find .serverReference rfl) fun _ =>
  .bind (follows_find .authenticationMethod rfl) fun _ =>
  .bind (follows_find .authenticationData rfl) fun _ =>
  .pure (by rw [PropertyBlock.allValues_eq, PropertyBlock.userProperties])

theorem PublishProperties.follows : Follows (lookUp block) (ofBlock block) :=
  .bind (.ofFault _) fun _ =>
  .bind (follows_findAs .payloadFormatIndicator rfl _) fun _ =>
  .bind (follows_find .messageExpiryInterval rfl) fun _ =>
  .bind (follows_find .topicAlias rfl) fun _ =>
  .bind (follows_find .responseTopic rfl) fun _ =>
  .bind (follows_find .correlationData rfl) fun _ =>
  .bind (follows_find .contentType rfl) fun _ =>
  .pure (by rw [PropertyBlock.allValues_eq, PropertyBlock.allValues_eq,
    PropertyBlock.userProperties])

theorem AckProperties.follows (packetType : PacketType) :
    Follows (lookUp packetType block) (ofBlock packetType block) :=
  .bind (.ofFault _) fun _ =>
  .bind (follows_find .reasonString rfl) fun _ =>
  .pure (by rw [PropertyBlock.allValues_eq, PropertyBlock.userProperties])

theorem SubscribeProperties.follows : Follows (lookUp block) (ofBlock block) :=
  .bind (.ofFault _) fun _ =>
  .bind (follows_find .subscriptionIdentifier rfl) fun _ =>
  .pure (by rw [PropertyBlock.allValues_eq, PropertyBlock.userProperties])

/-- An UNSUBSCRIBE packet has only user properties, whose look-up cannot mismatch. -/
theorem Unsubscribe.follows_properties :
    Follows (lookUpProperties block) (propertiesOfBlock block) :=
  .bind (.ofFault _) fun _ =>
  .pure (by rw [PropertyBlock.allValues_eq, PropertyBlock.userProperties])

theorem DisconnectProperties.follows : Follows (lookUp block) (ofBlock block) :=
  .bind (.ofFault _) fun _ =>
  .bind (follows_find .sessionExpiryInterval rfl) fun _ =>
  .bind (follows_find .reasonString rfl) fun _ =>
  .bind (follows_find .serverReference rfl) fun _ =>
  .pure (by rw [PropertyBlock.allValues_eq, PropertyBlock.userProperties])

/-- The accessor of the authentication method fits its type. -/
theorem AuthProperties.follows_findMethod :
    Follows (findMethod block) (block.value .authenticationMethod) := by
  rw [findMethod, PropertyBlock.single_identifier]
  cases block.value .authenticationMethod with
  | error fault => rfl
  | ok method => rfl

theorem AuthProperties.follows : Follows (lookUp block) (ofBlock block) :=
  .bind (.ofFault _) fun _ =>
  .bind follows_findMethod fun _ =>
  .bind (follows_find .authenticationData rfl) fun _ =>
  .bind (follows_find .reasonString rfl) fun _ =>
  .pure (by rw [PropertyBlock.allValues_eq, PropertyBlock.userProperties])

namespace PropertyOwner

/-- The typed properties that a block holds, found by their identifiers. -/
def lookUp : (owner : PropertyOwner) → PropertyBlock → Lookup owner.Properties
  | connect => ConnectProperties.lookUp
  | will => WillProperties.lookUp
  | connAck => ConnAckProperties.lookUp
  | publish => PublishProperties.lookUp
  | acknowledgement packetType => AckProperties.lookUp packetType
  | subscribe => SubscribeProperties.lookUp
  | unsubscribe => Unsubscribe.lookUpProperties
  | disconnect => DisconnectProperties.lookUp
  | auth => AuthProperties.lookUp

/-- Every owner finds by identifiers what it finds by kinds. -/
theorem follows (block : PropertyBlock) :
    (owner : PropertyOwner) → Follows (owner.lookUp block) (owner.ofBlock block)
  | connect => ConnectProperties.follows
  | will => WillProperties.follows
  | connAck => ConnAckProperties.follows
  | publish => PublishProperties.follows
  | acknowledgement packetType => AckProperties.follows packetType
  | subscribe => SubscribeProperties.follows
  | unsubscribe => Unsubscribe.follows_properties
  | disconnect => DisconnectProperties.follows
  | auth => AuthProperties.follows

end PropertyOwner

end Mqtt
