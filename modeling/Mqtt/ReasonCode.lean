import Mqtt.PacketType
import Mqtt.Text.Radix

/-! # Reason codes

The one-byte results that answer a request. The byte zero has three meanings,
one for each family of packets; every other byte has one.
-/

namespace Mqtt

/-- The result of an operation. -/
inductive ReasonCode where
  | success
  | normalDisconnection
  | grantedQoS0
  | grantedQoS1
  | grantedQoS2
  | disconnectWithWillMessage
  | noMatchingSubscribers
  | noSubscriptionExisted
  | continueAuthentication
  | reAuthenticate
  | unspecifiedError
  | malformedPacket
  | protocolError
  | implementationSpecificError
  | unsupportedProtocolVersion
  | clientIdentifierNotValid
  | badUserNameOrPassword
  | notAuthorized
  | serverUnavailable
  | serverBusy
  | banned
  | serverShuttingDown
  | badAuthenticationMethod
  | keepAliveTimeout
  | sessionTakenOver
  | topicFilterInvalid
  | topicNameInvalid
  | packetIdentifierInUse
  | packetIdentifierNotFound
  | receiveMaximumExceeded
  | topicAliasInvalid
  | packetTooLarge
  | messageRateTooHigh
  | quotaExceeded
  | administrativeAction
  | payloadFormatInvalid
  | retainNotSupported
  | qosNotSupported
  | useAnotherServer
  | serverMoved
  | sharedSubscriptionsNotSupported
  | connectionRateExceeded
  | maximumConnectTime
  | subscriptionIdentifiersNotSupported
  | wildcardSubscriptionsNotSupported
deriving DecidableEq, Repr, Inhabited

namespace ReasonCode

/-- The byte of a reason code. -/
def code : ReasonCode → UInt8
  | success => 0x00
  | normalDisconnection => 0x00
  | grantedQoS0 => 0x00
  | grantedQoS1 => 0x01
  | grantedQoS2 => 0x02
  | disconnectWithWillMessage => 0x04
  | noMatchingSubscribers => 0x10
  | noSubscriptionExisted => 0x11
  | continueAuthentication => 0x18
  | reAuthenticate => 0x19
  | unspecifiedError => 0x80
  | malformedPacket => 0x81
  | protocolError => 0x82
  | implementationSpecificError => 0x83
  | unsupportedProtocolVersion => 0x84
  | clientIdentifierNotValid => 0x85
  | badUserNameOrPassword => 0x86
  | notAuthorized => 0x87
  | serverUnavailable => 0x88
  | serverBusy => 0x89
  | banned => 0x8a
  | serverShuttingDown => 0x8b
  | badAuthenticationMethod => 0x8c
  | keepAliveTimeout => 0x8d
  | sessionTakenOver => 0x8e
  | topicFilterInvalid => 0x8f
  | topicNameInvalid => 0x90
  | packetIdentifierInUse => 0x91
  | packetIdentifierNotFound => 0x92
  | receiveMaximumExceeded => 0x93
  | topicAliasInvalid => 0x94
  | packetTooLarge => 0x95
  | messageRateTooHigh => 0x96
  | quotaExceeded => 0x97
  | administrativeAction => 0x98
  | payloadFormatInvalid => 0x99
  | retainNotSupported => 0x9a
  | qosNotSupported => 0x9b
  | useAnotherServer => 0x9c
  | serverMoved => 0x9d
  | sharedSubscriptionsNotSupported => 0x9e
  | connectionRateExceeded => 0x9f
  | maximumConnectTime => 0xa0
  | subscriptionIdentifiersNotSupported => 0xa1
  | wildcardSubscriptionsNotSupported => 0xa2

/-- The reason codes whose byte is not zero. -/
def nonzero : List ReasonCode :=
  [grantedQoS1, grantedQoS2, disconnectWithWillMessage, noMatchingSubscribers,
   noSubscriptionExisted, continueAuthentication, reAuthenticate, unspecifiedError,
   malformedPacket, protocolError, implementationSpecificError, unsupportedProtocolVersion,
   clientIdentifierNotValid, badUserNameOrPassword, notAuthorized, serverUnavailable,
   serverBusy, banned, serverShuttingDown, badAuthenticationMethod, keepAliveTimeout,
   sessionTakenOver, topicFilterInvalid, topicNameInvalid, packetIdentifierInUse,
   packetIdentifierNotFound, receiveMaximumExceeded, topicAliasInvalid, packetTooLarge,
   messageRateTooHigh, quotaExceeded, administrativeAction, payloadFormatInvalid,
   retainNotSupported, qosNotSupported, useAnotherServer, serverMoved,
   sharedSubscriptionsNotSupported, connectionRateExceeded, maximumConnectTime,
   subscriptionIdentifiersNotSupported, wildcardSubscriptionsNotSupported]

/-- The reason code of a byte, if there is one. The meaning of zero is the
caller's. -/
def ofByte? (zeroMeaning : ReasonCode) (byte : UInt8) : Option ReasonCode :=
  if byte = 0 then some zeroMeaning else nonzero.find? (·.code = byte)

/-- The name of a reason code. -/
def name : ReasonCode → String
  | success => "Success"
  | normalDisconnection => "Normal disconnection"
  | grantedQoS0 => "Granted QoS 0"
  | grantedQoS1 => "Granted QoS 1"
  | grantedQoS2 => "Granted QoS 2"
  | disconnectWithWillMessage => "Disconnect with Will Message"
  | noMatchingSubscribers => "No matching subscribers"
  | noSubscriptionExisted => "No subscription existed"
  | continueAuthentication => "Continue authentication"
  | reAuthenticate => "Re-authenticate"
  | unspecifiedError => "Unspecified error"
  | malformedPacket => "Malformed Packet"
  | protocolError => "Protocol Error"
  | implementationSpecificError => "Implementation specific error"
  | unsupportedProtocolVersion => "Unsupported Protocol Version"
  | clientIdentifierNotValid => "Client Identifier not valid"
  | badUserNameOrPassword => "Bad User Name or Password"
  | notAuthorized => "Not authorized"
  | serverUnavailable => "Server unavailable"
  | serverBusy => "Server busy"
  | banned => "Banned"
  | serverShuttingDown => "Server shutting down"
  | badAuthenticationMethod => "Bad authentication method"
  | keepAliveTimeout => "Keep Alive timeout"
  | sessionTakenOver => "Session taken over"
  | topicFilterInvalid => "Topic Filter invalid"
  | topicNameInvalid => "Topic Name invalid"
  | packetIdentifierInUse => "Packet Identifier in use"
  | packetIdentifierNotFound => "Packet Identifier not found"
  | receiveMaximumExceeded => "Receive Maximum exceeded"
  | topicAliasInvalid => "Topic Alias invalid"
  | packetTooLarge => "Packet too large"
  | messageRateTooHigh => "Message rate too high"
  | quotaExceeded => "Quota exceeded"
  | administrativeAction => "Administrative action"
  | payloadFormatInvalid => "Payload format invalid"
  | retainNotSupported => "Retain not supported"
  | qosNotSupported => "QoS not supported"
  | useAnotherServer => "Use another server"
  | serverMoved => "Server moved"
  | sharedSubscriptionsNotSupported => "Shared Subscriptions not supported"
  | connectionRateExceeded => "Connection rate exceeded"
  | maximumConnectTime => "Maximum connect time"
  | subscriptionIdentifiersNotSupported => "Subscription Identifiers not supported"
  | wildcardSubscriptionsNotSupported => "Wildcard Subscriptions not supported"

/-- Codes below 128 report success. -/
def isSuccess (reason : ReasonCode) : Bool :=
  reason.code < 0x80

/-- A reason code with its byte, as messages show it. -/
def text (reason : ReasonCode) : String :=
  s!"{reason.name} ({hexText reason.code})"

/-- Apart from zero, a code names one reason whatever zero means. -/
theorem ofByte?_code {reason : ReasonCode} (notZero : reason.code ≠ 0)
    (zeroMeaning : ReasonCode) :
    ofByte? zeroMeaning reason.code = some reason := by
  rw [ofByte?, if_neg notZero]
  cases reason <;> first | rfl | exact absurd rfl notZero

/-- A byte names no reason with another code, if zero means a reason whose code is zero. -/
theorem code_of_ofByte? {zeroMeaning reason : ReasonCode} {byte : UInt8}
    (zero : zeroMeaning.code = 0) (found : ofByte? zeroMeaning byte = some reason) :
    reason.code = byte := by
  unfold ofByte? at found
  split at found
  · next isZero => rw [← Option.some.inj found, zero, isZero]
  · simpa using List.find?_some found

end ReasonCode

namespace PacketType

/-- The meaning of a zero reason byte in a packet. -/
def zeroReason : PacketType → ReasonCode
  | subAck => .grantedQoS0
  | disconnect => .normalDisconnection
  | _ => .success

/-- The reason codes a packet may carry. -/
def reasonCodes : PacketType → List ReasonCode
  | connAck =>
      [.success, .unspecifiedError, .malformedPacket, .protocolError,
       .implementationSpecificError, .unsupportedProtocolVersion, .clientIdentifierNotValid,
       .badUserNameOrPassword, .notAuthorized, .serverUnavailable, .serverBusy, .banned,
       .badAuthenticationMethod, .topicNameInvalid, .packetTooLarge, .quotaExceeded,
       .payloadFormatInvalid, .retainNotSupported, .qosNotSupported, .useAnotherServer,
       .serverMoved, .connectionRateExceeded]
  | pubAck | pubRec =>
      [.success, .noMatchingSubscribers, .unspecifiedError, .implementationSpecificError,
       .notAuthorized, .topicNameInvalid, .packetIdentifierInUse, .quotaExceeded,
       .payloadFormatInvalid]
  | pubRel | pubComp =>
      [.success, .packetIdentifierNotFound]
  | subAck =>
      [.grantedQoS0, .grantedQoS1, .grantedQoS2, .unspecifiedError, .implementationSpecificError,
       .notAuthorized, .topicFilterInvalid, .packetIdentifierInUse, .quotaExceeded,
       .sharedSubscriptionsNotSupported, .subscriptionIdentifiersNotSupported,
       .wildcardSubscriptionsNotSupported]
  | unsubAck =>
      [.success, .noSubscriptionExisted, .unspecifiedError, .implementationSpecificError,
       .notAuthorized, .topicFilterInvalid, .packetIdentifierInUse]
  | disconnect =>
      [.normalDisconnection, .disconnectWithWillMessage, .unspecifiedError, .malformedPacket,
       .protocolError, .implementationSpecificError, .notAuthorized, .serverBusy,
       .serverShuttingDown, .keepAliveTimeout, .sessionTakenOver, .topicFilterInvalid,
       .topicNameInvalid, .receiveMaximumExceeded, .topicAliasInvalid, .packetTooLarge,
       .messageRateTooHigh, .quotaExceeded, .administrativeAction, .payloadFormatInvalid,
       .retainNotSupported, .qosNotSupported, .useAnotherServer, .serverMoved,
       .sharedSubscriptionsNotSupported, .connectionRateExceeded, .maximumConnectTime,
       .subscriptionIdentifiersNotSupported, .wildcardSubscriptionsNotSupported]
  | auth =>
      [.success, .continueAuthentication, .reAuthenticate]
  | _ => []

end PacketType

end Mqtt
