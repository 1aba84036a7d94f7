import HatDrivers.Basic

namespace HatDrivers.Mqtt

open HatDrivers.Lib

/-!
# MQTT — common structures

Qualities of service, reason codes and subscriptions, and the errors that encoding
and decoding raise.
-/

inductive QoS
  | AT_MOST_ONCE | AT_LEAST_ONCE | EXACLTY_ONCE
  deriving DecidableEq

def QoS.value : QoS → ℕ
  | .AT_MOST_ONCE => 0 | .AT_LEAST_ONCE => 1 | .EXACLTY_ONCE => 2

instance : Enumeration QoS where
  name := "QoS"
  value := QoS.value
  members := [.AT_MOST_ONCE, .AT_LEAST_ONCE, .EXACLTY_ONCE]
  find_value e := by cases e <;> rfl

inductive RetainHandling
  | SEND_ON_SUBSCRIBE | SEND_ON_NEW_SUBSCRIBE | DONT_SEND
  deriving DecidableEq

def RetainHandling.value : RetainHandling → ℕ
  | .SEND_ON_SUBSCRIBE => 0 | .SEND_ON_NEW_SUBSCRIBE => 1 | .DONT_SEND => 2

instance : Enumeration RetainHandling where
  name := "RetainHandling"
  value := RetainHandling.value
  members := [.SEND_ON_SUBSCRIBE, .SEND_ON_NEW_SUBSCRIBE, .DONT_SEND]
  find_value e := by cases e <;> rfl

inductive Reason
  | SUCCESS | GRANTED_QOS_1 | GRANTED_QOS_2 | DISCONNECT_WITH_WILL_MESSAGE
  | NO_MATCHING_SUBSCRIBERS | NO_SUBSCRIPTION_EXISTED | CONTINUE_AUTHENTICATION
  | RE_AUTHENTICATE | UNSPECIFIED_ERROR | MALFORMED_PACKET | PROTOCOL_ERROR
  | IMPLEMENTATION_SPECIFIC_ERROR | UNSUPPORTED_PROTOCOL_VERSION | CLIENT_IDENTIFIER_NOT_VALID
  | BAD_USER_NAME_OR_PASSWORD | NOT_AUTHORIZED | SERVER_UNAVAILABLE | SERVER_BUSY | BANNED
  | SERVER_SHUTTING_DOWN | BAD_AUTHENTICATION_METHOD | KEEP_ALIVE_TIMEOUT | SESSION_TAKEN_OVER
  | TOPIC_FILTER_INVALID | TOPIC_NAME_INVALID | PACKET_IDENTIFIER_IN_USE
  | PACKET_IDENTIFIER_NOT_FOUND | RECEIVE_MAXIMUM_EXCEEDED | TOPIC_ALIAS_INVALID
  | PACKET_TOO_LARGE | MESSAGE_RATE_TOO_HIGH | QUOTA_EXCEEDED | ADMINISTRATIVE_ACTION
  | PAYLOAD_FORMAT_INVALID | RETAIN_NOT_SUPPORTED | QOS_NOT_SUPPORTED | USE_ANOTHER_SERVER
  | SERVER_MOVED | SHARED_SUBSCRIPTIONS_NOT_SUPPORTED | CONNECTION_RATE_EXCEEDED
  | MAXIMUM_CONNECT_TIME | SUBSCRIPTION_IDENTIFIERS_NOT_SUPPORTED
  | WILDCARD_SUBSCRIPTIONS_NOT_SUPPORTED
  deriving DecidableEq

def Reason.value : Reason → ℕ
  | .SUCCESS => 0x00
  | .GRANTED_QOS_1 => 0x01
  | .GRANTED_QOS_2 => 0x02
  | .DISCONNECT_WITH_WILL_MESSAGE => 0x04
  | .NO_MATCHING_SUBSCRIBERS => 0x10
  | .NO_SUBSCRIPTION_EXISTED => 0x11
  | .CONTINUE_AUTHENTICATION => 0x24
  | .RE_AUTHENTICATE => 0x25
  | .UNSPECIFIED_ERROR => 0x80
  | .MALFORMED_PACKET => 0x81
  | .PROTOCOL_ERROR => 0x82
  | .IMPLEMENTATION_SPECIFIC_ERROR => 0x83
  | .UNSUPPORTED_PROTOCOL_VERSION => 0x84
  | .CLIENT_IDENTIFIER_NOT_VALID => 0x85
  | .BAD_USER_NAME_OR_PASSWORD => 0x86
  | .NOT_AUTHORIZED => 0x87
  | .SERVER_UNAVAILABLE => 0x88
  | .SERVER_BUSY => 0x89
  | .BANNED => 0x8a
  | .SERVER_SHUTTING_DOWN => 0x8b
  | .BAD_AUTHENTICATION_METHOD => 0x8c
  | .KEEP_ALIVE_TIMEOUT => 0x8d
  | .SESSION_TAKEN_OVER => 0x8e
  | .TOPIC_FILTER_INVALID => 0x8f
  | .TOPIC_NAME_INVALID => 0x90
  | .PACKET_IDENTIFIER_IN_USE => 0x91
  | .PACKET_IDENTIFIER_NOT_FOUND => 0x92
  | .RECEIVE_MAXIMUM_EXCEEDED => 0x93
  | .TOPIC_ALIAS_INVALID => 0x94
  | .PACKET_TOO_LARGE => 0x95
  | .MESSAGE_RATE_TOO_HIGH => 0x96
  | .QUOTA_EXCEEDED => 0x97
  | .ADMINISTRATIVE_ACTION => 0x98
  | .PAYLOAD_FORMAT_INVALID => 0x99
  | .RETAIN_NOT_SUPPORTED => 0x9a
  | .QOS_NOT_SUPPORTED => 0x9b
  | .USE_ANOTHER_SERVER => 0x9c
  | .SERVER_MOVED => 0x9d
  | .SHARED_SUBSCRIPTIONS_NOT_SUPPORTED => 0x9e
  | .CONNECTION_RATE_EXCEEDED => 0x9f
  | .MAXIMUM_CONNECT_TIME => 0xa0
  | .SUBSCRIPTION_IDENTIFIERS_NOT_SUPPORTED => 0xa1
  | .WILDCARD_SUBSCRIPTIONS_NOT_SUPPORTED => 0xa2

instance : Enumeration Reason where
  name := "Reason"
  value := Reason.value
  members :=
    [.SUCCESS, .GRANTED_QOS_1, .GRANTED_QOS_2, .DISCONNECT_WITH_WILL_MESSAGE,
     .NO_MATCHING_SUBSCRIBERS, .NO_SUBSCRIPTION_EXISTED, .CONTINUE_AUTHENTICATION,
     .RE_AUTHENTICATE, .UNSPECIFIED_ERROR, .MALFORMED_PACKET, .PROTOCOL_ERROR,
     .IMPLEMENTATION_SPECIFIC_ERROR, .UNSUPPORTED_PROTOCOL_VERSION, .CLIENT_IDENTIFIER_NOT_VALID,
     .BAD_USER_NAME_OR_PASSWORD, .NOT_AUTHORIZED, .SERVER_UNAVAILABLE, .SERVER_BUSY, .BANNED,
     .SERVER_SHUTTING_DOWN, .BAD_AUTHENTICATION_METHOD, .KEEP_ALIVE_TIMEOUT, .SESSION_TAKEN_OVER,
     .TOPIC_FILTER_INVALID, .TOPIC_NAME_INVALID, .PACKET_IDENTIFIER_IN_USE,
     .PACKET_IDENTIFIER_NOT_FOUND, .RECEIVE_MAXIMUM_EXCEEDED, .TOPIC_ALIAS_INVALID,
     .PACKET_TOO_LARGE, .MESSAGE_RATE_TOO_HIGH, .QUOTA_EXCEEDED, .ADMINISTRATIVE_ACTION,
     .PAYLOAD_FORMAT_INVALID, .RETAIN_NOT_SUPPORTED, .QOS_NOT_SUPPORTED, .USE_ANOTHER_SERVER,
     .SERVER_MOVED, .SHARED_SUBSCRIPTIONS_NOT_SUPPORTED, .CONNECTION_RATE_EXCEEDED,
     .MAXIMUM_CONNECT_TIME, .SUBSCRIPTION_IDENTIFIERS_NOT_SUPPORTED,
     .WILDCARD_SUBSCRIPTIONS_NOT_SUPPORTED]
  find_value e := by cases e <;> rfl

@[simp] theorem QoS.enumeration_value (qos : QoS) : Enumeration.value qos = qos.value := rfl

@[simp] theorem RetainHandling.enumeration_value (handling : RetainHandling) :
    Enumeration.value handling = handling.value := rfl

theorem QoS.value_lt (qos : QoS) : qos.value < 3 := by
  cases qos <;> decide

theorem RetainHandling.value_lt (handling : RetainHandling) : handling.value < 3 := by
  cases handling <;> decide

theorem Reason.value_lt (reason : Reason) : reason.value < 256 := by
  cases reason <;> decide

def isErrorReason (reason : Reason) : Bool := reason.value ≥ 0x80

@[ext]
structure Subscription where
  topicFilter : String
  maximumQos : QoS
  noLocal : Bool
  retainAsPublished : Bool
  retainHandling : RetainHandling
  deriving DecidableEq

/-! ### Errors -/

/-- `MqttError`, or an exception of the language. -/
inductive Error
  | mqttError (reason : Reason) (description : String)
  | exn (e : Exn)
  deriving DecidableEq

/-- `raise MqttError(Reason.MALFORMED_PACKET, description)`. -/
def Error.malformed (description : String) : Error := .mqttError .MALFORMED_PACKET description

/-- `raise MqttError(Reason.PROTOCOL_ERROR, description)`. -/
def Error.protocol (description : String) : Error := .mqttError .PROTOCOL_ERROR description

/-- `raise Exception(msg)`. -/
def Error.exception (msg : String) : Error := .exn (.exception msg)

/-- `raise ValueError(msg)`. -/
def Error.valueError (msg : String) : Error := .exn (.valueError msg)

/-- `E(n)`, a value of no member reported as an `MqttError` with the text of the exception. -/
def enumOf {E : Type} [Enumeration E] (reason : Reason) (n : ℕ) : Except Error E :=
  match Enumeration.ofValue? n with
  | some e => .ok e
  | none => .error (.mqttError reason (toString n ++ " is not a valid " ++ Enumeration.name E))

@[simp] theorem enumOf_value {E : Type} [Enumeration E] (reason : Reason) (e : E) :
    enumOf reason (Enumeration.value e) = .ok e := by
  simp [enumOf]

end HatDrivers.Mqtt
