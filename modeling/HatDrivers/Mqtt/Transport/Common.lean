import HatDrivers.Mqtt.Common

namespace HatDrivers.Mqtt.Transport

open HatDrivers.Lib

/-!
# MQTT — control packets

The control packets of protocol version 5.  Integers, strings and binary data are
not bounded by their types: the encoder checks their ranges.
-/

/-- `str | Bytes`. -/
inductive Payload
  | str (s : String)
  | bytes (bs : Bytes)
  deriving DecidableEq

/-- `Collection[tuple[String, String]]`. -/
abbrev UserProperties := List (String × String)

@[ext]
structure Will where
  qos : QoS
  retain : Bool
  delayInterval : ℕ
  messageExpiryInterval : Option ℕ
  contentType : Option String
  responseTopic : Option String
  correlationData : Option Bytes
  userProperties : UserProperties
  topic : String
  payload : Payload
  deriving DecidableEq

@[ext]
structure ConnectPacket where
  cleanStart : Bool
  keepAlive : ℕ
  sessionExpiryInterval : ℕ
  receiveMaximum : ℕ
  maximumPacketSize : Option ℕ
  topicAliasMaximum : ℕ
  requestResponseInformation : Bool
  requestProblemInformation : Bool
  userProperties : UserProperties
  authenticationMethod : Option String
  authenticationData : Option Bytes
  clientIdentifier : String
  will : Option Will
  userName : Option String
  password : Option Bytes
  deriving DecidableEq

@[ext]
structure ConnAckPacket where
  sessionPresent : Bool
  reason : Reason
  sessionExpiryInterval : Option ℕ
  receiveMaximum : ℕ
  maximumQos : QoS
  retainAvailable : Bool
  maximumPacketSize : Option ℕ
  assignedClientIdentifier : Option String
  topicAliasMaximum : ℕ
  reasonString : Option String
  userProperties : UserProperties
  wildcardSubscriptionAvailable : Bool
  subscriptionIdentifierAvailable : Bool
  sharedSubscriptionAvailable : Bool
  serverKeepAlive : Option ℕ
  responseInformation : Option String
  serverReference : Option String
  authenticationMethod : Option String
  authenticationData : Option Bytes
  deriving DecidableEq

@[ext]
structure PublishPacket where
  duplicate : Bool
  qos : QoS
  retain : Bool
  topicName : String
  packetIdentifier : Option ℕ
  messageExpiryInterval : Option ℕ
  topicAlias : Option ℕ
  responseTopic : Option String
  correlationData : Option Bytes
  userProperties : UserProperties
  subscriptionIdentifiers : List ℕ
  contentType : Option String
  payload : Payload
  deriving DecidableEq

/-- An acknowledgement with a reason. -/
@[ext]
structure ReasonPacket where
  packetIdentifier : ℕ
  reason : Reason
  reasonString : Option String
  userProperties : UserProperties
  deriving DecidableEq

abbrev PubAckPacket := ReasonPacket

abbrev PubRecPacket := ReasonPacket

abbrev PubRelPacket := ReasonPacket

abbrev PubCompPacket := ReasonPacket

@[ext]
structure SubscribePacket where
  packetIdentifier : ℕ
  subscriptionIdentifier : Option ℕ
  userProperties : UserProperties
  subscriptions : List Subscription
  deriving DecidableEq

/-- An acknowledgement with a reason for every entry of the request. -/
@[ext]
structure ReasonsPacket where
  packetIdentifier : ℕ
  reasonString : Option String
  userProperties : UserProperties
  reasons : List Reason
  deriving DecidableEq

abbrev SubAckPacket := ReasonsPacket

abbrev UnsubAckPacket := ReasonsPacket

@[ext]
structure UnsubscribePacket where
  packetIdentifier : ℕ
  userProperties : UserProperties
  topicFilters : List String
  deriving DecidableEq

@[ext]
structure DisconnectPacket where
  reason : Reason
  sessionExpiryInterval : Option ℕ
  reasonString : Option String
  userProperties : UserProperties
  serverReference : Option String
  deriving DecidableEq

@[ext]
structure AuthPacket where
  reason : Reason
  authenticationMethod : String
  authenticationData : Option Bytes
  reasonString : Option String
  userProperties : UserProperties
  deriving DecidableEq

inductive Packet
  | connect (packet : ConnectPacket)
  | connack (packet : ConnAckPacket)
  | publish (packet : PublishPacket)
  | puback (packet : PubAckPacket)
  | pubrec (packet : PubRecPacket)
  | pubrel (packet : PubRelPacket)
  | pubcomp (packet : PubCompPacket)
  | subscribe (packet : SubscribePacket)
  | suback (packet : SubAckPacket)
  | unsubscribe (packet : UnsubscribePacket)
  | unsuback (packet : UnsubAckPacket)
  | pingreq
  | pingresp
  | disconnect (packet : DisconnectPacket)
  | auth (packet : AuthPacket)
  deriving DecidableEq

end HatDrivers.Mqtt.Transport
