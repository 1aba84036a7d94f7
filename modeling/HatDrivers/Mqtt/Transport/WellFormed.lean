import HatDrivers.Mqtt.Transport.Encoder
import HatDrivers.Mqtt.Transport.PropertyRoundTrip

namespace HatDrivers.Mqtt.Transport

open HatDrivers.Lib

/-!
# MQTT — well-formed packets

The ranges of the fields, the presence rules of the protocol, and the number of bytes
that follow the fixed header, which a variable byte integer must hold.
-/

def ValidPairs (ps : UserProperties) : Prop := ∀ p ∈ ps, ValidPair p

instance (ps : UserProperties) : Decidable (ValidPairs ps) := List.decidableBAll ..

def Payload.Valid : Payload → Prop
  | .str s => ValidString s
  | .bytes bs => ValidBinary bs

instance : (payload : Payload) → Decidable payload.Valid
  | .str s => inferInstanceAs (Decidable (ValidString s))
  | .bytes bs => inferInstanceAs (Decidable (ValidBinary bs))

structure Will.WellFormed (will : Will) : Prop where
  delayInterval : ValidUint 0xffff_ffff will.delayInterval
  messageExpiryInterval : ∀ n ∈ will.messageExpiryInterval, ValidUint 0xffff_ffff n
  contentType : ∀ s ∈ will.contentType, ValidString s
  responseTopic : ∀ s ∈ will.responseTopic, ValidString s
  correlationData : ∀ bs ∈ will.correlationData, ValidBinary bs
  userProperties : ValidPairs will.userProperties
  topic : ValidString will.topic
  payload : will.payload.Valid

structure ConnectPacket.WellFormed (packet : ConnectPacket) : Prop where
  keepAlive : ValidUint 0xffff packet.keepAlive
  sessionExpiryInterval : ValidUint 0xffff_ffff packet.sessionExpiryInterval
  receiveMaximum : ValidNonzero 0xffff packet.receiveMaximum
  maximumPacketSize : ∀ n ∈ packet.maximumPacketSize, ValidNonzero 0xffff_ffff n
  topicAliasMaximum : ValidUint 0xffff packet.topicAliasMaximum
  userProperties : ValidPairs packet.userProperties
  authenticationMethod : ∀ s ∈ packet.authenticationMethod, ValidString s
  authenticationData : ∀ bs ∈ packet.authenticationData, ValidBinary bs
  /-- authentication data belongs to a method -/
  authentication : packet.authenticationData.isSome → packet.authenticationMethod.isSome
  clientIdentifier : ValidString packet.clientIdentifier
  will : ∀ will ∈ packet.will, will.WellFormed
  userName : ∀ s ∈ packet.userName, ValidString s
  password : ∀ bs ∈ packet.password, ValidBinary bs

structure ConnAckPacket.WellFormed (packet : ConnAckPacket) : Prop where
  sessionExpiryInterval : ∀ n ∈ packet.sessionExpiryInterval, ValidUint 0xffff_ffff n
  receiveMaximum : ValidNonzero 0xffff packet.receiveMaximum
  maximumPacketSize : ∀ n ∈ packet.maximumPacketSize, ValidNonzero 0xffff_ffff n
  assignedClientIdentifier : ∀ s ∈ packet.assignedClientIdentifier, ValidString s
  topicAliasMaximum : ValidUint 0xffff packet.topicAliasMaximum
  reasonString : ∀ s ∈ packet.reasonString, ValidString s
  userProperties : ValidPairs packet.userProperties
  serverKeepAlive : ∀ n ∈ packet.serverKeepAlive, ValidUint 0xffff n
  responseInformation : ∀ s ∈ packet.responseInformation, ValidString s
  serverReference : ∀ s ∈ packet.serverReference, ValidString s
  authenticationMethod : ∀ s ∈ packet.authenticationMethod, ValidString s
  authenticationData : ∀ bs ∈ packet.authenticationData, ValidBinary bs

structure PublishPacket.WellFormed (packet : PublishPacket) : Prop where
  topicName : ValidString packet.topicName
  /-- there is an identifier iff the quality of service is above 0 -/
  identified : packet.packetIdentifier.isSome ↔ packet.qos ≠ .AT_MOST_ONCE
  packetIdentifier : ∀ n ∈ packet.packetIdentifier, ValidUint 0xffff n
  messageExpiryInterval : ∀ n ∈ packet.messageExpiryInterval, ValidUint 0xffff_ffff n
  topicAlias : ∀ n ∈ packet.topicAlias, ValidUint 0xffff n
  responseTopic : ∀ s ∈ packet.responseTopic, ValidString s
  correlationData : ∀ bs ∈ packet.correlationData, ValidBinary bs
  userProperties : ValidPairs packet.userProperties
  subscriptionIdentifiers : ∀ i ∈ packet.subscriptionIdentifiers, ValidNonzero 0x0fff_ffff i
  contentType : ∀ s ∈ packet.contentType, ValidString s

structure ReasonPacket.WellFormed (packet : ReasonPacket) : Prop where
  packetIdentifier : ValidUint 0xffff packet.packetIdentifier
  reasonString : ∀ s ∈ packet.reasonString, ValidString s
  userProperties : ValidPairs packet.userProperties

structure SubscribePacket.WellFormed (packet : SubscribePacket) : Prop where
  packetIdentifier : ValidUint 0xffff packet.packetIdentifier
  subscriptionIdentifier : ∀ i ∈ packet.subscriptionIdentifier, ValidNonzero 0x0fff_ffff i
  userProperties : ValidPairs packet.userProperties
  subscriptions : packet.subscriptions ≠ []
  topicFilters : ∀ subscription ∈ packet.subscriptions, ValidString subscription.topicFilter

structure ReasonsPacket.WellFormed (packet : ReasonsPacket) : Prop where
  packetIdentifier : ValidUint 0xffff packet.packetIdentifier
  reasonString : ∀ s ∈ packet.reasonString, ValidString s
  userProperties : ValidPairs packet.userProperties
  reasons : packet.reasons ≠ []

structure UnsubscribePacket.WellFormed (packet : UnsubscribePacket) : Prop where
  packetIdentifier : ValidUint 0xffff packet.packetIdentifier
  userProperties : ValidPairs packet.userProperties
  nonempty : packet.topicFilters ≠ []
  topicFilters : ∀ s ∈ packet.topicFilters, ValidString s

structure DisconnectPacket.WellFormed (packet : DisconnectPacket) : Prop where
  sessionExpiryInterval : ∀ n ∈ packet.sessionExpiryInterval, ValidUint 0xffff_ffff n
  reasonString : ∀ s ∈ packet.reasonString, ValidString s
  userProperties : ValidPairs packet.userProperties
  serverReference : ∀ s ∈ packet.serverReference, ValidString s

structure AuthPacket.WellFormed (packet : AuthPacket) : Prop where
  authenticationMethod : ValidString packet.authenticationMethod
  authenticationData : ∀ bs ∈ packet.authenticationData, ValidBinary bs
  reasonString : ∀ s ∈ packet.reasonString, ValidString s
  userProperties : ValidPairs packet.userProperties

/-! ### Sizes -/

def optionalSize {α : Type} (size : α → ℕ) : Option α → ℕ
  | none => 0
  | some a => size a

/-- The number of bytes of a payload that is written with its length. -/
def Payload.size : Payload → ℕ
  | .str s => stringSize s
  | .bytes bs => binarySize bs

/-- The number of bytes of a payload alone. -/
def Payload.length : Payload → ℕ
  | .str s => s.utf8ByteSize
  | .bytes bs => bs.length

def templateSize (template : Template) : ℕ := propsSize (present template)

def Will.size (will : Will) : ℕ :=
  templateSize (willProps will) + stringSize will.topic + will.payload.size

def ConnectPacket.size (packet : ConnectPacket) : ℕ :=
  10 + templateSize (connectProps packet) + stringSize packet.clientIdentifier +
    optionalSize Will.size packet.will + optionalSize stringSize packet.userName +
    optionalSize binarySize packet.password

def ConnAckPacket.size (packet : ConnAckPacket) : ℕ := 2 + templateSize (connackProps packet)

/-- All keys of a packet, the subscription identifiers included. -/
def publishAllProps (packet : PublishPacket) : Template :=
  publishProps packet ++
    [⟨.SUBSCRIPTION_IDENTIFIER,
      if packet.subscriptionIdentifiers ≠ [] then some packet.subscriptionIdentifiers else none⟩]

def PublishPacket.size (packet : PublishPacket) : ℕ :=
  stringSize packet.topicName + (if packet.qos ≠ .AT_MOST_ONCE then 2 else 0) +
    templateSize (publishAllProps packet) + packet.payload.length

def ReasonPacket.size (packet : ReasonPacket) : ℕ :=
  3 + templateSize (reasonProps packet.reasonString packet.userProperties)

def subscriptionSize (subscription : Subscription) : ℕ := stringSize subscription.topicFilter + 1

def SubscribePacket.size (packet : SubscribePacket) : ℕ :=
  2 + templateSize (subscribeProps packet) + (packet.subscriptions.map subscriptionSize).sum

def ReasonsPacket.size (packet : ReasonsPacket) : ℕ :=
  2 + templateSize (reasonProps packet.reasonString packet.userProperties) + packet.reasons.length

def UnsubscribePacket.size (packet : UnsubscribePacket) : ℕ :=
  2 + templateSize (unsubscribeProps packet) + (packet.topicFilters.map stringSize).sum

def DisconnectPacket.size (packet : DisconnectPacket) : ℕ :=
  1 + templateSize (disconnectProps packet)

def AuthPacket.size (packet : AuthPacket) : ℕ := 1 + templateSize (authProps packet)

namespace Packet

/-- The number of bytes after the fixed header. -/
def size : Packet → ℕ
  | connect packet => packet.size
  | connack packet => packet.size
  | publish packet => packet.size
  | puback packet => packet.size
  | pubrec packet => packet.size
  | pubrel packet => packet.size
  | pubcomp packet => packet.size
  | subscribe packet => packet.size
  | suback packet => packet.size
  | unsubscribe packet => packet.size
  | unsuback packet => packet.size
  | pingreq => 0
  | pingresp => 0
  | disconnect packet => packet.size
  | auth packet => packet.size

/-- The fields are in their ranges and present as the protocol says. -/
def FieldsWellFormed : Packet → Prop
  | connect packet => packet.WellFormed
  | connack packet => packet.WellFormed
  | publish packet => packet.WellFormed
  | puback packet => packet.WellFormed
  | pubrec packet => packet.WellFormed
  | pubrel packet => packet.WellFormed
  | pubcomp packet => packet.WellFormed
  | subscribe packet => packet.WellFormed
  | suback packet => packet.WellFormed
  | unsubscribe packet => packet.WellFormed
  | unsuback packet => packet.WellFormed
  | pingreq => True
  | pingresp => True
  | disconnect packet => packet.WellFormed
  | auth packet => packet.WellFormed

/-- A packet of the protocol: the fixed header can hold its size. -/
def WellFormed (packet : Packet) : Prop := packet.FieldsWellFormed ∧ packet.size ≤ 0x0fff_ffff

end Packet

end HatDrivers.Mqtt.Transport
