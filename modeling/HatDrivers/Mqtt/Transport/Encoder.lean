import HatDrivers.Mqtt.Transport.Properties

namespace HatDrivers.Mqtt.Transport

open HatDrivers.Lib

/-!
# MQTT — encoder

Control packets as byte strings: a fixed header with the type, the flags and the
number of the bytes that follow, and the fields, properties and payload of each kind.
-/

inductive PacketType
  | CONNECT | CONNACK | PUBLISH | PUBACK | PUBREC | PUBREL | PUBCOMP | SUBSCRIBE | SUBACK
  | UNSUBSCRIBE | UNSUBACK | PINGREQ | PINGRESP | DISCONNECT | AUTH
  deriving DecidableEq

def PacketType.value : PacketType → ℕ
  | .CONNECT => 1 | .CONNACK => 2 | .PUBLISH => 3 | .PUBACK => 4 | .PUBREC => 5 | .PUBREL => 6
  | .PUBCOMP => 7 | .SUBSCRIBE => 8 | .SUBACK => 9 | .UNSUBSCRIBE => 10 | .UNSUBACK => 11
  | .PINGREQ => 12 | .PINGRESP => 13 | .DISCONNECT => 14 | .AUTH => 15

instance : Enumeration PacketType where
  name := "_PacketType"
  value := PacketType.value
  members :=
    [.CONNECT, .CONNACK, .PUBLISH, .PUBACK, .PUBREC, .PUBREL, .PUBCOMP, .SUBSCRIBE, .SUBACK,
     .UNSUBSCRIBE, .UNSUBACK, .PINGREQ, .PINGRESP, .DISCONNECT, .AUTH]
  find_value e := by cases e <;> rfl

/-! ### Optional properties and fields -/

/-- Keys in the order the encoder sets them, each with its value if it is set. -/
abbrev Template := List (Σ t : PropertyType, Option t.Value)

/-- The keys that are set. -/
def present (template : Template) : Props :=
  template.filterMap fun e => e.2.map fun prop => ⟨e.1, prop⟩

/-- `yield from encode(value)` if the value is not `None`. -/
def encodeOptional {α : Type} (w : ByteWriter Error α) : ByteWriter Error (Option α)
  | none => .ok []
  | some a => w a

/-- A value that is there if the flag is set, else `None`. -/
def decodeOptional {α : Type} (flag : Bool) (r : ByteReader Error α) :
    ByteReader Error (Option α) :=
  if flag then mapRead some r else fun data => .ok (none, data)

/-- `bool(props.get(t, default))`. -/
def boolOf (prop : Option ℕ) (default : ℕ) : Bool := prop.getD default != 0

/-- The format indicator of a text. -/
def Payload.format : Payload → Option ℕ
  | .str _ => some 1
  | .bytes _ => none

def Payload.encode : Payload → Bytes
  | .str s => encodeUtf8 s
  | .bytes bs => bs

/-! ### CONNECT -/

def willProps (will : Will) : Template :=
  [⟨.WILL_DELAY_INTERVAL, if will.delayInterval ≠ 0 then some will.delayInterval else none⟩,
   ⟨.PAYLOAD_FORMAT_INDICATOR, will.payload.format⟩,
   ⟨.MESSAGE_EXPIRY_INTERVAL, will.messageExpiryInterval⟩,
   ⟨.CONTENT_TYPE, will.contentType⟩,
   ⟨.RESPONSE_TOPIC, will.responseTopic⟩,
   ⟨.CORRELATION_DATA, will.correlationData⟩,
   ⟨.USER_PROPERTY, if will.userProperties ≠ [] then some will.userProperties else none⟩]

def encodePayload : ByteWriter Error Payload
  | .str s => encodeString s
  | .bytes bs => encodeBinary bs

def decodePayload (text : Bool) : ByteReader Error Payload :=
  if text then mapRead Payload.str decodeString else mapRead Payload.bytes decodeBinary

def encodeWill (will : Will) : Except Error (List ℕ) := do
  let props ← encodeProps (present (willProps will))
  let topic ← encodeString will.topic
  let payload ← encodePayload will.payload
  return props ++ topic ++ payload

/-- The keys that the decoder allows. -/
def willPropTypes : List PropertyType :=
  [.WILL_DELAY_INTERVAL, .PAYLOAD_FORMAT_INDICATOR, .MESSAGE_EXPIRY_INTERVAL, .CONTENT_TYPE,
   .RESPONSE_TOPIC, .CORRELATION_DATA, .USER_PROPERTY]

def decodeWill (qos : QoS) (retain : Bool) : ByteReader Error Will := fun data => do
  let (props, data) ← decodeProps willPropTypes data
  let (topic, data) ← decodeString data
  let (payload, data) ← decodePayload (boolOf (props.get .PAYLOAD_FORMAT_INDICATOR) 0) data
  return ({
    qos := qos
    retain := retain
    delayInterval := (props.get .WILL_DELAY_INTERVAL).getD (0 : ℕ)
    messageExpiryInterval := props.get .MESSAGE_EXPIRY_INTERVAL
    contentType := props.get .CONTENT_TYPE
    responseTopic := props.get .RESPONSE_TOPIC
    correlationData := props.get .CORRELATION_DATA
    userProperties := (props.get .USER_PROPERTY).getD List.nil
    topic := topic
    payload := payload }, data)

def connectFlags (packet : ConnectPacket) : ℕ :=
  (if packet.cleanStart then 0x02 else 0x00) |||
  (if packet.will.isSome then 0x04 else 0x00) |||
  (match packet.will with
    | some will => will.qos.value <<< 3
    | none => 0x00) |||
  (if packet.will.any (·.retain) then 0x20 else 0x00) |||
  (if packet.userName.isSome then 0x80 else 0x00) |||
  (if packet.password.isSome then 0x40 else 0x00)

def connectProps (packet : ConnectPacket) : Template :=
  [⟨.SESSION_EXPIRY_INTERVAL,
    if packet.sessionExpiryInterval ≠ 0 then some packet.sessionExpiryInterval else none⟩,
   ⟨.RECEIVE_MAXIMUM,
    if packet.receiveMaximum ≠ 0xffff then some packet.receiveMaximum else none⟩,
   ⟨.MAXIMUM_PACKET_SIZE, packet.maximumPacketSize⟩,
   ⟨.TOPIC_ALIAS_MAXIMUM,
    if packet.topicAliasMaximum ≠ 0 then some packet.topicAliasMaximum else none⟩,
   ⟨.REQUEST_RESPONSE_INFORMATION,
    if packet.requestResponseInformation then some (1 : ℕ) else none⟩,
   ⟨.REQUEST_PROBLEM_INFORMATION,
    if ¬ packet.requestProblemInformation then some (0 : ℕ) else none⟩,
   ⟨.USER_PROPERTY, if packet.userProperties ≠ [] then some packet.userProperties else none⟩,
   ⟨.AUTHENTICATION_METHOD, packet.authenticationMethod⟩,
   ⟨.AUTHENTICATION_DATA, packet.authenticationData⟩]

def encodeConnectPacket (packet : ConnectPacket) : Except Error (List ℕ) := do
  let protocolName ← encodeString "MQTT"
  let keepAlive ← encodeUint16 packet.keepAlive
  let props ← encodeProps (present (connectProps packet))
  let clientIdentifier ← encodeString packet.clientIdentifier
  let will ← encodeOptional encodeWill packet.will
  let userName ← encodeOptional encodeString packet.userName
  let password ← encodeOptional encodeBinary packet.password
  return protocolName ++ [5, connectFlags packet] ++ keepAlive ++ props ++ clientIdentifier ++
    will ++ userName ++ password

def connectPropTypes : List PropertyType :=
  [.SESSION_EXPIRY_INTERVAL, .RECEIVE_MAXIMUM, .MAXIMUM_PACKET_SIZE, .TOPIC_ALIAS_MAXIMUM,
   .REQUEST_RESPONSE_INFORMATION, .REQUEST_PROBLEM_INFORMATION, .USER_PROPERTY,
   .AUTHENTICATION_METHOD, .AUTHENTICATION_DATA]

def decodeConnectPacket : ByteReader Error ConnectPacket := fun data => do
  let (protocolName, data) ← decodeString data
  if protocolName ≠ "MQTT" then
    throw (.mqttError .UNSUPPORTED_PROTOCOL_VERSION "invalid protocol name")
  let (protocolVersion, data) ← decodeUint8 data
  if protocolVersion ≠ 5 then
    throw (.mqttError .UNSUPPORTED_PROTOCOL_VERSION "unsupported protocol version")
  let (connectFlags, data) ← decodeUint8 data
  let cleanStart := bit connectFlags 0x02
  let willFlag := bit connectFlags 0x04
  let willRetain := bit connectFlags 0x20
  let userNameFlag := bit connectFlags 0x80
  let passwordFlag := bit connectFlags 0x40
  let willQos : QoS ← enumOf .MALFORMED_PACKET ((connectFlags >>> 3) &&& 0x03)
  let (keepAlive, data) ← decodeUint16 data
  let (props, data) ← decodeProps connectPropTypes data
  let authenticationMethod := props.get .AUTHENTICATION_METHOD
  let authenticationData := props.get .AUTHENTICATION_DATA
  if authenticationMethod.isNone ∧ authenticationData.isSome then
    throw (.protocol "authentication method not specified")
  let (clientIdentifier, data) ← decodeString data
  let (will, data) ← decodeOptional willFlag (decodeWill willQos willRetain) data
  let (userName, data) ← decodeOptional userNameFlag decodeString data
  let (password, data) ← decodeOptional passwordFlag decodeBinary data
  return ({
    cleanStart := cleanStart
    keepAlive := keepAlive
    sessionExpiryInterval := (props.get .SESSION_EXPIRY_INTERVAL).getD (0 : ℕ)
    receiveMaximum := (props.get .RECEIVE_MAXIMUM).getD (0xffff : ℕ)
    maximumPacketSize := props.get .MAXIMUM_PACKET_SIZE
    topicAliasMaximum := (props.get .TOPIC_ALIAS_MAXIMUM).getD (0 : ℕ)
    requestResponseInformation := boolOf (props.get .REQUEST_RESPONSE_INFORMATION) 0
    requestProblemInformation := boolOf (props.get .REQUEST_PROBLEM_INFORMATION) 1
    userProperties := (props.get .USER_PROPERTY).getD List.nil
    authenticationMethod := authenticationMethod
    authenticationData := authenticationData
    clientIdentifier := clientIdentifier
    will := will
    userName := userName
    password := password }, data)

/-! ### CONNACK -/

def connackProps (packet : ConnAckPacket) : Template :=
  [⟨.SESSION_EXPIRY_INTERVAL, packet.sessionExpiryInterval⟩,
   ⟨.RECEIVE_MAXIMUM,
    if packet.receiveMaximum ≠ 0xffff then some packet.receiveMaximum else none⟩,
   ⟨.MAXIMUM_QOS, if packet.maximumQos ≠ .EXACLTY_ONCE then some packet.maximumQos else none⟩,
   ⟨.RETAIN_AVAILABLE, if ¬ packet.retainAvailable then some (0 : ℕ) else none⟩,
   ⟨.MAXIMUM_PACKET_SIZE, packet.maximumPacketSize⟩,
   ⟨.ASSIGNED_CLIENT_IDENTIFIER, packet.assignedClientIdentifier⟩,
   ⟨.TOPIC_ALIAS_MAXIMUM,
    if packet.topicAliasMaximum ≠ 0 then some packet.topicAliasMaximum else none⟩,
   ⟨.REASON_STRING, packet.reasonString⟩,
   ⟨.USER_PROPERTY, if packet.userProperties ≠ [] then some packet.userProperties else none⟩,
   ⟨.WILDCARD_SUBSCRIPTION_AVAILABLE,
    if ¬ packet.wildcardSubscriptionAvailable then some (0 : ℕ) else none⟩,
   ⟨.SUBSCRIPTION_IDENTIFIER_AVAILABLE,
    if ¬ packet.subscriptionIdentifierAvailable then some (0 : ℕ) else none⟩,
   ⟨.SHARED_SUBSCRIPTION_AVAILABLE,
    if ¬ packet.sharedSubscriptionAvailable then some (0 : ℕ) else none⟩,
   ⟨.SERVER_KEEP_ALIVE, packet.serverKeepAlive⟩,
   ⟨.RESPONSE_INFORMATION, packet.responseInformation⟩,
   ⟨.SERVER_REFERENCE, packet.serverReference⟩,
   ⟨.AUTHENTICATION_METHOD, packet.authenticationMethod⟩,
   ⟨.AUTHENTICATION_DATA, packet.authenticationData⟩]

def encodeConnackPacket (packet : ConnAckPacket) : Except Error (List ℕ) := do
  let reason ← encodeReason packet.reason
  let props ← encodeProps (present (connackProps packet))
  return [if packet.sessionPresent then 0x01 else 0x00] ++ reason ++ props

def connackPropTypes : List PropertyType :=
  [.SESSION_EXPIRY_INTERVAL, .RECEIVE_MAXIMUM, .MAXIMUM_QOS, .RETAIN_AVAILABLE,
   .MAXIMUM_PACKET_SIZE, .ASSIGNED_CLIENT_IDENTIFIER, .TOPIC_ALIAS_MAXIMUM, .REASON_STRING,
   .USER_PROPERTY, .WILDCARD_SUBSCRIPTION_AVAILABLE, .SUBSCRIPTION_IDENTIFIER_AVAILABLE,
   .SHARED_SUBSCRIPTION_AVAILABLE, .SERVER_KEEP_ALIVE, .RESPONSE_INFORMATION, .SERVER_REFERENCE,
   .AUTHENTICATION_METHOD, .AUTHENTICATION_DATA]

def decodeConnackPacket : ByteReader Error ConnAckPacket := fun data => do
  let (connackFlags, data) ← decodeUint8 data
  let sessionPresent := bit connackFlags 0x01
  let (reason, data) ← decodeReason data
  let (props, data) ← decodeProps connackPropTypes data
  return ({
    sessionPresent := sessionPresent
    reason := reason
    sessionExpiryInterval := props.get .SESSION_EXPIRY_INTERVAL
    receiveMaximum := (props.get .RECEIVE_MAXIMUM).getD (0xffff : ℕ)
    maximumQos := (props.get .MAXIMUM_QOS).getD QoS.EXACLTY_ONCE
    retainAvailable := boolOf (props.get .RETAIN_AVAILABLE) 1
    maximumPacketSize := props.get .MAXIMUM_PACKET_SIZE
    assignedClientIdentifier := props.get .ASSIGNED_CLIENT_IDENTIFIER
    topicAliasMaximum := (props.get .TOPIC_ALIAS_MAXIMUM).getD (0 : ℕ)
    reasonString := props.get .REASON_STRING
    userProperties := (props.get .USER_PROPERTY).getD List.nil
    wildcardSubscriptionAvailable := boolOf (props.get .WILDCARD_SUBSCRIPTION_AVAILABLE) 1
    subscriptionIdentifierAvailable := boolOf (props.get .SUBSCRIPTION_IDENTIFIER_AVAILABLE) 1
    sharedSubscriptionAvailable := boolOf (props.get .SHARED_SUBSCRIPTION_AVAILABLE) 1
    serverKeepAlive := props.get .SERVER_KEEP_ALIVE
    responseInformation := props.get .RESPONSE_INFORMATION
    serverReference := props.get .SERVER_REFERENCE
    authenticationMethod := props.get .AUTHENTICATION_METHOD
    authenticationData := props.get .AUTHENTICATION_DATA }, data)

/-! ### PUBLISH -/

def publishProps (packet : PublishPacket) : Template :=
  [⟨.PAYLOAD_FORMAT_INDICATOR, packet.payload.format⟩,
   ⟨.MESSAGE_EXPIRY_INTERVAL, packet.messageExpiryInterval⟩,
   ⟨.TOPIC_ALIAS, packet.topicAlias⟩,
   ⟨.RESPONSE_TOPIC, packet.responseTopic⟩,
   ⟨.CORRELATION_DATA, packet.correlationData⟩,
   ⟨.USER_PROPERTY, if packet.userProperties ≠ [] then some packet.userProperties else none⟩,
   ⟨.CONTENT_TYPE, packet.contentType⟩]

def encodePacketIdentifier (qos : QoS) (packetIdentifier : Option ℕ) : Except Error (List ℕ) :=
  if qos ≠ .AT_MOST_ONCE then
    match packetIdentifier with
    | none => throw (.exception "invalid packet identifier")
    | some packetIdentifier => encodeUint16 packetIdentifier
  else pure []

/-- The rest of the data as a payload. -/
def decodePayloadData (text : Bool) (data : Bytes) : Except Error Payload :=
  if text then
    match decodeUtf8 data with
    | some s => .ok (.str s)
    | none => .error (.malformed "invalid utf-8 encoding")
  else .ok (.bytes data)

def encodePublishPacket (packet : PublishPacket) : Except Error (List ℕ) := do
  let topicName ← encodeString packet.topicName
  let packetIdentifier ← encodePacketIdentifier packet.qos packet.packetIdentifier
  -- the value of this key is read from `packet.subscription_identifier`, which no packet has
  if packet.subscriptionIdentifiers ≠ [] then throw (.exn .attributeError)
  let props ← encodeProps (present (publishProps packet))
  return topicName ++ packetIdentifier ++ props ++ packet.payload.encode.map UInt8.toNat

def publishPropTypes : List PropertyType :=
  [.PAYLOAD_FORMAT_INDICATOR, .MESSAGE_EXPIRY_INTERVAL, .TOPIC_ALIAS, .RESPONSE_TOPIC,
   .CORRELATION_DATA, .USER_PROPERTY, .SUBSCRIPTION_IDENTIFIER, .CONTENT_TYPE]

def decodePublishPacket (duplicate : Bool) (qos : QoS) (retain : Bool) :
    ByteReader Error PublishPacket := fun data => do
  let (topicName, data) ← decodeString data
  let (packetIdentifier, data) ← decodeOptional (qos ≠ .AT_MOST_ONCE) decodeUint16 data
  let (props, data) ← decodeProps publishPropTypes data
  let payload ← decodePayloadData (boolOf (props.get .PAYLOAD_FORMAT_INDICATOR) 0) data
  return ({
    duplicate := duplicate
    qos := qos
    retain := retain
    topicName := topicName
    packetIdentifier := packetIdentifier
    messageExpiryInterval := props.get .MESSAGE_EXPIRY_INTERVAL
    topicAlias := props.get .TOPIC_ALIAS
    responseTopic := props.get .RESPONSE_TOPIC
    correlationData := props.get .CORRELATION_DATA
    userProperties := (props.get .USER_PROPERTY).getD List.nil
    subscriptionIdentifiers := (props.get .SUBSCRIPTION_IDENTIFIER).getD List.nil
    contentType := props.get .CONTENT_TYPE
    payload := payload }, [])

/-! ### PUBACK, PUBREC, PUBREL and PUBCOMP -/

def reasonProps (reasonString : Option String) (userProperties : UserProperties) : Template :=
  [⟨.REASON_STRING, reasonString⟩,
   ⟨.USER_PROPERTY, if userProperties ≠ [] then some userProperties else none⟩]

def encodeReasonPacket (packet : ReasonPacket) : Except Error (List ℕ) := do
  let packetIdentifier ← encodeUint16 packet.packetIdentifier
  let reason ← encodeReason packet.reason
  let props ← encodeProps (present (reasonProps packet.reasonString packet.userProperties))
  return packetIdentifier ++ reason ++ props

def reasonPropTypes : List PropertyType :=
  [.REASON_STRING, .USER_PROPERTY]

def decodeReasonPacket : ByteReader Error ReasonPacket := fun data => do
  let (packetIdentifier, data) ← decodeUint16 data
  let (reason, data) ← decodeReason data
  let (props, data) ← decodeProps reasonPropTypes data
  return ({
    packetIdentifier := packetIdentifier
    reason := reason
    reasonString := props.get .REASON_STRING
    userProperties := (props.get .USER_PROPERTY).getD List.nil }, data)

def encodePubackPacket : PubAckPacket → Except Error (List ℕ) := encodeReasonPacket

def decodePubackPacket : ByteReader Error PubAckPacket := decodeReasonPacket

def encodePubrecPacket : PubRecPacket → Except Error (List ℕ) := encodeReasonPacket

def decodePubrecPacket : ByteReader Error PubRecPacket := decodeReasonPacket

def encodePubrelPacket : PubRelPacket → Except Error (List ℕ) := encodeReasonPacket

def decodePubrelPacket : ByteReader Error PubRelPacket := decodeReasonPacket

def encodePubcompPacket : PubCompPacket → Except Error (List ℕ) := encodeReasonPacket

def decodePubcompPacket : ByteReader Error PubCompPacket := decodeReasonPacket

/-! ### SUBSCRIBE -/

def subscriptionOptions (subscription : Subscription) : ℕ :=
  subscription.maximumQos.value |||
  (if subscription.noLocal then 0x03 else 0x00) |||
  (if subscription.retainAsPublished then 0x04 else 0x00) |||
  (subscription.retainHandling.value <<< 4)

def encodeSubscription (subscription : Subscription) : Except Error (List ℕ) :=
  do return (← encodeString subscription.topicFilter) ++ [subscriptionOptions subscription]

def decodeSubscription : ByteReader Error Subscription := fun data => do
  let (topicFilter, data) ← decodeString data
  let (options, data) ← decodeUint8 data
  let noLocal := bit options 0x04
  let retainAsPublished := bit options 0x08
  let maximumQos : QoS ← enumOf .PROTOCOL_ERROR (options &&& 0x03)
  let retainHandling : RetainHandling ← enumOf .PROTOCOL_ERROR ((options >>> 4) &&& 0x03)
  return ({
    topicFilter := topicFilter
    maximumQos := maximumQos
    noLocal := noLocal
    retainAsPublished := retainAsPublished
    retainHandling := retainHandling }, data)

def subscribeProps (packet : SubscribePacket) : Template :=
  [⟨.SUBSCRIPTION_IDENTIFIER, packet.subscriptionIdentifier.map fun i => [i]⟩,
   ⟨.USER_PROPERTY, if packet.userProperties ≠ [] then some packet.userProperties else none⟩]

def encodeSubscribePacket (packet : SubscribePacket) : Except Error (List ℕ) := do
  let packetIdentifier ← encodeUint16 packet.packetIdentifier
  let props ← encodeProps (present (subscribeProps packet))
  if packet.subscriptions = [] then throw (.exception "invalid subscriptions length")
  let subscriptions ← writeAll encodeSubscription packet.subscriptions
  return packetIdentifier ++ props ++ subscriptions

def subscribePropTypes : List PropertyType :=
  [.SUBSCRIPTION_IDENTIFIER, .USER_PROPERTY]

def decodeSubscribePacket : ByteReader Error SubscribePacket := fun data => do
  let (packetIdentifier, data) ← decodeUint16 data
  let (props, data) ← decodeProps subscribePropTypes data
  let subscriptionIdentifiers : List ℕ := (props.get .SUBSCRIPTION_IDENTIFIER).getD List.nil
  if subscriptionIdentifiers.length > 1 then
    throw (.protocol "multiple SUBSCRIPTION_IDENTIFIER entries")
  let subscriptions ← readAll decodeSubscription data
  if subscriptions = [] then throw (.protocol "invalid subscriptions length")
  return ({
    packetIdentifier := packetIdentifier
    subscriptionIdentifier := subscriptionIdentifiers.head?
    userProperties := (props.get .USER_PROPERTY).getD List.nil
    subscriptions := subscriptions }, [])

/-! ### SUBACK and UNSUBACK -/

def encodeReasonsPacket (packet : ReasonsPacket) : Except Error (List ℕ) := do
  let packetIdentifier ← encodeUint16 packet.packetIdentifier
  let props ← encodeProps (present (reasonProps packet.reasonString packet.userProperties))
  if packet.reasons = [] then throw (.exception "invalid reasons length")
  let reasons ← writeAll encodeReason packet.reasons
  return packetIdentifier ++ props ++ reasons

def decodeReasonsPacket : ByteReader Error ReasonsPacket := fun data => do
  let (packetIdentifier, data) ← decodeUint16 data
  let (props, data) ← decodeProps reasonPropTypes data
  let reasons ← readAll decodeReason data
  if reasons = [] then throw (.protocol "invalid reasons length")
  return ({
    packetIdentifier := packetIdentifier
    reasonString := props.get .REASON_STRING
    userProperties := (props.get .USER_PROPERTY).getD List.nil
    reasons := reasons }, [])

def encodeSubackPacket : SubAckPacket → Except Error (List ℕ) := encodeReasonsPacket

def decodeSubackPacket : ByteReader Error SubAckPacket := decodeReasonsPacket

def encodeUnsubackPacket : UnsubAckPacket → Except Error (List ℕ) := encodeReasonsPacket

def decodeUnsubackPacket : ByteReader Error UnsubAckPacket := decodeReasonsPacket

/-! ### UNSUBSCRIBE -/

def unsubscribeProps (packet : UnsubscribePacket) : Template :=
  [⟨.USER_PROPERTY, if packet.userProperties ≠ [] then some packet.userProperties else none⟩]

def encodeUnsubscribePacket (packet : UnsubscribePacket) : Except Error (List ℕ) := do
  let packetIdentifier ← encodeUint16 packet.packetIdentifier
  let props ← encodeProps (present (unsubscribeProps packet))
  if packet.topicFilters = [] then throw (.exception "invalid topic filters length")
  let topicFilters ← writeAll encodeString packet.topicFilters
  return packetIdentifier ++ props ++ topicFilters

def unsubscribePropTypes : List PropertyType :=
  [.USER_PROPERTY]

def decodeUnsubscribePacket : ByteReader Error UnsubscribePacket := fun data => do
  let (packetIdentifier, data) ← decodeUint16 data
  let (props, data) ← decodeProps unsubscribePropTypes data
  let topicFilters ← readAll decodeString data
  if topicFilters = [] then throw (.protocol "invalid topic filters length")
  return ({
    packetIdentifier := packetIdentifier
    userProperties := (props.get .USER_PROPERTY).getD List.nil
    topicFilters := topicFilters }, [])

/-! ### DISCONNECT and AUTH -/

def disconnectProps (packet : DisconnectPacket) : Template :=
  [⟨.SESSION_EXPIRY_INTERVAL, packet.sessionExpiryInterval⟩,
   ⟨.REASON_STRING, packet.reasonString⟩,
   ⟨.USER_PROPERTY, if packet.userProperties ≠ [] then some packet.userProperties else none⟩,
   ⟨.SERVER_REFERENCE, packet.serverReference⟩]

def encodeDisconnectPacket (packet : DisconnectPacket) : Except Error (List ℕ) :=
  do return (← encodeReason packet.reason) ++ (← encodeProps (present (disconnectProps packet)))

def disconnectPropTypes : List PropertyType :=
  [.SESSION_EXPIRY_INTERVAL, .REASON_STRING, .USER_PROPERTY, .SERVER_REFERENCE]

def decodeDisconnectPacket : ByteReader Error DisconnectPacket := fun data => do
  let (reason, data) ← decodeReason data
  let (props, data) ← decodeProps disconnectPropTypes data
  return ({
    reason := reason
    sessionExpiryInterval := props.get .SESSION_EXPIRY_INTERVAL
    reasonString := props.get .REASON_STRING
    userProperties := (props.get .USER_PROPERTY).getD List.nil
    serverReference := props.get .SERVER_REFERENCE }, data)

def authProps (packet : AuthPacket) : Template :=
  [⟨.AUTHENTICATION_METHOD, some packet.authenticationMethod⟩,
   ⟨.AUTHENTICATION_DATA, packet.authenticationData⟩,
   ⟨.REASON_STRING, packet.reasonString⟩,
   ⟨.USER_PROPERTY, if packet.userProperties ≠ [] then some packet.userProperties else none⟩]

def encodeAuthPacket (packet : AuthPacket) : Except Error (List ℕ) :=
  do return (← encodeReason packet.reason) ++ (← encodeProps (present (authProps packet)))

def authPropTypes : List PropertyType :=
  [.AUTHENTICATION_METHOD, .AUTHENTICATION_DATA, .REASON_STRING, .USER_PROPERTY]

def decodeAuthPacket : ByteReader Error AuthPacket := fun data => do
  let (reason, data) ← decodeReason data
  let (props, data) ← decodeProps authPropTypes data
  match props.get .AUTHENTICATION_METHOD with
  | none => throw (.protocol "missing authentication method")
  | some authenticationMethod => return ({
      reason := reason
      authenticationMethod := authenticationMethod
      authenticationData := props.get .AUTHENTICATION_DATA
      reasonString := props.get .REASON_STRING
      userProperties := (props.get .USER_PROPERTY).getD List.nil }, data)

/-! ### Packets -/

/-- The type, the duplicate flag, the quality of service and the retain flag. -/
def packetHeader : Packet → PacketType × Bool × QoS × Bool
  | .connect _ => (.CONNECT, false, .AT_MOST_ONCE, false)
  | .connack _ => (.CONNACK, false, .AT_MOST_ONCE, false)
  | .publish packet => (.PUBLISH, packet.duplicate, packet.qos, packet.retain)
  | .puback _ => (.PUBACK, false, .AT_MOST_ONCE, false)
  | .pubrec _ => (.PUBREC, false, .AT_MOST_ONCE, false)
  | .pubrel _ => (.PUBREL, false, .AT_LEAST_ONCE, false)
  | .pubcomp _ => (.PUBCOMP, false, .AT_MOST_ONCE, false)
  | .subscribe _ => (.SUBSCRIBE, false, .AT_LEAST_ONCE, false)
  | .suback _ => (.SUBACK, false, .AT_MOST_ONCE, false)
  | .unsubscribe _ => (.UNSUBSCRIBE, false, .AT_LEAST_ONCE, false)
  | .unsuback _ => (.UNSUBACK, false, .AT_MOST_ONCE, false)
  | .pingreq => (.PINGREQ, false, .AT_MOST_ONCE, false)
  | .pingresp => (.PINGRESP, false, .AT_MOST_ONCE, false)
  | .disconnect _ => (.DISCONNECT, false, .AT_MOST_ONCE, false)
  | .auth _ => (.AUTH, false, .AT_MOST_ONCE, false)

def encodePacketData : Packet → Except Error (List ℕ)
  | .connect packet => encodeConnectPacket packet
  | .connack packet => encodeConnackPacket packet
  | .publish packet => encodePublishPacket packet
  | .puback packet => encodePubackPacket packet
  | .pubrec packet => encodePubrecPacket packet
  | .pubrel packet => encodePubrelPacket packet
  | .pubcomp packet => encodePubcompPacket packet
  | .subscribe packet => encodeSubscribePacket packet
  | .suback packet => encodeSubackPacket packet
  | .unsubscribe packet => encodeUnsubscribePacket packet
  | .unsuback packet => encodeUnsubackPacket packet
  | .pingreq => .ok []
  | .pingresp => .ok []
  | .disconnect packet => encodeDisconnectPacket packet
  | .auth packet => encodeAuthPacket packet

def headerByte (packetType : PacketType) (duplicate : Bool) (qos : QoS) (retain : Bool) : ℕ :=
  (packetType.value <<< 4) |||
  (if duplicate then 0x08 else 0x00) |||
  (qos.value <<< 1) |||
  (if retain then 0x01 else 0x00)

def encodePacket (packet : Packet) : Except Error Bytes := do
  let (packetType, duplicate, qos, retain) := packetHeader packet
  let packetData ← encodePacketData packet
  let remainingLen ← encodeUintvar packetData.length
  (toBytes (headerByte packetType duplicate qos retain :: remainingLen ++ packetData)).mapError
    .exn

/-- The fields of a packet whose flags are all fixed. -/
def decodeFixed {α : Type} (expected : QoS) (duplicate : Bool) (qos : QoS) (retain : Bool)
    (r : ByteReader Error α) : ByteReader Error α := fun data => do
  if duplicate ∨ qos ≠ expected ∨ retain then throw (.malformed "invalid fixed header flags")
  r data

def decodePacketData (packetType : PacketType) (duplicate : Bool) (qos : QoS) (retain : Bool) :
    ByteReader Error Packet :=
  match packetType with
  | .CONNECT =>
    decodeFixed .AT_MOST_ONCE duplicate qos retain (mapRead .connect decodeConnectPacket)
  | .CONNACK =>
    decodeFixed .AT_MOST_ONCE duplicate qos retain (mapRead .connack decodeConnackPacket)
  | .PUBLISH => mapRead .publish (decodePublishPacket duplicate qos retain)
  | .PUBACK =>
    decodeFixed .AT_MOST_ONCE duplicate qos retain (mapRead .puback decodePubackPacket)
  | .PUBREC =>
    decodeFixed .AT_MOST_ONCE duplicate qos retain (mapRead .pubrec decodePubrecPacket)
  | .PUBREL =>
    decodeFixed .AT_LEAST_ONCE duplicate qos retain (mapRead .pubrel decodePubrelPacket)
  | .PUBCOMP =>
    decodeFixed .AT_MOST_ONCE duplicate qos retain (mapRead .pubcomp decodePubcompPacket)
  | .SUBSCRIBE =>
    decodeFixed .AT_LEAST_ONCE duplicate qos retain (mapRead .subscribe decodeSubscribePacket)
  | .SUBACK =>
    decodeFixed .AT_MOST_ONCE duplicate qos retain (mapRead .suback decodeSubackPacket)
  | .UNSUBSCRIBE =>
    decodeFixed .AT_LEAST_ONCE duplicate qos retain (mapRead .unsubscribe decodeUnsubscribePacket)
  | .UNSUBACK =>
    decodeFixed .AT_MOST_ONCE duplicate qos retain (mapRead .unsuback decodeUnsubackPacket)
  | .PINGREQ =>
    decodeFixed .AT_MOST_ONCE duplicate qos retain fun data => .ok (.pingreq, data)
  | .PINGRESP =>
    decodeFixed .AT_MOST_ONCE duplicate qos retain fun data => .ok (.pingresp, data)
  | .DISCONNECT =>
    decodeFixed .AT_MOST_ONCE duplicate qos retain (mapRead .disconnect decodeDisconnectPacket)
  | .AUTH =>
    decodeFixed .AT_MOST_ONCE duplicate qos retain (mapRead .auth decodeAuthPacket)

def decodePacket (data : Bytes) : Except Error Packet := do
  if data.length < 2 then throw (.malformed "insufficient packet data")
  let header ← (byteAt data 0).mapError .exn
  let packetType : PacketType ← enumOf .MALFORMED_PACKET (header >>> 4)
  let duplicate := bit header 0x08
  let retain := bit header 0x01
  let qos : QoS ← enumOf .MALFORMED_PACKET ((header >>> 1) &&& 0x03)
  let (remainingLen, data) ← decodeUintvar (data.drop 1)
  if data.length ≠ remainingLen then throw (.malformed "invalid data length")
  let (packet, data) ← decodePacketData packetType duplicate qos retain data
  if data ≠ [] then throw (.malformed "excess packet data")
  return packet

/-- The loop of `get_next_packet_size`, with `tail` for `data[i + 1:]`. -/
def getNextPacketSizeLoop (data : Bytes) : ℕ → ℕ → Bytes → Except Error ℕ
  | 0, _, _ => .error (.malformed "invalid variable byte integer encoding")
  | _ + 1, i, [] => .ok (i + 2)
  | fuel + 1, i, b :: tail =>
    if b.toNat &&& 0x80 ≠ 0 then getNextPacketSizeLoop data fuel (i + 1) tail
    else do
      let (remainingLen, _) ← decodeUintvar (data.drop 1)
      return 2 + i + remainingLen

def getNextPacketSize (data : Bytes) : Except Error ℕ :=
  if data.length < 2 then .ok 2 else getNextPacketSizeLoop data 4 0 (data.drop 1)

end HatDrivers.Mqtt.Transport
