import HatDrivers.Lib.ReadWhile
import HatDrivers.Mqtt.Transport.Fields
import Mathlib.Data.List.Sigma

namespace HatDrivers.Mqtt.Transport

open HatDrivers.Lib

/-!
# MQTT — properties

A packet carries a dictionary of properties, each of the value type of its key.  It
is written entry by entry, a property that may be repeated once for every value of
its list; the reader collects repeated values and refuses a repetition of any other
property.
-/

inductive PropertyType
  | PAYLOAD_FORMAT_INDICATOR | MESSAGE_EXPIRY_INTERVAL | CONTENT_TYPE | RESPONSE_TOPIC
  | CORRELATION_DATA | SUBSCRIPTION_IDENTIFIER | SESSION_EXPIRY_INTERVAL
  | ASSIGNED_CLIENT_IDENTIFIER | SERVER_KEEP_ALIVE | AUTHENTICATION_METHOD
  | AUTHENTICATION_DATA | REQUEST_PROBLEM_INFORMATION | WILL_DELAY_INTERVAL
  | REQUEST_RESPONSE_INFORMATION | RESPONSE_INFORMATION | SERVER_REFERENCE | REASON_STRING
  | RECEIVE_MAXIMUM | TOPIC_ALIAS_MAXIMUM | TOPIC_ALIAS | MAXIMUM_QOS | RETAIN_AVAILABLE
  | USER_PROPERTY | MAXIMUM_PACKET_SIZE | WILDCARD_SUBSCRIPTION_AVAILABLE
  | SUBSCRIPTION_IDENTIFIER_AVAILABLE | SHARED_SUBSCRIPTION_AVAILABLE
  deriving DecidableEq

namespace PropertyType

def value : PropertyType → ℕ
  | PAYLOAD_FORMAT_INDICATOR => 1
  | MESSAGE_EXPIRY_INTERVAL => 2
  | CONTENT_TYPE => 3
  | RESPONSE_TOPIC => 8
  | CORRELATION_DATA => 9
  | SUBSCRIPTION_IDENTIFIER => 11
  | SESSION_EXPIRY_INTERVAL => 17
  | ASSIGNED_CLIENT_IDENTIFIER => 18
  | SERVER_KEEP_ALIVE => 19
  | AUTHENTICATION_METHOD => 21
  | AUTHENTICATION_DATA => 22
  | REQUEST_PROBLEM_INFORMATION => 23
  | WILL_DELAY_INTERVAL => 24
  | REQUEST_RESPONSE_INFORMATION => 25
  | RESPONSE_INFORMATION => 26
  | SERVER_REFERENCE => 28
  | REASON_STRING => 31
  | RECEIVE_MAXIMUM => 33
  | TOPIC_ALIAS_MAXIMUM => 34
  | TOPIC_ALIAS => 35
  | MAXIMUM_QOS => 36
  | RETAIN_AVAILABLE => 37
  | USER_PROPERTY => 38
  | MAXIMUM_PACKET_SIZE => 39
  | WILDCARD_SUBSCRIPTION_AVAILABLE => 40
  | SUBSCRIPTION_IDENTIFIER_AVAILABLE => 41
  | SHARED_SUBSCRIPTION_AVAILABLE => 42

def name : PropertyType → String
  | PAYLOAD_FORMAT_INDICATOR => "PAYLOAD_FORMAT_INDICATOR"
  | MESSAGE_EXPIRY_INTERVAL => "MESSAGE_EXPIRY_INTERVAL"
  | CONTENT_TYPE => "CONTENT_TYPE"
  | RESPONSE_TOPIC => "RESPONSE_TOPIC"
  | CORRELATION_DATA => "CORRELATION_DATA"
  | SUBSCRIPTION_IDENTIFIER => "SUBSCRIPTION_IDENTIFIER"
  | SESSION_EXPIRY_INTERVAL => "SESSION_EXPIRY_INTERVAL"
  | ASSIGNED_CLIENT_IDENTIFIER => "ASSIGNED_CLIENT_IDENTIFIER"
  | SERVER_KEEP_ALIVE => "SERVER_KEEP_ALIVE"
  | AUTHENTICATION_METHOD => "AUTHENTICATION_METHOD"
  | AUTHENTICATION_DATA => "AUTHENTICATION_DATA"
  | REQUEST_PROBLEM_INFORMATION => "REQUEST_PROBLEM_INFORMATION"
  | WILL_DELAY_INTERVAL => "WILL_DELAY_INTERVAL"
  | REQUEST_RESPONSE_INFORMATION => "REQUEST_RESPONSE_INFORMATION"
  | RESPONSE_INFORMATION => "RESPONSE_INFORMATION"
  | SERVER_REFERENCE => "SERVER_REFERENCE"
  | REASON_STRING => "REASON_STRING"
  | RECEIVE_MAXIMUM => "RECEIVE_MAXIMUM"
  | TOPIC_ALIAS_MAXIMUM => "TOPIC_ALIAS_MAXIMUM"
  | TOPIC_ALIAS => "TOPIC_ALIAS"
  | MAXIMUM_QOS => "MAXIMUM_QOS"
  | RETAIN_AVAILABLE => "RETAIN_AVAILABLE"
  | USER_PROPERTY => "USER_PROPERTY"
  | MAXIMUM_PACKET_SIZE => "MAXIMUM_PACKET_SIZE"
  | WILDCARD_SUBSCRIPTION_AVAILABLE => "WILDCARD_SUBSCRIPTION_AVAILABLE"
  | SUBSCRIPTION_IDENTIFIER_AVAILABLE => "SUBSCRIPTION_IDENTIFIER_AVAILABLE"
  | SHARED_SUBSCRIPTION_AVAILABLE => "SHARED_SUBSCRIPTION_AVAILABLE"

instance : Enumeration PropertyType where
  name := "_PropertyType"
  value := value
  members :=
    [PAYLOAD_FORMAT_INDICATOR, MESSAGE_EXPIRY_INTERVAL, CONTENT_TYPE, RESPONSE_TOPIC,
     CORRELATION_DATA, SUBSCRIPTION_IDENTIFIER, SESSION_EXPIRY_INTERVAL,
     ASSIGNED_CLIENT_IDENTIFIER, SERVER_KEEP_ALIVE, AUTHENTICATION_METHOD,
     AUTHENTICATION_DATA, REQUEST_PROBLEM_INFORMATION, WILL_DELAY_INTERVAL,
     REQUEST_RESPONSE_INFORMATION, RESPONSE_INFORMATION, SERVER_REFERENCE, REASON_STRING,
     RECEIVE_MAXIMUM, TOPIC_ALIAS_MAXIMUM, TOPIC_ALIAS, MAXIMUM_QOS, RETAIN_AVAILABLE,
     USER_PROPERTY, MAXIMUM_PACKET_SIZE, WILDCARD_SUBSCRIPTION_AVAILABLE,
     SUBSCRIPTION_IDENTIFIER_AVAILABLE, SHARED_SUBSCRIPTION_AVAILABLE]
  find_value e := by cases e <;> rfl

theorem value_lt (t : PropertyType) : t.value < 128 := by
  cases t <;> decide

/-- Properties whose value is a list, written once for every entry. -/
def Repeated (t : PropertyType) : Prop := t = USER_PROPERTY ∨ t = SUBSCRIPTION_IDENTIFIER

instance (t : PropertyType) : Decidable t.Repeated := inferInstanceAs (Decidable (_ ∨ _))

/-- The type of a property's value. -/
def Value : PropertyType → Type
  | CONTENT_TYPE | RESPONSE_TOPIC | ASSIGNED_CLIENT_IDENTIFIER | AUTHENTICATION_METHOD
  | RESPONSE_INFORMATION | SERVER_REFERENCE | REASON_STRING => String
  | CORRELATION_DATA | AUTHENTICATION_DATA => Bytes
  | MAXIMUM_QOS => QoS
  | SUBSCRIPTION_IDENTIFIER => List ℕ
  | USER_PROPERTY => UserProperties
  | _ => ℕ

end PropertyType

open PropertyType

/-- A dictionary, in the order its keys were set. -/
abbrev Props := List (Σ t : PropertyType, t.Value)

/-- `props.get(t)`. -/
def Props.get (props : Props) (t : PropertyType) : Option t.Value := props.dlookup t

/-! ### Encoding -/

def invalidValue (t : PropertyType) : String := "invalid " ++ t.name ++ " value"

/-- `_encode_uint8` of a value in `(0, 1)`. -/
def encodeFlag (t : PropertyType) (prop : ℕ) : Except Error (List ℕ) :=
  if prop ≠ 0 ∧ prop ≠ 1 then .error (.exception (invalidValue t)) else encodeUint8 prop

/-- A value that must not be 0, written by `w`. -/
def encodeNonzero (t : PropertyType) (w : ByteWriter Error ℕ) (prop : ℕ) :
    Except Error (List ℕ) :=
  if prop = 0 then .error (.exception (invalidValue t)) else w prop

def encodeMaximumQos (t : PropertyType) (prop : QoS) : Except Error (List ℕ) :=
  if prop ≠ .AT_MOST_ONCE ∧ prop ≠ .AT_LEAST_ONCE then .error (.exception (invalidValue t))
  else encodeUint8 prop.value

/-- An entry of a repeated property, after its type. -/
def encodeEntry {α : Type} (t : PropertyType) (w : ByteWriter Error α) : ByteWriter Error α :=
  fun a => do return (← encodeUintvar t.value) ++ (← w a)

def encodePair : ByteWriter Error (String × String) := fun (k, v) =>
  do return (← encodeString k) ++ (← encodeString v)

def encodePropValue : (t : PropertyType) → t.Value → Except Error (List ℕ)
  | PAYLOAD_FORMAT_INDICATOR, prop => encodeFlag PAYLOAD_FORMAT_INDICATOR prop
  | MESSAGE_EXPIRY_INTERVAL, prop => encodeUint32 prop
  | CONTENT_TYPE, prop => encodeString prop
  | RESPONSE_TOPIC, prop => encodeString prop
  | CORRELATION_DATA, prop => encodeBinary prop
  | SUBSCRIPTION_IDENTIFIER, prop =>
    writeAll (fun i =>
      encodeNonzero SUBSCRIPTION_IDENTIFIER (encodeEntry SUBSCRIPTION_IDENTIFIER encodeUintvar) i)
      prop
  | SESSION_EXPIRY_INTERVAL, prop => encodeUint32 prop
  | ASSIGNED_CLIENT_IDENTIFIER, prop => encodeString prop
  | SERVER_KEEP_ALIVE, prop => encodeUint16 prop
  | AUTHENTICATION_METHOD, prop => encodeString prop
  | AUTHENTICATION_DATA, prop => encodeBinary prop
  | REQUEST_PROBLEM_INFORMATION, prop => encodeFlag REQUEST_PROBLEM_INFORMATION prop
  | WILL_DELAY_INTERVAL, prop => encodeUint32 prop
  | REQUEST_RESPONSE_INFORMATION, prop => encodeFlag REQUEST_RESPONSE_INFORMATION prop
  | RESPONSE_INFORMATION, prop => encodeString prop
  | SERVER_REFERENCE, prop => encodeString prop
  | REASON_STRING, prop => encodeString prop
  | RECEIVE_MAXIMUM, prop => encodeNonzero RECEIVE_MAXIMUM encodeUint16 prop
  | TOPIC_ALIAS_MAXIMUM, prop => encodeUint16 prop
  | TOPIC_ALIAS, prop => encodeUint16 prop
  | MAXIMUM_QOS, prop => encodeMaximumQos MAXIMUM_QOS prop
  | RETAIN_AVAILABLE, prop => encodeFlag RETAIN_AVAILABLE prop
  | USER_PROPERTY, prop => writeAll (encodeEntry USER_PROPERTY encodePair) prop
  | MAXIMUM_PACKET_SIZE, prop => encodeNonzero MAXIMUM_PACKET_SIZE encodeUint32 prop
  | WILDCARD_SUBSCRIPTION_AVAILABLE, prop => encodeFlag WILDCARD_SUBSCRIPTION_AVAILABLE prop
  | SUBSCRIPTION_IDENTIFIER_AVAILABLE, prop => encodeFlag SUBSCRIPTION_IDENTIFIER_AVAILABLE prop
  | SHARED_SUBSCRIPTION_AVAILABLE, prop => encodeFlag SHARED_SUBSCRIPTION_AVAILABLE prop

def encodeProp : ByteWriter Error (Σ t : PropertyType, t.Value) := fun ⟨t, prop⟩ => do
  let head ← if ¬ t.Repeated then encodeUintvar t.value else pure []
  return head ++ (← encodePropValue t prop)

def encodeProps (props : Props) : Except Error (List ℕ) := do
  let propsBytes ← writeAll encodeProp props
  return (← encodeUintvar propsBytes.length) ++ propsBytes

/-! ### Decoding -/

def decodeFlag (t : PropertyType) : ByteReader Error ℕ := fun data => do
  let (prop, data) ← decodeUint8 data
  if prop ≠ 0 ∧ prop ≠ 1 then throw (.protocol (invalidValue t))
  return (prop, data)

def decodeNonzero (t : PropertyType) (r : ByteReader Error ℕ) : ByteReader Error ℕ := fun data => do
  let (prop, data) ← r data
  if prop = 0 then throw (.protocol (invalidValue t))
  return (prop, data)

def decodeMaximumQos (t : PropertyType) : ByteReader Error QoS := fun data => do
  let (prop, data) ← decodeUint8 data
  let prop : QoS ← enumOf .PROTOCOL_ERROR prop
  if prop = .EXACLTY_ONCE then throw (.protocol (invalidValue t))
  return (prop, data)

def decodePair : ByteReader Error (String × String) := pairRead decodeString decodeString

/-- The value of one entry, for a repeated property as a list of one element. -/
def decodePropValue : (t : PropertyType) → ByteReader Error t.Value
  | PAYLOAD_FORMAT_INDICATOR => decodeFlag PAYLOAD_FORMAT_INDICATOR
  | MESSAGE_EXPIRY_INTERVAL => decodeUint32
  | CONTENT_TYPE => decodeString
  | RESPONSE_TOPIC => decodeString
  | CORRELATION_DATA => decodeBinary
  | SUBSCRIPTION_IDENTIFIER =>
    mapRead (fun i => [i]) (decodeNonzero SUBSCRIPTION_IDENTIFIER decodeUintvar)
  | SESSION_EXPIRY_INTERVAL => decodeUint32
  | ASSIGNED_CLIENT_IDENTIFIER => decodeString
  | SERVER_KEEP_ALIVE => decodeUint16
  | AUTHENTICATION_METHOD => decodeString
  | AUTHENTICATION_DATA => decodeBinary
  | REQUEST_PROBLEM_INFORMATION => decodeFlag REQUEST_PROBLEM_INFORMATION
  | WILL_DELAY_INTERVAL => decodeUint32
  | REQUEST_RESPONSE_INFORMATION => decodeFlag REQUEST_RESPONSE_INFORMATION
  | RESPONSE_INFORMATION => decodeString
  | SERVER_REFERENCE => decodeString
  | REASON_STRING => decodeString
  | RECEIVE_MAXIMUM => decodeNonzero RECEIVE_MAXIMUM decodeUint16
  | TOPIC_ALIAS_MAXIMUM => decodeUint16
  | TOPIC_ALIAS => decodeUint16
  | MAXIMUM_QOS => decodeMaximumQos MAXIMUM_QOS
  | RETAIN_AVAILABLE => decodeFlag RETAIN_AVAILABLE
  | USER_PROPERTY => mapRead (fun p => [p]) decodePair
  | MAXIMUM_PACKET_SIZE => decodeNonzero MAXIMUM_PACKET_SIZE decodeUint32
  | WILDCARD_SUBSCRIPTION_AVAILABLE => decodeFlag WILDCARD_SUBSCRIPTION_AVAILABLE
  | SUBSCRIPTION_IDENTIFIER_AVAILABLE => decodeFlag SUBSCRIPTION_IDENTIFIER_AVAILABLE
  | SHARED_SUBSCRIPTION_AVAILABLE => decodeFlag SHARED_SUBSCRIPTION_AVAILABLE

/-- The value of a key that is set again: appended if the property is repeated. -/
def joinValue : (t : PropertyType) → t.Value → t.Value → t.Value
  | SUBSCRIPTION_IDENTIFIER, props, prop => List.append props prop
  | USER_PROPERTY, props, prop => List.append props prop
  | _, _, prop => prop

def Props.add : Props → (t : PropertyType) → t.Value → Props
  | [], t, prop => [⟨t, prop⟩]
  | ⟨u, old⟩ :: props, t, prop =>
    if h : u = t then ⟨t, joinValue t (h ▸ old) prop⟩ :: props
    else ⟨u, old⟩ :: Props.add props t prop

def decodeProp (validPropTypes : List PropertyType) (props : Props) : ByteReader Error Props :=
  fun data => do
    let (propTypeValue, data) ← decodeUintvar data
    let propType : PropertyType ← enumOf .MALFORMED_PACKET propTypeValue
    if propType ∉ validPropTypes then throw (.protocol ("invalid property " ++ propType.name))
    if propType ∈ props.keys ∧ ¬ propType.Repeated then
      throw (.protocol ("multiple " ++ propType.name ++ " entries"))
    let (prop, data) ← decodePropValue propType data
    return (props.add propType prop, data)

def decodeProps (validPropTypes : List PropertyType) : ByteReader Error Props := fun data => do
  let (propsDataLen, data) ← decodeUintvar data
  if data.length < propsDataLen then throw (.malformed "invalid property length")
  let props ← readWhile (decodeProp validPropTypes) [] (data.take propsDataLen)
  return (props, data.drop propsDataLen)

/-! ### Values in range -/

def ValidUint (bound n : ℕ) : Prop := n ≤ bound

def ValidNonzero (bound n : ℕ) : Prop := n ≠ 0 ∧ n ≤ bound

def ValidString (s : String) : Prop := s.utf8ByteSize ≤ 0xffff

def ValidBinary (bs : Bytes) : Prop := bs.length ≤ 0xffff

def ValidPair (p : String × String) : Prop := ValidString p.1 ∧ ValidString p.2

/-- The entries of a repeated property: without one, the property is left out. -/
def ValidEntries {α : Type} (valid : α → Prop) (entries : List α) : Prop :=
  entries ≠ [] ∧ ∀ a ∈ entries, valid a

instance (bound n : ℕ) : Decidable (ValidUint bound n) := inferInstanceAs (Decidable (_ ≤ _))

instance (bound n : ℕ) : Decidable (ValidNonzero bound n) := inferInstanceAs (Decidable (_ ∧ _))

instance (s : String) : Decidable (ValidString s) := inferInstanceAs (Decidable (_ ≤ _))

instance (bs : Bytes) : Decidable (ValidBinary bs) := inferInstanceAs (Decidable (_ ≤ _))

instance (p : String × String) : Decidable (ValidPair p) := inferInstanceAs (Decidable (_ ∧ _))

/-- A value of a property that the protocol allows. -/
def PropertyType.Valid : (t : PropertyType) → t.Value → Prop
  | PAYLOAD_FORMAT_INDICATOR, prop => ValidUint 1 prop
  | MESSAGE_EXPIRY_INTERVAL, prop => ValidUint 0xffff_ffff prop
  | CONTENT_TYPE, prop => ValidString prop
  | RESPONSE_TOPIC, prop => ValidString prop
  | CORRELATION_DATA, prop => ValidBinary prop
  | SUBSCRIPTION_IDENTIFIER, prop => ValidEntries (ValidNonzero 0x0fff_ffff) prop
  | SESSION_EXPIRY_INTERVAL, prop => ValidUint 0xffff_ffff prop
  | ASSIGNED_CLIENT_IDENTIFIER, prop => ValidString prop
  | SERVER_KEEP_ALIVE, prop => ValidUint 0xffff prop
  | AUTHENTICATION_METHOD, prop => ValidString prop
  | AUTHENTICATION_DATA, prop => ValidBinary prop
  | REQUEST_PROBLEM_INFORMATION, prop => ValidUint 1 prop
  | WILL_DELAY_INTERVAL, prop => ValidUint 0xffff_ffff prop
  | REQUEST_RESPONSE_INFORMATION, prop => ValidUint 1 prop
  | RESPONSE_INFORMATION, prop => ValidString prop
  | SERVER_REFERENCE, prop => ValidString prop
  | REASON_STRING, prop => ValidString prop
  | RECEIVE_MAXIMUM, prop => ValidNonzero 0xffff prop
  | TOPIC_ALIAS_MAXIMUM, prop => ValidUint 0xffff prop
  | TOPIC_ALIAS, prop => ValidUint 0xffff prop
  | MAXIMUM_QOS, prop => prop ≠ QoS.EXACLTY_ONCE
  | RETAIN_AVAILABLE, prop => ValidUint 1 prop
  | USER_PROPERTY, prop => ValidEntries ValidPair prop
  | MAXIMUM_PACKET_SIZE, prop => ValidNonzero 0xffff_ffff prop
  | WILDCARD_SUBSCRIPTION_AVAILABLE, prop => ValidUint 1 prop
  | SUBSCRIPTION_IDENTIFIER_AVAILABLE, prop => ValidUint 1 prop
  | SHARED_SUBSCRIPTION_AVAILABLE, prop => ValidUint 1 prop

end HatDrivers.Mqtt.Transport
