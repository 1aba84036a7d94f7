import HatDrivers.Snmp.Encoder.V2c
import HatDrivers.Snmp.Key

namespace HatDrivers.Snmp.V3

open HatDrivers.Lib
open Asn1 (Ber raises raises_eq_ok raises_error)
open Asn1.V3 (ScopedPDU ScopedPduData HeaderData SNMPv3Message UsmSecurityParameters)
open V2c (MsgType Pdu)
open Mqtt.Transport (encodeUtf8)

/-!
# SNMP driver — messages of version 3

`encode_msg` and `decode_msg` of `encoder/v3.py`: the scoped PDU may be encrypted, and the message
may carry the first bytes of the HMAC of itself with zeros in their place.
-/

structure AuthorativeEngine where
  id : EngineId
  boots : ℤ
  time : ℤ
  deriving DecidableEq

structure Msg where
  type : MsgType
  id : ℤ
  reportable : Bool
  auth : Bool
  priv : Bool
  authorativeEngine : AuthorativeEngine
  user : String
  context : Context
  pdu : Pdu
  deriving DecidableEq

/-! ### Flags -/

def msgFlags (reportable auth priv : Bool) : Bytes :=
  [(if reportable then 4 else 0) ||| (if priv then 2 else 0) ||| (if auth then 1 else 0)]

/-- `bool(msg_flags[0] & mask)`. -/
def hasFlag (flags : Bytes) (mask : UInt8) : Except Failure Bool :=
  match flags with
  | [] => .error .indexError
  | b :: _ => .ok (b &&& mask != 0)

theorem hasFlag_msgFlags (reportable auth priv : Bool) :
    hasFlag (msgFlags reportable auth priv) 4 = .ok reportable ∧
    hasFlag (msgFlags reportable auth priv) 1 = .ok auth ∧
    hasFlag (msgFlags reportable auth priv) 2 = .ok priv := by
  cases reportable <;> cases auth <;> cases priv <;> decide

variable (ber : Ber) (crypto : Crypto)

/-! ### Encoding -/

/-- The key of a message that has the flag. -/
def usedKey (flag : Bool) (key : Option Key) (msg : String) : Except Failure (Option Key) :=
  if flag then
    match key with
    | some key => .ok (some key)
    | none => .error (.exception msg)
  else .ok none

/-- The data of a message and its privacy parameters, with the salt that is drawn. -/
def encodeMsgData (salt : Salt) (privKey : Option Key) (pdu : ScopedPDU) :
    Except Failure (ScopedPduData × Bytes) :=
  match privKey with
  | some privKey => do
    let pduBytes ← raises (ber.encodeScopedPDU pdu)
    let encryptedPdu ← encryptPdu crypto salt privKey pduBytes
    return (.encryptedPDU encryptedPdu, salt.1)
  | none => .ok (.plaintext pdu, [])

/-- The parameters with zeros for the authentication. -/
def zeroed (params : UsmSecurityParameters) : UsmSecurityParameters :=
  { params with msgAuthenticationParameters := List.replicate 12 0 }

/-- The message with the authentication parameters. -/
def authenticate (authKey : Key) (params : UsmSecurityParameters) (msg : SNMPv3Message) :
    Except Failure SNMPv3Message := do
  let msgBytes ← raises (ber.encodeV3 msg)
  let authParamsBytes ← genAuthParamsBytes crypto authKey msgBytes
  let params := { params with msgAuthenticationParameters := authParamsBytes }
  let paramsBytes ← raises (ber.encodeSecurity params)
  return { msg with msgSecurityParameters := paramsBytes }

/-- The security parameters of a message, the authentication parameters being zeros. -/
def securityParams (msg : Msg) (privParamsBytes : Bytes) : UsmSecurityParameters where
  msgAuthoritativeEngineID := msg.authorativeEngine.id
  msgAuthoritativeEngineBoots := msg.authorativeEngine.boots
  msgAuthoritativeEngineTime := msg.authorativeEngine.time
  msgUserName := encodeUtf8 msg.user
  msgAuthenticationParameters := if msg.auth then List.replicate 12 0 else []
  msgPrivacyParameters := privParamsBytes

def msgValue (msg : Msg) (securityParamsBytes : Bytes) (msgData : ScopedPduData) :
    SNMPv3Message where
  msgVersion := (Enumeration.value Version.V3 : ℕ)
  msgGlobalData :=
    { msgID := msg.id
      msgMaxSize := 2147483647
      msgFlags := msgFlags msg.reportable msg.auth msg.priv
      msgSecurityModel := 3 }
  msgSecurityParameters := securityParamsBytes
  msgData := msgData

/-- `encode_msg`, with the salt that it may draw. -/
def encodeMsg (salt : Salt) (msg : Msg) (authKey privKey : Option Key) :
    Except Failure SNMPv3Message :=
  if V2c.unsupported msg.type msg.pdu then
    .error (.valueError "unsupported message type / pdu")
  else do
    let authKey ← usedKey msg.auth authKey "authentication key not provided"
    let privKey ← usedKey msg.priv privKey "privacy key not provided"
    let _ ← (if msg.priv ∧ ¬ msg.auth then .error (.exception "invalid auth/priv combination")
      else .ok ())
    let pdu := { contextEngineID := msg.context.engineId
                 contextName := encodeUtf8 msg.context.name
                 data := (msg.type, ← V2c.encodePdu msg.pdu) }
    let (msgData, privParamsBytes) ← encodeMsgData ber crypto salt privKey pdu
    let params := securityParams msg privParamsBytes
    let paramsBytes ← raises (ber.encodeSecurity params)
    let value := msgValue msg paramsBytes msgData
    match authKey with
    | some authKey => authenticate ber crypto authKey params value
    | none => return value

/-! ### Decoding -/

/-- The check of the authentication parameters. -/
def checkAuth (authKeyCb : Option KeyCb) (msg : SNMPv3Message) (params : UsmSecurityParameters) :
    Except Failure Unit :=
  match authKeyCb with
  | none => .error (.exception "auth not enabled")
  | some authKeyCb => do
    let authKey ← authKeyCb params.msgAuthoritativeEngineID (decodeStr params.msgUserName)
    match authKey with
    | none => throw (.exception "auth key not available")
    | some authKey =>
      let paramsBytes ← raises (ber.encodeSecurity (zeroed params))
      let msgBytes ← raises (ber.encodeV3 { msg with msgSecurityParameters := paramsBytes })
      let generated ← genAuthParamsBytes crypto authKey msgBytes
      if params.msgAuthenticationParameters ≠ generated then
        throw (.exception "authentication failed")

/-- The PDU of a message that is encrypted. -/
def decryptMsgData (privKeyCb : Option KeyCb) (msg : SNMPv3Message)
    (params : UsmSecurityParameters) : Except Failure ScopedPDU :=
  match privKeyCb with
  | none => .error (.exception "priv not enabled")
  | some privKeyCb => do
    let privKey ← privKeyCb params.msgAuthoritativeEngineID (decodeStr params.msgUserName)
    match privKey, msg.msgData with
    | none, _ => throw (.exception "priv key not available")
    | some _, .plaintext _ => throw (.exception "invalid pdu encoding")
    | some privKey, .encryptedPDU value =>
      let pduBytes ← decryptPdu crypto privKey params.msgPrivacyParameters value
      let (pdu, _) ← raises (ber.decodeScopedPDU pduBytes)
      return pdu

/-- The PDU of a message that is not encrypted. -/
def plainMsgData (msg : SNMPv3Message) : Except Failure ScopedPDU :=
  match msg.msgData with
  | .plaintext pdu => .ok pdu
  | .encryptedPDU _ => .error (.exception "invalid pdu encoding")

def decodeMsg (msg : SNMPv3Message) (authKeyCb privKeyCb : Option KeyCb) :
    Except Failure Msg :=
  if msg.msgVersion ≠ (Enumeration.value Version.V3 : ℕ) then
    .error (.exception "invalid msg version")
  else if msg.msgGlobalData.msgSecurityModel ≠ 3 then
    .error (.exception "unsupported security model")
  else do
    let reportable ← hasFlag msg.msgGlobalData.msgFlags 4
    let auth ← hasFlag msg.msgGlobalData.msgFlags 1
    let priv ← hasFlag msg.msgGlobalData.msgFlags 2
    let (params, _) ← raises (ber.decodeSecurity msg.msgSecurityParameters)
    let _ ← (if auth then checkAuth ber crypto authKeyCb msg params else .ok ())
    let pdu ← (if priv then decryptMsgData ber crypto privKeyCb msg params else plainMsgData msg)
    let msgPdu ← V2c.decodePdu pdu.data.1 pdu.data.2
    return { type := pdu.data.1
             id := msg.msgGlobalData.msgID
             reportable := reportable
             auth := auth
             priv := priv
             authorativeEngine :=
               { id := params.msgAuthoritativeEngineID
                 boots := params.msgAuthoritativeEngineBoots
                 time := params.msgAuthoritativeEngineTime }
             user := decodeStr params.msgUserName
             context := { engineId := pdu.contextEngineID, name := decodeStr pdu.contextName }
             pdu := msgPdu }

end HatDrivers.Snmp.V3
