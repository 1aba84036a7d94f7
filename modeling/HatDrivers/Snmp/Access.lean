import HatDrivers.Snmp.Users

namespace HatDrivers.Snmp.V3

open HatDrivers.Lib
open Asn1 (Ber)
open Asn1.V3 (ScopedPDU SNMPv3Message UsmSecurityParameters)

/-!
# SNMP driver — the security level of messages

`ReadAs` is what the bytes of a message say, whoever wrote them; `Secure` is that they are as secure
as a user is configured: authenticated under the user's localized key if the user has an
authentication type, and encrypted under the user's key if the user has a privacy type.
-/

variable (ber : Ber) (crypto : Crypto)

/-- A message of version 3, as its bytes are read, with a scoped PDU. -/
structure ReadAs (msgBytes : Bytes) (value : SNMPv3Message) (params : UsmSecurityParameters)
    (pdu : ScopedPDU) (msg : Msg) : Prop where
  entity : ∃ entity rest, ber.decodeEntity msgBytes = some (entity, rest) ∧
    ber.decodeV3 entity = some value
  security : ∃ rest, ber.decodeSecurity value.msgSecurityParameters = some (params, rest)
  auth : hasFlag value.msgGlobalData.msgFlags 1 = .ok msg.auth
  priv : hasFlag value.msgGlobalData.msgFlags 2 = .ok msg.priv
  engine : msg.authorativeEngine.id = params.msgAuthoritativeEngineID
  user : msg.user = decodeStr params.msgUserName
  context : msg.context = ⟨pdu.contextEngineID, decodeStr pdu.contextName⟩
  type : msg.type = pdu.data.1
  msgPdu : V2c.decodePdu pdu.data.1 pdu.data.2 = .ok msg.pdu

/-- The localized authentication key of a user. -/
def IsAuthKey (user : User) (engineId : EngineId) (key : Key) : Prop :=
  ∃ t, user.authType = some t ∧
    createKey crypto (authTypeToKeyType t) user.authPassword engineId = .ok key

/-- The localized privacy key of a user. -/
def IsPrivKey (user : User) (engineId : EngineId) (key : Key) : Prop :=
  ∃ t, user.privType = some t ∧
    createKey crypto (privTypeToKeyType t) user.privPassword engineId = .ok key

/-- A message that is authenticated and encrypted as a user is configured. -/
structure Secure (user : User) (value : SNMPv3Message) (params : UsmSecurityParameters)
    (pdu : ScopedPDU) (msg : Msg) : Prop where
  auth : user.authType.isSome → msg.auth ∧
    ∃ key, IsAuthKey crypto user msg.authorativeEngine.id key ∧
      Verified ber crypto key value params
  priv : user.privType.isSome → msg.priv ∧
    ∃ key encrypted pduBytes rest, IsPrivKey crypto user msg.authorativeEngine.id key ∧
      value.msgData = .encryptedPDU encrypted ∧
      decryptPdu crypto key params.msgPrivacyParameters encrypted = .ok pduBytes ∧
      ber.decodeScopedPDU pduBytes = some (pdu, rest)

variable {ber crypto}

/-- What is decoded is what the bytes say. -/
theorem Decoding.readAs {authKeyCb privKeyCb : Option KeyCb} {value : SNMPv3Message}
    {params : UsmSecurityParameters} {pdu : ScopedPDU} {msg : Msg}
    (h : Decoding ber crypto authKeyCb privKeyCb value params pdu msg) {msgBytes : Bytes}
    (hvalue : ∃ entity rest, ber.decodeEntity msgBytes = some (entity, rest) ∧
      ber.decodeV3 entity = some value) : ReadAs ber msgBytes value params pdu msg where
  entity := hvalue
  security := h.security
  auth := h.auth
  priv := h.priv
  engine := by rw [h.engine]
  user := h.user
  context := h.context
  type := h.type
  msgPdu := h.msgPdu

/-- A message is secure if it has the flags of a user and the callbacks return the user's keys. -/
theorem Decoding.secure {authKeyCb privKeyCb : KeyCb} {value : SNMPv3Message}
    {params : UsmSecurityParameters} {pdu : ScopedPDU} {msg : Msg}
    (h : Decoding ber crypto (some authKeyCb) (some privKeyCb) value params pdu msg) {user : User}
    (hauth : user.authType.isSome → msg.auth)
    (hauthCb : ∀ key, authKeyCb msg.authorativeEngine.id msg.user = .ok (some key) →
      IsAuthKey crypto user msg.authorativeEngine.id key)
    (hpriv : user.privType.isSome → msg.priv)
    (hprivCb : ∀ key, privKeyCb msg.authorativeEngine.id msg.user = .ok (some key) →
      IsPrivKey crypto user msg.authorativeEngine.id key) :
    Secure ber crypto user value params pdu msg := by
  have hengine : params.msgAuthoritativeEngineID = msg.authorativeEngine.id := by rw [h.engine]
  constructor
  · intro hsome
    obtain ⟨cb, key, hcb, hkey, -, -, hverified⟩ := checkAuth_eq_ok.mp (h.checked (hauth hsome))
    cases hcb
    rw [hengine, ← h.user] at hkey
    exact ⟨hauth hsome, key, hauthCb key hkey, hverified⟩
  · intro hsome
    have hpdu := h.scopedPdu
    rw [if_pos (hpriv hsome)] at hpdu
    obtain ⟨cb, key, encrypted, pduBytes, rest, hcb, hkey, hdata, hdecrypt, hdecode⟩ :=
      decryptMsgData_eq_ok.mp hpdu
    cases hcb
    rw [hengine, ← h.user] at hkey
    exact ⟨hpriv hsome, key, encrypted, pduBytes, rest, hprivCb key hkey, hdata, hdecrypt, hdecode⟩

/-- A flag of a message that is decoded stands for a key of the callback. -/
theorem Decoding.keys {authKeyCb privKeyCb : KeyCb} {value : SNMPv3Message}
    {params : UsmSecurityParameters} {pdu : ScopedPDU} {msg : Msg}
    (h : Decoding ber crypto (some authKeyCb) (some privKeyCb) value params pdu msg) :
    (msg.auth → ∃ key, authKeyCb msg.authorativeEngine.id msg.user = .ok (some key)) ∧
    (msg.priv → ∃ key, privKeyCb msg.authorativeEngine.id msg.user = .ok (some key)) := by
  have hengine : params.msgAuthoritativeEngineID = msg.authorativeEngine.id := by rw [h.engine]
  constructor
  · intro hauth
    obtain ⟨cb, key, hcb, hkey, -⟩ := checkAuth_eq_ok.mp (h.checked hauth)
    cases hcb
    rw [hengine, ← h.user] at hkey
    exact ⟨key, hkey⟩
  · intro hpriv
    have hpdu := h.scopedPdu
    rw [if_pos hpriv] at hpdu
    obtain ⟨cb, key, _, _, _, hcb, hkey, -⟩ := decryptMsgData_eq_ok.mp hpdu
    cases hcb
    rw [hengine, ← h.user] at hkey
    exact ⟨key, hkey⟩

end HatDrivers.Snmp.V3
