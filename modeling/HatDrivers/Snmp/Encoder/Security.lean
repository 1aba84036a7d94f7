import HatDrivers.Snmp.Encoder.V3

namespace HatDrivers.Snmp.V3

open HatDrivers.Lib
open Asn1 (Ber raises raises_eq_ok raises_error)
open Asn1.V3 (ScopedPDU ScopedPduData HeaderData SNMPv3Message UsmSecurityParameters)
open Mqtt.Transport (encodeUtf8)

/-!
# SNMP driver — the security of messages

What a message of version 3 that is accepted went through (`Decoding`, `Verified`), and that a
message passes it where it is decoded with the keys that it was encoded with.
-/

variable {ber : Ber} {crypto : Crypto}

/-! ### What is decoded -/

/-- The authentication parameters are the first bytes of the HMAC of the message with zeros in
their place. -/
def Verified (ber : Ber) (crypto : Crypto) (authKey : Key) (msg : SNMPv3Message)
    (params : UsmSecurityParameters) : Prop :=
  ∃ paramsBytes msgBytes, ber.encodeSecurity (zeroed params) = some paramsBytes ∧
    ber.encodeV3 { msg with msgSecurityParameters := paramsBytes } = some msgBytes ∧
    params.msgAuthenticationParameters =
      (crypto.hmac authKey.type.hashName authKey.data msgBytes).take 12

/-- The check passes if the callback has a key that the parameters verify under. -/
theorem checkAuth_eq_ok {authKeyCb : Option KeyCb} {msg : SNMPv3Message}
    {params : UsmSecurityParameters} :
    checkAuth ber crypto authKeyCb msg params = .ok () ↔
      ∃ cb authKey, authKeyCb = some cb ∧
        cb params.msgAuthoritativeEngineID (decodeStr params.msgUserName) = .ok (some authKey) ∧
        authKey.type ≠ .DES ∧ authKey.Valid ∧ Verified ber crypto authKey msg params := by
  cases authKeyCb with
  | none => simp [checkAuth]
  | some cb =>
    rw [checkAuth, bind_eq_ok]
    constructor
    · rintro ⟨authKey, hcb, h⟩
      cases authKey with
      | none => exact absurd h nofun
      | some authKey =>
        obtain ⟨paramsBytes, hparams, h⟩ := bind_eq_ok.mp h
        obtain ⟨msgBytes, hmsg, h⟩ := bind_eq_ok.mp h
        obtain ⟨generated, hgenerated, h⟩ := bind_eq_ok.mp h
        obtain ⟨htype, hvalid, rfl⟩ := genAuthParamsBytes_eq_ok.mp hgenerated
        by_cases heq : params.msgAuthenticationParameters =
            (crypto.hmac authKey.type.hashName authKey.data msgBytes).take 12
        · exact ⟨cb, authKey, rfl, hcb, htype, hvalid, paramsBytes, msgBytes,
            raises_eq_ok.mp hparams, raises_eq_ok.mp hmsg, heq⟩
        · rw [if_pos heq] at h
          exact absurd h nofun
    · rintro ⟨cb', authKey, hcb', hcb, htype, hvalid, paramsBytes, msgBytes, hparams, hmsg, heq⟩
      cases hcb'
      refine ⟨some authKey, hcb, bind_eq_ok.mpr ⟨paramsBytes, raises_eq_ok.mpr hparams,
        bind_eq_ok.mpr ⟨msgBytes, raises_eq_ok.mpr hmsg, bind_eq_ok.mpr ⟨_,
          genAuthParamsBytes_eq_ok.mpr ⟨htype, hvalid, rfl⟩, ?_⟩⟩⟩⟩
      rw [if_neg (not_not.mpr heq)]
      rfl

/-- The PDU of an encrypted message was decrypted under the key of the callback. -/
theorem decryptMsgData_eq_ok {privKeyCb : Option KeyCb} {msg : SNMPv3Message}
    {params : UsmSecurityParameters} {pdu : ScopedPDU} :
    decryptMsgData ber crypto privKeyCb msg params = .ok pdu ↔
      ∃ cb privKey value pduBytes rest, privKeyCb = some cb ∧
        cb params.msgAuthoritativeEngineID (decodeStr params.msgUserName) = .ok (some privKey) ∧
        msg.msgData = .encryptedPDU value ∧
        decryptPdu crypto privKey params.msgPrivacyParameters value = .ok pduBytes ∧
        ber.decodeScopedPDU pduBytes = some (pdu, rest) := by
  cases privKeyCb with
  | none => simp [decryptMsgData]
  | some cb =>
    rw [decryptMsgData, bind_eq_ok]
    constructor
    · rintro ⟨privKey, hcb, h⟩
      cases privKey with
      | none => exact absurd h nofun
      | some privKey =>
        cases hdata : msg.msgData with
        | plaintext _ => rw [hdata] at h; exact absurd h nofun
        | encryptedPDU value =>
          simp only [hdata] at h
          obtain ⟨pduBytes, hbytes, h⟩ := bind_eq_ok.mp h
          obtain ⟨⟨pdu', rest⟩, hpdu, h⟩ := bind_eq_ok.mp h
          cases h
          exact ⟨cb, privKey, value, pduBytes, rest, rfl, hcb, rfl, hbytes,
            raises_eq_ok.mp hpdu⟩
    · rintro ⟨cb', privKey, value, pduBytes, rest, hcb', hcb, hdata, hbytes, hpdu⟩
      cases hcb'
      refine ⟨some privKey, hcb, ?_⟩
      simp only [hdata]
      exact bind_eq_ok.mpr ⟨pduBytes, hbytes,
        bind_eq_ok.mpr ⟨(pdu, rest), raises_eq_ok.mpr hpdu, rfl⟩⟩

/-- The message that is decoded, of the parts of the encoded one. -/
structure Decoding (ber : Ber) (crypto : Crypto) (authKeyCb privKeyCb : Option KeyCb)
    (value : SNMPv3Message) (params : UsmSecurityParameters) (pdu : ScopedPDU) (msg : Msg) :
    Prop where
  version : value.msgVersion = 3
  securityModel : value.msgGlobalData.msgSecurityModel = 3
  reportable : hasFlag value.msgGlobalData.msgFlags 4 = .ok msg.reportable
  auth : hasFlag value.msgGlobalData.msgFlags 1 = .ok msg.auth
  priv : hasFlag value.msgGlobalData.msgFlags 2 = .ok msg.priv
  security : ∃ rest, ber.decodeSecurity value.msgSecurityParameters = some (params, rest)
  checked : msg.auth → checkAuth ber crypto authKeyCb value params = .ok ()
  scopedPdu : (if msg.priv then decryptMsgData ber crypto privKeyCb value params
    else plainMsgData value) = .ok pdu
  type : msg.type = pdu.data.1
  msgPdu : V2c.decodePdu pdu.data.1 pdu.data.2 = .ok msg.pdu
  id : msg.id = value.msgGlobalData.msgID
  engine : msg.authorativeEngine = ⟨params.msgAuthoritativeEngineID,
    params.msgAuthoritativeEngineBoots, params.msgAuthoritativeEngineTime⟩
  user : msg.user = decodeStr params.msgUserName
  context : msg.context = ⟨pdu.contextEngineID, decodeStr pdu.contextName⟩

theorem decodeMsg_eq_ok {authKeyCb privKeyCb : Option KeyCb} {value : SNMPv3Message} {msg : Msg} :
    decodeMsg ber crypto value authKeyCb privKeyCb = .ok msg ↔
      ∃ params pdu, Decoding ber crypto authKeyCb privKeyCb value params pdu msg := by
  constructor
  · intro h
    rw [decodeMsg] at h
    by_cases hversion : value.msgVersion = (Enumeration.value Version.V3 : ℕ)
    swap
    · rw [if_pos hversion] at h
      exact absurd h nofun
    by_cases hmodel : value.msgGlobalData.msgSecurityModel = 3
    swap
    · rw [if_neg (not_not.mpr hversion), if_pos hmodel] at h
      exact absurd h nofun
    rw [if_neg (not_not.mpr hversion), if_neg (not_not.mpr hmodel)] at h
    obtain ⟨reportable, hreportable, h⟩ := bind_eq_ok.mp h
    obtain ⟨auth, hauth, h⟩ := bind_eq_ok.mp h
    obtain ⟨priv, hpriv, h⟩ := bind_eq_ok.mp h
    obtain ⟨⟨params, rest⟩, hparams, h⟩ := bind_eq_ok.mp h
    obtain ⟨_, hchecked, h⟩ := bind_eq_ok.mp h
    obtain ⟨pdu, hpdu, h⟩ := bind_eq_ok.mp h
    obtain ⟨msgPdu, hmsgPdu, h⟩ := bind_eq_ok.mp h
    cases h
    refine ⟨params, pdu, hversion, hmodel, hreportable, hauth, hpriv,
      ⟨rest, raises_eq_ok.mp hparams⟩, fun h => ?_, hpdu, rfl, hmsgPdu, rfl, rfl, rfl, rfl⟩
    rw [if_pos h] at hchecked
    exact hchecked
  · rintro ⟨params, pdu, h⟩
    obtain ⟨rest, hparams⟩ := h.security
    have hchecked : (if msg.auth then checkAuth ber crypto authKeyCb value params else .ok ()) =
        .ok () := by
      by_cases hauth : msg.auth
      · rw [if_pos hauth, h.checked hauth]
      · rw [if_neg hauth]
    have hversion : value.msgVersion = (Enumeration.value Version.V3 : ℕ) := h.version
    rw [decodeMsg, if_neg (not_not.mpr hversion), if_neg (not_not.mpr h.securityModel),
      h.reportable, ok_bind, h.auth, ok_bind, h.priv, ok_bind, raises_eq_ok.mpr hparams, ok_bind]
    refine bind_eq_ok.mpr ⟨(), hchecked, bind_eq_ok.mpr ⟨pdu, h.scopedPdu,
      bind_eq_ok.mpr ⟨msg.pdu, h.msgPdu, ?_⟩⟩⟩
    rw [← h.type, ← h.id, ← h.engine, ← h.user, ← h.context]
    rfl

/-! ### What is encoded -/

/-- The keys are those of the flags, with bytes for their types. -/
structure Keyed (msg : Msg) (authKey privKey : Option Key) : Prop where
  auth : msg.auth → ∃ key, authKey = some key ∧ key.type ≠ .DES ∧ key.Valid
  priv : msg.priv → msg.auth ∧ ∃ key, privKey = some key ∧ key.type = .DES ∧ key.Valid

/-- The callbacks return the keys. -/
structure Returns (msg : Msg) (authKey privKey : Option Key) (authKeyCb privKeyCb : KeyCb) :
    Prop where
  auth : msg.auth → authKeyCb msg.authorativeEngine.id msg.user = .ok authKey
  priv : msg.priv → privKeyCb msg.authorativeEngine.id msg.user = .ok privKey

/-- The data of a message from which a scoped PDU is read with a key. -/
def Holds (ber : Ber) (crypto : Crypto) (privKey : Option Key) (pdu : ScopedPDU)
    (msgData : ScopedPduData) (privParamsBytes : Bytes) : Prop :=
  match privKey with
  | some privKey => ∃ value pduBytes rest, msgData = .encryptedPDU value ∧
      decryptPdu crypto privKey privParamsBytes value = .ok pduBytes ∧
      ber.decodeScopedPDU pduBytes = some (pdu, rest)
  | none => msgData = .plaintext pdu

theorem encodeMsgData_spec (hber : ber.Lawful) (hcrypto : crypto.Lawful) (salt : Salt)
    {privKey : Option Key}
    (hkey : ∀ key, privKey = some key → key.type = .DES ∧ key.Valid) (pdu : ScopedPDU) :
    (∃ data, encodeMsgData ber crypto salt privKey pdu = .ok data ∧
      Holds ber crypto privKey pdu data.1 data.2) ∨
      encodeMsgData ber crypto salt privKey pdu = .error .asn1 := by
  cases privKey with
  | none => exact .inl ⟨(.plaintext pdu, []), rfl, rfl⟩
  | some key =>
    obtain ⟨htype, hvalid⟩ := hkey key rfl
    cases hpdu : ber.encodeScopedPDU pdu with
    | none =>
      right
      rw [encodeMsgData, hpdu]
      rfl
    | some bs =>
      obtain ⟨encrypted, hencrypt, hdecrypt⟩ := decryptPdu_encryptPdu hcrypto htype hvalid salt bs
      refine .inl ⟨(.encryptedPDU encrypted, salt.1), ?_, encrypted, padded bs, _, rfl, hdecrypt,
        hber.scopedPDU pdu bs hpdu _⟩
      rw [encodeMsgData, hpdu]
      exact bind_eq_ok.mpr ⟨bs, rfl, bind_eq_ok.mpr ⟨encrypted, hencrypt, rfl⟩⟩

variable (crypto) in
/-- The message carries what its authentication is checked with. -/
theorem authenticate_spec (hber : ber.Lawful) {authKey : Key} (htype : authKey.type ≠ .DES)
    (hvalid : authKey.Valid) {params : UsmSecurityParameters} (hzeroed : zeroed params = params)
    (msg : SNMPv3Message) (hmsg : ber.encodeSecurity params = some msg.msgSecurityParameters) :
    (∃ params' paramsBytes,
      authenticate ber crypto authKey params msg =
        .ok { msg with msgSecurityParameters := paramsBytes } ∧
      ber.decodeSecurity paramsBytes = some (params', []) ∧
      params' = { params with
        msgAuthenticationParameters := params'.msgAuthenticationParameters } ∧
      Verified ber crypto authKey { msg with msgSecurityParameters := paramsBytes } params') ∨
      authenticate ber crypto authKey params msg = .error .asn1 := by
  cases hbytes : ber.encodeV3 msg with
  | none =>
    right
    rw [authenticate, hbytes]
    rfl
  | some msgBytes =>
    have hgenerated : genAuthParamsBytes crypto authKey msgBytes =
        .ok ((crypto.hmac authKey.type.hashName authKey.data msgBytes).take 12) :=
      genAuthParamsBytes_eq_ok.mpr ⟨htype, hvalid, rfl⟩
    set generated := (crypto.hmac authKey.type.hashName authKey.data msgBytes).take 12
    have hauthenticate : authenticate ber crypto authKey params msg =
        (raises (ber.encodeSecurity { params with msgAuthenticationParameters := generated }) >>=
          fun paramsBytes => .ok { msg with msgSecurityParameters := paramsBytes }) := by
      rw [authenticate, hbytes, raises_eq_ok.mpr rfl, ok_bind, hgenerated]
      rfl
    rw [hauthenticate]
    cases hparams : ber.encodeSecurity { params with msgAuthenticationParameters := generated } with
    | none => exact .inr rfl
    | some paramsBytes =>
      have hdecode := hber.security _ _ hparams []
      rw [List.append_nil] at hdecode
      refine .inl ⟨_, paramsBytes, rfl, hdecode, rfl, msg.msgSecurityParameters, msgBytes, ?_,
        hbytes, rfl⟩
      rw [← hmsg]
      exact congrArg ber.encodeSecurity hzeroed

/-- The key that a message is authenticated or encrypted with. -/
def keyOf (flag : Bool) (key : Option Key) : Option Key := if flag then key else none

theorem usedKey_eq {flag : Bool} {key : Option Key} (h : flag → ∃ k, key = some k)
    (msg : String) : usedKey flag key msg = .ok (keyOf flag key) := by
  cases flag with
  | false => rfl
  | true =>
    obtain ⟨k, rfl⟩ := h rfl
    rfl

theorem keyOf_eq_some {flag : Bool} {key : Option Key} {k : Key} (h : keyOf flag key = some k) :
    flag ∧ key = some k := by
  cases flag with
  | false => cases h
  | true => exact ⟨rfl, h⟩

/-- The parameters that are read with a message are those that were written, but for the ones of
the authentication, which are right. -/
structure Secured (ber : Ber) (crypto : Crypto) (authKey : Option Key)
    (params : UsmSecurityParameters) (value : SNMPv3Message) (params' : UsmSecurityParameters) :
    Prop where
  security : ber.decodeSecurity value.msgSecurityParameters = some (params', [])
  params : params' = { params with
    msgAuthenticationParameters := params'.msgAuthenticationParameters }
  verified : ∀ key, authKey = some key → Verified ber crypto key value params'

/-- The security of a message, as the last steps of `encode_msg` add it. -/
def secure (ber : Ber) (crypto : Crypto) (authKey : Option Key) (msg : Msg)
    (data : ScopedPduData × Bytes) : Except Failure SNMPv3Message := do
  let params := securityParams msg data.2
  let paramsBytes ← raises (ber.encodeSecurity params)
  let value := msgValue msg paramsBytes data.1
  match authKey with
  | some authKey => authenticate ber crypto authKey params value
  | none => return value

theorem encodeMsg_eq {salt : Salt} {msg : Msg} (hmsg : V2c.WellFormed msg.type msg.pdu)
    {authKey privKey : Option Key} (hkeys : Keyed msg authKey privKey) {pdu : Asn1.V2c.PDU}
    (hpdu : V2c.encodePdu msg.pdu = .ok pdu) :
    encodeMsg ber crypto salt msg authKey privKey =
      (encodeMsgData ber crypto salt (keyOf msg.priv privKey)
        ⟨msg.context.engineId, encodeUtf8 msg.context.name, (msg.type, pdu)⟩ >>=
          secure ber crypto (keyOf msg.auth authKey) msg) := by
  have hauth := usedKey_eq (fun h => (hkeys.auth h).imp fun _ hk => hk.1)
    "authentication key not provided"
  have hpriv := usedKey_eq (fun h => (hkeys.priv h).2.imp fun _ hk => hk.1)
    "privacy key not provided"
  have hpair : ¬ (msg.priv ∧ ¬ msg.auth) := fun h => h.2 (hkeys.priv h.1).1
  rw [encodeMsg, hmsg.not_unsupported, if_neg Bool.false_ne_true, hauth, ok_bind, hpriv, ok_bind,
    if_neg hpair, ok_bind, hpdu, ok_bind]
  rfl

variable (crypto) in
theorem secure_spec (hber : ber.Lawful) {authKey : Option Key} {msg : Msg}
    (hkey : ∀ key, authKey = some key → msg.auth ∧ key.type ≠ .DES ∧ key.Valid)
    (data : ScopedPduData × Bytes) :
    (∃ value params, secure ber crypto authKey msg data = .ok value ∧
      value = msgValue msg value.msgSecurityParameters data.1 ∧
      Secured ber crypto authKey (securityParams msg data.2) value params) ∨
      secure ber crypto authKey msg data = .error .asn1 := by
  cases hparams : ber.encodeSecurity (securityParams msg data.2) with
  | none =>
    right
    rw [secure, hparams]
    rfl
  | some paramsBytes =>
    cases authKey with
    | none =>
      have hsecure : secure ber crypto none msg data = .ok (msgValue msg paramsBytes data.1) := by
        rw [secure, hparams]
        rfl
      have hdecode := hber.security _ _ hparams []
      rw [List.append_nil] at hdecode
      exact .inl ⟨_, _, hsecure, rfl, hdecode, rfl, nofun⟩
    | some key =>
      have hsecure : secure ber crypto (some key) msg data =
          authenticate ber crypto key (securityParams msg data.2)
            (msgValue msg paramsBytes data.1) := by
        rw [secure, hparams]
        rfl
      obtain ⟨hauth, htype, hvalid⟩ := hkey key rfl
      have hzeroed : zeroed (securityParams msg data.2) = securityParams msg data.2 := by
        rw [zeroed, securityParams, if_pos hauth]
      rw [hsecure]
      obtain ⟨params, bs, hok, hdecode, hparams', hverified⟩ | herror :=
        authenticate_spec crypto hber htype hvalid hzeroed
          (msgValue msg paramsBytes data.1) hparams
      · refine .inl ⟨_, params, hok, rfl, hdecode, hparams', fun key' hkey' => ?_⟩
        cases hkey'
        exact hverified
      · exact .inr herror

/-- What is encoded for a message is decoded to it, if the encoder does not fail. -/
theorem encodeMsg_spec (hber : ber.Lawful) (hcrypto : crypto.Lawful) (salt : Salt)
    {msg : Msg} (hmsg : V2c.WellFormed msg.type msg.pdu)
    {authKey privKey : Option Key} (hkeys : Keyed msg authKey privKey) :
    (∃ value, encodeMsg ber crypto salt msg authKey privKey = .ok value ∧ value.msgVersion = 3 ∧
      ∀ authKeyCb privKeyCb, Returns msg authKey privKey authKeyCb privKeyCb →
        decodeMsg ber crypto value (some authKeyCb) (some privKeyCb) = .ok msg) ∨
      encodeMsg ber crypto salt msg authKey privKey = .error .asn1 := by
  obtain ⟨pdu, hpdu⟩ := V2c.encodePdu_eq_ok hmsg.data
  rw [encodeMsg_eq hmsg hkeys hpdu]
  have hauthKey : ∀ key, keyOf msg.auth authKey = some key →
      msg.auth ∧ key.type ≠ .DES ∧ key.Valid := by
    intro key hkey
    obtain ⟨hauth, hkey⟩ := keyOf_eq_some hkey
    obtain ⟨key', hkey', htype, hvalid⟩ := hkeys.auth hauth
    cases hkey.symm.trans hkey'
    exact ⟨hauth, htype, hvalid⟩
  have hprivKey : ∀ key, keyOf msg.priv privKey = some key → key.type = .DES ∧ key.Valid := by
    intro key hkey
    obtain ⟨hpriv, hkey⟩ := keyOf_eq_some hkey
    obtain ⟨-, key', hkey', htype, hvalid⟩ := hkeys.priv hpriv
    cases hkey.symm.trans hkey'
    exact ⟨htype, hvalid⟩
  set scopedPdu : ScopedPDU := ⟨msg.context.engineId, encodeUtf8 msg.context.name, (msg.type, pdu)⟩
  obtain ⟨data, hdata, hholds⟩ | herror :=
    encodeMsgData_spec hber hcrypto salt hprivKey scopedPdu
  swap
  · right
    rw [herror]
    rfl
  rw [hdata, ok_bind]
  obtain ⟨value, params, hok, hvalue, hsecured⟩ | herror :=
    secure_spec crypto hber hauthKey data
  swap
  · exact .inr herror
  refine .inl ⟨value, hok, by rw [hvalue]; rfl, fun authKeyCb privKeyCb hcbs =>
    decodeMsg_eq_ok.mpr ⟨params, scopedPdu, ?_⟩⟩
  have hflags := hasFlag_msgFlags msg.reportable msg.auth msg.priv
  have hengine : params.msgAuthoritativeEngineID = msg.authorativeEngine.id := by
    rw [hsecured.params]
    rfl
  have huser : decodeStr params.msgUserName = msg.user := by
    rw [hsecured.params]
    exact decodeStr_encodeUtf8 msg.user
  refine
    { version := by rw [hvalue]; rfl
      securityModel := by rw [hvalue]; rfl
      reportable := by rw [hvalue]; exact hflags.1
      auth := by rw [hvalue]; exact hflags.2.1
      priv := by rw [hvalue]; exact hflags.2.2
      security := ⟨[], hsecured.security⟩
      checked := fun hauth => ?_
      scopedPdu := ?_
      type := rfl
      msgPdu := V2c.decodePdu_encodePdu hmsg.kind hpdu
      id := by rw [hvalue]; rfl
      engine := by rw [hsecured.params]; rfl
      user := huser.symm
      context := by rw [decodeStr_encodeUtf8] }
  · obtain ⟨key, rfl, htype, hvalid⟩ := hkeys.auth hauth
    have hkey : keyOf msg.auth (some key) = some key := if_pos hauth
    refine checkAuth_eq_ok.mpr ⟨authKeyCb, key, rfl, ?_, htype, hvalid,
      hsecured.verified key hkey⟩
    rw [hengine, huser, hcbs.auth hauth]
  · by_cases hpriv : msg.priv
    · obtain ⟨-, key, rfl, htype, hvalid⟩ := hkeys.priv hpriv
      rw [keyOf, if_pos hpriv] at hholds
      obtain ⟨encrypted, pduBytes, rest, hmsgData, hdecrypt, hdecode⟩ := hholds
      rw [if_pos hpriv]
      refine decryptMsgData_eq_ok.mpr ⟨privKeyCb, key, encrypted, pduBytes, rest, rfl, ?_, ?_, ?_,
        hdecode⟩
      · rw [hengine, huser, hcbs.priv hpriv]
      · rw [hvalue]
        exact hmsgData
      · rw [hsecured.params]
        exact hdecrypt
    · rw [keyOf, if_neg hpriv] at hholds
      rw [if_neg hpriv, plainMsgData, hvalue, msgValue, show data.1 = .plaintext scopedPdu from
        hholds]

theorem wellFormed_of_encodeMsg {salt : Salt} {msg : Msg} {authKey privKey : Option Key}
    {value : SNMPv3Message} (h : encodeMsg ber crypto salt msg authKey privKey = .ok value) :
    V2c.WellFormed msg.type msg.pdu := by
  rw [encodeMsg] at h
  by_cases hkind : V2c.unsupported msg.type msg.pdu
  · rw [if_pos hkind] at h
    cases h
  · rw [if_neg hkind] at h
    obtain ⟨_, -, h⟩ := bind_eq_ok.mp h
    obtain ⟨_, -, h⟩ := bind_eq_ok.mp h
    obtain ⟨_, -, h⟩ := bind_eq_ok.mp h
    obtain ⟨pdu, hpdu, -⟩ := bind_eq_ok.mp h
    exact V2c.wellFormed_of_encodePdu (by simpa using hkind) hpdu

end HatDrivers.Snmp.V3
