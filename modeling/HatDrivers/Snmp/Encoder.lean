import HatDrivers.Snmp.Encoder.V1
import HatDrivers.Snmp.Encoder.Security
import HatDrivers.Snmp.Tables

namespace HatDrivers.Snmp

open HatDrivers.Lib
open Asn1 (Ber Entity raises raises_eq_ok raises_error)

/-!
# SNMP driver — encoder

`encode` and `decode` of messages of all versions.  What is encoded is decoded to the same message
with callbacks that return its keys; a message that is authenticated is accepted under the HMAC of
the callback's key only.
-/

inductive Msg
  | v1 (msg : V1.Msg)
  | v2c (msg : V2c.Msg)
  | v3 (msg : V3.Msg)
  deriving DecidableEq

section

variable (ber : Ber) (crypto : Crypto)

/-- `encode`, with the salt that it may draw. -/
def encode (salt : Salt) (msg : Msg) (authKey privKey : Option Key) : Except Failure Bytes :=
  match msg with
  | .v1 msg => do
    let data ← V1.encodeMsg msg
    raises (ber.encodeV1 data)
  | .v2c msg => do
    let data ← V2c.encodeMsg msg
    raises (ber.encodeV2c data)
  | .v3 msg => do
    let data ← V3.encodeMsg ber crypto salt msg authKey privKey
    raises (ber.encodeV3 data)

/-- `_get_version`. -/
def getVersion (entity : Entity) : Except Failure Version :=
  match entity with
  | .constructed classType tagNumber (first :: _) =>
    if classType ≠ .UNIVERSAL ∨ tagNumber ≠ 16 ∨ first.classType ≠ .UNIVERSAL ∨
        first.tagNumber ≠ 2 then
      .error (.valueError "unsupported entity")
    else do
      let version ← raises (ber.decodeVersion first)
      enumOf Version version
  | _ => .error (.valueError "unsupported entity")

def decode (msgBytes : Bytes) (authKeyCb privKeyCb : Option KeyCb) : Except Failure Msg := do
  let (entity, _) ← raises (ber.decodeEntity msgBytes)
  let version ← getVersion ber entity
  match version with
  | .V1 =>
    let msg ← raises (ber.decodeV1 entity)
    return .v1 (← V1.decodeMsg msg)
  | .V2C =>
    let msg ← raises (ber.decodeV2c entity)
    return .v2c (← V2c.decodeMsg msg)
  | .V3 =>
    let msg ← raises (ber.decodeV3 entity)
    return .v3 (← V3.decodeMsg ber crypto msg authKeyCb privKeyCb)

end

variable {ber : Ber} {crypto : Crypto}

/-! ### Encoded messages -/

/-- The PDU is that of the message type, and the version has its data. -/
def Msg.WellFormed : Msg → Prop
  | v1 msg => msg.WellFormed
  | v2c msg => V2c.WellFormed msg.type msg.pdu
  | v3 msg => V2c.WellFormed msg.type msg.pdu

/-- The keys are those of a message's flags. -/
def Msg.Keyed (authKey privKey : Option Key) : Msg → Prop
  | v3 msg => V3.Keyed msg authKey privKey
  | v1 _ | v2c _ => True

/-- The callbacks return the keys of a message. -/
def Msg.Returns (authKey privKey : Option Key) (authKeyCb privKeyCb : KeyCb) : Msg → Prop
  | v3 msg => V3.Returns msg authKey privKey authKeyCb privKeyCb
  | v1 _ | v2c _ => True

/-- The version of a message's bytes. -/
theorem getVersion_reads {M : Type} {decodeValue : Entity → Option M} (version : Version) {msg : M}
    {bs : Bytes} (h : ber.Reads decodeValue (Enumeration.value version : ℕ) msg bs) :
    ∃ entity rest, ber.decodeEntity bs = some (entity, rest) ∧
      getVersion ber entity = .ok version ∧ decodeValue entity = some msg := by
  obtain ⟨first, elements, hclass, htag, hversion, hentity, hdecode⟩ := h []
  rw [List.append_nil] at hentity
  refine ⟨_, _, hentity, ?_, hdecode⟩
  rw [getVersion, if_neg (by simp [hclass, htag]), hversion, raises_eq_ok.mpr rfl, ok_bind,
    enumOf_value]

/-- A message whose value is what its bytes are read as is decoded from them. -/
theorem decode_of_reads {M : Type} {encodeValue : M → Option Bytes}
    {decodeValue : Entity → Option M} (version : Version) {value : M}
    (hreads : ∀ bs, encodeValue value = some bs →
      ber.Reads decodeValue (Enumeration.value version : ℕ) value bs)
    {salt : Salt} {msg : Msg} {authKey privKey : Option Key} {authKeyCb privKeyCb : Option KeyCb}
    (hencode : encode ber crypto salt msg authKey privKey = raises (encodeValue value))
    (hdecode : ∀ bs entity rest, ber.decodeEntity bs = some (entity, rest) →
      getVersion ber entity = .ok version → decodeValue entity = some value →
      decode ber crypto bs authKeyCb privKeyCb = .ok msg) :
    (∃ bs, encode ber crypto salt msg authKey privKey = .ok bs ∧
      decode ber crypto bs authKeyCb privKeyCb = .ok msg) ∨
      encode ber crypto salt msg authKey privKey = .error .asn1 := by
  rw [hencode]
  cases hbs : encodeValue value with
  | none => exact .inr rfl
  | some bs =>
    obtain ⟨entity, rest, hentity, hversion, hread⟩ := getVersion_reads version (hreads bs hbs)
    exact .inl ⟨bs, rfl, hdecode bs entity rest hentity hversion hread⟩

variable (crypto) in
theorem encode_v1_spec (hber : ber.Lawful) (salt : Salt) {msg : V1.Msg} (hmsg : msg.WellFormed)
    (authKey privKey : Option Key) (authKeyCb privKeyCb : Option KeyCb) :
    (∃ bs, encode ber crypto salt (.v1 msg) authKey privKey = .ok bs ∧
      decode ber crypto bs authKeyCb privKeyCb = .ok (.v1 msg)) ∨
      encode ber crypto salt (.v1 msg) authKey privKey = .error .asn1 := by
  obtain ⟨value, hvalue, hversion, hdecode⟩ := V1.encodeMsg_eq_ok hmsg
  apply decode_of_reads .V1 (fun bs hbs => hversion ▸ hber.v1 value bs hbs)
  · rw [encode, hvalue, ok_bind]
  · intro bs entity rest hentity hversion hread
    simp only [decode, hentity, hversion, hread, raises, ok_bind, hdecode, pure_eq_ok]

variable (crypto) in
theorem encode_v2c_spec (hber : ber.Lawful) (salt : Salt) {msg : V2c.Msg}
    (hmsg : V2c.WellFormed msg.type msg.pdu) (authKey privKey : Option Key)
    (authKeyCb privKeyCb : Option KeyCb) :
    (∃ bs, encode ber crypto salt (.v2c msg) authKey privKey = .ok bs ∧
      decode ber crypto bs authKeyCb privKeyCb = .ok (.v2c msg)) ∨
      encode ber crypto salt (.v2c msg) authKey privKey = .error .asn1 := by
  obtain ⟨value, hvalue, hversion, hdecode⟩ := V2c.encodeMsg_eq_ok hmsg
  apply decode_of_reads .V2C (fun bs hbs => hversion ▸ hber.v2c value bs hbs)
  · rw [encode, hvalue, ok_bind]
  · intro bs entity rest hentity hversion hread
    simp only [decode, hentity, hversion, hread, raises, ok_bind, hdecode, pure_eq_ok]

theorem encode_v3_spec (hber : ber.Lawful) (hcrypto : crypto.Lawful) (salt : Salt) {msg : V3.Msg}
    (hmsg : V2c.WellFormed msg.type msg.pdu) {authKey privKey : Option Key}
    (hkeys : V3.Keyed msg authKey privKey) :
    (∃ bs, encode ber crypto salt (.v3 msg) authKey privKey = .ok bs ∧
      ∀ authKeyCb privKeyCb, V3.Returns msg authKey privKey authKeyCb privKeyCb →
        decode ber crypto bs (some authKeyCb) (some privKeyCb) = .ok (.v3 msg)) ∨
      encode ber crypto salt (.v3 msg) authKey privKey = .error .asn1 := by
  obtain ⟨value, hvalue, hversion, hdecode⟩ | herror :=
    V3.encodeMsg_spec hber hcrypto salt hmsg hkeys
  · cases hbs : ber.encodeV3 value with
    | none =>
      right
      rw [encode, hvalue, ok_bind, hbs]
      rfl
    | some bs =>
      left
      refine ⟨bs, by rw [encode, hvalue, ok_bind, hbs]; rfl, fun authKeyCb privKeyCb hcbs => ?_⟩
      obtain ⟨entity, rest, hentity, hgetVersion, hread⟩ :=
        getVersion_reads .V3 (hversion ▸ hber.v3 value bs hbs)
      simp only [decode, hentity, hgetVersion, hread, raises, ok_bind,
        hdecode authKeyCb privKeyCb hcbs, pure_eq_ok]
  · right
    rw [encode, herror]
    rfl

/-- What is encoded for a message is decoded to it, if the encoder does not fail. -/
theorem encode_spec (hber : ber.Lawful) (hcrypto : crypto.Lawful) (salt : Salt)
    {msg : Msg} (hmsg : msg.WellFormed) {authKey privKey : Option Key}
    (hkeys : msg.Keyed authKey privKey) {authKeyCb privKeyCb : KeyCb}
    (hcbs : msg.Returns authKey privKey authKeyCb privKeyCb) :
    (∃ bs, encode ber crypto salt msg authKey privKey = .ok bs ∧
      decode ber crypto bs (some authKeyCb) (some privKeyCb) = .ok msg) ∨
      encode ber crypto salt msg authKey privKey = .error .asn1 := by
  cases msg with
  | v1 msg => exact encode_v1_spec crypto hber salt hmsg authKey privKey _ _
  | v2c msg => exact encode_v2c_spec crypto hber salt hmsg authKey privKey _ _
  | v3 msg =>
    obtain ⟨bs, hbs, hdecode⟩ | herror := encode_v3_spec hber hcrypto salt hmsg hkeys
    · exact .inl ⟨bs, hbs, hdecode authKeyCb privKeyCb hcbs⟩
    · exact .inr herror

/-- Only well-formed messages are encoded. -/
theorem wellFormed_of_encode {salt : Salt} {msg : Msg} {authKey privKey : Option Key} {bs : Bytes}
    (h : encode ber crypto salt msg authKey privKey = .ok bs) : msg.WellFormed := by
  cases msg with
  | v1 msg =>
    obtain ⟨value, hvalue, -⟩ := bind_eq_ok.mp h
    exact V1.wellFormed_of_encodeMsg hvalue
  | v2c msg =>
    obtain ⟨value, hvalue, -⟩ := bind_eq_ok.mp h
    exact V2c.wellFormed_of_encodeMsg hvalue
  | v3 msg =>
    obtain ⟨value, hvalue, -⟩ := bind_eq_ok.mp h
    exact V3.wellFormed_of_encodeMsg hvalue

/-! ### Accepted messages -/

/-- A message of version 3 is decoded of the parts of the value that its bytes are read as. -/
theorem decode_eq_v3 {msgBytes : Bytes} {authKeyCb privKeyCb : Option KeyCb} {msg : V3.Msg}
    (h : decode ber crypto msgBytes authKeyCb privKeyCb = .ok (.v3 msg)) :
    ∃ entity rest value params pdu, ber.decodeEntity msgBytes = some (entity, rest) ∧
      ber.decodeV3 entity = some value ∧
      V3.Decoding ber crypto authKeyCb privKeyCb value params pdu msg := by
  obtain ⟨⟨entity, rest⟩, hentity, h⟩ := bind_eq_ok.mp h
  obtain ⟨version, -, h⟩ := bind_eq_ok.mp h
  cases version with
  | V1 =>
    obtain ⟨_, -, h⟩ := bind_eq_ok.mp h
    obtain ⟨_, -, h⟩ := bind_eq_ok.mp h
    cases h
  | V2C =>
    obtain ⟨_, -, h⟩ := bind_eq_ok.mp h
    obtain ⟨_, -, h⟩ := bind_eq_ok.mp h
    cases h
  | V3 =>
    obtain ⟨value, hvalue, h⟩ := bind_eq_ok.mp h
    obtain ⟨msg', hmsg, h⟩ := bind_eq_ok.mp h
    cases h
    obtain ⟨params, pdu, hdecoding⟩ := V3.decodeMsg_eq_ok.mp hmsg
    exact ⟨entity, rest, value, params, pdu, raises_eq_ok.mp hentity, raises_eq_ok.mp hvalue,
      hdecoding⟩

/-- What is encoded for a message with its keys is decoded to it with callbacks that return them,
if the ASN.1 encoder does not raise; a message with the authentication flag is accepted only if
its authentication parameters are the first bytes of its HMAC under the key of the callback. -/
theorem decode_encode_msg (hber : ber.Lawful) (hcrypto : crypto.Lawful) :
    (∀ (salt : Salt) (msg : Msg) (authKey privKey : Option Key) (authKeyCb privKeyCb : KeyCb),
      msg.WellFormed → msg.Keyed authKey privKey →
      msg.Returns authKey privKey authKeyCb privKeyCb →
      (∃ bs, encode ber crypto salt msg authKey privKey = .ok bs ∧
        decode ber crypto bs (some authKeyCb) (some privKeyCb) = .ok msg) ∨
        encode ber crypto salt msg authKey privKey = .error .asn1) ∧
    ∀ (msgBytes : Bytes) (authKeyCb privKeyCb : Option KeyCb) (msg : V3.Msg),
      decode ber crypto msgBytes authKeyCb privKeyCb = .ok (.v3 msg) → msg.auth →
      ∃ entity rest value params rest' cb authKey,
        ber.decodeEntity msgBytes = some (entity, rest) ∧ ber.decodeV3 entity = some value ∧
        ber.decodeSecurity value.msgSecurityParameters = some (params, rest') ∧
        authKeyCb = some cb ∧ cb msg.authorativeEngine.id msg.user = .ok (some authKey) ∧
        V3.Verified ber crypto authKey value params := by
  constructor
  · intro salt msg authKey privKey authKeyCb privKeyCb hmsg hkeys hcbs
    exact encode_spec hber hcrypto salt hmsg hkeys hcbs
  · intro msgBytes authKeyCb privKeyCb msg h hauth
    obtain ⟨entity, rest, value, params, pdu, hentity, hvalue, hdecoding⟩ := decode_eq_v3 h
    obtain ⟨rest', hparams⟩ := hdecoding.security
    obtain ⟨cb, authKey, hcb, hkey, -, -, hverified⟩ :=
      V3.checkAuth_eq_ok.mp (hdecoding.checked hauth)
    refine ⟨entity, rest, value, params, rest', cb, authKey, hentity, hvalue, hparams, hcb, ?_,
      hverified⟩
    rw [hdecoding.engine, hdecoding.user]
    exact hkey

/-! A request and an inform of a user who is authenticated, their response, and an inform of the
same user without authentication. -/

def sampleEngine : EngineId := [0, 0, 0, 0, 0, 0, 0, 0, 0, 0, 0, 2]

def sampleUser : User := ⟨"a", some .MD5, some "maplesyrup", none, none⟩

/-- The MD5 hash of the user's extended password. -/
def samplePasswordHash : Bytes :=
  [159, 175, 50, 131, 136, 78, 146, 131, 78, 188, 152, 71, 216, 237, 217, 99]

/-- The user's localized key. -/
def sampleKey : Key :=
  ⟨.MD5, [82, 111, 94, 237, 159, 204, 226, 111, 137, 100, 194, 147, 7, 135, 216, 43]⟩

def sampleRequest : V3.Msg where
  type := .GET_REQUEST
  id := 1
  reportable := true
  auth := true
  priv := false
  authorativeEngine := ⟨sampleEngine, 0, 0⟩
  user := "a"
  context := ⟨sampleEngine, ""⟩
  pdu := .basic ⟨1, ⟨.NO_ERROR, 0⟩, []⟩

/-- Security parameters with those of the authentication, and their entity. -/
def sampleParams (auth : Bytes) : Asn1.V3.UsmSecurityParameters × Entity :=
  ({ msgAuthoritativeEngineID := sampleEngine
     msgAuthoritativeEngineBoots := 0
     msgAuthoritativeEngineTime := 0
     msgUserName := [97]
     msgAuthenticationParameters := auth
     msgPrivacyParameters := [] },
   .constructed .UNIVERSAL 16 [.primitive .UNIVERSAL 4 sampleEngine, .primitive .UNIVERSAL 2 [0],
     .primitive .UNIVERSAL 2 [0], .primitive .UNIVERSAL 4 [97], .primitive .UNIVERSAL 4 auth,
     .primitive .UNIVERSAL 4 []])

/-- A message with flags, its PDU and authentication parameters, and its entity. -/
def sampleValue (flags : UInt8) (type : V2c.MsgType) (tag : ℕ) (auth : Bytes) :
    Asn1.V3.SNMPv3Message × Entity :=
  ({ msgVersion := 3
     msgGlobalData := ⟨1, 2147483647, [flags], 3⟩
     msgSecurityParameters := (sampleParams auth).2.bytes
     msgData := .plaintext ⟨sampleEngine, [], (type, .pdu 1 0 0 [])⟩ },
   .constructed .UNIVERSAL 16 [.primitive .UNIVERSAL 2 [3],
     .constructed .UNIVERSAL 16 [.primitive .UNIVERSAL 2 [1],
       .primitive .UNIVERSAL 2 [127, 255, 255, 255], .primitive .UNIVERSAL 4 [flags],
       .primitive .UNIVERSAL 2 [3]],
     .primitive .UNIVERSAL 4 (sampleParams auth).2.bytes,
     .constructed .UNIVERSAL 16 [.primitive .UNIVERSAL 4 sampleEngine, .primitive .UNIVERSAL 4 [],
       .constructed .CONTEXT_SPECIFIC tag [.primitive .UNIVERSAL 2 [1],
         .primitive .UNIVERSAL 2 [0], .primitive .UNIVERSAL 2 [0],
         .constructed .UNIVERSAL 16 []]]])

def sampleRequestValue : Bytes → Asn1.V3.SNMPv3Message × Entity := sampleValue 5 .GET_REQUEST 0

def sampleInformValue : Bytes → Asn1.V3.SNMPv3Message × Entity := sampleValue 1 .INFORM_REQUEST 6

def sampleResponseValue : Bytes → Asn1.V3.SNMPv3Message × Entity := sampleValue 1 .RESPONSE 2

def forgedInformValue : Asn1.V3.SNMPv3Message × Entity := sampleValue 0 .INFORM_REQUEST 6 []

/-- The HMAC of the request under the key. -/
def sampleRequestDigest : Bytes :=
  [204, 114, 131, 100, 44, 45, 154, 202, 232, 164, 50, 26, 151, 9, 75, 87]

/-- The HMAC of the inform under the key. -/
def sampleInformDigest : Bytes :=
  [6, 193, 49, 75, 226, 126, 34, 21, 195, 252, 3, 85, 241, 123, 167, 124]

/-- The HMAC of the response under the key. -/
def sampleResponseDigest : Bytes :=
  [197, 37, 62, 18, 196, 109, 128, 205, 119, 168, 198, 87, 3, 126, 16, 189]

def noAuthParams : Bytes := List.replicate 12 0

def sampleBer : Ber :=
  .ofTables []
    [sampleRequestValue noAuthParams, sampleRequestValue (sampleRequestDigest.take 12),
      sampleInformValue noAuthParams, sampleInformValue (sampleInformDigest.take 12),
      sampleResponseValue noAuthParams, sampleResponseValue (sampleResponseDigest.take 12),
      forgedInformValue]
    [sampleParams noAuthParams, sampleParams (sampleRequestDigest.take 12),
      sampleParams (sampleInformDigest.take 12), sampleParams (sampleResponseDigest.take 12),
      sampleParams []]

def sampleCrypto : Crypto where
  hash
    | .md5, data =>
      if data = samplePasswordHash ++ sampleEngine ++ samplePasswordHash then sampleKey.data
      else samplePasswordHash
    | .sha1, _ => List.replicate 20 0
  hmac name key data :=
    if name = .md5 ∧ key = sampleKey.data then
      if data = (sampleRequestValue noAuthParams).2.bytes then sampleRequestDigest
      else if data = (sampleInformValue noAuthParams).2.bytes then sampleInformDigest
      else if data = (sampleResponseValue noAuthParams).2.bytes then sampleResponseDigest
      else []
    else []
  desEncrypt _ _ data := data
  desDecrypt _ _ data := data

theorem sampleBer_lawful : sampleBer.Lawful := by
  apply Asn1.Ber.lawful_ofTables
  all_goals decide +kernel

theorem sampleCrypto_lawful : sampleCrypto.Lawful where
  length_md5 data := by
    show (if _ then _ else _ : Bytes).length = 16
    split <;> rfl
  length_sha1 _ := rfl
  length_desEncrypt _ _ _ _ _ _ := rfl
  desDecrypt_desEncrypt _ _ _ _ _ _ := rfl

def sampleSalt : Salt := ⟨List.replicate 8 0, rfl⟩

theorem decode_encode_msg_sample :
    ∃ bs, encode sampleBer sampleCrypto sampleSalt (.v3 sampleRequest) (some sampleKey)
        none = .ok bs ∧
      decode sampleBer sampleCrypto bs (some fun _ _ => .ok (some sampleKey))
        (some fun _ _ => .ok none) = .ok (.v3 sampleRequest) := by
  have hmsg : (Msg.v3 sampleRequest).WellFormed := ⟨by decide, nofun⟩
  have hkeys : (Msg.v3 sampleRequest).Keyed (some sampleKey) none :=
    ⟨fun _ => ⟨_, rfl, by decide, by decide⟩, nofun⟩
  have hcbs : (Msg.v3 sampleRequest).Returns (some sampleKey) none
      (fun _ _ => .ok (some sampleKey)) (fun _ _ => .ok none) := ⟨fun _ => rfl, nofun⟩
  have hnot : encode sampleBer sampleCrypto sampleSalt (.v3 sampleRequest)
      (some sampleKey) none ≠ .error .asn1 := by decide +kernel
  exact ((decode_encode_msg sampleBer_lawful sampleCrypto_lawful).1 _ _ _ _ _ _ hmsg hkeys
    hcbs).resolve_right hnot

/-- A message of version 2c of the community "a", and its entity. -/
def communityValue (type : Asn1.V2c.MsgType) (tag : ℕ) (status index : UInt8) :
    Asn1.V2c.Message × Entity :=
  (⟨1, [97], (type, .pdu 1 status.toNat index.toNat [])⟩,
   .constructed .UNIVERSAL 16 [.primitive .UNIVERSAL 2 [1], .primitive .UNIVERSAL 4 [97],
     .constructed .CONTEXT_SPECIFIC tag [.primitive .UNIVERSAL 2 [1],
       .primitive .UNIVERSAL 2 [status], .primitive .UNIVERSAL 2 [index],
       .constructed .UNIVERSAL 16 []]])

def communityBer : Ber :=
  .ofTables [communityValue .GET_REQUEST 0 0 0, communityValue .RESPONSE 2 5 0,
    communityValue .INFORM_REQUEST 6 0 0, communityValue .RESPONSE 2 0 0] [] []

theorem communityBer_lawful : communityBer.Lawful := by
  apply Asn1.Ber.lawful_ofTables
  all_goals decide +kernel

/-- The user's key is made of the password. -/
theorem createKey_sampleUser :
    createKey sampleCrypto .MD5 (some "maplesyrup") sampleEngine = .ok sampleKey := by
  have hpassword (count : ℕ) (hcount : 44 < count) : sampleCrypto.hash .md5
      (extendPassword (Mqtt.Transport.encodeUtf8 "maplesyrup") count) = samplePasswordHash := by
    refine if_neg fun h => ?_
    have hlength := congrArg List.length h
    rw [extendPassword, List.length_map, List.length_range] at hlength
    rw [hlength] at hcount
    exact absurd hcount (by decide)
  have hdata : createKeyData sampleCrypto .md5 "maplesyrup" sampleEngine = sampleKey.data := by
    rw [createKeyData, hpassword _ (by decide)]
    decide +kernel
  rw [createKey, if_neg (by decide), hdata]
  rfl

end HatDrivers.Snmp
