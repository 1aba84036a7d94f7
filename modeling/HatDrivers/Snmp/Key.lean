import HatDrivers.Snmp.Common

namespace HatDrivers.Snmp

open HatDrivers.Lib
open Mqtt.Transport (encodeUtf8)

/-!
# SNMP driver — keys and ciphers

The keys of users (`key.py`), the authentication parameters (`_gen_auth_params_bytes`) and the
encryption of PDUs (`_encrypt_pdu`, `_decrypt_pdu` and `openssl.py`).  The functions of `hashlib`,
`hmac` and of the library behind `openssl.py` are parameters.
-/

/-! ### The functions of libraries -/

inductive HashName
  | md5 | sha1
  deriving DecidableEq

structure Crypto where
  /-- `hashlib.new(name)`, updated with the data, and its `digest()` -/
  hash : HashName → Bytes → Bytes
  /-- `hmac.digest(key, data, name)` -/
  hmac : HashName → Bytes → Bytes → Bytes
  /-- `DES_ncbc_encrypt` with a key and an initialization vector, to encrypt -/
  desEncrypt : Bytes → Bytes → Bytes → Bytes
  /-- the same, to decrypt -/
  desDecrypt : Bytes → Bytes → Bytes → Bytes

/-- Digests have their length, and decryption undoes encryption of whole blocks. -/
structure Crypto.Lawful (crypto : Crypto) : Prop where
  length_md5 : ∀ data, (crypto.hash .md5 data).length = 16
  length_sha1 : ∀ data, (crypto.hash .sha1 data).length = 20
  length_desEncrypt : ∀ key iv data, key.length = 8 → iv.length = 8 → 8 ∣ data.length →
    (crypto.desEncrypt key iv data).length = data.length
  desDecrypt_desEncrypt : ∀ key iv data, key.length = 8 → iv.length = 8 → 8 ∣ data.length →
    crypto.desDecrypt key iv (crypto.desEncrypt key iv data) = data

/-! ### Keys -/

inductive KeyType
  | MD5 | SHA | DES
  deriving DecidableEq

structure Key where
  type : KeyType
  data : Bytes
  deriving DecidableEq

/-- `key.KeyCb`. -/
abbrev KeyCb := EngineId → String → Except Failure (Option Key)

def authTypeToKeyType : AuthType → KeyType
  | .MD5 => .MD5
  | .SHA => .SHA

def privTypeToKeyType : PrivType → KeyType
  | .DES => .DES

/-- The first bytes of a password that is repeated without end. -/
def extendPassword (password : Bytes) (count : ℕ) : Bytes :=
  (List.range count).map fun i => password.getD (i % password.length) 0

variable (crypto : Crypto)

def createKeyData (hashName : HashName) (password : String) (engineId : EngineId) : Bytes :=
  let extendedPasswordHash :=
    crypto.hash hashName (extendPassword (encodeUtf8 password) (1024 * 1024))
  crypto.hash hashName (extendedPasswordHash ++ engineId ++ extendedPasswordHash)

/-- `create_key`; `noPassword` tells that the password is `None` or empty. -/
def createKey (keyType : KeyType) (password : Option String) (engineId : EngineId) :
    Except Failure Key :=
  match password with
  | none => .error (.exception "invalid password")
  | some password =>
    if password = "" then .error (.exception "invalid password")
    else
      let keyData :=
        match keyType with
        | .MD5 => createKeyData crypto .md5 password engineId
        | .SHA => createKeyData crypto .sha1 password engineId
        | .DES => createKeyData crypto .md5 password engineId
      .ok { type := keyType, data := keyData }

/-- The number of bytes of the keys of a type. -/
def KeyType.size : KeyType → ℕ
  | MD5 => 16
  | SHA => 20
  | DES => 16

/-- A key that fits its type. -/
def Key.Valid (key : Key) : Prop := key.data.length = key.type.size

instance (key : Key) : Decidable key.Valid := by
  unfold Key.Valid; infer_instance

variable {crypto}

theorem createKey_spec (hcrypto : crypto.Lawful) {keyType : KeyType} {password : Option String}
    {engineId : EngineId} {key : Key} (h : createKey crypto keyType password engineId = .ok key) :
    key.type = keyType ∧ key.Valid := by
  cases password with
  | none => simp [createKey] at h
  | some password =>
    by_cases hp : password = ""
    · simp [createKey, hp] at h
    · simp only [createKey, hp, if_false, Except.ok.injEq] at h
      subst h
      refine ⟨rfl, ?_⟩
      cases keyType
      · exact hcrypto.length_md5 _
      · exact hcrypto.length_sha1 _
      · exact hcrypto.length_md5 _

/-- A key is made of every password there is. -/
theorem createKey_isOk {password : Option String} (h : noPassword password = false)
    (keyType : KeyType) (engineId : EngineId) :
    ∃ key, createKey crypto keyType password engineId = .ok key := by
  cases password with
  | none => simp [noPassword] at h
  | some password =>
    have hp : password ≠ "" := by simpa [noPassword] using h
    exact ⟨_, if_neg hp⟩

/-! ### Authentication parameters -/

variable (crypto)

/-- `_gen_auth_params_bytes`. -/
def genAuthParamsBytes (authKey : Key) (msgBytes : Bytes) : Except Failure Bytes :=
  match authKey.type with
  | .MD5 =>
    if authKey.data.length ≠ 16 then .error (.exception "invalid key length")
    else .ok ((crypto.hmac .md5 authKey.data msgBytes).take 12)
  | .SHA =>
    if authKey.data.length ≠ 20 then .error (.exception "invalid key length")
    else .ok ((crypto.hmac .sha1 authKey.data msgBytes).take 12)
  | .DES => .error (.exception "invalid auth key type")

/-- The hash function of authentication keys of a type. -/
def KeyType.hashName : KeyType → HashName
  | SHA => .sha1
  | MD5 | DES => .md5

variable {crypto}

theorem genAuthParamsBytes_eq_ok {authKey : Key} {msgBytes bs : Bytes} :
    genAuthParamsBytes crypto authKey msgBytes = .ok bs ↔
      authKey.type ≠ .DES ∧ authKey.Valid ∧
        bs = (crypto.hmac authKey.type.hashName authKey.data msgBytes).take 12 := by
  obtain ⟨type, data⟩ := authKey
  cases type with
  | MD5 =>
    by_cases h : data.length = 16 <;>
      simp [genAuthParamsBytes, Key.Valid, KeyType.size, KeyType.hashName, h, eq_comm]
  | SHA =>
    by_cases h : data.length = 20 <;>
      simp [genAuthParamsBytes, Key.Valid, KeyType.size, KeyType.hashName, h, eq_comm]
  | DES => simp [genAuthParamsBytes]

/-! ### Ciphers -/

/-- What `secrets.token_bytes(8)` draws. -/
abbrev Salt := { salt : Bytes // salt.length = 8 }

/-- The data, filled up with zeros to whole blocks. -/
def padded (data : Bytes) : Bytes :=
  data ++ List.replicate (if data.length % 8 = 0 then 0 else 8 - data.length % 8) 0

theorem dvd_length_padded (data : Bytes) : 8 ∣ (padded data).length := by
  rw [padded, List.length_append, List.length_replicate]
  split <;> omega

theorem padded_of_dvd {data : Bytes} (h : 8 ∣ data.length) : padded data = data := by
  have hmod : data.length % 8 = 0 := Nat.mod_eq_zero_of_dvd h
  rw [padded, if_pos hmod, List.replicate_zero, List.append_nil]

variable (crypto)

/-- `_DES_ncbc_encrypt`. -/
def desNcbcEncrypt (desKey data iv : Bytes) (encrypt : Bool) : Except Failure Bytes :=
  if desKey.length ≠ 8 then .error (.exception "invalid key length")
  else if iv.length ≠ 8 then .error (.exception "invalid iv length")
  else if encrypt then .ok (crypto.desEncrypt desKey iv (padded data))
  else .ok (crypto.desDecrypt desKey iv (padded data))

/-- `bytes(x ^ y for x, y in zip(pre_iv, salt))`. -/
def xorBytes (preIv salt : Bytes) : Bytes := List.zipWith (· ^^^ ·) preIv salt

/-- `_encrypt_pdu`, with the salt that it draws. -/
def encryptPdu (salt : Salt) (privKey : Key) (pduBytes : Bytes) : Except Failure Bytes :=
  if privKey.type ≠ .DES then .error (.exception "invalid priv key type")
  else if privKey.data.length ≠ 16 then .error (.exception "invalid key length")
  else desNcbcEncrypt crypto (privKey.data.take 8) pduBytes
    (xorBytes (privKey.data.drop 8) salt.1) true

/-- `_decrypt_pdu`. -/
def decryptPdu (privKey : Key) (salt pduBytes : Bytes) : Except Failure Bytes :=
  if privKey.type ≠ .DES then .error (.exception "invalid priv key type")
  else if privKey.data.length ≠ 16 then .error (.exception "invalid key length")
  else if salt.length ≠ 8 then .error (.exception "invalid salt length")
  else desNcbcEncrypt crypto (privKey.data.take 8) pduBytes
    (xorBytes (privKey.data.drop 8) salt) false

variable {crypto}

/-- Decryption undoes encryption, up to zeros at the end. -/
theorem decryptPdu_encryptPdu (hcrypto : crypto.Lawful) {privKey : Key}
    (htype : privKey.type = .DES) (hkey : privKey.Valid) (salt : Salt) (pduBytes : Bytes) :
    ∃ encrypted, encryptPdu crypto salt privKey pduBytes = .ok encrypted ∧
      decryptPdu crypto privKey salt.1 encrypted = .ok (padded pduBytes) := by
  have hdata : privKey.data.length = 16 := by rw [hkey, htype]; rfl
  have hdes : (privKey.data.take 8).length = 8 := by rw [List.length_take]; omega
  have hiv : (xorBytes (privKey.data.drop 8) salt.1).length = 8 := by
    rw [xorBytes, List.length_zipWith, List.length_drop, hdata, salt.2]
    rfl
  have hdvd := dvd_length_padded pduBytes
  have hlength := hcrypto.length_desEncrypt _ _ _ hdes hiv hdvd
  refine ⟨crypto.desEncrypt (privKey.data.take 8) (xorBytes (privKey.data.drop 8) salt.1)
    (padded pduBytes), ?_, ?_⟩
  · rw [encryptPdu, if_neg (not_not.mpr htype), if_neg (not_not.mpr hdata), desNcbcEncrypt,
      if_neg (not_not.mpr hdes), if_neg (not_not.mpr hiv), if_pos rfl]
  · rw [decryptPdu, if_neg (not_not.mpr htype), if_neg (not_not.mpr hdata),
      if_neg (not_not.mpr salt.2), desNcbcEncrypt, if_neg (not_not.mpr hdes),
      if_neg (not_not.mpr hiv), if_neg Bool.false_ne_true,
      padded_of_dvd (hlength ▸ hdvd), hcrypto.desDecrypt_desEncrypt _ _ _ hdes hiv hdvd]

end HatDrivers.Snmp
