import HatDrivers.Mqtt.Transport.Fields

namespace HatDrivers.Snmp

open HatDrivers.Lib

/-!
# SNMP driver — common types

The data, requests and users of `common.py`, the exceptions the modelled code raises, and the
decoding of strings.
-/

/-- What the modelled code raises. -/
inductive Failure
  | exception (msg : String)
  | valueError (msg : String)
  | keyError
  | indexError
  | typeError
  | attributeError
  | connectionError
  /-- raised by the ASN.1 encoder -/
  | asn1
  deriving DecidableEq

theorem bind_eq_of_eq_ok {α β : Type} {x : Except Failure α} {a : α} {f : α → Except Failure β}
    {y : Except Failure β} (hx : x = .ok a) (hf : f a = y) : (x >>= f) = y := by
  rw [hx, ok_bind, hf]

/-! ### Enumerations -/

inductive Version
  | V1 | V2C | V3
  deriving DecidableEq

inductive ErrorType
  | NO_ERROR | TOO_BIG | NO_SUCH_NAME | BAD_VALUE | READ_ONLY | GEN_ERR | NO_ACCESS | WRONG_TYPE
  | WRONG_LENGTH | WRONG_ENCODING | WRONG_VALUE | NO_CREATION | INCONSISTENT_VALUE
  | RESOURCE_UNAVAILABLE | COMMIT_FAILED | UNDO_FAILED | AUTHORIZATION_ERROR | NOT_WRITABLE
  | INCONSISTENT_NAME
  deriving DecidableEq

inductive CauseType
  | COLD_START | WARM_START | LINK_DOWN | LINK_UP | AUTHENICATION_FAILURE | EGP_NEIGHBOR_LOSS
  | ENTERPRISE_SPECIFIC
  deriving DecidableEq

inductive AuthType
  | MD5 | SHA
  deriving DecidableEq

inductive PrivType
  | DES
  deriving DecidableEq

instance : Enumeration Version where
  name := "Version"
  members := [.V1, .V2C, .V3]
  value
    | .V1 => 0
    | .V2C => 1
    | .V3 => 3
  find_value := by intro e; cases e <;> rfl

instance : Enumeration ErrorType where
  name := "ErrorType"
  members := [.NO_ERROR, .TOO_BIG, .NO_SUCH_NAME, .BAD_VALUE, .READ_ONLY, .GEN_ERR, .NO_ACCESS,
    .WRONG_TYPE, .WRONG_LENGTH, .WRONG_ENCODING, .WRONG_VALUE, .NO_CREATION, .INCONSISTENT_VALUE,
    .RESOURCE_UNAVAILABLE, .COMMIT_FAILED, .UNDO_FAILED, .AUTHORIZATION_ERROR, .NOT_WRITABLE,
    .INCONSISTENT_NAME]
  value
    | .NO_ERROR => 0
    | .TOO_BIG => 1
    | .NO_SUCH_NAME => 2
    | .BAD_VALUE => 3
    | .READ_ONLY => 4
    | .GEN_ERR => 5
    | .NO_ACCESS => 6
    | .WRONG_TYPE => 7
    | .WRONG_LENGTH => 8
    | .WRONG_ENCODING => 9
    | .WRONG_VALUE => 10
    | .NO_CREATION => 11
    | .INCONSISTENT_VALUE => 12
    | .RESOURCE_UNAVAILABLE => 13
    | .COMMIT_FAILED => 14
    | .UNDO_FAILED => 15
    | .AUTHORIZATION_ERROR => 16
    | .NOT_WRITABLE => 17
    | .INCONSISTENT_NAME => 18
  find_value := by intro e; cases e <;> rfl

instance : Enumeration CauseType where
  name := "CauseType"
  members := [.COLD_START, .WARM_START, .LINK_DOWN, .LINK_UP, .AUTHENICATION_FAILURE,
    .EGP_NEIGHBOR_LOSS, .ENTERPRISE_SPECIFIC]
  value
    | .COLD_START => 0
    | .WARM_START => 1
    | .LINK_DOWN => 2
    | .LINK_UP => 3
    | .AUTHENICATION_FAILURE => 4
    | .EGP_NEIGHBOR_LOSS => 5
    | .ENTERPRISE_SPECIFIC => 6
  find_value := by intro e; cases e <;> rfl

/-- `E(n)`, for an integer of an ASN.1 value. -/
def enumOf (E : Type) [Enumeration E] (n : ℤ) : Except Failure E :=
  if 0 ≤ n then
    match Enumeration.ofValue? n.toNat with
    | some e => .ok e
    | none => .error (.valueError (toString n ++ " is not a valid " ++ Enumeration.name E))
  else .error (.valueError (toString n ++ " is not a valid " ++ Enumeration.name E))

@[simp] theorem enumOf_value {E : Type} [Enumeration E] (e : E) :
    enumOf E (Enumeration.value e : ℕ) = .ok e := by
  simp [enumOf]

/-! ### Data -/

/-- `asn1.ObjectIdentifier`. -/
abbrev ObjectIdentifier := List ℕ

abbrev EngineId := Bytes

structure Error where
  type : ErrorType
  index : ℤ
  deriving DecidableEq

structure Cause where
  type : CauseType
  value : ℤ
  deriving DecidableEq

inductive Data
  | IntegerData (name : ObjectIdentifier) (value : ℤ)
  | UnsignedData (name : ObjectIdentifier) (value : ℤ)
  | CounterData (name : ObjectIdentifier) (value : ℤ)
  | BigCounterData (name : ObjectIdentifier) (value : ℤ)
  | StringData (name : ObjectIdentifier) (value : Bytes)
  | ObjectIdData (name : ObjectIdentifier) (value : ObjectIdentifier)
  | IpAddressData (name : ObjectIdentifier) (value : Bytes)
  | TimeTicksData (name : ObjectIdentifier) (value : ℤ)
  | ArbitraryData (name : ObjectIdentifier) (value : Bytes)
  | EmptyData (name : ObjectIdentifier)
  | UnspecifiedData (name : ObjectIdentifier)
  | NoSuchObjectData (name : ObjectIdentifier)
  | NoSuchInstanceData (name : ObjectIdentifier)
  | EndOfMibViewData (name : ObjectIdentifier)
  deriving DecidableEq

def Data.name : Data → ObjectIdentifier
  | IntegerData name _ | UnsignedData name _ | CounterData name _ | BigCounterData name _
  | StringData name _ | ObjectIdData name _ | IpAddressData name _ | TimeTicksData name _
  | ArbitraryData name _ | EmptyData name | UnspecifiedData name | NoSuchObjectData name
  | NoSuchInstanceData name | EndOfMibViewData name => name

/-- Is it a kind of data of a version? -/
def Data.Supports : Version → Data → Bool
  | .V1, .BigCounterData .. | .V1, .UnspecifiedData _ | .V1, .NoSuchObjectData _
  | .V1, .NoSuchInstanceData _ | .V1, .EndOfMibViewData _ => false
  | .V1, _ => true
  | .V2C, .EmptyData _ | .V3, .EmptyData _ => false
  | .V2C, _ | .V3, _ => true

/-! ### Users, traps and requests -/

structure User where
  name : String
  authType : Option AuthType
  authPassword : Option String
  privType : Option PrivType
  privPassword : Option String
  deriving DecidableEq

structure Context where
  engineId : EngineId
  name : String
  deriving DecidableEq

structure Trap where
  cause : Option Cause
  oid : ObjectIdentifier
  timestamp : ℤ
  data : List Data
  deriving DecidableEq

structure Inform where
  data : List Data
  deriving DecidableEq

inductive Request
  | GetDataReq (names : List ObjectIdentifier)
  | GetNextDataReq (names : List ObjectIdentifier)
  | GetBulkDataReq (names : List ObjectIdentifier)
  | SetDataReq (data : List Data)
  deriving DecidableEq

inductive Response
  | error (error : Error)
  | data (data : List Data)
  deriving DecidableEq

/-- `not password`. -/
def noPassword (password : Option String) : Bool := password = none ∨ password = some ""

def validateUser (user : User) : Except Failure Unit :=
  if user.authType.isSome ∧ noPassword user.authPassword then
    .error (.exception "invalid auth password")
  else if user.privType.isSome ∧ noPassword user.privPassword then
    .error (.exception "invalid priv password")
  else if user.privType.isSome ∧ user.authType = none then
    .error (.exception "invalid auth/priv pair")
  else .ok ()

/-- What the validation of a user ensures. -/
theorem validateUser_eq_ok {user : User} :
    validateUser user = .ok () ↔
      (user.authType.isSome → noPassword user.authPassword = false) ∧
      (user.privType.isSome → noPassword user.privPassword = false ∧ user.authType.isSome) := by
  obtain ⟨name, authType, authPassword, privType, privPassword⟩ := user
  cases authType <;> cases privType <;> cases h : noPassword authPassword <;>
    cases h' : noPassword privPassword <;> simp [validateUser, h, h']

/-! ### Strings -/

open Mqtt.Transport (encodeUtf8 decodeUtf8 decodeUtf8_encodeUtf8)

/-- The number of continuation bytes after a leading byte, and the bounds of the first of them. -/
def utf8Lead (b : ℕ) : Option (ℕ × ℕ × ℕ) :=
  if 0xc2 ≤ b ∧ b ≤ 0xdf then some (1, 0x80, 0xbf)
  else if b = 0xe0 then some (2, 0xa0, 0xbf)
  else if b = 0xed then some (2, 0x80, 0x9f)
  else if 0xe1 ≤ b ∧ b ≤ 0xef then some (2, 0x80, 0xbf)
  else if b = 0xf0 then some (3, 0x90, 0xbf)
  else if 0xf1 ≤ b ∧ b ≤ 0xf3 then some (3, 0x80, 0xbf)
  else if b = 0xf4 then some (3, 0x80, 0x8f)
  else none

/-- The continuation bytes at the front of some bytes: at most `count`, the first one in bounds. -/
def utf8Tail : ℕ → ℕ → ℕ → Bytes → List ℕ
  | count + 1, lo, hi, b :: bs =>
    if lo ≤ b.toNat ∧ b.toNat ≤ hi then b.toNat :: utf8Tail count 0x80 0xbf bs else []
  | _, _, _, _ => []

/-- The character at the front of some bytes, U+FFFD where there is none, and the number of bytes
after the first one that it takes. -/
def utf8Char (b : UInt8) (bs : Bytes) : Char × ℕ :=
  if b.toNat < 0x80 then (Char.ofNat b.toNat, 0)
  else
    match utf8Lead b.toNat with
    | none => (Char.ofNat 0xfffd, 0)
    | some (count, lo, hi) =>
      let tail := utf8Tail count lo hi bs
      if tail.length = count then
        (Char.ofNat (tail.foldl (fun x t => x * 0x40 + t % 0x40)
          (b.toNat % 2 ^ (6 - count))), count)
      else (Char.ofNat 0xfffd, tail.length)

/-- `str(data, encoding='utf-8', errors='replace')`, at most `fuel` characters of it. -/
def decodeReplacing : ℕ → Bytes → List Char
  | fuel + 1, b :: bs =>
    let (c, taken) := utf8Char b bs
    c :: decodeReplacing fuel (bs.drop taken)
  | _, _ => []

/-- `_decode_str`. -/
def decodeStr (x : Bytes) : String :=
  match decodeUtf8 x with
  | some s => s
  | none => String.ofList (decodeReplacing x.length x)

@[simp] theorem decodeStr_encodeUtf8 (s : String) : decodeStr (encodeUtf8 s) = s := by
  rw [decodeStr, decodeUtf8_encodeUtf8]

/-- A truncated sequence, an overlong one and a byte that leads none. -/
example : decodeStr [0x61, 0xe2, 0x82, 0x62, 0xc0, 0xaf, 0xff] = "a�b���" := by decide +kernel

end HatDrivers.Snmp
