import HatDrivers.Iec60870.Encodings.Iec104.RoundTrip

namespace HatDrivers.Iec60870.Encodings.Security

open HatDrivers.Lib

/-!
# IEC 60870-5-7 — common structures

ASDU types, causes and information elements of the security extension, as the
`security` package of the encodings declares them.
-/

/-! ### Enumerations -/

inductive AsduType
  | S_IT_TC | S_CH_NA | S_RP_NA | S_AR_NA | S_KR_NA | S_KS_NA | S_KC_NA | S_ER_NA | S_UC_NA_X
  | S_US_NA | S_UQ_NA | S_UR_NA | S_UK_NA | S_UA_NA | S_UC_NA
  deriving DecidableEq

def AsduType.value : AsduType → ℕ
  | .S_IT_TC => 41 | .S_CH_NA => 81 | .S_RP_NA => 82 | .S_AR_NA => 83 | .S_KR_NA => 84
  | .S_KS_NA => 85 | .S_KC_NA => 86 | .S_ER_NA => 87 | .S_UC_NA_X => 88 | .S_US_NA => 90
  | .S_UQ_NA => 91 | .S_UR_NA => 92 | .S_UK_NA => 93 | .S_UA_NA => 94 | .S_UC_NA => 95

instance : Enumeration AsduType where
  name := "AsduType"
  value := AsduType.value
  members :=
    [.S_IT_TC, .S_CH_NA, .S_RP_NA, .S_AR_NA, .S_KR_NA, .S_KS_NA, .S_KC_NA, .S_ER_NA, .S_UC_NA_X,
     .S_US_NA, .S_UQ_NA, .S_UR_NA, .S_UK_NA, .S_UA_NA, .S_UC_NA]
  find_value e := by cases e <;> rfl

inductive MacAlgorithm
  | NO_MAC | HMAC_SHA_256_8 | HMAC_SHA_256_16 | AES_GMAC
  deriving DecidableEq

def MacAlgorithm.value : MacAlgorithm → ℕ
  | .NO_MAC => 0 | .HMAC_SHA_256_8 => 3 | .HMAC_SHA_256_16 => 4 | .AES_GMAC => 6

instance : Enumeration MacAlgorithm where
  name := "MacAlgorithm"
  value := MacAlgorithm.value
  members := [.NO_MAC, .HMAC_SHA_256_8, .HMAC_SHA_256_16, .AES_GMAC]
  find_value e := by cases e <;> rfl

inductive KeyWrapAlgorithm
  | AES_128 | AES_256
  deriving DecidableEq

def KeyWrapAlgorithm.value : KeyWrapAlgorithm → ℕ
  | .AES_128 => 1 | .AES_256 => 2

instance : Enumeration KeyWrapAlgorithm where
  name := "KeyWrapAlgorithm"
  value := KeyWrapAlgorithm.value
  members := [.AES_128, .AES_256]
  find_value e := by cases e <;> rfl

inductive KeyStatus
  | OK | NOT_INIT | COMM_FAIL | AUTH_FAIL
  deriving DecidableEq

def KeyStatus.value : KeyStatus → ℕ
  | .OK => 1 | .NOT_INIT => 2 | .COMM_FAIL => 3 | .AUTH_FAIL => 4

instance : Enumeration KeyStatus where
  name := "KeyStatus"
  value := KeyStatus.value
  members := [.OK, .NOT_INIT, .COMM_FAIL, .AUTH_FAIL]
  find_value e := by cases e <;> rfl

inductive ErrorCode
  | AUTHENTICATION_FAILED | AGGRESSIVE_NOT_PERMITTED | MAC_ALGORITHM_NOT_PERMITTED
  | KEY_WRAP_ALGORITHM_NOT_PERMITTED | AUTHORIZATION_FAILED | UPDATE_KEY_NOT_PERMITTED
  | INVALID_SIGNATURE | INVALID_CERTIFICATION | UNKNOWN_USER
  deriving DecidableEq

def ErrorCode.value : ErrorCode → ℕ
  | .AUTHENTICATION_FAILED => 1 | .AGGRESSIVE_NOT_PERMITTED => 4
  | .MAC_ALGORITHM_NOT_PERMITTED => 5 | .KEY_WRAP_ALGORITHM_NOT_PERMITTED => 6
  | .AUTHORIZATION_FAILED => 7 | .UPDATE_KEY_NOT_PERMITTED => 8 | .INVALID_SIGNATURE => 9
  | .INVALID_CERTIFICATION => 10 | .UNKNOWN_USER => 11

instance : Enumeration ErrorCode where
  name := "ErrorCode"
  value := ErrorCode.value
  members :=
    [.AUTHENTICATION_FAILED, .AGGRESSIVE_NOT_PERMITTED, .MAC_ALGORITHM_NOT_PERMITTED,
     .KEY_WRAP_ALGORITHM_NOT_PERMITTED, .AUTHORIZATION_FAILED, .UPDATE_KEY_NOT_PERMITTED,
     .INVALID_SIGNATURE, .INVALID_CERTIFICATION, .UNKNOWN_USER]
  find_value e := by cases e <;> rfl

inductive KeyChangeMethod
  | SYMMETRIC_AES_128_HMAC_SHA_1 | SYMMETRIC_AES_256_HMAC_SHA_256 | SYMMETRIC_AES_256_AES_GMAC
  | ASYMMETRIC_RSE_2048_DSA_SHA_1_HMAC_SHA_1 | ASYMMETRIC_RSE_2048_DSA_SHA_256_HMAC_SHA_256
  | ASYMMETRIC_RSE_3072_DSA_SHA_256_HMAC_SHA_256 | ASYMMETRIC_RSE_2048_DSA_SHA_256_AES_GMAC
  | ASYMMETRIC_RSE_3072_DSA_SHA_256_AES_GMAC
  deriving DecidableEq

def KeyChangeMethod.value : KeyChangeMethod → ℕ
  | .SYMMETRIC_AES_128_HMAC_SHA_1 => 3 | .SYMMETRIC_AES_256_HMAC_SHA_256 => 4
  | .SYMMETRIC_AES_256_AES_GMAC => 5 | .ASYMMETRIC_RSE_2048_DSA_SHA_1_HMAC_SHA_1 => 67
  | .ASYMMETRIC_RSE_2048_DSA_SHA_256_HMAC_SHA_256 => 68
  | .ASYMMETRIC_RSE_3072_DSA_SHA_256_HMAC_SHA_256 => 69
  | .ASYMMETRIC_RSE_2048_DSA_SHA_256_AES_GMAC => 70
  | .ASYMMETRIC_RSE_3072_DSA_SHA_256_AES_GMAC => 71

instance : Enumeration KeyChangeMethod where
  name := "KeyChangeMethod"
  value := KeyChangeMethod.value
  members :=
    [.SYMMETRIC_AES_128_HMAC_SHA_1, .SYMMETRIC_AES_256_HMAC_SHA_256, .SYMMETRIC_AES_256_AES_GMAC,
     .ASYMMETRIC_RSE_2048_DSA_SHA_1_HMAC_SHA_1, .ASYMMETRIC_RSE_2048_DSA_SHA_256_HMAC_SHA_256,
     .ASYMMETRIC_RSE_3072_DSA_SHA_256_HMAC_SHA_256, .ASYMMETRIC_RSE_2048_DSA_SHA_256_AES_GMAC,
     .ASYMMETRIC_RSE_3072_DSA_SHA_256_AES_GMAC]
  find_value e := by cases e <;> rfl

inductive Operation
  | ADD | DELETE | CHANGE
  deriving DecidableEq

def Operation.value : Operation → ℕ
  | .ADD => 1 | .DELETE => 2 | .CHANGE => 3

instance : Enumeration Operation where
  name := "Operation"
  value := Operation.value
  members := [.ADD, .DELETE, .CHANGE]
  find_value e := by cases e <;> rfl

inductive UserRole
  | VIEWER | OPERATOR | ENGINEER | INSTALLER | SECADM | SECAUD | RBACMNT
  deriving DecidableEq

def UserRole.value : UserRole → ℕ
  | .VIEWER => 0 | .OPERATOR => 1 | .ENGINEER => 2 | .INSTALLER => 3 | .SECADM => 4 | .SECAUD => 5
  | .RBACMNT => 6

instance : Enumeration UserRole where
  name := "UserRole"
  value := UserRole.value
  members := [.VIEWER, .OPERATOR, .ENGINEER, .INSTALLER, .SECADM, .SECAUD, .RBACMNT]
  find_value e := by cases e <;> rfl

/-- The causes of 101, and those of the security extension. -/
inductive CauseType
  | iec101 (cause : Iec101.CauseType)
  | AUTHENTICATION | SESSION_KEY_MAINTENANCE | UPDATE_KEY_MAINTENANCE
  deriving DecidableEq

def CauseType.value : CauseType → ℕ
  | .iec101 cause => cause.value
  | .AUTHENTICATION => 14
  | .SESSION_KEY_MAINTENANCE => 15
  | .UPDATE_KEY_MAINTENANCE => 16

instance : Enumeration CauseType where
  name := "CauseType"
  value := CauseType.value
  members := Enumeration.members.map .iec101 ++
    [.AUTHENTICATION, .SESSION_KEY_MAINTENANCE, .UPDATE_KEY_MAINTENANCE]
  find_value e := by
    cases e with
    | iec101 cause => cases cause <;> rfl
    | _ => rfl

structure Cause where
  type : EnumOr CauseType
  isNegativeConfirm : Bool
  isTest : Bool
  originatorAddress : ℕ
  deriving DecidableEq

/-! ### Information elements -/

inductive IoElement
  | S_IT_TC (associationId : ℕ) (value : Iec101.BinaryCounterValue)
  | S_CH_NA (sequence user : ℕ) (macAlgorithm : EnumOr MacAlgorithm) (reason : ℕ) (data : Bytes)
  | S_RP_NA (sequence user : ℕ) (mac : Bytes)
  | S_AR_NA (asdu : Bytes) (sequence user : ℕ) (mac : Bytes)
  | S_KR_NA (user : ℕ)
  | S_KS_NA (sequence user : ℕ) (keyWrapAlgorithm : EnumOr KeyWrapAlgorithm)
      (keyStatus : EnumOr KeyStatus) (macAlgorithm : EnumOr MacAlgorithm) (data mac : Bytes)
  | S_KC_NA (sequence user : ℕ) (wrappedKey : Bytes)
  | S_ER_NA (challengeSequence keyChangeSequence user associationId : ℕ) (code : EnumOr ErrorCode)
      (time : Time) (text : Bytes)
  | S_UC_NA_X (keyChangeMethod : EnumOr KeyChangeMethod) (data : Bytes)
  | S_US_NA (keyChangeMethod : EnumOr KeyChangeMethod) (operation : EnumOr Operation)
      (sequence : ℕ) (role : EnumOr UserRole) (roleExpiry : ℕ)
        (name publicKey certification : Bytes)
  | S_UQ_NA (keyChangeMethod : EnumOr KeyChangeMethod) (name data : Bytes)
  | S_UR_NA (sequence user : ℕ) (data : Bytes)
  | S_UK_NA (sequence user : ℕ) (encryptedUpdateKey mac : Bytes)
  | S_UA_NA (sequence user : ℕ) (encryptedUpdateKey signature : Bytes)
  | S_UC_NA (mac : Bytes)
  deriving DecidableEq

/-- The ASDU type an element class belongs to. -/
def IoElement.asduType : IoElement → AsduType
  | .S_IT_TC .. => .S_IT_TC
  | .S_CH_NA .. => .S_CH_NA
  | .S_RP_NA .. => .S_RP_NA
  | .S_AR_NA .. => .S_AR_NA
  | .S_KR_NA .. => .S_KR_NA
  | .S_KS_NA .. => .S_KS_NA
  | .S_KC_NA .. => .S_KC_NA
  | .S_ER_NA .. => .S_ER_NA
  | .S_UC_NA_X .. => .S_UC_NA_X
  | .S_US_NA .. => .S_US_NA
  | .S_UQ_NA .. => .S_UQ_NA
  | .S_UR_NA .. => .S_UR_NA
  | .S_UK_NA .. => .S_UK_NA
  | .S_UA_NA .. => .S_UA_NA
  | .S_UC_NA .. => .S_UC_NA

structure Io where
  address : Option ℕ
  element : IoElement
  time : Option Time
  deriving DecidableEq

structure ASDU where
  type : AsduType
  cause : Cause
  address : ℕ
  ios : List Io
  deriving DecidableEq

end HatDrivers.Iec60870.Encodings.Security
