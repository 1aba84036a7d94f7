import HatDrivers.Iec60870.Encodings.Common

namespace HatDrivers.Iec60870.Encodings.Iec101

open HatDrivers.Lib

/-!
# IEC 60870-5-101 — data model

ASDU types, causes, qualities and values, and the information elements: one
constructor of `IoElement` for each `IoElement_…` class, with the fields of the
class in their order.  A normalized value is the exact rational, a floating
value the bit pattern of its single-precision float.
-/

/-! ### ASDU types and causes -/

inductive AsduType
  | M_SP_NA | M_SP_TA | M_DP_NA | M_DP_TA | M_ST_NA | M_ST_TA | M_BO_NA | M_BO_TA | M_ME_NA
  | M_ME_TA | M_ME_NB | M_ME_TB | M_ME_NC | M_ME_TC | M_IT_NA | M_IT_TA | M_EP_TA | M_EP_TB
  | M_EP_TC | M_PS_NA | M_ME_ND | M_SP_TB | M_DP_TB | M_ST_TB | M_BO_TB | M_ME_TD | M_ME_TE
  | M_ME_TF | M_IT_TB | M_EP_TD | M_EP_TE | M_EP_TF | C_SC_NA | C_DC_NA | C_RC_NA | C_SE_NA
  | C_SE_NB | C_SE_NC | C_BO_NA | M_EI_NA | C_IC_NA | C_CI_NA | C_RD_NA | C_CS_NA | C_TS_NA
  | C_RP_NA | C_CD_NA | P_ME_NA | P_ME_NB | P_ME_NC | P_AC_NA | F_FR_NA | F_SR_NA | F_SC_NA
  | F_LS_NA | F_AF_NA | F_SG_NA | F_DR_TA
  deriving DecidableEq

def AsduType.value : AsduType → ℕ
  | .M_SP_NA => 1 | .M_SP_TA => 2 | .M_DP_NA => 3 | .M_DP_TA => 4 | .M_ST_NA => 5 | .M_ST_TA => 6
  | .M_BO_NA => 7 | .M_BO_TA => 8 | .M_ME_NA => 9 | .M_ME_TA => 10 | .M_ME_NB => 11
  | .M_ME_TB => 12 | .M_ME_NC => 13 | .M_ME_TC => 14 | .M_IT_NA => 15 | .M_IT_TA => 16
  | .M_EP_TA => 17 | .M_EP_TB => 18 | .M_EP_TC => 19 | .M_PS_NA => 20 | .M_ME_ND => 21
  | .M_SP_TB => 30 | .M_DP_TB => 31 | .M_ST_TB => 32 | .M_BO_TB => 33 | .M_ME_TD => 34
  | .M_ME_TE => 35 | .M_ME_TF => 36 | .M_IT_TB => 37 | .M_EP_TD => 38 | .M_EP_TE => 39
  | .M_EP_TF => 40 | .C_SC_NA => 45 | .C_DC_NA => 46 | .C_RC_NA => 47 | .C_SE_NA => 48
  | .C_SE_NB => 49 | .C_SE_NC => 50 | .C_BO_NA => 51 | .M_EI_NA => 70 | .C_IC_NA => 100
  | .C_CI_NA => 101 | .C_RD_NA => 102 | .C_CS_NA => 103 | .C_TS_NA => 104 | .C_RP_NA => 105
  | .C_CD_NA => 106 | .P_ME_NA => 110 | .P_ME_NB => 111 | .P_ME_NC => 112 | .P_AC_NA => 113
  | .F_FR_NA => 120 | .F_SR_NA => 121 | .F_SC_NA => 122 | .F_LS_NA => 123 | .F_AF_NA => 124
  | .F_SG_NA => 125 | .F_DR_TA => 126

instance : Enumeration AsduType where
  name := "AsduType"
  value := AsduType.value
  members :=
    [.M_SP_NA, .M_SP_TA, .M_DP_NA, .M_DP_TA, .M_ST_NA, .M_ST_TA, .M_BO_NA, .M_BO_TA, .M_ME_NA,
     .M_ME_TA, .M_ME_NB, .M_ME_TB, .M_ME_NC, .M_ME_TC, .M_IT_NA, .M_IT_TA, .M_EP_TA, .M_EP_TB,
     .M_EP_TC, .M_PS_NA, .M_ME_ND, .M_SP_TB, .M_DP_TB, .M_ST_TB, .M_BO_TB, .M_ME_TD, .M_ME_TE,
     .M_ME_TF, .M_IT_TB, .M_EP_TD, .M_EP_TE, .M_EP_TF, .C_SC_NA, .C_DC_NA, .C_RC_NA, .C_SE_NA,
     .C_SE_NB, .C_SE_NC, .C_BO_NA, .M_EI_NA, .C_IC_NA, .C_CI_NA, .C_RD_NA, .C_CS_NA, .C_TS_NA,
     .C_RP_NA, .C_CD_NA, .P_ME_NA, .P_ME_NB, .P_ME_NC, .P_AC_NA, .F_FR_NA, .F_SR_NA, .F_SC_NA,
     .F_LS_NA, .F_AF_NA, .F_SG_NA, .F_DR_TA]
  find_value e := by cases e <;> rfl

inductive CauseType
  | UNDEFINED | PERIODIC | BACKGROUND_SCAN | SPONTANEOUS | INITIALIZED | REQUEST | ACTIVATION
  | ACTIVATION_CONFIRMATION | DEACTIVATION | DEACTIVATION_CONFIRMATION | ACTIVATION_TERMINATION
  | REMOTE_COMMAND | LOCAL_COMMAND | FILE_TRANSFER | INTERROGATED_STATION | INTERROGATED_GROUP01
  | INTERROGATED_GROUP02 | INTERROGATED_GROUP03 | INTERROGATED_GROUP04 | INTERROGATED_GROUP05
  | INTERROGATED_GROUP06 | INTERROGATED_GROUP07 | INTERROGATED_GROUP08 | INTERROGATED_GROUP09
  | INTERROGATED_GROUP10 | INTERROGATED_GROUP11 | INTERROGATED_GROUP12 | INTERROGATED_GROUP13
  | INTERROGATED_GROUP14 | INTERROGATED_GROUP15 | INTERROGATED_GROUP16 | INTERROGATED_COUNTER
  | INTERROGATED_COUNTER01 | INTERROGATED_COUNTER02 | INTERROGATED_COUNTER03
  | INTERROGATED_COUNTER04 | UNKNOWN_TYPE | UNKNOWN_CAUSE | UNKNOWN_ASDU_ADDRESS
  | UNKNOWN_IO_ADDRESS
  deriving DecidableEq

def CauseType.value : CauseType → ℕ
  | .UNDEFINED => 0 | .PERIODIC => 1 | .BACKGROUND_SCAN => 2 | .SPONTANEOUS => 3
  | .INITIALIZED => 4 | .REQUEST => 5 | .ACTIVATION => 6 | .ACTIVATION_CONFIRMATION => 7
  | .DEACTIVATION => 8 | .DEACTIVATION_CONFIRMATION => 9 | .ACTIVATION_TERMINATION => 10
  | .REMOTE_COMMAND => 11 | .LOCAL_COMMAND => 12 | .FILE_TRANSFER => 13
  | .INTERROGATED_STATION => 20 | .INTERROGATED_GROUP01 => 21 | .INTERROGATED_GROUP02 => 22
  | .INTERROGATED_GROUP03 => 23 | .INTERROGATED_GROUP04 => 24 | .INTERROGATED_GROUP05 => 25
  | .INTERROGATED_GROUP06 => 26 | .INTERROGATED_GROUP07 => 27 | .INTERROGATED_GROUP08 => 28
  | .INTERROGATED_GROUP09 => 29 | .INTERROGATED_GROUP10 => 30 | .INTERROGATED_GROUP11 => 31
  | .INTERROGATED_GROUP12 => 32 | .INTERROGATED_GROUP13 => 33 | .INTERROGATED_GROUP14 => 34
  | .INTERROGATED_GROUP15 => 35 | .INTERROGATED_GROUP16 => 36 | .INTERROGATED_COUNTER => 37
  | .INTERROGATED_COUNTER01 => 38 | .INTERROGATED_COUNTER02 => 39 | .INTERROGATED_COUNTER03 => 40
  | .INTERROGATED_COUNTER04 => 41 | .UNKNOWN_TYPE => 44 | .UNKNOWN_CAUSE => 45
  | .UNKNOWN_ASDU_ADDRESS => 46 | .UNKNOWN_IO_ADDRESS => 47

instance : Enumeration CauseType where
  name := "CauseType"
  value := CauseType.value
  members :=
    [.UNDEFINED, .PERIODIC, .BACKGROUND_SCAN, .SPONTANEOUS, .INITIALIZED, .REQUEST, .ACTIVATION,
     .ACTIVATION_CONFIRMATION, .DEACTIVATION, .DEACTIVATION_CONFIRMATION,
     .ACTIVATION_TERMINATION, .REMOTE_COMMAND, .LOCAL_COMMAND, .FILE_TRANSFER,
     .INTERROGATED_STATION, .INTERROGATED_GROUP01, .INTERROGATED_GROUP02, .INTERROGATED_GROUP03,
     .INTERROGATED_GROUP04, .INTERROGATED_GROUP05, .INTERROGATED_GROUP06, .INTERROGATED_GROUP07,
     .INTERROGATED_GROUP08, .INTERROGATED_GROUP09, .INTERROGATED_GROUP10, .INTERROGATED_GROUP11,
     .INTERROGATED_GROUP12, .INTERROGATED_GROUP13, .INTERROGATED_GROUP14, .INTERROGATED_GROUP15,
     .INTERROGATED_GROUP16, .INTERROGATED_COUNTER, .INTERROGATED_COUNTER01,
     .INTERROGATED_COUNTER02, .INTERROGATED_COUNTER03, .INTERROGATED_COUNTER04, .UNKNOWN_TYPE,
     .UNKNOWN_CAUSE, .UNKNOWN_ASDU_ADDRESS, .UNKNOWN_IO_ADDRESS]
  find_value e := by cases e <;> rfl

structure Cause where
  type : EnumOr CauseType
  isNegativeConfirm : Bool
  isTest : Bool
  originatorAddress : ℕ
  deriving DecidableEq

/-! ### Qualities -/

inductive QualityType
  | INDICATION | MEASUREMENT | COUNTER | PROTECTION
  deriving DecidableEq

structure IndicationQuality where
  invalid : Bool
  notTopical : Bool
  substituted : Bool
  blocked : Bool
  deriving DecidableEq

structure MeasurementQuality where
  invalid : Bool
  notTopical : Bool
  substituted : Bool
  blocked : Bool
  overflow : Bool
  deriving DecidableEq

structure CounterQuality where
  invalid : Bool
  adjusted : Bool
  overflow : Bool
  sequence : ℕ
  deriving DecidableEq

structure ProtectionQuality where
  invalid : Bool
  notTopical : Bool
  substituted : Bool
  blocked : Bool
  timeInvalid : Bool
  deriving DecidableEq

/-- The class of the qualities of a type. -/
abbrev QualityType.Quality : QualityType → Type
  | .INDICATION => IndicationQuality
  | .MEASUREMENT => MeasurementQuality
  | .COUNTER => CounterQuality
  | .PROTECTION => ProtectionQuality

/-! ### Values -/

inductive FreezeCode
  | READ | FREEZE | FREEZE_AND_RESET | RESET
  deriving DecidableEq

def FreezeCode.value : FreezeCode → ℕ
  | .READ => 0 | .FREEZE => 1 | .FREEZE_AND_RESET => 2 | .RESET => 3

instance : Enumeration FreezeCode where
  name := "FreezeCode"
  value := FreezeCode.value
  members := [.READ, .FREEZE, .FREEZE_AND_RESET, .RESET]
  find_value e := by cases e <;> rfl

inductive SingleValue
  | OFF | ON
  deriving DecidableEq

def SingleValue.value : SingleValue → ℕ
  | .OFF => 0 | .ON => 1

instance : Enumeration SingleValue where
  name := "SingleValue"
  value := SingleValue.value
  members := [.OFF, .ON]
  find_value e := by cases e <;> rfl

inductive DoubleValue
  | INTERMEDIATE | OFF | ON | FAULT
  deriving DecidableEq

def DoubleValue.value : DoubleValue → ℕ
  | .INTERMEDIATE => 0 | .OFF => 1 | .ON => 2 | .FAULT => 3

instance : Enumeration DoubleValue where
  name := "DoubleValue"
  value := DoubleValue.value
  members := [.INTERMEDIATE, .OFF, .ON, .FAULT]
  find_value e := by cases e <;> rfl

inductive RegulatingValue
  | LOWER | HIGHER
  deriving DecidableEq

def RegulatingValue.value : RegulatingValue → ℕ
  | .LOWER => 1 | .HIGHER => 2

instance : Enumeration RegulatingValue where
  name := "RegulatingValue"
  value := RegulatingValue.value
  members := [.LOWER, .HIGHER]
  find_value e := by cases e <;> rfl

inductive ProtectionValue
  | OFF | ON
  deriving DecidableEq

def ProtectionValue.value : ProtectionValue → ℕ
  | .OFF => 1 | .ON => 2

instance : Enumeration ProtectionValue where
  name := "ProtectionValue"
  value := ProtectionValue.value
  members := [.OFF, .ON]
  find_value e := by cases e <;> rfl

structure StepPositionValue where
  value : ℤ
  transient : Bool
  deriving DecidableEq

structure BitstringValue where
  value : Bytes
  deriving DecidableEq

structure NormalizedValue where
  value : ℚ
  deriving DecidableEq

structure ScaledValue where
  value : ℤ
  deriving DecidableEq

structure FloatingValue where
  value : BitVec 32
  deriving DecidableEq

structure BinaryCounterValue where
  value : ℤ
  deriving DecidableEq

structure ProtectionStartValue where
  general : Bool
  l1 : Bool
  l2 : Bool
  l3 : Bool
  ie : Bool
  reverse : Bool
  deriving DecidableEq

structure ProtectionCommandValue where
  general : Bool
  l1 : Bool
  l2 : Bool
  l3 : Bool
  deriving DecidableEq

structure StatusValue where
  value : List Bool
  change : List Bool
  deriving DecidableEq

/-! ### Information elements -/

inductive IoElement
  | M_SP_NA (value : SingleValue) (quality : IndicationQuality)
  | M_SP_TA (value : SingleValue) (quality : IndicationQuality)
  | M_DP_NA (value : DoubleValue) (quality : IndicationQuality)
  | M_DP_TA (value : DoubleValue) (quality : IndicationQuality)
  | M_ST_NA (value : StepPositionValue) (quality : MeasurementQuality)
  | M_ST_TA (value : StepPositionValue) (quality : MeasurementQuality)
  | M_BO_NA (value : BitstringValue) (quality : MeasurementQuality)
  | M_BO_TA (value : BitstringValue) (quality : MeasurementQuality)
  | M_ME_NA (value : NormalizedValue) (quality : MeasurementQuality)
  | M_ME_TA (value : NormalizedValue) (quality : MeasurementQuality)
  | M_ME_NB (value : ScaledValue) (quality : MeasurementQuality)
  | M_ME_TB (value : ScaledValue) (quality : MeasurementQuality)
  | M_ME_NC (value : FloatingValue) (quality : MeasurementQuality)
  | M_ME_TC (value : FloatingValue) (quality : MeasurementQuality)
  | M_IT_NA (value : BinaryCounterValue) (quality : CounterQuality)
  | M_IT_TA (value : BinaryCounterValue) (quality : CounterQuality)
  | M_EP_TA (value : ProtectionValue) (quality : ProtectionQuality) (elapsedTime : ℕ)
  | M_EP_TB (value : ProtectionStartValue) (quality : ProtectionQuality) (durationTime : ℕ)
  | M_EP_TC (value : ProtectionCommandValue) (quality : ProtectionQuality) (operatingTime : ℕ)
  | M_PS_NA (value : StatusValue) (quality : MeasurementQuality)
  | M_ME_ND (value : NormalizedValue)
  | M_SP_TB (value : SingleValue) (quality : IndicationQuality)
  | M_DP_TB (value : DoubleValue) (quality : IndicationQuality)
  | M_ST_TB (value : StepPositionValue) (quality : MeasurementQuality)
  | M_BO_TB (value : BitstringValue) (quality : MeasurementQuality)
  | M_ME_TD (value : NormalizedValue) (quality : MeasurementQuality)
  | M_ME_TE (value : ScaledValue) (quality : MeasurementQuality)
  | M_ME_TF (value : FloatingValue) (quality : MeasurementQuality)
  | M_IT_TB (value : BinaryCounterValue) (quality : CounterQuality)
  | M_EP_TD (value : ProtectionValue) (quality : ProtectionQuality) (elapsedTime : ℕ)
  | M_EP_TE (value : ProtectionStartValue) (quality : ProtectionQuality) (durationTime : ℕ)
  | M_EP_TF (value : ProtectionCommandValue) (quality : ProtectionQuality) (operatingTime : ℕ)
  | C_SC_NA (value : SingleValue) (select : Bool) (qualifier : ℕ)
  | C_DC_NA (value : DoubleValue) (select : Bool) (qualifier : ℕ)
  | C_RC_NA (value : RegulatingValue) (select : Bool) (qualifier : ℕ)
  | C_SE_NA (value : NormalizedValue) (select : Bool)
  | C_SE_NB (value : ScaledValue) (select : Bool)
  | C_SE_NC (value : FloatingValue) (select : Bool)
  | C_BO_NA (value : BitstringValue)
  | M_EI_NA (paramChange : Bool) (cause : ℕ)
  | C_IC_NA (qualifier : ℕ)
  | C_CI_NA (request : ℕ) (freeze : FreezeCode)
  | C_RD_NA
  | C_CS_NA (time : Time)
  | C_TS_NA
  | C_RP_NA (qualifier : ℕ)
  | C_CD_NA (time : ℕ)
  | P_ME_NA (value : NormalizedValue) (qualifier : ℕ)
  | P_ME_NB (value : ScaledValue) (qualifier : ℕ)
  | P_ME_NC (value : FloatingValue) (qualifier : ℕ)
  | P_AC_NA (qualifier : ℕ)
  | F_FR_NA (fileName : ℕ) (fileLength : ℕ) (ready : Bool)
  | F_SR_NA (fileName : ℕ) (sectionName : ℕ) (sectionLength : ℕ) (ready : Bool)
  | F_SC_NA (fileName : ℕ) (sectionName : ℕ) (qualifier : ℕ)
  | F_LS_NA (fileName : ℕ) (sectionName : ℕ) (lastQualifier : ℕ) (checksum : ℕ)
  | F_AF_NA (fileName : ℕ) (sectionName : ℕ) (qualifier : ℕ)
  | F_SG_NA (fileName : ℕ) (sectionName : ℕ) (segment : Bytes)
  | F_DR_TA (fileName : ℕ) (fileLength : ℕ) (moreFollows : Bool) (isDirectory : Bool)
    (transferActive : Bool) (creationTime : Time)
  deriving DecidableEq

/-- The ASDU type an element class belongs to. -/
def IoElement.asduType : IoElement → AsduType
  | .M_SP_NA .. => .M_SP_NA | .M_SP_TA .. => .M_SP_TA | .M_DP_NA .. => .M_DP_NA
  | .M_DP_TA .. => .M_DP_TA | .M_ST_NA .. => .M_ST_NA | .M_ST_TA .. => .M_ST_TA
  | .M_BO_NA .. => .M_BO_NA | .M_BO_TA .. => .M_BO_TA | .M_ME_NA .. => .M_ME_NA
  | .M_ME_TA .. => .M_ME_TA | .M_ME_NB .. => .M_ME_NB | .M_ME_TB .. => .M_ME_TB
  | .M_ME_NC .. => .M_ME_NC | .M_ME_TC .. => .M_ME_TC | .M_IT_NA .. => .M_IT_NA
  | .M_IT_TA .. => .M_IT_TA | .M_EP_TA .. => .M_EP_TA | .M_EP_TB .. => .M_EP_TB
  | .M_EP_TC .. => .M_EP_TC | .M_PS_NA .. => .M_PS_NA | .M_ME_ND .. => .M_ME_ND
  | .M_SP_TB .. => .M_SP_TB | .M_DP_TB .. => .M_DP_TB | .M_ST_TB .. => .M_ST_TB
  | .M_BO_TB .. => .M_BO_TB | .M_ME_TD .. => .M_ME_TD | .M_ME_TE .. => .M_ME_TE
  | .M_ME_TF .. => .M_ME_TF | .M_IT_TB .. => .M_IT_TB | .M_EP_TD .. => .M_EP_TD
  | .M_EP_TE .. => .M_EP_TE | .M_EP_TF .. => .M_EP_TF | .C_SC_NA .. => .C_SC_NA
  | .C_DC_NA .. => .C_DC_NA | .C_RC_NA .. => .C_RC_NA | .C_SE_NA .. => .C_SE_NA
  | .C_SE_NB .. => .C_SE_NB | .C_SE_NC .. => .C_SE_NC | .C_BO_NA .. => .C_BO_NA
  | .M_EI_NA .. => .M_EI_NA | .C_IC_NA .. => .C_IC_NA | .C_CI_NA .. => .C_CI_NA
  | .C_RD_NA => .C_RD_NA | .C_CS_NA .. => .C_CS_NA | .C_TS_NA => .C_TS_NA
  | .C_RP_NA .. => .C_RP_NA | .C_CD_NA .. => .C_CD_NA | .P_ME_NA .. => .P_ME_NA
  | .P_ME_NB .. => .P_ME_NB | .P_ME_NC .. => .P_ME_NC | .P_AC_NA .. => .P_AC_NA
  | .F_FR_NA .. => .F_FR_NA | .F_SR_NA .. => .F_SR_NA | .F_SC_NA .. => .F_SC_NA
  | .F_LS_NA .. => .F_LS_NA | .F_AF_NA .. => .F_AF_NA | .F_SG_NA .. => .F_SG_NA
  | .F_DR_TA .. => .F_DR_TA

/-- An ASDU over element classes `η` of ASDU types `τ`. -/
structure ASDU (τ η : Type) where
  type : τ
  cause : Cause
  address : ℕ
  ios : List (Io η)
  deriving DecidableEq

end HatDrivers.Iec60870.Encodings.Iec101
