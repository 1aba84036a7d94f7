import HatDrivers.Mms.Common
import Mathlib.Data.Finset.Basic

namespace HatDrivers.Iec61850

open HatDrivers.Lib

/-!
# IEC 61850 — references, values, reports and commands
-/

/-! ### References -/

inductive DatasetRef
  | PersistedDatasetRef (logicalDevice logicalNode name : String)
  | NonPersistedDatasetRef (name : String)
  deriving DecidableEq

/-- `str | int`: a name, or an index of an array. -/
inductive Name
  | str (name : String)
  | index (index : ℤ)
  deriving DecidableEq

structure DataRef where
  logicalDevice : String
  logicalNode : String
  fc : String
  names : List Name
  deriving DecidableEq

structure CommandRef where
  logicalDevice : String
  logicalNode : String
  name : String
  deriving DecidableEq

/-! ### Value types -/

inductive BasicValueType
  | BOOLEAN | INTEGER | UNSIGNED | FLOAT | BIT_STRING | OCTET_STRING | VISIBLE_STRING
  | MMS_STRING
  deriving DecidableEq

inductive AcsiValueType
  | QUALITY | TIMESTAMP | DOUBLE_POINT | DIRECTION | SEVERITY | ANALOGUE | VECTOR | STEP_POSITION
  | BINARY_CONTROL
  deriving DecidableEq

inductive ValueType
  | basic (type : BasicValueType)
  | acsi (type : AcsiValueType)
  | ArrayValueType (type : ValueType) (length : ℕ)
  | StructValueType (elements : List (String × ValueType))

/-! ### Values -/

structure Timestamp where
  value : Mms.DateTime
  leapSecond : Bool
  clockFailure : Bool
  notSynchronized : Bool
  accuracy : Option ℤ
  deriving DecidableEq

inductive QualityValidity
  | GOOD | INVALID | RESERVED | QUESTIONABLE
  deriving DecidableEq

def QualityValidity.value : QualityValidity → ℕ
  | .GOOD => 0 | .INVALID => 1 | .RESERVED => 2 | .QUESTIONABLE => 3

instance : Enumeration QualityValidity where
  name := "QualityValidity"
  value := QualityValidity.value
  members := [.GOOD, .INVALID, .RESERVED, .QUESTIONABLE]
  find_value e := by cases e <;> rfl

inductive QualityDetail
  | OVERFLOW | OUT_OF_RANGE | BAD_REFERENCE | OSCILLATORY | FAILURE | OLD_DATA | INCONSISTENT
  | INACCURATE
  deriving DecidableEq

def QualityDetail.value : QualityDetail → ℕ
  | .OVERFLOW => 2 | .OUT_OF_RANGE => 3 | .BAD_REFERENCE => 4 | .OSCILLATORY => 5 | .FAILURE => 6
  | .OLD_DATA => 7 | .INCONSISTENT => 8 | .INACCURATE => 9

instance : Enumeration QualityDetail where
  name := "QualityDetail"
  value := QualityDetail.value
  members :=
    [.OVERFLOW, .OUT_OF_RANGE, .BAD_REFERENCE, .OSCILLATORY, .FAILURE, .OLD_DATA, .INCONSISTENT,
     .INACCURATE]
  find_value e := by cases e <;> rfl

inductive QualitySource
  | PROCESS | SUBSTITUTED
  deriving DecidableEq

def QualitySource.value : QualitySource → ℕ
  | .PROCESS => 0 | .SUBSTITUTED => 1

instance : Enumeration QualitySource where
  name := "QualitySource"
  value := QualitySource.value
  members := [.PROCESS, .SUBSTITUTED]
  find_value e := by cases e <;> rfl

structure Quality where
  validity : QualityValidity
  details : Finset QualityDetail
  source : QualitySource
  test : Bool
  operatorBlocked : Bool
  deriving DecidableEq

inductive DoublePoint
  | INTERMEDIATE | OFF | ON | BAD
  deriving DecidableEq

def DoublePoint.value : DoublePoint → ℕ
  | .INTERMEDIATE => 0 | .OFF => 1 | .ON => 2 | .BAD => 3

instance : Enumeration DoublePoint where
  name := "DoublePoint"
  value := DoublePoint.value
  members := [.INTERMEDIATE, .OFF, .ON, .BAD]
  find_value e := by cases e <;> rfl

inductive Direction
  | UNKNOWN | FORWARD | BACKWARD | BOTH
  deriving DecidableEq

def Direction.value : Direction → ℕ
  | .UNKNOWN => 0 | .FORWARD => 1 | .BACKWARD => 2 | .BOTH => 3

instance : Enumeration Direction where
  name := "Direction"
  value := Direction.value
  members := [.UNKNOWN, .FORWARD, .BACKWARD, .BOTH]
  find_value e := by cases e <;> rfl

inductive Severity
  | UNKNOWN | CRITICAL | MAJOR | MINOR | WARNING
  deriving DecidableEq

def Severity.value : Severity → ℕ
  | .UNKNOWN => 0 | .CRITICAL => 1 | .MAJOR => 2 | .MINOR => 3 | .WARNING => 4

instance : Enumeration Severity where
  name := "Severity"
  value := Severity.value
  members := [.UNKNOWN, .CRITICAL, .MAJOR, .MINOR, .WARNING]
  find_value e := by cases e <;> rfl

/-- A float is its bit pattern, as in `FloatingPointData`. -/
structure Analogue where
  i : Option ℤ
  f : Option (BitVec 32)
  deriving DecidableEq

structure Vector where
  magnitude : Analogue
  angle : Option Analogue
  deriving DecidableEq

structure StepPosition where
  value : ℤ
  transient : Option Bool
  deriving DecidableEq

inductive BinaryControl
  | STOP | LOWER | HIGHER | RESERVED
  deriving DecidableEq

def BinaryControl.value : BinaryControl → ℕ
  | .STOP => 0 | .LOWER => 1 | .HIGHER => 2 | .RESERVED => 3

instance : Enumeration BinaryControl where
  name := "BinaryControl"
  value := BinaryControl.value
  members := [.STOP, .LOWER, .HIGHER, .RESERVED]
  find_value e := by cases e <;> rfl

inductive Value
  | bool (value : Bool)
  | int (value : ℤ)
  | float (value : BitVec 32)
  | bits (value : List Bool)
  | bytes (value : Bytes)
  | str (value : String)
  | quality (value : Quality)
  | timestamp (value : Timestamp)
  | doublePoint (value : DoublePoint)
  | direction (value : Direction)
  | severity (value : Severity)
  | analogue (value : Analogue)
  | vector (value : Vector)
  | stepPosition (value : StepPosition)
  | binaryControl (value : BinaryControl)
  | array (values : List Value)
  /-- a dict, by what it has under each key -/
  | struct (values : String → Option Value)

/-! ### Errors of commands -/

inductive ServiceError
  | NO_ERROR | INSTANCE_NOT_AVAILABLE | INSTANCE_IN_USE | ACCESS_VIOLATION
  | ACCESS_NOT_ALLOWED_IN_CURRENT_STATE | PARAMETER_VALUE_INAPPROPRIATE
  | PARAMETER_VALUE_INCONSISTENT | CLASS_NOT_SUPPORTED | INSTANCE_LOCKED_BY_OTHER_CLIENT
  | CONTROL_MUST_BE_SELECTED | TYPE_CONFLICT | FAILED_DUE_TO_COMMUNICATIONS_CONSTRAINT
  | FAILED_DUE_TO_SERVER_CONSTRAINT
  deriving DecidableEq

inductive AdditionalCause
  | UNKNOWN | NOT_SUPPORTED | BLOCKED_BY_SWITCHING_HIERARCHY | SELECT_FAILED | INVALID_POSITION
  | POSITION_REACHED | PARAMETER_CHANGE_IN_EXECUTION | STEP_LIMIT | BLOCKED_BY_MODE
  | BLOCKED_BY_PROCESS | BLOCKED_BY_INTERLOCKING | BLOCKED_BY_SYNCHROCHECK
  | COMMAND_ALREADY_IN_EXECUTION | BLOCKED_BY_HEALTH | ONE_OF_N_CONTROL | ABORTION_BY_CANCEL
  | TIME_LIMIT_OVER | ABORTION_BY_TRIP | OBJECT_NOT_SELECTED | OBJECT_ALREADY_SELECTED
  | NO_ACCESS_AUTHORITY | ENDED_WITH_OVERSHOOT | ABORTION_DUE_TO_DEVIATION
  | ABORTION_BY_COMMUNICATION_LOSS | BLOCKED_BY_COMMAND | NONE | INCONSISTENT_PARAMETERS
  | LOCKED_BY_OTHER_CLIENT
  deriving DecidableEq

inductive TestError
  | NO_ERROR | UNKNOWN | TIMEOUT_TEST_NOT_OK | OPERATOR_TEST_NOT_OK
  deriving DecidableEq

structure CommandError where
  serviceError : Option ServiceError
  additionalCause : Option AdditionalCause
  testError : Option TestError
  deriving DecidableEq

/-- A `LastApplError`, without its origin, which the client does not look at. -/
structure LastApplError where
  name : String
  error : TestError
  controlNumber : ℤ
  additionalCause : AdditionalCause
  deriving DecidableEq

/-! ### Report control blocks -/

inductive OptionalField
  | SEQUENCE_NUMBER | REPORT_TIME_STAMP | REASON_FOR_INCLUSION | DATA_SET_NAME | DATA_REFERENCE
  | BUFFER_OVERFLOW | ENTRY_ID | CONF_REVISION
  deriving DecidableEq

def OptionalField.value : OptionalField → ℕ
  | .SEQUENCE_NUMBER => 1 | .REPORT_TIME_STAMP => 2 | .REASON_FOR_INCLUSION => 3
  | .DATA_SET_NAME => 4 | .DATA_REFERENCE => 5 | .BUFFER_OVERFLOW => 6 | .ENTRY_ID => 7
  | .CONF_REVISION => 8

instance : Enumeration OptionalField where
  name := "OptionalField"
  value := OptionalField.value
  members :=
    [.SEQUENCE_NUMBER, .REPORT_TIME_STAMP, .REASON_FOR_INCLUSION, .DATA_SET_NAME,
     .DATA_REFERENCE, .BUFFER_OVERFLOW, .ENTRY_ID, .CONF_REVISION]
  find_value e := by cases e <;> rfl

inductive TriggerCondition
  | DATA_CHANGE | QUALITY_CHANGE | DATA_UPDATE | INTEGRITY | GENERAL_INTERROGATION
  deriving DecidableEq

def TriggerCondition.value : TriggerCondition → ℕ
  | .DATA_CHANGE => 1 | .QUALITY_CHANGE => 2 | .DATA_UPDATE => 3 | .INTEGRITY => 4
  | .GENERAL_INTERROGATION => 5

instance : Enumeration TriggerCondition where
  name := "TriggerCondition"
  value := TriggerCondition.value
  members := [.DATA_CHANGE, .QUALITY_CHANGE, .DATA_UPDATE, .INTEGRITY, .GENERAL_INTERROGATION]
  find_value e := by cases e <;> rfl

inductive RcbAttrType
  | REPORT_ID | REPORT_ENABLE | DATASET | CONF_REVISION | OPTIONAL_FIELDS | BUFFER_TIME
  | SEQUENCE_NUMBER | TRIGGER_OPTIONS | INTEGRITY_PERIOD | GI | PURGE_BUFFER | ENTRY_ID
  | TIME_OF_ENTRY | RESERVATION_TIME | RESERVE
  deriving DecidableEq

inductive RcbAttrValue
  | value (value : Value)
  | dataset (ref : Option DatasetRef)
  | optionalFields (fields : Finset OptionalField)
  | triggers (conditions : Finset TriggerCondition)
  | entryTime (value : Mms.DateTime)

/-! ### Reports -/

inductive Reason
  | DATA_CHANGE | QUALITY_CHANGE | DATA_UPDATE | INTEGRITY | GENERAL_INTERROGATION
  | APPLICATION_TRIGGER
  deriving DecidableEq

def Reason.value : Reason → ℕ
  | .DATA_CHANGE => 1 | .QUALITY_CHANGE => 2 | .DATA_UPDATE => 3 | .INTEGRITY => 4
  | .GENERAL_INTERROGATION => 5 | .APPLICATION_TRIGGER => 6

instance : Enumeration Reason where
  name := "Reason"
  value := Reason.value
  members :=
    [.DATA_CHANGE, .QUALITY_CHANGE, .DATA_UPDATE, .INTEGRITY, .GENERAL_INTERROGATION,
     .APPLICATION_TRIGGER]
  find_value e := by cases e <;> rfl

structure ReportData where
  ref : DataRef
  value : Value
  reasons : Option (Finset Reason)

structure Report where
  reportId : String
  sequenceNumber : Option ℤ
  subsequenceNumber : Option ℤ
  moreSegmentsFollow : Option Bool
  dataset : Option DatasetRef
  bufferOverflow : Option Bool
  confRevision : Option ℤ
  entryTime : Option Mms.DateTime
  entryId : Option Bytes
  data : List ReportData

/-! ### Commands -/

inductive OriginCategory
  | NOT_SUPPORTED | BAY_CONTROL | STATION_CONTROL | REMOTE_CONTROL | AUTOMATIC_BAY
  | AUTOMATIC_STATION | AUTOMATIC_REMOTE | MAINTENANCE | PROCESS
  deriving DecidableEq

def OriginCategory.value : OriginCategory → ℕ
  | .NOT_SUPPORTED => 0 | .BAY_CONTROL => 1 | .STATION_CONTROL => 2 | .REMOTE_CONTROL => 3
  | .AUTOMATIC_BAY => 4 | .AUTOMATIC_STATION => 5 | .AUTOMATIC_REMOTE => 6 | .MAINTENANCE => 7
  | .PROCESS => 8

instance : Enumeration OriginCategory where
  name := "OriginCategory"
  value := OriginCategory.value
  members :=
    [.NOT_SUPPORTED, .BAY_CONTROL, .STATION_CONTROL, .REMOTE_CONTROL, .AUTOMATIC_BAY,
     .AUTOMATIC_STATION, .AUTOMATIC_REMOTE, .MAINTENANCE, .PROCESS]
  find_value e := by cases e <;> rfl

structure Origin where
  category : OriginCategory
  identification : Bytes
  deriving DecidableEq

inductive Check
  | SYNCHRO | INTERLOCK
  deriving DecidableEq

def Check.value : Check → ℕ
  | .SYNCHRO => 0 | .INTERLOCK => 1

instance : Enumeration Check where
  name := "Check"
  value := Check.value
  members := [.SYNCHRO, .INTERLOCK]
  find_value e := by cases e <;> rfl

structure Command where
  value : Value
  operateTime : Option Timestamp
  origin : Origin
  controlNumber : ℤ
  t : Timestamp
  test : Bool
  checks : Finset Check

end HatDrivers.Iec61850
