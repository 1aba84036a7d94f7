import HatDrivers.Iec60870.Encodings.Common

namespace HatDrivers.Iec60870.Encodings.Iec103

open HatDrivers.Lib

/-!
# IEC 60870-5-103 encodings — common structures

The enumerations of the format, its values, of which those of generic data are arrays that can
hold arrays, and the information elements of every ASDU type.
-/

/-! ### ASDUs -/

inductive AsduType
  | TIME_TAGGED_MESSAGE | TIME_TAGGED_MESSAGE_WITH_RELATIVE_TIME | MEASURANDS_1
  | TIME_TAGGED_MEASURANDS_WITH_RELATIVE_TIME | IDENTIFICATION | TIME_SYNCHRONIZATION
  | GENERAL_INTERROGATION | GENERAL_INTERROGATION_TERMINATION | MEASURANDS_2 | GENERIC_DATA
  | GENERIC_IDENTIFICATION | GENERAL_COMMAND | GENERIC_COMMAND | LIST_OF_RECORDED_DISTURBANCES
  | ORDER_FOR_DISTURBANCE_DATA_TRANSMISSION | ACKNOWLEDGEMENT_FOR_DISTURBANCE_DATA_TRANSMISSION
  | READY_FOR_TRANSMISSION_OF_DISTURBANCE_DATA | READY_FOR_TRANSMISSION_OF_A_CHANNEL
  | READY_FOR_TRANSMISSION_OF_TAGS | TRANSMISSION_OF_TAGS | TRANSMISSION_OF_DISTURBANCE_VALUES
  | END_OF_TRANSMISSION
  deriving DecidableEq

def AsduType.value : AsduType → ℕ
  | .TIME_TAGGED_MESSAGE => 1 | .TIME_TAGGED_MESSAGE_WITH_RELATIVE_TIME => 2 | .MEASURANDS_1 => 3
  | .TIME_TAGGED_MEASURANDS_WITH_RELATIVE_TIME => 4 | .IDENTIFICATION => 5
  | .TIME_SYNCHRONIZATION => 6 | .GENERAL_INTERROGATION => 7
  | .GENERAL_INTERROGATION_TERMINATION => 8 | .MEASURANDS_2 => 9 | .GENERIC_DATA => 10
  | .GENERIC_IDENTIFICATION => 11 | .GENERAL_COMMAND => 20 | .GENERIC_COMMAND => 21
  | .LIST_OF_RECORDED_DISTURBANCES => 23 | .ORDER_FOR_DISTURBANCE_DATA_TRANSMISSION => 24
  | .ACKNOWLEDGEMENT_FOR_DISTURBANCE_DATA_TRANSMISSION => 25
  | .READY_FOR_TRANSMISSION_OF_DISTURBANCE_DATA => 26
  | .READY_FOR_TRANSMISSION_OF_A_CHANNEL => 27 | .READY_FOR_TRANSMISSION_OF_TAGS => 28
  | .TRANSMISSION_OF_TAGS => 29 | .TRANSMISSION_OF_DISTURBANCE_VALUES => 30
  | .END_OF_TRANSMISSION => 31

instance : Enumeration AsduType where
  name := "AsduType"
  value := AsduType.value
  members :=
    [.TIME_TAGGED_MESSAGE, .TIME_TAGGED_MESSAGE_WITH_RELATIVE_TIME, .MEASURANDS_1,
     .TIME_TAGGED_MEASURANDS_WITH_RELATIVE_TIME, .IDENTIFICATION, .TIME_SYNCHRONIZATION,
     .GENERAL_INTERROGATION, .GENERAL_INTERROGATION_TERMINATION, .MEASURANDS_2, .GENERIC_DATA,
     .GENERIC_IDENTIFICATION, .GENERAL_COMMAND, .GENERIC_COMMAND, .LIST_OF_RECORDED_DISTURBANCES,
     .ORDER_FOR_DISTURBANCE_DATA_TRANSMISSION,
     .ACKNOWLEDGEMENT_FOR_DISTURBANCE_DATA_TRANSMISSION,
     .READY_FOR_TRANSMISSION_OF_DISTURBANCE_DATA, .READY_FOR_TRANSMISSION_OF_A_CHANNEL,
     .READY_FOR_TRANSMISSION_OF_TAGS, .TRANSMISSION_OF_TAGS, .TRANSMISSION_OF_DISTURBANCE_VALUES,
     .END_OF_TRANSMISSION]
  find_value e := by cases e <;> rfl

inductive Cause
  | SPONTANEOUS | CYCLIC | RESET_FRAME_COUNT_BIT | RESET_COMMUNICATION_UNIT | START_RESTART
  | POWER_ON | TEST_MODE | TIME_SYNCHRONIZATION | GENERAL_INTERROGATION
  | TERMINATION_OF_GENERAL_INTERROGATION | LOCAL_OPERATION | REMOTE_OPERATION | GENERAL_COMMAND
  | GENERAL_COMMAND_NACK | TRANSMISSION_OF_DISTURBANCE_DATA | GENERIC_WRITE_COMMAND
  | GENERIC_WRITE_COMMAND_NACK | GENERIC_READ_COMMAND | GENERIC_READ_COMMAND_NACK
  | GENERIC_WRITE_CONFIRMATION
  deriving DecidableEq

def Cause.value : Cause → ℕ
  | .SPONTANEOUS => 1 | .CYCLIC => 2 | .RESET_FRAME_COUNT_BIT => 3
  | .RESET_COMMUNICATION_UNIT => 4 | .START_RESTART => 5 | .POWER_ON => 6 | .TEST_MODE => 7
  | .TIME_SYNCHRONIZATION => 8 | .GENERAL_INTERROGATION => 9
  | .TERMINATION_OF_GENERAL_INTERROGATION => 10 | .LOCAL_OPERATION => 11
  | .REMOTE_OPERATION => 12 | .GENERAL_COMMAND => 20 | .GENERAL_COMMAND_NACK => 21
  | .TRANSMISSION_OF_DISTURBANCE_DATA => 31 | .GENERIC_WRITE_COMMAND => 40
  | .GENERIC_WRITE_COMMAND_NACK => 41 | .GENERIC_READ_COMMAND => 42
  | .GENERIC_READ_COMMAND_NACK => 43 | .GENERIC_WRITE_CONFIRMATION => 44

instance : Enumeration Cause where
  name := "Cause"
  value := Cause.value
  members :=
    [.SPONTANEOUS, .CYCLIC, .RESET_FRAME_COUNT_BIT, .RESET_COMMUNICATION_UNIT, .START_RESTART,
     .POWER_ON, .TEST_MODE, .TIME_SYNCHRONIZATION, .GENERAL_INTERROGATION,
     .TERMINATION_OF_GENERAL_INTERROGATION, .LOCAL_OPERATION, .REMOTE_OPERATION,
     .GENERAL_COMMAND, .GENERAL_COMMAND_NACK, .TRANSMISSION_OF_DISTURBANCE_DATA,
     .GENERIC_WRITE_COMMAND, .GENERIC_WRITE_COMMAND_NACK, .GENERIC_READ_COMMAND,
     .GENERIC_READ_COMMAND_NACK, .GENERIC_WRITE_CONFIRMATION]
  find_value e := by cases e <;> rfl

inductive Description
  | NOT_SPECIFIED | ACTUAL_VALUE | DEFAULT_VALUE | RANGE | PRECISION | FACTOR | REFERENCE
  | ENUMERATION | DIMENSION | DESCRIPTION | PASSWORD | READ_ONLY | WRITE_ONLY | IO_ADDRESS
  | EVENT | TEXT_ARRAY | VALUE_ARRAY | RELATED
  deriving DecidableEq

def Description.value : Description → ℕ
  | .NOT_SPECIFIED => 0 | .ACTUAL_VALUE => 1 | .DEFAULT_VALUE => 2 | .RANGE => 3
  | .PRECISION => 5 | .FACTOR => 6 | .REFERENCE => 7 | .ENUMERATION => 8 | .DIMENSION => 9
  | .DESCRIPTION => 10 | .PASSWORD => 12 | .READ_ONLY => 13 | .WRITE_ONLY => 14
  | .IO_ADDRESS => 19 | .EVENT => 20 | .TEXT_ARRAY => 21 | .VALUE_ARRAY => 22 | .RELATED => 23

instance : Enumeration Description where
  name := "Description"
  value := Description.value
  members :=
    [.NOT_SPECIFIED, .ACTUAL_VALUE, .DEFAULT_VALUE, .RANGE, .PRECISION, .FACTOR, .REFERENCE,
     .ENUMERATION, .DIMENSION, .DESCRIPTION, .PASSWORD, .READ_ONLY, .WRITE_ONLY, .IO_ADDRESS,
     .EVENT, .TEXT_ARRAY, .VALUE_ARRAY, .RELATED]
  find_value e := by cases e <;> rfl

inductive OrderType
  | SELECTION_OF_FAULT | REQUEST_FOR_DISTURBANCE_DATA | ABORTION_OF_DISTURBANCE_DATA
  | REQUEST_FOR_CHANNEL | ABORTION_OF_CHANNEL | REQUEST_FOR_TAGS | ABORTION_OF_TAGS
  | REQUEST_FOR_LIST_OF_RECORDED_DISTURBANCES
  | END_OF_DISTURBANCE_DATA_TRANSMISSION_WITHOUT_ABORTION
  | END_OF_DISTURBANCE_DATA_TRANSMISSION_WITH_ABORTION_BY_CONTROL_SYSTEM
  | END_OF_DISTURBANCE_DATA_TRANSMISSION_WITH_ABORTION_BY_THE_PROTECTION_EQUIPMENT
  | END_OF_CHANNEL_TRANSMISSION_WITHOUT_ABORTION
  | END_OF_CHANNEL_TRANSMISSION_WITH_ABORTION_BY_CONTROL_SYSTEM
  | END_OF_CHANNEL_TRANSMISSION_WITH_ABORTION_BY_THE_PROTECTION_EQUIPMENT
  | END_OF_TAG_TRANSMISSION_WITHOUT_ABORTION
  | END_OF_TAG_TRANSMISSION_WITH_ABORTION_BY_CONTROL_SYSTEM
  | END_OF_TAG_TRANSMISSION_WITH_ABORTION_BY_THE_PROTECTION_EQUIPMENT
  | DISTURBANCE_DATA_TRANSMITTED_SUCCESSFULLY | DISTURBANCE_DATA_TRANSMITTED_NOT_SUCCESSFULLY
  | CHANNEL_TRANSMITTED_SUCCESSFULLY | CHANNEL_TRANSMITTED_NOT_SUCCESSFULLY
  | TAGS_TRANSMITTED_SUCCESSFULLY | TAGS_TRANSMITTED_NOT_SUCCESSFULLY
  deriving DecidableEq

def OrderType.value : OrderType → ℕ
  | .SELECTION_OF_FAULT => 1 | .REQUEST_FOR_DISTURBANCE_DATA => 2
  | .ABORTION_OF_DISTURBANCE_DATA => 3 | .REQUEST_FOR_CHANNEL => 8 | .ABORTION_OF_CHANNEL => 9
  | .REQUEST_FOR_TAGS => 16 | .ABORTION_OF_TAGS => 17
  | .REQUEST_FOR_LIST_OF_RECORDED_DISTURBANCES => 24
  | .END_OF_DISTURBANCE_DATA_TRANSMISSION_WITHOUT_ABORTION => 32
  | .END_OF_DISTURBANCE_DATA_TRANSMISSION_WITH_ABORTION_BY_CONTROL_SYSTEM => 33
  | .END_OF_DISTURBANCE_DATA_TRANSMISSION_WITH_ABORTION_BY_THE_PROTECTION_EQUIPMENT => 34
  | .END_OF_CHANNEL_TRANSMISSION_WITHOUT_ABORTION => 35
  | .END_OF_CHANNEL_TRANSMISSION_WITH_ABORTION_BY_CONTROL_SYSTEM => 36
  | .END_OF_CHANNEL_TRANSMISSION_WITH_ABORTION_BY_THE_PROTECTION_EQUIPMENT => 37
  | .END_OF_TAG_TRANSMISSION_WITHOUT_ABORTION => 38
  | .END_OF_TAG_TRANSMISSION_WITH_ABORTION_BY_CONTROL_SYSTEM => 39
  | .END_OF_TAG_TRANSMISSION_WITH_ABORTION_BY_THE_PROTECTION_EQUIPMENT => 40
  | .DISTURBANCE_DATA_TRANSMITTED_SUCCESSFULLY => 64
  | .DISTURBANCE_DATA_TRANSMITTED_NOT_SUCCESSFULLY => 65
  | .CHANNEL_TRANSMITTED_SUCCESSFULLY => 66 | .CHANNEL_TRANSMITTED_NOT_SUCCESSFULLY => 67
  | .TAGS_TRANSMITTED_SUCCESSFULLY => 68 | .TAGS_TRANSMITTED_NOT_SUCCESSFULLY => 69

instance : Enumeration OrderType where
  name := "OrderType"
  value := OrderType.value
  members :=
    [.SELECTION_OF_FAULT, .REQUEST_FOR_DISTURBANCE_DATA, .ABORTION_OF_DISTURBANCE_DATA,
     .REQUEST_FOR_CHANNEL, .ABORTION_OF_CHANNEL, .REQUEST_FOR_TAGS, .ABORTION_OF_TAGS,
     .REQUEST_FOR_LIST_OF_RECORDED_DISTURBANCES,
     .END_OF_DISTURBANCE_DATA_TRANSMISSION_WITHOUT_ABORTION,
     .END_OF_DISTURBANCE_DATA_TRANSMISSION_WITH_ABORTION_BY_CONTROL_SYSTEM,
     .END_OF_DISTURBANCE_DATA_TRANSMISSION_WITH_ABORTION_BY_THE_PROTECTION_EQUIPMENT,
     .END_OF_CHANNEL_TRANSMISSION_WITHOUT_ABORTION,
     .END_OF_CHANNEL_TRANSMISSION_WITH_ABORTION_BY_CONTROL_SYSTEM,
     .END_OF_CHANNEL_TRANSMISSION_WITH_ABORTION_BY_THE_PROTECTION_EQUIPMENT,
     .END_OF_TAG_TRANSMISSION_WITHOUT_ABORTION,
     .END_OF_TAG_TRANSMISSION_WITH_ABORTION_BY_CONTROL_SYSTEM,
     .END_OF_TAG_TRANSMISSION_WITH_ABORTION_BY_THE_PROTECTION_EQUIPMENT,
     .DISTURBANCE_DATA_TRANSMITTED_SUCCESSFULLY, .DISTURBANCE_DATA_TRANSMITTED_NOT_SUCCESSFULLY,
     .CHANNEL_TRANSMITTED_SUCCESSFULLY, .CHANNEL_TRANSMITTED_NOT_SUCCESSFULLY,
     .TAGS_TRANSMITTED_SUCCESSFULLY, .TAGS_TRANSMITTED_NOT_SUCCESSFULLY]
  find_value e := by cases e <;> rfl

inductive Channel
  | GLOBAL | I_L1 | I_L2 | I_L3 | I_N | V_L1E | V_L2E | V_L3E | V_EN
  deriving DecidableEq

def Channel.value : Channel → ℕ
  | .GLOBAL => 0 | .I_L1 => 1 | .I_L2 => 2 | .I_L3 => 3 | .I_N => 4 | .V_L1E => 5 | .V_L2E => 6
  | .V_L3E => 7 | .V_EN => 8

instance : Enumeration Channel where
  name := "Channel"
  value := Channel.value
  members :=
    [.GLOBAL, .I_L1, .I_L2, .I_L3, .I_N, .V_L1E, .V_L2E, .V_L3E, .V_EN]
  find_value e := by cases e <;> rfl


structure IoAddress where
  functionType : ℕ
  informationNumber : ℕ
  deriving DecidableEq

structure Identification where
  groupId : ℕ
  entryId : ℕ
  deriving DecidableEq

/-! ### Values -/

inductive ValueType
  | NONE | TEXT | BITSTRING | UINT | INT | UFIXED | FIXED | REAL32 | REAL64 | DOUBLE | SINGLE
  | EXTENDED_DOUBLE | MEASURAND | TIME | IDENTIFICATION | RELATIVE_TIME | IO_ADDRESS
  | DOUBLE_WITH_TIME | DOUBLE_WITH_RELATIVE_TIME | MEASURAND_WITH_RELATIVE_TIME | TEXT_NUMBER
  | REPLY | ARRAY | INDEX
  deriving DecidableEq

def ValueType.value : ValueType → ℕ
  | .NONE => 0 | .TEXT => 1 | .BITSTRING => 2 | .UINT => 3 | .INT => 4 | .UFIXED => 5
  | .FIXED => 6 | .REAL32 => 7 | .REAL64 => 8 | .DOUBLE => 9 | .SINGLE => 10
  | .EXTENDED_DOUBLE => 11 | .MEASURAND => 12 | .TIME => 14 | .IDENTIFICATION => 15
  | .RELATIVE_TIME => 16 | .IO_ADDRESS => 17 | .DOUBLE_WITH_TIME => 18
  | .DOUBLE_WITH_RELATIVE_TIME => 19 | .MEASURAND_WITH_RELATIVE_TIME => 20 | .TEXT_NUMBER => 21
  | .REPLY => 22 | .ARRAY => 23 | .INDEX => 24

instance : Enumeration ValueType where
  name := "ValueType"
  value := ValueType.value
  members :=
    [.NONE, .TEXT, .BITSTRING, .UINT, .INT, .UFIXED, .FIXED, .REAL32, .REAL64, .DOUBLE, .SINGLE,
     .EXTENDED_DOUBLE, .MEASURAND, .TIME, .IDENTIFICATION, .RELATIVE_TIME, .IO_ADDRESS,
     .DOUBLE_WITH_TIME, .DOUBLE_WITH_RELATIVE_TIME, .MEASURAND_WITH_RELATIVE_TIME, .TEXT_NUMBER,
     .REPLY, .ARRAY, .INDEX]
  find_value e := by cases e <;> rfl

inductive DoubleValue
  | TRANSIENT | OFF | ON | ERROR
  deriving DecidableEq

def DoubleValue.value : DoubleValue → ℕ
  | .TRANSIENT => 0 | .OFF => 1 | .ON => 2 | .ERROR => 3

instance : Enumeration DoubleValue where
  name := "DoubleValue"
  value := DoubleValue.value
  members :=
    [.TRANSIENT, .OFF, .ON, .ERROR]
  find_value e := by cases e <;> rfl

inductive SingleValue
  | OFF | ON
  deriving DecidableEq

def SingleValue.value : SingleValue → ℕ
  | .OFF => 0 | .ON => 1

instance : Enumeration SingleValue where
  name := "SingleValue"
  value := SingleValue.value
  members :=
    [.OFF, .ON]
  find_value e := by cases e <;> rfl

inductive ExtendedDoubleValue
  | TRANSIENT | OFF | ON | ERROR
  deriving DecidableEq

def ExtendedDoubleValue.value : ExtendedDoubleValue → ℕ
  | .TRANSIENT => 0 | .OFF => 1 | .ON => 2 | .ERROR => 3

instance : Enumeration ExtendedDoubleValue where
  name := "ExtendedDoubleValue"
  value := ExtendedDoubleValue.value
  members :=
    [.TRANSIENT, .OFF, .ON, .ERROR]
  find_value e := by cases e <;> rfl


structure Real32Value where
  value : BitVec 32
  deriving DecidableEq

structure MeasurandValue where
  overflow : Bool
  invalid : Bool
  value : ℚ
  deriving DecidableEq

structure DoubleWithTimeValue where
  value : DoubleValue
  time : Time
  supplementary : ℕ
  deriving DecidableEq

structure DoubleWithRelativeTimeValue where
  value : DoubleValue
  relativeTime : ℕ
  faultNumber : ℕ
  time : Time
  supplementary : ℕ
  deriving DecidableEq

structure MeasurandWithRelativeTimeValue where
  value : BitVec 32
  relativeTime : ℕ
  faultNumber : ℕ
  time : Time
  deriving DecidableEq

inductive ReplyValue
  | ACK | INVALID_IDENTIFICATION | DATA_NOT_EXISTS | DATA_NOT_AVAILABLE | VERIFY_ERROR
  | OUT_OF_RANGE | ENTRY_TO_LARGE | TOO_MANY_COMMANDS | ENTRY_READ_ONLY | PASSWORD_PROTECTED
  | IN_PROGRESS | FOLLOWING_DESCRIPTION
  deriving DecidableEq

def ReplyValue.value : ReplyValue → ℕ
  | .ACK => 0 | .INVALID_IDENTIFICATION => 1 | .DATA_NOT_EXISTS => 2 | .DATA_NOT_AVAILABLE => 3
  | .VERIFY_ERROR => 4 | .OUT_OF_RANGE => 5 | .ENTRY_TO_LARGE => 6 | .TOO_MANY_COMMANDS => 7
  | .ENTRY_READ_ONLY => 8 | .PASSWORD_PROTECTED => 9 | .IN_PROGRESS => 10
  | .FOLLOWING_DESCRIPTION => 11

instance : Enumeration ReplyValue where
  name := "ReplyValue"
  value := ReplyValue.value
  members :=
    [.ACK, .INVALID_IDENTIFICATION, .DATA_NOT_EXISTS, .DATA_NOT_AVAILABLE, .VERIFY_ERROR,
     .OUT_OF_RANGE, .ENTRY_TO_LARGE, .TOO_MANY_COMMANDS, .ENTRY_READ_ONLY, .PASSWORD_PROTECTED,
     .IN_PROGRESS, .FOLLOWING_DESCRIPTION]
  find_value e := by cases e <;> rfl


/-- A value.  Floats of the 32-bit and 64-bit formats are their bit patterns, those of fixed-point
formats the rationals they are equal to. -/
inductive Value
  | NoneValue
  | TextValue (value : Bytes)
  | BitstringValue (value : List Bool)
  | UIntValue (value : ℕ)
  | IntValue (value : ℤ)
  | UFixedValue (value : ℚ)
  | FixedValue (value : ℚ)
  | Real32Value (value : Real32Value)
  | Real64Value (value : BitVec 64)
  | DoubleValue (value : DoubleValue)
  | SingleValue (value : SingleValue)
  | ExtendedDoubleValue (value : ExtendedDoubleValue)
  | MeasurandValue (value : MeasurandValue)
  | TimeValue (value : Time)
  | IdentificationValue (value : Identification)
  | RelativeTimeValue (value : ℕ)
  | IoAddressValue (value : IoAddress)
  | DoubleWithTimeValue (value : DoubleWithTimeValue)
  | DoubleWithRelativeTimeValue (value : DoubleWithRelativeTimeValue)
  | MeasurandWithRelativeTimeValue (value : MeasurandWithRelativeTimeValue)
  | TextNumberValue (value : ℕ)
  | ReplyValue (value : ReplyValue)
  | ArrayValue (valueType : ValueType) (moreFollows : Bool) (values : List Value)
  | IndexValue (value : ℕ)

structure ArrayValue where
  valueType : ValueType
  moreFollows : Bool
  values : List Value

def ArrayValue.toValue (a : ArrayValue) : Value :=
  .ArrayValue a.valueType a.moreFollows a.values

structure DescriptiveData where
  description : Description
  value : ArrayValue

/-! ### Information elements -/

inductive IoElement
  | TIME_TAGGED_MESSAGE (value : DoubleWithTimeValue)
  | TIME_TAGGED_MESSAGE_WITH_RELATIVE_TIME (value : DoubleWithRelativeTimeValue)
  | MEASURANDS_1 (value : MeasurandValue)
  | TIME_TAGGED_MEASURANDS_WITH_RELATIVE_TIME (value : MeasurandWithRelativeTimeValue)
  | IDENTIFICATION (compatibility : ℕ) (value software : Bytes)
  | TIME_SYNCHRONIZATION (time : Time)
  | GENERAL_INTERROGATION (scanNumber : ℕ)
  | GENERAL_INTERROGATION_TERMINATION (scanNumber : ℕ)
  | MEASURANDS_2 (value : MeasurandValue)
  | GENERIC_DATA (returnIdentifier : ℕ) (counter moreFollows : Bool)
    (data : List (Identification × DescriptiveData))
  | GENERIC_IDENTIFICATION (returnIdentifier : ℕ) (identification : Identification)
    (counter moreFollows : Bool) (data : List DescriptiveData)
  | GENERAL_COMMAND (value : DoubleValue) (returnIdentifier : ℕ)
  | GENERIC_COMMAND (returnIdentifier : ℕ) (data : List (Identification × Description))
  | LIST_OF_RECORDED_DISTURBANCES (faultNumber : ℕ) (trip transmitted test other : Bool)
    (time : Time)
  | ORDER_FOR_DISTURBANCE_DATA_TRANSMISSION (orderType : OrderType) (faultNumber : ℕ)
    (channel : Channel)
  | ACKNOWLEDGEMENT_FOR_DISTURBANCE_DATA_TRANSMISSION (orderType : OrderType) (faultNumber : ℕ)
    (channel : Channel)
  | READY_FOR_TRANSMISSION_OF_DISTURBANCE_DATA (faultNumber numberOfFaults numberOfChannels
    numberOfElements interval : ℕ) (time : Time)
  | READY_FOR_TRANSMISSION_OF_A_CHANNEL (faultNumber : ℕ) (channel : Channel)
    (primary secondary reference : Real32Value)
  | READY_FOR_TRANSMISSION_OF_TAGS (faultNumber : ℕ)
  | TRANSMISSION_OF_TAGS (faultNumber tagPosition : ℕ) (values : List (IoAddress × DoubleValue))
  | TRANSMISSION_OF_DISTURBANCE_VALUES (faultNumber : ℕ) (channel : Channel) (elementNumber : ℕ)
    (values : List ℚ)
  | END_OF_TRANSMISSION (orderType : OrderType) (faultNumber : ℕ) (channel : Channel)

/-- The ASDU type an element class belongs to. -/
def IoElement.asduType : IoElement → AsduType
  | .TIME_TAGGED_MESSAGE .. => .TIME_TAGGED_MESSAGE
  | .TIME_TAGGED_MESSAGE_WITH_RELATIVE_TIME .. => .TIME_TAGGED_MESSAGE_WITH_RELATIVE_TIME
  | .MEASURANDS_1 .. => .MEASURANDS_1
  | .TIME_TAGGED_MEASURANDS_WITH_RELATIVE_TIME .. => .TIME_TAGGED_MEASURANDS_WITH_RELATIVE_TIME
  | .IDENTIFICATION .. => .IDENTIFICATION | .TIME_SYNCHRONIZATION .. => .TIME_SYNCHRONIZATION
  | .GENERAL_INTERROGATION .. => .GENERAL_INTERROGATION
  | .GENERAL_INTERROGATION_TERMINATION .. => .GENERAL_INTERROGATION_TERMINATION
  | .MEASURANDS_2 .. => .MEASURANDS_2 | .GENERIC_DATA .. => .GENERIC_DATA
  | .GENERIC_IDENTIFICATION .. => .GENERIC_IDENTIFICATION
  | .GENERAL_COMMAND .. => .GENERAL_COMMAND | .GENERIC_COMMAND .. => .GENERIC_COMMAND
  | .LIST_OF_RECORDED_DISTURBANCES .. => .LIST_OF_RECORDED_DISTURBANCES
  | .ORDER_FOR_DISTURBANCE_DATA_TRANSMISSION .. => .ORDER_FOR_DISTURBANCE_DATA_TRANSMISSION
  | .ACKNOWLEDGEMENT_FOR_DISTURBANCE_DATA_TRANSMISSION .. =>
    .ACKNOWLEDGEMENT_FOR_DISTURBANCE_DATA_TRANSMISSION
  | .READY_FOR_TRANSMISSION_OF_DISTURBANCE_DATA .. => .READY_FOR_TRANSMISSION_OF_DISTURBANCE_DATA
  | .READY_FOR_TRANSMISSION_OF_A_CHANNEL .. => .READY_FOR_TRANSMISSION_OF_A_CHANNEL
  | .READY_FOR_TRANSMISSION_OF_TAGS .. => .READY_FOR_TRANSMISSION_OF_TAGS
  | .TRANSMISSION_OF_TAGS .. => .TRANSMISSION_OF_TAGS
  | .TRANSMISSION_OF_DISTURBANCE_VALUES .. => .TRANSMISSION_OF_DISTURBANCE_VALUES
  | .END_OF_TRANSMISSION .. => .END_OF_TRANSMISSION

structure Io where
  address : IoAddress
  elements : List IoElement

structure ASDU where
  type : AsduType
  cause : EnumOr Cause
  address : ℕ
  ios : List Io

end HatDrivers.Iec60870.Encodings.Iec103
