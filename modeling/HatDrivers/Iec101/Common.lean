import HatDrivers.Iec60870.Encodings.Iec101.RoundTrip

namespace HatDrivers.Iec101

open HatDrivers.Lib
open Iec60870.Encodings (Time)
open Iec60870.Encodings.Iec101 (CauseType IndicationQuality MeasurementQuality
  CounterQuality ProtectionQuality FreezeCode SingleValue DoubleValue RegulatingValue
  StepPositionValue BitstringValue NormalizedValue ScaledValue FloatingValue BinaryCounterValue
  ProtectionValue ProtectionStartValue ProtectionCommandValue StatusValue)

/-!
# IEC 60870-5-101 driver — messages

The messages of the driver, over the values and qualities of the encoding.  A
cause is a member of a request or response enumeration of its message, or an
integer.
-/

/-! ### Causes -/

inductive DataResCause
  | PERIODIC | BACKGROUND_SCAN | SPONTANEOUS | REQUEST | REMOTE_COMMAND | LOCAL_COMMAND
  | INTERROGATED_STATION | INTERROGATED_GROUP01 | INTERROGATED_GROUP02 | INTERROGATED_GROUP03
  | INTERROGATED_GROUP04 | INTERROGATED_GROUP05 | INTERROGATED_GROUP06 | INTERROGATED_GROUP07
  | INTERROGATED_GROUP08 | INTERROGATED_GROUP09 | INTERROGATED_GROUP10 | INTERROGATED_GROUP11
  | INTERROGATED_GROUP12 | INTERROGATED_GROUP13 | INTERROGATED_GROUP14 | INTERROGATED_GROUP15
  | INTERROGATED_GROUP16 | INTERROGATED_COUNTER | INTERROGATED_COUNTER01 | INTERROGATED_COUNTER02
  | INTERROGATED_COUNTER03 | INTERROGATED_COUNTER04
  deriving DecidableEq

def DataResCause.value : DataResCause → ℕ
  | .PERIODIC => CauseType.PERIODIC.value | .BACKGROUND_SCAN => CauseType.BACKGROUND_SCAN.value
  | .SPONTANEOUS => CauseType.SPONTANEOUS.value | .REQUEST => CauseType.REQUEST.value
  | .REMOTE_COMMAND => CauseType.REMOTE_COMMAND.value
  | .LOCAL_COMMAND => CauseType.LOCAL_COMMAND.value
  | .INTERROGATED_STATION => CauseType.INTERROGATED_STATION.value
  | .INTERROGATED_GROUP01 => CauseType.INTERROGATED_GROUP01.value
  | .INTERROGATED_GROUP02 => CauseType.INTERROGATED_GROUP02.value
  | .INTERROGATED_GROUP03 => CauseType.INTERROGATED_GROUP03.value
  | .INTERROGATED_GROUP04 => CauseType.INTERROGATED_GROUP04.value
  | .INTERROGATED_GROUP05 => CauseType.INTERROGATED_GROUP05.value
  | .INTERROGATED_GROUP06 => CauseType.INTERROGATED_GROUP06.value
  | .INTERROGATED_GROUP07 => CauseType.INTERROGATED_GROUP07.value
  | .INTERROGATED_GROUP08 => CauseType.INTERROGATED_GROUP08.value
  | .INTERROGATED_GROUP09 => CauseType.INTERROGATED_GROUP09.value
  | .INTERROGATED_GROUP10 => CauseType.INTERROGATED_GROUP10.value
  | .INTERROGATED_GROUP11 => CauseType.INTERROGATED_GROUP11.value
  | .INTERROGATED_GROUP12 => CauseType.INTERROGATED_GROUP12.value
  | .INTERROGATED_GROUP13 => CauseType.INTERROGATED_GROUP13.value
  | .INTERROGATED_GROUP14 => CauseType.INTERROGATED_GROUP14.value
  | .INTERROGATED_GROUP15 => CauseType.INTERROGATED_GROUP15.value
  | .INTERROGATED_GROUP16 => CauseType.INTERROGATED_GROUP16.value
  | .INTERROGATED_COUNTER => CauseType.INTERROGATED_COUNTER.value
  | .INTERROGATED_COUNTER01 => CauseType.INTERROGATED_COUNTER01.value
  | .INTERROGATED_COUNTER02 => CauseType.INTERROGATED_COUNTER02.value
  | .INTERROGATED_COUNTER03 => CauseType.INTERROGATED_COUNTER03.value
  | .INTERROGATED_COUNTER04 => CauseType.INTERROGATED_COUNTER04.value

instance : Enumeration DataResCause where
  name := "DataResCause"
  value := DataResCause.value
  members :=
    [.PERIODIC, .BACKGROUND_SCAN, .SPONTANEOUS, .REQUEST, .REMOTE_COMMAND, .LOCAL_COMMAND,
     .INTERROGATED_STATION, .INTERROGATED_GROUP01, .INTERROGATED_GROUP02, .INTERROGATED_GROUP03,
     .INTERROGATED_GROUP04, .INTERROGATED_GROUP05, .INTERROGATED_GROUP06, .INTERROGATED_GROUP07,
     .INTERROGATED_GROUP08, .INTERROGATED_GROUP09, .INTERROGATED_GROUP10, .INTERROGATED_GROUP11,
     .INTERROGATED_GROUP12, .INTERROGATED_GROUP13, .INTERROGATED_GROUP14, .INTERROGATED_GROUP15,
     .INTERROGATED_GROUP16, .INTERROGATED_COUNTER, .INTERROGATED_COUNTER01,
     .INTERROGATED_COUNTER02, .INTERROGATED_COUNTER03, .INTERROGATED_COUNTER04]
  find_value e := by cases e <;> rfl

abbrev DataCause := EnumOr DataResCause

inductive CommandReqCause
  | ACTIVATION | DEACTIVATION
  deriving DecidableEq

def CommandReqCause.value : CommandReqCause → ℕ
  | .ACTIVATION => CauseType.ACTIVATION.value | .DEACTIVATION => CauseType.DEACTIVATION.value

instance : Enumeration CommandReqCause where
  name := "CommandReqCause"
  value := CommandReqCause.value
  members := [.ACTIVATION, .DEACTIVATION]
  find_value e := by cases e <;> rfl

inductive CommandResCause
  | ACTIVATION_CONFIRMATION | DEACTIVATION_CONFIRMATION | ACTIVATION_TERMINATION | UNKNOWN_TYPE
  | UNKNOWN_CAUSE | UNKNOWN_ASDU_ADDRESS | UNKNOWN_IO_ADDRESS
  deriving DecidableEq

def CommandResCause.value : CommandResCause → ℕ
  | .ACTIVATION_CONFIRMATION => CauseType.ACTIVATION_CONFIRMATION.value
  | .DEACTIVATION_CONFIRMATION => CauseType.DEACTIVATION_CONFIRMATION.value
  | .ACTIVATION_TERMINATION => CauseType.ACTIVATION_TERMINATION.value
  | .UNKNOWN_TYPE => CauseType.UNKNOWN_TYPE.value
  | .UNKNOWN_CAUSE => CauseType.UNKNOWN_CAUSE.value
  | .UNKNOWN_ASDU_ADDRESS => CauseType.UNKNOWN_ASDU_ADDRESS.value
  | .UNKNOWN_IO_ADDRESS => CauseType.UNKNOWN_IO_ADDRESS.value

instance : Enumeration CommandResCause where
  name := "CommandResCause"
  value := CommandResCause.value
  members :=
    [.ACTIVATION_CONFIRMATION, .DEACTIVATION_CONFIRMATION, .ACTIVATION_TERMINATION,
     .UNKNOWN_TYPE, .UNKNOWN_CAUSE, .UNKNOWN_ASDU_ADDRESS, .UNKNOWN_IO_ADDRESS]
  find_value e := by cases e <;> rfl

instance : Enumeration (CommandReqCause ⊕ CommandResCause) := .sum "CommandCause" (by decide)

abbrev CommandCause := EnumOr (CommandReqCause ⊕ CommandResCause)

inductive InitializationResCause
  | LOCAL_POWER | LOCAL_RESET | REMOTE_RESET
  deriving DecidableEq

def InitializationResCause.value : InitializationResCause → ℕ
  | .LOCAL_POWER => 0 | .LOCAL_RESET => 1 | .REMOTE_RESET => 2

instance : Enumeration InitializationResCause where
  name := "InitializationResCause"
  value := InitializationResCause.value
  members := [.LOCAL_POWER, .LOCAL_RESET, .REMOTE_RESET]
  find_value e := by cases e <;> rfl

abbrev InitializationCause := EnumOr InitializationResCause

inductive ReadReqCause
  | REQUEST
  deriving DecidableEq

def ReadReqCause.value : ReadReqCause → ℕ
  | .REQUEST => CauseType.REQUEST.value

instance : Enumeration ReadReqCause where
  name := "ReadReqCause"
  value := ReadReqCause.value
  members := [.REQUEST]
  find_value e := by cases e; rfl

inductive ReadResCause
  | UNKNOWN_TYPE | UNKNOWN_CAUSE | UNKNOWN_ASDU_ADDRESS | UNKNOWN_IO_ADDRESS
  deriving DecidableEq

def ReadResCause.value : ReadResCause → ℕ
  | .UNKNOWN_TYPE => CauseType.UNKNOWN_TYPE.value
  | .UNKNOWN_CAUSE => CauseType.UNKNOWN_CAUSE.value
  | .UNKNOWN_ASDU_ADDRESS => CauseType.UNKNOWN_ASDU_ADDRESS.value
  | .UNKNOWN_IO_ADDRESS => CauseType.UNKNOWN_IO_ADDRESS.value

instance : Enumeration ReadResCause where
  name := "ReadResCause"
  value := ReadResCause.value
  members := [.UNKNOWN_TYPE, .UNKNOWN_CAUSE, .UNKNOWN_ASDU_ADDRESS, .UNKNOWN_IO_ADDRESS]
  find_value e := by cases e <;> rfl

instance : Enumeration (ReadReqCause ⊕ ReadResCause) := .sum "ReadCause" (by decide)

abbrev ReadCause := EnumOr (ReadReqCause ⊕ ReadResCause)

inductive ClockSyncReqCause
  | ACTIVATION
  deriving DecidableEq

def ClockSyncReqCause.value : ClockSyncReqCause → ℕ
  | .ACTIVATION => CauseType.ACTIVATION.value

instance : Enumeration ClockSyncReqCause where
  name := "ClockSyncReqCause"
  value := ClockSyncReqCause.value
  members := [.ACTIVATION]
  find_value e := by cases e; rfl

inductive ClockSyncResCause
  | SPONTANEOUS | ACTIVATION_CONFIRMATION | UNKNOWN_TYPE | UNKNOWN_CAUSE | UNKNOWN_ASDU_ADDRESS
  | UNKNOWN_IO_ADDRESS
  deriving DecidableEq

def ClockSyncResCause.value : ClockSyncResCause → ℕ
  | .SPONTANEOUS => CauseType.SPONTANEOUS.value
  | .ACTIVATION_CONFIRMATION => CauseType.ACTIVATION_CONFIRMATION.value
  | .UNKNOWN_TYPE => CauseType.UNKNOWN_TYPE.value
  | .UNKNOWN_CAUSE => CauseType.UNKNOWN_CAUSE.value
  | .UNKNOWN_ASDU_ADDRESS => CauseType.UNKNOWN_ASDU_ADDRESS.value
  | .UNKNOWN_IO_ADDRESS => CauseType.UNKNOWN_IO_ADDRESS.value

instance : Enumeration ClockSyncResCause where
  name := "ClockSyncResCause"
  value := ClockSyncResCause.value
  members :=
    [.SPONTANEOUS, .ACTIVATION_CONFIRMATION, .UNKNOWN_TYPE, .UNKNOWN_CAUSE,
     .UNKNOWN_ASDU_ADDRESS, .UNKNOWN_IO_ADDRESS]
  find_value e := by cases e <;> rfl

instance : Enumeration (ClockSyncReqCause ⊕ ClockSyncResCause) := .sum "ClockSyncCause" (by decide)

abbrev ClockSyncCause := EnumOr (ClockSyncReqCause ⊕ ClockSyncResCause)

inductive ActivationReqCause
  | ACTIVATION
  deriving DecidableEq

def ActivationReqCause.value : ActivationReqCause → ℕ
  | .ACTIVATION => CauseType.ACTIVATION.value

instance : Enumeration ActivationReqCause where
  name := "ActivationReqCause"
  value := ActivationReqCause.value
  members := [.ACTIVATION]
  find_value e := by cases e; rfl

inductive ActivationResCause
  | ACTIVATION_CONFIRMATION | UNKNOWN_TYPE | UNKNOWN_CAUSE | UNKNOWN_ASDU_ADDRESS
  | UNKNOWN_IO_ADDRESS
  deriving DecidableEq

def ActivationResCause.value : ActivationResCause → ℕ
  | .ACTIVATION_CONFIRMATION => CauseType.ACTIVATION_CONFIRMATION.value
  | .UNKNOWN_TYPE => CauseType.UNKNOWN_TYPE.value
  | .UNKNOWN_CAUSE => CauseType.UNKNOWN_CAUSE.value
  | .UNKNOWN_ASDU_ADDRESS => CauseType.UNKNOWN_ASDU_ADDRESS.value
  | .UNKNOWN_IO_ADDRESS => CauseType.UNKNOWN_IO_ADDRESS.value

instance : Enumeration ActivationResCause where
  name := "ActivationResCause"
  value := ActivationResCause.value
  members :=
    [.ACTIVATION_CONFIRMATION, .UNKNOWN_TYPE, .UNKNOWN_CAUSE, .UNKNOWN_ASDU_ADDRESS,
     .UNKNOWN_IO_ADDRESS]
  find_value e := by cases e <;> rfl

instance : Enumeration (ActivationReqCause ⊕ ActivationResCause) :=
  .sum "ActivationCause" (by decide)

abbrev ActivationCause := EnumOr (ActivationReqCause ⊕ ActivationResCause)

inductive DelayReqCause
  | SPONTANEOUS | ACTIVATION
  deriving DecidableEq

def DelayReqCause.value : DelayReqCause → ℕ
  | .SPONTANEOUS => CauseType.SPONTANEOUS.value | .ACTIVATION => CauseType.ACTIVATION.value

instance : Enumeration DelayReqCause where
  name := "DelayReqCause"
  value := DelayReqCause.value
  members := [.SPONTANEOUS, .ACTIVATION]
  find_value e := by cases e <;> rfl

inductive DelayResCause
  | ACTIVATION_CONFIRMATION | UNKNOWN_TYPE | UNKNOWN_CAUSE | UNKNOWN_ASDU_ADDRESS
  | UNKNOWN_IO_ADDRESS
  deriving DecidableEq

def DelayResCause.value : DelayResCause → ℕ
  | .ACTIVATION_CONFIRMATION => CauseType.ACTIVATION_CONFIRMATION.value
  | .UNKNOWN_TYPE => CauseType.UNKNOWN_TYPE.value
  | .UNKNOWN_CAUSE => CauseType.UNKNOWN_CAUSE.value
  | .UNKNOWN_ASDU_ADDRESS => CauseType.UNKNOWN_ASDU_ADDRESS.value
  | .UNKNOWN_IO_ADDRESS => CauseType.UNKNOWN_IO_ADDRESS.value

instance : Enumeration DelayResCause where
  name := "DelayResCause"
  value := DelayResCause.value
  members :=
    [.ACTIVATION_CONFIRMATION, .UNKNOWN_TYPE, .UNKNOWN_CAUSE, .UNKNOWN_ASDU_ADDRESS,
     .UNKNOWN_IO_ADDRESS]
  find_value e := by cases e <;> rfl

instance : Enumeration (DelayReqCause ⊕ DelayResCause) := .sum "DelayCause" (by decide)

abbrev DelayCause := EnumOr (DelayReqCause ⊕ DelayResCause)

inductive ParameterReqCause
  | SPONTANEOUS | ACTIVATION
  deriving DecidableEq

def ParameterReqCause.value : ParameterReqCause → ℕ
  | .SPONTANEOUS => CauseType.SPONTANEOUS.value | .ACTIVATION => CauseType.ACTIVATION.value

instance : Enumeration ParameterReqCause where
  name := "ParameterReqCause"
  value := ParameterReqCause.value
  members := [.SPONTANEOUS, .ACTIVATION]
  find_value e := by cases e <;> rfl

inductive ParameterResCause
  | ACTIVATION_CONFIRMATION | INTERROGATED_STATION | INTERROGATED_GROUP01 | INTERROGATED_GROUP02
  | INTERROGATED_GROUP03 | INTERROGATED_GROUP04 | INTERROGATED_GROUP05 | INTERROGATED_GROUP06
  | INTERROGATED_GROUP07 | INTERROGATED_GROUP08 | INTERROGATED_GROUP09 | INTERROGATED_GROUP10
  | INTERROGATED_GROUP11 | INTERROGATED_GROUP12 | INTERROGATED_GROUP13 | INTERROGATED_GROUP14
  | INTERROGATED_GROUP15 | INTERROGATED_GROUP16 | UNKNOWN_TYPE | UNKNOWN_CAUSE
  | UNKNOWN_ASDU_ADDRESS | UNKNOWN_IO_ADDRESS
  deriving DecidableEq

def ParameterResCause.value : ParameterResCause → ℕ
  | .ACTIVATION_CONFIRMATION => CauseType.ACTIVATION_CONFIRMATION.value
  | .INTERROGATED_STATION => CauseType.INTERROGATED_STATION.value
  | .INTERROGATED_GROUP01 => CauseType.INTERROGATED_GROUP01.value
  | .INTERROGATED_GROUP02 => CauseType.INTERROGATED_GROUP02.value
  | .INTERROGATED_GROUP03 => CauseType.INTERROGATED_GROUP03.value
  | .INTERROGATED_GROUP04 => CauseType.INTERROGATED_GROUP04.value
  | .INTERROGATED_GROUP05 => CauseType.INTERROGATED_GROUP05.value
  | .INTERROGATED_GROUP06 => CauseType.INTERROGATED_GROUP06.value
  | .INTERROGATED_GROUP07 => CauseType.INTERROGATED_GROUP07.value
  | .INTERROGATED_GROUP08 => CauseType.INTERROGATED_GROUP08.value
  | .INTERROGATED_GROUP09 => CauseType.INTERROGATED_GROUP09.value
  | .INTERROGATED_GROUP10 => CauseType.INTERROGATED_GROUP10.value
  | .INTERROGATED_GROUP11 => CauseType.INTERROGATED_GROUP11.value
  | .INTERROGATED_GROUP12 => CauseType.INTERROGATED_GROUP12.value
  | .INTERROGATED_GROUP13 => CauseType.INTERROGATED_GROUP13.value
  | .INTERROGATED_GROUP14 => CauseType.INTERROGATED_GROUP14.value
  | .INTERROGATED_GROUP15 => CauseType.INTERROGATED_GROUP15.value
  | .INTERROGATED_GROUP16 => CauseType.INTERROGATED_GROUP16.value
  | .UNKNOWN_TYPE => CauseType.UNKNOWN_TYPE.value
  | .UNKNOWN_CAUSE => CauseType.UNKNOWN_CAUSE.value
  | .UNKNOWN_ASDU_ADDRESS => CauseType.UNKNOWN_ASDU_ADDRESS.value
  | .UNKNOWN_IO_ADDRESS => CauseType.UNKNOWN_IO_ADDRESS.value

instance : Enumeration ParameterResCause where
  name := "ParameterResCause"
  value := ParameterResCause.value
  members :=
    [.ACTIVATION_CONFIRMATION, .INTERROGATED_STATION, .INTERROGATED_GROUP01,
     .INTERROGATED_GROUP02, .INTERROGATED_GROUP03, .INTERROGATED_GROUP04, .INTERROGATED_GROUP05,
     .INTERROGATED_GROUP06, .INTERROGATED_GROUP07, .INTERROGATED_GROUP08, .INTERROGATED_GROUP09,
     .INTERROGATED_GROUP10, .INTERROGATED_GROUP11, .INTERROGATED_GROUP12, .INTERROGATED_GROUP13,
     .INTERROGATED_GROUP14, .INTERROGATED_GROUP15, .INTERROGATED_GROUP16, .UNKNOWN_TYPE,
     .UNKNOWN_CAUSE, .UNKNOWN_ASDU_ADDRESS, .UNKNOWN_IO_ADDRESS]
  find_value e := by cases e <;> rfl

instance : Enumeration (ParameterReqCause ⊕ ParameterResCause) := .sum "ParameterCause" (by decide)

abbrev ParameterCause := EnumOr (ParameterReqCause ⊕ ParameterResCause)

inductive ParameterActivationReqCause
  | ACTIVATION | DEACTIVATION
  deriving DecidableEq

def ParameterActivationReqCause.value : ParameterActivationReqCause → ℕ
  | .ACTIVATION => CauseType.ACTIVATION.value | .DEACTIVATION => CauseType.DEACTIVATION.value

instance : Enumeration ParameterActivationReqCause where
  name := "ParameterActivationReqCause"
  value := ParameterActivationReqCause.value
  members := [.ACTIVATION, .DEACTIVATION]
  find_value e := by cases e <;> rfl

inductive ParameterActivationResCause
  | ACTIVATION_CONFIRMATION | DEACTIVATION_CONFIRMATION | UNKNOWN_TYPE | UNKNOWN_CAUSE
  | UNKNOWN_ASDU_ADDRESS | UNKNOWN_IO_ADDRESS
  deriving DecidableEq

def ParameterActivationResCause.value : ParameterActivationResCause → ℕ
  | .ACTIVATION_CONFIRMATION => CauseType.ACTIVATION_CONFIRMATION.value
  | .DEACTIVATION_CONFIRMATION => CauseType.DEACTIVATION_CONFIRMATION.value
  | .UNKNOWN_TYPE => CauseType.UNKNOWN_TYPE.value
  | .UNKNOWN_CAUSE => CauseType.UNKNOWN_CAUSE.value
  | .UNKNOWN_ASDU_ADDRESS => CauseType.UNKNOWN_ASDU_ADDRESS.value
  | .UNKNOWN_IO_ADDRESS => CauseType.UNKNOWN_IO_ADDRESS.value

instance : Enumeration ParameterActivationResCause where
  name := "ParameterActivationResCause"
  value := ParameterActivationResCause.value
  members :=
    [.ACTIVATION_CONFIRMATION, .DEACTIVATION_CONFIRMATION, .UNKNOWN_TYPE, .UNKNOWN_CAUSE,
     .UNKNOWN_ASDU_ADDRESS, .UNKNOWN_IO_ADDRESS]
  find_value e := by cases e <;> rfl

instance : Enumeration (ParameterActivationReqCause ⊕ ParameterActivationResCause) :=
  .sum "ParameterActivationCause" (by decide)

abbrev ParameterActivationCause :=
  EnumOr (ParameterActivationReqCause ⊕ ParameterActivationResCause)

/-! ### Data, commands and parameters -/

inductive Data
  | SingleData (value : SingleValue) (quality : IndicationQuality)
  | DoubleData (value : DoubleValue) (quality : IndicationQuality)
  | StepPositionData (value : StepPositionValue) (quality : MeasurementQuality)
  | BitstringData (value : BitstringValue) (quality : MeasurementQuality)
  | NormalizedData (value : NormalizedValue) (quality : Option MeasurementQuality)
  | ScaledData (value : ScaledValue) (quality : MeasurementQuality)
  | FloatingData (value : FloatingValue) (quality : MeasurementQuality)
  | BinaryCounterData (value : BinaryCounterValue) (quality : CounterQuality)
  | ProtectionData (value : ProtectionValue) (quality : ProtectionQuality) (elapsedTime : ℕ)
  | ProtectionStartData (value : ProtectionStartValue) (quality : ProtectionQuality)
    (durationTime : ℕ)
  | ProtectionCommandData (value : ProtectionCommandValue) (quality : ProtectionQuality)
    (operatingTime : ℕ)
  | StatusData (value : StatusValue) (quality : MeasurementQuality)
  deriving DecidableEq

inductive Command
  | SingleCommand (value : SingleValue) (select : Bool) (qualifier : ℕ)
  | DoubleCommand (value : DoubleValue) (select : Bool) (qualifier : ℕ)
  | RegulatingCommand (value : RegulatingValue) (select : Bool) (qualifier : ℕ)
  | NormalizedCommand (value : NormalizedValue) (select : Bool)
  | ScaledCommand (value : ScaledValue) (select : Bool)
  | FloatingCommand (value : FloatingValue) (select : Bool)
  | BitstringCommand (value : BitstringValue)
  deriving DecidableEq

inductive Parameter
  | NormalizedParameter (value : NormalizedValue) (qualifier : ℕ)
  | ScaledParameter (value : ScaledValue) (qualifier : ℕ)
  | FloatingParameter (value : FloatingValue) (qualifier : ℕ)
  deriving DecidableEq

/-! ### Messages -/

structure DataMsg where
  isTest : Bool
  originatorAddress : ℕ
  asduAddress : ℕ
  ioAddress : ℕ
  data : Data
  time : Option Time
  cause : DataCause
  deriving DecidableEq

structure CommandMsg where
  isTest : Bool
  originatorAddress : ℕ
  asduAddress : ℕ
  ioAddress : ℕ
  command : Command
  isNegativeConfirm : Bool
  cause : CommandCause
  deriving DecidableEq

structure InitializationMsg where
  isTest : Bool
  originatorAddress : ℕ
  asduAddress : ℕ
  paramChange : Bool
  cause : InitializationCause
  deriving DecidableEq

structure InterrogationMsg where
  isTest : Bool
  originatorAddress : ℕ
  asduAddress : ℕ
  request : ℕ
  isNegativeConfirm : Bool
  cause : CommandCause
  deriving DecidableEq

structure CounterInterrogationMsg where
  isTest : Bool
  originatorAddress : ℕ
  asduAddress : ℕ
  request : ℕ
  freeze : FreezeCode
  isNegativeConfirm : Bool
  cause : CommandCause
  deriving DecidableEq

structure ReadMsg where
  isTest : Bool
  originatorAddress : ℕ
  asduAddress : ℕ
  ioAddress : ℕ
  cause : ReadCause
  deriving DecidableEq

structure ClockSyncMsg where
  isTest : Bool
  originatorAddress : ℕ
  asduAddress : ℕ
  time : Time
  isNegativeConfirm : Bool
  cause : ClockSyncCause
  deriving DecidableEq

structure TestMsg where
  isTest : Bool
  originatorAddress : ℕ
  asduAddress : ℕ
  cause : ActivationCause
  deriving DecidableEq

structure ResetMsg where
  isTest : Bool
  originatorAddress : ℕ
  asduAddress : ℕ
  qualifier : ℕ
  cause : ActivationCause
  deriving DecidableEq

structure DelayMsg where
  isTest : Bool
  originatorAddress : ℕ
  asduAddress : ℕ
  time : ℕ
  cause : DelayCause
  deriving DecidableEq

structure ParameterMsg where
  isTest : Bool
  originatorAddress : ℕ
  asduAddress : ℕ
  ioAddress : ℕ
  parameter : Parameter
  cause : ParameterCause
  deriving DecidableEq

structure ParameterActivationMsg where
  isTest : Bool
  originatorAddress : ℕ
  asduAddress : ℕ
  ioAddress : ℕ
  qualifier : ℕ
  cause : ParameterActivationCause
  deriving DecidableEq

inductive Msg
  | data (msg : Iec101.DataMsg)
  | command (msg : Iec101.CommandMsg)
  | initialization (msg : Iec101.InitializationMsg)
  | interrogation (msg : Iec101.InterrogationMsg)
  | counterInterrogation (msg : Iec101.CounterInterrogationMsg)
  | read (msg : Iec101.ReadMsg)
  | clockSync (msg : Iec101.ClockSyncMsg)
  | test (msg : Iec101.TestMsg)
  | reset (msg : Iec101.ResetMsg)
  | delay (msg : Iec101.DelayMsg)
  | parameter (msg : Iec101.ParameterMsg)
  | parameterActivation (msg : Iec101.ParameterActivationMsg)
  deriving DecidableEq

end HatDrivers.Iec101
