import HatDrivers.Iec60870.Encodings.Iec103.Encoder

namespace HatDrivers.Iec103

open Iec60870.Encodings.Iec103 (AsduType Cause IoAddress Identification Description ArrayValue
  MeasurandValue DoubleWithTimeValue DoubleWithRelativeTimeValue MeasurandWithRelativeTimeValue)

/-!
# IEC 60870-5-103 driver — common structures

What the master hands to its callbacks: data and generic data, with causes of their own.  The
measurands of an ASDU are named by the ASDU type and their position in it.
-/

inductive DataCause
  | SPONTANEOUS | CYCLIC | TEST_MODE | GENERAL_INTERROGATION | LOCAL_OPERATION | REMOTE_OPERATION
  deriving DecidableEq

def DataCause.value : DataCause → ℕ
  | .SPONTANEOUS => Cause.SPONTANEOUS.value | .CYCLIC => Cause.CYCLIC.value
  | .TEST_MODE => Cause.TEST_MODE.value
  | .GENERAL_INTERROGATION => Cause.GENERAL_INTERROGATION.value
  | .LOCAL_OPERATION => Cause.LOCAL_OPERATION.value
  | .REMOTE_OPERATION => Cause.REMOTE_OPERATION.value

instance : Enumeration DataCause where
  name := "DataCause"
  value := DataCause.value
  members :=
    [.SPONTANEOUS, .CYCLIC, .TEST_MODE, .GENERAL_INTERROGATION, .LOCAL_OPERATION,
     .REMOTE_OPERATION]
  find_value e := by cases e <;> rfl

inductive GenericDataCause
  | SPONTANEOUS | CYCLIC | TEST_MODE | GENERAL_INTERROGATION | LOCAL_OPERATION | REMOTE_OPERATION
  | WRITE_ACK | WRITE_NACK | READ_ACK | READ_NACK | WRITE_CONFIRMATION
  deriving DecidableEq

def GenericDataCause.value : GenericDataCause → ℕ
  | .SPONTANEOUS => Cause.SPONTANEOUS.value | .CYCLIC => Cause.CYCLIC.value
  | .TEST_MODE => Cause.TEST_MODE.value
  | .GENERAL_INTERROGATION => Cause.GENERAL_INTERROGATION.value
  | .LOCAL_OPERATION => Cause.LOCAL_OPERATION.value
  | .REMOTE_OPERATION => Cause.REMOTE_OPERATION.value
  | .WRITE_ACK => Cause.GENERIC_WRITE_COMMAND.value
  | .WRITE_NACK => Cause.GENERIC_WRITE_COMMAND_NACK.value
  | .READ_ACK => Cause.GENERIC_READ_COMMAND.value
  | .READ_NACK => Cause.GENERIC_READ_COMMAND_NACK.value
  | .WRITE_CONFIRMATION => Cause.GENERIC_WRITE_CONFIRMATION.value

instance : Enumeration GenericDataCause where
  name := "GenericDataCause"
  value := GenericDataCause.value
  members :=
    [.SPONTANEOUS, .CYCLIC, .TEST_MODE, .GENERAL_INTERROGATION, .LOCAL_OPERATION,
     .REMOTE_OPERATION, .WRITE_ACK, .WRITE_NACK, .READ_ACK, .READ_NACK, .WRITE_CONFIRMATION]
  find_value e := by cases e <;> rfl

inductive MeasurandType
  | M1_I_L2 | M1_U_L12 | M1_P | M1_Q
  | M2_I_L1 | M2_I_L2 | M2_I_L3 | M2_U_L1E | M2_U_L2E | M2_U_L3E | M2_P | M2_Q | M2_F
  deriving DecidableEq

def MeasurandType.value : MeasurandType → ℕ × ℕ
  | .M1_I_L2 => (AsduType.MEASURANDS_1.value, 0)
  | .M1_U_L12 => (AsduType.MEASURANDS_1.value, 1)
  | .M1_P => (AsduType.MEASURANDS_1.value, 2)
  | .M1_Q => (AsduType.MEASURANDS_1.value, 3)
  | .M2_I_L1 => (AsduType.MEASURANDS_2.value, 0)
  | .M2_I_L2 => (AsduType.MEASURANDS_2.value, 1)
  | .M2_I_L3 => (AsduType.MEASURANDS_2.value, 2)
  | .M2_U_L1E => (AsduType.MEASURANDS_2.value, 3)
  | .M2_U_L2E => (AsduType.MEASURANDS_2.value, 4)
  | .M2_U_L3E => (AsduType.MEASURANDS_2.value, 5)
  | .M2_P => (AsduType.MEASURANDS_2.value, 6)
  | .M2_Q => (AsduType.MEASURANDS_2.value, 7)
  | .M2_F => (AsduType.MEASURANDS_2.value, 8)

def MeasurandType.members : List MeasurandType :=
  [.M1_I_L2, .M1_U_L12, .M1_P, .M1_Q, .M2_I_L1, .M2_I_L2, .M2_I_L3, .M2_U_L1E, .M2_U_L2E,
   .M2_U_L3E, .M2_P, .M2_Q, .M2_F]

/-- `MeasurandType(value)`. -/
def MeasurandType.ofValue (value : ℕ × ℕ) : Except Exn MeasurandType :=
  match MeasurandType.members.find? (MeasurandType.value · == value) with
  | some measurandType => .ok measurandType
  | none =>
    .error (.valueError ("(" ++ toString value.1 ++ ", " ++ toString value.2 ++
      ") is not a valid MeasurandType"))

inductive DataValue
  | DoubleWithTimeValue (value : DoubleWithTimeValue)
  | DoubleWithRelativeTimeValue (value : DoubleWithRelativeTimeValue)
  /-- the items of the dictionary, in the order in which they are set -/
  | MeasurandValues (values : List (MeasurandType × MeasurandValue))
  | MeasurandWithRelativeTimeValue (value : MeasurandWithRelativeTimeValue)
  deriving DecidableEq

structure Data where
  asduAddress : ℕ
  ioAddress : IoAddress
  cause : EnumOr DataCause
  value : DataValue
  deriving DecidableEq

structure GenericData where
  asduAddress : ℕ
  ioAddress : IoAddress
  cause : EnumOr GenericDataCause
  identification : Identification
  description : Description
  value : ArrayValue

/-- `_try_decode_cause`. -/
def tryDecodeCause {E : Type} [Enumeration E] (cause : EnumOr Cause) : EnumOr E :=
  EnumOr.ofNat cause.toNat

end HatDrivers.Iec103
