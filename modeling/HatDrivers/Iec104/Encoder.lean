import HatDrivers.Iec101.RoundTrip
import HatDrivers.Iec60870.Encodings.Iec104.RoundTrip

namespace HatDrivers.Iec104

open HatDrivers.Lib
open Iec60870.Encodings (Time)
open Iec60870.Encodings.Iec104 (AsduType IoElement ASDU)
open Iec101 (Data Command Parameter CommandCause ActivationCause encodeCause decodeCause
  messageAsdu)

/-!
# IEC 60870-5-104 driver — messages and encoder

The messages of 101, but for commands and tests, which have a time, and for
delays, which 104 does not have.
-/

/-! ### Messages -/

structure CommandMsg where
  isTest : Bool
  originatorAddress : ℕ
  asduAddress : ℕ
  ioAddress : ℕ
  command : Command
  isNegativeConfirm : Bool
  time : Option Time
  cause : CommandCause
  deriving DecidableEq

structure TestMsg where
  isTest : Bool
  originatorAddress : ℕ
  asduAddress : ℕ
  counter : ℕ
  time : Time
  cause : ActivationCause
  deriving DecidableEq

inductive Msg
  | data (msg : Iec101.DataMsg)
  | command (msg : CommandMsg)
  | initialization (msg : Iec101.InitializationMsg)
  | interrogation (msg : Iec101.InterrogationMsg)
  | counterInterrogation (msg : Iec101.CounterInterrogationMsg)
  | read (msg : Iec101.ReadMsg)
  | clockSync (msg : Iec101.ClockSyncMsg)
  | test (msg : TestMsg)
  | reset (msg : Iec101.ResetMsg)
  | parameter (msg : Iec101.ParameterMsg)
  | parameterActivation (msg : Iec101.ParameterActivationMsg)
  deriving DecidableEq

/-! ### ASDU types -/

/-- One branch of `_get_data_asdu_type`: the types without a time and with one. -/
def timedAsduType (time : Option Time) (untimed timed : Option AsduType) : Except Exn AsduType :=
  let asduType :=
    match time with
    | none => untimed
    | some _ => timed
  match asduType with
  | some asduType => .ok asduType
  | none => .error (.valueError "unsupported data")

def getDataAsduType (data : Data) (time : Option Time) : Except Exn AsduType :=
  match data with
  | .SingleData .. => timedAsduType time (some .M_SP_NA) (some .M_SP_TB)
  | .DoubleData .. => timedAsduType time (some .M_DP_NA) (some .M_DP_TB)
  | .StepPositionData .. => timedAsduType time (some .M_ST_NA) (some .M_ST_TB)
  | .BitstringData .. => timedAsduType time (some .M_BO_NA) (some .M_BO_TB)
  | .NormalizedData _ (some _) => timedAsduType time (some .M_ME_NA) (some .M_ME_TD)
  | .NormalizedData _ none => timedAsduType time (some .M_ME_ND) none
  | .ScaledData .. => timedAsduType time (some .M_ME_NB) (some .M_ME_TE)
  | .FloatingData .. => timedAsduType time (some .M_ME_NC) (some .M_ME_TF)
  | .BinaryCounterData .. => timedAsduType time (some .M_IT_NA) (some .M_IT_TB)
  | .ProtectionData .. => timedAsduType time none (some .M_EP_TD)
  | .ProtectionStartData .. => timedAsduType time none (some .M_EP_TE)
  | .ProtectionCommandData .. => timedAsduType time none (some .M_EP_TF)
  | .StatusData .. => timedAsduType time (some .M_PS_NA) none

def getCommandAsduType (command : Command) (time : Option Time) : AsduType :=
  match command, time with
  | .SingleCommand .., none => .C_SC_NA
  | .SingleCommand .., some _ => .C_SC_TA
  | .DoubleCommand .., none => .C_DC_NA
  | .DoubleCommand .., some _ => .C_DC_TA
  | .RegulatingCommand .., none => .C_RC_NA
  | .RegulatingCommand .., some _ => .C_RC_TA
  | .NormalizedCommand .., none => .C_SE_NA
  | .NormalizedCommand .., some _ => .C_SE_TA
  | .ScaledCommand .., none => .C_SE_NB
  | .ScaledCommand .., some _ => .C_SE_TB
  | .FloatingCommand .., none => .C_SE_NC
  | .FloatingCommand .., some _ => .C_SE_TC
  | .BitstringCommand .., none => .C_BO_NA
  | .BitstringCommand .., some _ => .C_BO_TA

def getParameterAsduType : Parameter → AsduType
  | .NormalizedParameter .. => .P_ME_NA
  | .ScaledParameter .. => .P_ME_NB
  | .FloatingParameter .. => .P_ME_NC

/-! ### Information elements -/

/-- The type is the one chosen for the data, so its branch finds the fields it reads. -/
def getDataIoElement (data : Data) (asduType : AsduType) : Except Exn IoElement :=
  match asduType, data with
  | .M_SP_NA, .SingleData value quality => return .iec101 (.M_SP_NA value quality)
  | .M_DP_NA, .DoubleData value quality => return .iec101 (.M_DP_NA value quality)
  | .M_ST_NA, .StepPositionData value quality => return .iec101 (.M_ST_NA value quality)
  | .M_BO_NA, .BitstringData value quality => return .iec101 (.M_BO_NA value quality)
  | .M_ME_NA, .NormalizedData value (some quality) => return .iec101 (.M_ME_NA value quality)
  | .M_ME_NB, .ScaledData value quality => return .iec101 (.M_ME_NB value quality)
  | .M_ME_NC, .FloatingData value quality => return .iec101 (.M_ME_NC value quality)
  | .M_IT_NA, .BinaryCounterData value quality => return .iec101 (.M_IT_NA value quality)
  | .M_PS_NA, .StatusData value quality => return .iec101 (.M_PS_NA value quality)
  | .M_ME_ND, .NormalizedData value _ => return .iec101 (.M_ME_ND value)
  | .M_SP_TB, .SingleData value quality => return .iec101 (.M_SP_TB value quality)
  | .M_DP_TB, .DoubleData value quality => return .iec101 (.M_DP_TB value quality)
  | .M_ST_TB, .StepPositionData value quality => return .iec101 (.M_ST_TB value quality)
  | .M_BO_TB, .BitstringData value quality => return .iec101 (.M_BO_TB value quality)
  | .M_ME_TD, .NormalizedData value (some quality) => return .iec101 (.M_ME_TD value quality)
  | .M_ME_TE, .ScaledData value quality => return .iec101 (.M_ME_TE value quality)
  | .M_ME_TF, .FloatingData value quality => return .iec101 (.M_ME_TF value quality)
  | .M_IT_TB, .BinaryCounterData value quality => return .iec101 (.M_IT_TB value quality)
  | .M_EP_TD, .ProtectionData value quality elapsedTime =>
    return .iec101 (.M_EP_TD value quality elapsedTime)
  | .M_EP_TE, .ProtectionStartData value quality durationTime =>
    return .iec101 (.M_EP_TE value quality durationTime)
  | .M_EP_TF, .ProtectionCommandData value quality operatingTime =>
    return .iec101 (.M_EP_TF value quality operatingTime)
  | _, _ => .error (.valueError "unsupported asdu type")

def getCommandIoElement (command : Command) (asduType : AsduType) : Except Exn IoElement :=
  match asduType, command with
  | .C_SC_NA, .SingleCommand value select qualifier =>
    return .iec101 (.C_SC_NA value select qualifier)
  | .C_SC_TA, .SingleCommand value select qualifier => return .C_SC_TA value select qualifier
  | .C_DC_NA, .DoubleCommand value select qualifier =>
    return .iec101 (.C_DC_NA value select qualifier)
  | .C_DC_TA, .DoubleCommand value select qualifier => return .C_DC_TA value select qualifier
  | .C_RC_NA, .RegulatingCommand value select qualifier =>
    return .iec101 (.C_RC_NA value select qualifier)
  | .C_RC_TA, .RegulatingCommand value select qualifier => return .C_RC_TA value select qualifier
  | .C_SE_NA, .NormalizedCommand value select => return .iec101 (.C_SE_NA value select)
  | .C_SE_TA, .NormalizedCommand value select => return .C_SE_TA value select
  | .C_SE_NB, .ScaledCommand value select => return .iec101 (.C_SE_NB value select)
  | .C_SE_TB, .ScaledCommand value select => return .C_SE_TB value select
  | .C_SE_NC, .FloatingCommand value select => return .iec101 (.C_SE_NC value select)
  | .C_SE_TC, .FloatingCommand value select => return .C_SE_TC value select
  | .C_BO_NA, .BitstringCommand value => return .iec101 (.C_BO_NA value)
  | .C_BO_TA, .BitstringCommand value => return .C_BO_TA value
  | _, _ => .error (.valueError "unsupported asdu type")

def getParameterIoElement (parameter : Parameter) (asduType : AsduType) : Except Exn IoElement :=
  match asduType, parameter with
  | .P_ME_NA, .NormalizedParameter value qualifier => return .iec101 (.P_ME_NA value qualifier)
  | .P_ME_NB, .ScaledParameter value qualifier => return .iec101 (.P_ME_NB value qualifier)
  | .P_ME_NC, .FloatingParameter value qualifier => return .iec101 (.P_ME_NC value qualifier)
  | _, _ => .error (.valueError "unsupported asdu type")

def decodeDataIoElement (ioElement : IoElement) (asduType : AsduType) : Except Exn Data :=
  match asduType, ioElement with
  | .M_SP_NA, .iec101 (.M_SP_NA value quality) | .M_SP_TB, .iec101 (.M_SP_TB value quality) =>
    return .SingleData value quality
  | .M_DP_NA, .iec101 (.M_DP_NA value quality) | .M_DP_TB, .iec101 (.M_DP_TB value quality) =>
    return .DoubleData value quality
  | .M_ST_NA, .iec101 (.M_ST_NA value quality) | .M_ST_TB, .iec101 (.M_ST_TB value quality) =>
    return .StepPositionData value quality
  | .M_BO_NA, .iec101 (.M_BO_NA value quality) | .M_BO_TB, .iec101 (.M_BO_TB value quality) =>
    return .BitstringData value quality
  | .M_ME_NA, .iec101 (.M_ME_NA value quality) | .M_ME_TD, .iec101 (.M_ME_TD value quality) =>
    return .NormalizedData value (some quality)
  | .M_ME_ND, .iec101 (.M_ME_ND value) => return .NormalizedData value none
  | .M_ME_NB, .iec101 (.M_ME_NB value quality) | .M_ME_TE, .iec101 (.M_ME_TE value quality) =>
    return .ScaledData value quality
  | .M_ME_NC, .iec101 (.M_ME_NC value quality) | .M_ME_TF, .iec101 (.M_ME_TF value quality) =>
    return .FloatingData value quality
  | .M_IT_NA, .iec101 (.M_IT_NA value quality) | .M_IT_TB, .iec101 (.M_IT_TB value quality) =>
    return .BinaryCounterData value quality
  | .M_EP_TD, .iec101 (.M_EP_TD value quality elapsedTime) =>
    return .ProtectionData value quality elapsedTime
  | .M_EP_TE, .iec101 (.M_EP_TE value quality durationTime) =>
    return .ProtectionStartData value quality durationTime
  | .M_EP_TF, .iec101 (.M_EP_TF value quality operatingTime) =>
    return .ProtectionCommandData value quality operatingTime
  | .M_PS_NA, .iec101 (.M_PS_NA value quality) => return .StatusData value quality
  | _, _ => .error (.valueError "unsupported asdu type")

def decodeCommandIoElement (ioElement : IoElement) (asduType : AsduType) : Except Exn Command :=
  match asduType, ioElement with
  | .C_SC_NA, .iec101 (.C_SC_NA value select qualifier)
  | .C_SC_TA, .C_SC_TA value select qualifier => return .SingleCommand value select qualifier
  | .C_DC_NA, .iec101 (.C_DC_NA value select qualifier)
  | .C_DC_TA, .C_DC_TA value select qualifier => return .DoubleCommand value select qualifier
  | .C_RC_NA, .iec101 (.C_RC_NA value select qualifier)
  | .C_RC_TA, .C_RC_TA value select qualifier => return .RegulatingCommand value select qualifier
  | .C_SE_NA, .iec101 (.C_SE_NA value select)
  | .C_SE_TA, .C_SE_TA value select => return .NormalizedCommand value select
  | .C_SE_NB, .iec101 (.C_SE_NB value select)
  | .C_SE_TB, .C_SE_TB value select => return .ScaledCommand value select
  | .C_SE_NC, .iec101 (.C_SE_NC value select)
  | .C_SE_TC, .C_SE_TC value select => return .FloatingCommand value select
  | .C_BO_NA, .iec101 (.C_BO_NA value)
  | .C_BO_TA, .C_BO_TA value => return .BitstringCommand value
  | _, _ => .error (.valueError "unsupported asdu type")

def decodeParameterIoElement (ioElement : IoElement) (asduType : AsduType) :
    Except Exn Parameter :=
  match asduType, ioElement with
  | .P_ME_NA, .iec101 (.P_ME_NA value qualifier) => return .NormalizedParameter value qualifier
  | .P_ME_NB, .iec101 (.P_ME_NB value qualifier) => return .ScaledParameter value qualifier
  | .P_ME_NC, .iec101 (.P_ME_NC value qualifier) => return .FloatingParameter value qualifier
  | _, _ => .error (.valueError "unsupported asdu type")

/-! ### Encoder -/

def encodeMsg : Msg → Except Exn ASDU
  | .data msg => do
    let asduType ← getDataAsduType msg.data msg.time
    let ioElement ← getDataIoElement msg.data asduType
    return messageAsdu asduType
      ⟨encodeCause msg.cause, false, msg.isTest, msg.originatorAddress⟩
      msg.asduAddress msg.ioAddress ioElement msg.time
  | .command msg => do
    let asduType := getCommandAsduType msg.command msg.time
    let ioElement ← getCommandIoElement msg.command asduType
    return messageAsdu asduType
      ⟨encodeCause msg.cause, msg.isNegativeConfirm, msg.isTest, msg.originatorAddress⟩
      msg.asduAddress msg.ioAddress ioElement msg.time
  | .initialization msg =>
    return messageAsdu .M_EI_NA ⟨.enum .INITIALIZED, false, msg.isTest, msg.originatorAddress⟩
      msg.asduAddress 0 (.iec101 (.M_EI_NA msg.paramChange msg.cause.toNat)) none
  | .interrogation msg =>
    return messageAsdu .C_IC_NA
      ⟨encodeCause msg.cause, msg.isNegativeConfirm, msg.isTest, msg.originatorAddress⟩
      msg.asduAddress 0 (.iec101 (.C_IC_NA msg.request)) none
  | .counterInterrogation msg =>
    return messageAsdu .C_CI_NA
      ⟨encodeCause msg.cause, msg.isNegativeConfirm, msg.isTest, msg.originatorAddress⟩
      msg.asduAddress 0 (.iec101 (.C_CI_NA msg.request msg.freeze)) none
  | .read msg =>
    return messageAsdu .C_RD_NA ⟨encodeCause msg.cause, false, msg.isTest, msg.originatorAddress⟩
      msg.asduAddress msg.ioAddress (.iec101 .C_RD_NA) none
  | .clockSync msg =>
    return messageAsdu .C_CS_NA
      ⟨encodeCause msg.cause, msg.isNegativeConfirm, msg.isTest, msg.originatorAddress⟩
      msg.asduAddress 0 (.iec101 (.C_CS_NA msg.time)) none
  | .test msg =>
    return messageAsdu .C_TS_TA ⟨encodeCause msg.cause, false, msg.isTest, msg.originatorAddress⟩
      msg.asduAddress 0 (.C_TS_TA msg.counter) (some msg.time)
  | .reset msg =>
    return messageAsdu .C_RP_NA ⟨encodeCause msg.cause, false, msg.isTest, msg.originatorAddress⟩
      msg.asduAddress 0 (.iec101 (.C_RP_NA msg.qualifier)) none
  | .parameter msg => do
    let asduType := getParameterAsduType msg.parameter
    let ioElement ← getParameterIoElement msg.parameter asduType
    return messageAsdu asduType
      ⟨encodeCause msg.cause, false, msg.isTest, msg.originatorAddress⟩
      msg.asduAddress msg.ioAddress ioElement none
  | .parameterActivation msg =>
    return messageAsdu .P_AC_NA ⟨encodeCause msg.cause, false, msg.isTest, msg.originatorAddress⟩
      msg.asduAddress msg.ioAddress (.iec101 (.P_AC_NA msg.qualifier)) none

/-- The types decoded as data. -/
def dataAsduTypes : List AsduType :=
  [.M_SP_NA, .M_DP_NA, .M_ST_NA, .M_BO_NA, .M_ME_NA, .M_ME_NB, .M_ME_NC, .M_IT_NA, .M_PS_NA,
   .M_ME_ND, .M_SP_TB, .M_DP_TB, .M_ST_TB, .M_BO_TB, .M_ME_TD, .M_ME_TE, .M_ME_TF, .M_IT_TB,
   .M_EP_TD, .M_EP_TE, .M_EP_TF]

/-- The types decoded as commands. -/
def commandAsduTypes : List AsduType :=
  [.C_SC_NA, .C_DC_NA, .C_RC_NA, .C_SE_NA, .C_SE_NB, .C_SE_NC, .C_BO_NA, .C_SC_TA, .C_DC_TA,
   .C_RC_TA, .C_SE_TA, .C_SE_TB, .C_SE_TC, .C_BO_TA]

/-- The types decoded as parameters. -/
def parameterAsduTypes : List AsduType := [.P_ME_NA, .P_ME_NB, .P_ME_NC]

def decodeIoElement (asdu : ASDU) (io : Iec60870.Encodings.Io IoElement)
    (ioElement : IoElement) (ioElementIndex : ℕ) : Except Exn Msg := do
  let ioAddress := io.address + ioElementIndex
  let ⟨causeType, isNegativeConfirm, isTest, originatorAddress⟩ := asdu.cause
  let asduAddress := asdu.address
  if asdu.type ∈ dataAsduTypes then
    let data ← decodeDataIoElement ioElement asdu.type
    return .data { isTest, originatorAddress, asduAddress, ioAddress, data, time := io.time,
                   cause := decodeCause causeType }
  else if asdu.type ∈ commandAsduTypes then
    let command ← decodeCommandIoElement ioElement asdu.type
    return .command { isTest, originatorAddress, asduAddress, ioAddress, command,
                      isNegativeConfirm, time := io.time, cause := decodeCause causeType }
  else if asdu.type ∈ parameterAsduTypes then
    let parameter ← decodeParameterIoElement ioElement asdu.type
    return .parameter { isTest, originatorAddress, asduAddress, ioAddress, parameter,
                        cause := decodeCause causeType }
  else
    match asdu.type, ioElement with
    | .M_EI_NA, .iec101 (.M_EI_NA paramChange cause) =>
      return .initialization { isTest, originatorAddress, asduAddress, paramChange,
                               cause := .ofNat cause }
    | .C_IC_NA, .iec101 (.C_IC_NA request) =>
      return .interrogation { isTest, originatorAddress, asduAddress, request,
                              isNegativeConfirm, cause := decodeCause causeType }
    | .C_CI_NA, .iec101 (.C_CI_NA request freeze) =>
      return .counterInterrogation { isTest, originatorAddress, asduAddress, request, freeze,
                                     isNegativeConfirm, cause := decodeCause causeType }
    | .C_RD_NA, _ =>
      return .read { isTest, originatorAddress, asduAddress, ioAddress,
                     cause := decodeCause causeType }
    | .C_CS_NA, .iec101 (.C_CS_NA time) =>
      return .clockSync { isTest, originatorAddress, asduAddress, time, isNegativeConfirm,
                          cause := decodeCause causeType }
    | .C_RP_NA, .iec101 (.C_RP_NA qualifier) =>
      return .reset { isTest, originatorAddress, asduAddress, qualifier,
                      cause := decodeCause causeType }
    | .C_TS_TA, .C_TS_TA counter =>
      -- the type has a time, so the object has one
      match io.time with
      | some time => return .test { isTest, originatorAddress, asduAddress, counter, time,
                                    cause := decodeCause causeType }
      | none => throw .typeError
    | .P_AC_NA, .iec101 (.P_AC_NA qualifier) =>
      return .parameterActivation { isTest, originatorAddress, asduAddress, ioAddress, qualifier,
                                    cause := decodeCause causeType }
    | _, _ => throw (.valueError "unsupported asdu type")

/-- One message for each element of each object. -/
def decodeAsdu (asdu : ASDU) : Except Exn (List Msg) := do
  let msgs ← asdu.ios.mapM fun io =>
    io.elements.zipIdx.mapM fun (ioElement, i) => decodeIoElement asdu io ioElement i
  return msgs.flatten

/-- The chunks `encode` yields. -/
def encode (msgs : List Msg) : Except Exn (List Bytes) :=
  msgs.mapM fun msg => do Iec60870.Encodings.Iec104.encodeAsdu (← encodeMsg msg)

def decode (data : Bytes) : Except Exn (List Msg) := do
  let (asdu, _) ← Iec60870.Encodings.Iec104.decodeAsdu data
  decodeAsdu asdu

end HatDrivers.Iec104
