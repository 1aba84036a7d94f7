import HatDrivers.Iec101.Common

namespace HatDrivers.Iec101

open HatDrivers.Lib
open Iec60870.Encodings (Time TimeSize)
open Iec60870.Encodings.Iec101 (AsduType CauseType Cause IoElement)

/-!
# IEC 60870-5-101 driver — encoder

Every message is sent as an ASDU of its own, with a single information element;
an ASDU that arrives gives a message for each of its elements.  The type of an
ASDU is that of the data, command or parameter of its message, and for data also
depends on the size of its time.
-/

/-- The ASDUs of the 101 encoding. -/
abbrev ASDU := Iec60870.Encodings.Iec101.ASDU AsduType IoElement

/-- The encoder inside, which fixes the sizes of the fields. -/
structure Encoder where
  encoder : Iec60870.Encodings.Iec101.Encoder

/-! ### ASDU types -/

/-- One branch of `_get_data_asdu_type`: the types without a time, with one of at
least seven bytes, and with one of at least three. -/
def timedAsduType (time : Option Time) (untimed seven three : Option AsduType) :
    Except Exn AsduType :=
  let asduType :=
    match time with
    | none => untimed
    | some time =>
      if time.size.value ≥ TimeSize.SEVEN.value then seven
      else if time.size.value ≥ TimeSize.THREE.value then three
      else none
  match asduType with
  | some asduType => .ok asduType
  | none => .error (.valueError "unsupported data")

def getDataAsduType (data : Data) (time : Option Time) : Except Exn AsduType :=
  match data with
  | .SingleData .. => timedAsduType time (some .M_SP_NA) (some .M_SP_TB) (some .M_SP_TA)
  | .DoubleData .. => timedAsduType time (some .M_DP_NA) (some .M_DP_TB) (some .M_DP_TA)
  | .StepPositionData .. => timedAsduType time (some .M_ST_NA) (some .M_ST_TB) (some .M_ST_TA)
  | .BitstringData .. => timedAsduType time (some .M_BO_NA) (some .M_BO_TB) (some .M_BO_TA)
  | .NormalizedData _ (some _) => timedAsduType time (some .M_ME_NA) (some .M_ME_TD) (some .M_ME_TA)
  | .NormalizedData _ none => timedAsduType time (some .M_ME_ND) none none
  | .ScaledData .. => timedAsduType time (some .M_ME_NB) (some .M_ME_TE) (some .M_ME_TB)
  | .FloatingData .. => timedAsduType time (some .M_ME_NC) (some .M_ME_TF) (some .M_ME_TC)
  | .BinaryCounterData .. => timedAsduType time (some .M_IT_NA) (some .M_IT_TB) (some .M_IT_TA)
  | .ProtectionData .. => timedAsduType time none (some .M_EP_TD) (some .M_EP_TA)
  | .ProtectionStartData .. => timedAsduType time none (some .M_EP_TE) (some .M_EP_TB)
  | .ProtectionCommandData .. => timedAsduType time none (some .M_EP_TF) (some .M_EP_TC)
  | .StatusData .. => timedAsduType time (some .M_PS_NA) none none

def getCommandAsduType : Command → AsduType
  | .SingleCommand .. => .C_SC_NA
  | .DoubleCommand .. => .C_DC_NA
  | .RegulatingCommand .. => .C_RC_NA
  | .NormalizedCommand .. => .C_SE_NA
  | .ScaledCommand .. => .C_SE_NB
  | .FloatingCommand .. => .C_SE_NC
  | .BitstringCommand .. => .C_BO_NA

def getParameterAsduType : Parameter → AsduType
  | .NormalizedParameter .. => .P_ME_NA
  | .ScaledParameter .. => .P_ME_NB
  | .FloatingParameter .. => .P_ME_NC

/-! ### Information elements -/

/-- The type is the one chosen for the data, so its branch finds the fields it reads. -/
def getDataIoElement (data : Data) (asduType : AsduType) : Except Exn IoElement :=
  match asduType, data with
  | .M_SP_NA, .SingleData value quality => return .M_SP_NA value quality
  | .M_SP_TA, .SingleData value quality => return .M_SP_TA value quality
  | .M_DP_NA, .DoubleData value quality => return .M_DP_NA value quality
  | .M_DP_TA, .DoubleData value quality => return .M_DP_TA value quality
  | .M_ST_NA, .StepPositionData value quality => return .M_ST_NA value quality
  | .M_ST_TA, .StepPositionData value quality => return .M_ST_TA value quality
  | .M_BO_NA, .BitstringData value quality => return .M_BO_NA value quality
  | .M_BO_TA, .BitstringData value quality => return .M_BO_TA value quality
  | .M_ME_NA, .NormalizedData value (some quality) => return .M_ME_NA value quality
  | .M_ME_TA, .NormalizedData value (some quality) => return .M_ME_TA value quality
  | .M_ME_NB, .ScaledData value quality => return .M_ME_NB value quality
  | .M_ME_TB, .ScaledData value quality => return .M_ME_TB value quality
  | .M_ME_NC, .FloatingData value quality => return .M_ME_NC value quality
  | .M_ME_TC, .FloatingData value quality => return .M_ME_TC value quality
  | .M_IT_NA, .BinaryCounterData value quality => return .M_IT_NA value quality
  | .M_IT_TA, .BinaryCounterData value quality => return .M_IT_TA value quality
  | .M_EP_TA, .ProtectionData value quality elapsedTime => return .M_EP_TA value quality elapsedTime
  | .M_EP_TB, .ProtectionStartData value quality durationTime =>
    return .M_EP_TB value quality durationTime
  | .M_EP_TC, .ProtectionCommandData value quality operatingTime =>
    return .M_EP_TC value quality operatingTime
  | .M_PS_NA, .StatusData value quality => return .M_PS_NA value quality
  | .M_ME_ND, .NormalizedData value _ => return .M_ME_ND value
  | .M_SP_TB, .SingleData value quality => return .M_SP_TB value quality
  | .M_DP_TB, .DoubleData value quality => return .M_DP_TB value quality
  | .M_ST_TB, .StepPositionData value quality => return .M_ST_TB value quality
  | .M_BO_TB, .BitstringData value quality => return .M_BO_TB value quality
  | .M_ME_TD, .NormalizedData value (some quality) => return .M_ME_TD value quality
  | .M_ME_TE, .ScaledData value quality => return .M_ME_TE value quality
  | .M_ME_TF, .FloatingData value quality => return .M_ME_TF value quality
  | .M_IT_TB, .BinaryCounterData value quality => return .M_IT_TB value quality
  | .M_EP_TD, .ProtectionData value quality elapsedTime => return .M_EP_TD value quality elapsedTime
  | .M_EP_TE, .ProtectionStartData value quality durationTime =>
    return .M_EP_TE value quality durationTime
  | .M_EP_TF, .ProtectionCommandData value quality operatingTime =>
    return .M_EP_TF value quality operatingTime
  | _, _ => .error (.valueError "unsupported asdu type")

def getCommandIoElement (command : Command) (asduType : AsduType) : Except Exn IoElement :=
  match asduType, command with
  | .C_SC_NA, .SingleCommand value select qualifier => return .C_SC_NA value select qualifier
  | .C_DC_NA, .DoubleCommand value select qualifier => return .C_DC_NA value select qualifier
  | .C_RC_NA, .RegulatingCommand value select qualifier => return .C_RC_NA value select qualifier
  | .C_SE_NA, .NormalizedCommand value select => return .C_SE_NA value select
  | .C_SE_NB, .ScaledCommand value select => return .C_SE_NB value select
  | .C_SE_NC, .FloatingCommand value select => return .C_SE_NC value select
  | .C_BO_NA, .BitstringCommand value => return .C_BO_NA value
  | _, _ => .error (.valueError "unsupported asdu type")

def getParameterIoElement (parameter : Parameter) (asduType : AsduType) : Except Exn IoElement :=
  match asduType, parameter with
  | .P_ME_NA, .NormalizedParameter value qualifier => return .P_ME_NA value qualifier
  | .P_ME_NB, .ScaledParameter value qualifier => return .P_ME_NB value qualifier
  | .P_ME_NC, .FloatingParameter value qualifier => return .P_ME_NC value qualifier
  | _, _ => .error (.valueError "unsupported asdu type")

/-- The element the encoding builds for M_BO_TA is of the class of M_BO_NA. -/
def decodeDataIoElement (ioElement : IoElement) (asduType : AsduType) : Except Exn Data :=
  match asduType, ioElement with
  | .M_SP_NA, .M_SP_NA value quality | .M_SP_TA, .M_SP_TA value quality
  | .M_SP_TB, .M_SP_TB value quality => return .SingleData value quality
  | .M_DP_NA, .M_DP_NA value quality | .M_DP_TA, .M_DP_TA value quality
  | .M_DP_TB, .M_DP_TB value quality => return .DoubleData value quality
  | .M_ST_NA, .M_ST_NA value quality | .M_ST_TA, .M_ST_TA value quality
  | .M_ST_TB, .M_ST_TB value quality => return .StepPositionData value quality
  | .M_BO_NA, .M_BO_NA value quality | .M_BO_TA, .M_BO_NA value quality
  | .M_BO_TB, .M_BO_TB value quality => return .BitstringData value quality
  | .M_ME_NA, .M_ME_NA value quality | .M_ME_TA, .M_ME_TA value quality
  | .M_ME_TD, .M_ME_TD value quality => return .NormalizedData value (some quality)
  | .M_ME_ND, .M_ME_ND value => return .NormalizedData value none
  | .M_ME_NB, .M_ME_NB value quality | .M_ME_TB, .M_ME_TB value quality
  | .M_ME_TE, .M_ME_TE value quality => return .ScaledData value quality
  | .M_ME_NC, .M_ME_NC value quality | .M_ME_TC, .M_ME_TC value quality
  | .M_ME_TF, .M_ME_TF value quality => return .FloatingData value quality
  | .M_IT_NA, .M_IT_NA value quality | .M_IT_TA, .M_IT_TA value quality
  | .M_IT_TB, .M_IT_TB value quality => return .BinaryCounterData value quality
  | .M_EP_TA, .M_EP_TA value quality elapsedTime | .M_EP_TD, .M_EP_TD value quality elapsedTime =>
    return .ProtectionData value quality elapsedTime
  | .M_EP_TB, .M_EP_TB value quality durationTime
  | .M_EP_TE, .M_EP_TE value quality durationTime =>
    return .ProtectionStartData value quality durationTime
  | .M_EP_TC, .M_EP_TC value quality operatingTime
  | .M_EP_TF, .M_EP_TF value quality operatingTime =>
    return .ProtectionCommandData value quality operatingTime
  | .M_PS_NA, .M_PS_NA value quality => return .StatusData value quality
  | _, _ => .error (.valueError "unsupported asdu type")

def decodeCommandIoElement (ioElement : IoElement) (asduType : AsduType) : Except Exn Command :=
  match asduType, ioElement with
  | .C_SC_NA, .C_SC_NA value select qualifier => return .SingleCommand value select qualifier
  | .C_DC_NA, .C_DC_NA value select qualifier => return .DoubleCommand value select qualifier
  | .C_RC_NA, .C_RC_NA value select qualifier => return .RegulatingCommand value select qualifier
  | .C_SE_NA, .C_SE_NA value select => return .NormalizedCommand value select
  | .C_SE_NB, .C_SE_NB value select => return .ScaledCommand value select
  | .C_SE_NC, .C_SE_NC value select => return .FloatingCommand value select
  | .C_BO_NA, .C_BO_NA value => return .BitstringCommand value
  | _, _ => .error (.valueError "unsupported asdu type")

def decodeParameterIoElement (ioElement : IoElement) (asduType : AsduType) :
    Except Exn Parameter :=
  match asduType, ioElement with
  | .P_ME_NA, .P_ME_NA value qualifier => return .NormalizedParameter value qualifier
  | .P_ME_NB, .P_ME_NB value qualifier => return .ScaledParameter value qualifier
  | .P_ME_NC, .P_ME_NC value qualifier => return .FloatingParameter value qualifier
  | _, _ => .error (.valueError "unsupported asdu type")

/-! ### Causes -/

/-- The classes of a cause are looked up in turn, which is what their sum does. -/
def decodeCause {E : Type} [Enumeration E] (causeType : EnumOr CauseType) : EnumOr E :=
  .ofNat causeType.toNat

def encodeCause {E : Type} [Enumeration E] (cause : EnumOr E) : EnumOr CauseType :=
  .ofNat cause.toNat

/-! ### Messages -/

/-- The ASDU of a message: one object with one element. -/
def messageAsdu {τ η : Type} (asduType : τ) (cause : Cause) (asduAddress ioAddress : ℕ)
    (ioElement : η) (time : Option Time) : Iec60870.Encodings.Iec101.ASDU τ η where
  type := asduType
  cause := cause
  address := asduAddress
  ios := [{ address := ioAddress, elements := [ioElement], time }]

def encodeMsg : Msg → Except Exn ASDU
  | .data msg => do
    let asduType ← getDataAsduType msg.data msg.time
    let ioElement ← getDataIoElement msg.data asduType
    return messageAsdu asduType
      ⟨encodeCause msg.cause, false, msg.isTest, msg.originatorAddress⟩
      msg.asduAddress msg.ioAddress ioElement msg.time
  | .command msg => do
    let asduType := getCommandAsduType msg.command
    let ioElement ← getCommandIoElement msg.command asduType
    return messageAsdu asduType
      ⟨encodeCause msg.cause, msg.isNegativeConfirm, msg.isTest, msg.originatorAddress⟩
      msg.asduAddress msg.ioAddress ioElement none
  | .initialization msg =>
    return messageAsdu .M_EI_NA ⟨.enum .INITIALIZED, false, msg.isTest, msg.originatorAddress⟩
      msg.asduAddress 0 (.M_EI_NA msg.paramChange msg.cause.toNat) none
  | .interrogation msg =>
    return messageAsdu .C_IC_NA
      ⟨encodeCause msg.cause, msg.isNegativeConfirm, msg.isTest, msg.originatorAddress⟩
      msg.asduAddress 0 (.C_IC_NA msg.request) none
  | .counterInterrogation msg =>
    return messageAsdu .C_CI_NA
      ⟨encodeCause msg.cause, msg.isNegativeConfirm, msg.isTest, msg.originatorAddress⟩
      msg.asduAddress 0 (.C_CI_NA msg.request msg.freeze) none
  | .read msg =>
    return messageAsdu .C_RD_NA ⟨encodeCause msg.cause, false, msg.isTest, msg.originatorAddress⟩
      msg.asduAddress msg.ioAddress .C_RD_NA none
  | .clockSync msg =>
    return messageAsdu .C_CS_NA
      ⟨encodeCause msg.cause, msg.isNegativeConfirm, msg.isTest, msg.originatorAddress⟩
      msg.asduAddress 0 (.C_CS_NA msg.time) none
  | .test msg =>
    return messageAsdu .C_TS_NA ⟨encodeCause msg.cause, false, msg.isTest, msg.originatorAddress⟩
      msg.asduAddress 0 .C_TS_NA none
  | .reset msg =>
    return messageAsdu .C_RP_NA ⟨encodeCause msg.cause, false, msg.isTest, msg.originatorAddress⟩
      msg.asduAddress 0 (.C_RP_NA msg.qualifier) none
  | .delay msg =>
    return messageAsdu .C_CD_NA ⟨encodeCause msg.cause, false, msg.isTest, msg.originatorAddress⟩
      msg.asduAddress 0 (.C_CD_NA msg.time) none
  | .parameter msg => do
    let asduType := getParameterAsduType msg.parameter
    let ioElement ← getParameterIoElement msg.parameter asduType
    return messageAsdu asduType
      ⟨encodeCause msg.cause, false, msg.isTest, msg.originatorAddress⟩
      msg.asduAddress msg.ioAddress ioElement none
  | .parameterActivation msg =>
    return messageAsdu .P_AC_NA ⟨encodeCause msg.cause, false, msg.isTest, msg.originatorAddress⟩
      msg.asduAddress msg.ioAddress (.P_AC_NA msg.qualifier) none

/-- The types decoded as data. -/
def dataAsduTypes : List AsduType :=
  [.M_SP_NA, .M_SP_TA, .M_DP_NA, .M_DP_TA, .M_ST_NA, .M_ST_TA, .M_BO_NA, .M_BO_TA, .M_ME_NA,
   .M_ME_TA, .M_ME_NB, .M_ME_TB, .M_ME_NC, .M_ME_TC, .M_IT_NA, .M_IT_TA, .M_EP_TA, .M_EP_TB,
   .M_EP_TC, .M_PS_NA, .M_ME_ND, .M_SP_TB, .M_DP_TB, .M_ST_TB, .M_BO_TB, .M_ME_TD, .M_ME_TE,
   .M_ME_TF, .M_IT_TB, .M_EP_TD, .M_EP_TE, .M_EP_TF]

/-- The types decoded as commands. -/
def commandAsduTypes : List AsduType :=
  [.C_SC_NA, .C_DC_NA, .C_RC_NA, .C_SE_NA, .C_SE_NB, .C_SE_NC, .C_BO_NA]

/-- The types decoded as parameters. -/
def parameterAsduTypes : List AsduType := [.P_ME_NA, .P_ME_NB, .P_ME_NC]

def decodeIoElement (asdu : ASDU) (io : Iec60870.Encodings.Io IoElement)
    (ioElement : IoElement) (ioElementIndex : ℕ) : Except Exn Msg := do
  let ioAddress := io.address + ioElementIndex
  let ⟨causeType, isNegativeConfirm, isTest, originatorAddress⟩ := asdu.cause
  let asduAddress := asdu.address
  if asdu.type ∈ dataAsduTypes then
    let data ← decodeDataIoElement ioElement asdu.type
    return .data { isTest, originatorAddress, asduAddress, ioAddress, data, time := io.time,
                   cause := decodeCause causeType }
  else if asdu.type ∈ commandAsduTypes then
    let command ← decodeCommandIoElement ioElement asdu.type
    return .command { isTest, originatorAddress, asduAddress, ioAddress, command,
                      isNegativeConfirm, cause := decodeCause causeType }
  else if asdu.type ∈ parameterAsduTypes then
    let parameter ← decodeParameterIoElement ioElement asdu.type
    return .parameter { isTest, originatorAddress, asduAddress, ioAddress, parameter,
                        cause := decodeCause causeType }
  else
    match asdu.type, ioElement with
    | .M_EI_NA, .M_EI_NA paramChange cause =>
      return .initialization { isTest, originatorAddress, asduAddress, paramChange,
                               cause := .ofNat cause }
    | .C_IC_NA, .C_IC_NA request =>
      return .interrogation { isTest, originatorAddress, asduAddress, request,
                              isNegativeConfirm, cause := decodeCause causeType }
    | .C_CI_NA, .C_CI_NA request freeze =>
      return .counterInterrogation { isTest, originatorAddress, asduAddress, request, freeze,
                                     isNegativeConfirm, cause := decodeCause causeType }
    | .C_RD_NA, _ =>
      return .read { isTest, originatorAddress, asduAddress, ioAddress,
                     cause := decodeCause causeType }
    | .C_CS_NA, .C_CS_NA time =>
      return .clockSync { isTest, originatorAddress, asduAddress, time, isNegativeConfirm,
                          cause := decodeCause causeType }
    | .C_TS_NA, _ =>
      return .test { isTest, originatorAddress, asduAddress, cause := decodeCause causeType }
    | .C_RP_NA, .C_RP_NA qualifier =>
      return .reset { isTest, originatorAddress, asduAddress, qualifier,
                      cause := decodeCause causeType }
    | .C_CD_NA, .C_CD_NA time =>
      return .delay { isTest, originatorAddress, asduAddress, time,
                      cause := decodeCause causeType }
    | .P_AC_NA, .P_AC_NA qualifier =>
      return .parameterActivation { isTest, originatorAddress, asduAddress, ioAddress, qualifier,
                                    cause := decodeCause causeType }
    | _, _ => throw (.valueError "unsupported asdu type")

/-- One message for each element of each object. -/
def decodeAsdu (asdu : ASDU) : Except Exn (List Msg) := do
  let msgs ← asdu.ios.mapM fun io =>
    io.elements.zipIdx.mapM fun (ioElement, i) => decodeIoElement asdu io ioElement i
  return msgs.flatten

/-- The chunks `encode` yields when none of them raises. -/
def Encoder.encode (e : Encoder) (msgs : List Msg) : Except Exn (List Bytes) :=
  msgs.mapM fun msg => do e.encoder.encodeAsdu (← encodeMsg msg)

def Encoder.decode (e : Encoder) (data : Bytes) : Except Exn (List Msg) := do
  let (asdu, _) ← e.encoder.decodeAsdu data
  decodeAsdu asdu

end HatDrivers.Iec101
