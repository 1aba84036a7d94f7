import HatDrivers.Iec60870.Encodings.Iec101.Elements

namespace HatDrivers.Iec60870.Encodings.Iec104

open HatDrivers.Lib
open Iec60870.Encodings.Iec101 (Cause SingleValue DoubleValue RegulatingValue NormalizedValue
  ScaledValue FloatingValue BitstringValue)

/-!
# IEC 60870-5-104 — data model and encoder

The companion standard of IEC 60870-5-101 over TCP: fixed field sizes, most of
the ASDU types and elements of 101 (decoded by its encoder), and the commands
with a seven-byte time.
-/

/-! ### Data model -/

inductive AsduType
  | M_SP_NA | M_DP_NA | M_ST_NA | M_BO_NA | M_ME_NA | M_ME_NB | M_ME_NC | M_IT_NA | M_PS_NA
  | M_ME_ND | M_SP_TB | M_DP_TB | M_ST_TB | M_BO_TB | M_ME_TD | M_ME_TE | M_ME_TF | M_IT_TB
  | M_EP_TD | M_EP_TE | M_EP_TF | C_SC_NA | C_DC_NA | C_RC_NA | C_SE_NA | C_SE_NB | C_SE_NC
  | C_BO_NA | C_SC_TA | C_DC_TA | C_RC_TA | C_SE_TA | C_SE_TB | C_SE_TC | C_BO_TA | M_EI_NA
  | C_IC_NA | C_CI_NA | C_RD_NA | C_CS_NA | C_RP_NA | C_TS_TA | P_ME_NA | P_ME_NB | P_ME_NC
  | P_AC_NA | F_FR_NA | F_SR_NA | F_SC_NA | F_LS_NA | F_AF_NA | F_SG_NA | F_DR_TA
  deriving DecidableEq

def AsduType.value : AsduType → ℕ
  | .M_SP_NA => Iec101.AsduType.M_SP_NA.value | .M_DP_NA => Iec101.AsduType.M_DP_NA.value
  | .M_ST_NA => Iec101.AsduType.M_ST_NA.value | .M_BO_NA => Iec101.AsduType.M_BO_NA.value
  | .M_ME_NA => Iec101.AsduType.M_ME_NA.value | .M_ME_NB => Iec101.AsduType.M_ME_NB.value
  | .M_ME_NC => Iec101.AsduType.M_ME_NC.value | .M_IT_NA => Iec101.AsduType.M_IT_NA.value
  | .M_PS_NA => Iec101.AsduType.M_PS_NA.value | .M_ME_ND => Iec101.AsduType.M_ME_ND.value
  | .M_SP_TB => Iec101.AsduType.M_SP_TB.value | .M_DP_TB => Iec101.AsduType.M_DP_TB.value
  | .M_ST_TB => Iec101.AsduType.M_ST_TB.value | .M_BO_TB => Iec101.AsduType.M_BO_TB.value
  | .M_ME_TD => Iec101.AsduType.M_ME_TD.value | .M_ME_TE => Iec101.AsduType.M_ME_TE.value
  | .M_ME_TF => Iec101.AsduType.M_ME_TF.value | .M_IT_TB => Iec101.AsduType.M_IT_TB.value
  | .M_EP_TD => Iec101.AsduType.M_EP_TD.value | .M_EP_TE => Iec101.AsduType.M_EP_TE.value
  | .M_EP_TF => Iec101.AsduType.M_EP_TF.value | .C_SC_NA => Iec101.AsduType.C_SC_NA.value
  | .C_DC_NA => Iec101.AsduType.C_DC_NA.value | .C_RC_NA => Iec101.AsduType.C_RC_NA.value
  | .C_SE_NA => Iec101.AsduType.C_SE_NA.value | .C_SE_NB => Iec101.AsduType.C_SE_NB.value
  | .C_SE_NC => Iec101.AsduType.C_SE_NC.value | .C_BO_NA => Iec101.AsduType.C_BO_NA.value
  | .C_SC_TA => 58 | .C_DC_TA => 59 | .C_RC_TA => 60 | .C_SE_TA => 61 | .C_SE_TB => 62
  | .C_SE_TC => 63 | .C_BO_TA => 64 | .M_EI_NA => Iec101.AsduType.M_EI_NA.value
  | .C_IC_NA => Iec101.AsduType.C_IC_NA.value | .C_CI_NA => Iec101.AsduType.C_CI_NA.value
  | .C_RD_NA => Iec101.AsduType.C_RD_NA.value | .C_CS_NA => Iec101.AsduType.C_CS_NA.value
  | .C_RP_NA => Iec101.AsduType.C_RP_NA.value | .C_TS_TA => 107
  | .P_ME_NA => Iec101.AsduType.P_ME_NA.value | .P_ME_NB => Iec101.AsduType.P_ME_NB.value
  | .P_ME_NC => Iec101.AsduType.P_ME_NC.value | .P_AC_NA => Iec101.AsduType.P_AC_NA.value
  | .F_FR_NA => Iec101.AsduType.F_FR_NA.value | .F_SR_NA => Iec101.AsduType.F_SR_NA.value
  | .F_SC_NA => Iec101.AsduType.F_SC_NA.value | .F_LS_NA => Iec101.AsduType.F_LS_NA.value
  | .F_AF_NA => Iec101.AsduType.F_AF_NA.value | .F_SG_NA => Iec101.AsduType.F_SG_NA.value
  | .F_DR_TA => Iec101.AsduType.F_DR_TA.value

instance : Enumeration AsduType where
  name := "AsduType"
  value := AsduType.value
  members :=
    [.M_SP_NA, .M_DP_NA, .M_ST_NA, .M_BO_NA, .M_ME_NA, .M_ME_NB, .M_ME_NC, .M_IT_NA, .M_PS_NA,
     .M_ME_ND, .M_SP_TB, .M_DP_TB, .M_ST_TB, .M_BO_TB, .M_ME_TD, .M_ME_TE, .M_ME_TF, .M_IT_TB,
     .M_EP_TD, .M_EP_TE, .M_EP_TF, .C_SC_NA, .C_DC_NA, .C_RC_NA, .C_SE_NA, .C_SE_NB, .C_SE_NC,
     .C_BO_NA, .C_SC_TA, .C_DC_TA, .C_RC_TA, .C_SE_TA, .C_SE_TB, .C_SE_TC, .C_BO_TA, .M_EI_NA,
     .C_IC_NA, .C_CI_NA, .C_RD_NA, .C_CS_NA, .C_RP_NA, .C_TS_TA, .P_ME_NA, .P_ME_NB, .P_ME_NC,
     .P_AC_NA, .F_FR_NA, .F_SR_NA, .F_SC_NA, .F_LS_NA, .F_AF_NA, .F_SG_NA, .F_DR_TA]
  find_value e := by cases e <;> rfl

/-- Elements of 101, and the classes of the commands with time. -/
inductive IoElement
  | iec101 (element : Iec101.IoElement)
  | C_SC_TA (value : SingleValue) (select : Bool) (qualifier : ℕ)
  | C_DC_TA (value : DoubleValue) (select : Bool) (qualifier : ℕ)
  | C_RC_TA (value : RegulatingValue) (select : Bool) (qualifier : ℕ)
  | C_SE_TA (value : NormalizedValue) (select : Bool)
  | C_SE_TB (value : ScaledValue) (select : Bool)
  | C_SE_TC (value : FloatingValue) (select : Bool)
  | C_BO_TA (value : BitstringValue)
  | C_TS_TA (counter : ℕ)
  deriving DecidableEq

abbrev ASDU := Iec101.ASDU AsduType IoElement

/-- The value of the ASDU type an element class belongs to. -/
def IoElement.asduTypeValue : IoElement → ℕ
  | .iec101 element => element.asduType.value
  | .C_SC_TA .. => AsduType.C_SC_TA.value
  | .C_DC_TA .. => AsduType.C_DC_TA.value
  | .C_RC_TA .. => AsduType.C_RC_TA.value
  | .C_SE_TA .. => AsduType.C_SE_TA.value
  | .C_SE_TB .. => AsduType.C_SE_TB.value
  | .C_SE_TC .. => AsduType.C_SE_TC.value
  | .C_BO_TA .. => AsduType.C_BO_TA.value
  | .C_TS_TA .. => AsduType.C_TS_TA.value

/-- The documented ranges of the fields of an element. -/
def IoElement.Valid : IoElement → Prop
  | .iec101 element => element.Valid
  | .C_SC_TA _ _ qualifier | .C_DC_TA _ _ qualifier | .C_RC_TA _ _ qualifier => qualifier ≤ 31
  | .C_SE_TA value _ => value.Valid
  | .C_SE_TB value _ => value.Valid
  | .C_SE_TC _ _ => True
  | .C_BO_TA value => value.Valid
  | .C_TS_TA counter => counter ≤ 65535

/-! ### Encoder -/

def iec101AsduTypes : List ℕ :=
  [AsduType.M_SP_NA.value, AsduType.M_DP_NA.value, AsduType.M_ST_NA.value,
   AsduType.M_BO_NA.value, AsduType.M_ME_NA.value, AsduType.M_ME_NB.value,
   AsduType.M_ME_NC.value, AsduType.M_IT_NA.value, AsduType.M_PS_NA.value,
   AsduType.M_ME_ND.value, AsduType.M_SP_TB.value, AsduType.M_DP_TB.value,
   AsduType.M_ST_TB.value, AsduType.M_BO_TB.value, AsduType.M_ME_TD.value,
   AsduType.M_ME_TE.value, AsduType.M_ME_TF.value, AsduType.M_IT_TB.value,
   AsduType.M_EP_TD.value, AsduType.M_EP_TE.value, AsduType.M_EP_TF.value,
   AsduType.C_SC_NA.value, AsduType.C_DC_NA.value, AsduType.C_RC_NA.value,
   AsduType.C_SE_NA.value, AsduType.C_SE_NB.value, AsduType.C_SE_NC.value,
   AsduType.C_BO_NA.value, AsduType.M_EI_NA.value, AsduType.C_IC_NA.value,
   AsduType.C_CI_NA.value, AsduType.C_RD_NA.value, AsduType.C_CS_NA.value,
   AsduType.C_RP_NA.value, AsduType.P_ME_NA.value, AsduType.P_ME_NB.value,
   AsduType.P_ME_NC.value, AsduType.P_AC_NA.value, AsduType.F_FR_NA.value,
   AsduType.F_SR_NA.value, AsduType.F_SC_NA.value, AsduType.F_LS_NA.value,
   AsduType.F_AF_NA.value, AsduType.F_SG_NA.value, AsduType.F_DR_TA.value]

def decodeAsduType (asduType : ℕ) : Except Exn AsduType :=
  match Enumeration.ofValue? asduType with
  | some asduType => .ok asduType
  | none => .error (.asduTypeError asduType)

/-- The branches of the types that 101 does not have. -/
def decodeElement : AsduType → ByteReader Exn IoElement
  | .C_SC_TA =>
      mapRead (fun (value, select, qualifier) => .C_SC_TA value select qualifier)
        (Iec101.decodeCommand 1)
  | .C_DC_TA =>
      mapRead (fun (value, select, qualifier) => .C_DC_TA value select qualifier)
        (Iec101.decodeCommand 3)
  | .C_RC_TA =>
      mapRead (fun (value, select, qualifier) => .C_RC_TA value select qualifier)
        (Iec101.decodeCommand 3)
  | .C_SE_TA => mapRead (fun (value, select) => .C_SE_TA value select)
      (pairRead Iec101.decodeNormalizedValue Iec101.decodeSelect)
  | .C_SE_TB => mapRead (fun (value, select) => .C_SE_TB value select)
      (pairRead Iec101.decodeScaledValue Iec101.decodeSelect)
  | .C_SE_TC => mapRead (fun (value, select) => .C_SE_TC value select)
      (pairRead Iec101.decodeFloatingValue Iec101.decodeSelect)
  | .C_BO_TA => mapRead .C_BO_TA Iec101.decodeBitstringValue
  | .C_TS_TA => mapRead .C_TS_TA Iec101.decodeInt2
  | _ => fun _ => .error (.valueError "unsupported ASDU type")

def decodeIoElement (asduType : ℕ) : ByteReader Exn IoElement := fun ioBytes => do
  let asduType ← decodeAsduType asduType
  if asduType.value ∈ iec101AsduTypes then
    mapRead .iec101 (Iec101.decodeIoElement asduType.value) ioBytes
  else decodeElement asduType ioBytes

/-- The branches of the types that 101 does not have. -/
def encodeElement : ByteWriter Exn IoElement
  | .C_SC_TA value select qualifier => Iec101.encodeCommand value select qualifier
  | .C_DC_TA value select qualifier => Iec101.encodeCommand value select qualifier
  | .C_RC_TA value select qualifier => Iec101.encodeCommand value select qualifier
  | .C_SE_TA value select => do
    return (← Iec101.encodeNormalizedValue value) ++ (← Iec101.encodeSelect select)
  | .C_SE_TB value select => do
    return (← Iec101.encodeScaledValue value) ++ (← Iec101.encodeSelect select)
  | .C_SE_TC value select => do
    return (← Iec101.encodeFloatingValue value) ++ (← Iec101.encodeSelect select)
  | .C_BO_TA value => Iec101.encodeBitstringValue value
  | .C_TS_TA counter => Iec101.encodeInt2 counter
  | .iec101 _ => .error (.valueError "unsupported IO element")

/-- The encoder of 101 knows only its own element classes. -/
def encodeIec101Element (asduType : ℕ) : ByteWriter Exn IoElement
  | .iec101 element => Iec101.encodeIoElement asduType element
  | _ => .error (.valueError "unsupported IO element")

def encodeIoElement (asduType : ℕ) : ByteWriter Exn IoElement := fun element => do
  let asduType ← decodeAsduType asduType
  if asduType.value ∈ iec101AsduTypes then encodeIec101Element asduType.value element
  else encodeElement element

/-- The second dictionary of the display takes precedence, but no key is in both. -/
def asduTypeTimeSizes : AsduTypeTimeSizes :=
  Iec101.asduTypeTimeSizes.filter (fun item => item.1 ∈ iec101AsduTypes) ++
    [(AsduType.C_SC_TA.value, .SEVEN), (AsduType.C_DC_TA.value, .SEVEN),
     (AsduType.C_RC_TA.value, .SEVEN), (AsduType.C_SE_TA.value, .SEVEN),
     (AsduType.C_SE_TB.value, .SEVEN), (AsduType.C_SE_TC.value, .SEVEN),
     (AsduType.C_BO_TA.value, .SEVEN), (AsduType.C_TS_TA.value, .SEVEN)]

/-- The generic encoder inside. -/
def encoder : Encodings.Encoder IoElement where
  causeSize := .TWO
  asduAddressSize := .TWO
  ioAddressSize := .THREE
  asduTypeTimeSizes := asduTypeTimeSizes
  invertedSequenceBit := false
  decodeIoElementCb := decodeIoElement
  encodeIoElementCb := encodeIoElement

def decodeAsdu : ByteReader Exn ASDU := Iec101.decodeTypedAsdu encoder decodeAsduType

def encodeAsdu (asdu : ASDU) : Except Exn Bytes := Iec101.encodeTypedAsdu encoder asdu

end HatDrivers.Iec60870.Encodings.Iec104
