import HatDrivers.Iec60870.Encodings.Encoder
import HatDrivers.Iec60870.Encodings.Iec101.Common

namespace HatDrivers.Iec60870.Encodings.Iec101

open HatDrivers.Lib

/-!
# IEC 60870-5-101 — encoder

Causes, qualities, values and information elements as `iec101/encoder.py` reads
and writes them, and the ASDU encoder they are plugged into.

The branches of `decode_io_element` / `encode_io_element` put together a few
fields (a value and its quality, a value sharing a byte with its quality, a
command, …).  Each kind of field is one definition; a branch applies it to its
own value codec, mask, quality type and element class.
-/

/-! ### Cause -/

def decodeCauseType (value : ℕ) : EnumOr CauseType := EnumOr.ofNat value

def encodeCauseType (causeType : EnumOr CauseType) : ℕ := causeType.toNat

def decodeCause (cause : ℕ) (causeSize : CauseSize) : Cause where
  type := decodeCauseType (cause &&& 0x3F)
  isNegativeConfirm := bit cause 0x40
  isTest := bit cause 0x80
  originatorAddress :=
    match causeSize with
    | .ONE => 0
    | .TWO => cause >>> 8

def encodeCause (cause : Cause) (causeSize : CauseSize) : ℕ :=
  let result := (if cause.isTest then 0x80 else 0) |||
    (if cause.isNegativeConfirm then 0x40 else 0) ||| encodeCauseType cause.type
  match causeSize with
  | .ONE => result
  | .TWO => result ||| (cause.originatorAddress <<< 8)

/-! ### Qualities -/

/-- The quality packed into a byte. -/
def qualityOfByte : (qualityType : QualityType) → ℕ → qualityType.Quality
  | .INDICATION, b =>
    { invalid := bit b 0x80, notTopical := bit b 0x40, substituted := bit b 0x20,
      blocked := bit b 0x10 }
  | .MEASUREMENT, b =>
    { invalid := bit b 0x80, notTopical := bit b 0x40, substituted := bit b 0x20,
      blocked := bit b 0x10, overflow := bit b 0x01 }
  | .COUNTER, b =>
    { invalid := bit b 0x80, adjusted := bit b 0x40, overflow := bit b 0x20,
      sequence := b &&& 0x1F }
  | .PROTECTION, b =>
    { invalid := bit b 0x80, notTopical := bit b 0x40, substituted := bit b 0x20,
      blocked := bit b 0x10, timeInvalid := bit b 0x08 }

def decodeQuality (qualityType : QualityType) : ByteReader Exn qualityType.Quality :=
  fun ioBytes => do
  return (qualityOfByte qualityType (← byteAt ioBytes 0), ioBytes.drop 1)

/-- The one byte `encode_quality` yields. -/
def qualityByte : (qualityType : QualityType) → qualityType.Quality → ℕ
  | .INDICATION, q =>
    (if q.invalid then 0x80 else 0) ||| (if q.notTopical then 0x40 else 0) |||
      (if q.substituted then 0x20 else 0) ||| (if q.blocked then 0x10 else 0)
  | .MEASUREMENT, q =>
    (if q.invalid then 0x80 else 0) ||| (if q.notTopical then 0x40 else 0) |||
      (if q.substituted then 0x20 else 0) ||| (if q.blocked then 0x10 else 0) |||
      (if q.overflow then 0x01 else 0)
  | .COUNTER, q =>
    (if q.invalid then 0x80 else 0) ||| (if q.adjusted then 0x40 else 0) |||
      (if q.overflow then 0x20 else 0) ||| (q.sequence &&& 0x1F)
  | .PROTECTION, q =>
    (if q.invalid then 0x80 else 0) ||| (if q.notTopical then 0x40 else 0) |||
      (if q.substituted then 0x20 else 0) ||| (if q.blocked then 0x10 else 0) |||
      (if q.timeInvalid then 0x08 else 0)

def encodeQuality (qualityType : QualityType) : ByteWriter Exn qualityType.Quality := fun quality =>
  return [qualityByte qualityType quality]

/-! ### Values -/

/-- `(-1 << 7) | x` of a seven-bit `x` is `x - 128`. -/
def decodeStepPositionValue : ByteReader Exn StepPositionValue := fun ioBytes => do
  let b ← byteAt ioBytes 0
  let value : ℤ := if bit b 0x40 then (b &&& 0x7F : ℕ) - 128 else (b &&& 0x7F : ℕ)
  return ({ value, transient := bit b 0x80 }, ioBytes.drop 1)

/-- `value & 0x7F` of a signed integer is its remainder modulo 128. -/
def encodeStepPositionValue : ByteWriter Exn StepPositionValue := fun v =>
  return [(if v.transient then 0x80 else 0) ||| (v.value % 128).toNat]

def decodeBitstringValue : ByteReader Exn BitstringValue := fun ioBytes =>
  return (⟨ioBytes.take 4⟩, ioBytes.drop 4)

def encodeBitstringValue : ByteWriter Exn BitstringValue := fun v => do
  return [← byteAt v.value 0, ← byteAt v.value 1, ← byteAt v.value 2, ← byteAt v.value 3]

def decodeNormalizedValue : ByteReader Exn NormalizedValue := fun ioBytes => do
  let value ← unpackInt 2 (ioBytes.take 2)
  return (⟨value / 0x7FFF⟩, ioBytes.drop 2)

def encodeNormalizedValue : ByteWriter Exn NormalizedValue := fun v =>
  packInt 2 (roundHalfEven (v.value * 0x7FFF))

def decodeScaledValue : ByteReader Exn ScaledValue := fun ioBytes => do
  let value ← unpackInt 2 (ioBytes.take 2)
  return (⟨value⟩, ioBytes.drop 2)

def encodeScaledValue : ByteWriter Exn ScaledValue := fun v => packInt 2 v.value

def decodeFloatingValue : ByteReader Exn FloatingValue := fun ioBytes => do
  let value ← unpackFloat (ioBytes.take 4)
  return (⟨value⟩, ioBytes.drop 4)

def encodeFloatingValue : ByteWriter Exn FloatingValue := fun v => return packFloat v.value

def decodeBinaryCounterValue : ByteReader Exn BinaryCounterValue := fun ioBytes => do
  let value ← unpackInt 4 (ioBytes.take 4)
  return (⟨value⟩, ioBytes.drop 4)

def encodeBinaryCounterValue : ByteWriter Exn BinaryCounterValue := fun v => packInt 4 v.value

def decodeProtectionStartValue : ByteReader Exn ProtectionStartValue := fun ioBytes => do
  let b ← byteAt ioBytes 0
  return ({ general := bit b 0x01, l1 := bit b 0x02, l2 := bit b 0x04, l3 := bit b 0x08,
            ie := bit b 0x10, reverse := bit b 0x20 }, ioBytes.drop 1)

def encodeProtectionStartValue : ByteWriter Exn ProtectionStartValue := fun v =>
  return [(if v.general then 0x01 else 0) ||| (if v.l1 then 0x02 else 0) |||
    (if v.l2 then 0x04 else 0) ||| (if v.l3 then 0x08 else 0) |||
    (if v.ie then 0x10 else 0) ||| (if v.reverse then 0x20 else 0)]

def decodeProtectionCommandValue : ByteReader Exn ProtectionCommandValue := fun ioBytes => do
  let b ← byteAt ioBytes 0
  return ({ general := bit b 0x01, l1 := bit b 0x02, l2 := bit b 0x04, l3 := bit b 0x08 },
    ioBytes.drop 1)

def encodeProtectionCommandValue : ByteWriter Exn ProtectionCommandValue := fun v =>
  return [(if v.general then 0x01 else 0) ||| (if v.l1 then 0x02 else 0) |||
    (if v.l2 then 0x04 else 0) ||| (if v.l3 then 0x08 else 0)]

/-- Sixteen flags from the byte at `offset` on, least significant bit first. -/
def decodeFlags (ioBytes : Bytes) (offset : ℕ) : Except Exn (List Bool) :=
  (List.range 16).mapM fun i => do return bit (← byteAt ioBytes (offset + i / 8)) (1 <<< (i % 8))

def decodeStatusValue : ByteReader Exn StatusValue := fun ioBytes => do
  let value ← decodeFlags ioBytes 0
  let change ← decodeFlags ioBytes 2
  return ({ value, change }, ioBytes.drop 4)

/-- `acc` of byte `j` of sixteen flags. -/
def encodeFlagsByte (flags : List Bool) (j : ℕ) : Except Exn ℕ :=
  (List.range 8).foldlM (fun acc k =>
    match flags[j * 8 + k]? with
    | some flag => .ok (if flag then acc ||| (1 <<< k) else acc)
    | none => .error .indexError) 0

def encodeStatusValue : ByteWriter Exn StatusValue := fun v => do
  return [← encodeFlagsByte v.value 0, ← encodeFlagsByte v.value 1,
    ← encodeFlagsByte v.change 0, ← encodeFlagsByte v.change 1]

/-! ### Fields of information elements -/

/-- A value in the low bits of its quality byte. -/
def decodeValueInQuality {ν : Type} [Enumeration ν] (mask : ℕ) (qualityType : QualityType) :
    ByteReader Exn (ν × qualityType.Quality) := fun ioBytes => do
  let value ← Enumeration.ofValue ((← byteAt ioBytes 0) &&& mask)
  let (quality, ioBytes) ← decodeQuality qualityType ioBytes
  return ((value, quality), ioBytes)

def encodeValueInQuality {ν : Type} [Enumeration ν] (qualityType : QualityType) (value : ν)
    (quality : qualityType.Quality) : Except Exn (List ℕ) :=
  return [Enumeration.value value ||| qualityByte qualityType quality]

/-- A command byte: value, select flag and qualifier. -/
def decodeCommand {ν : Type} [Enumeration ν] (mask : ℕ) : ByteReader Exn (ν × Bool × ℕ) :=
  fun ioBytes => do
    let b ← byteAt ioBytes 0
    let value ← Enumeration.ofValue (b &&& mask)
    return ((value, bit b 0x80, (b >>> 2) &&& 0x1F), ioBytes.drop 1)

def encodeCommand {ν : Type} [Enumeration ν] (value : ν) (select : Bool) (qualifier : ℕ) :
    Except Exn (List ℕ) :=
  return [Enumeration.value value ||| (if select then 0x80 else 0) ||| ((qualifier &&& 0x1F) <<< 2)]

/-- The flag in the top bit of a byte. -/
def decodeSelect : ByteReader Exn Bool := fun ioBytes => do
  return (bit (← byteAt ioBytes 0) 0x80, ioBytes.drop 1)

def encodeSelect : ByteWriter Exn Bool := fun select => return [if select then 0x80 else 0]

/-- A whole byte. -/
def decodeQualifier : ByteReader Exn ℕ := fun ioBytes => do
  return (← byteAt ioBytes 0, ioBytes.drop 1)

def encodeQualifier : ByteWriter Exn ℕ := fun qualifier => return [qualifier &&& 0xFF]

/-- `int.from_bytes(io_bytes[:2], 'little')`. -/
def decodeInt2 : ByteReader Exn ℕ := fun ioBytes =>
  return (intFromBytes (ioBytes.take 2), ioBytes.drop 2)

def encodeInt2 : ByteWriter Exn ℕ := fun x => intToBytes x 2

/-! ### Information elements -/

def decodeAsduType (asduType : ℕ) : Except Exn AsduType :=
  match Enumeration.ofValue? asduType with
  | some asduType => .ok asduType
  | none => .error (.asduTypeError asduType)

def decodeElement : AsduType → ByteReader Exn IoElement
  | .M_SP_NA => mapRead (fun (value, quality) => .M_SP_NA value quality)
      (decodeValueInQuality 1 .INDICATION)
  | .M_SP_TA => mapRead (fun (value, quality) => .M_SP_TA value quality)
      (decodeValueInQuality 1 .INDICATION)
  | .M_DP_NA => mapRead (fun (value, quality) => .M_DP_NA value quality)
      (decodeValueInQuality 3 .INDICATION)
  | .M_DP_TA => mapRead (fun (value, quality) => .M_DP_TA value quality)
      (decodeValueInQuality 3 .INDICATION)
  | .M_ST_NA => mapRead (fun (value, quality) => .M_ST_NA value quality)
      (pairRead decodeStepPositionValue (decodeQuality .MEASUREMENT))
  | .M_ST_TA => mapRead (fun (value, quality) => .M_ST_TA value quality)
      (pairRead decodeStepPositionValue (decodeQuality .MEASUREMENT))
  | .M_BO_NA => mapRead (fun (value, quality) => .M_BO_NA value quality)
      (pairRead decodeBitstringValue (decodeQuality .MEASUREMENT))
  -- this branch builds the element class of M_BO_NA
  | .M_BO_TA => mapRead (fun (value, quality) => .M_BO_NA value quality)
      (pairRead decodeBitstringValue (decodeQuality .MEASUREMENT))
  | .M_ME_NA => mapRead (fun (value, quality) => .M_ME_NA value quality)
      (pairRead decodeNormalizedValue (decodeQuality .MEASUREMENT))
  | .M_ME_TA => mapRead (fun (value, quality) => .M_ME_TA value quality)
      (pairRead decodeNormalizedValue (decodeQuality .MEASUREMENT))
  | .M_ME_NB => mapRead (fun (value, quality) => .M_ME_NB value quality)
      (pairRead decodeScaledValue (decodeQuality .MEASUREMENT))
  | .M_ME_TB => mapRead (fun (value, quality) => .M_ME_TB value quality)
      (pairRead decodeScaledValue (decodeQuality .MEASUREMENT))
  | .M_ME_NC => mapRead (fun (value, quality) => .M_ME_NC value quality)
      (pairRead decodeFloatingValue (decodeQuality .MEASUREMENT))
  | .M_ME_TC => mapRead (fun (value, quality) => .M_ME_TC value quality)
      (pairRead decodeFloatingValue (decodeQuality .MEASUREMENT))
  | .M_IT_NA => mapRead (fun (value, quality) => .M_IT_NA value quality)
      (pairRead decodeBinaryCounterValue (decodeQuality .COUNTER))
  | .M_IT_TA => mapRead (fun (value, quality) => .M_IT_TA value quality)
      (pairRead decodeBinaryCounterValue (decodeQuality .COUNTER))
  | .M_EP_TA => mapRead (fun ((value, quality), elapsedTime) => .M_EP_TA value quality elapsedTime)
      (pairRead (decodeValueInQuality 3 .PROTECTION) decodeInt2)
  | .M_EP_TB =>
      mapRead (fun ((value, quality), durationTime) => .M_EP_TB value quality durationTime)
      (pairRead (pairRead decodeProtectionStartValue (decodeQuality .PROTECTION)) decodeInt2)
  | .M_EP_TC =>
      mapRead (fun ((value, quality), operatingTime) => .M_EP_TC value quality operatingTime)
      (pairRead (pairRead decodeProtectionCommandValue (decodeQuality .PROTECTION)) decodeInt2)
  | .M_PS_NA => mapRead (fun (value, quality) => .M_PS_NA value quality)
      (pairRead decodeStatusValue (decodeQuality .MEASUREMENT))
  | .M_ME_ND => mapRead .M_ME_ND decodeNormalizedValue
  | .M_SP_TB => mapRead (fun (value, quality) => .M_SP_TB value quality)
      (decodeValueInQuality 1 .INDICATION)
  | .M_DP_TB => mapRead (fun (value, quality) => .M_DP_TB value quality)
      (decodeValueInQuality 3 .INDICATION)
  | .M_ST_TB => mapRead (fun (value, quality) => .M_ST_TB value quality)
      (pairRead decodeStepPositionValue (decodeQuality .MEASUREMENT))
  | .M_BO_TB => mapRead (fun (value, quality) => .M_BO_TB value quality)
      (pairRead decodeBitstringValue (decodeQuality .MEASUREMENT))
  | .M_ME_TD => mapRead (fun (value, quality) => .M_ME_TD value quality)
      (pairRead decodeNormalizedValue (decodeQuality .MEASUREMENT))
  | .M_ME_TE => mapRead (fun (value, quality) => .M_ME_TE value quality)
      (pairRead decodeScaledValue (decodeQuality .MEASUREMENT))
  | .M_ME_TF => mapRead (fun (value, quality) => .M_ME_TF value quality)
      (pairRead decodeFloatingValue (decodeQuality .MEASUREMENT))
  | .M_IT_TB => mapRead (fun (value, quality) => .M_IT_TB value quality)
      (pairRead decodeBinaryCounterValue (decodeQuality .COUNTER))
  | .M_EP_TD => mapRead (fun ((value, quality), elapsedTime) => .M_EP_TD value quality elapsedTime)
      (pairRead (decodeValueInQuality 3 .PROTECTION) decodeInt2)
  | .M_EP_TE =>
      mapRead (fun ((value, quality), durationTime) => .M_EP_TE value quality durationTime)
      (pairRead (pairRead decodeProtectionStartValue (decodeQuality .PROTECTION)) decodeInt2)
  | .M_EP_TF =>
      mapRead (fun ((value, quality), operatingTime) => .M_EP_TF value quality operatingTime)
      (pairRead (pairRead decodeProtectionCommandValue (decodeQuality .PROTECTION)) decodeInt2)
  | .C_SC_NA =>
      mapRead (fun (value, select, qualifier) => .C_SC_NA value select qualifier) (decodeCommand 1)
  | .C_DC_NA =>
      mapRead (fun (value, select, qualifier) => .C_DC_NA value select qualifier) (decodeCommand 3)
  | .C_RC_NA =>
      mapRead (fun (value, select, qualifier) => .C_RC_NA value select qualifier) (decodeCommand 3)
  | .C_SE_NA => mapRead (fun (value, select) => .C_SE_NA value select)
      (pairRead decodeNormalizedValue decodeSelect)
  | .C_SE_NB => mapRead (fun (value, select) => .C_SE_NB value select)
      (pairRead decodeScaledValue decodeSelect)
  | .C_SE_NC => mapRead (fun (value, select) => .C_SE_NC value select)
      (pairRead decodeFloatingValue decodeSelect)
  | .C_BO_NA => mapRead .C_BO_NA decodeBitstringValue
  | .M_EI_NA => fun ioBytes => do
    let b ← byteAt ioBytes 0
    return (.M_EI_NA (bit b 0x80) (b &&& 0x7F), ioBytes.drop 1)
  | .C_IC_NA => mapRead .C_IC_NA decodeQualifier
  | .C_CI_NA => fun ioBytes => do
    let b ← byteAt ioBytes 0
    let freeze ← Enumeration.ofValue (b >>> 6)
    return (.C_CI_NA (b &&& 0x3F) freeze, ioBytes.drop 1)
  | .C_RD_NA => fun ioBytes => return (.C_RD_NA, ioBytes)
  | .C_CS_NA => fun ioBytes => do
    let time ← decodeTime (ioBytes.take 7) .SEVEN
    return (.C_CS_NA time, ioBytes.drop 7)
  | .C_TS_NA => fun ioBytes => return (.C_TS_NA, ioBytes.drop 2)
  | .C_RP_NA => mapRead .C_RP_NA decodeQualifier
  | .C_CD_NA => mapRead .C_CD_NA decodeInt2
  | .P_ME_NA => mapRead (fun (value, qualifier) => .P_ME_NA value qualifier)
      (pairRead decodeNormalizedValue decodeQualifier)
  | .P_ME_NB => mapRead (fun (value, qualifier) => .P_ME_NB value qualifier)
      (pairRead decodeScaledValue decodeQualifier)
  | .P_ME_NC => mapRead (fun (value, qualifier) => .P_ME_NC value qualifier)
      (pairRead decodeFloatingValue decodeQualifier)
  | .P_AC_NA => mapRead .P_AC_NA decodeQualifier
  | .F_FR_NA => fun ioBytes => do
    let fileName := intFromBytes (ioBytes.take 2)
    let fileLength := intFromBytes (slice ioBytes 2 5)
    let ready := bit (← byteAt ioBytes 5) 0x80
    return (.F_FR_NA fileName fileLength ready, ioBytes.drop 6)
  | .F_SR_NA => fun ioBytes => do
    let fileName := intFromBytes (ioBytes.take 2)
    let sectionName ← byteAt ioBytes 2
    let sectionLength := intFromBytes (slice ioBytes 3 6)
    let ready := bit (← byteAt ioBytes 6) 0x80
    return (.F_SR_NA fileName sectionName sectionLength ready, ioBytes.drop 7)
  | .F_SC_NA => fun ioBytes => do
    let fileName := intFromBytes (ioBytes.take 2)
    let sectionName ← byteAt ioBytes 2
    let qualifier ← byteAt ioBytes 3
    return (.F_SC_NA fileName sectionName qualifier, ioBytes.drop 4)
  | .F_LS_NA => fun ioBytes => do
    let fileName := intFromBytes (ioBytes.take 2)
    let sectionName ← byteAt ioBytes 2
    let lastQualifier ← byteAt ioBytes 3
    let checksum ← byteAt ioBytes 4
    return (.F_LS_NA fileName sectionName lastQualifier checksum, ioBytes.drop 5)
  | .F_AF_NA => fun ioBytes => do
    let fileName := intFromBytes (ioBytes.take 2)
    let sectionName ← byteAt ioBytes 2
    let qualifier ← byteAt ioBytes 3
    return (.F_AF_NA fileName sectionName qualifier, ioBytes.drop 4)
  | .F_SG_NA => fun ioBytes => do
    let fileName := intFromBytes (ioBytes.take 2)
    let sectionName ← byteAt ioBytes 2
    let length ← byteAt ioBytes 3
    let segment := slice ioBytes 4 (4 + length)
    return (.F_SG_NA fileName sectionName segment, ioBytes.drop (4 + length))
  | .F_DR_TA => fun ioBytes => do
    let fileName := intFromBytes (ioBytes.take 2)
    let fileLength := intFromBytes (slice ioBytes 2 5)
    let b ← byteAt ioBytes 5
    let creationTime ← decodeTime (slice ioBytes 6 13) .SEVEN
    return (.F_DR_TA fileName fileLength (bit b 0x20) (bit b 0x40) (bit b 0x80) creationTime,
      ioBytes.drop 13)

def decodeIoElement (asduType : ℕ) : ByteReader Exn IoElement := fun ioBytes => do
  decodeElement (← decodeAsduType asduType) ioBytes

def encodeElement : ByteWriter Exn IoElement
  | .M_SP_NA value quality => encodeValueInQuality .INDICATION value quality
  | .M_SP_TA value quality => encodeValueInQuality .INDICATION value quality
  | .M_DP_NA value quality => encodeValueInQuality .INDICATION value quality
  | .M_DP_TA value quality => encodeValueInQuality .INDICATION value quality
  | .M_ST_NA value quality => do
    return (← encodeStepPositionValue value) ++ (← encodeQuality .MEASUREMENT quality)
  | .M_ST_TA value quality => do
    return (← encodeStepPositionValue value) ++ (← encodeQuality .MEASUREMENT quality)
  | .M_BO_NA value quality => do
    return (← encodeBitstringValue value) ++ (← encodeQuality .MEASUREMENT quality)
  | .M_BO_TA value quality => do
    return (← encodeBitstringValue value) ++ (← encodeQuality .MEASUREMENT quality)
  | .M_ME_NA value quality => do
    return (← encodeNormalizedValue value) ++ (← encodeQuality .MEASUREMENT quality)
  | .M_ME_TA value quality => do
    return (← encodeNormalizedValue value) ++ (← encodeQuality .MEASUREMENT quality)
  | .M_ME_NB value quality => do
    return (← encodeScaledValue value) ++ (← encodeQuality .MEASUREMENT quality)
  | .M_ME_TB value quality => do
    return (← encodeScaledValue value) ++ (← encodeQuality .MEASUREMENT quality)
  | .M_ME_NC value quality => do
    return (← encodeFloatingValue value) ++ (← encodeQuality .MEASUREMENT quality)
  | .M_ME_TC value quality => do
    return (← encodeFloatingValue value) ++ (← encodeQuality .MEASUREMENT quality)
  | .M_IT_NA value quality => do
    return (← encodeBinaryCounterValue value) ++ (← encodeQuality .COUNTER quality)
  | .M_IT_TA value quality => do
    return (← encodeBinaryCounterValue value) ++ (← encodeQuality .COUNTER quality)
  | .M_EP_TA value quality elapsedTime => do
    return (← encodeValueInQuality .PROTECTION value quality) ++ (← encodeInt2 elapsedTime)
  | .M_EP_TB value quality durationTime => do
    return (← encodeProtectionStartValue value) ++ (← encodeQuality .PROTECTION quality) ++
      (← encodeInt2 durationTime)
  | .M_EP_TC value quality operatingTime => do
    return (← encodeProtectionCommandValue value) ++ (← encodeQuality .PROTECTION quality) ++
      (← encodeInt2 operatingTime)
  | .M_PS_NA value quality => do
    return (← encodeStatusValue value) ++ (← encodeQuality .MEASUREMENT quality)
  | .M_ME_ND value => encodeNormalizedValue value
  | .M_SP_TB value quality => encodeValueInQuality .INDICATION value quality
  | .M_DP_TB value quality => encodeValueInQuality .INDICATION value quality
  | .M_ST_TB value quality => do
    return (← encodeStepPositionValue value) ++ (← encodeQuality .MEASUREMENT quality)
  | .M_BO_TB value quality => do
    return (← encodeBitstringValue value) ++ (← encodeQuality .MEASUREMENT quality)
  | .M_ME_TD value quality => do
    return (← encodeNormalizedValue value) ++ (← encodeQuality .MEASUREMENT quality)
  | .M_ME_TE value quality => do
    return (← encodeScaledValue value) ++ (← encodeQuality .MEASUREMENT quality)
  | .M_ME_TF value quality => do
    return (← encodeFloatingValue value) ++ (← encodeQuality .MEASUREMENT quality)
  | .M_IT_TB value quality => do
    return (← encodeBinaryCounterValue value) ++ (← encodeQuality .COUNTER quality)
  | .M_EP_TD value quality elapsedTime => do
    return (← encodeValueInQuality .PROTECTION value quality) ++ (← encodeInt2 elapsedTime)
  | .M_EP_TE value quality durationTime => do
    return (← encodeProtectionStartValue value) ++ (← encodeQuality .PROTECTION quality) ++
      (← encodeInt2 durationTime)
  | .M_EP_TF value quality operatingTime => do
    return (← encodeProtectionCommandValue value) ++ (← encodeQuality .PROTECTION quality) ++
      (← encodeInt2 operatingTime)
  | .C_SC_NA value select qualifier => encodeCommand value select qualifier
  | .C_DC_NA value select qualifier => encodeCommand value select qualifier
  | .C_RC_NA value select qualifier => encodeCommand value select qualifier
  | .C_SE_NA value select => do
    return (← encodeNormalizedValue value) ++ (← encodeSelect select)
  | .C_SE_NB value select => do
    return (← encodeScaledValue value) ++ (← encodeSelect select)
  | .C_SE_NC value select => do
    return (← encodeFloatingValue value) ++ (← encodeSelect select)
  | .C_BO_NA value => encodeBitstringValue value
  | .M_EI_NA paramChange cause =>
    return [(if paramChange then 0x80 else 0x00) ||| (cause &&& 0x7F)]
  | .C_IC_NA qualifier => encodeQualifier qualifier
  | .C_CI_NA request freeze => return [(freeze.value <<< 6) ||| (request &&& 0x3F)]
  | .C_RD_NA => return []
  | .C_CS_NA time => encodeTime time .SEVEN
  | .C_TS_NA => return [0xAA, 0x55]
  | .C_RP_NA qualifier => encodeQualifier qualifier
  | .C_CD_NA time => encodeInt2 time
  | .P_ME_NA value qualifier => do
    return (← encodeNormalizedValue value) ++ (← encodeQualifier qualifier)
  | .P_ME_NB value qualifier => do
    return (← encodeScaledValue value) ++ (← encodeQualifier qualifier)
  | .P_ME_NC value qualifier => do
    return (← encodeFloatingValue value) ++ (← encodeQualifier qualifier)
  | .P_AC_NA qualifier => encodeQualifier qualifier
  | .F_FR_NA fileName fileLength ready => do
    return (← intToBytes fileName 2) ++ (← intToBytes fileLength 3) ++
      [if ready then 0x80 else 0x00]
  | .F_SR_NA fileName sectionName sectionLength ready => do
    return (← intToBytes fileName 2) ++ [sectionName &&& 0xFF] ++
      (← intToBytes sectionLength 3) ++ [if ready then 0x80 else 0x00]
  | .F_SC_NA fileName sectionName qualifier => do
    return (← intToBytes fileName 2) ++ [sectionName &&& 0xFF, qualifier &&& 0xFF]
  | .F_LS_NA fileName sectionName lastQualifier checksum => do
    return (← intToBytes fileName 2) ++
      [sectionName &&& 0xFF, lastQualifier &&& 0xFF, checksum &&& 0xFF]
  | .F_AF_NA fileName sectionName qualifier => do
    return (← intToBytes fileName 2) ++ [sectionName &&& 0xFF, qualifier &&& 0xFF]
  | .F_SG_NA fileName sectionName segment => do
    return (← intToBytes fileName 2) ++ [sectionName &&& 0xFF, segment.length] ++
      segment.map UInt8.toNat
  | .F_DR_TA fileName fileLength moreFollows isDirectory transferActive creationTime => do
    return (← intToBytes fileName 2) ++ (← intToBytes fileLength 3) ++
      [(if moreFollows then 0x20 else 0x00) ||| (if isDirectory then 0x40 else 0x00) |||
        (if transferActive then 0x80 else 0x00)] ++ (← encodeTime creationTime .SEVEN)

def encodeIoElement (asduType : ℕ) : ByteWriter Exn IoElement := fun element => do
  let _ ← decodeAsduType asduType
  encodeElement element

/-! ### The encoder -/

def asduTypeTimeSizes : AsduTypeTimeSizes :=
  [(AsduType.M_SP_TA.value, .THREE), (AsduType.M_DP_TA.value, .THREE),
   (AsduType.M_ST_TA.value, .THREE), (AsduType.M_BO_TA.value, .THREE),
   (AsduType.M_ME_TA.value, .THREE), (AsduType.M_ME_TB.value, .THREE),
   (AsduType.M_ME_TC.value, .THREE), (AsduType.M_IT_TA.value, .THREE),
   (AsduType.M_EP_TA.value, .THREE), (AsduType.M_EP_TB.value, .THREE),
   (AsduType.M_EP_TC.value, .THREE), (AsduType.M_SP_TB.value, .SEVEN),
   (AsduType.M_DP_TB.value, .SEVEN), (AsduType.M_ST_TB.value, .SEVEN),
   (AsduType.M_BO_TB.value, .SEVEN), (AsduType.M_ME_TD.value, .SEVEN),
   (AsduType.M_ME_TE.value, .SEVEN), (AsduType.M_ME_TF.value, .SEVEN),
   (AsduType.M_IT_TB.value, .SEVEN), (AsduType.M_EP_TD.value, .SEVEN),
   (AsduType.M_EP_TE.value, .SEVEN), (AsduType.M_EP_TF.value, .SEVEN)]

/-- `decode_asdu` of the encoders of 101 and 104: the generic one, then the type and the cause. -/
def decodeTypedAsdu {τ η : Type} (encoder : Encodings.Encoder η)
    (decodeAsduType : ℕ → Except Exn τ) : ByteReader Exn (ASDU τ η) := fun asduBytes => do
  let (asdu, rest) ← encoder.decodeAsdu asduBytes
  let asduType ← decodeAsduType asdu.type
  let cause := decodeCause asdu.cause encoder.causeSize
  return ({ type := asduType, cause, address := asdu.address, ios := asdu.ios }, rest)

/-- `encode_asdu` of the encoders of 101 and 104. -/
def encodeTypedAsdu {τ η : Type} [Enumeration τ] (encoder : Encodings.Encoder η)
    (asdu : ASDU τ η) : Except Exn Bytes :=
  encoder.encodeAsdu
    { type := Enumeration.value asdu.type, cause := encodeCause asdu.cause encoder.causeSize,
      address := asdu.address, ios := asdu.ios }

structure Encoder where
  causeSize : CauseSize
  asduAddressSize : AsduAddressSize
  ioAddressSize : IoAddressSize
  deriving DecidableEq

/-- The generic encoder inside. -/
def Encoder.encoder (e : Encoder) : Encodings.Encoder IoElement where
  causeSize := e.causeSize
  asduAddressSize := e.asduAddressSize
  ioAddressSize := e.ioAddressSize
  asduTypeTimeSizes := asduTypeTimeSizes
  invertedSequenceBit := false
  decodeIoElementCb := decodeIoElement
  encodeIoElementCb := encodeIoElement

def Encoder.decodeAsdu (e : Encoder) : ByteReader Exn (ASDU AsduType IoElement) :=
  decodeTypedAsdu e.encoder decodeAsduType

def Encoder.encodeAsdu (e : Encoder) (asdu : ASDU AsduType IoElement) : Except Exn Bytes :=
  encodeTypedAsdu e.encoder asdu

end HatDrivers.Iec60870.Encodings.Iec101
