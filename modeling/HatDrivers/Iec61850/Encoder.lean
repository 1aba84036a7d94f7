import HatDrivers.Iec61850.References
import HatDrivers.Mms.Encoder

namespace HatDrivers.Iec61850

open HatDrivers.Lib

/-!
# IEC 61850 — encoder

Values, attributes of report control blocks and commands, as MMS data.  Sets of enumeration
members are bit strings, each member at the place of its value (`flagBits`, `flagSet`).
-/

/-! ### Sets as bit strings -/

section Flags

variable {E : Type} [Enumeration E] [DecidableEq E]

/-- `(E(i) in flags for i in range(first, first + n))`. -/
def flagBits (flags : Finset E) (first n : ℕ) : Except Exn (List Bool) :=
  (List.range' first n).mapM fun i => return decide ((← Enumeration.ofValue i) ∈ flags)

/-- `{E(index) for index, i in enumerate(bits) if p(index) and i}`. -/
def flagSet (p : ℕ → Bool) (bits : List Bool) : Except Exn (Finset E) := do
  let indexes := (bits.zipIdx.filter fun i => p i.2 && i.1).map (·.2)
  return (← indexes.mapM Enumeration.ofValue).toFinset

end Flags

/-! ### Values from data -/

/-- Two bits of a bit string. -/
def twoBits (high low : Bool) : ℕ := high.toNat <<< 1 ||| low.toNat

def unexpectedDataType {α : Type} : Except Exn α := .error (.exception "unexpected data type")

def invalidLength {α : Type} : Except Exn α := .error (.exception "invalid bit string length")

def invalidSize {α : Type} : Except Exn α := .error (.exception "invalid structure size")

def basicFromMmsData : BasicValueType → Mms.Data → Except Exn Value
  | .BOOLEAN, .BooleanData value => .ok (.bool value)
  | .INTEGER, .IntegerData value => .ok (.int value)
  | .UNSIGNED, .UnsignedData value => .ok (.int value)
  | .FLOAT, .FloatingPointData value => .ok (.float value)
  | .BIT_STRING, .BitStringData value => .ok (.bits value)
  | .OCTET_STRING, .OctetStringData value => .ok (.bytes value)
  | .VISIBLE_STRING, .VisibleStringData value => .ok (.str value)
  | .MMS_STRING, .MmsStringData value => .ok (.str value)
  | _, _ => unexpectedDataType

def qualityFromMmsData (data : Mms.Data) : Except Exn Quality :=
  match data with
  | .BitStringData value =>
    match value with
    | [v0, v1, _, _, _, _, _, _, _, _, v10, v11, v12] => do
      let validity ← Enumeration.ofValue (twoBits v0 v1)
      let details ← flagSet (fun index => 2 ≤ index ∧ index ≤ 9) value
      let source ← Enumeration.ofValue v10.toNat
      return { validity, details, source, test := v11, operatorBlocked := v12 }
    | _ => invalidLength
  | _ => unexpectedDataType

def timestampFromMmsData : Mms.Data → Except Exn Timestamp
  | .UtcTimeData value leapSecond clockFailure notSynchronized accuracy =>
    .ok { value, leapSecond, clockFailure, notSynchronized, accuracy }
  | _ => unexpectedDataType

/-- `E((mms_data.value[0] << 1) | mms_data.value[1])`. -/
def twoBitsFromMmsData {E : Type} [Enumeration E] : Mms.Data → Except Exn E
  | .BitStringData [v0, v1] => Enumeration.ofValue (twoBits v0 v1)
  | .BitStringData _ => invalidLength
  | _ => unexpectedDataType

/-- `E(mms_data.value)`. -/
def enumFromMmsData {E : Type} [Enumeration E] : Mms.Data → Except Exn E
  | .IntegerData value => Mms.enumOf value
  | _ => unexpectedDataType

/-- One element of an analogue value. -/
def analogueElement (value : Analogue) : Mms.Data → Except Exn Analogue
  | .IntegerData i => .ok { value with i := some i }
  | .FloatingPointData f => .ok { value with f := some f }
  | _ => unexpectedDataType

def analogueFromMmsData : Mms.Data → Except Exn Analogue
  | .StructureData elements =>
    if elements.length < 1 ∨ elements.length > 2 then invalidSize
    else elements.foldlM analogueElement { i := none, f := none }
  | _ => unexpectedDataType

def vectorFromMmsData : Mms.Data → Except Exn Vector
  | .StructureData [magnitude] =>
    return { magnitude := ← analogueFromMmsData magnitude, angle := none }
  | .StructureData [magnitude, angle] =>
    return { magnitude := ← analogueFromMmsData magnitude
             angle := some (← analogueFromMmsData angle) }
  | .StructureData _ => invalidSize
  | _ => unexpectedDataType

def intFromMmsData : Mms.Data → Except Exn ℤ
  | .IntegerData value => .ok value
  | _ => unexpectedDataType

def boolFromMmsData : Mms.Data → Except Exn Bool
  | .BooleanData value => .ok value
  | _ => unexpectedDataType

def unsignedFromMmsData : Mms.Data → Except Exn ℤ
  | .UnsignedData value => .ok value
  | _ => unexpectedDataType

def bitsFromMmsData : Mms.Data → Except Exn (List Bool)
  | .BitStringData value => .ok value
  | _ => unexpectedDataType

def bytesFromMmsData : Mms.Data → Except Exn Bytes
  | .OctetStringData value => .ok value
  | _ => unexpectedDataType

def strFromMmsData : Mms.Data → Except Exn String
  | .VisibleStringData value => .ok value
  | _ => unexpectedDataType

def stepPositionFromMmsData : Mms.Data → Except Exn StepPosition
  | .StructureData [value] => return { value := ← intFromMmsData value, transient := none }
  | .StructureData [value, transient] =>
    return { value := ← intFromMmsData value
             transient := some (← boolFromMmsData transient) }
  | .StructureData _ => invalidSize
  | _ => unexpectedDataType

def acsiFromMmsData : AcsiValueType → Mms.Data → Except Exn Value
  | .QUALITY, data => return .quality (← qualityFromMmsData data)
  | .TIMESTAMP, data => return .timestamp (← timestampFromMmsData data)
  | .DOUBLE_POINT, data => return .doublePoint (← twoBitsFromMmsData data)
  | .DIRECTION, data => return .direction (← enumFromMmsData data)
  | .SEVERITY, data => return .severity (← enumFromMmsData data)
  | .ANALOGUE, data => return .analogue (← analogueFromMmsData data)
  | .VECTOR, data => return .vector (← vectorFromMmsData data)
  | .STEP_POSITION, data => return .stepPosition (← stepPositionFromMmsData data)
  | .BINARY_CONTROL, data => return .binaryControl (← twoBitsFromMmsData data)

/-- A dict of its items, of which a later one replaces an earlier one with the same key. -/
def dictOf (items : List (String × Value)) : String → Option Value := fun key =>
  (items.reverse.find? fun item => item.1 = key).map (·.2)

mutual

def valueFromMmsData : ValueType → Mms.Data → Except Exn Value
  | .basic type, data => basicFromMmsData type data
  | .acsi type, data => acsiFromMmsData type data
  | .ArrayValueType type length, data =>
    match data with
    | .ArrayData elements =>
      if elements.length ≠ length then .error (.exception "invalid array length")
      else return .array (← elements.mapM (valueFromMmsData type))
    | _ => unexpectedDataType
  | .StructValueType types, data =>
    match data with
    | .StructureData elements =>
      if elements.length ≠ types.length then invalidSize
      else return .struct (dictOf (← itemsFromMmsData types elements))
    | _ => unexpectedDataType

/-- `(k, value_from_mms_data(i, t)) for i, (k, t) in zip(elements, value_type.elements)`. -/
def itemsFromMmsData :
    List (String × ValueType) → List Mms.Data → Except Exn (List (String × Value))
  | (key, type) :: types, data :: elements =>
    return (key, ← valueFromMmsData type data) :: (← itemsFromMmsData types elements)
  | _, _ => return []

end

/-! ### Data of values -/

def unexpectedValueType {α : Type} : Except Exn α := .error (.exception "unexpected value type")

def basicToMmsData : BasicValueType → Value → Except Exn Mms.Data
  | .BOOLEAN, .bool value => .ok (.BooleanData value)
  | .INTEGER, .int value => .ok (.IntegerData value)
  -- a `bool` is an `int`
  | .INTEGER, .bool value => .ok (.IntegerData value.toNat)
  | .UNSIGNED, .int value => .ok (.UnsignedData value)
  | .UNSIGNED, .bool value => .ok (.UnsignedData value.toNat)
  | .FLOAT, .float value => .ok (.FloatingPointData value)
  | .BIT_STRING, .bits value => .ok (.BitStringData value)
  | .OCTET_STRING, .bytes value => .ok (.OctetStringData value)
  | .VISIBLE_STRING, .str value => .ok (.VisibleStringData value)
  | .MMS_STRING, .str value => .ok (.MmsStringData value)
  | _, _ => unexpectedValueType

def qualityToMmsData (value : Quality) : Except Exn Mms.Data :=
  return .BitStringData ([bit value.validity.value 2, bit value.validity.value 1] ++
    (← flagBits value.details 2 8) ++
    [value.source.value != 0, value.test, value.operatorBlocked])

def timestampToMmsData (value : Timestamp) : Mms.Data :=
  .UtcTimeData value.value value.leapSecond value.clockFailure value.notSynchronized
    value.accuracy

/-- `[bool(value.value & 2), bool(value.value & 1)]`. -/
def twoBitsToMmsData {E : Type} [Enumeration E] (value : E) : Mms.Data :=
  .BitStringData [bit (Enumeration.value value) 2, bit (Enumeration.value value) 1]

def analogueToMmsData (value : Analogue) : Except Exn Mms.Data :=
  if value.i = none ∧ value.f = none then .error (.exception "invalid analogue value")
  else .ok (.StructureData (value.i.toList.map .IntegerData ++
    value.f.toList.map .FloatingPointData))

def vectorToMmsData (value : Vector) : Except Exn Mms.Data := do
  let magnitude ← analogueToMmsData value.magnitude
  match value.angle with
  | none => return .StructureData [magnitude]
  | some angle => return .StructureData [magnitude, ← analogueToMmsData angle]

def stepPositionToMmsData (value : StepPosition) : Mms.Data :=
  .StructureData (.IntegerData value.value :: value.transient.toList.map .BooleanData)

def acsiToMmsData : AcsiValueType → Value → Except Exn Mms.Data
  | .QUALITY, .quality value => qualityToMmsData value
  | .TIMESTAMP, .timestamp value => .ok (timestampToMmsData value)
  | .DOUBLE_POINT, .doublePoint value => .ok (twoBitsToMmsData value)
  | .DIRECTION, .direction value => .ok (.IntegerData value.value)
  | .SEVERITY, .severity value => .ok (.IntegerData value.value)
  | .ANALOGUE, .analogue value => analogueToMmsData value
  | .VECTOR, .vector value => vectorToMmsData value
  | .STEP_POSITION, .stepPosition value => .ok (stepPositionToMmsData value)
  | .BINARY_CONTROL, .binaryControl value => .ok (twoBitsToMmsData value)
  | _, _ => unexpectedValueType

mutual

def valueToMmsData : ValueType → Value → Except Exn Mms.Data
  | .basic type, value => basicToMmsData type value
  | .acsi type, value => acsiToMmsData type value
  | .ArrayValueType type length, value =>
    match value with
    | .array values =>
      if values.length ≠ length then .error (.exception "invalid array length")
      else return .ArrayData (← values.mapM (valueToMmsData type))
    | _ => .error .typeError
  | .StructValueType types, value =>
    match value with
    | .struct values => return .StructureData (← itemsToMmsData types values)
    | _ => .error .typeError

/-- `[value_to_mms_data(value[k], t) for k, t in value_type.elements]`. -/
def itemsToMmsData :
    List (String × ValueType) → (String → Option Value) → Except Exn (List Mms.Data)
  | [], _ => return []
  | (key, type) :: types, values =>
    match values key with
    | none => .error .keyError
    | some value =>
      return (← valueToMmsData type value) :: (← itemsToMmsData types values)

end

/-! ### Attributes of report control blocks -/

/-- The value type of an attribute, if it is a plain value. -/
def RcbAttrType.valueType? : RcbAttrType → Option BasicValueType
  | .REPORT_ID => some .VISIBLE_STRING
  | .REPORT_ENABLE => some .BOOLEAN
  | .DATASET => none
  | .CONF_REVISION => some .UNSIGNED
  | .OPTIONAL_FIELDS => none
  | .BUFFER_TIME => some .UNSIGNED
  | .SEQUENCE_NUMBER => some .UNSIGNED
  | .TRIGGER_OPTIONS => none
  | .INTEGRITY_PERIOD => some .UNSIGNED
  | .GI => some .BOOLEAN
  | .PURGE_BUFFER => some .BOOLEAN
  | .ENTRY_ID => some .OCTET_STRING
  | .TIME_OF_ENTRY => none
  | .RESERVATION_TIME => some .INTEGER
  | .RESERVE => some .BOOLEAN

def rcbAttrValueFromMmsData (data : Mms.Data) (attrType : RcbAttrType) :
    Except Exn RcbAttrValue :=
  match attrType with
  | .DATASET => do
    let value ← strFromMmsData data
    if value = "" then return .dataset none
    else return .dataset (some (← datasetRefFromStr value))
  | .OPTIONAL_FIELDS => do
    let value ← bitsFromMmsData data
    if value.length ≠ 10 then .error (.exception "invalid optional fields size")
    else return .optionalFields (← flagSet (fun index => 1 ≤ index ∧ index ≤ 8) value)
  | .TRIGGER_OPTIONS => do
    let value ← bitsFromMmsData data
    if value.length ≠ 6 then .error (.exception "invalid trigger options size")
    else return .triggers (← flagSet (fun index => 1 ≤ index) value)
  | .TIME_OF_ENTRY =>
    match data with
    | .BinaryTimeData value => .ok (.entryTime value)
    | _ => unexpectedDataType
  | attrType =>
    match attrType.valueType? with
    | some type => return .value (← basicFromMmsData type data)
    | none => .error (.valueError "unsupported attribute type")

def rcbAttrValueToMmsData (attrValue : RcbAttrValue) (attrType : RcbAttrType) :
    Except Exn Mms.Data :=
  match attrType, attrValue with
  | .DATASET, .dataset ref => .ok (.VisibleStringData ((ref.map datasetRefToStr).getD ""))
  | .OPTIONAL_FIELDS, .optionalFields fields =>
    return .BitStringData (false :: (← flagBits fields 1 8) ++ [false])
  | .TRIGGER_OPTIONS, .triggers conditions =>
    return .BitStringData (false :: (← flagBits conditions 1 5))
  | .TIME_OF_ENTRY, .entryTime value => .ok (.BinaryTimeData value)
  | attrType, .value value =>
    match attrType.valueType? with
    | some type => basicToMmsData type value
    | none => .error .typeError
  | _, _ => .error .typeError

/-! ### Commands -/

def originToMmsData (origin : Origin) : Mms.Data :=
  .StructureData [.IntegerData origin.category.value, .OctetStringData origin.identification]

def originFromMmsData : Mms.Data → Except Exn Origin
  | .StructureData [category, identification] =>
    return { category := ← Mms.enumOf (← intFromMmsData category)
             identification := ← bytesFromMmsData identification }
  | .StructureData _ => .error (.exception "invalid elements size")
  | _ => .error (.exception "invalid data type")

def commandToMmsData (cmd : Command) (valueType : ValueType) (withChecks : Bool) :
    Except Exn Mms.Data := do
  let value ← valueToMmsData valueType cmd.value
  let checks ← (if withChecks then do return [.BitStringData (← flagBits cmd.checks 0 2)]
    else pure [])
  return .StructureData ([value] ++ cmd.operateTime.toList.map timestampToMmsData ++
    [originToMmsData cmd.origin, .UnsignedData cmd.controlNumber, timestampToMmsData cmd.t,
      .BooleanData cmd.test] ++ checks)

/-- The elements of a command after its value and its time of operation. -/
def commandRest (value : Value) (operateTime : Option Timestamp) (withChecks : Bool) :
    List Mms.Data → Except Exn Command
  | origin :: controlNumber :: t :: test :: rest => do
    let origin ← originFromMmsData origin
    let controlNumber ← unsignedFromMmsData controlNumber
    let t ← timestampFromMmsData t
    let test ← boolFromMmsData test
    let checks ←
      match withChecks, rest with
      | true, checks :: _ => do flagSet (fun _ => true) (← bitsFromMmsData checks)
      | _, _ => pure ∅
    return { value, operateTime, origin, controlNumber, t, test, checks }
  | _ => .error (.exception "invalid elements size")

def commandFromMmsData (data : Mms.Data) (valueType : ValueType) (withChecks : Bool) :
    Except Exn Command :=
  match data with
  | .StructureData elements =>
    let size := if withChecks then 6 else 5
    if elements.length = size + 1 then
      match elements with
      | value :: operateTime :: rest => do
        let value ← valueFromMmsData valueType value
        commandRest value (some (← timestampFromMmsData operateTime)) withChecks rest
      | _ => .error (.exception "invalid elements size")
    else if elements.length = size then
      match elements with
      | value :: rest => do commandRest (← valueFromMmsData valueType value) none withChecks rest
      | _ => .error (.exception "invalid elements size")
    else .error (.exception "invalid elements size")
  | _ => .error (.exception "invalid data type")

end HatDrivers.Iec61850
