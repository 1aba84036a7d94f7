import HatDrivers.Doubles
import HatDrivers.Iec60870.Encodings.Iec103.Common
import HatDrivers.Iec60870.Encodings.Time
import Mathlib.Data.Nat.Size

namespace HatDrivers.Iec60870.Encodings.Iec103

open HatDrivers.Lib

/-!
# IEC 60870-5-103 encodings — values

`_decode_value` and `_encode_value`, for every value type.  A value of a type without a size of
its own takes all bytes it is given; in an array, every element is given as many bytes as the
header says.
-/

/-! ### Fixed-point numbers -/

/-- `1 << (bit_size - (1 if signed else 0))`. -/
def fixedLimit (bitSize : ℕ) (signed : Bool) : Except Exn ℕ :=
  if signed && bitSize = 0 then .error (.valueError "negative shift count")
  else .ok (2 ^ (bitSize - if signed then 1 else 0))

/-- `math.ceil(bits / 8)`. -/
def byteCount (bits : ℕ) : ℕ := (bits + 7) / 8

def decodeFixed (data : Bytes) (bitOffset bitSize : ℕ) (signed : Bool) : Except Exn ℚ := do
  let limit ← fixedLimit bitSize signed
  let size := byteCount (bitOffset + bitSize)
  if data.length < size then throw (.valueError "invalid data length")
  let value := (intFromBytes (data.take size) >>> bitOffset) &&& (2 ^ bitSize - 1)
  -- `value | (-1 << bit_size)`, of a value of `bit_size` bits
  let value : ℤ := if signed && value &&& limit != 0 then value - 2 ^ bitSize else value
  return toDouble (value / limit)

/-- `int(x)`, of a float. -/
def truncate (x : ℚ) : ℤ := if x < 0 then ⌈x⌉ else ⌊x⌋

def encodeFixed (value : ℚ) (bitOffset bitSize : ℕ) (signed : Bool) : Except Exn (List ℕ) := do
  if ¬ ((if signed then -1 else 0) ≤ value ∧ value < 1) then throw (.valueError "unsupported value")
  let limit ← fixedLimit bitSize signed
  let size := byteCount (bitOffset + bitSize)
  -- a float times a power of two is exact
  let data := truncate (value * limit)
  -- `data & ((1 << bit_size) - 1)`, if it is negative
  let data := if data < 0 then data % 2 ^ bitSize else data
  intToBytes (data.toNat <<< bitOffset) size

/-! ### Parts of values -/

/-- `E(data[0])`. -/
def decodeEnum {E : Type} [Enumeration E] : ByteReader Exn E := fun data => do
  return (← Enumeration.ofValue (← byteAt data 0), data.drop 1)

def decodeMeasurand : ByteReader Exn MeasurandValue := fun data => do
  let overflow := bit (← byteAt data 0) 0x01
  let invalid := bit (← byteAt data 0) 0x02
  let value ← decodeFixed data 3 13 true
  return ({ overflow, invalid, value }, data.drop 2)

def decodeIdentification : ByteReader Exn Identification := fun data => do
  return ({ groupId := ← byteAt data 0, entryId := ← byteAt data 1 }, data.drop 2)

def decodeIoAddressValue : ByteReader Exn IoAddress := fun data => do
  return ({ functionType := ← byteAt data 0, informationNumber := ← byteAt data 1 }, data.drop 2)

def decodeReal32 : ByteReader Exn Real32Value := fun data => do
  return ({ value := ← unpackFloat (data.take 4) }, data.drop 4)

/-- `struct.unpack('<d', data)`, as a bit pattern. -/
def unpackDouble (data : Bytes) : Except Exn (BitVec 64) :=
  if data.length = 8 then .ok (BitVec.ofNat 64 (ofLE data)) else .error .structError

/-- `struct.pack('<d', value)` of the float with bit pattern `value`. -/
def packDouble (value : BitVec 64) : List ℕ := leDigits 8 value.toNat

def decodeDoubleWithTime : ByteReader Exn DoubleWithTimeValue := fun data => do
  let value ← Enumeration.ofValue (← byteAt data 0)
  let time ← decodeTime (slice data 1 5) .FOUR
  let supplementary ← byteAt data 5
  return ({ value, time, supplementary }, data.drop 6)

def decodeDoubleWithRelativeTime : ByteReader Exn DoubleWithRelativeTimeValue := fun data => do
  let value ← Enumeration.ofValue (← byteAt data 0)
  let relativeTime := intFromBytes (slice data 1 3)
  let faultNumber := intFromBytes (slice data 3 5)
  let time ← decodeTime (slice data 5 9) .FOUR
  let supplementary ← byteAt data 9
  return ({ value, relativeTime, faultNumber, time, supplementary }, data.drop 10)

def decodeMeasurandWithRelativeTime : ByteReader Exn MeasurandWithRelativeTimeValue :=
  fun data => do
    let value ← unpackFloat (data.take 4)
    let relativeTime := intFromBytes (slice data 4 6)
    let faultNumber := intFromBytes (slice data 6 8)
    let time ← decodeTime (slice data 8 12) .FOUR
    return ({ value, relativeTime, faultNumber, time }, data.drop 12)

/-- The bits of a byte, least significant first. -/
def byteBits (b : UInt8) : List Bool := (List.range 8).map fun j => bit b.toNat (1 <<< j)

/-- `value`, or `value - 256 ^ len(data)` if the last byte has its high bit set. -/
def decodeIntValue (data : Bytes) : Except Exn ℤ :=
  match data.getLast? with
  | some last =>
    .ok (if bit last.toNat 0x80 then intFromBytes data - 256 ^ data.length else intFromBytes data)
  | none => .error .indexError

/-! ### Reading -/

/-- Bytes that are no more, with less to do. -/
theorem lex_of_le {m n i j : ℕ} (hle : m ≤ n) (hlt : i < j) :
    Prod.Lex (· < ·) (· < ·) (m, i) (n, j) := by
  rcases Nat.lt_or_eq_of_le hle with h | rfl
  · exact Prod.Lex.left _ _ h
  · exact Prod.Lex.right _ hlt

mutual

def decodeValue (valueType : ValueType) (data : Bytes) : Except Exn (Value × Bytes) :=
  match valueType with
  | .NONE => return (.NoneValue, data)
  | .TEXT => return (.TextValue data, [])
  | .BITSTRING => return (.BitstringValue (data.flatMap byteBits), [])
  | .UINT => return (.UIntValue (intFromBytes data), [])
  | .INT => do return (.IntValue (← decodeIntValue data), [])
  | .FIXED => do return (.FixedValue (← decodeFixed data 0 (8 * data.length) true), [])
  -- this branch builds the class of FIXED
  | .UFIXED => do return (.FixedValue (← decodeFixed data 0 (8 * data.length) false), [])
  | .REAL32 => mapRead .Real32Value decodeReal32 data
  | .REAL64 => do return (.Real64Value (← unpackDouble (data.take 8)), data.drop 8)
  | .DOUBLE => mapRead .DoubleValue decodeEnum data
  | .SINGLE => mapRead .SingleValue decodeEnum data
  | .EXTENDED_DOUBLE => mapRead .ExtendedDoubleValue decodeEnum data
  | .MEASURAND => mapRead .MeasurandValue decodeMeasurand data
  | .TIME => do return (.TimeValue (← decodeTime data .SEVEN), data.drop 7)
  | .IDENTIFICATION => mapRead .IdentificationValue decodeIdentification data
  | .RELATIVE_TIME => return (.RelativeTimeValue (intFromBytes (data.take 2)), data.drop 2)
  | .IO_ADDRESS => mapRead .IoAddressValue decodeIoAddressValue data
  | .DOUBLE_WITH_TIME => mapRead .DoubleWithTimeValue decodeDoubleWithTime data
  | .DOUBLE_WITH_RELATIVE_TIME =>
    mapRead .DoubleWithRelativeTimeValue decodeDoubleWithRelativeTime data
  | .MEASURAND_WITH_RELATIVE_TIME =>
    mapRead .MeasurandWithRelativeTimeValue decodeMeasurandWithRelativeTime data
  | .TEXT_NUMBER => return (.TextNumberValue (intFromBytes data), [])
  | .REPLY => mapRead .ReplyValue decodeEnum data
  | .ARRAY => do
    let (array, data) ← decodeArray data
    return (array.toValue, data)
  | .INDEX => return (.IndexValue (intFromBytes data), [])
termination_by (data.length, 1)

/-- The branch of an array. -/
def decodeArray (data : Bytes) : Except Exn (ArrayValue × Bytes) :=
  match data with
  | [] => .error .indexError
  | b :: data => do
    let dataType ← Enumeration.ofValue b.toNat
    let dataSize ← byteAt data 0
    let byteSize := if dataType = ValueType.BITSTRING then byteCount dataSize else dataSize
    let number := (← byteAt data 1) &&& 0x7F
    let moreFollows := bit (← byteAt data 1) 0x80
    let (values, data) ← decodeValues dataType byteSize number (data.drop 2)
    return ({ valueType := dataType, moreFollows, values }, data)
termination_by (data.length, 0)

/-- The elements of an array. -/
def decodeValues (dataType : ValueType) (byteSize number : ℕ) (data : Bytes) :
    Except Exn (List Value × Bytes) :=
  match number with
  | 0 => return ([], data)
  | number + 1 => do
    let (value, _) ← decodeValue dataType (data.take byteSize)
    let (values, data) ← decodeValues dataType byteSize number (data.drop byteSize)
    return (value :: values, data)
termination_by (data.length, number + 2)
decreasing_by
  · exact lex_of_le (by simp) (by omega)
  · exact lex_of_le (by simp) (by omega)

end

/-! ### Writing -/

def getValueType : Value → ValueType
  | .NoneValue => .NONE
  | .TextValue _ => .TEXT
  | .BitstringValue _ => .BITSTRING
  | .UIntValue _ => .UINT
  | .IntValue _ => .INT
  | .UFixedValue _ => .UFIXED
  | .FixedValue _ => .FIXED
  | .Real32Value _ => .REAL32
  | .Real64Value _ => .REAL64
  | .DoubleValue _ => .DOUBLE
  | .SingleValue _ => .SINGLE
  | .ExtendedDoubleValue _ => .EXTENDED_DOUBLE
  | .MeasurandValue _ => .MEASURAND
  | .TimeValue _ => .TIME
  | .IdentificationValue _ => .IDENTIFICATION
  | .RelativeTimeValue _ => .RELATIVE_TIME
  | .IoAddressValue _ => .IO_ADDRESS
  | .DoubleWithTimeValue _ => .DOUBLE_WITH_TIME
  | .DoubleWithRelativeTimeValue _ => .DOUBLE_WITH_RELATIVE_TIME
  | .MeasurandWithRelativeTimeValue _ => .MEASURAND_WITH_RELATIVE_TIME
  | .TextNumberValue _ => .TEXT_NUMBER
  | .ReplyValue _ => .REPLY
  | .ArrayValue .. => .ARRAY
  | .IndexValue _ => .INDEX

/-- `x.bit_length()`. -/
def bitLength (x : ℤ) : ℕ := x.natAbs.size

mutual

def getValueMinSize : Value → ℕ
  | .NoneValue => 0
  | .TextValue value => value.length
  | .BitstringValue value => byteCount value.length
  | .UIntValue value => (bitLength value + 7) / 8
  | .IntValue value => (bitLength value + 8) / 8
  | .UFixedValue _ => 2
  | .FixedValue _ => 2
  | .Real32Value _ => 4
  | .Real64Value _ => 8
  | .DoubleValue _ => 1
  | .SingleValue _ => 1
  | .ExtendedDoubleValue _ => 1
  | .MeasurandValue _ => 2
  | .TimeValue _ => 7
  | .IdentificationValue _ => 2
  | .RelativeTimeValue _ => 2
  | .IoAddressValue _ => 2
  | .DoubleWithTimeValue _ => 6
  | .DoubleWithRelativeTimeValue _ => 10
  | .MeasurandWithRelativeTimeValue _ => 12
  | .TextNumberValue value => (bitLength value + 7) / 8
  | .ReplyValue _ => 1
  | .ArrayValue _ _ values => 3 + values.length * getValuesMinSize values
  | .IndexValue value => (bitLength value + 7) / 8

/-- `max((_get_value_min_size(i) for i in values), default=0)`. -/
def getValuesMinSize : List Value → ℕ
  | [] => 0
  | value :: values => max (getValueMinSize value) (getValuesMinSize values)

end

/-- The length of a bit string. -/
def bitCount : Value → ℕ
  | .BitstringValue value => value.length
  | _ => 0

/-- The size byte of the header of an array. -/
def arraySize (valueType : ValueType) (values : List Value) : ℕ :=
  if valueType ≠ .BITSTRING then getValuesMinSize values
  else (values.map bitCount).foldr max 0

/-- `acc` of byte `i` of a bit string. -/
def bitstringByte (value : List Bool) (i : ℕ) : ℕ :=
  (List.range 8).foldl
    (fun acc j => if value.getD (i * 8 + j) false then acc ||| (1 <<< j) else acc) 0

/-- `min_size`, or a given size that is no less. -/
def encodedSize (minSize : ℕ) : Option ℕ → Except Exn ℕ
  | none => .ok minSize
  | some size => if size < minSize then .error (.valueError "invalid size") else .ok size

/-- `itertools.repeat(0, n)`, of which there are none if `n` is negative. -/
def zeros (n : ℕ) : List ℕ := List.replicate n 0

/-- The flags of a measurand, in its first byte. -/
def setFlags (flags : ℕ) : List ℕ → Except Exn (List ℕ)
  | d :: data => .ok ((d ||| flags) :: data)
  | [] => .error .indexError

mutual

def encodeValue (value : Value) (size : Option ℕ) : Except Exn (List ℕ) := do
  let size ← encodedSize (getValueMinSize value) size
  match value with
  | .NoneValue => return zeros size
  | .TextValue value => return value.map UInt8.toNat ++ zeros (size - value.length)
  | .BitstringValue value => return (List.range size).map (bitstringByte value)
  | .UIntValue value => intToBytes value size
  -- `value & ((1 << (8 * size)) - 1)`
  | .IntValue value => intToBytes (value % 256 ^ size).toNat size
  | .UFixedValue value => encodeFixed value 0 (8 * size) false
  | .FixedValue value => encodeFixed value 0 (8 * size) true
  | .Real32Value value => return packFloat value.value ++ zeros (size - 4)
  | .Real64Value value => return packDouble value ++ zeros (size - 8)
  | .DoubleValue value => return value.value :: zeros (size - 1)
  | .SingleValue value => return value.value :: zeros (size - 1)
  | .ExtendedDoubleValue value => return value.value :: zeros (size - 1)
  | .MeasurandValue value => do
    let data ← encodeFixed value.value 3 13 true
    let data ← setFlags ((if value.overflow then 0x01 else 0x00) |||
      (if value.invalid then 0x02 else 0x00)) data
    return data ++ zeros (size - 2)
  | .TimeValue value => do return (← encodeTime value .SEVEN) ++ zeros (size - 7)
  | .IdentificationValue value => return [value.groupId, value.entryId] ++ zeros (size - 2)
  | .RelativeTimeValue value => do return (← intToBytes value 2) ++ zeros (size - 2)
  | .IoAddressValue value =>
    return [value.functionType, value.informationNumber] ++ zeros (size - 2)
  | .DoubleWithTimeValue value => do
    return [value.value.value] ++ (← encodeTime value.time .FOUR) ++ [value.supplementary] ++
      zeros (size - 6)
  | .DoubleWithRelativeTimeValue value => do
    return [value.value.value] ++ (← intToBytes value.relativeTime 2) ++
      (← intToBytes value.faultNumber 2) ++ (← encodeTime value.time .FOUR) ++
      [value.supplementary] ++ zeros (size - 10)
  | .MeasurandWithRelativeTimeValue value => do
    return packFloat value.value ++ (← intToBytes value.relativeTime 2) ++
      (← intToBytes value.faultNumber 2) ++ (← encodeTime value.time .FOUR) ++ zeros (size - 12)
  | .TextNumberValue value => intToBytes value size
  -- twelve zeros fewer than the size, of which one byte is the reply
  | .ReplyValue value => return value.value :: zeros (size - 12)
  | .ArrayValue valueType moreFollows values => do
    if values.any (getValueType · ≠ valueType) then throw (.valueError "invalid array value")
    let elements ← encodeValues values (getValuesMinSize values)
    return [valueType.value, arraySize valueType values,
      (if moreFollows then 0x80 else 0x00) ||| (values.length &&& 0x7F)] ++ elements
  | .IndexValue value => intToBytes value size

/-- The elements of an array, each in a size. -/
def encodeValues : List Value → ℕ → Except Exn (List ℕ)
  | [], _ => return []
  | value :: values, size => do
    return (← encodeValue value (some size)) ++ (← encodeValues values size)

end

end HatDrivers.Iec60870.Encodings.Iec103
