import HatDrivers.Doubles
import HatDrivers.Smpp.Transport.Common
import Mathlib.Data.Finset.Dedup

namespace HatDrivers.Smpp.Transport

open HatDrivers.Lib

/-!
# SMPP — encoded fields

What an encoder yields is bytes, each checked to be one as it is yielded; a decoder takes its
value off the front of the data.
-/

/-! ### Exceptions -/

/-- Exceptions raised by the encoder and the decoder. -/
inductive Error
  | commandStatusError (commandStatus : CommandStatus)
  | notImplementedError
  | exn (e : Exn)
  deriving DecidableEq

/-- An exception of a built-in operation. -/
def raised {α : Type} (x : Except Exn α) : Except Error α := x.mapError .exn

theorem raised_eq_ok {α : Type} {x : Except Exn α} {a : α} : raised x = .ok a ↔ x = .ok a := by
  cases x with
  | error e => exact iff_of_false nofun nofun
  | ok b => simp [raised, Except.mapError]

/-- `E(n)`. -/
def enumOf {E : Type} [Enumeration E] (n : ℕ) : Except Error E := raised (Enumeration.ofValue n)

/-- `except ValueError: raise CommandStatusError(commandStatus)`, for `E(n)`. -/
def enumOr {E : Type} [Enumeration E] (commandStatus : CommandStatus) (n : ℕ) : Except Error E :=
  match Enumeration.ofValue? n with
  | some e => .ok e
  | none => .error (.commandStatusError commandStatus)

@[simp] theorem enumOr_value {E : Type} [Enumeration E] (commandStatus : CommandStatus) (e : E) :
    enumOr commandStatus (Enumeration.value e) = .ok e := by
  rw [enumOr, Enumeration.ofValue?_value]

/-! ### Bytes -/

/-- `yield x`, to `bytes`. -/
def yieldInt (x : ℤ) : Except Error (List ℕ) :=
  if 0 ≤ x ∧ x < 256 then .ok [x.toNat]
  else .error (.exn (.valueError "bytes must be in range(0, 256)"))

/-- `data[0], data[1:]`. -/
def readByte : ByteReader Error ℕ
  | [] => .error (.exn .indexError)
  | b :: data => .ok (b.toNat, data)

/-- `data[:n], data[n:]`. -/
def readBytes (n : ℕ) : ByteReader Error Bytes := fun data => .ok (data.take n, data.drop n)

/-- A member of an enumeration, of one byte. -/
def readEnum {E : Type} [Enumeration E] (commandStatus : CommandStatus) : ByteReader Error E :=
  fun data => do
    let (n, data) ← readByte data
    return (← enumOr commandStatus n, data)

def encodeUint16 (value : ℤ) : Except Error (List ℕ) := raised (packUInt 2 value)

def encodeUint32 (value : ℤ) : Except Error (List ℕ) := raised (packUInt 4 value)

theorem encodeUint32_eq_ok {n : ℕ} {ns : List ℕ} :
    encodeUint32 n = .ok ns ↔ n < 256 ^ 4 ∧ ns = beDigits 4 n := by
  rw [encodeUint32, raised_eq_ok, packUInt_eq_ok, Int.toNat_natCast]
  apply and_congr_left
  intro _
  rw [and_iff_right (Int.natCast_nonneg n)]
  norm_cast

def decodeUint (data : Bytes) : ℕ := ofBE data

/-! ### Strings -/

/-- `bytes(s, encoding='ascii')`. -/
def encodeAscii (s : String) : Except Error (List ℕ) :=
  if s.toList.all fun c => c.toNat < 128 then .ok (s.toList.map Char.toNat)
  else .error (.exn (.valueError "'ascii' codec can't encode character"))

/-- `str(data, encoding='ascii')`. -/
def decodeAscii (data : Bytes) : Except Error String :=
  if data.all fun b => b.toNat < 128 then .ok (String.ofList (data.map fun b => Char.ofNat b.toNat))
  else .error (.exn (.valueError "'ascii' codec can't decode byte"))

def decodeCbytes : ByteReader Error Bytes := fun data =>
  let i := (data.takeWhile (· ≠ 0)).length
  -- the search for the end runs out of the data
  if i = data.length then .error (.exn .indexError) else .ok (data.take i, data.drop (i + 1))

def encodeCbytes (value : Bytes) : Except Error (List ℕ) := .ok (value.map UInt8.toNat ++ [0])

def decodeCstring : ByteReader Error String := fun data => do
  let (value, rest) ← decodeCbytes data
  return (← decodeAscii value, rest)

def encodeCstring (value : String) : Except Error (List ℕ) := do
  return (← encodeAscii value) ++ [0]

/-! ### Addresses and flags -/

def decodeSourceAddrTon : ByteReader Error TypeOfNumber := readEnum .ESME_RINVSRCTON

def decodeSourceAddrNpi : ByteReader Error NumericPlanIndicator := readEnum .ESME_RINVSRCNPI

def decodeDestAddrTon : ByteReader Error TypeOfNumber := readEnum .ESME_RINVDSTTON

def decodeDestAddrNpi : ByteReader Error NumericPlanIndicator := readEnum .ESME_RINVDSTNPI

def decodePriorityFlag : ByteReader Error Priority := readEnum .ESME_RINVPRTFLG

/-- `DataCoding(data[0] & 0x0f), data[1:]`. -/
def decodeDataCoding : ByteReader Error DataCoding := fun data => do
  let (n, data) ← readByte data
  return (← enumOf (n &&& 0x0f), data)

/-- The members of an enumeration of flags that are set. -/
def flags {E : Type} [Enumeration E] [DecidableEq E] (n : ℕ) : Finset E :=
  ((Enumeration.members : List E).filter fun i => bit n (Enumeration.value i)).toFinset

/-- `for i in flags: n |= i.value << shift`. -/
def setFlags {E : Type} [Enumeration E] [DecidableEq E] (n shift : ℕ) (flags : Finset E) : ℕ :=
  ((Enumeration.members : List E).filter (· ∈ flags)).foldl
    (fun n i => n ||| (Enumeration.value i <<< shift)) n

def decodeRegisteredDelivery : ByteReader Error RegisteredDelivery := fun data => do
  let (n, data) ← readByte data
  let deliveryReceipt ← enumOr .ESME_RINVREGDLVFLG (n &&& 0x03)
  return ({
    deliveryReceipt := deliveryReceipt
    acknowledgements := flags (n >>> 2)
    intermediateNotification := bit n 0x10 }, data)

def encodeRegisteredDelivery (registeredDelivery : RegisteredDelivery) :
    Except Error (List ℕ) :=
  let n := setFlags registeredDelivery.deliveryReceipt.value 2 registeredDelivery.acknowledgements
  yieldInt (if registeredDelivery.intermediateNotification then n ||| 0x10 else n : ℕ)

def decodeEsmClass : ByteReader Error EsmClass := fun data => do
  let (n, rest) ← readByte data
  let messagingMode ← enumOf (n &&& 0x03)
  let messageType ← enumOf ((n >>> 2) &&& 0x0f)
  return ({
    messagingMode := messagingMode
    messageType := messageType
    gsmFeatures := flags (n >>> 6) }, rest)

def encodeEsmClass (esmClass : EsmClass) : Except Error (List ℕ) :=
  yieldInt (setFlags (esmClass.messagingMode.value ||| (esmClass.messageType.value <<< 2)) 6
    esmClass.gsmFeatures : ℕ)

/-! ### Times -/

/-- Whitespace around an integer. -/
def isSpace (c : Char) : Bool := c = ' ' ∨ 0x09 ≤ c.toNat ∧ c.toNat ≤ 0x0d

/-- Digits, with single underscores between them. -/
def parseDigits (s : List Char) : Except Error ℕ :=
  if (s.splitOn '_').all fun part => part ≠ [] ∧ part.all Char.isDigit then
    .ok ((s.filter (· ≠ '_')).foldl (fun n c => 10 * n + (c.toNat - '0'.toNat)) 0)
  else .error (.exn (.valueError "invalid literal for int() with base 10"))

/-- `int(s)`. -/
def parseInt (s : List Char) : Except Error ℤ :=
  match ((s.dropWhile isSpace).reverse.dropWhile isSpace).reverse with
  | '-' :: digits => do return -(← parseDigits digits : ℕ)
  | '+' :: digits => do return (← parseDigits digits : ℕ)
  | digits => do return (← parseDigits digits : ℕ)

/-- `f'{x:02}'`. -/
def format02 (x : ℤ) : List Char :=
  let digits := Nat.toDigits 10 x.natAbs
  if x < 0 then '-' :: digits
  else if digits.length < 2 then '0' :: digits
  else digits

/-- `str(x)`. -/
def formatInt (x : ℤ) : List Char :=
  let digits := Nat.toDigits 10 x.natAbs
  if x < 0 then '-' :: digits else digits

/-- `time_str[i:j]`. -/
def chars (timeStr : List Char) (i j : ℕ) : List Char := (timeStr.take j).drop i

/-- `datetime.datetime(...)` in the time zone of an offset. -/
def mkAbsoluteTime (year month day hour minute second microsecond utcoffset : ℤ) :
    Except Error AbsoluteTime :=
  if hoffset : ValidOffset utcoffset then
    if hdate : ValidDate year month day hour minute second microsecond then
      .ok {
        year := year
        month := month
        day := day
        hour := hour
        minute := minute
        second := second
        microsecond := microsecond
        naive := false
        utcoffset := utcoffset
        valid := hdate
        utcoffset_valid := hoffset }
    else .error (.exn (.valueError "date field is out of range"))
  else .error (.exn (.valueError "offset must be strictly between a day back and a day ahead"))

/-- Microseconds of a quarter of an hour. -/
def quarterMicroseconds : ℤ := 15 * 60 * 1000000

/-- The time of a string that is not empty. -/
def parseTime (timeStr : List Char) : Except Error Time := do
  if timeStr.length ≠ 16 then throw (.exn (.exception "invalid time string length"))
  let years ← parseInt (chars timeStr 0 2)
  let months ← parseInt (chars timeStr 2 4)
  let days ← parseInt (chars timeStr 4 6)
  let hours ← parseInt (chars timeStr 6 8)
  let minutes ← parseInt (chars timeStr 8 10)
  let seconds ← parseInt (chars timeStr 10 12)
  let tenths ← parseInt (chars timeStr 12 13)
  let offset ← parseInt (chars timeStr 13 15)
  if chars timeStr 15 16 = ['R'] then
    return .relative {
      years := years
      months := months
      days := days
      hours := hours
      minutes := minutes
      seconds := toDouble (seconds + toDouble (tenths * toDouble (1 / 10))) }
  if chars timeStr 15 16 = ['+'] then
    return .absolute (← mkAbsoluteTime (2000 + years) months days hours minutes seconds
      (tenths * 100000) (quarterMicroseconds * offset))
  if chars timeStr 15 16 = ['-'] then
    return .absolute (← mkAbsoluteTime (2000 + years) months days hours minutes seconds
      (tenths * 100000) (-quarterMicroseconds * offset))
  throw (.exn (.exception "invalid direction sign"))

def decodeTime : ByteReader Error (Option Time) := fun timeBytes => do
  let (timeStr, rest) ← decodeCstring timeBytes
  if timeStr.toList = [] then return (none, rest)
  return (some (← parseTime timeStr.toList), rest)

/-- `int(q)`. -/
def truncate (q : ℚ) : ℤ := if q < 0 then ⌈q⌉ else ⌊q⌋

def formatRelativeTime (time : RelativeTime) : List Char :=
  format02 time.years ++ format02 time.months ++ format02 time.days ++ format02 time.hours ++
    format02 time.minutes ++ format02 (truncate time.seconds) ++
    formatInt (roundHalfEven (toDouble (time.seconds * 10)) % 10) ++ ['0', '0', 'R']

/-- `strftime('%y%m%d%H%M%S')`, the tenths of the second, and the time zone in quarters of an
hour. -/
def formatAbsoluteTime (time : AbsoluteTime) : List Char :=
  let offset := roundHalfEven ((time.utcoffset : ℚ) / quarterMicroseconds)
  format02 (time.year % 100) ++ format02 time.month ++ format02 time.day ++ format02 time.hour ++
    format02 time.minute ++ format02 time.second ++
    formatInt (roundHalfEven ((time.microsecond : ℚ) / 100000)) ++
    format02 |offset| ++ [if offset < 0 then '-' else '+']

def formatTime : Option Time → List Char
  | none => []
  | some (.relative time) => formatRelativeTime time
  | some (.absolute time) => formatAbsoluteTime time

def encodeTime (time : Option Time) : Except Error (List ℕ) := do
  let timeStr := formatTime time
  if timeStr.length ≠ 0 ∧ timeStr.length ≠ 16 then
    throw (.exn (.exception "invalid time string length"))
  encodeCstring (String.ofList timeStr)

/-- `_decode_time`, any exception of which is an error of a command status. -/
def decodeTimeOr (commandStatus : CommandStatus) : ByteReader Error (Option Time) := fun data =>
  (decodeTime data).mapError fun _ => .commandStatusError commandStatus

def decodeScheduleDeliveryTime : ByteReader Error (Option Time) := decodeTimeOr .ESME_RINVSCHED

def decodeValidityPeriod : ByteReader Error (Option Time) := decodeTimeOr .ESME_RINVEXPIRY

end HatDrivers.Smpp.Transport
