import HatDrivers.Lib.Varint
import HatDrivers.Mqtt.Transport.Common

namespace HatDrivers.Mqtt.Transport

open HatDrivers.Lib

/-!
# MQTT — encoded fields

Integers of fixed and of variable length, strings, binary data and reason codes.
Each writer has a lemma that says how many bytes it writes for a value in its range
and that its reader reads the value off them (`CodesIn`).
-/

/-! ### Integers -/

def encodeUint8 (value : ℕ) : Except Error (List ℕ) :=
  if value > 0xff then .error (.valueError "unsupported one byte integer value")
  else .ok [value]

def decodeUint8 : ByteReader Error ℕ
  | b :: data => .ok (b.toNat, data)
  | [] => .error (.malformed "invalid data length")

def encodeUint16 (value : ℕ) : Except Error (List ℕ) :=
  if value > 0xffff then .error (.valueError "unsupported two byte integer value")
  else .ok [(value >>> 8) &&& 0xff, value &&& 0xff]

def decodeUint16 : ByteReader Error ℕ
  | b₀ :: b₁ :: data => .ok ((b₀.toNat <<< 8) ||| b₁.toNat, data)
  | _ => .error (.malformed "invalid data length")

def encodeUint32 (value : ℕ) : Except Error (List ℕ) :=
  if value > 0xffff_ffff then .error (.valueError "unsupported four byte integer value")
  else .ok [(value >>> 24) &&& 0xff, (value >>> 16) &&& 0xff, (value >>> 8) &&& 0xff,
    value &&& 0xff]

def decodeUint32 : ByteReader Error ℕ
  | b₀ :: b₁ :: b₂ :: b₃ :: data =>
    .ok ((b₀.toNat <<< 24) ||| (b₁.toNat <<< 16) ||| (b₂.toNat <<< 8) ||| b₃.toNat, data)
  | _ => .error (.malformed "invalid data length")

def encodeUintvar (value : ℕ) : Except Error (List ℕ) :=
  if value > 0x0fff_ffff then .error (.valueError "unsupported variable byte integer value")
  else .ok (varint 4 value)

def decodeUintvar : ByteReader Error ℕ :=
  readVarint (.malformed "invalid variable byte integer encoding")
    (.malformed "invalid data length") 4 0 0

private theorem and_byte (value : ℕ) : value &&& 0xff = value % 256 :=
  Nat.and_two_pow_sub_one_eq_mod value 8

theorem encodeUint8_codes {value : ℕ} (h : value ≤ 0xff) :
    CodesIn 1 (encodeUint8 value) decodeUint8 value := by
  refine ⟨[value], if_neg (by omega), by simp; omega, rfl, fun rest => ?_⟩
  rw [bytesOf_cons, List.cons_append, decodeUint8, toNat_ofNat_of_lt (by omega)]
  rfl

theorem encodeUint16_codes {value : ℕ} (h : value ≤ 0xffff) :
    CodesIn 2 (encodeUint16 value) decodeUint16 value := by
  refine ⟨_, if_neg (by omega), ?_, rfl, fun rest => ?_⟩
  · simp only [and_byte, allBytes_cons, allBytes_nil, and_true]
    omega
  · have hhi : (value >>> 8) % 256 = value / 256 := by
      rw [Nat.shiftRight_eq_div_pow]
      omega
    simp only [and_byte, hhi, bytesOf_cons, List.cons_append, decodeUint16,
      toNat_ofNat_of_lt (show value / 256 < 256 by omega),
      toNat_ofNat_of_lt (show value % 256 < 256 by omega),
      shiftLeft_or_eq_add (show value % 256 < 2 ^ 8 by omega)]
    have hsum : value / 256 * 2 ^ 8 + value % 256 = value := by omega
    rw [hsum]
    rfl

theorem encodeUint32_codes {value : ℕ} (h : value ≤ 0xffff_ffff) :
    CodesIn 4 (encodeUint32 value) decodeUint32 value := by
  refine ⟨_, if_neg (by omega), ?_, rfl, fun rest => ?_⟩
  · simp only [and_byte, allBytes_cons, allBytes_nil, and_true]
    omega
  · simp only [and_byte, Nat.shiftRight_eq_div_pow, bytesOf_cons, List.cons_append, decodeUint32,
      toNat_ofNat_of_lt (show value / 2 ^ 24 % 256 < 256 by omega),
      toNat_ofNat_of_lt (show value / 2 ^ 16 % 256 < 256 by omega),
      toNat_ofNat_of_lt (show value / 2 ^ 8 % 256 < 256 by omega),
      toNat_ofNat_of_lt (show value % 256 < 256 by omega)]
    -- the fields are joined from the least significant one on
    have hlow : (value / 2 ^ 8 % 256) <<< 8 ||| value % 256 =
        value / 2 ^ 8 % 256 * 2 ^ 8 + value % 256 := shiftLeft_or_eq_add (by omega)
    have hmid : ∀ lo < 2 ^ 16, (value / 2 ^ 16 % 256) <<< 16 ||| lo =
        value / 2 ^ 16 % 256 * 2 ^ 16 + lo := fun lo hlo => shiftLeft_or_eq_add hlo
    have htop : ∀ lo < 2 ^ 24, (value / 2 ^ 24 % 256) <<< 24 ||| lo =
        value / 2 ^ 24 % 256 * 2 ^ 24 + lo := fun lo hlo => shiftLeft_or_eq_add hlo
    rw [Nat.or_assoc, hlow, Nat.or_assoc, hmid _ (by omega), htop _ (by omega)]
    have hsum : value / 2 ^ 24 % 256 * 2 ^ 24 + (value / 2 ^ 16 % 256 * 2 ^ 16 +
        (value / 2 ^ 8 % 256 * 2 ^ 8 + value % 256)) = value := by omega
    rw [hsum]
    rfl

/-- The number of bytes of a variable byte integer. -/
def uintvarSize (value : ℕ) : ℕ := (varint 4 value).length

theorem uintvarSize_of_lt {value : ℕ} (h : value < 128) : uintvarSize value = 1 := by
  rw [uintvarSize, varint_succ, if_pos h]
  rfl

theorem encodeUintvar_codes {value : ℕ} (h : value ≤ 0x0fff_ffff) :
    CodesIn (uintvarSize value) (encodeUintvar value) decodeUintvar value := by
  refine ⟨_, if_neg (by omega), allBytes_varint 4 value, rfl, fun rest => ?_⟩
  rw [decodeUintvar, readVarint_varint (by omega) (by omega) (by omega)]
  simp

/-! ### Strings and binary data -/

/-- `s.encode()`. -/
def encodeUtf8 (s : String) : Bytes := s.toUTF8.data.toList

/-- `str(data, encoding='utf-8')`, if the data is valid. -/
def decodeUtf8 (data : Bytes) : Option String := String.fromUTF8? ⟨data.toArray⟩

theorem decodeUtf8_encodeUtf8 (s : String) : decodeUtf8 (encodeUtf8 s) = some s := by
  have hbytes : (⟨(encodeUtf8 s).toArray⟩ : ByteArray) = s.toUTF8 := by
    rw [encodeUtf8, Array.toArray_toList]
  rw [decodeUtf8, hbytes, String.fromUTF8?, String.toUTF8_eq_toByteArray, dif_pos s.isValidUTF8]
  rfl

theorem length_encodeUtf8 (s : String) : (encodeUtf8 s).length = s.utf8ByteSize := by
  rw [encodeUtf8, Array.length_toList]
  rfl

def encodeString (value : String) : Except Error (List ℕ) := do
  let valueBytes := encodeUtf8 value
  return (← encodeUint16 valueBytes.length) ++ valueBytes.map UInt8.toNat

def decodeString : ByteReader Error String := fun data => do
  let (valueLen, data) ← decodeUint16 data
  if data.length < valueLen then throw (.malformed "invalid data length")
  match decodeUtf8 (data.take valueLen) with
  | some value => return (value, data.drop valueLen)
  | none => throw (.malformed "invalid utf-8 encoding")

def encodeBinary (value : Bytes) : Except Error (List ℕ) :=
  do return (← encodeUint16 value.length) ++ value.map UInt8.toNat

def decodeBinary : ByteReader Error Bytes := fun data => do
  let (valueLen, data) ← decodeUint16 data
  if data.length < valueLen then throw (.malformed "invalid data length")
  return (data.take valueLen, data.drop valueLen)

/-- The number of bytes of a string. -/
def stringSize (value : String) : ℕ := 2 + value.utf8ByteSize

/-- The number of bytes of binary data. -/
def binarySize (value : Bytes) : ℕ := 2 + value.length

/-- The bytes of a value after their number. -/
private theorem counted_codes {α : Type} {bs : Bytes} {r : ByteReader Error α} {a : α}
    (hlen : bs.length ≤ 0xffff)
    (hr : ∀ rest ns, encodeUint16 bs.length = .ok ns →
      decodeUint16 (bytesOf ns ++ (bs ++ rest)) = .ok (bs.length, bs ++ rest) →
      r (bytesOf ns ++ (bs ++ rest)) = .ok (a, rest)) :
    CodesIn (2 + bs.length)
      (do return (← encodeUint16 bs.length) ++ bs.map UInt8.toNat) r a := by
  obtain ⟨ns, hw, hb, hl, hread⟩ := encodeUint16_codes hlen
  refine ⟨ns ++ bs.map UInt8.toNat, by simp [hw],
    allBytes_append.mpr ⟨hb, allBytes_map_toNat bs⟩, by simp [hl], fun rest => ?_⟩
  rw [bytesOf_append, bytesOf_map_toNat, List.append_assoc]
  exact hr rest ns hw (hread (bs ++ rest))

theorem encodeString_codes {value : String} (h : value.utf8ByteSize ≤ 0xffff) :
    CodesIn (stringSize value) (encodeString value) decodeString value := by
  have hlen := length_encodeUtf8 value
  have hcodes : CodesIn (2 + (encodeUtf8 value).length)
      (do return (← encodeUint16 (encodeUtf8 value).length) ++ (encodeUtf8 value).map UInt8.toNat)
      decodeString value := by
    refine counted_codes (by omega) fun rest ns _ hread => ?_
    simp [decodeString, hread, decodeUtf8_encodeUtf8]
  rw [hlen] at hcodes
  rw [encodeString, hlen]
  exact hcodes

theorem encodeBinary_codes {value : Bytes} (h : value.length ≤ 0xffff) :
    CodesIn (binarySize value) (encodeBinary value) decodeBinary value := by
  refine counted_codes h fun rest ns _ hread => ?_
  simp [decodeBinary, hread]

/-! ### Reasons -/

def encodeReason (reason : Reason) : Except Error (List ℕ) := .ok [reason.value]

def decodeReason : ByteReader Error Reason
  | [] => .error (.malformed "invalid data length")
  | b :: data => do
    let reason ← enumOf .MALFORMED_PACKET b.toNat
    return (reason, data)

theorem encodeReason_codes (reason : Reason) :
    CodesIn 1 (encodeReason reason) decodeReason reason := by
  have hlt := reason.value_lt
  refine ⟨_, rfl, by simpa using hlt, rfl, fun rest => ?_⟩
  rw [bytesOf_cons, List.cons_append, decodeReason, toNat_ofNat_of_lt hlt,
    show reason.value = Enumeration.value reason from rfl, enumOf_value]
  rfl

end HatDrivers.Mqtt.Transport
