import HatDrivers.Lib.Reads
import Mathlib.Data.Rat.Floor
import Mathlib.Tactic.FieldSimp

namespace HatDrivers

open HatDrivers.Lib

/-!
# Exceptions and built-in operations

The exception classes the modelled code raises, and the built-in operations on
byte strings and integers it is written with: indexing (which can fail) and
slicing (which cannot), `int.from_bytes` / `int.to_bytes`, `bytes(…)`, the
`struct` formats `<h`, `<i` and `<f`, and `round`.
-/

/-- Exceptions raised by the modelled code. -/
inductive Exn
  | indexError
  | keyError
  | typeError
  | attributeError
  | overflowError
  | structError
  | valueError (msg : String)
  | exception (msg : String)
  /-- raised by reads and writes of a closed connection -/
  | connectionError
  /-- `AsduTypeError(f"unsupported asdu type {asdu_type}")` -/
  | asduTypeError (asduType : ℕ)
  /-- raised by `next` of an iterator that has nothing left -/
  | stopIteration
  /-- raised by a call that is nested too deep -/
  | recursionError
  deriving DecidableEq

/-! ### Byte strings -/

/-- `data[i]`, as an integer. -/
def byteAt (data : Bytes) (i : ℕ) : Except Exn ℕ :=
  match data[i]? with
  | some b => .ok b.toNat
  | none => .error .indexError

/-- `bool(x & mask)`. -/
def bit (x mask : ℕ) : Bool := x &&& mask != 0

/-- `data[i:j]`. -/
def slice (data : Bytes) (i j : ℕ) : Bytes := (data.take j).drop i

@[simp] theorem byteAt_cons_zero (b : UInt8) (bs : Bytes) : byteAt (b :: bs) 0 = .ok b.toNat := rfl

@[simp] theorem byteAt_cons_succ (b : UInt8) (bs : Bytes) (i : ℕ) :
    byteAt (b :: bs) (i + 1) = byteAt bs i := by simp [byteAt]

theorem byteAt_bytesOf_zero {n : ℕ} (h : n < 256) (ns : List ℕ) (rest : Bytes) :
    byteAt (bytesOf (n :: ns) ++ rest) 0 = .ok n := by
  rw [bytesOf_cons, List.cons_append, byteAt_cons_zero, toNat_ofNat_of_lt h]

@[simp] theorem byteAt_bytesOf_succ (n : ℕ) (ns : List ℕ) (rest : Bytes) (i : ℕ) :
    byteAt (bytesOf (n :: ns) ++ rest) (i + 1) = byteAt (bytesOf ns ++ rest) i := by
  rw [bytesOf_cons, List.cons_append, byteAt_cons_succ]

/-- Positions past a written prefix are positions of what follows it. -/
theorem byteAt_skip {ns : List ℕ} {i : ℕ} (h : ns.length ≤ i) (bs : Bytes) :
    byteAt (bytesOf ns ++ bs) i = byteAt bs (i - ns.length) := by
  simp [byteAt, List.getElem?_append_right, h]

theorem drop_skip {ns : List ℕ} {i : ℕ} (h : ns.length ≤ i) (bs : Bytes) :
    (bytesOf ns ++ bs).drop i = bs.drop (i - ns.length) := by
  rw [List.drop_append, List.drop_of_length_le (by simpa using h), List.nil_append, length_bytesOf]

theorem slice_skip {ns : List ℕ} {i j : ℕ} (h : ns.length ≤ i) (bs : Bytes) :
    slice (bytesOf ns ++ bs) i j = slice bs (i - ns.length) (j - ns.length) := by
  rw [slice, List.take_append, slice, length_bytesOf]
  by_cases hj : ns.length ≤ j
  · rw [List.take_of_length_le (by simpa using hj), drop_skip h]
  · rw [List.drop_of_length_le (by simp; omega), show j - ns.length = 0 by omega]
    simp

theorem slice_zero {ns : List ℕ} {j : ℕ} (h : ns.length = j) (bs : Bytes) :
    slice (bytesOf ns ++ bs) 0 j = bytesOf ns := by
  rw [slice, take_bytesOf_append h, List.drop_zero]

/-- `bytes(ns)`. -/
def toBytes (ns : List ℕ) : Except Exn Bytes :=
  if AllBytes ns then .ok (bytesOf ns) else .error (.valueError "bytes must be in range(0, 256)")

theorem toBytes_eq_ok {ns : List ℕ} {bs : Bytes} :
    toBytes ns = .ok bs ↔ AllBytes ns ∧ bs = bytesOf ns :=
  ite_eq_ok

/-! ### Unsigned integers -/

/-- `x.to_bytes(size, 'little')`. -/
def intToBytes (x size : ℕ) : Except Exn (List ℕ) :=
  if x < 256 ^ size then .ok (leDigits size x) else .error .overflowError

/-- `int.from_bytes(data, 'little')`. -/
def intFromBytes (data : Bytes) : ℕ := ofLE data

theorem intToBytes_eq_ok {x size : ℕ} {ns : List ℕ} :
    intToBytes x size = .ok ns ↔ x < 256 ^ size ∧ ns = leDigits size x :=
  ite_eq_ok

theorem intToBytes_of_lt {x size : ℕ} (h : x < 256 ^ size) :
    intToBytes x size = .ok (leDigits size x) := if_pos h

/-- Reading back the bytes of an integer that fits. -/
theorem intFromBytes_take {x size : ℕ} (h : x < 256 ^ size) (rest : Bytes) :
    intFromBytes ((bytesOf (leDigits size x) ++ rest).take size) = x := by
  rw [take_bytesOf_append (length_leDigits size x), intFromBytes, ofLE_leDigits_of_lt h]

/-! ### `struct` formats -/

/-- `struct.pack` of a signed integer of `size` bytes (`<h` for 2, `<i` for 4). -/
def packInt (size : ℕ) (x : ℤ) : Except Exn (List ℕ) :=
  if -(256 ^ size / 2) ≤ x ∧ x < 256 ^ size / 2 then
    .ok (leDigits size (if x < 0 then x + 256 ^ size else x).toNat)
  else .error .structError

/-- `struct.unpack` of a signed integer of `size` bytes. -/
def unpackInt (size : ℕ) (data : Bytes) : Except Exn ℤ :=
  if data.length = size then
    .ok (if (ofLE data : ℤ) < 256 ^ size / 2 then ofLE data else ofLE data - 256 ^ size)
  else .error .structError

/-- `struct.pack('<f', value)` of the float with bit pattern `value`. -/
def packFloat (value : BitVec 32) : List ℕ := leDigits 4 value.toNat

/-- `struct.unpack('<f', data)`, as a bit pattern. -/
def unpackFloat (data : Bytes) : Except Exn (BitVec 32) :=
  if data.length = 4 then .ok (BitVec.ofNat 32 (ofLE data)) else .error .structError

theorem packInt_eq_ok {size : ℕ} {x : ℤ} {ns : List ℕ} :
    packInt size x = .ok ns ↔ (-(256 ^ size / 2) ≤ x ∧ x < 256 ^ size / 2) ∧
      ns = leDigits size (if x < 0 then x + 256 ^ size else x).toNat :=
  ite_eq_ok

@[simp] theorem length_packFloat (value : BitVec 32) : (packFloat value).length = 4 := by
  simp [packFloat]

/-- What `struct.pack` writes for a signed integer, `struct.unpack` reads back. -/
theorem unpackInt_of_packInt {size : ℕ} {x : ℤ} {ns : List ℕ} (h : packInt size x = .ok ns)
    (rest : Bytes) : unpackInt size ((bytesOf ns ++ rest).take size) = .ok x := by
  obtain ⟨⟨hlo, hhi⟩, rfl⟩ := packInt_eq_ok.mp h
  rw [take_bytesOf_append (length_leDigits _ _), unpackInt, if_pos (by simp)]
  have hpow : ((256 ^ size : ℕ) : ℤ) = 256 ^ size := Nat.cast_pow 256 size
  have hpos : (0 : ℤ) < 256 ^ size := pow_pos (by decide) size
  by_cases hneg : x < 0
  · have hval : ((x + 256 ^ size).toNat : ℤ) = x + 256 ^ size := Int.toNat_of_nonneg (by omega)
    have hlt : (x + 256 ^ size).toNat < 256 ^ size := by omega
    rw [if_pos hneg, ofLE_leDigits_of_lt hlt, hval, if_neg (by omega), Int.add_sub_cancel]
  · have hval : (x.toNat : ℤ) = x := Int.toNat_of_nonneg (by omega)
    have hlt : x.toNat < 256 ^ size := by omega
    rw [if_neg hneg, ofLE_leDigits_of_lt hlt, hval, if_pos hhi]

theorem length_of_packInt {size : ℕ} {x : ℤ} {ns : List ℕ} (h : packInt size x = .ok ns) :
    ns.length = size := by
  obtain ⟨_, rfl⟩ := packInt_eq_ok.mp h
  exact length_leDigits _ _

theorem allBytes_of_packInt {size : ℕ} {x : ℤ} {ns : List ℕ} (h : packInt size x = .ok ns) :
    AllBytes ns := by
  obtain ⟨_, rfl⟩ := packInt_eq_ok.mp h
  exact allBytes_leDigits _ _

theorem unpackFloat_packFloat (value : BitVec 32) (rest : Bytes) :
    unpackFloat ((bytesOf (packFloat value) ++ rest).take 4) = .ok value := by
  rw [take_bytesOf_append (length_packFloat value), unpackFloat, if_pos (by simp), packFloat,
    ofLE_leDigits_of_lt (by simpa using value.isLt)]
  simp

/-- `struct.pack` of an unsigned integer (`>B` for size 1, `>H` for size 2). -/
def packUInt (size : ℕ) (x : ℤ) : Except Exn (List ℕ) :=
  if 0 ≤ x ∧ x < 256 ^ size then .ok (beDigits size x.toNat) else .error .structError

/-- A field of `struct.unpack`, off the front of the data. -/
def unpackUInt (size : ℕ) : ByteReader Exn ℤ := fun data =>
  if size ≤ data.length then .ok (ofBE (data.take size), data.drop size) else .error .structError

/-- `int.from_bytes(data[:size], 'big')` and `data[size:]`. -/
def takeUInt (size : ℕ) : ByteReader Exn ℤ := fun data =>
  .ok (ofBE (data.take size), data.drop size)

theorem packUInt_eq_ok {size : ℕ} {x : ℤ} {ns : List ℕ} :
    packUInt size x = .ok ns ↔ (0 ≤ x ∧ x < 256 ^ size) ∧ ns = beDigits size x.toNat :=
  ite_eq_ok

private theorem ofBE_packUInt {size : ℕ} {x : ℤ} (h : 0 ≤ x ∧ x < 256 ^ size) :
    (ofBE (bytesOf (beDigits size x.toNat)) : ℤ) = x := by
  obtain ⟨hlo, hhi⟩ := h
  have hpow : ((256 ^ size : ℕ) : ℤ) = 256 ^ size := Nat.cast_pow 256 size
  have hlt : x.toNat < 256 ^ size := by omega
  rw [ofBE_beDigits_of_lt hlt, Int.toNat_of_nonneg hlo]

theorem packUInt_decodes (size : ℕ) (x : ℤ) : Decodes (packUInt size x) (unpackUInt size) x := by
  intro ns hns _ rest
  obtain ⟨h, rfl⟩ := packUInt_eq_ok.mp hns
  rw [unpackUInt, if_pos (by simp), take_bytesOf_append (length_beDigits _ _), ofBE_packUInt h,
    drop_bytesOf_append (length_beDigits _ _)]

theorem packUInt_decodes_take (size : ℕ) (x : ℤ) :
    Decodes (packUInt size x) (takeUInt size) x := by
  intro ns hns _ rest
  obtain ⟨h, rfl⟩ := packUInt_eq_ok.mp hns
  rw [takeUInt, take_bytesOf_append (length_beDigits _ _), ofBE_packUInt h,
    drop_bytesOf_append (length_beDigits _ _)]

theorem length_of_packUInt {size : ℕ} {x : ℤ} {ns : List ℕ} (h : packUInt size x = .ok ns) :
    ns.length = size := by
  obtain ⟨_, rfl⟩ := packUInt_eq_ok.mp h
  exact length_beDigits _ _

theorem allBytes_of_packUInt {size : ℕ} {x : ℤ} {ns : List ℕ} (h : packUInt size x = .ok ns) :
    AllBytes ns := by
  obtain ⟨_, rfl⟩ := packUInt_eq_ok.mp h
  exact allBytes_beDigits _ _

/-- A packed integer is spelled by its bytes. -/
theorem ofBE_of_packUInt {size : ℕ} {x : ℤ} {ns : List ℕ} (h : packUInt size x = .ok ns) :
    (ofBE (bytesOf ns) : ℤ) = x := by
  obtain ⟨hx, rfl⟩ := packUInt_eq_ok.mp h
  exact ofBE_packUInt hx

/-! ### Enumerations -/

/-- An enumeration: its members, each found by its value. -/
class Enumeration (E : Type) where
  name : String
  members : List E
  value : E → ℕ
  find_value : ∀ e, members.find? (value · == value e) = some e

namespace Enumeration

variable {E : Type} [Enumeration E]

/-- The member with a value. -/
def ofValue? (n : ℕ) : Option E := members.find? (value · == n)

/-- `E(n)`. -/
def ofValue (n : ℕ) : Except Exn E :=
  match ofValue? n with
  | some e => .ok e
  | none => .error (.valueError (toString n ++ " is not a valid " ++ name E))

@[simp] theorem ofValue?_value (e : E) : ofValue? (value e) = some e := find_value e

@[simp] theorem ofValue_value (e : E) : ofValue (value e) = .ok e := by simp [ofValue]

theorem value_injective {a b : E} (h : value a = value b) : a = b := by
  have hb := ofValue?_value b
  rw [← h, ofValue?_value] at hb
  exact Option.some.inj hb

theorem value_of_ofValue? {n : ℕ} {e : E} (h : ofValue? n = some e) : value e = n := by
  simpa using List.find?_some h

theorem value_of_ofValue {n : ℕ} {e : E} (h : ofValue n = .ok e) : value e = n := by
  unfold ofValue at h
  cases hvalue : ofValue? (E := E) n with
  | none => simp [hvalue] at h
  | some e' =>
    simp only [hvalue, Except.ok.injEq] at h
    subst h
    exact value_of_ofValue? hvalue

/-- Two enumerations without a common value, looked up one after the other. -/
@[reducible] def sum {F : Type} [Enumeration F] (name : String)
    (disjoint : ∀ e ∈ (members : List E), ∀ f ∈ (members : List F), value e ≠ value f) :
    Enumeration (E ⊕ F) where
  name := name
  members := members.map .inl ++ members.map .inr
  value := Sum.elim value value
  find_value := by
    rintro (e | f)
    · simp [List.find?_append, List.find?_map, Function.comp_def, find_value]
    · have hf : f ∈ (members : List F) := List.mem_of_find?_eq_some (find_value f)
      have hnone : (members : List E).find? (value · == value f) = none := by
        rw [List.find?_eq_none]
        intro e he heq
        exact disjoint e he f hf (by simpa using heq)
      simp [List.find?_append, List.find?_map, Function.comp_def, find_value, hnone]

end Enumeration

/-- `E | int`: a member of an enumeration, or an integer. -/
inductive EnumOr (E : Type)
  | enum (e : E)
  | int (n : ℕ)
  deriving DecidableEq

namespace EnumOr

variable {E : Type} [Enumeration E]

/-- The member with a value if there is one, else the value itself. -/
def ofNat (n : ℕ) : EnumOr E :=
  match Enumeration.ofValue? n with
  | some e => .enum e
  | none => .int n

/-- `x.value if isinstance(x, E) else x`. -/
def toNat : EnumOr E → ℕ
  | .enum e => Enumeration.value e
  | .int n => n

/-- An integer that is no member's value. -/
def Normal : EnumOr E → Prop
  | .enum _ => True
  | .int n => Enumeration.ofValue? (E := E) n = none

instance [DecidableEq E] (x : EnumOr E) : Decidable x.Normal := by
  cases x <;> unfold Normal <;> infer_instance

theorem ofNat_toNat {x : EnumOr E} (h : x.Normal) : ofNat x.toNat = x := by
  cases x with
  | enum e => simp [ofNat, toNat]
  | int n =>
    have h : Enumeration.ofValue? (E := E) n = none := h
    simp [ofNat, toNat, h]

/-- What a value is decoded to is in normal form, and has that value. -/
theorem normal_ofNat (n : ℕ) : (ofNat n : EnumOr E).Normal ∧ (ofNat n : EnumOr E).toNat = n := by
  unfold ofNat
  cases h : Enumeration.ofValue? (E := E) n with
  | none => exact ⟨h, rfl⟩
  | some e => exact ⟨trivial, Enumeration.value_of_ofValue? h⟩

end EnumOr

/-! ### Queues -/

/-- Is there room in an `aio.Queue` of a size, where zero stands for no bound? -/
def hasRoom {α : Type} (size : ℕ) (queue : List α) : Bool := size = 0 ∨ queue.length < size

/-! ### `round` -/

/-- `round(q)`: the nearest integer, a tie going to the even one. -/
def roundHalfEven (q : ℚ) : ℤ :=
  let d := q - ⌊q⌋
  if d < 1 / 2 then ⌊q⌋
  else if 1 / 2 < d then ⌊q⌋ + 1
  else if ⌊q⌋ % 2 = 0 then ⌊q⌋ else ⌊q⌋ + 1

@[simp] theorem roundHalfEven_intCast (k : ℤ) : roundHalfEven (k : ℚ) = k := by
  simp [roundHalfEven]

end HatDrivers
