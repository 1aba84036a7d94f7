import HatDrivers.Iec60870.Encodings.Iec103.Encoder

namespace HatDrivers.Iec60870.Encodings.Iec103

open HatDrivers.Lib

/-!
# IEC 60870-5-103 — round trips of fields

Fixed-point numbers, times and the values of a fixed size, within their documented ranges, are
written in as many bytes as `_get_value_min_size` says, and read back from them.
-/

theorem byteAt_leDigits (size x : ℕ) (rest : Bytes) :
    byteAt (bytesOf (leDigits (size + 1) x) ++ rest) 0 = .ok (x % 256) :=
  byteAt_bytesOf_zero (Nat.mod_lt x (by omega)) (leDigits size (x / 256)) rest

/-! ### Fixed-point numbers -/

/-- A fixed-point number that is a multiple of its resolution. -/
def OnGrid (bits : ℕ) (value : ℚ) : Prop := ∃ k : ℤ, value = k / 2 ^ bits

theorem intCast_truncate (k : ℤ) : truncate k = k := by
  simp [truncate]

/-- What is left of a number in `[-1, 1)`, in units of its resolution. -/
theorem truncate_mem {value : ℚ} {n : ℕ} (h : -1 ≤ value ∧ value < 1) :
    -2 ^ n ≤ truncate (value * 2 ^ n) ∧ truncate (value * 2 ^ n) < 2 ^ n := by
  have hpos : (0 : ℚ) < 2 ^ n := by positivity
  have hlo : -2 ^ n ≤ value * 2 ^ n := by nlinarith
  have hhi : value * 2 ^ n < 2 ^ n := by nlinarith
  unfold truncate
  split
  · rename_i hneg
    constructor
    · have hle := hlo.trans (Int.le_ceil (value * 2 ^ n))
      exact_mod_cast hle
    · have hceil : ⌈value * 2 ^ n⌉ ≤ 0 := Int.ceil_le.mpr (by exact_mod_cast hneg.le)
      have hpow : (0 : ℤ) < 2 ^ n := by positivity
      omega
  · constructor
    · rw [Int.le_floor]
      exact_mod_cast hlo
    · rw [Int.floor_lt]
      exact_mod_cast hhi

/-- The number is what it is truncated to exactly if it is on the grid. -/
theorem truncate_div_eq_iff {value : ℚ} {n : ℕ} :
    (truncate (value * 2 ^ n) : ℚ) / 2 ^ n = value ↔ OnGrid n value := by
  constructor
  · intro h
    exact ⟨truncate (value * 2 ^ n), h.symm⟩
  · rintro ⟨k, rfl⟩
    have hpow : (2 : ℚ) ^ n ≠ 0 := by positivity
    rw [div_mul_cancel₀ _ hpow, intCast_truncate]

/-- The bits of a signed number above an offset, and other bits below it. -/
def fixedInt (bitOffset bitSize : ℕ) (k : ℤ) (low : ℕ) : ℕ :=
  ((k % 2 ^ bitSize).toNat <<< bitOffset) ||| low

theorem fixedInt_eq_add (o b : ℕ) (k : ℤ) {low : ℕ} (h : low < 2 ^ o) :
    fixedInt o b k low = (k % 2 ^ b).toNat * 2 ^ o + low :=
  shiftLeft_or_eq_add h

theorem two_pow_le_byteCount (bits : ℕ) : 2 ^ bits ≤ 256 ^ byteCount bits := by
  have hpow : 256 ^ byteCount bits = 2 ^ (8 * byteCount bits) := by rw [pow_mul]; rfl
  rw [hpow]
  apply Nat.pow_le_pow_right (by omega)
  unfold byteCount
  omega

theorem emod_two_pow_toNat_lt (k : ℤ) (n : ℕ) : (k % 2 ^ n).toNat < 2 ^ n := by
  have hpow : (0 : ℤ) < 2 ^ n := by positivity
  have hlt := Int.emod_lt_of_pos k hpow
  zify
  rw [Int.toNat_of_nonneg (Int.emod_nonneg k hpow.ne')]
  exact hlt

theorem fixedInt_lt {o b : ℕ} (k : ℤ) {low : ℕ} (h : low < 2 ^ o) :
    fixedInt o b k low < 256 ^ byteCount (o + b) := by
  have hlt := emod_two_pow_toNat_lt k b
  apply lt_of_lt_of_le _ (two_pow_le_byteCount (o + b))
  rw [fixedInt_eq_add o b k h, pow_add]
  calc (k % 2 ^ b).toNat * 2 ^ o + low
    _ < ((k % 2 ^ b).toNat + 1) * 2 ^ o := by rw [Nat.add_mul, Nat.one_mul]; omega
    _ ≤ 2 ^ b * 2 ^ o := Nat.mul_le_mul_right _ hlt
    _ = 2 ^ o * 2 ^ b := Nat.mul_comm _ _

/-- The sign bit of a number of `n + 1` bits. -/
theorem and_two_pow_ne_zero {x n : ℕ} (h : x < 2 ^ (n + 1)) :
    (x &&& 2 ^ n != 0) = decide (2 ^ n ≤ x) := by
  rw [Nat.and_two_pow, Nat.testBit_eq_decide_div_mod_eq]
  have hpow := Nat.two_pow_pos n
  rw [pow_succ] at h
  by_cases hle : 2 ^ n ≤ x
  · have hdiv : x / 2 ^ n = 1 := by
      apply Nat.div_eq_of_lt_le <;> omega
    simp [hdiv, hle]
  · have hdiv : x / 2 ^ n = 0 := Nat.div_eq_of_lt (by omega)
    simp [hdiv, hle]

/-- A signed number is read back from its bits, whatever is below them. -/
theorem decodeFixed_fixedInt {o n : ℕ} {k : ℤ} {low : ℕ} (hn : n ≤ 52)
    (hk : -2 ^ n ≤ k ∧ k < 2 ^ n) (hlow : low < 2 ^ o) (rest : Bytes) :
    decodeFixed (bytesOf (leDigits (byteCount (o + (n + 1)))
      (fixedInt o (n + 1) k low)) ++ rest) o (n + 1) true = .ok (k / 2 ^ n) := by
  have hfits := fixedInt_lt (b := n + 1) k hlow
  have hlt := emod_two_pow_toNat_lt k (n + 1)
  have hpow : (0 : ℤ) < 2 ^ (n + 1) := by positivity
  have hmod : ((k % 2 ^ (n + 1)).toNat : ℤ) = k % 2 ^ (n + 1) :=
    Int.toNat_of_nonneg (Int.emod_nonneg k hpow.ne')
  have hbits : (fixedInt o (n + 1) k low >>> o) &&& (2 ^ (n + 1) - 1) =
      (k % 2 ^ (n + 1)).toNat := by
    rw [Nat.and_two_pow_sub_one_eq_mod, fixedInt_eq_add _ _ _ hlow, Nat.shiftRight_eq_div_pow,
      Nat.add_comm, Nat.add_mul_div_right _ _ (Nat.two_pow_pos o),
      Nat.div_eq_of_lt hlow, Nat.zero_add, Nat.mod_eq_of_lt hlt]
  -- the sign bit is set exactly if the number is negative
  have hsign : (if (k % 2 ^ (n + 1)).toNat &&& 2 ^ n != 0
      then (((k % 2 ^ (n + 1)).toNat : ℤ) - 2 ^ (n + 1))
      else ((k % 2 ^ (n + 1)).toNat : ℤ)) = k := by
    have hhalf : (2 : ℤ) ^ (n + 1) = 2 ^ n + 2 ^ n := by rw [pow_succ]; ring
    rw [and_two_pow_ne_zero hlt]
    by_cases hneg : k < 0
    · have hval : k % 2 ^ (n + 1) = k + 2 ^ (n + 1) := by
        rw [← Int.add_emod_right, Int.emod_eq_of_lt] <;> omega
      have hle : 2 ^ n ≤ (k % 2 ^ (n + 1)).toNat := by
        zify
        rw [hmod]
        omega
      rw [if_pos (decide_eq_true hle), hmod]
      omega
    · have hval : k % 2 ^ (n + 1) = k := Int.emod_eq_of_lt (by omega) (by omega)
      have hle : ¬ 2 ^ n ≤ (k % 2 ^ (n + 1)).toNat := by
        zify
        rw [hmod]
        omega
      rw [if_neg (by simpa using hle), hmod, hval]
  have habs : |k| < 2 ^ 53 := by
    have hle : (2 : ℤ) ^ n ≤ 2 ^ 52 := pow_le_pow_right₀ (by norm_num) hn
    rw [abs_lt]
    constructor <;> omega
  have hlimit : fixedLimit (n + 1) true = .ok (2 ^ n) := by simp [fixedLimit]
  simp only [decodeFixed, hlimit, ok_bind, intFromBytes_take hfits, hbits]
  rw [if_neg (by simp)]
  simp only [Bool.true_and, hsign]
  have hdouble := toDouble_div_two_pow habs n
  push_cast
  simp only [hdouble]
  rfl

/-- A number in range is written as that it is truncated to. -/
theorem encodeFixed_eq {value : ℚ} {o n : ℕ} (h : -1 ≤ value ∧ value < 1) :
    encodeFixed value o (n + 1) true =
      .ok (leDigits (byteCount (o + (n + 1)))
        (fixedInt o (n + 1) (truncate (value * 2 ^ n)) 0)) := by
  have hmem := truncate_mem (n := n) h
  have hfits := fixedInt_lt (o := o) (b := n + 1)
    (truncate (value * 2 ^ n)) (Nat.two_pow_pos o)
  have hlimit : fixedLimit (n + 1) true = .ok (2 ^ n) := by simp [fixedLimit]
  have hmod : (if truncate (value * 2 ^ n) < 0 then truncate (value * 2 ^ n) % 2 ^ (n + 1)
      else truncate (value * 2 ^ n)) = truncate (value * 2 ^ n) % 2 ^ (n + 1) := by
    by_cases hneg : truncate (value * 2 ^ n) < 0
    · rw [if_pos hneg]
    · rw [if_neg hneg, Int.emod_eq_of_lt (by omega)]
      rw [pow_succ]
      omega
  simp only [encodeFixed, if_true]
  rw [if_neg (not_not.mpr h)]
  simp only [ok_bind, hlimit]
  push_cast
  rw [hmod]
  have hzero : (truncate (value * 2 ^ n) % 2 ^ (n + 1)).toNat <<< o =
      fixedInt o (n + 1) (truncate (value * 2 ^ n)) 0 := by
    rw [fixedInt, Nat.or_zero]
  rw [hzero, intToBytes_of_lt hfits]

theorem length_of_encodeFixed {value : ℚ} {o b : ℕ} {signed : Bool} {ns : List ℕ}
    (h : encodeFixed value o b signed = .ok ns) : ns.length = byteCount (o + b) := by
  simp only [encodeFixed] at h
  by_cases hrange : (if signed then -1 else 0) ≤ value ∧ value < 1
  · rw [if_neg (not_not.mpr hrange)] at h
    obtain ⟨limit, _, h⟩ := bind_eq_ok.mp h
    obtain ⟨_, rfl⟩ := intToBytes_eq_ok.mp h
    exact length_leDigits _ _
  · rw [if_pos hrange] at h
    cases h

/-- A number of sixteen bits is written, and read back as that it is truncated to. -/
theorem encodeFixed_two {value : ℚ} (h : -1 ≤ value ∧ value < 1) :
    ∃ ns, encodeFixed value 0 16 true = .ok ns ∧ AllBytes ns ∧ ns.length = 2 ∧ ∀ rest,
      decodeFixed (bytesOf ns ++ rest) 0 16 true = .ok (truncate (value * 2 ^ 15) / 2 ^ 15) := by
  refine ⟨_, encodeFixed_eq (o := 0) (n := 15) h, allBytes_leDigits _ _, by simp [byteCount],
    fun rest => ?_⟩
  exact decodeFixed_fixedInt (by omega) (truncate_mem h) (Nat.two_pow_pos 0) rest

/-- The documented ranges of a measurand. -/
def MeasurandValue.InRange (v : MeasurandValue) : Prop := -1 ≤ v.value ∧ v.value < 1

private theorem setFlags_leDigits {low : ℕ} (h : low < 8) (k : ℤ) :
    setFlags low (leDigits 2 (fixedInt 3 13 k 0)) = .ok (leDigits 2 (fixedInt 3 13 k low)) := by
  have hzero := fixedInt_eq_add 3 13 k (show 0 < 2 ^ 3 by omega)
  have hlow := fixedInt_eq_add 3 13 k (show low < 2 ^ 3 by omega)
  have hlo : fixedInt 3 13 k 0 % 256 ||| low = fixedInt 3 13 k low % 256 := by
    have hshift : fixedInt 3 13 k 0 % 256 = ((k % 2 ^ 13).toNat % 32) <<< 3 := by
      rw [Nat.shiftLeft_eq]
      omega
    rw [hshift, shiftLeft_or_eq_add (k := 3) (by omega)]
    omega
  have hhi : fixedInt 3 13 k 0 / 256 = fixedInt 3 13 k low / 256 := by omega
  simp only [leDigits, setFlags, hlo, hhi]

/-- The flags of a measurand. -/
def measurandFlags (overflow invalid : Bool) : ℕ :=
  (if overflow then 0x01 else 0x00) ||| (if invalid then 0x02 else 0x00)

private theorem measurandFlags_lt : ∀ overflow invalid : Bool,
    measurandFlags overflow invalid < 8 := by
  decide

set_option maxRecDepth 4000 in
/-- The flags are read below whatever bits there are of the number. -/
private theorem measurandFlags_spec : ∀ overflow invalid : Bool, ∀ y < 32,
    bit (y <<< 3 ||| measurandFlags overflow invalid) 0x01 = overflow ∧
      bit (y <<< 3 ||| measurandFlags overflow invalid) 0x02 = invalid := by
  decide

/-- A measurand is written, and read back as that it is truncated to. -/
theorem encodeMeasurand_two {v : MeasurandValue} (h : v.InRange) :
    ∃ ns, encodeValue (.MeasurandValue v) none = .ok ns ∧ AllBytes ns ∧ ns.length = 2 ∧
      Reads decodeMeasurand (bytesOf ns)
        { v with value := truncate (v.value * 2 ^ 12) / 2 ^ 12 } := by
  obtain ⟨overflow, invalid, value⟩ := v
  have hmem := truncate_mem (n := 12) h
  have hlt := measurandFlags_lt overflow invalid
  have hset := setFlags_leDigits hlt (truncate (value * 2 ^ 12))
  have hencode : encodeFixed value 3 13 true =
      .ok (leDigits 2 (fixedInt 3 13 (truncate (value * 2 ^ 12)) 0)) :=
    encodeFixed_eq (o := 3) (n := 12) h
  refine ⟨leDigits 2 (fixedInt 3 13 (truncate (value * 2 ^ 12)) (measurandFlags overflow invalid)),
    ?_, allBytes_leDigits _ _, by simp, fun rest => ?_⟩
  · have hflags : (if overflow then 0x01 else 0x00) ||| (if invalid then 0x02 else 0x00) =
        measurandFlags overflow invalid := rfl
    simp [encodeValue, encodedSize, getValueMinSize, hencode, hflags, hset, zeros]
  · have hread : decodeFixed (bytesOf (leDigits 2 (fixedInt 3 13 (truncate (value * 2 ^ 12))
        (measurandFlags overflow invalid))) ++ rest) 3 13 true =
          .ok (truncate (value * 2 ^ 12) / 2 ^ 12) :=
      decodeFixed_fixedInt (o := 3) (n := 12) (by omega) hmem hlt rest
    have hbyte : fixedInt 3 13 (truncate (value * 2 ^ 12)) (measurandFlags overflow invalid) % 256 =
        ((truncate (value * 2 ^ 12) % 2 ^ 13).toNat % 32) <<< 3 |||
          measurandFlags overflow invalid := by
      rw [fixedInt_eq_add _ _ _ hlt, shiftLeft_or_eq_add (k := 3) hlt]
      omega
    obtain ⟨hover, hinv⟩ := measurandFlags_spec overflow invalid
      ((truncate (value * 2 ^ 12) % 2 ^ 13).toNat % 32) (Nat.mod_lt _ (by omega))
    simp only [decodeMeasurand, byteAt_leDigits, hbyte, hover, hinv, hread, ok_bind,
      drop_bytesOf_append (length_leDigits 2 _)]
    rfl

/-! ### Values of a fixed size -/

attribute [local simp] encodeValue encodedSize getValueMinSize zeros

/-- A member of an enumeration, in a byte. -/
theorem encodeEnum_codes {E : Type} [Enumeration E] {e : E} (h : Enumeration.value e < 256) :
    CodesIn 1 (.ok [Enumeration.value e]) decodeEnum e := by
  refine ⟨_, rfl, by simpa using h, rfl, fun rest => ?_⟩
  simp [decodeEnum, byteAt_bytesOf_zero h]

theorem DoubleValue.value_lt (v : DoubleValue) : v.value < 256 := by cases v <;> decide

theorem SingleValue.value_lt (v : SingleValue) : v.value < 256 := by cases v <;> decide

theorem ExtendedDoubleValue.value_lt (v : ExtendedDoubleValue) : v.value < 256 := by
  cases v <;> decide

theorem ReplyValue.value_lt (v : ReplyValue) : v.value < 256 := by cases v <;> decide

theorem encodeDouble_codes (v : DoubleValue) :
    CodesIn 1 (encodeValue (.DoubleValue v) none) decodeEnum v := by
  have hw : encodeValue (.DoubleValue v) none = .ok [v.value] := by simp
  rw [hw]
  exact encodeEnum_codes v.value_lt

theorem encodeSingle_codes (v : SingleValue) :
    CodesIn 1 (encodeValue (.SingleValue v) none) decodeEnum v := by
  have hw : encodeValue (.SingleValue v) none = .ok [v.value] := by simp
  rw [hw]
  exact encodeEnum_codes v.value_lt

theorem encodeExtendedDouble_codes (v : ExtendedDoubleValue) :
    CodesIn 1 (encodeValue (.ExtendedDoubleValue v) none) decodeEnum v := by
  have hw : encodeValue (.ExtendedDoubleValue v) none = .ok [v.value] := by simp
  rw [hw]
  exact encodeEnum_codes v.value_lt

theorem encodeReply_codes (v : ReplyValue) :
    CodesIn 1 (encodeValue (.ReplyValue v) none) decodeEnum v := by
  have hw : encodeValue (.ReplyValue v) none = .ok [v.value] := by simp
  rw [hw]
  exact encodeEnum_codes v.value_lt

structure Identification.InRange (v : Identification) : Prop where
  groupId_le : v.groupId ≤ 255
  entryId_le : v.entryId ≤ 255

structure IoAddress.InRange (v : IoAddress) : Prop where
  functionType_le : v.functionType ≤ 255
  informationNumber_le : v.informationNumber ≤ 255

theorem encodeIdentification_codes {v : Identification} (h : v.InRange) :
    CodesIn 2 (encodeValue (.IdentificationValue v) none) decodeIdentification v := by
  obtain ⟨groupId, entryId⟩ := v
  have hg : groupId < 256 := Nat.lt_succ_of_le h.groupId_le
  have he : entryId < 256 := Nat.lt_succ_of_le h.entryId_le
  refine ⟨[groupId, entryId], by simp, by simp [hg, he], rfl, fun rest => ?_⟩
  simp [decodeIdentification, byteAt_bytesOf_zero, hg, he]

theorem encodeIoAddress_codes {v : IoAddress} (h : v.InRange) :
    CodesIn 2 (encodeValue (.IoAddressValue v) none) decodeIoAddressValue v := by
  obtain ⟨functionType, informationNumber⟩ := v
  have hf : functionType < 256 := Nat.lt_succ_of_le h.functionType_le
  have hi : informationNumber < 256 := Nat.lt_succ_of_le h.informationNumber_le
  refine ⟨[functionType, informationNumber], by simp, by simp [hf, hi], rfl, fun rest => ?_⟩
  simp [decodeIoAddressValue, byteAt_bytesOf_zero, hf, hi]

theorem encodeReal32_codes (v : Real32Value) :
    CodesIn 4 (encodeValue (.Real32Value v) none) decodeReal32 v := by
  refine ⟨packFloat v.value, by simp, by simp [packFloat], length_packFloat _, fun rest => ?_⟩
  simp only [decodeReal32, unpackFloat_packFloat, ok_bind,
    drop_bytesOf_append (length_packFloat v.value)]
  rfl

/-! ### Values with times -/

/-- A valid time of a size. -/
def TimeOf (timeSize : TimeSize) (time : Time) : Prop := time.size = timeSize ∧ time.Valid

/-- A valid time is read back from exactly its bytes. -/
theorem encodeTime_of {timeSize : TimeSize} {time : Time} (h : TimeOf timeSize time) :
    ∃ ns, encodeTime time timeSize = .ok ns ∧ AllBytes ns ∧ ns.length = timeSize.value ∧
      decodeTime (bytesOf ns) timeSize = .ok time := by
  obtain ⟨rfl, hvalid⟩ := h
  obtain ⟨ns, hw, hb, hlen, hr⟩ := encodeTime_codes hvalid
  exact ⟨ns, hw, hb, hlen, by simpa using hr []⟩

/-- The documented ranges of the value of a time-tagged message. -/
structure DoubleWithTimeValue.InRange (v : DoubleWithTimeValue) : Prop where
  time : TimeOf .FOUR v.time
  supplementary_le : v.supplementary ≤ 255

structure DoubleWithRelativeTimeValue.InRange (v : DoubleWithRelativeTimeValue) : Prop where
  relativeTime_le : v.relativeTime ≤ 65535
  faultNumber_le : v.faultNumber ≤ 65535
  time : TimeOf .FOUR v.time
  supplementary_le : v.supplementary ≤ 255

structure MeasurandWithRelativeTimeValue.InRange (v : MeasurandWithRelativeTimeValue) : Prop where
  relativeTime_le : v.relativeTime ≤ 65535
  faultNumber_le : v.faultNumber ≤ 65535
  time : TimeOf .FOUR v.time

theorem encodeDoubleWithTime_codes {v : DoubleWithTimeValue} (h : v.InRange) :
    CodesIn 6 (encodeValue (.DoubleWithTimeValue v) none) decodeDoubleWithTime v := by
  obtain ⟨value, time, supplementary⟩ := v
  have hv := value.value_lt
  have hs : supplementary < 256 := Nat.lt_succ_of_le h.supplementary_le
  obtain ⟨ns, hw, hb, hlen, hr⟩ := encodeTime_of h.time
  have hvalue : Enumeration.ofValue value.value = .ok value := Enumeration.ofValue_value value
  change ns.length = 4 at hlen
  refine ⟨[value.value] ++ ns ++ [supplementary], by simp [hw], by simp [hv, hb, hs],
    by simp [hlen], fun rest => ?_⟩
  simp only [bytesOf_append, List.append_assoc, decodeDoubleWithTime, byteAt_bytesOf_zero hv,
    ok_bind, hvalue]
  simp [slice_skip, slice_zero, byteAt_skip, drop_skip, byteAt_bytesOf_zero, hs, hlen, hr]

theorem encodeDoubleWithRelativeTime_codes {v : DoubleWithRelativeTimeValue} (h : v.InRange) :
    CodesIn 10 (encodeValue (.DoubleWithRelativeTimeValue v) none) decodeDoubleWithRelativeTime
      v := by
  obtain ⟨value, relativeTime, faultNumber, time, supplementary⟩ := v
  have hv := value.value_lt
  have hrt : relativeTime < 256 ^ 2 := Nat.lt_succ_of_le h.relativeTime_le
  have hfn : faultNumber < 256 ^ 2 := Nat.lt_succ_of_le h.faultNumber_le
  have hs : supplementary < 256 := Nat.lt_succ_of_le h.supplementary_le
  obtain ⟨ns, hw, hb, hlen, hr⟩ := encodeTime_of h.time
  have hvalue : Enumeration.ofValue value.value = .ok value := Enumeration.ofValue_value value
  change ns.length = 4 at hlen
  refine ⟨[value.value] ++ leDigits 2 relativeTime ++ leDigits 2 faultNumber ++ ns ++
    [supplementary], ?_, by simp [hv, hb, hs], by simp [hlen], fun rest => ?_⟩
  · simp [hw, intToBytes_of_lt hrt, intToBytes_of_lt hfn]
  · simp only [bytesOf_append, List.append_assoc, decodeDoubleWithRelativeTime,
      byteAt_bytesOf_zero hv, ok_bind, hvalue]
    simp [slice_skip, slice_zero, byteAt_skip, drop_skip, byteAt_bytesOf_zero, hs, hlen, hr,
      intFromBytes, ofLE_leDigits_of_lt hrt, ofLE_leDigits_of_lt hfn]

theorem encodeMeasurandWithRelativeTime_codes {v : MeasurandWithRelativeTimeValue}
    (h : v.InRange) :
    CodesIn 12 (encodeValue (.MeasurandWithRelativeTimeValue v) none)
      decodeMeasurandWithRelativeTime v := by
  obtain ⟨value, relativeTime, faultNumber, time⟩ := v
  have hrt : relativeTime < 256 ^ 2 := Nat.lt_succ_of_le h.relativeTime_le
  have hfn : faultNumber < 256 ^ 2 := Nat.lt_succ_of_le h.faultNumber_le
  obtain ⟨ns, hw, hb, hlen, hr⟩ := encodeTime_of h.time
  change ns.length = 4 at hlen
  refine ⟨packFloat value ++ leDigits 2 relativeTime ++ leDigits 2 faultNumber ++ ns, ?_,
    by simp [hb, packFloat], by simp [hlen], fun rest => ?_⟩
  · simp [hw, intToBytes_of_lt hrt, intToBytes_of_lt hfn]
  · simp only [bytesOf_append, List.append_assoc, decodeMeasurandWithRelativeTime,
      unpackFloat_packFloat, ok_bind]
    simp [slice_skip, slice_zero, drop_skip, hlen, hr, intFromBytes, ofLE_leDigits_of_lt hrt,
      ofLE_leDigits_of_lt hfn]

end HatDrivers.Iec60870.Encodings.Iec103
