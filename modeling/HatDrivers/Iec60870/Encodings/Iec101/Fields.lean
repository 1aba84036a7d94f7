import HatDrivers.Iec60870.Encodings.Iec101.Packing

namespace HatDrivers.Iec60870.Encodings.Iec101

open HatDrivers.Lib

/-!
# IEC 60870-5-101 — round trips of fields

Causes, qualities and values within their documented ranges are written, and
read back from their bytes.
-/

/-! ### Cause -/

/-- The documented ranges of a cause. -/
structure Cause.InRange (cause : Cause) (causeSize : CauseSize) : Prop where
  type_le : cause.type.toNat ≤ 63
  originatorAddress_le : cause.originatorAddress ≤ 255
  originatorAddress_eq : causeSize = .ONE → cause.originatorAddress = 0

/-- In range, and an integer type is no named one. -/
structure Cause.Valid (cause : Cause) (causeSize : CauseSize) : Prop
    extends cause.InRange causeSize where
  normal : cause.type.Normal

private theorem encodeCause_one (cause : Cause) : encodeCause cause .ONE =
    causeByte cause.isTest cause.isNegativeConfirm cause.type.toNat := rfl

private theorem encodeCause_two (cause : Cause) : encodeCause cause .TWO =
    causeByte cause.isTest cause.isNegativeConfirm cause.type.toNat |||
      cause.originatorAddress <<< 8 := rfl

/-- The low byte of a two-byte cause is untouched by the originator address. -/
private theorem and_or_shiftLeft {b mask : ℕ} (hm : mask < 256) (o : ℕ) :
    (b ||| o <<< 8) &&& mask = b &&& mask := by
  refine Nat.eq_of_testBit_eq fun i => ?_
  rw [Nat.testBit_and, Nat.testBit_or, Nat.testBit_shiftLeft, Nat.testBit_and]
  by_cases hi : 8 ≤ i
  · have hmask : mask.testBit i = false :=
      Nat.testBit_lt_two_pow (hm.trans_le (Nat.pow_le_pow_right (n := 2) (by omega) hi))
    simp [hmask]
  · simp [hi]

theorem encodeCause_lt {cause : Cause} {causeSize : CauseSize} (h : cause.InRange causeSize) :
    encodeCause cause causeSize < 256 ^ causeSize.value := by
  obtain ⟨hb, _⟩ := causeByte_spec cause.isTest cause.isNegativeConfirm cause.type.toNat
    (Nat.lt_succ_of_le h.type_le)
  cases causeSize with
  | ONE => simpa [encodeCause_one, CauseSize.value] using hb
  | TWO =>
    have hor := @shiftLeft_or_eq_add cause.originatorAddress
      (causeByte cause.isTest cause.isNegativeConfirm cause.type.toNat) 8 hb
    have ho := h.originatorAddress_le
    rw [encodeCause_two, Nat.lor_comm, hor, CauseSize.value]
    omega

/-- A cause is read back from its integer. -/
theorem decodeCause_encodeCause {cause : Cause} {causeSize : CauseSize}
    (h : cause.Valid causeSize) :
    decodeCause (encodeCause cause causeSize) causeSize = cause := by
  obtain ⟨hb, htype, hneg, htest⟩ := causeByte_spec cause.isTest cause.isNegativeConfirm
    cause.type.toNat (Nat.lt_succ_of_le h.type_le)
  obtain ⟨type, isNegativeConfirm, isTest, originatorAddress⟩ := cause
  cases causeSize with
  | ONE =>
    obtain rfl := h.originatorAddress_eq rfl
    rw [encodeCause_one]
    simp [decodeCause, decodeCauseType, htype, hneg, htest, EnumOr.ofNat_toNat h.normal]
  | TWO =>
    simp only at hb htype hneg htest
    rw [encodeCause_two]
    have hshift : (causeByte isTest isNegativeConfirm type.toNat ||| originatorAddress <<< 8) >>> 8
        = originatorAddress := by
      rw [Nat.lor_comm, shiftLeft_or_eq_add (by simpa using hb), Nat.shiftRight_eq_div_pow]
      omega
    simp only [bit] at hneg htest
    simp [decodeCause, decodeCauseType, bit, and_or_shiftLeft, htype, hneg, htest, hshift,
      EnumOr.ofNat_toNat h.normal]

/-! ### Single bytes -/

/-- A byte written alone, of which a reader makes `f b`. -/
private theorem codes_byte {α : Type} {b : ℕ} {f : ℕ → α} {a : α} (hb : b < 256) (hf : f b = a) :
    Codes (Except.ok [b]) (fun bs => do return (f (← byteAt bs 0), bs.drop 1)) a := by
  refine ⟨[b], rfl, by simpa using hb, fun rest => ?_⟩
  simp [byteAt_bytesOf_zero hb, hf]

theorem encodeSelect_codes (select : Bool) : Codes (encodeSelect select) decodeSelect select :=
  codes_byte (f := fun b => bit b 0x80) (by cases select <;> decide) (by cases select <;> decide)

theorem encodeQualifier_codes {q : ℕ} (h : q ≤ 255) :
    Codes (encodeQualifier q) decodeQualifier q :=
  codes_byte (f := id) (by rw [and_0xFF_of_le h]; omega) (and_0xFF_of_le h)

theorem encodeInt2_codes {x : ℕ} (h : x ≤ 65535) : Codes (encodeInt2 x) decodeInt2 x := by
  have hx : x < 256 ^ 2 := by omega
  refine ⟨leDigits 2 x, intToBytes_of_lt hx, by simp, fun rest => ?_⟩
  simp only [decodeInt2, intFromBytes_take hx, drop_bytesOf_append (length_leDigits 2 x)]
  rfl

/-! ### Qualities -/

structure CounterQuality.Valid (q : CounterQuality) : Prop where
  sequence_le : q.sequence ≤ 31

/-- The sequence of a counter quality is in its range. -/
def QualityValid : (t : QualityType) → t.Quality → Prop
  | .COUNTER, q => q.Valid
  | _, _ => True

theorem encodeQuality_codes {t : QualityType} {q : t.Quality} (h : QualityValid t q) :
    Codes (encodeQuality t q) (decodeQuality t) q := by
  cases t with
  | INDICATION =>
    obtain ⟨i, n, s, b⟩ := q
    obtain ⟨hb, _, _, hq⟩ := indication_spec i n s b 0 (by omega)
    rw [Nat.zero_or] at hb hq
    exact codes_byte hb hq
  | MEASUREMENT =>
    obtain ⟨i, n, s, b, o⟩ := q
    obtain ⟨hb, hq⟩ := measurement_spec i n s b o
    exact codes_byte hb hq
  | COUNTER =>
    obtain ⟨i, a, o, sequence⟩ := q
    obtain ⟨hb, hq⟩ := counter_spec i a o sequence (Nat.lt_succ_of_le h.sequence_le)
    exact codes_byte hb hq
  | PROTECTION =>
    obtain ⟨i, n, s, b, t⟩ := q
    obtain ⟨hb, _, hq⟩ := protection_spec i n s b t 0 (by omega)
    rw [Nat.zero_or] at hb hq
    exact codes_byte hb hq

/-- A value shares its byte with a quality that leaves the bits of `mask` free. -/
private theorem codes_valueInQuality {ν : Type} [Enumeration ν] {mask : ℕ} {t : QualityType}
    {value : ν} {q : t.Quality} (hb : Enumeration.value value ||| qualityByte t q < 256)
    (hv : (Enumeration.value value ||| qualityByte t q) &&& mask = Enumeration.value value)
    (hq : qualityOfByte t (Enumeration.value value ||| qualityByte t q) = q) :
    Codes (encodeValueInQuality t value q) (decodeValueInQuality mask t) (value, q) := by
  refine ⟨_, rfl, by simpa using hb, fun rest => ?_⟩
  simp only [decodeValueInQuality, decodeQuality, byteAt_bytesOf_zero hb, ok_bind, hv,
    Enumeration.ofValue_value, hq, drop_bytesOf_succ]
  rfl

theorem singleValue_codes (value : SingleValue) (q : IndicationQuality) :
    Codes (encodeValueInQuality .INDICATION value q) (decodeValueInQuality 1 .INDICATION)
      (value, q) := by
  obtain ⟨i, n, s, b⟩ := q
  have hlt : Enumeration.value value < 2 := by cases value <;> decide
  obtain ⟨hb, _, hv, hq⟩ := indication_spec i n s b (Enumeration.value value) (by omega)
  refine codes_valueInQuality hb (hv.trans ?_) hq
  cases value <;> rfl

theorem doubleValue_codes (value : DoubleValue) (q : IndicationQuality) :
    Codes (encodeValueInQuality .INDICATION value q) (decodeValueInQuality 3 .INDICATION)
      (value, q) := by
  obtain ⟨i, n, s, b⟩ := q
  obtain ⟨hb, hv, _, hq⟩ := indication_spec i n s b (Enumeration.value value)
    (by cases value <;> decide)
  exact codes_valueInQuality hb hv hq

theorem protectionValue_codes (value : ProtectionValue) (q : ProtectionQuality) :
    Codes (encodeValueInQuality .PROTECTION value q) (decodeValueInQuality 3 .PROTECTION)
      (value, q) := by
  obtain ⟨i, n, s, b, t⟩ := q
  obtain ⟨hb, hv, hq⟩ := protection_spec i n s b t (Enumeration.value value)
    (by cases value <;> decide)
  exact codes_valueInQuality hb hv hq

/-! ### Commands -/

/-- A command is read back if its value survives in the bits of `mask`. -/
theorem encodeCommand_codes {ν : Type} [Enumeration ν] {mask : ℕ} {value : ν} {select : Bool}
    {qualifier : ℕ} (hlt : Enumeration.value value < 4)
    (hmask : mask = 3 ∨ mask = 1 ∧ Enumeration.value value < 2) (hq : qualifier ≤ 31) :
    Codes (encodeCommand value select qualifier) (decodeCommand mask)
      (value, select, qualifier) := by
  obtain ⟨hb, h3, h1, hs, hqual⟩ := commandByte_spec _ hlt select qualifier (by omega)
  have hv : commandByte (Enumeration.value value) select qualifier &&& mask =
      Enumeration.value value := by
    rcases hmask with rfl | ⟨rfl, hlt⟩
    · exact h3
    · rw [h1, Nat.and_one_is_mod]
      omega
  refine ⟨[commandByte (Enumeration.value value) select qualifier], rfl, by simpa using hb,
    fun rest => ?_⟩
  simp only [decodeCommand, byteAt_bytesOf_zero hb, ok_bind, hv, Enumeration.ofValue_value, hs,
    hqual, drop_bytesOf_succ]
  rfl

/-! ### Values -/

structure StepPositionValue.Valid (v : StepPositionValue) : Prop where
  ge : -64 ≤ v.value
  le : v.value ≤ 63

theorem encodeStepPositionValue_codes {v : StepPositionValue} (h : v.Valid) :
    Codes (encodeStepPositionValue v) decodeStepPositionValue v := by
  obtain ⟨value, transient⟩ := v
  obtain ⟨hlo, hhi⟩ := h
  simp only at hlo hhi
  obtain ⟨hb, htr, hneg, hx⟩ := stepByte_spec transient (value % 128).toNat (by omega)
  refine ⟨_, rfl, by simpa using hb, fun rest => ?_⟩
  simp only [decodeStepPositionValue, byteAt_bytesOf_zero hb, ok_bind, htr, hneg, hx,
    drop_bytesOf_succ]
  have hval : (if decide (64 ≤ (value % 128).toNat) then ((value % 128).toNat : ℤ) - 128
      else ((value % 128).toNat : ℤ)) = value := by
    split <;> simp_all <;> omega
  rw [hval]
  rfl

/-- A bitstring is encoded as four bytes. -/
structure BitstringValue.Valid (v : BitstringValue) : Prop where
  length_eq : v.value.length = 4

theorem encodeBitstringValue_codes {v : BitstringValue} (h : v.Valid) :
    Codes (encodeBitstringValue v) decodeBitstringValue v := by
  obtain ⟨value⟩ := v
  match value, h.length_eq with
  | [a, b, c, d], _ =>
    refine ⟨[a.toNat, b.toNat, c.toNat, d.toNat], rfl, ?_, fun rest => ?_⟩
    · exact allBytes_map_toNat [a, b, c, d]
    · have hbytes : bytesOf [a.toNat, b.toNat, c.toNat, d.toNat] = [a, b, c, d] :=
        bytesOf_map_toNat [a, b, c, d]
      rw [hbytes]
      rfl

/-- A value packed by `packInt` and unpacked by a reader that converts it. -/
private theorem codes_packInt {α : Type} {size : ℕ} {x : ℤ} {f : ℤ → α} {a : α}
    (hlo : -(256 ^ size / 2) ≤ x) (hhi : x < 256 ^ size / 2) (hf : f x = a) :
    Codes (packInt size x)
      (fun bs => do let value ← unpackInt size (bs.take size); return (f value, bs.drop size))
        a := by
  obtain ⟨ns, hns⟩ : ∃ ns, packInt size x = .ok ns := ⟨_, packInt_eq_ok.mpr ⟨⟨hlo, hhi⟩, rfl⟩⟩
  refine ⟨ns, hns, allBytes_of_packInt hns, fun rest => ?_⟩
  simp [unpackInt_of_packInt hns rest, hf, drop_bytesOf_append (length_of_packInt hns)]

/-- A value `k / 32767` of a 16-bit integer `k`. -/
structure NormalizedValue.Valid (v : NormalizedValue) : Prop where
  exists_eq : ∃ k : ℤ, -32768 ≤ k ∧ k ≤ 32767 ∧ v.value = k / 32767

theorem encodeNormalizedValue_codes {v : NormalizedValue} (h : v.Valid) :
    Codes (encodeNormalizedValue v) decodeNormalizedValue v := by
  obtain ⟨value⟩ := v
  obtain ⟨k, hlo, hhi, hk⟩ := h.exists_eq
  simp only at hk
  have hround : roundHalfEven (value * 0x7FFF) = k := by
    rw [hk, div_mul_cancel₀ _ (by norm_num), roundHalfEven_intCast]
  rw [encodeNormalizedValue, hround]
  exact codes_packInt (f := fun value => (⟨value / 0x7FFF⟩ : NormalizedValue)) (by norm_num; omega)
    (by norm_num; omega) (by rw [hk])

structure ScaledValue.Valid (v : ScaledValue) : Prop where
  ge : -32768 ≤ v.value
  le : v.value ≤ 32767

theorem encodeScaledValue_codes {v : ScaledValue} (h : v.Valid) :
    Codes (encodeScaledValue v) decodeScaledValue v := by
  obtain ⟨hlo, hhi⟩ := h
  exact codes_packInt (f := ScaledValue.mk) (by norm_num; omega) (by norm_num; omega) rfl

structure BinaryCounterValue.Valid (v : BinaryCounterValue) : Prop where
  ge : -2147483648 ≤ v.value
  le : v.value ≤ 2147483647

theorem encodeBinaryCounterValue_codes {v : BinaryCounterValue} (h : v.Valid) :
    Codes (encodeBinaryCounterValue v) decodeBinaryCounterValue v := by
  obtain ⟨hlo, hhi⟩ := h
  exact codes_packInt (f := BinaryCounterValue.mk) (by norm_num; omega) (by norm_num; omega) rfl

theorem encodeFloatingValue_codes (v : FloatingValue) :
    Codes (encodeFloatingValue v) decodeFloatingValue v := by
  refine ⟨packFloat v.value, rfl, by simp [packFloat], fun rest => ?_⟩
  simp only [decodeFloatingValue, unpackFloat_packFloat, ok_bind,
    drop_bytesOf_append (length_packFloat v.value)]
  rfl

theorem encodeProtectionStartValue_codes (v : ProtectionStartValue) :
    Codes (encodeProtectionStartValue v) decodeProtectionStartValue v := by
  obtain ⟨general, l1, l2, l3, ie, reverse⟩ := v
  obtain ⟨b, hb, hw, h1, h2, h3, h4, h5, h6⟩ := startByte_spec general l1 l2 l3 ie reverse
  rw [hw]
  exact codes_byte (f := fun b => (⟨bit b 0x01, bit b 0x02, bit b 0x04, bit b 0x08, bit b 0x10,
    bit b 0x20⟩ : ProtectionStartValue)) hb (by simp [h1, h2, h3, h4, h5, h6])

theorem encodeProtectionCommandValue_codes (v : ProtectionCommandValue) :
    Codes (encodeProtectionCommandValue v) decodeProtectionCommandValue v := by
  obtain ⟨general, l1, l2, l3⟩ := v
  obtain ⟨b, hb, hw, h1, h2, h3, h4⟩ := commandValueByte_spec general l1 l2 l3
  rw [hw]
  exact codes_byte (f := fun b => (⟨bit b 0x01, bit b 0x02, bit b 0x04, bit b 0x08⟩ :
    ProtectionCommandValue)) hb (by simp [h1, h2, h3, h4])

structure StatusValue.Valid (v : StatusValue) : Prop where
  value_length : v.value.length = 16
  change_length : v.change.length = 16

private theorem decodeFlags_bytes {lo hi : ℕ} (hlo : lo < 256) (hhi : hi < 256) (pre : List ℕ)
    (rest : Bytes) : decodeFlags (bytesOf pre ++ (bytesOf [lo, hi] ++ rest)) pre.length =
      .ok (byteFlags lo ++ byteFlags hi) := by
  have hbyte : ∀ i, byteAt (bytesOf pre ++ (bytesOf [lo, hi] ++ rest)) (pre.length + i) =
      byteAt (bytesOf [lo, hi] ++ rest) i := by
    intro i
    simp [byteAt, List.getElem?_append_right]
  simp only [decodeFlags, hbyte]
  simp [byteFlags, List.range, List.range.loop, byteAt_bytesOf_zero, hlo, hhi]

/-- Sixteen flags are written as two bytes and read back. -/
private theorem encodeFlags_spec {flags : List Bool} (h : flags.length = 16) :
    ∃ lo < 256, ∃ hi < 256, encodeFlagsByte flags 0 = .ok lo ∧ encodeFlagsByte flags 1 = .ok hi ∧
      byteFlags lo ++ byteFlags hi = flags := by
  match flags, h with
  | [b0, b1, b2, b3, b4, b5, b6, b7, c0, c1, c2, c3, c4, c5, c6, c7], _ =>
    obtain ⟨hb, hbits⟩ := flagsByte_spec b0 b1 b2 b3 b4 b5 b6 b7
    obtain ⟨hc, hcits⟩ := flagsByte_spec c0 c1 c2 c3 c4 c5 c6 c7
    exact ⟨_, hb, _, hc, rfl, rfl, by rw [hbits, hcits]; rfl⟩

theorem encodeStatusValue_codes {v : StatusValue} (h : v.Valid) :
    Codes (encodeStatusValue v) decodeStatusValue v := by
  obtain ⟨value, change⟩ := v
  obtain ⟨v0, hv0, v1, hv1, hw0, hw1, hv⟩ := encodeFlags_spec h.1
  obtain ⟨c0, hc0, c1, hc1, hx0, hx1, hc⟩ := encodeFlags_spec h.2
  refine ⟨[v0, v1, c0, c1], by simp [encodeStatusValue, hw0, hw1, hx0, hx1],
    by simp [hv0, hv1, hc0, hc1], fun rest => ?_⟩
  have hval := decodeFlags_bytes hv0 hv1 [] (bytesOf [c0, c1] ++ rest)
  have hchg := decodeFlags_bytes hc0 hc1 [v0, v1] rest
  rw [hv] at hval
  rw [hc] at hchg
  have hsplit : bytesOf [v0, v1, c0, c1] ++ rest =
      bytesOf [v0, v1] ++ (bytesOf [c0, c1] ++ rest) := rfl
  simp only [decodeStatusValue, hsplit]
  rw [show decodeFlags (bytesOf [v0, v1] ++ (bytesOf [c0, c1] ++ rest)) 0 = .ok value from hval,
    show decodeFlags (bytesOf [v0, v1] ++ (bytesOf [c0, c1] ++ rest)) 2 = .ok change from hchg]
  rfl

end HatDrivers.Iec60870.Encodings.Iec101
