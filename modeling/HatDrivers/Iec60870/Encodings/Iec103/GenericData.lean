import HatDrivers.Iec60870.Encodings.Iec103.RoundTrip

namespace HatDrivers.Iec60870.Encodings.Iec103

open HatDrivers.Lib

/-!
# IEC 60870-5-103 — generic data

`Value.WellFormed` says which arrays there are, at any depth, and `Value.Carried` which of them
survive.  `value_readBack` goes over the values, one that holds others by those it holds;
`genericData_roundTrips_iff` is about the ASDUs.
-/

/-- The documented range of a value; the elements of an array are of its type, and take the same
number of bytes. -/
def Value.WellFormed : Value → Prop
  | .BitstringValue value => value.length % 8 = 0
  | .UFixedValue value => 0 ≤ value ∧ value ≤ 1
  | .FixedValue value => -1 ≤ value ∧ value < 1
  | .MeasurandValue value => value.InRange
  | .TimeValue value => TimeOf .SEVEN value
  | .IdentificationValue value => value.InRange
  | .RelativeTimeValue value => value ≤ 65535
  | .IoAddressValue value => value.InRange
  | .DoubleWithTimeValue value => value.InRange
  | .DoubleWithRelativeTimeValue value => value.InRange
  | .MeasurandWithRelativeTimeValue value => value.InRange
  | .ArrayValue valueType _ values =>
    values.length ≤ 127 ∧ (∀ v ∈ values, getValueType v = valueType) ∧
      (∀ v ∈ values, ∀ w ∈ values, getValueMinSize v = getValueMinSize w) ∧
      ∀ v ∈ values, v.WellFormed
  | _ => True

/-- No number of an unsigned fixed-point format, every other one on its grid, and no array with
elements too large for its size byte. -/
def Value.Carried : Value → Prop
  | .UFixedValue _ => False
  | .FixedValue value => OnGrid 15 value
  | .MeasurandValue value => OnGrid 12 value.value
  | .ArrayValue valueType _ values => arraySize valueType values ≤ 255 ∧ ∀ v ∈ values, v.Carried
  | _ => True

/-! ### Integers -/

theorem natAbs_lt_two_pow_bitLength (x : ℤ) : x.natAbs < 2 ^ bitLength x := Nat.lt_size_self _

/-- An unsigned integer fits in the bytes of its size. -/
theorem lt_of_bitLength (x : ℕ) : x < 256 ^ ((bitLength x + 7) / 8) := by
  have hlt := natAbs_lt_two_pow_bitLength x
  rw [Int.natAbs_natCast] at hlt
  apply lt_of_lt_of_le hlt
  rw [show (256 : ℕ) = 2 ^ 8 from rfl, ← pow_mul]
  apply Nat.pow_le_pow_right <;> omega

/-- A signed integer fits in the bytes of its size, with room for its sign. -/
theorem mem_of_bitLength (x : ℤ) : ∃ n, (bitLength x + 8) / 8 = n + 1 ∧
    -(128 * 256 ^ n) ≤ x ∧ x < 128 * 256 ^ n := by
  refine ⟨bitLength x / 8, by omega, ?_⟩
  have hlt := natAbs_lt_two_pow_bitLength x
  have hpow : 2 ^ bitLength x ≤ 128 * 256 ^ (bitLength x / 8) := by
    rw [show (256 : ℕ) = 2 ^ 8 from rfl, show (128 : ℕ) = 2 ^ 7 from rfl, ← pow_mul, ← pow_add]
    apply Nat.pow_le_pow_right <;> omega
  have hle : (x.natAbs : ℤ) ≤ 128 * 256 ^ (bitLength x / 8) := by
    exact_mod_cast (hlt.trans_le hpow).le
  have hlt' : (x.natAbs : ℤ) < 128 * 256 ^ (bitLength x / 8) := by exact_mod_cast hlt.trans_le hpow
  omega

/-- The last byte is the most significant one. -/
theorem getLast?_leDigits (n x : ℕ) :
    (bytesOf (leDigits (n + 1) x)).getLast? = some (UInt8.ofNat (x / 256 ^ n % 256)) := by
  induction n generalizing x with
  | zero => simp [leDigits, bytesOf_cons]
  | succ n ih =>
    rw [leDigits, bytesOf_cons, List.getLast?_cons, ih, Option.getD_some, Nat.div_div_eq_div_mul,
      Nat.pow_succ, Nat.mul_comm 256]

/-- A signed integer is read back from the bytes of its two's complement. -/
theorem decodeIntValue_leDigits {n : ℕ} {x : ℤ} (hlo : -(128 * 256 ^ n) ≤ x)
    (hhi : x < 128 * 256 ^ n) :
    decodeIntValue (bytesOf (leDigits (n + 1) (x % 256 ^ (n + 1)).toNat)) = .ok x := by
  have hpow : (0 : ℤ) < 256 ^ (n + 1) := by positivity
  have hnonneg := Int.emod_nonneg x hpow.ne'
  have hcast : ((x % 256 ^ (n + 1)).toNat : ℤ) = x % 256 ^ (n + 1) := Int.toNat_of_nonneg hnonneg
  have hlt : (x % 256 ^ (n + 1)).toNat < 256 ^ (n + 1) := by
    zify
    rw [hcast]
    exact Int.emod_lt_of_pos x hpow
  have htop : (x % 256 ^ (n + 1)).toNat / 256 ^ n < 256 := by
    rw [Nat.div_lt_iff_lt_mul (by positivity), ← Nat.pow_succ']
    exact hlt
  have hbit : bit ((x % 256 ^ (n + 1)).toNat / 256 ^ n) 0x80 =
      decide (128 * 256 ^ n ≤ (x % 256 ^ (n + 1)).toNat) := by
    have hdecide := and_two_pow_ne_zero (n := 7) htop
    have hiff := Nat.le_div_iff_mul_le (k := 256 ^ n) (x := 128)
      (y := (x % 256 ^ (n + 1)).toNat) (by positivity)
    rw [bit]
    refine hdecide.trans ?_
    rw [decide_eq_decide]
    exact hiff
  rw [decodeIntValue, getLast?_leDigits, Nat.mod_eq_of_lt htop]
  simp only [toNat_ofNat_of_lt htop, hbit, intFromBytes, ofLE_leDigits_of_lt hlt, length_bytesOf,
    length_leDigits, hcast]
  have hsplit : (256 : ℤ) ^ (n + 1) = 256 * 256 ^ n := by rw [pow_succ]; ring
  by_cases hneg : x < 0
  · have hval : x % 256 ^ (n + 1) = x + 256 ^ (n + 1) := by
      rw [← Int.add_emod_right, Int.emod_eq_of_lt] <;> omega
    have hle : 128 * 256 ^ n ≤ (x % 256 ^ (n + 1)).toNat := by
      zify
      rw [hcast]
      omega
    rw [if_pos (decide_eq_true hle), hval]
    congr 1
    omega
  · have hval : x % 256 ^ (n + 1) = x := Int.emod_eq_of_lt (by omega) (by omega)
    have hle : ¬ 128 * 256 ^ n ≤ (x % 256 ^ (n + 1)).toNat := by
      zify
      rw [hcast]
      omega
    rw [if_neg (by simpa using hle), hval]

/-! ### Bit strings -/

set_option maxRecDepth 4000 in
private theorem bitstringByte_spec : ∀ b0 b1 b2 b3 b4 b5 b6 b7 : Bool,
    bitstringByte [b0, b1, b2, b3, b4, b5, b6, b7] 0 < 256 ∧
      byteBits (UInt8.ofNat (bitstringByte [b0, b1, b2, b3, b4, b5, b6, b7] 0)) =
        [b0, b1, b2, b3, b4, b5, b6, b7] := by
  decide

/-- Byte `i` holds the bits from `8 * i` on. -/
theorem bitstringByte_drop (value : List Bool) (i : ℕ) :
    bitstringByte value (i + 1) = bitstringByte (value.drop 8) i := by
  have hget : ∀ j, value.getD ((i + 1) * 8 + j) false = (value.drop 8).getD (i * 8 + j) false := by
    intro j
    rw [List.getD_eq_getElem?_getD, List.getD_eq_getElem?_getD, List.getElem?_drop]
    congr 2
    omega
  simp only [bitstringByte, hget]

private theorem exists_eight {l : List Bool} (h : 8 ≤ l.length) : ∃ b0 b1 b2 b3 b4 b5 b6 b7 rest,
    l = b0 :: b1 :: b2 :: b3 :: b4 :: b5 :: b6 :: b7 :: rest := by
  rcases l with _ | ⟨b0, _ | ⟨b1, _ | ⟨b2, _ | ⟨b3, _ | ⟨b4, _ | ⟨b5, _ | ⟨b6, _ | ⟨b7, rest⟩⟩⟩⟩⟩⟩⟩⟩
  all_goals
    first
    | exact ⟨_, _, _, _, _, _, _, _, _, rfl⟩
    | simp only [List.length_nil, List.length_cons] at h
      omega

/-- A bit string of whole bytes is read back from them. -/
theorem bitstring_readBack (size : ℕ) {value : List Bool} (h : value.length = 8 * size) :
    AllBytes ((List.range size).map (bitstringByte value)) ∧
      (bytesOf ((List.range size).map (bitstringByte value))).flatMap byteBits = value := by
  induction size generalizing value with
  | zero => simpa [eq_comm] using h
  | succ size ih =>
    obtain ⟨hb, hbits⟩ := ih
      (show (value.drop 8).length = 8 * size by rw [List.length_drop]; omega)
    have hrange : (List.range (size + 1)).map (bitstringByte value) =
        bitstringByte value 0 :: (List.range size).map (bitstringByte (value.drop 8)) := by
      simp only [List.range_succ_eq_map, List.map_cons, List.map_map]
      congr 2
      funext i
      exact bitstringByte_drop value i
    obtain ⟨b0, b1, b2, b3, b4, b5, b6, b7, rest, rfl⟩ := exists_eight (l := value) (by omega)
    -- the first byte only depends on the first eight bits
    have hfirst : bitstringByte (b0 :: b1 :: b2 :: b3 :: b4 :: b5 :: b6 :: b7 :: rest) 0 =
        bitstringByte [b0, b1, b2, b3, b4, b5, b6, b7] 0 := rfl
    obtain ⟨hlt, hbyte⟩ := bitstringByte_spec b0 b1 b2 b3 b4 b5 b6 b7
    rw [hrange, hfirst, bytesOf_cons, List.flatMap_cons, hbits, hbyte]
    exact ⟨allBytes_cons.mpr ⟨hlt, hb⟩, rfl⟩

/-! ### Values of a scalar type -/

/-- A value is read back, off the bytes of its own size, if and only if it is carried. -/
structure ReadBack (v : Value) : Prop where
  codes : v.Carried → ∃ ns rest, encodeValue v none = .ok ns ∧ AllBytes ns ∧
    decodeValue (getValueType v) (bytesOf ns) = .ok (v, rest)
  loses : ¬ v.Carried → ∀ ns, encodeValue v none = .ok ns → AllBytes ns →
    ∀ rest, decodeValue (getValueType v) (bytesOf ns) ≠ .ok (v, rest)
  length_eq : ∀ ns, encodeValue v none = .ok ns → ns.length = getValueMinSize v

/-- A value that is always read back. -/
theorem ReadBack.of_ok {v : Value} (ns : List ℕ) (hc : v.Carried)
    (hw : encodeValue v none = .ok ns) (hb : AllBytes ns) (hlen : ns.length = getValueMinSize v)
    (hr : decodeValue (getValueType v) (bytesOf ns) = .ok (v, [])) : ReadBack v where
  codes := fun _ => ⟨ns, [], hw, hb, hr⟩
  loses := fun hn => absurd hc hn
  length_eq := by
    intro ns' hns'
    obtain rfl : ns = ns' := Except.ok.inj (hw.symm.trans hns')
    exact hlen

/-- A value with a reader of its own. -/
theorem ReadBack.of_codesIn {α : Type} {v : Value} {a : α} {f : α → Value} {r : ByteReader Exn α}
    (hc : v.Carried) (h : CodesIn (getValueMinSize v) (encodeValue v none) r a) (hv : f a = v)
    (hr : decodeValue (getValueType v) = mapRead f r) : ReadBack v := by
  obtain ⟨ns, hw, hb, hlen, hread⟩ := h
  refine ReadBack.of_ok ns hc hw hb hlen ?_
  rw [hr, (hread.map f).all, hv]

section

attribute [local simp] encodeValue encodedSize getValueMinSize zeros getValueType Value.Carried
  decodeValue

/-- An unsigned integer, in the bytes of its size. -/
theorem intToBytes_bitLength (x : ℕ) :
    intToBytes x ((bitLength x + 7) / 8) = .ok (leDigits ((bitLength x + 7) / 8) x) :=
  intToBytes_of_lt (lt_of_bitLength x)

theorem intFromBytes_bitLength (x : ℕ) :
    intFromBytes (bytesOf (leDigits ((bitLength x + 7) / 8) x)) = x :=
  ofLE_leDigits_of_lt (lt_of_bitLength x)

theorem readBack_FixedValue {value : ℚ} (h : -1 ≤ value ∧ value < 1) :
    ReadBack (.FixedValue value) := by
  obtain ⟨ns, hw, hb, hlen, hr⟩ := encodeFixed_two h
  have hencode : encodeValue (.FixedValue value) none = .ok ns := by simpa using hw
  have hread : decodeValue .FIXED (bytesOf ns) =
      .ok (.FixedValue (truncate (value * 2 ^ 15) / 2 ^ 15), []) := by
    have hr := hr []
    rw [List.append_nil] at hr
    simp [hlen, hr]
  refine ⟨fun hc => ⟨ns, [], hencode, hb, ?_⟩, ?_, ?_⟩
  · have hgrid := truncate_div_eq_iff.mpr (show OnGrid 15 value by simpa using hc)
    rw [hgrid] at hread
    exact hread
  · intro hc ns' hns' _ rest hread'
    obtain rfl : ns = ns' := Except.ok.inj (hencode.symm.trans hns')
    have heq := Except.ok.inj (hread.symm.trans hread')
    simp only [Prod.mk.injEq, Value.FixedValue.injEq] at heq
    exact hc (by simpa using truncate_div_eq_iff.mp heq.1)
  · intro ns' hns'
    obtain rfl : ns = ns' := Except.ok.inj (hencode.symm.trans hns')
    simpa using hlen

/-- The class that is read is never that of an unsigned number. -/
theorem readBack_UFixedValue (value : ℚ) : ReadBack (.UFixedValue value) := by
  refine ⟨fun hc => (by simp at hc), ?_, ?_⟩
  · intro _ ns _ _ rest hread
    simp only [getValueType, decodeValue] at hread
    obtain ⟨x, _, hread⟩ := bind_eq_ok.mp hread
    cases hread
  · intro ns hns
    have hw : encodeFixed value 0 16 false = .ok ns := by simpa using hns
    exact length_of_encodeFixed hw

theorem readBack_MeasurandValue {v : MeasurandValue} (h : v.InRange) :
    ReadBack (.MeasurandValue v) := by
  obtain ⟨ns, hencode, hb, hlen, hr⟩ := encodeMeasurand_two h
  have hread : decodeValue .MEASURAND (bytesOf ns) =
      .ok (.MeasurandValue { v with value := truncate (v.value * 2 ^ 12) / 2 ^ 12 }, []) := by
    rw [decodeValue]
    exact (hr.map Value.MeasurandValue).all
  refine ⟨fun hc => ⟨ns, [], hencode, hb, ?_⟩, ?_, ?_⟩
  · have hgrid := truncate_div_eq_iff.mpr (show OnGrid 12 v.value by simpa using hc)
    rw [hgrid] at hread
    exact hread
  · intro hc ns' hns' _ rest hread'
    obtain rfl : ns = ns' := Except.ok.inj (hencode.symm.trans hns')
    have heq := Except.ok.inj (hread.symm.trans hread')
    simp only [Prod.mk.injEq, Value.MeasurandValue.injEq] at heq
    have hvalue := congrArg MeasurandValue.value heq.1
    exact hc (by simpa using truncate_div_eq_iff.mp hvalue)
  · intro ns' hns'
    obtain rfl : ns = ns' := Except.ok.inj (hencode.symm.trans hns')
    simpa using hlen

theorem readBack_BitstringValue {value : List Bool} (h : value.length % 8 = 0) :
    ReadBack (.BitstringValue value) := by
  have hsize : byteCount value.length = value.length / 8 := by
    unfold byteCount
    omega
  obtain ⟨hb, hr⟩ := bitstring_readBack (value.length / 8)
    (show value.length = 8 * (value.length / 8) by omega)
  refine ReadBack.of_ok ((List.range (value.length / 8)).map (bitstringByte value)) (by simp)
    (by simp [hsize]) hb (by simp [hsize]) ?_
  simp [hr]

theorem readBack_IntValue (value : ℤ) : ReadBack (.IntValue value) := by
  obtain ⟨n, hsize, hlo, hhi⟩ := mem_of_bitLength value
  have hpow : (0 : ℤ) < 256 ^ (n + 1) := by positivity
  have hlt : (value % 256 ^ (n + 1)).toNat < 256 ^ (n + 1) := by
    zify
    rw [Int.toNat_of_nonneg (Int.emod_nonneg value hpow.ne')]
    exact Int.emod_lt_of_pos value hpow
  refine ReadBack.of_ok (leDigits (n + 1) (value % 256 ^ (n + 1)).toNat) (by simp)
    ?_ (allBytes_leDigits _ _) (by simp [hsize]) ?_
  · simp only [encodeValue, encodedSize, getValueMinSize, hsize, ok_bind]
    exact intToBytes_of_lt hlt
  · simp [decodeIntValue_leDigits hlo hhi]

theorem readBack_NoneValue : ReadBack .NoneValue :=
  ReadBack.of_ok [] (by simp) (by simp) allBytes_nil rfl
    (by simp)

theorem readBack_TextValue (value : Bytes) : ReadBack (.TextValue value) :=
  ReadBack.of_ok (value.map UInt8.toNat) (by simp) (by simp)
    (allBytes_map_toNat value) (by simp) (by simp)

theorem readBack_UIntValue (value : ℕ) : ReadBack (.UIntValue value) :=
  ReadBack.of_ok (leDigits ((bitLength value + 7) / 8) value) (by simp)
    (by simp [intToBytes_bitLength]) (allBytes_leDigits _ value) (by simp)
    (by simp [intFromBytes_bitLength])

theorem readBack_TextNumberValue (value : ℕ) : ReadBack (.TextNumberValue value) :=
  ReadBack.of_ok (leDigits ((bitLength value + 7) / 8) value) (by simp)
    (by simp [intToBytes_bitLength]) (allBytes_leDigits _ value) (by simp)
    (by simp [intFromBytes_bitLength])

theorem readBack_IndexValue (value : ℕ) : ReadBack (.IndexValue value) :=
  ReadBack.of_ok (leDigits ((bitLength value + 7) / 8) value) (by simp)
    (by simp [intToBytes_bitLength]) (allBytes_leDigits _ value) (by simp)
    (by simp [intFromBytes_bitLength])

theorem readBack_RelativeTimeValue {value : ℕ} (h : value ≤ 65535) :
    ReadBack (.RelativeTimeValue value) := by
  have hlt : value < 256 ^ 2 := Nat.lt_succ_of_le h
  have htake : (bytesOf (leDigits 2 value)).take 2 = bytesOf (leDigits 2 value) :=
    List.take_of_length_le (by simp)
  refine ReadBack.of_ok (leDigits 2 value) (by simp) ?_ (allBytes_leDigits _ _)
    (by simp) ?_
  · simp [intToBytes_of_lt hlt]
  · simp [intFromBytes, ofLE_leDigits_of_lt hlt, htake]

theorem readBack_Real64Value (value : BitVec 64) : ReadBack (.Real64Value value) := by
  have hlen : (leDigits 8 value.toNat).length = 8 := length_leDigits _ _
  have htake : (bytesOf (leDigits 8 value.toNat)).take 8 = bytesOf (leDigits 8 value.toNat) :=
    List.take_of_length_le (by simp)
  have hdouble : unpackDouble (bytesOf (leDigits 8 value.toNat)) = .ok value := by
    rw [unpackDouble, if_pos (by simp), ofLE_leDigits_of_lt (by simpa using value.isLt)]
    simp
  refine ReadBack.of_ok (leDigits 8 value.toNat) (by simp) ?_
    (allBytes_leDigits _ _) (by simp) ?_
  · simp [packDouble]
  · simp [htake, hdouble]

theorem readBack_TimeValue {value : Time} (h : TimeOf .SEVEN value) :
    ReadBack (.TimeValue value) := by
  obtain ⟨ns, hw, hb, hlen, hr⟩ := encodeTime_of h
  change ns.length = 7 at hlen
  refine ReadBack.of_ok ns (by simp) ?_ hb (by simpa using hlen) ?_
  · simp [hw]
  · simp [hr, hlen]

theorem readBack_Real32Value (value : Real32Value) : ReadBack (.Real32Value value) :=
  ReadBack.of_codesIn (by simp) (encodeReal32_codes value) rfl (by funext data; simp [decodeValue])

end

/-! ### Arrays -/

/-- Reads a value off as many bytes, all of which it takes. -/
def sliceRead (size : ℕ) (r : Bytes → Except Exn (Value × Bytes)) : ByteReader Exn Value :=
  fun data => do
    let (value, _) ← r (data.take size)
    return (value, data.drop size)

theorem decodeValues_eq (dataType : ValueType) (byteSize number : ℕ) :
    decodeValues dataType byteSize number =
      readN (sliceRead byteSize (decodeValue dataType)) number := by
  induction number with
  | zero =>
    funext data
    rw [decodeValues]
    rfl
  | succ number ih =>
    funext data
    rw [decodeValues, readN_succ, ih]
    simp [sliceRead]

theorem encodeValues_eq (values : List Value) (size : ℕ) :
    encodeValues values size = writeAll (fun v => encodeValue v (some size)) values := by
  induction values with
  | nil => rfl
  | cons v values ih =>
    rw [encodeValues, ih]
    rfl

theorem encodeValue_some (v : Value) :
    encodeValue v (some (getValueMinSize v)) = encodeValue v none := by
  unfold encodeValue
  have hsize : encodedSize (getValueMinSize v) (some (getValueMinSize v)) =
      encodedSize (getValueMinSize v) none := by
    simp [encodedSize]
  rw [hsize]

/-- The value is all there is in a slice of its size. -/
theorem ReadBack.codesIff {v : Value} (h : ReadBack v) :
    CodesIff v.Carried (encodeValue v none)
      (sliceRead (getValueMinSize v) (decodeValue (getValueType v))) v where
  codes := by
    intro hc
    obtain ⟨ns, rest, hw, hb, hr⟩ := h.codes hc
    have hlen := h.length_eq ns hw
    refine ⟨ns, hw, hb, fun after => ?_⟩
    simp [sliceRead, take_bytesOf_append hlen, drop_bytesOf_append hlen, hr]
  loses := by
    intro hc ns hw hb after after' hread
    have hlen := h.length_eq ns hw
    simp only [sliceRead, take_bytesOf_append hlen] at hread
    obtain ⟨⟨v', rest⟩, hr, hread⟩ := bind_eq_ok.mp hread
    cases hread
    exact h.loses hc ns hw hb rest hr

variable {t : ValueType} {values : List Value} {size : ℕ}

/-- Elements of one size have it as the greatest. -/
theorem getValuesMinSize_eq (h : ∀ v ∈ values, getValueMinSize v = size) (hne : values ≠ []) :
    getValuesMinSize values = size := by
  induction values with
  | nil => exact absurd rfl hne
  | cons v values ih =>
    have hv := h v (by simp)
    rw [getValuesMinSize, hv]
    by_cases hnil : values = []
    · rw [hnil, getValuesMinSize, Nat.max_zero]
    · rw [ih (fun w hw => h w (by simp [hw])) hnil, Nat.max_self]

/-- So do bit strings of one length. -/
theorem foldr_bitCount_eq (h : ∀ v ∈ values, bitCount v = size) (hne : values ≠ []) :
    (values.map bitCount).foldr max 0 = size := by
  induction values with
  | nil => exact absurd rfl hne
  | cons v values ih =>
    have hv := h v (by simp)
    rw [List.map_cons, List.foldr_cons, hv]
    by_cases hnil : values = []
    · rw [hnil, List.map_nil, List.foldr_nil, Nat.max_zero]
    · rw [ih (fun w hw => h w (by simp [hw])) hnil, Nat.max_self]

/-- The size byte says how many bytes every element takes. -/
theorem byteSize_eq (htype : ∀ v ∈ values, getValueType v = t)
    (hwf : ∀ v ∈ values, v.WellFormed) (hsize : ∀ v ∈ values, getValueMinSize v = size)
    (hne : values ≠ []) :
    (if t = .BITSTRING then byteCount (arraySize t values) else arraySize t values) = size := by
  by_cases hbits : t = .BITSTRING
  · have hcount : ∀ v ∈ values, bitCount v = 8 * size := by
      intro v hv
      have hvt := htype v hv
      have hvw := hwf v hv
      have hvs := hsize v hv
      rw [hbits] at hvt
      cases v with
      | BitstringValue value =>
        simp only [Value.WellFormed] at hvw
        simp only [getValueMinSize, byteCount] at hvs
        simp only [bitCount]
        omega
      | _ => simp [getValueType] at hvt
    rw [if_pos hbits, arraySize, if_neg (not_not.mpr hbits),
      foldr_bitCount_eq hcount hne, byteCount]
    omega
  · rw [if_neg hbits, arraySize, if_pos hbits, getValuesMinSize_eq hsize hne]

set_option maxRecDepth 4000 in
private theorem countByte_spec : ∀ moreFollows : Bool, ∀ n < 128,
    ((if moreFollows then 0x80 else 0x00) ||| (n &&& 0x7F)) < 256 ∧
      ((if moreFollows then 0x80 else 0x00) ||| (n &&& 0x7F)) &&& 0x7F = n ∧
      bit ((if moreFollows then 0x80 else 0x00) ||| (n &&& 0x7F)) 0x80 = moreFollows := by
  decide +kernel

theorem ValueType.value_lt (t : ValueType) : t.value < 256 := by cases t <;> decide

/-- The elements of an array are read back if and only if each of them is. -/
theorem encodeValues_codesIff (htype : ∀ v ∈ values, getValueType v = t)
    (hsize : ∀ v ∈ values, getValueMinSize v = size) (h : ∀ v ∈ values, ReadBack v) :
    CodesIff (∀ v ∈ values, v.Carried) (encodeValues values size)
      (decodeValues t size values.length) values := by
  rw [encodeValues_eq, decodeValues_eq]
  apply CodesIff.writeAll
  intro v hv
  have hcodes := (h v hv).codesIff
  rw [htype v hv, hsize v hv, ← encodeValue_some, hsize v hv] at hcodes
  exact hcodes

/-- The bytes of an array are those of its header and of its elements. -/
theorem encodeArray_eq (moreFollows : Bool) (htype : ∀ v ∈ values, getValueType v = t) :
    encodeValue (.ArrayValue t moreFollows values) none = (do
      let elements ← encodeValues values (getValuesMinSize values)
      return [t.value, arraySize t values,
        (if moreFollows then 0x80 else 0x00) ||| (values.length &&& 0x7F)] ++ elements) := by
  have hall : values.any (getValueType · ≠ t) = false := by
    rw [List.any_eq_false]
    intro v hv
    simp [htype v hv]
  rw [encodeValue]
  simp only [encodedSize, ok_bind, hall]
  rfl

/-- **An array is read back if and only if** its size byte holds the size of its elements, and
each of them is. -/
theorem array_codesIff (moreFollows : Bool) (hlen : values.length ≤ 127)
    (htype : ∀ v ∈ values, getValueType v = t) (hwf : ∀ v ∈ values, v.WellFormed)
    (hsize : ∀ v ∈ values, ∀ w ∈ values, getValueMinSize v = getValueMinSize w)
    (h : ∀ v ∈ values, ReadBack v) :
    CodesIff (Value.ArrayValue t moreFollows values).Carried
      (encodeValue (.ArrayValue t moreFollows values) none) decodeArray
      { valueType := t, moreFollows, values } := by
  have hsame : ∀ v ∈ values, getValueMinSize v = getValuesMinSize values := by
    intro v hv
    exact (getValuesMinSize_eq (fun w hw => hsize w hw v hv) (List.ne_nil_of_mem hv)).symm
  have helems := encodeValues_codesIff htype hsame h
  obtain ⟨hcount, hn, hmore⟩ := countByte_spec moreFollows values.length (by omega)
  have ht : Enumeration.ofValue t.value = .ok t := Enumeration.ofValue_value t
  -- without elements, the size of an element does not matter
  have hvalues : ∀ bs, decodeValues t
      (if t = .BITSTRING then byteCount (arraySize t values) else arraySize t values)
      values.length bs = decodeValues t (getValuesMinSize values) values.length bs := by
    intro bs
    by_cases hne : values = []
    · rw [hne]
      simp only [List.length_nil, decodeValues]
    · rw [byteSize_eq htype hwf hsame hne]
  have hread : ∀ (ns : List ℕ) (rest : Bytes), arraySize t values < 256 →
      decodeArray (bytesOf ([t.value, arraySize t values,
        (if moreFollows then 0x80 else 0x00) ||| (values.length &&& 0x7F)] ++ ns) ++ rest) = (do
          let p ← decodeValues t (getValuesMinSize values) values.length (bytesOf ns ++ rest)
          return ({ valueType := t, moreFollows, values := p.1 }, p.2)) := by
    intro ns rest hlt
    have hcons : bytesOf ([t.value, arraySize t values,
        (if moreFollows then 0x80 else 0x00) ||| (values.length &&& 0x7F)] ++ ns) ++ rest =
          UInt8.ofNat t.value :: (bytesOf (arraySize t values ::
            ((if moreFollows then 0x80 else 0x00) ||| (values.length &&& 0x7F)) :: ns) ++ rest) :=
      rfl
    rw [hcons, decodeArray]
    simp only [toNat_ofNat_of_lt t.value_lt, ht, ok_bind, byteAt_bytesOf_zero hlt,
      byteAt_bytesOf_succ, byteAt_bytesOf_zero hcount, hn, hmore, drop_bytesOf_succ,
      List.drop_zero, hvalues]
  constructor
  · intro hc
    rw [Value.Carried] at hc
    obtain ⟨es, hw, hb, hr⟩ := helems.codes hc.2
    have hlt : arraySize t values < 256 := Nat.lt_succ_of_le hc.1
    refine ⟨_, by rw [encodeArray_eq moreFollows htype, hw]; rfl, ?_, fun rest => ?_⟩
    · simp [t.value_lt, hlt, hcount, hb]
    · rw [hread es rest hlt, hr rest]
      rfl
  · intro hc ns hns hb rest rest' hdecode
    rw [encodeArray_eq moreFollows htype] at hns
    obtain ⟨es, hw, hns⟩ := bind_eq_ok.mp hns
    obtain rfl := Except.ok.inj hns
    simp only [allBytes_append, allBytes_cons] at hb
    have hlt : arraySize t values < 256 := hb.1.2.1
    rw [hread es rest hlt] at hdecode
    obtain ⟨⟨values', data⟩, hr, hdecode⟩ := bind_eq_ok.mp hdecode
    have hfields := Prod.mk.inj (Except.ok.inj hdecode)
    obtain rfl : values' = values := congrArg ArrayValue.values hfields.1
    rw [Value.Carried] at hc
    exact helems.loses (fun hall => hc ⟨Nat.le_of_lt_succ hlt, hall⟩) es hw hb.2 rest data hr

/-- An array is as long as the sizes of its elements say. -/
theorem length_of_encodeArray {moreFollows : Bool} (htype : ∀ v ∈ values, getValueType v = t)
    (hsize : ∀ v ∈ values, ∀ w ∈ values, getValueMinSize v = getValueMinSize w)
    (h : ∀ v ∈ values, ReadBack v) {ns : List ℕ}
    (hns : encodeValue (.ArrayValue t moreFollows values) none = .ok ns) :
    ns.length = getValueMinSize (.ArrayValue t moreFollows values) := by
  rw [encodeArray_eq moreFollows htype] at hns
  obtain ⟨es, hw, hns⟩ := bind_eq_ok.mp hns
  obtain rfl := Except.ok.inj hns
  have hlen : ∀ (vs : List Value) (es : List ℕ), (∀ v ∈ vs, v ∈ values) →
      encodeValues vs (getValuesMinSize values) = .ok es →
        es.length = vs.length * getValuesMinSize values := by
    intro vs
    induction vs with
    | nil =>
      intro es _ hes
      obtain rfl := Except.ok.inj hes
      simp
    | cons v vs ih =>
      intro es hmem hes
      have hv : v ∈ values := hmem v (by simp)
      have hmin : getValueMinSize v = getValuesMinSize values :=
        (getValuesMinSize_eq (fun w hw => hsize w hw v hv) (List.ne_nil_of_mem hv)).symm
      rw [encodeValues] at hes
      obtain ⟨ms, hms, hes⟩ := bind_eq_ok.mp hes
      obtain ⟨ms', hms', hes⟩ := bind_eq_ok.mp hes
      obtain rfl := Except.ok.inj hes
      rw [← hmin, encodeValue_some] at hms
      rw [List.length_append, (h v hv).length_eq ms hms, hmin,
        ih ms' (fun w hw => hmem w (by simp [hw])) hms', List.length_cons, Nat.add_mul]
      omega
  rw [getValueMinSize, List.length_append, hlen values es (fun v hv => hv) hw]
  rfl

/-- **Every value is read back if and only if it is carried**, at any depth. -/
theorem value_readBack (v : Value) (h : v.WellFormed) : ReadBack v := by
  -- strong induction on the size of the value, whose elements are smaller
  induction hn : sizeOf v using Nat.strong_induction_on generalizing v with
  | _ n ih =>
    cases v with
    | ArrayValue t moreFollows values =>
      rw [Value.WellFormed] at h
      obtain ⟨hlen, htype, hsize, hwf⟩ := h
      have helems : ∀ v ∈ values, ReadBack v := by
        intro v hv
        apply ih (sizeOf v) _ v (hwf v hv) rfl
        have hlt := List.sizeOf_lt_of_mem hv
        simp only [Value.ArrayValue.sizeOf_spec] at hn
        omega
      have hcodes := array_codesIff moreFollows hlen htype hwf hsize helems
      refine ⟨fun hc => ?_, ?_, fun ns hns => length_of_encodeArray htype hsize helems hns⟩
      · obtain ⟨ns, hw, hb, hr⟩ := hcodes.codes hc
        refine ⟨ns, [], hw, hb, ?_⟩
        rw [getValueType, decodeValue, hr.all]
        rfl
      · intro hc ns hw hb rest hread
        rw [getValueType, decodeValue] at hread
        obtain ⟨⟨array, data⟩, hr, hread⟩ := bind_eq_ok.mp hread
        have hvalue := congrArg Prod.fst (Except.ok.inj hread)
        simp only [ArrayValue.toValue, Value.ArrayValue.injEq] at hvalue
        obtain ⟨ht, hm, hv⟩ := hvalue
        apply hcodes.loses hc ns hw hb [] data
        rw [List.append_nil, hr, ← ht, ← hm, ← hv]
    | UFixedValue value => exact readBack_UFixedValue value
    | FixedValue value => exact readBack_FixedValue (by simpa [Value.WellFormed] using h)
    | MeasurandValue value => exact readBack_MeasurandValue (by simpa [Value.WellFormed] using h)
    | BitstringValue value => exact readBack_BitstringValue (by simpa [Value.WellFormed] using h)
    | IntValue value => exact readBack_IntValue value
    | NoneValue => exact readBack_NoneValue
    | TextValue value => exact readBack_TextValue value
    | UIntValue value => exact readBack_UIntValue value
    | Real32Value value => exact readBack_Real32Value value
    | Real64Value value => exact readBack_Real64Value value
    | DoubleValue value =>
      exact ReadBack.of_codesIn (by simp [Value.Carried]) (encodeDouble_codes value) rfl
        (by funext data; simp [getValueType, decodeValue])
    | SingleValue value =>
      exact ReadBack.of_codesIn (by simp [Value.Carried]) (encodeSingle_codes value) rfl
        (by funext data; simp [getValueType, decodeValue])
    | ExtendedDoubleValue value =>
      exact ReadBack.of_codesIn (by simp [Value.Carried]) (encodeExtendedDouble_codes value) rfl
        (by funext data; simp [getValueType, decodeValue])
    | TimeValue value => exact readBack_TimeValue (by simpa [Value.WellFormed] using h)
    | IdentificationValue value =>
      exact ReadBack.of_codesIn (by simp [Value.Carried])
        (encodeIdentification_codes (by simpa [Value.WellFormed] using h)) rfl
        (by funext data; simp [getValueType, decodeValue])
    | RelativeTimeValue value =>
      exact readBack_RelativeTimeValue (by simpa [Value.WellFormed] using h)
    | IoAddressValue value =>
      exact ReadBack.of_codesIn (by simp [Value.Carried])
        (encodeIoAddress_codes (by simpa [Value.WellFormed] using h)) rfl
        (by funext data; simp [getValueType, decodeValue])
    | DoubleWithTimeValue value =>
      exact ReadBack.of_codesIn (by simp [Value.Carried])
        (encodeDoubleWithTime_codes (by simpa [Value.WellFormed] using h)) rfl
        (by funext data; simp [getValueType, decodeValue])
    | DoubleWithRelativeTimeValue value =>
      exact ReadBack.of_codesIn (by simp [Value.Carried])
        (encodeDoubleWithRelativeTime_codes (by simpa [Value.WellFormed] using h)) rfl
        (by funext data; simp [getValueType, decodeValue])
    | MeasurandWithRelativeTimeValue value =>
      exact ReadBack.of_codesIn (by simp [Value.Carried])
        (encodeMeasurandWithRelativeTime_codes (by simpa [Value.WellFormed] using h)) rfl
        (by funext data; simp [getValueType, decodeValue])
    | TextNumberValue value => exact readBack_TextNumberValue value
    | ReplyValue value =>
      exact ReadBack.of_codesIn (by simp [Value.Carried]) (encodeReply_codes value) rfl
        (by funext data; simp [getValueType, decodeValue])
    | IndexValue value => exact readBack_IndexValue value

/-! ### Descriptive data -/

theorem ArrayValue.codesIff {a : ArrayValue} (h : a.toValue.WellFormed) :
    CodesIff a.toValue.Carried (encodeValue a.toValue none) decodeArray a := by
  obtain ⟨t, moreFollows, values⟩ := a
  rw [ArrayValue.toValue, Value.WellFormed] at h
  obtain ⟨hlen, htype, hsize, hwf⟩ := h
  exact array_codesIff moreFollows hlen htype hwf hsize fun v hv => value_readBack v (hwf v hv)

theorem DescriptiveData.codesIff {d : DescriptiveData} (h : d.value.toValue.WellFormed) :
    CodesIff d.value.toValue.Carried (encodeDescriptiveData d) decodeDescriptiveData d := by
  have hdescription : CodesIff True (.ok [Enumeration.value d.description]) decodeEnum
      d.description := (encodeEnum_codes d.description.value_lt).codes.codesIff
  have hpair := hdescription.pair (ArrayValue.codesIff h)
  have hmap := hpair.map (f := fun p => DescriptiveData.mk p.1 p.2) fun p hp => by
    simp only [DescriptiveData.mk.injEq] at hp
    exact Prod.ext hp.1 hp.2
  have hdecode : decodeDescriptiveData =
      mapRead (fun p => DescriptiveData.mk p.1 p.2) (pairRead decodeEnum decodeArray) := by
    funext data
    simp [decodeDescriptiveData, mapRead, pairRead, decodeEnum]
  rw [hdecode]
  exact hmap.congr (true_and _).to_iff

theorem genericData_codesIff {d : Identification × DescriptiveData} (hi : d.1.InRange)
    (h : d.2.value.toValue.WellFormed) :
    CodesIff d.2.value.toValue.Carried (encodeGenericData d) decodeGenericData d := by
  have hpair := (encodeIdentification_codes hi).codes.codesIff.pair (DescriptiveData.codesIff h)
  exact hpair.congr (true_and _).to_iff

/-! ### Information elements -/

/-- The documented ranges of the elements of the two ASDU types of generic data. -/
def IoElement.GenericFormat : IoElement → Prop
  | .GENERIC_DATA returnIdentifier _ _ data =>
    returnIdentifier ≤ 255 ∧ ∀ d ∈ data, d.1.InRange ∧ d.2.value.toValue.WellFormed
  | .GENERIC_IDENTIFICATION returnIdentifier identification _ _ data =>
    returnIdentifier ≤ 255 ∧ identification.InRange ∧ ∀ d ∈ data, d.value.toValue.WellFormed
  | _ => False

/-- The six bits of the count hold the number of data, and all of them are carried. -/
def IoElement.GenericCarried : IoElement → Prop
  | .GENERIC_DATA _ _ _ data => data.length ≤ 63 ∧ ∀ d ∈ data, d.2.value.toValue.Carried
  | .GENERIC_IDENTIFICATION _ _ _ _ data =>
    data.length ≤ 63 ∧ ∀ d ∈ data, d.value.toValue.Carried
  | _ => True

set_option maxRecDepth 4000 in
private theorem genericFlags_small : ∀ counter moreFollows : Bool, ∀ n < 64,
    genericFlags counter moreFollows n < 256 ∧ genericFlags counter moreFollows n &&& 0x3F = n ∧
      bit (genericFlags counter moreFollows n) 0x40 = counter ∧
      bit (genericFlags counter moreFollows n) 0x80 = moreFollows := by
  decide +kernel

/-- Of the count, six bits are written. -/
theorem genericFlags_spec (counter moreFollows : Bool) (n : ℕ) :
    genericFlags counter moreFollows n < 256 ∧
      genericFlags counter moreFollows n &&& 0x3F = n % 64 ∧
      bit (genericFlags counter moreFollows n) 0x40 = counter ∧
      bit (genericFlags counter moreFollows n) 0x80 = moreFollows := by
  have hmod : genericFlags counter moreFollows n = genericFlags counter moreFollows (n % 64) := by
    have hand : n &&& 0x3F = n % 64 := Nat.and_two_pow_sub_one_eq_mod n 6
    have hand' : n % 64 &&& 0x3F = n % 64 % 64 := Nat.and_two_pow_sub_one_eq_mod (n % 64) 6
    rw [genericFlags, genericFlags, hand, hand', Nat.mod_mod]
  rw [hmod]
  exact genericFlags_small counter moreFollows (n % 64) (Nat.mod_lt _ (by omega))

/-- A list behind a count of six bits is read back if and only if it is no longer than that. -/
theorem counted_codesIff {α : Type} {as : List α} {p : α → Prop} {w : ByteWriter Exn α}
    {r : ByteReader Exn α} (h : ∀ a ∈ as, CodesIff (p a) (w a) r a) :
    CodesIff (as.length ≤ 63 ∧ ∀ a ∈ as, p a) (writeAll w as) (readN r (as.length % 64)) as where
  codes := by
    rintro ⟨hlen, hp⟩
    rw [Nat.mod_eq_of_lt (by omega)]
    exact (CodesIff.writeAll h).codes hp
  loses := by
    intro hp ns hw hb rest rest' hread
    have hlen := length_of_readN hread
    by_cases hle : as.length ≤ 63
    · rw [← hlen] at hread
      exact (CodesIff.writeAll h).loses (fun hall => hp ⟨hle, hall⟩) ns hw hb rest rest' hread
    · omega

/-- A list at the end of an element, of which the rest is written and read in front of it. -/
theorem element_codesIff {α : Type} {p : Prop} {as : List α} {w : Except Exn (List ℕ)}
    {r : ByteReader Exn (List α)} {s : ByteReader Exn IoElement} {f : List α → IoElement}
    (header : List ℕ) (h : CodesIff p w r as) (hb : AllBytes header)
    (hf : ∀ bs, f bs = f as → bs = as)
    (hs : ∀ bs, s (bytesOf header ++ bs) = mapRead f r bs) :
    CodesIff p (do return header ++ (← w)) s (f as) := by
  have hmap := h.map hf
  constructor
  · intro hp
    obtain ⟨ns, hw, hns, hr⟩ := hmap.codes hp
    refine ⟨header ++ ns, by simp [hw], allBytes_append.mpr ⟨hb, hns⟩, fun rest => ?_⟩
    rw [bytesOf_append, List.append_assoc, hs, hr]
  · intro hp ns hns hb' rest rest' hread
    obtain ⟨ms, hw, hns⟩ := bind_eq_ok.mp hns
    obtain rfl := Except.ok.inj hns
    rw [bytesOf_append, List.append_assoc, hs] at hread
    exact hmap.loses hp ms hw (allBytes_append.mp hb').2 rest rest' hread

/-- **An element of generic data is read back if and only if** its data are, and are counted. -/
theorem encodeElement_codesIff {x : IoElement} (h : x.GenericFormat) :
    CodesIff x.GenericCarried (encodeElement x) (decodeElement x.asduType) x := by
  cases x with
  | GENERIC_DATA returnIdentifier counter moreFollows data =>
    obtain ⟨hr, hdata⟩ := h
    have hr' : returnIdentifier < 256 := Nat.lt_succ_of_le hr
    obtain ⟨hlt, hn, hcounter, hmore⟩ := genericFlags_spec counter moreFollows data.length
    have hcodes := counted_codesIff fun d hd =>
      genericData_codesIff (hdata d hd).1 (hdata d hd).2
    apply element_codesIff (f := .GENERIC_DATA returnIdentifier counter moreFollows)
      [returnIdentifier, genericFlags counter moreFollows data.length] hcodes
    · simp [hr', hlt]
    · intro bs hbs
      simpa using hbs
    · intro bs
      simp only [IoElement.asduType, decodeElement, byteAt_bytesOf_zero hr', byteAt_bytesOf_succ,
        byteAt_bytesOf_zero hlt, ok_bind, hn, hcounter, hmore, drop_bytesOf_succ, List.drop_zero,
        bytesOf_nil, List.nil_append]
      rfl
  | GENERIC_IDENTIFICATION returnIdentifier identification counter moreFollows data =>
    obtain ⟨hr, hi, hdata⟩ := h
    obtain ⟨groupId, entryId⟩ := identification
    have hr' : returnIdentifier < 256 := Nat.lt_succ_of_le hr
    have hg : groupId < 256 := Nat.lt_succ_of_le hi.groupId_le
    have he : entryId < 256 := Nat.lt_succ_of_le hi.entryId_le
    obtain ⟨hlt, hn, hcounter, hmore⟩ := genericFlags_spec counter moreFollows data.length
    have hencode : encodeElement (.GENERIC_IDENTIFICATION returnIdentifier ⟨groupId, entryId⟩
        counter moreFollows data) = (do
          let ns ← writeAll encodeDescriptiveData data
          return [returnIdentifier, groupId, entryId,
            genericFlags counter moreFollows data.length] ++ ns) := by
      simp [encodeElement, encodeValue, encodedSize, getValueMinSize, zeros]
    have hcodes := counted_codesIff fun d hd => DescriptiveData.codesIff (hdata d hd)
    rw [hencode]
    apply element_codesIff
      (f := .GENERIC_IDENTIFICATION returnIdentifier ⟨groupId, entryId⟩ counter moreFollows)
      [returnIdentifier, groupId, entryId, genericFlags counter moreFollows data.length] hcodes
    · simp [hr', hg, he, hlt]
    · intro bs hbs
      simpa using hbs
    · intro bs
      have hslice : slice (bytesOf [returnIdentifier, groupId, entryId,
          genericFlags counter moreFollows data.length] ++ bs) 1 3 =
            bytesOf [groupId, entryId] ++ [] := rfl
      simp only [IoElement.asduType, decodeElement, decodeIdentification, hslice,
        byteAt_bytesOf_zero hr', byteAt_bytesOf_zero hg, byteAt_bytesOf_zero he,
        byteAt_bytesOf_succ, byteAt_bytesOf_zero hlt, ok_bind, hn, hcounter, hmore,
        drop_bytesOf_succ, List.drop_zero, bytesOf_nil, List.nil_append]
      rfl
  | _ => exact h.elim

/-! ### Round trips -/

/-- **Generic data are read back if and only if they are carried**: descriptive data alone, and an
ASDU of them, whose cause also has to be one that is read. -/
theorem genericData_roundTrips_iff (d : DescriptiveData) (asdu : ASDU) :
    (d.value.toValue.WellFormed →
      ((∃ bs, (encodeDescriptiveData d >>= toBytes) = .ok bs ∧
        ∀ rest, decodeDescriptiveData (bs ++ rest) = .ok (d, rest)) ↔ d.value.toValue.Carried)) ∧
    (asdu.InRange IoElement.GenericFormat →
      ((∃ bs, encodeAsdu asdu = .ok bs ∧ ∀ rest, decodeAsdu (bs ++ rest) = .ok (asdu, rest)) ↔
        asdu.cause.Normal ∧ ∀ io ∈ asdu.ios, ∀ x ∈ io.elements, x.GenericCarried)) := by
  constructor
  · intro hd
    rw [← (DescriptiveData.codesIff hd).codes_iff]
    constructor
    · rintro ⟨bs, hbs, hread⟩
      obtain ⟨ns, hw, hbs⟩ := bind_eq_ok.mp hbs
      obtain ⟨hb, rfl⟩ := toBytes_eq_ok.mp hbs
      exact ⟨ns, hw, hb, hread⟩
    · rintro ⟨ns, hw, hb, hread⟩
      refine ⟨bytesOf ns, ?_, hread⟩
      rw [hw, ok_bind]
      exact toBytes_eq_ok.mpr ⟨hb, rfl⟩
  · intro h
    apply h.roundTrips_iff_elements
    intro io hio x hx
    exact encodeElement_codesIff (h.elements io hio x hx).2

/-- Two arrays of measured values, in an array. -/
def nestedArrays : DescriptiveData where
  description := .ACTUAL_VALUE
  value := { valueType := .ARRAY
             moreFollows := false
             values := [.ArrayValue .INT false [.IntValue (-3), .IntValue 100],
               .ArrayValue .FIXED true [.FixedValue (-1)]] }

theorem nestedArrays_wellFormed : nestedArrays.value.toValue.WellFormed := by
  have hthree : Nat.size 3 = 2 := by decide
  have hhundred : Nat.size 100 = 7 := by decide
  simp [nestedArrays, ArrayValue.toValue, Value.WellFormed, getValueType, getValueMinSize,
    getValuesMinSize, bitLength, hthree, hhundred]

/-- An ASDU with the nested arrays. -/
def nestedArraysAsdu : ASDU where
  type := .GENERIC_DATA
  cause := .enum .GENERIC_READ_COMMAND
  address := 1
  ios := [{ address := { functionType := 254, informationNumber := 244 }
            elements := [.GENERIC_DATA 1 false true
              [({ groupId := 2, entryId := 3 }, nestedArrays)]] }]

theorem nestedArraysAsdu_inRange : nestedArraysAsdu.InRange IoElement.GenericFormat where
  cause_le := by decide
  address_le := by decide
  shape := .inr ⟨by simp [nestedArraysAsdu], by simp [nestedArraysAsdu]⟩
  ioAddress := by
    simp only [nestedArraysAsdu, List.forall_mem_singleton]
    exact ⟨by decide, by decide⟩
  elements := by
    simp only [nestedArraysAsdu, List.forall_mem_singleton]
    refine ⟨rfl, by decide, ?_⟩
    simp only [List.forall_mem_singleton]
    exact ⟨⟨by decide, by decide⟩, nestedArrays_wellFormed⟩

theorem genericData_roundTrips_iff_nestedArrays :
    ((∃ bs, (encodeDescriptiveData nestedArrays >>= toBytes) = .ok bs ∧
        ∀ rest, decodeDescriptiveData (bs ++ rest) = .ok (nestedArrays, rest)) ↔
      nestedArrays.value.toValue.Carried) ∧
    ((∃ bs, encodeAsdu nestedArraysAsdu = .ok bs ∧
        ∀ rest, decodeAsdu (bs ++ rest) = .ok (nestedArraysAsdu, rest)) ↔
      nestedArraysAsdu.cause.Normal ∧
        ∀ io ∈ nestedArraysAsdu.ios, ∀ x ∈ io.elements, x.GenericCarried) :=
  have h := genericData_roundTrips_iff nestedArrays nestedArraysAsdu
  ⟨h.1 nestedArrays_wellFormed, h.2 nestedArraysAsdu_inRange⟩

/-- Half of the range of an unsigned number. -/
def unsignedHalf : DescriptiveData where
  description := .ACTUAL_VALUE
  value := { valueType := .UFIXED, moreFollows := false, values := [.UFixedValue (1 / 2)] }

theorem unsignedHalf_wellFormed : unsignedHalf.value.toValue.WellFormed := by
  norm_num [unsignedHalf, ArrayValue.toValue, Value.WellFormed, getValueType]

/-- An array of unsigned fixed-point numbers is written, but not read back. -/
theorem unsignedHalf_not_readBack : unsignedHalf.value.toValue.WellFormed ∧
    (∃ bs, (encodeDescriptiveData unsignedHalf >>= toBytes) = .ok bs) ∧
      ¬ ∃ bs, (encodeDescriptiveData unsignedHalf >>= toBytes) = .ok bs ∧
        decodeDescriptiveData bs = .ok (unsignedHalf, []) := by
  have hlost : ¬ unsignedHalf.value.toValue.Carried := by
    simp [unsignedHalf, ArrayValue.toValue, Value.Carried]
  refine ⟨unsignedHalf_wellFormed, ⟨[1, 5, 2, 1, 0, 128], by decide +kernel⟩, ?_⟩
  rintro ⟨bs, hbs, hread⟩
  obtain ⟨ns, hw, hbs⟩ := bind_eq_ok.mp hbs
  obtain ⟨hb, rfl⟩ := toBytes_eq_ok.mp hbs
  rw [← List.append_nil (bytesOf ns)] at hread
  exact (DescriptiveData.codesIff unsignedHalf_wellFormed).loses hlost ns hw hb [] [] hread

end HatDrivers.Iec60870.Encodings.Iec103
