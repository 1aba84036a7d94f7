import HatDrivers.Smpp.Transport.Encoder
import Mathlib.Tactic.Linarith
import Mathlib.Tactic.NormNum

namespace HatDrivers.Smpp.Transport

open HatDrivers.Lib

/-!
# SMPP — responses that can be encoded

The types of a response allow more than the encoder writes: strings that are not ASCII, integers
that no byte holds, parameters of other commands or with values of other types, and times whose
text has not the length it should have.  `Response.Encodable` says what it does write, and
`Response.bodyLength` how many bytes that are.
-/

/-! ### Integers and strings -/

/-- Does a byte hold the integer? -/
def FitsByte (x : ℤ) : Prop := 0 ≤ x ∧ x < 256

instance (x : ℤ) : Decidable (FitsByte x) := inferInstanceAs (Decidable (_ ∧ _))

def Ascii (s : String) : Prop := ∀ c ∈ s.toList, c.toNat < 128

instance (s : String) : Decidable (Ascii s) :=
  decidable_of_iff (s.toList.all fun c => c.toNat < 128) (by simp [Ascii])

/-- ASCII characters without NUL. -/
def NulFreeAscii (s : String) : Prop := ∀ c ∈ s.toList, 0 < c.toNat ∧ c.toNat < 128

instance (s : String) : Decidable (NulFreeAscii s) :=
  decidable_of_iff (s.toList.all fun c => 0 < c.toNat ∧ c.toNat < 128) (by simp [NulFreeAscii])

theorem NulFreeAscii.ascii {s : String} (h : NulFreeAscii s) : Ascii s := fun c hc => (h c hc).2

theorem yieldInt_writesIff (x : ℤ) : WritesIff (FitsByte x) 1 (yieldInt x) :=
  WritesIff.ite (FitsByte x) [x.toNat] _

theorem encodeUint16_writesIff (x : ℤ) :
    WritesIff (0 ≤ x ∧ x < 65536) 2 (encodeUint16 x) := by
  have hpack : encodeUint16 x =
      if 0 ≤ x ∧ x < 65536 then .ok (beDigits 2 x.toNat) else .error (.exn .structError) := by
    have hsize : (256 : ℤ) ^ 2 = 65536 := by norm_num
    rw [encodeUint16, packUInt, hsize]
    split <;> rfl
  rw [hpack]
  have hite := WritesIff.ite (0 ≤ x ∧ x < 65536) (beDigits 2 x.toNat) (Error.exn .structError)
  rwa [length_beDigits] at hite

theorem encodeUint32_writesIff (n : ℕ) : WritesIff (n < 256 ^ 4) 4 (encodeUint32 n) where
  ok_iff := by
    simp only [encodeUint32_eq_ok, exists_and_left, exists_eq, and_true]
  length_eq := by
    intro ns hns
    obtain ⟨_, rfl⟩ := encodeUint32_eq_ok.mp hns
    exact length_beDigits 4 n

theorem encodeAscii_writesIff (s : String) : WritesIff (Ascii s) s.length (encodeAscii s) := by
  have hite := WritesIff.ite (s.toList.all fun c => c.toNat < 128) (s.toList.map Char.toNat)
    (Error.exn (.valueError "'ascii' codec can't encode character"))
  rw [List.length_map, String.length_toList] at hite
  exact hite.congr (by simp [Ascii])

theorem encodeCstring_writesIff (s : String) :
    WritesIff (Ascii s) (s.length + 1) (encodeCstring s) :=
  ((encodeAscii_writesIff s).append (WritesIff.ok [0])).congr (and_true _).to_iff

theorem encodeCbytes_writesIff (bs : Bytes) :
    WritesIff True (bs.length + 1) (encodeCbytes bs) := by
  have hok := WritesIff.ok (ε := Error) (bs.map UInt8.toNat ++ [0])
  rw [List.length_append, List.length_map] at hok
  exact hok

/-- Values of an enumeration of bytes are written. -/
theorem yieldValue_writesIff {E : Type} [Enumeration E] {e : E}
    (h : Enumeration.value e < 256) : WritesIff True 1 (yieldValue e) :=
  (yieldInt_writesIff _).congr (iff_true_intro ⟨by omega, by omega⟩)

/-! ### Times -/

/-- A component of a relative time of two characters, one of which may be a sign. -/
def TwoChars (x : ℤ) : Prop := -9 ≤ x ∧ x ≤ 99

instance (x : ℤ) : Decidable (TwoChars x) := inferInstanceAs (Decidable (_ ∧ _))

/-- A time of 16 characters.  The tenths of an absolute time may be rounded up to ten. -/
def Time.Encodable : Time → Prop
  | .absolute time => time.microsecond < 950000
  | .relative time => TwoChars time.years ∧ TwoChars time.months ∧ TwoChars time.days ∧
    TwoChars time.hours ∧ TwoChars time.minutes ∧ TwoChars (truncate time.seconds)

theorem length_toDigits_eq_one {n : ℕ} : (Nat.toDigits 10 n).length = 1 ↔ n < 10 := by
  have hle := Nat.length_toDigits_le_iff (b := 10) (n := n) (k := 1) (by omega) (by omega)
  have hpos : 0 < (Nat.toDigits 10 n).length := Nat.length_toDigits_pos
  omega

theorem length_toDigits_le_two {n : ℕ} : (Nat.toDigits 10 n).length ≤ 2 ↔ n < 100 :=
  Nat.length_toDigits_le_iff (b := 10) (n := n) (k := 2) (by omega) (by omega)

theorem length_format02 (x : ℤ) : (format02 x).length =
    if x < 0 then (Nat.toDigits 10 x.natAbs).length + 1
    else max 2 (Nat.toDigits 10 x.natAbs).length := by
  have hpos : 0 < (Nat.toDigits 10 x.natAbs).length := Nat.length_toDigits_pos
  simp only [format02]
  split
  · rw [List.length_cons]
  · split
    · rw [List.length_cons]
      omega
    · omega

theorem two_le_length_format02 (x : ℤ) : 2 ≤ (format02 x).length := by
  have hpos : 0 < (Nat.toDigits 10 x.natAbs).length := Nat.length_toDigits_pos
  rw [length_format02]
  split <;> omega

theorem length_format02_le_two {x : ℤ} : (format02 x).length ≤ 2 ↔ TwoChars x := by
  have hone := length_toDigits_eq_one (n := x.natAbs)
  have htwo := length_toDigits_le_two (n := x.natAbs)
  have hpos : 0 < (Nat.toDigits 10 x.natAbs).length := Nat.length_toDigits_pos
  rw [length_format02, TwoChars]
  split <;> omega

theorem length_formatRelativeTime {time : RelativeTime} :
    (formatRelativeTime time).length = 16 ↔ (Time.relative time).Encodable := by
  have htenths : (formatInt (roundHalfEven (toDouble (time.seconds * 10)) % 10)).length = 1 := by
    have hlo := Int.emod_nonneg (roundHalfEven (toDouble (time.seconds * 10))) (b := 10) (by omega)
    have hhi := Int.emod_lt_of_pos (roundHalfEven (toDouble (time.seconds * 10))) (b := 10)
      (by omega)
    rw [formatInt, if_neg (by omega), length_toDigits_eq_one]
    omega
  have hyears := two_le_length_format02 time.years
  have hmonths := two_le_length_format02 time.months
  have hdays := two_le_length_format02 time.days
  have hhours := two_le_length_format02 time.hours
  have hminutes := two_le_length_format02 time.minutes
  have hseconds := two_le_length_format02 (truncate time.seconds)
  simp only [formatRelativeTime, List.length_append, htenths, Time.Encodable,
    ← length_format02_le_two, List.length_cons, List.length_nil]
  omega

/-- What is rounded to less than an even integer, to which a tie goes. -/
theorem roundHalfEven_lt_even {k : ℤ} (hk : k % 2 = 0) {q : ℚ} :
    roundHalfEven q < k ↔ q < k - 1 / 2 := by
  have hmem := roundHalfEven_mem q
  have hle : (⌊q⌋ : ℚ) ≤ q := Int.floor_le q
  have hlt : q < ⌊q⌋ + 1 := Int.lt_floor_add_one q
  rcases lt_trichotomy (⌊q⌋ + 1) k with hfloor | hfloor | hfloor
  · have hcast : (⌊q⌋ : ℚ) + 2 ≤ k := by exact_mod_cast (by omega : ⌊q⌋ + 2 ≤ k)
    exact iff_of_true (by omega) (by linarith)
  · -- the integer below is odd, so that a tie goes up
    have hcast : (⌊q⌋ : ℚ) + 1 = k := by exact_mod_cast hfloor
    have hodd : ¬ ⌊q⌋ % 2 = 0 := by omega
    simp only [roundHalfEven, if_neg hodd]
    split
    · exact iff_of_true (by omega) (by linarith)
    · split
      · exact iff_of_false (by omega) (by linarith)
      · exact iff_of_false (by omega) (by linarith)
  · have hcast : (k : ℚ) ≤ ⌊q⌋ := by exact_mod_cast (by omega : k ≤ ⌊q⌋)
    exact iff_of_false (by omega) (by linarith)

/-- The tenths of a second are rounded to one digit if they are not rounded up to ten. -/
theorem length_formatInt_tenths {microsecond : ℤ} (h : 0 ≤ microsecond ∧ microsecond < 1000000) :
    1 ≤ (formatInt (roundHalfEven ((microsecond : ℚ) / 100000))).length ∧
      ((formatInt (roundHalfEven ((microsecond : ℚ) / 100000))).length = 1 ↔
        microsecond < 950000) := by
  have hnonneg : 0 ≤ ⌊(microsecond : ℚ) / 100000⌋ := by
    have hcast : (0 : ℚ) ≤ microsecond := by exact_mod_cast h.1
    rw [Int.floor_nonneg]
    positivity
  have hround := (roundHalfEven_mem ((microsecond : ℚ) / 100000)).1
  have hlt : roundHalfEven ((microsecond : ℚ) / 100000) < 10 ↔ microsecond < 950000 := by
    rw [roundHalfEven_lt_even (by rfl), div_lt_iff₀ (by norm_num)]
    norm_num
    norm_cast
  rw [formatInt, if_neg (by omega)]
  constructor
  · exact Nat.length_toDigits_pos
  · rw [length_toDigits_eq_one, ← hlt]
    omega

/-- The zones of less than a day are at most 96 quarters of an hour. -/
theorem abs_offset_le {utcoffset : ℤ} (h : ValidOffset utcoffset) :
    |roundHalfEven ((utcoffset : ℚ) / quarterMicroseconds)| ≤ 96 := by
  have hquarter : (quarterMicroseconds : ℚ) = 900000000 := by norm_num [quarterMicroseconds]
  have hday : dayMicroseconds = 86400000000 := by norm_num [dayMicroseconds]
  have hlo : (-86400000000 : ℚ) < utcoffset := by exact_mod_cast hday ▸ h.1
  have hhi : (utcoffset : ℚ) < 86400000000 := by exact_mod_cast hday ▸ h.2
  have hmem := roundHalfEven_mem ((utcoffset : ℚ) / quarterMicroseconds)
  have hfloor : -96 ≤ ⌊(utcoffset : ℚ) / quarterMicroseconds⌋ ∧
      ⌊(utcoffset : ℚ) / quarterMicroseconds⌋ < 96 := by
    rw [Int.le_floor, Int.floor_lt, hquarter, le_div_iff₀ (by norm_num),
      div_lt_iff₀ (by norm_num)]
    constructor
    · push_cast
      linarith
    · push_cast
      linarith
  rw [abs_le]
  omega

theorem length_format02_of_mem {x : ℤ} (hlo : 0 ≤ x) (hhi : x ≤ 99) :
    (format02 x).length = 2 := by
  have hge := two_le_length_format02 x
  have hle := length_format02_le_two.mpr ⟨by omega, hhi⟩
  omega

theorem daysInMonth_le (year month : ℤ) : daysInMonth year month ≤ 31 := by
  unfold daysInMonth
  split
  · split <;> omega
  · split <;> omega

theorem length_formatAbsoluteTime {time : AbsoluteTime} :
    (formatAbsoluteTime time).length = 16 ↔ (Time.absolute time).Encodable := by
  obtain ⟨_, hmonth, hday, hhour, hminute, hsecond, hmicrosecond⟩ := time.valid
  have hdays := daysInMonth_le time.year time.month
  have hyear := Int.emod_lt_of_pos time.year (b := 100) (by omega)
  have hyear' := Int.emod_nonneg time.year (b := 100) (by omega)
  have htenths := length_formatInt_tenths hmicrosecond
  have hoffset := abs_offset_le time.utcoffset_valid
  have hoffset' := abs_nonneg (roundHalfEven ((time.utcoffset : ℚ) / quarterMicroseconds))
  simp only [formatAbsoluteTime, List.length_append, List.length_cons, List.length_nil,
    length_format02_of_mem hyear' (by omega),
    length_format02_of_mem (x := time.month) (by omega) (by omega),
    length_format02_of_mem (x := time.day) (by omega) (by omega),
    length_format02_of_mem hhour.1 (by omega), length_format02_of_mem hminute.1 (by omega),
    length_format02_of_mem hsecond.1 (by omega), length_format02_of_mem hoffset' (by omega),
    Time.Encodable]
  omega

theorem length_formatTime (time : Time) :
    (formatTime (some time)).length = 16 ↔ time.Encodable := by
  cases time with
  | absolute time => exact length_formatAbsoluteTime
  | relative time => exact length_formatRelativeTime

theorem formatTime_ne_nil (time : Time) : formatTime (some time) ≠ [] := by
  cases time with
  | absolute time => simp [formatTime, formatAbsoluteTime]
  | relative time => simp [formatTime, formatRelativeTime]

theorem toNat_mem_of_mem_toDigits {n : ℕ} {c : Char} (h : c ∈ Nat.toDigits 10 n) :
    0 < c.toNat ∧ c.toNat < 128 := by
  have hdigit := Nat.isDigit_of_mem_toDigits (by omega) (by omega) h
  simp only [Char.isDigit, Bool.and_eq_true, decide_eq_true_eq] at hdigit
  have hge : '0'.toNat ≤ c.toNat := UInt32.le_iff_toNat_le.mp hdigit.1
  have hle : c.toNat ≤ '9'.toNat := UInt32.le_iff_toNat_le.mp hdigit.2
  exact ⟨Nat.lt_of_lt_of_le (by decide) hge, Nat.lt_of_le_of_lt hle (by decide)⟩

theorem toNat_mem_of_mem_format02 {x : ℤ} {c : Char} (h : c ∈ format02 x) :
    0 < c.toNat ∧ c.toNat < 128 := by
  simp only [format02] at h
  split at h
  · rcases List.mem_cons.mp h with rfl | h
    · decide
    · exact toNat_mem_of_mem_toDigits h
  · split at h
    · rcases List.mem_cons.mp h with rfl | h
      · decide
      · exact toNat_mem_of_mem_toDigits h
    · exact toNat_mem_of_mem_toDigits h

theorem toNat_mem_of_mem_formatInt {x : ℤ} {c : Char} (h : c ∈ formatInt x) :
    0 < c.toNat ∧ c.toNat < 128 := by
  simp only [formatInt] at h
  split at h
  · rcases List.mem_cons.mp h with rfl | h
    · decide
    · exact toNat_mem_of_mem_toDigits h
  · exact toNat_mem_of_mem_toDigits h

theorem nulFreeAscii_formatTime (time : Option Time) :
    NulFreeAscii (String.ofList (formatTime time)) := by
  intro c hc
  rw [String.toList_ofList] at hc
  have hdigits : ∀ x, c ∈ format02 x → 0 < c.toNat ∧ c.toNat < 128 :=
    fun _ => toNat_mem_of_mem_format02
  have hints : ∀ x, c ∈ formatInt x → 0 < c.toNat ∧ c.toNat < 128 :=
    fun _ => toNat_mem_of_mem_formatInt
  have hsuffix : ∀ c ∈ ['0', '0', 'R', '-', '+'], 0 < c.toNat ∧ c.toNat < 128 := by simp
  cases time with
  | none => cases hc
  | some time =>
    cases time with
    | absolute time =>
      simp only [formatTime, formatAbsoluteTime, List.mem_append] at hc
      grind
    | relative time =>
      simp only [formatTime, formatRelativeTime, List.mem_append] at hc
      grind

/-- The number of bytes of an encoded time. -/
def timeLength : Option Time → ℕ
  | none => 1
  | some _ => 17

theorem encodeTime_writesIff (time : Option Time) :
    WritesIff (∀ t ∈ time, t.Encodable) (timeLength time) (encodeTime time) := by
  have hcstring := encodeCstring_writesIff (String.ofList (formatTime time))
  rw [String.length_ofList] at hcstring
  have hascii := (nulFreeAscii_formatTime time).ascii
  cases time with
  | none => exact hcstring.congr (by simp [hascii])
  | some time =>
    have hne : (formatTime (some time)).length ≠ 0 := by
      rw [ne_eq, List.length_eq_zero_iff]
      exact formatTime_ne_nil time
    have hlength := length_formatTime time
    by_cases henc : time.Encodable
    · have h16 := hlength.mpr henc
      rw [h16] at hcstring
      have hpass : encodeTime (some time) =
          encodeCstring (String.ofList (formatTime (some time))) := by
        simp [encodeTime, h16]
      rw [hpass]
      exact hcstring.congr (by simp [hascii, henc])
    · have h16 : (formatTime (some time)).length ≠ 16 := mt hlength.mp henc
      have hthrow : encodeTime (some time) =
          .error (.exn (.exception "invalid time string length")) := by
        simp only [encodeTime, if_pos (And.intro hne h16)]
        rfl
      rw [hthrow]
      exact (WritesIff.error _ _).congr (by simp [henc])

/-! ### Optional parameters of responses -/

/-- A value that is written for the tag of a parameter of a response. -/
def ParamEncodable : OptionalParamTag → OptionalParamValue → Prop
  | .SC_INTERFACE_VERSION, .int value => FitsByte value
  | .SC_INTERFACE_VERSION, .bool _ => True
  | .DELIVERY_FAILURE_REASON, .deliveryFailureReason _ => True
  | .NETWORK_ERROR_CODE, .networkErrorCode value =>
    FitsByte value.networkType ∧ 0 ≤ value.errorCode ∧ value.errorCode < 65536
  | .ADDITIONAL_STATUS_INFO_TEXT, .str value => Ascii value ∧ value.length + 1 < 65536
  | .DPF_RESULT, .bool _ => True
  | _, _ => False

/-- The number of bytes of a parameter, with its tag and length. -/
def paramLength : OptionalParamTag × OptionalParamValue → ℕ
  | (.NETWORK_ERROR_CODE, _) => 7
  | (.ADDITIONAL_STATUS_INFO_TEXT, .str value) => 5 + value.length
  | _ => 5

theorem OptionalParamTag.value_lt (tag : OptionalParamTag) : (tag.value : ℤ) < 65536 := by
  cases tag <;> decide

theorem encodeOptionalParam_of_mem {commandId : CommandId} {tag : OptionalParamTag}
    (hvalid : tag ∈ validOptionalParams commandId) (value : OptionalParamValue) :
    encodeOptionalParam commandId (tag, value) = (do
      let valueBytes ← encodeOptionalParamValue tag value
      return (← encodeUint16 tag.value) ++ (← encodeUint16 valueBytes.length) ++ valueBytes) := by
  rw [encodeOptionalParam, if_neg (not_not_intro hvalid)]

theorem encodeOptionalParam_of_not_mem {commandId : CommandId} {tag : OptionalParamTag}
    (hvalid : tag ∉ validOptionalParams commandId) (value : OptionalParamValue) :
    encodeOptionalParam commandId (tag, value) =
      .error (.commandStatusError .ESME_ROPTPARNOTALLWD) := by
  rw [encodeOptionalParam, if_pos hvalid]
  rfl

/-- A parameter, out of what is written for its value. -/
theorem encodeOptionalParam_writesIff {commandId : CommandId} {tag : OptionalParamTag}
    {value : OptionalParamValue} {p : Prop} {size : ℕ}
    (h : WritesIff p size (encodeOptionalParamValue tag value)) :
    WritesIff (tag ∈ validOptionalParams commandId ∧ p ∧ size < 65536) (4 + size)
      (encodeOptionalParam commandId (tag, value)) := by
  by_cases hvalid : tag ∈ validOptionalParams commandId
  · rw [encodeOptionalParam_of_mem hvalid, and_iff_right hvalid]
    apply h.bind
    intro valueBytes hlength
    have htag := (encodeUint16_writesIff (tag.value : ℤ)).congr
      (iff_true_intro ⟨by omega, tag.value_lt⟩)
    have hsize := (encodeUint16_writesIff (valueBytes.length : ℤ)).congr
      (show _ ↔ size < 65536 by omega)
    refine (htag.bind (n := 4 + size) fun tagBytes htagBytes => ?_).congr (true_and _).to_iff
    refine (hsize.bind (q := True) fun lengthBytes hlengthBytes => ?_).congr (and_true _).to_iff
    have hwritten := WritesIff.ok (ε := Error) (tagBytes ++ lengthBytes ++ valueBytes)
    rw [List.length_append, List.length_append, htagBytes, hlengthBytes, hlength] at hwritten
    exact hwritten
  · rw [encodeOptionalParam_of_not_mem hvalid]
    exact (WritesIff.error _ _).congr (by simp [hvalid])

theorem scInterfaceVersion_writesIff (value : OptionalParamValue) :
    WritesIff (ParamEncodable .SC_INTERFACE_VERSION value) 1
      (encodeOptionalParamValue .SC_INTERFACE_VERSION value) := by
  cases value with
  | int value => exact yieldInt_writesIff value
  | bool value =>
    apply (yieldInt_writesIff _).congr
    cases value <;> exact iff_of_true (by decide) trivial
  | _ => exact WritesIff.error _ _

theorem deliveryFailureReason_writesIff (value : OptionalParamValue) :
    WritesIff (ParamEncodable .DELIVERY_FAILURE_REASON value) 1
      (encodeOptionalParamValue .DELIVERY_FAILURE_REASON value) := by
  cases value with
  | deliveryFailureReason value =>
    apply yieldValue_writesIff
    cases value <;> decide
  | _ => exact WritesIff.error _ _

theorem networkErrorCode_writesIff (value : OptionalParamValue) :
    WritesIff (ParamEncodable .NETWORK_ERROR_CODE value) 3
      (encodeOptionalParamValue .NETWORK_ERROR_CODE value) := by
  cases value with
  | networkErrorCode value =>
    exact (yieldInt_writesIff value.networkType).append (encodeUint16_writesIff value.errorCode)
  | _ => exact WritesIff.error _ _

theorem dpfResult_writesIff (value : OptionalParamValue) :
    WritesIff (ParamEncodable .DPF_RESULT value) 1
      (encodeOptionalParamValue .DPF_RESULT value) := by
  cases value with
  | bool value =>
    apply (yieldInt_writesIff _).congr
    cases value <;> exact iff_of_true (by decide) trivial
  | _ => exact WritesIff.error _ _

/-- The parameters of a response, one of which has a value of any length. -/
theorem responseParam_writesIff {commandId : CommandId}
    (hcommand : commandId = .BIND_RECEIVER_RESP ∨ commandId = .DATA_SM_RESP)
    (param : OptionalParamTag × OptionalParamValue) :
    WritesIff (param.1 ∈ validOptionalParams commandId ∧ ParamEncodable param.1 param.2)
      (paramLength param) (encodeOptionalParam commandId param) := by
  obtain ⟨tag, value⟩ := param
  by_cases hvalid : tag ∈ validOptionalParams commandId
  · have hshort : ∀ {p : Prop} {size : ℕ}, size < 65536 →
        ((tag ∈ validOptionalParams commandId ∧ p ∧ size < 65536) ↔
          tag ∈ validOptionalParams commandId ∧ p) := by
      intro p size hsize
      rw [and_iff_left hsize]
    have htag : tag ∈ [OptionalParamTag.SC_INTERFACE_VERSION, .DELIVERY_FAILURE_REASON,
        .NETWORK_ERROR_CODE, .ADDITIONAL_STATUS_INFO_TEXT, .DPF_RESULT] := by
      rcases hcommand with rfl | rfl
      · exact List.mem_cons.mpr (.inl (List.mem_singleton.mp hvalid))
      · exact List.mem_cons_of_mem _ hvalid
    simp only [List.mem_cons, List.not_mem_nil, or_false] at htag
    rcases htag with rfl | rfl | rfl | rfl | rfl
    · exact (encodeOptionalParam_writesIff (scInterfaceVersion_writesIff value)).congr
        (hshort (by omega))
    · exact (encodeOptionalParam_writesIff (deliveryFailureReason_writesIff value)).congr
        (hshort (by omega))
    · exact (encodeOptionalParam_writesIff (networkErrorCode_writesIff value)).congr
        (hshort (by omega))
    · cases value with
      | str value =>
        have hparam : WritesIff (_ ∧ Ascii value ∧ value.length + 1 < 65536)
            (4 + (value.length + 1))
            (encodeOptionalParam commandId (.ADDITIONAL_STATUS_INFO_TEXT, .str value)) :=
          encodeOptionalParam_writesIff (encodeCstring_writesIff value)
        rw [show 4 + (value.length + 1) = 5 + value.length by omega] at hparam
        exact hparam
      | _ =>
        exact (@encodeOptionalParam_writesIff commandId _ _ False 1 (WritesIff.error _ _)).congr
          (hshort (by omega))
    · exact (encodeOptionalParam_writesIff (dpfResult_writesIff value)).congr
        (hshort (by omega))
  · rw [encodeOptionalParam_of_not_mem hvalid]
    exact (WritesIff.error _ _).congr (by simp [hvalid])

/-! ### Responses -/

/-- Are these parameters that may stand in a response of a command, with values that fit? -/
def ParamsEncodable (commandId : CommandId) (params : OptionalParams) : Prop :=
  ∀ param ∈ params, param.1 ∈ validOptionalParams commandId ∧ ParamEncodable param.1 param.2

/-- A response that the encoder writes. -/
def Response.Encodable : Response → Prop
  | .BindRes res => Ascii res.systemId ∧ ParamsEncodable .BIND_RECEIVER_RESP res.optionalParams
  | .SubmitMultiRes => False
  | .DataSmRes res => ParamsEncodable .DATA_SM_RESP res.optionalParams
  | .QuerySmRes res => (∀ time ∈ res.finalDate, time.Encodable) ∧ FitsByte res.errorCode
  | _ => True

/-- The number of bytes of a response. -/
def Response.bodyLength : Response → ℕ
  | .BindRes res => res.systemId.length + 1 + (res.optionalParams.map paramLength).sum
  | .SubmitSmRes messageId => messageId.length + 1
  | .DataSmRes res => res.messageId.length + 1 + (res.optionalParams.map paramLength).sum
  | .QuerySmRes res => res.messageId.length + 1 + timeLength res.finalDate + 1 + 1
  | _ => 0

theorem encodeOptionalParams_writesIff {commandId : CommandId}
    (hcommand : commandId = .BIND_RECEIVER_RESP ∨ commandId = .DATA_SM_RESP)
    (params : OptionalParams) : WritesIff (ParamsEncodable commandId params)
      (params.map paramLength).sum (encodeOptionalParams commandId params) :=
  WritesIff.writeAll fun param _ => responseParam_writesIff hcommand param

/-- **What the encoder writes of the responses, and how many bytes.** -/
theorem encodeResponse_writesIff (res : Response) :
    WritesIff res.Encodable res.bodyLength (encodeResponse res) := by
  cases res with
  | BindRes res =>
    exact (encodeCstring_writesIff res.systemId).append
      (encodeOptionalParams_writesIff (.inl rfl) res.optionalParams)
  | SubmitSmRes messageId => exact encodeCbytes_writesIff messageId
  | SubmitMultiRes => exact WritesIff.error _ _
  | DataSmRes res =>
    exact ((encodeCbytes_writesIff res.messageId).append
      (encodeOptionalParams_writesIff (.inr rfl) res.optionalParams)).congr (true_and _).to_iff
  | QuerySmRes res =>
    have hstate : WritesIff True 1 (yieldValue res.messageState) := by
      apply yieldValue_writesIff
      cases res.messageState <;> decide
    have hfields := (((encodeCbytes_writesIff res.messageId).append
      (encodeTime_writesIff res.finalDate)).append hstate).append (yieldInt_writesIff res.errorCode)
    simp only [bind_assoc, pure_bind] at hfields
    exact hfields.congr (by simp [Response.Encodable])
  | _ => exact WritesIff.ok []

/-! ### Headers -/

theorem CommandId.value_lt (commandId : CommandId) : commandId.value < 256 ^ 4 := by
  cases commandId <;> decide

theorem CommandStatus.value_lt (commandStatus : CommandStatus) : commandStatus.value < 256 ^ 4 := by
  cases commandStatus <;> decide

theorem encodeHeader_writesIff (header : Header) :
    WritesIff (header.commandLength < 256 ^ 4 ∧ header.sequenceNumber < 256 ^ 4) headerLength
      (encodeHeader header) := by
  have hfields := (((encodeUint32_writesIff header.commandLength).append
    (encodeUint32_writesIff header.commandId.value)).append
    (encodeUint32_writesIff header.commandStatus.value)).append
    (encodeUint32_writesIff header.sequenceNumber)
  simp only [bind_assoc, pure_bind] at hfields
  apply hfields.congr
  have hid := header.commandId.value_lt
  have hstatus := header.commandStatus.value_lt
  simp only [hid, hstatus, and_true]

/-- A response that fits into a PDU. -/
def Response.Sendable (res : Response) : Prop :=
  res.Encodable ∧ headerLength + res.bodyLength < 256 ^ 4

end HatDrivers.Smpp.Transport
