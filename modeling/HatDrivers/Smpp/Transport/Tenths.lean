import HatDrivers.Smpp.Transport.Codes

namespace HatDrivers.Smpp.Transport

open HatDrivers.Lib

/-!
# SMPP — times are rounded to tenths of seconds

A time is written with one digit for its tenths of a second.  It is rounded to them, but what is
rounded up to a whole second is not carried into the seconds: of an absolute time ten tenths are
written, which is a character too many, and of a relative time none, so that it is read a second
early.  `Time.TenthsFit` are the times for which there is nothing to carry, and they are the ones
that are read as the nearest tenth of a second (`encodeTime_rounded_iff`).
-/

/-! ### Instants and durations -/

/-- The days from the last before the year 1 on. -/
def dateOrdinal (year month day : ℤ) : ℤ :=
  365 * (year - 1) + (year - 1) / 4 - (year - 1) / 100 + (year - 1) / 400 +
    ((List.range (month - 1).toNat).map fun i => daysInMonth year (i + 1)).sum + day

/-- The microseconds of an absolute time, in UTC. -/
def AbsoluteTime.instant (time : AbsoluteTime) : ℤ :=
  (((dateOrdinal time.year time.month time.day * 24 + time.hour) * 60 + time.minute) * 60 +
    time.second) * 1000000 + time.microsecond - time.utcoffset

/-- The months of a relative time, which have no fixed number of days. -/
def RelativeTime.totalMonths (time : RelativeTime) : ℤ := 12 * time.years + time.months

/-- The seconds of a relative time, without its months. -/
def RelativeTime.totalSeconds (time : RelativeTime) : ℚ :=
  ((time.days * 24 + time.hours) * 60 + time.minutes) * 60 + time.seconds

/-- A bound on what is lost by doubles. -/
def doubleError : ℚ := 1 / 10 ^ 9

/-- The nearest tenth of a second. -/
def AbsoluteTime.RoundedTo (time rounded : AbsoluteTime) : Prop :=
  rounded.instant % 100000 = 0 ∧ 2 * |rounded.instant - time.instant| ≤ 100000

/-- The nearest tenth of a second, up to what is lost by doubles. -/
def RelativeTime.RoundedTo (time rounded : RelativeTime) : Prop :=
  rounded.totalMonths = time.totalMonths ∧
    ∃ tenths : ℤ, |rounded.totalSeconds - tenths / 10| ≤ doubleError ∧
      |tenths / 10 - time.totalSeconds| ≤ 1 / 20 + doubleError

/-- One time is the other, rounded to the nearest tenth of a second. -/
def Time.RoundedTo : Time → Time → Prop
  | .absolute time, .absolute rounded => time.RoundedTo rounded
  | .relative time, .relative rounded => time.RoundedTo rounded
  | _, _ => False

/-- A time is written with 16 characters, and read as the nearest tenth of a second. -/
def Time.Rounded (time : Time) : Prop :=
  ∃ cs rounded, encodeTime (some time) = .ok (cs ++ [0]) ∧ cs.length = 16 ∧
    decodeTime (bytesOf (cs ++ [0])) = .ok (some rounded, []) ∧ time.RoundedTo rounded

/-- The times of this century in zones of whole quarters of an hour, and the relative times of
two digits each. -/
def Time.InRange : Time → Prop
  | .absolute time => (2000 ≤ time.year ∧ time.year < 2100) ∧
    time.utcoffset % quarterMicroseconds = 0
  | .relative time => TwoDigits time.years ∧ TwoDigits time.months ∧ TwoDigits time.days ∧
    TwoDigits time.hours ∧ TwoDigits time.minutes ∧ 0 ≤ time.seconds ∧ time.seconds < 60

/-- The tenths are not rounded up to a whole second. -/
def Time.TenthsFit : Time → Prop
  | .absolute time => time.microsecond < 950000
  | .relative time => toDouble (time.seconds * 10) < 10 * ⌊time.seconds⌋ + 19 / 2

/-! ### Absolute times -/

/-- Only the microseconds of the instant are rounded. -/
theorem AbsoluteTime.roundedTo {time rounded : AbsoluteTime} {tenths : ℤ}
    (hutcoffset : time.utcoffset % quarterMicroseconds = 0)
    (hround : 2 * |100000 * tenths - time.microsecond| ≤ 100000)
    (hrounded : rounded.instant - 100000 * tenths = time.instant - time.microsecond) :
    time.RoundedTo rounded := by
  have hdiff : rounded.instant - time.instant = 100000 * tenths - time.microsecond := by omega
  have hwhole : (time.instant - time.microsecond) % 100000 = 0 := by
    rw [quarterMicroseconds] at hutcoffset
    rw [AbsoluteTime.instant]
    omega
  refine ⟨?_, by rw [hdiff]; exact hround⟩
  omega

theorem parseTime_formatAbsoluteTime_rounded {time : AbsoluteTime}
    (h : (Time.absolute time).InRange) (hfit : (Time.absolute time).TenthsFit) :
    ∃ rounded, parseTime (formatAbsoluteTime time) = .ok rounded ∧
      (Time.absolute time).RoundedTo rounded := by
  obtain ⟨hyear, hutcoffset⟩ := h
  obtain ⟨hnonneg, _⟩ := time.valid.microsecond_mem
  have hround := abs_roundHalfEven_sub_le ((time.microsecond : ℚ) / 100000)
  have hten : roundHalfEven ((time.microsecond : ℚ) / 100000) < 10 := by
    have hcast : (time.microsecond : ℚ) < 950000 := by exact_mod_cast hfit
    rw [roundHalfEven_lt_even (by rfl), div_lt_iff₀ (by norm_num)]
    norm_num
    exact hcast
  have hzero : 0 ≤ roundHalfEven ((time.microsecond : ℚ) / 100000) := by
    have hfloor : 0 ≤ ⌊(time.microsecond : ℚ) / 100000⌋ := by
      have hcast : (0 : ℚ) ≤ time.microsecond := by exact_mod_cast hnonneg
      rw [Int.floor_nonneg]
      positivity
    exact hfloor.trans (roundHalfEven_mem _).1
  obtain ⟨tenths, htenths⟩ := Int.eq_ofNat_of_zero_le hzero
  rw [htenths] at hten hround
  have hnear : 2 * |100000 * (tenths : ℤ) - time.microsecond| ≤ 100000 := by
    have hscale : (2 * |100000 * (tenths : ℤ) - time.microsecond| : ℚ) ≤ 100000 := by
      have hfactor : (100000 * (tenths : ℤ) - time.microsecond : ℚ) =
          100000 * ((tenths : ℤ) - time.microsecond / 100000) := by
        field_simp
      push_cast at hfactor hround ⊢
      rw [hfactor, abs_mul, abs_of_pos (by norm_num)]
      linarith
    exact_mod_cast hscale
  have hdate : ValidDate time.year time.month time.day time.hour time.minute time.second
      (tenths * 100000) :=
    { time.valid with microsecond_mem := by omega }
  have hmk : mkAbsoluteTime time.year time.month time.day time.hour time.minute time.second
      (tenths * 100000) time.utcoffset = .ok { time with
        microsecond := tenths * 100000
        naive := false
        valid := hdate } := by
    rw [mkAbsoluteTime, dif_pos time.utcoffset_valid, dif_pos hdate]
  rw [parseTime_formatAbsoluteTime_tenths hyear hutcoffset (by omega) htenths, hmk]
  refine ⟨_, rfl, AbsoluteTime.roundedTo hutcoffset hnear ?_⟩
  simp only [AbsoluteTime.instant]
  omega

/-! ### Relative times -/

/-- The tenths of seconds that are read are near to those that were written. -/
theorem abs_readTenths_sub_le {tenths : ℕ} (h : tenths < 600) :
    |readTenths tenths - tenths / 10| ≤ doubleError := by
  have hdiv : (tenths : ℚ) / 10 = (tenths / 10 : ℕ) + (tenths % 10 : ℕ) / 10 := by
    have hcast : ((10 * (tenths / 10) + tenths % 10 : ℕ) : ℚ) = tenths :=
      congrArg Nat.cast (Nat.div_add_mod tenths 10)
    push_cast at hcast ⊢
    linarith
  have hseconds : ((tenths / 10 : ℕ) : ℚ) ≤ 59 := by exact_mod_cast (by omega : tenths / 10 ≤ 59)
  have hdigit : ((tenths % 10 : ℕ) : ℚ) ≤ 9 := by exact_mod_cast (by omega : tenths % 10 ≤ 9)
  have hseconds' : (0 : ℚ) ≤ (tenths / 10 : ℕ) := Nat.cast_nonneg _
  have hdigit' : (0 : ℚ) ≤ (tenths % 10 : ℕ) := Nat.cast_nonneg _
  rw [readTenths, hdiv, doubleError]
  generalize ((tenths / 10 : ℕ) : ℚ) = seconds at *
  generalize ((tenths % 10 : ℕ) : ℚ) = digit at *
  -- each of the three operations rounds by little
  have htenth := abs_toDouble_sub_le (1 / 10)
  rw [abs_of_pos (show (0 : ℚ) < 1 / 10 by norm_num), abs_le] at htenth
  generalize toDouble (1 / 10) = tenth at *
  have htenth' : 0 ≤ tenth ∧ tenth ≤ 1 := by
    norm_num at htenth
    constructor <;> linarith
  have hproduct := abs_toDouble_sub_le (digit * tenth)
  have hproduct' : 0 ≤ digit * tenth ∧ digit * tenth ≤ 9 :=
    ⟨mul_nonneg hdigit' htenth'.1, by nlinarith⟩
  have herror : |digit * tenth - digit / 10| ≤ 9 / 2 ^ 53 := by
    have hfactor : digit * tenth - digit / 10 = digit * (tenth - 1 / 10) := by ring
    rw [hfactor, abs_mul, abs_of_nonneg hdigit']
    have hsmall : |tenth - 1 / 10| ≤ 1 / 2 ^ 53 := by
      rw [abs_le]
      norm_num at htenth ⊢
      constructor <;> linarith
    calc digit * |tenth - 1 / 10|
      _ ≤ 9 * (1 / 2 ^ 53) := by gcongr
      _ = 9 / 2 ^ 53 := by ring
  rw [abs_of_nonneg hproduct'.1, abs_le] at hproduct
  rw [abs_le] at herror
  generalize toDouble (digit * tenth) = fraction at *
  generalize digit * tenth = product at *
  have hfraction : 0 ≤ seconds + fraction + 1 ∧ |seconds + fraction| ≤ 70 := by
    norm_num at hproduct
    constructor
    · linarith
    · rw [abs_le]
      constructor <;> linarith
  have hsum := abs_toDouble_sub_le (seconds + fraction)
  have hsum' : |seconds + fraction| / 2 ^ 53 ≤ 70 / 2 ^ 53 := by gcongr; exact hfraction.2
  have hread := hsum.trans hsum'
  rw [abs_le] at hread ⊢
  norm_num at hproduct herror hread ⊢
  constructor <;> linarith

section Relative

variable {seconds : ℚ} (hlo : 0 ≤ seconds) (hhi : seconds < 60)

include hlo hhi

theorem abs_toDouble_mul_ten_sub_le : |toDouble (seconds * 10) - seconds * 10| ≤ doubleError := by
  have hround := abs_toDouble_sub_le (seconds * 10)
  rw [abs_of_nonneg (by positivity : 0 ≤ seconds * 10)] at hround
  refine hround.trans ?_
  calc seconds * 10 / 2 ^ 53
    _ ≤ 60 * 10 / 2 ^ 53 := by gcongr
    _ ≤ doubleError := by norm_num [doubleError]

/-- The tenths are those of the second, or up to the next one. -/
theorem roundTenths_mem :
    10 * ⌊seconds⌋ ≤ roundHalfEven (toDouble (seconds * 10)) ∧
      roundHalfEven (toDouble (seconds * 10)) ≤ 10 * ⌊seconds⌋ + 10 := by
  have hdouble := abs_toDouble_mul_ten_sub_le hlo hhi
  have hround := abs_roundHalfEven_sub_le (toDouble (seconds * 10))
  have hfloor : (⌊seconds⌋ : ℚ) ≤ seconds := Int.floor_le seconds
  have hfloor' : seconds < ⌊seconds⌋ + 1 := Int.lt_floor_add_one seconds
  rw [doubleError, abs_le] at hdouble
  rw [abs_le] at hround
  norm_num at hdouble
  generalize roundHalfEven (toDouble (seconds * 10)) = tenths at *
  have hge : ((10 * ⌊seconds⌋ - 1 : ℤ) : ℚ) < tenths := by
    push_cast
    linarith
  have hle : (tenths : ℚ) < ((10 * ⌊seconds⌋ + 11 : ℤ) : ℚ) := by
    push_cast
    linarith
  have hge' : 10 * ⌊seconds⌋ - 1 < tenths := by exact_mod_cast hge
  have hle' : tenths < 10 * ⌊seconds⌋ + 11 := by exact_mod_cast hle
  omega

theorem floor_seconds : 0 ≤ ⌊seconds⌋ ∧ ⌊seconds⌋ < 60 := by
  rw [Int.floor_nonneg, Int.floor_lt]
  exact ⟨hlo, by exact_mod_cast hhi⟩

end Relative

/-- The seconds and the tenths of a relative time are read apart. -/
theorem parseTime_formatRelativeTime_tenths {time : RelativeTime}
    (h : (Time.relative time).InRange) {digit : ℕ} (hdigit : digit < 10)
    (hround : roundHalfEven (toDouble (time.seconds * 10)) % 10 = digit) :
    parseTime (formatRelativeTime time) = .ok (.relative { time with
      seconds := readTenths (10 * ⌊time.seconds⌋.toNat + digit) }) := by
  obtain ⟨hyears, hmonths, hdays, hhours, hminutes, hlo, hhi⟩ := h
  have hfloor := floor_seconds hlo hhi
  have hseconds : TwoDigits ⌊time.seconds⌋ := ⟨hfloor.1, by omega⟩
  have htruncate : truncate time.seconds = ⌊time.seconds⌋ := by
    rw [truncate, if_neg (not_lt.mpr hlo)]
  have hparse := parseTime_fields hyears hmonths hdays hhours hminutes hseconds hdigit
    (show TwoDigits 0 by decide) 'R'
  rw [formatRelativeTime, htruncate, hround]
  rw [if_pos rfl, List.append_assoc] at hparse
  refine hparse.trans ?_
  have hdiv : (10 * ⌊time.seconds⌋.toNat + digit) / 10 = ⌊time.seconds⌋.toNat := by omega
  have hmod : (10 * ⌊time.seconds⌋.toNat + digit) % 10 = digit := by omega
  have hcast : ((⌊time.seconds⌋.toNat : ℕ) : ℚ) = ⌊time.seconds⌋ := by
    exact_mod_cast Int.toNat_of_nonneg hfloor.1
  rw [readTenths, hdiv, hmod, hcast]

/-- The seconds of a relative time may be replaced by what is near to their nearest tenth. -/
theorem RelativeTime.roundedTo {time : RelativeTime} {seconds : ℚ} {tenths : ℤ}
    (hseconds : |seconds - tenths / 10| ≤ doubleError)
    (hnear : |tenths / 10 - time.seconds| ≤ 1 / 20 + doubleError) :
    time.RoundedTo { time with seconds := seconds } := by
  refine ⟨rfl, ((time.days * 24 + time.hours) * 60 + time.minutes) * 60 * 10 + tenths, ?_, ?_⟩
  · have hdiff : ({ time with seconds := seconds } : RelativeTime).totalSeconds -
        ((((time.days * 24 + time.hours) * 60 + time.minutes) * 60 * 10 + tenths : ℤ) : ℚ) / 10 =
        seconds - tenths / 10 := by
      rw [RelativeTime.totalSeconds]
      push_cast
      ring
    rwa [hdiff]
  · have hdiff :
        ((((time.days * 24 + time.hours) * 60 + time.minutes) * 60 * 10 + tenths : ℤ) : ℚ) / 10 -
        time.totalSeconds = tenths / 10 - time.seconds := by
      rw [RelativeTime.totalSeconds]
      push_cast
      ring
    rwa [hdiff]

/-- What a relative time is rounded to is not far from it. -/
theorem RelativeTime.RoundedTo.near {time : RelativeTime} {seconds : ℚ}
    (h : time.RoundedTo { time with seconds := seconds }) :
    |seconds - time.seconds| ≤ 1 / 20 + 2 * doubleError := by
  obtain ⟨_, tenths, hseconds, hnear⟩ := h
  have hdiff : ({ time with seconds := seconds } : RelativeTime).totalSeconds -
      time.totalSeconds = seconds - time.seconds := by
    simp only [RelativeTime.totalSeconds]
    ring
  rw [← hdiff]
  calc |({ time with seconds := seconds } : RelativeTime).totalSeconds - time.totalSeconds|
    _ ≤ |({ time with seconds := seconds } : RelativeTime).totalSeconds - tenths / 10| +
        |tenths / 10 - time.totalSeconds| := abs_sub_le _ _ _
    _ ≤ doubleError + (1 / 20 + doubleError) := add_le_add hseconds hnear
    _ = 1 / 20 + 2 * doubleError := by ring

theorem cast_tenths {seconds : ℤ} (h : 0 ≤ seconds) (digit : ℕ) :
    ((10 * seconds.toNat + digit : ℕ) : ℚ) = ((10 * seconds + digit : ℤ) : ℚ) := by
  have hcast : ((10 * seconds.toNat + digit : ℕ) : ℤ) = 10 * seconds + digit := by omega
  exact_mod_cast hcast

/-- The tenths that are written are the nearest, if there are less than ten. -/
theorem roundedTo_readTenths {time : RelativeTime} (h : (Time.relative time).InRange)
    {digit : ℕ} (hdigit : digit < 10)
    (hround : roundHalfEven (toDouble (time.seconds * 10)) = 10 * ⌊time.seconds⌋ + digit) :
    time.RoundedTo { time with seconds := readTenths (10 * ⌊time.seconds⌋.toNat + digit) } := by
  obtain ⟨_, _, _, _, _, hlo, hhi⟩ := h
  have hfloor := floor_seconds hlo hhi
  have hread := abs_readTenths_sub_le
    (show 10 * ⌊time.seconds⌋.toNat + digit < 600 by omega)
  have hnear := abs_roundHalfEven_sub_le (toDouble (time.seconds * 10))
  have hdouble := abs_toDouble_mul_ten_sub_le hlo hhi
  rw [cast_tenths hfloor.1] at hread
  rw [hround] at hnear
  refine RelativeTime.roundedTo hread ?_
  generalize ((10 * ⌊time.seconds⌋ + digit : ℤ) : ℚ) = tenths at *
  have hpos : (0 : ℚ) ≤ doubleError := by norm_num [doubleError]
  rw [abs_le] at hnear hdouble ⊢
  constructor <;> linarith

/-- A relative time whose tenths are rounded up to a second is read as a second before that. -/
theorem not_roundedTo_readTenths {time : RelativeTime} (h : (Time.relative time).InRange)
    (hfit : ¬ (Time.relative time).TenthsFit) :
    ¬ time.RoundedTo { time with seconds := readTenths (10 * ⌊time.seconds⌋.toNat + 0) } := by
  obtain ⟨_, _, _, _, _, hlo, hhi⟩ := h
  have hfloor := floor_seconds hlo hhi
  have hread := abs_readTenths_sub_le (show 10 * ⌊time.seconds⌋.toNat + 0 < 600 by omega)
  have hdouble := abs_toDouble_mul_ten_sub_le hlo hhi
  rw [Time.TenthsFit, not_lt] at hfit
  rw [cast_tenths hfloor.1] at hread
  intro hrounded
  have hnear := hrounded.near
  push_cast at hread
  have hsmall : doubleError ≤ 1 / 100 := by norm_num [doubleError]
  generalize doubleError = ε at *
  generalize readTenths (10 * ⌊time.seconds⌋.toNat + 0) = seconds at *
  rw [abs_le] at hread hdouble hnear
  linarith

/-! ### Times -/

/-- What is read of a time that is written with 16 characters. -/
theorem decodeTime_of_encodable {time : Time} (h : time.Encodable) :
    ∃ cs, encodeTime (some time) = .ok (cs ++ [0]) ∧ cs.length = 16 ∧
      decodeTime (bytesOf (cs ++ [0])) =
        (parseTime (formatTime (some time))).map fun rounded => (some rounded, []) := by
  have h16 := (length_formatTime time).mpr h
  have hascii : (String.ofList (formatTime (some time))).toList.all fun c => c.toNat < 128 := by
    rw [List.all_eq_true]
    exact fun c hc => decide_eq_true ((nulFreeAscii_formatTime (some time)).ascii c hc)
  have hwrite : encodeCstring (String.ofList (formatTime (some time))) =
      .ok ((formatTime (some time)).map Char.toNat ++ [0]) := by
    rw [encodeCstring, encodeAscii, if_pos hascii, String.toList_ofList]
    rfl
  obtain ⟨ns, hw, _, hr⟩ := cstring_codes (nulFreeAscii_formatTime (some time))
  rw [hwrite] at hw
  obtain rfl := Except.ok.inj hw
  refine ⟨(formatTime (some time)).map Char.toNat, ?_, by rw [List.length_map, h16], ?_⟩
  · simp only [encodeTime, h16, ne_eq, not_true_eq_false, and_false, if_false, hwrite]
  · have hread := hr.all
    simp only [decodeTime, hread, ok_bind, String.toList_ofList,
      if_neg (formatTime_ne_nil time)]
    cases parseTime (formatTime (some time)) <;> rfl

theorem encodable_relative {time : RelativeTime} (h : (Time.relative time).InRange) :
    (Time.relative time).Encodable := by
  obtain ⟨hyears, hmonths, hdays, hhours, hminutes, hlo, hhi⟩ := h
  have hfloor := floor_seconds hlo hhi
  have htruncate : truncate time.seconds = ⌊time.seconds⌋ := by
    rw [truncate, if_neg (not_lt.mpr hlo)]
  refine ⟨hyears.twoChars, hmonths.twoChars, hdays.twoChars, hhours.twoChars,
    hminutes.twoChars, ?_⟩
  rw [htruncate]
  exact ⟨by omega, by omega⟩

/-- **Tenths of seconds are not carried.**  A time is written with 16 characters and read as the
nearest tenth of a second just if its tenths are not rounded up to a second. -/
theorem encodeTime_rounded_iff {time : Time} (h : time.InRange) :
    time.Rounded ↔ time.TenthsFit := by
  cases time with
  | absolute time =>
    constructor
    · rintro ⟨cs, _, hencode, hlen, _, _⟩
      have hwrites := encodeTime_writesIff (some (.absolute time))
      exact hwrites.ok_iff.mp ⟨_, hencode⟩ _ rfl
    · intro hfit
      have hencodable : (Time.absolute time).Encodable := hfit
      obtain ⟨cs, hencode, hlen, hdecode⟩ := decodeTime_of_encodable hencodable
      obtain ⟨rounded, hparse, hrounded⟩ := parseTime_formatAbsoluteTime_rounded h hfit
      refine ⟨cs, rounded, hencode, hlen, ?_, hrounded⟩
      rw [hdecode, formatTime, hparse]
      rfl
  | relative time =>
    obtain ⟨cs, hencode, hlen, hdecode⟩ := decodeTime_of_encodable (encodable_relative h)
    have hmem := roundTenths_mem h.2.2.2.2.2.1 h.2.2.2.2.2.2
    have hfit : roundHalfEven (toDouble (time.seconds * 10)) < 10 * ⌊time.seconds⌋ + 10 ↔
        (Time.relative time).TenthsFit := by
      rw [roundHalfEven_lt_even (by omega), Time.TenthsFit]
      push_cast
      constructor <;> intro hlt <;> linarith
    constructor
    · rintro ⟨cs', rounded, hencode', _, hdecode', hrounded⟩
      by_contra hnot
      have hten : roundHalfEven (toDouble (time.seconds * 10)) = 10 * ⌊time.seconds⌋ + 10 := by
        rw [← hfit] at hnot
        omega
      have hparse := parseTime_formatRelativeTime_tenths h (show 0 < 10 by omega)
        (by rw [hten]; omega)
      rw [hencode] at hencode'
      rw [← Except.ok.inj hencode', hdecode, formatTime, hparse] at hdecode'
      obtain rfl := Option.some.inj (Prod.mk.inj (Except.ok.inj hdecode')).1
      exact not_roundedTo_readTenths h hnot hrounded
    · intro hlt
      rw [← hfit] at hlt
      obtain ⟨digit, hdigit⟩ := Int.eq_ofNat_of_zero_le
        (show 0 ≤ roundHalfEven (toDouble (time.seconds * 10)) - 10 * ⌊time.seconds⌋ by omega)
      have hround : roundHalfEven (toDouble (time.seconds * 10)) = 10 * ⌊time.seconds⌋ + digit := by
        omega
      have hparse := parseTime_formatRelativeTime_tenths h (show digit < 10 by omega) (by omega)
      refine ⟨cs, .relative _, hencode, hlen, ?_, roundedTo_readTenths h (by omega) hround⟩
      rw [hdecode, formatTime, hparse]
      rfl

theorem encodeTime_rounded_leapDay :
    (Time.absolute ⟨2024, 2, 29, 23, 59, 59, 949999, false, 3600000000, by decide,
      by decide⟩).Rounded := by
  refine (encodeTime_rounded_iff ?_).mpr ?_
  · show (2000 ≤ (2024 : ℤ) ∧ (2024 : ℤ) < 2100) ∧ 3600000000 % quarterMicroseconds = 0
    decide
  · show (949999 : ℤ) < 950000
    decide

/-- Less than a tenth before a second, an absolute time is not written, and of a relative one the
second before is read. -/
theorem carried_second_lost :
    ¬ (Time.absolute ⟨2024, 1, 1, 0, 0, 0, 950000, false, 0, by decide, by decide⟩).Rounded ∧
      formatTime (some (.relative ⟨0, 0, 0, 0, 0, toDouble (597 / 100)⟩)) =
        "000000000005000R".toList ∧
      parseTime "000000000005000R".toList = .ok (.relative ⟨0, 0, 0, 0, 0, 5⟩) := by
  refine ⟨?_, ?_, ?_⟩
  · rintro ⟨cs, _, hencode, _⟩
    have herror : encodeTime (some (.absolute ⟨2024, 1, 1, 0, 0, 0, 950000, false, 0, by decide,
        by decide⟩)) = .error (.exn (.exception "invalid time string length")) := by
      decide +kernel
    rw [herror] at hencode
    cases hencode
  · decide +kernel
  · decide +kernel

end HatDrivers.Smpp.Transport
