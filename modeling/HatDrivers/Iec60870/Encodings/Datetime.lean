import HatDrivers.Iec60870.Encodings.Time
import HatDrivers.Lib.LocalTime

namespace HatDrivers.Iec60870.Encodings

open HatDrivers.Lib

/-!
# IEC 60870-5 encodings — times as instants

`time_to_datetime`, where the local time is at a fixed offset from UTC, and its dates have no
bounds.  Times of two and of three bytes do not say their hour or their minute: they are taken
for the nearest instant to the current time (`timeToDatetime_nearest`).
-/

/-! ### Local times -/

/-- `year % 4 == 0 and (year % 100 != 0 or year % 400 == 0)`. -/
def isLeap (year : ℕ) : Bool := year % 4 = 0 ∧ (year % 100 ≠ 0 ∨ year % 400 = 0)

def daysInMonth (year month : ℕ) : ℕ :=
  if month = 2 then if isLeap year then 29 else 28
  else if month = 4 ∨ month = 6 ∨ month = 9 ∨ month = 11 then 30
  else 31

/-- The number of a date. -/
def dateOrdinal (year month day : ℕ) : ℕ :=
  (year - 1) * 365 + (year - 1) / 4 - (year - 1) / 100 + (year - 1) / 400 +
    ((List.range (month - 1)).map fun m => daysInMonth year (m + 1)).sum + day

example : dateOrdinal 2000 3 1 = 730180 := by decide

/-- A time of a day. -/
def makeTime (day : ℤ) (hour minute second microsecond : ℕ) : Except Exn LocalTime :=
  if hhour : hour < 24 then
    if hminute : minute < 60 then
      if hsecond : second < 60 then
        if hmicrosecond : microsecond < 1000000 then
          .ok ⟨day, hour, minute, second, microsecond, hhour, hminute, hsecond, hmicrosecond⟩
        else .error (.valueError "microsecond must be in 0..999999")
      else .error (.valueError "second must be in 0..59")
    else .error (.valueError "minute must be in 0..59")
  else .error (.valueError "hour must be in 0..23")

/-- `datetime.datetime(...)`. -/
def makeDatetime (year month day hour minute second microsecond : ℕ) : Except Exn LocalTime :=
  if ¬ (1 ≤ year ∧ year ≤ 9999) then
    .error (.valueError ("year " ++ toString year ++ " is out of range"))
  else if ¬ (1 ≤ month ∧ month ≤ 12) then .error (.valueError "month must be in 1..12")
  else if ¬ (1 ≤ day ∧ day ≤ daysInMonth year month) then
    .error (.valueError "day is out of range for month")
  else makeTime (dateOrdinal year month day) hour minute second microsecond

/-! ### Times of two and three bytes -/

/-- The second and the microsecond of a time. -/
def Time.secondOf (t : Time) : ℕ := t.milliseconds / 1000

def Time.microsecondOf (t : Time) : ℕ := t.milliseconds % 1000 * 1000

/-- A correction by a period, if the current time and the given one are more than 30 apart. -/
def nearPeriod (localDt : LocalTime) (localValue tValue : ℚ) (period : ℤ) : LocalTime :=
  if |localValue - tValue| > 30 then
    if localValue < tValue then localDt.add (-period) else localDt.add period
  else localDt

/-- The local time of a time, where it is `localNow`. -/
def localDatetime (localNow : LocalTime) (t : Time) : Except Exn LocalTime :=
  match t.size with
  | .TWO => do
    let localDt ← makeTime localNow.day localNow.hour localNow.minute t.secondOf t.microsecondOf
    let localSeconds : ℚ := localNow.second + localNow.microsecond / 1000000
    let tSeconds : ℚ := t.milliseconds / 1000
    return nearPeriod localDt localSeconds tSeconds 60000000
  | .THREE => do
    let minutes ← required t.minutes
    let localDt ← makeTime localNow.day localNow.hour minutes t.secondOf t.microsecondOf
    let localMinutes : ℚ :=
      localNow.minute + localNow.second / 60 + localNow.microsecond / 60000000
    let tMinutes : ℚ := minutes + t.milliseconds / 60000
    return nearPeriod localDt localMinutes tMinutes 3600000000
  | .SEVEN => do
    let years ← required t.years
    let months ← required t.months
    let dayOfMonth ← required t.dayOfMonth
    let hours ← required t.hours
    let minutes ← required t.minutes
    makeDatetime (if years < 70 then 2000 + years else 1900 + years) months dayOfMonth hours
      minutes t.secondOf t.microsecondOf
  | .FOUR => .error (.valueError "unsupported time size")

/-- The instant of a local time that is by `utcoffset` ahead of UTC, in microseconds. -/
def instant (utcoffset : ℤ) (x : LocalTime) : ℤ := x.microseconds - utcoffset

/-- The instant of a time, where it is `localNow`. -/
def timeToDatetime (utcoffset : ℤ) (localNow : LocalTime) (t : Time) : Except Exn ℤ := do
  let localDt ← localDatetime localNow t
  return instant utcoffset localDt

/-! ### The nearest instant -/

/-- A local time has the fields of a time. -/
def Time.Agrees (t : Time) (x : LocalTime) : Prop :=
  x.second = t.secondOf ∧ x.microsecond = t.microsecondOf ∧
    (t.size = .THREE → t.minutes = some x.minute)

/-- Half of the period in which the fields of a time come again. -/
def TimeSize.halfPeriod : TimeSize → ℤ
  | .TWO => 30 * 1000000
  | .THREE => 30 * 60 * 1000000
  | .FOUR | .SEVEN => 0

variable {t : Time} {localNow : LocalTime}

/-- Times in units of `c` microseconds, compared as integers. -/
theorem farther_iff {c : ℤ} (hc : 0 < c) (m n : ℤ) :
    |(m / c : ℚ) - n / c| > 30 ↔ 30 * c < |m - n| := by
  have hcast : (0 : ℚ) < c := Int.cast_pos.mpr hc
  rw [← sub_div, abs_div, abs_of_pos hcast, gt_iff_lt, lt_div_iff₀ hcast]
  norm_cast

theorem earlier_iff {c : ℤ} (hc : 0 < c) (m n : ℤ) : (m / c : ℚ) < n / c ↔ m < n := by
  have hcast : (0 : ℚ) < c := Int.cast_pos.mpr hc
  rw [div_lt_div_iff_of_pos_right hcast]
  norm_cast

/-- The correction keeps the time within the period of 60 units, and leaves at most half of it to
the current time. -/
theorem nearPeriod_spec {localDt : LocalTime} {c m n : ℤ} (hc : 0 < c)
    (hnow : localNow.microseconds % (60 * c) = m) (hdt : localDt.microseconds % (60 * c) = n)
    (hsame : localDt.microseconds / (60 * c) = localNow.microseconds / (60 * c)) :
    (nearPeriod localDt (m / c) (n / c) (60 * c)).microseconds % (60 * c) = n ∧
      2 * |(nearPeriod localDt (m / c) (n / c) (60 * c)).microseconds - localNow.microseconds| ≤
        60 * c := by
  have hdiff : localDt.microseconds - localNow.microseconds = n - m := by
    have h₁ := Int.mul_ediv_add_emod localDt.microseconds (60 * c)
    have h₂ := Int.mul_ediv_add_emod localNow.microseconds (60 * c)
    rw [hsame] at h₁
    omega
  have hm := Int.emod_nonneg localNow.microseconds (show 60 * c ≠ 0 by omega)
  have hn := Int.emod_nonneg localDt.microseconds (show 60 * c ≠ 0 by omega)
  have hm' := Int.emod_lt_of_pos localNow.microseconds (show 0 < 60 * c by omega)
  have hn' := Int.emod_lt_of_pos localDt.microseconds (show 0 < 60 * c by omega)
  rw [hnow] at hm hm'
  rw [hdt] at hn hn'
  rw [nearPeriod]
  by_cases hfar : 30 * c < |m - n|
  · rw [if_pos ((farther_iff hc m n).mpr hfar)]
    by_cases hlt : m < n
    · rw [if_pos ((earlier_iff hc m n).mpr hlt), LocalTime.microseconds_add]
      rw [abs_of_neg (by omega)] at hfar
      refine ⟨by rw [Int.add_neg_emod_self]; exact hdt, ?_⟩
      rw [abs_of_nonpos (by omega)]
      omega
    · rw [if_neg (fun h => hlt ((earlier_iff hc m n).mp h)), LocalTime.microseconds_add]
      rw [abs_of_nonneg (by omega)] at hfar
      refine ⟨by rw [Int.add_emod_right]; exact hdt, ?_⟩
      rw [abs_of_nonneg (by omega)]
      omega
  · rw [if_neg (fun h => hfar ((farther_iff hc m n).mp h)), hdiff, abs_sub_comm]
    exact ⟨hdt, by omega⟩

/-- The milliseconds of a time, within the minute. -/
theorem agrees_two_iff (hsize : t.size = .TWO) {x : LocalTime} :
    t.Agrees x ↔ x.microseconds % 60000000 = t.milliseconds * 1000 := by
  have hsecond := x.second_lt
  have hmicrosecond := x.microsecond_lt
  rw [LocalTime.microseconds_emod_minute, Time.Agrees, Time.secondOf, Time.microsecondOf, hsize]
  constructor
  · rintro ⟨hs, hms, -⟩
    omega
  · intro h
    exact ⟨by omega, by omega, nofun⟩

/-- The minutes and milliseconds of a time, within the hour. -/
theorem agrees_three_iff {minutes : ℕ} (hms : t.milliseconds ≤ 59999) (hsize : t.size = .THREE)
    (hminutes : t.minutes = some minutes) {x : LocalTime} :
    t.Agrees x ↔ x.microseconds % 3600000000 = minutes * 60000000 + t.milliseconds * 1000 := by
  have hsecond := x.second_lt
  have hmicrosecond := x.microsecond_lt
  rw [LocalTime.microseconds_emod_hour, Time.Agrees, Time.secondOf, Time.microsecondOf, hminutes]
  simp only [hsize, forall_const, Option.some.injEq]
  constructor
  · rintro ⟨hs, hms, hm⟩
    omega
  · intro h
    exact ⟨by omega, by omega, by omega⟩

theorem makeTime_eq_ok {day : ℤ} {hour minute second microsecond : ℕ} (hhour : hour < 24)
    (hminute : minute < 60) (hsecond : second < 60) (hmicrosecond : microsecond < 1000000) :
    makeTime day hour minute second microsecond =
      .ok ⟨day, hour, minute, second, microsecond, hhour, hminute, hsecond, hmicrosecond⟩ := by
  rw [makeTime, dif_pos hhour, dif_pos hminute, dif_pos hsecond, dif_pos hmicrosecond]

/-- What the local time of a time of two or three bytes is. -/
theorem localDatetime_spec (hvalid : t.Valid) (hsize : t.size = .TWO ∨ t.size = .THREE) :
    ∃ x, localDatetime localNow t = .ok x ∧ t.Agrees x ∧
      |x.microseconds - localNow.microseconds| ≤ t.size.halfPeriod := by
  have hms := hvalid.milliseconds
  have hsecond : t.secondOf < 60 := by rw [Time.secondOf]; omega
  have hmicrosecond : t.microsecondOf < 1000000 := by rw [Time.microsecondOf]; omega
  rcases hsize with hsize | hsize
  · have hmake := @makeTime_eq_ok localNow.day _ _ _ _ localNow.hour_lt localNow.minute_lt hsecond
      hmicrosecond
    set localDt : LocalTime := ⟨localNow.day, localNow.hour, localNow.minute, t.secondOf,
      t.microsecondOf, localNow.hour_lt, localNow.minute_lt, hsecond, hmicrosecond⟩ with hdt
    have hagrees : localDt.microseconds % 60000000 = t.milliseconds * 1000 :=
      (agrees_two_iff hsize).mp ⟨rfl, rfl, by rw [hsize]; nofun⟩
    have hsame : localDt.microseconds / 60000000 = localNow.microseconds / 60000000 := by
      rw [LocalTime.microseconds_ediv_minute, LocalTime.microseconds_ediv_minute]
    have hspec := nearPeriod_spec (c := 1000000) (by omega) localNow.microseconds_emod_minute
      hagrees hsame
    have hlocal : ((localNow.second * 1000000 + localNow.microsecond : ℤ) : ℚ) / (1000000 : ℤ) =
        localNow.second + localNow.microsecond / 1000000 := by
      push_cast
      ring
    have ht : ((t.milliseconds * 1000 : ℤ) : ℚ) / (1000000 : ℤ) = t.milliseconds / 1000 := by
      push_cast
      ring
    rw [hlocal, ht] at hspec
    refine ⟨_, ?_, (agrees_two_iff hsize).mpr hspec.1, ?_⟩
    · simp only [localDatetime, hsize, hmake, ok_bind]
      rfl
    · have hle := hspec.2
      rw [hsize, TimeSize.halfPeriod]
      omega
  · obtain ⟨minutes, hminutes, hle⟩ : ∃ minutes, t.minutes = some minutes ∧ minutes ≤ 59 := by
      have havailable := hvalid.minutes
      cases hminutes : t.minutes with
      | none =>
        rw [hminutes, hsize] at havailable
        exact absurd (show TimeSize.THREE.value > 2 by decide) havailable
      | some minutes =>
        rw [hminutes] at havailable
        exact ⟨minutes, rfl, havailable.2⟩
    have hminute : minutes < 60 := by omega
    have hmake := @makeTime_eq_ok localNow.day _ _ _ _ localNow.hour_lt hminute hsecond hmicrosecond
    set localDt : LocalTime := ⟨localNow.day, localNow.hour, minutes, t.secondOf,
      t.microsecondOf, localNow.hour_lt, hminute, hsecond, hmicrosecond⟩ with hdt
    have hagrees : localDt.microseconds % 3600000000 = minutes * 60000000 + t.milliseconds * 1000 :=
      (agrees_three_iff hms hsize hminutes).mp ⟨rfl, rfl, fun _ => hminutes⟩
    have hsame : localDt.microseconds / 3600000000 = localNow.microseconds / 3600000000 := by
      rw [LocalTime.microseconds_ediv_hour, LocalTime.microseconds_ediv_hour]
    have hspec := nearPeriod_spec (c := 60000000) (by omega) localNow.microseconds_emod_hour
      hagrees hsame
    have hlocal : ((localNow.minute * 60000000 + (localNow.second * 1000000 +
        localNow.microsecond) : ℤ) : ℚ) / (60000000 : ℤ) =
        localNow.minute + localNow.second / 60 + localNow.microsecond / 60000000 := by
      push_cast
      ring
    have ht : ((minutes * 60000000 + t.milliseconds * 1000 : ℤ) : ℚ) / (60000000 : ℤ) =
        minutes + t.milliseconds / 60000 := by
      push_cast
      ring
    rw [hlocal, ht] at hspec
    refine ⟨_, ?_, (agrees_three_iff hms hsize hminutes).mpr hspec.1, ?_⟩
    · simp only [localDatetime, hsize, hminutes, required, hmake, ok_bind]
      rfl
    · have hle := hspec.2
      rw [hsize, TimeSize.halfPeriod]
      omega

/-- Times that agree are a multiple of the period apart. -/
theorem Time.Agrees.emod_eq (hvalid : t.Valid) (hsize : t.size = .TWO ∨ t.size = .THREE)
    {x y : LocalTime} (hx : t.Agrees x) (hy : t.Agrees y) :
    x.microseconds % (2 * t.size.halfPeriod) = y.microseconds % (2 * t.size.halfPeriod) := by
  rcases hsize with hsize | hsize
  · rw [hsize]
    exact ((agrees_two_iff hsize).mp hx).trans ((agrees_two_iff hsize).mp hy).symm
  · have hms := hvalid.milliseconds
    have hminutes := hx.2.2 hsize
    rw [hsize]
    exact ((agrees_three_iff hms hsize hminutes).mp hx).trans
      ((agrees_three_iff hms hsize hminutes).mp hy).symm

/-- **A short time is the nearest instant with its fields**, at most half a minute or half an hour
away. -/
theorem timeToDatetime_nearest (utcoffset : ℤ) (localNow : LocalTime) {t : Time}
    (hvalid : t.Valid) (hsize : t.size = .TWO ∨ t.size = .THREE) :
    ∃ x, timeToDatetime utcoffset localNow t = .ok (instant utcoffset x) ∧ t.Agrees x ∧
      |instant utcoffset x - instant utcoffset localNow| ≤ t.size.halfPeriod ∧
      ∀ y, t.Agrees y → |instant utcoffset x - instant utcoffset localNow| ≤
        |instant utcoffset y - instant utcoffset localNow| := by
  obtain ⟨x, hx, hagrees, hle⟩ := @localDatetime_spec t localNow hvalid hsize
  have hinstant : ∀ y : LocalTime, instant utcoffset y - instant utcoffset localNow =
      y.microseconds - localNow.microseconds := fun y => sub_sub_sub_cancel_right ..
  refine ⟨x, ?_, hagrees, ?_, fun y hy => ?_⟩
  · rw [timeToDatetime, hx]
    rfl
  · rwa [hinstant]
  · rw [hinstant, hinstant]
    exact abs_sub_le_of_emod_eq (hagrees.emod_eq hvalid hsize hy) (by omega)

/-- Ten seconds into a year, 59 seconds into a minute are of the year before. -/
theorem timeToDatetime_nearest_newYear :
    ∃ x, timeToDatetime 0 ⟨730120, 0, 0, 10, 0, by omega, by omega, by omega, by omega⟩
        ⟨.TWO, 59000, none, none, none, none, none, none, none, none, none⟩ =
          .ok (instant 0 x) ∧
      Time.Agrees ⟨.TWO, 59000, none, none, none, none, none, none, none, none, none⟩ x ∧
      |instant 0 x - instant 0 ⟨730120, 0, 0, 10, 0, by omega, by omega, by omega, by omega⟩| ≤
        TimeSize.TWO.halfPeriod ∧
      ∀ y, Time.Agrees ⟨.TWO, 59000, none, none, none, none, none, none, none, none, none⟩ y →
        |instant 0 x - instant 0 ⟨730120, 0, 0, 10, 0, by omega, by omega, by omega, by omega⟩| ≤
        |instant 0 y - instant 0 ⟨730120, 0, 0, 10, 0, by omega, by omega, by omega, by omega⟩| :=
  timeToDatetime_nearest 0 ⟨730120, 0, 0, 10, 0, by omega, by omega, by omega, by omega⟩
    (t := ⟨.TWO, 59000, none, none, none, none, none, none, none, none, none⟩)
    (by constructor <;> decide) (.inl rfl)

end HatDrivers.Iec60870.Encodings
