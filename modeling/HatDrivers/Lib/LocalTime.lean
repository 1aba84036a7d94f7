import Mathlib.Algebra.Order.Ring.Abs
import Mathlib.Algebra.Order.Ring.Int
import Mathlib.Data.Int.ModEq

namespace HatDrivers.Lib

/-!
# Local times

A date and the time of its day, in microseconds.  Dates are counted, so that the time a while
later is told by their number (`LocalTime.microseconds`).

Of the times that agree up to a period, one that is at most half of it away is the nearest
(`abs_sub_le_of_emod_eq`).
-/

/-- A local time, without a time zone.  Its date is the number of days from the last before the
year 1 on. -/
structure LocalTime where
  day : ℤ
  hour : ℕ
  minute : ℕ
  second : ℕ
  microsecond : ℕ
  hour_lt : hour < 24
  minute_lt : minute < 60
  second_lt : second < 60
  microsecond_lt : microsecond < 1000000
  deriving DecidableEq

namespace LocalTime

/-- The microseconds from the start of day 0 on. -/
def microseconds (x : LocalTime) : ℤ :=
  (((x.day * 24 + x.hour) * 60 + x.minute) * 60 + x.second) * 1000000 + x.microsecond

/-- The time of a number of microseconds. -/
def ofMicroseconds (n : ℤ) : LocalTime where
  day := n / 86400000000
  hour := (n / 3600000000 % 24).toNat
  minute := (n / 60000000 % 60).toNat
  second := (n / 1000000 % 60).toNat
  microsecond := (n % 1000000).toNat
  hour_lt := by omega
  minute_lt := by omega
  second_lt := by omega
  microsecond_lt := by omega

theorem microseconds_ofMicroseconds (n : ℤ) : (ofMicroseconds n).microseconds = n := by
  simp only [microseconds, ofMicroseconds]
  omega

/-- The time some microseconds later. -/
def add (x : LocalTime) (delta : ℤ) : LocalTime := ofMicroseconds (x.microseconds + delta)

theorem microseconds_add (x : LocalTime) (delta : ℤ) :
    (x.add delta).microseconds = x.microseconds + delta := microseconds_ofMicroseconds _

/-- The time within the minute. -/
theorem microseconds_emod_minute (x : LocalTime) :
    x.microseconds % 60000000 = x.second * 1000000 + x.microsecond := by
  have hsecond := x.second_lt
  have hmicrosecond := x.microsecond_lt
  simp only [microseconds]
  omega

/-- The time within the hour. -/
theorem microseconds_emod_hour (x : LocalTime) :
    x.microseconds % 3600000000 = x.minute * 60000000 + (x.second * 1000000 + x.microsecond) := by
  have hminute := x.minute_lt
  have hsecond := x.second_lt
  have hmicrosecond := x.microsecond_lt
  simp only [microseconds]
  omega

/-- What is left of a time without its second. -/
theorem microseconds_ediv_minute (x : LocalTime) :
    x.microseconds / 60000000 = (x.day * 24 + x.hour) * 60 + x.minute := by
  have hsecond := x.second_lt
  have hmicrosecond := x.microsecond_lt
  simp only [microseconds]
  omega

theorem microseconds_ediv_hour (x : LocalTime) :
    x.microseconds / 3600000000 = x.day * 24 + x.hour := by
  have hminute := x.minute_lt
  have hsecond := x.second_lt
  have hmicrosecond := x.microsecond_lt
  simp only [microseconds]
  omega

end LocalTime

/-- **Nothing with the same remainder is nearer** than what is at most half of the modulus away. -/
theorem abs_sub_le_of_emod_eq {p x y n : ℤ} (h : x % p = y % p) (hle : 2 * |x - n| ≤ p) :
    |x - n| ≤ |y - n| := by
  obtain ⟨k, hk⟩ := Int.ModEq.dvd h
  have hnonneg : 0 ≤ |x - n| := abs_nonneg _
  have hp : 0 ≤ p := by omega
  have htriangle : |p * k| ≤ |y - n| + |x - n| := by
    have hsub : p * k = (y - n) - (x - n) := by rw [← hk]; omega
    have habs := abs_add_le (y - n) (-(x - n))
    rwa [abs_neg, ← sub_eq_add_neg, ← hsub] at habs
  rcases eq_or_ne k 0 with rfl | hne
  · rw [Int.mul_zero] at hk
    rw [Int.eq_of_sub_eq_zero hk]
  · have hone : 1 ≤ |k| := Int.one_le_abs hne
    have hfar : p ≤ |p * k| := by
      rw [abs_mul, abs_of_nonneg hp]
      exact le_mul_of_one_le_right hp hone
    omega

end HatDrivers.Lib
