import HatDrivers.Basic
import Mathlib.Algebra.Order.Field.Power
import Mathlib.Algebra.Order.Floor.Ring
import Mathlib.Tactic.Linarith
import Mathlib.Tactic.NormNum

namespace HatDrivers

/-!
# Doubles

A `float` is a rational with 53 significant bits, and the result of an operation on floats is the
nearest of them (`toDouble`), of which a tie takes the one with an even last bit.  The numbers
here are far from those that are too large, or too small, for their exponent.
-/

variable {q : ℚ} {k : ℤ}

/-! ### Nearest integers -/

theorem roundHalfEven_mem (q : ℚ) : ⌊q⌋ ≤ roundHalfEven q ∧ roundHalfEven q ≤ ⌊q⌋ + 1 := by
  simp only [roundHalfEven]
  split
  · omega
  · split
    · omega
    · split <;> omega

/-- A number is rounded by at most a half. -/
theorem abs_roundHalfEven_sub_le (q : ℚ) : |(roundHalfEven q : ℚ) - q| ≤ 1 / 2 := by
  have hle : (⌊q⌋ : ℚ) ≤ q := Int.floor_le q
  have hlt : q < ⌊q⌋ + 1 := Int.lt_floor_add_one q
  rw [abs_le]
  simp only [roundHalfEven]
  split
  · constructor <;> linarith
  · split
    · push_cast
      constructor <;> linarith
    · split
      · constructor <;> linarith
      · push_cast
        constructor <;> linarith

/-- What is nearer to an integer than a half is rounded to it. -/
theorem roundHalfEven_eq (h : |q - k| < 1 / 2) : roundHalfEven q = k := by
  have hround := abs_roundHalfEven_sub_le q
  rw [abs_lt] at h
  rw [abs_le] at hround
  have hlo : (k : ℚ) - 1 < roundHalfEven q := by linarith
  have hhi : (roundHalfEven q : ℚ) < k + 1 := by linarith
  have hlo' : k - 1 < roundHalfEven q := by exact_mod_cast hlo
  have hhi' : roundHalfEven q < k + 1 := by exact_mod_cast hhi
  omega

/-! ### Nearest doubles -/

/-- The exponent of a number that is not zero. -/
def exponent (q : ℚ) : ℤ :=
  let e := (Nat.log2 q.num.natAbs : ℤ) - Nat.log2 q.den
  if (2 : ℚ) ^ e ≤ |q| then e else e - 1

/-- The nearest double. -/
def toDouble (q : ℚ) : ℚ :=
  let ulp : ℚ := 2 ^ (exponent q - 52)
  roundHalfEven (q / ulp) * ulp

theorem abs_eq_natAbs_div_den (q : ℚ) : |q| = (q.num.natAbs : ℚ) / q.den := by
  rw [← Rat.num_div_den q, abs_div, Nat.abs_cast, ← Int.cast_abs, Int.abs_eq_natAbs,
    Rat.num_div_den]
  rfl

theorem two_zpow_exponent_le (hq : q ≠ 0) : (2 : ℚ) ^ exponent q ≤ |q| := by
  have hnum : q.num.natAbs ≠ 0 := Int.natAbs_ne_zero.mpr (Rat.num_ne_zero.mpr hq)
  have hlo : ((2 ^ Nat.log2 q.num.natAbs : ℕ) : ℚ) ≤ q.num.natAbs := by
    exact_mod_cast Nat.log2_self_le hnum
  have hden : (q.den : ℚ) < ((2 ^ (Nat.log2 q.den + 1) : ℕ) : ℚ) := by
    exact_mod_cast Nat.lt_log2_self
  unfold exponent
  simp only
  split
  · assumption
  · have hpos : (0 : ℚ) < q.den := by exact_mod_cast q.den_pos
    rw [abs_eq_natAbs_div_den, le_div_iff₀ hpos]
    push_cast at hlo hden
    calc (2 : ℚ) ^ ((Nat.log2 q.num.natAbs : ℤ) - Nat.log2 q.den - 1) * q.den
      _ ≤ (2 : ℚ) ^ ((Nat.log2 q.num.natAbs : ℤ) - Nat.log2 q.den - 1) *
          2 ^ (Nat.log2 q.den + 1) := by gcongr
      _ = (2 : ℚ) ^ Nat.log2 q.num.natAbs := by
        rw [← zpow_natCast, ← zpow_natCast, ← zpow_add₀ (by norm_num)]
        congr 1
        push_cast
        ring
      _ ≤ q.num.natAbs := hlo

theorem lt_two_zpow_exponent : |q| < (2 : ℚ) ^ (exponent q + 1) := by
  have hden : ((2 ^ Nat.log2 q.den : ℕ) : ℚ) ≤ q.den := by
    exact_mod_cast Nat.log2_self_le q.den_ne_zero
  have hnum : (q.num.natAbs : ℚ) < ((2 ^ (Nat.log2 q.num.natAbs + 1) : ℕ) : ℚ) := by
    exact_mod_cast Nat.lt_log2_self
  unfold exponent
  simp only
  split
  · have hpos : (0 : ℚ) < q.den := by exact_mod_cast q.den_pos
    rw [abs_eq_natAbs_div_den, div_lt_iff₀ hpos]
    push_cast at hnum hden
    calc (q.num.natAbs : ℚ)
      _ < 2 ^ (Nat.log2 q.num.natAbs + 1) := hnum
      _ = (2 : ℚ) ^ ((Nat.log2 q.num.natAbs : ℤ) - Nat.log2 q.den + 1) * 2 ^ Nat.log2 q.den := by
        rw [← zpow_natCast, ← zpow_natCast, ← zpow_add₀ (by norm_num)]
        congr 1
        push_cast
        ring
      _ ≤ (2 : ℚ) ^ ((Nat.log2 q.num.natAbs : ℤ) - Nat.log2 q.den + 1) * q.den := by gcongr
  · rwa [sub_add_cancel, ← not_le]

theorem exponent_eq {e : ℤ} (hlo : (2 : ℚ) ^ e ≤ |q|) (hhi : |q| < (2 : ℚ) ^ (e + 1)) :
    exponent q = e := by
  have hq : q ≠ 0 := by
    rintro rfl
    rw [abs_zero] at hlo
    exact absurd hlo (not_le.mpr (by positivity))
  have hle := lt_of_le_of_lt (two_zpow_exponent_le hq) hhi
  have hge := lt_of_le_of_lt hlo lt_two_zpow_exponent
  rw [zpow_lt_zpow_iff_right₀ (by norm_num)] at hle hge
  omega

theorem toDouble_zero : toDouble 0 = 0 := by
  simp [toDouble, roundHalfEven]

/-- A number changes by at most half of its last bit. -/
theorem abs_toDouble_sub_le (q : ℚ) : |toDouble q - q| ≤ |q| / 2 ^ 53 := by
  by_cases hq : q = 0
  · rw [hq, toDouble_zero]
    norm_num
  · have hpos : (0 : ℚ) < 2 ^ (exponent q - 52) := by positivity
    have hround := abs_roundHalfEven_sub_le (q / 2 ^ (exponent q - 52))
    have hscale : toDouble q - q =
        (roundHalfEven (q / 2 ^ (exponent q - 52)) - q / 2 ^ (exponent q - 52)) *
          2 ^ (exponent q - 52) := by
      rw [sub_mul, div_mul_cancel₀ _ hpos.ne']
      rfl
    calc |toDouble q - q|
      _ ≤ 1 / 2 * 2 ^ (exponent q - 52) := by
        rw [hscale, abs_mul, abs_of_pos hpos]
        gcongr
      _ = 2 ^ exponent q / 2 ^ 53 := by
        rw [zpow_sub₀ (by norm_num)]
        norm_num
        ring
      _ ≤ |q| / 2 ^ 53 := by
        gcongr
        exact two_zpow_exponent_le hq

/-- Integers of 53 bits, divided by a power of two, are doubles. -/
theorem toDouble_div_two_pow (h : |k| < 2 ^ 53) (n : ℕ) : toDouble (k / 2 ^ n) = k / 2 ^ n := by
  by_cases hk : k = 0
  · rw [hk, Int.cast_zero, zero_div, toDouble_zero]
  · have hq : (k : ℚ) / 2 ^ n ≠ 0 := div_ne_zero (by exact_mod_cast hk) (by positivity)
    have habs : |(k : ℚ) / 2 ^ n| < 2 ^ ((53 : ℤ) - n) := by
      have hpos : (0 : ℚ) < 2 ^ n := by positivity
      rw [abs_div, abs_of_pos hpos, zpow_sub₀ (by norm_num), zpow_natCast]
      gcongr
      exact_mod_cast h
    have hlt := lt_of_le_of_lt (two_zpow_exponent_le hq) habs
    have hexponent := (zpow_lt_zpow_iff_right₀ (by norm_num)).mp hlt
    obtain ⟨m, hm⟩ := Int.eq_ofNat_of_zero_le
      (show 0 ≤ 52 - n - exponent ((k : ℚ) / 2 ^ n) by omega)
    -- in units of its last bit, the number is an integer
    have hulp : (2 : ℚ) ^ (exponent ((k : ℚ) / 2 ^ n) - 52) = 1 / 2 ^ (m + n) := by
      rw [show exponent ((k : ℚ) / 2 ^ n) - 52 = -((m + n : ℕ) : ℤ) by push_cast; omega, zpow_neg,
        zpow_natCast, one_div]
    have hunits : (k : ℚ) / 2 ^ n / (1 / 2 ^ (m + n)) = ((k * 2 ^ m : ℤ) : ℚ) := by
      push_cast
      rw [pow_add]
      field_simp
    unfold toDouble
    simp only [hulp, hunits, roundHalfEven_intCast]
    push_cast
    rw [pow_add]
    field_simp

/-- Integers of 53 bits are doubles. -/
theorem toDouble_intCast (h : |k| < 2 ^ 53) : toDouble k = k := by
  have hdiv := toDouble_div_two_pow h 0
  rwa [pow_zero, div_one] at hdiv

/-! ### Doubles of quotients -/

/-- The nearest integer of a quotient, which is even where there are two of them. -/
def divHalfEven (n d : ℕ) : ℕ :=
  if 2 * (n % d) < d then n / d
  else if d < 2 * (n % d) then n / d + 1
  else if n / d % 2 = 0 then n / d else n / d + 1

theorem roundHalfEven_div (n : ℕ) {d : ℕ} (hd : 0 < d) :
    roundHalfEven ((n : ℚ) / d) = (divHalfEven n d : ℕ) := by
  have hpos : (0 : ℚ) < d := by exact_mod_cast hd
  have hfloor : ⌊(n : ℚ) / d⌋ = (n / d : ℕ) := Rat.floor_natCast_div_natCast n d
  have hmod : (n : ℚ) / d - (n / d : ℕ) = (n % d : ℕ) / d := by
    have hdiv : ((d * (n / d) + n % d : ℕ) : ℚ) = n := congrArg Nat.cast (Nat.div_add_mod n d)
    push_cast at hdiv ⊢
    field_simp
    linarith
  have hlt : ((n % d : ℕ) : ℚ) / d < 1 / 2 ↔ 2 * (n % d) < d := by
    rw [div_lt_div_iff₀ hpos two_pos, one_mul, mul_comm]
    exact_mod_cast Iff.rfl
  have hgt : 1 / 2 < ((n % d : ℕ) : ℚ) / d ↔ d < 2 * (n % d) := by
    rw [div_lt_div_iff₀ two_pos hpos, one_mul, mul_comm]
    exact_mod_cast Iff.rfl
  have heven : ((n / d : ℕ) : ℤ) % 2 = 0 ↔ n / d % 2 = 0 := by omega
  simp only [roundHalfEven, divHalfEven, hfloor, Int.cast_natCast, hmod, hlt, hgt, heven]
  split_ifs <;> push_cast <;> rfl

/-- How far the bits of a quotient are shifted for there to be 53 of them. -/
def doubleShift (n d : ℕ) : ℕ :=
  let s := 52 + d.log2 - n.log2
  if 2 ^ 52 * d ≤ n * 2 ^ s then s else s + 1

theorem doubleShift_spec {n d : ℕ} (hn : n ≠ 0) (hd : d ≠ 0) (h : n.log2 ≤ 52 + d.log2) :
    2 ^ 52 * d ≤ n * 2 ^ doubleShift n d ∧ n * 2 ^ doubleShift n d < 2 ^ 53 * d := by
  have hsum : 2 ^ n.log2 * 2 ^ (52 + d.log2 - n.log2) = 2 ^ 52 * 2 ^ d.log2 := by
    rw [← pow_add, ← pow_add]
    congr 1
    omega
  have hnlo := Nat.mul_le_mul_right (2 ^ (52 + d.log2 - n.log2)) (Nat.log2_self_le hn)
  have hnhi := Nat.mul_lt_mul_of_pos_right (Nat.lt_log2_self (n := n))
    (Nat.two_pow_pos (52 + d.log2 - n.log2))
  have hdlo := Nat.log2_self_le hd
  have hdhi := Nat.lt_log2_self (n := d)
  rw [pow_succ, Nat.mul_right_comm] at hnhi
  rw [hsum] at hnlo hnhi
  rw [pow_succ] at hdhi
  unfold doubleShift
  simp only
  split
  · omega
  · rw [pow_succ 2 (52 + d.log2 - n.log2), ← Nat.mul_assoc]
    omega

/-- The bits of the nearest double of a quotient, and how far they are shifted. -/
def doubleOf (n d : ℕ) : ℕ × ℕ := (divHalfEven (n * 2 ^ doubleShift n d) d, doubleShift n d)

/-- Doubles of quotients can be computed with integers. -/
theorem toDouble_div {n d : ℕ} (hd : d ≠ 0) (h : n.log2 ≤ 52 + d.log2) :
    toDouble ((n : ℚ) / d) = (doubleOf n d).1 / 2 ^ (doubleOf n d).2 := by
  by_cases hn : n = 0
  · subst hn
    simp [doubleOf, divHalfEven, toDouble_zero, Nat.pos_of_ne_zero hd]
  · obtain ⟨hlo, hhi⟩ := doubleShift_spec hn hd h
    have hpos : (0 : ℚ) < d := by exact_mod_cast Nat.pos_of_ne_zero hd
    have hlo' : ((2 : ℚ) ^ 52 * d) ≤ n * 2 ^ doubleShift n d := by exact_mod_cast hlo
    have hhi' : n * 2 ^ doubleShift n d < (2 : ℚ) ^ 53 * d := by exact_mod_cast hhi
    have habs : |(n : ℚ) / d| = n / d := abs_of_nonneg (by positivity)
    have hexponent : exponent ((n : ℚ) / d) = 52 - doubleShift n d := by
      apply exponent_eq
      · rw [habs, zpow_sub₀ two_ne_zero, zpow_natCast, div_le_div_iff₀ (by positivity) hpos]
        exact_mod_cast hlo'
      · rw [habs, show (52 : ℤ) - doubleShift n d + 1 = 53 - doubleShift n d by ring,
          zpow_sub₀ two_ne_zero, zpow_natCast, div_lt_div_iff₀ hpos (by positivity)]
        exact_mod_cast hhi'
    have hulp : (2 : ℚ) ^ (exponent ((n : ℚ) / d) - 52) = 1 / 2 ^ doubleShift n d := by
      rw [hexponent, show (52 : ℤ) - doubleShift n d - 52 = -(doubleShift n d : ℤ) by ring,
        zpow_neg, zpow_natCast, one_div]
    have hunits : (n : ℚ) / d / (1 / 2 ^ doubleShift n d) =
        ((n * 2 ^ doubleShift n d : ℕ) : ℚ) / d := by
      push_cast
      field_simp
    unfold toDouble
    simp only [hulp, hunits, roundHalfEven_div _ (Nat.pos_of_ne_zero hd), doubleOf]
    push_cast
    ring

end HatDrivers
