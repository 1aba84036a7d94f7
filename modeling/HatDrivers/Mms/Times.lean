import HatDrivers.Mms.Encoder
import Mathlib.Tactic.IntervalCases

namespace HatDrivers.Mms

open HatDrivers.Lib

/-!
# MMS — parts of seconds

The time of an event is encoded in two ways.  A UTC time has its second, and 24 bits of the
fraction of it.  They are those of a double, which is near enough to the microsecond that it is
found again (`utcTime_recovers`).  A binary time has no part of its second at all, so
that it is found again just if there is none (`time_recovers_iff`).
-/

/-- A value is encoded, and decoded to itself. -/
def Recovers {α β : Type} (encode : α → Except Exn β) (decode : β → Except Exn α) (a : α) : Prop :=
  ∃ b, encode a = .ok b ∧ decode b = .ok a

/-! ### The fraction, bit by bit -/

/-- The octets of 24 bits. -/
def fractionOctets (n : ℕ) : List ℕ := [n / 65536 % 256, n / 256 % 256, n % 256]

theorem or_two_pow_eq_add {a b : ℕ} (h : a % 2 ^ (b + 1) = 0) : a ||| 2 ^ b = a + 2 ^ b := by
  obtain ⟨k, rfl⟩ := Nat.dvd_of_mod_eq_zero h
  rw [mul_comm, ← Nat.shiftLeft_eq, shiftLeft_or_eq_add (Nat.pow_lt_pow_right (by omega) (by omega)),
    Nat.shiftLeft_eq]

/-- A bit is set below those that may be. -/
theorem fractionOctets_set {i n : ℕ} (hi : i < 24) (h : n % 2 ^ (24 - i) = 0) :
    (fractionOctets n).modify (i / 8) (fun octet => octet ||| 1 <<< (7 - i % 8)) =
      fractionOctets (n + 2 ^ (23 - i)) := by
  have hor : ∀ {octet b : ℕ}, octet % 2 ^ (b + 1) = 0 → octet ||| 1 <<< b = octet + 2 ^ b := by
    intro octet b hoctet
    rw [Nat.one_shiftLeft, or_two_pow_eq_add hoctet]
  obtain hlt | hlt | hlt : i < 8 ∨ 8 ≤ i ∧ i < 16 ∨ 16 ≤ i := by omega
  · have hdiv : i / 8 = 0 := by omega
    rw [hdiv]
    show [n / 65536 % 256 ||| 1 <<< (7 - i % 8), n / 256 % 256, n % 256] = _
    interval_cases i <;>
    · simp only [Nat.reduceMod, Nat.reduceSub, Nat.reducePow] at h ⊢
      rw [hor (by omega)]
      simp only [fractionOctets, List.cons.injEq, and_true]
      omega
  · have hdiv : i / 8 = 1 := by omega
    rw [hdiv]
    show [n / 65536 % 256, n / 256 % 256 ||| 1 <<< (7 - i % 8), n % 256] = _
    interval_cases i <;>
    · simp only [Nat.reduceMod, Nat.reduceSub, Nat.reducePow] at h ⊢
      rw [hor (by omega)]
      simp only [fractionOctets, List.cons.injEq, and_true]
      omega
  · have hdiv : i / 8 = 2 := by omega
    rw [hdiv]
    show [n / 65536 % 256, n / 256 % 256, n % 256 ||| 1 <<< (7 - i % 8)] = _
    interval_cases i <;>
    · simp only [Nat.reduceMod, Nat.reduceSub, Nat.reducePow] at h ⊢
      rw [hor (by omega)]
      simp only [fractionOctets, List.cons.injEq, and_true]
      omega

/-- A bit of 24 is a bit of its octet. -/
theorem fractionOctets_bit {i n : ℕ} (hi : i < 24) (hn : n < 2 ^ 24) (rest : List ℕ) :
    ∃ octet, byteAt (bytesOf (fractionOctets n ++ rest)) (i / 8) = .ok octet ∧
      (bit octet (1 <<< (7 - i % 8)) = true ↔ n / 2 ^ (23 - i) % 2 = 1) := by
  have hbyte : ∀ m : ℕ, (UInt8.ofNat (m % 256)).toNat = m % 256 :=
    fun m => toNat_ofNat_of_lt (Nat.mod_lt _ (by decide))
  have hbit : ∀ octet b : ℕ, bit octet (1 <<< b) = true ↔ octet / 2 ^ b % 2 = 1 := by
    intro octet b
    rw [bit, Nat.one_shiftLeft, Nat.and_two_pow, Nat.testBit_eq_decide_div_mod_eq]
    by_cases h : octet / 2 ^ b % 2 = 1 <;> simp [h]
  obtain hlt | hlt | hlt : i < 8 ∨ 8 ≤ i ∧ i < 16 ∨ 16 ≤ i := by omega
  · have hdiv : i / 8 = 0 := by omega
    refine ⟨n / 65536 % 256, ?_, ?_⟩
    · rw [hdiv, fractionOctets, List.cons_append, bytesOf_cons, byteAt_cons_zero, hbyte]
    · rw [hbit]
      interval_cases i <;>
      · simp only [Nat.reduceMod, Nat.reduceSub, Nat.reducePow]
        omega
  · have hdiv : i / 8 = 1 := by omega
    refine ⟨n / 256 % 256, ?_, ?_⟩
    · rw [hdiv, fractionOctets, List.cons_append, bytesOf_cons, byteAt_cons_succ, List.cons_append,
        bytesOf_cons, byteAt_cons_zero, hbyte]
    · rw [hbit]
      interval_cases i <;>
      · simp only [Nat.reduceMod, Nat.reduceSub, Nat.reducePow]
        omega
  · have hdiv : i / 8 = 2 := by omega
    refine ⟨n % 256, ?_, ?_⟩
    · rw [hdiv, fractionOctets, List.cons_append, bytesOf_cons, byteAt_cons_succ, List.cons_append,
        bytesOf_cons, byteAt_cons_succ, List.cons_append, bytesOf_cons, byteAt_cons_zero, hbyte]
    · rw [hbit]
      interval_cases i <;>
      · simp only [Nat.reduceMod, Nat.reduceSub, Nat.reducePow]
        omega

theorem two_zpow_neg_succ (k : ℕ) : (2 : ℚ) ^ (-(k + 1) : ℤ) = 1 / 2 ^ (k + 1) := by
  rw [zpow_neg, one_div]
  norm_cast

/-- After some bits, those of the fraction are set, and what is below them remains. -/
theorem foldl_fraction {d : ℚ} (hlo : 0 ≤ d) (hhi : d < 1) {k : ℕ} (hk : k ≤ 24) :
    ∃ m : ℕ, (m : ℚ) ≤ d * 2 ^ k ∧ d * 2 ^ k < m + 1 ∧
      (List.range k).foldl (fun (s : ℚ × List ℕ) (i : ℕ) =>
        if s.1 ≥ 2 ^ (-(i + 1) : ℤ) then
          (s.1 - 2 ^ (-(i + 1) : ℤ), s.2.modify (i / 8) fun octet => octet ||| 1 <<< (7 - i % 8))
        else s) (d, [0, 0, 0]) = (d - m / 2 ^ k, fractionOctets (m * 2 ^ (24 - k))) := by
  induction k with
  | zero => exact ⟨0, by simpa using hlo, by simpa using hhi, by simp [fractionOctets]⟩
  | succ k ih =>
    obtain ⟨m, hm, hm', hfold⟩ := ih (by omega)
    have hpow : (0 : ℚ) < 2 ^ k := by positivity
    have hpow' : (2 : ℚ) ^ (k + 1) = 2 * 2 ^ k := by rw [pow_succ]; ring
    have hexp : 2 ^ (24 - k) = 2 * 2 ^ (23 - k) := by
      rw [show 24 - k = 23 - k + 1 by omega, pow_succ]
      ring
    rw [List.range_succ, List.foldl_append, hfold, List.foldl_cons, List.foldl_nil,
      two_zpow_neg_succ]
    have hcond : d - m / 2 ^ k ≥ 1 / 2 ^ (k + 1) ↔ (2 * m + 1 : ℚ) ≤ d * 2 ^ (k + 1) := by
      rw [hpow', ge_iff_le, le_sub_iff_add_le, div_add_div _ _ (by positivity) hpow.ne',
        div_le_iff₀ (by positivity)]
      constructor <;> intro h <;> nlinarith
    by_cases hbit : (2 * m + 1 : ℚ) ≤ d * 2 ^ (k + 1)
    · refine ⟨2 * m + 1, by push_cast; exact hbit, ?_, ?_⟩
      · rw [hpow']
        push_cast
        linarith
      · rw [if_pos (hcond.mpr hbit), fractionOctets_set (by omega)
          (Nat.mod_eq_zero_of_dvd (Dvd.intro_left m rfl))]
        congr 1
        · push_cast
          rw [hpow']
          field_simp
          ring
        · congr 1
          rw [hexp, show 24 - (k + 1) = 23 - k by omega]
          ring
    · refine ⟨2 * m, ?_, ?_, ?_⟩
      · rw [hpow']
        push_cast
        linarith
      · push_cast
        exact not_le.mp hbit
      · rw [if_neg (mt hcond.mp hbit)]
        congr 1
        · push_cast
          rw [hpow']
          field_simp
        · congr 1
          rw [hexp, show 24 - (k + 1) = 23 - k by omega]
          ring

/-- The fraction is cut off at 24 bits. -/
theorem encodeFraction_eq {d : ℚ} (hlo : 0 ≤ d) (hhi : d < 1) {n : ℕ} (hn : (n : ℚ) ≤ d * 2 ^ 24)
    (hn' : d * 2 ^ 24 < n + 1) : encodeFraction d = fractionOctets n := by
  obtain ⟨m, hm, hm', hfold⟩ := foldl_fraction hlo hhi (le_refl 24)
  have hlt : (m : ℚ) < n + 1 := lt_of_le_of_lt hm hn'
  have hlt' : (n : ℚ) < m + 1 := lt_of_le_of_lt hn hm'
  have heq : m = n := by
    have hle : m < n + 1 := by exact_mod_cast hlt
    have hge : n < m + 1 := by exact_mod_cast hlt'
    omega
  rw [encodeFraction, hfold, heq]
  simp

/-! ### Doubles of times -/

/-- The double of a time, in units of its last bit, if this is one of the 24 of the fraction. -/
theorem toDouble_mul_two_pow {q : ℚ} (hlo : 2 ^ 28 ≤ q) (hhi : q < 2 ^ 32) :
    ∃ (j : ℕ) (r : ℤ), j ≤ 3 ∧ q < 2 ^ (29 + j) ∧ toDouble q * 2 ^ 24 = r * 2 ^ j := by
  have hpos : 0 < q := lt_of_lt_of_le (by positivity) hlo
  have hle := two_zpow_exponent_le hpos.ne'
  have hlt := lt_two_zpow_exponent (q := q)
  rw [abs_of_pos hpos] at hle hlt
  have hge : (2 : ℚ) ^ (28 : ℤ) < 2 ^ (exponent q + 1) := lt_of_le_of_lt (by exact_mod_cast hlo) hlt
  have hle' : (2 : ℚ) ^ exponent q < 2 ^ (32 : ℤ) := lt_of_le_of_lt hle (by exact_mod_cast hhi)
  rw [zpow_lt_zpow_iff_right₀ (by norm_num)] at hge hle'
  obtain ⟨j, hj⟩ := Int.eq_ofNat_of_zero_le (show 0 ≤ exponent q - 28 by omega)
  have hexponent : exponent q = 28 + j := by omega
  refine ⟨j, roundHalfEven (q / 2 ^ (exponent q - 52)), by omega, ?_, ?_⟩
  · rw [hexponent] at hlt
    have hcast : ((28 : ℤ) + j + 1) = ((29 + j : ℕ) : ℤ) := by push_cast; ring
    rwa [hcast, zpow_natCast] at hlt
  · have hulp : (2 : ℚ) ^ (exponent q - 52) * 2 ^ 24 = 2 ^ j := by
      rw [hexponent, ← zpow_natCast, ← zpow_natCast, ← zpow_add₀ (by norm_num)]
      congr 1
      push_cast
      ring
    rw [toDouble, mul_assoc, hulp]

/-- The second of a time, and its fraction in 24 bits: their sum is a double, and so is the sum of
the second and the first bits, since there are no more of them than a double has. -/
structure FractionOf (q : ℚ) (s : ℕ) where
  n : ℕ
  unused : ℕ
  n_lt : n < 2 ^ 24
  unused_le : unused ≤ 24
  dvd : 2 ^ unused ∣ s * 2 ^ 24 + n
  lt : s * 2 ^ 24 + n < 2 ^ (53 + unused)
  le_toDouble : (n : ℚ) ≤ (toDouble q - s) * 2 ^ 24
  toDouble_lt : (toDouble q - s) * 2 ^ 24 < n + 1
  near : |s + n / 2 ^ 24 - q| ≤ 1 / 2 ^ 21

/-- The double of a time in microseconds has the same second. -/
theorem toDouble_second {q : ℚ} {s : ℕ} (hhi : q < 2 ^ 32)
    (hs : q = s ∨ s + 1 / 10 ^ 6 ≤ q) (hs' : q ≤ s + 1 - 1 / 10 ^ 6) :
    (s : ℚ) ≤ toDouble q ∧ toDouble q < s + 1 := by
  have hspos : (0 : ℚ) ≤ s := Nat.cast_nonneg s
  rcases hs with rfl | hs
  · have hlt : s < 2 ^ 32 := by exact_mod_cast hhi
    have hexact : toDouble (s : ℚ) = s := by
      have hcast := toDouble_intCast (k := s) (by rw [abs_of_nonneg (by omega)]; omega)
      exact_mod_cast hcast
    rw [hexact]
    exact ⟨le_refl _, by linarith⟩
  · have hpos : 0 ≤ q := by linarith
    have hround := abs_toDouble_sub_le q
    rw [abs_of_nonneg hpos, abs_le] at hround
    have hsmall : q / 2 ^ 53 ≤ 2 ^ 32 / 2 ^ 53 := by gcongr
    norm_num at hsmall hs hs'
    constructor <;> linarith

theorem exists_fractionOf {q : ℚ} {s : ℕ} (hhi : q < 2 ^ 32)
    (hs : q = s ∨ s + 1 / 10 ^ 6 ≤ q) (hs' : q ≤ s + 1 - 1 / 10 ^ 6) :
    Nonempty (FractionOf q s) := by
  have hspos : (0 : ℚ) ≤ s := Nat.cast_nonneg s
  have hsq : (s : ℚ) ≤ q := by
    rcases hs with rfl | hs
    · exact le_refl _
    · linarith [show (0 : ℚ) < 1 / 10 ^ 6 by norm_num]
  have hpos : 0 ≤ q := hspos.trans hsq
  obtain ⟨hle, hlt⟩ := toDouble_second hhi hs hs'
  have hround := abs_toDouble_sub_le q
  rw [abs_of_nonneg hpos] at hround
  -- the first 24 bits of the fraction
  obtain ⟨n, hn⟩ := Int.eq_ofNat_of_zero_le (show 0 ≤ ⌊(toDouble q - s) * 2 ^ 24⌋ by
    rw [Int.floor_nonneg]
    exact mul_nonneg (by linarith) (by positivity))
  have hnle : (n : ℚ) ≤ (toDouble q - s) * 2 ^ 24 := by
    have hfloor := Int.floor_le ((toDouble q - s) * 2 ^ 24)
    rw [hn] at hfloor
    exact_mod_cast hfloor
  have hnlt : (toDouble q - s) * 2 ^ 24 < n + 1 := by
    have hfloor := Int.lt_floor_add_one ((toDouble q - s) * 2 ^ 24)
    rw [hn] at hfloor
    exact_mod_cast hfloor
  have hn24 : n < 2 ^ 24 := by
    have hcast : (n : ℚ) < 2 ^ 24 := by
      refine lt_of_le_of_lt hnle ?_
      have hone : toDouble q - s < 1 := by linarith
      nlinarith [show (0 : ℚ) < 2 ^ 24 by positivity]
    exact_mod_cast hcast
  rcases lt_or_ge q (2 ^ 28) with hsmall | hlarge
  · -- the first 24 bits are near to the fraction
    have hs28 : s < 2 ^ 28 := by exact_mod_cast lt_of_le_of_lt hsq hsmall
    refine ⟨⟨n, 0, hn24, by omega, one_dvd _, by omega, hnle, hnlt, ?_⟩⟩
    have herror : q / 2 ^ 53 ≤ 2 ^ 28 / 2 ^ 53 := by gcongr
    rw [abs_le] at hround ⊢
    norm_num at herror hnle hnlt ⊢
    constructor <;> linarith
  · -- there are no more bits than these
    obtain ⟨j, r, hj, hqj, hr⟩ := toDouble_mul_two_pow hlarge hhi
    have hint : (toDouble q - s) * 2 ^ 24 = ((r * 2 ^ j - s * 2 ^ 24 : ℤ) : ℚ) := by
      rw [sub_mul, hr]
      push_cast
      ring
    have hexact : (n : ℤ) = r * 2 ^ j - s * 2 ^ 24 := by
      rw [hint, Int.floor_intCast] at hn
      exact hn.symm
    have hexact' : (toDouble q - s) * 2 ^ 24 = n := by
      rw [hint, ← hexact]
      rfl
    have hdvd : 2 ^ j ∣ s * 2 ^ 24 + n := by
      have hsum : ((s * 2 ^ 24 + n : ℕ) : ℤ) = r * 2 ^ j := by
        push_cast
        rw [hexact]
        ring
      have hdvdInt : ((2 ^ j : ℕ) : ℤ) ∣ ((s * 2 ^ 24 + n : ℕ) : ℤ) :=
        ⟨r, by rw [hsum]; push_cast; ring⟩
      exact Int.natCast_dvd_natCast.mp hdvdInt
    have hs29 : s < 2 ^ (29 + j) := by exact_mod_cast lt_of_le_of_lt hsq hqj
    have hbound : s * 2 ^ 24 + n < 2 ^ (53 + j) := by
      have hpow : 2 ^ (53 + j) = 2 ^ (29 + j) * 2 ^ 24 := by rw [← pow_add]; congr 1; omega
      rw [hpow]
      omega
    refine ⟨⟨n, j, hn24, by omega, hdvd, hbound, hnle, hnlt, ?_⟩⟩
    have heq : (s : ℚ) + n / 2 ^ 24 = toDouble q := by
      rw [← hexact', mul_div_cancel_right₀ _ (by positivity)]
      ring
    have herror : q / 2 ^ 53 ≤ 2 ^ 32 / 2 ^ 53 := by gcongr
    rw [heq]
    refine hround.trans (herror.trans ?_)
    norm_num

/-- The sum of the second and the first bits of the fraction is a double. -/
theorem FractionOf.toDouble_prefix {q : ℚ} {s : ℕ} (F : FractionOf q s) {m : ℕ} (hm : m ≤ 24) :
    toDouble (s + (F.n / 2 ^ m : ℕ) / 2 ^ (24 - m)) = s + (F.n / 2 ^ m : ℕ) / 2 ^ (24 - m) := by
  have hpow : 2 ^ 24 = 2 ^ (24 - m) * 2 ^ m := by rw [← pow_add, Nat.sub_add_cancel hm]
  have hle : F.n / 2 ^ m * 2 ^ m ≤ F.n := Nat.div_mul_le_self _ _
  have hdvd : 2 ^ F.unused ∣ s * 2 ^ 24 + F.n / 2 ^ m * 2 ^ m := by
    rcases le_or_gt F.unused m with hunused | hunused
    · have hdvdSecond : 2 ^ F.unused ∣ s * 2 ^ 24 :=
        Dvd.dvd.mul_left (pow_dvd_pow 2 F.unused_le) s
      exact dvd_add hdvdSecond (Dvd.dvd.mul_left (pow_dvd_pow 2 hunused) _)
    · -- the bits that are cut off are not set
      have hdvdAll : 2 ^ m ∣ s * 2 ^ 24 + F.n := (pow_dvd_pow 2 hunused.le).trans F.dvd
      have hdvdSecond : 2 ^ m ∣ s * 2 ^ 24 := Dvd.dvd.mul_left (pow_dvd_pow 2 hm) s
      have hdvdBits : 2 ^ m ∣ F.n := (Nat.dvd_add_right hdvdSecond).mp hdvdAll
      rw [Nat.div_mul_cancel hdvdBits]
      exact F.dvd
  obtain ⟨k, hk⟩ := hdvd
  have hlt : k < 2 ^ 53 := by
    have hbound := F.lt
    have hprod : 2 ^ F.unused * k < 2 ^ F.unused * 2 ^ 53 := by
      rw [← hk, ← pow_add, Nat.add_comm F.unused]
      omega
    exact Nat.lt_of_mul_lt_mul_left hprod
  have hvalue : (s : ℚ) + (F.n / 2 ^ m : ℕ) / 2 ^ (24 - m) = (k : ℤ) / 2 ^ (24 - F.unused) := by
    have hcast : ((s * 2 ^ 24 + F.n / 2 ^ m * 2 ^ m : ℕ) : ℚ) = ((2 ^ F.unused * k : ℕ) : ℚ) :=
      congrArg Nat.cast hk
    have hpowQ : (2 : ℚ) ^ 24 = 2 ^ (24 - m) * 2 ^ m := by exact_mod_cast hpow
    have hpowUnused : (2 : ℚ) ^ 24 = 2 ^ (24 - F.unused) * 2 ^ F.unused := by
      rw [← pow_add, Nat.sub_add_cancel F.unused_le]
    generalize F.n / 2 ^ m = bits at *
    rw [Nat.cast_add, Nat.cast_mul, Nat.cast_mul, Nat.cast_mul, Nat.cast_pow, Nat.cast_pow,
      Nat.cast_pow] at hcast
    push_cast at hcast ⊢
    rw [eq_div_iff (by positivity)]
    have hm0 : (2 : ℚ) ^ m ≠ 0 := by positivity
    have hbits : (bits : ℚ) / 2 ^ (24 - m) = bits * 2 ^ m / 2 ^ 24 := by
      rw [hpowQ, mul_div_mul_right _ _ hm0]
    rw [hbits]
    have hunused0 : (2 : ℚ) ^ F.unused ≠ 0 := by positivity
    have h24 : (2 : ℚ) ^ 24 ≠ 0 := by positivity
    apply mul_right_cancel₀ hunused0
    rw [mul_assoc, ← hpowUnused, add_mul, div_mul_cancel₀ _ h24, hcast]
    ring
  have habs : |(k : ℤ)| < 2 ^ 53 := by
    rw [Nat.abs_cast]
    exact_mod_cast hlt
  rw [hvalue]
  exact toDouble_div_two_pow habs _

/-! ### UTC times -/

/-- The octet of the quality of a time. -/
def qualityByte (leapSecond clockFailure notSynchronized : Bool) (accuracy : ℕ) : ℕ :=
  (if leapSecond then 0x80 else 0) ||| (if clockFailure then 0x40 else 0) |||
    (if notSynchronized then 0x20 else 0) ||| accuracy

theorem qualityByte_spec : ∀ leapSecond clockFailure notSynchronized : Bool, ∀ accuracy < 32,
    qualityByte leapSecond clockFailure notSynchronized accuracy < 256 ∧
      bit (qualityByte leapSecond clockFailure notSynchronized accuracy) 0x80 = leapSecond ∧
      bit (qualityByte leapSecond clockFailure notSynchronized accuracy) 0x40 = clockFailure ∧
      bit (qualityByte leapSecond clockFailure notSynchronized accuracy) 0x20 =
        notSynchronized ∧
      0x1F &&& qualityByte leapSecond clockFailure notSynchronized accuracy = accuracy := by
  decide +kernel

/-- An accuracy that is given is one of those that stand for a number of bits. -/
def AccuracyInRange (accuracy : Option ℤ) : Prop := ∀ a ∈ accuracy, 0 ≤ a ∧ a ≤ 24

theorem exists_fractionOf_microseconds {s u : ℕ} (hs : s < 2 ^ 32) (hu : u < 10 ^ 6) :
    Nonempty (FractionOf (s + u / 10 ^ 6) s) := by
  have hsQ : (s : ℚ) + 1 ≤ 2 ^ 32 := by exact_mod_cast hs
  have huQ : (u : ℚ) + 1 ≤ 10 ^ 6 := by exact_mod_cast hu
  apply exists_fractionOf
  · norm_num at hsQ huQ ⊢
    linarith
  · rcases Nat.eq_zero_or_pos u with rfl | hpos
    · left
      rw [Nat.cast_zero, zero_div, add_zero]
    · right
      have hone : (1 : ℚ) ≤ u := by exact_mod_cast hpos
      gcongr
  · norm_num at huQ ⊢
    linarith

section
variable {value : ℤ} {s : ℕ} {leapSecond clockFailure notSynchronized : Bool}
  {accuracy : Option ℤ}

theorem encodeUtcTime_fraction {q : ℚ} (hvalue : (value : ℚ) / microseconds = q)
    (F : FractionOf q s) (hs : s < 2 ^ 32) (haccuracy : AccuracyInRange accuracy) :
    encodeUtcTime value leapSecond clockFailure notSynchronized accuracy =
      .ok (bytesOf (beDigits 4 s ++ (fractionOctets F.n ++
        [qualityByte leapSecond clockFailure notSynchronized (accuracy.getD 0x1F).toNat]))) := by
  have hall : accuracy.all (fun accuracy => 0 ≤ accuracy ∧ accuracy ≤ 24) = true := by
    cases accuracy with
    | none => rfl
    | some a => exact decide_eq_true (haccuracy a rfl)
  have hle := F.le_toDouble
  have hlt := F.toDouble_lt
  have hn : (F.n : ℚ) + 1 ≤ 2 ^ 24 := by exact_mod_cast F.n_lt
  have hspos : (0 : ℚ) ≤ s := Nat.cast_nonneg s
  have hnpos : (0 : ℚ) ≤ F.n := Nat.cast_nonneg F.n
  have hlo : 0 ≤ toDouble q - s := by
    norm_num at hle
    linarith
  have hhi : toDouble q - s < 1 := by
    norm_num at hlt hn
    linarith
  have hfloor : ⌊toDouble q⌋ = (s : ℤ) := by
    rw [Int.floor_eq_iff]
    push_cast
    constructor <;> linarith
  have hwhole : (if 0 ≤ toDouble q then
      ⌊toDouble q⌋ else ⌈toDouble q⌉) =
        (s : ℤ) := by
    rw [if_pos (by linarith), hfloor]
  have hpack : packUInt 4 (s : ℤ) = .ok (beDigits 4 s) :=
    packUInt_eq_ok.mpr ⟨⟨by omega, by omega⟩, rfl⟩
  unfold encodeUtcTime
  rw [if_neg (not_not.mpr hall), hvalue]
  simp only [hwhole, Int.cast_natCast, encodeFraction_eq hlo hhi hle hlt, hpack, ok_bind,
    pure_eq_ok, List.append_assoc]
  rfl

/-- The bits that are read are added up without an error. -/
theorem foldlM_fraction {q : ℚ} (F : FractionOf q s) {data : Bytes}
    (hdata : ∀ i < 24, ∃ octet, byteAt data (4 + i / 8) = .ok octet ∧
      (bit octet (1 <<< (7 - i % 8)) = true ↔ F.n / 2 ^ (23 - i) % 2 = 1)) {k : ℕ} (hk : k ≤ 24) :
    (List.range k).foldlM (fun (ts : ℚ) (i : ℕ) => do
      let octet ← byteAt data (4 + i / 8)
      return if bit octet (1 <<< (7 - i % 8)) then toDouble (ts + 2 ^ (-(i + 1) : ℤ)) else ts)
      (s : ℚ) = (.ok (s + (F.n / 2 ^ (24 - k) : ℕ) / 2 ^ k) : Except Exn ℚ) := by
  induction k with
  | zero =>
    have hzero : F.n / 2 ^ 24 = 0 := Nat.div_eq_of_lt F.n_lt
    show Except.ok (s : ℚ) = _
    rw [Nat.sub_zero, hzero, Nat.cast_zero, zero_div, add_zero]
  | succ k ih =>
    obtain ⟨octet, hoctet, hbit⟩ := hdata k (by omega)
    have hexact := F.toDouble_prefix (show 23 - k ≤ 24 by omega)
    have hhalf : F.n / 2 ^ (24 - k) = F.n / 2 ^ (23 - k) / 2 := by
      rw [Nat.div_div_eq_div_mul, ← pow_succ]
      congr 2
      omega
    rw [show 24 - (23 - k) = k + 1 by omega] at hexact
    rw [show 24 - (k + 1) = 23 - k by omega]
    rw [List.range_succ, List.foldlM_append, ih (by omega), ok_bind, List.foldlM_cons, hoctet,
      hhalf, two_zpow_neg_succ]
    simp only [ok_bind, List.foldlM_nil, pure_eq_ok]
    generalize F.n / 2 ^ (23 - k) = bits at *
    have hsplit : (bits : ℚ) = 2 * (bits / 2 : ℕ) + (bits % 2 : ℕ) := by
      exact_mod_cast (Nat.div_add_mod bits 2).symm
    by_cases hodd : bits % 2 = 1
    · have hsum : (s : ℚ) + (bits / 2 : ℕ) / 2 ^ k + 1 / 2 ^ (k + 1) =
          s + bits / 2 ^ (k + 1) := by
        rw [hsplit, hodd, pow_succ]
        push_cast
        field_simp
        ring
      rw [if_pos (hbit.mpr hodd), hsum, hexact]
    · have hsum : (s : ℚ) + (bits / 2 : ℕ) / 2 ^ k = s + bits / 2 ^ (k + 1) := by
        rw [hsplit, show bits % 2 = 0 by omega, pow_succ]
        push_cast
        field_simp
        ring
      rw [if_neg (mt hbit.mp hodd), hsum]

/-- The sum is nearer to the microsecond than to any other. -/
theorem fromTimestamp_fraction {u : ℕ} (F : FractionOf (s + u / 10 ^ 6) s) :
    fromTimestamp (s + F.n / 2 ^ 24) = s * microseconds + u := by
  have hn : (F.n : ℚ) < 2 ^ 24 := by exact_mod_cast F.n_lt
  have hnpos : (0 : ℚ) ≤ F.n := Nat.cast_nonneg F.n
  have hdiv : (F.n : ℚ) / 2 ^ 24 < 1 := by rwa [div_lt_one (by positivity)]
  have hdivpos : (0 : ℚ) ≤ F.n / 2 ^ 24 := by positivity
  have hfloor : ⌊(s : ℚ) + F.n / 2 ^ 24⌋ = (s : ℤ) := by
    rw [Int.floor_eq_iff]
    push_cast
    constructor <;> linarith
  have hnear := F.near
  have hround := abs_toDouble_sub_le (F.n / 2 ^ 24 * (microseconds : ℚ))
  have hmicroseconds : (microseconds : ℚ) = 10 ^ 6 := by norm_num [microseconds]
  rw [fromTimestamp, hfloor]
  push_cast
  rw [add_sub_cancel_left]
  congr 1
  apply roundHalfEven_eq
  push_cast
  rw [hmicroseconds] at hround ⊢
  generalize (F.n : ℚ) / 2 ^ 24 = fraction at *
  rw [abs_of_nonneg (show 0 ≤ fraction * 10 ^ 6 by positivity)] at hround
  have herror : fraction * 10 ^ 6 / 2 ^ 53 ≤ 1 * 10 ^ 6 / 2 ^ 53 := by gcongr
  rw [abs_le] at hround hnear
  rw [abs_lt]
  norm_num at hround hnear herror ⊢
  constructor <;> linarith

theorem decodeUtcTime_fraction {u quality : ℕ} (hs : s < 2 ^ 32)
    (F : FractionOf (s + u / 10 ^ 6) s) (hquality : quality < 256) :
    decodeUtcTime (bytesOf (beDigits 4 s ++ (fractionOctets F.n ++ [quality]))) =
      .ok (s * microseconds + u, quality) := by
  generalize hdata : bytesOf (beDigits 4 s ++ (fractionOctets F.n ++ [quality])) = data
  have hpack : packUInt 4 (s : ℤ) = .ok (beDigits 4 s) :=
    packUInt_eq_ok.mpr ⟨⟨by omega, by omega⟩, rfl⟩
  have htake : data.take 4 = bytesOf (beDigits 4 s) ++ [] := by
    rw [← hdata, bytesOf_append, take_bytesOf_append (length_beDigits _ _), List.append_nil]
  have hseconds : unpackUInt 4 (data.take 4) = .ok ((s : ℤ), []) := by
    rw [htake]
    exact packUInt_decodes 4 s _ hpack (allBytes_beDigits _ _) []
  have hget : ∀ i, 4 ≤ i →
      byteAt data i = byteAt (bytesOf (fractionOctets F.n ++ [quality])) (i - 4) := by
    intro i hi
    rw [← hdata, bytesOf_append, byteAt_skip (by simpa using hi), length_beDigits]
  have hbits : ∀ i < 24, ∃ octet, byteAt data (4 + i / 8) = .ok octet ∧
      (bit octet (1 <<< (7 - i % 8)) = true ↔ F.n / 2 ^ (23 - i) % 2 = 1) := by
    intro i hi
    rw [hget _ (by omega), Nat.add_sub_cancel_left]
    exact fractionOctets_bit hi F.n_lt [quality]
  have hquality' : byteAt data 7 = .ok quality := by
    rw [hget 7 (by omega)]
    show byteAt [_, _, _, UInt8.ofNat quality] 3 = .ok quality
    simp only [byteAt_cons_succ, byteAt_cons_zero, toNat_ofNat_of_lt hquality]
  have hfold := foldlM_fraction F hbits (le_refl 24)
  rw [Nat.sub_self, pow_zero, Nat.div_one] at hfold
  simp only [decodeUtcTime, hseconds, ok_bind, Int.cast_natCast]
  rw [hfold]
  simp only [hquality', fromTimestamp_fraction F, ok_bind, pure_eq_ok]

/-- Every microsecond that 32 bits of seconds can count is found again. -/
theorem utcTime_recovers (hlo : 0 ≤ value) (hhi : value < 2 ^ 32 * microseconds)
    (haccuracy : AccuracyInRange accuracy) :
    Recovers encodeData decodeData
      (.UtcTimeData value leapSecond clockFailure notSynchronized accuracy) := by
  have hmicroseconds : microseconds = 10 ^ 6 := rfl
  obtain ⟨s, hs⟩ := Int.eq_ofNat_of_zero_le (Int.ediv_nonneg hlo (b := 10 ^ 6) (by omega))
  obtain ⟨u, hu⟩ := Int.eq_ofNat_of_zero_le (Int.emod_nonneg value (b := 10 ^ 6) (by omega))
  have hslt : s < 2 ^ 32 := by omega
  have hult : u < 10 ^ 6 := by omega
  have hvalue : value = s * microseconds + u := by
    rw [hmicroseconds]
    omega
  have hq : (value : ℚ) / microseconds = s + u / 10 ^ 6 := by
    rw [hvalue, hmicroseconds]
    push_cast
    field_simp
    ring
  obtain ⟨F⟩ := exists_fractionOf_microseconds hslt hult
  have haccuracy_lt : (accuracy.getD 0x1F).toNat < 32 := by
    cases accuracy with
    | none => decide
    | some a =>
      have := haccuracy a rfl
      rw [Option.getD_some]
      omega
  obtain ⟨hbyte, hleap, hclock, hsync, hmask⟩ :=
    qualityByte_spec leapSecond clockFailure notSynchronized _ haccuracy_lt
  refine ⟨.utcTime (bytesOf (beDigits 4 s ++ (fractionOctets F.n ++
    [qualityByte leapSecond clockFailure notSynchronized (accuracy.getD 0x1F).toNat]))), ?_, ?_⟩
  · rw [encodeData, encodeUtcTime_fraction hq F hslt haccuracy, ok_bind, pure_eq_ok]
  · simp only [decodeData, decodeUtcTime_fraction hslt F hbyte, ok_bind, hleap, hclock, hsync,
      hmask, ← hvalue, pure_eq_ok]
    congr 2
    cases accuracy with
    | none => rfl
    | some a =>
      have ha := haccuracy a rfl
      have hle : ¬ (a.toNat > 24) := by omega
      rw [Option.getD_some, if_neg hle, Int.toNat_of_nonneg ha.1]

end

/-! ### Binary times -/

theorem lowByte_lt (n : ℤ) : lowByte n < 256 := by
  unfold lowByte
  omega

theorem lowByte_shiftRight (n k : ℕ) : lowByte ((n : ℤ) >>> k) = n / 2 ^ k % 256 := by
  rw [lowByte, ← Int.natCast_shiftRight, Nat.shiftRight_eq_div_pow]
  omega

theorem lowByte_natCast (n : ℕ) : lowByte (n : ℤ) = n % 256 := by
  unfold lowByte
  omega

/-- Two octets of an integer, put together again. -/
theorem or_of_two_octets {n : ℕ} (h : n < 2 ^ 16) :
    ((n / 2 ^ 8 % 256) <<< 8) ||| (n % 256) = n := by
  rw [shiftLeft_or_eq_add (by omega)]
  omega

/-- Four octets of an integer, put together again. -/
theorem or_of_four_octets {n : ℕ} (h : n < 2 ^ 32) :
    ((n / 2 ^ 24 % 256) <<< 24) ||| ((n / 2 ^ 16 % 256) <<< 16) ||| ((n / 2 ^ 8 % 256) <<< 8) |||
      (n % 256) = n := by
  have htwo : ((n / 2 ^ 8 % 256) <<< 8) ||| (n % 256) = n % 2 ^ 16 := by
    rw [shiftLeft_or_eq_add (by omega)]
    omega
  have hthree : ((n / 2 ^ 16 % 256) <<< 16) ||| (n % 2 ^ 16) = n % 2 ^ 24 := by
    rw [shiftLeft_or_eq_add (by omega)]
    omega
  rw [Nat.or_assoc, Nat.or_assoc, htwo, hthree, shiftLeft_or_eq_add (by omega)]
  omega

/-- Whole seconds on one of the 2¹⁶ days from the start of 1984. -/
def BinaryTimeInRange (value : DateTime) : Prop :=
  ∃ seconds : ℤ, 0 ≤ seconds ∧ seconds < 65536 * 86400 ∧
    value = binaryTimeEpoch + seconds * microseconds

theorem decodeBinaryTime_encodeBinaryTime {value : DateTime} (h : BinaryTimeInRange value) :
    decodeBinaryTime (encodeBinaryTime value) = .ok value := by
  obtain ⟨total, hlo, hhi, rfl⟩ := h
  obtain ⟨seconds, hseconds⟩ :=
    Int.eq_ofNat_of_zero_le (Int.emod_nonneg total (b := 86400) (by omega))
  obtain ⟨days, hdays⟩ := Int.eq_ofNat_of_zero_le (Int.ediv_nonneg hlo (b := 86400) (by omega))
  have hdelta : (binaryTimeEpoch + total * microseconds - binaryTimeEpoch) / microseconds =
      total := by
    rw [add_sub_cancel_left]
    exact Int.mul_ediv_cancel _ (by decide)
  have hseconds_lt : seconds < 2 ^ 32 := by omega
  have hdays_lt : days < 2 ^ 16 := by omega
  simp only [encodeBinaryTime, hdelta, hseconds, hdays, lowByte_shiftRight, lowByte_natCast]
  have hbyte : ∀ n : ℕ, (UInt8.ofNat (n % 256)).toNat = n % 256 :=
    fun n => toNat_ofNat_of_lt (Nat.mod_lt _ (by decide))
  simp only [decodeBinaryTime, bytesOf_cons, byteAt_cons_zero, byteAt_cons_succ, hbyte, ok_bind,
    pure_eq_ok, or_of_four_octets hseconds_lt, or_of_two_octets hdays_lt]
  have htotal : (days : ℤ) * 86400 + seconds = total := by omega
  rw [htotal]

/-- What is below the second is not encoded. -/
theorem encodeBinaryTime_second (value : ℤ) :
    encodeBinaryTime (value - value % microseconds) = encodeBinaryTime value := by
  have hdelta : (value - value % microseconds - binaryTimeEpoch) / microseconds =
      (value - binaryTimeEpoch) / microseconds := by
    simp only [binaryTimeEpoch, microseconds]
    omega
  simp only [encodeBinaryTime, hdelta]

theorem decodeBinaryTime_encodeBinaryTime_second {value : ℤ} (hlo : binaryTimeEpoch ≤ value)
    (hhi : value < binaryTimeEpoch + 65536 * 86400 * microseconds) :
    decodeBinaryTime (encodeBinaryTime value) = .ok (value - value % microseconds) := by
  have hlo' : (441763200 * 1000000 : ℤ) ≤ value := hlo
  have hhi' : value < (441763200 * 1000000 : ℤ) + 65536 * 86400 * 1000000 := hhi
  rw [← encodeBinaryTime_second]
  apply decodeBinaryTime_encodeBinaryTime
  refine ⟨(value - 441763200 * 1000000) / 1000000, by omega, by omega, ?_⟩
  show value - value % 1000000 =
    441763200 * 1000000 + (value - 441763200 * 1000000) / 1000000 * 1000000
  omega

/-! ### Times -/

/-- A time that the format holds, its part of the second apart. -/
def Data.IsTime : Data → Prop
  | .BinaryTimeData value =>
    binaryTimeEpoch ≤ value ∧ value < binaryTimeEpoch + 65536 * 86400 * microseconds
  | .UtcTimeData value _ _ _ accuracy =>
    0 ≤ value ∧ value < 2 ^ 32 * microseconds ∧ AccuracyInRange accuracy
  | _ => False

/-- It is not a binary time with a part of a second. -/
def Data.WholeSeconds : Data → Prop
  | .BinaryTimeData value => value % microseconds = 0
  | _ => True

/-- A UTC time is found again to the microsecond, and a binary time to the second only, since its
first four octets count seconds. -/
theorem time_recovers_iff {data : Data} (h : data.IsTime) :
    Recovers encodeData decodeData data ↔ data.WholeSeconds := by
  cases data with
  | BinaryTimeData value =>
    have hdecode := decodeBinaryTime_encodeBinaryTime_second h.1 h.2
    have hfloor : Data.BinaryTimeData (value - value % microseconds) = .BinaryTimeData value ↔
        value % microseconds = 0 := by
      rw [Data.BinaryTimeData.injEq]
      exact sub_eq_self
    rw [Data.WholeSeconds, ← hfloor]
    constructor
    · rintro ⟨encoded, hencode, hvalue⟩
      obtain rfl := Except.ok.inj hencode
      rw [decodeData, hdecode, ok_bind, pure_eq_ok] at hvalue
      exact Except.ok.inj hvalue
    · intro hvalue
      refine ⟨.binaryTime (encodeBinaryTime value), rfl, ?_⟩
      rw [decodeData, hdecode, ok_bind, pure_eq_ok, hvalue]
  | UtcTimeData value leapSecond clockFailure notSynchronized accuracy =>
    exact iff_of_true (utcTime_recovers h.1 h.2.1 h.2.2) trivial
  | _ => exact absurd h id

/-- A microsecond after the start of 2024. -/
theorem time_recovers_iff_utc :
    Recovers encodeData decodeData
      (.UtcTimeData (1704067200 * microseconds + 1) true false true (some 24)) := by
  have htime : Data.IsTime
      (.UtcTimeData (1704067200 * microseconds + 1) true false true (some 24)) := by
    refine ⟨by decide, by decide, ?_⟩
    intro a ha
    obtain rfl := Option.some.inj ha
    decide
  exact (time_recovers_iff htime).mpr trivial

/-- Half a second after the start of 1984 is decoded to the start of it. -/
theorem halfSecond_lost :
    ¬ ∀ value : DateTime, binaryTimeEpoch ≤ value →
      value < binaryTimeEpoch + 65536 * 86400 * microseconds → value % 1000 = 0 →
        Recovers encodeData decodeData (.BinaryTimeData value) := by
  intro h
  obtain ⟨encoded, hencode, hdecode⟩ :=
    h (binaryTimeEpoch + 500000) (by decide) (by decide) (by decide)
  obtain rfl := Except.ok.inj hencode
  have hepoch : decodeData (.binaryTime (encodeBinaryTime (binaryTimeEpoch + 500000))) =
      .ok (.BinaryTimeData binaryTimeEpoch) := by rfl
  rw [hepoch] at hdecode
  exact absurd (Data.BinaryTimeData.inj (Except.ok.inj hdecode)) (by decide)

end HatDrivers.Mms
