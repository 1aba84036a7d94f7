import Mathlib.Algebra.BigOperators.Group.List.Basic
import Mathlib.Data.Nat.ModEq
import Mathlib.Tactic.Ring

namespace HatDrivers.Lib.OnesComplement

/-!
# Ones' complement sums

Addition of words that are at most `m` (65535 for words of 16 bits), where a carry is added back
at the low end.  The sum of some words is their ordinary sum modulo `m`, and a multiple of `m` is
written as `m` unless all the words are zero (`sum_eq_residue`).  Adding the carries of the ordinary
sum back in one go gives the same word only under a condition (`foldOnce_eq_residue_iff`).
-/

variable {m : ℕ}

/-- The sum of two words, the carry added back. -/
def add (m x y : ℕ) : ℕ := if x + y ≤ m then x + y else x + y - m

/-- The ones' complement sum of some words. -/
def sum (m : ℕ) (words : List ℕ) : ℕ := words.foldl (add m) 0

/-- The word of a number: what is left of it modulo `m`, and zero for zero only. -/
def residue (m n : ℕ) : ℕ := if n = 0 then 0 else (n - 1) % m + 1

/-- A number with what does not fit into a word added to the rest, once. -/
def foldOnce (m n : ℕ) : ℕ := n / (m + 1) + n % (m + 1)

/-! ### Residues -/

theorem residue_le (hm : 0 < m) (n : ℕ) : residue m n ≤ m := by
  unfold residue
  have := Nat.mod_lt (n - 1) hm
  split <;> omega

theorem residue_eq_zero_iff {n : ℕ} : residue m n = 0 ↔ n = 0 := by
  unfold residue
  split <;> omega

theorem residue_modEq (n : ℕ) : residue m n ≡ n [MOD m] := by
  unfold residue
  by_cases hn : n = 0
  · rw [if_pos hn, hn]
  · rw [if_neg hn]
    calc (n - 1) % m + 1 ≡ n - 1 + 1 [MOD m] := (Nat.mod_modEq _ m).add_right 1
      _ = n := by omega

/-- Words that agree modulo `m` are equal when both or neither of them are zero. -/
theorem eq_of_modEq {x y : ℕ} (hx : x ≤ m) (hy : y ≤ m) (hmod : x ≡ y [MOD m])
    (hzero : x = 0 ↔ y = 0) : x = y := by
  rcases hx.lt_or_eq with hx | rfl
  · rcases hy.lt_or_eq with hy | rfl
    · exact Nat.ModEq.eq_of_lt_of_lt hmod hx hy
    · have : x = 0 := by simpa [Nat.ModEq, Nat.mod_eq_of_lt hx] using hmod
      omega
  · rcases hy.lt_or_eq with hy | rfl
    · have : y = 0 := by simpa [Nat.ModEq, Nat.mod_eq_of_lt hy] using hmod.symm
      omega
    · rfl

theorem eq_residue_iff (hm : 0 < m) {n r : ℕ} :
    r = residue m n ↔ r ≤ m ∧ r ≡ n [MOD m] ∧ (r = 0 ↔ n = 0) := by
  constructor
  · rintro rfl
    exact ⟨residue_le hm n, residue_modEq n, residue_eq_zero_iff⟩
  · rintro ⟨hle, hmod, hzero⟩
    exact eq_of_modEq hle (residue_le hm n) (hmod.trans (residue_modEq n).symm)
      (hzero.trans residue_eq_zero_iff.symm)

/-! ### Sums -/

theorem add_modEq {x y : ℕ} : add m x y ≡ x + y [MOD m] := by
  unfold add
  by_cases h : x + y ≤ m
  · rw [if_pos h]
  · rw [if_neg h]
    calc x + y - m ≡ x + y - m + m [MOD m] := (Nat.add_modEq_right).symm
      _ = x + y := by omega

theorem add_residue (hm : 0 < m) (n : ℕ) {y : ℕ} (hy : y ≤ m) :
    add m (residue m n) y = residue m (n + y) := by
  have hr := residue_le hm n
  have hzero : residue m n = 0 ↔ n = 0 := residue_eq_zero_iff
  refine (eq_residue_iff hm).mpr ⟨?_, ?_, ?_⟩
  · unfold add
    split <;> omega
  · exact add_modEq.trans ((residue_modEq n).add_right y)
  · unfold add
    split <;> omega

/-- The sum of some words, carries added back one by one, is the residue of their ordinary sum. -/
theorem sum_eq_residue (hm : 0 < m) {words : List ℕ} (hwords : ∀ w ∈ words, w ≤ m) :
    sum m words = residue m words.sum := by
  have hfold : ∀ n, words.foldl (add m) (residue m n) = residue m (n + words.sum) := by
    induction words with
    | nil => exact fun _ => rfl
    | cons w words ih =>
      intro n
      obtain ⟨hw, hrest⟩ := List.forall_mem_cons.mp hwords
      rw [List.foldl_cons, add_residue hm n hw, ih hrest, List.sum_cons, Nat.add_assoc]
  have hsum := hfold 0
  rwa [Nat.zero_add] at hsum

/-! ### Folding once -/

theorem foldOnce_modEq (n : ℕ) : foldOnce m n ≡ n [MOD m] := by
  unfold foldOnce
  calc n / (m + 1) + n % (m + 1)
      ≡ n / (m + 1) + n % (m + 1) + m * (n / (m + 1)) [MOD m] :=
        (Nat.add_mul_mod_self_left _ _ _).symm
    _ = (m + 1) * (n / (m + 1)) + n % (m + 1) := by ring
    _ = n := Nat.div_add_mod n (m + 1)

/-- The low word of a sum that was folded once is the ones' complement sum of it and another word
just when that word makes up for the carries that are left. -/
theorem foldOnce_eq_residue_iff (hm : 0 < m) (w n : ℕ) :
    foldOnce m n % (m + 1) = residue m (w + n) ↔
      m ∣ w + foldOnce m n / (m + 1) ∧ (foldOnce m n % (m + 1) = 0 → w + n = 0) := by
  set low := foldOnce m n % (m + 1) with hlow
  set carry := foldOnce m n / (m + 1) with hcarry
  have hle : low ≤ m := Nat.le_of_lt_succ (Nat.mod_lt _ (by omega))
  -- folding what is left once more does not change the residue
  have hn : low + carry ≡ n [MOD m] := by
    have hfold : foldOnce m (foldOnce m n) = low + carry := by rw [foldOnce, Nat.add_comm]
    rw [← hfold]
    exact (foldOnce_modEq _).trans (foldOnce_modEq n)
  have hmod : low ≡ w + n [MOD m] ↔ m ∣ w + carry := by
    have hsum : w + n ≡ w + carry + low [MOD m] := by
      calc w + n ≡ w + (low + carry) [MOD m] := hn.symm.add_left w
        _ = w + carry + low := by omega
    rw [← Nat.modEq_zero_iff_dvd]
    constructor
    · intro h
      refine (Nat.ModEq.add_right_cancel' low ?_).symm
      rw [Nat.zero_add]
      exact h.trans hsum
    · intro h
      have := (h.add_right low).symm
      rw [Nat.zero_add] at this
      exact this.trans hsum.symm
  have hzero : w + n = 0 → low = 0 := by
    intro h
    have : n = 0 := by omega
    rw [hlow, this, foldOnce]
    simp
  rw [eq_residue_iff hm, hmod]
  exact ⟨fun ⟨_, hdvd, hiff⟩ => ⟨hdvd, hiff.mp⟩, fun ⟨hdvd, himp⟩ => ⟨hle, hdvd, himp, hzero⟩⟩

end HatDrivers.Lib.OnesComplement
