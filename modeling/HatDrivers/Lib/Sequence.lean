import Mathlib.Data.List.Range
import Mathlib.Data.Nat.ModEq
import Mathlib.Tactic.Ring

namespace HatDrivers.Lib

/-!
# Cyclic sequence numbers

Items are counted without bound and numbered modulo `m`.  A `window m a b` is a
table of the items `a, a + 1, …, b - 1` under their numbers: while it is not longer
than `m`, a number names at most one item of it, and taking numbers off the front
of the table (`popAll`) finds exactly the items meant.
-/

variable {m a b d : ℕ}

/-! ### Windows -/

/-- The items `a ≤ i < b`, each under its number. -/
def window (m a b : ℕ) : List (ℕ × ℕ) := (List.range' a (b - a)).map fun i => (i % m, i)

@[simp] theorem length_window (m a b : ℕ) : (window m a b).length = b - a := by simp [window]

theorem window_eq_nil (h : b ≤ a) : window m a b = [] := by
  rw [window, Nat.sub_eq_zero_of_le h]
  rfl

theorem window_cons (h : a < b) : window m a b = (a % m, a) :: window m (a + 1) b := by
  have hlen : b - a = (b - (a + 1)) + 1 := by omega
  rw [window, window, hlen, List.range'_succ, List.map_cons]

theorem window_concat (h : a ≤ b) : window m a (b + 1) = window m a b ++ [(b % m, b)] := by
  have hlen : b + 1 - a = (b - a) + 1 := by omega
  have hend : a + (b - a) = b := by omega
  rw [window, window, hlen, List.range'_concat, List.map_append, Nat.one_mul, hend]
  rfl

theorem mem_window {p : ℕ × ℕ} : p ∈ window m a b ↔ (a ≤ p.2 ∧ p.2 < b) ∧ p.1 = p.2 % m := by
  obtain ⟨n, i⟩ := p
  simp only [window, List.mem_map, List.mem_range'_1, Prod.mk.injEq]
  constructor
  · rintro ⟨j, hj, rfl, rfl⟩
    exact ⟨by omega, rfl⟩
  · rintro ⟨hi, rfl⟩
    exact ⟨i, by omega, rfl, rfl⟩

/-- A number determines an item among `m` successive ones. -/
theorem eq_of_mod_eq {i j : ℕ} (hi : a ≤ i) (hib : i < a + m) (hj : a ≤ j) (hjb : j < a + m)
    (h : i % m = j % m) : i = j := by
  have hmod : ∀ {x y : ℕ}, x ≤ y → y < x + m → x % m = y % m → x = y := by
    intro x y hxy hlt hm
    have hdvd : m ∣ y - x := (Nat.modEq_iff_dvd' hxy).mp hm
    have hzero : y - x = 0 := Nat.eq_zero_of_dvd_of_lt hdvd (by omega)
    omega
  rcases Nat.le_total i j with hij | hji
  · exact hmod hij (by omega) h
  · exact (hmod hji (by omega) h.symm).symm

/-- The number of the next item is free in a window that is not full. -/
theorem lookup_window_end (hab : a ≤ b) (h : b < a + m) : (window m a b).lookup (b % m) = none := by
  rw [List.lookup_eq_none_iff]
  intro p hp
  obtain ⟨⟨hlo, hhi⟩, hnum⟩ := mem_window.mp hp
  by_contra hne
  have hmod : b % m = p.1 := by simpa using hne
  have heq := eq_of_mod_eq (j := p.2) hab h hlo (by omega) (hmod.trans hnum)
  omega

/-- An item of a window is found under its number. -/
theorem lookup_window {i : ℕ} (hi : a ≤ i) (hib : i < b) (h : b ≤ a + m) :
    (window m a b).lookup (i % m) = some i := by
  induction hn : b - a generalizing a with
  | zero => omega
  | succ n ih =>
    rw [window_cons (by omega), List.lookup_cons]
    by_cases hmod : i % m = a % m
    · have heq : i = a := eq_of_mod_eq hi (by omega) (Nat.le_refl a) (by omega) hmod
      rw [heq]
      simp
    · have hne : i ≠ a := fun heq => hmod (by rw [heq])
      have hkey : (i % m == a % m) = false := by simpa using hmod
      simp only [hkey]
      exact ih (by omega) (by omega) (by omega)

/-! ### Taking numbers off -/

/-- `dict.pop(key, None)`: the value under a key, and the table without it. -/
def pop (table : List (ℕ × ℕ)) (key : ℕ) : Option (ℕ × List (ℕ × ℕ)) :=
  (table.lookup key).map fun value => (value, table.eraseP fun p => key == p.1)

/-- Takes keys off a table up to the first one that is missing: the table that is
left, the values taken, and whether no key was missing. -/
def popAll : List ℕ → List (ℕ × ℕ) → List (ℕ × ℕ) × List ℕ × Bool
  | [], table => (table, [], true)
  | key :: keys, table =>
    match pop table key with
    | none => (table, [], false)
    | some (value, table) =>
      let (table, values, all) := popAll keys table
      (table, value :: values, all)

theorem pop_window (h : a < b) : pop (window m a b) (a % m) = some (a, window m (a + 1) b) := by
  rw [window_cons h]
  simp [pop]

/-- **The numbers of the next `d` items take these items off a window**, up to its
end; a number is missing if there are fewer. -/
theorem popAll_window (hab : a ≤ b) :
    popAll ((List.range' a d).map (· % m)) (window m a b) =
      (window m (min b (a + d)) b, List.range' a (min b (a + d) - a), decide (a + d ≤ b)) := by
  induction d generalizing a with
  | zero => simp [popAll, hab]
  | succ d ih =>
    rw [List.range'_succ, List.map_cons, popAll]
    by_cases hlt : a < b
    · have hlen : min b (a + 1 + d) - a = (min b (a + 1 + d) - (a + 1)) + 1 := by omega
      have hmin : min b (a + (d + 1)) = min b (a + 1 + d) := by omega
      have htail := ih (a := a + 1) hlt
      rw [hmin, hlen, List.range'_succ]
      simp only [pop_window hlt, htail, Prod.mk.injEq, true_and, decide_eq_decide]
      omega
    · obtain rfl : a = b := by omega
      have hpop : pop (window m a a) (a % m) = none := by
        rw [window_eq_nil (Nat.le_refl a)]
        rfl
      have hmin : min a (a + (d + 1)) = a := by omega
      rw [hpop, hmin, Nat.sub_self]
      simp

/-! ### Parts of a window -/

theorem window_append {c : ℕ} (hab : a ≤ b) (hbc : b ≤ c) :
    window m a b ++ window m b c = window m a c := by
  have hlen : c - a = (b - a) + (c - b) := by omega
  rw [window, window, window, hlen, ← List.range'_append_1, List.map_append,
    Nat.add_sub_cancel' hab]

/-- Among the items of a window that is not longer than `m`, the numbers of the first `d` name
these items. -/
theorem mem_map_mod_iff {i : ℕ} (hi : a ≤ i) (him : i < a + m) (hd : d ≤ m) :
    i % m ∈ (List.range' a d).map (· % m) ↔ i < a + d := by
  constructor
  · intro hmem
    obtain ⟨j, hj, hmod⟩ := List.mem_map.mp hmem
    rw [List.mem_range'_1] at hj
    have heq : j = i := eq_of_mod_eq hj.1 (by omega) hi him hmod
    omega
  · intro hlt
    exact List.mem_map.mpr ⟨i, List.mem_range'_1.mpr ⟨hi, hlt⟩, rfl⟩

/-- The first `d` items of a window are the ones under the first `d` numbers. -/
theorem filter_mem_window (hd : a + d ≤ b) (h : b ≤ a + m) :
    (window m a b).filter (fun p => decide (p.1 ∈ (List.range' a d).map (· % m))) =
      window m a (a + d) := by
  rw [← window_append (Nat.le_add_right a d) hd, List.filter_append,
    List.filter_eq_self.mpr, List.filter_eq_nil_iff.mpr, List.append_nil]
  · intro p hp
    obtain ⟨⟨hlo, hhi⟩, hnum⟩ := mem_window.mp hp
    rw [decide_eq_true_eq, hnum, mem_map_mod_iff (by omega) (by omega) (by omega)]
    omega
  · intro p hp
    obtain ⟨⟨hlo, hhi⟩, hnum⟩ := mem_window.mp hp
    rw [decide_eq_true_eq, hnum, mem_map_mod_iff (by omega) (by omega) (by omega)]
    exact hhi

/-- The other items are under other numbers. -/
theorem filter_notMem_window (hd : a + d ≤ b) (h : b ≤ a + m) :
    (window m a b).filter (fun p => decide (p.1 ∉ (List.range' a d).map (· % m))) =
      window m (a + d) b := by
  rw [← window_append (Nat.le_add_right a d) hd, List.filter_append,
    List.filter_eq_nil_iff.mpr, List.filter_eq_self.mpr, List.nil_append]
  · intro p hp
    obtain ⟨⟨hlo, hhi⟩, hnum⟩ := mem_window.mp hp
    rw [decide_eq_true_eq, hnum, mem_map_mod_iff (by omega) (by omega) (by omega)]
    omega
  · intro p hp
    obtain ⟨⟨hlo, hhi⟩, hnum⟩ := mem_window.mp hp
    rw [decide_eq_true_eq, hnum, mem_map_mod_iff (by omega) (by omega) (by omega)]
    exact not_not_intro hhi

/-! ### Cyclic ranges -/

/-- The numbers from `x` up to `y`, past the end of the numbers if `y` is before `x`. -/
def cyclicRange (m x y : ℕ) : List ℕ :=
  if y ≥ x then List.range' x (y - x) else List.range' x (m - x) ++ List.range y

/-- How many numbers there are from `x` up to `y`. -/
def cyclicDistance (m x y : ℕ) : ℕ := (y + m - x) % m

theorem cyclicDistance_lt (hm : 0 < m) (x y : ℕ) : cyclicDistance m x y < m :=
  Nat.mod_lt _ hm

/-- A distance that is less than a whole turn is found from the numbers. -/
theorem cyclicDistance_mod (hab : a ≤ b) (h : b < a + m) :
    cyclicDistance m (a % m) (b % m) = b - a := by
  have hm : 0 < m := by omega
  have hlt : a % m < m := Nat.mod_lt a hm
  have hmod : (b % m + m - a % m + a % m) % m = (b - a + a % m) % m := by
    have hleft : b % m + m - a % m + a % m = b % m + m := by omega
    have hright : (b - a + a % m) % m = b % m := by
      rw [Nat.add_mod_mod, Nat.sub_add_cancel hab]
    rw [hleft, hright, Nat.add_mod_right, Nat.mod_mod]
  have hcancel : (b % m + m - a % m) % m = (b - a) % m := Nat.ModEq.add_right_cancel' _ hmod
  rw [cyclicDistance, hcancel, Nat.mod_eq_of_lt (by omega)]

/-- Past the distance from `x` to `y` there is `y`. -/
theorem add_cyclicDistance_mod {y : ℕ} (hy : y < m) :
    (a + cyclicDistance m (a % m) y) % m = y := by
  have hlt : a % m < m := Nat.mod_lt a (by omega)
  rw [cyclicDistance, Nat.add_mod_mod, ← Nat.mod_add_mod,
    show a % m + (y + m - a % m) = y + m by omega, Nat.add_mod_right, Nat.mod_eq_of_lt hy]

theorem map_mod_range'_of_lt {n x : ℕ} (h : x + n ≤ m) :
    (List.range' x n).map (· % m) = List.range' x n := by
  conv_rhs => rw [← List.map_id (List.range' x n)]
  refine List.map_congr_left fun i hi => ?_
  rw [List.mem_range'_1] at hi
  exact Nat.mod_eq_of_lt (by omega)

theorem map_mod_range'_add (x n k : ℕ) :
    (List.range' (x + k * m) n).map (· % m) = (List.range' x n).map (· % m) := by
  rw [Nat.add_comm x, ← List.map_add_range', List.map_map]
  refine List.map_congr_left fun i _ => ?_
  simp

/-- **A cyclic range is a range of items**, each under its number. -/
theorem cyclicRange_eq {y : ℕ} (hy : y < m) :
    cyclicRange m (a % m) y = (List.range' a (cyclicDistance m (a % m) y)).map (· % m) := by
  have hm : 0 < m := by omega
  have hlt : a % m < m := Nat.mod_lt a hm
  have hshift : ∀ n, (List.range' a n).map (· % m) = (List.range' (a % m) n).map (· % m) := by
    intro n
    conv_lhs => rw [← Nat.mod_add_div' a m]
    exact map_mod_range'_add _ _ _
  rw [hshift, cyclicRange]
  split
  · have hdist : cyclicDistance m (a % m) y = y - a % m := by
      rw [cyclicDistance, show y + m - a % m = y - a % m + m by omega, Nat.add_mod_right,
        Nat.mod_eq_of_lt (by omega)]
    rw [hdist, map_mod_range'_of_lt (by omega)]
  · have hdist : cyclicDistance m (a % m) y = (m - a % m) + y := by
      rw [cyclicDistance, Nat.mod_eq_of_lt (by omega)]
      omega
    have hwrap : a % m + (m - a % m) = 0 + 1 * m := by omega
    rw [hdist, ← List.range'_append_1, List.map_append, hwrap, map_mod_range'_add,
      map_mod_range'_of_lt (by omega), map_mod_range'_of_lt (by omega), List.range_eq_range']

/-- The keys of a window that is shorter than `m` are a cyclic range. -/
theorem keys_window (hab : a ≤ b) (h : b < a + m) :
    (window m a b).map Prod.fst = cyclicRange m (a % m) (b % m) := by
  rw [cyclicRange_eq (Nat.mod_lt b (by omega)), cyclicDistance_mod hab h, window, List.map_map]
  rfl

/-- A number lies between those of `a` and `b`, both included, if it is not farther from `a`. -/
theorem mem_cyclicRange_or_eq {y : ℕ} (hab : a ≤ b) (h : b < a + m) (hy : y < m) :
    (y ∈ cyclicRange m (a % m) (b % m) ∨ y = b % m) ↔ a + cyclicDistance m (a % m) y ≤ b := by
  have hend := add_cyclicDistance_mod (a := a) hy
  rw [cyclicRange_eq (Nat.mod_lt b (by omega)), cyclicDistance_mod hab h]
  constructor
  · rintro (hmem | rfl)
    · obtain ⟨i, hi, rfl⟩ := List.mem_map.mp hmem
      rw [List.mem_range'_1] at hi
      rw [cyclicDistance_mod hi.1 (by omega)]
      omega
    · rw [cyclicDistance_mod hab h]
      omega
  · intro hle
    rcases Nat.lt_or_eq_of_le hle with hlt | heq
    · left
      exact List.mem_map.mpr ⟨_, List.mem_range'_1.mpr ⟨Nat.le_add_right _ _, by omega⟩, hend⟩
    · right
      rw [← hend, heq]

end HatDrivers.Lib
