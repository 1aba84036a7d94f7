import Mathlib.Data.Nat.Digits.Defs
import Mathlib.Data.Nat.Bitwise
import Mathlib.Tactic.Ring

namespace HatDrivers.Lib

/-!
# Byte strings and fixed-width integers

A byte string is a `List UInt8`.  Producers write it as a list of naturals
(`bytesOf`); fixed-width unsigned integers are laid out least significant byte
first (`leDigits`) or most significant byte first (`beDigits`) and read back by
`ofLE` / `ofBE`, whatever bytes follow them.
-/

/-- A byte string. -/
abbrev Bytes := List UInt8

/-! ### Naturals as bytes -/

/-- The byte string of a list of naturals, each reduced to eight bits. -/
def bytesOf (ns : List ℕ) : Bytes := ns.map UInt8.ofNat

/-- Every natural of the list fits in a byte. -/
def AllBytes (ns : List ℕ) : Prop := ∀ n ∈ ns, n < 256

instance (ns : List ℕ) : Decidable (AllBytes ns) := List.decidableBAll ..

@[simp] theorem bytesOf_nil : bytesOf [] = [] := rfl

theorem bytesOf_cons (n : ℕ) (ns : List ℕ) :
    bytesOf (n :: ns) = UInt8.ofNat n :: bytesOf ns := rfl

@[simp] theorem bytesOf_append (ms ns : List ℕ) :
    bytesOf (ms ++ ns) = bytesOf ms ++ bytesOf ns := List.map_append

@[simp] theorem length_bytesOf (ns : List ℕ) : (bytesOf ns).length = ns.length :=
  List.length_map _

@[simp] theorem allBytes_nil : AllBytes [] := by simp [AllBytes]

@[simp] theorem allBytes_cons {n : ℕ} {ns : List ℕ} :
    AllBytes (n :: ns) ↔ n < 256 ∧ AllBytes ns := by simp [AllBytes]

@[simp] theorem allBytes_append {ms ns : List ℕ} :
    AllBytes (ms ++ ns) ↔ AllBytes ms ∧ AllBytes ns := by
  simp only [AllBytes, List.mem_append]
  exact ⟨fun h => ⟨fun n hn => h n (.inl hn), fun n hn => h n (.inr hn)⟩,
    fun h n hn => hn.elim (h.1 n) (h.2 n)⟩

/-- A natural that fits in a byte is read back from it. -/
theorem toNat_ofNat_of_lt {n : ℕ} (h : n < 256) : (UInt8.ofNat n).toNat = n := by
  simp [Nat.mod_eq_of_lt h]

/-- The naturals of a byte string all fit in a byte. -/
theorem allBytes_map_toNat (bs : Bytes) : AllBytes (bs.map UInt8.toNat) := by
  intro n hn
  obtain ⟨b, _, rfl⟩ := List.mem_map.mp hn
  exact b.toNat_lt

@[simp] theorem bytesOf_map_toNat (bs : Bytes) : bytesOf (bs.map UInt8.toNat) = bs := by
  induction bs with
  | nil => rfl
  | cons b bs ih => simp [bytesOf_cons, ih]

theorem map_toNat_bytesOf {ns : List ℕ} (h : AllBytes ns) : (bytesOf ns).map UInt8.toNat = ns := by
  induction ns with
  | nil => rfl
  | cons n ns ih =>
    obtain ⟨hn, hns⟩ := allBytes_cons.mp h
    rw [bytesOf_cons, List.map_cons, toNat_ofNat_of_lt hn, ih hns]

/-! ### Fixed-width integers -/

/-- The `size` low bytes of `x`, least significant first. -/
def leDigits : ℕ → ℕ → List ℕ
  | 0, _ => []
  | size + 1, x => x % 256 :: leDigits size (x / 256)

/-- The `size` low bytes of `x`, most significant first. -/
def beDigits (size x : ℕ) : List ℕ := (leDigits size x).reverse

/-- The integer spelled by a byte string, least significant byte first. -/
def ofLE (bs : Bytes) : ℕ := Nat.ofDigits 256 (bs.map UInt8.toNat)

/-- The integer spelled by a byte string, most significant byte first. -/
def ofBE (bs : Bytes) : ℕ := ofLE bs.reverse

@[simp] theorem length_leDigits (size x : ℕ) : (leDigits size x).length = size := by
  induction size generalizing x with
  | zero => rfl
  | succ size ih => simp [leDigits, ih]

@[simp] theorem length_beDigits (size x : ℕ) : (beDigits size x).length = size := by
  simp [beDigits]

@[simp] theorem allBytes_leDigits (size x : ℕ) : AllBytes (leDigits size x) := by
  induction size generalizing x with
  | zero => simp [leDigits]
  | succ size ih => simp [leDigits, ih, Nat.mod_lt]

@[simp] theorem allBytes_beDigits (size x : ℕ) : AllBytes (beDigits size x) := by
  intro n hn
  exact allBytes_leDigits size x n (List.mem_reverse.mp hn)

@[simp] theorem ofLE_nil : ofLE [] = 0 := rfl

@[simp] theorem ofLE_cons (b : UInt8) (bs : Bytes) : ofLE (b :: bs) = b.toNat + 256 * ofLE bs := by
  simp [ofLE, Nat.ofDigits_cons]

/-- The bytes of an integer spell it, reduced to the width they hold. -/
theorem ofLE_leDigits (size x : ℕ) : ofLE (bytesOf (leDigits size x)) = x % 256 ^ size := by
  induction size generalizing x with
  | zero => simp [leDigits, Nat.mod_one]
  | succ size ih =>
    have hb : (UInt8.ofNat (x % 256)).toNat = x % 256 := toNat_ofNat_of_lt (Nat.mod_lt _ (by omega))
    rw [leDigits, bytesOf_cons, ofLE_cons, hb, ih, Nat.pow_succ, Nat.mul_comm (256 ^ size) 256,
      Nat.mod_mul]

theorem ofLE_leDigits_of_lt {size x : ℕ} (h : x < 256 ^ size) :
    ofLE (bytesOf (leDigits size x)) = x := by
  rw [ofLE_leDigits, Nat.mod_eq_of_lt h]

theorem ofBE_beDigits (size x : ℕ) : ofBE (bytesOf (beDigits size x)) = x % 256 ^ size := by
  have hrev : (bytesOf (beDigits size x)).reverse = bytesOf (leDigits size x) := by
    simp [beDigits, bytesOf, ← List.map_reverse]
  rw [ofBE, hrev, ofLE_leDigits]

theorem ofBE_beDigits_of_lt {size x : ℕ} (h : x < 256 ^ size) :
    ofBE (bytesOf (beDigits size x)) = x := by
  rw [ofBE_beDigits, Nat.mod_eq_of_lt h]

/-- An integer read from `size` bytes is below `256 ^ size`. -/
theorem ofLE_lt (bs : Bytes) : ofLE bs < 256 ^ bs.length := by
  induction bs with
  | nil => simp
  | cons b bs ih =>
    have hb := b.toNat_lt
    rw [ofLE_cons, List.length_cons, Nat.pow_succ]
    omega

/-! ### Taking a written prefix apart -/

/-- The first `size` bytes of a string that starts with `size` written bytes. -/
theorem take_bytesOf_append {size : ℕ} {ns : List ℕ} (h : ns.length = size) (rest : Bytes) :
    (bytesOf ns ++ rest).take size = bytesOf ns := by
  rw [List.take_append_of_le_length (by simp [h]), List.take_of_length_le (by simp [h])]

theorem drop_bytesOf_append {size : ℕ} {ns : List ℕ} (h : ns.length = size) (rest : Bytes) :
    (bytesOf ns ++ rest).drop size = rest := by
  rw [List.drop_append_of_le_length (by simp [h]), List.drop_of_length_le (by simp [h]),
    List.nil_append]

@[simp] theorem drop_bytesOf_succ (n : ℕ) (ns : List ℕ) (rest : Bytes) (i : ℕ) :
    (bytesOf (n :: ns) ++ rest).drop (i + 1) = (bytesOf ns ++ rest).drop i := by
  rw [bytesOf_cons, List.cons_append, List.drop_succ_cons]

/-- Two disjoint bit fields joined by `|||` are the sum of their values. -/
theorem shiftLeft_or_eq_add {hi lo k : ℕ} (h : lo < 2 ^ k) :
    (hi <<< k) ||| lo = hi * 2 ^ k + lo := by
  rw [← Nat.shiftLeft_add_eq_or_of_lt h, Nat.shiftLeft_eq]

end HatDrivers.Lib
