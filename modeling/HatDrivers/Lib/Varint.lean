import HatDrivers.Lib.Prefixes
import HatDrivers.Lib.Raises

namespace HatDrivers.Lib

/-!
# Variable-length integers

An integer is cut into groups of seven bits, least significant first, and every
group but the last is marked by the high bit of its byte.  A writer and a reader are
bounded by the number of groups they may use; an integer below `2 ^ (7 * fuel)` is
written in at most `fuel` groups and read back from them, whatever follows.
-/

variable {ε : Type} {tooLong tooShort : ε} {fuel i value : ℕ}

/-- The groups of `value`, at most `fuel` of them. -/
def varint : ℕ → ℕ → List ℕ
  | 0, _ => []
  | fuel + 1, value =>
    let byte := value &&& 0x7f
    let value := value >>> 7
    if value ≠ 0 then (byte ||| 0x80) :: varint fuel value else [byte]

/-- Reads at most `fuel` groups, the first one being group number `i` of an integer
whose groups before it are `value`. -/
def readVarint (tooLong tooShort : ε) : ℕ → ℕ → ℕ → ByteReader ε ℕ
  | 0, _, _, _ => .error tooLong
  | _ + 1, _, _, [] => .error tooShort
  | fuel + 1, i, value, b :: bs =>
    let value := value ||| ((b.toNat &&& 0x7f) <<< (i * 7))
    if b.toNat &&& 0x80 ≠ 0 then readVarint tooLong tooShort fuel (i + 1) value bs
    else .ok (value, bs)

/-! ### Groups -/

theorem and_group (value : ℕ) : value &&& 0x7f = value % 128 :=
  Nat.and_two_pow_sub_one_eq_mod value 7

theorem shiftRight_group (value : ℕ) : value >>> 7 = value / 128 :=
  Nat.shiftRight_eq_div_pow value 7

/-- A marked group. -/
theorem or_mark {byte : ℕ} (h : byte < 128) : byte ||| 0x80 = byte + 128 := by
  have hadd : (1 <<< 7) ||| byte = 1 * 2 ^ 7 + byte := shiftLeft_or_eq_add h
  rw [Nat.or_comm, show (0x80 : ℕ) = 1 <<< 7 from rfl, hadd]
  omega

/-- One group: a marked one if more follow. -/
theorem varint_succ (fuel value : ℕ) :
    varint (fuel + 1) value =
      if value < 128 then [value] else (value % 128 + 128) :: varint fuel (value / 128) := by
  rw [varint]
  simp only [and_group, shiftRight_group, or_mark (Nat.mod_lt value (by omega : 0 < 128))]
  by_cases h : value < 128
  · rw [if_neg (by omega), if_pos h, Nat.mod_eq_of_lt h]
  · rw [if_pos (by omega), if_neg h]

theorem allBytes_varint (fuel value : ℕ) : AllBytes (varint fuel value) := by
  induction fuel generalizing value with
  | zero => exact allBytes_nil
  | succ fuel ih =>
    rw [varint_succ]
    split
    · simp; omega
    · simp [ih]; omega

theorem length_varint_le (fuel value : ℕ) : (varint fuel value).length ≤ fuel := by
  induction fuel generalizing value with
  | zero => simp [varint]
  | succ fuel ih =>
    rw [varint_succ]
    split
    · simp
    · simpa using ih (value / 128)

theorem length_varint_pos (fuel value : ℕ) : 0 < (varint (fuel + 1) value).length := by
  rw [varint_succ]
  split <;> simp

/-! ### Reading back -/

/-- The value and the mark of a group. -/
theorem group_bits {byte : ℕ} (h : byte < 256) :
    (byte &&& 0x7f) = byte % 128 ∧ (byte &&& 0x80 ≠ 0 ↔ 128 ≤ byte) := by
  refine ⟨and_group byte, ?_⟩
  have htest : byte &&& 0x80 ≠ 0 ↔ byte.testBit 7 = true := by
    rw [show (0x80 : ℕ) = 2 ^ 7 from rfl, Nat.and_two_pow]
    cases byte.testBit 7 <;> simp
  rw [htest, Nat.testBit_eq_decide_div_mod_eq, decide_eq_true_eq]
  omega

private theorem or_group {group : ℕ} (hvalue : value < 2 ^ (i * 7)) :
    value ||| (group <<< (i * 7)) = value + group * 2 ^ (i * 7) := by
  rw [Nat.or_comm, shiftLeft_or_eq_add hvalue, Nat.add_comm]

theorem readVarint_cons {byte : ℕ} (hbyte : byte < 256) (hvalue : value < 2 ^ (i * 7))
    (bs : Bytes) :
    readVarint tooLong tooShort (fuel + 1) i value (UInt8.ofNat byte :: bs) =
      if 128 ≤ byte then
        readVarint tooLong tooShort fuel (i + 1) (value + byte % 128 * 2 ^ (i * 7)) bs
      else .ok (value + byte % 128 * 2 ^ (i * 7), bs) := by
  obtain ⟨hand, hmark⟩ := group_bits hbyte
  rw [readVarint]
  simp only [toNat_ofNat_of_lt hbyte, hand, or_group hvalue, hmark]

/-- **An integer is read back from its groups**, added to the groups before them. -/
theorem readVarint_varint {n : ℕ} (hn : n < 2 ^ (fuel * 7)) (hvalue : value < 2 ^ (i * 7))
    (hfuel : 0 < fuel) (rest : Bytes) :
    readVarint tooLong tooShort fuel i value (bytesOf (varint fuel n) ++ rest) =
      .ok (value + n * 2 ^ (i * 7), rest) := by
  induction fuel generalizing n i value with
  | zero => omega
  | succ fuel ih =>
    rw [varint_succ]
    by_cases h : n < 128
    · have hmod : n % 128 = n := Nat.mod_eq_of_lt h
      rw [if_pos h, bytesOf_cons, List.cons_append, readVarint_cons (by omega) hvalue,
        if_neg (by omega), hmod]
      rfl
    · have hpow : 2 ^ ((fuel + 1) * 7) = 2 ^ (fuel * 7) * 128 := by
        rw [Nat.add_mul, Nat.pow_add]
      have hnext : 2 ^ ((i + 1) * 7) = 2 ^ (i * 7) * 128 := by
        rw [Nat.add_mul, Nat.pow_add]
      have hfuel' : 0 < fuel := by
        by_contra h0
        obtain rfl : fuel = 0 := by omega
        omega
      have hdiv : n / 128 < 2 ^ (fuel * 7) := by omega
      have hgroup : (n % 128 + 128) % 128 = n % 128 := by omega
      have hvalue' : value + n % 128 * 2 ^ (i * 7) < 2 ^ ((i + 1) * 7) := by
        have hle : n % 128 * 2 ^ (i * 7) ≤ 127 * 2 ^ (i * 7) :=
          Nat.mul_le_mul_right _ (by omega)
        omega
      have hsum : value + n % 128 * 2 ^ (i * 7) + n / 128 * 2 ^ ((i + 1) * 7) =
          value + n * 2 ^ (i * 7) := by
        have hn' : n = n % 128 + n / 128 * 128 := by omega
        calc value + n % 128 * 2 ^ (i * 7) + n / 128 * 2 ^ ((i + 1) * 7)
            = value + (n % 128 + n / 128 * 128) * 2 ^ (i * 7) := by rw [hnext]; ring
          _ = value + n * 2 ^ (i * 7) := by rw [← hn']
      rw [if_neg h, bytesOf_cons, List.cons_append, readVarint_cons (by omega) hvalue,
        if_pos (by omega), hgroup, ih hdiv hvalue' hfuel', hsum]

/-! ### Other data -/

/-- Groups are read as long as there are any, and as many as are allowed. -/
theorem readVarint_takes {p : ε → Prop} (hlong : p tooLong) (hshort : p tooShort)
    (fuel i value : ℕ) : Takes p 1 (readVarint tooLong tooShort fuel i value) := by
  intro bs
  induction fuel generalizing i value bs with
  | zero => exact taken_error hlong
  | succ fuel ih =>
    cases bs with
    | nil => exact taken_error hshort
    | cons b bs =>
      refine taken_ite (fun _ => ?_) fun _ => taken_ok _ (List.suffix_cons b bs) (by simp)
      have htail := ih (i + 1) (value ||| ((b.toNat &&& 0x7f) <<< (i * 7))) bs
      refine ⟨htail.raises, fun a rest hread => ?_⟩
      obtain ⟨hsuffix, hlen⟩ := htail.suffix a rest hread
      exact ⟨hsuffix.trans (List.suffix_cons b bs), by rw [List.length_cons]; omega⟩

/-- Of the groups of an integer, none can be missing. -/
theorem readVarint_guards (fuel i value n : ℕ) :
    Guards (readVarint tooLong tooShort fuel i value) (bytesOf (varint fuel n)) := by
  induction fuel generalizing i value n with
  | zero =>
    intro p hp hne
    exact absurd (List.prefix_nil.mp hp) hne
  | succ fuel ih =>
    intro p hp hne
    cases p with
    | nil => exact ⟨tooShort, rfl⟩
    | cons b p =>
      rw [varint_succ] at hp hne
      by_cases h : n < 128
      · rw [if_pos h, bytesOf_cons, List.cons_prefix_cons] at hp
        rw [if_pos h, bytesOf_cons, hp.1, List.prefix_nil.mp hp.2] at hne
        exact absurd rfl hne
      · rw [if_neg h, bytesOf_cons, List.cons_prefix_cons] at hp
        rw [if_neg h, bytesOf_cons, hp.1] at hne
        obtain ⟨e, he⟩ := ih (i + 1) (value ||| ((b.toNat &&& 0x7f) <<< (i * 7))) (n / 128) p hp.2
          fun heq => hne (congrArg _ heq)
        have hmark : b.toNat &&& 0x80 ≠ 0 := by
          rw [hp.1, toNat_ofNat_of_lt (by omega), (group_bits (by omega)).2]
          omega
        exact ⟨e, by rw [readVarint]; simp only [if_pos hmark, he]⟩

end HatDrivers.Lib
