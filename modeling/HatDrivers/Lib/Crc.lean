import Mathlib.Data.List.GetD
import Mathlib.Logic.Function.Iterate
import Mathlib.Tactic.Set

namespace HatDrivers.Lib.Crc

/-!
# Cyclic redundancy checks

A shift register of `w` bits that is fed a message bit by bit, least significant bit first, with
feedback from a polynomial.  Its final state is linear in the message (`remainder_xor`), and a
register whose polynomial has its highest bit set forgets nothing (`shift_eq_zero`), so two messages
of the same length that differ within a window of `w` bits have different remainders
(`remainder_ne_of_window`).
-/

variable {w : ℕ} (poly : BitVec w)

/-- A shift of the register. -/
def shift (crc : BitVec w) : BitVec w :=
  if crc.getLsbD 0 then (crc >>> 1) ^^^ poly else crc >>> 1

/-- The register after a bit of the message. -/
def feed (crc : BitVec w) (b : Bool) : BitVec w := shift poly (crc ^^^ BitVec.ofNat w b.toNat)

/-- The register after the bits of a message. -/
def remainder (crc : BitVec w) (bits : List Bool) : BitVec w := bits.foldl (feed poly) crc

/-- The register with some bits, the first of them lowest. -/
def ofBits (w : ℕ) : List Bool → BitVec w
  | [] => 0#w
  | b :: bits => (ofBits w bits <<< 1) ^^^ BitVec.ofNat w b.toNat

/-! ### Bits -/

theorem getLsbD_ofNat_toNat (b : Bool) (i : ℕ) :
    (BitVec.ofNat w b.toNat).getLsbD i = (decide (i < w) && (decide (i = 0) && b)) := by
  rw [BitVec.getLsbD_ofNat]
  cases b with
  | false => simp
  | true =>
    cases i with
    | zero => rfl
    | succ i => simp [Nat.testBit_succ]

theorem getLsbD_ofBits (bits : List Bool) (i : ℕ) :
    (ofBits w bits).getLsbD i = (decide (i < w) && bits.getD i false) := by
  induction bits generalizing i with
  | nil => simp [ofBits]
  | cons b bits ih =>
    rw [ofBits, BitVec.getLsbD_xor, BitVec.getLsbD_shiftLeft, getLsbD_ofNat_toNat, ih]
    cases i with
    | zero => simp
    | succ i =>
      by_cases h : i + 1 < w
      · have hi : i < w := by omega
        simp [h, hi]
      · simp [h]

/-- Bits that fit into the register are zero only if the register is. -/
theorem ofBits_ne_zero {bits : List Bool} (hlength : bits.length ≤ w) (h : true ∈ bits) :
    ofBits w bits ≠ 0#w := by
  obtain ⟨i, hi, hbit⟩ := List.getElem_of_mem h
  intro hzero
  have hget := getLsbD_ofBits (w := w) bits i
  rw [hzero, BitVec.getLsbD_zero, List.getD_eq_getElem _ _ hi, hbit] at hget
  simp [show i < w by omega] at hget

/-! ### Shifts -/

theorem shift_zero : shift poly 0#w = 0#w := by simp [shift]

/-- A shift is linear. -/
theorem shift_xor (a b : BitVec w) : shift poly (a ^^^ b) = shift poly a ^^^ shift poly b := by
  unfold shift
  rw [BitVec.getLsbD_xor, BitVec.ushiftRight_xor_distrib]
  ext i hi
  cases a.getLsbD 0 <;> cases b.getLsbD 0 <;> simp <;> cases poly[i] <;> simp

/-- What is shifted out of a register that is shifted back was not there. -/
theorem shift_shiftLeft {a : BitVec w} (h : a.getLsbD (w - 1) = false) :
    shift poly (a <<< 1) = a := by
  have hlow : (a <<< 1).getLsbD 0 = false := by simp
  rw [shift, hlow, if_neg Bool.false_ne_true]
  ext i hi
  rw [← BitVec.getLsbD_eq_getElem, ← BitVec.getLsbD_eq_getElem, BitVec.getLsbD_ushiftRight,
    BitVec.getLsbD_shiftLeft]
  by_cases hlast : 1 + i < w
  · simp [hlast]
  · rw [show i = w - 1 by omega, h]
    simp [show ¬ 1 + (w - 1) < w by omega]

theorem iterate_shift_zero (n : ℕ) : (shift poly)^[n] 0#w = 0#w := by
  induction n with
  | zero => rfl
  | succ n ih => rw [Function.iterate_succ_apply, shift_zero, ih]

variable {poly} in
/-- The highest bit tells whether the lowest one was set, so that nothing is lost. -/
theorem shift_eq_zero (hpoly : poly.getLsbD (w - 1)) {a : BitVec w} (h : shift poly a = 0#w) :
    a = 0#w := by
  cases hlow : a.getLsbD 0 with
  | true =>
    rw [shift, hlow, if_pos rfl] at h
    have hhigh := congrArg (fun x => x.getLsbD (w - 1)) h
    rw [BitVec.getLsbD_xor, hpoly, BitVec.getLsbD_ushiftRight, BitVec.getLsbD_zero,
      BitVec.getLsbD_of_ge a (1 + (w - 1)) (by omega)] at hhigh
    simp at hhigh
  | false =>
    rw [shift, hlow, if_neg Bool.false_ne_true] at h
    apply BitVec.eq_of_getLsbD_eq
    intro i _
    cases i with
    | zero => rw [hlow, BitVec.getLsbD_zero]
    | succ i =>
      have hbit := congrArg (fun x => x.getLsbD i) h
      rw [BitVec.getLsbD_ushiftRight, Nat.add_comm, BitVec.getLsbD_zero] at hbit
      rw [hbit, BitVec.getLsbD_zero]

variable {poly} in
theorem iterate_shift_eq_zero (hpoly : poly.getLsbD (w - 1)) (n : ℕ) {a : BitVec w}
    (h : (shift poly)^[n] a = 0#w) : a = 0#w := by
  induction n generalizing a with
  | zero => exact h
  | succ n ih => exact shift_eq_zero hpoly (ih h)

/-! ### Messages -/

theorem remainder_append (crc : BitVec w) (bits bits' : List Bool) :
    remainder poly crc (bits ++ bits') = remainder poly (remainder poly crc bits) bits' :=
  List.foldl_append

/-- The register is linear in the message. -/
theorem remainder_xor {bits bits' : List Bool} (h : bits.length = bits'.length)
    (crc crc' : BitVec w) :
    remainder poly (crc ^^^ crc') (List.zipWith xor bits bits') =
      remainder poly crc bits ^^^ remainder poly crc' bits' := by
  induction bits generalizing bits' crc crc' with
  | nil =>
    cases List.eq_nil_of_length_eq_zero h.symm
    rfl
  | cons b bits ih =>
    cases bits' with
    | nil => cases h
    | cons b' bits' =>
      have hstep : feed poly (crc ^^^ crc') (xor b b') = feed poly crc b ^^^ feed poly crc' b' := by
        have hbit : BitVec.ofNat w (xor b b').toNat =
            BitVec.ofNat w b.toNat ^^^ BitVec.ofNat w b'.toNat := by
          cases b <;> cases b' <;> simp
        rw [feed, feed, feed, ← shift_xor, hbit]
        congr 1
        ac_rfl
      rw [List.zipWith_cons_cons]
      show remainder poly (feed poly (crc ^^^ crc') (xor b b')) _ = _
      rw [hstep, ih (Nat.succ.inj h)]
      rfl

/-- Bits that fit into the register may be put there at once. -/
theorem remainder_eq {bits : List Bool} (h : bits.length ≤ w) (crc : BitVec w) :
    remainder poly crc bits = (shift poly)^[bits.length] (crc ^^^ ofBits w bits) := by
  induction bits generalizing crc with
  | nil => simp [remainder, ofBits]
  | cons b bits ih =>
    have hlength : bits.length < w := h
    have hhigh : (ofBits w bits).getLsbD (w - 1) = false := by
      rw [getLsbD_ofBits, List.getD_eq_default _ _ (by omega), Bool.and_false]
    show remainder poly (feed poly crc b) bits = _
    rw [ih (Nat.le_of_lt hlength), List.length_cons, Function.iterate_succ_apply, ofBits, feed]
    have hcomm : crc ^^^ (ofBits w bits <<< 1 ^^^ BitVec.ofNat w b.toNat) =
        (crc ^^^ BitVec.ofNat w b.toNat) ^^^ ofBits w bits <<< 1 := by ac_rfl
    rw [hcomm, shift_xor poly _ (ofBits w bits <<< 1), shift_shiftLeft poly hhigh]

theorem remainder_replicate_false (crc : BitVec w) (n : ℕ) :
    remainder poly crc (List.replicate n false) = (shift poly)^[n] crc := by
  induction n generalizing crc with
  | zero => rfl
  | succ n ih =>
    rw [List.replicate_succ]
    show remainder poly (feed poly crc false) _ = _
    rw [ih, Function.iterate_succ_apply, feed]
    simp

/-- A message that is followed by its remainder has the remainder zero. -/
theorem remainder_append_self {crc : BitVec w} {bits check : List Bool} (hlength : check.length ≤ w)
    (hcheck : ofBits w check = remainder poly crc bits) :
    remainder poly crc (bits ++ check) = 0#w := by
  rw [remainder_append, remainder_eq poly hlength, hcheck, BitVec.xor_self]
  exact iterate_shift_zero poly _

/-! ### Bursts -/

variable {poly}

/-- A burst of errors is no multiple of the polynomial. -/
theorem remainder_burst_ne_zero (hpoly : poly.getLsbD (w - 1)) {burst : List Bool}
    (hlength : burst.length ≤ w) (hburst : true ∈ burst) (m n : ℕ) :
    remainder poly 0#w (List.replicate m false ++ burst ++ List.replicate n false) ≠ 0#w := by
  rw [remainder_append, remainder_append, remainder_replicate_false poly 0#w, iterate_shift_zero,
    remainder_eq poly hlength, remainder_replicate_false, BitVec.zero_xor]
  intro h
  apply ofBits_ne_zero hlength hburst
  exact iterate_shift_eq_zero hpoly _ (iterate_shift_eq_zero hpoly _ h)

/-- Bits that are false are as many. -/
theorem eq_replicate_false {bits : List Bool} (h : true ∉ bits) :
    bits = List.replicate bits.length false := by
  rw [List.eq_replicate_iff]
  refine ⟨rfl, fun b hb => ?_⟩
  cases b with
  | false => rfl
  | true => exact absurd hb h

/-- Two messages of the same length that differ, but only within as many consecutive bits as the
register has, have different remainders. -/
theorem remainder_ne_of_window (hpoly : poly.getLsbD (w - 1)) {bits bits' : List Bool}
    (hlength : bits.length = bits'.length) (hne : bits ≠ bits') {start : ℕ}
    (hwindow : ∀ i, bits[i]? ≠ bits'[i]? → start ≤ i ∧ i < start + w) (crc : BitVec w) :
    remainder poly crc bits ≠ remainder poly crc bits' := by
  intro heq
  set diff := List.zipWith xor bits bits' with hdiff
  have hbit : ∀ i : ℕ, diff[i]? = some true ↔ bits[i]? ≠ bits'[i]? := by
    intro i
    rw [hdiff]
    by_cases hi : i < bits.length
    · have hi' : i < bits'.length := hlength ▸ hi
      rw [List.getElem?_zipWith, List.getElem?_eq_getElem hi, List.getElem?_eq_getElem hi']
      cases bits[i] <;> cases bits'[i] <;> simp
    · rw [List.getElem?_zipWith, List.getElem?_eq_none (Nat.not_lt.mp hi),
        List.getElem?_eq_none (hlength ▸ Nat.not_lt.mp hi)]
      simp
  have hzero : remainder poly 0#w diff = 0#w := by
    rw [← BitVec.xor_self (x := crc), hdiff, remainder_xor poly hlength, heq, BitVec.xor_self,
      BitVec.xor_self]
  have hbefore : true ∉ diff.take start := by
    intro h
    obtain ⟨i, hi⟩ := List.mem_iff_getElem?.mp h
    rw [List.getElem?_take] at hi
    split at hi
    next hlt => exact absurd (hwindow i ((hbit i).mp hi)).1 (Nat.not_le.mpr hlt)
    next => cases hi
  have hafter : true ∉ (diff.drop start).drop w := by
    intro h
    obtain ⟨i, hi⟩ := List.mem_iff_getElem?.mp h
    rw [List.getElem?_drop, List.getElem?_drop] at hi
    have := (hwindow _ ((hbit _).mp hi)).2
    omega
  have hwithin : true ∈ (diff.drop start).take w := by
    obtain ⟨i, hi⟩ : ∃ i : ℕ, bits[i]? ≠ bits'[i]? := by
      by_contra hall
      exact hne (List.ext_getElem? fun i => not_not.mp fun hi => hall ⟨i, hi⟩)
    obtain ⟨hlow, hhigh⟩ := hwindow i hi
    apply List.mem_iff_getElem?.mpr
    refine ⟨i - start, ?_⟩
    rw [List.getElem?_take, if_pos (by omega), List.getElem?_drop, Nat.add_sub_cancel' hlow]
    exact (hbit i).mpr hi
  have hsplit : diff = List.replicate (diff.take start).length false ++ (diff.drop start).take w ++
      List.replicate ((diff.drop start).drop w).length false := by
    rw [← eq_replicate_false hbefore, ← eq_replicate_false hafter, List.append_assoc,
      List.take_append_drop, List.take_append_drop]
  rw [hsplit] at hzero
  exact remainder_burst_ne_zero hpoly (List.length_take_le _ _) hwithin _ _ hzero

end HatDrivers.Lib.Crc
