import HatDrivers.Lib.Crc
import HatDrivers.Modbus.Transport.Encoder

namespace HatDrivers.Modbus

open HatDrivers.Lib
open HatDrivers.Lib.Crc (ofBits remainder remainder_eq remainder_append remainder_append_self
  remainder_ne_of_window shift)

/-!
# Modbus — the CRC of RTU frames

`_calculate_crc` in its two versions, the loop of the Python code and the native function, and
what it detects.
-/

/-! ### The native function -/

/-- A round of the inner loop of `calculate_crc`, on its register of 16 bits. -/
def crcRoundNative (crc : UInt16) : UInt16 :=
  if crc &&& 1 ≠ 0 then (crc >>> 1) ^^^ 0xA001 else crc >>> 1

/-- `calculate_crc` of the extension module. -/
def calculateCrcNative (data : Bytes) : UInt16 :=
  data.foldl (fun crc i => crcRoundNative^[8] (crc ^^^ i.toUInt16)) 0xFFFF

theorem toNat_crcRoundNative (crc : UInt16) :
    (crcRoundNative crc).toNat = crcRound crc.toNat := by
  have hbit : crc &&& 1 ≠ 0 ↔ crc.toNat &&& 1 = 1 := by
    rw [ne_eq, ← UInt16.toNat_inj, UInt16.toNat_and]
    have := Nat.and_one_is_mod crc.toNat
    simp only [UInt16.toNat_one, UInt16.toNat_zero]
    omega
  unfold crcRoundNative crcRound
  by_cases h : crc &&& 1 ≠ 0
  · rw [if_pos h, if_pos (hbit.mp h)]
    rfl
  · rw [if_neg h, if_neg (mt hbit.mpr h)]
    rfl

theorem toNat_iterate_crcRoundNative (n : ℕ) (crc : UInt16) :
    (crcRoundNative^[n] crc).toNat = crcRound^[n] crc.toNat := by
  induction n generalizing crc with
  | zero => rfl
  | succ n ih =>
    rw [Function.iterate_succ_apply, Function.iterate_succ_apply, ih, toNat_crcRoundNative]

/-- The native function and the loop agree. -/
theorem toNat_calculateCrcNative (data : Bytes) :
    (calculateCrcNative data).toNat = calculateCrc (data.map UInt8.toNat) := by
  have hfold : ∀ crc : UInt16,
      (data.foldl (fun crc i => crcRoundNative^[8] (crc ^^^ i.toUInt16)) crc).toNat =
        (data.map UInt8.toNat).foldl (fun crc i => crcRound^[8] (crc ^^^ i)) crc.toNat := by
    induction data with
    | nil => exact fun _ => rfl
    | cons i data ih =>
      intro crc
      rw [List.foldl_cons, ih, toNat_iterate_crcRoundNative]
      rfl
  exact hfold 0xFFFF

/-! ### The shift register -/

/-- The feedback of the loop. -/
def crcPoly : BitVec 16 := 0xA001#16

/-- The bits of a byte, in the order in which they are transmitted. -/
def byteBits (b : UInt8) : List Bool := (List.range 8).map b.toNat.testBit

/-- The bits of some bytes, in the order in which they are transmitted. -/
def transmitted (bs : Bytes) : List Bool := bs.flatMap byteBits

theorem length_transmitted (bs : Bytes) : (transmitted bs).length = 8 * bs.length := by
  induction bs with
  | nil => rfl
  | cons b bs ih =>
    rw [transmitted, List.flatMap_cons, List.length_append, List.length_cons]
    rw [transmitted] at ih
    simp only [ih, byteBits, List.length_map, List.length_range]
    omega

theorem toNat_shift (crc : BitVec 16) : (shift crcPoly crc).toNat = crcRound crc.toNat := by
  have hbit : crc.getLsbD 0 = true ↔ crc.toNat &&& 1 = 1 := by
    rw [BitVec.getLsbD, Nat.testBit_zero, Nat.and_one_is_mod, decide_eq_true_eq]
  unfold shift crcRound
  by_cases h : crc.getLsbD 0 = true
  · rw [if_pos h, if_pos (hbit.mp h)]
    simp [crcPoly]
  · rw [if_neg h, if_neg (mt hbit.mpr h)]
    simp

theorem toNat_iterate_shift (n : ℕ) (crc : BitVec 16) :
    ((shift crcPoly)^[n] crc).toNat = crcRound^[n] crc.toNat := by
  induction n generalizing crc with
  | zero => rfl
  | succ n ih =>
    rw [Function.iterate_succ_apply, Function.iterate_succ_apply, ih, toNat_shift]

/-- The bits of a byte are those of its number. -/
theorem ofBits_byteBits (b : UInt8) : ofBits 16 (byteBits b) = BitVec.ofNat 16 b.toNat := by
  apply BitVec.eq_of_getLsbD_eq
  intro i hi
  rw [Crc.getLsbD_ofBits, BitVec.getLsbD_ofNat, byteBits]
  by_cases h : i < 8
  · rw [List.getD_eq_getElem _ _ (by simpa using h), List.getElem_map, List.getElem_range]
  · rw [List.getD_eq_default _ _ (by simpa using h),
      Nat.testBit_lt_two_pow (lt_of_lt_of_le b.toNat_lt
        (Nat.pow_le_pow_right (by omega) (by omega)))]

/-- The loop computes the remainder of the transmitted bits. -/
theorem calculateCrc_eq (bs : Bytes) :
    calculateCrc (bs.map UInt8.toNat) =
      (remainder crcPoly 0xFFFF#16 (transmitted bs)).toNat := by
  have hfold : ∀ crc : BitVec 16,
      (bs.map UInt8.toNat).foldl (fun crc i => crcRound^[8] (crc ^^^ i)) crc.toNat =
        (remainder crcPoly crc (transmitted bs)).toNat := by
    induction bs with
    | nil => exact fun _ => rfl
    | cons b bs ih =>
      intro crc
      have hbyte : crcRound^[8] (crc.toNat ^^^ b.toNat) =
          (remainder crcPoly crc (byteBits b)).toNat := by
        rw [remainder_eq crcPoly (by simp [byteBits]), toNat_iterate_shift, ofBits_byteBits,
          BitVec.toNat_xor, BitVec.toNat_ofNat,
          Nat.mod_eq_of_lt (b.toNat_lt.trans (by omega))]
        simp [byteBits]
      rw [List.map_cons, List.foldl_cons, hbyte, ih, transmitted, transmitted, List.flatMap_cons,
        remainder_append]
  exact hfold 0xFFFF#16

/-- The bits of a number in bytes, least significant byte first, are those of the number. -/
theorem getD_transmitted_leDigits (size x : ℕ) {i : ℕ} (h : i < 8 * size) :
    (transmitted (bytesOf (leDigits size x))).getD i false = x.testBit i := by
  induction size generalizing x i with
  | zero => omega
  | succ size ih =>
    rw [leDigits, bytesOf_cons, transmitted, List.flatMap_cons]
    have hlength : (byteBits (UInt8.ofNat (x % 256))).length = 8 := by simp [byteBits]
    have hvalue : (UInt8.ofNat (x % 256)).toNat = x % 2 ^ 8 := by simp
    by_cases hi : i < 8
    · rw [List.getD_append _ _ _ _ (hlength ▸ hi), List.getD_eq_getElem _ _ (hlength ▸ hi)]
      simp only [byteBits, List.getElem_map, List.getElem_range, hvalue, Nat.testBit_mod_two_pow]
      simp [hi]
    · rw [List.getD_append_right _ _ _ _ (by omega), hlength]
      have hrest := ih (x / 256) (i := i - 8) (by omega)
      rw [transmitted] at hrest
      rw [hrest, show x / 256 = x / 2 ^ 8 from rfl, Nat.testBit_div_two_pow]
      congr 1
      omega

/-- The CRC of a message that is followed by its CRC. -/
theorem calculateCrc_append_self (bs : Bytes) :
    ∃ crcBytes, intToBytes (calculateCrc (bs.map UInt8.toNat)) 2 = .ok crcBytes ∧
      calculateCrc (bs.map UInt8.toNat ++ crcBytes) = 0 := by
  set crc := remainder crcPoly 0xFFFF#16 (transmitted bs) with hcrc
  have hvalue : calculateCrc (bs.map UInt8.toNat) = crc.toNat := calculateCrc_eq bs
  refine ⟨leDigits 2 crc.toNat, ?_, ?_⟩
  · rw [hvalue]
    exact intToBytes_of_lt crc.isLt
  · have hcheck : ofBits 16 (transmitted (bytesOf (leDigits 2 crc.toNat))) = crc := by
      apply BitVec.eq_of_getLsbD_eq
      intro i hi
      rw [Crc.getLsbD_ofBits, getD_transmitted_leDigits 2 _ hi]
      simp [hi, BitVec.getLsbD]
    have hlength : (transmitted (bytesOf (leDigits 2 crc.toNat))).length ≤ 16 := by
      rw [length_transmitted, length_bytesOf, length_leDigits]
    have hself := remainder_append_self crcPoly hlength (hcheck.trans hcrc)
    rw [← map_toNat_bytesOf (allBytes_leDigits 2 crc.toNat), ← List.map_append, calculateCrc_eq,
      transmitted, List.flatMap_append]
    rw [transmitted, transmitted] at hself
    rw [hself]
    rfl

/-- The CRC of RTU frames tells apart messages of the same length whose bits differ within a
window of 16, it is zero for a message that is followed by its own CRC as in a frame, and the
native function computes the same. -/
theorem calculateCrc_detects_bursts :
    (∀ (bs bs' : Bytes) (start : ℕ), bs.length = bs'.length → transmitted bs ≠ transmitted bs' →
      (∀ i, (transmitted bs)[i]? ≠ (transmitted bs')[i]? → start ≤ i ∧ i < start + 16) →
      calculateCrc (bs.map UInt8.toNat) ≠ calculateCrc (bs'.map UInt8.toNat)) ∧
    (∀ bs : Bytes, ∃ crcBytes, intToBytes (calculateCrc (bs.map UInt8.toNat)) 2 = .ok crcBytes ∧
      calculateCrc (bs.map UInt8.toNat ++ crcBytes) = 0) ∧
    ∀ bs : Bytes, (calculateCrcNative bs).toNat = calculateCrc (bs.map UInt8.toNat) := by
  refine ⟨?_, calculateCrc_append_self, toNat_calculateCrcNative⟩
  intro bs bs' start hlength hne hwindow heq
  rw [calculateCrc_eq, calculateCrc_eq] at heq
  have hbits : (transmitted bs).length = (transmitted bs').length := by
    rw [length_transmitted, length_transmitted, hlength]
  exact remainder_ne_of_window (by decide) hbits hne hwindow 0xFFFF#16 (BitVec.eq_of_toNat_eq heq)

/-- A message whose last byte has two wrong bits. -/
theorem calculateCrc_detects_bursts_sample : calculateCrc [1, 6] ≠ calculateCrc [1, 5] := by
  refine calculateCrc_detects_bursts.1 [1, 6] [1, 5] 8 rfl (by decide) fun i hi => ?_
  have hbefore : ∀ i < 8, (transmitted [1, 6])[i]? = (transmitted [1, 5])[i]? := by decide
  have hafter : ∀ i, 16 ≤ i → (transmitted [1, 6])[i]? = (transmitted [1, 5])[i]? := by
    intro i hi
    rw [List.getElem?_eq_none hi, List.getElem?_eq_none hi]
  constructor
  · by_contra hlt
    exact hi (hbefore i (Nat.not_le.mp hlt))
  · by_contra hge
    exact hi (hafter i (by omega))

end HatDrivers.Modbus
