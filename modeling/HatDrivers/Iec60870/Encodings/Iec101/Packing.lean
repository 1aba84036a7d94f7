import HatDrivers.Iec60870.Encodings.Iec101.Encoder

namespace HatDrivers.Iec60870.Encodings.Iec101

open HatDrivers.Lib

/-!
# IEC 60870-5-101 — packed bytes

Several fields of the format share a byte.  For each such byte: it fits in eight
bits, and every field is read back from it.  The fields are small enough to
check every combination.
-/

set_option maxRecDepth 20000

/-! ### Causes and qualities -/

def causeByte (isTest isNegativeConfirm : Bool) (type : ℕ) : ℕ :=
  (if isTest then 0x80 else 0) ||| (if isNegativeConfirm then 0x40 else 0) ||| type

theorem causeByte_spec : ∀ isTest isNegativeConfirm : Bool, ∀ type < 64,
    causeByte isTest isNegativeConfirm type < 256 ∧
      causeByte isTest isNegativeConfirm type &&& 0x3F = type ∧
      bit (causeByte isTest isNegativeConfirm type) 0x40 = isNegativeConfirm ∧
      bit (causeByte isTest isNegativeConfirm type) 0x80 = isTest := by
  decide

theorem indication_spec : ∀ i n s b : Bool, ∀ v < 4,
    (v ||| qualityByte .INDICATION ⟨i, n, s, b⟩) < 256 ∧
      (v ||| qualityByte .INDICATION ⟨i, n, s, b⟩) &&& 3 = v ∧
      (v ||| qualityByte .INDICATION ⟨i, n, s, b⟩) &&& 1 = v &&& 1 ∧
      qualityOfByte .INDICATION (v ||| qualityByte .INDICATION ⟨i, n, s, b⟩) = ⟨i, n, s, b⟩ := by
  decide

theorem measurement_spec : ∀ i n s b o : Bool,
    qualityByte .MEASUREMENT ⟨i, n, s, b, o⟩ < 256 ∧
      qualityOfByte .MEASUREMENT (qualityByte .MEASUREMENT ⟨i, n, s, b, o⟩) = ⟨i, n, s, b, o⟩ := by
  decide

theorem counter_spec : ∀ i a o : Bool, ∀ sequence < 32,
    qualityByte .COUNTER ⟨i, a, o, sequence⟩ < 256 ∧
      qualityOfByte .COUNTER (qualityByte .COUNTER ⟨i, a, o, sequence⟩) = ⟨i, a, o, sequence⟩ := by
  decide

theorem protection_spec : ∀ i n s b t : Bool, ∀ v < 4,
    (v ||| qualityByte .PROTECTION ⟨i, n, s, b, t⟩) < 256 ∧
      (v ||| qualityByte .PROTECTION ⟨i, n, s, b, t⟩) &&& 3 = v ∧
      qualityOfByte .PROTECTION (v ||| qualityByte .PROTECTION ⟨i, n, s, b, t⟩)
        = ⟨i, n, s, b, t⟩ := by
  decide

/-! ### Commands, values and flags -/

/-- `value | select | qualifier` of a command byte. -/
def commandByte (v : ℕ) (select : Bool) (qualifier : ℕ) : ℕ :=
  v ||| (if select then 0x80 else 0) ||| ((qualifier &&& 0x1F) <<< 2)

theorem commandByte_spec : ∀ v < 4, ∀ select : Bool, ∀ qualifier < 32,
    commandByte v select qualifier < 256 ∧ commandByte v select qualifier &&& 3 = v ∧
      commandByte v select qualifier &&& 1 = v &&& 1 ∧
      bit (commandByte v select qualifier) 0x80 = select ∧
      (commandByte v select qualifier >>> 2) &&& 0x1F = qualifier := by
  decide

theorem stepByte_spec : ∀ transient : Bool, ∀ x < 128,
    ((if transient then 0x80 else 0) ||| x) < 256 ∧
      bit ((if transient then 0x80 else 0) ||| x) 0x80 = transient ∧
      bit ((if transient then 0x80 else 0) ||| x) 0x40 = decide (64 ≤ x) ∧
      ((if transient then 0x80 else 0) ||| x) &&& 0x7F = x := by
  decide

theorem startByte_spec : ∀ general l1 l2 l3 ie reverse : Bool,
    ∃ b < 256, encodeProtectionStartValue ⟨general, l1, l2, l3, ie, reverse⟩ = .ok [b] ∧
      bit b 0x01 = general ∧ bit b 0x02 = l1 ∧ bit b 0x04 = l2 ∧ bit b 0x08 = l3 ∧
      bit b 0x10 = ie ∧ bit b 0x20 = reverse := by
  intro general l1 l2 l3 ie reverse
  refine ⟨_, ?_, rfl, ?_⟩ <;> revert general l1 l2 l3 ie reverse <;> decide

theorem commandValueByte_spec : ∀ general l1 l2 l3 : Bool,
    ∃ b < 256, encodeProtectionCommandValue ⟨general, l1, l2, l3⟩ = .ok [b] ∧
      bit b 0x01 = general ∧ bit b 0x02 = l1 ∧ bit b 0x04 = l2 ∧ bit b 0x08 = l3 := by
  intro general l1 l2 l3
  refine ⟨_, ?_, rfl, ?_⟩ <;> revert general l1 l2 l3 <;> decide

/-- The eight flags of a byte. -/
def byteFlags (b : ℕ) : List Bool := (List.range 8).map fun k => bit b (1 <<< k)

def flagsByte (flags : List Bool) : ℕ :=
  (List.range 8).foldl (fun acc k => if flags.getD k false then acc ||| (1 <<< k) else acc) 0

theorem flagsByte_spec : ∀ b0 b1 b2 b3 b4 b5 b6 b7 : Bool,
    flagsByte [b0, b1, b2, b3, b4, b5, b6, b7] < 256 ∧
      byteFlags (flagsByte [b0, b1, b2, b3, b4, b5, b6, b7]) =
        [b0, b1, b2, b3, b4, b5, b6, b7] := by
  decide

theorem directoryByte_spec : ∀ moreFollows isDirectory transferActive : Bool,
    ∃ b < 256, (if moreFollows then 0x20 else 0x00) ||| (if isDirectory then 0x40 else 0x00) |||
        (if transferActive then 0x80 else 0x00) = b ∧
      bit b 0x20 = moreFollows ∧ bit b 0x40 = isDirectory ∧ bit b 0x80 = transferActive := by
  intro moreFollows isDirectory transferActive
  refine ⟨_, ?_, rfl, ?_⟩ <;> revert moreFollows isDirectory transferActive <;> decide

theorem freezeByte_spec : ∀ request < 64, ∀ freeze < 4,
    (freeze <<< 6) ||| (request &&& 0x3F) < 256 ∧
      ((freeze <<< 6) ||| (request &&& 0x3F)) &&& 0x3F = request ∧
      ((freeze <<< 6) ||| (request &&& 0x3F)) >>> 6 = freeze := by
  decide

theorem initByte_spec : ∀ paramChange : Bool, ∀ cause < 128,
    ((if paramChange then 0x80 else 0x00) ||| (cause &&& 0x7F)) < 256 ∧
      bit ((if paramChange then 0x80 else 0x00) ||| (cause &&& 0x7F)) 0x80 = paramChange ∧
      ((if paramChange then 0x80 else 0x00) ||| (cause &&& 0x7F)) &&& 0x7F = cause := by
  decide

theorem readyByte_spec (flag : Bool) :
    (if flag then 0x80 else 0x00) < 256 ∧ bit (if flag then 0x80 else 0x00) 0x80 = flag := by
  cases flag <;> decide

theorem and_0xFF_of_le {q : ℕ} (h : q ≤ 255) : q &&& 0xFF = q := by
  rw [show (0xFF : ℕ) = 2 ^ 8 - 1 from rfl, Nat.and_two_pow_sub_one_eq_mod]
  omega

end HatDrivers.Iec60870.Encodings.Iec101
