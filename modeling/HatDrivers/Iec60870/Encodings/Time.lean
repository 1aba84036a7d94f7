import HatDrivers.Iec60870.Encodings.Common

namespace HatDrivers.Iec60870.Encodings

open HatDrivers.Lib

/-!
# IEC 60870-5 encodings — binary time

`decode_time` / `encode_time`: the two-, three-, four- and seven-byte forms share
their leading bytes, so a time can be written in any size up to its own.
-/

/-- `x if time_size.value > n else None`. -/
def ifLonger {α : Type} (timeSize : TimeSize) (n : ℕ) (x : Except Exn α) : Except Exn (Option α) :=
  if timeSize.value > n then do return some (← x) else return none

def decodeTime (timeBytes : Bytes) (timeSize : TimeSize) : Except Exn Time := do
  let milliseconds := ((← byteAt timeBytes 1) <<< 8) ||| (← byteAt timeBytes 0)
  let invalid ← ifLonger timeSize 2 (do return bit (← byteAt timeBytes 2) 0x80)
  let substituted ← ifLonger timeSize 2 (do return bit (← byteAt timeBytes 2) 0x40)
  let minutes ← ifLonger timeSize 2 (do return (← byteAt timeBytes 2) &&& 0x3F)
  let summerTime ← ifLonger timeSize 3 (do return bit (← byteAt timeBytes 3) 0x80)
  let hours ← ifLonger timeSize 3 (do return (← byteAt timeBytes 3) &&& 0x1F)
  let dayOfWeek ← ifLonger timeSize 4 (do return (← byteAt timeBytes 4) >>> 5)
  let dayOfMonth ← ifLonger timeSize 4 (do return (← byteAt timeBytes 4) &&& 0x1F)
  let months ← ifLonger timeSize 4 (do return (← byteAt timeBytes 5) &&& 0x0F)
  let years ← ifLonger timeSize 4 (do return (← byteAt timeBytes 6) &&& 0x7F)
  return { size := timeSize, milliseconds, invalid, substituted, minutes, summerTime, hours,
           dayOfWeek, dayOfMonth, months, years }

/-- The truth value of an optional flag: `None` is false. -/
def truthy (x : Option Bool) : Bool := x.getD false

/-- An integer field used in arithmetic: `None` raises `TypeError`. -/
def required (x : Option ℕ) : Except Exn ℕ :=
  match x with
  | some n => .ok n
  | none => .error .typeError

def encodeTime (time : Time) (timeSize : TimeSize) : Except Exn (List ℕ) := do
  if timeSize.value > time.size.value then throw (.valueError "unsupported time size")
  let ms := [time.milliseconds &&& 0xFF, (time.milliseconds >>> 8) &&& 0xFF]
  let minutes ← (if timeSize.value > 2 then do
      let minutes ← required time.minutes
      pure [(if truthy time.invalid then 0x80 else 0) |||
        (if truthy time.substituted then 0x40 else 0) ||| (minutes &&& 0x3F)]
    else pure [])
  let hours ← (if timeSize.value > 3 then do
      let hours ← required time.hours
      pure [(if truthy time.summerTime then 0x80 else 0) ||| (hours &&& 0x1F)]
    else pure [])
  let date ← (if timeSize.value > 4 then do
      let dayOfWeek ← required time.dayOfWeek
      let dayOfMonth ← required time.dayOfMonth
      let months ← required time.months
      let years ← required time.years
      pure [((dayOfWeek &&& 0x07) <<< 5) ||| (dayOfMonth &&& 0x1F), months &&& 0x0F, years &&& 0x7F]
    else pure [])
  return ms ++ minutes ++ hours ++ date

/-! ### The packed bytes of a time -/

section

set_option maxRecDepth 20000

/-- The byte of the minutes and the two quality flags. -/
private def minutesByte (invalid substituted : Bool) (minutes : ℕ) : ℕ :=
  (if invalid then 0x80 else 0) ||| (if substituted then 0x40 else 0) ||| (minutes &&& 0x3F)

private def hoursByte (summerTime : Bool) (hours : ℕ) : ℕ :=
  (if summerTime then 0x80 else 0) ||| (hours &&& 0x1F)

private def dayByte (dayOfWeek dayOfMonth : ℕ) : ℕ :=
  ((dayOfWeek &&& 0x07) <<< 5) ||| (dayOfMonth &&& 0x1F)

private theorem minutesByte_spec : ∀ invalid substituted : Bool, ∀ m < 64,
    minutesByte invalid substituted m < 256 ∧
    bit (minutesByte invalid substituted m) 0x80 = invalid ∧
      bit (minutesByte invalid substituted m) 0x40 = substituted ∧
      minutesByte invalid substituted m &&& 0x3F = m := by
  decide

private theorem hoursByte_spec : ∀ summerTime : Bool, ∀ h < 32,
    hoursByte summerTime h < 256 ∧ bit (hoursByte summerTime h) 0x80 = summerTime ∧
      hoursByte summerTime h &&& 0x1F = h := by
  decide

private theorem dayByte_spec : ∀ w < 8, ∀ d < 32,
    dayByte w d < 256 ∧ dayByte w d >>> 5 = w ∧ dayByte w d &&& 0x1F = d := by
  decide

private theorem low4_of_lt : ∀ m < 16, m &&& 0x0F = m := by decide

private theorem low7_of_lt : ∀ y < 128, y &&& 0x7F = y := by decide

end

/-- The two bytes of a 16-bit integer, split and joined with shifts. -/
theorem split_join {x : ℕ} (h : x < 65536) :
    x &&& 0xFF < 256 ∧ (x >>> 8) &&& 0xFF < 256 ∧
      (((x >>> 8) &&& 0xFF) <<< 8) ||| (x &&& 0xFF) = x := by
  have hlo : x &&& 0xFF = x % 256 := Nat.and_two_pow_sub_one_eq_mod x 8
  have hhi : (x >>> 8) &&& 0xFF = x / 256 % 256 := by
    rw [show (0xFF : ℕ) = 2 ^ 8 - 1 from rfl, Nat.and_two_pow_sub_one_eq_mod,
      Nat.shiftRight_eq_div_pow]
  have hjoin := @shiftLeft_or_eq_add (x / 256 % 256) (x % 256) 8 (Nat.mod_lt _ (by omega))
  rw [hlo, hhi, hjoin]
  omega

/-! ### Round trip of a time -/

private theorem Available.exists_eq {α : Type} {present : Prop} {inRange : α → Prop} {x : Option α}
    (h : Available present inRange x) (hp : present) : ∃ a, x = some a ∧ inRange a := by
  cases x with
  | none => exact absurd hp h
  | some a => exact ⟨a, rfl, h.2⟩

private theorem Available.eq_none {α : Type} {present : Prop} {inRange : α → Prop} {x : Option α}
    (h : Available present inRange x) (hp : ¬ present) : x = none := by
  cases x with
  | none => rfl
  | some a => exact absurd h.1 hp

/-- **A valid time is written, and read back from its bytes** whatever follows them. -/
theorem encodeTime_codes {t : Time} (h : t.Valid) :
    ∃ ns, encodeTime t t.size = .ok ns ∧ AllBytes ns ∧ ns.length = t.size.value ∧
      ∀ rest, decodeTime (bytesOf ns ++ rest) t.size = .ok t := by
  obtain ⟨size, ms, invalid, substituted, minutes, summerTime, hours, dayOfWeek, dayOfMonth, months,
    years⟩ := t
  obtain ⟨hms, hinv, hsub, hmin, hst, hh, hdow, hdom, hmon, hy⟩ := h
  simp only at hms hinv hsub hmin hst hh hdow hdom hmon hy
  obtain ⟨h0, h1, hjoin⟩ := split_join (x := ms) (by omega)
  cases size with
  | TWO =>
    obtain rfl := hinv.eq_none (by decide)
    obtain rfl := hsub.eq_none (by decide)
    obtain rfl := hmin.eq_none (by decide)
    obtain rfl := hst.eq_none (by decide)
    obtain rfl := hh.eq_none (by decide)
    obtain rfl := hdow.eq_none (by decide)
    obtain rfl := hdom.eq_none (by decide)
    obtain rfl := hmon.eq_none (by decide)
    obtain rfl := hy.eq_none (by decide)
    refine ⟨_, rfl, by simp [h0, h1], rfl, fun rest => ?_⟩
    simp [decodeTime, ifLonger, TimeSize.value, byteAt_bytesOf_zero, h0, h1, hjoin]
  | THREE =>
    obtain ⟨invalid, rfl, -⟩ := hinv.exists_eq (by decide)
    obtain ⟨substituted, rfl, -⟩ := hsub.exists_eq (by decide)
    obtain ⟨minutes, rfl, hmin⟩ := hmin.exists_eq (by decide)
    obtain rfl := hst.eq_none (by decide)
    obtain rfl := hh.eq_none (by decide)
    obtain rfl := hdow.eq_none (by decide)
    obtain rfl := hdom.eq_none (by decide)
    obtain rfl := hmon.eq_none (by decide)
    obtain rfl := hy.eq_none (by decide)
    obtain ⟨hm, hmi, hmsub, hmm⟩ := minutesByte_spec invalid substituted minutes (by omega)
    refine ⟨[_, _, minutesByte invalid substituted minutes], rfl, by simp [h0, h1, hm], rfl,
      fun rest => ?_⟩
    simp [decodeTime, ifLonger, TimeSize.value, byteAt_bytesOf_zero, h0, h1, hjoin, hm, hmi, hmsub,
      hmm]
  | FOUR =>
    obtain ⟨invalid, rfl, -⟩ := hinv.exists_eq (by decide)
    obtain ⟨substituted, rfl, -⟩ := hsub.exists_eq (by decide)
    obtain ⟨minutes, rfl, hmin⟩ := hmin.exists_eq (by decide)
    obtain ⟨summerTime, rfl, -⟩ := hst.exists_eq (by decide)
    obtain ⟨hours, rfl, hh⟩ := hh.exists_eq (by decide)
    obtain rfl := hdow.eq_none (by decide)
    obtain rfl := hdom.eq_none (by decide)
    obtain rfl := hmon.eq_none (by decide)
    obtain rfl := hy.eq_none (by decide)
    obtain ⟨hm, hmi, hmsub, hmm⟩ := minutesByte_spec invalid substituted minutes (by omega)
    obtain ⟨hhb, hhs, hhh⟩ := hoursByte_spec summerTime hours (by omega)
    refine ⟨[_, _, minutesByte invalid substituted minutes, hoursByte summerTime hours], rfl,
      by simp [h0, h1, hm, hhb], rfl, fun rest => ?_⟩
    simp [decodeTime, ifLonger, TimeSize.value, byteAt_bytesOf_zero, h0, h1, hjoin, hm, hmi, hmsub,
      hmm, hhb, hhs, hhh]
  | SEVEN =>
    obtain ⟨invalid, rfl, -⟩ := hinv.exists_eq (by decide)
    obtain ⟨substituted, rfl, -⟩ := hsub.exists_eq (by decide)
    obtain ⟨minutes, rfl, hmin⟩ := hmin.exists_eq (by decide)
    obtain ⟨summerTime, rfl, -⟩ := hst.exists_eq (by decide)
    obtain ⟨hours, rfl, hh⟩ := hh.exists_eq (by decide)
    obtain ⟨dayOfWeek, rfl, hdow⟩ := hdow.exists_eq (by decide)
    obtain ⟨dayOfMonth, rfl, hdom⟩ := hdom.exists_eq (by decide)
    obtain ⟨months, rfl, hmon⟩ := hmon.exists_eq (by decide)
    obtain ⟨years, rfl, hy⟩ := hy.exists_eq (by decide)
    obtain ⟨hm, hmi, hmsub, hmm⟩ := minutesByte_spec invalid substituted minutes (by omega)
    obtain ⟨hhb, hhs, hhh⟩ := hoursByte_spec summerTime hours (by omega)
    obtain ⟨hdb, hdw, hdm⟩ := dayByte_spec dayOfWeek (by omega) dayOfMonth (by omega)
    have hmo : months &&& 0x0F = months := low4_of_lt months (by omega)
    have hyr : years &&& 0x7F = years := low7_of_lt years (by omega)
    have hmo' : months < 256 := by omega
    have hyr' : years < 256 := by omega
    refine ⟨[_, _, minutesByte invalid substituted minutes, hoursByte summerTime hours,
      dayByte dayOfWeek dayOfMonth, _, _], rfl, by simp [h0, h1, hm, hhb, hdb, hmo, hmo', hyr,
        hyr'],
      rfl, fun rest => ?_⟩
    simp [decodeTime, ifLonger, TimeSize.value, byteAt_bytesOf_zero, h0, h1, hjoin, hm, hmi, hmsub,
      hmm, hhb, hhs, hhh, hdb, hdw, hdm, hmo, hmo', hyr, hyr']

end HatDrivers.Iec60870.Encodings
