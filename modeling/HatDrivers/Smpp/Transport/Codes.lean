import HatDrivers.Smpp.Transport.Encodable
import Mathlib.Data.Finset.Insert

namespace HatDrivers.Smpp.Transport

open HatDrivers.Lib

/-!
# SMPP — fields are read back

What is written for a field is read back as it was, with one exception: the seconds of a relative
time are read as the sum of two rounded numbers (`Time.decoded`), which is not always the double
that is nearest to the tenths that were written (`Time.Exact`).
-/

/-! ### Bytes -/

theorem readByte_reads (n : ℕ) (h : n < 256) : Reads readByte [UInt8.ofNat n] n := by
  intro rest
  show Except.ok ((UInt8.ofNat n).toNat, rest) = _
  rw [toNat_ofNat_of_lt h]

theorem yieldInt_natCast {n : ℕ} (h : n < 256) : yieldInt n = .ok [n] := by
  rw [yieldInt, if_pos ⟨by omega, by omega⟩, Int.toNat_natCast]

theorem byte_codes {x : ℤ} (h : FitsByte x) : Codes (yieldInt x) readByte x.toNat := by
  obtain ⟨n, rfl⟩ := Int.eq_ofNat_of_zero_le h.1
  have hn : n < 256 := by exact_mod_cast h.2
  exact ⟨[n], yieldInt_natCast hn, allBytes_cons.mpr ⟨hn, allBytes_nil⟩, readByte_reads n hn⟩

/-- A byte that is computed, and of which a value is computed. -/
theorem bits_codes {α : Type} {r : ByteReader Error α} {n : ℕ} {a : α} (h : n < 256)
    (hr : ∀ rest, r (UInt8.ofNat n :: rest) = .ok (a, rest)) : Codes (yieldInt (n : ℕ)) r a :=
  ⟨[n], yieldInt_natCast h, allBytes_cons.mpr ⟨h, allBytes_nil⟩, hr⟩

/-- The members of an enumeration of bytes. -/
theorem enum_codes {E : Type} [Enumeration E] {e : E} (h : Enumeration.value e < 256)
    (commandStatus : CommandStatus) : Codes (yieldValue e) (readEnum commandStatus) e := by
  refine bits_codes h fun rest => ?_
  have hread := readByte_reads _ h rest
  rw [List.singleton_append] at hread
  simp only [readEnum, hread, ok_bind, enumOr_value, pure_eq_ok]

/-! ### Strings -/

/-- Bytes that do not end early. -/
def NulFree (bs : Bytes) : Prop := 0 ∉ bs

instance (bs : Bytes) : Decidable (NulFree bs) := inferInstanceAs (Decidable (0 ∉ bs))

theorem decodeCbytes_reads {value : Bytes} (h : NulFree value) :
    Reads decodeCbytes (value ++ [0]) value := by
  intro rest
  have htake : (value ++ [0] ++ rest).takeWhile (· ≠ 0) = value := by
    rw [List.append_assoc, List.takeWhile_append_of_pos]
    · simp
    · intro b hb
      have hne : b ≠ 0 := fun heq => h (heq ▸ hb)
      exact decide_eq_true hne
  have hne : value.length ≠ (value ++ [0] ++ rest).length := by
    simp only [List.length_append, List.length_singleton]
    omega
  have hdrop : (value ++ [0] ++ rest).drop (value.length + 1) = rest :=
    List.drop_left' (by simp)
  simp only [decodeCbytes, htake, if_neg hne, hdrop]
  rw [List.append_assoc, List.take_left]

theorem cbytes_codes {value : Bytes} (h : NulFree value) :
    Codes (encodeCbytes value) decodeCbytes value := by
  refine ⟨value.map UInt8.toNat ++ [0], rfl, ?_, ?_⟩
  · exact allBytes_append.mpr ⟨allBytes_map_toNat value, by decide⟩
  · rw [bytesOf_append, bytesOf_map_toNat]
    exact decodeCbytes_reads h

theorem decodeAscii_bytesOf {s : String} (h : Ascii s) :
    decodeAscii (bytesOf (s.toList.map Char.toNat)) = .ok s := by
  have hbyte : ∀ c ∈ s.toList, (UInt8.ofNat c.toNat).toNat = c.toNat :=
    fun c hc => toNat_ofNat_of_lt (Nat.lt_trans (h c hc) (by omega))
  have hall : (bytesOf (s.toList.map Char.toNat)).all (fun b => b.toNat < 128) := by
    rw [List.all_eq_true, bytesOf, List.map_map, List.forall_mem_map]
    intro c hc
    simpa [hbyte c hc] using h c hc
  have hmap : (bytesOf (s.toList.map Char.toNat)).map (fun b => Char.ofNat b.toNat) =
      s.toList := by
    rw [bytesOf, List.map_map, List.map_map]
    have hid : ∀ c ∈ s.toList, Char.ofNat (UInt8.ofNat c.toNat).toNat = c := by
      intro c hc
      rw [hbyte c hc, Char.ofNat_toNat]
    calc s.toList.map (((fun b => Char.ofNat b.toNat) ∘ UInt8.ofNat) ∘ Char.toNat)
      _ = s.toList.map id := List.map_congr_left hid
      _ = s.toList := List.map_id _
  rw [decodeAscii, if_pos hall, hmap, String.ofList_toList]

theorem cstring_codes {value : String} (h : NulFreeAscii value) :
    Codes (encodeCstring value) decodeCstring value := by
  have hascii : Ascii value := fun c hc => (h c hc).2
  have hall : value.toList.all fun c => c.toNat < 128 := by
    rw [List.all_eq_true]
    exact fun c hc => decide_eq_true (hascii c hc)
  have hnul : NulFree (bytesOf (value.toList.map Char.toNat)) := by
    intro hmem
    rw [bytesOf, List.map_map] at hmem
    obtain ⟨c, hc, hzero⟩ := List.mem_map.mp hmem
    have hnat : (UInt8.ofNat c.toNat).toNat = c.toNat :=
      toNat_ofNat_of_lt (Nat.lt_trans (hascii c hc) (by omega))
    have hpos := (h c hc).1
    rw [← hnat, show UInt8.ofNat c.toNat = 0 from hzero] at hpos
    exact Nat.lt_irrefl 0 hpos
  refine ⟨value.toList.map Char.toNat ++ [0], ?_, ?_, ?_⟩
  · rw [encodeCstring, encodeAscii, if_pos hall]
    rfl
  · refine allBytes_append.mpr ⟨?_, by decide⟩
    intro n hn
    obtain ⟨c, hc, rfl⟩ := List.mem_map.mp hn
    exact Nat.lt_trans (hascii c hc) (by omega)
  · intro rest
    have hread := decodeCbytes_reads hnul rest
    rw [bytesOf_append, show bytesOf [0] = [0] from rfl]
    simp only [decodeCstring, hread, ok_bind, decodeAscii_bytesOf hascii, pure_eq_ok]

theorem shortMessage_codes {shortMessage : Bytes} (h : shortMessage.length ≤ 254) :
    Codes (encodeShortMessage shortMessage) decodeShortMessage shortMessage := by
  refine ⟨[shortMessage.length] ++ shortMessage.map UInt8.toNat, ?_, ?_, ?_⟩
  · have hlength := yieldInt_natCast (n := shortMessage.length) (by omega)
    rw [encodeShortMessage, if_neg (by omega)]
    simp only [hlength, ok_bind, pure_eq_ok]
  · exact allBytes_append.mpr ⟨allBytes_cons.mpr ⟨by omega, allBytes_nil⟩, allBytes_map_toNat _⟩
  · intro rest
    have hread := readByte_reads shortMessage.length (by omega) (shortMessage ++ rest)
    rw [bytesOf_append, bytesOf_map_toNat, List.append_assoc,
      show bytesOf [shortMessage.length] = [UInt8.ofNat shortMessage.length] from rfl]
    simp only [decodeShortMessage, hread, ok_bind, readBytes, List.take_left, List.drop_left]

/-! ### Flags -/

/-- The sets of an enumeration of two members. -/
theorem finset_cases {E : Type} [DecidableEq E] {a b : E} (h : ∀ e, e = a ∨ e = b)
    (s : Finset E) : s = ∅ ∨ s = {a} ∨ s = {b} ∨ s = {a, b} := by
  simp only [← Finset.coe_inj, Finset.coe_empty, Finset.coe_singleton, Finset.coe_insert]
  exact Set.subset_pair_iff_eq.mp fun e _ => h e

theorem esmClass_bits (messagingMode : MessagingMode) (messageType : MessageType)
    (gsmFeatures : Finset GsmFeature) :
    let n := setFlags (messagingMode.value ||| (messageType.value <<< 2)) 6 gsmFeatures
    n < 256 ∧ n &&& 0x03 = messagingMode.value ∧ (n >>> 2) &&& 0x0f = messageType.value ∧
      flags (n >>> 6) = gsmFeatures := by
  have hcases := finset_cases (a := GsmFeature.UDHI) (b := .REPLY_PATH)
    (fun e => by cases e <;> decide) gsmFeatures
  rcases hcases with rfl | rfl | rfl | rfl <;> cases messagingMode <;> cases messageType <;>
    decide

theorem esmClass_codes (esmClass : EsmClass) :
    Codes (encodeEsmClass esmClass) decodeEsmClass esmClass := by
  obtain ⟨messagingMode, messageType, gsmFeatures⟩ := esmClass
  obtain ⟨hlt, hmode, htype, hflags⟩ := esmClass_bits messagingMode messageType gsmFeatures
  refine bits_codes hlt fun rest => ?_
  have hread := readByte_reads _ hlt rest
  rw [List.singleton_append] at hread
  simp only [decodeEsmClass, hread, ok_bind, hmode, htype, hflags, enumOf]
  rw [show messagingMode.value = Enumeration.value messagingMode from rfl,
    show messageType.value = Enumeration.value messageType from rfl, Enumeration.ofValue_value,
    Enumeration.ofValue_value]
  rfl

theorem registeredDelivery_bits (deliveryReceipt : DeliveryReceipt)
    (acknowledgements : Finset Acknowledgement) (intermediateNotification : Bool) :
    let m := setFlags deliveryReceipt.value 2 acknowledgements
    let n := if intermediateNotification then m ||| 0x10 else m
    n < 256 ∧ n &&& 0x03 = deliveryReceipt.value ∧ flags (n >>> 2) = acknowledgements ∧
      bit n 0x10 = intermediateNotification := by
  have hcases := finset_cases (a := Acknowledgement.DELIVERY) (b := .MANUAL)
    (fun e => by cases e <;> decide) acknowledgements
  rcases hcases with rfl | rfl | rfl | rfl <;> cases deliveryReceipt <;>
    cases intermediateNotification <;> decide

theorem registeredDelivery_codes (registeredDelivery : RegisteredDelivery) :
    Codes (encodeRegisteredDelivery registeredDelivery) decodeRegisteredDelivery
      registeredDelivery := by
  obtain ⟨deliveryReceipt, acknowledgements, intermediateNotification⟩ := registeredDelivery
  obtain ⟨hlt, hreceipt, hflags, hbit⟩ :=
    registeredDelivery_bits deliveryReceipt acknowledgements intermediateNotification
  refine bits_codes hlt fun rest => ?_
  have hread := readByte_reads _ hlt rest
  rw [List.singleton_append] at hread
  simp only [decodeRegisteredDelivery, hread, ok_bind, hreceipt, hflags, hbit]
  rw [show deliveryReceipt.value = Enumeration.value deliveryReceipt from rfl, enumOr_value]
  rfl

theorem dataCoding_codes (dataCoding : DataCoding) :
    Codes (yieldValue dataCoding) decodeDataCoding dataCoding := by
  have hvalue : Enumeration.value dataCoding &&& 0x0f = Enumeration.value dataCoding := by
    cases dataCoding <;> rfl
  have hlt : Enumeration.value dataCoding < 256 := by cases dataCoding <;> decide
  refine bits_codes hlt fun rest => ?_
  have hread := readByte_reads _ hlt rest
  rw [List.singleton_append] at hread
  simp only [decodeDataCoding, hread, ok_bind, hvalue, enumOf, Enumeration.ofValue_value,
    pure_eq_ok]
  rfl

/-! ### Tenths of seconds -/

/-- The double of a number of tenths. -/
def tenthsOf (tenths : ℕ) : ℚ := toDouble ((tenths : ℚ) / 10)

theorem abs_tenthsOf_sub_le {tenths : ℕ} (h : tenths < 600) :
    |tenthsOf tenths - tenths / 10| ≤ 1 / 10 ^ 3 := by
  have hlt : (tenths : ℚ) < 600 := by exact_mod_cast h
  calc |tenthsOf tenths - tenths / 10|
    _ ≤ |(tenths : ℚ) / 10| / 2 ^ 53 := abs_toDouble_sub_le _
    _ = tenths / 10 / 2 ^ 53 := by rw [abs_of_nonneg (by positivity)]
    _ ≤ 600 / 10 / 2 ^ 53 := by gcongr
    _ ≤ 1 / 10 ^ 3 := by norm_num

/-- The tenths are written as they are. -/
theorem roundHalfEven_tenthsOf {tenths : ℕ} (h : tenths < 600) :
    roundHalfEven (toDouble (tenthsOf tenths * 10)) = tenths := by
  have hlt : (tenths : ℚ) < 600 := by exact_mod_cast h
  have hnear := abs_tenthsOf_sub_le h
  have hround := abs_toDouble_sub_le (tenthsOf tenths * 10)
  have hpos : (0 : ℚ) ≤ tenths := Nat.cast_nonneg tenths
  rw [abs_le] at hnear
  have hsize : |tenthsOf tenths * 10| ≤ 601 := by
    rw [abs_le]
    constructor <;> linarith
  have hround' : |toDouble (tenthsOf tenths * 10) - tenthsOf tenths * 10| ≤ 1 / 10 ^ 3 :=
    hround.trans (le_trans (div_le_div_of_nonneg_right hsize (by norm_num)) (by norm_num))
  rw [abs_le] at hround'
  apply roundHalfEven_eq
  push_cast
  rw [abs_lt]
  constructor <;> linarith

/-- The seconds are written as they are. -/
theorem truncate_tenthsOf {tenths : ℕ} (h : tenths < 600) :
    truncate (tenthsOf tenths) = (tenths / 10 : ℕ) := by
  have hmod : (tenths : ℚ) / 10 = (tenths / 10 : ℕ) + (tenths % 10 : ℕ) / 10 := by
    have hdiv : ((10 * (tenths / 10) + tenths % 10 : ℕ) : ℚ) = tenths :=
      congrArg Nat.cast (Nat.div_add_mod tenths 10)
    push_cast at hdiv ⊢
    linarith
  have hfloor : ⌊tenthsOf tenths⌋ = (tenths / 10 : ℕ) ∧ 0 ≤ tenthsOf tenths := by
    rw [Int.floor_eq_iff]
    by_cases hzero : tenths % 10 = 0
    · -- whole seconds are doubles
      have hwhole : (tenths : ℚ) / 10 = ((tenths / 10 : ℕ) : ℤ) := by
        rw [hmod, hzero, Nat.cast_zero, zero_div, add_zero, Int.cast_natCast]
      have hexact : tenthsOf tenths = ((tenths / 10 : ℕ) : ℤ) := by
        rw [tenthsOf, hwhole]
        apply toDouble_intCast
        rw [Nat.abs_cast]
        have hsmall : tenths / 10 < 60 := by omega
        exact_mod_cast Nat.lt_trans hsmall (by norm_num)
      have hpos : (0 : ℚ) ≤ ((tenths / 10 : ℕ) : ℤ) := by positivity
      rw [hexact]
      exact ⟨⟨le_refl _, by linarith⟩, hpos⟩
    · have hnear := abs_tenthsOf_sub_le h
      rw [abs_le, hmod] at hnear
      have hlo : (1 : ℚ) ≤ (tenths % 10 : ℕ) := by exact_mod_cast Nat.one_le_iff_ne_zero.mpr hzero
      have hhi : ((tenths % 10 : ℕ) : ℚ) ≤ 9 := by exact_mod_cast (by omega : tenths % 10 ≤ 9)
      have hpos : (0 : ℚ) ≤ (tenths / 10 : ℕ) := Nat.cast_nonneg _
      rw [Int.cast_natCast]
      refine ⟨⟨?_, ?_⟩, ?_⟩ <;> linarith
  rw [truncate, if_neg (not_lt.mpr hfloor.2), hfloor.1]

/-- The seconds that are read for a number of tenths. -/
def readTenths (tenths : ℕ) : ℚ :=
  toDouble ((tenths / 10 : ℕ) + toDouble ((tenths % 10 : ℕ) * toDouble (1 / 10)))

/-- The tenths that are not read as they are written. -/
def inexactTenths : List ℕ := [3, 6, 7, 17]

/-- The bits of the seconds that are read, and how far they are shifted. -/
def readTenthsOf (tenths : ℕ) : ℕ × ℕ :=
  let tenth := doubleOf 1 10
  let fraction := doubleOf (tenths % 10 * tenth.1) (2 ^ tenth.2)
  doubleOf (tenths / 10 * 2 ^ fraction.2 + fraction.1) (2 ^ fraction.2)

theorem readTenths_eq {tenths : ℕ} (h : tenths < 600) :
    readTenths tenths = (readTenthsOf tenths).1 / 2 ^ (readTenthsOf tenths).2 := by
  have htenth : toDouble (1 / 10) = (doubleOf 1 10).1 / 2 ^ (doubleOf 1 10).2 := by
    exact_mod_cast toDouble_div (n := 1) (d := 10) (by decide) (by decide)
  -- each sum and product is far from being too large for the shift
  have hsmall : ∀ digit < 10, (digit * (doubleOf 1 10).1).log2 ≤
      52 + (2 ^ (doubleOf 1 10).2).log2 := by decide +kernel
  have hfraction := toDouble_div (pow_ne_zero _ two_ne_zero)
    (hsmall (tenths % 10) (Nat.mod_lt tenths (by omega)))
  have hsum : ∀ digit < 10, ∀ seconds < 60,
      (seconds * 2 ^ (doubleOf (digit * (doubleOf 1 10).1) (2 ^ (doubleOf 1 10).2)).2 +
        (doubleOf (digit * (doubleOf 1 10).1) (2 ^ (doubleOf 1 10).2)).1).log2 ≤
      52 + (2 ^ (doubleOf (digit * (doubleOf 1 10).1) (2 ^ (doubleOf 1 10).2)).2).log2 := by
    decide +kernel
  have hread := toDouble_div (pow_ne_zero _ two_ne_zero)
    (hsum (tenths % 10) (Nat.mod_lt tenths (by omega)) (tenths / 10) (by omega))
  unfold readTenthsOf
  simp only
  rw [← hread, readTenths, htenth, ← mul_div_assoc]
  push_cast at hfraction ⊢
  rw [hfraction, add_div, mul_div_cancel_right₀ _ (pow_ne_zero _ two_ne_zero)]

theorem readTenths_eq_iff (tenths : ℕ) (h : tenths < 600) :
    readTenths tenths = tenthsOf tenths ↔ tenths ∉ inexactTenths := by
  have hbits : ∀ n < 600, n.log2 ≤ 52 + (10 : ℕ).log2 ∧
      ((readTenthsOf n).1 * 2 ^ (doubleOf n 10).2 = (doubleOf n 10).1 * 2 ^ (readTenthsOf n).2 ↔
        n ∉ inexactTenths) := by decide +kernel
  obtain ⟨hsmall, hiff⟩ := hbits tenths h
  have htenths := toDouble_div (n := tenths) (d := 10) (by decide) hsmall
  rw [← hiff, readTenths_eq h, tenthsOf, show (10 : ℚ) = ((10 : ℕ) : ℚ) from rfl, htenths,
    div_eq_div_iff (pow_ne_zero _ two_ne_zero) (pow_ne_zero _ two_ne_zero)]
  exact_mod_cast Iff.rfl

/-! ### Times -/

theorem parseInt_format02 :
    ∀ x < 100, (format02 (x : ℕ)).length = 2 ∧ parseInt (format02 (x : ℕ)) = .ok (x : ℕ) := by
  decide

theorem parseInt_formatInt :
    ∀ x < 10, (formatInt (x : ℕ)).length = 1 ∧ parseInt (formatInt (x : ℕ)) = .ok (x : ℕ) := by
  decide

/-- Is it written with two digits? -/
def TwoDigits (x : ℤ) : Prop := 0 ≤ x ∧ x < 100

instance (x : ℤ) : Decidable (TwoDigits x) := inferInstanceAs (Decidable (_ ∧ _))

theorem TwoDigits.parses {x : ℤ} (h : TwoDigits x) :
    (format02 x).length = 2 ∧ parseInt (format02 x) = .ok x := by
  obtain ⟨n, rfl⟩ := Int.eq_ofNat_of_zero_le h.1
  exact parseInt_format02 n (by exact_mod_cast h.2)

theorem TwoDigits.twoChars {x : ℤ} (h : TwoDigits x) : TwoChars x := by
  unfold TwoDigits at h
  unfold TwoChars
  omega

/-- The fields of a time are read off their places. -/
theorem parseTime_fields {years months days hours minutes seconds offset : ℤ}
    (hyears : TwoDigits years) (hmonths : TwoDigits months) (hdays : TwoDigits days)
    (hhours : TwoDigits hours) (hminutes : TwoDigits minutes) (hseconds : TwoDigits seconds)
    {tenths : ℕ} (htenths : tenths < 10) (hoffset : TwoDigits offset) (direction : Char) :
    parseTime (format02 years ++ format02 months ++ format02 days ++ format02 hours ++
      format02 minutes ++ format02 seconds ++ formatInt tenths ++ format02 offset ++
      [direction]) =
      if direction = 'R' then .ok (.relative {
        years := years
        months := months
        days := days
        hours := hours
        minutes := minutes
        seconds := toDouble (seconds + toDouble (tenths * toDouble (1 / 10))) })
      else if direction = '+' then do
        return .absolute (← mkAbsoluteTime (2000 + years) months days hours minutes seconds
          (tenths * 100000) (quarterMicroseconds * offset))
      else if direction = '-' then do
        return .absolute (← mkAbsoluteTime (2000 + years) months days hours minutes seconds
          (tenths * 100000) (-quarterMicroseconds * offset))
      else .error (.exn (.exception "invalid direction sign")) := by
  obtain ⟨hyears, hyears'⟩ := hyears.parses
  obtain ⟨hmonths, hmonths'⟩ := hmonths.parses
  obtain ⟨hdays, hdays'⟩ := hdays.parses
  obtain ⟨hhours, hhours'⟩ := hhours.parses
  obtain ⟨hminutes, hminutes'⟩ := hminutes.parses
  obtain ⟨hseconds, hseconds'⟩ := hseconds.parses
  obtain ⟨htenths, htenths'⟩ := parseInt_formatInt tenths htenths
  obtain ⟨hoffset, hoffset'⟩ := hoffset.parses
  generalize format02 years = y at *
  generalize format02 months = mo at *
  generalize format02 days = d at *
  generalize format02 hours = h at *
  generalize format02 minutes = mi at *
  generalize format02 seconds = s at *
  generalize formatInt (tenths : ℤ) = t at *
  generalize format02 offset = o at *
  obtain ⟨y₁, y₂, rfl⟩ := List.length_eq_two.mp hyears
  obtain ⟨mo₁, mo₂, rfl⟩ := List.length_eq_two.mp hmonths
  obtain ⟨d₁, d₂, rfl⟩ := List.length_eq_two.mp hdays
  obtain ⟨h₁, h₂, rfl⟩ := List.length_eq_two.mp hhours
  obtain ⟨mi₁, mi₂, rfl⟩ := List.length_eq_two.mp hminutes
  obtain ⟨s₁, s₂, rfl⟩ := List.length_eq_two.mp hseconds
  obtain ⟨t₁, rfl⟩ := List.length_eq_one_iff.mp htenths
  obtain ⟨o₁, o₂, rfl⟩ := List.length_eq_two.mp hoffset
  simp only [parseTime, List.cons_append, List.nil_append, List.length_cons, List.length_nil,
    chars, List.take_succ_cons, List.take_zero, List.drop_succ_cons, List.drop_zero,
    hyears', hmonths', hdays', hhours', hminutes', hseconds', htenths', hoffset', ok_bind,
    pure_eq_ok, throw_eq_error, List.cons.injEq, and_true, Int.cast_natCast, ne_eq,
    not_true_eq_false, if_false, Nat.zero_add, Nat.reduceAdd]

/-- Times of whole tenths of a second, in zones of whole quarters of an hour. -/
def Time.InTenths : Time → Prop
  | .absolute time => time.naive = false ∧ (2000 ≤ time.year ∧ time.year < 2100) ∧
    time.microsecond % 100000 = 0 ∧ time.microsecond < 950000 ∧
    time.utcoffset % quarterMicroseconds = 0
  | .relative time => TwoDigits time.years ∧ TwoDigits time.months ∧ TwoDigits time.days ∧
    TwoDigits time.hours ∧ TwoDigits time.minutes ∧
    ∃ tenths < 600, time.seconds = tenthsOf tenths

/-- What a time is read as. -/
def Time.decoded : Time → Time
  | .absolute time => .absolute time
  | .relative time => .relative { time with
      seconds := readTenths (roundHalfEven (toDouble (time.seconds * 10))).toNat }

/-- A time that is read as it was written. -/
def Time.Exact : Time → Prop
  | .absolute _ => True
  | .relative time => ∀ tenths ∈ inexactTenths, time.seconds ≠ tenthsOf tenths

theorem tenthsOf_injective {m n : ℕ} (hm : m < 600) (hn : n < 600)
    (h : tenthsOf m = tenthsOf n) : m = n := by
  have hround := roundHalfEven_tenthsOf hm
  rw [h, roundHalfEven_tenthsOf hn] at hround
  exact_mod_cast hround.symm

theorem Time.decoded_relative {time : RelativeTime} {tenths : ℕ} (htenths : tenths < 600)
    (hseconds : time.seconds = tenthsOf tenths) :
    (Time.relative time).decoded = .relative { time with seconds := readTenths tenths } := by
  show Time.relative { time with
    seconds := readTenths (roundHalfEven (toDouble (time.seconds * 10))).toNat } = _
  rw [hseconds, roundHalfEven_tenthsOf htenths, Int.toNat_natCast]

theorem Time.decoded_eq_iff {time : Time} (h : time.InTenths) :
    time.decoded = time ↔ time.Exact := by
  cases time with
  | absolute time => exact iff_of_true rfl trivial
  | relative time =>
    obtain ⟨_, _, _, _, _, tenths, htenths, hseconds⟩ := h
    have hfields : (Time.relative time).decoded = .relative time ↔
        readTenths tenths = tenthsOf tenths := by
      rw [Time.decoded_relative htenths hseconds, ← hseconds]
      constructor
      · intro heq
        exact congrArg RelativeTime.seconds (Time.relative.inj heq)
      · intro heq
        rw [heq]
    rw [hfields, readTenths_eq_iff tenths htenths]
    constructor
    · intro hexact inexact hinexact heq
      have hall : ∀ n ∈ inexactTenths, n < 600 := by decide
      have hlt := hall inexact hinexact
      rw [hseconds] at heq
      exact hexact (tenthsOf_injective htenths hlt heq ▸ hinexact)
    · intro hexact hinexact
      exact hexact tenths hinexact hseconds

theorem parseTime_formatRelativeTime {time : RelativeTime} (h : (Time.relative time).InTenths) :
    parseTime (formatRelativeTime time) = .ok (Time.relative time).decoded := by
  obtain ⟨hyears, hmonths, hdays, hhours, hminutes, tenths, htenths, hseconds⟩ := h
  have htruncate : truncate time.seconds = (tenths / 10 : ℕ) := by
    rw [hseconds]
    exact truncate_tenthsOf htenths
  have hround : roundHalfEven (toDouble (time.seconds * 10)) = tenths := by
    rw [hseconds]
    exact roundHalfEven_tenthsOf htenths
  have hmod : (tenths : ℤ) % 10 = (tenths % 10 : ℕ) := by omega
  have hdigits : TwoDigits (tenths / 10 : ℕ) := ⟨by omega, by omega⟩
  have hzero : TwoDigits 0 := by decide
  have hparse := parseTime_fields hyears hmonths hdays hhours hminutes hdigits
    (Nat.mod_lt tenths (by omega)) hzero 'R'
  rw [formatRelativeTime, htruncate, hround, hmod, Time.decoded_relative htenths hseconds]
  rw [if_pos rfl, List.append_assoc] at hparse
  exact hparse

theorem mkAbsoluteTime_self {time : AbsoluteTime} (h : time.naive = false) :
    mkAbsoluteTime time.year time.month time.day time.hour time.minute time.second
      time.microsecond time.utcoffset = .ok time := by
  rw [mkAbsoluteTime, dif_pos time.utcoffset_valid, dif_pos time.valid, ← h]

/-- The fields of an absolute time are read, and the tenths its microseconds are rounded to. -/
theorem parseTime_formatAbsoluteTime_tenths {time : AbsoluteTime}
    (hyear : 2000 ≤ time.year ∧ time.year < 2100)
    (hutcoffset : time.utcoffset % quarterMicroseconds = 0) {tenths : ℕ} (htenths : tenths < 10)
    (hround : roundHalfEven ((time.microsecond : ℚ) / 100000) = tenths) :
    parseTime (formatAbsoluteTime time) =
      (mkAbsoluteTime time.year time.month time.day time.hour time.minute time.second
        (tenths * 100000) time.utcoffset).map Time.absolute := by
  obtain ⟨_, hmonth, hday, hhour, hminute, hsecond, _⟩ := time.valid
  have hdays := daysInMonth_le time.year time.month
  obtain ⟨offset, hoffset⟩ := Int.dvd_of_emod_eq_zero hutcoffset
  have hoffset' : |offset| < 96 := by
    have hzone := time.utcoffset_valid
    rw [hoffset, ValidOffset, dayMicroseconds, quarterMicroseconds] at hzone
    rw [abs_lt]
    omega
  have hzone : roundHalfEven ((time.utcoffset : ℚ) / quarterMicroseconds) = offset := by
    have hquarter : (quarterMicroseconds : ℚ) ≠ 0 := by norm_num [quarterMicroseconds]
    have hcast : (time.utcoffset : ℚ) / quarterMicroseconds = (offset : ℚ) := by
      rw [hoffset]
      push_cast
      field_simp
    rw [hcast, roundHalfEven_intCast]
  have hdigits : TwoDigits (time.year % 100) ∧ TwoDigits time.month ∧ TwoDigits time.day ∧
      TwoDigits time.hour ∧ TwoDigits time.minute ∧ TwoDigits time.second := by
    unfold TwoDigits
    omega
  obtain ⟨hyears, hmonths, hdays', hhours, hminutes, hseconds⟩ := hdigits
  have hoffsets : TwoDigits |offset| := ⟨abs_nonneg offset, by omega⟩
  have hparse := parseTime_fields hyears hmonths hdays' hhours hminutes hseconds htenths hoffsets
    (if offset < 0 then '-' else '+')
  have hyear' : 2000 + time.year % 100 = time.year := by omega
  simp only [formatAbsoluteTime, hround, hzone]
  rw [hparse, hyear']
  by_cases hsign : offset < 0
  · have hminus : -quarterMicroseconds * |offset| = time.utcoffset := by
      rw [abs_of_neg hsign, hoffset]
      ring
    simp only [if_pos hsign, hminus]
    cases mkAbsoluteTime time.year time.month time.day time.hour time.minute time.second
      (tenths * 100000) time.utcoffset <;> rfl
  · have hplus : quarterMicroseconds * |offset| = time.utcoffset := by
      rw [abs_of_nonneg (not_lt.mp hsign), hoffset]
    simp only [if_neg hsign, hplus]
    cases mkAbsoluteTime time.year time.month time.day time.hour time.minute time.second
      (tenths * 100000) time.utcoffset <;> rfl

theorem parseTime_formatAbsoluteTime {time : AbsoluteTime} (h : (Time.absolute time).InTenths) :
    parseTime (formatAbsoluteTime time) = .ok (.absolute time) := by
  obtain ⟨hnaive, hyear, hmicrosecond, hmicrosecond', hutcoffset⟩ := h
  obtain ⟨hnonneg, _⟩ := time.valid.microsecond_mem
  obtain ⟨tenths, htenths⟩ := Int.dvd_of_emod_eq_zero hmicrosecond
  obtain ⟨tenths, rfl⟩ := Int.eq_ofNat_of_zero_le (show 0 ≤ tenths by omega)
  have hround : roundHalfEven ((time.microsecond : ℚ) / 100000) = tenths := by
    have hcast : (time.microsecond : ℚ) / 100000 = ((tenths : ℤ) : ℚ) := by
      rw [htenths]
      push_cast
      field_simp
    rw [hcast, roundHalfEven_intCast]
  rw [parseTime_formatAbsoluteTime_tenths hyear hutcoffset (by omega) hround,
    mul_comm (tenths : ℤ), ← htenths, mkAbsoluteTime_self hnaive]
  rfl

theorem Time.InTenths.parses {time : Time} (h : time.InTenths) :
    parseTime (formatTime (some time)) = .ok time.decoded := by
  cases time with
  | absolute time => exact parseTime_formatAbsoluteTime h
  | relative time => exact parseTime_formatRelativeTime h

theorem Time.InTenths.encodable {time : Time} (h : time.InTenths) : time.Encodable := by
  cases time with
  | absolute time => exact h.2.2.2.1
  | relative time =>
    obtain ⟨hyears, hmonths, hdays, hhours, hminutes, tenths, htenths, hseconds⟩ := h
    refine ⟨hyears.twoChars, hmonths.twoChars, hdays.twoChars, hhours.twoChars,
      hminutes.twoChars, ?_⟩
    rw [hseconds, truncate_tenthsOf htenths]
    exact ⟨by omega, by omega⟩

theorem time_codes {time : Option Time} (h : ∀ t ∈ time, t.InTenths) :
    Codes (encodeTime time) decodeTime (time.map Time.decoded) := by
  cases time with
  | none => exact ⟨[0], rfl, by decide, fun rest => rfl⟩
  | some time =>
    have hin := h time rfl
    have h16 := (length_formatTime time).mpr hin.encodable
    obtain ⟨ns, hw, hb, hr⟩ := cstring_codes (nulFreeAscii_formatTime (some time))
    refine ⟨ns, ?_, hb, fun rest => ?_⟩
    · simp only [encodeTime, h16, ne_eq, not_true_eq_false, and_false, if_false, hw]
    · simp only [decodeTime, hr rest, ok_bind, String.toList_ofList,
        if_neg (formatTime_ne_nil time),
        hin.parses, pure_eq_ok]
      rfl

theorem timeOr_codes {time : Option Time} (h : ∀ t ∈ time, t.InTenths)
    (commandStatus : CommandStatus) :
    Codes (encodeTime time) (decodeTimeOr commandStatus) (time.map Time.decoded) := by
  obtain ⟨ns, hw, hb, hr⟩ := time_codes h
  refine ⟨ns, hw, hb, fun rest => ?_⟩
  rw [decodeTimeOr, hr rest]
  rfl

end HatDrivers.Smpp.Transport
