import HatDrivers.Iec60870.Encodings.Iec101.RoundTrip
import HatDrivers.Iec60870.Encodings.Layout

namespace HatDrivers.Iec60870.Encodings.Iec101

open HatDrivers.Lib

/-!
# IEC 60870-5-101 — sizes of information elements

Every type but F_SG_NA, whose segment has a length byte, reads a fixed number of
bytes for an element (`decodeElement_fixedSize`).  Most of them fail if one is
missing (`decodeElement_checks`); those that end with a slice do not.
-/

/-! ### Single bytes and slices -/

/-- A reader of one byte. -/
private theorem checkedSize_byte {α : Type} {r : ByteReader Exn α} (f : ℕ → Except Exn α)
    (hr : ∀ bs, r bs = (byteAt bs 0 >>= f).map fun a => (a, bs.drop 1)) : CheckedSize 1 r where
  toFixedSize := by
    apply FixedSize.intro (fun bs => byteAt bs 0 >>= f) hr
    intro bs rest hlen
    rw [byteAt_append (by omega)]
  checks := by
    intro bs hlen
    exact ⟨.indexError, by rw [hr, byteAt_eq_error (by omega)]; rfl⟩

/-- A reader of the slice of the first `n` bytes. -/
private theorem fixedSize_take {α : Type} {n : ℕ} {r : ByteReader Exn α} (f : Bytes → Except Exn α)
    (hr : ∀ bs, r bs = (f (bs.take n)).map fun a => (a, bs.drop n)) : FixedSize n r := by
  apply FixedSize.intro (fun bs => f (bs.take n)) hr
  intro bs rest hlen
  rw [List.take_append_of_le_length hlen.ge]

/-- A slice whose conversion fails if it is short. -/
private theorem checkedSize_take {α : Type} {n : ℕ} {r : ByteReader Exn α}
    (f : Bytes → Except Exn α) (hr : ∀ bs, r bs = (f (bs.take n)).map fun a => (a, bs.drop n))
    (hf : ∀ bs : Bytes, bs.length < n → ∃ e, f bs = .error e) : CheckedSize n r where
  toFixedSize := fixedSize_take f hr
  checks := by
    intro bs hlen
    obtain ⟨e, he⟩ := hf (bs.take n) (by rw [List.length_take]; omega)
    exact ⟨e, by rw [hr, he]; rfl⟩

private theorem unpackInt_checks {α : Type} {size : ℕ} (f : ℤ → α) {bs : Bytes}
    (h : bs.length < size) : ∃ e, (unpackInt size bs).map f = .error e := by
  unfold unpackInt
  split
  · omega
  · exact ⟨_, rfl⟩

private theorem unpackFloat_checks {α : Type} (f : BitVec 32 → α) {bs : Bytes}
    (h : bs.length < 4) : ∃ e, (unpackFloat bs).map f = .error e := by
  unfold unpackFloat
  split
  · omega
  · exact ⟨_, rfl⟩

/-! ### Qualities, values and fields -/

theorem decodeQuality_size (t : QualityType) : CheckedSize 1 (decodeQuality t) := by
  apply checkedSize_byte fun b => .ok (qualityOfByte t b)
  intro bs
  unfold decodeQuality
  cases byteAt bs 0 <;> rfl

theorem decodeStepPositionValue_size : CheckedSize 1 decodeStepPositionValue := by
  apply checkedSize_byte fun b => .ok
    { value := if bit b 0x40 then (b &&& 0x7F : ℕ) - 128 else (b &&& 0x7F : ℕ)
      transient := bit b 0x80 }
  intro bs
  unfold decodeStepPositionValue
  cases byteAt bs 0 <;> rfl

theorem decodeBitstringValue_size : FixedSize 4 decodeBitstringValue :=
  fixedSize_take (fun bs => .ok ⟨bs⟩) fun _ => rfl

theorem decodeNormalizedValue_size : CheckedSize 2 decodeNormalizedValue := by
  apply checkedSize_take (fun bs => (unpackInt 2 bs).map fun value => ⟨value / 0x7FFF⟩)
  · intro bs
    unfold decodeNormalizedValue
    cases unpackInt 2 (bs.take 2) <;> rfl
  · exact fun bs => unpackInt_checks _

theorem decodeScaledValue_size : CheckedSize 2 decodeScaledValue := by
  apply checkedSize_take (fun bs => (unpackInt 2 bs).map ScaledValue.mk)
  · intro bs
    unfold decodeScaledValue
    cases unpackInt 2 (bs.take 2) <;> rfl
  · exact fun bs => unpackInt_checks _

theorem decodeFloatingValue_size : CheckedSize 4 decodeFloatingValue := by
  apply checkedSize_take (fun bs => (unpackFloat bs).map FloatingValue.mk)
  · intro bs
    unfold decodeFloatingValue
    cases unpackFloat (bs.take 4) <;> rfl
  · exact fun bs => unpackFloat_checks _

theorem decodeBinaryCounterValue_size : CheckedSize 4 decodeBinaryCounterValue := by
  apply checkedSize_take (fun bs => (unpackInt 4 bs).map BinaryCounterValue.mk)
  · intro bs
    unfold decodeBinaryCounterValue
    cases unpackInt 4 (bs.take 4) <;> rfl
  · exact fun bs => unpackInt_checks _

theorem decodeProtectionStartValue_size : CheckedSize 1 decodeProtectionStartValue := by
  apply checkedSize_byte fun b => .ok
    { general := bit b 0x01, l1 := bit b 0x02, l2 := bit b 0x04, l3 := bit b 0x08,
      ie := bit b 0x10, reverse := bit b 0x20 }
  intro bs
  unfold decodeProtectionStartValue
  cases byteAt bs 0 <;> rfl

theorem decodeProtectionCommandValue_size : CheckedSize 1 decodeProtectionCommandValue := by
  apply checkedSize_byte fun b => .ok
    { general := bit b 0x01, l1 := bit b 0x02, l2 := bit b 0x04, l3 := bit b 0x08 }
  intro bs
  unfold decodeProtectionCommandValue
  cases byteAt bs 0 <;> rfl

private theorem decodeFlags_append {bs : Bytes} {offset : ℕ} (h : offset + 2 ≤ bs.length)
    (rest : Bytes) : decodeFlags (bs ++ rest) offset = decodeFlags bs offset := by
  apply mapM_congr
  intro i hi
  rw [List.mem_range] at hi
  rw [byteAt_append (by omega)]

private theorem decodeFlags_checks {bs : Bytes} {offset : ℕ} (h : bs.length < offset + 2) :
    ∃ e, decodeFlags bs offset = .error e := by
  cases hx : decodeFlags bs offset with
  | error e => exact ⟨e, rfl⟩
  | ok flags =>
    -- the last flag is in the second byte
    obtain ⟨flag, _, hflag⟩ := exists_of_mapM_eq_ok hx (a := 15) (by simp)
    obtain ⟨b, hb, _⟩ := bind_eq_ok.mp hflag
    have := lt_length_of_byteAt hb
    omega

theorem decodeStatusValue_size : CheckedSize 4 decodeStatusValue where
  toFixedSize := by
    apply FixedSize.intro fun bs => do
      let value ← decodeFlags bs 0
      let change ← decodeFlags bs 2
      return ({ value, change } : StatusValue)
    · intro bs
      unfold decodeStatusValue
      cases decodeFlags bs 0 with
      | error e => rfl
      | ok value => cases decodeFlags bs 2 <;> rfl
    · intro bs rest hlen
      rw [decodeFlags_append (by omega), decodeFlags_append (by omega)]
  checks := by
    intro bs hlen
    unfold decodeStatusValue
    cases decodeFlags bs 0 with
    | error e => exact ⟨e, rfl⟩
    | ok value =>
      obtain ⟨e, he⟩ := decodeFlags_checks (show bs.length < 2 + 2 from hlen)
      exact ⟨e, by rw [ok_bind, he]; rfl⟩

theorem decodeValueInQuality_size {ν : Type} [Enumeration ν] (mask : ℕ) (t : QualityType) :
    CheckedSize 1 (decodeValueInQuality (ν := ν) mask t) := by
  apply checkedSize_byte fun b => do
    let value ← Enumeration.ofValue (b &&& mask)
    return (value, qualityOfByte t b)
  intro bs
  unfold decodeValueInQuality decodeQuality
  cases byteAt bs 0 with
  | error e => rfl
  | ok b =>
    simp only [ok_bind]
    cases (Enumeration.ofValue (b &&& mask) : Except Exn ν) <;> rfl

theorem decodeCommand_size {ν : Type} [Enumeration ν] (mask : ℕ) :
    CheckedSize 1 (decodeCommand (ν := ν) mask) := by
  apply checkedSize_byte fun b => do
    let value ← Enumeration.ofValue (b &&& mask)
    return (value, bit b 0x80, (b >>> 2) &&& 0x1F)
  intro bs
  unfold decodeCommand
  cases byteAt bs 0 with
  | error e => rfl
  | ok b =>
    simp only [ok_bind]
    cases (Enumeration.ofValue (b &&& mask) : Except Exn ν) <;> rfl

theorem decodeSelect_size : CheckedSize 1 decodeSelect := by
  apply checkedSize_byte fun b => .ok (bit b 0x80)
  intro bs
  unfold decodeSelect
  cases byteAt bs 0 <;> rfl

theorem decodeQualifier_size : CheckedSize 1 decodeQualifier := by
  apply checkedSize_byte fun b => .ok b
  intro bs
  unfold decodeQualifier
  cases byteAt bs 0 <;> rfl

theorem decodeInt2_size : FixedSize 2 decodeInt2 :=
  fixedSize_take (fun bs => .ok (intFromBytes bs)) fun _ => rfl

/-! ### Elements -/

/-- The number of bytes of an element, but for segments of files. -/
def AsduType.elementSize : AsduType → ℕ
  | .M_SP_NA | .M_SP_TA | .M_DP_NA | .M_DP_TA | .M_SP_TB | .M_DP_TB => 1
  | .M_ST_NA | .M_ST_TA | .M_ST_TB => 2
  | .M_BO_NA | .M_BO_TA | .M_BO_TB => 5
  | .M_ME_NA | .M_ME_TA | .M_ME_NB | .M_ME_TB | .M_ME_TD | .M_ME_TE => 3
  | .M_ME_NC | .M_ME_TC | .M_ME_TF => 5
  | .M_IT_NA | .M_IT_TA | .M_IT_TB => 5
  | .M_EP_TA | .M_EP_TD => 3
  | .M_EP_TB | .M_EP_TC | .M_EP_TE | .M_EP_TF => 4
  | .M_PS_NA => 5
  | .M_ME_ND => 2
  | .C_SC_NA | .C_DC_NA | .C_RC_NA => 1
  | .C_SE_NA | .C_SE_NB => 3
  | .C_SE_NC => 5
  | .C_BO_NA => 4
  | .M_EI_NA | .C_IC_NA | .C_CI_NA | .C_RP_NA | .P_AC_NA => 1
  | .C_RD_NA => 0
  | .C_CS_NA => 7
  | .C_TS_NA | .C_CD_NA => 2
  | .P_ME_NA | .P_ME_NB => 3
  | .P_ME_NC => 5
  | .F_FR_NA => 6
  | .F_SR_NA => 7
  | .F_SC_NA | .F_AF_NA => 4
  | .F_LS_NA => 5
  | .F_SG_NA => 4
  | .F_DR_TA => 13

/-- The types whose elements end with a slice that is not checked. -/
def uncheckedAsduTypes : List AsduType :=
  [.M_EP_TA, .M_EP_TB, .M_EP_TC, .M_EP_TD, .M_EP_TE, .M_EP_TF, .C_BO_NA, .C_RD_NA, .C_TS_NA,
   .C_CD_NA, .F_SG_NA]

private theorem decodeElement_M_EI_NA_size : CheckedSize 1 (decodeElement .M_EI_NA) := by
  apply checkedSize_byte fun b => .ok (IoElement.M_EI_NA (bit b 0x80) (b &&& 0x7F))
  intro bs
  simp only [decodeElement]
  cases byteAt bs 0 <;> rfl

private theorem decodeElement_C_CI_NA_size : CheckedSize 1 (decodeElement .C_CI_NA) := by
  apply checkedSize_byte fun b => do
    let freeze ← Enumeration.ofValue (b >>> 6)
    return (IoElement.C_CI_NA (b &&& 0x3F) freeze)
  intro bs
  simp only [decodeElement]
  cases byteAt bs 0 with
  | error e => rfl
  | ok b =>
    simp only [ok_bind]
    cases (Enumeration.ofValue (b >>> 6) : Except Exn FreezeCode) <;> rfl

private theorem decodeElement_C_RD_NA_size : FixedSize 0 (decodeElement .C_RD_NA) :=
  FixedSize.intro (fun _ => .ok .C_RD_NA) (fun _ => rfl) fun _ _ _ => rfl

private theorem decodeElement_C_CS_NA_size : CheckedSize 7 (decodeElement .C_CS_NA) := by
  apply checkedSize_take (fun bs => (decodeTime bs .SEVEN).map IoElement.C_CS_NA)
  · intro bs
    simp only [decodeElement]
    cases decodeTime (bs.take 7) .SEVEN <;> rfl
  · intro bs hlen
    obtain ⟨e, he⟩ := decodeTime_checks (show bs.length < TimeSize.SEVEN.value from hlen)
    exact ⟨e, by rw [he]; rfl⟩

private theorem decodeElement_C_TS_NA_size : FixedSize 2 (decodeElement .C_TS_NA) :=
  FixedSize.intro (fun _ => .ok .C_TS_NA) (fun _ => rfl) fun _ _ _ => rfl

theorem slice_append {bs : Bytes} {i j : ℕ} (h : j ≤ bs.length) (rest : Bytes) :
    slice (bs ++ rest) i j = slice bs i j := by
  rw [slice, slice, List.take_append_of_le_length h]

private theorem decodeElement_F_FR_NA_size : CheckedSize 6 (decodeElement .F_FR_NA) where
  toFixedSize := by
    apply FixedSize.intro fun bs => do
      let b ← byteAt bs 5
      return (IoElement.F_FR_NA (intFromBytes (bs.take 2)) (intFromBytes (slice bs 2 5))
        (bit b 0x80))
    · intro bs
      simp only [decodeElement]
      cases byteAt bs 5 <;> rfl
    · intro bs rest hlen
      rw [byteAt_append (by omega), List.take_append_of_le_length (by omega),
        slice_append (by omega)]
  checks := by
    intro bs hlen
    exact ⟨.indexError, by
      simp only [decodeElement, byteAt_eq_error (Nat.le_of_lt_succ hlen)]; rfl⟩

private theorem decodeElement_F_SR_NA_size : CheckedSize 7 (decodeElement .F_SR_NA) where
  toFixedSize := by
    apply FixedSize.intro fun bs => do
      let sectionName ← byteAt bs 2
      let b ← byteAt bs 6
      return (IoElement.F_SR_NA (intFromBytes (bs.take 2)) sectionName
        (intFromBytes (slice bs 3 6)) (bit b 0x80))
    · intro bs
      simp only [decodeElement]
      cases byteAt bs 2 with
      | error e => rfl
      | ok sectionName => cases byteAt bs 6 <;> rfl
    · intro bs rest hlen
      rw [byteAt_append (by omega), byteAt_append (by omega),
        List.take_append_of_le_length (by omega), slice_append (by omega)]
  checks := by
    intro bs hlen
    simp only [decodeElement]
    cases byteAt bs 2 with
    | error e => exact ⟨e, rfl⟩
    | ok sectionName =>
      exact ⟨.indexError, by rw [ok_bind, byteAt_eq_error (i := 6) (by omega)]; rfl⟩

/-- A file name, a section name and a byte behind it. -/
private theorem decodeElement_F_SC_NA_size : CheckedSize 4 (decodeElement .F_SC_NA) where
  toFixedSize := by
    apply FixedSize.intro fun bs => do
      let sectionName ← byteAt bs 2
      let qualifier ← byteAt bs 3
      return (IoElement.F_SC_NA (intFromBytes (bs.take 2)) sectionName qualifier)
    · intro bs
      simp only [decodeElement]
      cases byteAt bs 2 with
      | error e => rfl
      | ok sectionName => cases byteAt bs 3 <;> rfl
    · intro bs rest hlen
      rw [byteAt_append (by omega), byteAt_append (by omega),
        List.take_append_of_le_length (by omega)]
  checks := by
    intro bs hlen
    simp only [decodeElement]
    cases byteAt bs 2 with
    | error e => exact ⟨e, rfl⟩
    | ok sectionName =>
      exact ⟨.indexError, by rw [ok_bind, byteAt_eq_error (i := 3) (by omega)]; rfl⟩

private theorem decodeElement_F_AF_NA_size : CheckedSize 4 (decodeElement .F_AF_NA) where
  toFixedSize := by
    apply FixedSize.intro fun bs => do
      let sectionName ← byteAt bs 2
      let qualifier ← byteAt bs 3
      return (IoElement.F_AF_NA (intFromBytes (bs.take 2)) sectionName qualifier)
    · intro bs
      simp only [decodeElement]
      cases byteAt bs 2 with
      | error e => rfl
      | ok sectionName => cases byteAt bs 3 <;> rfl
    · intro bs rest hlen
      rw [byteAt_append (by omega), byteAt_append (by omega),
        List.take_append_of_le_length (by omega)]
  checks := by
    intro bs hlen
    simp only [decodeElement]
    cases byteAt bs 2 with
    | error e => exact ⟨e, rfl⟩
    | ok sectionName =>
      exact ⟨.indexError, by rw [ok_bind, byteAt_eq_error (i := 3) (by omega)]; rfl⟩

private theorem decodeElement_F_LS_NA_size : CheckedSize 5 (decodeElement .F_LS_NA) where
  toFixedSize := by
    apply FixedSize.intro fun bs => do
      let sectionName ← byteAt bs 2
      let lastQualifier ← byteAt bs 3
      let checksum ← byteAt bs 4
      return (IoElement.F_LS_NA (intFromBytes (bs.take 2)) sectionName lastQualifier checksum)
    · intro bs
      simp only [decodeElement]
      cases byteAt bs 2 with
      | error e => rfl
      | ok sectionName =>
        cases byteAt bs 3 with
        | error e => rfl
        | ok lastQualifier => cases byteAt bs 4 <;> rfl
    · intro bs rest hlen
      rw [byteAt_append (by omega), byteAt_append (by omega), byteAt_append (by omega),
        List.take_append_of_le_length (by omega)]
  checks := by
    intro bs hlen
    simp only [decodeElement]
    cases byteAt bs 2 with
    | error e => exact ⟨e, rfl⟩
    | ok sectionName =>
      rw [ok_bind]
      cases byteAt bs 3 with
      | error e => exact ⟨e, rfl⟩
      | ok lastQualifier =>
        exact ⟨.indexError, by rw [ok_bind, byteAt_eq_error (i := 4) (by omega)]; rfl⟩

private theorem decodeElement_F_DR_TA_size : CheckedSize 13 (decodeElement .F_DR_TA) where
  toFixedSize := by
    apply FixedSize.intro fun bs => do
      let b ← byteAt bs 5
      let creationTime ← decodeTime (slice bs 6 13) .SEVEN
      return (IoElement.F_DR_TA (intFromBytes (bs.take 2)) (intFromBytes (slice bs 2 5))
        (bit b 0x20) (bit b 0x40) (bit b 0x80) creationTime)
    · intro bs
      simp only [decodeElement]
      cases byteAt bs 5 with
      | error e => rfl
      | ok b => cases decodeTime (slice bs 6 13) .SEVEN <;> rfl
    · intro bs rest hlen
      rw [byteAt_append (by omega), List.take_append_of_le_length (by omega),
        slice_append (by omega), slice_append (by omega)]
  checks := by
    intro bs hlen
    simp only [decodeElement]
    cases byteAt bs 5 with
    | error e => exact ⟨e, rfl⟩
    | ok b =>
      have hslice : (slice bs 6 13).length < TimeSize.SEVEN.value := by
        simp only [slice, List.length_drop, List.length_take, TimeSize.value]
        omega
      obtain ⟨e, he⟩ := decodeTime_checks hslice
      exact ⟨e, by rw [ok_bind, he]; rfl⟩

/-- **A type reads its size**, if its elements have one. -/
theorem decodeElement_fixedSize {t : AsduType} (ht : t ≠ .F_SG_NA) :
    FixedSize t.elementSize (decodeElement t) := by
  cases t with
  | M_SP_NA | M_SP_TA | M_DP_NA | M_DP_TA | M_SP_TB | M_DP_TB =>
    simp only [decodeElement, AsduType.elementSize]
    exact (decodeValueInQuality_size _ _).toFixedSize.map _
  | M_ST_NA | M_ST_TA | M_ST_TB =>
    simp only [decodeElement, AsduType.elementSize]
    exact (decodeStepPositionValue_size.pair (decodeQuality_size _).toFixedSize).map _
  | M_BO_NA | M_BO_TA | M_BO_TB =>
    simp only [decodeElement, AsduType.elementSize]
    exact (decodeBitstringValue_size.pair (decodeQuality_size _).toFixedSize).map _
  | M_ME_NA | M_ME_TA | M_ME_TD =>
    simp only [decodeElement, AsduType.elementSize]
    exact (decodeNormalizedValue_size.pair (decodeQuality_size _).toFixedSize).map _
  | M_ME_NB | M_ME_TB | M_ME_TE =>
    simp only [decodeElement, AsduType.elementSize]
    exact (decodeScaledValue_size.pair (decodeQuality_size _).toFixedSize).map _
  | M_ME_NC | M_ME_TC | M_ME_TF =>
    simp only [decodeElement, AsduType.elementSize]
    exact (decodeFloatingValue_size.pair (decodeQuality_size _).toFixedSize).map _
  | M_IT_NA | M_IT_TA | M_IT_TB =>
    simp only [decodeElement, AsduType.elementSize]
    exact (decodeBinaryCounterValue_size.pair (decodeQuality_size _).toFixedSize).map _
  | M_EP_TA | M_EP_TD =>
    simp only [decodeElement, AsduType.elementSize]
    exact ((decodeValueInQuality_size _ _).pair decodeInt2_size).map _
  | M_EP_TB | M_EP_TE =>
    simp only [decodeElement, AsduType.elementSize]
    exact ((decodeProtectionStartValue_size.pair (decodeQuality_size _).toFixedSize).pair
      decodeInt2_size).map _
  | M_EP_TC | M_EP_TF =>
    simp only [decodeElement, AsduType.elementSize]
    exact ((decodeProtectionCommandValue_size.pair (decodeQuality_size _).toFixedSize).pair
      decodeInt2_size).map _
  | M_PS_NA =>
    simp only [decodeElement, AsduType.elementSize]
    exact (decodeStatusValue_size.pair (decodeQuality_size _).toFixedSize).map _
  | M_ME_ND =>
    simp only [decodeElement, AsduType.elementSize]
    exact decodeNormalizedValue_size.toFixedSize.map _
  | C_SC_NA | C_DC_NA | C_RC_NA =>
    simp only [decodeElement, AsduType.elementSize]
    exact (decodeCommand_size _).toFixedSize.map _
  | C_SE_NA =>
    simp only [decodeElement, AsduType.elementSize]
    exact (decodeNormalizedValue_size.pair decodeSelect_size.toFixedSize).map _
  | C_SE_NB =>
    simp only [decodeElement, AsduType.elementSize]
    exact (decodeScaledValue_size.pair decodeSelect_size.toFixedSize).map _
  | C_SE_NC =>
    simp only [decodeElement, AsduType.elementSize]
    exact (decodeFloatingValue_size.pair decodeSelect_size.toFixedSize).map _
  | C_BO_NA =>
    simp only [decodeElement, AsduType.elementSize]
    exact decodeBitstringValue_size.map _
  | M_EI_NA => exact decodeElement_M_EI_NA_size.toFixedSize
  | C_IC_NA | C_RP_NA | P_AC_NA =>
    simp only [decodeElement, AsduType.elementSize]
    exact decodeQualifier_size.toFixedSize.map _
  | C_CI_NA => exact decodeElement_C_CI_NA_size.toFixedSize
  | C_RD_NA => exact decodeElement_C_RD_NA_size
  | C_CS_NA => exact decodeElement_C_CS_NA_size.toFixedSize
  | C_TS_NA => exact decodeElement_C_TS_NA_size
  | C_CD_NA =>
    simp only [decodeElement, AsduType.elementSize]
    exact decodeInt2_size.map _
  | P_ME_NA =>
    simp only [decodeElement, AsduType.elementSize]
    exact (decodeNormalizedValue_size.pair decodeQualifier_size.toFixedSize).map _
  | P_ME_NB =>
    simp only [decodeElement, AsduType.elementSize]
    exact (decodeScaledValue_size.pair decodeQualifier_size.toFixedSize).map _
  | P_ME_NC =>
    simp only [decodeElement, AsduType.elementSize]
    exact (decodeFloatingValue_size.pair decodeQualifier_size.toFixedSize).map _
  | F_FR_NA => exact decodeElement_F_FR_NA_size.toFixedSize
  | F_SR_NA => exact decodeElement_F_SR_NA_size.toFixedSize
  | F_SC_NA => exact decodeElement_F_SC_NA_size.toFixedSize
  | F_LS_NA => exact decodeElement_F_LS_NA_size.toFixedSize
  | F_AF_NA => exact decodeElement_F_AF_NA_size.toFixedSize
  | F_SG_NA => exact absurd rfl ht
  | F_DR_TA => exact decodeElement_F_DR_TA_size.toFixedSize

/-- **The other types check their size.** -/
theorem decodeElement_checks {t : AsduType} (ht : t ∉ uncheckedAsduTypes) :
    Checks t.elementSize (decodeElement t) := by
  have hquality := fun {α : Type} {m : ℕ} {r : ByteReader Exn α} (hr : FixedSize m r)
    (q : QualityType) => hr.pairChecked (decodeQuality_size q) Nat.one_pos
  have hselect := fun {α : Type} {m : ℕ} {r : ByteReader Exn α} (hr : FixedSize m r) =>
    hr.pairChecked decodeSelect_size Nat.one_pos
  have hqualifier := fun {α : Type} {m : ℕ} {r : ByteReader Exn α} (hr : FixedSize m r) =>
    hr.pairChecked decodeQualifier_size Nat.one_pos
  cases t with
  | M_SP_NA | M_SP_TA | M_DP_NA | M_DP_TA | M_SP_TB | M_DP_TB =>
    simp only [decodeElement, AsduType.elementSize]
    exact ((decodeValueInQuality_size _ _).map _).checks
  | M_ST_NA | M_ST_TA | M_ST_TB =>
    simp only [decodeElement, AsduType.elementSize]
    exact ((hquality decodeStepPositionValue_size.toFixedSize _).map _).checks
  | M_BO_NA | M_BO_TA | M_BO_TB =>
    simp only [decodeElement, AsduType.elementSize]
    exact ((hquality decodeBitstringValue_size _).map _).checks
  | M_ME_NA | M_ME_TA | M_ME_TD =>
    simp only [decodeElement, AsduType.elementSize]
    exact ((hquality decodeNormalizedValue_size.toFixedSize _).map _).checks
  | M_ME_NB | M_ME_TB | M_ME_TE =>
    simp only [decodeElement, AsduType.elementSize]
    exact ((hquality decodeScaledValue_size.toFixedSize _).map _).checks
  | M_ME_NC | M_ME_TC | M_ME_TF =>
    simp only [decodeElement, AsduType.elementSize]
    exact ((hquality decodeFloatingValue_size.toFixedSize _).map _).checks
  | M_IT_NA | M_IT_TA | M_IT_TB =>
    simp only [decodeElement, AsduType.elementSize]
    exact ((hquality decodeBinaryCounterValue_size.toFixedSize _).map _).checks
  | M_PS_NA =>
    simp only [decodeElement, AsduType.elementSize]
    exact ((hquality decodeStatusValue_size.toFixedSize _).map _).checks
  | M_ME_ND =>
    simp only [decodeElement, AsduType.elementSize]
    exact (decodeNormalizedValue_size.map _).checks
  | C_SC_NA | C_DC_NA | C_RC_NA =>
    simp only [decodeElement, AsduType.elementSize]
    exact ((decodeCommand_size _).map _).checks
  | C_SE_NA =>
    simp only [decodeElement, AsduType.elementSize]
    exact ((hselect decodeNormalizedValue_size.toFixedSize).map _).checks
  | C_SE_NB =>
    simp only [decodeElement, AsduType.elementSize]
    exact ((hselect decodeScaledValue_size.toFixedSize).map _).checks
  | C_SE_NC =>
    simp only [decodeElement, AsduType.elementSize]
    exact ((hselect decodeFloatingValue_size.toFixedSize).map _).checks
  | M_EI_NA => exact decodeElement_M_EI_NA_size.checks
  | C_IC_NA | C_RP_NA | P_AC_NA =>
    simp only [decodeElement, AsduType.elementSize]
    exact (decodeQualifier_size.map _).checks
  | C_CI_NA => exact decodeElement_C_CI_NA_size.checks
  | C_CS_NA => exact decodeElement_C_CS_NA_size.checks
  | P_ME_NA =>
    simp only [decodeElement, AsduType.elementSize]
    exact ((hqualifier decodeNormalizedValue_size.toFixedSize).map _).checks
  | P_ME_NB =>
    simp only [decodeElement, AsduType.elementSize]
    exact ((hqualifier decodeScaledValue_size.toFixedSize).map _).checks
  | P_ME_NC =>
    simp only [decodeElement, AsduType.elementSize]
    exact ((hqualifier decodeFloatingValue_size.toFixedSize).map _).checks
  | F_FR_NA => exact decodeElement_F_FR_NA_size.checks
  | F_SR_NA => exact decodeElement_F_SR_NA_size.checks
  | F_SC_NA => exact decodeElement_F_SC_NA_size.checks
  | F_LS_NA => exact decodeElement_F_LS_NA_size.checks
  | F_AF_NA => exact decodeElement_F_AF_NA_size.checks
  | F_DR_TA => exact decodeElement_F_DR_TA_size.checks
  | _ => exact absurd (by decide) ht

end HatDrivers.Iec60870.Encodings.Iec101
