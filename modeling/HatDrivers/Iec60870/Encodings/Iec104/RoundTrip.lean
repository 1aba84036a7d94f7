import HatDrivers.Iec60870.Encodings.Iec101.RoundTrip
import HatDrivers.Iec60870.Encodings.Iec104.Encoder

namespace HatDrivers.Iec60870.Encodings.Iec104

open HatDrivers.Lib

/-!
# IEC 60870-5-104 — round trip of ASDUs

Every ASDU type of 104 has a decoder for its own element class, so every
well-formed ASDU is read back (`decodeAsdu_encodeAsdu`).
-/

/-- An element of the class of a type, in range. -/
def IoElement.Of (t : AsduType) (element : IoElement) : Prop :=
  element.asduTypeValue = t.value ∧ element.Valid

/-- The documented ranges of an ASDU and of everything in it. -/
abbrev InRange (asdu : ASDU) : Prop := asdu.InRange encoder (fun t element => element.Of t)

/-- In range, and an integer cause type is no named one. -/
structure WellFormed (asdu : ASDU) : Prop where
  inRange : InRange asdu
  normal : asdu.cause.type.Normal

/-! ### Elements -/

theorem decodeAsduType_value (t : AsduType) : decodeAsduType (Enumeration.value t) = .ok t := by
  simp [decodeAsduType]

/-- The types of 101 keep their decoders. -/
theorem mem_iec101AsduTypes {t : AsduType} {t' : Iec101.AsduType} (h : t'.value = t.value) :
    t.value ∈ iec101AsduTypes := by
  have hfind : ∀ t : AsduType, (Enumeration.ofValue? t.value : Option Iec101.AsduType).isSome →
      t.value ∈ iec101AsduTypes := by
    intro t
    cases t <;> decide
  have hsome : Enumeration.ofValue? t'.value = some t' := Enumeration.ofValue?_value t'
  exact hfind t (by rw [← h, hsome]; rfl)

/-- M_BO_TA, for which 101 builds the class of another type, is no type of 104. -/
theorem decodedClass_of_value_eq {t : AsduType} {t' : Iec101.AsduType} (h : t'.value = t.value) :
    t' = Iec101.decodedClass t' := by
  cases t' with
  | M_BO_TA =>
    revert h
    cases t <;> decide
  | _ => rfl

/-- The types 101 does not have, each with the branch of its element class. -/
theorem encodeElement_codes {t : AsduType} {element : IoElement} (h : element.Of t)
    (hnew : t.value ∉ iec101AsduTypes) :
    Codes (encodeElement element) (decodeElement t) element := by
  obtain ⟨heq, h⟩ := h
  cases element with
  | iec101 element => exact absurd (mem_iec101AsduTypes heq) hnew
  | C_SC_TA value select qualifier =>
    obtain rfl : AsduType.C_SC_TA = t := Enumeration.value_injective heq
    exact (Iec101.encodeCommand_codes (by cases value <;> decide)
      (.inr ⟨rfl, by cases value <;> decide⟩) h).map fun p => IoElement.C_SC_TA p.1 p.2.1 p.2.2
  | C_DC_TA value select qualifier =>
    obtain rfl : AsduType.C_DC_TA = t := Enumeration.value_injective heq
    exact (Iec101.encodeCommand_codes (by cases value <;> decide) (.inl rfl) h).map
      fun p => IoElement.C_DC_TA p.1 p.2.1 p.2.2
  | C_RC_TA value select qualifier =>
    obtain rfl : AsduType.C_RC_TA = t := Enumeration.value_injective heq
    exact (Iec101.encodeCommand_codes (by cases value <;> decide) (.inl rfl) h).map
      fun p => IoElement.C_RC_TA p.1 p.2.1 p.2.2
  | C_SE_TA value select =>
    obtain rfl : AsduType.C_SE_TA = t := Enumeration.value_injective heq
    exact ((Iec101.encodeNormalizedValue_codes h).pair (Iec101.encodeSelect_codes select)).map
      fun p => IoElement.C_SE_TA p.1 p.2
  | C_SE_TB value select =>
    obtain rfl : AsduType.C_SE_TB = t := Enumeration.value_injective heq
    exact ((Iec101.encodeScaledValue_codes h).pair (Iec101.encodeSelect_codes select)).map
      fun p => IoElement.C_SE_TB p.1 p.2
  | C_SE_TC value select =>
    obtain rfl : AsduType.C_SE_TC = t := Enumeration.value_injective heq
    exact ((Iec101.encodeFloatingValue_codes value).pair (Iec101.encodeSelect_codes select)).map
      fun p => IoElement.C_SE_TC p.1 p.2
  | C_BO_TA value =>
    obtain rfl : AsduType.C_BO_TA = t := Enumeration.value_injective heq
    exact (Iec101.encodeBitstringValue_codes h).map IoElement.C_BO_TA
  | C_TS_TA counter =>
    obtain rfl : AsduType.C_TS_TA = t := Enumeration.value_injective heq
    exact (Iec101.encodeInt2_codes h).map IoElement.C_TS_TA

/-- An element is written and read back under its type. -/
theorem encodeIoElement_codes {t : AsduType} {element : IoElement} (h : element.Of t) :
    Codes (encodeIoElement t.value element) (decodeIoElement t.value) element := by
  have htype : decodeAsduType t.value = .ok t := decodeAsduType_value t
  by_cases hmem : t.value ∈ iec101AsduTypes
  · cases element with
    | iec101 element =>
      obtain ⟨heq, hv⟩ := h
      have hcodes := (Iec101.encodeIoElement_codes ⟨decodedClass_of_value_eq heq, hv⟩).map
        IoElement.iec101
      rw [show element.asduType.value = t.value from heq] at hcodes
      obtain ⟨ns, hw, hb, hr⟩ := hcodes
      refine ⟨ns, ?_, hb, fun rest => ?_⟩
      · simp only [encodeIoElement, htype, ok_bind, if_pos hmem, encodeIec101Element, hw]
      · simp only [decodeIoElement, htype, ok_bind, if_pos hmem, hr rest]
    | _ =>
      obtain rfl := Enumeration.value_injective (a := t) h.1.symm
      exact absurd hmem (by decide)
  · obtain ⟨ns, hw, hb, hr⟩ := encodeElement_codes h hmem
    refine ⟨ns, ?_, hb, fun rest => ?_⟩
    · simp only [encodeIoElement, htype, ok_bind, if_neg hmem, hw]
    · simp only [decodeIoElement, htype, ok_bind, if_neg hmem, hr rest]

/-! ### ASDUs -/

/-- What the encoder of 104 writes for a well-formed ASDU, it reads back. -/
theorem decodeAsdu_of_encode {asdu : ASDU} (h : WellFormed asdu) {bs : Bytes}
    (hbs : encodeAsdu asdu = .ok bs) (rest : Bytes) :
    decodeAsdu (bs ++ rest) = .ok (asdu, rest) := by
  refine Iec101.decodeTypedAsdu_of_encode decodeAsduType_value ⟨h.inRange.cause, h.normal⟩
    h.inRange.shape h.inRange.time (fun io hio x hx => ?_) hbs rest
  exact (encodeIoElement_codes (h.inRange.elements io hio x hx)).roundTrips

/-- An ASDU in range is written. -/
theorem InRange.encodes {asdu : ASDU} (h : InRange asdu) : ∃ bs, encodeAsdu asdu = .ok bs := by
  refine Iec101.ASDU.InRange.encodes h (by cases asdu.type <;> decide) fun io hio x hx => ?_
  exact (encodeIoElement_codes (h.elements io hio x hx)).writes

/-- The bytes of an ASDU in range are read to their end. -/
theorem InRange.exists_decodeAsdu {asdu : ASDU} (h : InRange asdu) {bs : Bytes}
    (hbs : encodeAsdu asdu = .ok bs) (rest : Bytes) :
    ∃ decoded, decodeAsdu (bs ++ rest) = .ok (decoded, rest) := by
  refine Iec101.exists_decodeTypedAsdu decodeAsduType_value h.shape h.time
    (fun io hio x hx => ?_) hbs rest
  exact (encodeIoElement_codes (h.elements io hio x hx)).roundTrips

/-- **Every well-formed ASDU is written, and read back** whatever bytes follow it. -/
theorem asdu_roundTrip (asdu : ASDU) (h : WellFormed asdu) (rest : Bytes) :
    ∃ bs, encodeAsdu asdu = .ok bs ∧ decodeAsdu (bs ++ rest) = .ok (asdu, rest) := by
  obtain ⟨bs, hbs⟩ := h.inRange.encodes
  exact ⟨bs, hbs, decodeAsdu_of_encode h hbs rest⟩

/-- The last millisecond of a minute, in summer time. -/
def summerNoon : Time where
  size := .SEVEN
  milliseconds := 59999
  invalid := some false
  substituted := some true
  minutes := some 30
  summerTime := some true
  hours := some 12
  dayOfWeek := some 7
  dayOfMonth := some 31
  months := some 12
  years := some 99

theorem summerNoon_valid : summerNoon.Valid := by constructor <;> decide

/-- A spontaneous change of two measured values. -/
def measuredValues : ASDU where
  type := .M_ME_TD
  cause := { type := .enum .SPONTANEOUS, isNegativeConfirm := false, isTest := true,
             originatorAddress := 7 }
  address := 513
  ios := [12, 13].map fun address =>
    { address
      elements := [.iec101 (.M_ME_TD ⟨-16384 / 32767⟩ ⟨true, false, false, true, true⟩)]
      time := some summerNoon }

theorem measuredValues_wellFormed : WellFormed measuredValues where
  inRange :=
    { cause := ⟨by decide, by decide, by decide⟩
      address_lt := by decide
      shape := .inr ⟨by decide, by decide⟩
      ioAddress_lt := by decide
      elements := by
        have hv : (⟨-16384 / 32767⟩ : Iec101.NormalizedValue).Valid :=
          ⟨⟨-16384, by norm_num, by norm_num, by norm_num⟩⟩
        simp only [measuredValues, List.map_cons, List.map_nil, List.forall_mem_cons]
        exact ⟨⟨⟨rfl, hv⟩, by simp⟩, ⟨⟨rfl, hv⟩, by simp⟩, by simp⟩
      time := by
        have hfits : TimeFits (some .SEVEN) (some summerNoon) := ⟨rfl, summerNoon_valid⟩
        simp only [measuredValues, List.map_cons, List.map_nil, List.forall_mem_cons]
        exact ⟨hfits, hfits, by simp⟩ }
  normal := trivial

theorem asdu_roundTrip_measuredValues : ∃ bs, encodeAsdu measuredValues = .ok bs ∧
    decodeAsdu (bs ++ [0x68]) = .ok (measuredValues, [0x68]) :=
  asdu_roundTrip measuredValues measuredValues_wellFormed [0x68]

/-- An interrogation whose cause type is the integer of a named cause. -/
def integerCause : ASDU where
  type := .C_IC_NA
  cause := { type := .int 3, isNegativeConfirm := false, isTest := false, originatorAddress := 0 }
  address := 1
  ios := [{ address := 0, elements := [.iec101 (.C_IC_NA 20)], time := none }]

theorem integerCause_inRange : InRange integerCause where
  cause := ⟨by decide, by decide, by decide⟩
  address_lt := by decide
  shape := .inr ⟨by decide, by decide⟩
  ioAddress_lt := by decide
  elements := by
    have h : IoElement.Of .C_IC_NA (.iec101 (.C_IC_NA 20)) := ⟨rfl, show 20 ≤ 255 by omega⟩
    simpa [integerCause] using h
  time := by
    have h : TimeFits none none := trivial
    simp only [integerCause, List.forall_mem_singleton]
    exact h

/-- The integer of a named cause is in range, but is read back as the named cause. -/
theorem integerCause_not_roundTrip : InRange integerCause ∧
    ¬ ∃ bs, encodeAsdu integerCause = .ok bs ∧ decodeAsdu bs = .ok (integerCause, []) := by
  refine ⟨integerCause_inRange, ?_⟩
  rintro ⟨bs, hbs, hread⟩
  obtain rfl : bs = [100, 1, 3, 0, 1, 0, 0, 0, 0, 20] := (Except.ok.inj hbs).symm
  have hnamed : decodeAsdu [100, 1, 3, 0, 1, 0, 0, 0, 0, 20] = .ok
      ({ integerCause with cause.type := .enum .SPONTANEOUS }, []) := rfl
  rw [hnamed] at hread
  simp [integerCause] at hread

end HatDrivers.Iec60870.Encodings.Iec104
