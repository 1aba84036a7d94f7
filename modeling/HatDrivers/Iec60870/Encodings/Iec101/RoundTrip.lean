import HatDrivers.Iec60870.Encodings.Iec101.Elements

namespace HatDrivers.Iec60870.Encodings.Iec101

open HatDrivers.Lib

/-!
# IEC 60870-5-101 — round trips of ASDUs

The encoders of 101 and 104 wrap the generic one in the same way, so their round
trips are stated once, over the element codec they plug in.
-/

variable {τ η : Type}

/-- The documented ranges of an ASDU, its shape and its times; `elementOk` says
what an element of a type may be. -/
structure ASDU.InRange (encoder : Encodings.Encoder η) [Enumeration τ] (elementOk : τ → η → Prop)
    (asdu : ASDU τ η) : Prop where
  cause : asdu.cause.InRange encoder.causeSize
  address_lt : asdu.address < 256 ^ encoder.asduAddressSize.value
  shape : Shape asdu.ios
  ioAddress_lt : ∀ io ∈ asdu.ios, io.address < 256 ^ encoder.ioAddressSize.value
  elements : ∀ io ∈ asdu.ios, ∀ element ∈ io.elements, elementOk asdu.type element
  time : ∀ io ∈ asdu.ios,
    TimeFits (encoder.asduTypeTimeSizes.lookup (Enumeration.value asdu.type)) io.time

/-- What the encoder writes for an ASDU is read back if the cause is valid, the
times fit their type, and the elements are read back. -/
theorem decodeTypedAsdu_of_encode {encoder : Encodings.Encoder η} [Enumeration τ]
    {decodeAsduType : ℕ → Except Exn τ}
    (htype : ∀ t, decodeAsduType (Enumeration.value t) = .ok t) {asdu : ASDU τ η}
    (hcause : asdu.cause.Valid encoder.causeSize) (hshape : Shape asdu.ios)
    (htime : ∀ io ∈ asdu.ios,
      TimeFits (encoder.asduTypeTimeSizes.lookup (Enumeration.value asdu.type)) io.time)
    (helems : ∀ io ∈ asdu.ios, ∀ x ∈ io.elements,
      RoundTrips (encoder.encodeIoElementCb (Enumeration.value asdu.type))
        (encoder.decodeIoElementCb (Enumeration.value asdu.type)) x)
    {bs : Bytes} (hbs : encodeTypedAsdu encoder asdu = .ok bs) (rest : Bytes) :
    decodeTypedAsdu encoder decodeAsduType (bs ++ rest) = .ok (asdu, rest) := by
  have hread := encoder.decodeAsdu_encodeAsdu ⟨hshape, htime⟩ helems hbs rest
  simp only [decodeTypedAsdu, hread, ok_bind, htype, decodeCause_encodeCause hcause]
  rfl

/-- Whatever the cause, the bytes of an ASDU are read to their end. -/
theorem exists_decodeTypedAsdu {encoder : Encodings.Encoder η} [Enumeration τ]
    {decodeAsduType : ℕ → Except Exn τ}
    (htype : ∀ t, decodeAsduType (Enumeration.value t) = .ok t) {asdu : ASDU τ η}
    (hshape : Shape asdu.ios)
    (htime : ∀ io ∈ asdu.ios,
      TimeFits (encoder.asduTypeTimeSizes.lookup (Enumeration.value asdu.type)) io.time)
    (helems : ∀ io ∈ asdu.ios, ∀ x ∈ io.elements,
      RoundTrips (encoder.encodeIoElementCb (Enumeration.value asdu.type))
        (encoder.decodeIoElementCb (Enumeration.value asdu.type)) x)
    {bs : Bytes} (hbs : encodeTypedAsdu encoder asdu = .ok bs) (rest : Bytes) :
    ∃ decoded, decodeTypedAsdu encoder decodeAsduType (bs ++ rest) = .ok (decoded, rest) := by
  have hread := encoder.decodeAsdu_encodeAsdu ⟨hshape, htime⟩ helems hbs rest
  simp only [decodeTypedAsdu, hread, ok_bind, htype]
  exact ⟨_, rfl⟩

/-- An ASDU in range is written if its elements are. -/
theorem ASDU.InRange.encodes {encoder : Encodings.Encoder η} [Enumeration τ]
    {elementOk : τ → η → Prop} {asdu : ASDU τ η} (h : asdu.InRange encoder elementOk)
    (htype : Enumeration.value asdu.type < 256)
    (helems : ∀ io ∈ asdu.ios, ∀ x ∈ io.elements,
      Writes (encoder.encodeIoElementCb (Enumeration.value asdu.type)) x) :
    ∃ bs, encodeTypedAsdu encoder asdu = .ok bs :=
  encoder.encodeAsdu_writes ⟨h.shape, h.time⟩ htype (encodeCause_lt h.cause) h.address_lt
    h.ioAddress_lt helems

/-! ### The encoder of 101 -/

@[simp] theorem decodeAsduType_value (t : AsduType) : decodeAsduType t.value = .ok t := by
  have h : Enumeration.ofValue? t.value = some t := Enumeration.ofValue?_value t
  simp [decodeAsduType, h]

theorem value_of_decodeAsduType {n : ℕ} {t : AsduType} (h : decodeAsduType n = .ok t) :
    t.value = n := by
  unfold decodeAsduType at h
  split at h
  · rename_i heq
    cases h
    exact Enumeration.value_of_ofValue? heq
  · cases h

/-- The element class the decoder builds for a type: its own, but for M_BO_TA that of M_BO_NA. -/
def decodedClass : AsduType → AsduType
  | .M_BO_TA => .M_BO_NA
  | t => t

/-- An element of the class the decoder builds for a type, in range. -/
def IoElement.Of (t : AsduType) (element : IoElement) : Prop :=
  element.asduType = decodedClass t ∧ element.Valid

theorem decodeElement_decodedClass (t : AsduType) :
    decodeElement (decodedClass t) = decodeElement t := by
  cases t <;> rfl

/-- An element is written and read back under its type. -/
theorem encodeIoElement_codes {t : AsduType} {element : IoElement} (h : element.Of t) :
    Codes (encodeIoElement t.value element) (decodeIoElement t.value) element := by
  obtain ⟨heq, hv⟩ := h
  have hne : element.asduType ≠ .M_BO_TA := by
    rw [heq]
    cases t <;> decide
  obtain ⟨ns, hw, hb, hr⟩ := encodeElement_codes hv hne
  rw [heq, decodeElement_decodedClass] at hr
  refine ⟨ns, ?_, hb, fun rest => ?_⟩
  · simp [encodeIoElement, hw]
  · simp [decodeIoElement, hr rest]

/-- **What the encoder of 101 writes, it reads back**, if the elements are of the
classes the decoder builds. -/
theorem Encoder.decodeAsdu_encodeAsdu (e : Encoder) {asdu : ASDU AsduType IoElement}
    (hcause : asdu.cause.Valid e.causeSize) (hshape : Shape asdu.ios)
    (htime : ∀ io ∈ asdu.ios, TimeFits (asduTypeTimeSizes.lookup asdu.type.value) io.time)
    (helems : ∀ io ∈ asdu.ios, ∀ element ∈ io.elements, element.Of asdu.type)
    {bs : Bytes} (hbs : e.encodeAsdu asdu = .ok bs) (rest : Bytes) :
    e.decodeAsdu (bs ++ rest) = .ok (asdu, rest) := by
  refine decodeTypedAsdu_of_encode decodeAsduType_value hcause hshape htime
    (fun io hio x hx => ?_) hbs rest
  exact (encodeIoElement_codes (helems io hio x hx)).roundTrips

/-- What is decoded under M_BO_TA is of the class of M_BO_NA. -/
theorem asduType_of_decodeIoElement {bs rest : Bytes} {element : IoElement}
    (h : decodeIoElement AsduType.M_BO_TA.value bs = .ok (element, rest)) :
    element.asduType = .M_BO_NA := by
  have hread : decodeElement .M_BO_TA bs = .ok (element, rest) := by
    simpa [decodeIoElement] using h
  obtain ⟨⟨⟨value, quality⟩, rest'⟩, _, hread⟩ := bind_eq_ok.mp hread
  cases hread
  rfl

/-- The documented ranges of an ASDU of 101, its elements being of the class of its type. -/
abbrev Encoder.InRange (e : Encoder) (asdu : ASDU AsduType IoElement) : Prop :=
  asdu.InRange e.encoder fun t element => element.asduType = t ∧ element.Valid

/-- Elements of the class of their type are of the class the decoder builds, but under M_BO_TA. -/
theorem Encoder.InRange.elements_of {e : Encoder} {asdu : ASDU AsduType IoElement}
    (h : e.InRange asdu) (hbo : asdu.type = .M_BO_TA → asdu.ios = []) :
    ∀ io ∈ asdu.ios, ∀ element ∈ io.elements, element.Of asdu.type := by
  intro io hio element helement
  obtain ⟨htype, hv⟩ := h.elements io hio element helement
  have hne : asdu.type ≠ .M_BO_TA := by
    intro heq
    rw [hbo heq] at hio
    cases hio
  have hclass : decodedClass asdu.type = asdu.type := by
    cases ht : asdu.type with
    | M_BO_TA => exact absurd ht hne
    | _ => rfl
  exact ⟨htype.trans hclass.symm, hv⟩

/-- Under M_BO_TA an ASDU with an object is never read back. -/
theorem Encoder.InRange.ios_eq_nil {e : Encoder} {asdu : ASDU AsduType IoElement}
    (h : e.InRange asdu) {bs rest : Bytes} (hread : e.decodeAsdu bs = .ok (asdu, rest))
    (htype : asdu.type = .M_BO_TA) : asdu.ios = [] := by
  obtain ⟨⟨inner, rest'⟩, hinner, hread⟩ := bind_eq_ok.mp hread
  obtain ⟨type, hdecode, hread⟩ := bind_eq_ok.mp hread
  cases hread
  have hvalue : inner.type = AsduType.M_BO_TA.value := by
    rw [← htype]
    exact (value_of_decodeAsduType hdecode).symm
  by_contra hne
  obtain ⟨io, hio⟩ := List.exists_mem_of_ne_nil _ hne
  -- every object has an element, which was read as one of M_BO_NA
  have hpos : 0 < io.elements.length := by
    rcases h.shape with ⟨io', hios, hlen, _⟩ | ⟨_, hone⟩
    · rw [hios, List.mem_singleton] at hio
      rw [hio]
      omega
    · rw [hone io hio]
      omega
  obtain ⟨element, helement⟩ := List.exists_mem_of_length_pos hpos
  obtain ⟨bs', rest'', hcb⟩ := e.encoder.exists_decodeIoElementCb hinner hio helement
  rw [hvalue] at hcb
  have hna := asduType_of_decodeIoElement hcb
  obtain ⟨hta, _⟩ := h.elements io hio element helement
  rw [hna] at hta
  rw [← hta] at htype
  cases htype

/-- The element of the class the decoder builds. -/
def IoElement.decoded : IoElement → IoElement
  | .M_BO_TA value quality => .M_BO_NA value quality
  | element => element

theorem encodeIoElement_decoded (asduType : ℕ) (element : IoElement) :
    encodeIoElement asduType element.decoded = encodeIoElement asduType element := by
  cases element <;> rfl

/-- The bytes of an ASDU in range are read to their end, also under M_BO_TA. -/
theorem Encoder.InRange.exists_decodeAsdu {e : Encoder} {asdu : ASDU AsduType IoElement}
    (h : e.InRange asdu) {bs : Bytes} (hbs : e.encodeAsdu asdu = .ok bs) (rest : Bytes) :
    ∃ decoded, e.decodeAsdu (bs ++ rest) = .ok (decoded, rest) := by
  let asdu' : ASDU AsduType IoElement :=
    { asdu with
      ios := asdu.ios.map fun io => { io with elements := io.elements.map IoElement.decoded } }
  have hbs' : e.encodeAsdu asdu' = .ok bs := by
    rw [← hbs]
    exact e.encoder.encodeAsdu_mapElements encodeIoElement_decoded
      ⟨asdu.type.value, encodeCause asdu.cause e.causeSize, asdu.address, asdu.ios⟩
  refine exists_decodeTypedAsdu decodeAsduType_value
    (show Shape asdu'.ios from shape_mapElements h.shape _) (fun io' hio' => ?_)
    (fun io' hio' x' hx' => ?_) hbs' rest
  · obtain ⟨io, hio, rfl⟩ := List.mem_map.mp hio'
    exact h.time io hio
  · obtain ⟨io, hio, rfl⟩ := List.mem_map.mp hio'
    obtain ⟨x, hx, rfl⟩ := List.mem_map.mp hx'
    obtain ⟨htype, hv⟩ := h.elements io hio x hx
    have hof : IoElement.Of asdu'.type x.decoded := by
      refine ⟨?_, ?_⟩
      · rw [show asdu'.type = x.asduType from htype.symm]
        cases x <;> rfl
      · cases x <;> exact hv
    exact (encodeIoElement_codes hof).roundTrips

/-- **An ASDU in range is written and read back exactly if** its cause type is no
integer of a named cause, and it carries no object under M_BO_TA. -/
theorem Encoder.roundTrips_iff (e : Encoder) (asdu : ASDU AsduType IoElement) (h : e.InRange asdu)
    (rest : Bytes) :
    (∃ bs, e.encodeAsdu asdu = .ok bs ∧ e.decodeAsdu (bs ++ rest) = .ok (asdu, rest)) ↔
      asdu.cause.type.Normal ∧ (asdu.type = .M_BO_TA → asdu.ios = []) := by
  constructor
  · rintro ⟨bs, _, hread⟩
    refine ⟨?_, h.ios_eq_nil hread⟩
    obtain ⟨⟨inner, rest'⟩, _, hread⟩ := bind_eq_ok.mp hread
    obtain ⟨type, _, hread⟩ := bind_eq_ok.mp hread
    cases hread
    exact (EnumOr.normal_ofNat _).1
  · rintro ⟨hnormal, hbo⟩
    have helems := h.elements_of hbo
    obtain ⟨bs, hbs⟩ := h.encodes (by cases asdu.type <;> decide) fun io hio x hx =>
      (encodeIoElement_codes (helems io hio x hx)).writes
    exact ⟨bs, hbs, e.decodeAsdu_encodeAsdu ⟨h.cause, hnormal⟩ h.shape h.time helems hbs rest⟩

/-- The sizes of the balanced profile. -/
def balanced : Encoder where
  causeSize := .ONE
  asduAddressSize := .ONE
  ioAddressSize := .TWO

/-- A change of two measured values, in one object. -/
def scaledValues : ASDU AsduType IoElement where
  type := .M_ME_NB
  cause := { type := .enum .SPONTANEOUS, isNegativeConfirm := false, isTest := false,
             originatorAddress := 0 }
  address := 1
  ios := [{ address := 7
            elements := [.M_ME_NB ⟨-3⟩ ⟨false, false, false, false, false⟩,
              .M_ME_NB ⟨32767⟩ ⟨true, false, false, false, true⟩]
            time := none }]

theorem scaledValues_inRange : balanced.InRange scaledValues where
  cause := ⟨by decide, by decide, by decide⟩
  address_lt := by decide
  shape := .inl ⟨_, rfl, by decide, by decide⟩
  ioAddress_lt := by decide
  elements := by
    have hlow : (⟨-3⟩ : ScaledValue).Valid := ⟨by decide, by decide⟩
    have hhigh : (⟨32767⟩ : ScaledValue).Valid := ⟨by decide, by decide⟩
    simp only [scaledValues, List.forall_mem_cons]
    exact ⟨⟨⟨rfl, hlow⟩, ⟨rfl, hhigh⟩, by simp⟩, by simp⟩
  time := by
    have hfits : TimeFits none none := trivial
    simp only [scaledValues, List.forall_mem_singleton]
    exact hfits

theorem roundTrips_iff_scaledValues :
    (∃ bs, balanced.encodeAsdu scaledValues = .ok bs ∧
      balanced.decodeAsdu (bs ++ [0x16]) = .ok (scaledValues, [0x16])) ↔
      scaledValues.cause.type.Normal ∧ (scaledValues.type = .M_BO_TA → scaledValues.ios = []) :=
  balanced.roundTrips_iff scaledValues scaledValues_inRange [0x16]

/-- A time of a minute, in three bytes. -/
def halfMinute : Time where
  size := .THREE
  milliseconds := 30000
  invalid := some false
  substituted := some false
  minutes := some 5
  summerTime := none
  hours := none
  dayOfWeek := none
  dayOfMonth := none
  months := none
  years := none

/-- A bit string with a three-byte time. -/
def timedBitstring : ASDU AsduType IoElement where
  type := .M_BO_TA
  cause := { type := .enum .SPONTANEOUS, isNegativeConfirm := false, isTest := false,
             originatorAddress := 0 }
  address := 1
  ios := [{ address := 7
            elements := [.M_BO_TA ⟨[1, 2, 3, 4]⟩ ⟨false, false, false, false, false⟩]
            time := some halfMinute }]

theorem timedBitstring_inRange : balanced.InRange timedBitstring where
  cause := ⟨by decide, by decide, by decide⟩
  address_lt := by decide
  shape := .inr ⟨by decide, by decide⟩
  ioAddress_lt := by decide
  elements := by
    have hfour : (⟨[1, 2, 3, 4]⟩ : BitstringValue).Valid := ⟨rfl⟩
    simp only [timedBitstring, List.forall_mem_singleton]
    exact ⟨rfl, hfour⟩
  time := by
    have hvalid : halfMinute.Valid := by constructor <;> decide
    have hfits : TimeFits (some .THREE) (some halfMinute) := ⟨rfl, hvalid⟩
    simp only [timedBitstring, List.forall_mem_singleton]
    exact hfits

/-- A well-formed bit string with time comes back with an element of another class. -/
theorem timedBitstring_not_roundTrip : balanced.InRange timedBitstring ∧
    timedBitstring.cause.type.Normal ∧
      ¬ ∃ bs, balanced.encodeAsdu timedBitstring = .ok bs ∧
        balanced.decodeAsdu bs = .ok (timedBitstring, []) := by
  refine ⟨timedBitstring_inRange, trivial, ?_⟩
  rintro ⟨bs, _, hread⟩
  have hnil := timedBitstring_inRange.ios_eq_nil hread rfl
  cases hnil

end HatDrivers.Iec60870.Encodings.Iec101
