import HatDrivers.Iec60870.Encodings.Truncation

namespace HatDrivers.Iec60870.Encodings

open HatDrivers.Lib

/-!
# IEC 60870-5-101 and -104 — truncated ASDUs

Of the elements with which an object can end that has no time, bit strings, reads,
tests, delays and segments of files are not checked.  An encoded ASDU is rejected
without any of its last bytes if and only if it does not end with one of these
(`truncation_iff`).
-/

/-! ### Elements of 101 -/

namespace Iec101

/-- The elements of which bytes may be missing at the end of an object without time. -/
def IoElement.Unguarded : IoElement → Prop
  | .C_BO_NA _ | .C_RD_NA | .C_TS_NA | .C_CD_NA _ => True
  | .F_SG_NA _ _ segment => segment ≠ []
  | _ => False

theorem decodeIoElement_value (t : AsduType) : decodeIoElement t.value = decodeElement t := by
  funext bs
  simp [decodeIoElement]

/-- An element is read, as one of the class its type is decoded as. -/
theorem exists_reads_element {x : IoElement} (hv : x.Valid) {bs : Bytes}
    (hw : WrittenAs (encodeIoElement x.asduType.value) x bs) :
    ∃ y, Reads (decodeElement x.asduType) bs y := by
  have hof : x.decoded.Of x.asduType := by
    refine ⟨?_, ?_⟩
    · cases x <;> rfl
    · cases x <;> exact hv
  obtain ⟨ns, hns, hb, rfl⟩ := hw
  obtain ⟨ns', hns', _, hr⟩ := encodeIoElement_codes hof
  rw [encodeIoElement_decoded] at hns'
  obtain rfl : ns' = ns := Except.ok.inj (hns'.symm.trans hns)
  rw [decodeIoElement_value] at hr
  exact ⟨x.decoded, hr⟩

/-! ### Segments -/

section

variable {fileName sectionName : ℕ} {segment bs : Bytes}

private theorem segment_bytes (hw : WrittenAs (encodeIoElement AsduType.F_SG_NA.value)
    (.F_SG_NA fileName sectionName segment) bs) :
    bs.length = 4 + segment.length ∧ byteAt bs 3 = .ok segment.length := by
  obtain ⟨ns, hns, hb, rfl⟩ := hw
  obtain ⟨_, _, hns⟩ := bind_eq_ok.mp hns
  obtain ⟨name, hname, hns⟩ := bind_eq_ok.mp hns
  obtain rfl := Except.ok.inj hns
  obtain ⟨_, rfl⟩ := intToBytes_eq_ok.mp hname
  simp only [allBytes_append, allBytes_cons] at hb
  refine ⟨by simp only [length_bytesOf, List.length_append, length_leDigits, List.length_cons,
    List.length_nil, List.length_map], ?_⟩
  rw [bytesOf_append, bytesOf_append, List.append_assoc, byteAt_skip (by simp)]
  simp only [length_leDigits, Nat.reduceSub, byteAt_bytesOf_succ]
  exact byteAt_bytesOf_zero hb.1.2.2.1 [] _

theorem decodeElement_F_SG_NA_checks : Checks 4 (decodeElement .F_SG_NA) := by
  intro bs hlen
  simp only [decodeElement]
  cases byteAt bs 2 with
  | error e => exact ⟨e, rfl⟩
  | ok sectionName =>
    exact ⟨.indexError, by rw [ok_bind, byteAt_eq_error (i := 3) (by omega)]; rfl⟩

/-- A segment is cut where the bytes end. -/
private theorem decodeElement_F_SG_NA_of_length {p : Bytes} {length : ℕ}
    (h : byteAt p 3 = .ok length) :
    ∃ element, decodeElement .F_SG_NA p = .ok (element, p.drop (4 + length)) := by
  have hlt := lt_length_of_byteAt h
  obtain ⟨sectionName, _, hsection⟩ := exists_byteAt (show 2 < p.length by omega)
  simp only [decodeElement, hsection, h, ok_bind]
  exact ⟨_, rfl⟩

private theorem segment_exhausts (hw : WrittenAs (encodeIoElement AsduType.F_SG_NA.value)
    (.F_SG_NA fileName sectionName segment) bs) : Exhausts (decodeElement .F_SG_NA) bs := by
  obtain ⟨hlen, hbyte⟩ := segment_bytes hw
  intro p hp hne element rest hread
  have hlt : p.length < bs.length :=
    lt_of_le_of_ne hp.length_le fun heq => hne (hp.eq_of_length heq)
  by_cases hshort : p.length < 4
  · obtain ⟨e, he⟩ := decodeElement_F_SG_NA_checks p hshort
    rw [he] at hread
    cases hread
  · obtain ⟨q, rfl⟩ := hp
    rw [byteAt_append (by omega)] at hbyte
    obtain ⟨element', hread'⟩ := decodeElement_F_SG_NA_of_length hbyte
    rw [hread'] at hread
    obtain ⟨_, rfl⟩ := Prod.mk.inj (Except.ok.inj hread)
    exact List.drop_eq_nil_of_le (by omega)

private theorem segment_tolerates (hw : WrittenAs (encodeIoElement AsduType.F_SG_NA.value)
    (.F_SG_NA fileName sectionName segment) bs) (hne : segment ≠ []) :
    Tolerates (decodeElement .F_SG_NA) bs := by
  obtain ⟨hlen, hbyte⟩ := segment_bytes hw
  have hpos := List.length_pos_of_ne_nil hne
  have htake : (bs.take 4).length = 4 := by rw [List.length_take]; omega
  have hbyte' : byteAt (bs.take 4) 3 = .ok segment.length := by
    rw [← hbyte]
    conv_rhs => rw [← List.take_append_drop 4 bs]
    rw [byteAt_append (by omega)]
  obtain ⟨element, hread⟩ := decodeElement_F_SG_NA_of_length hbyte'
  refine ⟨bs.take 4, List.take_prefix 4 bs, fun heq => ?_, element, ?_⟩
  · have := congrArg List.length heq
    omega
  · rw [hread, List.drop_eq_nil_of_le (by omega)]

end

/-! ### All elements of 101 -/

private theorem untimed_unchecked {t : AsduType} (ht : asduTypeTimeSizes.lookup t.value = none)
    (hu : t ∈ uncheckedAsduTypes) :
    t = .C_BO_NA ∨ t = .C_RD_NA ∨ t = .C_TS_NA ∨ t = .C_CD_NA ∨ t = .F_SG_NA := by
  revert ht hu
  cases t <;> decide

private theorem elementSize_pos {t : AsduType} (hu : t ∉ uncheckedAsduTypes) :
    0 < t.elementSize := by
  revert hu
  cases t <;> decide

/-- What is read of an element of which bytes are missing. -/
theorem elementPrefixes (e : Encoder) {x : IoElement} (hv : x.Valid) {bs : Bytes}
    (hw : WrittenAs (encodeIoElement x.asduType.value) x bs) :
    e.encoder.ElementPrefixes IoElement.Unguarded x.asduType.value x bs := by
  obtain ⟨y, hreads⟩ := exists_reads_element hv hw
  have hcb : e.encoder.decodeIoElementCb x.asduType.value = decodeElement x.asduType :=
    decodeIoElement_value x.asduType
  have hlen : x.asduType ≠ .F_SG_NA → bs.length = x.asduType.elementSize := fun ht =>
    (decodeElement_fixedSize ht).length_eq hreads
  constructor
  · rw [hcb]
    exact ⟨y, hreads⟩
  · rw [hcb]
    by_cases ht : x.asduType = .F_SG_NA
    · cases x with
      | F_SG_NA fileName sectionName segment => exact segment_exhausts hw
      | _ => cases ht
    · exact (decodeElement_fixedSize ht).exhausts (hlen ht)
  · intro huntimed hguarded
    rw [hcb]
    by_cases hu : x.asduType ∈ uncheckedAsduTypes
    · have htypes := untimed_unchecked huntimed hu
      cases x with
      | C_BO_NA value => exact absurd trivial hguarded
      | C_RD_NA => exact absurd trivial hguarded
      | C_TS_NA => exact absurd trivial hguarded
      | C_CD_NA time => exact absurd trivial hguarded
      | F_SG_NA fileName sectionName segment =>
        obtain rfl : segment = [] := not_not.mp hguarded
        obtain ⟨hfour, _⟩ := segment_bytes hw
        refine ⟨decodeElement_F_SG_NA_checks.guards hfour, fun hnil => ?_⟩
        rw [hnil] at hfour
        cases hfour
      | _ => rcases htypes with h | h | h | h | h <;> cases h
    · have hne : x.asduType ≠ .F_SG_NA := by
        intro heq
        rw [heq] at hu
        exact hu (by decide)
      refine ⟨(decodeElement_checks hu).guards (hlen hne), fun hnil => ?_⟩
      have hpos := elementSize_pos hu
      rw [← hlen hne, hnil] at hpos
      cases hpos
  · intro _ hunguarded
    rw [hcb]
    have hempty : ∀ (element : IoElement), x.asduType ≠ .F_SG_NA → 0 < x.asduType.elementSize →
        decodeElement x.asduType [] = .ok (element, []) →
          Tolerates (decodeElement x.asduType) bs := by
      intro element ht hpos hread
      refine ⟨[], List.nil_prefix, fun heq => ?_, element, hread⟩
      have := hlen ht
      rw [← heq, List.length_nil] at this
      omega
    cases x with
    | C_BO_NA value => exact .inl (hempty (.C_BO_NA ⟨[]⟩) nofun (Nat.succ_pos 3) rfl)
    | C_RD_NA =>
      right
      exact List.eq_nil_of_length_eq_zero (hlen nofun)
    | C_TS_NA => exact .inl (hempty .C_TS_NA nofun (Nat.succ_pos 1) rfl)
    | C_CD_NA time => exact .inl (hempty (.C_CD_NA 0) nofun (Nat.succ_pos 1) rfl)
    | F_SG_NA fileName sectionName segment => exact .inl (segment_tolerates hw hunguarded)
    | _ => exact hunguarded.elim
  · intro hnil
    rw [hcb]
    have ht : x.asduType ≠ .F_SG_NA := by
      intro ht
      cases x with
      | F_SG_NA fileName sectionName segment =>
        obtain ⟨hfour, _⟩ := segment_bytes hw
        rw [hnil, List.length_nil] at hfour
        omega
      | _ => cases ht
    have hsize := decodeElement_fixedSize ht
    rw [← hlen ht, hnil] at hsize
    exact hsize

end Iec101

/-! ### Elements of 104 -/

namespace Iec104

/-- The elements of 101; the commands of 104 are followed by a time. -/
def IoElement.Unguarded : IoElement → Prop
  | .iec101 element => element.Unguarded
  | _ => False

/-- A type of 101 has a time in 104 if it has one in 101. -/
private theorem lookup_iec101 {t : AsduType} {t' : Iec101.AsduType} (h : t'.value = t.value) :
    asduTypeTimeSizes.lookup t.value = Iec101.asduTypeTimeSizes.lookup t'.value := by
  have hlookup : ∀ t : AsduType, t.value ∈ iec101AsduTypes →
      asduTypeTimeSizes.lookup t.value = Iec101.asduTypeTimeSizes.lookup t.value := by
    intro t
    cases t <;> decide
  rw [h]
  exact hlookup t (mem_iec101AsduTypes h)

/-- The other types have one. -/
private theorem lookup_new {t : AsduType} (h : t.value ∉ iec101AsduTypes) :
    asduTypeTimeSizes.lookup t.value = some .SEVEN := by
  revert h
  cases t <;> decide

/-- The number of bytes of an element of the types that 101 does not have. -/
def AsduType.elementSize : AsduType → ℕ
  | .C_SC_TA | .C_DC_TA | .C_RC_TA => 1
  | .C_SE_TA | .C_SE_TB => 3
  | .C_SE_TC => 5
  | .C_BO_TA => 4
  | .C_TS_TA => 2
  | _ => 0

/-- They read their size, like those of 101 that have no time. -/
theorem decodeElement_fixedSize {t : AsduType} (h : t.value ∉ iec101AsduTypes) :
    FixedSize t.elementSize (decodeElement t) := by
  cases t with
  | C_SC_TA | C_DC_TA | C_RC_TA =>
    simp only [decodeElement]
    exact (Iec101.decodeCommand_size _).toFixedSize.map _
  | C_SE_TA =>
    simp only [decodeElement]
    exact (Iec101.decodeNormalizedValue_size.pair Iec101.decodeSelect_size.toFixedSize).map _
  | C_SE_TB =>
    simp only [decodeElement]
    exact (Iec101.decodeScaledValue_size.pair Iec101.decodeSelect_size.toFixedSize).map _
  | C_SE_TC =>
    simp only [decodeElement]
    exact (Iec101.decodeFloatingValue_size.pair Iec101.decodeSelect_size.toFixedSize).map _
  | C_BO_TA =>
    simp only [decodeElement]
    exact Iec101.decodeBitstringValue_size.map _
  | C_TS_TA =>
    simp only [decodeElement]
    exact Iec101.decodeInt2_size.map _
  | _ => exact absurd (by decide) h

private theorem newElementSize_pos {t : AsduType} (h : t.value ∉ iec101AsduTypes) :
    0 < t.elementSize := by
  revert h
  cases t <;> decide

/-- An element of 101, in an ASDU of 104. -/
theorem prefixes_iec101 {unguarded : Iec101.IoElement → Prop} {e : Iec101.Encoder}
    {t : AsduType} {x : Iec101.IoElement} {bs : Bytes} (htype : x.asduType.value = t.value)
    (h : e.encoder.ElementPrefixes unguarded x.asduType.value x bs) :
    encoder.ElementPrefixes (fun x => ∃ element, x = .iec101 element ∧ unguarded element) t.value
      (.iec101 x) bs := by
  have hmem := mem_iec101AsduTypes htype
  have hcb : encoder.decodeIoElementCb t.value =
      mapRead .iec101 (Iec101.decodeIoElement x.asduType.value) := by
    funext bs
    show decodeIoElement t.value bs = _
    simp only [decodeIoElement, show decodeAsduType t.value = .ok t from decodeAsduType_value t,
      ok_bind, if_pos hmem, htype]
  have htime : encoder.asduTypeTimeSizes.lookup t.value =
      e.encoder.asduTypeTimeSizes.lookup x.asduType.value := lookup_iec101 htype
  constructor
  · obtain ⟨y, hy⟩ := h.reads
    rw [hcb]
    exact ⟨_, hy.map _⟩
  · rw [hcb]
    exact h.exhausts.map _
  · intro huntimed hguarded
    rw [htime] at huntimed
    rw [hcb]
    obtain ⟨hg, hne⟩ := h.guards huntimed fun hu => hguarded ⟨x, rfl, hu⟩
    exact ⟨hg.map _, hne⟩
  · rintro huntimed ⟨element, heq, hu⟩
    obtain rfl := IoElement.iec101.inj heq
    rw [htime] at huntimed
    rw [hcb]
    exact (h.tolerates huntimed hu).imp_left fun ht => ht.map _
  · intro hnil
    rw [hcb]
    exact (h.fixedSize hnil).map _

theorem elementPrefixes {t : AsduType} {x : IoElement} (h : x.Of t) {bs : Bytes}
    (hw : WrittenAs (encodeIoElement t.value) x bs) :
    encoder.ElementPrefixes IoElement.Unguarded t.value x bs := by
  have hdecode : decodeAsduType t.value = .ok t := decodeAsduType_value t
  obtain ⟨ns, hns, hb, rfl⟩ := hw
  by_cases hmem : t.value ∈ iec101AsduTypes
  · cases x with
    | iec101 element =>
      obtain ⟨htype, hv⟩ := h
      have hw : WrittenAs (Iec101.encodeIoElement element.asduType.value) element (bytesOf ns) := by
        simp only [encodeIoElement, hdecode, ok_bind, if_pos hmem, encodeIec101Element] at hns
        rw [show element.asduType.value = t.value from htype]
        exact ⟨ns, hns, hb, rfl⟩
      have hprefixes := prefixes_iec101 htype (Iec101.elementPrefixes Iec101.balanced hv hw)
      have hunguarded : (fun x => ∃ element, x = IoElement.iec101 element ∧ element.Unguarded) =
          IoElement.Unguarded := by
        funext x
        cases x <;> simp [IoElement.Unguarded]
      rwa [hunguarded] at hprefixes
    | _ =>
      obtain rfl := Enumeration.value_injective (a := t) h.1.symm
      exact absurd hmem (by decide)
  · have hpos := newElementSize_pos hmem
    have hsize := decodeElement_fixedSize hmem
    have hcb : encoder.decodeIoElementCb t.value = decodeElement t := by
      funext bs
      show decodeIoElement t.value bs = _
      simp only [decodeIoElement, hdecode, ok_bind, if_neg hmem]
    obtain ⟨ns', hns', _, hr⟩ := encodeIoElement_codes h
    obtain rfl : ns' = ns := Except.ok.inj (hns'.symm.trans hns)
    have hr' : Reads (decodeElement t) (bytesOf ns') x := hcb ▸ hr
    have hlen := hsize.length_eq hr'
    have htime : encoder.asduTypeTimeSizes.lookup t.value = some .SEVEN := lookup_new hmem
    constructor
    · exact ⟨x, hr⟩
    · rw [hcb]
      exact hsize.exhausts hlen
    · intro huntimed
      rw [htime] at huntimed
      cases huntimed
    · intro huntimed
      rw [htime] at huntimed
      cases huntimed
    · intro hnil
      rw [hnil, List.length_nil] at hlen
      omega

end Iec104

/-! ### Typed ASDUs -/

section

variable {τ η : Type} {encoder : Encoder η} {decodeAsduType : ℕ → Except Exn τ}

/-- The type is the first byte of an ASDU. -/
theorem byteAt_of_decodeAsdu {p rest : Bytes} {asdu : ASDU η}
    (h : encoder.decodeAsdu p = .ok (asdu, rest)) : byteAt p 0 = .ok asdu.type := by
  obtain ⟨asduType, htype, h⟩ := bind_eq_ok.mp h
  obtain ⟨count, _, h⟩ := bind_eq_ok.mp h
  obtain ⟨⟨ios, rest'⟩, _, h⟩ := bind_eq_ok.mp h
  obtain rfl := (Prod.mk.inj (Except.ok.inj h)).1
  exact htype

theorem guards_typed {bs : Bytes} (h : Guards encoder.decodeAsdu bs) :
    Guards (Iec101.decodeTypedAsdu encoder decodeAsduType) bs := by
  intro p hp hne
  obtain ⟨e, he⟩ := h p hp hne
  exact ⟨e, by rw [Iec101.decodeTypedAsdu, he]; rfl⟩

/-- A prefix that is decoded has the type of the ASDU. -/
theorem tolerates_typed [Enumeration τ]
    (htype : ∀ t, decodeAsduType (Enumeration.value t) = .ok t)
    {asdu : Iec101.ASDU τ η} {bs : Bytes} (hbs : Iec101.encodeTypedAsdu encoder asdu = .ok bs)
    (h : Tolerates encoder.decodeAsdu bs) :
    Tolerates (Iec101.decodeTypedAsdu encoder decodeAsduType) bs := by
  obtain ⟨hlt, _, _, _, _, ios, _, hlayout⟩ := Encoder.layout_of_encodeAsdu hbs
  have hfirst : byteAt bs 0 = .ok (Enumeration.value asdu.type) := by
    rw [hlayout, Encoder.layout, byteAt_bytesOf_zero hlt]
  obtain ⟨p, hp, hne, decoded, hdecoded⟩ := h
  have hbyte := byteAt_of_decodeAsdu hdecoded
  obtain ⟨q, rfl⟩ := id hp
  rw [byteAt_append (lt_length_of_byteAt hbyte), hbyte] at hfirst
  have htype' : decodeAsduType decoded.type = .ok asdu.type := by
    rw [Except.ok.inj hfirst]
    exact htype asdu.type
  refine ⟨p, hp, hne, ?_⟩
  simp only [Iec101.decodeTypedAsdu, hdecoded, ok_bind, htype']
  exact ⟨_, rfl⟩

/-- An encoded ASDU is rejected without any of its last bytes iff it ends with what is checked. -/
theorem guards_decodeTypedAsdu_iff [Enumeration τ]
    (htype : ∀ t, decodeAsduType (Enumeration.value t) = .ok t)
    {unguarded : η → Prop} {asdu : Iec101.ASDU τ η} {bs : Bytes}
    (hbs : Iec101.encodeTypedAsdu encoder asdu = .ok bs) (hshape : Shape asdu.ios)
    (hx : ∀ io ∈ asdu.ios, ∀ x ∈ io.elements, ∀ bs,
      WrittenAs (encoder.encodeIoElementCb (Enumeration.value asdu.type)) x bs →
        encoder.ElementPrefixes unguarded (Enumeration.value asdu.type) x bs) :
    Guards (Iec101.decodeTypedAsdu encoder decodeAsduType) bs ↔
      encoder.EndsChecked unguarded (Enumeration.value asdu.type) asdu.ios := by
  obtain ⟨hguards, htolerates⟩ := Encoder.guards_or_tolerates hbs hshape hx
  constructor
  · intro hg
    by_contra hends
    exact (tolerates_typed htype hbs (htolerates hends)).not_guards hg
  · exact fun hends => guards_typed (hguards hends)

end

/-- **Truncated ASDUs.**  An ASDU of 101, in any field sizes, or of 104 is rejected whichever of
its last bytes are missing if and only if it has an object, and the last one ends with a time or
with an element that is not a bit string, a read, a test, a delay or a segment of a file with
bytes. -/
theorem truncation_iff (e : Iec101.Encoder)
    (asdu : Iec101.ASDU Iec101.AsduType Iec101.IoElement) (asdu' : Iec104.ASDU) (bs bs' : Bytes) :
    (e.InRange asdu → e.encodeAsdu asdu = .ok bs →
      ((∀ p, p <+: bs → p ≠ bs → ∃ exn, e.decodeAsdu p = .error exn) ↔
        e.encoder.EndsChecked Iec101.IoElement.Unguarded asdu.type.value asdu.ios)) ∧
    (Iec104.InRange asdu' → Iec104.encodeAsdu asdu' = .ok bs' →
      ((∀ p, p <+: bs' → p ≠ bs' → ∃ exn, Iec104.decodeAsdu p = .error exn) ↔
        Iec104.encoder.EndsChecked Iec104.IoElement.Unguarded asdu'.type.value asdu'.ios)) := by
  constructor
  · intro h hbs
    apply guards_decodeTypedAsdu_iff Iec101.decodeAsduType_value hbs h.shape
    intro io hio x hx bs hw
    obtain ⟨htype, hv⟩ := h.elements io hio x hx
    rw [← htype] at hw ⊢
    exact Iec101.elementPrefixes e hv hw
  · intro h hbs
    apply guards_decodeTypedAsdu_iff Iec104.decodeAsduType_value hbs h.shape
    intro io hio x hx bs hw
    exact Iec104.elementPrefixes (h.elements io hio x hx) hw

/-- A read of object 7 of station 1, in the smallest field sizes. -/
def smallRead : Iec101.ASDU Iec101.AsduType Iec101.IoElement where
  type := .C_RD_NA
  cause := { type := .enum .REQUEST, isNegativeConfirm := false, isTest := false,
             originatorAddress := 0 }
  address := 1
  ios := [{ address := 7, elements := [.C_RD_NA], time := none }]

theorem smallRead_inRange : (⟨.ONE, .ONE, .ONE⟩ : Iec101.Encoder).InRange smallRead where
  cause := ⟨by decide, by decide, by decide⟩
  address_lt := by decide
  shape := .inr ⟨by decide, by decide⟩
  ioAddress_lt := by decide
  elements := by
    simp only [smallRead, List.forall_mem_singleton]
    exact ⟨rfl, trivial⟩
  time := by
    have h : TimeFits none none := trivial
    simp only [smallRead, List.forall_mem_singleton]
    exact h

/-- The measured values end with their times, and the read does not. -/
theorem truncation_iff_measuredValues :
    ((∀ p : Bytes, p <+: [102, 1, 5, 1, 7] → p ≠ [102, 1, 5, 1, 7] →
        ∃ exn, (⟨.ONE, .ONE, .ONE⟩ : Iec101.Encoder).decodeAsdu p = .error exn) ↔
      (⟨.ONE, .ONE, .ONE⟩ : Iec101.Encoder).encoder.EndsChecked Iec101.IoElement.Unguarded
        smallRead.type.value smallRead.ios) ∧
    ∃ bs, Iec104.encodeAsdu Iec104.measuredValues = .ok bs ∧
      ((∀ p, p <+: bs → p ≠ bs → ∃ exn, Iec104.decodeAsdu p = .error exn) ↔
        Iec104.encoder.EndsChecked Iec104.IoElement.Unguarded
          Iec104.measuredValues.type.value Iec104.measuredValues.ios) := by
  obtain ⟨bs, hbs⟩ := Iec104.measuredValues_wellFormed.inRange.encodes
  have h := truncation_iff ⟨.ONE, .ONE, .ONE⟩ smallRead Iec104.measuredValues [102, 1, 5, 1, 7] bs
  exact ⟨h.1 smallRead_inRange rfl, bs, hbs, h.2 Iec104.measuredValues_wellFormed.inRange hbs⟩

/-- A read of object 7 of station 1. -/
def readCommand : Iec104.ASDU where
  type := .C_RD_NA
  cause := { type := .enum .REQUEST, isNegativeConfirm := false, isTest := false,
             originatorAddress := 0 }
  address := 1
  ios := [{ address := 7, elements := [.iec101 .C_RD_NA], time := none }]

/-- Of the read, two bytes are enough for a read of object 0 of station 0. -/
theorem readCommand_truncated :
    Iec104.InRange readCommand ∧
      Iec104.encodeAsdu readCommand = .ok [102, 1, 5, 0, 1, 0, 7, 0, 0] ∧
      Iec104.decodeAsdu [102, 1] = .ok (({
        type := .C_RD_NA
        cause := { type := .enum .UNDEFINED, isNegativeConfirm := false, isTest := false,
                   originatorAddress := 0 }
        address := 0
        ios := [{ address := 0, elements := [.iec101 .C_RD_NA], time := none }] } : Iec104.ASDU),
        []) := by
  refine ⟨?_, rfl, rfl⟩
  exact
    { cause := ⟨by decide, by decide, by decide⟩
      address_lt := by decide
      shape := .inr ⟨by decide, by decide⟩
      ioAddress_lt := by decide
      elements := by
        have h : Iec104.IoElement.Of .C_RD_NA (.iec101 .C_RD_NA) := ⟨rfl, trivial⟩
        simpa [readCommand] using h
      time := by
        have h : TimeFits none none := trivial
        simp only [readCommand, List.forall_mem_singleton]
        exact h }

end HatDrivers.Iec60870.Encodings
