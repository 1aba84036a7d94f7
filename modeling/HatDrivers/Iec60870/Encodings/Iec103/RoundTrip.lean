import HatDrivers.Iec60870.Encodings.Iec103.Elements

namespace HatDrivers.Iec60870.Encodings.Iec103

open HatDrivers.Lib

/-!
# IEC 60870-5-103 — round trips of ASDUs

`ASDU.InRange.roundTrips_iff_elements` reduces the round trip of an ASDU to those of its elements;
`fixedFormat_roundTrip` is that of the fixed formats.
-/

/-- The documented ranges of an ASDU and its shape; `elementOk` says what its elements may be. -/
structure ASDU.InRange (elementOk : IoElement → Prop) (asdu : ASDU) : Prop where
  cause_le : asdu.cause.toNat ≤ 255
  address_le : asdu.address ≤ 255
  shape : (∃ io, asdu.ios = [io] ∧ 1 ≤ io.elements.length ∧ io.elements.length ≤ 127) ∨
    (asdu.ios.length ≤ 127 ∧ ∀ io ∈ asdu.ios, io.elements.length = 1)
  ioAddress : ∀ io ∈ asdu.ios, io.address.InRange
  elements : ∀ io ∈ asdu.ios, ∀ x ∈ io.elements, x.asduType = asdu.type ∧ elementOk x

/-! ### Addresses and types -/

@[simp] theorem decodeAsduType_value (t : AsduType) : decodeAsduType t.value = .ok t := by
  have h : Enumeration.ofValue? t.value = some t := Enumeration.ofValue?_value t
  simp [decodeAsduType, h]

theorem AsduType.value_lt (t : AsduType) : t.value < 256 := by cases t <;> decide

theorem encodeIoAddress_eq {address : IoAddress} (h : address.InRange) :
    encodeIoAddress address = address.informationNumber * 256 + address.functionType := by
  have hf : address.functionType < 2 ^ 8 := Nat.lt_succ_of_le h.functionType_le
  rw [encodeIoAddress, Nat.lor_comm]
  exact shiftLeft_or_eq_add hf

theorem encodeIoAddress_lt {address : IoAddress} (h : address.InRange) :
    encodeIoAddress address < 256 ^ 2 := by
  have hf := h.functionType_le
  have hi := h.informationNumber_le
  rw [encodeIoAddress_eq h]
  omega

theorem decodeIoAddress_encodeIoAddress {address : IoAddress} (h : address.InRange) :
    decodeIoAddress (encodeIoAddress address) = address := by
  obtain ⟨functionType, informationNumber⟩ := address
  have hf : functionType ≤ 255 := h.functionType_le
  have hi : informationNumber ≤ 255 := h.informationNumber_le
  have hlow : (informationNumber * 256 + functionType) &&& 0xFF = functionType := by
    rw [show (0xFF : ℕ) = 2 ^ 8 - 1 from rfl, Nat.and_two_pow_sub_one_eq_mod]
    omega
  have hhigh : (informationNumber * 256 + functionType) >>> 8 = informationNumber := by
    rw [Nat.shiftRight_eq_div_pow]
    omega
  simp only [encodeIoAddress_eq h, decodeIoAddress, hlow, hhigh]

theorem encodeIoAddress_decodeIoAddress (ioAddress : ℕ) :
    encodeIoAddress (decodeIoAddress ioAddress) = ioAddress := by
  have hlow : ioAddress &&& 0xFF = ioAddress % 256 := Nat.and_two_pow_sub_one_eq_mod ioAddress 8
  have hhigh : ioAddress >>> 8 = ioAddress / 256 := Nat.shiftRight_eq_div_pow ioAddress 8
  have hjoin := @shiftLeft_or_eq_add (ioAddress / 256) (ioAddress % 256) 8
    (Nat.mod_lt _ (by omega))
  rw [encodeIoAddress, decodeIoAddress, Nat.lor_comm, hlow, hhigh, hjoin]
  omega

theorem decodeAsduType_eq_ok {n : ℕ} {t : AsduType} (h : decodeAsduType n = .ok t) :
    t.value = n := by
  unfold decodeAsduType at h
  cases hvalue : (Enumeration.ofValue? n : Option AsduType) with
  | none =>
    rw [hvalue] at h
    cases h
  | some t' =>
    rw [hvalue] at h
    cases h
    exact Enumeration.value_of_ofValue? hvalue

/-! ### ASDUs -/

variable {elementOk : IoElement → Prop} {asdu : ASDU}

/-- What the generic encoder is given, it can carry. -/
theorem ASDU.InRange.carries (h : asdu.InRange elementOk) : encoder.Carries asdu.generic where
  shape := by
    rcases h.shape with ⟨io, hios, hlo, hhi⟩ | ⟨hlen, hone⟩
    · left
      refine ⟨{ address := encodeIoAddress io.address, elements := io.elements, time := none }, ?_,
        hlo, hhi⟩
      simp [generic, hios]
    · right
      refine ⟨by simpa [generic] using hlen, fun io hio => ?_⟩
      obtain ⟨io', hio', rfl⟩ := List.mem_map.mp hio
      exact hone io' hio'
  time := by
    intro io hio
    obtain ⟨io', _, rfl⟩ := List.mem_map.mp hio
    trivial

/-- The objects of the generic encoder are those of the ASDU. -/
theorem ASDU.InRange.decode_ios (h : asdu.InRange elementOk) :
    asdu.generic.ios.map (fun io =>
      ({ address := decodeIoAddress io.address, elements := io.elements } : Io)) = asdu.ios := by
  simp only [generic, List.map_map]
  conv_rhs => rw [← List.map_id asdu.ios]
  apply List.map_congr_left
  intro io hio
  simp only [Function.comp_apply, decodeIoAddress_encodeIoAddress (h.ioAddress io hio)]
  rfl

/-- No object that is read has a time of its own. -/
theorem time_eq_none {bs rest : Bytes} {asdu : Encodings.ASDU IoElement}
    (h : encoder.decodeAsdu bs = .ok (asdu, rest)) : ∀ io ∈ asdu.ios, io.time = none := by
  intro io hio
  obtain ⟨type, _, h⟩ := bind_eq_ok.mp h
  obtain ⟨count, _, h⟩ := bind_eq_ok.mp h
  obtain ⟨⟨ios, rest'⟩, hios, h⟩ := bind_eq_ok.mp h
  cases h
  obtain ⟨bs', rest', hread⟩ := exists_of_mem_readN hios hio
  obtain ⟨⟨elements, rest''⟩, _, hread⟩ := bind_eq_ok.mp hread
  obtain ⟨⟨time, _⟩, htime, hread⟩ := bind_eq_ok.mp hread
  cases hread
  cases htime
  rfl

/-- The encoder reads an ASDU if and only if its cause is one that is read, and the generic encoder
reads what it stands for. -/
theorem ASDU.InRange.decodeAsdu_iff (h : asdu.InRange elementOk) (bs rest : Bytes) :
    decodeAsdu bs = .ok (asdu, rest) ↔
      asdu.cause.Normal ∧ encoder.decodeAsdu bs = .ok (asdu.generic, rest) := by
  constructor
  · intro hread
    obtain ⟨⟨inner, rest'⟩, hinner, hread⟩ := bind_eq_ok.mp hread
    obtain ⟨type, htype, hread⟩ := bind_eq_ok.mp hread
    have hios : inner.ios.map (fun io => (
        { address := encodeIoAddress (decodeIoAddress io.address), elements := io.elements,
          time := none } : Encodings.Io IoElement)) = inner.ios := by
      conv_rhs => rw [← List.map_id inner.ios]
      apply List.map_congr_left
      intro io hio
      rw [encodeIoAddress_decodeIoAddress, ← time_eq_none hinner io hio]
      rfl
    obtain ⟨rfl, rfl⟩ := Prod.mk.inj (Except.ok.inj hread)
    refine ⟨(EnumOr.normal_ofNat inner.cause).1, ?_⟩
    rw [hinner]
    simp only [generic, List.map_map, Function.comp_def, decodeAsduType_eq_ok htype,
      (EnumOr.normal_ofNat inner.cause).2, hios]
  · rintro ⟨hnormal, hread⟩
    have hcause := EnumOr.ofNat_toNat hnormal
    have hios := h.decode_ios
    simp only [decodeAsdu, hread, ok_bind, generic, decodeAsduType_value, hcause]
    simp only [generic] at hios
    rw [hios]
    rfl

/-- **An ASDU is read back if and only if all of its elements are**, and its cause is no integer
with a name. -/
theorem ASDU.InRange.roundTrips_iff_elements (h : asdu.InRange elementOk) {p : IoElement → Prop}
    (helems : ∀ io ∈ asdu.ios, ∀ x ∈ io.elements,
      CodesIff (p x) (encodeElement x) (decodeElement x.asduType) x) :
    (∃ bs, encodeAsdu asdu = .ok bs ∧ ∀ rest, decodeAsdu (bs ++ rest) = .ok (asdu, rest)) ↔
      asdu.cause.Normal ∧ ∀ io ∈ asdu.ios, ∀ x ∈ io.elements, p x := by
  have hioAddress : ∀ io ∈ asdu.generic.ios, io.address < 256 ^ encoder.ioAddressSize.value := by
    intro io hio
    obtain ⟨io', hio', rfl⟩ := List.mem_map.mp hio
    exact encodeIoAddress_lt (h.ioAddress io' hio')
  have hcodes : ∀ io ∈ asdu.generic.ios, ∀ x ∈ io.elements,
      CodesIff (p x) (encoder.encodeIoElementCb asdu.generic.type x)
        (encoder.decodeIoElementCb asdu.generic.type) x := by
    intro io hio x hx
    obtain ⟨io', hio', rfl⟩ := List.mem_map.mp hio
    have hx' := helems io' hio' x hx
    rw [(h.elements io' hio' x hx).1] at hx'
    have hencode : encodeIoElement asdu.type.value x = encodeElement x := by
      simp [encodeIoElement]
    have hdecode : decodeIoElement asdu.type.value = decodeElement asdu.type := by
      funext ioBytes
      simp [decodeIoElement]
    show CodesIff (p x) (encodeIoElement asdu.type.value x) (decodeIoElement asdu.type.value) x
    rwa [hencode, hdecode]
  have hiff := encoder.decodeAsdu_encodeAsdu_iff h.carries asdu.type.value_lt
    (Nat.lt_succ_of_le h.cause_le) (Nat.lt_succ_of_le h.address_le) hioAddress hcodes
  have hp : (∀ io ∈ asdu.generic.ios, ∀ x ∈ io.elements, p x) ↔
      ∀ io ∈ asdu.ios, ∀ x ∈ io.elements, p x := by
    simp only [ASDU.generic, List.forall_mem_map]
  rw [← hp, ← hiff]
  simp only [h.decodeAsdu_iff, encodeAsdu]
  constructor
  · rintro ⟨bs, hbs, hread⟩
    exact ⟨(hread []).1, bs, hbs, fun rest => (hread rest).2⟩
  · rintro ⟨hnormal, bs, hbs, hread⟩
    exact ⟨bs, hbs, fun rest => ⟨hnormal, hread rest⟩⟩

/-- **An ASDU of a fixed format is written, and read back** whatever follows it. -/
theorem fixedFormat_roundTrip (asdu : ASDU) (h : asdu.InRange IoElement.FixedFormat)
    (hcause : asdu.cause.Normal) :
    ∃ bs, encodeAsdu asdu = .ok bs ∧ ∀ rest, decodeAsdu (bs ++ rest) = .ok (asdu, rest) := by
  have helems : ∀ io ∈ asdu.ios, ∀ x ∈ io.elements,
      CodesIff True (encodeElement x) (decodeElement x.asduType) x := by
    intro io hio x hx
    exact (encodeElement_codes (h.elements io hio x hx).2).codesIff
  exact (h.roundTrips_iff_elements helems).mpr ⟨hcause, fun _ _ _ _ => trivial⟩

/-- Two disturbance values, the least one of the range among them. -/
def disturbanceValues (cause : EnumOr Cause) : ASDU where
  type := .TRANSMISSION_OF_DISTURBANCE_VALUES
  cause := cause
  address := 1
  ios := [{ address := { functionType := 128, informationNumber := 0 }
            elements := [.TRANSMISSION_OF_DISTURBANCE_VALUES 7 .I_L1 0 [-1, 3 / 2 ^ 15]] }]

theorem disturbanceValues_inRange {cause : EnumOr Cause} (hcause : cause.toNat ≤ 255) :
    (disturbanceValues cause).InRange IoElement.FixedFormat where
  cause_le := hcause
  address_le := by simp [disturbanceValues]
  shape := .inr ⟨by simp [disturbanceValues], by simp [disturbanceValues]⟩
  ioAddress := by
    simp only [disturbanceValues, List.forall_mem_singleton]
    exact ⟨by decide, by decide⟩
  elements := by
    have hlow : IsDisturbanceValue (-1) := ⟨by norm_num, -2 ^ 15, by norm_num⟩
    have hhigh : IsDisturbanceValue (3 / 2 ^ 15) := ⟨by norm_num, 3, by norm_num⟩
    simp only [disturbanceValues, List.forall_mem_singleton]
    refine ⟨rfl, by decide, by decide, by decide, ?_⟩
    simp only [List.forall_mem_cons]
    exact ⟨hlow, hhigh, by simp⟩

theorem fixedFormat_roundTrip_disturbanceValues :
    ∃ bs, encodeAsdu (disturbanceValues (.enum .TRANSMISSION_OF_DISTURBANCE_DATA)) = .ok bs ∧
      ∀ rest, decodeAsdu (bs ++ rest) =
        .ok (disturbanceValues (.enum .TRANSMISSION_OF_DISTURBANCE_DATA), rest) :=
  fixedFormat_roundTrip (disturbanceValues (.enum .TRANSMISSION_OF_DISTURBANCE_DATA))
    (disturbanceValues_inRange (by decide)) trivial

/-- A cause given as an integer, in its documented range, comes back as the member with it. -/
theorem integerCause_not_readBack :
    (disturbanceValues (.int 31)).InRange IoElement.FixedFormat ∧
      ¬ ∃ bs, encodeAsdu (disturbanceValues (.int 31)) = .ok bs ∧
        decodeAsdu bs = .ok (disturbanceValues (.int 31), []) := by
  have hrange : (disturbanceValues (.int 31)).InRange IoElement.FixedFormat :=
    disturbanceValues_inRange (by decide)
  refine ⟨hrange, ?_⟩
  rintro ⟨bs, _, hread⟩
  have hnormal := ((hrange.decodeAsdu_iff bs []).mp hread).1
  revert hnormal
  decide

end HatDrivers.Iec60870.Encodings.Iec103
