import HatDrivers.Iec60870.Encodings.Security.Segmentation
import HatDrivers.Lib.Transition

namespace HatDrivers.Iec60870.Encodings.Security

open HatDrivers.Lib

/-!
# IEC 60870-5-7 — reassembly of arbitrary inputs

The buffer of the decoder always holds a first segment and segments that follow it
(`Holding`).  Nothing else was given to the decoder between them, as long as no
input is passed over while there is a buffer (`Regular`): the decoder keeps its
buffer when it raises before it gets to a segment, when it decodes an S_IT_TC without
objects, and when it takes a segment for a repeat that differs from it in the last bit.
-/

variable {encoder : InnerEncoder}

/-! ### Messages -/

/-- The inputs from a first segment on: its repeats, the segments that follow it with
successive numbers, and repeats of those; the last segment among them, and the bytes
of all of them. -/
inductive Taken (encoder : InnerEncoder) : List Bytes → Bytes → Bytes → Prop
  | first {bs : Bytes} {s : Segment} (hs : parseSegment encoder bs = some s)
      (hfirst : s.first = true) : Taken encoder [bs] bs s.rest
  | again {inputs : List Bytes} {bs data : Bytes} {s : Segment} (h : Taken encoder inputs bs data)
      (hs : parseSegment encoder bs = some s) (hlast : s.last = false) :
      Taken encoder (inputs ++ [bs]) bs data
  | next {inputs : List Bytes} {bs bs' data : Bytes} {s s' : Segment}
      (h : Taken encoder inputs bs data)
      (hs : parseSegment encoder bs = some s) (hlast : s.last = false)
      (hs' : parseSegment encoder bs' = some s') (hfirst : s'.first = false)
      (htype : s.asduType = s'.asduType) (hcause : s.cause = s'.cause)
      (haddress : s.asduAddress = s'.asduAddress) (hnumber : (s.segment + 1) % 64 = s'.segment) :
      Taken encoder (inputs ++ [bs']) bs' (data ++ s'.rest)

/-- The segment the buffer took last. -/
structure Buffer.Follows (buffer : Buffer) (s : Segment) : Prop where
  asduType : buffer.asduType = s.asduType
  cause : buffer.cause = s.cause
  asduAddress : buffer.asduAddress = s.asduAddress
  first : buffer.prevFirst = s.first
  segment : buffer.prevSegment = s.segment
  rest : buffer.prevIoBytes = s.rest

/-- A segment that the buffer takes for a repeat of the one before it. -/
def Buffer.Repeated (buffer : Buffer) (s : Segment) : Prop := s.first = false ∧ buffer.Follows s

/-- What is in the buffer after some inputs: the segments of a message, the last of
the inputs, that lacks its last segment. -/
def Holding (encoder : InnerEncoder) (inputs : List Bytes) (buffer : Option Buffer) : Prop :=
  ∀ b, buffer = some b → ∃ before message bs s,
    inputs = before ++ message ∧ Taken encoder message bs b.allIoBytes ∧
      parseSegment encoder bs = some s ∧ s.last = false ∧ b.Follows s

/-- An input that the decoder does not pass over while it has a buffer: an ASDU of the
encoder inside, an unsegmented ASDU with an object, or a segment that is no repeat
but for its last bit. -/
def Regular (encoder : InnerEncoder) (buffer : Option Buffer) (asduBytes : Bytes) : Prop :=
  ∀ b, buffer = some b →
    (∃ value, byteAt asduBytes 0 = .ok value ∧
      (Enumeration.ofValue? value : Option AsduType) = none) ∨
    (∃ asduType : AsduType, byteAt asduBytes 0 = .ok asduType.value ∧
      asduType ∈ unsegmentedAsduTypes ∧ ∃ ioCount cause address rest,
        decodeHeader encoder asduType asduBytes = .ok ((ioCount, cause, address), rest) ∧
          ioCount ≠ 0) ∨
    ∃ s, parseSegment encoder asduBytes = some s ∧ ¬ (b.Repeated s ∧ s.last = true)

/-! ### A segment is determined by its fields -/

set_option maxRecDepth 4000 in
private theorem byte_eq_fields : ∀ b < 256, b = (b &&& 0x3F) + (if bit b 0x40 then 64 else 0) +
    (if bit b 0x80 then 128 else 0) := by
  decide

theorem ofLE_injective {xs ys : Bytes} (hlen : xs.length = ys.length) (h : ofLE xs = ofLE ys) :
    xs = ys := by
  have hmap : xs.map UInt8.toNat = ys.map UInt8.toNat := by
    refine Nat.ofDigits_inj_of_len_eq (by omega) (by simpa using hlen) ?_ ?_ h
    · exact allBytes_map_toNat xs
    · exact allBytes_map_toNat ys
  exact List.map_injective_iff.mpr (fun _ _ => UInt8.toNat_inj.mp) hmap

/-- A byte is determined by its bit fields. -/
theorem byte_eq_of_fields {b b' : UInt8} (hnumber : b.toNat &&& 0x3F = b'.toNat &&& 0x3F)
    (h40 : bit b.toNat 0x40 = bit b'.toNat 0x40) (h80 : bit b.toNat 0x80 = bit b'.toNat 0x80) :
    b = b' := by
  have h := byte_eq_fields _ b.toNat_lt
  have h' := byte_eq_fields _ b'.toNat_lt
  rw [hnumber, h40, h80, ← h'] at h
  exact UInt8.toNat_inj.mp h

/-- A mask of a byte sees the low byte only. -/
theorem and_mod_byte {mask : ℕ} (h : mask < 256) (x : ℕ) : x &&& mask = x % 256 &&& mask := by
  have hlt : x &&& mask < 2 ^ 8 := Nat.and_le_right.trans_lt h
  have hmod := Nat.and_mod_two_pow (a := x) (b := mask) (n := 8)
  rwa [Nat.mod_eq_of_lt hlt, Nat.mod_eq_of_lt (show mask < 2 ^ 8 from h)] at hmod

/-- The bytes of a cause are determined by it. -/
theorem decodeCause_injective {causeSize : CauseSize} {cs cs' rest rest' : Bytes}
    (hlen : cs.length = causeSize.value) (hlen' : cs'.length = causeSize.value)
    (h : (decodeCause (cs ++ rest) causeSize).1 = (decodeCause (cs' ++ rest') causeSize).1) :
    cs = cs' := by
  have htake : (cs ++ rest).take causeSize.value = cs := List.take_left' hlen
  have htake' : (cs' ++ rest').take causeSize.value = cs' := List.take_left' hlen'
  simp only [decodeCause, decodeInt, htake, htake', Iec101.decodeCause, Iec101.decodeCauseType,
    (EnumOr.normal_ofNat _).2, Cause.mk.injEq] at h
  obtain ⟨htype, hneg, htest, horiginator⟩ := h
  have hnumber : intFromBytes cs &&& 0x3F = intFromBytes cs' &&& 0x3F := by
    have hvalue := congrArg EnumOr.toNat htype
    rwa [(EnumOr.normal_ofNat _).2, (EnumOr.normal_ofNat _).2] at hvalue
  cases causeSize with
  | ONE =>
    obtain ⟨c, rfl⟩ := List.length_eq_one_iff.mp hlen
    obtain ⟨c', rfl⟩ := List.length_eq_one_iff.mp hlen'
    have hone : ∀ c : UInt8, intFromBytes [c] = c.toNat := by simp [intFromBytes]
    rw [hone, hone] at hnumber hneg htest
    rw [byte_eq_of_fields hnumber hneg htest]
  | TWO =>
    obtain ⟨c, o, rfl⟩ := List.length_eq_two.mp hlen
    obtain ⟨c', o', rfl⟩ := List.length_eq_two.mp hlen'
    have htwo : ∀ c o : UInt8, intFromBytes [c, o] = c.toNat + 256 * o.toNat := by
      simp [intFromBytes]
    have hlow : ∀ {mask : ℕ}, mask < 256 → ∀ c o : UInt8,
        (c.toNat + 256 * o.toNat) &&& mask = c.toNat &&& mask := by
      intro mask hmask c o
      rw [and_mod_byte hmask, Nat.add_mul_mod_self_left, ← and_mod_byte hmask]
    have hhigh : ∀ c o : UInt8, (c.toNat + 256 * o.toNat) >>> 8 = o.toNat := by
      intro c o
      have hc := c.toNat_lt
      rw [Nat.shiftRight_eq_div_pow]
      omega
    simp only [htwo, bit, hlow (show 0x3F < 256 by omega), hlow (show 0x40 < 256 by omega),
      hlow (show 0x80 < 256 by omega), hhigh] at hnumber hneg htest horiginator
    rw [byte_eq_of_fields hnumber hneg htest, UInt8.toNat_inj.mp horiginator]

theorem byteAt_zero_eq_ok {bs : Bytes} {n : ℕ} (h : byteAt bs 0 = .ok n) :
    ∃ b tail, bs = b :: tail ∧ b.toNat = n := by
  cases bs with
  | nil => cases h
  | cons b tail => exact ⟨b, tail, rfl, Except.ok.inj h⟩

/-- The number of objects is the first byte of the qualifier. -/
theorem decodeIoCount_eq_ok {asduType : AsduType} {bs rest : Bytes} {n : ℕ}
    (h : decodeIoCount asduType bs = .ok (n, rest)) : ∃ b, bs = b :: rest ∧ b.toNat = n := by
  obtain ⟨q, hq, h⟩ := bind_eq_ok.mp h
  obtain ⟨b, tail, rfl, rfl⟩ := byteAt_zero_eq_ok hq
  by_cases hbit : bit b.toNat 0x80
  · simp [hbit] at h
  · by_cases hone : asduType ≠ .S_IT_TC ∧ b.toNat ≠ 1
    · simp [hbit, hone] at h
    · rw [if_neg hone] at h
      obtain ⟨rfl, rfl⟩ : b.toNat = n ∧ tail = rest := by simpa [hbit] using h
      exact ⟨b, rfl, rfl⟩

/-- What is known of the bytes a segment is parsed from. -/
theorem eq_of_parseSegment {bs : Bytes} {s : Segment} (h : parseSegment encoder bs = some s) :
    ∃ (cs as : Bytes) (q : UInt8), cs.length = encoder.causeSize.value ∧
      as.length = encoder.asduAddressSize.value ∧
      bs = UInt8.ofNat s.asduType.value :: 1 :: (cs ++ (as ++ (q :: s.rest))) ∧
      (decodeCause (cs ++ (as ++ (q :: s.rest))) encoder.causeSize).1 = s.cause ∧
      ofLE as = s.asduAddress ∧ bit q.toNat 0x40 = s.first ∧ bit q.toNat 0x80 = s.last ∧
      q.toNat &&& 0x3F = s.segment := by
  obtain ⟨hvalue, _, rest, hheader, hread⟩ := parseSegment_eq_some h
  obtain ⟨asduType, cause, address, first, last, segment, data⟩ := s
  obtain ⟨⟨n, rest'⟩, hcount, hheader⟩ := bind_eq_ok.mp hheader
  obtain ⟨q, hq, hread⟩ := bind_eq_ok.mp hread
  simp only [pure_eq_ok, Except.ok.injEq, Prod.mk.injEq] at hheader
  simp only [pure_eq_ok, Except.ok.injEq, Segment.mk.injEq, true_and] at hread
  obtain ⟨⟨rfl, hcause, haddress⟩, hrest⟩ := hheader
  obtain ⟨hfirst, hlast, hnumber, hdata⟩ := hread
  obtain ⟨b, tail, rfl, hb⟩ := byteAt_zero_eq_ok hvalue
  obtain ⟨c, htail, hc⟩ := decodeIoCount_eq_ok hcount
  obtain ⟨q, data', hq', rfl⟩ := byteAt_zero_eq_ok hq
  rw [hq', List.drop_succ_cons, List.drop_zero] at hdata
  subst hdata
  rw [hq'] at hrest
  -- the qualifier is there, so cause and address are complete
  have hlen : encoder.causeSize.value + encoder.asduAddressSize.value < rest'.length := by
    have hpos : 0 < (q :: data').length := by simp
    rw [← hrest] at hpos
    simp only [decodeCause, decodeInt, List.length_drop] at hpos
    omega
  have hsplit : rest' = rest'.take encoder.causeSize.value ++
      ((rest'.drop encoder.causeSize.value).take encoder.asduAddressSize.value ++
        (q :: data')) := by
    conv_lhs => rw [← List.take_append_drop encoder.causeSize.value rest']
    congr 1
    conv_lhs => rw [← List.take_append_drop encoder.asduAddressSize.value
      (rest'.drop encoder.causeSize.value)]
    congr 1
  refine ⟨rest'.take encoder.causeSize.value,
    (rest'.drop encoder.causeSize.value).take encoder.asduAddressSize.value, q, ?_, ?_, ?_, ?_, ?_,
    hfirst, hlast, hnumber⟩
  · rw [List.length_take]
    omega
  · rw [List.length_take, List.length_drop]
    omega
  · rw [← hsplit]
    have hone : c = 1 := UInt8.toNat_inj.mp hc
    have hzero : b = UInt8.ofNat asduType.value := by rw [← hb]; simp
    rw [List.drop_succ_cons, List.drop_zero] at htail
    rw [htail, hone, hzero]
  · rw [← hsplit]
    exact hcause
  · exact haddress

/-- **Two inputs with the same segment are the same bytes.** -/
theorem parseSegment_injective {bs bs' : Bytes} {s : Segment} (h : parseSegment encoder bs = some s)
    (h' : parseSegment encoder bs' = some s) : bs = bs' := by
  obtain ⟨cs, as, q, hcs, has, rfl, hcause, haddress, hfirst, hlast, hnumber⟩ :=
    eq_of_parseSegment h
  obtain ⟨cs', as', q', hcs', has', rfl, hcause', haddress', hfirst', hlast', hnumber'⟩ :=
    eq_of_parseSegment h'
  obtain rfl : cs = cs' := decodeCause_injective hcs hcs' (hcause.trans hcause'.symm)
  obtain rfl : as = as' :=
    ofLE_injective (has.trans has'.symm) (haddress.trans haddress'.symm)
  obtain rfl : q = q' := byte_eq_of_fields (hnumber.trans hnumber'.symm)
    (hfirst.trans hfirst'.symm) (hlast.trans hlast'.symm)
  rfl

/-! ### The buffer after an input -/

/-- An ASDU of the encoder inside leaves no buffer. -/
theorem buffer_of_ofValue?_eq_none {bs : Bytes} {value : ℕ} (hvalue : byteAt bs 0 = .ok value)
    (htype : (Enumeration.ofValue? value : Option AsduType) = none) (buffer : Option Buffer) :
    (decodeAsdu encoder bs buffer).2 = none := by
  simp only [decodeAsdu, hvalue, htype]

/-- An ASDU of the extension leaves the buffer its objects leave. -/
theorem buffer_of_decodeHeader {bs rest : Bytes} {asduType : AsduType} {ioCount address : ℕ}
    {cause : Cause} (hvalue : byteAt bs 0 = .ok asduType.value)
    (hheader : decodeHeader encoder asduType bs = .ok ((ioCount, cause, address), rest))
    (buffer : Option Buffer) : (decodeAsdu encoder bs buffer).2 =
      (decodeIos encoder asduType cause address ioCount rest buffer).2 := by
  have htype : (Enumeration.ofValue? asduType.value : Option AsduType) = some asduType :=
    Enumeration.ofValue?_value asduType
  simp only [decodeAsdu, hvalue, htype, decodeSecurityAsdu, hheader]
  cases decodeIos encoder asduType cause address ioCount rest buffer with
  | mk result buffer =>
    cases result with
    | error e => rfl
    | ok p =>
      simp only
      split <;> rfl

/-- The objects of an unsegmented ASDU leave no buffer, if there is one. -/
theorem buffer_of_unsegmented {asduType : AsduType} (htype : asduType ∈ unsegmentedAsduTypes)
    (cause : Cause) (address n : ℕ) (bs : Bytes) (buffer : Option Buffer) :
    (decodeIos encoder asduType cause address n bs buffer).2 = if n = 0 then buffer else none := by
  induction n generalizing bs buffer with
  | zero => rfl
  | succ n ih =>
    rw [decodeIos, decodeIo, if_pos htype]
    cases mapRead some (decodeUnsegmentedIo encoder asduType) bs with
    | error e => rfl
    | ok p =>
      obtain ⟨io, rest⟩ := p
      have htail := ih rest none
      rw [ite_self] at htail
      simp only
      cases hios : decodeIos encoder asduType cause address n rest none with
      | mk result buffer =>
        rw [hios] at htail
        cases result <;> exact htail

/-- A segmented ASDU without a segment has no qualifier. -/
theorem readSegment_of_parseSegment_eq_none {bs rest : Bytes} {asduType : AsduType}
    {n address : ℕ} {cause : Cause} (h : parseSegment encoder bs = none)
    (hvalue : byteAt bs 0 = .ok asduType.value) (hseg : asduType ∉ unsegmentedAsduTypes)
    (hheader : decodeHeader encoder asduType bs = .ok ((n, cause, address), rest)) :
    ∃ e, readSegment asduType cause address rest = .error e := by
  have htype : (Enumeration.ofValue? asduType.value : Option AsduType) = some asduType :=
    Enumeration.ofValue?_value asduType
  cases hread : readSegment asduType cause address rest with
  | error e => exact ⟨e, rfl⟩
  | ok s =>
    simp only [parseSegment, hvalue, htype, if_neg hseg, hheader, hread] at h
    cases h

/-- An input without a segment leaves no buffer, or the one there was. -/
theorem buffer_of_parseSegment_eq_none {bs : Bytes} (h : parseSegment encoder bs = none)
    (buffer : Option Buffer) :
    (decodeAsdu encoder bs buffer).2 = none ∨ (decodeAsdu encoder bs buffer).2 = buffer := by
  cases hvalue : byteAt bs 0 with
  | error e => exact .inr (by simp only [decodeAsdu, hvalue])
  | ok value =>
    cases htype : (Enumeration.ofValue? value : Option AsduType) with
    | none => exact .inl (buffer_of_ofValue?_eq_none hvalue htype buffer)
    | some asduType =>
      obtain rfl := Enumeration.value_of_ofValue? htype
      cases hheader : decodeHeader encoder asduType bs with
      | error e =>
        exact .inr (by simp only [decodeAsdu, hvalue, htype, decodeSecurityAsdu, hheader])
      | ok p =>
        obtain ⟨⟨ioCount, cause, address⟩, rest⟩ := p
        rw [buffer_of_decodeHeader hvalue hheader]
        by_cases hseg : asduType ∈ unsegmentedAsduTypes
        · rw [buffer_of_unsegmented hseg]
          split
          · exact .inr rfl
          · exact .inl rfl
        · have hne : asduType ≠ .S_IT_TC := by
            rintro rfl
            exact hseg (by decide)
          obtain rfl := ioCount_of_decodeHeader hne hheader
          obtain ⟨e, hread⟩ := readSegment_of_parseSegment_eq_none h hvalue hseg hheader
          exact .inr (by simp only [decodeIos, decodeIo, if_neg hseg, decodeSegmentedIo, hread])

/-- A regular input without a segment leaves no buffer. -/
theorem Regular.buffer_eq_none {bs : Bytes} {buffer : Option Buffer}
    (hreg : Regular encoder buffer bs) (h : parseSegment encoder bs = none) :
    (decodeAsdu encoder bs buffer).2 = none := by
  cases buffer with
  | none =>
    rcases buffer_of_parseSegment_eq_none h none with hnone | hsame
    · exact hnone
    · exact hsame
  | some b =>
    rcases hreg b rfl with ⟨value, hvalue, htype⟩ |
      ⟨asduType, hvalue, hseg, ioCount, cause, address, rest, hheader, hcount⟩ | ⟨s, hs, _⟩
    · exact buffer_of_ofValue?_eq_none hvalue htype _
    · rw [buffer_of_decodeHeader hvalue hheader, buffer_of_unsegmented hseg, if_neg hcount]
    · rw [h] at hs
      cases hs

/-- What becomes of a segment: it is the first of a new message, the next one of the
message in the buffer, a repeat, or the buffer is discarded. -/
theorem takeSegment_cases (buffer : Option Buffer) (s : Segment) :
    (s.first = true ∧ takeSegment buffer s = .ok s.buffer) ∨
      (∃ b, buffer = some b ∧ s.first = false ∧ b.Awaits s ∧
        takeSegment buffer s = .ok (b.append s)) ∨
      (∃ b, buffer = some b ∧ b.Repeated s ∧ takeSegment buffer s = .error (some b)) ∨
      takeSegment buffer s = .error none := by
  cases hfirst : s.first with
  | true => exact .inl ⟨rfl, takeSegment_of_first hfirst buffer⟩
  | false =>
    cases buffer with
    | none => exact .inr (.inr (.inr (by simp [takeSegment, hfirst])))
    | some b =>
      by_cases hsame : b.asduType = s.asduType ∧ b.cause = s.cause ∧ b.asduAddress = s.asduAddress
      · obtain ⟨htype, hcause, haddress⟩ := hsame
        by_cases hnext : (b.prevSegment + 1) % 64 = s.segment
        · have hawaits : b.Awaits s := ⟨htype, hcause, haddress, hnext⟩
          exact .inr (.inl ⟨b, rfl, rfl, hawaits, takeSegment_of_awaits hfirst hawaits⟩)
        · by_cases hrepeat : b.prevFirst = s.first ∧ b.prevSegment = s.segment ∧
              b.prevIoBytes = s.rest
          · obtain ⟨hf, hn, hr⟩ := hrepeat
            have htake : takeSegment (some b) s = .error (some b) := by
              rw [hn] at hnext
              simp [takeSegment, hfirst, htype, hcause, haddress, hnext, hf, hn, hr]
            exact .inr (.inr (.inl ⟨b, rfl, ⟨hfirst, htype, hcause, haddress, hf, hn, hr⟩, htake⟩))
          · have htake : takeSegment (some b) s = .error none := by
              rw [hfirst] at hrepeat
              simp [takeSegment, hfirst, htype, hcause, haddress, hnext, hrepeat]
            exact .inr (.inr (.inr htake))
      · have htake : takeSegment (some b) s = .error none := by
          simp only [takeSegment, hfirst]
          by_cases htype : b.asduType = s.asduType
          · by_cases hcause : b.cause = s.cause
            · have haddress : b.asduAddress ≠ s.asduAddress := fun h => hsame ⟨htype, hcause, h⟩
              simp [htype, hcause, haddress]
            · simp [htype, hcause]
          · simp [htype]
        exact .inr (.inr (.inr htake))

/-- A segment that the buffer takes for a repeat is one, but for the last bit. -/
theorem Regular.last_eq_false {bs : Bytes} {b : Buffer} {s : Segment}
    (hreg : Regular encoder (some b) bs) (hs : parseSegment encoder bs = some s)
    (h : b.Repeated s) : s.last = false := by
  obtain ⟨hvalue', hseg', _⟩ := parseSegment_eq_some hs
  rcases hreg b rfl with ⟨value, hvalue, htype⟩ | ⟨asduType, hvalue, hseg, _⟩ | ⟨s', hs', hne⟩
  · obtain rfl := Except.ok.inj (hvalue'.symm.trans hvalue)
    have hsome : Enumeration.ofValue? s.asduType.value = some s.asduType :=
      Enumeration.ofValue?_value s.asduType
    rw [hsome] at htype
    cases htype
  · have hvalues : s.asduType.value = asduType.value :=
      Except.ok.inj (hvalue'.symm.trans hvalue)
    have hsame : s.asduType = asduType := Enumeration.value_injective hvalues
    rw [hsame] at hseg'
    exact absurd hseg hseg'
  · obtain rfl := Option.some.inj (hs.symm.trans hs')
    by_contra hlast
    exact hne ⟨h, by simpa using hlast⟩

/-! ### Runs -/

/-- **Step.**  A regular input keeps the buffer a part of a message that ends the inputs. -/
theorem Holding.step {inputs : List Bytes} {buffer : Option Buffer} {bs : Bytes}
    (h : Holding encoder inputs buffer) (hreg : Regular encoder buffer bs) :
    Holding encoder (inputs ++ [bs]) (decodeAsdu encoder bs buffer).2 := by
  intro b' hb'
  cases hs : parseSegment encoder bs with
  | none =>
    rw [hreg.buffer_eq_none hs] at hb'
    cases hb'
  | some s =>
    rw [decodeAsdu_of_parseSegment hs, receiveSegment] at hb'
    rcases takeSegment_cases buffer s with ⟨hfirst, htake⟩ | ⟨b, rfl, hfirst, hawaits, htake⟩ |
      ⟨b, rfl, hrepeated, htake⟩ | htake
    · -- the input starts a message
      rw [htake] at hb'
      cases hlast : s.last with
      | true => simp [hlast] at hb'
      | false =>
        obtain rfl : s.buffer = b' := by simpa [hlast] using hb'
        exact ⟨inputs, [bs], bs, s, rfl, .first hs hfirst, hs, hlast, rfl, rfl, rfl, rfl, rfl, rfl⟩
    · -- the input continues the message
      rw [htake] at hb'
      cases hlast : s.last with
      | true => simp [hlast] at hb'
      | false =>
        obtain rfl : b.append s = b' := by simpa [hlast] using hb'
        obtain ⟨before, message, bs₀, s₀, rfl, htaken, hs₀, hlast₀, hfollows⟩ := h b rfl
        have hnumber : (s₀.segment + 1) % 64 = s.segment := by
          rw [← hfollows.segment]
          exact hawaits.segment
        have hnext := Taken.next htaken hs₀ hlast₀ hs hfirst
          (hfollows.asduType.symm.trans hawaits.asduType)
          (hfollows.cause.symm.trans hawaits.cause)
          (hfollows.asduAddress.symm.trans hawaits.asduAddress) hnumber
        exact ⟨before, message ++ [bs], bs, s, List.append_assoc .., hnext, hs, hlast,
          hawaits.asduType, hawaits.cause, hawaits.asduAddress, rfl, rfl, rfl⟩
    · -- the input repeats the segment before it, also in its last bit
      rw [htake] at hb'
      obtain rfl : b = b' := by simpa using hb'
      obtain ⟨before, message, bs₀, s₀, rfl, htaken, hs₀, hlast₀, hfollows⟩ := h b rfl
      have hlast := hreg.last_eq_false hs hrepeated
      obtain ⟨_, hrepeats⟩ := hrepeated
      have hsame : s₀ = s := by
        obtain ⟨type, cause, address, first, last, segment, rest⟩ := s
        obtain ⟨type₀, cause₀, address₀, first₀, last₀, segment₀, rest₀⟩ := s₀
        obtain ⟨rfl, rfl, rfl, rfl, rfl, rfl⟩ := hfollows
        obtain ⟨rfl, rfl, rfl, rfl, rfl, rfl⟩ := hrepeats
        rw [Segment.mk.injEq]
        exact ⟨rfl, rfl, rfl, rfl, hlast₀.trans hlast.symm, rfl, rfl⟩
      rw [← hsame] at hs
      obtain rfl := parseSegment_injective hs₀ hs
      exact ⟨before, message ++ [bs₀], bs₀, s₀, List.append_assoc .., .again htaken hs₀ hlast₀, hs₀,
        hlast₀, hfollows⟩
    · rw [htake] at hb'
      cases hb'

/-- The inputs given to a decoder, and its buffer after them. -/
structure Session where
  inputs : List Bytes
  buffer : Option Buffer

/-- A decoder that was given nothing. -/
def Session.start : Session := ⟨[], none⟩

/-- The session after one more input. -/
def Session.receive (encoder : InnerEncoder) (session : Session) (asduBytes : Bytes) :
    Option Session :=
  some ⟨session.inputs ++ [asduBytes], (decodeAsdu encoder asduBytes session.buffer).2⟩

/-- A session keeps all its inputs. -/
theorem inputs_of_run {inputs : List Bytes} {start session : Session}
    (hrun : run (Session.receive encoder) start inputs = some session) :
    session.inputs = start.inputs ++ inputs := by
  induction inputs generalizing start with
  | nil =>
    obtain rfl := Option.some.inj hrun
    rw [List.append_nil]
  | cons bs inputs ih =>
    obtain ⟨next, hnext, hrun⟩ := run_cons_eq_some.mp hrun
    obtain rfl := Option.some.inj hnext
    rw [ih hrun, List.append_assoc, List.singleton_append]

/-- **Run.**  After regular inputs the buffer is a part of a message that ends them. -/
theorem holding_of_run {inputs : List Bytes} {session : Session}
    (hreg : Along (Session.receive encoder) (fun s bs => Regular encoder s.buffer bs)
      Session.start inputs)
    (hrun : run (Session.receive encoder) Session.start inputs = some session) :
    Holding encoder session.inputs session.buffer := by
  refine run_invariant (fun s : Session => Holding encoder s.inputs s.buffer) ?_ ?_ hreg hrun
  · intro s bs s' hs hreg hstep
    obtain rfl := Option.some.inj hstep
    exact hs.step hreg
  · intro b hb
    cases hb

/-- An input without a segment returns nothing of a segmented type. -/
theorem type_of_parseSegment_eq_none {bs rest : Bytes} {buffer : Option Buffer} {asdu : ASDU}
    (h : parseSegment encoder bs = none)
    (hret : (decodeAsdu encoder bs buffer).1 = .ok (some (.inl asdu), rest)) :
    asdu.type ∈ unsegmentedAsduTypes := by
  cases hvalue : byteAt bs 0 with
  | error e => simp [decodeAsdu, hvalue] at hret
  | ok value =>
    cases htype : (Enumeration.ofValue? value : Option AsduType) with
    | none =>
      simp only [decodeAsdu, hvalue, htype] at hret
      obtain ⟨p, _, hret⟩ := bind_eq_ok.mp hret
      cases hret
    | some asduType =>
      by_cases hseg : asduType ∈ unsegmentedAsduTypes
      · -- what is returned has the type of the input
        simp only [decodeAsdu, hvalue, htype] at hret
        obtain ⟨⟨decoded, rest'⟩, hdecoded, hret⟩ := bind_eq_ok.mp hret
        obtain ⟨asdu', rfl, rfl⟩ : ∃ asdu', decoded = some asdu' ∧ asdu' = asdu := by
          cases decoded <;> simp at hret
          exact ⟨_, rfl, hret.1⟩
        unfold decodeSecurityAsdu at hdecoded
        split at hdecoded
        · cases hdecoded
        · split at hdecoded
          · cases hdecoded
          · split at hdecoded
            · cases hdecoded
            · obtain ⟨rfl, _⟩ : _ ∧ _ := by simpa using hdecoded
              exact hseg
      · obtain rfl := Enumeration.value_of_ofValue? htype
        cases hheader : decodeHeader encoder asduType bs with
        | error e =>
          simp only [decodeAsdu, hvalue, htype, decodeSecurityAsdu, hheader] at hret
          cases hret
        | ok p =>
          obtain ⟨⟨ioCount, cause, address⟩, rest'⟩ := p
          have hne : asduType ≠ .S_IT_TC := by
            rintro rfl
            exact hseg (by decide)
          obtain rfl := ioCount_of_decodeHeader hne hheader
          obtain ⟨e, hread⟩ := readSegment_of_parseSegment_eq_none h hvalue hseg hheader
          simp only [decodeAsdu, hvalue, htype, decodeSecurityAsdu, hheader, decodeIos, decodeIo,
            if_neg hseg, decodeSegmentedIo, hread] at hret
          cases hret

/-- A message that is returned is the one in the buffer, completed by the input. -/
theorem Holding.returned {inputs : List Bytes} {buffer : Option Buffer}
    (h : Holding encoder inputs buffer) {bs rest : Bytes} {asdu : ASDU}
    (hret : (decodeAsdu encoder bs buffer).1 = .ok (some (.inl asdu), rest))
    (htype : asdu.type ∉ unsegmentedAsduTypes) :
    ∃ before message data s element, inputs ++ [bs] = before ++ message ∧
      Taken encoder message bs data ∧ parseSegment encoder bs = some s ∧ s.last = true ∧
      decodeIoElement encoder s.asduType data = .ok (element, rest) ∧
      asdu = { type := s.asduType, cause := s.cause, address := s.asduAddress,
               ios := [{ address := none, element, time := none }] } := by
  cases hs : parseSegment encoder bs with
  | none => exact absurd (type_of_parseSegment_eq_none hs hret) htype
  | some s =>
    rw [decodeAsdu_of_parseSegment hs, receiveSegment] at hret
    have hmessage : ∀ data,
        messageOf encoder s.asduType s.cause s.asduAddress data = .ok (some (.inl asdu), rest) →
        ∃ element, decodeIoElement encoder s.asduType data = .ok (element, rest) ∧
          asdu = { type := s.asduType, cause := s.cause, address := s.asduAddress,
                   ios := [{ address := none, element, time := none }] } := by
      intro data hdata
      obtain ⟨⟨element, rest'⟩, helement, hdata⟩ := bind_eq_ok.mp hdata
      cases hdata
      exact ⟨element, helement, rfl⟩
    rcases takeSegment_cases buffer s with ⟨hfirst, htake⟩ | ⟨b, rfl, hfirst, hawaits, htake⟩ |
      ⟨b, rfl, _, htake⟩ | htake
    · rw [htake] at hret
      cases hlast : s.last with
      | false => simp [hlast] at hret
      | true =>
        simp only [hlast, if_true] at hret
        obtain ⟨element, helement, rfl⟩ := hmessage _ hret
        exact ⟨inputs, [bs], s.rest, s, element, rfl, .first hs hfirst, rfl, hlast, helement, rfl⟩
    · rw [htake] at hret
      cases hlast : s.last with
      | false => simp [hlast] at hret
      | true =>
        simp only [hlast, if_true] at hret
        obtain ⟨element, helement, rfl⟩ := hmessage _ hret
        obtain ⟨before, message, bs₀, s₀, rfl, htaken, hs₀, hlast₀, hfollows⟩ := h b rfl
        have hnumber : (s₀.segment + 1) % 64 = s.segment := by
          rw [← hfollows.segment]
          exact hawaits.segment
        have hnext := Taken.next htaken hs₀ hlast₀ hs hfirst
          (hfollows.asduType.symm.trans hawaits.asduType)
          (hfollows.cause.symm.trans hawaits.cause)
          (hfollows.asduAddress.symm.trans hawaits.asduAddress) hnumber
        exact ⟨before, message ++ [bs], b.allIoBytes ++ s.rest, s, element, List.append_assoc ..,
          hnext, rfl, hlast, helement, rfl⟩
    · rw [htake] at hret
      simp at hret
    · rw [htake] at hret
      simp at hret

/-- **Reassembly.**  If no input is passed over, a segmented element that is returned
is decoded from a first segment and the segments that follow it up to a last one, all
of one message, and nothing but repeats of them was given to the decoder in between. -/
theorem returned_of_regular (encoder : InnerEncoder) (inputs : List Bytes) (session : Session)
    (hreg : Along (Session.receive encoder) (fun s bs => Regular encoder s.buffer bs)
      Session.start inputs)
    (hrun : run (Session.receive encoder) Session.start inputs = some session)
    (asduBytes rest : Bytes) (asdu : ASDU) (htype : asdu.type ∉ unsegmentedAsduTypes)
    (hret : (decodeAsdu encoder asduBytes session.buffer).1 = .ok (some (.inl asdu), rest)) :
    ∃ before message data s element, inputs ++ [asduBytes] = before ++ message ∧
      Taken encoder message asduBytes data ∧ parseSegment encoder asduBytes = some s ∧
      s.last = true ∧ decodeIoElement encoder s.asduType data = .ok (element, rest) ∧
      asdu = { type := s.asduType, cause := s.cause, address := s.asduAddress,
               ios := [{ address := none, element, time := none }] } := by
  have hinputs : session.inputs = inputs := inputs_of_run hrun
  rw [← hinputs]
  exact (holding_of_run hreg hrun).returned hret htype

/-- The first of two segments of a certificate's MAC. -/
def firstSegment : Bytes := [95, 1, 14, 0, 1, 0, 0x40, 0xAA]

/-- The last of two segments of a certificate's MAC. -/
def lastSegment : Bytes := [95, 1, 14, 0, 1, 0, 0x81, 0xBB]

/-- The cause and the MAC of the two segments. -/
def certification : ASDU where
  type := .S_UC_NA
  cause := { type := .enum .AUTHENTICATION, isNegativeConfirm := false, isTest := false,
             originatorAddress := 0 }
  address := 1
  ios := [{ address := none, element := .S_UC_NA [0xAA, 0xBB], time := none }]

theorem returned_of_regular_certification :
    ∃ before message data s element, [firstSegment] ++ [lastSegment] = before ++ message ∧
      Taken .iec104 message lastSegment data ∧ parseSegment .iec104 lastSegment = some s ∧
      s.last = true ∧ decodeIoElement .iec104 s.asduType data = .ok (element, []) ∧
      certification = { type := s.asduType, cause := s.cause, address := s.asduAddress,
                        ios := [{ address := none, element, time := none }] } :=
  returned_of_regular .iec104 [firstSegment]
    ⟨[firstSegment], (decodeAsdu .iec104 firstSegment none).2⟩
    ⟨fun _ hb => (nomatch hb), fun _ _ => trivial⟩ rfl lastSegment [] certification (by decide) rfl

/-! ### An input that is passed over -/

/-- Every input of a message has a segment. -/
theorem Taken.parseSegment_of_mem {inputs : List Bytes} {bs data : Bytes}
    (h : Taken encoder inputs bs data) : ∀ x ∈ inputs, (parseSegment encoder x).isSome := by
  induction h with
  | first hs _ => simp [hs]
  | again _ hs _ ih =>
    intro x hx
    rcases List.mem_append.mp hx with hx | hx
    · exact ih x hx
    · rw [List.mem_singleton.mp hx, hs]
      rfl
  | next _ _ _ hs' _ _ _ _ _ ih =>
    intro x hx
    rcases List.mem_append.mp hx with hx | hx
    · exact ih x hx
    · rw [List.mem_singleton.mp hx, hs']
      rfl

/-- A message begins with a first segment. -/
theorem Taken.exists_first {inputs : List Bytes} {bs data : Bytes}
    (h : Taken encoder inputs bs data) :
    ∃ x tail s, inputs = x :: tail ∧ parseSegment encoder x = some s ∧ s.first = true := by
  induction h with
  | first hs hfirst => exact ⟨_, [], _, rfl, hs, hfirst⟩
  | again _ _ _ ih =>
    obtain ⟨x, tail, s, rfl, hs, hfirst⟩ := ih
    exact ⟨x, _, s, rfl, hs, hfirst⟩
  | next _ _ _ _ _ _ _ _ _ ih =>
    obtain ⟨x, tail, s, rfl, hs, hfirst⟩ := ih
    exact ⟨x, _, s, rfl, hs, hfirst⟩

/-- An ASDU of S_IT_TC without objects. -/
def emptyStatistics : Bytes := [41, 0, 14, 0, 1, 0]

/-- An unsegmented ASDU between two segments does not stop them from being put together. -/
theorem emptyStatistics_passed_over :
    (decodeAsdu .iec104 lastSegment
        (decodeAll .iec104 [firstSegment, emptyStatistics] none).2).1 =
      .ok (some (.inl certification), []) ∧
    ¬ ∃ before message data, [firstSegment, emptyStatistics] ++ [lastSegment] = before ++ message ∧
      Taken .iec104 message lastSegment data := by
  refine ⟨rfl, ?_⟩
  rintro ⟨before, message, data, hinputs, htaken⟩
  have hnone : parseSegment .iec104 emptyStatistics = none := rfl
  obtain ⟨x, tail, s, rfl, hs, hfirst⟩ := htaken.exists_first
  match before with
  | [] =>
    -- the message would have the ASDU in it
    have hmem : emptyStatistics ∈ x :: tail := by
      rw [List.nil_append] at hinputs
      rw [← hinputs]
      simp
    have hsome := htaken.parseSegment_of_mem _ hmem
    rw [hnone] at hsome
    cases hsome
  | [_] =>
    have hx : emptyStatistics = x := (List.cons.inj (List.cons.inj hinputs).2).1
    rw [← hx, hnone] at hs
    cases hs
  | [_, _] =>
    -- the message would begin with the last segment
    have hx : lastSegment = x :=
      (List.cons.inj (List.cons.inj (List.cons.inj hinputs).2).2).1
    obtain rfl : ⟨.S_UC_NA, certification.cause, 1, false, true, 1, [0xBB]⟩ = s := by
      rw [← hx] at hs
      exact Option.some.inj hs
    cases hfirst
  | _ :: _ :: _ :: before =>
    have hlen := congrArg List.length hinputs
    simp at hlen

end HatDrivers.Iec60870.Encodings.Security
