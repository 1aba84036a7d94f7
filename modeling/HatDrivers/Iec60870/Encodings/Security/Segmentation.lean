import HatDrivers.Iec60870.Encodings.Security.Elements

namespace HatDrivers.Iec60870.Encodings.Security

open HatDrivers.Lib

/-!
# IEC 60870-5-7 — segmentation round trip

The bytes of an element are cut into segments that are put together again, also when
segments are repeated (`decodeAll_message`).  The induction is on the segments that
are left, and the buffer holds the bytes of those already taken.
-/

variable {encoder : InnerEncoder}

/-! ### Ranges -/

/-- The documented ranges of a cause. -/
structure Cause.InRange (cause : Cause) (causeSize : CauseSize) : Prop where
  type_le : cause.type.toNat ≤ 63
  originatorAddress_le : cause.originatorAddress ≤ 255
  originatorAddress_eq : causeSize = .ONE → cause.originatorAddress = 0

/-- An object of S_IT_TC: the one type with addresses and times. -/
structure Io.Timed (encoder : InnerEncoder) (io : Io) : Prop where
  address : ∃ address, io.address = some address ∧ address < 256 ^ encoder.ioAddressSize.value
  time : ∃ time, io.time = some time ∧ time.size = .SEVEN ∧ time.Valid
  type : io.element.asduType = .S_IT_TC
  element : io.element.InRange encoder

/-- The documented ranges of an ASDU, with the objects its type has: at most 127 of
S_IT_TC, and exactly one of any other type. -/
structure ASDU.InRange (encoder : InnerEncoder) (asdu : ASDU) : Prop where
  cause : asdu.cause.InRange encoder.causeSize
  address_lt : asdu.address < 256 ^ encoder.asduAddressSize.value
  ios : asdu.type = .S_IT_TC ∧ asdu.ios.length ≤ 127 ∧ (∀ io ∈ asdu.ios, io.Timed encoder) ∨
    asdu.type ≠ .S_IT_TC ∧ ∃ element : IoElement,
      asdu.ios = [{ address := none, element, time := none }] ∧ element.asduType = asdu.type ∧
        element.InRange encoder

/-- In range, and no integer stands for a named value. -/
structure ASDU.WellFormed (encoder : InnerEncoder) (asdu : ASDU) : Prop
    extends asdu.InRange encoder where
  cause_normal : asdu.cause.type.Normal
  element_normal : ∀ io ∈ asdu.ios, io.element.Normal

/-! ### Header -/

/-- A cause is written, and read back. -/
theorem encodeCause_codes {cause : Cause} {causeSize : CauseSize} (h : cause.InRange causeSize)
    (hn : cause.type.Normal) :
    Codes (encodeCause cause causeSize) (fun bs => .ok (decodeCause bs causeSize)) cause := by
  obtain ⟨type, isNegativeConfirm, isTest, originatorAddress⟩ := cause
  obtain ⟨htype, horiginator, hone⟩ := h
  -- an integer is written as the cause of 101 with its value
  obtain ⟨hnormal, hvalue⟩ := EnumOr.normal_ofNat (E := Iec101.CauseType) type.toNat
  let inner : Iec101.Cause := ⟨EnumOr.ofNat type.toNat, isNegativeConfirm, isTest,
    originatorAddress⟩
  have hrange : inner.InRange causeSize :=
    ⟨by rw [show inner.type.toNat = type.toNat from hvalue]; exact htype, horiginator, hone⟩
  have hsame : ∀ type', type'.toNat = type.toNat →
      Iec101.encodeCause ⟨type', isNegativeConfirm, isTest, originatorAddress⟩ causeSize =
        Iec101.encodeCause inner causeSize := by
    intro type' htype'
    simp only [Iec101.encodeCause, Iec101.encodeCauseType, htype', inner, hvalue]
  have hlt := Iec101.encodeCause_lt hrange
  have hdecode := Iec101.decodeCause_encodeCause ⟨hrange, hnormal⟩
  refine ⟨leDigits causeSize.value (Iec101.encodeCause inner causeSize), ?_, by simp, ?_⟩
  · rw [encodeCause, hsame _ rfl, intToBytes_of_lt hlt]
  · intro rest
    simp only [decodeCause, decodeInt_leDigits hlt, hdecode, inner, hvalue,
      EnumOr.ofNat_toNat hn]

/-- The number of objects is read back: one, but for S_IT_TC. -/
theorem decodeIoCount_of_lt {asduType : AsduType} {n : ℕ} (h : n < 128)
    (hone : asduType ≠ .S_IT_TC → n = 1) (rest : Bytes) :
    decodeIoCount asduType (bytesOf [n] ++ rest) = .ok (n, rest) := by
  have hbit : ∀ n < 128, bit n 0x80 = false := by decide
  have hguard : ¬ (asduType ≠ .S_IT_TC ∧ n ≠ 1) := fun hne => hne.2 (hone hne.1)
  have hqualifier : byteAt (bytesOf [n] ++ rest) 0 = .ok n := byteAt_bytesOf_zero (by omega) [] rest
  rw [decodeIoCount, hqualifier, ok_bind, hbit n h, if_neg hguard]
  simp

/-- The identifier of an ASDU in range is written; the header is read back from it. -/
theorem encodeIdentifier_spec {asdu : ASDU} (h : asdu.WellFormed encoder) :
    ∃ ns, encodeIdentifier encoder asdu = .ok ns ∧ AllBytes ns ∧
      ns.length = encoder.headerSize ∧
      ∀ rest, byteAt (bytesOf ns ++ rest) 0 = .ok asdu.type.value ∧
        decodeHeader encoder asdu.type (bytesOf ns ++ rest) =
          .ok ((asdu.ios.length, asdu.cause, asdu.address), rest) := by
  obtain ⟨cs, hcs, hcb, hcause⟩ := encodeCause_codes h.cause h.cause_normal
  have htype : asdu.type.value < 256 := by cases asdu.type <;> decide
  have hcount : asdu.ios.length < 128 ∧ (asdu.type ≠ .S_IT_TC → asdu.ios.length = 1) := by
    rcases h.ios with ⟨htype, hlen, _⟩ | ⟨_, element, hios, _⟩
    · exact ⟨by omega, fun hne => absurd htype hne⟩
    · rw [hios]
      exact ⟨by simp, fun _ => rfl⟩
  have hclen : cs.length = encoder.causeSize.value := by
    obtain ⟨_, rfl⟩ := intToBytes_eq_ok.mp hcs
    exact length_leDigits _ _
  refine ⟨[asdu.type.value, asdu.ios.length] ++ cs ++
    leDigits encoder.asduAddressSize.value asdu.address, ?_, ?_, ?_, fun rest => ⟨?_, ?_⟩⟩
  · simp [encodeIdentifier, hcs, intToBytes_of_lt h.address_lt]
  · simp [htype, hcb, show asdu.ios.length < 256 by omega]
  · simp [InnerEncoder.headerSize, hclen]
    omega
  · exact byteAt_bytesOf_zero htype _ rest
  · have hcount := decodeIoCount_of_lt hcount.1 hcount.2 (bytesOf cs ++
      (bytesOf (leDigits encoder.asduAddressSize.value asdu.address) ++ rest))
    have hcause := Except.ok.inj (hcause
      (bytesOf (leDigits encoder.asduAddressSize.value asdu.address) ++ rest))
    rw [List.append_assoc, bytesOf_append, List.append_assoc, decodeHeader, drop_bytesOf_succ,
      List.drop_zero, bytesOf_append, List.append_assoc, hcount]
    simp only [ok_bind, hcause, decodeInt_leDigits h.address_lt]
    rfl

/-! ### Segments -/

/-- The segment in the bytes of an ASDU of a segmented type, if `decode_asdu` gets to it. -/
def parseSegment (encoder : InnerEncoder) (asduBytes : Bytes) : Option Segment :=
  match byteAt asduBytes 0 with
  | .error _ => none
  | .ok value =>
    match (Enumeration.ofValue? value : Option AsduType) with
    | none => none
    | some asduType =>
      if asduType ∈ unsegmentedAsduTypes then none
      else
        match decodeHeader encoder asduType asduBytes with
        | .error _ => none
        | .ok ((_, cause, asduAddress), rest) =>
          (readSegment asduType cause asduAddress rest).toOption

/-- The ASDU made of the bytes of all the segments of a message. -/
def messageOf (encoder : InnerEncoder) (type : AsduType) (cause : Cause) (address : ℕ)
    (allIoBytes : Bytes) : Except Exn (Option (AnyASDU encoder) × Bytes) := do
  let (element, rest) ← decodeIoElement encoder type allIoBytes
  return (some (.inl { type, cause, address,
                       ios := [{ address := none, element, time := none }] }), rest)

/-- What `decode_asdu` does with a segment. -/
def receiveSegment (encoder : InnerEncoder) (s : Segment) (buffer : Option Buffer) :
    Decoded (Option (AnyASDU encoder)) :=
  match takeSegment buffer s with
  | .error buffer => (.ok (none, []), buffer)
  | .ok buffer =>
    if s.last then (messageOf encoder s.asduType s.cause s.asduAddress buffer.allIoBytes, none)
    else (.ok (none, []), some buffer)

/-- The header of a segmented type announces one object. -/
theorem ioCount_of_decodeHeader {asduType : AsduType} (htype : asduType ≠ .S_IT_TC)
    {bs rest : Bytes} {n : ℕ} {cause : Cause} {address : ℕ}
    (h : decodeHeader encoder asduType bs = .ok ((n, cause, address), rest)) : n = 1 := by
  obtain ⟨⟨count, rest'⟩, hcount, h⟩ := bind_eq_ok.mp h
  cases h
  obtain ⟨qualifier, _, hcount⟩ := bind_eq_ok.mp hcount
  by_cases hbit : bit qualifier 0x80
  · simp [hbit] at hcount
  · by_cases hone : qualifier = 1
    · obtain ⟨hn, _⟩ : 1 = n ∧ (bs.drop 1).drop 1 = rest' := by simpa [hone, bit] using hcount
      exact hn.symm
    · simp [hbit, htype, hone] at hcount

/-- How `decode_asdu` gets to a segment. -/
theorem parseSegment_eq_some {bs : Bytes} {s : Segment} (h : parseSegment encoder bs = some s) :
    byteAt bs 0 = .ok s.asduType.value ∧ s.asduType ∉ unsegmentedAsduTypes ∧
      ∃ rest, decodeHeader encoder s.asduType bs = .ok ((1, s.cause, s.asduAddress), rest) ∧
        readSegment s.asduType s.cause s.asduAddress rest = .ok s := by
  unfold parseSegment at h
  split at h
  · cases h
  · rename_i value hvalue
    split at h
    · cases h
    · rename_i asduType htype
      split at h
      · cases h
      · rename_i hseg
        split at h
        · cases h
        · rename_i n cause address rest hheader
          have hread : readSegment asduType cause address rest = .ok s := by
            cases hread : readSegment asduType cause address rest with
            | error e => simp [hread, Except.toOption] at h
            | ok s' => simpa [hread, Except.toOption] using h
          have hne : asduType ≠ .S_IT_TC := by
            rintro rfl
            exact hseg (by decide)
          obtain rfl := ioCount_of_decodeHeader hne hheader
          obtain ⟨rfl, rfl, rfl⟩ : asduType = s.asduType ∧ cause = s.cause ∧
              address = s.asduAddress := by
            obtain ⟨q, _, hq⟩ := bind_eq_ok.mp hread
            cases hq
            exact ⟨rfl, rfl, rfl⟩
          rw [← Enumeration.value_of_ofValue? htype] at hvalue
          exact ⟨hvalue, hseg, rest, hheader, hread⟩

/-- **A segment is received as such**, whatever is in the buffer. -/
theorem decodeAsdu_of_parseSegment {bs : Bytes} {s : Segment}
    (h : parseSegment encoder bs = some s) (buffer : Option Buffer) :
    decodeAsdu encoder bs buffer = receiveSegment encoder s buffer := by
  obtain ⟨hvalue, hseg, rest, hheader, hread⟩ := parseSegment_eq_some h
  have htype : (Enumeration.ofValue? s.asduType.value : Option AsduType) = some s.asduType :=
    Enumeration.ofValue?_value s.asduType
  have hne : s.asduType ≠ .S_IT_TC := by
    intro heq
    exact hseg (by rw [heq]; decide)
  simp only [decodeAsdu, hvalue, htype, decodeSecurityAsdu, hheader, decodeIos, decodeIo,
    if_neg hseg, decodeSegmentedIo, hread, decodeSegment, receiveSegment]
  cases takeSegment buffer s with
  | error buffer => simp [hne]
  | ok buffer =>
    cases hlast : s.last with
    | false => simp [hne]
    | true =>
      simp only [messageOf]
      cases decodeIoElement encoder s.asduType buffer.allIoBytes with
      | error e => rfl
      | ok p => simp

private theorem segmentQualifier_spec : ∀ segment < 64, ∀ first last : Bool,
    segmentQualifier first last segment < 256 ∧
      bit (segmentQualifier first last segment) 0x40 = first ∧
      bit (segmentQualifier first last segment) 0x80 = last ∧
      segmentQualifier first last segment &&& 0x3F = segment := by
  decide

/-- The bytes of a segment. -/
def segmentBytes (identifier : List ℕ) (first last : Bool) (segment : ℕ) (data : Bytes) : Bytes :=
  bytesOf (identifier ++ [segmentQualifier first last segment] ++ encodeData data)

/-- A segment that is written is read back. -/
theorem parseSegment_segmentBytes {asdu : ASDU} (h : asdu.WellFormed encoder)
    (htype : asdu.type ∉ unsegmentedAsduTypes) {ns : List ℕ}
    (hns : encodeIdentifier encoder asdu = .ok ns) (first last : Bool) {segment : ℕ}
    (hsegment : segment < 64) (data : Bytes) :
    parseSegment encoder (segmentBytes ns first last segment data) =
      some ⟨asdu.type, asdu.cause, asdu.address, first, last, segment, data⟩ := by
  obtain ⟨ns', hns', _, _, hread⟩ := encodeIdentifier_spec h
  obtain rfl : ns = ns' := Except.ok.inj (hns.symm.trans hns')
  obtain ⟨hq, hfirst, hlast, hnumber⟩ := segmentQualifier_spec segment hsegment first last
  obtain ⟨hbyte, hheader⟩ := hread (bytesOf [segmentQualifier first last segment] ++ data)
  have hbytes : segmentBytes ns first last segment data =
      bytesOf ns ++ (bytesOf [segmentQualifier first last segment] ++ data) := by
    simp only [segmentBytes, bytesOf_append, bytesOf_encodeData, List.append_assoc]
  have hseg : readSegment asdu.type asdu.cause asdu.address
      (bytesOf [segmentQualifier first last segment] ++ data) =
        .ok ⟨asdu.type, asdu.cause, asdu.address, first, last, segment, data⟩ := by
    simp [readSegment, byteAt_bytesOf_zero hq, hfirst, hlast, hnumber]
  have hvalue : (Enumeration.ofValue? asdu.type.value : Option AsduType) = some asdu.type :=
    Enumeration.ofValue?_value asdu.type
  simp only [parseSegment, hbytes, hbyte, hvalue, if_neg htype, hheader, hseg]
  rfl

/-- A round of the loop of `_encode_asdu`. -/
theorem encodeSegments_succ {ns : List ℕ} (hns : AllBytes ns) {segment : ℕ}
    (hsegment : segment < 64)
    (maxSize fuel : ℕ) (first : Bool) {rest : Bytes} (hrest : rest ≠ []) :
    encodeSegments ns maxSize (fuel + 1) first segment rest = (do
      let segments ← encodeSegments ns maxSize fuel false ((segment + 1) % 64) (rest.drop maxSize)
      return segmentBytes ns first (rest.drop maxSize).isEmpty segment (rest.take maxSize) ::
        segments) := by
  have hq := (segmentQualifier_spec segment hsegment first (rest.drop maxSize).isEmpty).1
  have hbytes : toBytes (ns ++ [segmentQualifier first (rest.drop maxSize).isEmpty segment] ++
      encodeData (rest.take maxSize)) = .ok (segmentBytes ns first (rest.drop maxSize).isEmpty
        segment (rest.take maxSize)) :=
    toBytes_eq_ok.mpr ⟨by simp [hns, hq], rfl⟩
  rw [encodeSegments, if_neg hrest]
  simp only [hbytes, ok_bind]

@[simp] theorem encodeSegments_nil (ns : List ℕ) (maxSize fuel : ℕ) (first : Bool) (segment : ℕ) :
    encodeSegments ns maxSize fuel first segment [] = .ok [] := by
  cases fuel <;> rfl

/-- Every segment takes as many bytes as it has room for, and there is at least one. -/
theorem encodeSegments_spec {ns : List ℕ} (hns : AllBytes ns) {maxSize : ℕ} (hmax : 0 < maxSize)
    (fuel : ℕ) :
    ∀ (first : Bool) (segment : ℕ) (rest : Bytes), segment < 64 → rest.length ≤ fuel →
      ∃ segments, encodeSegments ns maxSize fuel first segment rest = .ok segments ∧
        (∀ s ∈ segments, s.length ≤ ns.length + 1 + maxSize) ∧ (segments = [] → rest = []) := by
  induction fuel with
  | zero =>
    intro first segment rest _ hlen
    exact ⟨[], rfl, by simp, fun _ => List.eq_nil_of_length_eq_zero (by omega)⟩
  | succ fuel ih =>
    intro first segment rest hsegment hlen
    by_cases hrest : rest = []
    · rw [hrest, encodeSegments_nil]
      exact ⟨[], rfl, by simp, fun _ => rfl⟩
    · have hlen' : (rest.drop maxSize).length ≤ fuel := by
        have hpos := List.length_pos_iff.mpr hrest
        rw [List.length_drop]
        omega
      obtain ⟨segments, hsegments, hle, _⟩ :=
        ih false ((segment + 1) % 64) (rest.drop maxSize) (Nat.mod_lt _ (by omega)) hlen'
      rw [encodeSegments_succ hns hsegment maxSize fuel first hrest, hsegments]
      refine ⟨_, rfl, ?_, fun hnil => by cases hnil⟩
      intro s hs
      rcases List.mem_cons.mp hs with rfl | hs
      · simp only [segmentBytes, length_bytesOf, List.length_append, List.length_cons,
          List.length_nil, length_encodeData, List.length_take]
        omega
      · exact hle s hs

/-! ### The buffer -/

/-- The buffer of a message takes the segment next. -/
structure Buffer.Awaits (buffer : Buffer) (s : Segment) : Prop where
  asduType : buffer.asduType = s.asduType
  cause : buffer.cause = s.cause
  asduAddress : buffer.asduAddress = s.asduAddress
  segment : (buffer.prevSegment + 1) % 64 = s.segment

theorem takeSegment_of_first {s : Segment} (h : s.first = true) (buffer : Option Buffer) :
    takeSegment buffer s = .ok s.buffer := if_pos h

theorem takeSegment_of_awaits {buffer : Buffer} {s : Segment} (hs : s.first = false)
    (h : buffer.Awaits s) : takeSegment (some buffer) s = .ok (buffer.append s) := by
  obtain ⟨htype, hcause, haddress, hsegment⟩ := h
  simp [takeSegment, hs, htype, hcause, haddress, hsegment]

/-- A segment that was just taken is not taken again. -/
theorem takeSegment_again {buffer : Buffer} {s : Segment} (hs : s.first = false)
    (h : buffer.Awaits s) :
    takeSegment (some (buffer.append s)) s = .error (some (buffer.append s)) := by
  obtain ⟨htype, hcause, haddress, _⟩ := h
  have hne : (s.segment + 1) % 64 ≠ s.segment := by omega
  simp [takeSegment, Buffer.append, hs, htype, hcause, haddress, hne]

/-! ### Successive inputs -/

theorem decodeAll_cons (bs : Bytes) (inputs : List Bytes) (buffer : Option Buffer) :
    decodeAll encoder (bs :: inputs) buffer =
      ((decodeAsdu encoder bs buffer).1 ::
          (decodeAll encoder inputs (decodeAsdu encoder bs buffer).2).1,
        (decodeAll encoder inputs (decodeAsdu encoder bs buffer).2).2) := rfl

theorem decodeAll_append (xs ys : List Bytes) (buffer : Option Buffer) :
    decodeAll encoder (xs ++ ys) buffer =
      ((decodeAll encoder xs buffer).1 ++ (decodeAll encoder ys (decodeAll encoder xs buffer).2).1,
        (decodeAll encoder ys (decodeAll encoder xs buffer).2).2) := by
  induction xs generalizing buffer with
  | nil => rfl
  | cons x xs ih => rw [List.cons_append, decodeAll_cons, ih, decodeAll_cons, List.cons_append]

/-- An input and its repeats, when the buffer it leaves is not changed by it. -/
theorem decodeAll_repeat {bs : Bytes} {buffer buffer' : Option Buffer}
    {r r' : Except Exn (Option (AnyASDU encoder) × Bytes)}
    (hfirst : decodeAsdu encoder bs buffer = (r, buffer'))
    (hagain : decodeAsdu encoder bs buffer' = (r', buffer')) (k : ℕ) :
    decodeAll encoder (List.replicate (k + 1) bs) buffer = (r :: List.replicate k r', buffer') := by
  induction k generalizing buffer r with
  | zero => simp [decodeAll, hfirst]
  | succ k ih =>
    rw [List.replicate_succ, decodeAll_cons, hfirst, ih hagain, List.replicate_succ]

variable {bs : Bytes} {s : Segment} {buffer : Buffer}

/-- The first of several segments starts a new buffer, and so does every repeat of it. -/
theorem decodeAll_firstSegment (hparse : parseSegment encoder bs = some s) (hfirst : s.first = true)
    (hlast : s.last = false) (k : ℕ) (buffer : Option Buffer) :
    decodeAll encoder (List.replicate (k + 1) bs) buffer =
      (List.replicate (k + 1) (.ok (none, [])), some s.buffer) := by
  have hread : ∀ buffer, decodeAsdu encoder bs buffer = (.ok (none, []), some s.buffer) := by
    intro buffer
    rw [decodeAsdu_of_parseSegment hparse, receiveSegment, takeSegment_of_first hfirst]
    simp [hlast]
  rw [decodeAll_repeat (hread buffer) (hread _), List.replicate_succ]

/-- A segment in the middle is put in the buffer once. -/
theorem decodeAll_middleSegment (hparse : parseSegment encoder bs = some s)
    (hfirst : s.first = false) (hlast : s.last = false) (h : buffer.Awaits s) (k : ℕ) :
    decodeAll encoder (List.replicate (k + 1) bs) (some buffer) =
      (List.replicate (k + 1) (.ok (none, [])), some (buffer.append s)) := by
  have hread : decodeAsdu encoder bs (some buffer) = (.ok (none, []), some (buffer.append s)) := by
    rw [decodeAsdu_of_parseSegment hparse, receiveSegment, takeSegment_of_awaits hfirst h]
    simp [hlast]
  have hagain : decodeAsdu encoder bs (some (buffer.append s)) =
      (.ok (none, []), some (buffer.append s)) := by
    rw [decodeAsdu_of_parseSegment hparse, receiveSegment, takeSegment_again hfirst h]
  rw [decodeAll_repeat hread hagain, List.replicate_succ]

/-- The last segment completes the message; its repeats find no buffer. -/
theorem decodeAll_lastSegment (hparse : parseSegment encoder bs = some s)
    (hfirst : s.first = false) (hlast : s.last = true) (h : buffer.Awaits s) (k : ℕ) :
    decodeAll encoder (List.replicate (k + 1) bs) (some buffer) =
      (messageOf encoder s.asduType s.cause s.asduAddress (buffer.allIoBytes ++ s.rest) ::
        List.replicate k (.ok (none, [])), none) := by
  have hread : decodeAsdu encoder bs (some buffer) =
      (messageOf encoder s.asduType s.cause s.asduAddress (buffer.allIoBytes ++ s.rest), none) := by
    rw [decodeAsdu_of_parseSegment hparse, receiveSegment, takeSegment_of_awaits hfirst h]
    simp [hlast, Buffer.append]
  have hagain : decodeAsdu encoder bs none = (.ok (none, []), none) := by
    rw [decodeAsdu_of_parseSegment hparse]
    simp [receiveSegment, takeSegment, hfirst]
  rw [decodeAll_repeat hread hagain]

/-- Every input, followed by so many repeats of it. -/
def repeatEach (inputs : List Bytes) (repeats : List ℕ) : List Bytes :=
  (List.zipWith (fun bs k => List.replicate (k + 1) bs) inputs repeats).flatten

theorem repeatEach_cons (bs : Bytes) (inputs : List Bytes) (k : ℕ) (ks : List ℕ) :
    repeatEach (bs :: inputs) (k :: ks) = List.replicate (k + 1) bs ++ repeatEach inputs ks := rfl

theorem repeatEach_zero (inputs : List Bytes) :
    repeatEach inputs (List.replicate inputs.length 0) = inputs := by
  induction inputs with
  | nil => rfl
  | cons bs inputs ih =>
    rw [List.length_cons, List.replicate_succ, repeatEach_cons, ih]
    rfl

/-- The results of repeated segments: nothing, until the last segment is taken, which
gives the message `r`; nothing for its repeats. -/
def resultsOf {α : Type} (r : Except Exn (Option α × Bytes)) :
    List ℕ → List (Except Exn (Option α × Bytes))
  | [] => []
  | [k] => r :: List.replicate k (.ok (none, []))
  | k :: k' :: ks => List.replicate (k + 1) (.ok (none, [])) ++ resultsOf r (k' :: ks)

/-- **The segments after the first**, each with its repeats, complete the message. -/
theorem decodeAll_encodeSegments {asdu : ASDU} (h : asdu.WellFormed encoder)
    (htype : asdu.type ∉ unsegmentedAsduTypes) {ns : List ℕ}
    (hns : encodeIdentifier encoder asdu = .ok ns) (hb : AllBytes ns) {maxSize : ℕ}
    (hmax : 0 < maxSize) (fuel : ℕ) :
    ∀ (segment : ℕ) (rest : Bytes) (buffer : Buffer) (segments : List Bytes) (ks : List ℕ),
      segment < 64 → rest ≠ [] → rest.length ≤ fuel →
      (∀ last data,
        buffer.Awaits ⟨asdu.type, asdu.cause, asdu.address, false, last, segment, data⟩) →
      encodeSegments ns maxSize fuel false segment rest = .ok segments →
      ks.length = segments.length →
      decodeAll encoder (repeatEach segments ks) (some buffer) =
        (resultsOf (messageOf encoder asdu.type asdu.cause asdu.address (buffer.allIoBytes ++ rest))
          ks, none) := by
  induction fuel with
  | zero =>
    intro segment rest buffer segments ks _ hrest hlen
    exact absurd (List.eq_nil_of_length_eq_zero (by omega)) hrest
  | succ fuel ih =>
    intro segment rest buffer segments ks hsegment hrest hlen hawaits hsegments hks
    rw [encodeSegments_succ hb hsegment maxSize fuel false hrest] at hsegments
    obtain ⟨tail, htail, hsegments⟩ := bind_eq_ok.mp hsegments
    obtain rfl := Except.ok.inj hsegments
    obtain ⟨k, ks, rfl⟩ : ∃ k ks', ks = k :: ks' := List.exists_cons_of_length_eq_add_one hks
    have hks' : ks.length = tail.length := by simpa using hks
    have hparse := parseSegment_segmentBytes h htype hns false (rest.drop maxSize).isEmpty hsegment
      (rest.take maxSize)
    have hawaits' := hawaits (rest.drop maxSize).isEmpty (rest.take maxSize)
    rw [repeatEach_cons, decodeAll_append]
    by_cases hlast : rest.drop maxSize = []
    · -- the last segment: the message is complete
      rw [hlast, encodeSegments_nil] at htail
      obtain rfl := Except.ok.inj htail
      obtain rfl : ks = [] := List.eq_nil_of_length_eq_zero hks'
      have hall : rest.take maxSize = rest := by
        conv_rhs => rw [← List.take_append_drop maxSize rest, hlast, List.append_nil]
      have hempty : (rest.drop maxSize).isEmpty = true := by rw [hlast]; rfl
      rw [decodeAll_lastSegment hparse rfl hempty hawaits', hall]
      simp [repeatEach, decodeAll, resultsOf]
    · -- a segment in the middle: the others complete the message
      have hmore : (rest.drop maxSize).isEmpty = false := by simpa using hlast
      have hlen' : (rest.drop maxSize).length ≤ fuel := by
        rw [List.length_drop]
        omega
      have hnext : (segment + 1) % 64 < 64 := Nat.mod_lt _ (by omega)
      obtain ⟨k', ks, rfl⟩ : ∃ k' ks', ks = k' :: ks' := by
        refine List.exists_cons_of_ne_nil fun hnil => ?_
        obtain ⟨segments, hsegments, _, hne⟩ := encodeSegments_spec hb hmax fuel false
          ((segment + 1) % 64) (rest.drop maxSize) hnext hlen'
        obtain rfl := Except.ok.inj (htail.symm.trans hsegments)
        rw [hnil] at hks'
        exact hlast (hne (List.eq_nil_of_length_eq_zero hks'.symm))
      rw [decodeAll_middleSegment hparse rfl hmore hawaits']
      simp only
      rw [ih _ _ _ _ _ hnext hlast hlen' (fun last data => ?_) htail hks']
      · simp [Buffer.append, resultsOf]
      · exact ⟨hawaits'.asduType, hawaits'.cause, hawaits'.asduAddress, rfl⟩

/-- **All the segments of a message**, each with its repeats if there are several, complete it. -/
theorem decodeAll_message {asdu : ASDU} (h : asdu.WellFormed encoder)
    (htype : asdu.type ∉ unsegmentedAsduTypes) {ns : List ℕ}
    (hns : encodeIdentifier encoder asdu = .ok ns) (hb : AllBytes ns) {maxSize : ℕ}
    (hmax : 0 < maxSize) {rest : Bytes} (hrest : rest ≠ []) {segments : List Bytes}
    (hsegments : encodeSegments ns maxSize rest.length true 0 rest = .ok segments) {ks : List ℕ}
    (hks : ks.length = segments.length) (hone : segments.length = 1 → ks = [0])
    (buffer : Option Buffer) :
    (decodeAll encoder (repeatEach segments ks) buffer).1 =
      resultsOf (messageOf encoder asdu.type asdu.cause asdu.address rest) ks := by
  obtain ⟨fuel, hfuel⟩ : ∃ fuel, rest.length = fuel + 1 :=
    Nat.exists_eq_add_one.mpr (List.length_pos_iff.mpr hrest)
  rw [hfuel, encodeSegments_succ hb (by omega) maxSize fuel true hrest] at hsegments
  obtain ⟨tail, htail, hsegments⟩ := bind_eq_ok.mp hsegments
  obtain rfl := Except.ok.inj hsegments
  obtain ⟨k, ks, rfl⟩ : ∃ k ks', ks = k :: ks' := List.exists_cons_of_length_eq_add_one hks
  have hks' : ks.length = tail.length := by simpa using hks
  have hparse := parseSegment_segmentBytes h htype hns true (rest.drop maxSize).isEmpty
    (show 0 < 64 by omega) (rest.take maxSize)
  have hlen : (rest.drop maxSize).length ≤ fuel := by
    rw [List.length_drop]
    omega
  by_cases hlast : rest.drop maxSize = []
  · -- a single segment is the message
    rw [hlast, encodeSegments_nil] at htail
    obtain rfl := Except.ok.inj htail
    obtain ⟨rfl, rfl⟩ := List.cons.inj (hone rfl)
    have hall : rest.take maxSize = rest := by
      conv_rhs => rw [← List.take_append_drop maxSize rest, hlast, List.append_nil]
    have hempty : (rest.drop maxSize).isEmpty = true := by rw [hlast]; rfl
    have hsingle : ∀ bs, repeatEach [bs] [0] = [bs] := fun bs => rfl
    rw [hsingle, decodeAll_cons, decodeAsdu_of_parseSegment hparse, receiveSegment,
      takeSegment_of_first rfl]
    simp [hempty, hall, Segment.buffer, decodeAll, resultsOf]
  · have hmore : (rest.drop maxSize).isEmpty = false := by simpa using hlast
    have hne : tail ≠ [] := by
      obtain ⟨segments, hsegments, _, hne⟩ := encodeSegments_spec hb hmax fuel false
        ((0 + 1) % 64) (rest.drop maxSize) (by omega) hlen
      obtain rfl := Except.ok.inj (htail.symm.trans hsegments)
      exact fun hnil => hlast (hne hnil)
    obtain ⟨k', ks, rfl⟩ : ∃ k' ks', ks = k' :: ks' := by
      refine List.exists_cons_of_ne_nil fun hnil => ?_
      rw [hnil] at hks'
      exact hne (List.eq_nil_of_length_eq_zero hks'.symm)
    rw [repeatEach_cons, decodeAll_append, decodeAll_firstSegment hparse rfl hmore]
    simp only
    rw [decodeAll_encodeSegments h htype hns hb hmax fuel _ _ _ _ _ (by omega) hlast hlen
      (fun last data => ⟨rfl, rfl, rfl, rfl⟩) htail hks']
    simp [Segment.buffer, resultsOf]

end HatDrivers.Iec60870.Encodings.Security
