import HatDrivers.Iec60870.Encodings.Time

namespace HatDrivers.Iec60870.Encodings

open HatDrivers.Lib

/-!
# IEC 60870-5 encodings — generic ASDU encoder

`Encoder` of the `encodings` package: header, count byte with its sequence bit,
and information objects, over callbacks for the information elements.  The
codecs of the companion standards instantiate it; `Encoder.decodeAsdu_encodeAsdu`
reduces their round trips to those of their elements.
-/

variable {η : Type}

/-- `asdu_type_time_sizes`, as its items. -/
abbrev AsduTypeTimeSizes := List (ℕ × TimeSize)

structure Encoder (η : Type) where
  causeSize : CauseSize
  asduAddressSize : AsduAddressSize
  ioAddressSize : IoAddressSize
  asduTypeTimeSizes : AsduTypeTimeSizes
  invertedSequenceBit : Bool
  decodeIoElementCb : ℕ → ByteReader Exn η
  encodeIoElementCb : ℕ → ByteWriter Exn η

/-! ### The encoder -/

def decodeInt (size : ℕ) (data : Bytes) : ℕ × Bytes :=
  (intFromBytes (data.take size), data.drop size)

/-- The trailing time of an information object, in the time size of its type. -/
def decodeIoTime (timeSize : Option TimeSize) : ByteReader Exn (Option Time) := fun rest =>
  match timeSize with
  | some timeSize => do
    let time ← decodeTime rest timeSize
    return (some time, rest.drop timeSize.value)
  | none => return (none, rest)

def Encoder.decodeIo (e : Encoder η) (asduType ioeElementCount : ℕ) : ByteReader Exn (Io η) :=
  fun ioBytes => do
    let (address, rest) := decodeInt e.ioAddressSize.value ioBytes
    let (elements, rest) ← readN (e.decodeIoElementCb asduType) ioeElementCount rest
    let (time, rest) ← decodeIoTime (e.asduTypeTimeSizes.lookup asduType) rest
    return ({ address, elements, time }, rest)

def Encoder.decodeAsdu (e : Encoder η) : ByteReader Exn (ASDU η) := fun asduBytes => do
  let asduType ← byteAt asduBytes 0
  let count ← byteAt asduBytes 1
  let ioNumber := count &&& 0x7F
  let isSequence := bit count 0x80 ^^ e.invertedSequenceBit
  let ioCount := if isSequence then 1 else ioNumber
  let ioeElementCount := if isSequence then ioNumber else 1
  let (cause, rest) := decodeInt e.causeSize.value (asduBytes.drop 2)
  let (address, rest) := decodeInt e.asduAddressSize.value rest
  let (ios, rest) ← readN (e.decodeIo asduType ioeElementCount) ioCount rest
  return ({ type := asduType, cause, address, ios }, rest)

/-- The trailing time of an information object; a missing one has no `size`. -/
def encodeIoTime : Option TimeSize → Option Time → Except Exn (List ℕ)
  | some timeSize, some time => encodeTime time timeSize
  | some _, none => .error .attributeError
  | none, _ => .ok []

def Encoder.encodeIo (e : Encoder η) (asduType : ℕ) : ByteWriter Exn (Io η) := fun io => do
  let address ← intToBytes io.address e.ioAddressSize.value
  let elements ← writeAll (e.encodeIoElementCb asduType) io.elements
  let time ← encodeIoTime (e.asduTypeTimeSizes.lookup asduType) io.time
  return address ++ elements ++ time

/-- `len(asdu.ios) == 1 and len(asdu.ios[0].elements) > 1`. -/
def ASDU.isSequence (asdu : ASDU η) : Bool :=
  match asdu.ios with
  | [io] => decide (io.elements.length > 1)
  | _ => false

/-- The count byte: number of elements of a sequence, else number of objects. -/
def Encoder.countByte (e : Encoder η) (asdu : ASDU η) : ℕ :=
  match asdu.isSequence, asdu.ios with
  | true, io :: _ => (if e.invertedSequenceBit then 0x00 else 0x80) ||| io.elements.length
  | _, ios => (if e.invertedSequenceBit then 0x80 else 0x00) ||| ios.length

/-- One round of the loop of `encode_asdu`. -/
def Encoder.encodeAsduIo (e : Encoder η) (asdu : ASDU η) : ByteWriter Exn (Io η) := fun io => do
  if !asdu.isSequence && io.elements.length != 1 then
    throw (.valueError "invalid number of IO elements")
  e.encodeIo asdu.type io

def Encoder.encodeAsdu (e : Encoder η) (asdu : ASDU η) : Except Exn Bytes := do
  let cause ← intToBytes asdu.cause e.causeSize.value
  let address ← intToBytes asdu.address e.asduAddressSize.value
  let ios ← writeAll (e.encodeAsduIo asdu) asdu.ios
  toBytes ([asdu.type, e.countByte asdu] ++ cause ++ address ++ ios)

/-! ### What the encoder can carry -/

/-- One object with a sequence of elements, or objects with one element each. -/
def Shape (ios : List (Io η)) : Prop :=
  (∃ io, ios = [io] ∧ 1 ≤ io.elements.length ∧ io.elements.length ≤ 127) ∨
    (ios.length ≤ 127 ∧ ∀ io ∈ ios, io.elements.length = 1)

/-- The number of elements every object of the ASDU has. -/
def ASDU.elementCount (asdu : ASDU η) : ℕ :=
  match asdu.isSequence, asdu.ios with
  | true, io :: _ => io.elements.length
  | _, _ => 1

/-- A time is there when the type has one, in the size of the type. -/
def TimeFits : Option TimeSize → Option Time → Prop
  | some timeSize, some time => time.size = timeSize ∧ time.Valid
  | none, none => True
  | _, _ => False

/-! ### Round trip -/

theorem decodeInt_leDigits {x size : ℕ} (h : x < 256 ^ size) (rest : Bytes) :
    decodeInt size (bytesOf (leDigits size x) ++ rest) = (x, rest) := by
  rw [decodeInt, intFromBytes_take h, drop_bytesOf_append (length_leDigits size x)]

/-- The trailing time of an object is written and read back. -/
theorem encodeIoTime_codes {timeSize : Option TimeSize} {time : Option Time}
    (h : TimeFits timeSize time) :
    Codes (encodeIoTime timeSize time) (decodeIoTime timeSize) time := by
  cases timeSize with
  | none =>
    cases time with
    | none => exact ⟨[], rfl, allBytes_nil, fun rest => rfl⟩
    | some time => exact h.elim
  | some timeSize =>
    cases time with
    | none => exact h.elim
    | some time =>
      obtain ⟨rfl, hv⟩ := h
      obtain ⟨ns, hw, hb, hlen, hr⟩ := encodeTime_codes hv
      refine ⟨ns, by rw [encodeIoTime, hw], hb, fun rest => ?_⟩
      simp [decodeIoTime, hr rest, drop_bytesOf_append hlen]

/-- An object is read back if its elements are and its time fits its type. -/
theorem Encoder.encodeIo_roundTrips (e : Encoder η) (asduType : ℕ) {io : Io η}
    (helems : ∀ x ∈ io.elements,
      RoundTrips (e.encodeIoElementCb asduType) (e.decodeIoElementCb asduType) x)
    (htime : TimeFits (e.asduTypeTimeSizes.lookup asduType) io.time) :
    RoundTrips (e.encodeIo asduType) (e.decodeIo asduType io.elements.length) io := by
  intro ns hns hb rest
  obtain ⟨as, has, hns⟩ := bind_eq_ok.mp hns
  obtain ⟨es, hes, hns⟩ := bind_eq_ok.mp hns
  obtain ⟨ts, hts, hns⟩ := bind_eq_ok.mp hns
  obtain rfl := Except.ok.inj hns
  obtain ⟨haddr, rfl⟩ := intToBytes_eq_ok.mp has
  simp only [allBytes_append] at hb
  have helems := RoundTrips.writeAll helems es hes hb.1.2
  obtain ⟨ts', hts', _, htime⟩ := encodeIoTime_codes htime
  obtain rfl : ts' = ts := Except.ok.inj (hts'.symm.trans hts)
  simp only [bytesOf_append, List.append_assoc, decodeIo, decodeInt_leDigits haddr,
    helems (bytesOf ts' ++ rest), htime rest, ok_bind]
  rfl

/-- An object is written if its elements are, its address and its time fit. -/
theorem Encoder.encodeIo_writes (e : Encoder η) (asduType : ℕ) {io : Io η}
    (haddr : io.address < 256 ^ e.ioAddressSize.value)
    (helems : ∀ x ∈ io.elements, Writes (e.encodeIoElementCb asduType) x)
    (htime : TimeFits (e.asduTypeTimeSizes.lookup asduType) io.time) :
    Writes (e.encodeIo asduType) io := by
  obtain ⟨es, hes, hb⟩ := Writes.writeAll helems
  obtain ⟨ts, hts, hb', _⟩ := encodeIoTime_codes htime
  refine ⟨leDigits e.ioAddressSize.value io.address ++ es ++ ts, ?_, by simp [hb, hb']⟩
  simp [encodeIo, intToBytes_of_lt haddr, hes, hts]

/-- What the count byte says of a number of seven bits. -/
theorem countByte_spec : ∀ n < 128, ∀ flag : Bool,
    (if flag then 0x80 else 0x00) ||| n < 256 ∧
      ((if flag then 0x80 else 0x00) ||| n) &&& 0x7F = n ∧
      bit ((if flag then 0x80 else 0x00) ||| n) 0x80 = flag := by
  decide +kernel

/-- What the count byte of a well-shaped ASDU says: the layout, the number of
objects, and the number of elements every object has. -/
theorem Encoder.countByte_of_shape (e : Encoder η) {asdu : ASDU η} (h : Shape asdu.ios) :
    e.countByte asdu < 256 ∧
      (bit (e.countByte asdu) 0x80 ^^ e.invertedSequenceBit) = asdu.isSequence ∧
      (if asdu.isSequence then 1 else e.countByte asdu &&& 0x7F) = asdu.ios.length ∧
      (if asdu.isSequence then e.countByte asdu &&& 0x7F else 1) = asdu.elementCount ∧
      ∀ io ∈ asdu.ios, io.elements.length = asdu.elementCount := by
  obtain ⟨type, cause, address, ios⟩ := asdu
  by_cases hseq : ∃ io, ios = [io] ∧ 1 < io.elements.length
  · obtain ⟨io, rfl, hlen⟩ := hseq
    have hle : io.elements.length < 128 := by
      rcases h with ⟨io', hio, _, hle⟩ | ⟨_, hone⟩
      · obtain rfl := List.singleton_injective hio
        omega
      · have := hone io (by simp)
        omega
    obtain ⟨hb, hn, hflag⟩ := countByte_spec _ hle (!e.invertedSequenceBit)
    have hcount : e.countByte ⟨type, cause, address, [io]⟩ =
        (if !e.invertedSequenceBit then 0x80 else 0x00) ||| io.elements.length := by
      cases hinv : e.invertedSequenceBit <;> simp [countByte, ASDU.isSequence, hlen, hinv]
    rw [hcount]
    refine ⟨hb, ?_, by simp [ASDU.isSequence, hlen], ?_, ?_⟩
    · rw [hflag]; simp [ASDU.isSequence, hlen]
    · rw [hn]; simp [ASDU.isSequence, ASDU.elementCount, hlen]
    · simp [ASDU.isSequence, ASDU.elementCount, hlen]
  · have hone : ∀ io ∈ ios, io.elements.length = 1 := by
      rcases h with ⟨io, rfl, h1, _⟩ | ⟨_, hone⟩
      · have : ¬ 1 < io.elements.length := fun hlt => hseq ⟨io, rfl, hlt⟩
        simp only [List.mem_singleton, forall_eq]
        omega
      · exact hone
    have hle : ios.length < 128 := by
      rcases h with ⟨io, rfl, _⟩ | ⟨hle, _⟩
      · simp
      · simp only at hle; omega
    have hns : ASDU.isSequence ⟨type, cause, address, ios⟩ = false := by
      unfold ASDU.isSequence
      split
      · rename_i io hio
        simpa using hone io (by simp only at hio; simp [hio]) ▸ (by omega : 1 ≤ 1)
      · rfl
    obtain ⟨hb, hn, hflag⟩ := countByte_spec _ hle e.invertedSequenceBit
    have hcount : e.countByte ⟨type, cause, address, ios⟩ =
        (if e.invertedSequenceBit then 0x80 else 0x00) ||| ios.length := by
      simp [countByte, hns]
    rw [hcount, hns]
    refine ⟨hb, by rw [hflag]; simp, by simpa using hn, ?_, ?_⟩
    · simp [ASDU.elementCount, hns]
    · simpa [ASDU.elementCount, hns] using hone

/-- Elements and times of an ASDU the encoder can carry. -/
structure Encoder.Carries (e : Encoder η) (asdu : ASDU η) : Prop where
  shape : Shape asdu.ios
  time : ∀ io ∈ asdu.ios, TimeFits (e.asduTypeTimeSizes.lookup asdu.type) io.time

/-- The objects of an ASDU are written one by one, since each has the number of elements of all. -/
theorem Encoder.encodeAsduIo_eq (e : Encoder η) {asdu : ASDU η} (h : Shape asdu.ios) {io : Io η}
    (hio : io ∈ asdu.ios) : e.encodeAsduIo asdu io = e.encodeIo asdu.type io := by
  obtain ⟨_, _, _, _, hlen⟩ := e.countByte_of_shape h
  have hguard : (!asdu.isSequence && io.elements.length != 1) = false := by
    cases hs : asdu.isSequence with
    | true => rfl
    | false =>
      have hone : asdu.elementCount = 1 := by simp [ASDU.elementCount, hs]
      simp [hlen io hio, hone]
  simp [encodeAsduIo, hguard]

/-- **What `encode_asdu` writes, `decode_asdu` reads back**, and it leaves every
byte after it, provided the elements of the ASDU are read back. -/
theorem Encoder.decodeAsdu_encodeAsdu (e : Encoder η) {asdu : ASDU η} (h : e.Carries asdu)
    (helems : ∀ io ∈ asdu.ios, ∀ x ∈ io.elements,
      RoundTrips (e.encodeIoElementCb asdu.type) (e.decodeIoElementCb asdu.type) x)
    {bs : Bytes} (hbs : e.encodeAsdu asdu = .ok bs) (rest : Bytes) :
    e.decodeAsdu (bs ++ rest) = .ok (asdu, rest) := by
  obtain ⟨cs, hcs, hbs⟩ := bind_eq_ok.mp hbs
  obtain ⟨as, has, hbs⟩ := bind_eq_ok.mp hbs
  obtain ⟨is, his, hbs⟩ := bind_eq_ok.mp hbs
  obtain ⟨hcause, rfl⟩ := intToBytes_eq_ok.mp hcs
  obtain ⟨haddr, rfl⟩ := intToBytes_eq_ok.mp has
  obtain ⟨hb, rfl⟩ := toBytes_eq_ok.mp hbs
  simp only [allBytes_append, allBytes_cons] at hb
  obtain ⟨hcount, hseq, hios, hcountIo, hlen⟩ := e.countByte_of_shape h.shape
  have hios' : RoundTrips (writeAll (e.encodeAsduIo asdu))
      (readN (e.decodeIo asdu.type asdu.elementCount) asdu.ios.length) asdu.ios := by
    refine RoundTrips.writeAll fun io hio ns hns hb' => ?_
    rw [e.encodeAsduIo_eq h.shape hio] at hns
    have hread := e.encodeIo_roundTrips asdu.type (helems io hio) (h.time io hio) ns hns hb'
    rwa [hlen io hio] at hread
  have hread := hios' is his hb.2 rest
  simp only [bytesOf_append, List.append_assoc]
  simp only [decodeAsdu, byteAt_bytesOf_zero hb.1.1.1.1, byteAt_bytesOf_succ,
    byteAt_bytesOf_zero hcount, ok_bind, hseq, hios, hcountIo, drop_bytesOf_succ, List.drop_zero,
    bytesOf_nil, List.nil_append, decodeInt_leDigits hcause, decodeInt_leDigits haddr, hread]
  rfl

/-- An ASDU is written if it has the right shape, its fields fit and its elements are. -/
theorem Encoder.encodeAsdu_writes (e : Encoder η) {asdu : ASDU η} (h : e.Carries asdu)
    (htype : asdu.type < 256) (hcause : asdu.cause < 256 ^ e.causeSize.value)
    (haddr : asdu.address < 256 ^ e.asduAddressSize.value)
    (hio : ∀ io ∈ asdu.ios, io.address < 256 ^ e.ioAddressSize.value)
    (helems : ∀ io ∈ asdu.ios, ∀ x ∈ io.elements, Writes (e.encodeIoElementCb asdu.type) x) :
    ∃ bs, e.encodeAsdu asdu = .ok bs := by
  obtain ⟨hcount, hseq, hios, hcountIo, hlen⟩ := e.countByte_of_shape h.shape
  have hw : Writes (writeAll (e.encodeAsduIo asdu)) asdu.ios := by
    refine Writes.writeAll fun io hmem => ?_
    obtain ⟨ns, hns, hb⟩ :=
      e.encodeIo_writes asdu.type (hio io hmem) (helems io hmem) (h.time io hmem)
    refine ⟨ns, ?_, hb⟩
    rw [e.encodeAsduIo_eq h.shape hmem, hns]
  obtain ⟨ns, hns, hb⟩ := hw
  simp only [encodeAsdu, intToBytes_of_lt hcause, intToBytes_of_lt haddr, hns, ok_bind]
  exact ⟨_, toBytes_eq_ok.mpr ⟨by simp [hb, htype, hcount], rfl⟩⟩

/-- An object is read back if and only if its elements are. -/
theorem Encoder.encodeIo_codesIff (e : Encoder η) (asduType : ℕ) {io : Io η} {p : η → Prop}
    (haddr : io.address < 256 ^ e.ioAddressSize.value)
    (helems : ∀ x ∈ io.elements,
      CodesIff (p x) (e.encodeIoElementCb asduType x) (e.decodeIoElementCb asduType) x)
    (htime : TimeFits (e.asduTypeTimeSizes.lookup asduType) io.time) :
    CodesIff (∀ x ∈ io.elements, p x) (e.encodeIo asduType io)
      (e.decodeIo asduType io.elements.length) io where
  codes := by
    intro hp
    have hcodes := fun x hx => (helems x hx).codes (hp x hx)
    obtain ⟨ns, hw, hb⟩ :=
      e.encodeIo_writes asduType haddr (fun x hx => (hcodes x hx).writes) htime
    exact ⟨ns, hw, hb,
      e.encodeIo_roundTrips asduType (fun x hx => (hcodes x hx).roundTrips) htime ns hw hb⟩
  loses := by
    intro hp ns hns hb rest rest' hread
    obtain ⟨as, has, hns⟩ := bind_eq_ok.mp hns
    obtain ⟨es, hes, hns⟩ := bind_eq_ok.mp hns
    obtain ⟨ts, hts, hns⟩ := bind_eq_ok.mp hns
    obtain rfl := Except.ok.inj hns
    obtain ⟨haddr, rfl⟩ := intToBytes_eq_ok.mp has
    simp only [allBytes_append] at hb
    simp only [bytesOf_append, List.append_assoc, decodeIo, decodeInt_leDigits haddr] at hread
    obtain ⟨⟨elements, mid⟩, hread, htail⟩ := bind_eq_ok.mp hread
    obtain ⟨⟨time, rest''⟩, _, htail⟩ := bind_eq_ok.mp htail
    have hfields := Prod.mk.inj (Except.ok.inj htail)
    obtain rfl : elements = io.elements := congrArg Io.elements hfields.1
    exact (CodesIff.writeAll helems).loses hp es hes hb.1.2 _ mid hread

/-- **An ASDU is read back if and only if all of its elements are.** -/
theorem Encoder.decodeAsdu_encodeAsdu_iff (e : Encoder η) {asdu : ASDU η} {p : η → Prop}
    (h : e.Carries asdu) (htype : asdu.type < 256) (hcause : asdu.cause < 256 ^ e.causeSize.value)
    (haddr : asdu.address < 256 ^ e.asduAddressSize.value)
    (hio : ∀ io ∈ asdu.ios, io.address < 256 ^ e.ioAddressSize.value)
    (helems : ∀ io ∈ asdu.ios, ∀ x ∈ io.elements,
      CodesIff (p x) (e.encodeIoElementCb asdu.type x) (e.decodeIoElementCb asdu.type) x) :
    (∃ bs, e.encodeAsdu asdu = .ok bs ∧ ∀ rest, e.decodeAsdu (bs ++ rest) = .ok (asdu, rest)) ↔
      ∀ io ∈ asdu.ios, ∀ x ∈ io.elements, p x := by
  constructor
  · rintro ⟨bs, hbs, hread⟩
    by_contra hp
    obtain ⟨cs, hcs, hbs⟩ := bind_eq_ok.mp hbs
    obtain ⟨as, has, hbs⟩ := bind_eq_ok.mp hbs
    obtain ⟨is, his, hbs⟩ := bind_eq_ok.mp hbs
    obtain ⟨hcause, rfl⟩ := intToBytes_eq_ok.mp hcs
    obtain ⟨haddr, rfl⟩ := intToBytes_eq_ok.mp has
    obtain ⟨hb, rfl⟩ := toBytes_eq_ok.mp hbs
    simp only [allBytes_append, allBytes_cons] at hb
    obtain ⟨hcount, hseq, hios, hcountIo, hlen⟩ := e.countByte_of_shape h.shape
    have hcodes : CodesIff (∀ io ∈ asdu.ios, ∀ x ∈ io.elements, p x)
        (writeAll (e.encodeAsduIo asdu) asdu.ios)
        (readN (e.decodeIo asdu.type asdu.elementCount) asdu.ios.length) asdu.ios := by
      apply CodesIff.writeAll
      intro io hmem
      rw [e.encodeAsduIo_eq h.shape hmem, ← hlen io hmem]
      exact e.encodeIo_codesIff asdu.type (hio io hmem) (helems io hmem) (h.time io hmem)
    have hread := hread []
    simp only [bytesOf_append, List.append_assoc] at hread
    simp only [decodeAsdu, byteAt_bytesOf_zero hb.1.1.1.1, byteAt_bytesOf_succ,
      byteAt_bytesOf_zero hcount, ok_bind, hseq, hios, hcountIo, drop_bytesOf_succ,
      List.drop_zero, bytesOf_nil, List.nil_append, decodeInt_leDigits hcause,
      decodeInt_leDigits haddr] at hread
    obtain ⟨⟨ios, rest⟩, hread, htail⟩ := bind_eq_ok.mp hread
    have hfields := Prod.mk.inj (Except.ok.inj htail)
    obtain rfl : ios = asdu.ios := congrArg ASDU.ios hfields.1
    exact hcodes.loses hp is his hb.2 [] rest hread
  · intro hp
    have hcodes := fun io hmem x hx => (helems io hmem x hx).codes (hp io hmem x hx)
    obtain ⟨bs, hbs⟩ := e.encodeAsdu_writes h htype hcause haddr hio
      fun io hmem x hx => (hcodes io hmem x hx).writes
    exact ⟨bs, hbs, e.decodeAsdu_encodeAsdu h
      (fun io hmem x hx => (hcodes io hmem x hx).roundTrips) hbs⟩

/-- Every element of a decoded ASDU was read by the element reader of its type. -/
theorem Encoder.exists_decodeIoElementCb (e : Encoder η) {bs rest : Bytes} {asdu : ASDU η}
    (h : e.decodeAsdu bs = .ok (asdu, rest)) {io : Io η} (hio : io ∈ asdu.ios) {x : η}
    (hx : x ∈ io.elements) : ∃ bs' rest', e.decodeIoElementCb asdu.type bs' = .ok (x, rest') := by
  obtain ⟨type, _, h⟩ := bind_eq_ok.mp h
  obtain ⟨count, _, h⟩ := bind_eq_ok.mp h
  obtain ⟨⟨ios, rest'⟩, hios, h⟩ := bind_eq_ok.mp h
  cases h
  obtain ⟨bs', rest', hread⟩ := exists_of_mem_readN hios hio
  obtain ⟨⟨elements, rest''⟩, helems, hread⟩ := bind_eq_ok.mp hread
  obtain ⟨⟨time, _⟩, _, hread⟩ := bind_eq_ok.mp hread
  cases hread
  exact exists_of_mem_readN helems hx

/-- An ASDU with other elements. -/
def ASDU.mapElements (f : η → η) (asdu : ASDU η) : ASDU η :=
  { asdu with ios := asdu.ios.map fun io => { io with elements := io.elements.map f } }

/-- Elements that are written as the same bytes make the same ASDU. -/
theorem Encoder.encodeAsdu_mapElements (e : Encoder η) {f : η → η}
    (hf : ∀ asduType x, e.encodeIoElementCb asduType (f x) = e.encodeIoElementCb asduType x)
    (asdu : ASDU η) : e.encodeAsdu (asdu.mapElements f) = e.encodeAsdu asdu := by
  obtain ⟨type, cause, address, ios⟩ := asdu
  have hseq : (ASDU.mapElements f ⟨type, cause, address, ios⟩).isSequence =
      ASDU.isSequence ⟨type, cause, address, ios⟩ := by
    match ios with
    | [] => rfl
    | [io] => simp [ASDU.mapElements, ASDU.isSequence]
    | _ :: _ :: _ => rfl
  have hcount : e.countByte (ASDU.mapElements f ⟨type, cause, address, ios⟩) =
      e.countByte ⟨type, cause, address, ios⟩ := by
    unfold countByte
    rw [hseq]
    cases ios with
    | nil => rfl
    | cons io ios =>
      cases ASDU.isSequence ⟨type, cause, address, io :: ios⟩ <;> simp [ASDU.mapElements]
  have hios : writeAll (e.encodeAsduIo (ASDU.mapElements f ⟨type, cause, address, ios⟩))
      (ASDU.mapElements f ⟨type, cause, address, ios⟩).ios =
        writeAll (e.encodeAsduIo ⟨type, cause, address, ios⟩) ios := by
    have helems : ∀ io : Io η, writeAll (e.encodeIoElementCb type) (io.elements.map f) =
        writeAll (e.encodeIoElementCb type) io.elements := by
      intro io
      simp only [writeAll_map, hf]
    rw [ASDU.mapElements, writeAll_map]
    congr 1
    funext io
    have hseq' := hseq
    rw [ASDU.mapElements] at hseq'
    simp only [encodeAsduIo, encodeIo, hseq', List.length_map, helems]
  simp only [encodeAsdu, hcount, hios]
  rfl

theorem shape_mapElements {ios : List (Io η)} (h : Shape ios) (f : η → η) :
    Shape (ios.map fun io => { io with elements := io.elements.map f }) := by
  rcases h with ⟨io, rfl, hlo, hhi⟩ | ⟨hlen, hone⟩
  · exact .inl ⟨_, rfl, by simpa using hlo, by simpa using hhi⟩
  · refine .inr ⟨by simpa using hlen, fun io' hio' => ?_⟩
    obtain ⟨io, hio, rfl⟩ := List.mem_map.mp hio'
    simpa using hone io hio

/-- The bytes of an ASDU of one object with one element. -/
theorem Encoder.encodeAsdu_single (e : Encoder η) (type cause address : ℕ) {io : Io η}
    (h : io.elements.length = 1) : e.encodeAsdu ⟨type, cause, address, [io]⟩ = (do
      let cause ← intToBytes cause e.causeSize.value
      let address ← intToBytes address e.asduAddressSize.value
      let io ← e.encodeIo type io
      toBytes ([type, (if e.invertedSequenceBit then 0x80 else 0x00) ||| 1] ++ cause ++ address ++
        io)) := by
  have hseq : ASDU.isSequence ⟨type, cause, address, [io]⟩ = false := by simp [ASDU.isSequence, h]
  simp [encodeAsdu, writeAll, encodeAsduIo, countByte, hseq, h]

end HatDrivers.Iec60870.Encodings
