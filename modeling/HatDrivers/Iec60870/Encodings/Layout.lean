import HatDrivers.Iec60870.Encodings.Encoder
import HatDrivers.Lib.Prefixes

namespace HatDrivers.Iec60870.Encodings

open HatDrivers.Lib

/-!
# IEC 60870-5 encodings — layout of an ASDU

Where the generic decoder looks for the fields of an ASDU.  Bytes of an ASDU are a
header and the bytes of its objects (`layout`), bytes of an object are its address,
its elements and its time (`ioBytes`); the decoder reads each of them to its end
(`Encoder.decodeAsdu_layout`).  Elements are only known by their readers.
-/

variable {η : Type}

/-! ### Bytes at an index -/

theorem byteAt_append {bs : Bytes} {i : ℕ} (h : i < bs.length) (rest : Bytes) :
    byteAt (bs ++ rest) i = byteAt bs i := by
  unfold byteAt
  rw [List.getElem?_append_left h]

theorem byteAt_eq_error {bs : Bytes} {i : ℕ} (h : bs.length ≤ i) :
    byteAt bs i = .error .indexError := by
  unfold byteAt
  rw [List.getElem?_eq_none h]

theorem exists_byteAt {bs : Bytes} {i : ℕ} (h : i < bs.length) :
    ∃ b < 256, byteAt bs i = .ok b := by
  obtain ⟨b, hb⟩ : ∃ b, bs[i]? = some b := ⟨_, List.getElem?_eq_getElem h⟩
  exact ⟨b.toNat, UInt8.toNat_lt b, by rw [byteAt, hb]⟩

theorem lt_length_of_byteAt {bs : Bytes} {i b : ℕ} (h : byteAt bs i = .ok b) : i < bs.length := by
  by_contra hle
  rw [byteAt_eq_error (Nat.le_of_not_lt hle)] at h
  cases h

/-! ### Times -/

/-- The number of bytes of the time of an object. -/
def timeLength : Option TimeSize → ℕ
  | some timeSize => timeSize.value
  | none => 0

theorem decodeTime_append {bs : Bytes} {timeSize : TimeSize} (h : bs.length = timeSize.value)
    (rest : Bytes) : decodeTime (bs ++ rest) timeSize = decodeTime bs timeSize := by
  have hbyte : ∀ i, i < timeSize.value → byteAt (bs ++ rest) i = byteAt bs i := fun i hi =>
    byteAt_append (by omega) rest
  cases timeSize <;>
    simp only [TimeSize.value] at hbyte <;>
    simp only [decodeTime, ifLonger, TimeSize.value, hbyte, Nat.reduceLT, gt_iff_lt, if_true,
      if_false]

/-- A time is read off any bytes of its size. -/
theorem exists_decodeTime {bs : Bytes} {timeSize : TimeSize} (h : bs.length = timeSize.value) :
    ∃ time, decodeTime bs timeSize = .ok time := by
  have hbyte : ∀ i, i < timeSize.value → ∃ b < 256, byteAt bs i = .ok b := fun i hi =>
    exists_byteAt (by omega)
  cases timeSize with
  | TWO =>
    obtain ⟨b₀, _, h₀⟩ := hbyte 0 (by decide)
    obtain ⟨b₁, _, h₁⟩ := hbyte 1 (by decide)
    exact ⟨_, by simp only [decodeTime, ifLonger, TimeSize.value, h₀, h₁]; rfl⟩
  | THREE =>
    obtain ⟨b₀, _, h₀⟩ := hbyte 0 (by decide)
    obtain ⟨b₁, _, h₁⟩ := hbyte 1 (by decide)
    obtain ⟨b₂, _, h₂⟩ := hbyte 2 (by decide)
    exact ⟨_, by simp only [decodeTime, ifLonger, TimeSize.value, h₀, h₁, h₂]; rfl⟩
  | FOUR =>
    obtain ⟨b₀, _, h₀⟩ := hbyte 0 (by decide)
    obtain ⟨b₁, _, h₁⟩ := hbyte 1 (by decide)
    obtain ⟨b₂, _, h₂⟩ := hbyte 2 (by decide)
    obtain ⟨b₃, _, h₃⟩ := hbyte 3 (by decide)
    exact ⟨_, by simp only [decodeTime, ifLonger, TimeSize.value, h₀, h₁, h₂, h₃]; rfl⟩
  | SEVEN =>
    obtain ⟨b₀, _, h₀⟩ := hbyte 0 (by decide)
    obtain ⟨b₁, _, h₁⟩ := hbyte 1 (by decide)
    obtain ⟨b₂, _, h₂⟩ := hbyte 2 (by decide)
    obtain ⟨b₃, _, h₃⟩ := hbyte 3 (by decide)
    obtain ⟨b₄, _, h₄⟩ := hbyte 4 (by decide)
    obtain ⟨b₅, _, h₅⟩ := hbyte 5 (by decide)
    obtain ⟨b₆, _, h₆⟩ := hbyte 6 (by decide)
    exact ⟨_, by
      simp only [decodeTime, ifLonger, TimeSize.value, h₀, h₁, h₂, h₃, h₄, h₅, h₆]; rfl⟩

/-- A time has a byte at its last index. -/
theorem length_of_decodeTime {bs : Bytes} {timeSize : TimeSize} {time : Time}
    (h : decodeTime bs timeSize = .ok time) : timeSize.value ≤ bs.length := by
  obtain ⟨b₁, h₁, h⟩ := bind_eq_ok.mp h
  obtain ⟨b₀, h₀, h⟩ := bind_eq_ok.mp h
  obtain ⟨invalid, hinvalid, h⟩ := bind_eq_ok.mp h
  obtain ⟨substituted, _, h⟩ := bind_eq_ok.mp h
  obtain ⟨minutes, _, h⟩ := bind_eq_ok.mp h
  obtain ⟨summerTime, hsummerTime, h⟩ := bind_eq_ok.mp h
  obtain ⟨hours, _, h⟩ := bind_eq_ok.mp h
  obtain ⟨dayOfWeek, _, h⟩ := bind_eq_ok.mp h
  obtain ⟨dayOfMonth, _, h⟩ := bind_eq_ok.mp h
  obtain ⟨months, _, h⟩ := bind_eq_ok.mp h
  obtain ⟨years, hyears, h⟩ := bind_eq_ok.mp h
  cases timeSize with
  | TWO => exact lt_length_of_byteAt h₁
  | THREE =>
    obtain ⟨_, hx, _⟩ := bind_eq_ok.mp hinvalid
    obtain ⟨_, hb, _⟩ := bind_eq_ok.mp hx
    exact lt_length_of_byteAt hb
  | FOUR =>
    obtain ⟨_, hx, _⟩ := bind_eq_ok.mp hsummerTime
    obtain ⟨_, hb, _⟩ := bind_eq_ok.mp hx
    exact lt_length_of_byteAt hb
  | SEVEN =>
    obtain ⟨_, hx, _⟩ := bind_eq_ok.mp hyears
    obtain ⟨_, hb, _⟩ := bind_eq_ok.mp hx
    exact lt_length_of_byteAt hb

theorem decodeTime_checks {bs : Bytes} {timeSize : TimeSize} (h : bs.length < timeSize.value) :
    ∃ e, decodeTime bs timeSize = .error e := by
  cases hx : decodeTime bs timeSize with
  | error e => exact ⟨e, rfl⟩
  | ok time =>
    have := length_of_decodeTime hx
    omega

theorem decodeIoTime_fixedSize (timeSize : Option TimeSize) :
    FixedSize (timeLength timeSize) (decodeIoTime timeSize) := by
  cases timeSize with
  | none => exact FixedSize.intro (fun _ => .ok none) (fun bs => rfl) fun bs rest _ => rfl
  | some timeSize =>
    apply FixedSize.intro (fun bs => (decodeTime bs timeSize).map some)
    · intro bs
      rw [decodeIoTime]
      cases decodeTime bs timeSize <;> rfl
    · intro bs rest hlen
      rw [decodeTime_append hlen]

theorem decodeIoTime_checks (timeSize : TimeSize) :
    Checks timeSize.value (decodeIoTime (some timeSize)) := by
  intro bs hlen
  obtain ⟨e, he⟩ := decodeTime_checks hlen
  exact ⟨e, by rw [decodeIoTime, he]; rfl⟩

/-- What is written as a time has its size. -/
theorem length_encodeIoTime {timeSize : Option TimeSize} {time : Option Time} {ns : List ℕ}
    (h : encodeIoTime timeSize time = .ok ns) : ns.length = timeLength timeSize := by
  cases timeSize with
  | none =>
    obtain rfl := Except.ok.inj h
    rfl
  | some timeSize =>
    cases time with
    | none => cases h
    | some time =>
      simp only [encodeIoTime, encodeTime] at h
      split at h
      · cases h
      obtain ⟨minutes, hminutes, h⟩ := bind_eq_ok.mp h
      obtain ⟨hours, hhours, h⟩ := bind_eq_ok.mp h
      obtain ⟨date, hdate, h⟩ := bind_eq_ok.mp h
      obtain rfl := Except.ok.inj h
      cases timeSize with
      | TWO =>
        obtain rfl := Except.ok.inj hminutes
        obtain rfl := Except.ok.inj hhours
        obtain rfl := Except.ok.inj hdate
        rfl
      | THREE =>
        obtain ⟨_, _, hminutes⟩ := bind_eq_ok.mp hminutes
        obtain rfl := Except.ok.inj hminutes
        obtain rfl := Except.ok.inj hhours
        obtain rfl := Except.ok.inj hdate
        rfl
      | FOUR =>
        obtain ⟨_, _, hminutes⟩ := bind_eq_ok.mp hminutes
        obtain rfl := Except.ok.inj hminutes
        obtain ⟨_, _, hhours⟩ := bind_eq_ok.mp hhours
        obtain rfl := Except.ok.inj hhours
        obtain rfl := Except.ok.inj hdate
        rfl
      | SEVEN =>
        obtain ⟨_, _, hminutes⟩ := bind_eq_ok.mp hminutes
        obtain rfl := Except.ok.inj hminutes
        obtain ⟨_, _, hhours⟩ := bind_eq_ok.mp hhours
        obtain rfl := Except.ok.inj hhours
        obtain ⟨_, _, hdate⟩ := bind_eq_ok.mp hdate
        obtain ⟨_, _, hdate⟩ := bind_eq_ok.mp hdate
        obtain ⟨_, _, hdate⟩ := bind_eq_ok.mp hdate
        obtain ⟨_, _, hdate⟩ := bind_eq_ok.mp hdate
        obtain rfl := Except.ok.inj hdate
        rfl

/-- A time of its size is read. -/
theorem exists_decodeIoTime {timeSize : Option TimeSize} {bs : Bytes}
    (h : bs.length = timeLength timeSize) :
    ∃ time, outcome (decodeIoTime timeSize) bs = .ok time := by
  cases timeSize with
  | none => exact ⟨none, rfl⟩
  | some timeSize =>
    obtain ⟨time, htime⟩ := exists_decodeTime h
    exact ⟨some time, by rw [outcome, decodeIoTime, htime]; rfl⟩

/-! ### Objects and ASDUs -/

/-- A field of a fixed number of bytes, which accepts fewer. -/
def readInt (size : ℕ) : ByteReader Exn ℕ := fun bs => .ok (decodeInt size bs)

theorem readInt_fixedSize (size : ℕ) : FixedSize size (readInt size) := by
  apply FixedSize.intro fun bs => .ok (intFromBytes (bs.take size))
  · intro bs
    rfl
  · intro bs rest hlen
    rw [List.take_append_of_le_length hlen.ge]

theorem reads_readInt {x size : ℕ} (h : x < 256 ^ size) :
    Reads (readInt size) (bytesOf (leDigits size x)) x := by
  intro rest
  rw [readInt, decodeInt_leDigits h]

theorem length_intBytes (size x : ℕ) : (bytesOf (leDigits size x)).length = size := by simp

/-- A missing last byte of an integer is not noticed. -/
theorem readInt_tolerates {size : ℕ} (hsize : 0 < size) (x : ℕ) :
    Tolerates (readInt size) (bytesOf (leDigits size x)) := by
  have hlen := length_intBytes size x
  refine ⟨[], List.nil_prefix, fun heq => ?_, 0, ?_⟩
  · rw [← heq] at hlen
    simp only [List.length_nil] at hlen
    omega
  · simp [readInt, decodeInt, intFromBytes]

/-- `_decode_io`, field by field. -/
theorem Encoder.decodeIo_eq (e : Encoder η) (asduType ioeElementCount : ℕ) :
    e.decodeIo asduType ioeElementCount =
      bindRead (readInt e.ioAddressSize.value) fun address =>
        bindRead (readN (e.decodeIoElementCb asduType) ioeElementCount) fun elements =>
          bindRead (decodeIoTime (e.asduTypeTimeSizes.lookup asduType)) fun time bs =>
            .ok (({ address, elements, time } : Io η), bs) := rfl

/-- The type and the count byte. -/
def readHeader : ByteReader Exn (ℕ × ℕ) := fun bs => do
  let asduType ← byteAt bs 0
  let count ← byteAt bs 1
  return ((asduType, count), bs.drop 2)

/-- The objects `decode_asdu` reads for a count byte. -/
def Encoder.readIos (e : Encoder η) (asduType count : ℕ) : ByteReader Exn (List (Io η)) :=
  let isSequence := bit count 0x80 ^^ e.invertedSequenceBit
  readN (e.decodeIo asduType (if isSequence then count &&& 0x7F else 1))
    (if isSequence then 1 else count &&& 0x7F)

/-- `decode_asdu`, field by field. -/
theorem Encoder.decodeAsdu_eq (e : Encoder η) :
    e.decodeAsdu = bindRead readHeader fun header =>
      bindRead (readInt e.causeSize.value) fun cause =>
        bindRead (readInt e.asduAddressSize.value) fun address =>
          bindRead (e.readIos header.1 header.2) fun ios bs =>
            .ok (({ type := header.1, cause, address, ios } : ASDU η), bs) := by
  funext bs
  unfold Encoder.decodeAsdu bindRead readHeader
  cases byteAt bs 0 with
  | error e => rfl
  | ok asduType =>
    cases byteAt bs 1 with
    | error e => rfl
    | ok count => rfl

theorem readHeader_checks : Checks 2 readHeader := by
  intro bs hlen
  unfold readHeader
  cases byteAt bs 0 with
  | error e => exact ⟨e, rfl⟩
  | ok asduType => exact ⟨.indexError, by rw [byteAt_eq_error (i := 1) (by omega)]; rfl⟩

theorem reads_readHeader {asduType count : ℕ} (htype : asduType < 256) (hcount : count < 256) :
    Reads readHeader (bytesOf [asduType, count]) (asduType, count) := by
  intro rest
  simp only [readHeader, byteAt_bytesOf_zero htype, byteAt_bytesOf_succ,
    byteAt_bytesOf_zero hcount, ok_bind]
  rfl

/-- The bytes of an object. -/
def Encoder.ioBytes (e : Encoder η) (address : ℕ) (elements : List Bytes) (time : Bytes) : Bytes :=
  bytesOf (leDigits e.ioAddressSize.value address) ++ (elements.flatten ++ time)

/-- The bytes of an ASDU. -/
def Encoder.layout (e : Encoder η) (asduType count cause address : ℕ) (ios : List Bytes) : Bytes :=
  bytesOf [asduType, count] ++ (bytesOf (leDigits e.causeSize.value cause) ++
    (bytesOf (leDigits e.asduAddressSize.value address) ++ ios.flatten))

section

variable (e : Encoder η) {asduType : ℕ} {elements : List Bytes} {time : Bytes}

/-- What the decoder makes of the bytes of an object. -/
theorem Encoder.decodeIo_ioBytes {address : ℕ}
    (haddress : address < 256 ^ e.ioAddressSize.value)
    (helements : ∀ bs ∈ elements, Delimits (e.decodeIoElementCb asduType) bs)
    (htime : time.length = timeLength (e.asduTypeTimeSizes.lookup asduType)) (rest : Bytes) :
    e.decodeIo asduType elements.length (e.ioBytes address elements time ++ rest) = (do
      let xs ← elements.mapM (outcome (e.decodeIoElementCb asduType))
      let t ← outcome (decodeIoTime (e.asduTypeTimeSizes.lookup asduType)) time
      return (({ address, elements := xs, time := t } : Io η), rest)) := by
  rw [decodeIo_eq, bindRead, ioBytes, List.append_assoc, reads_readInt haddress _, ok_bind,
    bindRead, List.append_assoc, readN_delimited helements (time ++ rest)]
  cases elements.mapM (outcome (e.decodeIoElementCb asduType)) with
  | error e => rfl
  | ok xs =>
    show (decodeIoTime _ (time ++ rest) >>= _) = _
    rw [(decodeIoTime_fixedSize _).delimits time htime rest]
    cases outcome (decodeIoTime (e.asduTypeTimeSizes.lookup asduType)) time <;> rfl

theorem Encoder.delimits_ioBytes {address : ℕ}
    (haddress : address < 256 ^ e.ioAddressSize.value)
    (helements : ∀ bs ∈ elements, Delimits (e.decodeIoElementCb asduType) bs)
    (htime : time.length = timeLength (e.asduTypeTimeSizes.lookup asduType)) :
    Delimits (e.decodeIo asduType elements.length) (e.ioBytes address elements time) := by
  apply Delimits.intro (do
    let xs ← elements.mapM (outcome (e.decodeIoElementCb asduType))
    let t ← outcome (decodeIoTime (e.asduTypeTimeSizes.lookup asduType)) time
    return ({ address, elements := xs, time := t } : Io η))
  intro rest
  rw [e.decodeIo_ioBytes haddress helements htime rest]
  cases elements.mapM (outcome (e.decodeIoElementCb asduType)) with
  | error e => rfl
  | ok xs => cases outcome (decodeIoTime (e.asduTypeTimeSizes.lookup asduType)) time <;> rfl

end

/-! ### What is encoded -/

/-- The bytes of an object that was encoded. -/
def Encoder.EncodesIo (e : Encoder η) (asduType : ℕ) (io : Io η) (bs : Bytes) : Prop :=
  io.address < 256 ^ e.ioAddressSize.value ∧ ∃ elements time,
    List.Forall₂ (WrittenAs (e.encodeIoElementCb asduType)) io.elements elements ∧
      time.length = timeLength (e.asduTypeTimeSizes.lookup asduType) ∧
      bs = e.ioBytes io.address elements time

theorem Encoder.encodesIo_of_writtenAs {e : Encoder η} {asduType : ℕ} {io : Io η} {bs : Bytes}
    (h : WrittenAs (e.encodeIo asduType) io bs) : e.EncodesIo asduType io bs := by
  obtain ⟨ns, hns, hb, rfl⟩ := h
  obtain ⟨as, has, hns⟩ := bind_eq_ok.mp hns
  obtain ⟨es, hes, hns⟩ := bind_eq_ok.mp hns
  obtain ⟨ts, hts, hns⟩ := bind_eq_ok.mp hns
  obtain rfl := Except.ok.inj hns
  obtain ⟨haddress, rfl⟩ := intToBytes_eq_ok.mp has
  rw [allBytes_append, allBytes_append] at hb
  obtain ⟨elements, helements, hflatten⟩ := exists_written_of_writeAll hes hb.1.2
  refine ⟨haddress, elements, bytesOf ts, helements, ?_, ?_⟩
  · rw [length_bytesOf, length_encodeIoTime hts]
  · rw [ioBytes, ← hflatten, bytesOf_append, bytesOf_append, List.append_assoc]

/-- **The bytes of an ASDU that was encoded.** -/
theorem Encoder.layout_of_encodeAsdu {e : Encoder η} {asdu : ASDU η} {bs : Bytes}
    (h : e.encodeAsdu asdu = .ok bs) :
    asdu.type < 256 ∧ e.countByte asdu < 256 ∧ asdu.cause < 256 ^ e.causeSize.value ∧
      asdu.address < 256 ^ e.asduAddressSize.value ∧
      (asdu.isSequence = false → ∀ io ∈ asdu.ios, io.elements.length = 1) ∧
      ∃ ios, List.Forall₂ (e.EncodesIo asdu.type) asdu.ios ios ∧
        bs = e.layout asdu.type (e.countByte asdu) asdu.cause asdu.address ios := by
  obtain ⟨cs, hcs, h⟩ := bind_eq_ok.mp h
  obtain ⟨as, has, h⟩ := bind_eq_ok.mp h
  obtain ⟨is, his, h⟩ := bind_eq_ok.mp h
  obtain ⟨hcause, rfl⟩ := intToBytes_eq_ok.mp hcs
  obtain ⟨haddress, rfl⟩ := intToBytes_eq_ok.mp has
  obtain ⟨hb, rfl⟩ := toBytes_eq_ok.mp h
  simp only [allBytes_append, allBytes_cons] at hb
  obtain ⟨ios, hios, hflatten⟩ := exists_written_of_writeAll his hb.2
  have hguard : ∀ io bs, WrittenAs (e.encodeAsduIo asdu) io bs →
      (asdu.isSequence = false → io.elements.length = 1) ∧ e.EncodesIo asdu.type io bs := by
    rintro io bs ⟨ns, hns, hb, rfl⟩
    unfold encodeAsduIo at hns
    split at hns
    · cases hns
    · rename_i hif
      refine ⟨fun hseq => ?_, encodesIo_of_writtenAs ⟨ns, hns, hb, rfl⟩⟩
      simpa [hseq] using hif
  refine ⟨hb.1.1.1.1, hb.1.1.1.2.1, hcause, haddress, fun hseq io hio => ?_, ios, ?_, ?_⟩
  · obtain ⟨bs, _, hw⟩ := exists_of_forall₂ hios hio
    exact (hguard io bs hw).1 hseq
  · exact hios.imp fun io bs hw => (hguard io bs hw).2
  · rw [layout, ← hflatten]
    simp only [bytesOf_append, List.append_assoc]

end HatDrivers.Iec60870.Encodings
