import HatDrivers.Iec60870.Encodings.Iec104.RoundTrip
import HatDrivers.Iec60870.Encodings.Layout

namespace HatDrivers.Iec60870.Encodings

open HatDrivers.Lib

/-!
# IEC 60870-5 encodings — the number of objects and elements

The count byte has seven bits for the number of objects, or of the elements of the
only object, and one bit for the layout.  A number of eight bits is written over
that bit, and an encoded ASDU has its counts if and only if they fit in seven bits
(`Encoder.countLaw_iff`).
-/

variable {η : Type}

/-- The number of elements of each object. -/
def ASDU.counts (asdu : ASDU η) : List ℕ := asdu.ios.map fun io => io.elements.length

/-- At most 127 objects, of at most 127 elements each. -/
def ASDU.CountsFit (asdu : ASDU η) : Prop :=
  asdu.ios.length ≤ 127 ∧ ∀ io ∈ asdu.ios, io.elements.length ≤ 127

/-- What `decode_asdu` makes of a count byte. -/
def Encoder.countsOfByte (e : Encoder η) (count : ℕ) : List ℕ :=
  let isSequence := bit count 0x80 ^^ e.invertedSequenceBit
  List.replicate (if isSequence then 1 else count &&& 0x7F)
    (if isSequence then count &&& 0x7F else 1)

/-! ### Decoding -/

theorem length_of_decodeIo {e : Encoder η} {asduType ioeElementCount : ℕ} {bs rest : Bytes}
    {io : Io η} (h : e.decodeIo asduType ioeElementCount bs = .ok (io, rest)) :
    io.elements.length = ioeElementCount := by
  obtain ⟨⟨elements, rest'⟩, helements, h⟩ := bind_eq_ok.mp h
  obtain ⟨⟨time, rest''⟩, _, h⟩ := bind_eq_ok.mp h
  obtain rfl := (Prod.mk.inj (Except.ok.inj h)).1
  exact length_of_readN helements

/-- The counts of a decoded ASDU are those of its count byte. -/
theorem Encoder.counts_of_decodeAsdu {e : Encoder η} {bs rest : Bytes} {asdu : ASDU η}
    (h : e.decodeAsdu bs = .ok (asdu, rest)) {count : ℕ} (hcount : byteAt bs 1 = .ok count) :
    asdu.counts = e.countsOfByte count := by
  obtain ⟨asduType, _, h⟩ := bind_eq_ok.mp h
  obtain ⟨count', hcount', h⟩ := bind_eq_ok.mp h
  obtain rfl : count = count' := Except.ok.inj (hcount.symm.trans hcount')
  obtain ⟨⟨ios, rest'⟩, hios, h⟩ := bind_eq_ok.mp h
  obtain rfl := (Prod.mk.inj (Except.ok.inj h)).1
  apply List.eq_replicate_iff.mpr
  refine ⟨?_, fun n hn => ?_⟩
  · rw [ASDU.counts, List.length_map]
    exact length_of_readN hios
  · obtain ⟨io, hio, rfl⟩ := List.mem_map.mp hn
    obtain ⟨bs', rest'', hread⟩ := exists_of_mem_readN hios hio
    exact length_of_decodeIo hread

/-! ### The count byte -/

/-- A number of eight bits covers the bit of the layout. -/
private theorem countByte_high : ∀ n < 256, 128 ≤ n → ∀ flag : Bool,
    (if flag then 0x80 else 0x00) ||| n = n ∧ bit n 0x80 = true ∧ n &&& 0x7F = n - 128 := by
  decide +kernel

/-- The layout is the one the encoder chose. -/
private theorem isSequence_eq_false_of_counts {asdu : ASDU η}
    (h : asdu.isSequence = false → ∀ io ∈ asdu.ios, io.elements.length = 1)
    (hseq : asdu.isSequence = false) : asdu.counts = List.replicate asdu.ios.length 1 := by
  apply List.eq_replicate_iff.mpr
  refine ⟨List.length_map _, fun n hn => ?_⟩
  obtain ⟨io, hio, rfl⟩ := List.mem_map.mp hn
  exact h hseq io hio

theorem exists_of_isSequence {asdu : ASDU η} (h : asdu.isSequence = true) :
    ∃ io, asdu.ios = [io] ∧ 1 < io.elements.length := by
  unfold ASDU.isSequence at h
  split at h
  · rename_i io hios
    exact ⟨io, hios, of_decide_eq_true h⟩
  · cases h

/-- Counts that fit have the shape the encoder can carry. -/
theorem shape_of_countsFit {asdu : ASDU η}
    (h : asdu.isSequence = false → ∀ io ∈ asdu.ios, io.elements.length = 1)
    (hfit : asdu.CountsFit) : Shape asdu.ios := by
  cases hseq : asdu.isSequence with
  | true =>
    obtain ⟨io, hios, hlt⟩ := exists_of_isSequence hseq
    exact .inl ⟨io, hios, hlt.le, hfit.2 io (by simp [hios])⟩
  | false => exact .inr ⟨hfit.1, h hseq⟩

/-- The count byte of an ASDU says its counts if and only if they fit. -/
theorem Encoder.countsOfByte_countByte (e : Encoder η) {asdu : ASDU η}
    (hbyte : e.countByte asdu < 256)
    (h : asdu.isSequence = false → ∀ io ∈ asdu.ios, io.elements.length = 1) :
    e.countsOfByte (e.countByte asdu) = asdu.counts ↔ asdu.CountsFit := by
  constructor
  · intro heq
    by_contra hfit
    cases hseq : asdu.isSequence with
    | true =>
      obtain ⟨io, hios, hlt⟩ := exists_of_isSequence hseq
      have hhigh : 128 ≤ io.elements.length := by
        by_contra hlow
        apply hfit
        rw [ASDU.CountsFit, hios]
        simp only [List.length_singleton, List.mem_singleton, forall_eq]
        omega
      have hbyte' : e.countByte asdu =
          (if !e.invertedSequenceBit then 0x80 else 0x00) ||| io.elements.length := by
        rw [countByte, hseq, hios]
        cases e.invertedSequenceBit <;> rfl
      have hlt' : io.elements.length < 256 :=
        lt_of_le_of_lt (hbyte' ▸ Nat.right_le_or) hbyte
      obtain ⟨hor, hbit, hand⟩ := countByte_high _ hlt' hhigh (!e.invertedSequenceBit)
      rw [hbyte', hor, countsOfByte, hbit, hand, ASDU.counts, hios] at heq
      cases hinv : e.invertedSequenceBit with
      | false =>
        simp only [hinv, Bool.xor_false, if_true, List.replicate_one, List.map_cons, List.map_nil,
          List.cons.injEq, and_true] at heq
        omega
      | true =>
        -- the elements come back as objects of one element
        simp only [hinv, Bool.xor_self, Bool.false_eq_true, if_false, List.map_cons,
          List.map_nil] at heq
        have hone := List.eq_of_mem_replicate (heq ▸ List.mem_singleton_self io.elements.length)
        omega
    | false =>
      have hall := h hseq
      have hhigh : 128 ≤ asdu.ios.length := by
        by_contra hlow
        apply hfit
        exact ⟨by omega, fun io hio => by rw [hall io hio]; omega⟩
      have hbyte' : e.countByte asdu =
          (if e.invertedSequenceBit then 0x80 else 0x00) ||| asdu.ios.length := by
        rw [countByte, hseq]
      have hlt' : asdu.ios.length < 256 :=
        lt_of_le_of_lt (hbyte' ▸ Nat.right_le_or) hbyte
      obtain ⟨hor, hbit, hand⟩ := countByte_high _ hlt' hhigh e.invertedSequenceBit
      have hlen := congrArg List.length heq
      rw [hbyte', hor, countsOfByte, hbit, hand, isSequence_eq_false_of_counts h hseq,
        List.length_replicate, List.length_replicate] at hlen
      cases hinv : e.invertedSequenceBit with
      | false =>
        simp only [hinv, Bool.xor_false, if_true] at hlen
        omega
      | true =>
        simp only [hinv, Bool.xor_self, Bool.false_eq_true, if_false] at hlen
        omega
  · intro hfit
    obtain ⟨_, hlayout, hios, hcount, hlen⟩ := e.countByte_of_shape (shape_of_countsFit h hfit)
    rw [countsOfByte, hlayout, hios, hcount]
    symm
    apply List.eq_replicate_iff.mpr
    refine ⟨List.length_map _, fun n hn => ?_⟩
    obtain ⟨io, hio, rfl⟩ := List.mem_map.mp hn
    exact hlen io hio

/-! ### The count law -/

/-- Whatever the decoder of the elements does, a decoded ASDU has the counts of the encoded one if
and only if they fit. -/
theorem Encoder.counts_eq_iff {e : Encoder η} {asdu decoded : ASDU η} {bs rest rest' : Bytes}
    (h : e.encodeAsdu asdu = .ok bs) (hd : e.decodeAsdu (bs ++ rest) = .ok (decoded, rest')) :
    decoded.counts = asdu.counts ↔ asdu.CountsFit := by
  obtain ⟨htype, hbyte, _, _, hone, ios, _, rfl⟩ := layout_of_encodeAsdu h
  have hcount : byteAt
      (e.layout asdu.type (e.countByte asdu) asdu.cause asdu.address ios ++ rest) 1 =
      .ok (e.countByte asdu) := by
    rw [layout, List.append_assoc, byteAt_bytesOf_succ, byteAt_bytesOf_zero hbyte]
  rw [counts_of_decodeAsdu hd hcount]
  exact e.countsOfByte_countByte hbyte hone

/-- What the encoder writes for an element, the decoder reads as some element. -/
def Encoder.Rereads (e : Encoder η) (asdu : ASDU η) : Prop :=
  ∀ io ∈ asdu.ios, ∀ x ∈ io.elements, ∀ ns, e.encodeIoElementCb asdu.type x = .ok ns →
    AllBytes ns → ∃ y, Reads (e.decodeIoElementCb asdu.type) (bytesOf ns) y

theorem mapM_outcome_of_reads {r : ByteReader Exn η} {bss : List Bytes}
    (h : ∀ bs ∈ bss, ∃ a, Reads r bs a) : ∃ as, bss.mapM (outcome r) = .ok as := by
  apply exists_mapM_eq_ok
  intro bs hbs
  obtain ⟨a, ha⟩ := h bs hbs
  exact ⟨a, outcome_of_reads ha⟩

/-- The bytes of an object whose elements are read. -/
theorem Encoder.exists_reads_of_encodesIo {e : Encoder η} {asduType : ℕ} {io : Io η} {bs : Bytes}
    (h : e.EncodesIo asduType io bs)
    (hr : ∀ x ∈ io.elements, ∀ ns, e.encodeIoElementCb asduType x = .ok ns → AllBytes ns →
      ∃ y, Reads (e.decodeIoElementCb asduType) (bytesOf ns) y) :
    ∃ io', Reads (e.decodeIo asduType io.elements.length) bs io' := by
  obtain ⟨haddress, elements, time, helements, htime, rfl⟩ := h
  have hreads : ∀ bs ∈ elements, ∃ y, Reads (e.decodeIoElementCb asduType) bs y := by
    intro bs hbs
    obtain ⟨x, hx, ns, hns, hb, rfl⟩ := exists_of_forall₂' helements hbs
    exact hr x hx ns hns hb
  obtain ⟨xs, hxs⟩ := mapM_outcome_of_reads hreads
  obtain ⟨t, ht⟩ := exists_decodeIoTime htime
  refine ⟨⟨io.address, xs, t⟩, fun rest => ?_⟩
  rw [helements.length_eq, e.decodeIo_ioBytes haddress
    (fun bs hbs => (hreads bs hbs).choose_spec.delimits) htime rest, hxs, ht]
  rfl

/-- An encoded ASDU whose counts fit is decoded, if its elements are. -/
theorem Encoder.exists_decodeAsdu {e : Encoder η} {asdu : ASDU η} {bs : Bytes}
    (h : e.encodeAsdu asdu = .ok bs) (hr : e.Rereads asdu) (hfit : asdu.CountsFit) (rest : Bytes) :
    ∃ decoded, e.decodeAsdu (bs ++ rest) = .ok (decoded, rest) := by
  obtain ⟨htype, hbyte, hcause, haddress, hone, ios, hios, rfl⟩ := layout_of_encodeAsdu h
  obtain ⟨_, hseq, hlen, hcount, hall⟩ := e.countByte_of_shape (shape_of_countsFit hone hfit)
  have hreads : ∀ bs ∈ ios, ∃ io, Reads (e.decodeIo asdu.type asdu.elementCount) bs io := by
    intro bs hbs
    obtain ⟨io, hio, hencodes⟩ := exists_of_forall₂' hios hbs
    rw [← hall io hio]
    exact exists_reads_of_encodesIo hencodes (hr io hio)
  obtain ⟨decoded, hdecoded⟩ := mapM_outcome_of_reads hreads
  refine ⟨⟨asdu.type, asdu.cause, asdu.address, decoded⟩, ?_⟩
  rw [layout, decodeAsdu_eq, bindRead, List.append_assoc, reads_readHeader htype hbyte, ok_bind,
    bindRead, List.append_assoc, reads_readInt hcause, ok_bind, bindRead, List.append_assoc,
    reads_readInt haddress, ok_bind, bindRead, readIos, hseq, hlen, hcount, hios.length_eq,
    readN_delimited (fun bs hbs => (hreads bs hbs).choose_spec.delimits), hdecoded]
  rfl

/-- **The count law**: an ASDU that is encoded is decoded as one with the same number of objects,
each with the same number of elements, if and only if there are at most 127 objects, of at most 127
elements each.  Whatever the callbacks of the encoder are, nothing else is decoded with these
numbers; and what they are decoded from is decoded at all, if the callbacks read what they write. -/
theorem Encoder.countLaw_iff (e : Encoder η) (asdu : ASDU η) {bs : Bytes}
    (h : e.encodeAsdu asdu = .ok bs) :
    (∀ rest decoded rest', e.decodeAsdu (bs ++ rest) = .ok (decoded, rest') →
      (decoded.counts = asdu.counts ↔ asdu.CountsFit)) ∧
    (e.Rereads asdu →
      ((∃ decoded rest', e.decodeAsdu bs = .ok (decoded, rest') ∧ decoded.counts = asdu.counts) ↔
        asdu.CountsFit)) := by
  refine ⟨fun rest decoded rest' hd => counts_eq_iff h hd, fun hr => ⟨?_, fun hfit => ?_⟩⟩
  · rintro ⟨decoded, rest', hd, hcounts⟩
    have hd' : e.decodeAsdu (bs ++ []) = .ok (decoded, rest') := by rw [List.append_nil, hd]
    exact (counts_eq_iff h hd').mp hcounts
  · obtain ⟨decoded, hd⟩ := exists_decodeAsdu h hr hfit []
    refine ⟨decoded, [], by rwa [List.append_nil] at hd, (counts_eq_iff h hd).mpr hfit⟩

/-- Two single points. -/
def twoPoints : ASDU Iec104.IoElement where
  type := 1
  cause := 3
  address := 1
  ios := [7, 9].map fun address =>
    ⟨address, [.iec101 (.M_SP_NA .ON ⟨false, false, false, false⟩)], none⟩

theorem countLaw_iff_twoPoints :
    ∃ bs, Iec104.encoder.encodeAsdu twoPoints = .ok bs ∧
      ((∃ decoded rest', Iec104.encoder.decodeAsdu bs = .ok (decoded, rest') ∧
        decoded.counts = twoPoints.counts) ↔ twoPoints.CountsFit) := by
  refine ⟨[1, 2, 3, 0, 1, 0, 7, 0, 0, 1, 9, 0, 0, 1], rfl,
    (Iec104.encoder.countLaw_iff twoPoints rfl).2 ?_⟩
  intro io hio x hx ns hns _
  have hx' : x = .iec101 (.M_SP_NA .ON ⟨false, false, false, false⟩) := by
    simp only [twoPoints, List.map_cons, List.map_nil, List.mem_cons, List.not_mem_nil,
      or_false] at hio
    rcases hio with rfl | rfl <;> exact List.mem_singleton.mp hx
  obtain ⟨ns', hns', hb, hr⟩ := Iec104.encodeIoElement_codes
    (show x.Of .M_SP_NA by rw [hx']; exact ⟨rfl, trivial⟩)
  obtain rfl : ns' = ns := Except.ok.inj (hns'.symm.trans hns)
  exact ⟨x, hr⟩

/-- As many single points as a count byte has no room for. -/
def manyPoints : ASDU Iec104.IoElement where
  type := 1
  cause := 3
  address := 1
  ios := (List.range 130).map fun address =>
    ⟨address, [.iec101 (.M_SP_NA .ON ⟨false, false, false, false⟩)], none⟩

/-- A hundred and thirty objects are encoded, and decoded as one object of two elements. -/
theorem manyPoints_miscounted :
    ∃ bs decoded rest, Iec104.encoder.encodeAsdu manyPoints = .ok bs ∧
      Iec104.encoder.decodeAsdu bs = .ok (decoded, rest) ∧ manyPoints.counts.length = 130 ∧
        decoded.counts = [2] := by
  have hcounts : (Iec104.encoder.encodeAsdu manyPoints).bind (fun bs =>
      (Iec104.encoder.decodeAsdu bs).map fun p => p.1.counts) = .ok [2] := by
    decide +kernel
  obtain ⟨bs, hbs, hmap⟩ := bind_eq_ok.mp hcounts
  obtain ⟨⟨decoded, rest⟩, hdecoded, hcounts⟩ := map_eq_ok.mp hmap
  exact ⟨bs, decoded, rest, hbs, hdecoded, by simp [manyPoints, ASDU.counts], hcounts⟩

end HatDrivers.Iec60870.Encodings
