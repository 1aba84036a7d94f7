import HatDrivers.Iec104.Encoder
import HatDrivers.Iec60870.Encodings.Iec104.Truncation

namespace HatDrivers.Iec104

open HatDrivers.Lib
open Iec60870.Encodings (Io timeLength)
open Iec60870.Encodings.Iec101 (decodeTypedAsdu)

/-!
# IEC 60870-5-101 and 104 drivers — sequences of elements

With the sequence bit an ASDU has one object with consecutive elements, else objects
with an element each.  The drivers make the same messages of both
(`decode_sequence_iff`): an element is decoded by itself, and of its position only the
address of its message depends.
-/

/-! ### One message for each element -/

section

variable {ε α β γ : Type}

/-- Decoding every element and then making the messages, or one after the other. -/
theorem mapM_zipIdx_eq_ok {r : α → Except ε β} {g : β → ℕ → Except ε γ} {as : List α} {k : ℕ}
    {cs : List γ} :
    (as.mapM r >>= fun bs => (bs.zipIdx k).mapM fun p => g p.1 p.2) = .ok cs ↔
      ∃ css, ((as.zipIdx k).mapM fun p => r p.1 >>= fun b => (g b p.2).map fun c => [c]) = .ok css ∧
        cs = css.flatten := by
  induction as generalizing k cs with
  | nil =>
    constructor
    · intro h
      obtain rfl := Except.ok.inj h
      exact ⟨[], rfl, rfl⟩
    · rintro ⟨css, hcss, rfl⟩
      obtain rfl := Except.ok.inj hcss
      rfl
  | cons a as ih =>
    rw [List.mapM_cons, List.zipIdx_cons, List.mapM_cons]
    constructor
    · intro h
      obtain ⟨bs, hbs, hcs⟩ := bind_eq_ok.mp h
      obtain ⟨b, hb, hbs⟩ := bind_eq_ok.mp hbs
      obtain ⟨bs', hbs', hbs⟩ := bind_eq_ok.mp hbs
      obtain rfl := Except.ok.inj hbs
      rw [List.zipIdx_cons, List.mapM_cons] at hcs
      obtain ⟨c, hc, hcs⟩ := bind_eq_ok.mp hcs
      obtain ⟨cs', hcs', hcs⟩ := bind_eq_ok.mp hcs
      obtain rfl := Except.ok.inj hcs
      obtain ⟨css, hcss, rfl⟩ := ih.mp (bind_eq_ok.mpr ⟨bs', hbs', hcs'⟩)
      have hone : (r a >>= fun b => (g b k).map fun c => [c]) = .ok [c] :=
        bind_eq_ok.mpr ⟨b, hb, by rw [hc]; rfl⟩
      exact ⟨[c] :: css, bind_eq_ok.mpr ⟨[c], hone, bind_eq_ok.mpr ⟨css, hcss, rfl⟩⟩, rfl⟩
    · rintro ⟨css, hcss, rfl⟩
      obtain ⟨cs, hcs, hcss⟩ := bind_eq_ok.mp hcss
      obtain ⟨css', hcss', hcss⟩ := bind_eq_ok.mp hcss
      obtain rfl := Except.ok.inj hcss
      obtain ⟨b, hb, hcs⟩ := bind_eq_ok.mp hcs
      obtain ⟨c, hc, rfl⟩ := map_eq_ok.mp hcs
      obtain ⟨bs, hbs, hrest⟩ := bind_eq_ok.mp (ih.mpr ⟨css', hcss', rfl⟩)
      apply bind_eq_ok.mpr
      refine ⟨b :: bs, ?_, ?_⟩
      · rw [hb, hbs]
        rfl
      · rw [List.zipIdx_cons, List.mapM_cons]
        simp only [hc, hrest, ok_bind]
        rfl

end

/-! ### The two layouts -/

end HatDrivers.Iec104

namespace HatDrivers.Iec60870.Encodings

open HatDrivers.Lib

variable {η : Type}

/-- An ASDU with the sequence bit: one object with consecutive elements. -/
def Encoder.sequenceBytes (e : Encoder η) (asduType cause address ioAddress : ℕ)
    (elements : List Bytes) (time : Bytes) : Bytes :=
  e.layout asduType (0x80 ||| elements.length) cause address [e.ioBytes ioAddress elements time]

/-- An ASDU without the sequence bit: here one object, with one element. -/
def Encoder.singleBytes (e : Encoder η) (asduType cause address ioAddress : ℕ) (element : Bytes)
    (time : Bytes) : Bytes :=
  e.layout asduType 1 cause address [e.ioBytes ioAddress [element] time]

/-- Fields that fit their sizes, up to the address of the last element. -/
structure Encoder.FitsSequence (e : Encoder η) (asduType cause address ioAddress : ℕ)
    (elements : List Bytes) (time : Bytes) : Prop where
  cause_lt : cause < 256 ^ e.causeSize.value
  address_lt : address < 256 ^ e.asduAddressSize.value
  ioAddress_lt : ioAddress + (elements.length - 1) < 256 ^ e.ioAddressSize.value
  length_le : elements.length ≤ 127
  time_length : time.length = timeLength (e.asduTypeTimeSizes.lookup asduType)

/-- An ASDU whose object has several elements is encoded with the sequence bit. -/
theorem Encoder.sequenceBytes_of_encodeAsdu {e : Encoder η} {asdu : ASDU η} {io : Io η}
    {bs : Bytes} (hinverted : e.invertedSequenceBit = false) (h : e.encodeAsdu asdu = .ok bs)
    (hios : asdu.ios = [io]) (hlength : 1 < io.elements.length) :
    ∃ elements time, List.Forall₂ (WrittenAs (e.encodeIoElementCb asdu.type)) io.elements elements ∧
      time.length = timeLength (e.asduTypeTimeSizes.lookup asdu.type) ∧
      bs = e.sequenceBytes asdu.type asdu.cause asdu.address io.address elements time := by
  obtain ⟨_, _, _, _, _, ios, hwritten, rfl⟩ := Encoder.layout_of_encodeAsdu h
  rw [hios] at hwritten
  obtain ⟨_, _, hio, hnil, rfl⟩ := List.forall₂_cons_left_iff.mp hwritten
  obtain rfl := List.forall₂_nil_left_iff.mp hnil
  obtain ⟨_, elements, time, helements, htime, rfl⟩ := hio
  have hseq : asdu.isSequence = true := by simp [ASDU.isSequence, hios, hlength]
  have hcount : e.countByte asdu = 0x80 ||| elements.length := by
    simp [countByte, hseq, hios, hinverted, helements.length_eq]
  exact ⟨elements, time, helements, htime, by rw [sequenceBytes, hcount]⟩

end HatDrivers.Iec60870.Encodings

namespace HatDrivers.Iec104

open HatDrivers.Lib
open Iec60870.Encodings (Io timeLength)
open Iec60870.Encodings.Iec101 (decodeTypedAsdu)

section

variable {τ η μ : Type} (encoder : Iec60870.Encodings.Encoder η)
  (decodeAsduType : ℕ → Except Exn τ)
  (decodeIoElement : Iec60870.Encodings.Iec101.ASDU τ η → Io η → η → ℕ → Except Exn μ)

/-- `decode` of the drivers. -/
def decodeMsgs (data : Bytes) : Except Exn (List μ) := do
  let (asdu, _) ← decodeTypedAsdu encoder decodeAsduType data
  let msgs ← asdu.ios.mapM fun io =>
    io.elements.zipIdx.mapM fun (element, i) => decodeIoElement asdu io element i
  return msgs.flatten

/-- Of the position of an element, its object and its ASDU, a message has the address of the
element, the time of the object, and the type, cause and address of the ASDU. -/
def Positional : Prop :=
  ∀ asdu io element i, decodeIoElement asdu io element i =
    decodeIoElement { asdu with ios := [] }
      { address := io.address + i, elements := [], time := io.time } element 0

/-- The drivers decode an ASDU in the generic encoder's order of the fields, with types of their
own, and the sequence bit of the standards. -/
structure Decodes (asduType : ℕ) (type : τ) : Prop where
  not_inverted : encoder.invertedSequenceBit = false
  positional : Positional decodeIoElement
  asduType_lt : asduType < 256
  decodeAsduType_eq : decodeAsduType asduType = .ok type

variable {encoder decodeAsduType decodeIoElement}

theorem readIos_sequence (h : encoder.invertedSequenceBit = false) (asduType : ℕ) {n : ℕ}
    (hn : n ≤ 127) :
    encoder.readIos asduType (0x80 ||| n) = readN (encoder.decodeIo asduType n) 1 := by
  obtain ⟨_, hcount, hbit⟩ := Iec60870.Encodings.countByte_spec n (by omega) true
  simp only [if_true] at hcount hbit
  simp only [Iec60870.Encodings.Encoder.readIos, h, hbit, hcount, Bool.xor_false, if_true]

theorem readIos_single (h : encoder.invertedSequenceBit = false) (asduType : ℕ) :
    encoder.readIos asduType 1 = readN (encoder.decodeIo asduType 1) 1 := by
  have hbit : bit 1 0x80 = false := rfl
  simp [Iec60870.Encodings.Encoder.readIos, h, hbit]

section

variable {asduType cause address ioAddress : ℕ} {type : τ} {elements : List Bytes} {time : Bytes}
  {t : Option Iec60870.Encodings.Time}

/-- The message of an element at an address, in an ASDU and an object of which the other fields
are known. -/
def message (f : Iec60870.Encodings.Iec101.ASDU τ η → Io η → η → ℕ → Except Exn μ)
    (encoder : Iec60870.Encodings.Encoder η) (type : τ) (cause address : ℕ)
    (t : Option Iec60870.Encodings.Time) (element : η) (ioAddress : ℕ) : Except Exn μ :=
  f { type, cause := Iec60870.Encodings.Iec101.decodeCause cause encoder.causeSize, address,
      ios := [] }
    { address := ioAddress, elements := [], time := t } element 0

/-- The messages of an ASDU with one object. -/
theorem decodeMsgs_layout (h : Decodes encoder decodeAsduType decodeIoElement asduType type)
    (hcause : cause < 256 ^ encoder.causeSize.value)
    (haddress : address < 256 ^ encoder.asduAddressSize.value)
    (hioAddress : ioAddress < 256 ^ encoder.ioAddressSize.value)
    (helements : ∀ bs ∈ elements, Delimits (encoder.decodeIoElementCb asduType) bs)
    (htime : time.length = timeLength (encoder.asduTypeTimeSizes.lookup asduType))
    (ht : outcome (Iec60870.Encodings.decodeIoTime (encoder.asduTypeTimeSizes.lookup asduType))
      time = .ok t)
    {count : ℕ} (hcount : count < 256)
    (hios : encoder.readIos asduType count =
      readN (encoder.decodeIo asduType elements.length) 1) :
    decodeMsgs encoder decodeAsduType decodeIoElement
        (encoder.layout asduType count cause address
          [encoder.ioBytes ioAddress elements time]) =
      elements.mapM (outcome (encoder.decodeIoElementCb asduType)) >>= fun xs =>
        xs.zipIdx.mapM fun p =>
          message decodeIoElement encoder type cause address t p.1 (ioAddress + p.2) := by
  have hio := encoder.decodeIo_ioBytes hioAddress helements htime []
  rw [ht, List.append_nil] at hio
  simp only [decodeMsgs, decodeTypedAsdu, encoder.decodeAsdu_eq, bindRead,
    Iec60870.Encodings.Encoder.layout,
    Iec60870.Encodings.reads_readHeader h.asduType_lt hcount _, ok_bind,
    Iec60870.Encodings.reads_readInt hcause _, Iec60870.Encodings.reads_readInt haddress _, hios,
    List.flatten_singleton, readN_succ, hio]
  cases elements.mapM (outcome (encoder.decodeIoElementCb asduType)) with
  | error e => rfl
  | ok xs =>
    -- one object, so that its messages are all messages
    have hmsgs : (fun p : η × ℕ => decodeIoElement
        { type, cause := Iec60870.Encodings.Iec101.decodeCause cause encoder.causeSize, address,
          ios := [{ address := ioAddress, elements := xs, time := t }] }
        { address := ioAddress, elements := xs, time := t } p.1 p.2) =
        fun p => message decodeIoElement encoder type cause address t p.1 (ioAddress + p.2) := by
      funext p
      exact h.positional _ _ p.1 p.2
    simp only [ok_bind, readN, h.decodeAsduType_eq, List.mapM_cons, List.mapM_nil, pure_bind]
    rw [hmsgs]
    cases xs.zipIdx.mapM fun p =>
      message decodeIoElement encoder type cause address t p.1 (ioAddress + p.2) with
    | error e => rfl
    | ok msgs =>
      show Except.ok ([msgs].flatten) = .ok msgs
      rw [List.flatten_singleton]

/-- **A sequence and its elements one by one** give the same messages, or neither is decoded. -/
theorem decodeMsgs_sequence_iff
    (h : Decodes encoder decodeAsduType decodeIoElement asduType type)
    (helements : ∀ bs ∈ elements, Delimits (encoder.decodeIoElementCb asduType) bs)
    (hfits : encoder.FitsSequence asduType cause address ioAddress elements time)
    {msgs : List μ} :
    decodeMsgs encoder decodeAsduType decodeIoElement
        (encoder.sequenceBytes asduType cause address ioAddress elements time) = .ok msgs ↔
      ∃ mss, (elements.zipIdx.mapM fun p =>
          decodeMsgs encoder decodeAsduType decodeIoElement
            (encoder.singleBytes asduType cause address (ioAddress + p.2) p.1 time)) = .ok mss ∧
        msgs = mss.flatten := by
  have hioAddress := hfits.ioAddress_lt
  have hlength := hfits.length_le
  obtain ⟨t, ht⟩ := Iec60870.Encodings.exists_decodeIoTime hfits.time_length
  have hcount : 0x80 ||| elements.length < 256 :=
    (Iec60870.Encodings.countByte_spec elements.length (by omega) true).1
  have hfirst : ioAddress < 256 ^ encoder.ioAddressSize.value := by omega
  have hsequence := decodeMsgs_layout h hfits.cause_lt hfits.address_lt hfirst helements
    hfits.time_length ht hcount (readIos_sequence h.not_inverted asduType hlength)
  have hsingle : ∀ p ∈ elements.zipIdx,
      decodeMsgs encoder decodeAsduType decodeIoElement
        (encoder.singleBytes asduType cause address (ioAddress + p.2) p.1 time) =
        outcome (encoder.decodeIoElementCb asduType) p.1 >>= fun x =>
          (message decodeIoElement encoder type cause address t x (ioAddress + p.2)).map
            fun msg => [msg] := by
    intro p hp
    obtain ⟨_, hlt, heq⟩ := List.mem_zipIdx hp
    have hmem : p.1 ∈ elements := by
      rw [heq]
      exact List.getElem_mem _
    have hone : ∀ bs ∈ [p.1], Delimits (encoder.decodeIoElementCb asduType) bs := by
      intro bs hbs
      rw [List.mem_singleton.mp hbs]
      exact helements _ hmem
    rw [Iec60870.Encodings.Encoder.singleBytes,
      decodeMsgs_layout h hfits.cause_lt hfits.address_lt (by omega) hone hfits.time_length ht
        (by omega) (readIos_single h.not_inverted asduType)]
    simp only [List.mapM_cons, List.mapM_nil, bind_assoc, pure_bind, List.zipIdx_cons,
      List.zipIdx_nil, Nat.add_zero]
    cases outcome (encoder.decodeIoElementCb asduType) p.1 with
    | error e => rfl
    | ok x =>
      simp only [ok_bind]
      cases message decodeIoElement encoder type cause address t x (ioAddress + p.2) <;> rfl
  rw [Iec60870.Encodings.Encoder.sequenceBytes, hsequence, mapM_congr hsingle]
  exact mapM_zipIdx_eq_ok (g := fun x i =>
    message decodeIoElement encoder type cause address t x (ioAddress + i))

end

end

/-! ### Elements of the types -/

end HatDrivers.Iec104

namespace HatDrivers.Iec60870.Encodings

open HatDrivers.Lib

/-- Bytes of the length of an element of the type; a segment has its length in its fourth byte. -/
def Iec101.AsduType.Holds (t : Iec101.AsduType) (bs : Bytes) : Prop :=
  if t = .F_SG_NA then ∃ length, byteAt bs 3 = .ok length ∧ bs.length = 4 + length
  else bs.length = t.elementSize

/-- Bytes of the length of an element of the type, which 101 has or has not. -/
def Iec104.AsduType.Holds (t : Iec104.AsduType) (bs : Bytes) : Prop :=
  (∃ t' : Iec101.AsduType, t'.value = t.value ∧ t'.Holds bs) ∨
    (t.value ∉ Iec104.iec101AsduTypes ∧ bs.length = t.elementSize)

theorem Iec101.delimits_decodeElement {t : Iec101.AsduType} {bs : Bytes} (h : t.Holds bs) :
    Delimits (Iec101.decodeElement t) bs := by
  unfold Iec101.AsduType.Holds at h
  split at h
  · rename_i ht
    obtain rfl := ht
    obtain ⟨length, hbyte, hlen⟩ := h
    obtain ⟨sectionName, _, hsection⟩ := exists_byteAt (show 2 < bs.length by omega)
    apply Delimits.intro
      (.ok (Iec101.IoElement.F_SG_NA (intFromBytes (bs.take 2)) sectionName
        (slice bs 4 (4 + length))))
    intro rest
    simp only [Iec101.decodeElement]
    rw [byteAt_append (by omega), byteAt_append (by omega), hsection, hbyte,
      List.take_append_of_le_length (by omega)]
    simp only [ok_bind, ← hlen, List.drop_left, Iec101.slice_append le_rfl]
    rfl
  · rename_i ht
    exact (Iec101.decodeElement_fixedSize ht).delimits bs h

theorem Iec101.delimits_decodeIoElement {t : Iec101.AsduType} {bs : Bytes} (h : t.Holds bs) :
    Delimits (Iec101.decodeIoElement t.value) bs := by
  rw [Iec101.decodeIoElement_value]
  exact Iec101.delimits_decodeElement h

theorem Iec104.delimits_decodeIoElement {t : Iec104.AsduType} {bs : Bytes} (h : t.Holds bs) :
    Delimits (Iec104.decodeIoElement t.value) bs := by
  have hdecode : Iec104.decodeAsduType t.value = .ok t := Iec104.decodeAsduType_value t
  rcases h with ⟨t', ht', h⟩ | ⟨hnew, hlen⟩
  · have hmem := Iec104.mem_iec101AsduTypes ht'
    have hcb : Iec104.decodeIoElement t.value =
        mapRead Iec104.IoElement.iec101 (Iec101.decodeIoElement t'.value) := by
      funext bs
      simp only [Iec104.decodeIoElement, hdecode, ok_bind, if_pos hmem, ht']
    rw [hcb]
    exact (Iec101.delimits_decodeIoElement h).map _
  · have hcb : Iec104.decodeIoElement t.value = Iec104.decodeElement t := by
      funext bs
      simp only [Iec104.decodeIoElement, hdecode, ok_bind, if_neg hnew]
    rw [hcb]
    exact (Iec104.decodeElement_fixedSize hnew).delimits bs hlen

end HatDrivers.Iec60870.Encodings

namespace HatDrivers.Iec104

open HatDrivers.Lib
open Iec60870.Encodings (Io)

/-! ### The drivers -/

theorem decodes_iec101 (e : Iec60870.Encodings.Iec101.Encoder)
    (t : Iec60870.Encodings.Iec101.AsduType) :
    Decodes e.encoder Iec60870.Encodings.Iec101.decodeAsduType Iec101.decodeIoElement t.value t
      where
  not_inverted := rfl
  positional := fun asdu io element i => rfl
  asduType_lt := by cases t <;> decide
  decodeAsduType_eq := Iec60870.Encodings.Iec101.decodeAsduType_value t

theorem decodes_iec104 (t : Iec60870.Encodings.Iec104.AsduType) :
    Decodes Iec60870.Encodings.Iec104.encoder Iec60870.Encodings.Iec104.decodeAsduType
      decodeIoElement t.value t where
  not_inverted := rfl
  positional := fun asdu io element i => rfl
  asduType_lt := by cases t <;> decide
  decodeAsduType_eq := Iec60870.Encodings.Iec104.decodeAsduType_value t

/-- **Sequences and individual elements mean the same.**  Of an ASDU with the sequence bit, the
drivers of 101, in any field sizes, and of 104 return the messages they return for the ASDUs that
have one of its elements each, at consecutive addresses, one after the other. -/
theorem decode_sequence_iff :
    (∀ (e : Iec101.Encoder) (t : Iec60870.Encodings.Iec101.AsduType)
        (cause address ioAddress : ℕ) (elements : List Bytes) (time : Bytes)
        (msgs : List Iec101.Msg),
      (∀ bs ∈ elements, t.Holds bs) →
      e.encoder.encoder.FitsSequence t.value cause address ioAddress elements time →
        (e.decode (e.encoder.encoder.sequenceBytes t.value cause address ioAddress elements time) =
            .ok msgs ↔
          ∃ mss, (elements.zipIdx.mapM fun p =>
              e.decode (e.encoder.encoder.singleBytes t.value cause address (ioAddress + p.2)
                p.1 time)) = .ok mss ∧
            msgs = mss.flatten)) ∧
    (∀ (t : Iec60870.Encodings.Iec104.AsduType)
        (cause address ioAddress : ℕ) (elements : List Bytes) (time : Bytes) (msgs : List Msg),
      (∀ bs ∈ elements, t.Holds bs) →
      Iec60870.Encodings.Iec104.encoder.FitsSequence t.value cause address ioAddress elements
        time →
        (decode (Iec60870.Encodings.Iec104.encoder.sequenceBytes t.value cause address ioAddress
            elements time) = .ok msgs ↔
          ∃ mss, (elements.zipIdx.mapM fun p =>
              decode (Iec60870.Encodings.Iec104.encoder.singleBytes t.value cause address
                (ioAddress + p.2) p.1 time)) = .ok mss ∧
            msgs = mss.flatten)) := by
  constructor
  · intro e t cause address ioAddress elements time msgs helements hfits
    exact decodeMsgs_sequence_iff (decodes_iec101 e.encoder t)
      (fun bs hbs => Iec60870.Encodings.Iec101.delimits_decodeIoElement (helements bs hbs)) hfits
  · intro t cause address ioAddress elements time msgs helements hfits
    exact decodeMsgs_sequence_iff (decodes_iec104 t)
      (fun bs hbs => Iec60870.Encodings.Iec104.delimits_decodeIoElement (helements bs hbs)) hfits

/-- Two single points from address 7. -/
theorem decode_sequence_iff_twoPoints :
    ∃ msgs, decode (Iec60870.Encodings.Iec104.encoder.sequenceBytes 1 3 1 7 [[1], [0]] []) =
        .ok msgs ∧ msgs.length = 2 ∧
      ∃ mss, ([([1], 0), ([0], 1)] : List (Bytes × ℕ)).mapM (fun p =>
          decode (Iec60870.Encodings.Iec104.encoder.singleBytes 1 3 1 (7 + p.2) p.1 [])) =
            .ok mss ∧
        msgs = mss.flatten := by
  have hlength : (decode (Iec60870.Encodings.Iec104.encoder.sequenceBytes 1 3 1 7 [[1], [0]]
      [])).map List.length = .ok 2 := by decide
  obtain ⟨msgs, hmsgs, hlen⟩ := map_eq_ok.mp hlength
  have helements : ∀ bs ∈ ([[1], [0]] : List Bytes),
      Iec60870.Encodings.Iec104.AsduType.Holds .M_SP_NA bs := by
    intro bs hbs
    left
    refine ⟨.M_SP_NA, rfl, ?_⟩
    rcases List.mem_pair.mp hbs with rfl | rfl <;> rfl
  refine ⟨msgs, hmsgs, hlen, ?_⟩
  exact (decode_sequence_iff.2 .M_SP_NA 3 1 7 [[1], [0]] [] msgs helements
    ⟨by decide, by decide, by decide, by decide, rfl⟩).mp hmsgs

end HatDrivers.Iec104
