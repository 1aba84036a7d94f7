import HatDrivers.Iec60870.Encodings.Counts
import HatDrivers.Iec60870.Encodings.Iec101.Sizes

namespace HatDrivers.Iec60870.Encodings

open HatDrivers.Lib

/-!
# IEC 60870-5 encodings — truncated ASDUs

What an ASDU ends with decides whether missing bytes are noticed.  Causes, addresses
and some elements are slices, which accept fewer bytes than they need; a time, and
most elements, are read byte by byte.  An ASDU is rejected whenever bytes are missing
if and only if its last object ends with one of the latter (`truncation_iff`).
-/

variable {η : Type}

/-! ### Objects -/

section

variable {e : Encoder η} {asduType : ℕ} {elements : List Bytes} {time : Bytes}

/-- An object behind its address. -/
private def tailReader (e : Encoder η) (asduType count address : ℕ) : ByteReader Exn (Io η) :=
  bindRead (readN (e.decodeIoElementCb asduType) count) fun elements =>
    bindRead (decodeIoTime (e.asduTypeTimeSizes.lookup asduType)) fun time bs =>
      .ok (({ address, elements, time } : Io η), bs)

private theorem timeReader_spec (address : ℕ) (xs : List η) (timeSize : Option TimeSize)
    (htime : time.length = timeLength timeSize) :
    Delimits (bindRead (decodeIoTime timeSize) fun time bs =>
        .ok (({ address, elements := xs, time } : Io η), bs)) time ∧
      Exhausts (bindRead (decodeIoTime timeSize) fun time bs =>
        .ok (({ address, elements := xs, time } : Io η), bs)) time := by
  have hd := (decodeIoTime_fixedSize timeSize).delimits time htime
  have hnil : ∀ t, Delimits
      (fun bs => Except.ok (({ address, elements := xs, time := t } : Io η), bs))
      ([] : Bytes) := fun t => delimits_nil (ε := Exn) (.ok _)
  have hdelimits := hd.bind hnil
  have hexhausts := Exhausts.bind hd ((decodeIoTime_fixedSize timeSize).exhausts htime) hnil
    fun t p hp hne => absurd (List.prefix_nil.mp hp) hne
  rw [List.append_nil] at hdelimits hexhausts
  exact ⟨hdelimits, hexhausts⟩

/-- Missing bytes of an object are not filled from elsewhere. -/
theorem Encoder.exhausts_ioBytes {address : ℕ}
    (haddress : address < 256 ^ e.ioAddressSize.value)
    (hd : ∀ bs ∈ elements, Delimits (e.decodeIoElementCb asduType) bs)
    (he : ∀ bs ∈ elements, Exhausts (e.decodeIoElementCb asduType) bs)
    (htime : time.length = timeLength (e.asduTypeTimeSizes.lookup asduType)) :
    Exhausts (e.decodeIo asduType elements.length) (e.ioBytes address elements time) := by
  rw [decodeIo_eq]
  apply Exhausts.bind (reads_readInt haddress).delimits
    ((readInt_fixedSize _).exhausts (length_intBytes _ _))
  · intro address
    exact (Delimits.readN hd).bind fun xs => (timeReader_spec address xs _ htime).1
  · intro address
    exact Exhausts.bind (Delimits.readN hd) (Exhausts.readN hd he)
      (fun xs => (timeReader_spec address xs _ htime).1)
      fun xs => (timeReader_spec address xs _ htime).2

/-- A time is read byte by byte. -/
theorem Encoder.guards_ioBytes_of_time {address : ℕ} {timeSize : TimeSize}
    (haddress : address < 256 ^ e.ioAddressSize.value)
    (hd : ∀ bs ∈ elements, Delimits (e.decodeIoElementCb asduType) bs)
    (he : ∀ bs ∈ elements, Exhausts (e.decodeIoElementCb asduType) bs)
    (hsize : e.asduTypeTimeSizes.lookup asduType = some timeSize)
    (htime : time.length = timeSize.value) :
    Guards (e.decodeIo asduType elements.length) (e.ioBytes address elements time) := by
  have hpos : time ≠ [] := by
    intro hnil
    rw [hnil] at htime
    cases timeSize <;> cases htime
  rw [decodeIo_eq, hsize]
  apply Guards.bind (reads_readInt haddress).delimits
    ((readInt_fixedSize _).exhausts (length_intBytes _ _))
  · intro address
    apply Guards.bind (Delimits.readN hd) (Exhausts.readN hd he)
    · intro xs
      exact ((decodeIoTime_checks timeSize).guards htime).bind_nil
    · exact hpos
  · simp [hpos]

/-- So are most elements, with which an object ends that has no time. -/
theorem Encoder.guards_ioBytes_of_last {address : ℕ} {last : Bytes}
    (haddress : address < 256 ^ e.ioAddressSize.value)
    (hd : ∀ bs ∈ elements ++ [last], Delimits (e.decodeIoElementCb asduType) bs)
    (he : ∀ bs ∈ elements, Exhausts (e.decodeIoElementCb asduType) bs)
    (hlast : Guards (e.decodeIoElementCb asduType) last) (hne : last ≠ []) :
    Guards (e.decodeIo asduType (elements ++ [last]).length)
      (e.ioBytes address (elements ++ [last]) []) := by
  rw [decodeIo_eq]
  apply Guards.bind (reads_readInt haddress).delimits
    ((readInt_fixedSize _).exhausts (length_intBytes _ _))
  · intro address
    rw [List.append_nil]
    exact (Guards.readN hd he hlast hne).bind_nil
  · simp [hne]

/-- An element of which bytes may be missing, at the end of an object without time. -/
theorem Encoder.tolerates_ioBytes_of_last {address : ℕ} {last : Bytes}
    (haddress : address < 256 ^ e.ioAddressSize.value)
    (hr : ∀ bs ∈ elements, ∃ y, Reads (e.decodeIoElementCb asduType) bs y)
    (hsize : e.asduTypeTimeSizes.lookup asduType = none)
    (hlast : Tolerates (e.decodeIoElementCb asduType) last) :
    Tolerates (e.decodeIo asduType (elements ++ [last]).length)
      (e.ioBytes address (elements ++ [last]) []) := by
  rw [decodeIo_eq, hsize]
  apply Tolerates.bind (reads_readInt haddress)
  rw [List.append_nil]
  apply (Tolerates.readN hr hlast).bind_nil
  intro xs
  exact ⟨_, rfl⟩

/-- Elements without bytes leave the address at the end of an object. -/
theorem Encoder.tolerates_ioBytes_of_empty (address : ℕ)
    (hempty : ∀ bs ∈ elements, bs = [])
    (hr : ∀ bs ∈ elements, ∃ y, Reads (e.decodeIoElementCb asduType) bs y)
    (hsize : e.asduTypeTimeSizes.lookup asduType = none) :
    Tolerates (e.decodeIo asduType elements.length) (e.ioBytes address elements []) := by
  have hflatten : elements.flatten = [] := List.flatten_eq_nil_iff.mpr hempty
  obtain ⟨xs, hxs⟩ := mapM_outcome_of_reads hr
  have hread := readN_delimited (fun bs hbs => (hr bs hbs).choose_spec.delimits) []
  rw [hflatten, hxs] at hread
  rw [decodeIo_eq, hsize, ioBytes, hflatten, List.append_nil, List.append_nil]
  apply (readInt_tolerates (by cases e.ioAddressSize <;> decide) address).bind_nil
  intro address
  refine ⟨⟨address, xs, none⟩, ?_⟩
  rw [bindRead, show ([] : Bytes) = [] ++ [] from rfl, hread]
  rfl

end

/-! ### ASDUs -/

section

variable {e : Encoder η} {asduType count cause address : ℕ}

/-- An ASDU ends with its last object. -/
theorem Encoder.guards_layout {ios : List Bytes} {last : Bytes} {ioeElementCount : ℕ}
    (htype : asduType < 256) (hcount : count < 256) (hcause : cause < 256 ^ e.causeSize.value)
    (haddress : address < 256 ^ e.asduAddressSize.value)
    (hios : e.readIos asduType count =
      readN (e.decodeIo asduType ioeElementCount) (ios ++ [last]).length)
    (hd : ∀ bs ∈ ios ++ [last], Delimits (e.decodeIo asduType ioeElementCount) bs)
    (he : ∀ bs ∈ ios, Exhausts (e.decodeIo asduType ioeElementCount) bs)
    (hlast : Guards (e.decodeIo asduType ioeElementCount) last) (hne : last ≠ []) :
    Guards e.decodeAsdu (e.layout asduType count cause address (ios ++ [last])) := by
  have hflatten : (ios ++ [last]).flatten ≠ [] := by simp [hne]
  rw [decodeAsdu_eq]
  apply Guards.bind_of_guards (reads_readHeader htype hcount).delimits
    (readHeader_checks.guards rfl)
  intro header hheader
  obtain rfl : header = (asduType, count) := by
    rw [outcome_of_reads (reads_readHeader htype hcount)] at hheader
    exact (Except.ok.inj hheader).symm
  apply Guards.bind (reads_readInt hcause).delimits
    ((readInt_fixedSize _).exhausts (length_intBytes _ _))
  · intro cause
    apply Guards.bind (reads_readInt haddress).delimits
      ((readInt_fixedSize _).exhausts (length_intBytes _ _))
    · intro address
      rw [hios]
      exact (Guards.readN hd he hlast hne).bind_nil
    · exact hflatten
  · simp only [ne_eq, List.append_eq_nil_iff, not_and]
    exact fun _ => hflatten

/-- What may be missing in the last object may be missing in the ASDU. -/
theorem Encoder.tolerates_layout {ios : List Bytes} {last : Bytes} {ioeElementCount : ℕ}
    (htype : asduType < 256) (hcount : count < 256) (hcause : cause < 256 ^ e.causeSize.value)
    (haddress : address < 256 ^ e.asduAddressSize.value)
    (hios : e.readIos asduType count =
      readN (e.decodeIo asduType ioeElementCount) (ios ++ [last]).length)
    (hr : ∀ bs ∈ ios, ∃ io, Reads (e.decodeIo asduType ioeElementCount) bs io)
    (hlast : Tolerates (e.decodeIo asduType ioeElementCount) last) :
    Tolerates e.decodeAsdu (e.layout asduType count cause address (ios ++ [last])) := by
  rw [decodeAsdu_eq]
  apply Tolerates.bind (reads_readHeader htype hcount)
  apply Tolerates.bind (reads_readInt hcause)
  apply Tolerates.bind (reads_readInt haddress)
  rw [hios]
  apply (Tolerates.readN hr hlast).bind_nil
  intro ios
  exact ⟨_, rfl⟩

/-- Without an object the address may be missing. -/
theorem Encoder.tolerates_layout_nil (htype : asduType < 256) (hcount : count < 256)
    (hcause : cause < 256 ^ e.causeSize.value) {ioeElementCount : ℕ}
    (hios : e.readIos asduType count = readN (e.decodeIo asduType ioeElementCount) 0) :
    Tolerates e.decodeAsdu (e.layout asduType count cause address []) := by
  rw [decodeAsdu_eq]
  apply Tolerates.bind (reads_readHeader htype hcount)
  apply Tolerates.bind (reads_readInt hcause)
  rw [List.flatten_nil, List.append_nil]
  apply (readInt_tolerates (by cases e.asduAddressSize <;> decide) address).bind_nil
  intro address
  rw [hios]
  exact ⟨_, rfl⟩

end

/-! ### What an ASDU ends with -/

/-- The last object has a time, or its last element is not one of which bytes may be missing. -/
def Encoder.EndsChecked (e : Encoder η) (unguarded : η → Prop) (asduType : ℕ)
    (ios : List (Io η)) : Prop :=
  ∃ io, ios.getLast? = some io ∧
    ((e.asduTypeTimeSizes.lookup asduType).isSome = true ∨
      ∃ x, io.elements.getLast? = some x ∧ ¬ unguarded x)

/-- What the readers of elements do on the bytes of an element and on their prefixes. -/
structure Encoder.ElementPrefixes (e : Encoder η) (unguarded : η → Prop) (asduType : ℕ) (x : η)
    (bs : Bytes) : Prop where
  reads : ∃ y, Reads (e.decodeIoElementCb asduType) bs y
  exhausts : Exhausts (e.decodeIoElementCb asduType) bs
  guards : e.asduTypeTimeSizes.lookup asduType = none → ¬ unguarded x →
    Guards (e.decodeIoElementCb asduType) bs ∧ bs ≠ []
  tolerates : e.asduTypeTimeSizes.lookup asduType = none → unguarded x →
    Tolerates (e.decodeIoElementCb asduType) bs ∨ bs = []
  fixedSize : bs = [] → FixedSize 0 (e.decodeIoElementCb asduType)

theorem Encoder.ElementPrefixes.delimits {e : Encoder η} {unguarded : η → Prop} {asduType : ℕ}
    {x : η} {bs : Bytes} (h : e.ElementPrefixes unguarded asduType x bs) :
    Delimits (e.decodeIoElementCb asduType) bs :=
  h.reads.choose_spec.delimits

section

variable {e : Encoder η} {unguarded : η → Prop} {asduType : ℕ} {io : Io η} {bs : Bytes}

theorem Encoder.EncodesIo.exhausts (h : e.EncodesIo asduType io bs)
    (hx : ∀ x ∈ io.elements, ∀ bs, WrittenAs (e.encodeIoElementCb asduType) x bs →
      e.ElementPrefixes unguarded asduType x bs) :
    Delimits (e.decodeIo asduType io.elements.length) bs ∧
      Exhausts (e.decodeIo asduType io.elements.length) bs ∧ bs ≠ [] ∧
      ∃ io', Reads (e.decodeIo asduType io.elements.length) bs io' := by
  have hencodes := h
  obtain ⟨haddress, elements, time, helements, htime, rfl⟩ := h
  have hall : ∀ bs ∈ elements, Delimits (e.decodeIoElementCb asduType) bs ∧
      Exhausts (e.decodeIoElementCb asduType) bs := by
    intro bs hbs
    obtain ⟨x, hmem, hw⟩ := exists_of_forall₂' helements hbs
    have hprefixes := hx x hmem bs hw
    exact ⟨hprefixes.delimits, hprefixes.exhausts⟩
  have hread := exists_reads_of_encodesIo hencodes fun x hmem ns hns hb =>
    (hx x hmem _ ⟨ns, hns, hb, rfl⟩).reads
  rw [helements.length_eq] at hread ⊢
  refine ⟨e.delimits_ioBytes haddress (fun bs hbs => (hall bs hbs).1) htime,
    e.exhausts_ioBytes haddress (fun bs hbs => (hall bs hbs).1) (fun bs hbs => (hall bs hbs).2)
      htime, fun hnil => ?_, hread⟩
  have hlen := length_intBytes e.ioAddressSize.value io.address
  rw [(List.append_eq_nil_iff.mp hnil).1] at hlen
  cases he : e.ioAddressSize <;> rw [he] at hlen <;> cases hlen

/-- What an object ends with decides whether its prefixes are read. -/
theorem Encoder.EncodesIo.guards_or_tolerates (h : e.EncodesIo asduType io bs)
    (hne : io.elements ≠ [])
    (hx : ∀ x ∈ io.elements, ∀ bs, WrittenAs (e.encodeIoElementCb asduType) x bs →
      e.ElementPrefixes unguarded asduType x bs) :
    (((e.asduTypeTimeSizes.lookup asduType).isSome = true ∨
        ∃ x, io.elements.getLast? = some x ∧ ¬ unguarded x) →
      Guards (e.decodeIo asduType io.elements.length) bs) ∧
    (¬ ((e.asduTypeTimeSizes.lookup asduType).isSome = true ∨
        ∃ x, io.elements.getLast? = some x ∧ ¬ unguarded x) →
      Tolerates (e.decodeIo asduType io.elements.length) bs) := by
  obtain ⟨haddress, bss, time, helements, htime, rfl⟩ := h
  have hprefixes : ∀ bs ∈ bss, ∃ x ∈ io.elements, e.ElementPrefixes unguarded asduType x bs := by
    intro bs hbs
    obtain ⟨x, hmem, hw⟩ := exists_of_forall₂' helements hbs
    exact ⟨x, hmem, hx x hmem bs hw⟩
  have hd : ∀ bs ∈ bss, Delimits (e.decodeIoElementCb asduType) bs := by
    intro bs hbs
    obtain ⟨x, _, hp⟩ := hprefixes bs hbs
    exact hp.delimits
  have he : ∀ bs ∈ bss, Exhausts (e.decodeIoElementCb asduType) bs := by
    intro bs hbs
    obtain ⟨x, _, hp⟩ := hprefixes bs hbs
    exact hp.exhausts
  have hr : ∀ bs ∈ bss, ∃ y, Reads (e.decodeIoElementCb asduType) bs y := by
    intro bs hbs
    obtain ⟨x, _, hp⟩ := hprefixes bs hbs
    exact hp.reads
  cases hsize : e.asduTypeTimeSizes.lookup asduType with
  | some timeSize =>
    rw [hsize] at htime
    refine ⟨fun _ => ?_, fun hnot => absurd (.inl rfl) hnot⟩
    rw [helements.length_eq]
    exact guards_ioBytes_of_time haddress hd he hsize htime
  | none =>
    rw [hsize] at htime
    obtain rfl : time = [] := List.eq_nil_of_length_eq_zero htime
    -- the object ends with its last element
    obtain ⟨init, x, hlast⟩ : ∃ init x, io.elements = init ++ [x] :=
      ⟨_, _, (List.dropLast_append_getLast hne).symm⟩
    rw [hlast] at helements hx ⊢
    obtain ⟨bss, bs, rfl, hinit, hw⟩ := exists_concat_of_forall₂ helements
    have hp := hx x (by simp) bs hw
    have hgetLast : (init ++ [x]).getLast? = some x := by simp
    have hd' : ∀ bs ∈ bss, Exhausts (e.decodeIoElementCb asduType) bs := fun bs hbs =>
      he bs (by simp [hbs])
    have hr' : ∀ bs ∈ bss, ∃ y, Reads (e.decodeIoElementCb asduType) bs y := fun bs hbs =>
      hr bs (by simp [hbs])
    rw [helements.length_eq, hgetLast]
    refine ⟨?_, fun hnot => ?_⟩
    · rintro (h | ⟨y, hy, hguarded⟩)
      · cases h
      · obtain rfl := Option.some.inj hy
        obtain ⟨hg, hnil⟩ := hp.guards hsize hguarded
        exact guards_ioBytes_of_last haddress hd hd' hg hnil
    · have hunguarded : unguarded x := by
        by_contra hguarded
        exact hnot (.inr ⟨x, rfl, hguarded⟩)
      rcases hp.tolerates hsize hunguarded with htolerates | hnil
      · exact tolerates_ioBytes_of_last haddress hr' hsize htolerates
      · apply tolerates_ioBytes_of_empty
        · intro bs' hbs'
          obtain ⟨y, hy⟩ := hr bs' hbs'
          exact List.eq_nil_of_length_eq_zero ((hp.fixedSize hnil).length_eq hy)
        · exact hr
        · exact hsize

end

/-- **What an ASDU ends with decides whether its prefixes are decoded.** -/
theorem Encoder.guards_or_tolerates {e : Encoder η} {unguarded : η → Prop} {asdu : ASDU η}
    {bs : Bytes} (h : e.encodeAsdu asdu = .ok bs) (hshape : Shape asdu.ios)
    (hx : ∀ io ∈ asdu.ios, ∀ x ∈ io.elements, ∀ bs,
      WrittenAs (e.encodeIoElementCb asdu.type) x bs →
        e.ElementPrefixes unguarded asdu.type x bs) :
    (e.EndsChecked unguarded asdu.type asdu.ios → Guards e.decodeAsdu bs) ∧
      (¬ e.EndsChecked unguarded asdu.type asdu.ios → Tolerates e.decodeAsdu bs) := by
  obtain ⟨htype, hbyte, hcause, haddress, hone, bss, hbss, rfl⟩ := layout_of_encodeAsdu h
  obtain ⟨_, hseq, hlen, hcount, hall⟩ := e.countByte_of_shape hshape
  have hios : e.readIos asdu.type (e.countByte asdu) =
      readN (e.decodeIo asdu.type asdu.elementCount) asdu.ios.length := by
    rw [readIos, hseq, hlen, hcount]
  rcases List.eq_nil_or_concat asdu.ios with hnil | ⟨init, io, hlast⟩
  · rw [hnil] at hbss hios
    cases hbss
    refine ⟨?_, fun _ => tolerates_layout_nil htype hbyte hcause hios⟩
    rintro ⟨io, hio, -⟩
    rw [hnil] at hio
    cases hio
  · rw [List.concat_eq_append] at hlast
    rw [hlast] at hbss hios
    obtain ⟨bss, bs, rfl, hinit, hlastbs⟩ := exists_concat_of_forall₂ hbss
    rw [hbss.length_eq] at hios
    have hmem : ∀ io' ∈ init ++ [io], io'.elements.length = asdu.elementCount := fun io' hio' =>
      hall io' (hlast ▸ hio')
    have hio : io.elements.length = asdu.elementCount := hmem io (by simp)
    have hne : io.elements ≠ [] := by
      intro hnil
      rw [hnil] at hio
      rcases hshape with ⟨io', hios', hlo, _⟩ | ⟨_, hones⟩
      · rw [hlast] at hios'
        have hmem' : io ∈ [io'] := hios' ▸ (by simp : io ∈ init ++ [io])
        rw [← List.mem_singleton.mp hmem', hnil] at hlo
        cases hlo
      · have := hones io (hlast ▸ (by simp : io ∈ init ++ [io]))
        rw [hnil] at this
        cases this
    have hparts : ∀ bs ∈ bss, Delimits (e.decodeIo asdu.type asdu.elementCount) bs ∧
        Exhausts (e.decodeIo asdu.type asdu.elementCount) bs ∧
          ∃ io', Reads (e.decodeIo asdu.type asdu.elementCount) bs io' := by
      intro bs hbs
      obtain ⟨io', hio', hencodes⟩ := exists_of_forall₂' hinit hbs
      have hin : io' ∈ init ++ [io] := by simp [hio']
      obtain ⟨hd, he, _, hr⟩ := hencodes.exhausts (hx io' (hlast ▸ hin))
      rw [hmem io' hin] at hd he hr
      exact ⟨hd, he, hr⟩
    have hin : io ∈ asdu.ios := hlast ▸ (by simp : io ∈ init ++ [io])
    obtain ⟨hd, _, hbsne, _⟩ := hlastbs.exhausts (hx io hin)
    obtain ⟨hguards, htolerates⟩ := hlastbs.guards_or_tolerates hne (hx io hin)
    rw [hio] at hd hguards htolerates
    have hends : e.EndsChecked unguarded asdu.type asdu.ios ↔
        ((e.asduTypeTimeSizes.lookup asdu.type).isSome = true ∨
          ∃ x, io.elements.getLast? = some x ∧ ¬ unguarded x) := by
      rw [EndsChecked, hlast]
      simp only [List.getLast?_concat, Option.some.injEq, exists_eq_left']
    refine ⟨fun hends' => ?_, fun hends' => ?_⟩
    · apply guards_layout htype hbyte hcause haddress hios
      · intro bs' hbs'
        rcases List.mem_append.mp hbs' with hbs' | hbs'
        · exact (hparts bs' hbs').1
        · rw [List.mem_singleton.mp hbs']
          exact hd
      · exact fun bs' hbs' => (hparts bs' hbs').2.1
      · exact hguards (hends.mp hends')
      · exact hbsne
    · apply tolerates_layout htype hbyte hcause haddress hios
      · exact fun bs' hbs' => (hparts bs' hbs').2.2
      · exact htolerates fun h => hends' (hends.mpr h)

end HatDrivers.Iec60870.Encodings
