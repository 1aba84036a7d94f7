import HatDrivers.Iec60870.Encodings.Security.Segmentation

namespace HatDrivers.Iec60870.Encodings.Security

open HatDrivers.Lib

/-!
# IEC 60870-5-7 — round trip of ASDUs

The objects of an ASDU are those of its type: the two unsegmented types are written
whole, the others as segments.  `encodeAsdu_decodeAll` puts the two together.
-/

variable {encoder : InnerEncoder}

/-! ### Objects -/

/-- Objects of an unsegmented type are read one after the other. -/
theorem decodeIos_unsegmented (encoder : InnerEncoder) {asduType : AsduType}
    (htype : asduType ∈ unsegmentedAsduTypes) (cause : Cause) (address n : ℕ) (bs : Bytes)
    (buffer : Option Buffer) :
    (decodeIos encoder asduType cause address n bs buffer).1 =
      readN (decodeUnsegmentedIo encoder asduType) n bs := by
  induction n generalizing bs buffer with
  | zero => rfl
  | succ n ih =>
    rw [decodeIos, decodeIo, if_pos htype, readN_succ]
    cases hio : decodeUnsegmentedIo encoder asduType bs with
    | error e => simp [mapRead, hio]
    | ok p =>
      obtain ⟨io, rest⟩ := p
      have htail := ih rest none
      simp only [mapRead, hio, ok_bind, pure_eq_ok]
      cases hios : decodeIos encoder asduType cause address n rest none with
      | mk result buffer =>
        rw [hios] at htail
        simp only at htail
        rw [← htail]
        cases result <;> rfl

/-- An object of S_IT_TC is written and read back. -/
theorem Io.Timed.codes {io : Io} (h : io.Timed encoder) (hn : io.element.Normal) :
    Codes (encodeIo encoder io) (decodeUnsegmentedIo encoder .S_IT_TC) io := by
  obtain ⟨address, element, time⟩ := io
  obtain ⟨⟨address, rfl, haddress⟩, ⟨time, rfl, hsize, htime⟩, htype, helement⟩ := h
  obtain ⟨es, hes, heb⟩ := encodeIoElement_writes helement
  obtain ⟨ts, hts, htb, htlen, htr⟩ := encodeTime_codes htime
  rw [hsize] at hts htlen htr
  have htlen : ts.length = 7 := htlen
  have hdelimited : element.Delimited = true := by
    cases element <;> first | rfl | cases htype
  refine ⟨leDigits encoder.ioAddressSize.value address ++ es ++ ts, ?_, by simp [heb, htb], ?_⟩
  · simp [encodeIo, encodeIoAddress, intToBytes_of_lt haddress, hes, hts]
  · intro rest
    have hread := decodeIoElement_encodeIoElement helement hn hes (bytesOf ts ++ rest)
      (.inl hdelimited)
    rw [show element.asduType = .S_IT_TC from htype] at hread
    simp [decodeUnsegmentedIo, decodeInt_leDigits haddress, hread, htr rest,
      drop_bytesOf_append htlen]

/-- The object of S_KR_NA is written and read back. -/
theorem encodeIo_codes_S_KR_NA {element : IoElement} (h : element.InRange encoder)
    (hn : element.Normal) (htype : element.asduType = .S_KR_NA) :
    Codes (encodeIo encoder { address := none, element, time := none })
      (decodeUnsegmentedIo encoder .S_KR_NA) { address := none, element, time := none } := by
  obtain ⟨es, hes, heb⟩ := encodeIoElement_writes h
  have hdelimited : element.Delimited = true := by
    cases element <;> first | rfl | cases htype
  refine ⟨es, by simp [encodeIo, encodeIoAddress, hes], heb, fun rest => ?_⟩
  have hread := decodeIoElement_encodeIoElement h hn hes rest (.inl hdelimited)
  rw [htype] at hread
  simp [decodeUnsegmentedIo, hread]

/-- The objects of an ASDU of an unsegmented type are written and read back. -/
theorem ASDU.WellFormed.ios_codes {asdu : ASDU} (h : asdu.WellFormed encoder)
    (htype : asdu.type ∈ unsegmentedAsduTypes) :
    ∀ io ∈ asdu.ios, Codes (encodeIo encoder io) (decodeUnsegmentedIo encoder asdu.type) io := by
  intro io hio
  have hn := h.element_normal io hio
  rcases h.ios with ⟨heq, _, htimed⟩ | ⟨hne, element, hios, heq, hrange⟩
  · rw [heq]
    exact (htimed io hio).codes hn
  · have hkr : asdu.type = .S_KR_NA := by
      simpa [unsegmentedAsduTypes, hne] using htype
    rw [hios, List.mem_singleton] at hio
    subst hio
    rw [hkr] at heq ⊢
    exact encodeIo_codes_S_KR_NA hrange hn heq

/-- The object of S_KR_NA has two bytes. -/
theorem ASDU.WellFormed.length_of_writeAll {asdu : ASDU} (h : asdu.WellFormed encoder)
    (hne : asdu.type ≠ .S_IT_TC) (htype : asdu.type ∈ unsegmentedAsduTypes) {ns : List ℕ}
    (hns : writeAll (encodeIo encoder) asdu.ios = .ok ns) : ns.length = 2 := by
  have hkr : asdu.type = .S_KR_NA := by simpa [unsegmentedAsduTypes, hne] using htype
  rcases h.ios with ⟨heq, _⟩ | ⟨_, element, hios, heq, hrange⟩
  · exact absurd heq hne
  · rw [hkr] at heq
    cases element with
    | S_KR_NA user =>
      have huser : user < 256 ^ 2 := hrange
      rw [hios] at hns
      simp only [writeAll, encodeIo, encodeIoAddress, encodeIoElement, intToBytes_of_lt huser,
        ok_bind] at hns
      obtain rfl := Except.ok.inj hns
      simp
    | _ => cases heq

/-- The addresses of the objects of an ASDU in range are written. -/
theorem ASDU.InRange.addresses {asdu : ASDU} (h : asdu.InRange encoder) :
    ∃ as, asdu.ios.mapM (encodeIoAddress encoder) = .ok as := by
  refine exists_mapM_eq_ok fun io hio => ?_
  rcases h.ios with ⟨_, _, htimed⟩ | ⟨_, element, hios, _⟩
  · obtain ⟨address, haddress, hlt⟩ := (htimed io hio).address
    exact ⟨_, by rw [encodeIoAddress, haddress]; exact intToBytes_of_lt hlt⟩
  · rw [hios, List.mem_singleton] at hio
    exact ⟨[], by rw [hio]; rfl⟩

/-- An element in range has bytes. -/
theorem encodeIoElement_ne_nil {element : IoElement} (h : element.InRange encoder) {ns : List ℕ}
    (hns : encodeIoElement element = .ok ns) : ns ≠ [] := by
  cases element with
  | S_UC_NA mac =>
    obtain rfl := Except.ok.inj hns
    have hmac : mac ≠ [] := h
    simpa [encodeData] using hmac
  | S_KR_NA user =>
    obtain ⟨_, rfl⟩ := intToBytes_eq_ok.mp (show intToBytes user 2 = .ok ns from hns)
    simp [leDigits]
  | S_IT_TC associationId value =>
    obtain ⟨as, has, hns⟩ := bind_eq_ok.mp hns
    obtain ⟨vs, _, hns⟩ := bind_eq_ok.mp hns
    obtain ⟨_, rfl⟩ := intToBytes_eq_ok.mp has
    obtain rfl := Except.ok.inj hns
    simp [leDigits]
  | S_ER_NA challengeSequence keyChangeSequence user associationId code time text =>
    obtain ⟨hcs, hks, huser, hassoc, hcode, ⟨hsize, htime⟩, htext⟩ := h
    obtain ⟨ts, hts, _⟩ := encodeTime_codes htime
    rw [hsize] at hts
    simp only [encodeIoElement, intToBytes_of_lt, hcs, hks, huser, hassoc, hcode, htext, hts,
      ok_bind] at hns
    obtain rfl := Except.ok.inj hns
    simp [leDigits]
  | _ =>
    simp only [IoElement.InRange] at h
    simp only [encodeIoElement, intToBytes_of_lt, h, ok_bind] at hns
    obtain rfl := Except.ok.inj hns
    simp [leDigits]

/-! ### ASDUs -/

/-- What a run of discarded segments returns. -/
abbrev nothing (encoder : InnerEncoder) (n : ℕ) :
    List (Except Exn (Option (AnyASDU encoder) × Bytes)) :=
  List.replicate n (.ok (none, []))

theorem resultsOf_zeros {α : Type} (r : Except Exn (Option α × Bytes)) (n : ℕ) :
    resultsOf r (List.replicate (n + 1) 0) = List.replicate n (.ok (none, [])) ++ [r] := by
  induction n with
  | zero => rfl
  | succ n ih =>
    rw [List.replicate_succ, List.replicate_succ, resultsOf, ← List.replicate_succ, ih]
    rfl

/-- The message is among the results once. -/
theorem exists_resultsOf {α : Type} (r : Except Exn (Option α × Bytes)) {ks : List ℕ}
    (hks : ks ≠ []) : ∃ before after, resultsOf r ks =
      List.replicate before (.ok (none, [])) ++ r :: List.replicate after (.ok (none, [])) := by
  induction ks with
  | nil => exact absurd rfl hks
  | cons k ks ih =>
    cases ks with
    | nil => exact ⟨0, k, rfl⟩
    | cons k' ks =>
      obtain ⟨before, after, heq⟩ := ih (by simp)
      refine ⟨k + 1 + before, after, ?_⟩
      rw [resultsOf, heq, ← List.append_assoc, List.replicate_append_replicate]

/-- An ASDU of an unsegmented type is written whole, and read back. -/
theorem decodeAsdu_unsegmented {e : Encoder} {asdu : ASDU} (h : asdu.WellFormed e.encoder)
    (htype : asdu.type ∈ unsegmentedAsduTypes) :
    ∃ bs, e.encodeAsdu (.inl asdu) = .ok [bs] ∧
      (asdu.type ≠ .S_IT_TC → bs.length ≤ e.maxAsduSize) ∧
      ∀ buffer, (decodeAsdu e.encoder bs buffer).1 = .ok (some (.inl asdu), []) := by
  obtain ⟨ns, hns, hb, hlen, hread⟩ := encodeIdentifier_spec h
  obtain ⟨as, has⟩ := h.toInRange.addresses
  have hcodes := h.ios_codes htype
  obtain ⟨rs, hrs, hrb⟩ := Writes.writeAll fun io hio => (hcodes io hio).writes
  have hios := RoundTrips.writeAll (fun io hio => (hcodes io hio).roundTrips) rs hrs hrb []
  refine ⟨bytesOf (ns ++ rs), ?_, fun hne => ?_, fun buffer => ?_⟩
  · have hbytes : toBytes (ns ++ rs) = .ok (bytesOf (ns ++ rs)) :=
      toBytes_eq_ok.mpr ⟨by simp [hb, hrb], rfl⟩
    simp [Encoder.encodeAsdu, encodeSecurityAsdu, hns, has, hrs, htype, hbytes]
  · have hrs := h.length_of_writeAll hne htype hrs
    have hroom := e.header_lt
    rw [length_bytesOf, List.length_append]
    omega
  · obtain ⟨hbyte, hheader⟩ := hread (bytesOf rs)
    have hvalue : (Enumeration.ofValue? asdu.type.value : Option AsduType) = some asdu.type :=
      Enumeration.ofValue?_value asdu.type
    have hgeneral := decodeIos_unsegmented e.encoder htype asdu.cause
      asdu.address asdu.ios.length (bytesOf rs) buffer
    rw [List.append_nil] at hios
    rw [hios] at hgeneral
    have hnonempty : ¬ (asdu.type ≠ .S_IT_TC ∧ asdu.ios = []) := by
      rintro ⟨hne, hnil⟩
      rcases h.ios with ⟨heq, _⟩ | ⟨_, element, hios, _⟩
      · exact hne heq
      · rw [hnil] at hios
        cases hios
    simp only [decodeAsdu, decodeSecurityAsdu, bytesOf_append, hbyte, hvalue, hheader]
    cases hdecoded : decodeIos e.encoder asdu.type asdu.cause asdu.address asdu.ios.length
        (bytesOf rs) buffer with
    | mk result buffer' =>
      rw [hdecoded] at hgeneral
      simp only at hgeneral
      subst hgeneral
      simp [hnonempty]

/-- An ASDU of a segmented type is written as segments that complete it. -/
theorem decodeAll_segmented {e : Encoder} {asdu : ASDU} (h : asdu.WellFormed e.encoder)
    (htype : asdu.type ∉ unsegmentedAsduTypes) :
    ∃ segments, e.encodeAsdu (.inl asdu) = .ok segments ∧ segments ≠ [] ∧
      (∀ bs ∈ segments, bs.length ≤ e.maxAsduSize) ∧
      ∀ ks : List ℕ, ks.length = segments.length → (segments.length = 1 → ks = [0]) →
        ∀ buffer, (decodeAll e.encoder (repeatEach segments ks) buffer).1 =
          resultsOf (.ok (some (.inl asdu), [])) ks := by
  obtain ⟨ns, hns, hb, hlen, _⟩ := encodeIdentifier_spec h
  obtain ⟨as, has⟩ := h.toInRange.addresses
  have hne : asdu.type ≠ .S_IT_TC := by
    intro heq
    exact htype (by rw [heq]; decide)
  obtain ⟨element, hios, heq, hrange⟩ : ∃ element : IoElement,
      asdu.ios = [{ address := none, element, time := none }] ∧ element.asduType = asdu.type ∧
        element.InRange e.encoder := by
    rcases h.ios with ⟨heq, _⟩ | ⟨_, hios⟩
    · exact absurd heq hne
    · exact hios
  have hnormal : element.Normal :=
    h.element_normal _ (by rw [hios]; exact List.mem_singleton_self _)
  obtain ⟨es, hes, heb⟩ := encodeIoElement_writes hrange
  have hwrite : writeAll (encodeIo e.encoder) asdu.ios = .ok es := by
    simp [hios, writeAll, encodeIo, encodeIoAddress, hes]
  have hbytes : toBytes es = .ok (bytesOf es) := toBytes_eq_ok.mpr ⟨heb, rfl⟩
  have hrest : bytesOf es ≠ [] := by
    have hne := encodeIoElement_ne_nil hrange hes
    simpa [bytesOf] using hne
  have hroom := e.header_lt
  obtain ⟨segments, hsegments, hle, hnil⟩ := encodeSegments_spec hb
    (show 0 < e.maxAsduSize - ns.length - 1 by omega) (bytesOf es).length true 0 (bytesOf es)
    (by omega) (Nat.le_refl _)
  refine ⟨segments, ?_, fun h => hrest (hnil h), fun bs hbs => ?_, fun ks hks hone buffer => ?_⟩
  · simp [Encoder.encodeAsdu, encodeSecurityAsdu, hns, has, hwrite, htype, hbytes]
    simpa using hsegments
  · have := hle bs hbs
    omega
  · have hread := decodeIoElement_encodeIoElement hrange hnormal hes [] (.inr rfl)
    rw [decodeAll_message h htype hns hb (by omega) hrest hsegments hks hone]
    rw [List.append_nil, heq] at hread
    simp only [messageOf, hread, ok_bind, pure_eq_ok]
    rw [← hios]

/-- **Segmentation round trip.**  A well-formed ASDU is written as segments that fit
the maximal size, but for S_IT_TC, which is written whole; all of them but the last
decode to nothing, and the last one to the ASDU; and if there are several, the ASDU
is returned once however often each of them is repeated. -/
theorem encodeAsdu_decodeAll (e : Encoder) (asdu : ASDU) (h : asdu.WellFormed e.encoder) :
    ∃ segments, e.encodeAsdu (.inl asdu) = .ok segments ∧
      (asdu.type ≠ .S_IT_TC → ∀ bs ∈ segments, bs.length ≤ e.maxAsduSize) ∧
      (asdu.type = .S_IT_TC → segments.length = 1) ∧
      (∀ buffer, (decodeAll e.encoder segments buffer).1 =
        nothing e.encoder (segments.length - 1) ++ [.ok (some (.inl asdu), [])]) ∧
      (2 ≤ segments.length → ∀ repeats : List ℕ, repeats.length = segments.length →
        ∀ buffer, ∃ before after,
          (decodeAll e.encoder (repeatEach segments repeats) buffer).1 =
            nothing e.encoder before ++ .ok (some (.inl asdu), []) ::
              nothing e.encoder after) := by
  by_cases htype : asdu.type ∈ unsegmentedAsduTypes
  · obtain ⟨bs, hbs, hle, hread⟩ := decodeAsdu_unsegmented h htype
    refine ⟨[bs], hbs, fun hne => ?_, fun _ => rfl, fun buffer => ?_, fun hlen => ?_⟩
    · intro bs' hbs'
      rw [List.mem_singleton.mp hbs']
      exact hle hne
    · rw [decodeAll_cons, hread buffer]
      rfl
    · exact absurd hlen (by simp)
  · obtain ⟨segments, hsegments, hne, hle, hread⟩ := decodeAll_segmented h htype
    obtain ⟨n, hn⟩ : ∃ n, segments.length = n + 1 :=
      Nat.exists_eq_add_one.mpr (List.length_pos_iff.mpr hne)
    refine ⟨segments, hsegments, fun _ => hle, fun htc => ?_, fun buffer => ?_,
      fun hlen ks hks buffer => ?_⟩
    · exact absurd (show asdu.type ∈ unsegmentedAsduTypes by rw [htc]; decide) htype
    · have hzero := hread (List.replicate segments.length 0) (List.length_replicate ..)
        (fun hone => by rw [hone]; rfl) buffer
      rw [repeatEach_zero, hn, resultsOf_zeros] at hzero
      rw [hzero, hn]
      rfl
    · rw [hread ks hks (fun hone => by omega) buffer]
      exact exists_resultsOf _ (by rintro rfl; simp at hks; omega)

/-- Segments of three bytes over 104. -/
def threeByteSegments : Encoder where
  encoder := .iec104
  maxAsduSize := 10
  header_lt := by decide

/-- A cause of the security extension. -/
def authentication : Cause where
  type := .enum .AUTHENTICATION
  isNegativeConfirm := false
  isTest := false
  originatorAddress := 0

theorem authentication_inRange : authentication.InRange .TWO := ⟨by decide, by decide, by decide⟩

/-- A challenge with a MAC algorithm. -/
def challenge (macAlgorithm : EnumOr MacAlgorithm) : ASDU where
  type := .S_CH_NA
  cause := authentication
  address := 1
  ios := [{ address := none, element := .S_CH_NA 7 1 macAlgorithm 1 [1, 2, 3, 4], time := none }]

theorem challenge_inRange {macAlgorithm : EnumOr MacAlgorithm} (h : macAlgorithm.toNat < 256 ^ 1) :
    (challenge macAlgorithm).InRange .iec104 where
  cause := authentication_inRange
  address_lt := show 1 < 256 ^ 2 by decide
  ios := .inr ⟨by simp [challenge], .S_CH_NA 7 1 macAlgorithm 1 [1, 2, 3, 4], rfl, rfl,
    ⟨by decide, by decide, h, by decide, by decide⟩⟩

theorem challenge_wellFormed : (challenge (.enum .AES_GMAC)).WellFormed .iec104 where
  toInRange := challenge_inRange (by decide)
  cause_normal := trivial
  element_normal := by
    simp only [challenge, List.forall_mem_singleton]
    trivial

theorem encodeAsdu_decodeAll_challenge :
    ∃ segments, threeByteSegments.encodeAsdu (.inl (challenge (.enum .AES_GMAC))) = .ok segments ∧
      ((challenge (.enum .AES_GMAC)).type ≠ .S_IT_TC → ∀ bs ∈ segments, bs.length ≤ 10) ∧
      ((challenge (.enum .AES_GMAC)).type = .S_IT_TC → segments.length = 1) ∧
      (∀ buffer, (decodeAll .iec104 segments buffer).1 =
        nothing .iec104 (segments.length - 1) ++
          [.ok (some (.inl (challenge (.enum .AES_GMAC))), [])]) ∧
      (2 ≤ segments.length → ∀ repeats : List ℕ, repeats.length = segments.length →
        ∀ buffer, ∃ before after,
          (decodeAll .iec104 (repeatEach segments repeats) buffer).1 =
            nothing .iec104 before ++ .ok (some (.inl (challenge (.enum .AES_GMAC))), []) ::
              nothing .iec104 after) :=
  encodeAsdu_decodeAll threeByteSegments _ challenge_wellFormed

/-- A counter of security statistics, with its time. -/
def statistics : ASDU where
  type := .S_IT_TC
  cause := authentication
  address := 1
  ios := [{ address := some 3, element := .S_IT_TC 5 ⟨-1⟩, time := some Iec104.summerNoon }]

theorem statistics_wellFormed : statistics.WellFormed .iec104 where
  cause := authentication_inRange
  address_lt := by decide
  ios := by
    have helement : (IoElement.S_IT_TC 5 ⟨-1⟩).InRange .iec104 :=
      ⟨by decide, ⟨by decide, by decide⟩⟩
    refine .inl ⟨rfl, by decide, ?_⟩
    simp only [statistics, List.forall_mem_singleton]
    exact ⟨⟨3, rfl, by decide⟩, ⟨_, rfl, rfl, Iec104.summerNoon_valid⟩, rfl, helement⟩
  cause_normal := trivial
  element_normal := by
    simp only [statistics, List.forall_mem_singleton]
    trivial

/-- An ASDU of S_IT_TC is written whole, whatever the maximal size; and an integer that
stands for a named MAC algorithm is read back as the named one. -/
theorem statistics_and_integer_not_roundTrip :
    (statistics.WellFormed .iec104 ∧
      ∃ bs, threeByteSegments.encodeAsdu (.inl statistics) = .ok [bs] ∧
        threeByteSegments.maxAsduSize < bs.length) ∧
    ((challenge (.int 3)).InRange .iec104 ∧
      ∃ segments, threeByteSegments.encodeAsdu (.inl (challenge (.int 3))) = .ok segments ∧
        (decodeAll .iec104 segments none).1 ≠
          nothing .iec104 (segments.length - 1) ++
            [.ok (some (.inl (challenge (.int 3))), [])]) := by
  refine ⟨⟨statistics_wellFormed, _, rfl, by decide⟩, challenge_inRange (by decide),
    [[81, 1, 14, 0, 1, 0, 64, 7, 0, 0], [81, 1, 14, 0, 1, 0, 1, 0, 1, 0],
      [81, 1, 14, 0, 1, 0, 2, 3, 1, 4], [81, 1, 14, 0, 1, 0, 3, 0, 1, 2],
      [81, 1, 14, 0, 1, 0, 132, 3, 4]], rfl, ?_⟩
  intro h
  have hnamed : nothing .iec104 4 ++ [.ok (some (.inl (challenge (.enum .HMAC_SHA_256_8))), [])] =
      nothing .iec104 4 ++ [.ok (some (.inl (challenge (.int 3))), [])] := h
  have hlast := List.append_inj_right hnamed rfl
  simp [challenge] at hlast

end HatDrivers.Iec60870.Encodings.Security
