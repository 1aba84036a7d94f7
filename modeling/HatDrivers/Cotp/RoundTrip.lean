import HatDrivers.Cotp.Encoder

namespace HatDrivers.Cotp

open HatDrivers.Lib

/-!
# COTP — round trip of the encoder

Every TPDU is read back unless it has a preferred size (`decode_encode_iff`): that is written under
the code of the maximum size, and nothing is ever written under its own.
-/

/-! ### TPDUs in range -/

/-- The parameters of a connect TPDU: the sizes are a power of two and a multiple of 128. -/
structure ConnectInRange (cls : ℕ) (callingTsel calledTsel maxTpdu prefMaxTpdu : Option ℕ) :
    Prop where
  cls : cls < 16
  callingTsel : ∀ tsel, callingTsel = some tsel → tsel < 65536
  calledTsel : ∀ tsel, calledTsel = some tsel → tsel < 65536
  maxTpdu : ∀ size, maxTpdu = some size → ∃ k < 256, size = 2 ^ k
  prefMaxTpdu : ∀ size, prefMaxTpdu = some size → 128 ∣ size

/-- The references, selectors and sizes are in range. -/
def Tpdu.InRange : Tpdu → Prop
  | .DT _ => True
  | .CR tpdu => tpdu.src < 65536 ∧ ConnectInRange tpdu.cls tpdu.callingTsel tpdu.calledTsel
      tpdu.maxTpdu tpdu.prefMaxTpdu
  | .CC tpdu => tpdu.dst < 65536 ∧ tpdu.src < 65536 ∧ ConnectInRange tpdu.cls tpdu.callingTsel
      tpdu.calledTsel tpdu.maxTpdu tpdu.prefMaxTpdu
  | .DR tpdu => tpdu.dst < 65536 ∧ tpdu.src < 65536 ∧ tpdu.reason < 256
  | .ER tpdu => tpdu.dst < 65536 ∧ tpdu.cause < 256

def Tpdu.prefMaxTpdu : Tpdu → Option ℕ
  | .CR tpdu => tpdu.prefMaxTpdu
  | .CC tpdu => tpdu.prefMaxTpdu
  | .DT _ | .DR _ | .ER _ => none

/-! ### Headers -/

variable {ns : List ℕ}

theorem uint16Bytes_of_lt {x : ℕ} (h : x < 65536) : uint16Bytes x = .ok (beDigits 2 x) := if_pos h

/-- A TPDU that is nothing but a header. -/
theorem decode_header {type : TpduType} {tail : List ℕ} (hlength : tail.length < 254) :
    decode (bytesOf ((type.value :: tail).length :: type.value :: tail)) =
      decodeHeader (bytesOf ((type.value :: tail).length :: type.value :: tail)) [] type := by
  set bytes := bytesOf ((type.value :: tail).length :: type.value :: tail) with hbytes
  have htype : type.value < 256 := by cases type <;> decide
  have hlen : bytes.length = tail.length + 2 := by simp [hbytes]
  have hfirst : byteAt bytes 0 = .ok (tail.length + 1) := by
    rw [hbytes, ← List.append_nil (bytesOf _)]
    exact byteAt_bytesOf_zero (by rw [List.length_cons]; omega) _ _
  have hsecond : byteAt bytes 1 = .ok type.value := by
    rw [hbytes, ← List.append_nil (bytesOf _), byteAt_bytesOf_succ]
    exact byteAt_bytesOf_zero htype _ _
  have hindicator : ¬ (tail.length + 1 ≥ bytes.length ∨ tail.length + 1 > 254) := by omega
  have htake : bytes.take (tail.length + 1 + 1) = bytes := List.take_of_length_le (by omega)
  have hdrop : bytes.drop (tail.length + 1 + 1) = [] := List.drop_of_length_le (by omega)
  have hofValue : Enumeration.ofValue (type.value &&& 0xF0) = .ok type := by cases type <;> rfl
  simp only [decode, hfirst, ok_bind, if_neg hindicator, htake, hsecond, hofValue, hdrop]

/-- A header that is longer is refused. -/
theorem decode_longHeader {type : TpduType} {tail : List ℕ} (hlength : 254 ≤ tail.length)
    (hbyte : tail.length + 1 < 256) :
    ∃ e, decode (bytesOf ((type.value :: tail).length :: type.value :: tail)) = .error e := by
  have hfirst : byteAt (bytesOf ((type.value :: tail).length :: type.value :: tail)) 0 =
      .ok (tail.length + 1) := by
    rw [← List.append_nil (bytesOf _)]
    exact byteAt_bytesOf_zero (by rw [List.length_cons]; omega) _ _
  refine ⟨.valueError "invalid length indicator", ?_⟩
  have hlong : tail.length + 1 > 254 := by omega
  simp only [decode, hfirst, ok_bind]
  rw [if_pos (.inr hlong)]
  rfl

/-- The references of a header, at their places. -/
theorem uint16At_header {dst src : ℕ} (hdst : dst < 65536) (hsrc : src < 65536) (length type : ℕ)
    (rest : List ℕ) :
    uint16At (bytesOf (length :: type :: (beDigits 2 dst ++ beDigits 2 src ++ rest))) 2 = .ok dst ∧
      uint16At (bytesOf (length :: type :: (beDigits 2 dst ++ beDigits 2 src ++ rest))) 4 =
        .ok src := by
  constructor
  · have hat := uint16At_bytesOf hdst [length, type] (bytesOf (beDigits 2 src ++ rest))
    rwa [← bytesOf_append, ← bytesOf_append, ← List.append_assoc] at hat
  · have hat := uint16At_bytesOf hsrc (length :: type :: beDigits 2 dst) (bytesOf rest)
    rwa [← bytesOf_append, ← bytesOf_append, ← List.append_assoc] at hat

/-! ### Connect TPDUs -/

/-- The preferred size is read as a maximum size. -/
theorem encodePrefMaxTpdu_chunks (p : Parameters) (prefMaxTpdu : Option ℕ)
    (hb : AllBytes (encodePrefMaxTpdu prefMaxTpdu)) :
    ∃ p', Chunks readParameter p (bytesOf (encodePrefMaxTpdu prefMaxTpdu)) p' ∧
      p'.prefMaxTpdu = p.prefMaxTpdu ∧ (prefMaxTpdu = none → p' = p) := by
  cases prefMaxTpdu with
  | none => exact ⟨p, .nil p, rfl, fun _ => rfl⟩
  | some size =>
    simp only [encodePrefMaxTpdu, allBytes_cons] at hb ⊢
    obtain ⟨-, hlength, hdata⟩ := hb
    set data := uintToBebytes (size / 128) with hdef
    obtain ⟨b, bs, hcons⟩ : ∃ b bs, data = b :: bs := by
      apply List.exists_cons_of_length_pos
      rw [hdef, uintToBebytes, length_beDigits]
      omega
    have hbyte : byteAt (bytesOf data) 0 = .ok b := by
      rw [hcons] at hdata ⊢
      rw [← List.append_nil (bytesOf _)]
      exact byteAt_bytesOf_zero (allBytes_cons.mp hdata).1 _ _
    have hset : p.set 0xC0 (bytesOf data) = .ok { p with maxTpdu := some (1 <<< b) } := by
      show (do return { p with maxTpdu := some (1 <<< (← byteAt (bytesOf data) 0)) }) = _
      rw [hbyte]
      rfl
    refine ⟨_, .single (by simp [bytesOf_cons]) (readParameter_reads (by omega) hlength hset), rfl,
      fun hnone => by cases hnone⟩

/-- The class and the parameters of a connect TPDU. -/
theorem encodeConnect_reads {cls : ℕ} {callingTsel calledTsel maxTpdu prefMaxTpdu : Option ℕ}
    (h : encodeConnect cls callingTsel calledTsel maxTpdu prefMaxTpdu = .ok ns)
    (hb : AllBytes ns) :
    ∃ parameters p, ns = cls <<< 4 :: parameters ∧
      decodeParameters (bytesOf parameters) = .ok p ∧ p.prefMaxTpdu = none ∧
      (prefMaxTpdu = none →
        p = ⟨callingTsel, calledTsel, maxTpdu.map fun size => 2 ^ size.log2, none⟩) := by
  obtain ⟨calling, hcalling, h⟩ := bind_eq_ok.mp h
  obtain ⟨called, hcalled, h⟩ := bind_eq_ok.mp h
  obtain ⟨max, hmax, h⟩ := bind_eq_ok.mp h
  obtain rfl := Except.ok.inj h
  simp only [allBytes_cons, allBytes_append] at hb
  have hfirst : Chunks readParameter .empty (bytesOf calling) ⟨callingTsel, none, none, none⟩ :=
    encodeTsel_chunks (f := fun t => ⟨t, none, none, none⟩) (by omega) rfl (fun _ => rfl) hcalling
  have hsecond : Chunks readParameter ⟨callingTsel, none, none, none⟩ (bytesOf called)
      ⟨callingTsel, calledTsel, none, none⟩ :=
    encodeTsel_chunks (f := fun t => ⟨callingTsel, t, none, none⟩) (by omega) rfl (fun _ => rfl)
      hcalled
  have hthird := encodeMaxTpdu_chunks (p := ⟨callingTsel, calledTsel, none, none⟩) rfl hmax
    hb.2.1.2
  obtain ⟨p, hfourth, hpref, hnone⟩ := encodePrefMaxTpdu_chunks
    ⟨callingTsel, calledTsel, maxTpdu.map fun size => 2 ^ size.log2, none⟩ prefMaxTpdu hb.2.2
  refine ⟨_, p, rfl, ?_, hpref, hnone⟩
  rw [bytesOf_append, bytesOf_append, bytesOf_append]
  exact (((hfirst.append hsecond).append hthird).append hfourth).readWhile

theorem encodeTsel_of_lt {tsel : Option ℕ} (h : ∀ t, tsel = some t → t < 65536) {code : ℕ}
    (hcode : code < 256) : ∃ ns, encodeTsel code tsel = .ok ns ∧ AllBytes ns := by
  cases tsel with
  | none => exact ⟨[], rfl, allBytes_nil⟩
  | some t =>
    refine ⟨code :: 2 :: beDigits 2 t, ?_, ?_⟩
    · rw [encodeTsel, uint16Bytes_of_lt (h t rfl)]
      rfl
    · rw [allBytes_cons, allBytes_cons]
      exact ⟨hcode, by omega, allBytes_beDigits 2 t⟩

theorem encodeMaxTpdu_of_pow {maxTpdu : Option ℕ}
    (h : ∀ size, maxTpdu = some size → ∃ k < 256, size = 2 ^ k) :
    ∃ ns, encodeMaxTpdu maxTpdu = .ok ns ∧ AllBytes ns := by
  cases maxTpdu with
  | none => exact ⟨[], rfl, allBytes_nil⟩
  | some size =>
    obtain ⟨k, hk, rfl⟩ := h size rfl
    have hpos : 0 < 2 ^ k := Nat.two_pow_pos k
    refine ⟨[0xC0, 1, k], ?_, ?_⟩
    · have hbits : bitLength (2 ^ k) - 1 = k := by rw [bitLength_of_pos hpos, Nat.log2_two_pow]
      obtain ⟨size, hsize⟩ := Nat.exists_eq_add_of_lt hpos
      rw [Nat.zero_add] at hsize
      rw [hsize] at hbits ⊢
      rw [encodeMaxTpdu, hbits]
      exact nofun
    · simp only [allBytes_cons, allBytes_nil, and_true]
      exact ⟨by omega, by omega, hk⟩

/-- A connect TPDU without a preferred size is encoded. -/
theorem encodeConnect_of_inRange {cls : ℕ} {callingTsel calledTsel maxTpdu : Option ℕ}
    (h : ConnectInRange cls callingTsel calledTsel maxTpdu none) :
    ∃ parameters, encodeConnect cls callingTsel calledTsel maxTpdu none =
        .ok (cls <<< 4 :: parameters) ∧ AllBytes (cls <<< 4 :: parameters) ∧
      parameters.length ≤ 11 ∧
      decodeParameters (bytesOf parameters) = .ok ⟨callingTsel, calledTsel, maxTpdu, none⟩ := by
  obtain ⟨calling, hcalling, hcallingBytes⟩ :=
    encodeTsel_of_lt h.callingTsel (show 0xC1 < 256 by omega)
  obtain ⟨called, hcalled, hcalledBytes⟩ :=
    encodeTsel_of_lt h.calledTsel (show 0xC2 < 256 by omega)
  obtain ⟨max, hmax, hmaxBytes⟩ := encodeMaxTpdu_of_pow h.maxTpdu
  have hencode : encodeConnect cls callingTsel calledTsel maxTpdu none =
      .ok (cls <<< 4 :: (calling ++ called ++ max)) := by
    rw [encodeConnect, hcalling, ok_bind, hcalled, ok_bind, hmax, ok_bind, encodePrefMaxTpdu,
      List.append_nil]
    rfl
  have hcls : cls <<< 4 < 256 := by
    have := h.cls
    rw [Nat.shiftLeft_eq]
    omega
  have hb : AllBytes (cls <<< 4 :: (calling ++ called ++ max)) := by
    simp only [allBytes_cons, allBytes_append]
    exact ⟨hcls, ⟨hcallingBytes, hcalledBytes⟩, hmaxBytes⟩
  obtain ⟨parameters, hcons, hlength, hdecode⟩ := encodeConnect_eq_ok hencode hb
  obtain ⟨-, rfl⟩ := List.cons.inj hcons
  refine ⟨_, hencode, hb, hlength, ?_⟩
  have hsize : maxTpdu.map (fun size => 2 ^ size.log2) = maxTpdu := by
    cases maxTpdu with
    | none => rfl
    | some size =>
      obtain ⟨k, -, rfl⟩ := h.maxTpdu size rfl
      rw [Option.map_some, Nat.log2_two_pow]
  rw [hdecode, hsize]

/-- The class and the parameters of a header, at their places. -/
theorem connect_header (dst src : ℕ) {cls : ℕ} (hcls : cls <<< 4 < 256) (length type : ℕ)
    (parameters : List ℕ) :
    byteAt (bytesOf (length :: type :: (beDigits 2 dst ++ beDigits 2 src ++
        cls <<< 4 :: parameters))) 6 = .ok (cls <<< 4) ∧
      (bytesOf (length :: type :: (beDigits 2 dst ++ beDigits 2 src ++
        cls <<< 4 :: parameters))).drop 7 = bytesOf parameters := by
  refine ⟨?_, rfl⟩
  show Except.ok (UInt8.ofNat (cls <<< 4)).toNat = _
  rw [toNat_ofNat_of_lt hcls]

theorem encode_CR {tpdu : CR} {connect : List ℕ} (hsrc : tpdu.src < 65536)
    (hconnect : encodeConnect tpdu.cls tpdu.callingTsel tpdu.calledTsel tpdu.maxTpdu
      tpdu.prefMaxTpdu = .ok connect) :
    encodeHeader (.CR tpdu) =
      .ok (TpduType.CR.value :: (beDigits 2 0 ++ beDigits 2 tpdu.src ++ connect)) := by
  rw [encodeHeader, uint16Bytes_of_lt hsrc, ok_bind, hconnect]
  rfl

theorem encode_CC {tpdu : CC} {connect : List ℕ} (hdst : tpdu.dst < 65536)
    (hsrc : tpdu.src < 65536)
    (hconnect : encodeConnect tpdu.cls tpdu.callingTsel tpdu.calledTsel tpdu.maxTpdu
      tpdu.prefMaxTpdu = .ok connect) :
    encodeHeader (.CC tpdu) =
      .ok (TpduType.CC.value :: (beDigits 2 tpdu.dst ++ beDigits 2 tpdu.src ++ connect)) := by
  rw [encodeHeader, uint16Bytes_of_lt hdst, ok_bind, uint16Bytes_of_lt hsrc, ok_bind, hconnect]
  rfl

/-- What is read of the header of a CR TPDU. -/
theorem decodeHeader_CR {src cls : ℕ} (hsrc : src < 65536) (hcls : cls <<< 4 < 256)
    {parameters : List ℕ} {p : Parameters}
    (hparameters : decodeParameters (bytesOf parameters) = .ok p) (length type : ℕ) :
    decodeHeader (bytesOf (length :: type :: (beDigits 2 0 ++ beDigits 2 src ++
        cls <<< 4 :: parameters))) [] .CR =
      .ok (.CR ⟨src, cls, p.callingTsel, p.calledTsel, p.maxTpdu, p.prefMaxTpdu⟩) := by
  obtain ⟨-, hsrcAt⟩ := uint16At_header (show 0 < 65536 by omega) hsrc length type
    (cls <<< 4 :: parameters)
  obtain ⟨hclsAt, hdrop⟩ := connect_header 0 src hcls length type parameters
  have hshift : cls <<< 4 >>> 4 = cls := Nat.shiftLeft_shiftRight ..
  simp only [decodeHeader, hsrcAt, hclsAt, hdrop, hparameters, ok_bind, hshift, pure_eq_ok]

/-- What is read of the header of a CC TPDU. -/
theorem decodeHeader_CC {dst src cls : ℕ} (hdst : dst < 65536) (hsrc : src < 65536)
    (hcls : cls <<< 4 < 256) {parameters : List ℕ} {p : Parameters}
    (hparameters : decodeParameters (bytesOf parameters) = .ok p) (length type : ℕ) :
    decodeHeader (bytesOf (length :: type :: (beDigits 2 dst ++ beDigits 2 src ++
        cls <<< 4 :: parameters))) [] .CC =
      .ok (.CC ⟨dst, src, cls, p.callingTsel, p.calledTsel, p.maxTpdu, p.prefMaxTpdu⟩) := by
  obtain ⟨hdstAt, hsrcAt⟩ := uint16At_header hdst hsrc length type (cls <<< 4 :: parameters)
  obtain ⟨hclsAt, hdrop⟩ := connect_header dst src hcls length type parameters
  have hshift : cls <<< 4 >>> 4 = cls := Nat.shiftLeft_shiftRight ..
  simp only [decodeHeader, hsrcAt, hdstAt, hclsAt, hdrop, hparameters, ok_bind, hshift, pure_eq_ok]

/-! ### Round trip -/

theorem encode_of_header {tpdu : Tpdu} {header : List ℕ} (hdata : ∀ dt, tpdu ≠ .DT dt)
    (h : encodeHeader tpdu = .ok header) : encode tpdu = toBytes (header.length :: header) := by
  rw [encode, h, ok_bind]
  cases tpdu with
  | DT dt => exact absurd rfl (hdata dt)
  | CR tpdu => rfl
  | CC tpdu => rfl
  | DR tpdu => rfl
  | ER tpdu => rfl

/-- A header of bytes, that is read as the TPDU. -/
theorem roundTrips_of_header {tpdu : Tpdu} {type : TpduType} {tail : List ℕ}
    (hdata : ∀ dt, tpdu ≠ .DT dt) (hencode : encodeHeader tpdu = .ok (type.value :: tail))
    (hb : AllBytes tail) (hlength : tail.length < 254)
    (hdecode : decodeHeader (bytesOf ((type.value :: tail).length :: type.value :: tail)) [] type =
      .ok tpdu) :
    ∃ bytes, encode tpdu = .ok bytes ∧ decode bytes = .ok tpdu := by
  have htype : type.value < 256 := by cases type <;> decide
  refine ⟨_, ?_, (decode_header hlength).trans hdecode⟩
  rw [encode_of_header hdata hencode, toBytes_eq_ok]
  refine ⟨?_, rfl⟩
  rw [allBytes_cons, allBytes_cons, List.length_cons]
  exact ⟨by omega, htype, hb⟩

/-- What is encoded is not read as a TPDU with a preferred size. -/
theorem prefMaxTpdu_of_header {tpdu read : Tpdu} {type : TpduType} {tail : List ℕ} {bytes : Bytes}
    (hdata : ∀ dt, tpdu ≠ .DT dt) (hencode : encodeHeader tpdu = .ok (type.value :: tail))
    (h : encode tpdu = .ok bytes) (hdecode : decode bytes = .ok read)
    (hread : AllBytes tail → ∃ read', read'.prefMaxTpdu = none ∧
      decodeHeader (bytesOf ((type.value :: tail).length :: type.value :: tail)) [] type =
        .ok read') :
    read.prefMaxTpdu = none := by
  rw [encode_of_header hdata hencode] at h
  obtain ⟨hb, rfl⟩ := toBytes_eq_ok.mp h
  rw [allBytes_cons, allBytes_cons, List.length_cons] at hb
  obtain ⟨hlength, -, hb⟩ := hb
  obtain ⟨read', hpref, hread⟩ := hread hb
  by_cases hshort : tail.length < 254
  · rw [decode_header hshort, hread] at hdecode
    rwa [← Except.ok.inj hdecode]
  · obtain ⟨e, he⟩ := @decode_longHeader type tail (by omega) hlength
    rw [he] at hdecode
    cases hdecode

theorem roundTrips_CR {tpdu : CR} (h : (Tpdu.CR tpdu).InRange) (hpref : tpdu.prefMaxTpdu = none) :
    ∃ bytes, encode (.CR tpdu) = .ok bytes ∧ decode bytes = .ok (.CR tpdu) := by
  obtain ⟨hsrc, hconnect⟩ := h
  rw [hpref] at hconnect
  obtain ⟨parameters, hencode, hb, hlength, hdecode⟩ := encodeConnect_of_inRange hconnect
  rw [← hpref] at hencode
  refine roundTrips_of_header nofun (encode_CR hsrc hencode) ?_ ?_ ?_
  · rw [allBytes_append, allBytes_append]
    exact ⟨⟨allBytes_beDigits 2 0, allBytes_beDigits 2 _⟩, hb⟩
  · simp only [List.length_append, List.length_cons, length_beDigits]
    omega
  · rw [decodeHeader_CR hsrc (allBytes_cons.mp hb).1 hdecode, ← hpref]

theorem roundTrips_CC {tpdu : CC} (h : (Tpdu.CC tpdu).InRange) (hpref : tpdu.prefMaxTpdu = none) :
    ∃ bytes, encode (.CC tpdu) = .ok bytes ∧ decode bytes = .ok (.CC tpdu) := by
  obtain ⟨hdst, hsrc, hconnect⟩ := h
  rw [hpref] at hconnect
  obtain ⟨parameters, hencode, hb, hlength, hdecode⟩ := encodeConnect_of_inRange hconnect
  rw [← hpref] at hencode
  refine roundTrips_of_header nofun (encode_CC hdst hsrc hencode) ?_ ?_ ?_
  · rw [allBytes_append, allBytes_append]
    exact ⟨⟨allBytes_beDigits 2 _, allBytes_beDigits 2 _⟩, hb⟩
  · simp only [List.length_append, List.length_cons, length_beDigits]
    omega
  · rw [decodeHeader_CC hdst hsrc (allBytes_cons.mp hb).1 hdecode, ← hpref]

theorem roundTrips_DR {tpdu : DR} (h : (Tpdu.DR tpdu).InRange) :
    ∃ bytes, encode (.DR tpdu) = .ok bytes ∧ decode bytes = .ok (.DR tpdu) := by
  obtain ⟨hdst, hsrc, hreason⟩ := h
  have hencode : encodeHeader (.DR tpdu) =
      .ok (TpduType.DR.value :: (beDigits 2 tpdu.dst ++ beDigits 2 tpdu.src ++ [tpdu.reason])) := by
    rw [encodeHeader, uint16Bytes_of_lt hdst, ok_bind, uint16Bytes_of_lt hsrc]
    rfl
  refine roundTrips_of_header nofun hencode ?_ ?_ ?_
  · rw [allBytes_append, allBytes_append, allBytes_cons]
    exact ⟨⟨allBytes_beDigits 2 _, allBytes_beDigits 2 _⟩, hreason, allBytes_nil⟩
  · simp
  · obtain ⟨hdstAt, hsrcAt⟩ := uint16At_header hdst hsrc
      (TpduType.DR.value :: (beDigits 2 tpdu.dst ++ beDigits 2 tpdu.src ++ [tpdu.reason])).length
      TpduType.DR.value [tpdu.reason]
    have hreasonAt : byteAt (bytesOf ((TpduType.DR.value :: (beDigits 2 tpdu.dst ++
        beDigits 2 tpdu.src ++ [tpdu.reason])).length :: TpduType.DR.value ::
          (beDigits 2 tpdu.dst ++ beDigits 2 tpdu.src ++ [tpdu.reason]))) 6 = .ok tpdu.reason := by
      show Except.ok (UInt8.ofNat tpdu.reason).toNat = _
      rw [toNat_ofNat_of_lt hreason]
    simp only [decodeHeader, hsrcAt, hdstAt, hreasonAt, ok_bind, pure_eq_ok]

theorem roundTrips_ER {tpdu : ER} (h : (Tpdu.ER tpdu).InRange) :
    ∃ bytes, encode (.ER tpdu) = .ok bytes ∧ decode bytes = .ok (.ER tpdu) := by
  obtain ⟨hdst, hcause⟩ := h
  have hencode : encodeHeader (.ER tpdu) =
      .ok (TpduType.ER.value :: (beDigits 2 tpdu.dst ++ [tpdu.cause])) := by
    rw [encodeHeader, uint16Bytes_of_lt hdst]
    rfl
  refine roundTrips_of_header nofun hencode ?_ ?_ ?_
  · rw [allBytes_append, allBytes_cons]
    exact ⟨allBytes_beDigits 2 _, hcause, allBytes_nil⟩
  · simp
  · set length := (TpduType.ER.value :: (beDigits 2 tpdu.dst ++ [tpdu.cause])).length
    have hat := uint16At_bytesOf hdst [length, TpduType.ER.value] (bytesOf [tpdu.cause])
    rw [← bytesOf_append, ← bytesOf_append] at hat
    have hdstAt : uint16At (bytesOf (length :: TpduType.ER.value ::
        (beDigits 2 tpdu.dst ++ [tpdu.cause]))) 2 = .ok tpdu.dst := hat
    have hcauseAt : byteAt (bytesOf (length :: TpduType.ER.value ::
        (beDigits 2 tpdu.dst ++ [tpdu.cause]))) 4 = .ok tpdu.cause := by
      show Except.ok (UInt8.ofNat tpdu.cause).toNat = _
      rw [toNat_ofNat_of_lt hcause]
    simp only [decodeHeader, hdstAt, hcauseAt, ok_bind, pure_eq_ok]

theorem roundTrips_DT (tpdu : DT) :
    ∃ bytes, encode (.DT tpdu) = .ok bytes ∧ decode bytes = .ok (.DT tpdu) :=
  ⟨_, encode_DT tpdu, decode_encode_DT (encode_DT tpdu)⟩

theorem prefMaxTpdu_CR {tpdu : CR} {bytes : Bytes} {read : Tpdu} (hsrc : tpdu.src < 65536)
    (h : encode (.CR tpdu) = .ok bytes) (hdecode : decode bytes = .ok read) :
    read.prefMaxTpdu = none := by
  obtain ⟨header, hheader, -⟩ := bind_eq_ok.mp h
  obtain ⟨src, -, hheader⟩ := bind_eq_ok.mp hheader
  obtain ⟨connect, hconnect, -⟩ := bind_eq_ok.mp hheader
  have hdata : ∀ dt, Tpdu.CR tpdu ≠ .DT dt := nofun
  refine prefMaxTpdu_of_header hdata (encode_CR hsrc hconnect) h hdecode fun hb => ?_
  obtain ⟨parameters, p, rfl, hparameters, hpref, -⟩ :=
    encodeConnect_reads hconnect (allBytes_append.mp hb).2
  have hcls := (allBytes_cons.mp (allBytes_append.mp hb).2).1
  refine ⟨_, ?_, decodeHeader_CR hsrc hcls hparameters _ _⟩
  exact hpref

theorem prefMaxTpdu_CC {tpdu : CC} {bytes : Bytes} {read : Tpdu} (hdst : tpdu.dst < 65536)
    (hsrc : tpdu.src < 65536) (h : encode (.CC tpdu) = .ok bytes)
    (hdecode : decode bytes = .ok read) : read.prefMaxTpdu = none := by
  obtain ⟨header, hheader, -⟩ := bind_eq_ok.mp h
  obtain ⟨dst, -, hheader⟩ := bind_eq_ok.mp hheader
  obtain ⟨src, -, hheader⟩ := bind_eq_ok.mp hheader
  obtain ⟨connect, hconnect, -⟩ := bind_eq_ok.mp hheader
  have hdata : ∀ dt, Tpdu.CC tpdu ≠ .DT dt := nofun
  refine prefMaxTpdu_of_header hdata (encode_CC hdst hsrc hconnect) h hdecode fun hb => ?_
  obtain ⟨parameters, p, rfl, hparameters, hpref, -⟩ :=
    encodeConnect_reads hconnect (allBytes_append.mp hb).2
  have hcls := (allBytes_cons.mp (allBytes_append.mp hb).2).1
  refine ⟨_, ?_, decodeHeader_CC hdst hsrc hcls hparameters _ _⟩
  exact hpref

/-- **The TPDUs that are read back** are those without a preferred size. -/
theorem decode_encode_iff (tpdu : Tpdu) (h : tpdu.InRange) :
    (∃ bytes, encode tpdu = .ok bytes ∧ decode bytes = .ok tpdu) ↔ tpdu.prefMaxTpdu = none := by
  cases tpdu with
  | DT tpdu => exact iff_of_true (roundTrips_DT tpdu) rfl
  | CR tpdu =>
    constructor
    · rintro ⟨bytes, hencode, hdecode⟩
      exact prefMaxTpdu_CR h.1 hencode hdecode
    · exact roundTrips_CR h
  | CC tpdu =>
    constructor
    · rintro ⟨bytes, hencode, hdecode⟩
      exact prefMaxTpdu_CC h.1 h.2.1 hencode hdecode
    · exact roundTrips_CC h
  | DR tpdu => exact iff_of_true (roundTrips_DR h) rfl
  | ER tpdu => exact iff_of_true (roundTrips_ER h) rfl

/-- A connection confirm with every parameter but a preferred size. -/
theorem decode_encode_iff_connectConfirm :
    (∃ bytes, encode (.CC ⟨1, 2, 0, some 3, some 4, some 1024, none⟩) = .ok bytes ∧
      decode bytes = .ok (.CC ⟨1, 2, 0, some 3, some 4, some 1024, none⟩)) ↔
    (Tpdu.CC ⟨1, 2, 0, some 3, some 4, some 1024, none⟩).prefMaxTpdu = none :=
  decode_encode_iff (.CC ⟨1, 2, 0, some 3, some 4, some 1024, none⟩)
    ⟨by decide, by decide, by decide, by simp, by simp,
      fun size hsize => ⟨10, by omega, (Option.some.inj hsize).symm⟩, nofun⟩

/-- A preferred size of 1024 bytes is read as a maximum size of 256. -/
theorem decode_encode_prefMaxTpdu :
    (Tpdu.CR ⟨1, 0, none, none, none, some 1024⟩).InRange ∧
      ∃ bytes, encode (.CR ⟨1, 0, none, none, none, some 1024⟩) = .ok bytes ∧
        decode bytes = .ok (.CR ⟨1, 0, none, none, some 256, none⟩) := by
  refine ⟨⟨by decide, by decide, nofun, nofun, nofun, ?_⟩, _, rfl, rfl⟩
  intro size hsize
  obtain rfl := Option.some.inj hsize
  decide

end HatDrivers.Cotp
