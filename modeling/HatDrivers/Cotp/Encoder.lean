import HatDrivers.Cotp.Common
import HatDrivers.Lib.ReadWhile

namespace HatDrivers.Cotp

open HatDrivers.Lib

/-!
# COTP — encoder

A TPDU is its header, behind the length of the header, and for a DT TPDU the data.  A header
of a connect TPDU ends with parameters, each with a code and a length.

DT TPDUs are read back (`decode_encode_DT`), and so are connect TPDUs without a preferred
size, except that their size is rounded down to a power of two (`decode_encode_CC`).
-/

/-- `x.bit_length()`. -/
def bitLength (x : ℕ) : ℕ := if x = 0 then 0 else x.log2 + 1

/-- `x.to_bytes(2, 'big')`. -/
def uint16Bytes (x : ℕ) : Except Exn (List ℕ) :=
  if x < 256 ^ 2 then .ok (beDigits 2 x) else .error .overflowError

def uintToBebytes (x : ℕ) : List ℕ := beDigits (max ((bitLength x + 7) / 8) 1) x

def bebytesToUint (bs : Bytes) : ℕ := ofBE bs

/-! ### Encoder -/

/-- The parameter of a selector. -/
def encodeTsel (code : ℕ) : Option ℕ → Except Exn (List ℕ)
  | none => .ok []
  | some tsel => do return code :: 2 :: (← uint16Bytes tsel)

def encodeMaxTpdu : Option ℕ → Except Exn (List ℕ)
  | none => .ok []
  -- `bytes` refuses the -1 that the bit length of zero gives
  | some 0 => .error (.valueError "bytes must be in range(0, 256)")
  | some maxTpdu => .ok [0xC0, 1, bitLength maxTpdu - 1]

/-- The preferred size is written under the code of the maximum size. -/
def encodePrefMaxTpdu : Option ℕ → List ℕ
  | none => []
  | some prefMaxTpdu =>
    let prefMaxTpduData := uintToBebytes (prefMaxTpdu / 128)
    0xC0 :: prefMaxTpduData.length :: prefMaxTpduData

/-- The class and the parameters of a CR or CC TPDU. -/
def encodeConnect (cls : ℕ) (callingTsel calledTsel maxTpdu prefMaxTpdu : Option ℕ) :
    Except Exn (List ℕ) := do
  let calling ← encodeTsel 0xC1 callingTsel
  let called ← encodeTsel 0xC2 calledTsel
  let max ← encodeMaxTpdu maxTpdu
  return cls <<< 4 :: (calling ++ called ++ max ++ encodePrefMaxTpdu prefMaxTpdu)

/-- The header of a TPDU, without its length. -/
def encodeHeader : Tpdu → Except Exn (List ℕ)
  | .DT tpdu => .ok [TpduType.DT.value, if tpdu.eot then 0x80 else 0]
  | .CR tpdu => do
    let src ← uint16Bytes tpdu.src
    let connect ← encodeConnect tpdu.cls tpdu.callingTsel tpdu.calledTsel tpdu.maxTpdu
      tpdu.prefMaxTpdu
    return TpduType.CR.value :: 0 :: 0 :: (src ++ connect)
  | .CC tpdu => do
    let dst ← uint16Bytes tpdu.dst
    let src ← uint16Bytes tpdu.src
    let connect ← encodeConnect tpdu.cls tpdu.callingTsel tpdu.calledTsel tpdu.maxTpdu
      tpdu.prefMaxTpdu
    return TpduType.CC.value :: (dst ++ src ++ connect)
  | .DR tpdu => do
    let dst ← uint16Bytes tpdu.dst
    let src ← uint16Bytes tpdu.src
    return TpduType.DR.value :: (dst ++ src ++ [tpdu.reason])
  | .ER tpdu => do
    let dst ← uint16Bytes tpdu.dst
    return TpduType.ER.value :: (dst ++ [tpdu.cause])

def encode (tpdu : Tpdu) : Except Exn Bytes := do
  let header ← encodeHeader tpdu
  match tpdu with
  | .DT tpdu => toBytes (header.length :: (header ++ tpdu.data.map UInt8.toNat))
  | _ => toBytes (header.length :: header)

/-! ### Decoder -/

/-- The parameters of a CR or CC TPDU. -/
structure Parameters where
  callingTsel : Option ℕ
  calledTsel : Option ℕ
  maxTpdu : Option ℕ
  prefMaxTpdu : Option ℕ
  deriving DecidableEq

def Parameters.empty : Parameters := ⟨none, none, none, none⟩

/-- What a parameter changes. -/
def Parameters.set (p : Parameters) (k : ℕ) (v : Bytes) : Except Exn Parameters :=
  if k = 0xC1 then .ok { p with callingTsel := some (bebytesToUint v) }
  else if k = 0xC2 then .ok { p with calledTsel := some (bebytesToUint v) }
  else if k = 0xC0 then do return { p with maxTpdu := some (1 <<< (← byteAt v 0)) }
  else if k = 0xF0 then .ok { p with prefMaxTpdu := some (128 * bebytesToUint v) }
  else .ok p

/-- An iteration of the loop over `vp_data`. -/
def readParameter (p : Parameters) : ByteReader Exn Parameters := fun vpData => do
  let k ← byteAt vpData 0
  let length ← byteAt vpData 1
  let p ← p.set k (slice vpData 2 (2 + length))
  return (p, vpData.drop (2 + length))

def decodeParameters (vpData : Bytes) : Except Exn Parameters :=
  readWhile readParameter .empty vpData

/-- `(header[i] << 8) | header[i + 1]`. -/
def uint16At (header : Bytes) (i : ℕ) : Except Exn ℕ := do
  return ((← byteAt header i) <<< 8) ||| (← byteAt header (i + 1))

/-- The TPDU of a header and what follows it. -/
def decodeHeader (header tpduData : Bytes) : TpduType → Except Exn Tpdu
  | .DT => do return .DT ⟨bit (← byteAt header 2) 0x80, tpduData⟩
  | .CR => do
    let src ← uint16At header 4
    let cls ← byteAt header 6
    let p ← decodeParameters (header.drop 7)
    return .CR ⟨src, cls >>> 4, p.callingTsel, p.calledTsel, p.maxTpdu, p.prefMaxTpdu⟩
  | .CC => do
    let src ← uint16At header 4
    let dst ← uint16At header 2
    let cls ← byteAt header 6
    let p ← decodeParameters (header.drop 7)
    return .CC ⟨dst, src, cls >>> 4, p.callingTsel, p.calledTsel, p.maxTpdu, p.prefMaxTpdu⟩
  | .DR => do
    let src ← uint16At header 4
    let dst ← uint16At header 2
    let reason ← byteAt header 6
    return .DR ⟨dst, src, reason⟩
  | .ER => do
    let dst ← uint16At header 2
    let cause ← byteAt header 4
    return .ER ⟨dst, cause⟩

def decode (data : Bytes) : Except Exn Tpdu := do
  let lengthIndicator ← byteAt data 0
  if lengthIndicator ≥ data.length ∨ lengthIndicator > 254 then
    throw (.valueError "invalid length indicator")
  let header := data.take (lengthIndicator + 1)
  let tpduType ← Enumeration.ofValue ((← byteAt header 1) &&& 0xF0)
  decodeHeader header (data.drop (lengthIndicator + 1)) tpduType

/-! ### Data TPDUs -/

variable {data bytes : Bytes}

/-- The bytes of a DT TPDU. -/
theorem encode_DT (tpdu : DT) :
    encode (.DT tpdu) = .ok (bytesOf [2, 0xF0, if tpdu.eot then 0x80 else 0] ++ tpdu.data) := by
  have hflag : (if tpdu.eot then 0x80 else 0) < 256 := by split <;> omega
  show toBytes (2 :: ([0xF0, if tpdu.eot then 0x80 else 0] ++ tpdu.data.map UInt8.toNat)) = _
  rw [toBytes_eq_ok]
  constructor
  · rw [allBytes_cons, allBytes_append]
    refine ⟨by omega, ?_, allBytes_map_toNat _⟩
    simp only [allBytes_cons, allBytes_nil, and_true]
    exact ⟨by omega, hflag⟩
  · rw [← List.cons_append, bytesOf_append, bytesOf_map_toNat]

/-- **A DT TPDU is read back.** -/
theorem decode_encode_DT {tpdu : DT} (h : encode (.DT tpdu) = .ok bytes) :
    decode bytes = .ok (.DT tpdu) := by
  rw [encode_DT] at h
  obtain rfl := Except.ok.inj h
  obtain ⟨eot, data⟩ := tpdu
  have hlen : ¬ (2 ≥ (bytesOf [2, 0xF0, if eot then 0x80 else 0] ++ data).length ∨ 2 > 254) := by
    simp only [List.length_append, length_bytesOf, List.length_cons, List.length_nil]
    omega
  have htake : (bytesOf [2, 0xF0, if eot then 0x80 else 0] ++ data).take (2 + 1) =
      bytesOf [2, 0xF0, if eot then 0x80 else 0] := take_bytesOf_append (by rfl) _
  have hdrop : (bytesOf [2, 0xF0, if eot then 0x80 else 0] ++ data).drop (2 + 1) = data :=
    drop_bytesOf_append (by rfl) _
  have hfirst : byteAt (bytesOf [2, 0xF0, if eot then 0x80 else 0] ++ data) 0 = .ok 2 :=
    byteAt_bytesOf_zero (by omega) _ _
  simp only [decode, hfirst, ok_bind, if_neg hlen, htake, hdrop]
  cases eot <;> rfl

/-! ### Connect TPDUs -/

variable {p p' : Parameters} {ns : List ℕ}

theorem bitLength_of_pos {x : ℕ} (h : 0 < x) : bitLength x - 1 = x.log2 := by
  rw [bitLength, if_neg (by omega)]
  rfl

/-- A parameter behind its code and length. -/
theorem readParameter_reads {k : ℕ} (hk : k < 256) (hlen : ns.length < 256)
    (hset : p.set k (bytesOf ns) = .ok p') :
    Reads (readParameter p) (bytesOf (k :: ns.length :: ns)) p' := by
  intro rest
  have hcode : byteAt (bytesOf (k :: ns.length :: ns) ++ rest) 0 = .ok k :=
    byteAt_bytesOf_zero hk _ _
  have hlength : byteAt (bytesOf (k :: ns.length :: ns) ++ rest) 1 = .ok ns.length := by
    rw [byteAt_bytesOf_succ]
    exact byteAt_bytesOf_zero hlen _ _
  have hsplit : bytesOf (k :: ns.length :: ns) ++ rest =
      bytesOf [k, ns.length] ++ (bytesOf ns ++ rest) := by simp [bytesOf_cons]
  have hvalue : slice (bytesOf (k :: ns.length :: ns) ++ rest) 2 (2 + ns.length) =
      bytesOf ns := by
    rw [hsplit, slice_skip (by simp)]
    exact slice_zero (by simp) rest
  have hdrop : (bytesOf (k :: ns.length :: ns) ++ rest).drop (2 + ns.length) = rest := by
    rw [hsplit, drop_skip (by simp)]
    exact drop_bytesOf_append (by simp) rest
  simp only [readParameter, hcode, hlength, hvalue, hdrop, hset, ok_bind, pure_eq_ok]

theorem uint16Bytes_eq_ok {x : ℕ} :
    uint16Bytes x = .ok ns ↔ x < 256 ^ 2 ∧ ns = beDigits 2 x := by
  by_cases h : x < 256 ^ 2
  · rw [uint16Bytes, if_pos h, and_iff_right h, Except.ok.injEq, eq_comm]
  · rw [uint16Bytes, if_neg h]
    exact iff_of_false nofun fun hx => h hx.1

/-- A selector is read back: `f` sets the field of its code. -/
theorem encodeTsel_chunks {code : ℕ} {tsel : Option ℕ} {f : Option ℕ → Parameters}
    (hcode : code < 256) (hnone : f none = p)
    (hsome : ∀ v, p.set code v = .ok (f (some (bebytesToUint v))))
    (h : encodeTsel code tsel = .ok ns) :
    Chunks readParameter p (bytesOf ns) (f tsel) := by
  cases tsel with
  | none =>
    obtain rfl := Except.ok.inj h
    rw [hnone]
    exact .nil p
  | some t =>
    obtain ⟨ms, hms, h⟩ := bind_eq_ok.mp h
    obtain ⟨hlt, rfl⟩ := uint16Bytes_eq_ok.mp hms
    obtain rfl := Except.ok.inj h
    have hvalue : bebytesToUint (bytesOf (beDigits 2 t)) = t := ofBE_beDigits_of_lt hlt
    have hset := hsome (bytesOf (beDigits 2 t))
    rw [hvalue] at hset
    have hlen : (beDigits 2 t).length = 2 := length_beDigits 2 t
    refine .single (by simp [bytesOf_cons]) ?_
    have hread := readParameter_reads hcode (by omega) hset
    rwa [hlen] at hread

/-- A size is read back as the power of two that its exponent gives. -/
theorem encodeMaxTpdu_chunks {maxTpdu : Option ℕ} (hnone : p.maxTpdu = none)
    (h : encodeMaxTpdu maxTpdu = .ok ns) (hb : AllBytes ns) :
    Chunks readParameter p (bytesOf ns)
      { p with maxTpdu := maxTpdu.map fun size => 2 ^ size.log2 } := by
  rcases maxTpdu with _ | _ | size
  · obtain rfl := Except.ok.inj h
    obtain ⟨callingTsel, calledTsel, maxTpdu, prefMaxTpdu⟩ := p
    obtain rfl : maxTpdu = none := hnone
    exact .nil _
  · cases h
  · obtain rfl := Except.ok.inj h
    rw [bitLength_of_pos (by omega)] at hb ⊢
    simp only [allBytes_cons, allBytes_nil, and_true] at hb
    refine .single (by simp [bytesOf_cons]) ?_
    have hbyte : byteAt (bytesOf [(size + 1).log2]) 0 = .ok (size + 1).log2 := by
      rw [← List.append_nil (bytesOf _)]
      exact byteAt_bytesOf_zero hb.2.2 _ _
    have hset : p.set 0xC0 (bytesOf [(size + 1).log2]) =
        .ok { p with maxTpdu := some (2 ^ (size + 1).log2) } := by
      show (do return { p with maxTpdu := some (1 <<< (← byteAt (bytesOf _) 0)) }) = _
      rw [hbyte, ok_bind, Nat.one_shiftLeft]
      rfl
    have hread := readParameter_reads (by omega) (by simp) hset
    exact hread

/-- Two bytes of an integer, wherever they stand. -/
theorem uint16At_bytesOf {x : ℕ} (h : x < 256 ^ 2) (before : List ℕ) (rest : Bytes) :
    uint16At (bytesOf before ++ (bytesOf (beDigits 2 x) ++ rest)) before.length = .ok x := by
  have hdigits : beDigits 2 x = [x / 256 % 256, x % 256] := rfl
  have hhi : x / 256 % 256 < 256 := Nat.mod_lt _ (by omega)
  have hlo : x % 256 < 2 ^ 8 := Nat.mod_lt _ (by omega)
  have hfirst : byteAt (bytesOf before ++ (bytesOf (beDigits 2 x) ++ rest)) before.length =
      .ok (x / 256 % 256) := by
    rw [byteAt_skip (Nat.le_refl _), Nat.sub_self, hdigits]
    exact byteAt_bytesOf_zero hhi _ _
  have hsecond : byteAt (bytesOf before ++ (bytesOf (beDigits 2 x) ++ rest)) (before.length + 1) =
      .ok (x % 256) := by
    rw [byteAt_skip (Nat.le_add_right _ 1), Nat.add_sub_cancel_left, hdigits, byteAt_bytesOf_succ]
    exact byteAt_bytesOf_zero hlo _ _
  have hjoin : (x / 256 % 256) <<< 8 ||| x % 256 = x := by
    rw [shiftLeft_or_eq_add hlo]
    omega
  rw [uint16At, hfirst, hsecond]
  simp only [ok_bind, hjoin, pure_eq_ok]

theorem length_encodeTsel {code : ℕ} {tsel : Option ℕ} (h : encodeTsel code tsel = .ok ns) :
    ns.length ≤ 4 := by
  cases tsel with
  | none =>
    obtain rfl := Except.ok.inj h
    simp
  | some t =>
    obtain ⟨ms, hms, h⟩ := bind_eq_ok.mp h
    obtain ⟨_, rfl⟩ := uint16Bytes_eq_ok.mp hms
    obtain rfl := Except.ok.inj h
    simp

theorem length_encodeMaxTpdu {maxTpdu : Option ℕ} (h : encodeMaxTpdu maxTpdu = .ok ns) :
    ns.length ≤ 3 := by
  rcases maxTpdu with _ | _ | size
  · obtain rfl := Except.ok.inj h
    simp
  · cases h
  · obtain rfl := Except.ok.inj h
    simp

/-- The class and the parameters of a connect TPDU without a preferred size. -/
theorem encodeConnect_eq_ok {cls : ℕ} {callingTsel calledTsel maxTpdu : Option ℕ}
    (h : encodeConnect cls callingTsel calledTsel maxTpdu none = .ok ns) (hb : AllBytes ns) :
    ∃ parameters, ns = cls <<< 4 :: parameters ∧ parameters.length ≤ 11 ∧
      decodeParameters (bytesOf parameters) = .ok
        ⟨callingTsel, calledTsel, maxTpdu.map fun size => 2 ^ size.log2, none⟩ := by
  obtain ⟨calling, hcalling, h⟩ := bind_eq_ok.mp h
  obtain ⟨called, hcalled, h⟩ := bind_eq_ok.mp h
  obtain ⟨max, hmax, h⟩ := bind_eq_ok.mp h
  obtain rfl := Except.ok.inj h
  simp only [encodePrefMaxTpdu, List.append_nil, allBytes_cons, allBytes_append] at hb ⊢
  have hlen : (calling ++ called ++ max).length ≤ 11 := by
    have h₁ := length_encodeTsel hcalling
    have h₂ := length_encodeTsel hcalled
    have h₃ := length_encodeMaxTpdu hmax
    rw [List.length_append, List.length_append]
    omega
  refine ⟨calling ++ called ++ max, rfl, hlen, ?_⟩
  have hfirst : Chunks readParameter .empty (bytesOf calling) ⟨callingTsel, none, none, none⟩ :=
    encodeTsel_chunks (f := fun t => ⟨t, none, none, none⟩) (by omega) rfl (fun _ => rfl) hcalling
  have hsecond : Chunks readParameter ⟨callingTsel, none, none, none⟩ (bytesOf called)
      ⟨callingTsel, calledTsel, none, none⟩ :=
    encodeTsel_chunks (f := fun t => ⟨callingTsel, t, none, none⟩) (by omega) rfl (fun _ => rfl)
      hcalled
  have hthird := encodeMaxTpdu_chunks (p := ⟨callingTsel, calledTsel, none, none⟩) rfl hmax hb.2.2
  rw [bytesOf_append, bytesOf_append]
  exact ((hfirst.append hsecond).append hthird).readWhile

/-- **A CC TPDU without a preferred size is read back**, but for its size, of which the
highest bit is left. -/
theorem decode_encode_CC {tpdu : CC} (hpref : tpdu.prefMaxTpdu = none)
    (h : encode (.CC tpdu) = .ok bytes) :
    decode bytes =
      .ok (.CC { tpdu with maxTpdu := tpdu.maxTpdu.map fun size => 2 ^ size.log2 }) := by
  obtain ⟨header, hheader, h⟩ := bind_eq_ok.mp h
  obtain ⟨dst, hdst, hheader⟩ := bind_eq_ok.mp hheader
  obtain ⟨src, hsrc, hheader⟩ := bind_eq_ok.mp hheader
  obtain ⟨connect, hconnect, hheader⟩ := bind_eq_ok.mp hheader
  obtain rfl := Except.ok.inj hheader
  obtain ⟨hb, rfl⟩ := toBytes_eq_ok.mp h
  obtain ⟨hdstLt, rfl⟩ := uint16Bytes_eq_ok.mp hdst
  obtain ⟨hsrcLt, rfl⟩ := uint16Bytes_eq_ok.mp hsrc
  rw [hpref] at hconnect
  simp only [allBytes_cons, allBytes_append] at hb
  obtain ⟨parameters, rfl, hlen, hparameters⟩ := encodeConnect_eq_ok hconnect hb.2.2.2
  have hcls : tpdu.cls <<< 4 < 256 := (allBytes_cons.mp hb.2.2.2).1
  set header := TpduType.CC.value ::
    (beDigits 2 tpdu.dst ++ beDigits 2 tpdu.src ++ tpdu.cls <<< 4 :: parameters) with hheader
  have hlength : header.length = parameters.length + 6 := by simp [hheader]; omega
  set bytes := bytesOf (header.length :: header) with hbytes
  -- the fields of the header, each at its place
  have hfirst : byteAt bytes 0 = .ok header.length := by
    rw [hbytes, ← List.append_nil (bytesOf _)]
    exact byteAt_bytesOf_zero hb.1 _ _
  have htotal : bytes.length = header.length + 1 := by simp [hbytes]
  have htake : bytes.take (header.length + 1) = bytes := List.take_of_length_le (by omega)
  have htype : byteAt bytes 1 = .ok TpduType.CC.value := rfl
  have hdstAt : uint16At bytes 2 = .ok tpdu.dst := by
    have hat := uint16At_bytesOf hdstLt [header.length, TpduType.CC.value]
      (bytesOf (beDigits 2 tpdu.src ++ tpdu.cls <<< 4 :: parameters))
    rwa [← bytesOf_append, ← bytesOf_append] at hat
  have hsrcAt : uint16At bytes 4 = .ok tpdu.src := by
    have hat := uint16At_bytesOf hsrcLt (header.length :: TpduType.CC.value :: beDigits 2 tpdu.dst)
      (bytesOf (tpdu.cls <<< 4 :: parameters))
    rwa [← bytesOf_append, ← bytesOf_append] at hat
  have hclsAt : byteAt bytes 6 = .ok (tpdu.cls <<< 4) := by
    show Except.ok (UInt8.ofNat (tpdu.cls <<< 4)).toNat = _
    rw [toNat_ofNat_of_lt hcls]
  have hdrop : bytes.drop 7 = bytesOf parameters := rfl
  have hsize : ¬ (header.length ≥ bytes.length ∨ header.length > 254) := by omega
  have hofValue : Enumeration.ofValue (TpduType.CC.value &&& 0xF0) = .ok TpduType.CC := rfl
  have hshift : tpdu.cls <<< 4 >>> 4 = tpdu.cls := Nat.shiftLeft_shiftRight ..
  simp only [decode, hfirst, ok_bind, if_neg hsize, htake, htype, hofValue, decodeHeader, hsrcAt,
    hdstAt, hclsAt, hdrop, hparameters, hshift, pure_eq_ok]
  rw [hpref]

/-! ### Sizes as they are received -/

/-- Sizes that the parameters of a TPDU can spell. -/
def Parameters.Legal (p : Parameters) : Prop :=
  (∀ size, p.maxTpdu = some size → ∃ k, size = 2 ^ k) ∧
    ∀ size, p.prefMaxTpdu = some size → ∃ n, size = 128 * n

theorem Parameters.legal_empty : Parameters.empty.Legal := by
  constructor <;> (intro size h; cases h)

theorem Parameters.Legal.set {k : ℕ} {v : Bytes} (hp : p.Legal) (h : p.set k v = .ok p') :
    p'.Legal := by
  unfold Parameters.set at h
  split_ifs at h
  · obtain rfl := Except.ok.inj h
    exact hp
  · obtain rfl := Except.ok.inj h
    exact hp
  · obtain ⟨n, _, h⟩ := bind_eq_ok.mp h
    obtain rfl := Except.ok.inj h
    refine ⟨fun size hsize => ⟨n, ?_⟩, hp.2⟩
    obtain rfl := Option.some.inj hsize
    exact Nat.one_shiftLeft n
  · obtain rfl := Except.ok.inj h
    refine ⟨hp.1, fun size hsize => ?_⟩
    obtain rfl := Option.some.inj hsize
    exact ⟨_, rfl⟩
  · obtain rfl := Except.ok.inj h
    exact hp

theorem legal_of_decodeParameters {vpData : Bytes} (h : decodeParameters vpData = .ok p) :
    p.Legal := by
  refine readWhile_invariant (fun p vpData p' rest hp hread => ?_) Parameters.legal_empty h
  obtain ⟨k, _, hread⟩ := bind_eq_ok.mp hread
  obtain ⟨length, _, hread⟩ := bind_eq_ok.mp hread
  obtain ⟨p₁, hset, hread⟩ := bind_eq_ok.mp hread
  obtain rfl := (Prod.mk.inj (Except.ok.inj hread)).1
  exact hp.set hset

/-- **The sizes of a CR TPDU**: a power of two, and a multiple of 128. -/
theorem sizes_of_decode_CR {cr : CR} (h : decode data = .ok (.CR cr)) :
    (∀ size, cr.maxTpdu = some size → ∃ k, size = 2 ^ k) ∧
      ∀ size, cr.prefMaxTpdu = some size → ∃ n, size = 128 * n := by
  obtain ⟨lengthIndicator, _, h⟩ := bind_eq_ok.mp h
  dsimp only at h
  split at h
  · cases h
  · obtain ⟨second, _, h⟩ := bind_eq_ok.mp h
    obtain ⟨tpduType, _, h⟩ := bind_eq_ok.mp h
    cases tpduType with
    | CR =>
      obtain ⟨src, _, h⟩ := bind_eq_ok.mp h
      obtain ⟨cls, _, h⟩ := bind_eq_ok.mp h
      obtain ⟨p, hp, h⟩ := bind_eq_ok.mp h
      obtain rfl := Tpdu.CR.inj (Except.ok.inj h)
      exact legal_of_decodeParameters hp
    | DT =>
      obtain ⟨flags, _, h⟩ := bind_eq_ok.mp h
      cases h
    | CC =>
      obtain ⟨src, _, h⟩ := bind_eq_ok.mp h
      obtain ⟨dst, _, h⟩ := bind_eq_ok.mp h
      obtain ⟨cls, _, h⟩ := bind_eq_ok.mp h
      obtain ⟨p, _, h⟩ := bind_eq_ok.mp h
      cases h
    | DR =>
      obtain ⟨src, _, h⟩ := bind_eq_ok.mp h
      obtain ⟨dst, _, h⟩ := bind_eq_ok.mp h
      obtain ⟨reason, _, h⟩ := bind_eq_ok.mp h
      cases h
    | ER =>
      obtain ⟨dst, _, h⟩ := bind_eq_ok.mp h
      obtain ⟨cause, _, h⟩ := bind_eq_ok.mp h
      cases h

end HatDrivers.Cotp
