import HatDrivers.Cosp.Encoder

namespace HatDrivers.Cosp

open HatDrivers.Lib

/-!
# COSP — round trip of the encoder

What is encoded is read back with its `beginning` and `end` only if both are there
(`decode_encode`): they are the bits of one parameter.  A DT SPDU is read back behind a give-tokens
SPDU, for which it would be taken itself (`decode_giveTokens`).
-/

/-! ### Lengths and parameters -/

variable {p p' : Parameters} {bs : Bytes} {ns : List ℕ} {code : ℕ}

theorem extend_eq_ok : extend ns = .ok bs ↔ AllBytes ns ∧ bs = bytesOf ns := by
  by_cases h : AllBytes ns
  · rw [extend, if_pos h, and_iff_right h, Except.ok.injEq, eq_comm]
  · rw [extend, if_neg h]
    exact iff_of_false nofun fun hbs => h hbs.1

/-- A length, in the form that it is written in, is read back. -/
theorem decodeLength_reads {li : ℕ} (h : encodeLength li = .ok bs) : Reads decodeLength bs li := by
  intro rest
  rw [encodeLength] at h
  split at h
  · rename_i hshort
    obtain ⟨-, rfl⟩ := extend_eq_ok.mp h
    have hfirst : byteAt (bytesOf [li] ++ rest) 0 = .ok li := byteAt_bytesOf_zero (by omega) _ _
    have hne : li ≠ 0xFF := by omega
    simp only [decodeLength, hfirst, ok_bind, if_pos hne]
    rfl
  · obtain ⟨hb, rfl⟩ := extend_eq_ok.mp h
    simp only [allBytes_cons, allBytes_nil, and_true] at hb
    obtain ⟨-, hhi, hlo⟩ := hb
    have hlow : li &&& 0xFF < 2 ^ 8 := hlo
    have hjoin : (li >>> 8) <<< 8 ||| (li &&& 0xFF) = li := by
      have hmod : li &&& 0xFF = li % 256 := Nat.and_two_pow_sub_one_eq_mod li 8
      rw [shiftLeft_or_eq_add hlow, hmod, Nat.shiftRight_eq_div_pow]
      omega
    have hfirst : byteAt (bytesOf [0xFF, li >>> 8, li &&& 0xFF] ++ rest) 0 = .ok 0xFF :=
      byteAt_bytesOf_zero (by omega) _ _
    have hsecond : byteAt (bytesOf [0xFF, li >>> 8, li &&& 0xFF] ++ rest) 1 = .ok (li >>> 8) := by
      rw [byteAt_bytesOf_succ]
      exact byteAt_bytesOf_zero hhi _ _
    have hthird : byteAt (bytesOf [0xFF, li >>> 8, li &&& 0xFF] ++ rest) 2 =
        .ok (li &&& 0xFF) := by
      rw [byteAt_bytesOf_succ, byteAt_bytesOf_succ]
      exact byteAt_bytesOf_zero hlo _ _
    simp only [decodeLength, hfirst, hsecond, hthird, ok_bind, ne_eq, not_true_eq_false, if_false,
      hjoin]
    rfl

theorem decodeParam_reads (hcode : code < 256) (h : encodeParam code ns = .ok bs) :
    bs ≠ [] ∧ Reads decodeParam bs (code, bytesOf ns) := by
  obtain ⟨length, hlength, h⟩ := bind_eq_ok.mp h
  obtain ⟨data, hdata, h⟩ := bind_eq_ok.mp h
  obtain ⟨-, rfl⟩ := extend_eq_ok.mp hdata
  obtain rfl := Except.ok.inj h
  refine ⟨List.cons_ne_nil _ _, fun rest => ?_⟩
  have hfirst : byteAt (UInt8.ofNat code :: (length ++ bytesOf ns) ++ rest) 0 = .ok code := by
    rw [List.cons_append, byteAt_cons_zero, toNat_ofNat_of_lt hcode]
  have hdrop : (UInt8.ofNat code :: (length ++ bytesOf ns) ++ rest).drop 1 =
      length ++ (bytesOf ns ++ rest) := by
    rw [List.cons_append, List.drop_succ_cons, List.drop_zero, List.append_assoc]
  have htake : (bytesOf ns ++ rest).take ns.length = bytesOf ns := take_bytesOf_append rfl rest
  have hskip : (bytesOf ns ++ rest).drop ns.length = rest := drop_bytesOf_append rfl rest
  simp only [decodeParam, hfirst, hdrop, decodeLength_reads hlength (bytesOf ns ++ rest), ok_bind,
    htake, hskip, pure_eq_ok]

variable {set : Parameters → ℕ → Bytes → Except Exn Parameters}

/-- A parameter is read with what it changes. -/
theorem encodeParam_chunks (hcode : code < 256) (h : encodeParam code ns = .ok bs)
    (hset : set p code (bytesOf ns) = .ok p') : Chunks (readParam set) p bs p' := by
  obtain ⟨hne, hreads⟩ := decodeParam_reads hcode h
  refine .single hne fun rest => ?_
  simp only [readParam, hreads rest, ok_bind, hset, pure_eq_ok]

/-- A value is read back, or is `None` still: `f` sets the field of its code. -/
theorem encodeOptional_chunks {α : Type} {data : α → Except Exn (List ℕ)} {a? : Option α}
    {f : Option α → Parameters} (hcode : code < 256) (hnone : f none = p)
    (hset : ∀ a ns, data a = .ok ns → AllBytes ns →
      set p code (bytesOf ns) = .ok (f (some a)))
    (h : encodeOptional code data a? = .ok bs) : Chunks (readParam set) p bs (f a?) := by
  cases a? with
  | none =>
    obtain rfl := Except.ok.inj h
    rw [hnone]
    exact .nil p
  | some a =>
    obtain ⟨ns, hns, h⟩ := bind_eq_ok.mp h
    have hb : AllBytes ns := by
      obtain ⟨_, -, h⟩ := bind_eq_ok.mp h
      obtain ⟨_, hdata, -⟩ := bind_eq_ok.mp h
      exact (extend_eq_ok.mp hdata).1
    exact encodeParam_chunks hcode h (hset a ns hns hb)

/-! ### Values -/

theorem byteAt_boolBytes {b : Bool} (h : boolBytes b = .ok ns) :
    ∃ n, byteAt (bytesOf ns) 0 = .ok n ∧ (n != 0) = b := by
  obtain rfl := Except.ok.inj h
  cases b
  · exact ⟨0, rfl, rfl⟩
  · exact ⟨1, rfl, rfl⟩

theorem byteAt_intBytes {n : ℕ} (h : intBytes n = .ok ns) (hb : AllBytes ns) :
    byteAt (bytesOf ns) 0 = .ok n := by
  obtain rfl := Except.ok.inj h
  rw [← List.append_nil (bytesOf _)]
  exact byteAt_bytesOf_zero (allBytes_cons.mp hb).1 _ _

theorem byteAt_enclosureBytes {enclosure : Bool × Bool} (h : enclosureBytes enclosure = .ok ns) :
    ∃ n, byteAt (bytesOf ns) 0 = .ok n ∧ (bit n 1, bit n 2) = enclosure := by
  obtain ⟨beginning, end_⟩ := enclosure
  obtain rfl := Except.ok.inj h
  cases beginning <;> cases end_ <;> exact ⟨_, rfl, rfl⟩

theorem bytesOf_plainBytes {data : Bytes} (h : plainBytes data = .ok ns) : bytesOf ns = data := by
  obtain rfl := Except.ok.inj h
  exact bytesOf_map_toNat data

theorem ofBE_uint16Bytes {x : ℕ} (h : uint16Bytes x = .ok ns) : ofBE (bytesOf ns) = x := by
  rw [uint16Bytes] at h
  split at h
  · rename_i hlt
    obtain rfl := Except.ok.inj h
    exact ofBE_beDigits_of_lt hlt
  · cases h

/-! ### All parameters -/

/-- The parameters as they are read back. -/
def Parameters.canonical (p : Parameters) : Parameters :=
  { p with beginning := p.enclosure.map Prod.fst, end_ := p.enclosure.map Prod.snd }

/-- The group is read with the parameters in it. -/
theorem encodeGroup_chunks {connAcc : Bytes} (hconnAcc : encodeConnAcc p = .ok connAcc)
    (h : encodeGroup connAcc = .ok bs) :
    Chunks (readParam Parameters.set) .empty bs { Parameters.empty with
      extendedSpdus := p.extendedSpdus, versionNumber := p.versionNumber } := by
  obtain ⟨extendedSpdus, hextended, hconnAcc⟩ := bind_eq_ok.mp hconnAcc
  obtain ⟨versionNumber, hversion, hconnAcc⟩ := bind_eq_ok.mp hconnAcc
  have hfirst : Chunks (readParam Parameters.setConnAcc) .empty extendedSpdus
      { Parameters.empty with extendedSpdus := p.extendedSpdus } := by
    refine encodeOptional_chunks (f := fun b => { Parameters.empty with extendedSpdus := b })
      (by omega) rfl (fun b ns hns _ => ?_) hextended
    obtain ⟨n, hbyte, hvalue⟩ := byteAt_boolBytes hns
    rw [Parameters.setConnAcc, if_pos rfl, hbyte, ok_bind, hvalue]
    rfl
  have hsecond : Chunks (readParam Parameters.setConnAcc)
      { Parameters.empty with extendedSpdus := p.extendedSpdus } versionNumber
      { Parameters.empty with
        extendedSpdus := p.extendedSpdus, versionNumber := p.versionNumber } := by
    refine encodeOptional_chunks (f := fun n => { Parameters.empty with
      extendedSpdus := p.extendedSpdus, versionNumber := n }) (by omega) rfl
      (fun n ns hns hb => ?_) hversion
    rw [Parameters.setConnAcc, if_neg (by omega), if_pos rfl, byteAt_intBytes hns hb, ok_bind]
    rfl
  have hboth := (hfirst.append hsecond).readWhile
  rw [Except.ok.inj hconnAcc] at hboth
  rw [encodeGroup] at h
  split at h
  · rename_i hnil
    obtain rfl := Except.ok.inj h
    rw [hnil] at hboth
    obtain hempty := Except.ok.inj hboth
    rw [← hempty]
    exact .nil _
  · refine encodeParam_chunks (by omega) h ?_
    rw [bytesOf_map_toNat]
    exact hboth

theorem encodeTransportDisconnect_chunks {b : Option Bool} (p : Parameters)
    (h : encodeOptional 17 boolBytes b = .ok bs) :
    Chunks (readParam Parameters.set) { p with transportDisconnect := none } bs
      { p with transportDisconnect := b } := by
  refine encodeOptional_chunks (f := fun b => { p with transportDisconnect := b }) (by omega) rfl
    (fun b ns hns _ => ?_) h
  obtain ⟨n, hbyte, hvalue⟩ := byteAt_boolBytes hns
  rw [Parameters.set, if_neg (by omega), if_pos rfl, hbyte, ok_bind, hvalue]
  rfl

theorem encodeRequirements_chunks {data : Option Bytes} (p : Parameters)
    (h : encodeOptional 20 plainBytes data = .ok bs) :
    Chunks (readParam Parameters.set) { p with requirements := none } bs
      { p with requirements := data } := by
  refine encodeOptional_chunks (f := fun data => { p with requirements := data }) (by omega) rfl
    (fun data ns hns _ => ?_) h
  rw [bytesOf_plainBytes hns]
  rfl

theorem encodeEnclosure_chunks {enclosure : Option (Bool × Bool)} (p : Parameters)
    (h : encodeOptional 25 enclosureBytes enclosure = .ok bs) :
    Chunks (readParam Parameters.set) { p with beginning := none, end_ := none } bs
      { p with beginning := enclosure.map Prod.fst, end_ := enclosure.map Prod.snd } := by
  refine encodeOptional_chunks (f := fun enclosure => { p with
    beginning := enclosure.map Prod.fst, end_ := enclosure.map Prod.snd }) (by omega) rfl
    (fun enclosure ns hns _ => ?_) h
  obtain ⟨n, hbyte, rfl⟩ := byteAt_enclosureBytes hns
  rw [Parameters.set, if_neg (by omega), if_neg (by omega), if_neg (by omega), if_pos rfl, hbyte]
  rfl

theorem encodeCallingSsel_chunks {ssel : Option ℕ} (p : Parameters)
    (h : encodeOptional 51 uint16Bytes ssel = .ok bs) :
    Chunks (readParam Parameters.set) { p with callingSsel := none } bs
      { p with callingSsel := ssel } := by
  refine encodeOptional_chunks (f := fun ssel => { p with callingSsel := ssel }) (by omega) rfl
    (fun ssel ns hns _ => ?_) h
  rw [← ofBE_uint16Bytes hns]
  rfl

theorem encodeCalledSsel_chunks {ssel : Option ℕ} (p : Parameters)
    (h : encodeOptional 52 uint16Bytes ssel = .ok bs) :
    Chunks (readParam Parameters.set) { p with calledSsel := none } bs
      { p with calledSsel := ssel } := by
  refine encodeOptional_chunks (f := fun ssel => { p with calledSsel := ssel }) (by omega) rfl
    (fun ssel ns hns _ => ?_) h
  rw [← ofBE_uint16Bytes hns]
  rfl

theorem encodeUserData_chunks {data : Option Bytes} (p : Parameters)
    (h : encodeOptional 193 plainBytes data = .ok bs) :
    Chunks (readParam Parameters.set) { p with userData := none } bs
      { p with userData := data } := by
  refine encodeOptional_chunks (f := fun data => { p with userData := data }) (by omega) rfl
    (fun data ns hns _ => ?_) h
  rw [bytesOf_plainBytes hns]
  rfl

/-- **All parameters are read back**, but for a `beginning` or `end` that is alone. -/
theorem encodeParams_reads (h : encodeParams p = .ok bs) :
    readWhile (readParam Parameters.set) .empty bs = .ok p.canonical := by
  obtain ⟨connAcc, hconnAcc, h⟩ := bind_eq_ok.mp h
  obtain ⟨group, hgroup, h⟩ := bind_eq_ok.mp h
  obtain ⟨transportDisconnect, htransport, h⟩ := bind_eq_ok.mp h
  obtain ⟨requirements, hrequirements, h⟩ := bind_eq_ok.mp h
  obtain ⟨enclosure, henclosure, h⟩ := bind_eq_ok.mp h
  obtain ⟨callingSsel, hcalling, h⟩ := bind_eq_ok.mp h
  obtain ⟨calledSsel, hcalled, h⟩ := bind_eq_ok.mp h
  obtain ⟨userData, huserData, h⟩ := bind_eq_ok.mp h
  obtain rfl := Except.ok.inj h
  -- each loop goes on from the fields that the ones before it set
  let p₁ : Parameters := { Parameters.empty with
    extendedSpdus := p.extendedSpdus, versionNumber := p.versionNumber }
  let p₂ : Parameters := { p₁ with transportDisconnect := p.transportDisconnect }
  let p₃ : Parameters := { p₂ with requirements := p.requirements }
  let p₄ : Parameters := { p₃ with
    beginning := p.enclosure.map Prod.fst, end_ := p.enclosure.map Prod.snd }
  let p₅ : Parameters := { p₄ with callingSsel := p.callingSsel }
  let p₆ : Parameters := { p₅ with calledSsel := p.calledSsel }
  have h₁ : Chunks (readParam Parameters.set) .empty group p₁ := encodeGroup_chunks hconnAcc hgroup
  have h₂ : Chunks (readParam Parameters.set) p₁ transportDisconnect p₂ :=
    encodeTransportDisconnect_chunks p₁ htransport
  have h₃ : Chunks (readParam Parameters.set) p₂ requirements p₃ :=
    encodeRequirements_chunks p₂ hrequirements
  have h₄ : Chunks (readParam Parameters.set) p₃ enclosure p₄ :=
    encodeEnclosure_chunks p₃ henclosure
  have h₅ : Chunks (readParam Parameters.set) p₄ callingSsel p₅ :=
    encodeCallingSsel_chunks p₄ hcalling
  have h₆ : Chunks (readParam Parameters.set) p₅ calledSsel p₆ :=
    encodeCalledSsel_chunks p₅ hcalled
  have h₇ : Chunks (readParam Parameters.set) p₆ userData p.canonical :=
    encodeUserData_chunks p₆ huserData
  exact (h₁.append (h₂.append (h₃.append (h₄.append (h₅.append (h₆.append h₇)))))).readWhile

/-! ### SPDUs -/

def Spdu.canonical (spdu : Spdu) : Spdu :=
  { spdu with toParameters := spdu.toParameters.canonical }

theorem ofValue_spduType (t : SpduType) : Enumeration.ofValue t.value = .ok t :=
  Enumeration.ofValue_value t

/-- What is decoded once a give-tokens SPDU is out of the way. -/
theorem decode_of_skip {spdu : Spdu} {data bytes : Bytes} (h : encode spdu = .ok bytes)
    (hskip : skipGiveTokens data = bytes) : decode data = .ok spdu.canonical := by
  obtain ⟨params, hparams, h⟩ := bind_eq_ok.mp h
  obtain ⟨length, hlength, h⟩ := bind_eq_ok.mp h
  obtain rfl := Except.ok.inj h
  have htype : spdu.type.value < 256 := by cases spdu.type <;> decide
  have hfirst : byteAt (UInt8.ofNat spdu.type.value :: (length ++ (params ++ spdu.data))) 0 =
      .ok spdu.type.value := by
    rw [byteAt_cons_zero, toNat_ofNat_of_lt htype]
  have hdrop : (UInt8.ofNat spdu.type.value :: (length ++ (params ++ spdu.data))).drop 1 =
      length ++ (params ++ spdu.data) := rfl
  have hreads := decodeLength_reads hlength (params ++ spdu.data)
  simp only [decode, hskip, hfirst, ofValue_spduType, hdrop, hreads, ok_bind, List.take_left,
    List.drop_left, encodeParams_reads hparams, pure_eq_ok]
  rfl

/-- **What is encoded is read back**, but for a `beginning` or `end` that is alone. -/
theorem decode_encode {spdu : Spdu} {bytes : Bytes} (htype : spdu.type ≠ .DT)
    (h : encode spdu = .ok bytes) : decode bytes = .ok spdu.canonical := by
  refine decode_of_skip h ?_
  obtain ⟨params, -, h⟩ := bind_eq_ok.mp h
  obtain ⟨length, -, h⟩ := bind_eq_ok.mp h
  obtain rfl := Except.ok.inj h
  refine if_neg fun hprefix => ?_
  have hfirst : UInt8.ofNat spdu.type.value = 1 := (List.cons.inj hprefix).1
  revert hfirst htype
  cases spdu.type <;> decide

/-- **Data is read back behind a give-tokens SPDU.** -/
theorem decode_giveTokens (data : Bytes) :
    ∃ bytes, encode { Parameters.empty with type := .DT, data := data } = .ok bytes ∧
      decode (giveTokensSpduBytes ++ bytes) =
        .ok { Parameters.empty with type := .DT, data := data } := by
  have hencode : encode { Parameters.empty with type := .DT, data := data } =
      .ok (1 :: 0 :: data) := rfl
  exact ⟨_, hencode, decode_of_skip hencode rfl⟩

/-! ### SPDUs that can be encoded -/

/-- The bytes of a parameter that carries `n` bytes. -/
def paramSize (n : ℕ) : ℕ := (if n < 0xFF then 2 else 4) + n

/-- The bytes of the parameters in the group. -/
def Parameters.connAccSize (p : Parameters) : ℕ :=
  p.extendedSpdus.elim 0 (fun _ => paramSize 1) + p.versionNumber.elim 0 fun _ => paramSize 1

/-- The bytes of all parameters. -/
def Parameters.size (p : Parameters) : ℕ :=
  (if p.connAccSize = 0 then 0 else paramSize p.connAccSize) +
    (p.transportDisconnect.elim 0 (fun _ => paramSize 1) +
    (p.requirements.elim 0 (fun data => paramSize data.length) +
    (p.enclosure.elim 0 (fun _ => paramSize 1) +
    (p.callingSsel.elim 0 (fun _ => paramSize 2) +
    (p.calledSsel.elim 0 (fun _ => paramSize 2) +
      p.userData.elim 0 fun data => paramSize data.length)))))

/-- The numbers are in range, and the parameters fit in their length. -/
structure Parameters.InRange (p : Parameters) : Prop where
  versionNumber : ∀ n, p.versionNumber = some n → n < 256
  callingSsel : ∀ n, p.callingSsel = some n → n < 65536
  calledSsel : ∀ n, p.calledSsel = some n → n < 65536
  size : p.size ≤ 65535

theorem exists_extend (h : AllBytes ns) : ∃ bs, extend ns = .ok bs ∧ bs.length = ns.length :=
  ⟨_, extend_eq_ok.mpr ⟨h, rfl⟩, length_bytesOf ns⟩

theorem exists_encodeLength {li : ℕ} (h : li < 65536) :
    ∃ bs, encodeLength li = .ok bs ∧ bs.length = if li < 0xFF then 1 else 3 := by
  rw [encodeLength]
  split
  · rename_i hshort
    refine exists_extend ?_
    rw [allBytes_cons]
    exact ⟨by omega, allBytes_nil⟩
  · refine exists_extend ?_
    simp only [allBytes_cons, allBytes_nil, and_true]
    refine ⟨by omega, ?_, Nat.lt_succ_of_le Nat.and_le_right⟩
    rw [Nat.shiftRight_eq_div_pow]
    omega

theorem exists_encodeParam (code : ℕ) (hb : AllBytes ns) (hlt : ns.length < 65536) :
    ∃ bs, encodeParam code ns = .ok bs ∧ bs.length = paramSize ns.length := by
  obtain ⟨length, hlength, hsize⟩ := exists_encodeLength hlt
  obtain ⟨data, hdata, hdataSize⟩ := exists_extend hb
  refine ⟨UInt8.ofNat code :: (length ++ data), ?_, ?_⟩
  · rw [encodeParam, hlength, ok_bind, hdata, ok_bind]
    rfl
  · rw [List.length_cons, List.length_append, hsize, hdataSize, paramSize]
    split <;> omega

theorem exists_encodeOptional {α : Type} (code : ℕ) {data : α → Except Exn (List ℕ)}
    {a? : Option α} (size : α → ℕ)
    (h : ∀ a, a? = some a → ∃ ns, data a = .ok ns ∧ AllBytes ns ∧ ns.length = size a ∧
      size a < 65536) :
    ∃ bs, encodeOptional code data a? = .ok bs ∧
      bs.length = a?.elim 0 fun a => paramSize (size a) := by
  cases a? with
  | none => exact ⟨[], rfl, rfl⟩
  | some a =>
    obtain ⟨ns, hns, hb, hlen, hlt⟩ := h a rfl
    obtain ⟨bs, hbs, hsize⟩ := exists_encodeParam code hb (by omega)
    refine ⟨bs, ?_, ?_⟩
    · rw [encodeOptional, hns, ok_bind, hbs]
    · rw [hsize, hlen]
      rfl

theorem exists_boolBytes (b : Bool) :
    ∃ ns, boolBytes b = .ok ns ∧ AllBytes ns ∧ ns.length = 1 ∧ 1 < 65536 := by
  refine ⟨_, rfl, ?_, rfl, by omega⟩
  cases b <;> decide

theorem exists_intBytes {n : ℕ} (h : n < 256) :
    ∃ ns, intBytes n = .ok ns ∧ AllBytes ns ∧ ns.length = 1 ∧ 1 < 65536 :=
  ⟨_, rfl, allBytes_cons.mpr ⟨h, allBytes_nil⟩, rfl, by omega⟩

theorem exists_enclosureBytes (enclosure : Bool × Bool) :
    ∃ ns, enclosureBytes enclosure = .ok ns ∧ AllBytes ns ∧ ns.length = 1 ∧ 1 < 65536 := by
  refine ⟨_, rfl, ?_, rfl, by omega⟩
  rcases enclosure with ⟨_ | _, _ | _⟩ <;> decide

theorem exists_plainBytes {data : Bytes} (h : data.length < 65536) :
    ∃ ns, plainBytes data = .ok ns ∧ AllBytes ns ∧ ns.length = data.length ∧
      data.length < 65536 :=
  ⟨_, rfl, allBytes_map_toNat data, List.length_map _, h⟩

theorem exists_uint16Bytes {x : ℕ} (h : x < 65536) :
    ∃ ns, uint16Bytes x = .ok ns ∧ AllBytes ns ∧ ns.length = 2 ∧ 2 < 65536 :=
  ⟨_, if_pos h, allBytes_beDigits 2 x, length_beDigits 2 x, by omega⟩

theorem le_paramSize (n : ℕ) : n ≤ paramSize n := Nat.le_add_left n _

theorem exists_encodeConnAcc (h : ∀ n, p.versionNumber = some n → n < 256) :
    ∃ bs, encodeConnAcc p = .ok bs ∧ bs.length = p.connAccSize := by
  obtain ⟨extendedSpdus, hextended, hextendedSize⟩ := exists_encodeOptional 19
    (fun _ => 1) fun b (_ : p.extendedSpdus = some b) => exists_boolBytes b
  obtain ⟨versionNumber, hversion, hversionSize⟩ := exists_encodeOptional 22
    (fun _ => 1) fun n (hn : p.versionNumber = some n) => exists_intBytes (h n hn)
  refine ⟨extendedSpdus ++ versionNumber, ?_, ?_⟩
  · rw [encodeConnAcc, hextended, ok_bind, hversion]
    rfl
  · rw [List.length_append, hextendedSize, hversionSize]
    rfl

theorem exists_encodeGroup {connAcc : Bytes} (h : connAcc.length < 65536) :
    ∃ bs, encodeGroup connAcc = .ok bs ∧
      bs.length = if connAcc.length = 0 then 0 else paramSize connAcc.length := by
  cases connAcc with
  | nil => exact ⟨[], rfl, rfl⟩
  | cons b rest =>
    have hlen : ((b :: rest).map UInt8.toNat).length < 65536 := by rwa [List.length_map]
    obtain ⟨bs, hbs, hsize⟩ := exists_encodeParam 5 (allBytes_map_toNat (b :: rest)) hlen
    refine ⟨bs, hbs, ?_⟩
    rw [hsize, List.length_map]
    rfl

theorem exists_encodeParams (h : p.InRange) :
    ∃ bs, encodeParams p = .ok bs ∧ bs.length = p.size := by
  have hsize := h.size
  unfold Parameters.size at hsize
  obtain ⟨connAcc, hconnAcc, hconnAccSize⟩ := exists_encodeConnAcc h.versionNumber
  have hconnAccLt : connAcc.length < 65536 := by
    have hle := le_paramSize p.connAccSize
    split at hsize <;> omega
  obtain ⟨group, hgroup, hgroupSize⟩ := exists_encodeGroup hconnAccLt
  obtain ⟨transportDisconnect, htransport, htransportSize⟩ := exists_encodeOptional 17
    (fun _ => 1) fun b (_ : p.transportDisconnect = some b) => exists_boolBytes b
  obtain ⟨requirements, hrequirements, hrequirementsSize⟩ := exists_encodeOptional 20
    List.length fun data (hdata : p.requirements = some data) =>
      exists_plainBytes (by
        have hle := le_paramSize data.length
        rw [hdata] at hsize
        simp only [Option.elim] at hsize
        omega)
  obtain ⟨enclosure, henclosure, henclosureSize⟩ := exists_encodeOptional 25
    (fun _ => 1) fun e (_ : p.enclosure = some e) =>
      exists_enclosureBytes e
  obtain ⟨callingSsel, hcalling, hcallingSize⟩ := exists_encodeOptional 51
    (fun _ => 2) fun n (hn : p.callingSsel = some n) =>
      exists_uint16Bytes (h.callingSsel n hn)
  obtain ⟨calledSsel, hcalled, hcalledSize⟩ := exists_encodeOptional 52
    (fun _ => 2) fun n (hn : p.calledSsel = some n) =>
      exists_uint16Bytes (h.calledSsel n hn)
  obtain ⟨userData, huserData, huserDataSize⟩ := exists_encodeOptional 193
    List.length fun data (hdata : p.userData = some data) =>
      exists_plainBytes (by
        have hle := le_paramSize data.length
        rw [hdata] at hsize
        simp only [Option.elim] at hsize
        omega)
  refine ⟨group ++ (transportDisconnect ++ (requirements ++ (enclosure ++ (callingSsel ++
    (calledSsel ++ userData))))), ?_, ?_⟩
  · rw [encodeParams, hconnAcc, ok_bind, hgroup, ok_bind, htransport, ok_bind, hrequirements,
      ok_bind, henclosure, ok_bind, hcalling, ok_bind, hcalled, ok_bind, huserData]
    rfl
  · simp only [List.length_append, hgroupSize, htransportSize, hrequirementsSize, henclosureSize,
      hcallingSize, hcalledSize, huserDataSize, hconnAccSize]
    rfl

theorem exists_encode {spdu : Spdu} (h : spdu.toParameters.InRange) :
    ∃ bytes, encode spdu = .ok bytes := by
  obtain ⟨params, hparams, hsize⟩ := exists_encodeParams h
  have hlt : params.length < 65536 := by
    have := h.size
    omega
  obtain ⟨length, hlength, -⟩ := exists_encodeLength hlt
  refine ⟨UInt8.ofNat spdu.type.value :: (length ++ (params ++ spdu.data)), ?_⟩
  rw [encode, hparams, ok_bind, hlength]
  rfl

/-! ### Round trip -/

/-- `beginning` and `end` are both there, or neither is. -/
def Parameters.Paired (p : Parameters) : Prop := p.beginning.isSome = p.end_.isSome

theorem Parameters.canonical_eq_iff : p.canonical = p ↔ p.Paired := by
  obtain ⟨_, _, _, _, beginning, end_, _, _, _⟩ := p
  cases beginning <;> cases end_ <;> simp [Parameters.canonical, Parameters.enclosure,
    Parameters.Paired]

/-- **SPDUs whose `beginning` and `end` are paired are read back**, and data is behind a
give-tokens SPDU. -/
theorem spdu_roundTrip (spdu : Spdu) (htype : spdu.type ≠ .DT) (hrange : spdu.toParameters.InRange)
    (hpaired : spdu.toParameters.Paired) (data : Bytes) :
    (∃ bytes, encode spdu = .ok bytes ∧ decode bytes = .ok spdu) ∧
      ∃ bytes, encode { Parameters.empty with type := .DT, data := data } = .ok bytes ∧
        decode (giveTokensSpduBytes ++ bytes) =
          .ok { Parameters.empty with type := .DT, data := data } := by
  refine ⟨?_, decode_giveTokens data⟩
  obtain ⟨bytes, hencode⟩ := exists_encode hrange
  have hcanonical : spdu.canonical = spdu := by
    rw [Spdu.canonical, Parameters.canonical_eq_iff.mpr hpaired]
  have hdecode := decode_encode htype hencode
  rw [hcanonical] at hdecode
  exact ⟨bytes, hencode, hdecode⟩

/-- A CN SPDU as `connect` sends it. -/
theorem roundTrip_connect :
    (∃ bytes, encode ⟨⟨some false, some 2, none, some [0, 2], none, none, some 1, some 2,
        some [7]⟩, .CN, []⟩ = .ok bytes ∧ decode bytes = .ok ⟨⟨some false, some 2, none,
        some [0, 2], none, none, some 1, some 2, some [7]⟩, .CN, []⟩) ∧
      ∃ bytes, encode { Parameters.empty with type := .DT, data := [1, 0] } = .ok bytes ∧
        decode (giveTokensSpduBytes ++ bytes) =
          .ok { Parameters.empty with type := .DT, data := [1, 0] } :=
  spdu_roundTrip
    ⟨⟨some false, some 2, none, some [0, 2], none, none, some 1, some 2, some [7]⟩, .CN, []⟩
    (by decide) ⟨by simp, by simp, by simp, by decide⟩ rfl [1, 0]

/-- A `beginning` without an `end` is not written. -/
theorem decode_encode_beginning :
    ∃ bytes, encode { Parameters.empty with beginning := some true, type := .FN, data := [] } =
        .ok bytes ∧
      decode bytes = .ok { Parameters.empty with type := .FN, data := [] } :=
  ⟨_, rfl, rfl⟩

end HatDrivers.Cosp
