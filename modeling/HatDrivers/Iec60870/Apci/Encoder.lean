import HatDrivers.Iec60870.Apci.Common
import HatDrivers.Lib.Framing

namespace HatDrivers.Iec60870.Apci

open HatDrivers.Lib

/-!
# APCI — encoder and framing

A frame starts with `0x68` and its length.  Every APDU that is encoded is read back
off the stream it is written to, whatever follows it (`read_encode`).
-/

/-! ### Encoder and decoder -/

def getNextApduSize (data : Bytes) : Except Exn ℕ := do
  if data.length < 2 then return 2
  if (← byteAt data 0) ≠ 0x68 then throw (.exception "invalid start identifier")
  if (← byteAt data 1) < 4 then throw (.exception "invalid length")
  return (← byteAt data 1) + 2

/-- The sequence number in two bytes of the control fields. -/
def sequenceNumber (lo hi : ℕ) : ℕ := (hi <<< 7) ||| (lo >>> 1)

def decode (data : Bytes) : Except Exn Apdu := do
  if (← byteAt data 0) ≠ 0x68 then throw (.exception "invalid start identifier")
  let length ← byteAt data 1
  if length < 4 then throw (.exception "invalid length")
  let controlFields := slice data 2 6
  let data := slice data 6 (2 + length)
  if bit (← byteAt controlFields 0) 1 && bit (← byteAt controlFields 0) 2 then
    return .APDUU (← Enumeration.ofValue (← byteAt controlFields 0))
  if bit (← byteAt controlFields 0) 1 then
    return .APDUS (sequenceNumber (← byteAt controlFields 2) (← byteAt controlFields 3))
  return .APDUI (sequenceNumber (← byteAt controlFields 0) (← byteAt controlFields 1))
    (sequenceNumber (← byteAt controlFields 2) (← byteAt controlFields 3)) data

/-- The bytes of a sequence number. -/
def sequenceBytes (n : ℕ) : List ℕ := [(n <<< 1) &&& 0xFF, (n >>> 7) &&& 0xFF]

/-- The checks of `encode`, in its order. -/
def checkFields : Apdu → Except Exn Unit
  | .APDUI ssn rsn data =>
    if ssn > 0x7FFF then .error (.valueError "invalid send sequence number")
    else if rsn > 0x7FFF then .error (.valueError "invalid receive sequence number")
    else if data.length > 249 then .error (.valueError "unsupported data size")
    else .ok ()
  | .APDUS rsn =>
    if rsn > 0x7FFF then .error (.valueError "invalid receive sequence number") else .ok ()
  | .APDUU _ => .ok ()

/-- The control fields and the data of a frame. -/
def fields : Apdu → List ℕ
  | .APDUI ssn rsn data => sequenceBytes ssn ++ sequenceBytes rsn ++ data.map UInt8.toNat
  | .APDUS rsn => [1, 0] ++ sequenceBytes rsn
  | .APDUU function => [function.value, 0, 0, 0]

def encode (apdu : Apdu) : Except Exn Bytes := do
  checkFields apdu
  toBytes ([0x68, (fields apdu).length] ++ fields apdu)

/-- `Transport.read`, of a stream that has all its bytes. -/
def read : ByteReader Exn Apdu :=
  receiveFrame getNextApduSize .connectionError fun data => do return (← decode data, [])

/-! ### Sequence numbers -/

theorem sequenceNumber_sequenceBytes {n : ℕ} (h : n < modulus) :
    sequenceNumber ((n <<< 1) &&& 0xFF) ((n >>> 7) &&& 0xFF) = n := by
  have hn : n < 32768 := h
  have hlo : (n <<< 1) &&& 0xFF = n * 2 % 256 := by
    rw [show 0xFF = 2 ^ 8 - 1 from rfl, Nat.and_two_pow_sub_one_eq_mod, Nat.shiftLeft_eq]
  have hhi : (n >>> 7) &&& 0xFF = n / 128 := by
    rw [show 0xFF = 2 ^ 8 - 1 from rfl, Nat.and_two_pow_sub_one_eq_mod, Nat.shiftRight_eq_div_pow]
    omega
  have hlow : (n * 2 % 256) >>> 1 = n % 128 := by
    rw [Nat.shiftRight_eq_div_pow]
    omega
  have hlt : n % 128 < 2 ^ 7 := Nat.mod_lt n (by omega)
  rw [sequenceNumber, hlo, hhi, hlow, ← Nat.shiftLeft_add_eq_or_of_lt hlt, Nat.shiftLeft_eq]
  omega

theorem sequenceNumber_lt {lo hi : ℕ} (hlo : lo < 256) (hhi : hi < 256) :
    sequenceNumber lo hi < modulus := by
  have hlow : lo >>> 1 < 2 ^ 7 := by
    rw [Nat.shiftRight_eq_div_pow]
    omega
  rw [sequenceNumber, ← Nat.shiftLeft_add_eq_or_of_lt hlow, Nat.shiftLeft_eq]
  have hmodulus : modulus = 0x8000 := rfl
  omega

theorem allBytes_sequenceBytes (n : ℕ) : AllBytes (sequenceBytes n) := by
  intro b hb
  have hle : ∀ m, m &&& 0xFF < 256 := fun m => Nat.lt_succ_of_le Nat.and_le_right
  rcases List.mem_pair.mp hb with rfl | rfl
  · exact hle _
  · exact hle _

/-- The sequence numbers of an APDU are in range. -/
def Apdu.InRange : Apdu → Prop
  | .APDUI ssn rsn _ => ssn < modulus ∧ rsn < modulus
  | .APDUS rsn => rsn < modulus
  | .APDUU _ => True

instance (apdu : Apdu) : Decidable apdu.InRange := by
  cases apdu <;> unfold Apdu.InRange <;> infer_instance

theorem byteAt_lt {data : Bytes} {i b : ℕ} (h : byteAt data i = .ok b) : b < 256 := by
  unfold byteAt at h
  split at h
  · obtain rfl := Except.ok.inj h
    exact UInt8.toNat_lt _
  · cases h

/-- Whatever is decoded has its sequence numbers in range. -/
theorem decode_inRange {data : Bytes} {apdu : Apdu} (h : decode data = .ok apdu) :
    apdu.InRange := by
  unfold decode at h
  obtain ⟨start, _, h⟩ := bind_eq_ok.mp h
  split at h
  · cases h
  obtain ⟨length, _, h⟩ := bind_eq_ok.mp h
  split at h
  · cases h
  obtain ⟨c0, h0, h⟩ := bind_eq_ok.mp h
  obtain ⟨c0', h0', h⟩ := bind_eq_ok.mp h
  split at h
  · obtain ⟨c, _, h⟩ := bind_eq_ok.mp h
    obtain ⟨function, _, h⟩ := bind_eq_ok.mp h
    obtain rfl := Except.ok.inj h
    trivial
  obtain ⟨c1, h1, h⟩ := bind_eq_ok.mp h
  split at h
  · obtain ⟨c2, h2, h⟩ := bind_eq_ok.mp h
    obtain ⟨c3, h3, h⟩ := bind_eq_ok.mp h
    obtain rfl := Except.ok.inj h
    exact sequenceNumber_lt (byteAt_lt h2) (byteAt_lt h3)
  obtain ⟨s0, hs0, h⟩ := bind_eq_ok.mp h
  obtain ⟨s1, hs1, h⟩ := bind_eq_ok.mp h
  obtain ⟨r0, hr0, h⟩ := bind_eq_ok.mp h
  obtain ⟨r1, hr1, h⟩ := bind_eq_ok.mp h
  obtain rfl := Except.ok.inj h
  exact ⟨sequenceNumber_lt (byteAt_lt hs0) (byteAt_lt hs1),
    sequenceNumber_lt (byteAt_lt hr0) (byteAt_lt hr1)⟩

/-! ### Round trip -/

/-- Sequence numbers are in range, and the data fits. -/
def Apdu.Fits : Apdu → Prop
  | .APDUI ssn rsn data => ssn < modulus ∧ rsn < modulus ∧ data.length ≤ 249
  | .APDUS rsn => rsn < modulus
  | .APDUU _ => True

theorem checkFields_eq_ok {apdu : Apdu} : checkFields apdu = .ok () ↔ apdu.Fits := by
  have hmodulus : modulus = 0x8000 := rfl
  cases apdu with
  | APDUI ssn rsn data =>
    rw [checkFields, Apdu.Fits, hmodulus]
    by_cases hssn : ssn > 0x7FFF
    · rw [if_pos hssn]
      exact iff_of_false nofun (by omega)
    by_cases hrsn : rsn > 0x7FFF
    · rw [if_neg hssn, if_pos hrsn]
      exact iff_of_false nofun (by omega)
    by_cases hdata : data.length > 249
    · rw [if_neg hssn, if_neg hrsn, if_pos hdata]
      exact iff_of_false nofun (by omega)
    · rw [if_neg hssn, if_neg hrsn, if_neg hdata]
      exact iff_of_true rfl (by omega)
  | APDUS rsn =>
    rw [checkFields, Apdu.Fits, hmodulus]
    by_cases hrsn : rsn > 0x7FFF
    · rw [if_pos hrsn]
      exact iff_of_false nofun (by omega)
    · rw [if_neg hrsn]
      exact iff_of_true rfl (by omega)
  | APDUU function => exact iff_of_true rfl trivial

theorem length_fields {apdu : Apdu} (h : apdu.Fits) :
    4 ≤ (fields apdu).length ∧ (fields apdu).length < 254 := by
  cases apdu with
  | APDUI ssn rsn data =>
    have hdata : data.length ≤ 249 := h.2.2
    have hlen : (fields (.APDUI ssn rsn data)).length = data.length + 4 := by
      simp [fields, sequenceBytes]
    omega
  | APDUS rsn => simp [fields, sequenceBytes]
  | APDUU function => simp [fields]

theorem allBytes_fields (apdu : Apdu) : AllBytes (fields apdu) := by
  cases apdu with
  | APDUI ssn rsn data =>
    rw [fields, allBytes_append, allBytes_append]
    exact ⟨⟨allBytes_sequenceBytes ssn, allBytes_sequenceBytes rsn⟩, allBytes_map_toNat data⟩
  | APDUS rsn =>
    rw [fields, allBytes_append]
    exact ⟨by decide, allBytes_sequenceBytes rsn⟩
  | APDUU function => cases function <;> decide

/-- **What is encoded**: the APDUs that fit, as a start byte, a length and the fields. -/
theorem encode_eq_ok {apdu : Apdu} {frame : Bytes} :
    encode apdu = .ok frame ↔
      apdu.Fits ∧ frame = bytesOf (0x68 :: (fields apdu).length :: fields apdu) := by
  have hall : apdu.Fits → AllBytes (0x68 :: (fields apdu).length :: fields apdu) := by
    intro h
    obtain ⟨_, hlt⟩ := length_fields h
    rw [allBytes_cons, allBytes_cons]
    exact ⟨by omega, by omega, allBytes_fields apdu⟩
  constructor
  · intro h
    obtain ⟨_, hcheck, h⟩ := bind_eq_ok.mp h
    exact ⟨checkFields_eq_ok.mp hcheck, (toBytes_eq_ok.mp h).2⟩
  · rintro ⟨hfits, rfl⟩
    rw [encode, checkFields_eq_ok.mpr hfits, ok_bind]
    exact toBytes_eq_ok.mpr ⟨hall hfits, rfl⟩

/-- The sizes asked for: two, then what the length byte says. -/
theorem framed_frame {ns : List ℕ} (h4 : 4 ≤ ns.length) (hlt : ns.length < 254) :
    Framed getNextApduSize (bytesOf (0x68 :: ns.length :: ns)) := by
  have htotal : (bytesOf (0x68 :: ns.length :: ns)).length = ns.length + 2 := by simp
  refine .of_prefixes fun k hk => ?_
  rw [htotal] at hk ⊢
  rcases k with _ | _ | k
  · exact ⟨2, rfl, by omega, fun _ => by omega⟩
  · exact ⟨2, rfl, by omega, fun _ => by omega⟩
  · refine ⟨ns.length + 2, ?_, Nat.le_refl _, id⟩
    have htake : (bytesOf (0x68 :: ns.length :: ns)).take (k + 2) =
        bytesOf [0x68, ns.length] ++ (bytesOf ns).take k := rfl
    have hstart : byteAt (bytesOf [0x68, ns.length] ++ (bytesOf ns).take k) 0 = .ok 0x68 :=
      byteAt_bytesOf_zero (by omega) _ _
    have hlength : byteAt (bytesOf [0x68, ns.length] ++ (bytesOf ns).take k) 1 =
        .ok ns.length := by
      rw [byteAt_bytesOf_succ, byteAt_bytesOf_zero (by omega)]
    have hlong : ¬ (bytesOf [0x68, ns.length] ++ (bytesOf ns).take k).length < 2 := by
      simp only [List.length_append, length_bytesOf, List.length_cons, List.length_nil]
      omega
    have hsize : ¬ ns.length < 4 := by omega
    simp only [getNextApduSize, htake, if_neg hlong, hstart, hlength, ok_bind, ne_eq,
      not_true_eq_false, if_false, if_neg hsize]
    rfl

theorem bit_even (n : ℕ) : bit ((n <<< 1) &&& 0xFF) 1 = false := by
  have hshift : ((n <<< 1) &&& 0xFF) &&& 1 = 0 := by
    rw [show 0xFF = 2 ^ 8 - 1 from rfl, Nat.and_two_pow_sub_one_eq_mod, Nat.shiftLeft_eq,
      Nat.and_one_is_mod]
    omega
  rw [bit, hshift]
  rfl

theorem lt_of_mem_sequenceBytes (n : ℕ) :
    (n <<< 1) &&& 0xFF < 256 ∧ (n >>> 7) &&& 0xFF < 256 := by
  have h := allBytes_sequenceBytes n
  exact ⟨h _ (by simp [sequenceBytes]), h _ (by simp [sequenceBytes])⟩

/-- The four bytes after the length, one by one, and the data behind them. -/
theorem decode_header {a b c d : ℕ} (data : List ℕ) (ha : a < 256) (hb : b < 256) (hc : c < 256)
    (hd : d < 256) (hlt : data.length < 250) :
    decode (bytesOf (0x68 :: (data.length + 4) :: a :: b :: c :: d :: data)) = (do
      if bit a 1 && bit a 2 then return .APDUU (← Enumeration.ofValue a)
      if bit a 1 then return .APDUS (sequenceNumber c d)
      return .APDUI (sequenceNumber a b) (sequenceNumber c d) (bytesOf data)) := by
  set frame := bytesOf (0x68 :: (data.length + 4) :: a :: b :: c :: d :: data) with hframe
  have hstart : byteAt frame 0 = .ok 0x68 := by
    simpa using byteAt_bytesOf_zero (n := 0x68) (by omega)
      ((data.length + 4) :: a :: b :: c :: d :: data) []
  have hlength : byteAt frame 1 = .ok (data.length + 4) := by
    simp [hframe, bytesOf_cons, byteAt, Nat.mod_eq_of_lt (show data.length + 4 < 256 by omega)]
  have hcontrol : slice frame 2 6 = bytesOf [a, b, c, d] := by
    simp [hframe, slice, bytesOf_cons]
  have hdata : slice frame 6 (2 + (data.length + 4)) = bytesOf data := by
    have hend : 2 + (data.length + 4) = data.length + 6 := by omega
    simp [hframe, slice, bytesOf_cons, hend]
  have h0 : byteAt (bytesOf [a, b, c, d]) 0 = .ok a := by
    simp [byteAt, bytesOf_cons, Nat.mod_eq_of_lt ha]
  have h1 : byteAt (bytesOf [a, b, c, d]) 1 = .ok b := by
    simp [byteAt, bytesOf_cons, Nat.mod_eq_of_lt hb]
  have h2 : byteAt (bytesOf [a, b, c, d]) 2 = .ok c := by
    simp [byteAt, bytesOf_cons, Nat.mod_eq_of_lt hc]
  have h3 : byteAt (bytesOf [a, b, c, d]) 3 = .ok d := by
    simp [byteAt, bytesOf_cons, Nat.mod_eq_of_lt hd]
  have hsize : ¬ data.length + 4 < 4 := by omega
  simp only [decode, hstart, hlength, ok_bind, ne_eq, not_true_eq_false, if_false, if_neg hsize,
    hcontrol, hdata, h0, h1, h2, h3]

/-- The frame of an APDU is decoded to the APDU. -/
theorem decode_fields {apdu : Apdu} (h : apdu.Fits) :
    decode (bytesOf (0x68 :: (fields apdu).length :: fields apdu)) = .ok apdu := by
  cases apdu with
  | APDUI ssn rsn data =>
    obtain ⟨hssn, hrsn, hdata⟩ := h
    obtain ⟨h0, h1⟩ := lt_of_mem_sequenceBytes ssn
    obtain ⟨h2, h3⟩ := lt_of_mem_sequenceBytes rsn
    have hlt : (data.map UInt8.toNat).length < 250 := by rw [List.length_map]; omega
    have hdecode := decode_header _ h0 h1 h2 h3 hlt
    rw [bit_even ssn, sequenceNumber_sequenceBytes hssn, sequenceNumber_sequenceBytes hrsn,
      bytesOf_map_toNat] at hdecode
    exact hdecode
  | APDUS rsn =>
    obtain ⟨h2, h3⟩ := lt_of_mem_sequenceBytes rsn
    have hdecode := decode_header [] (show 1 < 256 by omega) (show 0 < 256 by omega)
      h2 h3 (by simp)
    rw [sequenceNumber_sequenceBytes h] at hdecode
    exact hdecode
  | APDUU function =>
    have hvalue : function.value < 256 := by cases function <;> decide
    have hdecode := decode_header [] hvalue (show 0 < 256 by omega)
      (show 0 < 256 by omega) (show 0 < 256 by omega) (by simp)
    have hbits : (bit function.value 1 && bit function.value 2) = true := by
      cases function <;> rfl
    have hfunction : Enumeration.ofValue function.value = .ok function :=
      Enumeration.ofValue_value function
    rw [hbits, if_pos rfl, hfunction] at hdecode
    exact hdecode

/-- **Every encoded APDU is read back** off the stream it is written to. -/
theorem read_encode {apdu : Apdu} {frame : Bytes} (h : encode apdu = .ok frame) :
    Reads read frame apdu := by
  obtain ⟨hfits, rfl⟩ := encode_eq_ok.mp h
  obtain ⟨h4, hlt⟩ := length_fields hfits
  have hframed := framed_frame h4 hlt
  apply hframed.reads
  simp only [decode_fields hfits, ok_bind, pure_eq_ok]
  rfl

end HatDrivers.Iec60870.Apci
