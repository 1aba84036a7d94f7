import HatDrivers.Iec60870.Link.Encoder

namespace HatDrivers.Iec60870.Link

open HatDrivers.Lib

/-!
# Link layer — the grammar of frames

Frames as byte strings, without regard to how they are decoded.  Every frame of the grammar is
accepted, and so is nothing else (`encodes_iff_accepts`), but for strings whose length byte leaves no
place for the control field and the address: these are read out of the checksum and the end byte.
-/

namespace Encoder

variable {e : Encoder} {frame : Frame} {bytes body : Bytes} {controlField address : ℕ}
  {data : Bytes}

/-! ### Grammar -/

/-- The highest bit of a control field.  It says nothing where directions are not used. -/
def DirectionBit (e : Encoder) (direction : Option Direction) (bits : ℕ) : Prop :=
  if e.directionValid then ∃ d, direction = some d ∧ bits = d.value <<< 7
  else direction = none ∧ (bits = 0 ∨ bits = 128)

/-- The control field, the address and the data of a frame. -/
inductive Spells (e : Encoder) : Frame → ℕ → ℕ → Bytes → Prop
  | req {frame : ReqFrame} {bits : ℕ} (h : e.DirectionBit frame.direction bits) :
      Spells e (.ReqFrame frame) (bits ||| (frame.function.value ||| 0x40 |||
        flag frame.frameCountBit 0x20 ||| flag frame.frameCountValid 0x10)) frame.address frame.data
  | res {frame : ResFrame} {bits : ℕ} (h : e.DirectionBit frame.direction bits) :
      Spells e (.ResFrame frame) (bits ||| (frame.function.value |||
        flag frame.accessDemand 0x20 ||| flag frame.dataFlowControl 0x10)) frame.address frame.data

def checksum (content : Bytes) : UInt8 := UInt8.ofNat (sumOf content)

/-- What stands behind the header of a frame: its content, the checksum and the end byte. -/
def withTrailer (content : Bytes) : Bytes := content ++ [checksum content, 0x16]

/-- The byte strings of a frame. -/
inductive Encodes (e : Encoder) : Frame → Bytes → Prop
  | singleByte : Encodes e .ShortFrame [0xE5]
  | fixedLength {frame : Frame} {control : UInt8} {addressBytes : Bytes}
      (haddress : addressBytes.length = e.addressSize.value)
      (hframe : e.Spells frame control.toNat (ofLE addressBytes) []) :
      Encodes e frame (0x10 :: withTrailer (control :: addressBytes))
  | variableLength {frame : Frame} {length control : UInt8} {addressBytes data : Bytes}
      (haddress : addressBytes.length = e.addressSize.value)
      (hlength : length.toNat = 1 + e.addressSize.value + data.length)
      (hframe : e.Spells frame control.toNat (ofLE addressBytes) data) :
      Encodes e frame
        (0x68 :: length :: length :: 0x68 :: withTrailer (control :: (addressBytes ++ data)))

/-- The bytes have the size that is asked for, and are decoded as the frame. -/
def Accepts (e : Encoder) (frame : Frame) (bytes : Bytes) : Prop :=
  e.getNextFrameSize bytes = .ok bytes.length ∧ e.decode bytes = .ok frame

/-- The length byte, where there is one, covers the control field and the address. -/
def Covers (e : Encoder) (bytes : Bytes) : Prop :=
  bytes[0]? = some 0x68 → ∀ length ∈ bytes[1]?, 1 + e.addressSize.value ≤ length.toNat

instance (e : Encoder) (bytes : Bytes) : Decidable (e.Covers bytes) :=
  inferInstanceAs (Decidable (_ → _))

/-! ### Control fields -/

/-- The bits of a control field, apart and together. -/
theorem controlField_bits : ∀ c < 256, c &&& 0x80 = c >>> 7 <<< 7 ∧
    (c &&& 0x80 = 0 ∨ c &&& 0x80 = 128) ∧
    c = (c &&& 0x80) ||| ((c &&& 0x0F) ||| flag (bit c 0x40) 0x40 ||| flag (bit c 0x20) 0x20 |||
      flag (bit c 0x10) 0x10) := by decide +kernel

theorem directionBit_of_decode {direction : Option Direction} (hc : controlField < 256)
    (h : e.decodeDirection controlField = .ok direction) :
    e.DirectionBit direction (controlField &&& 0x80) := by
  obtain ⟨hshift, hcases, -⟩ := controlField_bits controlField hc
  unfold decodeDirection at h
  unfold DirectionBit
  cases hvalid : e.directionValid with
  | false =>
    simp only [hvalid, Bool.false_eq_true, if_false] at h ⊢
    exact ⟨(Except.ok.inj h).symm, hcases⟩
  | true =>
    simp only [hvalid, if_true] at h ⊢
    obtain ⟨d, hd, h⟩ := bind_eq_ok.mp h
    have hvalue : d.value = controlField >>> 7 := Enumeration.value_of_ofValue hd
    refine ⟨d, (Except.ok.inj h).symm, ?_⟩
    rw [hshift, hvalue]

theorem DirectionBit.decode {direction : Option Direction} {bits : ℕ}
    (h : e.DirectionBit direction bits) : (bits = 0 ∨ bits = 128) ∧
      ∀ rest < 128, e.decodeDirection (bits ||| rest) = .ok direction := by
  unfold DirectionBit at h
  cases hvalid : e.directionValid with
  | false =>
    simp only [hvalid, Bool.false_eq_true, if_false] at h
    obtain ⟨rfl, hcases⟩ := h
    refine ⟨hcases, fun rest _ => ?_⟩
    simp only [decodeDirection, hvalid, Bool.false_eq_true, if_false]
  | true =>
    simp only [hvalid, if_true] at h
    obtain ⟨d, rfl, rfl⟩ := h
    have hencode : e.encodeDirection (some d) = .ok (d.value <<< 7) := by
      simp only [encodeDirection, hvalid, not_true_eq_false, if_false]
    obtain ⟨hcases, hdecode⟩ := encodeDirection_eq_ok hencode
    rw [canonicalDirection, if_pos hvalid] at hdecode
    exact ⟨hcases, hdecode⟩

/-- A control field says what is decoded of it. -/
theorem spells_of_decode (hc : controlField < 256)
    (h : e.decodeControlField controlField address data = .ok frame) :
    e.Spells frame controlField address data := by
  obtain ⟨-, -, hbits⟩ := controlField_bits controlField hc
  obtain ⟨direction, hdirection, h⟩ := bind_eq_ok.mp h
  have hbit := directionBit_of_decode hc hdirection
  split at h
  · rename_i h40
    obtain ⟨function, hfunction, h⟩ := bind_eq_ok.mp h
    obtain rfl := Except.ok.inj h
    have hvalue : function.value = controlField &&& 0x0F := Enumeration.value_of_ofValue hfunction
    rw [h40, ← hvalue] at hbits
    have hspells := @Spells.req e ⟨direction, bit controlField 0x20, bit controlField 0x10,
      function, address, data⟩ _ hbit
    have hfields : controlField = controlField &&& 0x80 ||| (function.value ||| 0x40 |||
      flag (bit controlField 0x20) 0x20 ||| flag (bit controlField 0x10) 0x10) := hbits
    dsimp only at hspells
    rwa [← hfields] at hspells
  · rename_i h40
    obtain ⟨function, hfunction, h⟩ := bind_eq_ok.mp h
    obtain rfl := Except.ok.inj h
    have hvalue : function.value = controlField &&& 0x0F := Enumeration.value_of_ofValue hfunction
    rw [Bool.not_eq_true] at h40
    rw [h40, ← hvalue] at hbits
    have hspells := @Spells.res e ⟨direction, bit controlField 0x20, bit controlField 0x10,
      function, address, data⟩ _ hbit
    have hfields : controlField = controlField &&& 0x80 ||| (function.value |||
      flag (bit controlField 0x20) 0x20 ||| flag (bit controlField 0x10) 0x10) := by
      rwa [flag, if_neg Bool.false_ne_true, Nat.or_zero] at hbits
    dsimp only at hspells
    rwa [← hfields] at hspells

theorem Spells.decode (h : e.Spells frame controlField address data) :
    e.decodeControlField controlField address data = .ok frame := by
  cases h with
  | @req frame bits h =>
    obtain ⟨hbits, hdirection⟩ := h.decode
    obtain ⟨hlt, h40, h20, h10, hfunction⟩ :=
      bits_req frame.function frame.frameCountBit frame.frameCountValid hbits
    have hofValue : Enumeration.ofValue frame.function.value = .ok frame.function :=
      Enumeration.ofValue_value frame.function
    simp only [decodeControlField, hdirection _ hlt, h40, h20, h10, hfunction, hofValue, ok_bind,
      if_true, pure_eq_ok]
  | @res frame bits h =>
    obtain ⟨hbits, hdirection⟩ := h.decode
    obtain ⟨hlt, h40, h20, h10, hfunction⟩ :=
      bits_res frame.function frame.accessDemand frame.dataFlowControl hbits
    have hofValue : Enumeration.ofValue frame.function.value = .ok frame.function :=
      Enumeration.ofValue_value frame.function
    simp only [decodeControlField, hdirection _ hlt, h40, h20, h10, hfunction, hofValue, ok_bind,
      Bool.false_eq_true, if_false, pure_eq_ok]

/-! ### Trailers -/

theorem checksum_toNat (content : Bytes) : (checksum content).toNat = sumOf content % 0x100 := by
  rw [checksum, UInt8.toNat_ofNat']

theorem byteFromEnd_append (content : Bytes) (crc last : UInt8) :
    byteFromEnd (content ++ [crc, last]) 1 = .ok last.toNat ∧
      byteFromEnd (content ++ [crc, last]) 2 = .ok crc.toNat := by
  have hlen : (content ++ [crc, last]).length = content.length + 2 := by simp
  constructor
  · rw [byteFromEnd, if_neg (by omega), hlen, byteAt, List.getElem?_append_right (by omega)]
    simp
  · rw [byteFromEnd, if_neg (by omega), hlen, byteAt, List.getElem?_append_right (by omega)]
    simp

theorem exists_append_of_byteFromEnd {b : ℕ} (h : byteFromEnd body 2 = .ok b) :
    ∃ content crc last, body = content ++ [crc, last] := by
  have hlen : 2 ≤ body.length := by
    by_contra hlt
    rw [byteFromEnd, if_pos (by omega)] at h
    cases h
  obtain ⟨crc, last, hdrop⟩ : ∃ crc last, body.drop (body.length - 2) = [crc, last] := by
    apply List.length_eq_two.mp
    rw [List.length_drop]
    omega
  refine ⟨body.take (body.length - 2), crc, last, ?_⟩
  rw [← hdrop, List.take_append_drop]

/-- The last two bytes are a checksum and the end byte. -/
theorem eq_withTrailer (hend : byteFromEnd body 1 = .ok 0x16)
    (hcrc : byteFromEnd body 2 = .ok (sumOf (body.take (body.length - 2)) % 0x100)) :
    ∃ content, body = withTrailer content := by
  obtain ⟨content, crc, last, rfl⟩ := exists_append_of_byteFromEnd hcrc
  have htake : (content ++ [crc, last]).take ((content ++ [crc, last]).length - 2) = content := by
    simp
  obtain ⟨hlast, hsecond⟩ := byteFromEnd_append content crc last
  rw [hlast, Except.ok.injEq] at hend
  rw [hsecond, htake, Except.ok.injEq, ← checksum_toNat] at hcrc
  have hlast16 : last = 0x16 := UInt8.toNat_inj.mp hend
  rw [UInt8.toNat_inj.mp hcrc, hlast16]
  exact ⟨content, rfl⟩

/-- A frame with a control field, behind its header. -/
theorem decode_withTrailer {content : Bytes} {control : UInt8} {addressBytes : Bytes}
    (hstart : ∃ start, byteAt bytes 0 = .ok start ∧ start ≠ 0xE5)
    (hbody : e.body bytes = .ok (withTrailer content))
    (hcontent : content = control :: (addressBytes ++ data))
    (haddress : addressBytes.length = e.addressSize.value) :
    e.decode bytes = e.decodeControlField control.toNat (ofLE addressBytes) data := by
  obtain ⟨start, hstart, hne⟩ := hstart
  have htake : (withTrailer content).take ((withTrailer content).length - 2) = content := by
    simp [withTrailer]
  obtain ⟨hend, hcrc⟩ := byteFromEnd_append content (checksum content) 0x16
  have hend' : byteFromEnd (withTrailer content) 1 = .ok 0x16 := hend
  have hcrc' : byteFromEnd (withTrailer content) 2 = .ok (sumOf content % 0x100) := by
    rw [← checksum_toNat]
    exact hcrc
  have hcontrol : byteAt (withTrailer content) 0 = .ok control.toNat := by
    rw [hcontent]
    rfl
  have hslice : slice (withTrailer content) 1 (1 + e.addressSize.value) = addressBytes := by
    rw [hcontent, withTrailer, slice, Nat.add_comm, List.cons_append, List.take_succ_cons,
      List.drop_succ_cons, List.drop_zero, List.append_assoc]
    exact List.take_left' haddress
  have hdrop : content.drop (1 + e.addressSize.value) = data := by
    rw [hcontent, Nat.add_comm, List.drop_succ_cons]
    exact List.drop_left' haddress
  simp only [decode, hstart, ok_bind, if_neg hne, hbody, hend', hcrc', htake, hcontrol, hslice,
    hdrop, ne_eq, not_true_eq_false, if_false]

/-- What `decode` reads where it does not fail: a single byte, or a body with its trailer. -/
theorem decode_cases (h : e.decode bytes = .ok frame) :
    (byteAt bytes 0 = .ok 0xE5 ∧ frame = .ShortFrame) ∨
      (∃ start, byteAt bytes 0 = .ok start ∧ start ≠ 0xE5) ∧
        ∃ content, e.body bytes = .ok (withTrailer content) := by
  obtain ⟨start, hstart, h⟩ := bind_eq_ok.mp h
  split at h
  · rename_i heq
    rw [heq] at hstart
    exact .inl ⟨hstart, (Except.ok.inj h).symm⟩
  · rename_i hne
    obtain ⟨body, hbody, h⟩ := bind_eq_ok.mp h
    obtain ⟨last, hlast, h⟩ := bind_eq_ok.mp h
    split at h
    · cases h
    rename_i hend
    obtain ⟨crc, hcrc, h⟩ := bind_eq_ok.mp h
    split at h
    · cases h
    rename_i hsum
    rw [not_not.mp hend] at hlast
    rw [not_not.mp hsum] at hcrc
    obtain ⟨content, rfl⟩ := eq_withTrailer hlast hcrc
    exact .inr ⟨⟨start, hstart, hne⟩, content, hbody⟩

/-! ### Headers -/

theorem getNextFrameSize_fixed (rest : Bytes) :
    e.getNextFrameSize (0x10 :: rest) = .ok (4 + e.addressSize.value) := rfl

theorem getNextFrameSize_variable (length : UInt8) (rest : Bytes) :
    e.getNextFrameSize (0x68 :: length :: length :: 0x68 :: rest) = .ok (length.toNat + 6) := by
  have hlong : ¬ (0x68 :: length :: length :: 0x68 :: rest).length < 4 := by
    simp only [List.length_cons]
    omega
  simp only [getNextFrameSize, reduceCtorEq, if_false, byteAt_cons_zero, byteAt_cons_succ, ok_bind,
    if_neg hlong, ne_eq, not_true_eq_false]
  rfl

theorem body_fixed (hlength : body.length = 3 + e.addressSize.value) :
    e.body (0x10 :: body) = .ok body := by
  have hslice : slice (0x10 :: body) 1 (4 + e.addressSize.value) = body := by
    rw [slice, List.take_of_length_le (by rw [List.length_cons]; omega)]
    rfl
  simp only [Encoder.body, byteAt_cons_zero, ok_bind, hslice]
  rfl

theorem body_variable {length : UInt8} (hlength : body.length = length.toNat + 2) :
    e.body (0x68 :: length :: length :: 0x68 :: body) = .ok body := by
  have hslice : slice (0x68 :: length :: length :: 0x68 :: body) 4 (length.toNat + 6) = body := by
    rw [slice, List.take_of_length_le (by simp only [List.length_cons]; omega)]
    rfl
  simp only [Encoder.body, byteAt_cons_zero, byteAt_cons_succ, ok_bind, hslice, ne_eq,
    not_true_eq_false, if_false]
  rfl

/-- A string of the asked size has all of its header. -/
theorem exists_header {rest : Bytes}
    (hsize : e.getNextFrameSize (0x68 :: rest) = .ok (0x68 :: rest).length) :
    ∃ length length' repeated rest', rest = length :: length' :: repeated :: rest' := by
  rcases rest with _ | ⟨length, _ | ⟨length', _ | ⟨repeated, rest⟩⟩⟩
  · cases hsize
  · cases hsize
  · cases hsize
  · exact ⟨length, length', repeated, rest, rfl⟩

/-- The strings of the asked size that have a body. -/
theorem body_cases (hsize : e.getNextFrameSize bytes = .ok bytes.length)
    (hstart : ∃ start, byteAt bytes 0 = .ok start ∧ start ≠ 0xE5)
    (hbody : e.body bytes = .ok body) :
    (bytes = 0x10 :: body ∧ body.length = 3 + e.addressSize.value) ∨
      ∃ length : UInt8, bytes = 0x68 :: length :: length :: 0x68 :: body ∧
        body.length = length.toNat + 2 := by
  obtain ⟨start, hstart, hne⟩ := hstart
  cases bytes with
  | nil => cases hstart
  | cons first rest =>
    by_cases hfixed : first = 0x10
    · subst hfixed
      rw [getNextFrameSize_fixed, Except.ok.injEq, List.length_cons] at hsize
      have hlength : rest.length = 3 + e.addressSize.value := by omega
      rw [body_fixed hlength] at hbody
      obtain rfl := Except.ok.inj hbody
      exact .inl ⟨rfl, hlength⟩
    · have hfirst : byteAt (first :: rest) 0 = .ok first.toNat := rfl
      have hnot : ¬ first.toNat = 0x10 := fun h => hfixed (UInt8.toNat_inj.mp h)
      have hvalue := hbody
      simp only [Encoder.body, hfirst, ok_bind, if_neg hnot] at hbody
      have hvariable : first.toNat = 0x68 := by
        by_contra hno
        rw [if_neg hno] at hbody
        cases hbody
      obtain rfl : first = 0x68 := UInt8.toNat_inj.mp hvariable
      obtain ⟨length, length', repeated, rest, rfl⟩ := exists_header hsize
      rw [if_pos hvariable] at hbody
      have h1 : byteAt (0x68 :: length :: length' :: repeated :: rest) 1 = .ok length.toNat := rfl
      have h2 : byteAt (0x68 :: length :: length' :: repeated :: rest) 2 = .ok length'.toNat := rfl
      have h3 : byteAt (0x68 :: length :: length' :: repeated :: rest) 3 = .ok repeated.toNat := rfl
      simp only [h1, h2, h3, ok_bind] at hbody
      have hsame : length.toNat = length'.toNat := by
        by_contra hne
        rw [if_pos hne] at hbody
        cases hbody
      have hrepeated : repeated.toNat = 0x68 := by
        by_contra hne
        rw [if_neg (not_not.mpr hsame), if_pos hne] at hbody
        cases hbody
      obtain rfl := UInt8.toNat_inj.mp hsame
      obtain rfl : repeated = 0x68 := UInt8.toNat_inj.mp hrepeated
      rw [getNextFrameSize_variable, Except.ok.injEq] at hsize
      simp only [List.length_cons] at hsize
      have hlength : rest.length = length.toNat + 2 := by omega
      rw [body_variable hlength, Except.ok.injEq] at hvalue
      rw [← hvalue]
      exact .inr ⟨length, rfl, hlength⟩

theorem eq_singleByte (hsize : e.getNextFrameSize bytes = .ok bytes.length)
    (hsingle : byteAt bytes 0 = .ok 0xE5) : bytes = [0xE5] := by
  cases bytes with
  | nil => cases hsingle
  | cons first rest =>
    obtain rfl : first = 0xE5 := UInt8.toNat_inj.mp (Except.ok.inj hsingle)
    have hone : e.getNextFrameSize (0xE5 :: rest) = .ok 1 := rfl
    rw [hone, Except.ok.injEq, List.length_cons] at hsize
    obtain rfl : rest = [] := List.eq_nil_of_length_eq_zero (by omega)
    rfl

/-! ### Acceptance -/

/-- **What is accepted is of the grammar**, if its length byte covers the fields. -/
theorem encodes_of_accepts (h : e.Accepts frame bytes) (hcovers : e.Covers bytes) :
    e.Encodes frame bytes := by
  obtain ⟨hsize, hdecode⟩ := h
  obtain ⟨hsingle, rfl⟩ | ⟨hstart, content, hbody⟩ := decode_cases hdecode
  · rw [eq_singleByte hsize hsingle]
    exact .singleByte
  · have hcontent : 1 + e.addressSize.value ≤ content.length := by
      have htrailer : (withTrailer content).length = content.length + 2 := by simp [withTrailer]
      obtain ⟨-, hlength⟩ | ⟨length, hbytes, hlength⟩ := body_cases hsize hstart hbody
      · omega
      · rw [hbytes] at hcovers
        have hle := hcovers rfl length rfl
        omega
    obtain ⟨control, addressBytes, data, rfl, haddress⟩ : ∃ control addressBytes data,
        content = control :: (addressBytes ++ data) ∧
          addressBytes.length = e.addressSize.value := by
      cases content with
      | nil =>
        rw [List.length_nil] at hcontent
        omega
      | cons control rest =>
        rw [List.length_cons] at hcontent
        refine ⟨control, rest.take e.addressSize.value, rest.drop e.addressSize.value, ?_, ?_⟩
        · rw [List.take_append_drop]
        · rw [List.length_take]
          omega
    rw [decode_withTrailer hstart hbody rfl haddress] at hdecode
    have hspells := spells_of_decode control.toNat_lt hdecode
    obtain ⟨rfl, hlength⟩ | ⟨length, rfl, hlength⟩ := body_cases hsize hstart hbody
    · obtain rfl : data = [] := by
        apply List.eq_nil_of_length_eq_zero
        simp only [withTrailer, List.length_append, List.length_cons, List.length_nil] at hlength
        omega
      rw [List.append_nil]
      exact .fixedLength haddress hspells
    · refine .variableLength haddress ?_ hspells
      simp only [withTrailer, List.length_append, List.length_cons, List.length_nil] at hlength
      omega

/-- **Every frame of the grammar is accepted.** -/
theorem Encodes.accepts (h : e.Encodes frame bytes) : e.Accepts frame bytes := by
  cases h with
  | singleByte => exact ⟨rfl, rfl⟩
  | @fixedLength _ control addressBytes haddress hframe =>
    have hlength : (withTrailer (control :: addressBytes)).length =
        3 + e.addressSize.value := by
      simp only [withTrailer, List.length_append, List.length_cons, List.length_nil]
      omega
    have hcontent : control :: addressBytes = control :: (addressBytes ++ []) := by
      rw [List.append_nil]
    constructor
    · rw [getNextFrameSize_fixed, List.length_cons, hlength, Except.ok.injEq]
      omega
    · rw [decode_withTrailer ⟨0x10, rfl, by omega⟩ (body_fixed hlength) hcontent haddress]
      exact hframe.decode
  | @variableLength _ length control addressBytes data haddress hlen hframe =>
    have hlength : (withTrailer (control :: (addressBytes ++ data))).length =
        length.toNat + 2 := by
      simp only [withTrailer, List.length_append, List.length_cons, List.length_nil]
      omega
    constructor
    · simp only [getNextFrameSize_variable, List.length_cons, hlength]
    · rw [decode_withTrailer ⟨0x68, rfl, by omega⟩ (body_variable hlength) rfl haddress]
      exact hframe.decode

theorem Encodes.covers (h : e.Encodes frame bytes) : e.Covers bytes := by
  cases h with
  | singleByte => exact fun h => absurd h (by decide)
  | fixedLength haddress hframe => exact fun h => absurd h (by simp)
  | variableLength haddress hlength hframe =>
    intro _ length hmem
    obtain rfl := Option.some.inj hmem
    omega

/-- **The grammar**: what is accepted, with a length byte that covers the fields. -/
theorem encodes_iff_accepts : e.Encodes frame bytes ↔ e.Accepts frame bytes ∧ e.Covers bytes :=
  ⟨fun h => ⟨h.accepts, h.covers⟩, fun h => encodes_of_accepts h.1 h.2⟩

/-- **Which accepted strings are of the grammar**: those whose length byte covers the fields. -/
theorem encodes_iff_covers (e : Encoder) (bytes : Bytes) (frame : Frame)
    (hsize : e.getNextFrameSize bytes = .ok bytes.length) (hdecode : e.decode bytes = .ok frame) :
    e.Encodes frame bytes ↔ e.Covers bytes := by
  rw [encodes_iff_accepts]
  exact and_iff_right ⟨hsize, hdecode⟩

/-- A response with two bytes of data. -/
theorem encodes_iff_covers_response :
    (⟨.ONE, false⟩ : Encoder).Encodes
        (.ResFrame ⟨none, false, false, .RES_DATA, 3, [1, 2]⟩)
        [0x68, 4, 4, 0x68, 0x08, 3, 1, 2, 0x0E, 0x16] ↔
      (⟨.ONE, false⟩ : Encoder).Covers [0x68, 4, 4, 0x68, 0x08, 3, 1, 2, 0x0E, 0x16] :=
  encodes_iff_covers _ _ _ (by rfl) (by rfl)

/-- With a length of zero, the checksum is read as the control field and the end byte as the
address. -/
theorem accepts_without_fields :
    (⟨.ONE, false⟩ : Encoder).Accepts (.ResFrame ⟨none, false, false, .ACK, 0x16, []⟩)
        [0x68, 0, 0, 0x68, 0, 0x16] ∧
      ¬ (⟨.ONE, false⟩ : Encoder).Encodes (.ResFrame ⟨none, false, false, .ACK, 0x16, []⟩)
        [0x68, 0, 0, 0x68, 0, 0x16] := by
  refine ⟨⟨rfl, rfl⟩, fun h => ?_⟩
  have hcovers := (encodes_iff_accepts.mp h).2
  revert hcovers
  decide

end Encoder

end HatDrivers.Iec60870.Link
