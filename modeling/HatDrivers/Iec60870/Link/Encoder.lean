import HatDrivers.Iec60870.Link.Common
import HatDrivers.Lib.Framing

namespace HatDrivers.Iec60870.Link

open HatDrivers.Lib

/-!
# Link layer — encoder

Frames have one of three shapes: a single byte, a frame of fixed length, and, for frames with
data, one of variable length that gives its length twice.  A frame that can be encoded is sized
on the way to its end and decoded, without its direction if directions are not used
(`exists_encode`).
-/

structure Encoder where
  addressSize : AddressSize
  directionValid : Bool
  deriving DecidableEq

namespace Encoder

variable (e : Encoder)

/-! ### Decoder -/

def getNextFrameSize (data : Bytes) : Except Exn ℕ := do
  if data = [] then return 1
  let start ← byteAt data 0
  if start = 0xE5 then return 1
  if start = 0x10 then return 4 + e.addressSize.value
  if start = 0x68 then
    if data.length < 4 then return 4
    if (← byteAt data 1) ≠ (← byteAt data 2) then throw (.exception "length not matching")
    if (← byteAt data 3) ≠ 0x68 then throw (.exception "invalid repeated start identifier")
    return (← byteAt data 1) + 6
  throw (.exception "invalid start identifier")

/-- `data[-i]`. -/
def byteFromEnd (data : Bytes) (i : ℕ) : Except Exn ℕ :=
  if data.length < i then .error .indexError else byteAt data (data.length - i)

/-- `sum(data)`. -/
def sumOf (data : Bytes) : ℕ := (data.map UInt8.toNat).sum

/-- The data of a frame from its control field on. -/
def body (data : Bytes) : Except Exn Bytes := do
  if (← byteAt data 0) = 0x10 then return slice data 1 (4 + e.addressSize.value)
  if (← byteAt data 0) = 0x68 then
    if (← byteAt data 1) ≠ (← byteAt data 2) then throw (.exception "length not matching")
    if (← byteAt data 3) ≠ 0x68 then throw (.exception "invalid repeated start identifier")
    return slice data 4 ((← byteAt data 1) + 6)
  throw (.exception "invalid start identifier")

def decodeDirection (controlField : ℕ) : Except Exn (Option Direction) :=
  if e.directionValid then do return some (← Enumeration.ofValue (controlField >>> 7))
  else .ok none

/-- The frame of a control field, with its address and data. -/
def decodeControlField (controlField address : ℕ) (data : Bytes) : Except Exn Frame := do
  let direction ← e.decodeDirection controlField
  if bit controlField 0x40 then
    return .ReqFrame ⟨direction, bit controlField 0x20, bit controlField 0x10,
      ← Enumeration.ofValue (controlField &&& 0x0F), address, data⟩
  return .ResFrame ⟨direction, bit controlField 0x20, bit controlField 0x10,
    ← Enumeration.ofValue (controlField &&& 0x0F), address, data⟩

def decode (data : Bytes) : Except Exn Frame := do
  if (← byteAt data 0) = 0xE5 then return .ShortFrame
  let data ← e.body data
  if (← byteFromEnd data 1) ≠ 0x16 then throw (.exception "invalid end identifier")
  let content := data.take (data.length - 2)
  if (← byteFromEnd data 2) ≠ sumOf content % 0x100 then throw (.exception "invalid crc")
  let controlField ← byteAt data 0
  let addressBytes := slice data 1 (1 + e.addressSize.value)
  -- the address is zero if it has no bytes
  e.decodeControlField controlField (ofLE addressBytes) (content.drop (1 + e.addressSize.value))

/-! ### Encoder -/

def encodeDirection (direction : Option Direction) : Except Exn ℕ :=
  if ¬ e.directionValid then .ok 0
  else
    match direction with
    | none => .error .attributeError
    | some direction => .ok (direction.value <<< 7)

def encodeAddress (address : ℕ) : Except Exn (List ℕ) :=
  if e.addressSize = .ZERO then .ok [] else intToBytes address e.addressSize.value

/-- The bytes of a frame with a control field. -/
def encodeFields (controlField address : ℕ) (data : Bytes) : Except Exn Bytes := do
  let addressBytes ← e.encodeAddress address
  let fields := controlField :: (addressBytes ++ data.map UInt8.toNat)
  let crc := fields.sum % 0x100
  let header := if data ≠ [] then [0x68, fields.length, fields.length, 0x68] else [0x10]
  toBytes (header ++ fields ++ [crc, 0x16])

def flag (b : Bool) (mask : ℕ) : ℕ := if b then mask else 0

def encode : Frame → Except Exn Bytes
  | .ShortFrame => .ok [0xE5]
  | .ReqFrame frame => do
    let direction ← e.encodeDirection frame.direction
    e.encodeFields (direction ||| frame.function.value ||| 0x40 |||
      flag frame.frameCountBit 0x20 ||| flag frame.frameCountValid 0x10) frame.address frame.data
  | .ResFrame frame => do
    let direction ← e.encodeDirection frame.direction
    e.encodeFields (direction ||| frame.function.value |||
      flag frame.accessDemand 0x20 ||| flag frame.dataFlowControl 0x10) frame.address frame.data

/-- Every part of a frame asks for more than it is, within the frame, and the whole for itself. -/
def SizedOnTheWay (next : NextSize Exn) (frame : Bytes) : Prop :=
  ∀ k ≤ frame.length, ∃ size, next (frame.take k) = .ok size ∧ size ≤ frame.length ∧
    k ≤ size ∧ (k < frame.length → k < size)

theorem SizedOnTheWay.framed {next : NextSize Exn} {frame : Bytes} (h : SizedOnTheWay next frame) :
    Framed next frame := by
  apply Framed.of_prefixes
  intro k hk
  obtain ⟨size, hsize, hle, _, hlt⟩ := h k hk
  exact ⟨size, hsize, hle, hlt⟩

theorem SizedOnTheWay.size_eq {next : NextSize Exn} {frame : Bytes}
    (h : SizedOnTheWay next frame) : next frame = .ok frame.length := by
  obtain ⟨size, hsize, hle, hge, _⟩ := h frame.length (Nat.le_refl _)
  rw [List.take_length] at hsize
  rw [hsize, Nat.le_antisymm hle hge]

/-! ### What is encoded -/

/-- A direction as it is transmitted. -/
def canonicalDirection (direction : Option Direction) : Option Direction :=
  if e.directionValid then direction else none

/-- A frame as it is transmitted. -/
def canonical : Frame → Frame
  | .ReqFrame frame => .ReqFrame { frame with direction := e.canonicalDirection frame.direction }
  | .ResFrame frame => .ResFrame { frame with direction := e.canonicalDirection frame.direction }
  | .ShortFrame => .ShortFrame

/-- The fields of a frame are in range, and there is a direction if directions are used. -/
def FieldsFit (direction : Option Direction) (address : ℕ) (data : Bytes) : Prop :=
  (e.directionValid → direction ≠ none) ∧ address < 256 ^ e.addressSize.value ∧
    1 + e.addressSize.value + data.length ≤ 255

def Fits : Frame → Prop
  | .ReqFrame frame => e.FieldsFit frame.direction frame.address frame.data
  | .ResFrame frame => e.FieldsFit frame.direction frame.address frame.data
  | .ShortFrame => True

instance (direction : Option Direction) (address : ℕ) (data : Bytes) :
    Decidable (e.FieldsFit direction address data) :=
  inferInstanceAs (Decidable (_ ∧ _ ∧ _))

instance (frame : Frame) : Decidable (e.Fits frame) := by
  cases frame <;> unfold Fits <;> infer_instance

variable {e} {controlField address : ℕ} {data bytes : Bytes} {direction : Option Direction}

theorem encodeAddress_eq_ok {ns : List ℕ} (h : e.encodeAddress address = .ok ns)
    (hlt : address < 256 ^ e.addressSize.value) :
    ns.length = e.addressSize.value ∧ ofLE (bytesOf ns) = address := by
  unfold encodeAddress at h
  split at h
  · rename_i hzero
    obtain rfl := Except.ok.inj h
    rw [hzero] at hlt ⊢
    have hlt' : address < 1 := hlt
    exact ⟨rfl, (Nat.lt_one_iff.mp hlt').symm⟩
  · obtain ⟨_, rfl⟩ := intToBytes_eq_ok.mp h
    exact ⟨length_leDigits .., ofLE_leDigits_of_lt hlt⟩

theorem exists_encodeAddress (hlt : address < 256 ^ e.addressSize.value) :
    ∃ ns, e.encodeAddress address = .ok ns ∧ AllBytes ns := by
  unfold encodeAddress
  split
  · exact ⟨[], rfl, allBytes_nil⟩
  · exact ⟨_, intToBytes_of_lt hlt, allBytes_leDigits _ _⟩

/-- The bytes of a frame: a header, the fields from the control field on, their checksum, and
the end byte. -/
structure Layout (e : Encoder) (controlField address : ℕ) (data : Bytes) (fields : List ℕ)
    (bytes : Bytes) : Prop where
  fields_eq : ∃ addressBytes, fields = controlField :: (addressBytes ++ data.map UInt8.toNat) ∧
    addressBytes.length = e.addressSize.value ∧ ofLE (bytesOf addressBytes) = address
  allBytes : AllBytes fields
  length_lt : data ≠ [] → fields.length < 256
  bytes_eq : bytes = bytesOf ((if data ≠ [] then [0x68, fields.length, fields.length, 0x68]
    else [0x10]) ++ fields ++ [fields.sum % 0x100, 0x16])

theorem layout_of_encodeFields (hlt : address < 256 ^ e.addressSize.value)
    (h : e.encodeFields controlField address data = .ok bytes) :
    ∃ fields, Layout e controlField address data fields bytes := by
  obtain ⟨addressBytes, haddress, h⟩ := bind_eq_ok.mp h
  obtain ⟨hlen, hvalue⟩ := encodeAddress_eq_ok haddress hlt
  obtain ⟨hb, rfl⟩ := toBytes_eq_ok.mp h
  rw [allBytes_append, allBytes_append] at hb
  refine ⟨_, ⟨addressBytes, rfl, hlen, hvalue⟩, hb.1.2, fun hne => ?_, rfl⟩
  have hheader := hb.1.1
  rw [if_pos hne] at hheader
  exact (allBytes_cons.mp (allBytes_cons.mp hheader).2).1

namespace Layout

variable {fields : List ℕ}

theorem length_fields (l : Layout e controlField address data fields bytes) :
    fields.length = 1 + e.addressSize.value + data.length := by
  obtain ⟨addressBytes, rfl, hlen, _⟩ := l.fields_eq
  rw [List.length_cons, List.length_append, hlen, List.length_map]
  omega

theorem length_trailer (fields : List ℕ) :
    (bytesOf (fields ++ [fields.sum % 0x100, 0x16])).length = fields.length + 2 := by
  rw [length_bytesOf, List.length_append]
  rfl

/-- A frame without data, behind its start byte. -/
theorem bytes_of_nil (l : Layout e controlField address data fields bytes) (h : data = []) :
    bytes = bytesOf [0x10] ++ bytesOf (fields ++ [fields.sum % 0x100, 0x16]) := by
  have hbytes := l.bytes_eq
  rw [if_neg (by simpa using h), List.append_assoc, bytesOf_append] at hbytes
  exact hbytes

/-- A frame with data, behind its start bytes and lengths. -/
theorem bytes_of_ne_nil (l : Layout e controlField address data fields bytes) (h : data ≠ []) :
    bytes = bytesOf [0x68, fields.length, fields.length, 0x68] ++
      bytesOf (fields ++ [fields.sum % 0x100, 0x16]) := by
  have hbytes := l.bytes_eq
  rw [if_pos h, List.append_assoc, bytesOf_append] at hbytes
  exact hbytes

/-- The header of a frame with data, read byte by byte. -/
theorem header_of_ne_nil (l : Layout e controlField address data fields bytes)
    (h : data ≠ []) (rest : Bytes) :
    byteAt (bytesOf [0x68, fields.length, fields.length, 0x68] ++ rest) 0 = .ok 0x68 ∧
      byteAt (bytesOf [0x68, fields.length, fields.length, 0x68] ++ rest) 1 =
        .ok fields.length ∧
      byteAt (bytesOf [0x68, fields.length, fields.length, 0x68] ++ rest) 2 =
        .ok fields.length ∧
      byteAt (bytesOf [0x68, fields.length, fields.length, 0x68] ++ rest) 3 = .ok 0x68 := by
  have hlt := l.length_lt h
  simp only [byteAt_bytesOf_succ]
  exact ⟨byteAt_bytesOf_zero (by omega) _ _, byteAt_bytesOf_zero hlt _ _,
    byteAt_bytesOf_zero hlt _ _, byteAt_bytesOf_zero (by omega) _ _⟩

/-- The sizes asked for: one, the length of the header that tells it, and the whole. -/
theorem sizes (l : Layout e controlField address data fields bytes) :
    SizedOnTheWay e.getNextFrameSize bytes := by
  intro k hk
  have htrailer := length_trailer fields
  have hfields := l.length_fields
  by_cases hdata : data = []
  · have hbytes := l.bytes_of_nil hdata
    have htotal : bytes.length = 4 + e.addressSize.value := by
      rw [hbytes, List.length_append, htrailer, hfields, hdata]
      simp
      omega
    rw [htotal] at hk ⊢
    rcases k with _ | k
    · exact ⟨1, rfl, by omega, by omega, fun _ => by omega⟩
    · refine ⟨4 + e.addressSize.value, ?_, Nat.le_refl _, hk, id⟩
      rw [hbytes]
      rfl
  · have hbytes := l.bytes_of_ne_nil hdata
    have htotal : bytes.length = fields.length + 6 := by
      rw [hbytes, List.length_append, htrailer]
      simp
      omega
    rw [htotal] at hk ⊢
    rw [hbytes]
    rcases k with _ | _ | _ | _ | k
    · exact ⟨1, rfl, by omega, by omega, fun _ => by omega⟩
    · exact ⟨4, rfl, by omega, by omega, fun _ => by omega⟩
    · exact ⟨4, rfl, by omega, by omega, fun _ => by omega⟩
    · exact ⟨4, rfl, by omega, by omega, fun _ => by omega⟩
    · refine ⟨fields.length + 6, ?_, Nat.le_refl _, hk, id⟩
      obtain ⟨h0, h1, h2, h3⟩ := l.header_of_ne_nil hdata
        ((bytesOf (fields ++ [fields.sum % 0x100, 0x16])).take k)
      have htake : (bytesOf [0x68, fields.length, fields.length, 0x68] ++
          bytesOf (fields ++ [fields.sum % 0x100, 0x16])).take (k + 4) =
          bytesOf [0x68, fields.length, fields.length, 0x68] ++
            (bytesOf (fields ++ [fields.sum % 0x100, 0x16])).take k := rfl
      have hne : bytesOf [0x68, fields.length, fields.length, 0x68] ++
            (bytesOf (fields ++ [fields.sum % 0x100, 0x16])).take k ≠ [] := nofun
      have hlong : ¬ (bytesOf [0x68, fields.length, fields.length, 0x68] ++
            (bytesOf (fields ++ [fields.sum % 0x100, 0x16])).take k).length < 4 := by
        simp
      simp only [getNextFrameSize, htake, if_neg hne, h0, h1, h2, h3, ok_bind, if_neg hlong,
        ne_eq, not_true_eq_false, if_false]
      rfl

/-- What follows the header is cut out. -/
theorem body_eq (l : Layout e controlField address data fields bytes) :
    e.body bytes = .ok (bytesOf (fields ++ [fields.sum % 0x100, 0x16])) := by
  have htrailer := length_trailer fields
  have hfields := l.length_fields
  by_cases hdata : data = []
  · rw [l.bytes_of_nil hdata]
    have hstart : byteAt (bytesOf [0x10] ++
        bytesOf (fields ++ [fields.sum % 0x100, 0x16])) 0 = .ok 0x10 := rfl
    have hslice : slice (bytesOf [0x10] ++
        bytesOf (fields ++ [fields.sum % 0x100, 0x16])) 1 (4 + e.addressSize.value) =
        bytesOf (fields ++ [fields.sum % 0x100, 0x16]) := by
      rw [slice_skip (by simp), slice, List.take_of_length_le]
      · rfl
      · rw [htrailer, hfields, hdata]
        simp
        omega
    simp only [body, hstart, ok_bind, hslice]
    rfl
  · rw [l.bytes_of_ne_nil hdata]
    obtain ⟨h0, h1, h2, h3⟩ := l.header_of_ne_nil hdata
      (bytesOf (fields ++ [fields.sum % 0x100, 0x16]))
    have hslice : slice (bytesOf [0x68, fields.length, fields.length, 0x68] ++
        bytesOf (fields ++ [fields.sum % 0x100, 0x16])) 4 (fields.length + 6) =
        bytesOf (fields ++ [fields.sum % 0x100, 0x16]) := by
      rw [slice_skip (by simp), slice, List.take_of_length_le]
      · rfl
      · rw [htrailer]
        simp
    simp only [body, h0, h1, h2, h3, ok_bind, hslice, ne_eq, not_true_eq_false, if_false]
    rfl

/-- The fields are decoded as they were put together. -/
theorem decode_eq (l : Layout e controlField address data fields bytes) :
    e.decode bytes = e.decodeControlField controlField address data := by
  obtain ⟨addressBytes, hfields, hlen, hvalue⟩ := l.fields_eq
  have hcrc : fields.sum % 0x100 < 256 := Nat.mod_lt _ (by omega)
  have hstart : ∃ start, byteAt bytes 0 = .ok start ∧ start ≠ 0xE5 := by
    by_cases hdata : data = []
    · rw [l.bytes_of_nil hdata]
      exact ⟨0x10, rfl, by omega⟩
    · rw [l.bytes_of_ne_nil hdata]
      exact ⟨0x68, (l.header_of_ne_nil hdata _).1, by omega⟩
  obtain ⟨start, hstart, hne⟩ := hstart
  have hlength := length_trailer fields
  have hend : byteFromEnd (bytesOf (fields ++ [fields.sum % 0x100, 0x16])) 1 = .ok 0x16 := by
    rw [byteFromEnd, if_neg (by omega), hlength, bytesOf_append,
      byteAt_skip (by omega), show fields.length + 2 - 1 - fields.length = 1 by omega]
    rfl
  have hsum : byteFromEnd (bytesOf (fields ++ [fields.sum % 0x100, 0x16])) 2 =
      .ok (fields.sum % 0x100) := by
    rw [byteFromEnd, if_neg (by omega), hlength, bytesOf_append,
      byteAt_skip (by omega), show fields.length + 2 - 2 - fields.length = 0 by omega]
    have hzero := byteAt_bytesOf_zero hcrc [0x16] []
    rwa [List.append_nil] at hzero
  have hcontent : (bytesOf (fields ++ [fields.sum % 0x100, 0x16])).take (fields.length + 2 - 2) =
      bytesOf fields := by
    rw [bytesOf_append]
    exact take_bytesOf_append (by omega) _
  have htotal : sumOf (bytesOf fields) = fields.sum := by
    rw [sumOf, map_toNat_bytesOf l.allBytes]
  have hcontrol : byteAt (bytesOf (fields ++ [fields.sum % 0x100, 0x16])) 0 =
      .ok controlField := by
    have hlt : controlField < 256 := by
      have hall := l.allBytes
      rw [hfields] at hall
      exact (allBytes_cons.mp hall).1
    rw [hfields, bytesOf_append]
    exact byteAt_bytesOf_zero hlt _ _
  have hsplit : bytesOf fields = bytesOf [controlField] ++ (bytesOf addressBytes ++ data) := by
    rw [hfields, ← List.singleton_append, bytesOf_append, bytesOf_append, bytesOf_map_toNat]
  have haddress : slice (bytesOf (fields ++ [fields.sum % 0x100, 0x16])) 1
      (1 + e.addressSize.value) = bytesOf addressBytes := by
    rw [bytesOf_append, hsplit, List.append_assoc, List.append_assoc, slice_skip (by simp)]
    exact slice_zero (by simp [hlen]) _
  have hdata : (bytesOf fields).drop (1 + e.addressSize.value) = data := by
    rw [hsplit, ← List.append_assoc, ← bytesOf_append]
    exact drop_bytesOf_append (by rw [List.length_append, hlen]; rfl) _
  have hne' : ¬ start = 0xE5 := hne
  simp only [decode, hstart, ok_bind, if_neg hne', l.body_eq, hend, hlength, hcontent, hsum,
    htotal, hcontrol, haddress, hdata, hvalue, ne_eq, not_true_eq_false, if_false]

end Layout

/-! ### Control fields -/

/-- The bits of a direction. -/
theorem encodeDirection_eq_ok {bits : ℕ} (h : e.encodeDirection direction = .ok bits) :
    (bits = 0 ∨ bits = 128) ∧
      ∀ rest < 128, e.decodeDirection (bits ||| rest) = .ok (e.canonicalDirection direction) := by
  unfold encodeDirection at h
  unfold decodeDirection canonicalDirection
  cases hvalid : e.directionValid with
  | false =>
    simp only [hvalid, Bool.false_eq_true, not_false_eq_true, if_true, if_false] at h ⊢
    exact ⟨.inl (Except.ok.inj h).symm, fun _ _ => trivial⟩
  | true =>
    simp only [hvalid, not_true_eq_false, if_false, if_true] at h ⊢
    cases direction with
    | none => cases h
    | some direction =>
      obtain rfl := Except.ok.inj h
      refine ⟨by cases direction <;> simp [Direction.value], fun rest hrest => ?_⟩
      have hvalue : (direction.value <<< 7 ||| rest) >>> 7 = direction.value := by
        rw [shiftLeft_or_eq_add hrest, Nat.shiftRight_eq_div_pow]
        omega
      have hofValue : Enumeration.ofValue direction.value = .ok direction :=
        Enumeration.ofValue_value direction
      rw [hvalue, hofValue]
      rfl

/-- The bits of the control field of a request. -/
theorem bits_req (function : ReqFunction) (fcb fcv : Bool) {bits : ℕ}
    (hbits : bits = 0 ∨ bits = 128) :
    let rest := function.value ||| 0x40 ||| flag fcb 0x20 ||| flag fcv 0x10
    rest < 128 ∧ bit (bits ||| rest) 0x40 = true ∧ bit (bits ||| rest) 0x20 = fcb ∧
      bit (bits ||| rest) 0x10 = fcv ∧ (bits ||| rest) &&& 0x0F = function.value := by
  rcases hbits with rfl | rfl <;> cases function <;> cases fcb <;> cases fcv <;> decide

theorem bits_res (function : ResFunction) (ad dfc : Bool) {bits : ℕ}
    (hbits : bits = 0 ∨ bits = 128) :
    let rest := function.value ||| flag ad 0x20 ||| flag dfc 0x10
    rest < 128 ∧ bit (bits ||| rest) 0x40 = false ∧ bit (bits ||| rest) 0x20 = ad ∧
      bit (bits ||| rest) 0x10 = dfc ∧ (bits ||| rest) &&& 0x0F = function.value := by
  rcases hbits with rfl | rfl <;> cases function <;> cases ad <;> cases dfc <;> decide

/-- The control field of a request is read back. -/
theorem decodeControlField_req {frame : ReqFrame} {bits : ℕ}
    (h : e.encodeDirection frame.direction = .ok bits) :
    e.decodeControlField (bits ||| (frame.function.value ||| 0x40 |||
      flag frame.frameCountBit 0x20 ||| flag frame.frameCountValid 0x10)) frame.address
      frame.data = .ok (e.canonical (.ReqFrame frame)) := by
  obtain ⟨hbits, hdirection⟩ := encodeDirection_eq_ok h
  obtain ⟨hlt, h40, h20, h10, hfunction⟩ :=
    bits_req frame.function frame.frameCountBit frame.frameCountValid hbits
  have hofValue : Enumeration.ofValue frame.function.value = .ok frame.function :=
    Enumeration.ofValue_value frame.function
  simp only [decodeControlField, hdirection _ hlt, h40, h20, h10, hfunction, hofValue, ok_bind,
    if_true, pure_eq_ok, canonical]

theorem decodeControlField_res {frame : ResFrame} {bits : ℕ}
    (h : e.encodeDirection frame.direction = .ok bits) :
    e.decodeControlField (bits ||| (frame.function.value |||
      flag frame.accessDemand 0x20 ||| flag frame.dataFlowControl 0x10)) frame.address
      frame.data = .ok (e.canonical (.ResFrame frame)) := by
  obtain ⟨hbits, hdirection⟩ := encodeDirection_eq_ok h
  obtain ⟨hlt, h40, h20, h10, hfunction⟩ :=
    bits_res frame.function frame.accessDemand frame.dataFlowControl hbits
  have hofValue : Enumeration.ofValue frame.function.value = .ok frame.function :=
    Enumeration.ofValue_value frame.function
  simp only [decodeControlField, hdirection _ hlt, h40, h20, h10, hfunction, hofValue, ok_bind,
    Bool.false_eq_true, if_false, pure_eq_ok, canonical]

/-! ### Frames -/

/-- Fields that fit are encoded. -/
theorem exists_encodeFields (hcontrol : controlField < 256)
    (hlt : address < 256 ^ e.addressSize.value)
    (hlen : 1 + e.addressSize.value + data.length ≤ 255) :
    ∃ bytes, e.encodeFields controlField address data = .ok bytes := by
  obtain ⟨addressBytes, haddress, hb⟩ := exists_encodeAddress hlt
  obtain ⟨haddressLen, _⟩ := encodeAddress_eq_ok haddress hlt
  set fields := controlField :: (addressBytes ++ data.map UInt8.toNat) with hfields
  have hlength : fields.length < 256 := by
    rw [hfields, List.length_cons, List.length_append, haddressLen, List.length_map]
    omega
  have hall : AllBytes fields := by
    rw [hfields, allBytes_cons, allBytes_append]
    exact ⟨hcontrol, hb, allBytes_map_toNat data⟩
  have hheader : AllBytes (if data ≠ [] then [0x68, fields.length, fields.length, 0x68]
      else [0x10]) := by
    split
    · simp only [allBytes_cons, allBytes_nil, and_true]
      omega
    · decide
  have hfooter : AllBytes [fields.sum % 0x100, 0x16] := by
    simp only [allBytes_cons, allBytes_nil, and_true]
    exact ⟨Nat.mod_lt _ (by omega), by omega⟩
  refine ⟨_, bind_eq_ok.mpr ⟨addressBytes, haddress, toBytes_eq_ok.mpr ⟨?_, rfl⟩⟩⟩
  rw [allBytes_append, allBytes_append]
  exact ⟨⟨hheader, hall⟩, hfooter⟩

theorem exists_encodeDirection (h : e.directionValid → direction ≠ none) :
    ∃ bits, e.encodeDirection direction = .ok bits := by
  unfold encodeDirection
  split
  · exact ⟨0, rfl⟩
  · rename_i hvalid
    obtain ⟨d, rfl⟩ := Option.ne_none_iff_exists'.mp (h (by simpa using hvalid))
    exact ⟨_, rfl⟩

theorem lt_of_bits {bits rest : ℕ} (hbits : bits = 0 ∨ bits = 128) (hrest : rest < 128) :
    bits ||| rest < 256 := by
  have hlt : bits < 2 ^ 8 := by omega
  have hrest' : rest < 2 ^ 8 := by omega
  exact Nat.or_lt_two_pow hlt hrest'

/-- **A frame that fits is encoded**, and its bytes are sized on the way and decoded. -/
theorem exists_encode {frame : Frame} (h : e.Fits frame) : ∃ bytes, e.encode frame = .ok bytes ∧
    SizedOnTheWay e.getNextFrameSize bytes ∧ e.decode bytes = .ok (e.canonical frame) := by
  cases frame with
  | ReqFrame frame =>
    obtain ⟨hdirection, haddress, hlen⟩ := h
    obtain ⟨bits, hbits⟩ := exists_encodeDirection hdirection
    have hcases := (encodeDirection_eq_ok hbits).1
    have hlt := (bits_req frame.function frame.frameCountBit frame.frameCountValid hcases).1
    obtain ⟨bytes, hbytes⟩ := exists_encodeFields (lt_of_bits hcases hlt) haddress hlen
    obtain ⟨fields, hlayout⟩ := layout_of_encodeFields haddress hbytes
    refine ⟨bytes, ?_, hlayout.sizes, hlayout.decode_eq.trans (decodeControlField_req hbits)⟩
    rw [encode, hbits, ok_bind, ← hbytes]
    simp only [Nat.or_assoc]
  | ResFrame frame =>
    obtain ⟨hdirection, haddress, hlen⟩ := h
    obtain ⟨bits, hbits⟩ := exists_encodeDirection hdirection
    have hcases := (encodeDirection_eq_ok hbits).1
    have hlt := (bits_res frame.function frame.accessDemand frame.dataFlowControl hcases).1
    obtain ⟨bytes, hbytes⟩ := exists_encodeFields (lt_of_bits hcases hlt) haddress hlen
    obtain ⟨fields, hlayout⟩ := layout_of_encodeFields haddress hbytes
    refine ⟨bytes, ?_, hlayout.sizes, hlayout.decode_eq.trans (decodeControlField_res hbits)⟩
    rw [encode, hbits, ok_bind, ← hbytes]
    simp only [Nat.or_assoc]
  | ShortFrame =>
    refine ⟨[0xE5], rfl, fun k hk => ?_, rfl⟩
    rcases k with _ | k
    · exact ⟨1, rfl, by simp, by omega, fun _ => by omega⟩
    · exact ⟨1, rfl, by simp, hk, fun hlt => by simp at hlt⟩

end Encoder

end HatDrivers.Iec60870.Link
