import HatDrivers.Iec60870.Encodings.Iec103.GenericData
import HatDrivers.Lib.Views

namespace HatDrivers.Iec60870.Encodings.Iec103

open HatDrivers.Lib

/-!
# IEC 60870-5-103 — counts of generic data

The number of data of an element is written in six bits, that of the values of an array in seven,
and what does not fit in them is cut off.  `Value.Fits` says which counts do, at any depth.

A reader finds the values of an array by the size byte, but an array in an array is not filled up to
it: behind one that is shorter, values are read from the wrong place (`Value.Aligned`).  Where they
are not, an element is read with its counts iff they fit (`counts_iff`).
-/

/-! ### Counts -/

/-- The numbers of values of an array, and of the arrays in it. -/
inductive Counts
  | value
  | array (values : List Counts)

mutual

def Value.counts : Value → Counts
  | .ArrayValue _ _ values => .array (valuesCounts values)
  | _ => .value

def valuesCounts : List Value → List Counts
  | [] => []
  | v :: values => v.counts :: valuesCounts values

end

theorem valuesCounts_eq (values : List Value) : valuesCounts values = values.map Value.counts := by
  induction values with
  | nil => rfl
  | cons v values ih => rw [valuesCounts, ih, List.map_cons]

mutual

/-- Seven bits hold the number of values of every array. -/
def Value.Fits : Value → Prop
  | .ArrayValue _ _ values => values.length < 128 ∧ ValuesFit values
  | _ => True

def ValuesFit : List Value → Prop
  | [] => True
  | v :: values => v.Fits ∧ ValuesFit values

end

theorem valuesFit_iff {values : List Value} : ValuesFit values ↔ ∀ v ∈ values, v.Fits := by
  induction values with
  | nil => simp [ValuesFit]
  | cons v values ih => rw [ValuesFit, ih, List.forall_mem_cons]

/-- The value takes the size that the header of its array gives it. -/
def Value.Fills (size : ℕ) (v : Value) : Prop :=
  getValueType v = .ARRAY → getValueMinSize v = size

mutual

/-- Every array in an array, at any depth, takes the size that is given to it. -/
def Value.Padded : Value → Prop
  | .ArrayValue _ _ values => ValuesPadded (getValuesMinSize values) values
  | _ => True

def ValuesPadded (size : ℕ) : List Value → Prop
  | [] => True
  | v :: values => v.Padded ∧ v.Fills size ∧ ValuesPadded size values

end

theorem valuesPadded_iff {size : ℕ} {values : List Value} :
    ValuesPadded size values ↔ ∀ v ∈ values, v.Padded ∧ v.Fills size := by
  induction values with
  | nil => simp [ValuesPadded]
  | cons v values ih => rw [ValuesPadded, ih, List.forall_mem_cons, and_assoc]

mutual

/-- Every array in an array takes the size that is given to it, but for the last ones, behind which
no value is read. -/
def Value.Aligned : Value → Prop
  | .ArrayValue _ _ values => ValuesAligned (getValuesMinSize values) values
  | _ => True

def ValuesAligned (size : ℕ) : List Value → Prop
  | [] => True
  | [v] => v.Aligned
  | v :: w :: values => v.Padded ∧ v.Fills size ∧ ValuesAligned size (w :: values)

end

theorem valuesAligned_iff {size : ℕ} {values : List Value} :
    ValuesAligned size values ↔
      (∀ v ∈ values.dropLast, v.Padded ∧ v.Fills size) ∧ ∀ v ∈ values.getLast?, v.Aligned := by
  induction values with
  | nil => simp [ValuesAligned]
  | cons v values ih =>
    cases values with
    | nil => simp [ValuesAligned]
    | cons w values =>
      rw [ValuesAligned, ih, List.dropLast_cons_cons, List.forall_mem_cons, and_assoc, and_assoc,
        List.getLast?_cons_cons]

/-! ### Reading of bytes that are there -/

theorem exists_byteAt {bs : Bytes} {i : ℕ} (h : i < bs.length) : ∃ b, byteAt bs i = .ok b := by
  rw [byteAt, List.getElem?_eq_getElem h]
  exact ⟨_, rfl⟩

/-- A time is read off any bytes that are as many as it takes. -/
theorem exists_decodeTime {bs : Bytes} {timeSize : TimeSize} (h : timeSize.value ≤ bs.length) :
    ∃ time, decodeTime bs timeSize = .ok time := by
  have hbyte : ∀ i < timeSize.value, ∃ b, byteAt bs i = .ok b :=
    fun i hi => exists_byteAt (by omega)
  cases timeSize with
  | TWO =>
    obtain ⟨b₀, h₀⟩ := hbyte 0 (by decide)
    obtain ⟨b₁, h₁⟩ := hbyte 1 (by decide)
    simp [decodeTime, ifLonger, TimeSize.value, h₀, h₁]
  | THREE =>
    obtain ⟨b₀, h₀⟩ := hbyte 0 (by decide)
    obtain ⟨b₁, h₁⟩ := hbyte 1 (by decide)
    obtain ⟨b₂, h₂⟩ := hbyte 2 (by decide)
    simp [decodeTime, ifLonger, TimeSize.value, h₀, h₁, h₂]
  | FOUR =>
    obtain ⟨b₀, h₀⟩ := hbyte 0 (by decide)
    obtain ⟨b₁, h₁⟩ := hbyte 1 (by decide)
    obtain ⟨b₂, h₂⟩ := hbyte 2 (by decide)
    obtain ⟨b₃, h₃⟩ := hbyte 3 (by decide)
    simp [decodeTime, ifLonger, TimeSize.value, h₀, h₁, h₂, h₃]
  | SEVEN =>
    obtain ⟨b₀, h₀⟩ := hbyte 0 (by decide)
    obtain ⟨b₁, h₁⟩ := hbyte 1 (by decide)
    obtain ⟨b₂, h₂⟩ := hbyte 2 (by decide)
    obtain ⟨b₃, h₃⟩ := hbyte 3 (by decide)
    obtain ⟨b₄, h₄⟩ := hbyte 4 (by decide)
    obtain ⟨b₅, h₅⟩ := hbyte 5 (by decide)
    obtain ⟨b₆, h₆⟩ := hbyte 6 (by decide)
    simp [decodeTime, ifLonger, TimeSize.value, h₀, h₁, h₂, h₃, h₄, h₅, h₆]

/-- The sizes of optional fields. -/
private theorem length_of_ite {p : Prop} [Decidable p] {w : Except Exn (List ℕ)} {ns : List ℕ}
    {n : ℕ} (h : (if p then w else pure []) = .ok ns) (hw : ∀ ns, w = .ok ns → ns.length = n) :
    ns.length = if p then n else 0 := by
  split at h
  · rw [if_pos (by assumption), hw ns h]
  · obtain rfl := Except.ok.inj h
    rw [if_neg (by assumption), List.length_nil]

theorem length_of_encodeTime {time : Time} {timeSize : TimeSize} {ns : List ℕ}
    (h : encodeTime time timeSize = .ok ns) : ns.length = timeSize.value := by
  rw [encodeTime] at h
  split at h
  · cases h
  · obtain ⟨minutes, hminutes, h⟩ := bind_eq_ok.mp h
    obtain ⟨hours, hhours, h⟩ := bind_eq_ok.mp h
    obtain ⟨date, hdate, h⟩ := bind_eq_ok.mp h
    obtain rfl := Except.ok.inj h
    have hm := length_of_ite (n := 1) hminutes fun ns hns => by
      obtain ⟨_, -, hns⟩ := bind_eq_ok.mp hns
      rw [← Except.ok.inj hns, List.length_singleton]
    have hh := length_of_ite (n := 1) hhours fun ns hns => by
      obtain ⟨_, -, hns⟩ := bind_eq_ok.mp hns
      rw [← Except.ok.inj hns, List.length_singleton]
    have hd := length_of_ite (n := 3) hdate fun ns hns => by
      obtain ⟨_, -, hns⟩ := bind_eq_ok.mp hns
      obtain ⟨_, -, hns⟩ := bind_eq_ok.mp hns
      obtain ⟨_, -, hns⟩ := bind_eq_ok.mp hns
      obtain ⟨_, -, hns⟩ := bind_eq_ok.mp hns
      rw [← Except.ok.inj hns]
      rfl
    rw [List.length_append, List.length_append, List.length_append, hm, hh, hd]
    cases timeSize <;> rfl

theorem exists_decodeFixed {data : Bytes} {bitOffset bitSize : ℕ} (signed : Bool)
    (hpos : 0 < bitSize) (h : byteCount (bitOffset + bitSize) ≤ data.length) :
    ∃ x, decodeFixed data bitOffset bitSize signed = .ok x := by
  have hlimit : fixedLimit bitSize signed = .ok (2 ^ (bitSize - if signed then 1 else 0)) := by
    rw [fixedLimit, if_neg (by simp; omega)]
  simp only [decodeFixed, hlimit, ok_bind, if_neg (Nat.not_lt.mpr h)]
  exact ⟨_, rfl⟩

/-! ### Values that are no arrays -/

/-- What is written in a size is no longer than it. -/
theorem encodedSize_of_encodeValue {v : Value} {size : ℕ} {ns : List ℕ}
    (h : encodeValue v (some size) = .ok ns) :
    getValueMinSize v ≤ size ∧ encodedSize (getValueMinSize v) (some size) = .ok size := by
  rw [encodeValue] at h
  obtain ⟨size', hsize, -⟩ := bind_eq_ok.mp h
  rw [encodedSize] at hsize ⊢
  split at hsize
  · cases hsize
  · rename_i hlt
    exact ⟨by omega, by rw [if_neg hlt]⟩

/-- A value that is no array is read. -/
def ReadsAsValue (valueType : ValueType) (bs : Bytes) : Prop :=
  ∃ v rest, decodeValue valueType bs = .ok (v, rest) ∧ v.counts = .value

theorem ReadsAsValue.of_mapRead {α : Type} {valueType : ValueType} {f : α → Value}
    {r : ByteReader Exn α} {bs : Bytes} (ht : decodeValue valueType bs = mapRead f r bs)
    (hf : ∀ a, (f a).counts = .value) (hr : ∃ a rest, r bs = .ok (a, rest)) :
    ReadsAsValue valueType bs := by
  obtain ⟨a, rest, hr⟩ := hr
  exact ⟨f a, rest, by rw [ht, mapRead, hr]; rfl, hf a⟩

section

variable {bs : Bytes} {ns : List ℕ} {size : ℕ}

/-- A member of an enumeration is read off the byte that was written for it. -/
theorem ofValue_byteAt {E : Type} [Enumeration E] (e : E)
    (hb : AllBytes (Enumeration.value e :: ns)) :
    (byteAt (bytesOf (Enumeration.value e :: ns)) 0 >>= Enumeration.ofValue) = .ok e := by
  have hbyte := byteAt_bytesOf_zero (allBytes_cons.mp hb).1 ns []
  rw [List.append_nil] at hbyte
  rw [hbyte, ok_bind, Enumeration.ofValue_value]

theorem exists_decodeEnum {E : Type} [Enumeration E] (e : E)
    (hb : AllBytes (Enumeration.value e :: ns)) :
    ∃ a rest, decodeEnum (E := E) (bytesOf (Enumeration.value e :: ns)) = .ok (a, rest) := by
  obtain ⟨n, hn, he⟩ := bind_eq_ok.mp (ofValue_byteAt e hb)
  exact ⟨e, _, by rw [decodeEnum, hn, ok_bind, he, ok_bind]; rfl⟩

theorem exists_decodeReal32 (h : 4 ≤ bs.length) : ∃ a rest, decodeReal32 bs = .ok (a, rest) := by
  have hlen : (bs.take 4).length = 4 := by
    rw [List.length_take]
    omega
  exact ⟨_, _, by rw [decodeReal32, unpackFloat, if_pos hlen]; rfl⟩

theorem exists_unpackDouble (h : 8 ≤ bs.length) : ∃ x, unpackDouble (bs.take 8) = .ok x := by
  have hlen : (bs.take 8).length = 8 := by
    rw [List.length_take]
    omega
  exact ⟨_, by rw [unpackDouble, if_pos hlen]⟩

theorem exists_decodeMeasurand (h : 2 ≤ bs.length) :
    ∃ a rest, decodeMeasurand bs = .ok (a, rest) := by
  obtain ⟨b, hb⟩ := exists_byteAt (show 0 < bs.length by omega)
  have hcount : byteCount (3 + 13) ≤ bs.length := h
  obtain ⟨x, hx⟩ := exists_decodeFixed true (by omega) hcount
  exact ⟨_, _, by rw [decodeMeasurand, hb, ok_bind, ok_bind, hx]; rfl⟩

theorem exists_decodeIdentification (h : 2 ≤ bs.length) :
    ∃ a rest, decodeIdentification bs = .ok (a, rest) := by
  obtain ⟨b, hb⟩ := exists_byteAt (show 0 < bs.length by omega)
  obtain ⟨c, hc⟩ := exists_byteAt (show 1 < bs.length by omega)
  exact ⟨_, _, by rw [decodeIdentification, hb, ok_bind, hc]; rfl⟩

theorem exists_decodeIoAddressValue (h : 2 ≤ bs.length) :
    ∃ a rest, decodeIoAddressValue bs = .ok (a, rest) := by
  obtain ⟨b, hb⟩ := exists_byteAt (show 0 < bs.length by omega)
  obtain ⟨c, hc⟩ := exists_byteAt (show 1 < bs.length by omega)
  exact ⟨_, _, by rw [decodeIoAddressValue, hb, ok_bind, hc]; rfl⟩

/-- A time of four bytes inside. -/
theorem exists_decodeTime_slice {i : ℕ} (h : i + 4 ≤ bs.length) :
    ∃ time, decodeTime (slice bs i (i + 4)) .FOUR = .ok time := by
  apply exists_decodeTime
  show 4 ≤ _
  rw [slice, List.length_drop, List.length_take]
  omega

theorem exists_decodeDoubleWithTime (value : DoubleValue)
    (hvalue : (byteAt bs 0 >>= Enumeration.ofValue) = .ok value) (h : 6 ≤ bs.length) :
    ∃ a rest, decodeDoubleWithTime bs = .ok (a, rest) := by
  obtain ⟨n, hn, he⟩ := bind_eq_ok.mp hvalue
  obtain ⟨time, htime⟩ := exists_decodeTime_slice (show 1 + 4 ≤ bs.length by omega)
  obtain ⟨b, hb⟩ := exists_byteAt (show 5 < bs.length by omega)
  exact ⟨_, _, by rw [decodeDoubleWithTime, hn, ok_bind, he, ok_bind, htime, ok_bind, hb]; rfl⟩

theorem exists_decodeDoubleWithRelativeTime (value : DoubleValue)
    (hvalue : (byteAt bs 0 >>= Enumeration.ofValue) = .ok value) (h : 10 ≤ bs.length) :
    ∃ a rest, decodeDoubleWithRelativeTime bs = .ok (a, rest) := by
  obtain ⟨n, hn, he⟩ := bind_eq_ok.mp hvalue
  obtain ⟨time, htime⟩ := exists_decodeTime_slice (show 5 + 4 ≤ bs.length by omega)
  obtain ⟨b, hb⟩ := exists_byteAt (show 9 < bs.length by omega)
  exact ⟨_, _, by
    rw [decodeDoubleWithRelativeTime, hn, ok_bind, he, ok_bind, htime, ok_bind, hb]
    rfl⟩

theorem exists_decodeMeasurandWithRelativeTime (h : 12 ≤ bs.length) :
    ∃ a rest, decodeMeasurandWithRelativeTime bs = .ok (a, rest) := by
  have hlen : (bs.take 4).length = 4 := by
    rw [List.length_take]
    omega
  obtain ⟨time, htime⟩ := exists_decodeTime_slice (show 8 + 4 ≤ bs.length from h)
  exact ⟨_, _, by
    rw [decodeMeasurandWithRelativeTime, unpackFloat, if_pos hlen, ok_bind, htime]
    rfl⟩

/-- What is filled up with zeros takes the size that is given to it. -/
theorem length_append_zeros {n : ℕ} (hlen : ns.length = n) (hle : n ≤ size) :
    (ns ++ zeros (size - n)).length = size := by
  rw [List.length_append, zeros, List.length_replicate]
  omega

theorem length_of_setFlags {flags : ℕ} {data flagged : List ℕ}
    (h : setFlags flags data = .ok flagged) : flagged.length = data.length := by
  cases data with
  | nil => cases h
  | cons d data =>
    obtain rfl := Except.ok.inj h
    rfl

/-- A value of a fixed size, behind which there are zeros. -/
theorem readsAsValue_append {n : ℕ} {valueType : ValueType} (hlen : ns.length = n) (hle : n ≤ size)
    (hr : n ≤ (bytesOf (ns ++ zeros (size - n))).length →
      ReadsAsValue valueType (bytesOf (ns ++ zeros (size - n)))) :
    (ns ++ zeros (size - n)).length = size ∧
      ReadsAsValue valueType (bytesOf (ns ++ zeros (size - n))) := by
  have hsize := length_append_zeros hlen hle
  exact ⟨hsize, hr (by rw [length_bytesOf, hsize]; exact hle)⟩

/-- A fixed-point number takes all bytes. -/
theorem readsAsValue_fixed {value : ℚ} {valueType : ValueType} (signed : Bool) (hmin : 2 ≤ size)
    (hw : encodeFixed value 0 (8 * size) signed = .ok ns)
    (ht : decodeValue valueType (bytesOf ns) = (do
      return (.FixedValue (← decodeFixed (bytesOf ns) 0 (8 * (bytesOf ns).length) signed), []))) :
    ns.length = size ∧ ReadsAsValue valueType (bytesOf ns) := by
  have hlen : ns.length = size := by
    rw [length_of_encodeFixed hw, byteCount]
    omega
  have hcount : byteCount (0 + 8 * size) ≤ (bytesOf ns).length := by
    rw [length_bytesOf, hlen, byteCount]
    omega
  obtain ⟨x, hx⟩ := exists_decodeFixed signed (by omega) hcount
  rw [length_bytesOf, hlen, hx] at ht
  exact ⟨hlen, .FixedValue x, [], ht, rfl⟩

/-- **A value that is no array takes the size that is given to it, and is read.** -/
theorem readsAsValue {v : Value} (hv : getValueType v ≠ .ARRAY)
    (hreply : getValueType v = .REPLY → size = 1) (hw : encodeValue v (some size) = .ok ns)
    (hb : AllBytes ns) : ns.length = size ∧ ReadsAsValue (getValueType v) (bytesOf ns) := by
  obtain ⟨hmin, hsize⟩ := encodedSize_of_encodeValue hw
  cases v with
  | NoneValue =>
    rw [encodeValue, hsize, ok_bind] at hw
    obtain rfl := Except.ok.inj hw
    exact ⟨List.length_replicate, _, _, by rw [getValueType, decodeValue]; rfl, rfl⟩
  | TextValue value =>
    rw [encodeValue, hsize, ok_bind] at hw
    obtain rfl := Except.ok.inj hw
    exact ⟨length_append_zeros (List.length_map _) hmin, _, _,
      by rw [getValueType, decodeValue]; rfl, rfl⟩
  | BitstringValue value =>
    rw [encodeValue, hsize, ok_bind] at hw
    obtain rfl := Except.ok.inj hw
    exact ⟨by simp, _, _, by rw [getValueType, decodeValue]; rfl, rfl⟩
  | UIntValue value =>
    rw [encodeValue, hsize, ok_bind] at hw
    obtain ⟨-, rfl⟩ := intToBytes_eq_ok.mp hw
    exact ⟨length_leDigits _ _, _, _, by rw [getValueType, decodeValue]; rfl, rfl⟩
  | IntValue value =>
    rw [encodeValue, hsize, ok_bind] at hw
    obtain ⟨-, rfl⟩ := intToBytes_eq_ok.mp hw
    simp only [getValueMinSize] at hmin
    obtain ⟨size, rfl⟩ : ∃ n, size = n + 1 := ⟨size - 1, by omega⟩
    refine ⟨length_leDigits _ _, ?_⟩
    unfold ReadsAsValue
    rw [getValueType, decodeValue, decodeIntValue, getLast?_leDigits]
    exact ⟨_, _, rfl, rfl⟩
  | UFixedValue value =>
    rw [encodeValue, hsize, ok_bind] at hw
    exact readsAsValue_fixed false hmin hw (by rw [getValueType, decodeValue])
  | FixedValue value =>
    rw [encodeValue, hsize, ok_bind] at hw
    exact readsAsValue_fixed true hmin hw (by rw [getValueType, decodeValue])
  | Real32Value value =>
    rw [encodeValue, hsize, ok_bind] at hw
    obtain rfl := Except.ok.inj hw
    exact readsAsValue_append (length_leDigits _ _) hmin fun h =>
      .of_mapRead (by rw [getValueType, decodeValue]) (fun _ => rfl) (exists_decodeReal32 h)
  | Real64Value value =>
    rw [encodeValue, hsize, ok_bind] at hw
    obtain rfl := Except.ok.inj hw
    apply readsAsValue_append (length_leDigits _ _) hmin
    intro h
    obtain ⟨x, hx⟩ := exists_unpackDouble h
    exact ⟨.Real64Value x, _, by rw [getValueType, decodeValue, hx]; rfl, rfl⟩
  | DoubleValue value =>
    rw [encodeValue, hsize, ok_bind] at hw
    obtain rfl := Except.ok.inj hw
    exact ⟨length_append_zeros (List.length_singleton (a := value.value)) hmin,
      .of_mapRead (by rw [getValueType, decodeValue]) (fun _ => rfl) (exists_decodeEnum value hb)⟩
  | SingleValue value =>
    rw [encodeValue, hsize, ok_bind] at hw
    obtain rfl := Except.ok.inj hw
    exact ⟨length_append_zeros (List.length_singleton (a := value.value)) hmin,
      .of_mapRead (by rw [getValueType, decodeValue]) (fun _ => rfl) (exists_decodeEnum value hb)⟩
  | ExtendedDoubleValue value =>
    rw [encodeValue, hsize, ok_bind] at hw
    obtain rfl := Except.ok.inj hw
    exact ⟨length_append_zeros (List.length_singleton (a := value.value)) hmin,
      .of_mapRead (by rw [getValueType, decodeValue]) (fun _ => rfl) (exists_decodeEnum value hb)⟩
  | MeasurandValue value =>
    rw [encodeValue, hsize, ok_bind] at hw
    obtain ⟨data, hdata, hw⟩ := bind_eq_ok.mp hw
    obtain ⟨flagged, hflagged, hw⟩ := bind_eq_ok.mp hw
    obtain rfl := Except.ok.inj hw
    have hlen : flagged.length = 2 := by
      have hdata := length_of_encodeFixed hdata
      rw [← hdata.trans (by decide : byteCount (3 + 13) = 2)]
      exact length_of_setFlags hflagged
    exact readsAsValue_append hlen hmin fun h =>
      .of_mapRead (by rw [getValueType, decodeValue]) (fun _ => rfl) (exists_decodeMeasurand h)
  | TimeValue value =>
    rw [encodeValue, hsize, ok_bind] at hw
    obtain ⟨time, htime, hw⟩ := bind_eq_ok.mp hw
    obtain rfl := Except.ok.inj hw
    apply readsAsValue_append (length_of_encodeTime htime) hmin
    intro h
    have hseven : TimeSize.SEVEN.value ≤ _ := h
    obtain ⟨t, ht⟩ := exists_decodeTime hseven
    exact ⟨_, _, by rw [getValueType, decodeValue, ht]; rfl, rfl⟩
  | IdentificationValue value =>
    rw [encodeValue, hsize, ok_bind] at hw
    obtain rfl := Except.ok.inj hw
    exact readsAsValue_append rfl hmin fun h =>
      .of_mapRead (by rw [getValueType, decodeValue]) (fun _ => rfl)
        (exists_decodeIdentification h)
  | RelativeTimeValue value =>
    rw [encodeValue, hsize, ok_bind] at hw
    obtain ⟨relativeTime, htime, hw⟩ := bind_eq_ok.mp hw
    obtain rfl := Except.ok.inj hw
    obtain ⟨-, rfl⟩ := intToBytes_eq_ok.mp htime
    exact readsAsValue_append (length_leDigits _ _) hmin fun _ =>
      ⟨_, _, by rw [getValueType, decodeValue]; rfl, rfl⟩
  | IoAddressValue value =>
    rw [encodeValue, hsize, ok_bind] at hw
    obtain rfl := Except.ok.inj hw
    exact readsAsValue_append rfl hmin fun h =>
      .of_mapRead (by rw [getValueType, decodeValue]) (fun _ => rfl) (exists_decodeIoAddressValue h)
  | DoubleWithTimeValue value =>
    rw [encodeValue, hsize, ok_bind] at hw
    obtain ⟨time, htime, hw⟩ := bind_eq_ok.mp hw
    obtain rfl := Except.ok.inj hw
    have hvalue := ofValue_byteAt value.value hb
    refine readsAsValue_append ?_ hmin fun h => .of_mapRead (by rw [getValueType, decodeValue])
      (fun _ => rfl) (exists_decodeDoubleWithTime value.value hvalue h)
    simp [length_of_encodeTime htime, TimeSize.value]
  | DoubleWithRelativeTimeValue value =>
    rw [encodeValue, hsize, ok_bind] at hw
    obtain ⟨relativeTime, hrelative, hw⟩ := bind_eq_ok.mp hw
    obtain ⟨faultNumber, hfault, hw⟩ := bind_eq_ok.mp hw
    obtain ⟨time, htime, hw⟩ := bind_eq_ok.mp hw
    obtain rfl := Except.ok.inj hw
    obtain ⟨-, rfl⟩ := intToBytes_eq_ok.mp hrelative
    obtain ⟨-, rfl⟩ := intToBytes_eq_ok.mp hfault
    have hvalue := ofValue_byteAt value.value hb
    refine readsAsValue_append ?_ hmin fun h => .of_mapRead (by rw [getValueType, decodeValue])
      (fun _ => rfl) (exists_decodeDoubleWithRelativeTime value.value hvalue h)
    simp [length_of_encodeTime htime, TimeSize.value]
  | MeasurandWithRelativeTimeValue value =>
    rw [encodeValue, hsize, ok_bind] at hw
    obtain ⟨relativeTime, hrelative, hw⟩ := bind_eq_ok.mp hw
    obtain ⟨faultNumber, hfault, hw⟩ := bind_eq_ok.mp hw
    obtain ⟨time, htime, hw⟩ := bind_eq_ok.mp hw
    obtain rfl := Except.ok.inj hw
    obtain ⟨-, rfl⟩ := intToBytes_eq_ok.mp hrelative
    obtain ⟨-, rfl⟩ := intToBytes_eq_ok.mp hfault
    refine readsAsValue_append ?_ hmin fun h => .of_mapRead (by rw [getValueType, decodeValue])
      (fun _ => rfl) (exists_decodeMeasurandWithRelativeTime h)
    simp [length_of_encodeTime htime, TimeSize.value, packFloat]
  | TextNumberValue value =>
    rw [encodeValue, hsize, ok_bind] at hw
    obtain ⟨-, rfl⟩ := intToBytes_eq_ok.mp hw
    exact ⟨length_leDigits _ _, _, _, by rw [getValueType, decodeValue]; rfl, rfl⟩
  | ReplyValue value =>
    rw [encodeValue, hsize, ok_bind] at hw
    obtain rfl := Except.ok.inj hw
    obtain rfl := hreply rfl
    exact ⟨rfl, .of_mapRead (by rw [getValueType, decodeValue]) (fun _ => rfl)
      (exists_decodeEnum value hb)⟩
  | ArrayValue valueType moreFollows values => exact absurd rfl hv
  | IndexValue value =>
    rw [encodeValue, hsize, ok_bind] at hw
    obtain ⟨-, rfl⟩ := intToBytes_eq_ok.mp hw
    exact ⟨length_leDigits _ _, _, _, by rw [getValueType, decodeValue]; rfl, rfl⟩

/-! ### Sizes -/

/-- An array is written the same whatever size is given to it. -/
theorem encodeValue_of_some {v : Value} (hv : getValueType v = .ARRAY)
    (hw : encodeValue v (some size) = .ok ns) : encodeValue v none = .ok ns := by
  obtain ⟨-, hsize⟩ := encodedSize_of_encodeValue hw
  cases v with
  | ArrayValue valueType moreFollows values =>
    rw [encodeValue, hsize] at hw
    rw [encodeValue]
    exact hw
  | _ => cases hv

/-- What is written for an array has a header and elements of the type of the array. -/
theorem encodeArray_eq_ok {t : ValueType} {moreFollows : Bool} {values : List Value}
    (hw : encodeValue (.ArrayValue t moreFollows values) none = .ok ns) :
    (∀ v ∈ values, getValueType v = t) ∧
      ∃ es, encodeValues values (getValuesMinSize values) = .ok es ∧
        ns = [t.value, arraySize t values,
          (if moreFollows then 0x80 else 0x00) ||| (values.length &&& 0x7F)] ++ es := by
  by_cases htype : ∀ v ∈ values, getValueType v = t
  · rw [encodeArray_eq moreFollows htype] at hw
    obtain ⟨es, hes, hw⟩ := bind_eq_ok.mp hw
    exact ⟨htype, es, hes, (Except.ok.inj hw).symm⟩
  · have hany : values.any (getValueType · ≠ t) = true := by
      simpa using htype
    rw [encodeValue] at hw
    simp only [encodedSize, ok_bind, hany, if_true] at hw
    cases hw

/-- A reply takes one byte, and so does every element of an array of them. -/
theorem getValuesMinSize_reply {values : List Value} (h : ∀ v ∈ values, getValueType v = .REPLY)
    (hne : values ≠ []) : getValuesMinSize values = 1 := by
  apply getValuesMinSize_eq _ hne
  intro v hv
  have ht := h v hv
  cases v with
  | ReplyValue value => rfl
  | _ => cases ht

/-- A value is as long as its size says, or shorter if an array in it is not padded. -/
def SizeBounds (v : Value) : Prop :=
  ∀ ns, encodeValue v none = .ok ns → AllBytes ns →
    ns.length ≤ getValueMinSize v ∧ (v.Padded → ns.length = getValueMinSize v)

/-- An element is as long as the size that is given to it, or shorter if it is an array. -/
theorem SizeBounds.element {v : Value} (h : SizeBounds v)
    (hreply : getValueType v = .REPLY → size = 1) (hw : encodeValue v (some size) = .ok ns)
    (hb : AllBytes ns) : ns.length ≤ size ∧ (v.Padded → v.Fills size → ns.length = size) := by
  by_cases hv : getValueType v = .ARRAY
  · obtain ⟨hle, hpadded⟩ := h ns (encodeValue_of_some hv hw) hb
    have hmin := (encodedSize_of_encodeValue hw).1
    exact ⟨hle.trans hmin, fun hp hf => (hpadded hp).trans (hf hv)⟩
  · obtain ⟨hlen, -⟩ := readsAsValue hv hreply hw hb
    exact ⟨hlen.le, fun _ _ => hlen⟩

theorem length_of_encodeValues {values : List Value} (h : ∀ v ∈ values, SizeBounds v)
    (hreply : ∀ v ∈ values, getValueType v = .REPLY → size = 1)
    (hw : encodeValues values size = .ok ns) (hb : AllBytes ns) :
    ns.length ≤ values.length * size ∧
      (ValuesPadded size values → ns.length = values.length * size) := by
  induction values generalizing ns with
  | nil =>
    obtain rfl := Except.ok.inj hw
    exact ⟨by simp, fun _ => by simp⟩
  | cons v values ih =>
    rw [encodeValues] at hw
    obtain ⟨ms, hms, hw⟩ := bind_eq_ok.mp hw
    obtain ⟨ms', hms', hw⟩ := bind_eq_ok.mp hw
    obtain rfl := Except.ok.inj hw
    rw [allBytes_append] at hb
    obtain ⟨hle, hpadded⟩ := (h v (by simp)).element (hreply v (by simp)) hms hb.1
    obtain ⟨hle', hpadded'⟩ := ih (fun w hw => h w (by simp [hw]))
      (fun w hw => hreply w (by simp [hw])) hms' hb.2
    rw [List.length_append, List.length_cons, Nat.add_mul, Nat.one_mul]
    refine ⟨by omega, fun hall => ?_⟩
    obtain ⟨hp, hf, hps⟩ := hall
    rw [hpadded hp hf, hpadded' hps, Nat.add_comm]

/-- **How long a value is.** -/
theorem sizeBounds (v : Value) : SizeBounds v := by
  -- strong induction on the size of the value, whose elements are smaller
  induction hn : sizeOf v using Nat.strong_induction_on generalizing v with
  | _ n ih =>
    intro ns hw hb
    by_cases hv : getValueType v = .ARRAY
    · cases v with
      | ArrayValue t moreFollows values =>
        obtain ⟨htype, es, hes, rfl⟩ := encodeArray_eq_ok hw
        rw [allBytes_append] at hb
        have helems : ∀ v ∈ values, SizeBounds v := by
          intro v hv
          apply ih (sizeOf v) _ v rfl
          have hlt := List.sizeOf_lt_of_mem hv
          simp only [Value.ArrayValue.sizeOf_spec] at hn
          omega
        have hreply : ∀ v ∈ values, getValueType v = .REPLY → getValuesMinSize values = 1 := by
          intro v hv hreply
          apply getValuesMinSize_reply _ (List.ne_nil_of_mem hv)
          intro w hw
          rw [htype w hw, ← htype v hv, hreply]
        obtain ⟨hle, hpadded⟩ := length_of_encodeValues helems hreply hes hb.2
        have hlen : ∀ es : List ℕ, ([t.value, arraySize t values, (if moreFollows then 0x80 else
            0x00) ||| (values.length &&& 0x7F)] ++ es).length = 3 + es.length := by
          intro es
          rw [List.length_append]
          rfl
        rw [hlen, getValueMinSize]
        exact ⟨by omega, fun hp => by rw [hpadded hp]⟩
      | _ => cases hv
    · rw [← encodeValue_some] at hw
      have hreply : getValueType v = .REPLY → getValueMinSize v = 1 := by
        intro ht
        cases v with
        | ReplyValue value => rfl
        | _ => cases ht
      obtain ⟨hlen, -⟩ := readsAsValue hv hreply hw hb
      exact ⟨hlen.le, fun _ => hlen⟩

/-! ### Arrays -/

set_option maxRecDepth 4000 in
private theorem arrayFlags_small : ∀ moreFollows : Bool, ∀ n < 128,
    ((if moreFollows then 0x80 else 0x00) ||| n) < 256 ∧
      ((if moreFollows then 0x80 else 0x00) ||| n) &&& 0x7F = n := by
  decide +kernel

/-- Of the number of values, seven bits are written. -/
theorem arrayFlags_spec (moreFollows : Bool) (n : ℕ) :
    ((if moreFollows then 0x80 else 0x00) ||| (n &&& 0x7F)) < 256 ∧
      ((if moreFollows then 0x80 else 0x00) ||| (n &&& 0x7F)) &&& 0x7F = n % 128 := by
  have hand : n &&& 0x7F = n % 128 := Nat.and_two_pow_sub_one_eq_mod n 7
  rw [hand]
  exact arrayFlags_small moreFollows (n % 128) (Nat.mod_lt n (by omega))

theorem byteCount_max (m n : ℕ) : byteCount (max m n) = max (byteCount m) (byteCount n) := by
  unfold byteCount
  omega

/-- The size byte says how many bytes every element takes, also if not all of its bits are used. -/
theorem byteSize_eq_getValuesMinSize {t : ValueType} {values : List Value}
    (htype : ∀ v ∈ values, getValueType v = t) :
    (if t = .BITSTRING then byteCount (arraySize t values) else arraySize t values) =
      getValuesMinSize values := by
  by_cases ht : t = .BITSTRING
  · rw [if_pos ht, arraySize, if_neg (not_not.mpr ht)]
    induction values with
    | nil => rfl
    | cons v values ih =>
      have hv := htype v (by simp)
      rw [ht] at hv
      have hcount : byteCount (bitCount v) = getValueMinSize v := by
        cases v with
        | BitstringValue value => rfl
        | _ => cases hv
      rw [List.map_cons, List.foldr_cons, byteCount_max, hcount,
        ih fun w hw => htype w (by simp [hw]), getValuesMinSize]
  · rw [if_neg ht, arraySize, if_pos ht]

/-- The header of an array is read, and the elements behind it. -/
theorem decodeArray_header {t : ValueType} (moreFollows : Bool) {values : List Value}
    (htype : ∀ v ∈ values, getValueType v = t) (hsize : arraySize t values < 256) (bs : Bytes) :
    ∃ more, decodeArray (bytesOf [t.value, arraySize t values,
        (if moreFollows then 0x80 else 0x00) ||| (values.length &&& 0x7F)] ++ bs) =
      mapRead (ArrayValue.mk t more)
        (decodeValues t (getValuesMinSize values) (values.length % 128)) bs := by
  obtain ⟨hlt, hn⟩ := arrayFlags_spec moreFollows values.length
  have ht : Enumeration.ofValue t.value = .ok t := Enumeration.ofValue_value t
  refine ⟨bit ((if moreFollows then 0x80 else 0x00) ||| (values.length &&& 0x7F)) 0x80, ?_⟩
  rw [bytesOf_cons, List.cons_append, decodeArray]
  simp only [toNat_ofNat_of_lt t.value_lt, ht, ok_bind, byteAt_bytesOf_zero hsize,
    byteAt_bytesOf_succ, byteAt_bytesOf_zero hlt, hn, drop_bytesOf_succ, List.drop_zero,
    byteSize_eq_getValuesMinSize htype, bytesOf_nil, List.nil_append]
  rfl

/-- An element of an array, in the slice of its size, is read with its counts. -/
def ElementView (e : Prop) (t : ValueType) (size : ℕ) (v : Value) : Prop :=
  ViewIff e v.Fits (encodeValue v (some size)) (sliceRead size (decodeValue t)) Value.counts
    v.counts

/-- **An array is read with its counts** iff its elements are, and seven bits hold their number. -/
theorem array_viewIff {e : Prop} {t : ValueType} {moreFollows : Bool} {values : List Value}
    (hinit : (∀ v ∈ values, getValueType v = t) → ∀ v ∈ values.dropLast,
      ElementView True t (getValuesMinSize values) v)
    (hlast : (∀ v ∈ values, getValueType v = t) → ∀ v ∈ values.getLast?,
      ElementView e t (getValuesMinSize values) v) :
    ViewIff e (Value.ArrayValue t moreFollows values).Fits
      (encodeValue (.ArrayValue t moreFollows values) none) decodeArray
      (fun a => a.toValue.counts) (Value.ArrayValue t moreFollows values).counts := by
  have hinjective : Function.Injective Counts.array := fun _ _ h => Counts.array.inj h
  -- what is read behind the header
  have hview : ∀ more, (∀ v ∈ values, getValueType v = t) →
      ViewIff e (Value.ArrayValue t moreFollows values).Fits
        (encodeValues values (getValuesMinSize values))
        (mapRead (ArrayValue.mk t more)
          (decodeValues t (getValuesMinSize values) (values.length % 128)))
        (fun a => a.toValue.counts) (Value.ArrayValue t moreFollows values).counts := by
    intro more htype
    have hvalues := (ViewIff.writeAll (hinit htype) (hlast htype)).counted (m := 128) (by omega)
    rw [← encodeValues_eq, ← decodeValues_eq] at hvalues
    have hmap : ViewIff e (Value.ArrayValue t moreFollows values).Fits
        (encodeValues values (getValuesMinSize values))
        (decodeValues t (getValuesMinSize values) (values.length % 128))
        (fun vs => ((ArrayValue.mk t more vs).toValue).counts)
        (Value.ArrayValue t moreFollows values).counts := by
      have hcounts : ∀ vs, ((ArrayValue.mk t more vs).toValue).counts =
          .array (vs.map Value.counts) := by
        intro vs
        rw [ArrayValue.toValue, Value.counts, valuesCounts_eq]
      rw [Value.counts, valuesCounts_eq, Value.Fits, valuesFit_iff]
      simp only [hcounts]
      exact hvalues.comp hinjective
    exact hmap.map (g := fun a : ArrayValue => a.toValue.counts) (k := ArrayValue.mk t more)
  constructor
  · intro hfits ns hw hb rest
    obtain ⟨htype, es, hes, rfl⟩ := encodeArray_eq_ok hw
    rw [allBytes_append] at hb
    have hsize : arraySize t values < 256 := hb.1 _ (by simp)
    obtain ⟨more, hread⟩ := decodeArray_header moreFollows htype hsize (bytesOf es ++ rest)
    rw [bytesOf_append, List.append_assoc, hread]
    exact (hview more htype).keeps hfits es hes hb.2 rest
  · intro hfits ns hw hb rest a rest' hr
    obtain ⟨htype, es, hes, rfl⟩ := encodeArray_eq_ok hw
    rw [allBytes_append] at hb
    have hsize : arraySize t values < 256 := hb.1 _ (by simp)
    obtain ⟨more, hread⟩ := decodeArray_header moreFollows htype hsize (bytesOf es ++ rest)
    rw [bytesOf_append, List.append_assoc, hread] at hr
    exact (hview more htype).loses hfits es hes hb.2 rest a rest' hr

theorem counts_of_ne_array {v : Value} (hv : getValueType v ≠ .ARRAY) : v.counts = .value := by
  cases v with
  | ArrayValue t moreFollows values => exact absurd rfl hv
  | _ => rfl

theorem fits_of_ne_array {v : Value} (hv : getValueType v ≠ .ARRAY) : v.Fits := by
  cases v with
  | ArrayValue t moreFollows values => exact absurd rfl hv
  | _ => exact trivial

/-- An element that is no array is read off its slice. -/
theorem elementView_of_ne_array {e : Prop} {v : Value} (hv : getValueType v ≠ .ARRAY)
    (hreply : getValueType v = .REPLY → size = 1) :
    ElementView e (getValueType v) size v where
  keeps := by
    intro _ ns hw hb rest
    obtain ⟨hlen, v', rest', hr, hcounts⟩ := readsAsValue hv hreply hw hb
    refine ⟨v', rest, ?_, hcounts.trans (counts_of_ne_array hv).symm, fun _ => rfl⟩
    rw [sliceRead, take_bytesOf_append hlen, hr, ok_bind, drop_bytesOf_append hlen]
    rfl
  loses := fun hfits => absurd (fits_of_ne_array hv) hfits

/-- What is known of an array before its place is. -/
def ArrayView (e : Prop) (v : Value) : Prop :=
  ViewIff e v.Fits (encodeValue v none) decodeArray (fun a => a.toValue.counts) v.counts

/-- A slice of bytes and of some of those behind them. -/
theorem take_bytesOf_of_le (hle : ns.length ≤ size) (rest : Bytes) :
    (bytesOf ns ++ rest).take size = bytesOf ns ++ rest.take (size - ns.length) := by
  have hall : (bytesOf ns).take size = bytesOf ns :=
    List.take_of_length_le (by rw [length_bytesOf]; exact hle)
  rw [List.take_append, hall, length_bytesOf]

/-- An element that is an array is read off its slice, in which other bytes may follow it; if it
fills its slice, the next one is read behind it. -/
theorem ArrayView.element {e e' : Prop} {v : Value} (h : ArrayView e' v)
    (hv : getValueType v = .ARRAY) (he : e → v.Padded ∧ v.Fills size) :
    ElementView e (getValueType v) size v := by
  have hbounds : ∀ ns, encodeValue v (some size) = .ok ns → AllBytes ns →
      ns.length ≤ size ∧ (v.Padded → v.Fills size → ns.length = size) :=
    fun ns hw hb => (sizeBounds v).element (by rw [hv]; exact nofun) hw hb
  constructor
  · intro hfits ns hw hb rest
    obtain ⟨hle, hfills⟩ := hbounds ns hw hb
    obtain ⟨a, rest', hr, hcounts, -⟩ :=
      h.keeps hfits ns (encodeValue_of_some hv hw) hb (rest.take (size - ns.length))
    refine ⟨a.toValue, (bytesOf ns ++ rest).drop size, ?_, hcounts, fun h' => ?_⟩
    · rw [sliceRead, take_bytesOf_of_le hle, hv, decodeValue, hr]
      rfl
    · obtain ⟨hp, hf⟩ := he h'
      exact drop_bytesOf_append (hfills hp hf) rest
  · intro hfits ns hw hb rest v' rest' hread
    obtain ⟨hle, -⟩ := hbounds ns hw hb
    rw [sliceRead, take_bytesOf_of_le hle, hv, decodeValue] at hread
    obtain ⟨⟨v'', rest''⟩, harray, hread⟩ := bind_eq_ok.mp hread
    obtain ⟨rfl, rfl⟩ := Prod.mk.inj (Except.ok.inj hread)
    obtain ⟨⟨a, left⟩, hr, hvalue⟩ := bind_eq_ok.mp harray
    obtain ⟨rfl, rfl⟩ := Prod.mk.inj (Except.ok.inj hvalue)
    exact h.loses hfits ns (encodeValue_of_some hv hw) hb _ a _ hr

/-- A value among others of its type is read, as an element. -/
theorem elementView {e e' : Prop} {values : List Value} {t : ValueType} {v : Value}
    (htype : ∀ w ∈ values, getValueType w = t) (hmem : v ∈ values)
    (h : getValueType v = .ARRAY → ArrayView e' v)
    (he : e → v.Padded ∧ v.Fills (getValuesMinSize values)) :
    ElementView e t (getValuesMinSize values) v := by
  rw [← htype v hmem]
  by_cases hv : getValueType v = .ARRAY
  · exact (h hv).element hv he
  · apply elementView_of_ne_array hv
    intro hreply
    apply getValuesMinSize_reply _ (List.ne_nil_of_mem hmem)
    intro w hw
    rw [htype w hw, ← htype v hmem, hreply]

/-- **An array is read with its counts iff they fit**, if the arrays in it are padded, or those
behind which it is read on. -/
theorem arrayView (v : Value) (hv : getValueType v = .ARRAY) :
    (v.Padded → ArrayView True v) ∧ (v.Aligned → ArrayView False v) := by
  -- strong induction on the size of the value, whose elements are smaller
  induction hn : sizeOf v using Nat.strong_induction_on generalizing v with
  | _ n ih =>
    cases v with
    | ArrayValue t moreFollows values =>
      have helems : ∀ v ∈ values, getValueType v = .ARRAY →
          (v.Padded → ArrayView True v) ∧ (v.Aligned → ArrayView False v) := by
        intro v hmem hv
        apply ih (sizeOf v) _ v hv rfl
        have hlt := List.sizeOf_lt_of_mem hmem
        simp only [Value.ArrayValue.sizeOf_spec] at hn
        omega
      have hpadded : ∀ v ∈ values, v.Padded ∧ v.Fills (getValuesMinSize values) →
          (∀ w ∈ values, getValueType w = t) → ElementView True t (getValuesMinSize values) v :=
        fun v hmem hp htype =>
          elementView htype hmem (fun hv => (helems v hmem hv).1 hp.1) fun _ => hp
      constructor
      · intro hp
        rw [Value.Padded, valuesPadded_iff] at hp
        apply array_viewIff
        · intro htype v hmem
          have hmem := (List.dropLast_sublist values).subset hmem
          exact hpadded v hmem (hp v hmem) htype
        · intro htype v hmem
          have hmem := List.mem_of_getLast? hmem
          exact hpadded v hmem (hp v hmem) htype
      · intro ha
        rw [Value.Aligned, valuesAligned_iff] at ha
        apply array_viewIff
        · intro htype v hmem
          exact hpadded v ((List.dropLast_sublist values).subset hmem) (ha.1 v hmem) htype
        · intro htype v hlast
          have hmem := List.mem_of_getLast? hlast
          exact elementView htype hmem (fun hv => (helems v hmem hv).2 (ha.2 v hlast)) False.elim
    | _ => cases hv

end

/-! ### Data -/

theorem descriptiveData_viewIff {e : Prop} {d : DescriptiveData} (h : ArrayView e d.value.toValue) :
    ViewIff e d.value.toValue.Fits (encodeDescriptiveData d) decodeDescriptiveData
      (fun d => d.value.toValue.counts) d.value.toValue.counts := by
  have hdescription : ViewIff True True (.ok [Enumeration.value d.description])
      (decodeEnum (E := Description)) (fun _ => ()) () := by
    apply ViewIff.unit
    intro ns hw _
    have hcodes : Codes (.ok [Enumeration.value d.description]) decodeEnum d.description :=
      (encodeEnum_codes d.description.value_lt).codes
    obtain ⟨ms, hms, -, hr⟩ := hcodes
    obtain rfl := Except.ok.inj (hms.symm.trans hw)
    exact ⟨d.description, hr⟩
  have hpair := hdescription.behind h
  have hdecode : decodeDescriptiveData =
      mapRead (fun p => DescriptiveData.mk p.1 p.2) (pairRead decodeEnum decodeArray) := by
    funext data
    simp [decodeDescriptiveData, mapRead, pairRead, decodeEnum]
  rw [hdecode]
  exact hpair.map (g := fun d : DescriptiveData => d.value.toValue.counts)
    (k := fun p : Description × ArrayValue => DescriptiveData.mk p.1 p.2)

theorem genericData_viewIff {e : Prop} {d : Identification × DescriptiveData}
    (h : ArrayView e d.2.value.toValue) :
    ViewIff e d.2.value.toValue.Fits (encodeGenericData d) decodeGenericData
      (fun d => d.2.value.toValue.counts) d.2.value.toValue.counts := by
  have hidentification : ViewIff True True (encodeValue (.IdentificationValue d.1) none)
      decodeIdentification (fun _ => ()) () := by
    apply ViewIff.unit
    intro ns hw hb
    have hinRange : d.1.InRange := by
      obtain rfl := Except.ok.inj hw
      simp only [allBytes_append, allBytes_cons] at hb
      exact ⟨Nat.le_of_lt_succ hb.1.1, Nat.le_of_lt_succ hb.1.2.1⟩
    obtain ⟨ms, hms, -, hr⟩ := (encodeIdentification_codes hinRange).codes
    obtain rfl := Except.ok.inj (hms.symm.trans hw)
    exact ⟨d.1, hr⟩
  exact hidentification.behind (descriptiveData_viewIff h)

/-! ### Information elements -/

/-- The arrays of the data of an element. -/
def IoElement.arrays : IoElement → List Value
  | .GENERIC_DATA _ _ _ data => data.map fun d => d.2.value.toValue
  | .GENERIC_IDENTIFICATION _ _ _ _ data => data.map fun d => d.value.toValue
  | _ => []

/-- Is an element one of generic data? -/
def IoElement.IsGeneric (x : IoElement) : Prop :=
  x.asduType = .GENERIC_DATA ∨ x.asduType = .GENERIC_IDENTIFICATION

/-- The element that is read off the bytes has as many data, and arrays with as many values, at any
depth. -/
def IoElement.KeepsCounts (x : IoElement) (bs : Bytes) : Prop :=
  ∀ rest, ∃ x' rest', decodeElement x.asduType (bs ++ rest) = .ok (x', rest') ∧
    x'.arrays.map Value.counts = x.arrays.map Value.counts

/-- The numbers of data and of values are not cut off. -/
def IoElement.Fits (x : IoElement) : Prop := x.arrays.length < 64 ∧ ∀ v ∈ x.arrays, v.Fits

/-- Every array in an array takes the size that is given to it, but for those behind which nothing
is read. -/
def IoElement.Aligned (x : IoElement) : Prop :=
  (∀ v ∈ x.arrays.dropLast, v.Padded) ∧ ∀ v ∈ x.arrays.getLast?, v.Aligned

/-- A list of data behind a header. -/
theorem counts_of_header {α : Type} {x : IoElement} {as : List α} {f : α → Value}
    {w : ByteWriter Exn α} {r : ByteReader Exn α} {k : List α → IoElement} {header ns : List ℕ}
    (hx : x.arrays = as.map f) (hk : ∀ as', (k as').arrays = as'.map f)
    (hr : ∀ bs, decodeElement x.asduType (bytesOf header ++ bs) =
      mapRead k (readN r (as.length % 64)) bs)
    (hw : writeAll w as = .ok ns) (hb : AllBytes ns)
    (hview : ∀ (e : Prop) (a : α), ArrayView e (f a) →
      ViewIff e (f a).Fits (w a) r (fun a => (f a).counts) (f a).counts)
    (hf : ∀ a, getValueType (f a) = .ARRAY) :
    (x.KeepsCounts (bytesOf (header ++ ns)) → x.arrays.length < 64) ∧
      (x.Aligned → (x.KeepsCounts (bytesOf (header ++ ns)) ↔ x.Fits)) := by
  have hread : ∀ rest, decodeElement x.asduType (bytesOf (header ++ ns) ++ rest) =
      mapRead k (readN r (as.length % 64)) (bytesOf ns ++ rest) := by
    intro rest
    rw [bytesOf_append, List.append_assoc, hr]
  constructor
  · intro hkeeps
    obtain ⟨x', rest', hx', hcounts⟩ := hkeeps []
    rw [hread] at hx'
    obtain ⟨⟨as', rest''⟩, has', hx'⟩ := bind_eq_ok.mp hx'
    obtain ⟨rfl, -⟩ := Prod.mk.inj (Except.ok.inj hx')
    have hlength := congrArg List.length hcounts
    rw [List.length_map, List.length_map, hk, List.length_map, length_of_readN has', hx,
      List.length_map] at hlength
    rw [hx, List.length_map, ← hlength]
    exact Nat.mod_lt _ (by omega)
  · intro haligned
    rw [IoElement.Aligned, hx, ← List.map_dropLast] at haligned
    have hinit : ∀ a ∈ as.dropLast, ViewIff True (f a).Fits (w a) r (fun a => (f a).counts)
        (f a).counts := by
      intro a ha
      exact hview True a ((arrayView (f a) (hf a)).1 (haligned.1 _ (List.mem_map_of_mem ha)))
    have hlast : ∀ a ∈ as.getLast?, ViewIff False (f a).Fits (w a) r (fun a => (f a).counts)
        (f a).counts := by
      intro a ha
      have hlast : f a ∈ (as.map f).getLast? := by
        rw [List.getLast?_map]
        exact Option.mem_map_of_mem f ha
      exact hview False a ((arrayView (f a) (hf a)).2 (haligned.2 _ hlast))
    have hlist := (ViewIff.writeAll hinit hlast).counted (m := 64) (by omega)
    have hfits : x.Fits ↔ as.length < 64 ∧ ∀ a ∈ as, (f a).Fits := by
      rw [IoElement.Fits, hx, List.length_map, List.forall_mem_map]
    have hcounts : ∀ as' : List α, (k as').arrays.map Value.counts =
        as'.map fun a => (f a).counts := by
      intro as'
      rw [hk, List.map_map]
      rfl
    have hxcounts : x.arrays.map Value.counts = as.map fun a => (f a).counts := by
      rw [hx, List.map_map]
      rfl
    rw [hfits, ← hlist.iff hw hb, IoElement.KeepsCounts, hxcounts]
    apply forall_congr'
    intro rest
    rw [hread]
    constructor
    · rintro ⟨x', rest', hx', hcounts'⟩
      obtain ⟨⟨as', rest''⟩, has', hx'⟩ := bind_eq_ok.mp hx'
      obtain ⟨rfl, -⟩ := Prod.mk.inj (Except.ok.inj hx')
      exact ⟨as', rest'', has', by rw [← hcounts, hcounts']⟩
    · rintro ⟨as', rest', has', hcounts'⟩
      exact ⟨k as', rest', by rw [mapRead, has']; rfl, by rw [hcounts, hcounts']⟩

/-- **An element is read with the counts it was written with only if six bits hold the number of its
data**; and if no array in an array leaves its place, it is iff all counts fit. -/
theorem counts_iff {x : IoElement} (hx : x.IsGeneric) {bs : Bytes}
    (hbs : (encodeElement x >>= toBytes) = .ok bs) :
    (x.KeepsCounts bs → x.arrays.length < 64) ∧ (x.Aligned → (x.KeepsCounts bs ↔ x.Fits)) := by
  obtain ⟨ns, hw, hbs⟩ := bind_eq_ok.mp hbs
  obtain ⟨hb, rfl⟩ := toBytes_eq_ok.mp hbs
  cases x with
  | GENERIC_DATA returnIdentifier counter moreFollows data =>
    obtain ⟨ms, hms, hw⟩ := bind_eq_ok.mp hw
    obtain rfl := Except.ok.inj hw
    obtain ⟨hheader, hb⟩ := allBytes_append.mp hb
    have hr : returnIdentifier < 256 := hheader _ (by simp)
    obtain ⟨hlt, hn, hcounter, hmore⟩ := genericFlags_spec counter moreFollows data.length
    apply counts_of_header (f := fun d => d.2.value.toValue) (w := encodeGenericData)
      (r := decodeGenericData) (k := .GENERIC_DATA returnIdentifier counter moreFollows) rfl
      (fun _ => rfl) _ hms hb (fun e d h => genericData_viewIff h) (fun _ => rfl)
    intro bs
    simp only [IoElement.asduType, decodeElement, byteAt_bytesOf_zero hr, byteAt_bytesOf_succ,
      byteAt_bytesOf_zero hlt, ok_bind, hn, hcounter, hmore, drop_bytesOf_succ, List.drop_zero,
      bytesOf_nil, List.nil_append]
    rfl
  | GENERIC_IDENTIFICATION returnIdentifier identification counter moreFollows data =>
    obtain ⟨groupId, entryId⟩ := identification
    have hencode : encodeElement (.GENERIC_IDENTIFICATION returnIdentifier ⟨groupId, entryId⟩
        counter moreFollows data) = (do
          let ns ← writeAll encodeDescriptiveData data
          return [returnIdentifier, groupId, entryId,
            genericFlags counter moreFollows data.length] ++ ns) := by
      simp [encodeElement, encodeValue, encodedSize, getValueMinSize, zeros]
    rw [hencode] at hw
    obtain ⟨ms, hms, hw⟩ := bind_eq_ok.mp hw
    obtain rfl := Except.ok.inj hw
    obtain ⟨hheader, hb⟩ := allBytes_append.mp hb
    have hr : returnIdentifier < 256 := hheader _ (by simp)
    have hg : groupId < 256 := hheader _ (by simp)
    have he : entryId < 256 := hheader _ (by simp)
    obtain ⟨hlt, hn, hcounter, hmore⟩ := genericFlags_spec counter moreFollows data.length
    apply counts_of_header (f := fun d => d.value.toValue) (w := encodeDescriptiveData)
      (r := decodeDescriptiveData)
      (k := .GENERIC_IDENTIFICATION returnIdentifier ⟨groupId, entryId⟩ counter moreFollows) rfl
      (fun _ => rfl) _ hms hb (fun e d h => descriptiveData_viewIff h) (fun _ => rfl)
    intro bs
    have hslice : slice (bytesOf [returnIdentifier, groupId, entryId,
        genericFlags counter moreFollows data.length] ++ bs) 1 3 =
          bytesOf [groupId, entryId] ++ [] := rfl
    simp only [IoElement.asduType, decodeElement, decodeIdentification, hslice,
      byteAt_bytesOf_zero hr, byteAt_bytesOf_zero hg, byteAt_bytesOf_zero he,
      byteAt_bytesOf_succ, byteAt_bytesOf_zero hlt, ok_bind, hn, hcounter, hmore,
      drop_bytesOf_succ, List.drop_zero, bytesOf_nil, List.nil_append]
    rfl
  | _ => simp [IoElement.IsGeneric, IoElement.asduType] at hx

/-- Generic data of one array, of as many values without bytes. -/
def emptyValues (description : Description) (n : ℕ) : DescriptiveData where
  description := description
  value := { valueType := .NONE, moreFollows := false, values := List.replicate n .NoneValue }

/-- Data that are counted, in arrays that are. -/
theorem counts_iff_emptyValues :
    IoElement.KeepsCounts (.GENERIC_DATA 5 true false
        [(⟨1, 2⟩, emptyValues .ACTUAL_VALUE 3), (⟨1, 3⟩, emptyValues .RANGE 0)])
      [5, 0x42, 1, 2, 1, 0, 0, 3, 1, 3, 3, 0, 0, 0] := by
  have hbs : (encodeElement (.GENERIC_DATA 5 true false
      [(⟨1, 2⟩, emptyValues .ACTUAL_VALUE 3), (⟨1, 3⟩, emptyValues .RANGE 0)]) >>= toBytes) =
      .ok [5, 0x42, 1, 2, 1, 0, 0, 3, 1, 3, 3, 0, 0, 0] := by
    rfl
  refine ((counts_iff (.inl rfl) hbs).2 ?_).mpr ?_
  · simp [IoElement.Aligned, IoElement.arrays, emptyValues, ArrayValue.toValue, Value.Padded,
      Value.Aligned, ValuesPadded, ValuesAligned, Value.Fills, getValueType]
  · simp [IoElement.Fits, IoElement.arrays, emptyValues, ArrayValue.toValue, Value.Fits, ValuesFit]

set_option maxRecDepth 8000 in
/-- Sixty-four data are written, and none is read. -/
theorem sixtyFourData_not_keepsCounts : ∃ bs,
    (encodeElement (.GENERIC_DATA 5 false false
      (List.replicate 64 (⟨1, 2⟩, emptyValues .ACTUAL_VALUE 0))) >>= toBytes) = .ok bs ∧
    ¬ IoElement.KeepsCounts (.GENERIC_DATA 5 false false
      (List.replicate 64 (⟨1, 2⟩, emptyValues .ACTUAL_VALUE 0))) bs := by
  refine ⟨_, rfl, ?_⟩
  intro hkeeps
  obtain ⟨x', rest', hx', hcounts⟩ := hkeeps []
  obtain ⟨rfl, -⟩ := Prod.mk.inj (Except.ok.inj hx')
  have hlength := congrArg List.length hcounts
  rw [List.length_map, List.length_map] at hlength
  cases hlength

end HatDrivers.Iec60870.Encodings.Iec103
