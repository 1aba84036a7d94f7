import HatDrivers.Iec61850.Encoder

namespace HatDrivers.Iec61850

open HatDrivers.Lib

/-!
# IEC 61850 — values are read back

The data of a value of a type is read as that value (`valueFromMmsData_toMmsData`), and so are
commands and attributes of report control blocks (`encoder_inverse`).  Types and values are trees
of their own: an array has values of one type, and a struct one for each of its keys.
-/

/-! ### Values of a type -/

def Value.OfBasic : BasicValueType → Value → Prop
  | .BOOLEAN, .bool _ => True
  | .INTEGER, .int _ => True
  | .UNSIGNED, .int _ => True
  | .FLOAT, .float _ => True
  | .BIT_STRING, .bits _ => True
  | .OCTET_STRING, .bytes _ => True
  | .VISIBLE_STRING, .str _ => True
  | .MMS_STRING, .str _ => True
  | _, _ => False

/-- An analogue value has at least one of its two. -/
def Analogue.Present (value : Analogue) : Prop := value.i ≠ none ∨ value.f ≠ none

def Value.OfAcsi : AcsiValueType → Value → Prop
  | .QUALITY, .quality _ => True
  | .TIMESTAMP, .timestamp _ => True
  | .DOUBLE_POINT, .doublePoint _ => True
  | .DIRECTION, .direction _ => True
  | .SEVERITY, .severity _ => True
  | .ANALOGUE, .analogue value => value.Present
  | .VECTOR, .vector value => value.magnitude.Present ∧ ∀ angle ∈ value.angle, angle.Present
  | .STEP_POSITION, .stepPosition _ => True
  | .BINARY_CONTROL, .binaryControl _ => True
  | _, _ => False

mutual

def Value.OfType : ValueType → Value → Prop
  | .basic type, value => value.OfBasic type
  | .acsi type, value => value.OfAcsi type
  | .ArrayValueType type length, value =>
    ∃ values, value = .array values ∧ values.length = length ∧ ∀ v ∈ values, Value.OfType type v
  | .StructValueType types, value =>
    ∃ values, value = .struct values ∧
      (∀ key, (values key).isSome ↔ key ∈ types.map Prod.fst) ∧ Value.OfTypes types values

/-- What a struct has under its keys is of their types. -/
def Value.OfTypes : List (String × ValueType) → (String → Option Value) → Prop
  | [], _ => True
  | (key, type) :: types, values =>
    (∀ value, values key = some value → Value.OfType type value) ∧ Value.OfTypes types values

end

/-! ### Sets -/

section Flags

variable {E : Type} [Enumeration E] [DecidableEq E]

theorem flagBits_eq (flags : Finset E) {first n : ℕ}
    (hall : ∀ i ∈ List.range' first n, (Enumeration.ofValue? i : Option E).isSome) :
    flagBits flags first n =
      .ok ((List.range' first n).map fun i => decide (∃ e ∈ flags, Enumeration.value e = i)) := by
  unfold flagBits
  generalize List.range' first n = is at hall
  induction is with
  | nil => rfl
  | cons i is ih =>
    obtain ⟨e, he⟩ := Option.isSome_iff_exists.mp (hall i List.mem_cons_self)
    obtain rfl := Enumeration.value_of_ofValue? he
    have hmem : (e ∈ flags) ↔ ∃ e' ∈ flags, Enumeration.value e' = Enumeration.value e := by
      constructor
      · intro he
        exact ⟨e, he, rfl⟩
      · rintro ⟨e', he', hvalue⟩
        exact Enumeration.value_injective hvalue ▸ he'
    rw [List.mapM_cons, ih fun i hi => hall i (List.mem_cons_of_mem _ hi), List.map_cons,
      Enumeration.ofValue_value]
    simp only [ok_bind, pure_eq_ok, hmem]

/-- The indexes of the bits that are looked at and set are those of the members. -/
theorem flagSet_eq {flags : Finset E} {p : ℕ → Bool} {bits : List Bool}
    (h : ∀ i, (p i = true ∧ bits[i]? = some true) ↔ ∃ e ∈ flags, Enumeration.value e = i) :
    flagSet p bits = .ok flags := by
  have hindexes : ∀ i, i ∈ (bits.zipIdx.filter fun i => p i.2 && i.1).map (·.2) ↔
      ∃ e ∈ flags, Enumeration.value e = i := by
    intro i
    rw [← h i]
    simp only [List.mem_map, List.mem_filter, Bool.and_eq_true, Prod.exists, exists_eq_right,
      List.mem_zipIdx_iff_getElem?]
    constructor
    · rintro ⟨b, hb, hp, rfl⟩
      exact ⟨hp, hb⟩
    · rintro ⟨hp, hb⟩
      exact ⟨true, hb, hp, rfl⟩
  have hmembers : ∀ is : List ℕ, (∀ i ∈ is, ∃ e : E, Enumeration.value e = i) →
      ∃ es : List E, is.mapM Enumeration.ofValue = .ok es ∧ is = es.map Enumeration.value := by
    intro is
    induction is with
    | nil => exact fun _ => ⟨[], rfl, rfl⟩
    | cons i is ih =>
      intro hall
      obtain ⟨e, rfl⟩ := hall i List.mem_cons_self
      obtain ⟨es, hes, rfl⟩ := ih fun i hi => hall i (List.mem_cons_of_mem _ hi)
      refine ⟨e :: es, ?_, rfl⟩
      rw [List.mapM_cons, Enumeration.ofValue_value, hes]
      rfl
  unfold flagSet
  generalize (bits.zipIdx.filter fun i => p i.2 && i.1).map (·.2) = is at hindexes
  obtain ⟨es, hes, rfl⟩ := hmembers is fun i hi => by
    obtain ⟨e, _, he⟩ := (hindexes i).mp hi
    exact ⟨e, he⟩
  have hset : es.toFinset = flags := by
    ext e
    have hvalue := hindexes (Enumeration.value e)
    rw [List.mem_map_of_injective fun _ _ => Enumeration.value_injective] at hvalue
    rw [List.mem_toFinset, hvalue]
    constructor
    · rintro ⟨e', he', heq⟩
      exact Enumeration.value_injective heq ▸ he'
    · intro he
      exact ⟨e, he, rfl⟩
  simp only [hes, ok_bind, pure_eq_ok, hset]

/-- A set is read off the bits that are written for it, between others. -/
theorem flagSet_flagBits {flags : Finset E} {p : ℕ → Bool} {before after : List Bool} {n : ℕ}
    (hvalue : ∀ e : E, before.length ≤ Enumeration.value e ∧
      Enumeration.value e < before.length + n)
    (hin : ∀ i, before.length ≤ i → i < before.length + n → p i = true)
    (hbefore : ∀ i < before.length, p i = true → before[i]? = some false)
    (hafter : ∀ i, p (before.length + n + i) = true → after[i]? ≠ some true) :
    flagSet p (before ++ (List.range' before.length n).map
      (fun i => decide (∃ e ∈ flags, Enumeration.value e = i)) ++ after) = .ok flags := by
  apply flagSet_eq
  intro i
  rcases lt_or_ge i before.length with hlt | hge
  · rw [List.append_assoc, List.getElem?_append_left hlt]
    constructor
    · rintro ⟨hp, hbit⟩
      rw [hbefore i hlt hp] at hbit
      cases hbit
    · rintro ⟨e, _, rfl⟩
      exact absurd (hvalue e).1 (not_le.mpr hlt)
  · rcases lt_or_ge i (before.length + n) with hlt | hge'
    · rw [List.append_assoc, List.getElem?_append_right hge, List.getElem?_append_left
        (by simp; omega), List.getElem?_map, List.getElem?_range' (by omega), Option.map_some,
        Option.some_inj, decide_eq_true_iff]
      have hplace : before.length + 1 * (i - before.length) = i := by omega
      rw [hplace]
      exact and_iff_right (hin i hge hlt)
    · constructor
      · rintro ⟨hp, hbit⟩
        obtain ⟨k, rfl⟩ := Nat.exists_eq_add_of_le hge'
        rw [List.getElem?_append_right (by simp)] at hbit
        simp only [List.length_append, List.length_map, List.length_range',
          Nat.add_sub_cancel_left] at hbit
        exact absurd hbit (hafter k hp)
      · rintro ⟨e, _, rfl⟩
        exact absurd (hvalue e).2 (not_lt.mpr hge')

end Flags

/-! ### Values -/

theorem twoBits_bits {E : Type} [Enumeration E] {value : E} (h : Enumeration.value value < 4) :
    twoBitsFromMmsData (twoBitsToMmsData value) = .ok value := by
  have htwo : ∀ n < 4, twoBits (bit n 2) (bit n 1) = n := by decide
  simp only [twoBitsToMmsData, twoBitsFromMmsData, htwo _ h, Enumeration.ofValue_value]

theorem qualityFromMmsData_toMmsData (value : Quality) :
    ∃ data, qualityToMmsData value = .ok data ∧ qualityFromMmsData data = .ok value := by
  have hbits := flagBits_eq value.details (show ∀ i ∈ List.range' 2 8,
    (Enumeration.ofValue? i : Option QualityDetail).isSome by decide)
  have hdetails : flagSet (fun index => 2 ≤ index ∧ index ≤ 9)
      ([bit value.validity.value 2, bit value.validity.value 1] ++ (List.range' 2 8).map
        (fun i => decide (∃ e ∈ value.details, Enumeration.value e = i)) ++
        [value.source.value != 0, value.test, value.operatorBlocked]) = .ok value.details := by
    apply flagSet_flagBits
    · intro e
      show 2 ≤ e.value ∧ e.value < 2 + 8
      cases e <;> decide
    · intro i hlo hhi
      simp only [List.length_cons, List.length_nil] at hlo hhi
      exact decide_eq_true ⟨hlo, by omega⟩
    · intro i hi hp
      simp only [List.length_cons, List.length_nil] at hi
      have hrange := of_decide_eq_true hp
      omega
    · intro i hp
      have hrange := of_decide_eq_true hp
      simp only [List.length_cons, List.length_nil] at hrange
      omega
  have hvalidity : (Enumeration.ofValue (twoBits (bit value.validity.value 2)
      (bit value.validity.value 1)) : Except Exn QualityValidity) = .ok value.validity := by
    cases value.validity <;> rfl
  have hsource : (Enumeration.ofValue (value.source.value != 0).toNat : Except Exn QualitySource) =
      .ok value.source := by
    cases value.source <;> rfl
  refine ⟨_, by rw [qualityToMmsData, hbits]; rfl, ?_⟩
  show (do
    let validity ← Enumeration.ofValue (twoBits (bit value.validity.value 2)
      (bit value.validity.value 1))
    let details ← flagSet (fun index => 2 ≤ index ∧ index ≤ 9)
      ([bit value.validity.value 2, bit value.validity.value 1] ++ (List.range' 2 8).map
        (fun i => decide (∃ e ∈ value.details, Enumeration.value e = i)) ++
        [value.source.value != 0, value.test, value.operatorBlocked])
    let source ← Enumeration.ofValue (value.source.value != 0).toNat
    return { validity, details, source, test := value.test,
             operatorBlocked := value.operatorBlocked }) = Except.ok value
  rw [hvalidity, hdetails, hsource]
  rfl

theorem analogueFromMmsData_toMmsData {value : Analogue} (h : value.Present) :
    ∃ data, analogueToMmsData value = .ok data ∧ analogueFromMmsData data = .ok value := by
  rcases value with ⟨i, f⟩
  cases i with
  | none =>
    cases f with
    | none => exact absurd h (by simp [Analogue.Present])
    | some f => exact ⟨_, rfl, rfl⟩
  | some i =>
    cases f with
    | none => exact ⟨_, rfl, rfl⟩
    | some f => exact ⟨_, rfl, rfl⟩

theorem vectorFromMmsData_toMmsData {value : Vector} (hmagnitude : value.magnitude.Present)
    (hangle : ∀ angle ∈ value.angle, angle.Present) :
    ∃ data, vectorToMmsData value = .ok data ∧ vectorFromMmsData data = .ok value := by
  rcases value with ⟨magnitude, angle⟩
  obtain ⟨first, hto, hfrom⟩ := analogueFromMmsData_toMmsData hmagnitude
  cases angle with
  | none =>
    refine ⟨.StructureData [first], ?_, ?_⟩
    · simp only [vectorToMmsData, hto, ok_bind, pure_eq_ok]
    · simp only [vectorFromMmsData, hfrom, ok_bind, pure_eq_ok]
  | some angle =>
    obtain ⟨second, hto', hfrom'⟩ := analogueFromMmsData_toMmsData (hangle angle rfl)
    refine ⟨.StructureData [first, second], ?_, ?_⟩
    · simp only [vectorToMmsData, hto, hto', ok_bind, pure_eq_ok]
    · simp only [vectorFromMmsData, hfrom, hfrom', ok_bind, pure_eq_ok]

theorem basicFromMmsData_toMmsData {type : BasicValueType} {value : Value}
    (h : value.OfBasic type) :
    ∃ data, basicToMmsData type value = .ok data ∧ basicFromMmsData type data = .ok value := by
  cases type <;> cases value <;> first | exact absurd h id | exact ⟨_, rfl, rfl⟩

theorem acsiFromMmsData_toMmsData {type : AcsiValueType} {value : Value} (h : value.OfAcsi type) :
    ∃ data, acsiToMmsData type value = .ok data ∧ acsiFromMmsData type data = .ok value := by
  cases type with
  | QUALITY =>
    cases value with
    | quality value =>
      obtain ⟨data, hto, hfrom⟩ := qualityFromMmsData_toMmsData value
      exact ⟨data, hto, by rw [acsiFromMmsData, hfrom]; rfl⟩
    | _ => exact absurd h id
  | TIMESTAMP =>
    cases value with
    | timestamp value => exact ⟨_, rfl, rfl⟩
    | _ => exact absurd h id
  | DOUBLE_POINT =>
    cases value with
    | doublePoint value =>
      refine ⟨_, rfl, ?_⟩
      rw [acsiFromMmsData, twoBits_bits (by cases value <;> decide)]
      rfl
    | _ => exact absurd h id
  | DIRECTION =>
    cases value with
    | direction value =>
      refine ⟨_, rfl, ?_⟩
      rw [acsiFromMmsData, enumFromMmsData, show (value.value : ℤ) = Enumeration.value value from rfl,
        Mms.enumOf_value]
      rfl
    | _ => exact absurd h id
  | SEVERITY =>
    cases value with
    | severity value =>
      refine ⟨_, rfl, ?_⟩
      rw [acsiFromMmsData, enumFromMmsData, show (value.value : ℤ) = Enumeration.value value from rfl,
        Mms.enumOf_value]
      rfl
    | _ => exact absurd h id
  | ANALOGUE =>
    cases value with
    | analogue value =>
      obtain ⟨data, hto, hfrom⟩ := analogueFromMmsData_toMmsData h
      exact ⟨data, hto, by rw [acsiFromMmsData, hfrom]; rfl⟩
    | _ => exact absurd h id
  | VECTOR =>
    cases value with
    | vector value =>
      obtain ⟨data, hto, hfrom⟩ := vectorFromMmsData_toMmsData h.1 h.2
      exact ⟨data, hto, by rw [acsiFromMmsData, hfrom]; rfl⟩
    | _ => exact absurd h id
  | STEP_POSITION =>
    cases value with
    | stepPosition value =>
      rcases value with ⟨value, transient⟩
      cases transient with
      | none => exact ⟨_, rfl, rfl⟩
      | some transient => exact ⟨_, rfl, rfl⟩
    | _ => exact absurd h id
  | BINARY_CONTROL =>
    cases value with
    | binaryControl value =>
      refine ⟨_, rfl, ?_⟩
      rw [acsiFromMmsData, twoBits_bits (by cases value <;> decide)]
      rfl
    | _ => exact absurd h id

/-! ### Arrays and structs -/

theorem dictOf_eq {items : List (String × Value)} {values : String → Option Value}
    (hkeys : ∀ key, (values key).isSome ↔ key ∈ items.map Prod.fst)
    (hvalues : ∀ item ∈ items, values item.1 = some item.2) : dictOf items = values := by
  funext key
  rw [dictOf]
  cases hfind : items.reverse.find? fun item => item.1 = key with
  | none =>
    have hnone : ¬ (values key).isSome := by
      rw [hkeys, List.mem_map]
      rintro ⟨item, hitem, rfl⟩
      have hne := List.find?_eq_none.mp hfind item (List.mem_reverse.mpr hitem)
      exact hne (decide_eq_true rfl)
    rw [Option.not_isSome_iff_eq_none] at hnone
    rw [hnone]
    rfl
  | some item =>
    have hitem := List.mem_reverse.mp (List.mem_of_find?_eq_some hfind)
    have hkey : item.1 = key := by simpa using List.find?_some hfind
    rw [← hkey, hvalues item hitem]
    rfl

/-- Elements of one type are read back one by one. -/
theorem mapM_roundTrip {type : ValueType} {values : List Value}
    (h : ∀ value ∈ values, ∃ data, valueToMmsData type value = .ok data ∧
      valueFromMmsData type data = .ok value) :
    ∃ elements, values.mapM (valueToMmsData type) = .ok elements ∧
      elements.length = values.length ∧ elements.mapM (valueFromMmsData type) = .ok values := by
  induction values with
  | nil => exact ⟨[], rfl, rfl, rfl⟩
  | cons value values ih =>
    obtain ⟨data, hto, hfrom⟩ := h value List.mem_cons_self
    obtain ⟨elements, htos, hlen, hfroms⟩ := ih fun v hv => h v (List.mem_cons_of_mem _ hv)
    refine ⟨data :: elements, ?_, by rw [List.length_cons, hlen, List.length_cons], ?_⟩
    · rw [List.mapM_cons, hto, htos]
      rfl
    · rw [List.mapM_cons, hfrom, hfroms]
      rfl

mutual

/-- The data of a value of a type is read as the value. -/
theorem valueFromMmsData_toMmsData (type : ValueType) (value : Value) (h : Value.OfType type value) :
    ∃ data, valueToMmsData type value = .ok data ∧ valueFromMmsData type data = .ok value := by
  match type with
  | .basic type =>
    rw [Value.OfType] at h
    simp only [valueToMmsData, valueFromMmsData]
    exact basicFromMmsData_toMmsData h
  | .acsi type =>
    rw [Value.OfType] at h
    simp only [valueToMmsData, valueFromMmsData]
    exact acsiFromMmsData_toMmsData h
  | .ArrayValueType type length =>
    rw [Value.OfType] at h
    obtain ⟨values, rfl, hlen, hvalues⟩ := h
    obtain ⟨elements, hto, hlen', hfrom⟩ := mapM_roundTrip fun v hv =>
      valueFromMmsData_toMmsData type v (hvalues v hv)
    refine ⟨.ArrayData elements, ?_, ?_⟩
    · simp only [valueToMmsData, hlen, ne_eq, not_true_eq_false, if_false, hto, ok_bind, pure_eq_ok]
    · simp only [valueFromMmsData, hlen', hlen, ne_eq, not_true_eq_false, if_false, hfrom, ok_bind,
        pure_eq_ok]
  | .StructValueType types =>
    rw [Value.OfType] at h
    obtain ⟨values, rfl, hkeys, htypes⟩ := h
    obtain ⟨elements, items, hto, hlen, hfrom, hfst, hitems⟩ := itemsFromMmsData_toMmsData types
      values (fun item hitem => (hkeys item.1).mpr (List.mem_map_of_mem hitem)) htypes
    rw [← hfst] at hkeys
    refine ⟨.StructureData elements, ?_, ?_⟩
    · simp only [valueToMmsData, hto, ok_bind, pure_eq_ok]
    · simp only [valueFromMmsData, hlen, ne_eq, not_true_eq_false, if_false, hfrom, ok_bind,
        pure_eq_ok, dictOf_eq hkeys hitems]

theorem itemsFromMmsData_toMmsData (types : List (String × ValueType))
    (values : String → Option Value) (hkeys : ∀ item ∈ types, (values item.1).isSome)
    (h : Value.OfTypes types values) :
    ∃ elements items, itemsToMmsData types values = .ok elements ∧
      elements.length = types.length ∧ itemsFromMmsData types elements = .ok items ∧
      items.map Prod.fst = types.map Prod.fst ∧
      ∀ item ∈ items, values item.1 = some item.2 := by
  match types with
  | [] => exact ⟨[], [], by simp [itemsToMmsData], rfl, by simp [itemsFromMmsData], rfl, nofun⟩
  | (key, type) :: types =>
    rw [Value.OfTypes] at h
    obtain ⟨hvalue, htypes⟩ := h
    obtain ⟨value, hkey⟩ := Option.isSome_iff_exists.mp (hkeys (key, type) List.mem_cons_self)
    obtain ⟨data, hto, hfrom⟩ := valueFromMmsData_toMmsData type value (hvalue value hkey)
    obtain ⟨elements, items, htos, hlen, hfroms, hfst, hitems⟩ := itemsFromMmsData_toMmsData types
      values (fun item hitem => hkeys item (List.mem_cons_of_mem _ hitem)) htypes
    refine ⟨data :: elements, (key, value) :: items, ?_, ?_, ?_, ?_, ?_⟩
    · simp only [itemsToMmsData, hkey, hto, htos, ok_bind, pure_eq_ok]
    · rw [List.length_cons, List.length_cons, hlen]
    · simp only [itemsFromMmsData, hfrom, hfroms, ok_bind, pure_eq_ok]
    · rw [List.map_cons, List.map_cons, hfst]
    · intro item hitem
      rcases List.mem_cons.mp hitem with rfl | hitem
      · exact hkey
      · exact hitems item hitem

end

/-! ### Attributes of report control blocks -/

def RcbAttrValue.OfType : RcbAttrType → RcbAttrValue → Prop
  | .DATASET, .dataset ref => ∀ r ∈ ref, r.WellFormed
  | .OPTIONAL_FIELDS, .optionalFields _ => True
  | .TRIGGER_OPTIONS, .triggers _ => True
  | .TIME_OF_ENTRY, .entryTime _ => True
  | type, .value v => ∃ basic ∈ type.valueType?, v.OfBasic basic
  | _, _ => False

theorem datasetRefToStr_ne_empty (ref : DatasetRef) : datasetRefToStr ref ≠ "" := by
  intro h
  have hchars := congrArg String.toList h
  cases ref <;> simp [datasetRefToStr] at hchars

theorem datasetAttr_roundTrip {ref : Option DatasetRef} (h : ∀ r ∈ ref, r.WellFormed) :
    rcbAttrValueFromMmsData (.VisibleStringData ((ref.map datasetRefToStr).getD "")) .DATASET =
      .ok (.dataset ref) := by
  cases ref with
  | none => rfl
  | some ref =>
    simp only [rcbAttrValueFromMmsData, Option.map_some, Option.getD_some, strFromMmsData, ok_bind,
      if_neg (datasetRefToStr_ne_empty ref), datasetRefFromStr_toStr (h ref rfl), pure_eq_ok]

theorem optionalFieldsAttr_roundTrip (fields : Finset OptionalField) :
    ∃ data, rcbAttrValueToMmsData (.optionalFields fields) .OPTIONAL_FIELDS = .ok data ∧
      rcbAttrValueFromMmsData data .OPTIONAL_FIELDS = .ok (.optionalFields fields) := by
  have hbits := flagBits_eq fields (show ∀ i ∈ List.range' 1 8,
    (Enumeration.ofValue? i : Option OptionalField).isSome by decide)
  have hset : flagSet (fun index => 1 ≤ index ∧ index ≤ 8) ([false] ++ (List.range' 1 8).map
      (fun i => decide (∃ e ∈ fields, Enumeration.value e = i)) ++ [false]) = .ok fields := by
    apply flagSet_flagBits
    · intro e
      show 1 ≤ e.value ∧ e.value < 1 + 8
      cases e <;> decide
    · intro i hlo hhi
      simp only [List.length_cons, List.length_nil] at hlo hhi
      exact decide_eq_true ⟨hlo, by omega⟩
    · intro i hi hp
      simp only [List.length_cons, List.length_nil] at hi
      have hrange := of_decide_eq_true hp
      omega
    · intro i hp
      have hrange := of_decide_eq_true hp
      simp only [List.length_cons, List.length_nil] at hrange
      omega
  refine ⟨.BitStringData ([false] ++ (List.range' 1 8).map
    (fun i => decide (∃ e ∈ fields, Enumeration.value e = i)) ++ [false]), ?_, ?_⟩
  · simp only [rcbAttrValueToMmsData, hbits, ok_bind, pure_eq_ok]
    rfl
  · simp only [rcbAttrValueFromMmsData, bitsFromMmsData, ok_bind, List.length_append,
      List.length_map, List.length_range', List.length_cons, List.length_nil, ne_eq, hset,
      pure_eq_ok]
    rfl

theorem triggersAttr_roundTrip (conditions : Finset TriggerCondition) :
    ∃ data, rcbAttrValueToMmsData (.triggers conditions) .TRIGGER_OPTIONS = .ok data ∧
      rcbAttrValueFromMmsData data .TRIGGER_OPTIONS = .ok (.triggers conditions) := by
  have hbits := flagBits_eq conditions (show ∀ i ∈ List.range' 1 5,
    (Enumeration.ofValue? i : Option TriggerCondition).isSome by decide)
  have hset : flagSet (fun index => 1 ≤ index) ([false] ++ (List.range' 1 5).map
      (fun i => decide (∃ e ∈ conditions, Enumeration.value e = i)) ++ []) = .ok conditions := by
    apply flagSet_flagBits
    · intro e
      show 1 ≤ e.value ∧ e.value < 1 + 5
      cases e <;> decide
    · intro i hlo _
      exact decide_eq_true hlo
    · intro i hi hp
      simp only [List.length_cons, List.length_nil] at hi
      have hrange := of_decide_eq_true hp
      omega
    · intro i _
      simp
  refine ⟨.BitStringData ([false] ++ (List.range' 1 5).map
    (fun i => decide (∃ e ∈ conditions, Enumeration.value e = i)) ++ []), ?_, ?_⟩
  · simp only [rcbAttrValueToMmsData, hbits, ok_bind, pure_eq_ok]
    rfl
  · simp only [rcbAttrValueFromMmsData, bitsFromMmsData, ok_bind, List.length_append,
      List.length_map, List.length_range', List.length_cons, List.length_nil, ne_eq, hset,
      pure_eq_ok]
    rfl

theorem rcbAttrValueFromMmsData_toMmsData {type : RcbAttrType} {value : RcbAttrValue}
    (h : value.OfType type) :
    ∃ data, rcbAttrValueToMmsData value type = .ok data ∧
      rcbAttrValueFromMmsData data type = .ok value := by
  cases value with
  | dataset ref =>
    cases type with
    | DATASET => exact ⟨_, rfl, datasetAttr_roundTrip h⟩
    | _ => exact absurd h id
  | optionalFields fields =>
    cases type with
    | OPTIONAL_FIELDS => exact optionalFieldsAttr_roundTrip fields
    | _ => exact absurd h id
  | triggers conditions =>
    cases type with
    | TRIGGER_OPTIONS => exact triggersAttr_roundTrip conditions
    | _ => exact absurd h id
  | entryTime value =>
    cases type with
    | TIME_OF_ENTRY => exact ⟨_, rfl, rfl⟩
    | _ => exact absurd h id
  | value value =>
    have hplain : ∃ basic, type.valueType? = some basic ∧ value.OfBasic basic := by
      cases type <;> exact h
    obtain ⟨basic, htype, hvalue⟩ := hplain
    obtain ⟨data, hto, hfrom⟩ := basicFromMmsData_toMmsData hvalue
    refine ⟨data, ?_, ?_⟩
    · rw [← hto]
      cases type <;> cases htype <;> rfl
    · have hread : rcbAttrValueFromMmsData data type =
          (basicFromMmsData basic data).map RcbAttrValue.value := by
        cases type <;> cases htype <;> rfl
      rw [hread, hfrom]
      rfl

/-! ### Commands -/

theorem originFromMmsData_toMmsData (origin : Origin) :
    originFromMmsData (originToMmsData origin) = .ok origin := by
  have hcategory : (Mms.enumOf (origin.category.value : ℤ) : Except Exn OriginCategory) =
      .ok origin.category := Mms.enumOf_value origin.category
  simp only [originToMmsData, originFromMmsData, intFromMmsData, bytesFromMmsData, ok_bind,
    hcategory, pure_eq_ok]

theorem timestampFromMmsData_toMmsData (value : Timestamp) :
    timestampFromMmsData (timestampToMmsData value) = .ok value := rfl

/-- A command, without its checks if these are not written. -/
def Command.withChecks (cmd : Command) (withChecks : Bool) : Command :=
  { cmd with checks := if withChecks then cmd.checks else ∅ }

/-- The elements for the checks. -/
def checksData (cmd : Command) (withChecks : Bool) : List Mms.Data :=
  if withChecks then [.BitStringData ((List.range' 0 2).map fun i =>
    decide (∃ e ∈ cmd.checks, Enumeration.value e = i))] else []

theorem commandRest_roundTrip (cmd : Command) (withChecks : Bool) :
    commandRest cmd.value cmd.operateTime withChecks
      ([originToMmsData cmd.origin, .UnsignedData cmd.controlNumber, timestampToMmsData cmd.t,
        .BooleanData cmd.test] ++ checksData cmd withChecks) =
      .ok (cmd.withChecks withChecks) := by
  have hset : flagSet (fun _ => true) ([] ++ (List.range' 0 2).map
      (fun i => decide (∃ e ∈ cmd.checks, Enumeration.value e = i)) ++ []) = .ok cmd.checks := by
    apply flagSet_flagBits
    · intro e
      show 0 ≤ e.value ∧ e.value < 0 + 2
      cases e <;> decide
    · exact fun _ _ _ => rfl
    · exact nofun
    · simp
  rw [List.nil_append, List.append_nil] at hset
  cases withChecks with
  | false =>
    simp only [checksData, Bool.false_eq_true, if_false, List.append_nil, commandRest,
      originFromMmsData_toMmsData, timestampFromMmsData_toMmsData, unsignedFromMmsData,
      boolFromMmsData, ok_bind, pure_eq_ok]
    rfl
  | true =>
    simp only [checksData, if_true, List.cons_append, List.nil_append, commandRest,
      originFromMmsData_toMmsData, timestampFromMmsData_toMmsData, unsignedFromMmsData,
      boolFromMmsData, bitsFromMmsData, hset, ok_bind, pure_eq_ok]
    rfl

theorem commandFromMmsData_toMmsData {cmd : Command} {type : ValueType}
    (h : Value.OfType type cmd.value) (withChecks : Bool) :
    ∃ data, commandToMmsData cmd type withChecks = .ok data ∧
      commandFromMmsData data type withChecks = .ok (cmd.withChecks withChecks) := by
  obtain ⟨data, hto, hfrom⟩ := valueFromMmsData_toMmsData type cmd.value h
  have hbits := flagBits_eq cmd.checks (show ∀ i ∈ List.range' 0 2,
    (Enumeration.ofValue? i : Option Check).isSome by decide)
  have hrest := commandRest_roundTrip cmd withChecks
  have hlen : (checksData cmd withChecks).length = if withChecks then 1 else 0 := by
    cases withChecks <;> rfl
  refine ⟨.StructureData ([data] ++ cmd.operateTime.toList.map timestampToMmsData ++
    [originToMmsData cmd.origin, .UnsignedData cmd.controlNumber, timestampToMmsData cmd.t,
      .BooleanData cmd.test] ++ checksData cmd withChecks), ?_, ?_⟩
  · cases withChecks with
    | false =>
      simp only [commandToMmsData, hto, ok_bind, pure_eq_ok, checksData, Bool.false_eq_true,
        if_false]
    | true => simp only [commandToMmsData, hto, hbits, ok_bind, pure_eq_ok, checksData, if_true]
  · cases hoperate : cmd.operateTime with
    | none =>
      rw [hoperate] at hrest
      cases withChecks with
      | false =>
        simp only [commandFromMmsData, Option.toList_none, List.map_nil, List.cons_append,
          List.nil_append, List.length_cons, hlen, hfrom, ok_bind]
        exact hrest
      | true =>
        simp only [commandFromMmsData, Option.toList_none, List.map_nil, List.cons_append,
          List.nil_append, List.length_cons, hlen, hfrom, ok_bind]
        exact hrest
    | some operateTime =>
      rw [hoperate] at hrest
      cases withChecks with
      | false =>
        simp only [commandFromMmsData, Option.toList_some, List.map_cons, List.map_nil,
          List.cons_append, List.nil_append, List.length_cons, hlen, hfrom,
          timestampFromMmsData_toMmsData, ok_bind]
        exact hrest
      | true =>
        simp only [commandFromMmsData, Option.toList_some, List.map_cons, List.map_nil,
          List.cons_append, List.nil_append, List.length_cons, hlen, hfrom,
          timestampFromMmsData_toMmsData, ok_bind]
        exact hrest

/-- **The encoder is inverted.**  Values of a type, commands, and attributes of report control
blocks are read from their data. -/
theorem encoder_inverse :
    (∀ (type : ValueType) (value : Value), Value.OfType type value →
      ∃ data, valueToMmsData type value = .ok data ∧ valueFromMmsData type data = .ok value) ∧
    (∀ (cmd : Command) (type : ValueType) (withChecks : Bool), Value.OfType type cmd.value →
      ∃ data, commandToMmsData cmd type withChecks = .ok data ∧
        commandFromMmsData data type withChecks = .ok (cmd.withChecks withChecks)) ∧
    (∀ (type : RcbAttrType) (value : RcbAttrValue), value.OfType type →
      ∃ data, rcbAttrValueToMmsData value type = .ok data ∧
        rcbAttrValueFromMmsData data type = .ok value) :=
  ⟨valueFromMmsData_toMmsData, fun _ _ withChecks h => commandFromMmsData_toMmsData h withChecks,
    fun _ _ h => rcbAttrValueFromMmsData_toMmsData h⟩

/-- An array of measurements with their quality, and the optional fields of their reports. -/
theorem encoder_inverse_measurements :
    (∃ data,
      valueToMmsData (.ArrayValueType (.StructValueType [("f", .basic .FLOAT),
        ("q", .acsi .QUALITY)]) 1)
        (.array [.struct fun key =>
          if key = "f" then some (.float 0x3f800000)
          else if key = "q" then some (.quality ⟨.QUESTIONABLE, {.OLD_DATA}, .PROCESS, false, true⟩)
          else none]) = .ok data ∧
      valueFromMmsData (.ArrayValueType (.StructValueType [("f", .basic .FLOAT),
        ("q", .acsi .QUALITY)]) 1) data = .ok (.array [.struct fun key =>
          if key = "f" then some (.float 0x3f800000)
          else if key = "q" then some (.quality ⟨.QUESTIONABLE, {.OLD_DATA}, .PROCESS, false, true⟩)
          else none])) ∧
      ∃ data, rcbAttrValueToMmsData (.optionalFields {.DATA_REFERENCE}) .OPTIONAL_FIELDS =
          .ok data ∧
        rcbAttrValueFromMmsData data .OPTIONAL_FIELDS =
          .ok (.optionalFields {.DATA_REFERENCE}) := by
  refine ⟨encoder_inverse.1 _ _ ?_, encoder_inverse.2.2 _ _ trivial⟩
  simp only [Value.OfType]
  refine ⟨_, rfl, rfl, ?_⟩
  intro value hvalue
  obtain rfl := List.mem_singleton.mp hvalue
  refine ⟨_, rfl, ?_, ?_⟩
  · intro key
    by_cases hf : key = "f"
    · simp [hf]
    · by_cases hq : key = "q" <;> simp [hf, hq]
  · simp only [Value.OfTypes]
    refine ⟨?_, ?_, trivial⟩
    · rintro value ⟨⟩
      exact trivial
    · rintro value ⟨⟩
      exact trivial

/-- A logical device with the mark of datasets that are not persisted. -/
theorem markedDevice_not_inverse :
    rcbAttrValueToMmsData (.dataset (some (.PersistedDatasetRef "@LD" "LLN0" "ds"))) .DATASET =
        .ok (.VisibleStringData "@LD/LLN0$ds") ∧
      rcbAttrValueFromMmsData (.VisibleStringData "@LD/LLN0$ds") .DATASET =
        .ok (.dataset (some (.NonPersistedDatasetRef "LD/LLN0$ds"))) ∧
      RcbAttrValue.dataset (some (.NonPersistedDatasetRef "LD/LLN0$ds")) ≠
        .dataset (some (.PersistedDatasetRef "@LD" "LLN0" "ds")) :=
  ⟨rfl, rfl, by simp⟩

end HatDrivers.Iec61850
