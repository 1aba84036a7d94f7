import HatDrivers.Iec103.Master
import HatDrivers.Lib.Prefixes

namespace HatDrivers.Iec103

open HatDrivers.Lib
open Iec60870.Encodings.Iec103 (AsduType Cause IoAddress IoElement Io ASDU MeasurandValue
  Identification DescriptiveData decodeAsdu decodeElement)

/-!
# IEC 60870-5-103 driver — processing of an ASDU

What the elements of an ASDU are for: data that are handed to callbacks (`asduData`), or answers to
calls (`Acknowledges`).  The master processes the items of an ASDU in steps, each of which calls the
callbacks for the item or leaves them to its items (`processItem_spec`), if every object has a type
that the master processes and every measurand has a name (`Processed`).
-/

/-! ### Classes of decoded elements -/

/-- Whatever is read is of a class. -/
private def Yields (asduType : AsduType) (x : Except Exn (IoElement × Bytes)) : Prop :=
  ∀ element rest, x = .ok (element, rest) → element.asduType = asduType

private theorem Yields.bind {α : Type} {asduType : AsduType} {x : Except Exn α}
    {f : α → Except Exn (IoElement × Bytes)} (h : ∀ a, Yields asduType (f a)) :
    Yields asduType (x >>= f) := by
  intro element rest hread
  obtain ⟨a, _, hread⟩ := bind_eq_ok.mp hread
  exact h a element rest hread

private theorem yields_ok {asduType : AsduType} {element : IoElement} {rest : Bytes}
    (h : element.asduType = asduType) : Yields asduType (.ok (element, rest)) := by
  intro element' rest' heq
  obtain ⟨rfl, _⟩ := Prod.mk.inj (Except.ok.inj heq)
  exact h

private theorem yields_mapRead {α : Type} {asduType : AsduType} {f : α → IoElement}
    {r : ByteReader Exn α} {bs : Bytes} (h : ∀ a, (f a).asduType = asduType) :
    Yields asduType (mapRead f r bs) :=
  Yields.bind fun p => yields_ok (h p.1)

theorem asduType_of_decodeElement {asduType : AsduType} {bs rest : Bytes} {element : IoElement}
    (h : decodeElement asduType bs = .ok (element, rest)) : element.asduType = asduType := by
  have hyields : Yields asduType (decodeElement asduType bs) := by
    cases asduType with
    | TIME_TAGGED_MESSAGE | TIME_TAGGED_MESSAGE_WITH_RELATIVE_TIME | MEASURANDS_1 | MEASURANDS_2
    | TIME_TAGGED_MEASURANDS_WITH_RELATIVE_TIME =>
      exact yields_mapRead fun _ => rfl
    | ORDER_FOR_DISTURBANCE_DATA_TRANSMISSION | ACKNOWLEDGEMENT_FOR_DISTURBANCE_DATA_TRANSMISSION
    | END_OF_TRANSMISSION =>
      simp only [decodeElement]
      exact yields_mapRead fun _ => rfl
    | READY_FOR_TRANSMISSION_OF_TAGS => exact yields_ok rfl
    | IDENTIFICATION | TIME_SYNCHRONIZATION | GENERAL_INTERROGATION
    | GENERAL_INTERROGATION_TERMINATION =>
      exact Yields.bind fun _ => yields_ok rfl
    | GENERAL_COMMAND | LIST_OF_RECORDED_DISTURBANCES | READY_FOR_TRANSMISSION_OF_DISTURBANCE_DATA
    | TRANSMISSION_OF_TAGS =>
      exact Yields.bind fun _ => Yields.bind fun _ => yields_ok rfl
    | GENERIC_COMMAND =>
      exact Yields.bind fun _ => Yields.bind fun _ => Yields.bind fun _ => yields_ok rfl
    | TRANSMISSION_OF_DISTURBANCE_VALUES =>
      exact Yields.bind fun _ => Yields.bind fun _ => Yields.bind fun _ => Yields.bind fun _ =>
        yields_ok rfl
    | GENERIC_DATA | READY_FOR_TRANSMISSION_OF_A_CHANNEL =>
      exact Yields.bind fun _ => Yields.bind fun _ => Yields.bind fun _ => Yields.bind fun _ =>
        Yields.bind fun _ => yields_ok rfl
    | GENERIC_IDENTIFICATION =>
      exact Yields.bind fun _ => Yields.bind fun _ => Yields.bind fun _ => Yields.bind fun _ =>
        Yields.bind fun _ => Yields.bind fun _ => yields_ok rfl
  exact hyields element rest h

/-- The elements of an ASDU are of the class of its type. -/
theorem asduType_of_decodeAsdu {data rest : Bytes} {asdu : ASDU}
    (h : decodeAsdu data = .ok (asdu, rest)) {io : Io} (hio : io ∈ asdu.ios) {element : IoElement}
    (helement : element ∈ io.elements) : element.asduType = asdu.type := by
  obtain ⟨⟨generic, rest'⟩, hgeneric, h⟩ := bind_eq_ok.mp h
  obtain ⟨asduType, htype, h⟩ := bind_eq_ok.mp h
  obtain ⟨rfl, _⟩ := Prod.mk.inj (Except.ok.inj h)
  obtain ⟨io', hio', rfl⟩ := List.mem_map.mp hio
  obtain ⟨value, _, hgeneric⟩ := bind_eq_ok.mp hgeneric
  obtain ⟨count, _, hgeneric⟩ := bind_eq_ok.mp hgeneric
  obtain ⟨⟨ios, rest''⟩, hios, hgeneric⟩ := bind_eq_ok.mp hgeneric
  obtain ⟨rfl, _⟩ := Prod.mk.inj (Except.ok.inj hgeneric)
  obtain ⟨_, _, hread⟩ := exists_of_mem_readN hios hio'
  obtain ⟨⟨elements, _⟩, helements, hread⟩ := bind_eq_ok.mp hread
  obtain ⟨⟨time, _⟩, _, hread⟩ := bind_eq_ok.mp hread
  obtain ⟨rfl, _⟩ := Prod.mk.inj (Except.ok.inj hread)
  obtain ⟨_, _, hread⟩ := exists_of_mem_readN helements helement
  obtain ⟨asduType', htype', hread⟩ := bind_eq_ok.mp hread
  obtain rfl : asduType = asduType' := Except.ok.inj (htype.symm.trans htype')
  exact asduType_of_decodeElement hread

/-! ### Measurands -/

/-- The names of the measurands of a type, by position. -/
def measurandTypes (asduType : AsduType) : List MeasurandType :=
  MeasurandType.members.filter (·.value.1 = asduType.value)

/-- The measurands of elements. -/
def measurands (elements : List IoElement) : List MeasurandValue :=
  elements.filterMap fun element => (Master.measurand element).toOption

private theorem ofValue_low : ∀ i < 9,
    (MeasurandType.ofValue (AsduType.MEASURANDS_1.value, i)).toOption =
        (measurandTypes .MEASURANDS_1)[i]? ∧
      (MeasurandType.ofValue (AsduType.MEASURANDS_2.value, i)).toOption =
        (measurandTypes .MEASURANDS_2)[i]? := by
  decide

/-- The name of a position. -/
theorem toOption_ofValue {asduType : AsduType}
    (h : asduType = .MEASURANDS_1 ∨ asduType = .MEASURANDS_2) (i : ℕ) :
    (MeasurandType.ofValue (asduType.value, i)).toOption = (measurandTypes asduType)[i]? := by
  by_cases hi : i < 9
  · rcases h with rfl | rfl
    · exact (ofValue_low i hi).1
    · exact (ofValue_low i hi).2
  · have hnone : MeasurandType.members.find? (MeasurandType.value · == (asduType.value, i)) =
        none := by
      apply List.find?_eq_none.mpr
      intro m _ heq
      have hlt : m.value.2 < 9 := by cases m <;> decide
      rw [eq_of_beq heq] at hlt
      exact hi hlt
    have hlen : (measurandTypes asduType).length ≤ 9 := by
      rcases h with rfl | rfl <;> decide
    rw [List.getElem?_eq_none (by omega), MeasurandType.ofValue, hnone]
    rfl

private theorem eq_ok_of_toOption {α : Type} {x : Except Exn α} {a : α}
    (h : x.toOption = some a) : x = .ok a := by
  cases x with
  | error e => cases h
  | ok b => rw [Option.some.inj h]

/-- An element of the measurand types has a value. -/
private theorem exists_measurand {asduType : AsduType}
    (h : asduType = .MEASURANDS_1 ∨ asduType = .MEASURANDS_2) {element : IoElement}
    (helement : element.asduType = asduType) : ∃ value, Master.measurand element = .ok value := by
  rcases h with rfl | rfl
  · cases element with
    | MEASURANDS_1 value => exact ⟨value, rfl⟩
    | _ => cases helement
  · cases element with
    | MEASURANDS_2 value => exact ⟨value, rfl⟩
    | _ => cases helement

/-- Of elements of the type, as many as there are names, each gets its own. -/
theorem measurandValues_eq_ok {asduType : AsduType}
    (h : asduType = .MEASURANDS_1 ∨ asduType = .MEASURANDS_2) {elements : List IoElement}
    (helements : ∀ element ∈ elements, element.asduType = asduType)
    (hlen : elements.length ≤ (measurandTypes asduType).length) :
    Master.measurandValues asduType elements =
      .ok ((measurandTypes asduType).zip (measurands elements)) := by
  -- by induction, with the names from a position on
  have hfrom : ∀ k, elements.length + k ≤ (measurandTypes asduType).length →
      ((elements.zipIdx k).mapM fun p => do
        let measurandType ← MeasurandType.ofValue (asduType.value, p.2)
        return (measurandType, ← Master.measurand p.1)) =
        .ok (((measurandTypes asduType).drop k).zip (measurands elements)) := by
    clear hlen
    induction elements with
    | nil =>
      intro k _
      rw [measurands, List.filterMap_nil, List.zip_nil_right]
      rfl
    | cons element elements ih =>
      intro k hk
      rw [List.length_cons] at hk
      obtain ⟨value, hvalue⟩ := exists_measurand h (helements element (by simp))
      have hname : MeasurandType.ofValue (asduType.value, k) =
          .ok ((measurandTypes asduType)[k]) := by
        apply eq_ok_of_toOption
        rw [toOption_ofValue h, List.getElem?_eq_getElem]
      have hmeasurands : measurands (element :: elements) = value :: measurands elements := by
        simp only [measurands, List.filterMap_cons, hvalue, Except.toOption]
      have htail := ih (fun element' hmem => helements element' (by simp [hmem])) (k + 1) (by omega)
      rw [List.zipIdx_cons, List.mapM_cons, htail, hmeasurands,
        List.drop_eq_getElem_cons (by omega : k < (measurandTypes asduType).length),
        List.zip_cons_cons]
      simp only [hname, hvalue, ok_bind]
      rfl
  have hall := hfrom 0 (by omega)
  rw [List.drop_zero] at hall
  exact hall

/-- Of more elements, one has no name. -/
theorem measurandValues_eq_error {asduType : AsduType}
    (h : asduType = .MEASURANDS_1 ∨ asduType = .MEASURANDS_2) {elements : List IoElement}
    (hlen : (measurandTypes asduType).length < elements.length) :
    ∃ e, Master.measurandValues asduType elements = .error e := by
  cases hvalues : Master.measurandValues asduType elements with
  | error e => exact ⟨e, rfl⟩
  | ok values =>
    have hmem : (elements[(measurandTypes asduType).length], (measurandTypes asduType).length) ∈
        elements.zipIdx := by
      rw [List.mem_zipIdx_iff_getElem?, List.getElem?_eq_getElem hlen]
    obtain ⟨value, _, hvalue⟩ := exists_of_mapM_eq_ok hvalues hmem
    obtain ⟨name, hname, _⟩ := bind_eq_ok.mp hvalue
    have hnone := toOption_ofValue h (measurandTypes asduType).length
    rw [hname, List.getElem?_eq_none le_rfl] at hnone
    cases hnone

/-! ### Data -/

section

variable (cause : EnumOr Cause) (asduAddress : ℕ)

/-- The data of an element. -/
def elementData (ioAddress : IoAddress) : IoElement → List Callback
  | .TIME_TAGGED_MESSAGE value =>
    if cause = .enum .GENERAL_COMMAND ∨ cause = .enum .GENERAL_COMMAND_NACK then []
    else [.data { asduAddress, ioAddress, cause := tryDecodeCause cause,
                  value := .DoubleWithTimeValue value }]
  | .TIME_TAGGED_MESSAGE_WITH_RELATIVE_TIME value =>
    [.data { asduAddress, ioAddress, cause := tryDecodeCause cause,
             value := .DoubleWithRelativeTimeValue value }]
  | .TIME_TAGGED_MEASURANDS_WITH_RELATIVE_TIME value =>
    [.data { asduAddress, ioAddress, cause := tryDecodeCause cause,
             value := .MeasurandWithRelativeTimeValue value }]
  | .GENERIC_DATA _ _ _ data =>
    if cause = .enum .TERMINATION_OF_GENERAL_INTERROGATION then []
    else data.map fun d => .genericData
      { asduAddress, ioAddress, cause := tryDecodeCause cause, identification := d.1,
        description := d.2.description, value := d.2.value }
  | _ => []

/-- The data of an information object: those of its elements, or all its measurands. -/
def objectData (asduType : AsduType) (io : Io) : List Callback :=
  if asduType = .MEASURANDS_1 ∨ asduType = .MEASURANDS_2 then
    [.data { asduAddress, ioAddress := io.address, cause := tryDecodeCause cause,
             value := .MeasurandValues
               ((measurandTypes asduType).zip (measurands io.elements)) }]
  else io.elements.flatMap (elementData cause asduAddress io.address)

end

/-- The data of an ASDU. -/
def asduData (asdu : ASDU) : List Callback :=
  asdu.ios.flatMap (objectData asdu.cause asdu.address asdu.type)

/-- The data of an item. -/
def itemData : Item → List Callback
  | .io asduType cause asduAddress io => objectData cause asduAddress asduType io
  | .element _ cause asduAddress ioAddress element =>
    elementData cause asduAddress ioAddress element
  | .elements asduType cause asduAddress ioAddress elements =>
    objectData cause asduAddress asduType { address := ioAddress, elements }
  | .genericData data => [.genericData data]

/-- Is there a callback for it? -/
def Master.passes (s : Master) : Callback → Bool
  | .data _ => s.dataCb
  | .genericData _ => s.genericDataCb

/-- The data of items that are handed to a callback. -/
def Master.dataOf (s : Master) (items : List Item) : List Callback :=
  (items.flatMap itemData).filter s.passes

/-! ### Items -/

/-- A type that the master processes, and if they are measurands, not more than have names. -/
def Processed (asduType : AsduType) (elements : List IoElement) : Prop :=
  asduType ∈ Master.singleElementTypes ∨ asduType = .LIST_OF_RECORDED_DISTURBANCES ∨
    ((asduType = .MEASURANDS_1 ∨ asduType = .MEASURANDS_2) ∧
      elements.length ≤ (measurandTypes asduType).length)

def Item.Processed : Item → Prop
  | .io asduType _ _ object =>
    Iec103.Processed asduType object.elements ∧ ∀ x ∈ object.elements, x.asduType = asduType
  | .element asduType _ _ _ x => asduType ∈ Master.singleElementTypes ∧ x.asduType = asduType
  | .elements asduType _ _ _ xs =>
    asduType ∈ Master.multipleElementsTypes ∧ Iec103.Processed asduType xs ∧
      ∀ x ∈ xs, x.asduType = asduType
  | .genericData _ => True

/-- What an item that is processed does: it calls callbacks, and leaves the rest of its data to
other items. -/
structure Master.Passes (s : Master) (item : Item) (s' : Master) (items : List Item) : Prop where
  processed : ∀ item ∈ items, item.Processed
  dataCb : s'.dataCb = s.dataCb
  genericDataCb : s'.genericDataCb = s.genericDataCb
  received : s'.received = s.received
  calls : s'.calls ++ s.dataOf items = s.calls ++ s.dataOf [item]

namespace Master

variable {s s' : Master}

theorem complete_eq (s : Master) (kind : Kind) (identifier : ℕ) (value : Option Bool) :
    ∃ slots, s.complete kind identifier value = { s with slots } := by
  unfold complete
  split
  · exact ⟨_, rfl⟩
  · exact ⟨s.slots, rfl⟩

/-- An item without data, which completes a call. -/
theorem passes_complete {item : Item} (h : itemData item = []) (kind : Kind) (identifier : ℕ)
    (value : Option Bool) : s.Passes item (s.complete kind identifier value) [] := by
  obtain ⟨slots, hslots⟩ := s.complete_eq kind identifier value
  rw [hslots]
  exact
    { processed := by simp, dataCb := rfl, genericDataCb := rfl, received := rfl
      calls := by simp [dataOf, h] }

theorem passes_self {item : Item} (h : itemData item = []) : s.Passes item s [] where
  processed := by simp
  dataCb := rfl
  genericDataCb := rfl
  received := rfl
  calls := by simp [dataOf, h]

theorem passes_callData {item : Item} {data : Data} (h : itemData item = [.data data]) :
    s.Passes item (s.callData data) [] := by
  unfold callData
  split
  · rename_i hcb
    exact
      { processed := by simp, dataCb := rfl, genericDataCb := rfl, received := rfl
        calls := by simp [dataOf, h, passes, hcb] }
  · rename_i hcb
    exact
      { processed := by simp, dataCb := rfl, genericDataCb := rfl, received := rfl
        calls := by simp [dataOf, h, passes, hcb] }

theorem passes_callGenericData {data : GenericData} :
    s.Passes (.genericData data) (s.callGenericData data) [] := by
  unfold callGenericData
  split
  · rename_i hcb
    exact
      { processed := by simp, dataCb := rfl, genericDataCb := rfl, received := rfl
        calls := by simp [dataOf, itemData, passes, hcb] }
  · rename_i hcb
    exact
      { processed := by simp, dataCb := rfl, genericDataCb := rfl, received := rfl
        calls := by simp [dataOf, itemData, passes, hcb] }

/-- An item that only leaves its data to other items. -/
theorem passes_items {item : Item} {items : List Item} (hitems : ∀ item ∈ items, item.Processed)
    (h : items.flatMap itemData = itemData item) : s.Passes item s items where
  processed := hitems
  dataCb := rfl
  genericDataCb := rfl
  received := rfl
  calls := by simp [dataOf, h]

theorem not_measurands_of_single {asduType : AsduType} (h : asduType ∈ singleElementTypes) :
    ¬ (asduType = .MEASURANDS_1 ∨ asduType = .MEASURANDS_2) := by
  rintro (rfl | rfl) <;> revert h <;> decide

theorem not_multiple_of_single {asduType : AsduType} (h : asduType ∈ singleElementTypes) :
    asduType ∉ multipleElementsTypes := by
  revert h
  cases asduType <;> decide

/-- **An item is processed.** -/
theorem processItem_passes {item : Item} (h : item.Processed) :
    ∃ s' items, s.processItem item = .ok (s', items) ∧ s.Passes item s' items := by
  cases item with
  | io asduType cause asduAddress io =>
    obtain ⟨hprocessed, helements⟩ := h
    by_cases hsingle : asduType ∈ singleElementTypes
    · have hrun : s.processItem (.io asduType cause asduAddress io) =
          .ok (s, io.elements.map (.element asduType cause asduAddress io.address)) := by
        simp only [processItem, ioItems, if_pos hsingle, ok_bind]
        rfl
      refine ⟨s, _, hrun, passes_items ?_ ?_⟩
      · intro item hitem
        obtain ⟨element, helement, rfl⟩ := List.mem_map.mp hitem
        exact ⟨hsingle, helements element helement⟩
      · rw [List.flatMap_map, itemData, objectData, if_neg (not_measurands_of_single hsingle)]
        rfl
    · have hmultiple : asduType ∈ multipleElementsTypes := by
        rcases hprocessed with h | rfl | ⟨rfl | rfl, _⟩
        · exact absurd h hsingle
        · decide
        · decide
        · decide
      have hrun : s.processItem (.io asduType cause asduAddress io) =
          .ok (s, [.elements asduType cause asduAddress io.address io.elements]) := by
        simp only [processItem, ioItems, if_neg hsingle, if_pos hmultiple, ok_bind]
        rfl
      refine ⟨s, _, hrun, passes_items ?_ ?_⟩
      · intro item hitem
        rw [List.mem_singleton.mp hitem]
        exact ⟨hmultiple, hprocessed, helements⟩
      · rw [List.flatMap_singleton]
        rfl
  | element asduType cause asduAddress ioAddress element =>
    obtain ⟨hsingle, rfl⟩ := h
    cases element with
    | TIME_TAGGED_MESSAGE value =>
      by_cases hack : cause = .enum .GENERAL_COMMAND
      · refine ⟨_, _, if_pos hack, passes_complete ?_ _ _ _⟩
        rw [itemData, elementData, if_pos (.inl hack)]
      · by_cases hnack : cause = .enum .GENERAL_COMMAND_NACK
        · refine ⟨_, _, (if_neg hack).trans (if_pos hnack),
            passes_complete ?_ _ _ _⟩
          rw [itemData, elementData, if_pos (.inr hnack)]
        · refine ⟨_, _, (if_neg hack).trans (if_neg hnack),
            passes_callData ?_⟩
          rw [itemData, elementData, if_neg (not_or.mpr ⟨hack, hnack⟩)]
    | TIME_TAGGED_MESSAGE_WITH_RELATIVE_TIME value =>
      exact ⟨_, _, rfl, passes_callData rfl⟩
    | TIME_TAGGED_MEASURANDS_WITH_RELATIVE_TIME value =>
      exact ⟨_, _, rfl, passes_callData rfl⟩
    | GENERAL_INTERROGATION_TERMINATION scanNumber =>
      exact ⟨_, _, rfl, passes_complete rfl _ _ _⟩
    | GENERIC_DATA returnIdentifier counter moreFollows data =>
      by_cases htermination : cause = .enum .TERMINATION_OF_GENERAL_INTERROGATION
      · refine ⟨_, _, if_pos htermination,
          passes_complete ?_ _ _ _⟩
        rw [itemData, elementData, if_pos htermination]
      · refine ⟨_, _, if_neg htermination,
          passes_items ?_ ?_⟩
        · intro item hitem
          obtain ⟨d, _, rfl⟩ := List.mem_map.mp hitem
          trivial
        · rw [itemData, elementData, if_neg htermination, genericDataItems, List.flatMap_map,
            List.map_eq_flatMap]
          rfl
    | IDENTIFICATION compatibility value software => exact ⟨_, _, rfl, passes_self rfl⟩
    | TIME_SYNCHRONIZATION time => exact ⟨_, _, rfl, passes_self rfl⟩
    | GENERIC_IDENTIFICATION => exact ⟨_, _, rfl, passes_self rfl⟩
    | READY_FOR_TRANSMISSION_OF_DISTURBANCE_DATA => exact ⟨_, _, rfl, passes_self rfl⟩
    | READY_FOR_TRANSMISSION_OF_A_CHANNEL => exact ⟨_, _, rfl, passes_self rfl⟩
    | READY_FOR_TRANSMISSION_OF_TAGS => exact ⟨_, _, rfl, passes_self rfl⟩
    | TRANSMISSION_OF_TAGS => exact ⟨_, _, rfl, passes_self rfl⟩
    | TRANSMISSION_OF_DISTURBANCE_VALUES => exact ⟨_, _, rfl, passes_self rfl⟩
    | END_OF_TRANSMISSION => exact ⟨_, _, rfl, passes_self rfl⟩
    | _ => exact absurd hsingle (by simp only [IoElement.asduType]; decide)
  | elements asduType cause asduAddress ioAddress elements =>
    obtain ⟨hmultiple, hprocessed, helements⟩ := h
    rcases hprocessed with h | rfl | ⟨hmeasurands, hlen⟩
    · exact absurd hmultiple (not_multiple_of_single h)
    · refine ⟨s, [], rfl, passes_self ?_⟩
      apply List.flatMap_eq_nil_iff.mpr
      intro element hmem
      have htype := helements element hmem
      cases element with
      | LIST_OF_RECORDED_DISTURBANCES => rfl
      | _ => cases htype
    · have hlist : asduType ≠ .LIST_OF_RECORDED_DISTURBANCES := by
        rcases hmeasurands with rfl | rfl <;> decide
      refine ⟨_, [], ?_, passes_callData (if_pos hmeasurands)⟩
      rw [processItem, processElements, if_neg hlist,
        measurandValues_eq_ok hmeasurands helements hlen]
      rfl
  | genericData data => exact ⟨_, _, rfl, passes_callGenericData⟩

/-- **An object of another type is not processed.** -/
theorem processItem_unsupported {asduType : AsduType} (hsingle : asduType ∉ singleElementTypes)
    (hmultiple : asduType ∉ multipleElementsTypes) (cause : EnumOr Cause) (asduAddress : ℕ)
    (io : Io) : s.processItem (.io asduType cause asduAddress io) =
      .error (.valueError "unsupported asdu type") := by
  simp only [processItem, ioItems, if_neg hsingle, if_neg hmultiple, error_bind]

/-- Nor are more measurands than have names. -/
theorem processItem_unnamed {asduType : AsduType}
    (h : asduType = .MEASURANDS_1 ∨ asduType = .MEASURANDS_2) {elements : List IoElement}
    (hlen : (measurandTypes asduType).length < elements.length) (cause : EnumOr Cause)
    (asduAddress : ℕ) (ioAddress : IoAddress) :
    ∃ e, s.processItem (.elements asduType cause asduAddress ioAddress elements) = .error e := by
  have hlist : asduType ≠ .LIST_OF_RECORDED_DISTURBANCES := by
    rcases h with rfl | rfl <;> decide
  obtain ⟨e, he⟩ := measurandValues_eq_error h hlen
  exact ⟨e, by simp only [processItem, processElements, if_neg hlist, he, error_bind]⟩

/-! ### Answers to calls -/

/-- An element that completes a call of a kind: the identifier of the call, and its result. -/
inductive Acknowledges : Item → Kind → ℕ → Option Bool → Prop
  | ack (asduAddress : ℕ) (ioAddress : IoAddress)
      (value : Iec60870.Encodings.Iec103.DoubleWithTimeValue) :
    Acknowledges
      (.element .TIME_TAGGED_MESSAGE (.enum .GENERAL_COMMAND) asduAddress ioAddress
        (.TIME_TAGGED_MESSAGE value)) .sendCommand value.supplementary (some true)
  | nack (asduAddress : ℕ) (ioAddress : IoAddress)
      (value : Iec60870.Encodings.Iec103.DoubleWithTimeValue) :
    Acknowledges
      (.element .TIME_TAGGED_MESSAGE (.enum .GENERAL_COMMAND_NACK) asduAddress ioAddress
        (.TIME_TAGGED_MESSAGE value)) .sendCommand value.supplementary (some false)
  | termination (cause : EnumOr Cause) (asduAddress : ℕ) (ioAddress : IoAddress)
      (scanNumber : ℕ) :
    Acknowledges
      (.element .GENERAL_INTERROGATION_TERMINATION cause asduAddress ioAddress
        (.GENERAL_INTERROGATION_TERMINATION scanNumber)) .interrogate scanNumber none
  | genericTermination (asduAddress : ℕ) (ioAddress : IoAddress) (returnIdentifier : ℕ)
      (counter moreFollows : Bool) (data : List (Identification × DescriptiveData)) :
    Acknowledges
      (.element .GENERIC_DATA (.enum .TERMINATION_OF_GENERAL_INTERROGATION) asduAddress ioAddress
        (.GENERIC_DATA returnIdentifier counter moreFollows data))
      .interrogateGeneric returnIdentifier none

/-- What is done to the call of a kind. -/
def Answers (s : Master) (item : Item) (s' : Master) : Prop :=
  ∀ kind, s'.slots kind = s.slots kind ∨
    ∃ identifier value, Acknowledges item kind identifier value ∧
      (s.slots kind).reqId = some identifier ∧
      s'.slots kind = (s.slots kind).trySetResult value

theorem answers_of_slots_eq {item : Item} (h : s'.slots = s.slots) : s.Answers item s' :=
  fun kind => .inl (by rw [h])

theorem answers_complete {item : Item} {kind : Kind} {identifier : ℕ} {value : Option Bool}
    (h : Acknowledges item kind identifier value) :
    s.Answers item (s.complete kind identifier value) := by
  intro kind'
  unfold complete
  split
  · rename_i hid
    by_cases hkind : kind' = kind
    · subst hkind
      exact .inr ⟨identifier, value, h, hid, Function.update_self ..⟩
    · exact .inl (Function.update_of_ne hkind ..)
  · exact .inl rfl

theorem callData_slots (s : Master) (data : Data) : (s.callData data).slots = s.slots := by
  unfold callData
  split <;> rfl

theorem callGenericData_slots (s : Master) (data : GenericData) :
    (s.callGenericData data).slots = s.slots := by
  unfold callGenericData
  split <;> rfl

theorem processElement_answers {asduType : AsduType} {cause : EnumOr Cause} {asduAddress : ℕ}
    {ioAddress : IoAddress} {element : IoElement} {items : List Item}
    (h : s.processElement asduType cause asduAddress ioAddress element = .ok (s', items)) :
    s.Answers (.element asduType cause asduAddress ioAddress element) s' := by
  cases asduType with
  | TIME_TAGGED_MESSAGE =>
    cases element with
    | TIME_TAGGED_MESSAGE value =>
      simp only [processElement] at h
      split at h
      · rename_i hack
        obtain ⟨rfl, _⟩ := Prod.mk.inj (Except.ok.inj h)
        subst hack
        exact answers_complete (.ack asduAddress ioAddress value)
      split at h
      · rename_i hnack
        obtain ⟨rfl, _⟩ := Prod.mk.inj (Except.ok.inj h)
        subst hnack
        exact answers_complete (.nack asduAddress ioAddress value)
      · obtain ⟨rfl, _⟩ := Prod.mk.inj (Except.ok.inj h)
        exact answers_of_slots_eq (callData_slots ..)
    | _ => cases h
  | TIME_TAGGED_MESSAGE_WITH_RELATIVE_TIME =>
    cases element with
    | TIME_TAGGED_MESSAGE_WITH_RELATIVE_TIME value =>
      obtain ⟨rfl, _⟩ := Prod.mk.inj (Except.ok.inj h)
      exact answers_of_slots_eq (callData_slots ..)
    | _ => cases h
  | TIME_TAGGED_MEASURANDS_WITH_RELATIVE_TIME =>
    cases element with
    | TIME_TAGGED_MEASURANDS_WITH_RELATIVE_TIME value =>
      obtain ⟨rfl, _⟩ := Prod.mk.inj (Except.ok.inj h)
      exact answers_of_slots_eq (callData_slots ..)
    | _ => cases h
  | GENERAL_INTERROGATION_TERMINATION =>
    cases element with
    | GENERAL_INTERROGATION_TERMINATION scanNumber =>
      obtain ⟨rfl, _⟩ := Prod.mk.inj (Except.ok.inj h)
      exact answers_complete (.termination cause asduAddress ioAddress scanNumber)
    | _ => cases h
  | GENERIC_DATA =>
    cases element with
    | GENERIC_DATA returnIdentifier counter moreFollows data =>
      simp only [processElement] at h
      split at h
      · rename_i htermination
        obtain ⟨rfl, _⟩ := Prod.mk.inj (Except.ok.inj h)
        subst htermination
        exact answers_complete (.genericTermination ..)
      · obtain ⟨rfl, _⟩ := Prod.mk.inj (Except.ok.inj h)
        exact answers_of_slots_eq rfl
    | _ => cases h
  | IDENTIFICATION | TIME_SYNCHRONIZATION | GENERIC_IDENTIFICATION
  | READY_FOR_TRANSMISSION_OF_DISTURBANCE_DATA | READY_FOR_TRANSMISSION_OF_A_CHANNEL
  | READY_FOR_TRANSMISSION_OF_TAGS | TRANSMISSION_OF_TAGS | TRANSMISSION_OF_DISTURBANCE_VALUES
  | END_OF_TRANSMISSION =>
    obtain ⟨rfl, _⟩ := Prod.mk.inj (Except.ok.inj h)
    exact answers_of_slots_eq rfl
  | _ => cases h

/-- An item completes calls by their answers only. -/
theorem processItem_answers {item : Item} {items : List Item}
    (h : s.processItem item = .ok (s', items)) : s.Answers item s' := by
  cases item with
  | io asduType cause asduAddress io =>
    obtain ⟨_, _, h⟩ := bind_eq_ok.mp h
    obtain ⟨rfl, _⟩ := Prod.mk.inj (Except.ok.inj h)
    exact answers_of_slots_eq rfl
  | element asduType cause asduAddress ioAddress element => exact processElement_answers h
  | elements asduType cause asduAddress ioAddress elements =>
    obtain ⟨s₁, hs₁, h⟩ := bind_eq_ok.mp h
    obtain ⟨rfl, _⟩ := Prod.mk.inj (Except.ok.inj h)
    unfold processElements at hs₁
    split at hs₁
    · obtain rfl := Except.ok.inj hs₁
      exact answers_of_slots_eq rfl
    · obtain ⟨values, _, hs₁⟩ := bind_eq_ok.mp hs₁
      obtain rfl := Except.ok.inj hs₁
      exact answers_of_slots_eq (callData_slots ..)
  | genericData data =>
    obtain ⟨rfl, _⟩ := Prod.mk.inj (Except.ok.inj h)
    exact answers_of_slots_eq (callGenericData_slots ..)

end Master

end HatDrivers.Iec103
