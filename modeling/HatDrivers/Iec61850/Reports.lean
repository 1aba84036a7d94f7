import HatDrivers.Iec61850.RoundTrip

namespace HatDrivers.Iec61850

open HatDrivers.Lib

/-!
# IEC 61850 — reports

The elements of a report stand one after another, and which of them there are is told by its
optional fields and by its inclusion mask.  They are taken from an iterator, in three passes over
the data that is included: references, values and reasons.

`ReportContents.layout` is the order of the elements of IEC 61850-8-1.  A report in that order is
read with each value at its own reference, and one that lacks an element, or has a reference to
other data, is not read (`reportFromMmsData_layout`).
-/

structure DataDef where
  ref : DataRef
  valueType : ValueType

/-! ### Elements -/

section Elements

variable {α β : Type}

/-- `f(next(elements))`. -/
def nextAs (read : Mms.Data → Except Exn α) : List Mms.Data → Except Exn (α × List Mms.Data)
  | [] => .error .stopIteration
  | data :: elements => do return (← read data, elements)

/-- An element that is there only if it is announced. -/
def nextIf (announced : Bool) (read : Mms.Data → Except Exn α) (elements : List Mms.Data) :
    Except Exn (Option α × List Mms.Data) :=
  if announced then do
    let (a, elements) ← nextAs read elements
    return (some a, elements)
  else .ok (none, elements)

/-- `[f(i, next(elements)) for i in items]`. -/
def nextEach (read : β → Mms.Data → Except Exn α) :
    List β → List Mms.Data → Except Exn (List α × List Mms.Data)
  | [], elements => .ok ([], elements)
  | item :: items, elements => do
    let (a, elements) ← nextAs (read item) elements
    let (as, elements) ← nextEach read items elements
    return (a :: as, elements)

end Elements

/-! ### Reading -/

def datasetFromMmsData (data : Mms.Data) : Except Exn DatasetRef := do
  datasetRefFromStr (← strFromMmsData data)

def entryTimeFromMmsData : Mms.Data → Except Exn Mms.DateTime
  | .BinaryTimeData value => .ok value
  | _ => unexpectedDataType

/-- The elements between the option bits and the inclusion mask. -/
structure ReportHeader where
  sequenceNumber : Option ℤ
  timeOfEntry : Option Mms.DateTime
  dataset : Option DatasetRef
  bufferOverflow : Option Bool
  entryId : Option Bytes
  confRevision : Option ℤ
  subsequenceNumber : Option ℤ
  moreSegmentsFollow : Option Bool

def readHeader (optionalFields : Finset OptionalField) (segmentation : Bool)
    (elements : List Mms.Data) : Except Exn (ReportHeader × List Mms.Data) := do
  let (sequenceNumber, elements) ←
    nextIf (.SEQUENCE_NUMBER ∈ optionalFields) unsignedFromMmsData elements
  let (timeOfEntry, elements) ←
    nextIf (.REPORT_TIME_STAMP ∈ optionalFields) entryTimeFromMmsData elements
  let (dataset, elements) ← nextIf (.DATA_SET_NAME ∈ optionalFields) datasetFromMmsData elements
  let (bufferOverflow, elements) ←
    nextIf (.BUFFER_OVERFLOW ∈ optionalFields) boolFromMmsData elements
  let (entryId, elements) ← nextIf (.ENTRY_ID ∈ optionalFields) bytesFromMmsData elements
  let (confRevision, elements) ←
    nextIf (.CONF_REVISION ∈ optionalFields) unsignedFromMmsData elements
  let (subsequenceNumber, elements) ← nextIf segmentation unsignedFromMmsData elements
  let (moreSegmentsFollow, elements) ← nextIf segmentation boolFromMmsData elements
  return ({
    sequenceNumber, timeOfEntry, dataset, bufferOverflow, entryId, confRevision,
    subsequenceNumber, moreSegmentsFollow }, elements)

/-- The items that are included. -/
def included {α : Type} (inclusion : List Bool) (items : List α) : List α :=
  ((inclusion.zip items).filter (·.1)).map (·.2)

def checkReference (dataDef : DataDef) (data : Mms.Data) : Except Exn Unit := do
  let dataRef ← dataRefFromStr (← strFromMmsData data)
  if dataRef ≠ dataDef.ref then throw (.exception "data reference mismatch")

def reasonsFromMmsData (data : Mms.Data) : Except Exn (Finset Reason) := do
  flagSet (fun _ => true) ((← bitsFromMmsData data).take 7)

/-- The data of a report.  There are as many values, and reasons if any, as there is data. -/
def reportData (dataDefs : List DataDef) (values : List Value)
    (reasons : Option (List (Finset Reason))) : List ReportData :=
  List.zipWith (fun item reason => { ref := item.1.ref, value := item.2, reasons := reason })
    (dataDefs.zip values)
    (match reasons with
      | some reasons => reasons.map some
      | none => values.map fun _ => none)

def reportFromMmsData (mmsData : List Mms.Data) (dataDefs : List DataDef) :
    Except Exn Report := do
  let (reportId, elements) ← nextAs strFromMmsData mmsData
  let (bits, elements) ← nextAs bitsFromMmsData elements
  if bits.length ≠ 10 then throw (.exception "invalid optional fields size")
  let optionalFields ← flagSet (fun _ => true) bits.dropLast
  let (header, elements) ← readHeader optionalFields (bits.getLast? = some true) elements
  let (inclusion, elements) ← nextAs bitsFromMmsData elements
  if inclusion.length ≠ dataDefs.length then
    throw (.exception "unexpected number of inclusion bits")
  let (_, elements) ← nextEach checkReference
    (if .DATA_REFERENCE ∈ optionalFields then included inclusion dataDefs else []) elements
  let (values, elements) ← nextEach (fun dataDef => valueFromMmsData dataDef.valueType)
    (included inclusion dataDefs) elements
  let (reasons, _) ← nextEach (fun _ => reasonsFromMmsData)
    (if .REASON_FOR_INCLUSION ∈ optionalFields then inclusion.filter id else []) elements
  return {
    reportId
    sequenceNumber := header.sequenceNumber
    subsequenceNumber := header.subsequenceNumber
    moreSegmentsFollow := header.moreSegmentsFollow
    dataset := header.dataset
    bufferOverflow := header.bufferOverflow
    confRevision := header.confRevision
    entryTime := header.timeOfEntry
    entryId := header.entryId
    data := reportData (included inclusion dataDefs) values
      (if .REASON_FOR_INCLUSION ∈ optionalFields then some reasons else none) }

/-- The report that is given to the callback, if its id is known. -/
def processReport (reportDataDefs : String → Option (List DataDef)) (mmsData : List Mms.Data) :
    Except Exn (Option Report) :=
  match mmsData with
  | [] => .error .indexError
  | data :: _ => do
    match reportDataDefs (← strFromMmsData data) with
    | none => return none
    | some dataDefs => return some (← reportFromMmsData mmsData dataDefs)

/-! ### The order of the elements -/

/-- Data that is included in a report. -/
structure ReportItem where
  dataDef : DataDef
  value : Value
  reasons : Finset Reason

/-- All that a report can tell. -/
structure ReportContents where
  reportId : String
  sequenceNumber : ℤ
  timeOfEntry : Mms.DateTime
  dataset : DatasetRef
  bufferOverflow : Bool
  entryId : Bytes
  confRevision : ℤ
  subsequenceNumber : ℤ
  moreSegmentsFollow : Bool
  inclusion : List Bool
  items : List ReportItem

def optionBits (options : Finset OptionalField) (segmentation : Bool) : List Bool :=
  [false] ++ (List.range' 1 8).map (fun i => decide (∃ e ∈ options, Enumeration.value e = i)) ++
    [segmentation]

def reasonBits (reasons : Finset Reason) : List Bool :=
  [false] ++ (List.range' 1 6).map fun i => decide (∃ e ∈ reasons, Enumeration.value e = i)

namespace ReportContents

variable (c : ReportContents) (options : Finset OptionalField) (segmentation : Bool)

/-- Elements that are announced. -/
def announced (p : Prop) [Decidable p] (data : Mms.Data) : List Mms.Data := if p then [data] else []

def headerData : List Mms.Data :=
  announced (.SEQUENCE_NUMBER ∈ options) (.UnsignedData c.sequenceNumber) ++
  announced (.REPORT_TIME_STAMP ∈ options) (.BinaryTimeData c.timeOfEntry) ++
  announced (.DATA_SET_NAME ∈ options) (.VisibleStringData (datasetRefToStr c.dataset)) ++
  announced (.BUFFER_OVERFLOW ∈ options) (.BooleanData c.bufferOverflow) ++
  announced (.ENTRY_ID ∈ options) (.OctetStringData c.entryId) ++
  announced (.CONF_REVISION ∈ options) (.UnsignedData c.confRevision) ++
  announced segmentation (.UnsignedData c.subsequenceNumber) ++
  announced segmentation (.BooleanData c.moreSegmentsFollow)

/-- What follows the inclusion mask, with some references and the data of the values. -/
def bodyData (references : List String) (values : List Mms.Data) : List Mms.Data :=
  (if .DATA_REFERENCE ∈ options then references.map .VisibleStringData else []) ++ values ++
    (if .REASON_FOR_INCLUSION ∈ options then
      c.items.map fun item => .BitStringData (reasonBits item.reasons) else [])

/-- A report of some elements before and after its inclusion mask. -/
def elements (header body : List Mms.Data) : List Mms.Data :=
  .VisibleStringData c.reportId :: .BitStringData (optionBits options segmentation) ::
    (header ++ .BitStringData c.inclusion :: body)

def layout (references : List String) (values : List Mms.Data) : List Mms.Data :=
  c.elements options segmentation (c.headerData options segmentation)
    (c.bodyData options references values)

/-- The references of the included data. -/
def references : List String := c.items.map fun item => dataRefToStr item.dataDef.ref

/-- The report, with the fields that are announced. -/
def report : Report where
  reportId := c.reportId
  sequenceNumber := if .SEQUENCE_NUMBER ∈ options then some c.sequenceNumber else none
  subsequenceNumber := if segmentation then some c.subsequenceNumber else none
  moreSegmentsFollow := if segmentation then some c.moreSegmentsFollow else none
  dataset := if .DATA_SET_NAME ∈ options then some c.dataset else none
  bufferOverflow := if .BUFFER_OVERFLOW ∈ options then some c.bufferOverflow else none
  confRevision := if .CONF_REVISION ∈ options then some c.confRevision else none
  entryTime := if .REPORT_TIME_STAMP ∈ options then some c.timeOfEntry else none
  entryId := if .ENTRY_ID ∈ options then some c.entryId else none
  data := c.items.map fun item => {
    ref := item.dataDef.ref
    value := item.value
    reasons := if .REASON_FOR_INCLUSION ∈ options then some item.reasons else none }

/-- The contents are of some data: one bit for each, and the values are of the included types. -/
structure Of (dataDefs : List DataDef) : Prop where
  length_inclusion : c.inclusion.length = dataDefs.length
  items : c.items.map ReportItem.dataDef = included c.inclusion dataDefs
  values : ∀ item ∈ c.items, Value.OfType item.dataDef.valueType item.value

/-- The references that are sent can be read. -/
structure Readable : Prop where
  dataset : .DATA_SET_NAME ∈ options → c.dataset.WellFormed
  references : .DATA_REFERENCE ∈ options → ∀ item ∈ c.items, item.dataDef.ref.WellFormed

end ReportContents

/-! ### Elements are taken one by one -/

section Elements

variable {α β : Type} {read : Mms.Data → Except Exn α} {elements rest : List Mms.Data}

theorem nextAs_cons {data : Mms.Data} {a : α} (h : read data = .ok a) :
    nextAs read (data :: rest) = .ok (a, rest) := by
  simp only [nextAs, h, ok_bind, pure_eq_ok]

theorem nextAs_eq_ok {a : α} (h : nextAs read elements = .ok (a, rest)) :
    ∃ data, elements = data :: rest ∧ read data = .ok a := by
  cases elements with
  | nil => cases h
  | cons data elements =>
    cases hread : read data with
    | error e =>
      rw [nextAs, hread] at h
      cases h
    | ok a' =>
      rw [nextAs_cons hread] at h
      cases h
      exact ⟨data, rfl, hread⟩

theorem nextIf_announced {p : Prop} [Decidable p] {data : Mms.Data} {a : α}
    (h : p → read data = .ok a) :
    nextIf p read (ReportContents.announced p data ++ rest) =
      .ok (if p then some a else none, rest) := by
  by_cases hp : p
  · simp only [nextIf, ReportContents.announced, decide_eq_true hp, if_true, if_pos hp,
      List.singleton_append, nextAs_cons (h hp), ok_bind, pure_eq_ok]
  · simp only [nextIf, ReportContents.announced, decide_eq_false hp, Bool.false_eq_true, if_false,
      if_neg hp, List.nil_append]

/-- No bit string. -/
def NotBits (data : Mms.Data) : Prop := ∀ value, data ≠ .BitStringData value

/-- A reader of what is no bit string. -/
def RefusesBits (read : Mms.Data → Except Exn α) : Prop :=
  ∀ value, ∃ e, read (.BitStringData value) = .error e

theorem RefusesBits.notBits (h : RefusesBits read) {data : Mms.Data} {a : α}
    (hread : read data = .ok a) : NotBits data := by
  rintro value rfl
  obtain ⟨e, he⟩ := h value
  rw [he] at hread
  cases hread

/-- A number of elements are taken, none of which is a bit string. -/
def TakesNotBits (n : ℕ) (r : List Mms.Data → Except Exn (α × List Mms.Data)) : Prop :=
  ∀ elements a rest, r elements = .ok (a, rest) →
    ∃ taken, elements = taken ++ rest ∧ taken.length = n ∧ ∀ data ∈ taken, NotBits data

theorem TakesNotBits.ok (a : α) : TakesNotBits 0 fun elements => .ok (a, elements) := by
  rintro elements _ _ ⟨⟩
  exact ⟨[], rfl, rfl, nofun⟩

theorem TakesNotBits.bind {m n : ℕ} {r : List Mms.Data → Except Exn (α × List Mms.Data)}
    {f : α → List Mms.Data → Except Exn (β × List Mms.Data)} (hr : TakesNotBits m r)
    (hf : ∀ a, TakesNotBits n (f a)) :
    TakesNotBits (m + n) fun elements => r elements >>= fun p => f p.1 p.2 := by
  intro elements b rest h
  cases hread : r elements with
  | error e =>
    simp only [hread, error_bind] at h
    cases h
  | ok p =>
    simp only [hread, ok_bind] at h
    obtain ⟨first, rfl, hlen, hfirst⟩ := hr elements p.1 p.2 hread
    obtain ⟨second, hsecond, hlen', hbits⟩ := hf p.1 p.2 b rest h
    refine ⟨first ++ second, by rw [hsecond, List.append_assoc],
      by rw [List.length_append, hlen, hlen'], ?_⟩
    intro data hdata
    rcases List.mem_append.mp hdata with hdata | hdata
    · exact hfirst data hdata
    · exact hbits data hdata

/-- An element is taken just if it is announced. -/
theorem nextIf_takes (hbits : RefusesBits read) (announced : Bool) :
    TakesNotBits announced.toNat (nextIf announced read) := by
  intro elements a rest h
  cases announced with
  | false =>
    cases h
    exact ⟨[], rfl, rfl, nofun⟩
  | true =>
    cases hnext : nextAs read elements with
    | error e =>
      rw [nextIf, if_pos rfl, hnext] at h
      cases h
    | ok next =>
      obtain ⟨data, rfl, hread⟩ := nextAs_eq_ok (a := next.1) hnext
      rw [nextIf, if_pos rfl, hnext] at h
      cases h
      refine ⟨[data], rfl, rfl, ?_⟩
      intro data' hdata
      rw [List.mem_singleton.mp hdata]
      exact hbits.notBits hread

/-- Each item takes its own element. -/
theorem nextEach_map {ι : Type} (read : β → Mms.Data → Except Exn α) (item : ι → β)
    {data : ι → Except Exn Mms.Data} {value : ι → α} {xs : List ι}
    (h : ∀ x ∈ xs, ∃ d, data x = .ok d ∧ read (item x) d = .ok (value x)) :
    ∃ ds, xs.mapM data = .ok ds ∧ ds.length = xs.length ∧
      ∀ rest, nextEach read (xs.map item) (ds ++ rest) = .ok (xs.map value, rest) := by
  induction xs with
  | nil => exact ⟨[], rfl, rfl, fun rest => rfl⟩
  | cons x xs ih =>
    obtain ⟨d, hdata, hread⟩ := h x List.mem_cons_self
    obtain ⟨ds, hdatas, hlen, hreads⟩ := ih fun x hx => h x (List.mem_cons_of_mem _ hx)
    refine ⟨d :: ds, ?_, congrArg (· + 1) hlen, fun rest => ?_⟩
    · rw [List.mapM_cons, hdata, hdatas]
      rfl
    · simp only [List.map_cons, List.cons_append, nextEach, nextAs_cons hread, hreads rest, ok_bind,
        pure_eq_ok]

theorem nextEach_eq_ok {read : β → Mms.Data → Except Exn α} {items : List β}
    {elements : List Mms.Data} {as : List α} (h : nextEach read items elements = .ok (as, rest)) :
    ∃ taken, elements = taken ++ rest ∧
      List.Forall₂ (fun item data => ∃ a, read item data = .ok a) items taken := by
  induction items generalizing elements as with
  | nil =>
    cases h
    exact ⟨[], rfl, .nil⟩
  | cons item items ih =>
    obtain ⟨⟨a, _⟩, hnext, h⟩ := bind_eq_ok.mp h
    obtain ⟨⟨as', _⟩, heach, h⟩ := bind_eq_ok.mp h
    cases h
    obtain ⟨data, rfl, hread⟩ := nextAs_eq_ok hnext
    obtain ⟨taken, rfl, hall⟩ := ih heach
    exact ⟨data :: taken, rfl, .cons ⟨a, hread⟩ hall⟩

end Elements

/-! ### Headers -/

/-- The number of elements between the option bits and the inclusion mask. -/
def headerLength (options : Finset OptionalField) (segmentation : Bool) : ℕ :=
  (decide (.SEQUENCE_NUMBER ∈ options)).toNat + (decide (.REPORT_TIME_STAMP ∈ options)).toNat +
    (decide (.DATA_SET_NAME ∈ options)).toNat + (decide (.BUFFER_OVERFLOW ∈ options)).toNat +
    (decide (.ENTRY_ID ∈ options)).toNat + (decide (.CONF_REVISION ∈ options)).toNat +
    segmentation.toNat + segmentation.toNat

theorem length_headerData (c : ReportContents) (options : Finset OptionalField)
    (segmentation : Bool) :
    (c.headerData options segmentation).length = headerLength options segmentation := by
  have hone : ∀ (p : Prop) [Decidable p] (data : Mms.Data),
      (ReportContents.announced p data).length = (decide p).toNat := by
    intro p _ data
    by_cases hp : p <;> simp [ReportContents.announced, hp]
  simp only [ReportContents.headerData, List.length_append, hone, headerLength, Bool.decide_eq_true]

theorem notBits_headerData (c : ReportContents) (options : Finset OptionalField)
    (segmentation : Bool) : ∀ data ∈ c.headerData options segmentation, NotBits data := by
  have hone : ∀ (p : Prop) [Decidable p] (data : Mms.Data), NotBits data →
      ∀ d ∈ ReportContents.announced p data, NotBits d := by
    intro p _ data hdata d hd
    by_cases hp : p
    · simp only [ReportContents.announced, if_pos hp, List.mem_singleton] at hd
      rwa [hd]
    · simp only [ReportContents.announced, if_neg hp] at hd
      cases hd
  intro data hdata
  simp only [ReportContents.headerData, List.mem_append] at hdata
  rcases hdata with ((((((h | h) | h) | h) | h) | h) | h) | h
  all_goals exact hone _ _ (by intro value heq; cases heq) data h

/-- The fields that are announced are read. -/
theorem readHeader_headerData (c : ReportContents) {options : Finset OptionalField}
    (segmentation : Bool) (hdataset : .DATA_SET_NAME ∈ options → c.dataset.WellFormed)
    (rest : List Mms.Data) :
    readHeader options segmentation (c.headerData options segmentation ++ rest) = .ok ({
      sequenceNumber := if .SEQUENCE_NUMBER ∈ options then some c.sequenceNumber else none
      timeOfEntry := if .REPORT_TIME_STAMP ∈ options then some c.timeOfEntry else none
      dataset := if .DATA_SET_NAME ∈ options then some c.dataset else none
      bufferOverflow := if .BUFFER_OVERFLOW ∈ options then some c.bufferOverflow else none
      entryId := if .ENTRY_ID ∈ options then some c.entryId else none
      confRevision := if .CONF_REVISION ∈ options then some c.confRevision else none
      subsequenceNumber := if segmentation then some c.subsequenceNumber else none
      moreSegmentsFollow := if segmentation then some c.moreSegmentsFollow else none }, rest) := by
  have hread : .DATA_SET_NAME ∈ options →
      datasetFromMmsData (.VisibleStringData (datasetRefToStr c.dataset)) = .ok c.dataset := by
    intro h
    rw [datasetFromMmsData, strFromMmsData, ok_bind, datasetRefFromStr_toStr (hdataset h)]
  have hunsigned : ∀ {p : Prop} [Decidable p] {n : ℤ} {rest : List Mms.Data},
      nextIf p unsignedFromMmsData (ReportContents.announced p (.UnsignedData n) ++ rest) =
        .ok (if p then some n else none, rest) := nextIf_announced fun _ => rfl
  have hbool : ∀ {p : Prop} [Decidable p] {b : Bool} {rest : List Mms.Data},
      nextIf p boolFromMmsData (ReportContents.announced p (.BooleanData b) ++ rest) =
        .ok (if p then some b else none, rest) := nextIf_announced fun _ => rfl
  have htime : ∀ {p : Prop} [Decidable p] {t : Mms.DateTime} {rest : List Mms.Data},
      nextIf p entryTimeFromMmsData (ReportContents.announced p (.BinaryTimeData t) ++ rest) =
        .ok (if p then some t else none, rest) := nextIf_announced fun _ => rfl
  have hbytes : ∀ {p : Prop} [Decidable p] {bs : Bytes} {rest : List Mms.Data},
      nextIf p bytesFromMmsData (ReportContents.announced p (.OctetStringData bs) ++ rest) =
        .ok (if p then some bs else none, rest) := nextIf_announced fun _ => rfl
  have hunsigned' := @hunsigned (segmentation = true) _
  have hbool' := @hbool (segmentation = true) _
  rw [Bool.decide_eq_true] at hunsigned' hbool'
  simp only [readHeader, ReportContents.headerData, List.append_assoc, hunsigned, htime,
    nextIf_announced hread, hbool, hbytes, hunsigned', hbool', ok_bind, pure_eq_ok]

/-- As many elements are taken as are announced. -/
theorem readHeader_takes (options : Finset OptionalField) (segmentation : Bool) :
    TakesNotBits (headerLength options segmentation) (readHeader options segmentation) := by
  have hunsigned : RefusesBits unsignedFromMmsData := fun _ => ⟨_, rfl⟩
  have hbool : RefusesBits boolFromMmsData := fun _ => ⟨_, rfl⟩
  have htime : RefusesBits entryTimeFromMmsData := fun _ => ⟨_, rfl⟩
  have hdataset : RefusesBits datasetFromMmsData := fun _ => ⟨_, rfl⟩
  have hbytes : RefusesBits bytesFromMmsData := fun _ => ⟨_, rfl⟩
  have htakes := (nextIf_takes hunsigned (decide (.SEQUENCE_NUMBER ∈ options))).bind fun a₁ =>
    (nextIf_takes htime (decide (.REPORT_TIME_STAMP ∈ options))).bind fun a₂ =>
    (nextIf_takes hdataset (decide (.DATA_SET_NAME ∈ options))).bind fun a₃ =>
    (nextIf_takes hbool (decide (.BUFFER_OVERFLOW ∈ options))).bind fun a₄ =>
    (nextIf_takes hbytes (decide (.ENTRY_ID ∈ options))).bind fun a₅ =>
    (nextIf_takes hunsigned (decide (.CONF_REVISION ∈ options))).bind fun a₆ =>
    (nextIf_takes hunsigned segmentation).bind fun a₇ =>
    (nextIf_takes hbool segmentation).bind fun a₈ =>
    TakesNotBits.ok ({
      sequenceNumber := a₁, timeOfEntry := a₂, dataset := a₃, bufferOverflow := a₄,
      entryId := a₅, confRevision := a₆, subsequenceNumber := a₇,
      moreSegmentsFollow := a₈ } : ReportHeader)
  simp only [headerLength, Nat.add_assoc]
  exact htakes

/-! ### Reports that are read -/

/-- The elements of a report that is read: as many as are announced, and perhaps some more. -/
structure ReportElements (elements : List Mms.Data) (dataDefs : List DataDef) where
  reportId : String
  bits : List Bool
  options : Finset OptionalField
  header : List Mms.Data
  inclusion : List Bool
  references : List Mms.Data
  values : List Mms.Data
  reasons : List Mms.Data
  rest : List Mms.Data
  elements_eq : elements = .VisibleStringData reportId :: .BitStringData bits ::
    (header ++ .BitStringData inclusion :: (references ++ (values ++ (reasons ++ rest))))
  options_eq : flagSet (fun _ => true) bits.dropLast = .ok options
  length_header : header.length = headerLength options (bits.getLast? = some true)
  notBits_header : ∀ data ∈ header, NotBits data
  length_inclusion : inclusion.length = dataDefs.length
  references_ok : List.Forall₂ (fun dataDef data => ∃ u, checkReference dataDef data = .ok u)
    (if .DATA_REFERENCE ∈ options then included inclusion dataDefs else []) references
  length_values : values.length = (included inclusion dataDefs).length
  length_reasons : reasons.length =
    (if .REASON_FOR_INCLUSION ∈ options then inclusion.filter id else []).length

theorem strFromMmsData_eq_ok {data : Mms.Data} {s : String} (h : strFromMmsData data = .ok s) :
    data = .VisibleStringData s := by
  cases data <;> cases h
  rfl

theorem bitsFromMmsData_eq_ok {data : Mms.Data} {bits : List Bool}
    (h : bitsFromMmsData data = .ok bits) : data = .BitStringData bits := by
  cases data <;> cases h
  rfl

theorem reportFromMmsData_eq_ok {elements : List Mms.Data} {dataDefs : List DataDef}
    {report : Report} (h : reportFromMmsData elements dataDefs = .ok report) :
    Nonempty (ReportElements elements dataDefs) := by
  obtain ⟨⟨reportId, _⟩, hid, hafterId⟩ := bind_eq_ok.mp h
  obtain ⟨⟨bits, _⟩, hbits, hafterBits⟩ := bind_eq_ok.mp hafterId
  obtain ⟨data, rfl, hdata⟩ := nextAs_eq_ok hid
  obtain rfl := strFromMmsData_eq_ok hdata
  obtain ⟨data, rfl, hdata⟩ := nextAs_eq_ok hbits
  obtain rfl := bitsFromMmsData_eq_ok hdata
  dsimp only at hafterBits
  split at hafterBits
  · cases hafterBits
  obtain ⟨options, hoptions, hafterOptions⟩ := bind_eq_ok.mp hafterBits
  obtain ⟨⟨header, _⟩, hheader, hafterHeader⟩ := bind_eq_ok.mp hafterOptions
  obtain ⟨⟨inclusion, _⟩, hinclusion, hafterInclusion⟩ := bind_eq_ok.mp hafterHeader
  obtain ⟨taken, rfl, hlen, hnot⟩ := readHeader_takes _ _ _ _ _ hheader
  obtain ⟨data, rfl, hdata⟩ := nextAs_eq_ok hinclusion
  obtain rfl := bitsFromMmsData_eq_ok hdata
  dsimp only at hafterInclusion
  split at hafterInclusion
  · cases hafterInclusion
  · next hdefs =>
    obtain ⟨⟨us, _⟩, hreferences, hafterReferences⟩ := bind_eq_ok.mp hafterInclusion
    obtain ⟨⟨values, _⟩, hvalues, hafterValues⟩ := bind_eq_ok.mp hafterReferences
    obtain ⟨⟨reasons, rest⟩, hreasons, _⟩ := bind_eq_ok.mp hafterValues
    obtain ⟨references, rfl, hallReferences⟩ := nextEach_eq_ok hreferences
    obtain ⟨values, rfl, hallValues⟩ := nextEach_eq_ok hvalues
    obtain ⟨reasons, rfl, hallReasons⟩ := nextEach_eq_ok hreasons
    exact ⟨{
      reportId := reportId
      bits := bits
      options := options
      header := taken
      inclusion := inclusion
      references := references
      values := values
      reasons := reasons
      rest := rest
      elements_eq := rfl
      options_eq := hoptions
      length_header := hlen
      notBits_header := hnot
      length_inclusion := not_ne_iff.mp hdefs
      references_ok := hallReferences
      length_values := hallValues.length_eq.symm
      length_reasons := hallReasons.length_eq.symm }⟩

/-! ### Reports in their order -/

theorem length_filter_id {α : Type} {inclusion : List Bool} {items : List α}
    (h : inclusion.length = items.length) :
    (inclusion.filter id).length = (included inclusion items).length := by
  induction inclusion generalizing items with
  | nil => rfl
  | cons b inclusion ih =>
    cases items with
    | nil => cases h
    | cons item items =>
      have hlen := ih (Nat.succ.inj h)
      cases b with
      | false => exact hlen
      | true => exact congrArg (· + 1) hlen

/-- There is a set bit for each of the included items. -/
theorem filter_id_eq_map {α β : Type} {inclusion : List Bool} {items : List α} {xs : List β}
    (h : inclusion.length = items.length) (hxs : xs.length = (included inclusion items).length) :
    inclusion.filter id = xs.map fun _ => true := by
  rw [List.map_const', hxs, ← length_filter_id h, List.eq_replicate_iff]
  exact ⟨rfl, fun b hb => (List.mem_filter.mp hb).2⟩

section Options

variable (options : Finset OptionalField) (segmentation : Bool)

theorem length_optionBits : (optionBits options segmentation).length = 10 := by
  simp [optionBits]

theorem getLast?_optionBits : (optionBits options segmentation).getLast? = some segmentation :=
  List.getLast?_concat

theorem flagSet_optionBits :
    flagSet (fun _ => true) (optionBits options segmentation).dropLast = .ok options := by
  rw [optionBits, List.dropLast_concat, ← List.append_nil ([false] ++ _)]
  apply flagSet_flagBits
  · intro e
    show 1 ≤ e.value ∧ e.value < 1 + 8
    cases e <;> decide
  · exact fun _ _ _ => rfl
  · intro i hi _
    obtain rfl : i = 0 := by simpa using hi
    rfl
  · simp

theorem reasonsFromMmsData_reasonBits (reasons : Finset Reason) :
    reasonsFromMmsData (.BitStringData (reasonBits reasons)) = .ok reasons := by
  have hlen : (reasonBits reasons).length = 7 := by simp [reasonBits]
  rw [reasonsFromMmsData, bitsFromMmsData, ok_bind, ← hlen, List.take_length, reasonBits,
    ← List.append_nil ([false] ++ _)]
  apply flagSet_flagBits
  · intro e
    show 1 ≤ e.value ∧ e.value < 1 + 6
    cases e <;> decide
  · exact fun _ _ _ => rfl
  · intro i hi _
    obtain rfl : i = 0 := by simpa using hi
    rfl
  · simp

end Options

theorem reportData_map (items : List ReportItem) (announced : Prop) [Decidable announced] :
    reportData (items.map ReportItem.dataDef) (items.map ReportItem.value)
        (if announced then some (items.map ReportItem.reasons) else none) =
      items.map fun item => {
        ref := item.dataDef.ref
        value := item.value
        reasons := if announced then some item.reasons else none } := by
  induction items with
  | nil => by_cases h : announced <;> simp [reportData, h]
  | cons item items ih =>
    by_cases h : announced
    · simp only [reportData, h, if_true, List.map_cons, List.zip_cons_cons,
        List.zipWith_cons_cons] at ih ⊢
      rw [ih]
    · simp only [reportData, h, if_false, List.map_cons, List.zip_cons_cons,
        List.zipWith_cons_cons] at ih ⊢
      rw [ih]

/-- The references of the included data are checked. -/
theorem nextEach_references {c : ReportContents} {options : Finset OptionalField}
    {dataDefs : List DataDef} (hof : c.Of dataDefs) (hreadable : c.Readable options)
    (rest : List Mms.Data) :
    ∃ us, nextEach checkReference
      (if .DATA_REFERENCE ∈ options then included c.inclusion dataDefs else [])
      ((if .DATA_REFERENCE ∈ options then c.references.map .VisibleStringData else []) ++ rest) =
        .ok (us, rest) := by
  by_cases h : .DATA_REFERENCE ∈ options
  · have hcheck : ∀ item ∈ c.items, ∃ d,
        (Except.ok (Mms.Data.VisibleStringData (dataRefToStr item.dataDef.ref)) :
          Except Exn Mms.Data) = .ok d ∧ checkReference item.dataDef d = .ok () := by
      intro item hitem
      refine ⟨_, rfl, ?_⟩
      rw [checkReference, strFromMmsData, ok_bind,
        dataRefFromStr_toStr (hreadable.references h item hitem), ok_bind, if_neg (by simp)]
      rfl
    obtain ⟨ds, hds, _, hread⟩ := nextEach_map checkReference ReportItem.dataDef hcheck
    rw [mapM_eq_ok_map fun _ _ => rfl] at hds
    refine ⟨c.items.map fun _ => (), ?_⟩
    rw [if_pos h, if_pos h, ← hof.items, ReportContents.references, List.map_map]
    obtain rfl := Except.ok.inj hds
    exact hread rest
  · rw [if_neg h, if_neg h]
    exact ⟨[], rfl⟩

/-- The reasons of the included data are read. -/
theorem nextEach_reasons {c : ReportContents} (options : Finset OptionalField)
    {dataDefs : List DataDef} (hof : c.Of dataDefs) :
    nextEach (fun _ => reasonsFromMmsData)
      (if .REASON_FOR_INCLUSION ∈ options then c.inclusion.filter id else [])
      (if .REASON_FOR_INCLUSION ∈ options then
        c.items.map fun item => .BitStringData (reasonBits item.reasons) else []) =
      .ok (if .REASON_FOR_INCLUSION ∈ options then c.items.map ReportItem.reasons else [], []) := by
  by_cases h : .REASON_FOR_INCLUSION ∈ options
  · have hread : ∀ item ∈ c.items, ∃ d,
        (Except.ok (Mms.Data.BitStringData (reasonBits item.reasons)) : Except Exn Mms.Data) =
          .ok d ∧ reasonsFromMmsData d = .ok item.reasons := by
      intro item _
      exact ⟨_, rfl, reasonsFromMmsData_reasonBits item.reasons⟩
    obtain ⟨ds, hds, _, hreads⟩ :=
      nextEach_map (fun _ : Bool => reasonsFromMmsData) (fun _ => true) hread
    rw [mapM_eq_ok_map fun _ _ => rfl] at hds
    obtain rfl := Except.ok.inj hds
    have hlen : c.items.length = (included c.inclusion dataDefs).length := by
      rw [← hof.items, List.length_map]
    rw [if_pos h, if_pos h, if_pos h, filter_id_eq_map hof.length_inclusion hlen]
    have hall := hreads []
    rwa [List.append_nil] at hall
  · rw [if_neg h, if_neg h, if_neg h]
    rfl

/-- A report in its order is read. -/
theorem reportFromMmsData_report {c : ReportContents} {options : Finset OptionalField}
    (segmentation : Bool) {dataDefs : List DataDef} (hof : c.Of dataDefs)
    (hreadable : c.Readable options) :
    ∃ values, c.items.mapM (fun item => valueToMmsData item.dataDef.valueType item.value) =
        .ok values ∧ values.length = c.items.length ∧
      reportFromMmsData (c.layout options segmentation c.references values) dataDefs =
        .ok (c.report options segmentation) := by
  have hroundTrip : ∀ item ∈ c.items, ∃ d,
      valueToMmsData item.dataDef.valueType item.value = .ok d ∧
        valueFromMmsData item.dataDef.valueType d = .ok item.value := fun item hitem =>
    valueFromMmsData_toMmsData item.dataDef.valueType item.value (hof.values item hitem)
  obtain ⟨values, hvalues, hlen, hreadValues⟩ := nextEach_map
    (fun dataDef : DataDef => valueFromMmsData dataDef.valueType) ReportItem.dataDef hroundTrip
  have hreasons := nextEach_reasons options hof
  have hheader := readHeader_headerData c segmentation hreadable.dataset
  have hstr : strFromMmsData (.VisibleStringData c.reportId) = .ok c.reportId := rfl
  have hbits : ∀ bits, bitsFromMmsData (.BitStringData bits) = .ok bits := fun _ => rfl
  obtain ⟨us, hreferences⟩ := nextEach_references hof hreadable (values ++
    (if .REASON_FOR_INCLUSION ∈ options then
      c.items.map fun item => .BitStringData (reasonBits item.reasons) else []))
  refine ⟨values, hvalues, hlen, ?_⟩
  rw [ReportContents.layout, ReportContents.elements, ReportContents.bodyData, List.append_assoc]
  rw [← hof.items] at hreferences
  simp only [reportFromMmsData, nextAs_cons hstr, nextAs_cons (hbits _), ok_bind,
    length_optionBits, ne_eq, not_true_eq_false, if_false, flagSet_optionBits, getLast?_optionBits,
    Option.some_inj, Bool.decide_eq_true, hheader, hof.length_inclusion, ← hof.items, hreferences,
    hreadValues, hreasons, pure_eq_ok, ReportContents.report, ← reportData_map]
  by_cases h : .REASON_FOR_INCLUSION ∈ options
  · simp only [h, if_true]
  · simp only [h, if_false]

/-! ### Reports that are not in their order -/

/-- The first bit string of two equal lists is at the same place. -/
theorem append_bits_inj {xs ys as bs : List Mms.Data} {a b : List Bool}
    (hxs : ∀ data ∈ xs, NotBits data) (hys : ∀ data ∈ ys, NotBits data)
    (h : xs ++ .BitStringData a :: as = ys ++ .BitStringData b :: bs) :
    xs = ys ∧ a = b ∧ as = bs := by
  induction xs generalizing ys with
  | nil =>
    cases ys with
    | nil =>
      obtain ⟨hbits, rfl⟩ := List.cons.inj h
      exact ⟨rfl, Mms.Data.BitStringData.inj hbits, rfl⟩
    | cons y ys => exact absurd (List.cons.inj h).1.symm (hys y List.mem_cons_self a)
  | cons x xs ih =>
    cases ys with
    | nil => exact absurd (List.cons.inj h).1 (hxs x List.mem_cons_self b)
    | cons y ys =>
      obtain ⟨rfl, htail⟩ := List.cons.inj h
      obtain ⟨rfl, hab⟩ := ih (fun d hd => hxs d (List.mem_cons_of_mem _ hd))
        (fun d hd => hys d (List.mem_cons_of_mem _ hd)) htail
      exact ⟨rfl, hab⟩

section Refused

variable {c : ReportContents} {options : Finset OptionalField} {segmentation : Bool}
  {dataDefs : List DataDef} {header body p q : List Mms.Data}

/-- What is read of the elements of a report, cut short, is what is there. -/
theorem ReportElements.eq (E : ReportElements p dataDefs)
    (h : p ++ q = c.elements options segmentation header body)
    (hnot : ∀ data ∈ header, NotBits data) :
    E.options = options ∧ headerLength options segmentation = header.length ∧
      E.inclusion = c.inclusion ∧
      E.references ++ (E.values ++ (E.reasons ++ (E.rest ++ q))) = body := by
  rw [E.elements_eq, ReportContents.elements] at h
  simp only [List.cons_append, List.append_assoc, List.cons.injEq, Mms.Data.VisibleStringData.injEq,
    Mms.Data.BitStringData.injEq] at h
  obtain ⟨_, hbits, htail⟩ := h
  obtain ⟨hheader, hinclusion, hbody⟩ := append_bits_inj E.notBits_header hnot htail
  have hoptions := E.options_eq
  rw [hbits, flagSet_optionBits] at hoptions
  obtain rfl := Except.ok.inj hoptions
  have hlen := E.length_header
  rw [hbits, getLast?_optionBits, hheader] at hlen
  simp only [Option.some_inj, Bool.decide_eq_true] at hlen
  exact ⟨rfl, hlen.symm, hinclusion, hbody⟩

/-- There is an element for each reference, value and set of reasons that is announced. -/
theorem ReportElements.length_body (E : ReportElements p dataDefs) (hof : c.Of dataDefs)
    (hoptions : E.options = options) (hinclusion : E.inclusion = c.inclusion)
    {references : List String} (hreferences : references.length = c.items.length)
    {values : List Mms.Data} (hvalues : values.length = c.items.length) :
    E.references.length + E.values.length + E.reasons.length =
      (c.bodyData options references values).length := by
  have hincluded : (included c.inclusion dataDefs).length = c.items.length := by
    rw [← hof.items, List.length_map]
  have hreferences' := E.references_ok.length_eq
  have hvalues' := E.length_values
  have hreasons' := E.length_reasons
  rw [hoptions, hinclusion] at hreferences' hreasons'
  rw [hinclusion] at hvalues'
  simp only [ReportContents.bodyData, List.length_append]
  rw [← hreferences', hreasons', hvalues', hincluded, hvalues]
  congr 1
  · congr 1
    split
    · rw [hincluded, List.length_map, hreferences]
    · rfl
  · split
    · rw [length_filter_id hof.length_inclusion, hincluded, List.length_map]
    · rfl

theorem exists_error {x : Except Exn Report} (h : ∀ report, x ≠ .ok report) : ∃ e, x = .error e := by
  cases x with
  | error e => exact ⟨e, rfl⟩
  | ok report => exact absurd rfl (h report)

/-- A report that lacks an element is not read. -/
theorem reportFromMmsData_missing (hof : c.Of dataDefs) {values : List Mms.Data}
    (hvalues : values.length = c.items.length)
    (hheader : header.Sublist (c.headerData options segmentation))
    (hbody : body.Sublist (c.bodyData options c.references values))
    (hmissing : header ≠ c.headerData options segmentation ∨
      body ≠ c.bodyData options c.references values) :
    ∃ e, reportFromMmsData (c.elements options segmentation header body) dataDefs = .error e := by
  apply exists_error
  intro report hread
  obtain ⟨E⟩ := reportFromMmsData_eq_ok hread
  have hnot : ∀ data ∈ header, NotBits data := fun data hdata =>
    notBits_headerData c options segmentation data (hheader.subset hdata)
  obtain ⟨hoptions, hlen, hinclusion, hrest⟩ := E.eq (List.append_nil _) hnot
  have hreferences : c.references.length = c.items.length := List.length_map _
  have hlenBody := E.length_body hof hoptions hinclusion hreferences hvalues
  have hshort := congrArg List.length hrest
  simp only [List.length_append, List.length_nil] at hshort
  rcases hmissing with hne | hne
  · refine hne (hheader.eq_of_length ?_)
    rw [length_headerData, hlen]
  · refine hne (hbody.eq_of_length_le ?_)
    omega

/-- A report that is cut short is not read. -/
theorem reportFromMmsData_cut (hof : c.Of dataDefs) {values : List Mms.Data}
    (hvalues : values.length = c.items.length)
    (hp : p <+: c.layout options segmentation c.references values)
    (hne : p ≠ c.layout options segmentation c.references values) :
    ∃ e, reportFromMmsData p dataDefs = .error e := by
  apply exists_error
  intro report hread
  obtain ⟨E⟩ := reportFromMmsData_eq_ok hread
  obtain ⟨q, hq⟩ := hp
  obtain ⟨hoptions, _, hinclusion, hrest⟩ := E.eq hq
    (notBits_headerData c options segmentation)
  have hreferences : c.references.length = c.items.length := List.length_map _
  have hlenBody := E.length_body hof hoptions hinclusion hreferences hvalues
  have hlen := congrArg List.length hrest
  simp only [List.length_append] at hlen
  obtain rfl : q = [] := List.eq_nil_of_length_eq_zero (by omega)
  rw [List.append_nil] at hq
  exact hne hq

/-- A report with a reference to other data is not read. -/
theorem reportFromMmsData_mismatch (hof : c.Of dataDefs) {values : List Mms.Data}
    {references : List String} (hreferences : references.length = c.items.length)
    (hannounced : .DATA_REFERENCE ∈ options)
    (hmismatch : ∃ pair ∈ c.items.zip references,
      dataRefFromStr pair.2 ≠ .ok pair.1.dataDef.ref) :
    ∃ e, reportFromMmsData (c.layout options segmentation references values) dataDefs =
      .error e := by
  apply exists_error
  intro report hread
  obtain ⟨E⟩ := reportFromMmsData_eq_ok hread
  obtain ⟨hoptions, _, hinclusion, hrest⟩ := E.eq (List.append_nil _)
    (notBits_headerData c options segmentation)
  have hall := E.references_ok
  rw [hoptions, hinclusion, if_pos hannounced, ← hof.items] at hall
  rw [ReportContents.bodyData, if_pos hannounced, List.append_assoc] at hrest
  have hlen := hall.length_eq
  have htexts : E.references = references.map .VisibleStringData :=
    List.append_inj_left hrest (by rw [← hlen, List.length_map, List.length_map, hreferences])
  rw [htexts, List.forall₂_map_left_iff, List.forall₂_map_right_iff] at hall
  obtain ⟨pair, hpair, hne⟩ := hmismatch
  obtain ⟨u, hcheck⟩ := (List.forall₂_iff_zip.mp hall).2 hpair
  rw [checkReference, strFromMmsData, ok_bind] at hcheck
  obtain ⟨ref, href, hcheck⟩ := bind_eq_ok.mp hcheck
  split at hcheck
  · cases hcheck
  · next heq =>
    rw [href, not_ne_iff.mp heq] at hne
    exact hne rfl

end Refused

/-- A report of a known id is read by its data. -/
theorem processReport_elements {reportDataDefs : String → Option (List DataDef)}
    {c : ReportContents} {dataDefs : List DataDef} (h : reportDataDefs c.reportId = some dataDefs)
    (options : Finset OptionalField) (segmentation : Bool) (header body : List Mms.Data) :
    processReport reportDataDefs (c.elements options segmentation header body) =
      (reportFromMmsData (c.elements options segmentation header body) dataDefs).map some := by
  have hstr : strFromMmsData (.VisibleStringData c.reportId) = .ok c.reportId := rfl
  rw [ReportContents.elements, processReport, hstr]
  simp only [ok_bind, h]
  cases reportFromMmsData _ dataDefs <;> rfl

/-- **Reports are read in their order.**  Of the elements that the option bits and the inclusion
mask announce, in their order, the report is read: each value with its own reference and reasons.
With a reference to other data, without one of its elements, or cut short, no report is. -/
theorem reportFromMmsData_layout {c : ReportContents} {options : Finset OptionalField}
    (segmentation : Bool) {dataDefs : List DataDef} (hof : c.Of dataDefs)
    (hreadable : c.Readable options) :
    ∃ values, c.items.mapM (fun item => valueToMmsData item.dataDef.valueType item.value) =
        .ok values ∧
      reportFromMmsData (c.layout options segmentation c.references values) dataDefs =
        .ok (c.report options segmentation) ∧
      (∀ references, references.length = c.items.length → .DATA_REFERENCE ∈ options →
        (∃ pair ∈ c.items.zip references, dataRefFromStr pair.2 ≠ .ok pair.1.dataDef.ref) →
        ∃ e, reportFromMmsData (c.layout options segmentation references values) dataDefs =
          .error e) ∧
      (∀ header body, header.Sublist (c.headerData options segmentation) →
        body.Sublist (c.bodyData options c.references values) →
        (header ≠ c.headerData options segmentation ∨
          body ≠ c.bodyData options c.references values) →
        ∃ e, reportFromMmsData (c.elements options segmentation header body) dataDefs =
          .error e) ∧
      ∀ p, p <+: c.layout options segmentation c.references values →
        p ≠ c.layout options segmentation c.references values →
        ∃ e, reportFromMmsData p dataDefs = .error e := by
  obtain ⟨values, hvalues, hlen, hread⟩ := reportFromMmsData_report segmentation hof hreadable
  refine ⟨values, hvalues, hread, ?_, ?_, ?_⟩
  · intro references hreferences hannounced hmismatch
    exact reportFromMmsData_mismatch hof hreferences hannounced hmismatch
  · intro header body hheader hbody hmissing
    exact reportFromMmsData_missing hof hlen hheader hbody hmissing
  · intro p hp hne
    exact reportFromMmsData_cut hof hlen hp hne

/-- An indication that changed. -/
def indicationReport : ReportContents where
  reportId := "LD0/LLN0$RP$urcb01"
  sequenceNumber := 7
  timeOfEntry := 0
  dataset := .PersistedDatasetRef "LD0" "LLN0" "indications"
  bufferOverflow := false
  entryId := []
  confRevision := 1
  subsequenceNumber := 0
  moreSegmentsFollow := false
  inclusion := [false, true]
  items := [{
    dataDef := ⟨⟨"LD0", "GGIO1", "ST", [.str "Ind2", .str "stVal"]⟩, .basic .BOOLEAN⟩
    value := .bool true
    reasons := {.DATA_CHANGE} }]

theorem reportFromMmsData_layout_indication :
    ∃ values, reportFromMmsData (indicationReport.layout {.SEQUENCE_NUMBER, .DATA_REFERENCE} false
        indicationReport.references values)
      [⟨⟨"LD0", "GGIO1", "ST", [.str "Ind1", .str "stVal"]⟩, .basic .BOOLEAN⟩,
       ⟨⟨"LD0", "GGIO1", "ST", [.str "Ind2", .str "stVal"]⟩, .basic .BOOLEAN⟩] =
        .ok (indicationReport.report {.SEQUENCE_NUMBER, .DATA_REFERENCE} false) := by
  have hof : indicationReport.Of
      [⟨⟨"LD0", "GGIO1", "ST", [.str "Ind1", .str "stVal"]⟩, .basic .BOOLEAN⟩,
       ⟨⟨"LD0", "GGIO1", "ST", [.str "Ind2", .str "stVal"]⟩, .basic .BOOLEAN⟩] :=
    ⟨rfl, rfl, by simp [indicationReport, Value.OfType, Value.OfBasic]⟩
  have hreadable : indicationReport.Readable {.SEQUENCE_NUMBER, .DATA_REFERENCE} := by
    constructor
    · intro h
      exact absurd h (by decide)
    · intro _ item hitem
      obtain rfl := List.mem_singleton.mp hitem
      exact ⟨by decide, by decide, by decide, by decide, by intro i; exact nofun⟩
  obtain ⟨values, _, hread, _⟩ := reportFromMmsData_layout false hof hreadable
  exact ⟨values, hread⟩

end HatDrivers.Iec61850
