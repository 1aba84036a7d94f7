import HatDrivers.Iec61850.Manager.Templates
import HatDrivers.Lib.Generator

namespace HatDrivers.Iec61850.Manager

open HatDrivers.Lib

/-!
# IEC 61850 — data and datasets of a file

The data entries that the file readout makes of the data objects of logical nodes, and the datasets
it finds for them.  Calls are nested as deep as templates are; `fuel` is how deep a call may be
nested, after which `RecursionError` is raised.
-/

/-! ### Entries -/

/-- A reference as the readout writes it; an attribute may lack a name. -/
structure RefConf where
  logicalDevice : String
  logicalNode : String
  fc : Option String
  names : List (Option Name)
  deriving DecidableEq

structure DatasetRefConf where
  logicalDevice : String
  logicalNode : String
  name : Option String
  deriving DecidableEq

/-- An entry of `datasets`. -/
structure DatasetConf where
  ref : DatasetRefConf
  values : List RefConf

/-- A dataset of a data entry, with what else of the entry is in it. -/
structure DataDatasetConf where
  ref : DatasetRefConf
  quality : Bool
  timestamp : Bool
  selected : Bool

structure EnumeratedConf where
  name : Option String
  values : List (ℤ × String)

/-- An entry of `data`. -/
structure DataConf where
  value : RefConf
  valueType : ValueType
  datasets : List DataDatasetConf
  writable : Bool
  quality : Option RefConf
  timestamp : Option RefConf
  selected : Option RefConf
  enumerated : Option EnumeratedConf

/-- The truth value of a text that may be missing. -/
def truthy (s : Option String) : Bool := s ≠ none ∧ s ≠ some ""

/-! ### Datasets -/

/-- `_create_logical_device` -/
def createLogicalDevice (iedName : String) (inst : Option String) : String :=
  iedName ++ inst.getD "None"

/-- `_create_logical_node` -/
def createLogicalNode (pre lnClass inst : Option String) : String :=
  pre.getD "" ++ lnClass.getD "None" ++ inst.getD ""

/-- A part of the name: `_, _, after = i.partition('(')`. -/
def nameFromFcdaPart (part : List Char) : Except Exn Name :=
  match splitOnce part '(' with
  | some (_, c :: after) => do
    -- what is before the first bracket that closes, or all
    let idx := (c :: after).takeWhile (· ≠ ')')
    return .index (← parseInt idx)
  | _ => .ok (.str (String.ofList part))

/-- `_names_from_fcda_name` -/
def namesFromFcdaName (name : String) : Except Exn (List Name) :=
  (name.toList.splitOn '.').mapM nameFromFcdaPart

/-- The names of a part of an FCDA, if it is there. -/
def namesFromAttr (name : Option String) : Except Exn (List Name) :=
  if truthy name then namesFromFcdaName (name.getD "") else .ok []

/-- A round of the loop of `_get_dataset_values`. -/
def fcdaRef (iedName : String) (fcdaEl : Element) : Except Exn RefConf := do
  let doNames ← namesFromAttr (fcdaEl.get "doName")
  let daNames ← namesFromAttr (fcdaEl.get "daName")
  return {
    logicalDevice := createLogicalDevice iedName (fcdaEl.get "ldInst")
    logicalNode := createLogicalNode (fcdaEl.get "prefix") (fcdaEl.get "lnClass")
      (fcdaEl.get "lnInst")
    fc := fcdaEl.get "fc"
    names := (doNames ++ daNames).map some }

/-- `_get_dataset_values`: an entry that cannot be read is ignored. -/
def getDatasetValues (datasetEl : Element) (iedName : String) : List RefConf :=
  (datasetEl.findAll "FCDA").filterMap fun fcdaEl => (fcdaRef iedName fcdaEl).toOption

/-- `_get_datasets` -/
def getDatasets (iedName logicalDevice logicalNode : String) (lnEl : Element) :
    List DatasetConf :=
  (lnEl.findAll "DataSet").map fun datasetEl =>
    { ref := ⟨logicalDevice, logicalNode, datasetEl.get "name"⟩
      values := getDatasetValues datasetEl iedName }

/-- `_is_ref_in_dataset` -/
def isRefInDataset (dsValueRef ref : RefConf) : Bool :=
  if dsValueRef.logicalDevice ≠ ref.logicalDevice then false
  else if dsValueRef.logicalNode ≠ ref.logicalNode then false
  else if dsValueRef.fc ≠ ref.fc then false
  else if dsValueRef.names = ref.names then true
  else if dsValueRef.names.length > ref.names.length then true
  else ref.names.take dsValueRef.names.length = dsValueRef.names

/-- `_is_ref_in_dataset(ds_val_ref, ref) if ref else False` -/
def isOptionalRefInDataset (dsValueRef : RefConf) (ref : Option RefConf) : Bool :=
  ref.any (isRefInDataset dsValueRef)

/-- `_get_value_datasets` -/
def getValueDatasets (datasets : List DatasetConf) (valueRef : RefConf)
    (qualityRef timestampRef selectedRef : Option RefConf) : List DataDatasetConf :=
  datasets.flatMap fun dataset =>
    (dataset.values.filter (isRefInDataset · valueRef)).map fun dsValRef =>
      { ref := dataset.ref
        quality := isOptionalRefInDataset dsValRef qualityRef
        timestamp := isOptionalRefInDataset dsValRef timestampRef
        selected := isOptionalRefInDataset dsValRef selectedRef }

/-! ### Data -/

/-- `_get_enumerated` -/
def getEnumerated (rootEl : Element) (typeName : Option String) : Except Exn EnumeratedConf :=
  match (templates rootEl).find? fun el =>
      el.tag = "EnumType" ∧ el.get "id" = some (typeName.getD "None") with
  | none => .error .attributeError
  | some typeEl => do
    let values ← (typeEl.children.filter (truthy ·.text)).mapM fun valEl =>
      match valEl.get "ord" with
      | none => .error .typeError
      | some ord => do return (← parseInt ord.toList, valEl.text.getD "")
    return ⟨typeEl.get "id", values⟩

/-- The names that `_get_data_conf` is called with. -/
structure DataQuery where
  valueName : Option String := none
  qualityName : Option String := none
  timestampName : Option String := none
  selectedName : Option String := none
  writable : Bool := false

/-- The variables of `_get_data_conf` that its loop changes. -/
structure DataState where
  fc : Option String
  names : List (Option Name)
  qualityRef : Option RefConf := none
  timestampRef : Option RefConf := none
  selectedRef : Option RefConf := none

/-- `da_el.get('fc') or fc` -/
def fcOf (el : Element) (fc : Option String) : Option String :=
  if truthy (el.get "fc") then el.get "fc" else fc

/-- A name as it stands in a reference. -/
def nameOf (name : Option String) : Option Name := name.map .str

/-- `da_name_el.get(name)`: the last of the nodes with the name. -/
def daNameEl (typeEl : Element) (name : Option String) : Option Element :=
  typeEl.children.reverse.find? fun el => el.get "name" = name

/-- `value_name` is missing, and the node is none of those that are read out without it. -/
def skipped (fc : Option String) (el : Element) : Bool :=
  fc ∉ [some "MX", some "ST", some "SP"] ∨ el.get "bType" ∈ [some "Quality", some "Timestamp"]

section
variable (rootEl : Element) (logicalDevice logicalNode : String) (datasets : List DatasetConf)

/-- The reference of a node that goes with a value, or the one there was. -/
def siblingRef (typeEl : Element) (st : DataState) (name : Option String) (bType : String)
    (ref : Option RefConf) : Option RefConf :=
  if truthy name ∧ ((daNameEl typeEl name).bind (Element.get "bType")) = some bType then
    some ⟨logicalDevice, logicalNode, st.fc, st.names ++ [nameOf name]⟩
  else ref

/-- The references that go with the value. -/
def DataState.withRefs (typeEl : Element) (query : DataQuery) (st : DataState) : DataState :=
  { st with
    qualityRef := siblingRef logicalDevice logicalNode typeEl st query.qualityName "Quality"
      st.qualityRef
    timestampRef := siblingRef logicalDevice logicalNode typeEl st query.timestampName "Timestamp"
      st.timestampRef
    selectedRef := siblingRef logicalDevice logicalNode typeEl st query.selectedName "BOOLEAN"
      st.selectedRef }

/-- The entry of a node. -/
def dataConf (query : DataQuery) (st : DataState) (el : Element) (valueType : ValueType)
    (enumerated : Option EnumeratedConf) : DataConf :=
  let valueRef : RefConf :=
    ⟨logicalDevice, logicalNode, st.fc, st.names ++ [nameOf (el.get "name")]⟩
  { value := valueRef
    valueType
    datasets := getValueDatasets datasets valueRef st.qualityRef st.timestampRef st.selectedRef
    writable := query.writable
    quality := st.qualityRef
    timestamp := st.timestampRef
    selected := st.selectedRef
    enumerated }

/-- What is written of an enumerated node besides. -/
def enumeratedOf (el : Element) : Except Exn (Option EnumeratedConf) :=
  if el.get "bType" = some "Enum" then do return some (← getEnumerated rootEl (el.get "type"))
  else .ok none

/-- The loop of `_get_data_conf`, with what a call for another template yields. -/
def dataConfLoop (fuel : ℕ) (query : DataQuery) (typeEl : Element)
    (recurse : Element → DataState → Generator Exn DataConf Unit) :
    List Element → DataState → Generator Exn DataConf Unit
  | [], _ => pure ()
  | el :: els, st => do
    let st := { st with fc := fcOf el st.fc }
    if ¬ truthy query.valueName ∧ skipped st.fc el then
      dataConfLoop fuel query typeEl recurse els st
    else
      match ← Generator.ofExcept (getValueType rootEl fuel el false) with
      | none => .raise (.exception "no value type")
      | some valueType =>
        let st := st.withRefs logicalDevice logicalNode typeEl query
        let enumerated ← Generator.ofExcept (enumeratedOf rootEl el)
        .yield (dataConf logicalDevice logicalNode datasets query st el valueType.erase enumerated)
        if ¬ truthy (el.get "type") ∨ el.get "bType" ≠ some "Struct" then
          return
        else
          match getNodeTypeEl rootEl el with
          | none => .raise (.exception "type undefined")
          | some typeEl' =>
            let st := { st with names := st.names ++ [nameOf (el.get "name")] }
            recurse typeEl' st
            dataConfLoop fuel query typeEl recurse els st

/-- `_get_data_conf` -/
def getDataConf : (fuel : ℕ) → DataQuery → Element → DataState → Generator Exn DataConf Unit
  | 0, _, _, _ => .raise .recursionError
  | fuel + 1, query, typeEl, st =>
    let recurse := getDataConf fuel { writable := query.writable }
    if truthy query.valueName then
      match daNameEl typeEl query.valueName with
      | none => pure ()
      | some el =>
        dataConfLoop rootEl logicalDevice logicalNode datasets fuel query typeEl recurse [el] st
    else
      dataConfLoop rootEl logicalDevice logicalNode datasets fuel query typeEl recurse
        typeEl.children st

end

end HatDrivers.Iec61850.Manager
