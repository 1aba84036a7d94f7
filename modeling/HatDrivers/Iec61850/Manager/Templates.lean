import HatDrivers.Iec61850.Common
import HatDrivers.Strings
import Mathlib.Data.Fintype.Card
import Mathlib.Data.Set.Finite.List
import Mathlib.Logic.Relation

namespace HatDrivers.Iec61850.Manager

open HatDrivers.Lib

/-!
# IEC 61850 — data type templates of a file

The elements of an SCL file, and the value types that the file readout makes of their data type
templates.  A template names the templates of its attributes, so that a call is nested as deep as
they are; `fuel` is how deep a call may be nested, after which `RecursionError` is raised.
-/

/-! ### Elements -/

/-- `xml.etree.ElementTree.Element`, without the namespace of its tag. -/
inductive Element
  | mk (tag : String) (attributes : List (String × String)) (text : Option String)
    (children : List Element)

namespace Element

def tag : Element → String
  | mk tag _ _ _ => tag

def text : Element → Option String
  | mk _ _ text _ => text

def children : Element → List Element
  | mk _ _ _ children => children

/-- `el.get(name)`. -/
def get (name : String) : Element → Option String
  | mk _ attributes _ _ => (attributes.find? fun entry => entry.1 = name).map (·.2)

/-- `el.findall('./tag')`. -/
def findAll (tag : String) (el : Element) : List Element := el.children.filter (·.tag = tag)

end Element

/-- The templates of a file. -/
def templates (rootEl : Element) : List Element :=
  (rootEl.findAll "DataTypeTemplates").flatMap Element.children

/-- `_get_node_type_el` -/
def getNodeTypeEl (rootEl nodeEl : Element) : Option Element :=
  match nodeEl.get "type" with
  | none | some "" => none
  | some nodeType =>
    let hasTag (el : Element) : Bool :=
      if nodeEl.tag = "DO" ∨ nodeEl.tag = "SDO" then el.tag = "DOType"
      else if nodeEl.tag = "DA" ∨ nodeEl.tag = "BDA" then el.tag = "DAType"
      -- any tag
      else true
    (templates rootEl).find? fun el => hasTag el ∧ el.get "id" = some nodeType

/-! ### Value types -/

/-- A value type as the readout writes it: a string, or a dictionary. -/
inductive ValueType
  | basic (type : BasicValueType)
  | acsi (type : AcsiValueType)
  | array (elementType : ValueType) (length : ℤ)
  | struct (elements : List (Option String × ValueType))

/-- `isinstance(value_type, str)`. -/
def ValueType.isStr : ValueType → Bool
  | basic _ | acsi _ => true
  | array _ _ | struct _ => false

/-- A value type with the functional constraints of its attributes. -/
inductive FcValueType
  /-- of one of the basic types -/
  | type (type : ValueType) (fc : Option String)
  | array (elementType : FcValueType) (length : ℤ) (fc : Option String)
  | struct (elements : List (Option String × FcValueType)) (fc : Option String)

def FcValueType.fc : FcValueType → Option String
  | type _ fc | array _ _ fc | struct _ fc => fc

/-- The structure of `PhyComAddr`. -/
def phyComAddr : ValueType :=
  .struct [(some "Addr", .basic .OCTET_STRING), (some "PRIORITY", .basic .UNSIGNED),
    (some "VID", .basic .UNSIGNED), (some "APPID", .basic .UNSIGNED)]

/-- `_get_basic_value_type` -/
def getBasicValueType (node : Element) : Option ValueType :=
  match node.get "bType", node.get "type" with
  | some "BOOLEAN", _ => some (.basic .BOOLEAN)
  | some "INT8", _ | some "INT16", _ | some "INT24", _ | some "INT32", _ | some "INT64", _
  | some "INT128", _ => some (.basic .INTEGER)
  | some "INT8U", _ | some "INT16U", _ | some "INT24U", _ | some "INT32U", _ =>
    some (.basic .UNSIGNED)
  | some "FLOAT32", _ | some "FLOAT64", _ => some (.basic .FLOAT)
  | some "Enum", some "sev" => some (.acsi .SEVERITY)
  | some "Enum", some "dir" => some (.acsi .DIRECTION)
  | some "Enum", _ => some (.basic .INTEGER)
  | some "Dbpos", _ => some (.acsi .DOUBLE_POINT)
  | some "Tcmd", _ => some (.acsi .BINARY_CONTROL)
  | some "Quality", _ => some (.acsi .QUALITY)
  | some "Timestamp", _ => some (.acsi .TIMESTAMP)
  | some "VisString32", _ | some "VisString64", _ | some "VisString65", _
  | some "VisString129", _ | some "VisString255", _ => some (.basic .VISIBLE_STRING)
  | some "Octet64", _ => some (.basic .OCTET_STRING)
  | some "Unicode255", _ => some (.basic .MMS_STRING)
  | some "Struct", some "AnalogueValue" => some (.acsi .ANALOGUE)
  | some "Struct", some "Vector" => some (.acsi .VECTOR)
  | some "Struct", some "ValWithTrans" => some (.acsi .STEP_POSITION)
  | some "Check", _ => some (.basic .INTEGER)
  | some "OptFlds", _ => some (.basic .BIT_STRING)
  | some "ObjRef", _ => some (.basic .VISIBLE_STRING)
  | some "PhyComAddr", _ => some phyComAddr
  | _, _ => none

/-- `int(node_el.get('count', '0'))`. -/
def getCount (nodeEl : Element) : Except Exn ℤ := parseInt ((nodeEl.get "count").getD "0").toList

/-- `_get_value_type` with `with_fc=True`. -/
def getValueType (rootEl : Element) :
    (fuel : ℕ) → (nodeEl : Element) → (isArrayElement : Bool) → Except Exn (Option FcValueType)
  | 0, _, _ => .error .recursionError
  | fuel + 1, nodeEl, isArrayElement =>
    if nodeEl.tag = "ProtNs" then .ok none
    else
      let fc := nodeEl.get "fc"
      match getBasicValueType nodeEl with
      | some valueType => .ok (some (.type valueType fc))
      | none => do
        let arrayLength ← getCount nodeEl
        if arrayLength ≠ 0 ∧ ¬ isArrayElement then
          let elementType ← getValueType rootEl fuel nodeEl true
          return elementType.map fun elementType => .array elementType arrayLength fc
        else
          match getNodeTypeEl rootEl nodeEl with
          | none => return none
          | some nodeTypeEl =>
            let elements ← nodeTypeEl.children.mapM fun daEl => do
              let elType ← getValueType rootEl fuel daEl false
              return elType.map fun elType => (daEl.get "name", elType)
            return some (.struct (elements.filterMap id) fc)

mutual

/-- `_get_value_type` without `with_fc`, of the value type with it. -/
def FcValueType.erase : FcValueType → ValueType
  | type t _ => t
  | array elementType length _ => .array elementType.erase length
  | struct elements _ => .struct (FcValueType.eraseAll elements)

def FcValueType.eraseAll : List (Option String × FcValueType) → List (Option String × ValueType)
  | [] => []
  | (name, elementType) :: elements => (name, elementType.erase) :: FcValueType.eraseAll elements

end

mutual

/-- `_get_all_fcs` -/
def getAllFcs : FcValueType → List String
  | .type _ fc => fc.toList
  | .array elementType _ fc => fc.toList ++ getAllFcs elementType
  | .struct elements fc => fc.toList ++ getAllFcsOfElements elements

def getAllFcsOfElements : List (Option String × FcValueType) → List String
  | [] => []
  | (_, elementType) :: elements => getAllFcs elementType ++ getAllFcsOfElements elements

end

mutual

/-- `_get_value_type_for_fc` -/
def getValueTypeForFc (fc : String) : FcValueType → Option ValueType
  | .type t ownFc =>
    if ownFc.any (· ≠ fc) then none else if t.isStr then some t else none
  | .array elementType length ownFc =>
    if ownFc.any (· ≠ fc) then none
    else (getValueTypeForFc fc elementType).map fun elementType => .array elementType length
  | .struct elements ownFc =>
    if ownFc.any (· ≠ fc) then none
    else
      match getElementsForFc fc elements with
      | [] => none
      | elements => some (.struct elements)

def getElementsForFc (fc : String) :
    List (Option String × FcValueType) → List (Option String × ValueType)
  | [] => []
  | (name, elementType) :: elements =>
    match getValueTypeForFc fc elementType with
    | some elementType => (name, elementType) :: getElementsForFc fc elements
    | none => getElementsForFc fc elements

end

/-- A round of the loop of `_get_value_types`: the constraints of an object, in any order, with
their value types.  An object whose handling raises is ignored. -/
def objectValueTypes (rootEl : Element) (fuel : ℕ) (doEl : Element) : List (String × ValueType) :=
  match getValueType rootEl fuel doEl false with
  | .ok (some valueTypeFc) =>
    (getAllFcs valueTypeFc).dedup.filterMap fun fc =>
      (getValueTypeForFc fc valueTypeFc).map fun valueType => (fc, valueType)
  | _ => []

/-- An entry of `value_types`. -/
structure ValueTypeConf where
  logicalDevice : String
  logicalNode : String
  fc : String
  name : Option String
  type : ValueType

/-- `_get_value_types` -/
def getValueTypes (rootEl : Element) (fuel : ℕ) (lnTypeEl : Element)
    (logicalDevice logicalNode : String) : List ValueTypeConf :=
  lnTypeEl.children.flatMap fun doEl =>
    (objectValueTypes rootEl fuel doEl).map fun found =>
      ⟨logicalDevice, logicalNode, found.1, doEl.get "name", found.2⟩

/-! ### Templates without cycles -/

section
variable {rootEl : Element}

/-- A node of the template names the other one. -/
def Uses (rootEl typeEl typeEl' : Element) : Prop :=
  ∃ nodeEl ∈ typeEl.children, getNodeTypeEl rootEl nodeEl = some typeEl'

/-- No template is made of itself. -/
def Acyclic (rootEl : Element) : Prop :=
  ∀ typeEl ∈ templates rootEl, ¬ Relation.TransGen (Uses rootEl) typeEl typeEl

theorem mem_templates_of_getNodeTypeEl {nodeEl typeEl : Element}
    (h : getNodeTypeEl rootEl nodeEl = some typeEl) : typeEl ∈ templates rootEl := by
  unfold getNodeTypeEl at h
  split at h
  · cases h
  · cases h
  · exact List.mem_of_find?_eq_some h

/-- What holds of a template when it holds of those it uses holds of all of them. -/
theorem Acyclic.induction (h : Acyclic rootEl) {P : Element → Prop}
    (step : ∀ typeEl ∈ templates rootEl, (∀ typeEl', Uses rootEl typeEl typeEl' → P typeEl') →
      P typeEl) : ∀ typeEl ∈ templates rootEl, P typeEl := by
  have hfinite : Finite {typeEl // typeEl ∈ templates rootEl} :=
    (templates rootEl).finite_toSet.to_subtype
  let under (a b : {typeEl // typeEl ∈ templates rootEl}) : Prop :=
    Relation.TransGen (Uses rootEl) b.1 a.1
  have : IsTrans _ under := ⟨fun _ _ _ hab hbc => hbc.trans hab⟩
  have : Std.Irrefl under := ⟨fun a => h a.1 a.2⟩
  have hwf : WellFounded under := Finite.wellFounded_of_trans_of_irrefl under
  intro typeEl hmem
  refine hwf.induction (C := fun a => P a.1) ⟨typeEl, hmem⟩ fun a ih => ?_
  refine step a.1 a.2 fun typeEl' huses => ?_
  obtain ⟨nodeEl, -, htype⟩ := id huses
  exact ih ⟨typeEl', mem_templates_of_getNodeTypeEl htype⟩ (Relation.TransGen.single huses)

/-- A bound for each element of a list is a bound for all of them. -/
theorem exists_bound {P : ℕ → Element → Prop} (hmono : ∀ {n m el}, n ≤ m → P n el → P m el)
    {els : List Element} (h : ∀ el ∈ els, ∃ n, P n el) : ∃ n, ∀ el ∈ els, P n el := by
  induction els with
  | nil => exact ⟨0, nofun⟩
  | cons el els ih =>
    obtain ⟨⟨n, hel⟩, hrest⟩ := List.forall_mem_cons.mp h
    obtain ⟨m, hels⟩ := ih hrest
    refine ⟨max n m, List.forall_mem_cons.mpr ⟨hmono (le_max_left _ _) hel, fun el' hel' => ?_⟩⟩
    exact hmono (le_max_right _ _) (hels el' hel')

/-- There is a bound for each node if there is one wherever there is one for the nodes of its
template. -/
theorem Acyclic.exists_bound (h : Acyclic rootEl) {P : ℕ → Element → Prop} {Q : Element → Prop}
    (hmono : ∀ {n m el}, n ≤ m → P n el → P m el)
    (hstep : ∀ el, Q el → (∀ typeEl, getNodeTypeEl rootEl el = some typeEl →
      ∃ n, ∀ el' ∈ typeEl.children, P n el') → ∃ n, P n el)
    (hnodes : ∀ typeEl ∈ templates rootEl, ∀ el ∈ typeEl.children, Q el) :
    ∀ el, Q el → ∃ n, P n el := by
  have htemplates := h.induction (P := fun typeEl => ∃ n, ∀ el ∈ typeEl.children, P n el)
    fun typeEl hmem ih => Manager.exists_bound (P := P) hmono fun el hel =>
      hstep el (hnodes typeEl hmem el hel) fun typeEl' htype => ih typeEl' ⟨el, hel, htype⟩
  exact fun el hel => hstep el hel fun typeEl htype =>
    htemplates typeEl (mem_templates_of_getNodeTypeEl htype)

end

end HatDrivers.Iec61850.Manager
