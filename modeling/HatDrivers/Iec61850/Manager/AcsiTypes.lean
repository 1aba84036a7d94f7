import HatDrivers.Iec61850.Common
import HatDrivers.Mms.Common

namespace HatDrivers.Iec61850.Manager

/-!
# IEC 61850 — ACSI types of a device

The device readout is given value types as MMS describes them, where an analogue value is a struct
and a quality a bit string, and recognises the ACSI types in them by the names of struct elements.
-/

/-! ### Equality of value types -/

mutual

def ValueType.beq : ValueType → ValueType → Bool
  | .basic a, .basic b => a = b
  | .acsi a, .acsi b => a = b
  | .ArrayValueType a m, .ArrayValueType b n => ValueType.beq a b && m = n
  | .StructValueType as, .StructValueType bs => ValueType.beqElements as bs
  | _, _ => false

def ValueType.beqElements : List (String × ValueType) → List (String × ValueType) → Bool
  | [], [] => true
  | (x, a) :: as, (y, b) :: bs => x = y && ValueType.beq a b && ValueType.beqElements as bs
  | _, _ => false

end

mutual

theorem ValueType.beq_iff (a b : ValueType) : ValueType.beq a b = true ↔ a = b := by
  match a, b with
  | .basic a, .basic b => simp [ValueType.beq]
  | .acsi a, .acsi b => simp [ValueType.beq]
  | .ArrayValueType a m, .ArrayValueType b n => simp [ValueType.beq, ValueType.beq_iff a b]
  | .StructValueType as, .StructValueType bs =>
    simp [ValueType.beq, ValueType.beqElements_iff as bs]
  | .basic _, .acsi _ | .basic _, .ArrayValueType .. | .basic _, .StructValueType _
  | .acsi _, .basic _ | .acsi _, .ArrayValueType .. | .acsi _, .StructValueType _
  | .ArrayValueType .., .basic _ | .ArrayValueType .., .acsi _
  | .ArrayValueType .., .StructValueType _ | .StructValueType _, .basic _
  | .StructValueType _, .acsi _ | .StructValueType _, .ArrayValueType .. => simp [ValueType.beq]

theorem ValueType.beqElements_iff (as bs : List (String × ValueType)) :
    ValueType.beqElements as bs = true ↔ as = bs := by
  match as, bs with
  | [], [] => simp [ValueType.beqElements]
  | [], _ :: _ | _ :: _, [] => simp [ValueType.beqElements]
  | (x, a) :: as, (y, b) :: bs =>
    simp [ValueType.beqElements, ValueType.beq_iff a b, ValueType.beqElements_iff as bs]

end

instance : DecidableEq ValueType := fun a b => decidable_of_iff _ (ValueType.beq_iff a b)

/-! ### The code -/

mutual

/-- `_value_type_from_type_description` -/
def valueTypeFromTypeDescription : Mms.TypeDescription → Option ValueType
  | .ArrayTypeDescription numberOfElements elementType => do
    let elementType ← valueTypeFromTypeOrName elementType
    return .ArrayValueType elementType numberOfElements.toNat
  | .BcdTypeDescription _ => none
  | .BinaryTimeTypeDescription _ => none
  | .BitStringTypeDescription _ => some (.basic .BIT_STRING)
  | .BooleanTypeDescription => some (.basic .BOOLEAN)
  | .FloatingPointTypeDescription .. => some (.basic .FLOAT)
  | .GeneralizedTimeTypeDescription => none
  | .IntegerTypeDescription _ => some (.basic .INTEGER)
  | .MmsStringTypeDescription _ => some (.basic .MMS_STRING)
  | .ObjIdTypeDescription => none
  | .OctetStringTypeDescription _ => some (.basic .OCTET_STRING)
  | .StructureTypeDescription components => do
    return .StructValueType (← elementsFromComponents components)
  | .UnsignedTypeDescription _ => some (.basic .UNSIGNED)
  | .UtcTimeTypeDescription => some (.acsi .TIMESTAMP)
  | .VisibleStringTypeDescription _ => some (.basic .VISIBLE_STRING)

/-- The type of an element; the code gives up where it is only named. -/
def valueTypeFromTypeOrName : Mms.TypeOrName → Option ValueType
  | .type typeDescription => valueTypeFromTypeDescription typeDescription
  | .name _ => none

/-- The loop over the components of a structure. -/
def elementsFromComponents :
    List (Option String × Mms.TypeOrName) → Option (List (String × ValueType))
  | [] => some []
  | (name, type) :: components => do
    let name ← name
    let type ← valueTypeFromTypeOrName type
    return (name, type) :: (← elementsFromComponents components)

end

/-- `_update_struct_element_type` -/
def updateStructElementType (name : String) (valueType : ValueType) : ValueType :=
  match valueType with
  | .basic .BIT_STRING =>
    if name ∈ ["q", "subQ"] then .acsi .QUALITY
    else if name ∈ ["stVal", "subVal"] then .acsi .DOUBLE_POINT
    else if name = "ctlVal" then .acsi .BINARY_CONTROL
    else valueType
  | .basic .INTEGER =>
    if name ∈ ["dirGeneral", "dirPhsA", "dirPhsB", "dirPhsC", "dirNeut"] then .acsi .DIRECTION
    else if name = "sev" then .acsi .SEVERITY
    else valueType
  | .StructValueType elements =>
    if name ∈ ["instMag", "mag", "subMag", "min", "max", "mxVal", "subVal", "minVal", "maxVal",
          "stepSize", "ctlVal", "setMag"] ∧
        (1 ≤ elements.length ∧ elements.length ≤ 2) ∧
        (elements = [("i", .basic .INTEGER)] ∨ elements = [("f", .basic .FLOAT)] ∨
          elements = [("i", .basic .INTEGER), ("f", .basic .FLOAT)]) then
      .acsi .ANALOGUE
    else if name ∈ ["instCVal", "cVal", "subCVal"] ∧
        (1 ≤ elements.length ∧ elements.length ≤ 2) ∧
        (elements = [("mag", .acsi .ANALOGUE)] ∨
          elements = [("mag", .acsi .ANALOGUE), ("ang", .acsi .ANALOGUE)]) then
      .acsi .VECTOR
    else if name ∈ ["valWTr", "subVal"] ∧
        (1 ≤ elements.length ∧ elements.length ≤ 2) ∧
        (elements = [("posVal", .basic .INTEGER)] ∨
          elements = [("posVal", .basic .INTEGER), ("transInd", .basic .BOOLEAN)]) then
      .acsi .STEP_POSITION
    else valueType
  | _ => valueType

mutual

/-- `_update_value_type` -/
def updateValueType : ValueType → ValueType
  | .ArrayValueType type length => .ArrayValueType (updateValueType type) length
  | .StructValueType elements => .StructValueType (updateElements elements)
  | valueType => valueType

def updateElements : List (String × ValueType) → List (String × ValueType)
  | [] => []
  | (name, type) :: elements =>
    (name, updateStructElementType name (updateValueType type)) :: updateElements elements

end

/-! ### What is to be recognised -/

def analogueNames : List String :=
  ["instMag", "mag", "subMag", "min", "max", "mxVal", "subVal", "minVal", "maxVal", "stepSize",
   "ctlVal", "setMag"]

def vectorNames : List String := ["instCVal", "cVal", "subCVal"]

def stepPositionNames : List String := ["valWTr", "subVal"]

/-- Structs of an integer, of a float, and of both. -/
def analogues : List ValueType :=
  [.StructValueType [("i", .basic .INTEGER)], .StructValueType [("f", .basic .FLOAT)],
   .StructValueType [("i", .basic .INTEGER), ("f", .basic .FLOAT)]]

/-- Structs of a magnitude, and of a magnitude and an angle. -/
def vectors : List ValueType :=
  analogues.map (fun mag => .StructValueType [("mag", mag)]) ++
    analogues.flatMap fun mag => analogues.map fun ang => .StructValueType [("mag", mag), ("ang", ang)]

def stepPositions : List ValueType :=
  [.StructValueType [("posVal", .basic .INTEGER)],
   .StructValueType [("posVal", .basic .INTEGER), ("transInd", .basic .BOOLEAN)]]

/-- The bit strings and integers that stand for an ACSI type under some name. -/
def basicAcsiTypes : List ((String × BasicValueType) × AcsiValueType) :=
  [(("q", .BIT_STRING), .QUALITY), (("subQ", .BIT_STRING), .QUALITY),
   (("stVal", .BIT_STRING), .DOUBLE_POINT), (("subVal", .BIT_STRING), .DOUBLE_POINT),
   (("ctlVal", .BIT_STRING), .BINARY_CONTROL),
   (("dirGeneral", .INTEGER), .DIRECTION), (("dirPhsA", .INTEGER), .DIRECTION),
   (("dirPhsB", .INTEGER), .DIRECTION), (("dirPhsC", .INTEGER), .DIRECTION),
   (("dirNeut", .INTEGER), .DIRECTION), (("sev", .INTEGER), .SEVERITY)]

/-- The ACSI type of a struct element, by its name and its type in terms of MMS. -/
def acsiTypeOf (name : String) (type : ValueType) : Option AcsiValueType :=
  match type with
  | .basic type => basicAcsiTypes.lookup (name, type)
  | type =>
    if name ∈ analogueNames ∧ type ∈ analogues then some .ANALOGUE
    else if name ∈ vectorNames ∧ type ∈ vectors then some .VECTOR
    else if name ∈ stepPositionNames ∧ type ∈ stepPositions then some .STEP_POSITION
    else none

mutual

/-- A value type with the ACSI type of every struct element that has one. -/
def recognised : ValueType → ValueType
  | .ArrayValueType type length => .ArrayValueType (recognised type) length
  | .StructValueType elements => .StructValueType (recognisedElements elements)
  | valueType => valueType

def recognisedElements : List (String × ValueType) → List (String × ValueType)
  | [] => []
  | (name, type) :: elements =>
    (name, ((acsiTypeOf name type).map .acsi).getD (recognised type)) :: recognisedElements elements

end

mutual

/-- The struct elements of a value type, at every depth. -/
def structElements : ValueType → List (String × ValueType)
  | .ArrayValueType type _ => structElements type
  | .StructValueType elements => structElementsOf elements
  | _ => []

def structElementsOf : List (String × ValueType) → List (String × ValueType)
  | [] => []
  | (name, type) :: elements => (name, type) :: (structElements type ++ structElementsOf elements)

end

mutual

/-- Value types in terms of MMS, which has times, but no other type of ACSI. -/
def Raw : ValueType → Prop
  | .basic _ => True
  | .acsi type => type = .TIMESTAMP
  | .ArrayValueType type _ => Raw type
  | .StructValueType elements => RawElements elements

def RawElements : List (String × ValueType) → Prop
  | [] => True
  | (_, type) :: elements => Raw type ∧ RawElements elements

end

/-- An element that is a vector with an angle. -/
def HasAngle (element : String × ValueType) : Prop :=
  element.1 ∈ vectorNames ∧ ∃ mag ∈ analogues, ∃ ang ∈ analogues,
    element.2 = .StructValueType [("mag", mag), ("ang", ang)]

instance (element : String × ValueType) : Decidable (HasAngle element) :=
  inferInstanceAs (Decidable (_ ∧ _))

mutual

/-- What a device describes is in terms of MMS. -/
theorem raw_valueTypeFromTypeDescription (description : Mms.TypeDescription) {type : ValueType}
    (h : valueTypeFromTypeDescription description = some type) : Raw type := by
  match description with
  | .ArrayTypeDescription numberOfElements elementType =>
    simp only [valueTypeFromTypeDescription, Option.bind_eq_bind, Option.bind_eq_some_iff,
      Option.pure_def, Option.some.injEq] at h
    obtain ⟨elementType', helement, rfl⟩ := h
    show Raw elementType'
    exact raw_valueTypeFromTypeOrName elementType helement
  | .StructureTypeDescription components =>
    simp only [valueTypeFromTypeDescription, Option.bind_eq_bind, Option.bind_eq_some_iff,
      Option.pure_def, Option.some.injEq] at h
    obtain ⟨elements, helements, rfl⟩ := h
    show RawElements elements
    exact raw_elementsFromComponents components helements
  | .UtcTimeTypeDescription =>
    obtain rfl := Option.some.inj h
    rfl
  | .BitStringTypeDescription _ | .BooleanTypeDescription | .FloatingPointTypeDescription ..
  | .IntegerTypeDescription _ | .MmsStringTypeDescription _ | .OctetStringTypeDescription _
  | .UnsignedTypeDescription _ | .VisibleStringTypeDescription _ =>
    obtain rfl := Option.some.inj h
    trivial
  | .BcdTypeDescription _ | .BinaryTimeTypeDescription _ | .GeneralizedTimeTypeDescription
  | .ObjIdTypeDescription => exact absurd h (Option.some_ne_none type).symm

theorem raw_valueTypeFromTypeOrName (type : Mms.TypeOrName) {valueType : ValueType}
    (h : valueTypeFromTypeOrName type = some valueType) : Raw valueType := by
  match type with
  | .type description => exact raw_valueTypeFromTypeDescription description h
  | .name _ => exact absurd h (Option.some_ne_none valueType).symm

theorem raw_elementsFromComponents (components : List (Option String × Mms.TypeOrName))
    {elements : List (String × ValueType)} (h : elementsFromComponents components = some elements) :
    RawElements elements := by
  match components with
  | [] =>
    obtain rfl := Option.some.inj h
    trivial
  | (name, type) :: components =>
    simp only [elementsFromComponents, Option.bind_eq_bind, Option.bind_eq_some_iff,
      Option.pure_def, Option.some.injEq] at h
    obtain ⟨name', -, type', htype, elements', helements, rfl⟩ := h
    exact ⟨raw_valueTypeFromTypeOrName type htype, raw_elementsFromComponents components helements⟩

end

/-! ### One element -/

/-- The type of an element after an application. -/
def updateElement (name : String) (type : ValueType) : ValueType :=
  updateStructElementType name (updateValueType type)

/-- What an element is changed to is not a type in terms of MMS. -/
theorem updateStructElementType_cases (name : String) (type : ValueType) :
    updateStructElementType name type = type ∨
      ∃ acsi, updateStructElementType name type = .acsi acsi := by
  unfold updateStructElementType
  split <;> repeat' split
  all_goals simp

/-- Basic types stay what they are or become ACSI types. -/
theorem updateElement_eq_basic {name : String} {type : ValueType} {basic : BasicValueType}
    (h : updateElement name type = .basic basic) : type = .basic basic := by
  unfold updateElement at h
  rcases updateStructElementType_cases name (updateValueType type) with hsame | ⟨acsi, hacsi⟩
  · rw [hsame] at h
    match type with
    | .basic _ => exact h
    | .acsi _ | .ArrayValueType .. | .StructValueType _ =>
      simp only [updateValueType, reduceCtorEq] at h
  · rw [hacsi] at h
    exact absurd h (by simp)

theorem updateElements_nil : updateElements [] = [] := rfl

theorem updateElements_cons (name : String) (type : ValueType)
    (elements : List (String × ValueType)) :
    updateElements ((name, type) :: elements) =
      (name, updateElement name type) :: updateElements elements := rfl

/-- Elements of basic types that have no ACSI type come only from themselves. -/
theorem updateElements_eq_iff (basics : List (String × BasicValueType))
    (hbasics : ∀ e ∈ basics, updateElement e.1 (.basic e.2) = .basic e.2)
    (elements : List (String × ValueType)) :
    updateElements elements = basics.map (fun e => (e.1, .basic e.2)) ↔
      elements = basics.map fun e => (e.1, .basic e.2) := by
  induction basics generalizing elements with
  | nil =>
    match elements with
    | [] => exact Iff.rfl
    | (name, type) :: elements => simp [updateElements]
  | cons e basics ih =>
    obtain ⟨he, hrest⟩ := List.forall_mem_cons.mp hbasics
    match elements with
    | [] => simp [updateElements]
    | (name, type) :: elements =>
      rw [updateElements_cons, List.map_cons, List.cons.injEq, List.cons.injEq, Prod.mk.injEq,
        Prod.mk.injEq, ih hrest elements]
      refine and_congr_left fun _ => and_congr_right fun hname => ?_
      constructor
      · exact updateElement_eq_basic
      · rintro rfl
        rw [hname]
        exact he

theorem updateElements_mem_analogues_iff (elements : List (String × ValueType)) :
    ((1 ≤ (updateElements elements).length ∧ (updateElements elements).length ≤ 2) ∧
      (updateElements elements = [("i", .basic .INTEGER)] ∨
        updateElements elements = [("f", .basic .FLOAT)] ∨
        updateElements elements = [("i", .basic .INTEGER), ("f", .basic .FLOAT)])) ↔
      .StructValueType elements ∈ analogues := by
  have hi := updateElements_eq_iff [("i", .INTEGER)] (by decide) elements
  have hf := updateElements_eq_iff [("f", .FLOAT)] (by decide) elements
  have hboth := updateElements_eq_iff [("i", .INTEGER), ("f", .FLOAT)] (by decide) elements
  simp only [List.map_cons, List.map_nil] at hi hf hboth
  have hmem : .StructValueType elements ∈ analogues ↔
      elements = [("i", .basic .INTEGER)] ∨ elements = [("f", .basic .FLOAT)] ∨
        elements = [("i", .basic .INTEGER), ("f", .basic .FLOAT)] := by
    simp [analogues]
  rw [hmem, ← hi, ← hf, ← hboth]
  refine ⟨And.right, fun h => ⟨?_, h⟩⟩
  rcases h with h | h | h <;> simp [h]

theorem updateElements_mem_stepPositions_iff (elements : List (String × ValueType)) :
    ((1 ≤ (updateElements elements).length ∧ (updateElements elements).length ≤ 2) ∧
      (updateElements elements = [("posVal", .basic .INTEGER)] ∨
        updateElements elements = [("posVal", .basic .INTEGER), ("transInd", .basic .BOOLEAN)])) ↔
      .StructValueType elements ∈ stepPositions := by
  have hpos := updateElements_eq_iff [("posVal", .INTEGER)] (by decide) elements
  have hboth := updateElements_eq_iff [("posVal", .INTEGER), ("transInd", .BOOLEAN)] (by decide)
    elements
  simp only [List.map_cons, List.map_nil] at hpos hboth
  have hmem : .StructValueType elements ∈ stepPositions ↔
      elements = [("posVal", .basic .INTEGER)] ∨
        elements = [("posVal", .basic .INTEGER), ("transInd", .basic .BOOLEAN)] := by
    simp [stepPositions]
  rw [hmem, ← hpos, ← hboth]
  refine ⟨And.right, fun h => ⟨?_, h⟩⟩
  rcases h with h | h <;> simp [h]

/-- An element becomes an analogue value just when it is one under one of the names of analogue
values. -/
theorem updateElement_eq_analogue_iff (name : String) {type : ValueType} (hraw : Raw type) :
    updateElement name type = .acsi .ANALOGUE ↔ name ∈ analogueNames ∧ type ∈ analogues := by
  match type with
  | .basic type =>
    refine iff_of_false ?_ (by simp [analogues])
    unfold updateElement updateValueType updateStructElementType
    repeat' split
    all_goals simp_all
  | .acsi type =>
    obtain rfl : type = .TIMESTAMP := hraw
    exact iff_of_false (by simp [updateElement, updateValueType, updateStructElementType])
      (by simp [analogues])
  | .ArrayValueType type length =>
    exact iff_of_false (by simp [updateElement, updateValueType, updateStructElementType])
      (by simp [analogues])
  | .StructValueType elements =>
    simp only [updateElement, updateValueType, updateStructElementType,
      updateElements_mem_analogues_iff]
    by_cases h : name ∈ analogueNames ∧ .StructValueType elements ∈ analogues
    · exact iff_of_true (if_pos h) h
    · refine iff_of_false (fun heq => ?_) h
      split at heq
      · next h' => exact h h'
      · repeat' split at heq
        all_goals simp at heq

/-- An element that is an analogue value stays a struct under the name of an angle, so that of the
vectors only those without one are found. -/
theorem updateElements_mem_vectors_iff {elements : List (String × ValueType)}
    (hraw : RawElements elements) :
    ((1 ≤ (updateElements elements).length ∧ (updateElements elements).length ≤ 2) ∧
      (updateElements elements = [("mag", .acsi .ANALOGUE)] ∨
        updateElements elements = [("mag", .acsi .ANALOGUE), ("ang", .acsi .ANALOGUE)])) ↔
      ∃ mag ∈ analogues, elements = [("mag", mag)] := by
  match elements with
  | [] => simp [updateElements]
  | [(name, type)] =>
    simp only [updateElements_cons, updateElements_nil, List.length_cons, List.length_nil,
      List.cons.injEq, Prod.mk.injEq, updateElement_eq_analogue_iff name hraw.1]
    constructor
    · rintro ⟨-, ⟨⟨rfl, -, htype⟩, -⟩ | ⟨-, h⟩⟩
      · exact ⟨type, htype, ⟨rfl, rfl⟩, trivial⟩
      · exact absurd h (by simp)
    · rintro ⟨mag, hmag, ⟨rfl, rfl⟩, -⟩
      exact ⟨by omega, .inl ⟨⟨rfl, by decide, hmag⟩, trivial⟩⟩
  | [(name, type), (name', type')] =>
    refine iff_of_false ?_ (by simp)
    rintro ⟨-, h | h⟩
    · exact absurd h (by simp [updateElements])
    · simp only [updateElements_cons, updateElements_nil, List.cons.injEq, Prod.mk.injEq,
        updateElement_eq_analogue_iff name' hraw.2.1] at h
      obtain ⟨-, ⟨rfl, hname, -⟩, -⟩ := h
      exact absurd hname (by decide)
  | _ :: _ :: _ :: _ =>
    refine iff_of_false ?_ (by simp)
    rintro ⟨⟨-, hle⟩, -⟩
    simp only [updateElements, List.length_cons] at hle
    omega

/-- What becomes of an element that is a struct. -/
theorem updateElement_struct (name : String) {elements : List (String × ValueType)}
    (hraw : RawElements elements) :
    updateElement name (.StructValueType elements) =
      if name ∈ analogueNames ∧ .StructValueType elements ∈ analogues then .acsi .ANALOGUE
      else if name ∈ vectorNames ∧ ∃ mag ∈ analogues, elements = [("mag", mag)] then .acsi .VECTOR
      else if name ∈ stepPositionNames ∧ .StructValueType elements ∈ stepPositions then
        .acsi .STEP_POSITION
      else .StructValueType (updateElements elements) := by
  simp only [updateElement, updateValueType, updateStructElementType,
    updateElements_mem_analogues_iff, updateElements_mem_stepPositions_iff,
    updateElements_mem_vectors_iff hraw]
  rfl

/-! ### All elements -/

/-- The type of an element with the ACSI types in it. -/
def recognisedElement (name : String) (type : ValueType) : ValueType :=
  ((acsiTypeOf name type).map .acsi).getD (recognised type)

theorem structElementsOf_cons (name : String) (type : ValueType)
    (elements : List (String × ValueType)) :
    structElementsOf ((name, type) :: elements) =
      (name, type) :: (structElements type ++ structElementsOf elements) := rfl

/-- Nothing that is recognised has a vector with an angle in it. -/
theorem not_hasAngle_of_mem {type : ValueType}
    (htype : type ∈ analogues ++ vectors ++ stepPositions) :
    ∀ e ∈ structElements type, ¬ HasAngle e := by
  have hnames : ∀ type ∈ analogues ++ vectors ++ stepPositions, ∀ e ∈ structElements type,
      e.1 ∉ vectorNames := by decide
  exact fun e he hangle => hnames type htype e he hangle.1

/-- The names of bit strings and integers. -/
theorem updateElement_basic (name : String) (type : BasicValueType) :
    updateElement name (.basic type) = recognisedElement name (.basic type) := by
  by_cases hlookup : (name, type) ∈ basicAcsiTypes.map Prod.fst
  · have hall : ∀ e ∈ basicAcsiTypes.map Prod.fst,
        updateElement e.1 (.basic e.2) = recognisedElement e.1 (.basic e.2) := by decide
    exact hall _ hlookup
  · have hnone : basicAcsiTypes.lookup (name, type) = none := by
      rw [List.lookup_eq_none_iff]
      intro e he
      simpa using fun h => hlookup (List.mem_map.mpr ⟨e, he, h.symm⟩)
    rw [recognisedElement, acsiTypeOf, hnone]
    simp only [basicAcsiTypes, List.map_cons, List.map_nil, List.mem_cons, Prod.mk.injEq,
      List.not_mem_nil, or_false, not_or, not_and] at hlookup
    cases type with
    | BIT_STRING =>
      simp_all [updateElement, updateValueType, updateStructElementType, recognised]
    | INTEGER =>
      simp_all [updateElement, updateValueType, updateStructElementType, recognised]
    | BOOLEAN | UNSIGNED | FLOAT | OCTET_STRING | VISIBLE_STRING | MMS_STRING => rfl

theorem mem_vectors_iff {elements : List (String × ValueType)} :
    .StructValueType elements ∈ vectors ↔
      (∃ mag ∈ analogues, elements = [("mag", mag)]) ∨
        ∃ mag ∈ analogues, ∃ ang ∈ analogues, elements = [("mag", mag), ("ang", ang)] := by
  rw [vectors, List.mem_append, List.mem_map, List.mem_flatMap]
  simp only [List.mem_map, ValueType.StructValueType.injEq]
  constructor
  · rintro (⟨mag, hmag, rfl⟩ | ⟨mag, hmag, ang, hang, rfl⟩)
    · exact .inl ⟨mag, hmag, rfl⟩
    · exact .inr ⟨mag, hmag, ang, hang, rfl⟩
  · rintro (⟨mag, hmag, rfl⟩ | ⟨mag, hmag, ang, hang, rfl⟩)
    · exact .inl ⟨mag, hmag, rfl⟩
    · exact .inr ⟨mag, hmag, ang, hang, rfl⟩

theorem recognisedElement_struct (name : String) (elements : List (String × ValueType)) :
    recognisedElement name (.StructValueType elements) =
      if name ∈ analogueNames ∧ .StructValueType elements ∈ analogues then .acsi .ANALOGUE
      else if name ∈ vectorNames ∧ .StructValueType elements ∈ vectors then .acsi .VECTOR
      else if name ∈ stepPositionNames ∧ .StructValueType elements ∈ stepPositions then
        .acsi .STEP_POSITION
      else .StructValueType (recognisedElements elements) := by
  simp only [recognisedElement, acsiTypeOf]
  repeat' split
  all_goals rfl

/-- A struct element is treated as it should be unless it is a vector with an angle, when its own
elements are. -/
theorem updateElement_struct_eq_iff (name : String) {elements : List (String × ValueType)}
    (hraw : RawElements elements)
    (helements : updateElements elements = recognisedElements elements ↔
      ∀ e ∈ structElementsOf elements, ¬ HasAngle e) :
    updateElement name (.StructValueType elements) =
        recognisedElement name (.StructValueType elements) ↔
      ¬ HasAngle (name, .StructValueType elements) ∧
        ∀ e ∈ structElementsOf elements, ¬ HasAngle e := by
  have hinner (htype : .StructValueType elements ∈ analogues ++ vectors ++ stepPositions) :
      ∀ e ∈ structElementsOf elements, ¬ HasAngle e := by
    have hangle := not_hasAngle_of_mem htype
    rwa [structElements] at hangle
  rw [updateElement_struct name hraw, recognisedElement_struct]
  by_cases hanalogue : name ∈ analogueNames ∧ .StructValueType elements ∈ analogues
  · rw [if_pos hanalogue, if_pos hanalogue]
    have hnames : ∀ n ∈ vectorNames, n ∉ analogueNames := by decide
    exact iff_of_true rfl ⟨fun hangle => hnames name hangle.1 hanalogue.1,
      hinner (by simp [hanalogue.2])⟩
  rw [if_neg hanalogue, if_neg hanalogue]
  by_cases hvector : name ∈ vectorNames ∧ ∃ mag ∈ analogues, elements = [("mag", mag)]
  · have hmem : .StructValueType elements ∈ vectors := mem_vectors_iff.mpr (.inl hvector.2)
    rw [if_pos hvector, if_pos ⟨hvector.1, hmem⟩]
    refine iff_of_true rfl ⟨?_, hinner (by simp [hmem])⟩
    rintro ⟨-, mag, -, ang, -, htype⟩
    obtain ⟨mag', -, rfl⟩ := hvector.2
    simp at htype
  rw [if_neg hvector]
  by_cases hangle : HasAngle (name, .StructValueType elements)
  · obtain ⟨hname, mag, hmag, ang, hang, htype⟩ := hangle
    have hmem : .StructValueType elements ∈ vectors :=
      mem_vectors_iff.mpr (.inr ⟨mag, hmag, ang, hang, ValueType.StructValueType.inj htype⟩)
    rw [if_pos (c := name ∈ vectorNames ∧ _) ⟨hname, hmem⟩]
    refine iff_of_false ?_ fun h => h.1 ⟨hname, mag, hmag, ang, hang, htype⟩
    split <;> simp
  have hvectors : ¬ (name ∈ vectorNames ∧ .StructValueType elements ∈ vectors) := by
    rintro ⟨hname, hmem⟩
    rcases mem_vectors_iff.mp hmem with hmag | ⟨mag, hmag, ang, hang, rfl⟩
    · exact hvector ⟨hname, hmag⟩
    · exact hangle ⟨hname, mag, hmag, ang, hang, rfl⟩
  rw [if_neg hvectors, and_iff_right hangle]
  by_cases hstep : name ∈ stepPositionNames ∧ .StructValueType elements ∈ stepPositions
  · rw [if_pos hstep, if_pos hstep]
    exact iff_of_true rfl (hinner (by simp [hstep.2]))
  · rw [if_neg hstep, if_neg hstep, ValueType.StructValueType.injEq]
    exact helements

mutual

/-- A value type without vectors with an angle gets the ACSI types it should. -/
theorem updateValueType_eq_iff (type : ValueType) (hraw : Raw type) :
    updateValueType type = recognised type ↔ ∀ e ∈ structElements type, ¬ HasAngle e := by
  match type with
  | .basic type => exact iff_of_true rfl (by simp [structElements])
  | .acsi type => exact iff_of_true rfl (by simp [structElements])
  | .ArrayValueType type length =>
    rw [updateValueType, recognised, structElements, ← updateValueType_eq_iff type hraw,
      ValueType.ArrayValueType.injEq, and_iff_left rfl]
  | .StructValueType elements =>
    rw [updateValueType, recognised, structElements,
      ← updateElements_eq_recognisedElements_iff elements hraw, ValueType.StructValueType.injEq]

theorem updateElement_eq_iff (name : String) (type : ValueType) (hraw : Raw type) :
    updateElement name type = recognisedElement name type ↔
      ¬ HasAngle (name, type) ∧ ∀ e ∈ structElements type, ¬ HasAngle e := by
  match type with
  | .basic type =>
    exact iff_of_true (updateElement_basic name type)
      ⟨by simp [HasAngle], by simp [structElements]⟩
  | .acsi type =>
    exact iff_of_true (by simp [updateElement, updateStructElementType, updateValueType,
        recognisedElement, acsiTypeOf, recognised, analogues, vectors, stepPositions])
      ⟨by simp [HasAngle], by simp [structElements]⟩
  | .ArrayValueType type length =>
    rw [structElements, ← updateValueType_eq_iff type hraw, and_iff_right (by simp [HasAngle])]
    simp [updateElement, updateStructElementType, updateValueType, recognisedElement, acsiTypeOf,
      recognised, analogues, vectors, stepPositions]
  | .StructValueType elements =>
    exact updateElement_struct_eq_iff name hraw
      (updateElements_eq_recognisedElements_iff elements hraw)

theorem updateElements_eq_recognisedElements_iff (elements : List (String × ValueType))
    (hraw : RawElements elements) :
    updateElements elements = recognisedElements elements ↔
      ∀ e ∈ structElementsOf elements, ¬ HasAngle e := by
  match elements with
  | [] => exact iff_of_true rfl (by simp [structElementsOf])
  | (name, type) :: elements =>
    have hhead := updateElement_eq_iff name type hraw.1
    have htail := updateElements_eq_recognisedElements_iff elements hraw.2
    rw [structElementsOf_cons, List.forall_mem_cons, List.forall_mem_append, ← and_assoc, ← hhead,
      ← htail, updateElements_cons, recognisedElements, List.cons.injEq, Prod.mk.injEq,
      and_iff_right rfl]
    rfl

end

/-! ### Twice -/

theorem updateStructElementType_idem (name : String) (type : ValueType) :
    updateStructElementType name (updateStructElementType name type) =
      updateStructElementType name type := by
  rcases updateStructElementType_cases name type with hsame | ⟨acsi, hacsi⟩
  · rw [hsame, hsame]
  · rw [hacsi]
    rfl

mutual

theorem updateValueType_idem (type : ValueType) :
    updateValueType (updateValueType type) = updateValueType type := by
  match type with
  | .basic type => rfl
  | .acsi type => rfl
  | .ArrayValueType type length =>
    simp only [updateValueType, updateValueType_idem type]
  | .StructValueType elements =>
    simp only [updateValueType, updateElements_idem elements]

/-- What an element was changed to is left as it is. -/
theorem updateElements_idem (elements : List (String × ValueType)) :
    updateElements (updateElements elements) = updateElements elements := by
  match elements with
  | [] => rfl
  | (name, type) :: elements =>
    have htype : updateValueType (updateStructElementType name (updateValueType type)) =
        updateStructElementType name (updateValueType type) := by
      rcases updateStructElementType_cases name (updateValueType type) with hsame | ⟨acsi, hacsi⟩
      · rw [hsame, updateValueType_idem type]
      · rw [hacsi]
        rfl
    simp only [updateElements, updateElements_idem elements, htype, updateStructElementType_idem]

end

/-- For every value type that a device can describe, the readout finds the ACSI types that the names
stand for, and changes nothing else, just when there is no vector with an angle in it; and what it
makes of a type it leaves as it is. -/
theorem updateValueType_recognises_iff (type : ValueType) (hraw : Raw type) :
    (updateValueType type = recognised type ↔ ∀ e ∈ structElements type, ¬ HasAngle e) ∧
      updateValueType (updateValueType type) = updateValueType type :=
  ⟨updateValueType_eq_iff type hraw, updateValueType_idem type⟩

/-- A measured value, of an array of which a struct has one. -/
theorem updateValueType_recognises_iff_mag :
    updateValueType (.StructValueType [("MV", .ArrayValueType (.StructValueType
        [("mag", .StructValueType [("f", .basic .FLOAT)]), ("t", .acsi .TIMESTAMP)]) 4)]) =
      .StructValueType [("MV", .ArrayValueType (.StructValueType
        [("mag", .acsi .ANALOGUE), ("t", .acsi .TIMESTAMP)]) 4)] :=
  (updateValueType_recognises_iff (.StructValueType [("MV", .ArrayValueType (.StructValueType
      [("mag", .StructValueType [("f", .basic .FLOAT)]), ("t", .acsi .TIMESTAMP)]) 4)])
    (by simp [Raw, RawElements])).1.mpr (by decide)

/-- A complex measured value: the struct of the angle is not recognised, and so the vector is not. -/
theorem vector_unrecognised :
    updateValueType (.StructValueType [("cVal", .StructValueType
        [("mag", .StructValueType [("f", .basic .FLOAT)]),
         ("ang", .StructValueType [("f", .basic .FLOAT)])])]) =
      .StructValueType [("cVal", .StructValueType
        [("mag", .acsi .ANALOGUE), ("ang", .StructValueType [("f", .basic .FLOAT)])])] ∧
    recognised (.StructValueType [("cVal", .StructValueType
        [("mag", .StructValueType [("f", .basic .FLOAT)]),
         ("ang", .StructValueType [("f", .basic .FLOAT)])])]) =
      .StructValueType [("cVal", .acsi .VECTOR)] := by
  decide

end HatDrivers.Iec61850.Manager
