import HatDrivers.Iec61850.Manager.Templates
import Mathlib.Data.List.Nodup

namespace HatDrivers.Iec61850.Manager

open HatDrivers.Lib

/-!
# IEC 61850 — value types of a file

What the data type templates say of a data object is a tree of attributes (`attributeOf`).  Its
value type for a functional constraint has the attributes with this constraint, as arrays where
they have a count (`Attribute.restrict`).  That of the readout differs where an attribute of a basic
type has a count, has no constraint, or is under another one (`Leaf.Faithful`).

* `exists_attributeOf` — data objects of templates without cycles have trees;
* `getValueType_of_attributeOf` — the readout finds the tree;
* `valueTypes_faithful` — it writes the value types of the tree just if the leaves are faithful.
-/

/-! ### Trees -/

/-- What templates say of a node, with its count. -/
inductive Attribute
  /-- of a basic type -/
  | leaf (name fc : Option String) (count : ℤ) (type : ValueType)
  | struct (name fc : Option String) (count : ℤ) (attributes : List Attribute)

def Attribute.name : Attribute → Option String
  | leaf name _ _ _ | struct name _ _ _ => name

/-- The attribute of a node, with templates nested to a depth; nodes without a type have none. -/
def attributeOf (rootEl : Element) : (depth : ℕ) → Element → Except Exn (Option Attribute)
  | 0, _ => .error .recursionError
  | depth + 1, nodeEl =>
    if nodeEl.tag = "ProtNs" then .ok none
    else do
      let name := nodeEl.get "name"
      let fc := nodeEl.get "fc"
      let count ← getCount nodeEl
      match getBasicValueType nodeEl with
      | some type => return some (.leaf name fc count type)
      | none =>
        match getNodeTypeEl rootEl nodeEl with
        | none => return none
        | some nodeTypeEl =>
          let attributes ← nodeTypeEl.children.mapM fun el => attributeOf rootEl depth el
          return some (.struct name fc count (attributes.filterMap id))

/-- An attribute of a basic type, with the constraints of it and of what is around it, the nearest
first. -/
structure Leaf where
  fcs : List String
  count : ℤ
  type : ValueType

mutual

/-- The leaves of an attribute that is under some constraints. -/
def Attribute.leaves (fcs : List String) : Attribute → List Leaf
  | leaf _ fc count type => [⟨fc.toList ++ fcs, count, type⟩]
  | struct _ fc _ attributes => Attribute.leavesOfAll (fc.toList ++ fcs) attributes

def Attribute.leavesOfAll (fcs : List String) : List Attribute → List Leaf
  | [] => []
  | node :: attributes => node.leaves fcs ++ Attribute.leavesOfAll fcs attributes

end

mutual

/-- The constraints of an attribute. -/
def Attribute.fcs : Attribute → List String
  | leaf _ fc _ _ => fc.toList
  | struct _ fc _ attributes => fc.toList ++ Attribute.fcsOfAll attributes

def Attribute.fcsOfAll : List Attribute → List String
  | [] => []
  | node :: attributes => node.fcs ++ Attribute.fcsOfAll attributes

end

mutual

/-- The names of attributes of one structure are different. -/
def Attribute.UniqueNames : Attribute → Prop
  | leaf _ _ _ _ => True
  | struct _ _ _ attributes =>
    (attributes.map Attribute.name).Nodup ∧ Attribute.AllUniqueNames attributes

def Attribute.AllUniqueNames : List Attribute → Prop
  | [] => True
  | node :: attributes => node.UniqueNames ∧ Attribute.AllUniqueNames attributes

end

def arrayOf (count : ℤ) (type : ValueType) : ValueType :=
  if count = 0 then type else .array type count

/-- A structure, if it has elements. -/
def structOf (count : ℤ) : List (Option String × ValueType) → Option ValueType
  | [] => none
  | elements => some (arrayOf count (.struct elements))

mutual

/-- The value type of those leaves that have one, with the structures they are in. -/
def Attribute.collect (typeOf : Leaf → Option ValueType) (fcs : List String) :
    Attribute → Option ValueType
  | leaf _ fc count type => typeOf ⟨fc.toList ++ fcs, count, type⟩
  | struct _ fc count attributes =>
    structOf count (Attribute.collectAll typeOf (fc.toList ++ fcs) attributes)

def Attribute.collectAll (typeOf : Leaf → Option ValueType) (fcs : List String) :
    List Attribute → List (Option String × ValueType)
  | [] => []
  | node :: attributes =>
    ((node.collect typeOf fcs).map fun type => (node.name, type)).toList ++
      Attribute.collectAll typeOf fcs attributes

end

/-- The value type of a leaf whose own or nearest constraint is `fc`. -/
def Leaf.typeFor (fc : String) (leaf : Leaf) : Option ValueType :=
  if leaf.fcs.head? = some fc then some (arrayOf leaf.count leaf.type) else none

/-- The attribute restricted to a constraint. -/
def Attribute.restrict (fc : String) (node : Attribute) : Option ValueType :=
  node.collect (Leaf.typeFor fc) []

/-! ### Leaves -/

/-- What the readout writes for a leaf. -/
def Leaf.writtenFor (fc : String) (leaf : Leaf) : Option ValueType :=
  if (∀ fc' ∈ leaf.fcs, fc' = fc) ∧ leaf.type.isStr then some leaf.type else none

/-- A leaf has a constraint, if it is no structure; and if its constraint is `fc`, then it is under
no other one, has no count and is no structure. -/
def Leaf.Faithful (fc : String) (leaf : Leaf) : Prop :=
  (leaf.fcs = [] → leaf.type.isStr = false) ∧
    (leaf.fcs.head? = some fc →
      (∀ fc' ∈ leaf.fcs, fc' = fc) ∧ leaf.count = 0 ∧ leaf.type.isStr = true)

theorem arrayOf_eq_self {count : ℤ} {type : ValueType} : arrayOf count type = type ↔ count = 0 := by
  unfold arrayOf
  split
  · simp_all
  next hcount =>
    refine iff_of_false (fun h => ?_) hcount
    have hsize := congrArg sizeOf h
    simp at hsize
    omega

theorem Leaf.writtenFor_eq_typeFor {fc : String} {leaf : Leaf} :
    leaf.writtenFor fc = leaf.typeFor fc ↔ leaf.Faithful fc := by
  obtain ⟨fcs, count, type⟩ := leaf
  unfold writtenFor typeFor Faithful
  cases fcs with
  | nil => cases type.isStr <;> simp
  | cons fc' fcs =>
    by_cases hhead : fc' = fc
    · subst hhead
      by_cases hall : ∀ fc'' ∈ fcs, fc'' = fc'
      · cases type.isStr <;> simp [eq_comm (a := type), arrayOf_eq_self]
      · simp [hall]
    · simp [hhead]

/-! ### Collecting leaves -/

section
variable {f g : Leaf → Option ValueType}

theorem structOf_inj {count : ℤ} {elements elements' : List (Option String × ValueType)} :
    structOf count elements = structOf count elements' ↔ elements = elements' := by
  refine ⟨fun h => ?_, fun h => by rw [h]⟩
  cases elements with
  | nil =>
    cases elements' with
    | nil => rfl
    | cons _ _ => cases h
  | cons _ _ =>
    cases elements' with
    | nil => cases h
    | cons _ _ =>
      have harray := Option.some.inj h
      unfold arrayOf at harray
      split at harray
      · exact ValueType.struct.inj harray
      · exact ValueType.struct.inj (ValueType.array.inj harray).1

mutual

/-- Each leaf of an attribute is under the constraints around the attribute. -/
theorem fcs_of_mem_leaves : (a : Attribute) → (fcs : List String) → ∀ leaf ∈ a.leaves fcs,
    ∃ own, leaf.fcs = own ++ fcs ∧ own ⊆ a.fcs
  | .leaf _ fc count type, fcs => by
    intro leaf hleaf
    obtain rfl := List.mem_singleton.mp hleaf
    exact ⟨fc.toList, rfl, List.Subset.refl _⟩
  | .struct _ fc _ attributes, fcs => by
    intro leaf hleaf
    obtain ⟨own, hfcs, hown⟩ := fcs_of_mem_leavesOfAll attributes (fc.toList ++ fcs) leaf hleaf
    refine ⟨own ++ fc.toList, by rw [hfcs, List.append_assoc], ?_⟩
    intro fc' hmem
    rcases List.mem_append.mp hmem with hmem | hmem
    · exact List.mem_append_right _ (hown hmem)
    · exact List.mem_append_left _ hmem

theorem fcs_of_mem_leavesOfAll : (attributes : List Attribute) → (fcs : List String) →
    ∀ leaf ∈ Attribute.leavesOfAll fcs attributes,
      ∃ own, leaf.fcs = own ++ fcs ∧ own ⊆ Attribute.fcsOfAll attributes
  | [], _ => nofun
  | a :: attributes, fcs => by
    intro leaf hleaf
    rcases List.mem_append.mp hleaf with hleaf | hleaf
    · obtain ⟨own, hfcs, hown⟩ := fcs_of_mem_leaves a fcs leaf hleaf
      exact ⟨own, hfcs, List.Subset.trans hown (List.subset_append_left _ _)⟩
    · obtain ⟨own, hfcs, hown⟩ := fcs_of_mem_leavesOfAll attributes fcs leaf hleaf
      exact ⟨own, hfcs, List.Subset.trans hown (List.subset_append_right _ _)⟩

end

mutual

theorem collect_congr : (a : Attribute) → (fcs : List String) →
    (∀ leaf ∈ a.leaves fcs, f leaf = g leaf) → a.collect f fcs = a.collect g fcs
  | .leaf _ _ _ _, _, h => h _ (List.mem_singleton.mpr rfl)
  | .struct _ fc count attributes, fcs, h => by
    rw [Attribute.collect, Attribute.collect, collectAll_congr attributes (fc.toList ++ fcs) h]

theorem collectAll_congr : (attributes : List Attribute) → (fcs : List String) →
    (∀ leaf ∈ Attribute.leavesOfAll fcs attributes, f leaf = g leaf) →
      Attribute.collectAll f fcs attributes = Attribute.collectAll g fcs attributes
  | [], _, _ => rfl
  | a :: attributes, fcs, h => by
    rw [Attribute.collectAll, Attribute.collectAll,
      collect_congr a fcs fun leaf hleaf => h leaf (List.mem_append_left _ hleaf),
      collectAll_congr attributes fcs fun leaf hleaf => h leaf (List.mem_append_right _ hleaf)]

end

mutual

theorem collect_none : (a : Attribute) → (fcs : List String) → a.collect (fun _ => none) fcs = none
  | .leaf _ _ _ _, _ => rfl
  | .struct _ fc count attributes, fcs => by
    rw [Attribute.collect, collectAll_none attributes (fc.toList ++ fcs)]
    rfl

theorem collectAll_none : (attributes : List Attribute) → (fcs : List String) →
    Attribute.collectAll (fun _ => none) fcs attributes = []
  | [], _ => rfl
  | a :: attributes, fcs => by
    rw [Attribute.collectAll, collect_none a fcs, collectAll_none attributes fcs]
    rfl

end

/-- There is no value type without a leaf that has one. -/
theorem collect_eq_none {a : Attribute} {fcs : List String}
    (h : ∀ leaf ∈ a.leaves fcs, f leaf = none) : a.collect f fcs = none := by
  rw [collect_congr a fcs h, collect_none]

/-- The elements are those of the attributes with the name. -/
theorem name_of_mem_collectAll {attributes : List Attribute} {fcs : List String}
    {element : Option String × ValueType} (h : element ∈ Attribute.collectAll f fcs attributes) :
    element.1 ∈ attributes.map Attribute.name := by
  induction attributes with
  | nil => cases h
  | cons a attributes ih =>
    rcases List.mem_append.mp h with h | h
    · obtain ⟨type, -, rfl⟩ := Option.map_eq_some_iff.mp (Option.mem_toList.mp h)
      exact List.mem_cons_self
    · exact List.mem_cons_of_mem _ (ih h)

/-- Elements with names of their own are found again. -/
theorem collectAll_cons_inj {a : Attribute} {attributes : List Attribute} {fcs : List String}
    (hname : a.name ∉ attributes.map Attribute.name)
    (h : Attribute.collectAll f fcs (a :: attributes) =
      Attribute.collectAll g fcs (a :: attributes)) :
    a.collect f fcs = a.collect g fcs ∧
      Attribute.collectAll f fcs attributes = Attribute.collectAll g fcs attributes := by
  rw [Attribute.collectAll, Attribute.collectAll] at h
  cases hf : a.collect f fcs with
  | none =>
    cases hg : a.collect g fcs with
    | none =>
      rw [hf, hg] at h
      exact ⟨rfl, h⟩
    | some type =>
      rw [hf, hg] at h
      have hmem : (a.name, type) ∈ Attribute.collectAll f fcs attributes := by
        rw [show Attribute.collectAll f fcs attributes = _ from h]
        exact List.mem_cons_self
      exact absurd (name_of_mem_collectAll hmem) hname
  | some type =>
    cases hg : a.collect g fcs with
    | none =>
      rw [hf, hg] at h
      have hmem : (a.name, type) ∈ Attribute.collectAll g fcs attributes := by
        rw [show Attribute.collectAll g fcs attributes = _ from h.symm]
        exact List.mem_cons_self
      exact absurd (name_of_mem_collectAll hmem) hname
    | some type' =>
      rw [hf, hg] at h
      obtain ⟨hhead, htail⟩ := List.cons.inj h
      exact ⟨congrArg some (Prod.mk.inj hhead).2, htail⟩

mutual

theorem collect_inj : (a : Attribute) → (fcs : List String) → a.UniqueNames →
    a.collect f fcs = a.collect g fcs → ∀ leaf ∈ a.leaves fcs, f leaf = g leaf
  | .leaf _ _ _ _, _, _, h => by
    intro leaf hleaf
    obtain rfl := List.mem_singleton.mp hleaf
    exact h
  | .struct _ fc _ attributes, fcs, hnames, h =>
    collectAll_inj attributes (fc.toList ++ fcs) hnames.1 hnames.2 (structOf_inj.mp h)

theorem collectAll_inj : (attributes : List Attribute) → (fcs : List String) →
    (attributes.map Attribute.name).Nodup → Attribute.AllUniqueNames attributes →
      Attribute.collectAll f fcs attributes = Attribute.collectAll g fcs attributes →
        ∀ leaf ∈ Attribute.leavesOfAll fcs attributes, f leaf = g leaf
  | [], _, _, _, _ => nofun
  | a :: attributes, fcs, hnodup, hnames, h => by
    obtain ⟨hname, hnodup⟩ := List.nodup_cons.mp hnodup
    obtain ⟨hhead, htail⟩ := collectAll_cons_inj hname h
    intro leaf hleaf
    rcases List.mem_append.mp hleaf with hleaf | hleaf
    · exact collect_inj a fcs hnames.1 hhead leaf hleaf
    · exact collectAll_inj attributes fcs hnodup hnames.2 htail leaf hleaf

end

end

/-! ### The readout of a tree -/

mutual

/-- What `_get_value_type` returns for an attribute: the counts of leaves are lost. -/
def Attribute.fcType : Attribute → FcValueType
  | leaf _ fc _ type => .type type fc
  | struct _ fc count attributes =>
    if count = 0 then .struct (Attribute.fcTypesOfAll attributes) fc
    else .array (.struct (Attribute.fcTypesOfAll attributes) fc) count fc

def Attribute.fcTypesOfAll : List Attribute → List (Option String × FcValueType)
  | [] => []
  | node :: attributes => (node.name, node.fcType) :: Attribute.fcTypesOfAll attributes

end

theorem fcTypesOfAll_eq_map (attributes : List Attribute) :
    Attribute.fcTypesOfAll attributes = attributes.map fun a => (a.name, a.fcType) := by
  induction attributes with
  | nil => rfl
  | cons a attributes ih => rw [Attribute.fcTypesOfAll, ih, List.map_cons]

mutual

theorem mem_getAllFcs {fc : String} : (a : Attribute) → (fc ∈ getAllFcs a.fcType ↔ fc ∈ a.fcs)
  | .leaf _ _ _ _ => Iff.rfl
  | .struct _ ownFc count attributes => by
    have hall : fc ∈ getAllFcsOfElements (Attribute.fcTypesOfAll attributes) ↔
        fc ∈ Attribute.fcsOfAll attributes := mem_getAllFcsOfElements attributes
    unfold Attribute.fcType Attribute.fcs
    split
    · rw [getAllFcs, List.mem_append, List.mem_append, hall]
    · rw [getAllFcs, getAllFcs, List.mem_append, List.mem_append, List.mem_append, hall]
      tauto

theorem mem_getAllFcsOfElements {fc : String} : (attributes : List Attribute) →
    (fc ∈ getAllFcsOfElements (Attribute.fcTypesOfAll attributes) ↔
      fc ∈ Attribute.fcsOfAll attributes)
  | [] => Iff.rfl
  | a :: attributes => by
    rw [Attribute.fcTypesOfAll, getAllFcsOfElements, Attribute.fcsOfAll, List.mem_append,
      List.mem_append, mem_getAllFcs a, mem_getAllFcsOfElements attributes]

end

theorem forall_mem_toList_append {fc : String} {ownFc : Option String} {fcs : List String}
    (h : ∀ fc' ∈ fcs, fc' = fc) :
    (∀ fc' ∈ ownFc.toList ++ fcs, fc' = fc) ↔ ¬ ownFc.any (· ≠ fc) := by
  cases ownFc with
  | none => simpa using h
  | some ownFc => simpa using fun _ => h

mutual

/-- The readout of a tree collects what is written for its leaves. -/
theorem getValueTypeForFc_fcType {fc : String} : (a : Attribute) → (fcs : List String) →
    (∀ fc' ∈ fcs, fc' = fc) →
      getValueTypeForFc fc a.fcType = a.collect (Leaf.writtenFor fc) fcs
  | .leaf _ ownFc count type, fcs, h => by
    rw [Attribute.fcType, getValueTypeForFc, Attribute.collect, Leaf.writtenFor]
    simp only [forall_mem_toList_append h]
    by_cases hown : ownFc.any (· ≠ fc)
    · rw [if_pos hown, if_neg fun hand => hand.1 hown]
    · rw [if_neg hown]
      exact (if_congr (and_iff_right hown) rfl rfl).symm
  | .struct name ownFc count attributes, fcs, h => by
    by_cases hown : ownFc.any (· ≠ fc)
    · -- the constraint is an other one for all leaves
      have hnone : (Attribute.struct name ownFc count attributes).collect (Leaf.writtenFor fc) fcs =
          none := by
        apply collect_eq_none
        intro leaf hleaf
        obtain ⟨own, hfcs, -⟩ :=
          fcs_of_mem_leavesOfAll attributes (ownFc.toList ++ fcs) leaf hleaf
        rw [Leaf.writtenFor, if_neg]
        rintro ⟨hall, -⟩
        apply (forall_mem_toList_append h).mp _ hown
        intro fc' hmem
        exact hall fc' (by rw [hfcs]; exact List.mem_append_right _ hmem)
      rw [hnone]
      unfold Attribute.fcType
      split
      · rw [getValueTypeForFc, if_pos hown]
      · rw [getValueTypeForFc, if_pos hown]
    · have hall := getElementsForFc_fcTypes attributes (ownFc.toList ++ fcs)
        ((forall_mem_toList_append h).mpr hown)
      rw [Attribute.collect]
      unfold Attribute.fcType
      split
      next hcount =>
        rw [getValueTypeForFc, if_neg hown, hall, hcount]
        cases Attribute.collectAll (Leaf.writtenFor fc) (ownFc.toList ++ fcs) attributes <;> rfl
      next hcount =>
        rw [getValueTypeForFc, if_neg hown, getValueTypeForFc, if_neg hown, hall]
        cases Attribute.collectAll (Leaf.writtenFor fc) (ownFc.toList ++ fcs) attributes with
        | nil => rfl
        | cons element elements =>
          show some (ValueType.array _ count) = some (arrayOf count _)
          rw [arrayOf, if_neg hcount]

theorem getElementsForFc_fcTypes {fc : String} : (attributes : List Attribute) →
    (fcs : List String) → (∀ fc' ∈ fcs, fc' = fc) →
      getElementsForFc fc (Attribute.fcTypesOfAll attributes) =
        Attribute.collectAll (Leaf.writtenFor fc) fcs attributes
  | [], _, _ => rfl
  | a :: attributes, fcs, h => by
    rw [Attribute.fcTypesOfAll, getElementsForFc, Attribute.collectAll,
      getValueTypeForFc_fcType a fcs h, getElementsForFc_fcTypes attributes fcs h]
    cases a.collect (Leaf.writtenFor fc) fcs <;> rfl

end

/-! ### Nodes and their trees -/

section
variable {rootEl nodeEl : Element}

/-- What the attribute of a node is made of. -/
inductive NodeCases (rootEl nodeEl : Element) (depth : ℕ) : Option Attribute → Prop
  | protNs (htag : nodeEl.tag = "ProtNs") : NodeCases rootEl nodeEl depth none
  | leaf (htag : nodeEl.tag ≠ "ProtNs") (count : ℤ) (hcount : getCount nodeEl = .ok count)
      (type : ValueType) (hbasic : getBasicValueType nodeEl = some type) :
    NodeCases rootEl nodeEl depth
      (some (.leaf (nodeEl.get "name") (nodeEl.get "fc") count type))
  | untyped (htag : nodeEl.tag ≠ "ProtNs") (count : ℤ) (hcount : getCount nodeEl = .ok count)
      (hbasic : getBasicValueType nodeEl = none) (htype : getNodeTypeEl rootEl nodeEl = none) :
    NodeCases rootEl nodeEl depth none
  | struct (htag : nodeEl.tag ≠ "ProtNs") (count : ℤ) (hcount : getCount nodeEl = .ok count)
      (hbasic : getBasicValueType nodeEl = none) (typeEl : Element)
      (htype : getNodeTypeEl rootEl nodeEl = some typeEl) (attributes : List (Option Attribute))
      (hattributes : (typeEl.children.mapM fun el => attributeOf rootEl depth el) =
        .ok attributes) :
    NodeCases rootEl nodeEl depth
      (some (.struct (nodeEl.get "name") (nodeEl.get "fc") count (attributes.filterMap id)))

theorem attributeOf_eq_ok {depth : ℕ} {tree : Option Attribute} :
    attributeOf rootEl (depth + 1) nodeEl = .ok tree ↔ NodeCases rootEl nodeEl depth tree := by
  rw [attributeOf]
  constructor
  · intro h
    split at h
    next htag =>
      cases h
      exact .protNs htag
    next htag =>
      obtain ⟨count, hcount, h⟩ := bind_eq_ok.mp h
      split at h
      next type hbasic =>
        cases h
        exact .leaf htag count hcount type hbasic
      next hbasic =>
        split at h
        next htype =>
          cases h
          exact .untyped htag count hcount hbasic htype
        next typeEl htype =>
          obtain ⟨attributes, hattributes, h⟩ := bind_eq_ok.mp h
          cases h
          exact .struct htag count hcount hbasic typeEl htype attributes hattributes
  · intro h
    cases h with
    | protNs htag => rw [if_pos htag]
    | leaf htag count hcount type hbasic => rw [if_neg htag, hcount, ok_bind, hbasic]; rfl
    | untyped htag count hcount hbasic htype =>
      rw [if_neg htag, hcount, ok_bind, hbasic, htype]
      rfl
    | struct htag count hcount hbasic typeEl htype attributes hattributes =>
      rw [if_neg htag, hcount, ok_bind, hbasic, htype]
      simp only [hattributes, ok_bind]
      rfl

theorem name_of_attributeOf {depth : ℕ} {node : Attribute}
    (h : attributeOf rootEl depth nodeEl = .ok (some node)) : node.name = nodeEl.get "name" := by
  cases depth with
  | zero => cases h
  | succ depth => cases attributeOf_eq_ok.mp h <;> rfl

/-- What is nested to a depth is nested to a greater one. -/
theorem attributeOf_mono {depth depth' : ℕ} {tree : Option Attribute} (hle : depth ≤ depth')
    (h : attributeOf rootEl depth nodeEl = .ok tree) :
    attributeOf rootEl depth' nodeEl = .ok tree := by
  induction depth generalizing depth' nodeEl tree with
  | zero => cases h
  | succ depth ih =>
    obtain ⟨depth', rfl⟩ : ∃ n, depth' = n + 1 := ⟨depth' - 1, by omega⟩
    rw [attributeOf_eq_ok] at h ⊢
    cases h with
    | protNs htag => exact .protNs htag
    | leaf htag count hcount type hbasic => exact .leaf htag count hcount type hbasic
    | untyped htag count hcount hbasic htype => exact .untyped htag count hcount hbasic htype
    | struct htag count hcount hbasic typeEl htype attributes hattributes =>
      have hmap := mapM_eq_ok_map_of (k := id)
        (fun el _ tree htree => ih (show depth ≤ depth' by omega) htree) hattributes
      rw [List.map_id] at hmap
      exact .struct htag count hcount hbasic typeEl htype attributes hmap

/-- A call that does not make an array. -/
theorem getValueType_flat {fuel : ℕ} {isArrayElement : Bool} {count : ℤ}
    (htag : nodeEl.tag ≠ "ProtNs") (hbasic : getBasicValueType nodeEl = none)
    (hcount : getCount nodeEl = .ok count) (hflat : ¬ (count ≠ 0 ∧ ¬ isArrayElement)) :
    getValueType rootEl (fuel + 1) nodeEl isArrayElement =
      match getNodeTypeEl rootEl nodeEl with
      | none => .ok none
      | some nodeTypeEl => do
        let elements ← nodeTypeEl.children.mapM fun daEl => do
          let elType ← getValueType rootEl fuel daEl false
          return elType.map fun elType => (daEl.get "name", elType)
        return some (.struct (elements.filterMap id) (nodeEl.get "fc")) := by
  rw [getValueType, if_neg htag, hbasic]
  simp only [hcount, ok_bind, if_neg hflat]
  cases getNodeTypeEl rootEl nodeEl <;> rfl

/-- A call that makes an array, of what another call returns. -/
theorem getValueType_array {fuel : ℕ} {count : ℤ} {elementType : Option FcValueType}
    (htag : nodeEl.tag ≠ "ProtNs") (hbasic : getBasicValueType nodeEl = none)
    (hcount : getCount nodeEl = .ok count) (hne : count ≠ 0)
    (helement : getValueType rootEl fuel nodeEl true = .ok elementType) :
    getValueType rootEl (fuel + 1) nodeEl false =
      .ok (elementType.map fun elementType => .array elementType count (nodeEl.get "fc")) := by
  rw [getValueType, if_neg htag, hbasic]
  simp only [hcount, ok_bind, if_pos (show count ≠ 0 ∧ ¬ (false = true) by simpa using hne), helement]
  rfl

theorem filterMap_elements (attributes : List (Option Attribute)) :
    (attributes.map fun tree => tree.map fun a => (a.name, a.fcType)).filterMap id =
      Attribute.fcTypesOfAll (attributes.filterMap id) := by
  rw [fcTypesOfAll_eq_map, List.filterMap_map, List.map_filterMap]
  rfl

/-- The readout finds the tree of a node, with two calls for each level of it. -/
theorem getValueType_of_attributeOf {depth fuel : ℕ} {tree : Option Attribute}
    (hfuel : 2 * depth ≤ fuel) (h : attributeOf rootEl depth nodeEl = .ok tree) :
    getValueType rootEl fuel nodeEl false = .ok (tree.map Attribute.fcType) := by
  induction depth generalizing fuel nodeEl tree with
  | zero => cases h
  | succ depth ih =>
    obtain ⟨fuel, rfl⟩ : ∃ n, fuel = n + 2 := ⟨fuel - 2, by omega⟩
    cases attributeOf_eq_ok.mp h with
    | protNs htag => rw [getValueType, if_pos htag]; rfl
    | leaf htag count hcount type hbasic => rw [getValueType, if_neg htag, hbasic]; rfl
    | untyped htag count hcount hbasic htype =>
      by_cases hzero : count = 0
      · rw [getValueType_flat htag hbasic hcount (by simp [hzero]), htype]
        rfl
      · have helement : getValueType rootEl (fuel + 1) nodeEl true = .ok none := by
          rw [getValueType_flat htag hbasic hcount (by simp), htype]
        rw [getValueType_array htag hbasic hcount hzero helement]
        rfl
    | struct htag count hcount hbasic typeEl htype attributes hattributes =>
      -- the elements are those of the attributes, which are nested one level less
      have helements : ∀ n, 2 * depth ≤ n → (typeEl.children.mapM fun daEl => do
          let elType ← getValueType rootEl n daEl false
          return elType.map fun elType => (daEl.get "name", elType)) =
            .ok (attributes.map fun tree => tree.map fun a => (a.name, a.fcType)) := by
        intro n hn
        refine mapM_eq_ok_map_of (fun daEl _ tree htree => ?_) hattributes
        rw [ih hn htree, ok_bind]
        cases tree with
        | none => rfl
        | some a =>
          rw [Option.map_some, Option.map_some, Option.map_some, name_of_attributeOf htree]
          rfl
      by_cases hzero : count = 0
      · rw [getValueType_flat htag hbasic hcount (by simp [hzero]), htype]
        simp only [helements (fuel + 1) (by omega), ok_bind, filterMap_elements]
        rw [Option.map_some, Attribute.fcType, if_pos hzero]
        rfl
      · have helement : getValueType rootEl (fuel + 1) nodeEl true = .ok (some (.struct
            (Attribute.fcTypesOfAll (attributes.filterMap id)) (nodeEl.get "fc"))) := by
          rw [getValueType_flat htag hbasic hcount (by simp), htype]
          simp only [helements fuel (by omega), ok_bind, filterMap_elements]
          rfl
        rw [getValueType_array htag hbasic hcount hzero helement, Option.map_some, Option.map_some,
          Attribute.fcType, if_neg hzero]

/-! ### All trees -/

/-- The counts of the object and of all nodes of templates are numbers. -/
def NumericCounts (rootEl doEl : Element) : Prop :=
  (∃ count, getCount doEl = .ok count) ∧
    ∀ typeEl ∈ templates rootEl, ∀ nodeEl ∈ typeEl.children, ∃ count, getCount nodeEl = .ok count

/-- A node has a tree if the nodes of its template have trees. -/
theorem exists_attributeOf_of_type (hcount : ∃ count, getCount nodeEl = .ok count)
    (htypes : ∀ typeEl, getNodeTypeEl rootEl nodeEl = some typeEl →
      ∃ depth, ∀ el ∈ typeEl.children, ∃ tree, attributeOf rootEl depth el = .ok tree) :
    ∃ depth tree, attributeOf rootEl depth nodeEl = .ok tree := by
  obtain ⟨count, hcount⟩ := hcount
  by_cases htag : nodeEl.tag = "ProtNs"
  · exact ⟨1, none, attributeOf_eq_ok.mpr (.protNs htag)⟩
  cases hbasic : getBasicValueType nodeEl with
  | some type => exact ⟨1, _, attributeOf_eq_ok.mpr (.leaf htag count hcount type hbasic)⟩
  | none =>
    cases htype : getNodeTypeEl rootEl nodeEl with
    | none => exact ⟨1, none, attributeOf_eq_ok.mpr (.untyped htag count hcount hbasic htype)⟩
    | some typeEl =>
      obtain ⟨depth, htrees⟩ := htypes typeEl htype
      obtain ⟨attributes, hattributes⟩ := exists_mapM_eq_ok htrees
      exact ⟨depth + 1, _,
        attributeOf_eq_ok.mpr (.struct htag count hcount hbasic typeEl htype attributes hattributes)⟩

/-- Data objects of templates without cycles have trees. -/
theorem exists_attributeOf (hacyclic : Acyclic rootEl) {doEl : Element}
    (hcounts : NumericCounts rootEl doEl) :
    ∃ depth tree, attributeOf rootEl depth doEl = .ok tree := by
  refine hacyclic.exists_bound (P := fun depth el => ∃ tree, attributeOf rootEl depth el = .ok tree)
    (Q := fun el => ∃ count, getCount el = .ok count) ?_ ?_ hcounts.2 doEl hcounts.1
  · rintro depth depth' el hle ⟨tree, htree⟩
    exact ⟨tree, attributeOf_mono hle htree⟩
  · exact fun el hcount htypes => exists_attributeOf_of_type hcount htypes

end

/-! ### Reported value types -/

/-- What is reported for an object that has a tree. -/
theorem mem_objectValueTypes {rootEl doEl : Element} {fuel : ℕ} {a : Attribute}
    (h : getValueType rootEl fuel doEl false = .ok (some a.fcType)) (fc : String)
    (type : ValueType) :
    (fc, type) ∈ objectValueTypes rootEl fuel doEl ↔
      fc ∈ a.fcs ∧ a.collect (Leaf.writtenFor fc) [] = some type := by
  rw [objectValueTypes, h, List.mem_filterMap]
  constructor
  · rintro ⟨fc', hfc, htype⟩
    obtain ⟨type', hread, heq⟩ := Option.map_eq_some_iff.mp htype
    obtain ⟨rfl, rfl⟩ := Prod.mk.inj heq
    rw [getValueTypeForFc_fcType a [] nofun] at hread
    exact ⟨(mem_getAllFcs a).mp (List.mem_dedup.mp hfc), hread⟩
  · rintro ⟨hfc, htype⟩
    refine ⟨fc, List.mem_dedup.mpr ((mem_getAllFcs a).mpr hfc), ?_⟩
    rw [getValueTypeForFc_fcType a [] nofun, htype]
    rfl

theorem nodup_objectValueTypes (rootEl doEl : Element) (fuel : ℕ) :
    ((objectValueTypes rootEl fuel doEl).map Prod.fst).Nodup := by
  unfold objectValueTypes
  split
  next valueTypeFc _ =>
    have hsublist : (((getAllFcs valueTypeFc).dedup.filterMap fun fc =>
        (getValueTypeForFc fc valueTypeFc).map fun valueType => (fc, valueType)).map
          Prod.fst).Sublist (getAllFcs valueTypeFc).dedup := by
      induction (getAllFcs valueTypeFc).dedup with
      | nil => exact .slnil
      | cons fc fcs ih =>
        rw [List.filterMap_cons]
        cases getValueTypeForFc fc valueTypeFc with
        | none => exact ih.cons fc
        | some type => exact ih.cons_cons fc
    exact hsublist.nodup (List.nodup_dedup _)
  next => exact List.nodup_nil

/-- A data object of templates without cycles has a tree, and the readout reports for its constraints
the value types that the tree has for them if the leaves are faithful, and, where names are unique,
only then; a constraint is reported once, and none that the tree does not have. -/
theorem valueTypes_faithful (rootEl doEl : Element) (hacyclic : Acyclic rootEl)
    (hcounts : NumericCounts rootEl doEl) :
    ∃ depth tree, attributeOf rootEl depth doEl = .ok tree ∧
      ∀ fuel, 2 * depth ≤ fuel →
        ((objectValueTypes rootEl fuel doEl).map Prod.fst).Nodup ∧
        (tree = none → objectValueTypes rootEl fuel doEl = []) ∧
        ∀ a, tree = some a →
          (∀ entry ∈ objectValueTypes rootEl fuel doEl, entry.1 ∈ a.fcs) ∧
          ∀ fc ∈ a.fcs,
            ((∀ leaf ∈ a.leaves [], leaf.Faithful fc) →
              ∀ type, (fc, type) ∈ objectValueTypes rootEl fuel doEl ↔
                a.restrict fc = some type) ∧
            (a.UniqueNames →
              (∀ type, (fc, type) ∈ objectValueTypes rootEl fuel doEl ↔
                a.restrict fc = some type) →
              ∀ leaf ∈ a.leaves [], leaf.Faithful fc) := by
  obtain ⟨depth, tree, htree⟩ := exists_attributeOf hacyclic hcounts
  refine ⟨depth, tree, htree, fun fuel hfuel => ?_⟩
  have hvalue := getValueType_of_attributeOf hfuel htree
  refine ⟨nodup_objectValueTypes rootEl doEl fuel, ?_, ?_⟩
  · rintro rfl
    rw [objectValueTypes, hvalue]
    rfl
  · rintro a rfl
    have hmem := mem_objectValueTypes hvalue
    refine ⟨fun entry hentry => ((hmem entry.1 entry.2).mp hentry).1, fun fc hfc => ?_⟩
    have hiff : (∀ type, (fc, type) ∈ objectValueTypes rootEl fuel doEl ↔
        a.restrict fc = some type) ↔ a.collect (Leaf.writtenFor fc) [] = a.restrict fc := by
      simp only [hmem, and_iff_right hfc]
      constructor
      · intro h
        ext type
        exact h type
      · intro h type
        rw [h]
    rw [hiff]
    constructor
    · intro hfaithful
      exact collect_congr a [] fun leaf hleaf =>
        Leaf.writtenFor_eq_typeFor.mpr (hfaithful leaf hleaf)
    · intro hnames h leaf hleaf
      exact Leaf.writtenFor_eq_typeFor.mp (collect_inj a [] hnames h leaf hleaf)

/-! ### An attribute with a count -/

/-- The type of a data object with an integer attribute of three elements. -/
def countedType : Element :=
  .mk "DOType" [("id", "Counted")] none
    [.mk "DA" [("name", "x"), ("fc", "ST"), ("bType", "INT32"), ("count", "3")] none []]

def countedRoot : Element := .mk "SCL" [] none [.mk "DataTypeTemplates" [] none [countedType]]

def countedDo : Element := .mk "DO" [("name", "Ind"), ("type", "Counted")] none []

theorem acyclic_countedRoot : Acyclic countedRoot := by
  intro typeEl hmem hcycle
  obtain rfl : typeEl = countedType := List.mem_singleton.mp hmem
  obtain ⟨_, ⟨nodeEl, hnode, htype⟩, -⟩ := Relation.TransGen.head'_iff.mp hcycle
  obtain rfl := List.mem_singleton.mp hnode
  cases htype

theorem numericCounts_countedDo : NumericCounts countedRoot countedDo := by
  refine ⟨⟨0, rfl⟩, fun typeEl hmem nodeEl hnode => ⟨3, ?_⟩⟩
  obtain rfl : typeEl = countedType := List.mem_singleton.mp hmem
  obtain rfl := List.mem_singleton.mp hnode
  rfl

/-- The object has its tree, and each constraint once. -/
theorem valueTypes_faithful_counted :
    ∃ depth tree, attributeOf countedRoot depth countedDo = .ok tree ∧
      ∀ fuel, 2 * depth ≤ fuel →
        ((objectValueTypes countedRoot fuel countedDo).map Prod.fst).Nodup := by
  obtain ⟨depth, tree, htree, h⟩ := valueTypes_faithful countedRoot countedDo acyclic_countedRoot
    numericCounts_countedDo
  exact ⟨depth, tree, htree, fun fuel hfuel => (h fuel hfuel).1⟩

/-- The tree of the object has an array of three integers, and a single one is reported. -/
theorem count_lost :
    attributeOf countedRoot 2 countedDo = .ok (some (.struct (some "Ind") none 0
      [.leaf (some "x") (some "ST") 3 (.basic .INTEGER)])) ∧
    (Attribute.struct (some "Ind") none 0 [.leaf (some "x") (some "ST") 3
        (.basic .INTEGER)]).restrict "ST" =
      some (.struct [(some "x", .array (.basic .INTEGER) 3)]) ∧
    ∀ fuel, 4 ≤ fuel → objectValueTypes countedRoot fuel countedDo =
      [("ST", .struct [(some "x", .basic .INTEGER)])] := by
  have htree : attributeOf countedRoot 2 countedDo = .ok (some (.struct (some "Ind") none 0
      [.leaf (some "x") (some "ST") 3 (.basic .INTEGER)])) := rfl
  refine ⟨htree, rfl, fun fuel hfuel => ?_⟩
  rw [objectValueTypes, getValueType_of_attributeOf (by omega) htree]
  rfl

end HatDrivers.Iec61850.Manager
