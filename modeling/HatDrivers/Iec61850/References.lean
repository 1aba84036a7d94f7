import HatDrivers.Iec61850.Common
import HatDrivers.Strings

namespace HatDrivers.Iec61850

open HatDrivers.Lib

/-!
# IEC 61850 — references

References of data and datasets, as object names and as strings.  An object name separates the
parts of a reference by `$`, and an array index follows its name in brackets, so that indexes are
taken off a name from its end (`peelIndexes`).  What is written is read back as it was
(`references_inverse`).
-/

/-! ### Datasets -/

def datasetRefToObjectName : DatasetRef → Mms.ObjectName
  | .PersistedDatasetRef logicalDevice logicalNode name =>
    .DomainSpecificObjectName logicalDevice (logicalNode ++ "$" ++ name)
  | .NonPersistedDatasetRef name => .AaSpecificObjectName name

/-- `logical_node, name = item_id.split('$')`. -/
def splitDatasetItem (itemId : List Char) : Except Exn (String × String) :=
  match itemId.splitOn '$' with
  | [logicalNode, name] => .ok (String.ofList logicalNode, String.ofList name)
  | [_] => .error (.valueError "not enough values to unpack (expected 2, got 1)")
  | _ => .error (.valueError "too many values to unpack (expected 2)")

def datasetRefFromObjectName : Mms.ObjectName → Except Exn DatasetRef
  | .DomainSpecificObjectName domainId itemId => do
    let (logicalNode, name) ← splitDatasetItem itemId.toList
    return .PersistedDatasetRef domainId logicalNode name
  | .AaSpecificObjectName identifier => .ok (.NonPersistedDatasetRef identifier)
  | .VmdSpecificObjectName _ => .error .typeError

def datasetRefFromStr (refStr : String) : Except Exn DatasetRef :=
  if refStr.toList.head? = some '@' then
    .ok (.NonPersistedDatasetRef (String.ofList (refStr.toList.drop 1)))
  else
    match splitOnce refStr.toList '/' with
    | none => .error (.valueError "not enough values to unpack (expected 2, got 1)")
    | some (logicalDevice, rest) => do
      let (logicalNode, name) ← splitDatasetItem rest
      return .PersistedDatasetRef (String.ofList logicalDevice) logicalNode name

def datasetRefToStr : DatasetRef → String
  | .PersistedDatasetRef logicalDevice logicalNode name =>
    logicalDevice ++ "/" ++ logicalNode ++ "$" ++ name
  | .NonPersistedDatasetRef name => "@" ++ name

/-! ### Data -/

/-- A name or an index, as it follows what is before it. -/
def Name.chars : Name → List Char
  | .str name => '$' :: name.toList
  | .index i => '(' :: formatInt i ++ [')']

def dataRefItem (ref : DataRef) : List Char :=
  ref.logicalNode.toList ++ '$' :: ref.fc.toList ++ ref.names.flatMap Name.chars

def dataRefToObjectName (ref : DataRef) : Mms.ObjectName :=
  .DomainSpecificObjectName ref.logicalDevice (String.ofList (dataRefItem ref))

/-- The name before the indexes at the end of a name, and these before some others. -/
def peelIndexes (name : List Char) (indexes : List ℤ) : Except Exn (List Char × List ℤ) :=
  if name.getLast? = some ')' then
    match _hsplit : splitLast name '(' with
    | none => .error (.exception "invalid array index syntax")
    | some (first, rest) => do
      let index ← parseInt rest.dropLast
      peelIndexes first (index :: indexes)
  else .ok (name, indexes)
termination_by name.length
decreasing_by
  rw [splitLast_eq_some _hsplit]
  simp

/-- A part of an object name: a name, and its indexes. -/
def namesFromItem (name : List Char) : Except Exn (List Name) := do
  let (name, indexes) ← peelIndexes name []
  return .str (String.ofList name) :: indexes.map .index

def dataRefFromObjectName : Mms.ObjectName → Except Exn DataRef
  | .DomainSpecificObjectName domainId itemId =>
    match itemId.toList.splitOn '$' with
    | logicalNode :: fc :: rest => do
      let names ← rest.mapM namesFromItem
      return {
        logicalDevice := domainId
        logicalNode := String.ofList logicalNode
        fc := String.ofList fc
        names := names.flatten }
    | _ => .error (.valueError "not enough values to unpack (expected at least 2, got 1)")
  | _ => .error .typeError

def dataRefToStr (ref : DataRef) : String :=
  ref.logicalDevice ++ "/" ++ String.ofList (dataRefItem ref)

def dataRefFromStr (refStr : String) : Except Exn DataRef :=
  match splitOnce refStr.toList '/' with
  | some (domainId, itemId) =>
    dataRefFromObjectName
      (.DomainSpecificObjectName (String.ofList domainId) (String.ofList itemId))
  -- without an item, the object name cannot be made
  | none => .error .typeError

/-! ### References that can be told apart -/

/-- A name that is neither taken apart nor ends as an index does. -/
def Name.WellFormed : Name → Prop
  | .str name => '$' ∉ name.toList ∧ name.toList.getLast? ≠ some ')'
  | .index _ => True

instance (name : Name) : Decidable name.WellFormed := by
  cases name <;> unfold Name.WellFormed <;> infer_instance

structure DataRef.WellFormed (ref : DataRef) : Prop where
  logicalDevice : '/' ∉ ref.logicalDevice.toList
  logicalNode : '$' ∉ ref.logicalNode.toList
  fc : '$' ∉ ref.fc.toList
  names : ∀ name ∈ ref.names, name.WellFormed
  /-- an index is the index of a name -/
  head : ∀ i, ref.names.head? ≠ some (.index i)

def DatasetRef.WellFormed : DatasetRef → Prop
  | .PersistedDatasetRef logicalDevice logicalNode name =>
    ('/' ∉ logicalDevice.toList ∧ logicalDevice.toList.head? ≠ some '@') ∧
      '$' ∉ logicalNode.toList ∧ '$' ∉ name.toList
  | .NonPersistedDatasetRef _ => True

/-! ### Names and their indexes -/

/-- The indexes at the end of a name are taken off it, whatever the name is. -/
theorem peelIndexes_append {name : List Char} (h : name.getLast? ≠ some ')') (is js : List ℤ) :
    peelIndexes (name ++ is.flatMap fun i => (Name.index i).chars) js = .ok (name, is ++ js) := by
  induction is using List.reverseRecOn generalizing js with
  | nil =>
    rw [List.flatMap_nil, List.append_nil, peelIndexes, if_neg h]
    rfl
  | append_singleton is i ih =>
    have hbracket : '(' ∉ formatInt i ++ [')'] := by
      intro hmem
      rcases List.mem_append.mp hmem with hdigit | hlast
      · rcases isDigit_of_mem_formatInt hdigit with hminus | hdigit
        · revert hminus
          decide
        · revert hdigit
          decide
      · revert hlast
        decide
    have htext : name ++ (is ++ [i]).flatMap (fun i => (Name.index i).chars) =
        (name ++ is.flatMap fun i => (Name.index i).chars) ++ '(' :: (formatInt i ++ [')']) := by
      simp [Name.chars]
    have hlast : ((name ++ is.flatMap fun i => (Name.index i).chars) ++
        '(' :: (formatInt i ++ [')'])).getLast? = some ')' := by
      rw [← List.cons_append, ← List.append_assoc, List.getLast?_concat]
    rw [htext, peelIndexes, if_pos hlast]
    split
    · next hnone =>
      rw [splitLast_append hbracket] at hnone
      cases hnone
    · next first rest hsome =>
      rw [splitLast_append hbracket] at hsome
      obtain ⟨rfl, rfl⟩ := Prod.mk.inj (Option.some.inj hsome)
      rw [List.dropLast_concat, parseInt_formatInt, ok_bind, ih, List.append_assoc]
      rfl

/-- A name and its indexes. -/
def indexed (name : String) (indexes : List ℤ) : List Name := .str name :: indexes.map .index

theorem namesFromItem_indexed {name : String} (h : (Name.str name).WellFormed) (is : List ℤ) :
    namesFromItem (name.toList ++ is.flatMap fun i => (Name.index i).chars) =
      .ok (indexed name is) := by
  simp only [namesFromItem, peelIndexes_append h.2, ok_bind, pure_eq_ok, List.append_nil,
    String.ofList_toList]
  rfl

/-- Names are some indexes, and then names with their own. -/
theorem exists_indexed {names : List Name} (h : ∀ name ∈ names, name.WellFormed) :
    ∃ (is : List ℤ) (groups : List (String × List ℤ)),
      names = is.map Name.index ++ groups.flatMap (fun group => indexed group.1 group.2) ∧
        ∀ group ∈ groups, (Name.str group.1).WellFormed := by
  induction names with
  | nil => exact ⟨[], [], rfl, nofun⟩
  | cons name names ih =>
    obtain ⟨is, groups, rfl, hgroups⟩ := ih fun name hname => h name (List.mem_cons_of_mem _ hname)
    cases name with
    | index i => exact ⟨i :: is, groups, rfl, hgroups⟩
    | str name =>
      refine ⟨[], (name, is) :: groups, rfl, ?_⟩
      intro group hgroup
      rcases List.mem_cons.mp hgroup with rfl | hgroup
      · exact h (.str name) List.mem_cons_self
      · exact hgroups group hgroup

theorem DataRef.WellFormed.exists_indexed {ref : DataRef} (h : ref.WellFormed) :
    ∃ groups : List (String × List ℤ),
      ref.names = groups.flatMap (fun group => indexed group.1 group.2) ∧
        ∀ group ∈ groups, (Name.str group.1).WellFormed := by
  obtain ⟨is, groups, hnames, hgroups⟩ := Iec61850.exists_indexed h.names
  cases is with
  | nil => exact ⟨groups, hnames, hgroups⟩
  | cons i is =>
    have hhead : ref.names.head? = some (.index i) := by rw [hnames]; rfl
    exact absurd hhead (h.head i)

/-! ### Object names -/

/-- Parts, each after a separator. -/
theorem append_flatMap_cons (sep : Char) (first : List Char) (parts : List (List Char)) :
    first ++ parts.flatMap (sep :: ·) = [sep].intercalate (first :: parts) := by
  induction parts generalizing first with
  | nil => simp
  | cons part parts ih =>
    rw [List.flatMap_cons, List.cons_append, ih, List.intercalate_cons_cons, List.append_assoc]
    rfl

theorem splitOn_append_flatMap {sep : Char} {first : List Char} {parts : List (List Char)}
    (h : ∀ part ∈ first :: parts, sep ∉ part) :
    (first ++ parts.flatMap (sep :: ·)).splitOn sep = first :: parts := by
  rw [append_flatMap_cons, List.splitOn_intercalate sep h (List.cons_ne_nil first parts)]

/-- The text of a name and its indexes, without the separator before it. -/
def groupChars (group : String × List ℤ) : List Char :=
  group.1.toList ++ group.2.flatMap fun i => (Name.index i).chars

theorem separator_notMem_groupChars {group : String × List ℤ}
    (h : (Name.str group.1).WellFormed) : '$' ∉ groupChars group := by
  intro hmem
  rcases List.mem_append.mp hmem with hname | hindexes
  · exact h.1 hname
  · obtain ⟨i, _, hchar⟩ := List.mem_flatMap.mp hindexes
    rcases List.mem_append.mp hchar with hdigits | hlast
    · rcases List.mem_cons.mp hdigits with hfirst | hdigits
      · revert hfirst
        decide
      · rcases isDigit_of_mem_formatInt hdigits with hminus | hdigit
        · revert hminus
          decide
        · revert hdigit
          decide
    · revert hlast
      decide

theorem mapM_namesFromItem {groups : List (String × List ℤ)}
    (h : ∀ group ∈ groups, (Name.str group.1).WellFormed) :
    (groups.map groupChars).mapM namesFromItem =
      .ok (groups.map fun group => indexed group.1 group.2) := by
  induction groups with
  | nil => rfl
  | cons group groups ih =>
    have hgroup := namesFromItem_indexed (h group List.mem_cons_self) group.2
    rw [List.map_cons, List.mapM_cons, groupChars, hgroup,
      ih fun group hmem => h group (List.mem_cons_of_mem _ hmem)]
    rfl

theorem dataRefFromObjectName_item {ref : DataRef} (h : ref.WellFormed) :
    dataRefFromObjectName (dataRefToObjectName ref) = .ok ref := by
  obtain ⟨groups, hnames, hgroups⟩ := h.exists_indexed
  have hchars : dataRefItem ref = ref.logicalNode.toList ++
      (ref.fc.toList :: groups.map groupChars).flatMap ('$' :: ·) := by
    have hgroup : ∀ group : String × List ℤ,
        (indexed group.1 group.2).flatMap Name.chars = '$' :: groupChars group := by
      intro group
      simp [indexed, groupChars, Name.chars, List.flatMap_map]
    simp only [dataRefItem, hnames, List.flatMap_assoc, hgroup, List.flatMap_cons,
      List.flatMap_map, List.cons_append, List.append_assoc]
  have hsplit : (dataRefItem ref).splitOn '$' =
      ref.logicalNode.toList :: ref.fc.toList :: groups.map groupChars := by
    rw [hchars]
    apply splitOn_append_flatMap
    intro part hpart
    rcases List.mem_cons.mp hpart with rfl | hpart
    · exact h.logicalNode
    rcases List.mem_cons.mp hpart with rfl | hpart
    · exact h.fc
    obtain ⟨group, hgroup, rfl⟩ := List.mem_map.mp hpart
    exact separator_notMem_groupChars (hgroups group hgroup)
  simp only [dataRefToObjectName, dataRefFromObjectName, String.toList_ofList, hsplit,
    mapM_namesFromItem hgroups, ok_bind, pure_eq_ok, String.ofList_toList]
  rw [← List.flatMap_def, ← hnames]

theorem dataRefFromStr_toStr {ref : DataRef} (h : ref.WellFormed) :
    dataRefFromStr (dataRefToStr ref) = .ok ref := by
  have hchars : (dataRefToStr ref).toList = ref.logicalDevice.toList ++ '/' :: dataRefItem ref := by
    simp [dataRefToStr]
  rw [dataRefFromStr, hchars, splitOnce_append h.logicalDevice]
  simp only [String.ofList_toList]
  exact dataRefFromObjectName_item h

theorem splitDatasetItem_append {logicalNode name : String} (hnode : '$' ∉ logicalNode.toList)
    (hname : '$' ∉ name.toList) :
    splitDatasetItem (logicalNode.toList ++ '$' :: name.toList) = .ok (logicalNode, name) := by
  have hsplit : (logicalNode.toList ++ [name.toList].flatMap ('$' :: ·)).splitOn '$' =
      logicalNode.toList :: [name.toList] := splitOn_append_flatMap (by simp [hnode, hname])
  rw [List.flatMap_singleton] at hsplit
  rw [splitDatasetItem, hsplit]
  simp only [String.ofList_toList]

theorem datasetRefFromObjectName_toObjectName {ref : DatasetRef} (h : ref.WellFormed) :
    datasetRefFromObjectName (datasetRefToObjectName ref) = .ok ref := by
  cases ref with
  | NonPersistedDatasetRef name => rfl
  | PersistedDatasetRef logicalDevice logicalNode name =>
    have hchars : (logicalNode ++ "$" ++ name).toList = logicalNode.toList ++ '$' :: name.toList := by
      simp
    rw [datasetRefToObjectName, datasetRefFromObjectName, hchars,
      splitDatasetItem_append h.2.1 h.2.2]
    rfl

theorem datasetRefFromStr_toStr {ref : DatasetRef} (h : ref.WellFormed) :
    datasetRefFromStr (datasetRefToStr ref) = .ok ref := by
  cases ref with
  | NonPersistedDatasetRef name => simp [datasetRefToStr, datasetRefFromStr]
  | PersistedDatasetRef logicalDevice logicalNode name =>
    obtain ⟨⟨hslash, hat⟩, hnode, hname⟩ := h
    have hchars : (datasetRefToStr (.PersistedDatasetRef logicalDevice logicalNode name)).toList =
        logicalDevice.toList ++ '/' :: (logicalNode.toList ++ '$' :: name.toList) := by
      simp [datasetRefToStr]
    have hhead : (logicalDevice.toList ++
        '/' :: (logicalNode.toList ++ '$' :: name.toList)).head? ≠ some '@' := by
      cases hdevice : logicalDevice.toList with
      | nil => simp
      | cons c cs =>
        rw [hdevice] at hat
        exact hat
    rw [datasetRefFromStr, hchars, if_neg hhead, splitOnce_append hslash]
    simp only [splitDatasetItem_append hnode hname, ok_bind, pure_eq_ok, String.ofList_toList]

/-- **References are read back.** -/
theorem references_inverse :
    (∀ ref : DataRef, ref.WellFormed →
      dataRefFromStr (dataRefToStr ref) = .ok ref ∧
        dataRefFromObjectName (dataRefToObjectName ref) = .ok ref) ∧
    (∀ ref : DatasetRef, ref.WellFormed →
      datasetRefFromStr (datasetRefToStr ref) = .ok ref ∧
        datasetRefFromObjectName (datasetRefToObjectName ref) = .ok ref) :=
  ⟨fun _ h => ⟨dataRefFromStr_toStr h, dataRefFromObjectName_item h⟩,
    fun _ h => ⟨datasetRefFromStr_toStr h, datasetRefFromObjectName_toObjectName h⟩⟩

/-- The twelfth harmonic of the third phase, and a dataset of it. -/
theorem references_inverse_harmonic :
    dataRefFromStr (dataRefToStr
        ⟨"LD0", "MHAI1", "MX", [.str "HA", .index 3, .index 12, .str "mag"]⟩) =
        .ok ⟨"LD0", "MHAI1", "MX", [.str "HA", .index 3, .index 12, .str "mag"]⟩ ∧
      datasetRefFromStr (datasetRefToStr (.PersistedDatasetRef "LD0" "LLN0" "harmonics")) =
        .ok (.PersistedDatasetRef "LD0" "LLN0" "harmonics") :=
  ⟨(references_inverse.1 _ ⟨by decide, by decide, by decide,
      by decide, by intro i; exact nofun⟩).1,
    (references_inverse.2 (.PersistedDatasetRef "LD0" "LLN0" "harmonics")
      ⟨⟨by decide, by decide⟩, by decide, by decide⟩).1⟩

end HatDrivers.Iec61850
