import Mathlib.Data.List.Nodup

namespace HatDrivers.Lib

/-!
# Dicts

A dict is the list of its items, in the order in which their keys came.  One that is built of
items (`dictOf`) has each key once, with its last value, and is built of itself again.
-/

variable {κ ν : Type} [DecidableEq κ] {k : κ} {v : ν} {d items : List (κ × ν)}

/-- `d[k] = v` -/
def dictSet (d : List (κ × ν)) (k : κ) (v : ν) : List (κ × ν) :=
  if k ∈ d.map Prod.fst then d.map fun item => if item.1 = k then (k, v) else item
  else d ++ [(k, v)]

/-- `{k: v for k, v in items}` -/
def dictOf (items : List (κ × ν)) : List (κ × ν) :=
  items.foldl (fun d item => dictSet d item.1 item.2) []

theorem keys_dictSet (d : List (κ × ν)) (k : κ) (v : ν) :
    (dictSet d k v).map Prod.fst =
      if k ∈ d.map Prod.fst then d.map Prod.fst else d.map Prod.fst ++ [k] := by
  unfold dictSet
  split
  · rw [List.map_map]
    apply List.map_congr_left
    intro item _
    by_cases hk : item.1 = k <;> simp [hk]
  · simp

theorem nodup_dictSet (h : (d.map Prod.fst).Nodup) (k : κ) (v : ν) :
    ((dictSet d k v).map Prod.fst).Nodup := by
  rw [keys_dictSet]
  split
  · exact h
  · rename_i hk
    rw [← List.concat_eq_append]
    exact h.concat hk

/-- A dict has each of its keys once. -/
theorem nodup_dictOf (items : List (κ × ν)) : ((dictOf items).map Prod.fst).Nodup := by
  have hfold : ∀ (items d : List (κ × ν)), (d.map Prod.fst).Nodup →
      ((items.foldl (fun d item => dictSet d item.1 item.2) d).map Prod.fst).Nodup := by
    intro items
    induction items with
    | nil => exact fun d h => h
    | cons item items ih => exact fun d h => ih _ (nodup_dictSet h item.1 item.2)
  exact hfold items [] List.nodup_nil

theorem mem_dictSet {item : κ × ν} (h : item ∈ dictSet d k v) : item ∈ d ∨ item = (k, v) := by
  unfold dictSet at h
  split at h
  · obtain ⟨item', hmem, rfl⟩ := List.mem_map.mp h
    split
    · exact .inr rfl
    · exact .inl hmem
  · rcases List.mem_append.mp h with h | h
    · exact .inl h
    · exact .inr (List.mem_singleton.mp h)

/-- What is in a dict is one of the items that it was built of. -/
theorem mem_dictOf {item : κ × ν} (h : item ∈ dictOf items) : item ∈ items := by
  have hfold : ∀ (items d : List (κ × ν)),
      item ∈ items.foldl (fun d item => dictSet d item.1 item.2) d → item ∈ d ∨ item ∈ items := by
    intro items
    induction items with
    | nil => exact fun d h => .inl h
    | cons item' items ih =>
      intro d h
      rcases ih _ h with h | h
      · rcases mem_dictSet h with h | rfl
        · exact .inl h
        · exact .inr (List.mem_cons_self ..)
      · exact .inr (List.mem_cons_of_mem _ h)
  exact (hfold items [] h).elim (fun h => absurd h List.not_mem_nil) id

/-- Items with distinct keys are the dict that is built of them. -/
theorem dictOf_of_nodup (h : (items.map Prod.fst).Nodup) : dictOf items = items := by
  have hfold : ∀ (items d : List (κ × ν)), ((d ++ items).map Prod.fst).Nodup →
      items.foldl (fun d item => dictSet d item.1 item.2) d = d ++ items := by
    intro items
    induction items with
    | nil => exact fun d _ => (List.append_nil d).symm
    | cons item items ih =>
      intro d h
      have hnew : item.1 ∉ d.map Prod.fst := by
        rw [List.map_append, List.nodup_append] at h
        exact fun hmem => h.2.2 _ hmem _ (List.mem_cons_self ..) rfl
      rw [List.foldl_cons, dictSet, if_neg hnew, ih _ (by simpa using h), List.append_assoc]
      rfl
  exact hfold items [] h

/-- A dict is built of its items again. -/
theorem dictOf_dictOf (items : List (κ × ν)) : dictOf (dictOf items) = dictOf items :=
  dictOf_of_nodup (nodup_dictOf items)

section Lookup

variable {κ : Type} [BEq κ] [LawfulBEq κ] {k : κ} {d : List (κ × ν)}

/-- `d[k]` of an item. -/
theorem lookup_of_mem (hd : (d.map Prod.fst).Nodup) (h : (k, v) ∈ d) : d.lookup k = some v := by
  induction d with
  | nil => cases h
  | cons item d ih =>
    rw [List.map_cons, List.nodup_cons] at hd
    rcases List.mem_cons.mp h with rfl | h
    · exact List.lookup_cons_self
    · have hne : k ≠ item.1 := by
        rintro rfl
        exact hd.1 (List.mem_map.mpr ⟨_, h, rfl⟩)
      rw [List.lookup_cons, beq_false_of_ne hne]
      exact ih hd.2 h

theorem mem_of_lookup (h : d.lookup k = some v) : (k, v) ∈ d := by
  induction d with
  | nil => cases h
  | cons item d ih =>
    rw [List.lookup_cons] at h
    cases hk : k == item.1 with
    | true =>
      rw [hk] at h
      obtain rfl := Option.some.inj h
      obtain rfl := eq_of_beq hk
      exact List.mem_cons_self ..
    | false =>
      rw [hk] at h
      exact List.mem_cons_of_mem _ (ih h)

end Lookup

end HatDrivers.Lib
