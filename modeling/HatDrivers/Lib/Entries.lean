import Mathlib.Data.List.Basic

namespace HatDrivers.Lib

/-!
# Numbered entries

Lists that only grow and whose entries are named by their places: what is done to one
entry, and what that leaves of the others.
-/

variable {α : Type} {as bs : List α} {a b : α} {f : α → α} {i j : ℕ}

/-! ### New entries -/

/-- The entries of a list that grew by one. -/
theorem getElem?_concat_eq_some :
    (as ++ [a])[i]? = some b ↔ as[i]? = some b ∨ i = as.length ∧ a = b := by
  rcases Nat.lt_trichotomy i as.length with hlt | rfl | hgt
  · rw [List.getElem?_append_left hlt]
    constructor
    · exact .inl
    · rintro (h | ⟨rfl, -⟩)
      · exact h
      · exact absurd hlt (Nat.lt_irrefl _)
  · simp
  · rw [List.getElem?_eq_none (by simp; omega), List.getElem?_eq_none (by omega)]
    simp
    omega

/-! ### Changed entries -/

/-- The entries of a list after one of them was replaced. -/
theorem getElem?_set_eq_some :
    (as.set i a)[j]? = some b ↔
      (i ≠ j ∧ as[j]? = some b) ∨ (i = j ∧ i < as.length ∧ a = b) := by
  rw [List.getElem?_set]
  by_cases hij : i = j
  · by_cases hi : i < as.length <;> simp [hij]
  · simp [hij]

/-- The entries of a list after one of them was changed. -/
theorem getElem?_modify_eq_some :
    (as.modify i f)[j]? = some b ↔
      (i ≠ j ∧ as[j]? = some b) ∨ (i = j ∧ ∃ a, as[j]? = some a ∧ f a = b) := by
  rw [List.getElem?_modify]
  by_cases hij : i = j
  · simp [hij]
  · simp [hij]

/-- What holds of all entries holds of them after one was replaced. -/
theorem forall_mem_set {p : α → Prop} (h : ∀ b ∈ as, p b) (ha : p a) : ∀ b ∈ as.set i a, p b := by
  intro b hb
  rcases List.mem_or_eq_of_mem_set hb with hb | rfl
  · exact h b hb
  · exact ha

/-- A view of the entries that does not tell two of them apart. -/
theorem map_set_of_eq {β : Type} {g : α → β} (hi : as[i]? = some a) (h : g b = g a) :
    (as.set i b).map g = as.map g := by
  obtain ⟨hlt, hget⟩ := List.getElem?_eq_some_iff.mp hi
  have hlt' : i < (as.map g).length := by rwa [List.length_map]
  have hentry : g b = (as.map g)[i] := by rw [List.getElem_map, hget, h]
  rw [List.map_set, hentry, List.set_getElem_self]

theorem modify_append (as bs : List α) (i : ℕ) (f : α → α) :
    (as ++ bs).modify i f =
      if i < as.length then as.modify i f ++ bs else as ++ bs.modify (i - as.length) f := by
  induction as generalizing i with
  | nil => simp
  | cons a as ih =>
    cases i with
    | zero => simp
    | succ i =>
      rw [List.cons_append, List.modify_succ_cons, ih, List.length_cons, List.modify_succ_cons,
        Nat.add_sub_add_right]
      by_cases h : i < as.length
      · rw [if_pos h, if_pos (by omega)]
        rfl
      · rw [if_neg h, if_neg (by omega)]
        rfl

/-- A function that changes no element changes no list. -/
theorem modify_eq_of_forall (h : ∀ a ∈ as, f a = a) (i : ℕ) :
    as.modify i f = as := by
  induction as generalizing i with
  | nil => simp
  | cons a as ih =>
    cases i with
    | zero => rw [List.modify_zero_cons, h a (by simp)]
    | succ i => rw [List.modify_succ_cons, ih fun a' ha' => h a' (by simp [ha'])]

theorem mem_modify (h : a ∈ as.modify i f) :
    a ∈ as ∨ ∃ a' ∈ as, a = f a' := by
  induction as generalizing i with
  | nil => simp at h
  | cons b as ih =>
    cases i with
    | zero =>
      rw [List.modify_zero_cons] at h
      rcases List.mem_cons.mp h with rfl | h
      · exact .inr ⟨b, by simp, rfl⟩
      · exact .inl (by simp [h])
    | succ i =>
      rw [List.modify_succ_cons] at h
      rcases List.mem_cons.mp h with rfl | h
      · exact .inl (by simp)
      · rcases ih h with h | ⟨a', ha', rfl⟩
        · exact .inl (by simp [h])
        · exact .inr ⟨a', by simp [ha'], rfl⟩

/-! ### Contents of entries -/

section Contents

variable {β : Type} {g : α → List β}

theorem flatMap_modify (h : as[i]? = some a) :
    (as.modify i f).flatMap g =
      (as.take i).flatMap g ++ g (f a) ++ (as.drop (i + 1)).flatMap g := by
  induction as generalizing i with
  | nil => simp at h
  | cons b as ih =>
    cases i with
    | zero =>
      obtain rfl := Option.some.inj h
      simp
    | succ i =>
      rw [List.modify_succ_cons, List.flatMap_cons, ih h]
      simp

/-- An entry gets contents that go after those of all others. -/
theorem flatMap_modify_of_nil (h : as[i]? = some a)
    (hnil : ∀ j b, i ≤ j → as[j]? = some b → g b = []) :
    (as.modify i f).flatMap g = as.flatMap g ++ g (f a) := by
  have hrest : ∀ k, i ≤ k → (as.drop k).flatMap g = [] := by
    intro k hk
    apply List.flatMap_eq_nil_iff.mpr
    intro b hb
    obtain ⟨j, hj⟩ := List.getElem?_of_mem hb
    rw [List.getElem?_drop] at hj
    exact hnil (k + j) b (by omega) hj
  have hall : as.flatMap g = (as.take i).flatMap g := by
    conv_lhs => rw [← List.take_append_drop i as, List.flatMap_append, hrest i (Nat.le_refl i),
      List.append_nil]
  rw [flatMap_modify h, hrest (i + 1) (Nat.le_succ i), List.append_nil, hall]

/-- An entry keeps its contents. -/
theorem flatMap_modify_of_eq (hg : ∀ a, as[i]? = some a → g (f a) = g a) :
    (as.modify i f).flatMap g = as.flatMap g := by
  induction as generalizing i with
  | nil => simp
  | cons b as ih =>
    cases i with
    | zero => rw [List.modify_zero_cons, List.flatMap_cons, hg b rfl, List.flatMap_cons]
    | succ i =>
      rw [List.modify_succ_cons, List.flatMap_cons, ih fun a ha => hg a ha, List.flatMap_cons]

theorem length_flatMap_modify (h : as[i]? = some a) :
    ((as.modify i f).flatMap g).length + (g a).length =
      (as.flatMap g).length + (g (f a)).length := by
  induction as generalizing i with
  | nil => simp at h
  | cons b as ih =>
    cases i with
    | zero =>
      obtain rfl := Option.some.inj h
      simp only [List.modify_zero_cons, List.flatMap_cons, List.length_append]
      omega
    | succ i =>
      have := ih h
      simp only [List.modify_succ_cons, List.flatMap_cons, List.length_append]
      omega

end Contents

end HatDrivers.Lib
