import HatDrivers.Lib.ReadWhile

namespace HatDrivers.Lib

/-!
# Errors of computations and of readers

A computation `Raises p` if the errors it fails with, if it does, are in `p`.  A reader
`Takes p n` if it fails in that way, and if it takes at least `n` bytes off the front of its data
where it does not fail.  A loop over such a reader of at least one byte ends where the data ends
(`readWhile_cons`), and fails like its steps (`Takes.readWhile`).
-/

variable {ε σ α β : Type} {p : ε → Prop}

/-! ### Computations -/

/-- The errors of a computation are in `p`. -/
def Raises (p : ε → Prop) (x : Except ε α) : Prop := ∀ e, x = .error e → p e

theorem raises_ok (a : α) : Raises p (.ok a : Except ε α) := fun _ h => nomatch h

theorem raises_error {e : ε} (h : p e) : Raises p (.error e : Except ε α) := by
  rintro _ ⟨⟩
  exact h

theorem Raises.bind {x : Except ε α} {f : α → Except ε β} (h : Raises p x)
    (hf : ∀ a, x = .ok a → Raises p (f a)) : Raises p (x >>= f) := by
  cases x with
  | error e => exact raises_error (h e rfl)
  | ok a => exact hf a rfl

theorem raises_ite {c : Prop} [Decidable c] {x y : Except ε α} (hx : c → Raises p x)
    (hy : ¬ c → Raises p y) : Raises p (if c then x else y) := by
  by_cases hc : c
  · rw [if_pos hc]
    exact hx hc
  · rw [if_neg hc]
    exact hy hc

/-! ### Readers -/

/-- A value and what is left of the data, or an error in `p`: at least `n` bytes are taken off the
front. -/
structure Taken (p : ε → Prop) (n : ℕ) (bs : Bytes) (x : Except ε (α × Bytes)) : Prop where
  raises : Raises p x
  suffix : ∀ a rest, x = .ok (a, rest) → rest <:+ bs ∧ rest.length + n ≤ bs.length

/-- The reader takes at least `n` bytes off the front, or fails with an error in `p`. -/
def Takes (p : ε → Prop) (n : ℕ) (r : ByteReader ε α) : Prop := ∀ bs, Taken p n bs (r bs)

variable {m n k : ℕ} {bs rest : Bytes} {r : ByteReader ε α}

theorem taken_ok (a : α) (h : rest <:+ bs) (hlen : rest.length + n ≤ bs.length) :
    Taken p n bs (.ok (a, rest) : Except ε (α × Bytes)) where
  raises := raises_ok _
  suffix := by
    rintro _ _ ⟨⟩
    exact ⟨h, hlen⟩

theorem taken_self (a : α) : Taken p 0 bs (.ok (a, bs) : Except ε (α × Bytes)) :=
  taken_ok a (List.suffix_refl bs) (le_refl _)

theorem taken_drop (a : α) (i : ℕ) : Taken p 0 bs (.ok (a, bs.drop i) : Except ε (α × Bytes)) :=
  taken_ok a (List.drop_suffix i bs) (by rw [List.length_drop]; omega)

theorem taken_error {e : ε} (h : p e) : Taken p n bs (.error e : Except ε (α × Bytes)) where
  raises := raises_error h
  suffix := fun _ _ hread => nomatch hread

theorem taken_ite {c : Prop} [Decidable c] {x y : Except ε (α × Bytes)} (hx : c → Taken p n bs x)
    (hy : ¬ c → Taken p n bs y) : Taken p n bs (if c then x else y) := by
  by_cases hc : c
  · rw [if_pos hc]
    exact hx hc
  · rw [if_neg hc]
    exact hy hc

/-- A check, or a computation that reads nothing. -/
theorem Raises.taken {x : Except ε α} {f : α → Except ε (β × Bytes)} (h : Raises p x)
    (hf : ∀ a, x = .ok a → Taken p n bs (f a)) : Taken p n bs (x >>= f) := by
  cases x with
  | error e => exact taken_error (h e rfl)
  | ok a => exact hf a rfl

/-- One reader after the other. -/
theorem Taken.bind {x : Except ε (α × Bytes)} {f : α × Bytes → Except ε (β × Bytes)}
    (h : Taken p m bs x) (hf : ∀ a rest, x = .ok (a, rest) → Taken p n rest (f (a, rest)))
    (hk : k ≤ m + n) : Taken p k bs (x >>= f) := by
  cases x with
  | error e => exact taken_error (h.raises e rfl)
  | ok q =>
    obtain ⟨a, mid⟩ := q
    obtain ⟨hmid, hmid'⟩ := h.suffix a mid rfl
    refine ⟨(hf a mid rfl).raises, ?_⟩
    intro b rest hread
    obtain ⟨hrest, hrest'⟩ := (hf a mid rfl).suffix b rest hread
    exact ⟨hrest.trans hmid, by omega⟩

theorem Takes.map (h : Takes p n r) (f : α → β) : Takes p n (mapRead f r) := fun bs =>
  (h bs).bind (fun a _ _ => taken_self (f a)) (le_refl _)

theorem Takes.pair {s : ByteReader ε β} (hr : Takes p m r) (hs : Takes p n s) :
    Takes p (m + n) (pairRead r s) := fun bs =>
  (hr bs).bind (fun a rest _ => (hs rest).bind (fun b _ _ => taken_self (a, b)) (le_refl _))
    (le_refl _)

theorem Takes.mono (h : Takes p n r) (hle : m ≤ n) : Takes p m r := fun bs =>
  { raises := (h bs).raises
    suffix := fun a rest hread =>
      ⟨((h bs).suffix a rest hread).1,
        Nat.le_trans (Nat.add_le_add_left hle _) ((h bs).suffix a rest hread).2⟩ }

/-! ### Loops -/

variable {step : σ → ByteReader ε σ} {st : σ}

theorem Takes.length_lt (h : Takes p 1 r) {q : α × Bytes} (hread : r bs = .ok q) :
    q.2.length < bs.length :=
  ((h bs).suffix q.1 q.2 hread).2

theorem readWhileFuel_of_le (h : ∀ st, Takes p 1 (step st)) {fuel fuel' : ℕ}
    (hfuel : bs.length ≤ fuel) (hfuel' : bs.length ≤ fuel') :
    readWhileFuel step fuel st bs = readWhileFuel step fuel' st bs := by
  induction fuel generalizing fuel' st bs with
  | zero =>
    obtain rfl := List.length_eq_zero_iff.mp (Nat.le_zero.mp hfuel)
    cases fuel' <;> rfl
  | succ fuel ih =>
    cases bs with
    | nil => cases fuel' <;> rfl
    | cons b bs =>
      rw [List.length_cons] at hfuel hfuel'
      obtain ⟨fuel', rfl⟩ : ∃ k, fuel' = k + 1 := ⟨fuel' - 1, by omega⟩
      simp only [readWhileFuel]
      cases hstep : step st (b :: bs) with
      | error e => rfl
      | ok q =>
        have hlen := (h st).length_lt hstep
        rw [List.length_cons] at hlen
        exact ih (by omega) (by omega)

/-- **The loop goes on as long as there is data.** -/
theorem readWhile_cons (h : ∀ st, Takes p 1 (step st)) (b : UInt8) (bs : Bytes) :
    readWhile step st (b :: bs) = step st (b :: bs) >>= fun q => readWhile step q.1 q.2 := by
  rw [readWhile, List.length_cons, readWhileFuel]
  cases hstep : step st (b :: bs) with
  | error e => rfl
  | ok q =>
    have hlen := (h st).length_lt hstep
    rw [List.length_cons] at hlen
    exact readWhileFuel_of_le h (by omega) (le_refl _)

theorem Takes.readWhile (h : ∀ st, Takes p 1 (step st)) (st : σ) (bs : Bytes) :
    Raises p (readWhile step st bs) := by
  induction hlen : bs.length using Nat.strong_induction_on generalizing st bs with
  | _ len ih =>
    subst hlen
    cases bs with
    | nil => exact raises_ok st
    | cons b bs =>
      rw [readWhile_cons h]
      refine ((h st) _).raises.bind fun q hq => ?_
      exact ih q.2.length ((h st).length_lt hq) q.1 q.2 rfl

theorem Takes.readAll (h : Takes p 1 r) (bs : Bytes) : Raises p (readAll r bs) := by
  have hpush : ∀ as : List α, Takes p 1 (readPush r as) := fun as bs =>
    (h bs).bind (fun a _ _ => taken_self (as ++ [a])) (le_refl _)
  exact Takes.readWhile hpush [] bs

end HatDrivers.Lib
