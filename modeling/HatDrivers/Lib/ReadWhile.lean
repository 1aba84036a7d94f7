import HatDrivers.Lib.Reads

namespace HatDrivers.Lib

/-!
# Reading until the data ends

A loop takes chunks off a byte string, each changing a state, until nothing is left.
`Chunks step s bs s'` says that `bs` falls into chunks that take the state from `s`
to `s'`; then so does the loop (`Chunks.readWhile`).
-/

variable {ε σ α : Type}

/-- `readWhile` with a bound on the number of steps. -/
def readWhileFuel (step : σ → ByteReader ε σ) : ℕ → σ → Bytes → Except ε σ
  | _, s, [] => .ok s
  | 0, s, _ :: _ => .ok s
  | fuel + 1, s, b :: bs => do
    let (s, rest) ← step s (b :: bs)
    readWhileFuel step fuel s rest

/-- `while data: s, data = step(s, data)`.  Every step takes a byte, so there are at
most as many as the data has bytes. -/
def readWhile (step : σ → ByteReader ε σ) (s : σ) (data : Bytes) : Except ε σ :=
  readWhileFuel step data.length s data

/-- One more value at the end of a list. -/
def readPush (r : ByteReader ε α) (as : List α) : ByteReader ε (List α) := fun data => do
  let (a, data) ← r data
  return (as ++ [a], data)

/-- Reads values until the data ends. -/
def readAll (r : ByteReader ε α) (data : Bytes) : Except ε (List α) :=
  readWhile (readPush r) [] data

/-- A byte string of chunks that take the state from one to another. -/
inductive Chunks (step : σ → ByteReader ε σ) : σ → Bytes → σ → Prop
  | nil (s : σ) : Chunks step s [] s
  | cons {s s' s'' : σ} {chunk bs : Bytes} (hne : chunk ≠ []) (h : Reads (step s) chunk s')
      (tail : Chunks step s' bs s'') : Chunks step s (chunk ++ bs) s''

variable {step : σ → ByteReader ε σ} {s s' s'' : σ} {bs bs' : Bytes}

theorem Chunks.single (hne : bs ≠ []) (h : Reads (step s) bs s') : Chunks step s bs s' := by
  have hchunks := Chunks.cons hne h (.nil s')
  rwa [List.append_nil] at hchunks

theorem Chunks.append (h : Chunks step s bs s') (h' : Chunks step s' bs' s'') :
    Chunks step s (bs ++ bs') s'' := by
  induction h with
  | nil s => exact h'
  | cons hne hr _ ih =>
    rw [List.append_assoc]
    exact .cons hne hr (ih h')

theorem Chunks.readWhileFuel (h : Chunks step s bs s') {fuel : ℕ} (hfuel : bs.length ≤ fuel) :
    readWhileFuel step fuel s bs = .ok s' := by
  induction h generalizing fuel with
  | nil s => cases fuel <;> rfl
  | @cons s s' s'' chunk bs hne hr _ ih =>
    have hpos : 0 < chunk.length := List.length_pos_iff.mpr hne
    rw [List.length_append] at hfuel
    obtain ⟨fuel, rfl⟩ : ∃ n, fuel = n + 1 := ⟨fuel - 1, by omega⟩
    obtain ⟨b, rest, hrest⟩ : ∃ b rest, chunk ++ bs = b :: rest :=
      List.exists_cons_of_length_pos (by rw [List.length_append]; omega)
    have hread := hr bs
    rw [hrest] at hread ⊢
    rw [Lib.readWhileFuel, hread]
    exact ih (by omega)

/-- **The loop follows the chunks to the end.** -/
theorem Chunks.readWhile (h : Chunks step s bs s') : readWhile step s bs = .ok s' :=
  h.readWhileFuel (Nat.le_refl _)

/-- What every step keeps, the loop keeps. -/
theorem readWhileFuel_invariant {Inv : σ → Prop}
    (hstep : ∀ s bs s' rest, Inv s → step s bs = .ok (s', rest) → Inv s') {fuel : ℕ}
    (hinv : Inv s) (h : readWhileFuel step fuel s bs = .ok s') : Inv s' := by
  induction fuel generalizing s bs with
  | zero =>
    cases bs <;> (obtain rfl := Except.ok.inj h; exact hinv)
  | succ fuel ih =>
    cases bs with
    | nil =>
      obtain rfl := Except.ok.inj h
      exact hinv
    | cons b bs =>
      obtain ⟨⟨s₁, rest⟩, hs₁, h⟩ := bind_eq_ok.mp h
      exact ih (hstep s _ s₁ rest hinv hs₁) h

theorem readWhile_invariant {Inv : σ → Prop}
    (hstep : ∀ s bs s' rest, Inv s → step s bs = .ok (s', rest) → Inv s')
    (hinv : Inv s) (h : readWhile step s bs = .ok s') : Inv s' :=
  readWhileFuel_invariant hstep hinv h

/-! ### Lists of values -/

variable {w : ByteWriter ε α} {r : ByteReader ε α} {g : α → Except ε α} {as : List α} {ns : List ℕ}

/-- What the reader makes of every written value, whether it fails or not, the loop makes
of the list. -/
theorem readWhileFuel_readPush
    (h : ∀ a ∈ as, ∃ ms, w a = .ok ms ∧ ms ≠ [] ∧
      ∀ rest, r (bytesOf ms ++ rest) = (do return (← g a, rest)))
    (hns : writeAll w as = .ok ns) (before : List α) {fuel : ℕ} (hfuel : ns.length ≤ fuel) :
    readWhileFuel (readPush r) fuel before (bytesOf ns) = (do return before ++ (← as.mapM g)) := by
  induction as generalizing before ns fuel with
  | nil =>
    obtain rfl : [] = ns := Except.ok.inj hns
    cases fuel <;> simp [readWhileFuel]
  | cons a as ih =>
    obtain ⟨ms, ms', hms, hms', rfl⟩ := writeAll_cons_eq_ok.mp hns
    obtain ⟨ms'', hw, hne, hr⟩ := h a (by simp)
    obtain rfl : ms'' = ms := by rw [hms] at hw; exact (Except.ok.inj hw).symm
    have hpos : 0 < ms''.length := List.length_pos_iff.mpr hne
    rw [List.length_append] at hfuel
    obtain ⟨fuel, rfl⟩ : ∃ n, fuel = n + 1 := ⟨fuel - 1, by omega⟩
    obtain ⟨b, rest, hrest⟩ : ∃ b rest, bytesOf ms'' ++ bytesOf ms' = b :: rest :=
      List.exists_cons_of_length_pos (by simp; omega)
    have hread := hr (bytesOf ms')
    have htail := fun before => ih (fun a' ha' => h a' (by simp [ha'])) hms' before
      (show ms'.length ≤ fuel by omega)
    rw [bytesOf_append, hrest, readWhileFuel, readPush, ← hrest, hread, List.mapM_cons]
    cases g a with
    | error e => rfl
    | ok a' => simp [htail]

theorem readAll_mapM
    (h : ∀ a ∈ as, ∃ ms, w a = .ok ms ∧ ms ≠ [] ∧
      ∀ rest, r (bytesOf ms ++ rest) = (do return (← g a, rest)))
    (hns : writeAll w as = .ok ns) : readAll r (bytesOf ns) = as.mapM g := by
  have hall := readWhileFuel_readPush h hns [] (Nat.le_refl ns.length)
  rw [readAll, readWhile, length_bytesOf, hall]
  cases as.mapM g <;> rfl

/-- A list is read back iff each of its values is. -/
theorem mapM_eq_ok_self_iff : as.mapM g = .ok as ↔ ∀ a ∈ as, g a = .ok a := by
  constructor
  · intro h
    induction as with
    | nil => simp
    | cons a as ih =>
      rw [List.mapM_cons] at h
      obtain ⟨a', ha, h⟩ := bind_eq_ok.mp h
      obtain ⟨as', has, h⟩ := bind_eq_ok.mp h
      simp only [pure_eq_ok, Except.ok.injEq, List.cons.injEq] at h
      obtain ⟨rfl, rfl⟩ := h
      simpa [ha] using ih has
  · intro h
    have hmap := mapM_eq_ok_map (g := id) h
    rwa [List.map_id] at hmap

/-- **Values written one after the other are all read back**, up to the end. -/
theorem readAll_writeAll (h : ∀ a ∈ as, ∃ ms, w a = .ok ms ∧ ms ≠ [] ∧ Reads r (bytesOf ms) a)
    (hns : writeAll w as = .ok ns) : readAll r (bytesOf ns) = .ok as := by
  rw [readAll_mapM (g := .ok) (fun a ha => ?_) hns]
  · exact mapM_eq_ok_self_iff.mpr fun a _ => rfl
  · obtain ⟨ms, hms, hne, hr⟩ := h a ha
    exact ⟨ms, hms, hne, hr⟩

/-- If every value of a list is written in its size, the list is in the sum of them. -/
theorem exists_writeAll {size : α → ℕ}
    (h : ∀ a ∈ as, ∃ ns, w a = .ok ns ∧ AllBytes ns ∧ ns.length = size a) :
    ∃ ns, writeAll w as = .ok ns ∧ AllBytes ns ∧ ns.length = (as.map size).sum := by
  induction as with
  | nil => exact ⟨[], rfl, allBytes_nil, rfl⟩
  | cons a as ih =>
    obtain ⟨ms, hms, hb, hl⟩ := h a (by simp)
    obtain ⟨ms', hms', hb', hl'⟩ := ih fun a' ha' => h a' (by simp [ha'])
    exact ⟨ms ++ ms', writeAll_cons_eq_ok.mpr ⟨ms, ms', hms, hms', rfl⟩,
      allBytes_append.mpr ⟨hb, hb'⟩, by simp [hl, hl']⟩

/-- A list of values that are each written and read back. -/
theorem readAll_codes (size : α → ℕ)
    (h : ∀ a ∈ as, CodesIn (size a) (w a) r a ∧ 0 < size a) :
    ∃ ns, writeAll w as = .ok ns ∧ AllBytes ns ∧ ns.length = (as.map size).sum ∧
      readAll r (bytesOf ns) = .ok as := by
  obtain ⟨ns, hns, hb, hl⟩ := exists_writeAll fun a ha => by
    obtain ⟨ms, hms, hb, hl, _⟩ := (h a ha).1
    exact ⟨ms, hms, hb, hl⟩
  refine ⟨ns, hns, hb, hl, readAll_writeAll (fun a ha => ?_) hns⟩
  obtain ⟨⟨ms, hms, _, hlen, hr⟩, hpos⟩ := h a ha
  exact ⟨ms, hms, List.ne_nil_of_length_pos (by omega), hr⟩

end HatDrivers.Lib
