import HatDrivers.Lib.Bytes

namespace HatDrivers.Lib

/-!
# Writers and readers of byte strings

A writer turns a value into the naturals of its bytes or fails; a reader takes a
value off the front of a byte string or fails.  `RoundTrips w r a` says that
whatever `w` writes for `a`, `r` reads back as `a` and leaves the bytes after it
alone.  It is closed under repetition (`RoundTrips.writeAll`), which is how a
list of equally encoded items is proved to be read back.
-/

variable {ε α β : Type}

/-! ### Failing computations -/

@[simp] theorem ok_bind (a : α) (f : α → Except ε β) : (Except.ok a >>= f) = f a := rfl

@[simp] theorem error_bind (e : ε) (f : α → Except ε β) :
    ((Except.error e : Except ε α) >>= f) = Except.error e := rfl

@[simp] theorem pure_eq_ok (a : α) : (pure a : Except ε α) = Except.ok a := rfl

@[simp] theorem throw_eq_error (e : ε) : (throw e : Except ε α) = Except.error e := rfl

/-- A computation that succeeds has a successful first part. -/
theorem bind_eq_ok {x : Except ε α} {f : α → Except ε β} {b : β} :
    (x >>= f) = .ok b ↔ ∃ a, x = .ok a ∧ f a = .ok b := by
  cases x with
  | error e =>
    refine iff_of_false nofun ?_
    rintro ⟨a, hx, _⟩
    cases hx
  | ok a =>
    constructor
    · exact fun h => ⟨a, rfl, h⟩
    · rintro ⟨a', hx, h⟩
      cases hx
      exact h

/-- A value that is checked before it is returned. -/
theorem ite_eq_ok {p : Prop} [Decidable p] {a b : α} {e : ε} :
    (if p then Except.ok a else .error e) = .ok b ↔ p ∧ b = a := by
  by_cases h : p
  · rw [if_pos h]
    exact ⟨fun hab => ⟨h, (Except.ok.inj hab).symm⟩, fun hab => congrArg _ hab.2.symm⟩
  · rw [if_neg h]
    exact iff_of_false nofun fun hab => h hab.1

/-- Undoing what was done to every item of a list, item by item. -/
theorem mapM_of_mapM_eq_ok {γ : Type} {f : α → Except ε β} {g : β → Except ε γ} {k : α → γ}
    {as : List α} (h : ∀ a ∈ as, ∀ b, f a = .ok b → g b = .ok (k a)) {bs : List β}
    (hbs : as.mapM f = .ok bs) : bs.mapM g = .ok (as.map k) := by
  induction as generalizing bs with
  | nil =>
    obtain rfl := Except.ok.inj hbs
    rfl
  | cons a as ih =>
    rw [List.mapM_cons] at hbs
    obtain ⟨b, hb, hbs⟩ := bind_eq_ok.mp hbs
    obtain ⟨bs', hbs', hbs⟩ := bind_eq_ok.mp hbs
    obtain rfl := Except.ok.inj hbs
    have htail := ih (fun a' ha' => h a' (List.mem_cons_of_mem a ha')) hbs'
    rw [List.mapM_cons, h a List.mem_cons_self b hb, ok_bind, htail, ok_bind]
    rfl

/-- Where one computation succeeds for the items of a list, so does another one. -/
theorem mapM_eq_ok_map_of {γ : Type} {f : α → Except ε β} {g : α → Except ε γ} {k : β → γ}
    {as : List α} (h : ∀ a ∈ as, ∀ b, f a = .ok b → g a = .ok (k b)) {bs : List β}
    (hbs : as.mapM f = .ok bs) : as.mapM g = .ok (bs.map k) := by
  induction as generalizing bs with
  | nil =>
    obtain rfl := Except.ok.inj hbs
    rfl
  | cons a as ih =>
    rw [List.mapM_cons] at hbs
    obtain ⟨b, hb, hbs⟩ := bind_eq_ok.mp hbs
    obtain ⟨bs', hbs', hbs⟩ := bind_eq_ok.mp hbs
    obtain rfl := Except.ok.inj hbs
    have htail := ih (fun a' ha' => h a' (List.mem_cons_of_mem a ha')) hbs'
    rw [List.mapM_cons, h a List.mem_cons_self b hb, ok_bind, htail, ok_bind]
    rfl

/-- A computation that fails on no item of a list maps the list. -/
theorem mapM_eq_ok_map {f : α → Except ε β} {g : α → β} {as : List α}
    (h : ∀ a ∈ as, f a = .ok (g a)) : as.mapM f = .ok (as.map g) := by
  induction as with
  | nil => rfl
  | cons a as ih =>
    have htail := ih fun a' ha' => h a' (List.mem_cons_of_mem a ha')
    rw [List.mapM_cons, h a List.mem_cons_self, ok_bind, htail, ok_bind]
    rfl

/-- What can be done to every item of a list can be done to the list. -/
theorem exists_mapM_eq_ok {f : α → Except ε β} {as : List α} (h : ∀ a ∈ as, ∃ b, f a = .ok b) :
    ∃ bs, as.mapM f = .ok bs := by
  induction as with
  | nil => exact ⟨[], rfl⟩
  | cons a as ih =>
    obtain ⟨b, hb⟩ := h a List.mem_cons_self
    obtain ⟨bs, hbs⟩ := ih fun a' ha' => h a' (List.mem_cons_of_mem a ha')
    refine ⟨b :: bs, ?_⟩
    rw [List.mapM_cons, hb, ok_bind, hbs]
    rfl

/-- What was done to a list was done to each of its items. -/
theorem exists_of_mapM_eq_ok {f : α → Except ε β} {as : List α} {bs : List β}
    (h : as.mapM f = .ok bs) {a : α} (ha : a ∈ as) : ∃ b ∈ bs, f a = .ok b := by
  induction as generalizing bs with
  | nil => cases ha
  | cons a' as ih =>
    rw [List.mapM_cons] at h
    obtain ⟨b, hb, h⟩ := bind_eq_ok.mp h
    obtain ⟨bs', hbs', h⟩ := bind_eq_ok.mp h
    obtain rfl := Except.ok.inj h
    rcases List.mem_cons.mp ha with rfl | ha
    · exact ⟨b, List.mem_cons_self, hb⟩
    · obtain ⟨b', hb', hf⟩ := ih hbs' ha
      exact ⟨b', List.mem_cons_of_mem b hb', hf⟩

/-! ### Readers -/

/-- Takes a value off the front of a byte string. -/
abbrev ByteReader (ε α : Type) := Bytes → Except ε (α × Bytes)

/-- Writes a value as the naturals of its bytes. -/
abbrev ByteWriter (ε α : Type) := α → Except ε (List ℕ)

/-- `r` reads `a` off any byte string that starts with `bs`, leaving the rest. -/
def Reads (r : ByteReader ε α) (bs : Bytes) (a : α) : Prop :=
  ∀ rest, r (bs ++ rest) = .ok (a, rest)

/-- Whatever `w` writes for `a`, `r` reads it back. -/
def RoundTrips (w : ByteWriter ε α) (r : ByteReader ε α) (a : α) : Prop :=
  ∀ ns, w a = .ok ns → AllBytes ns → Reads r (bytesOf ns) a

/-- Bytes that `w` wrote, if it did, are read as `a`. -/
def Decodes (w : Except ε (List ℕ)) (r : ByteReader ε α) (a : α) : Prop :=
  ∀ ns, w = .ok ns → AllBytes ns → Reads r (bytesOf ns) a

/-- `w` writes `a`, as bytes. -/
def Writes (w : ByteWriter ε α) (a : α) : Prop := ∃ ns, w a = .ok ns ∧ AllBytes ns

theorem Reads.all {r : ByteReader ε α} {bs : Bytes} {a : α} (h : Reads r bs a) :
    r bs = .ok (a, []) := by
  have hread := h []
  rwa [List.append_nil] at hread

theorem RoundTrips.of_ok {w : ByteWriter ε α} {r : ByteReader ε α} {a : α} {ns : List ℕ}
    (hw : w a = .ok ns) (hr : Reads r (bytesOf ns) a) : RoundTrips w r a := by
  intro ns' hns' _
  obtain rfl : ns = ns' := by rw [hw] at hns'; exact Except.ok.inj hns'
  exact hr

/-! ### Sequences of fields -/

/-- The bytes `w` are written, and `r` reads `a` off them. -/
def Codes (w : Except ε (List ℕ)) (r : ByteReader ε α) (a : α) : Prop :=
  ∃ ns, w = .ok ns ∧ AllBytes ns ∧ Reads r (bytesOf ns) a

/-- Reads a value and converts it. -/
def mapRead (f : α → β) (r : ByteReader ε α) : ByteReader ε β := fun bs => do
  let (a, bs) ← r bs
  return (f a, bs)

/-- Reads two values, one after the other. -/
def pairRead (r : ByteReader ε α) (s : ByteReader ε β) : ByteReader ε (α × β) := fun bs => do
  let (a, bs) ← r bs
  let (b, bs) ← s bs
  return ((a, b), bs)

theorem Reads.map {r : ByteReader ε α} {bs : Bytes} {a : α} (h : Reads r bs a) (f : α → β) :
    Reads (mapRead f r) bs (f a) := by
  intro rest
  show (r (bs ++ rest) >>= _) = _
  rw [h rest]
  rfl

/-- Two values one after the other are read one after the other. -/
theorem Reads.pair {r : ByteReader ε α} {s : ByteReader ε β} {bs bs' : Bytes} {a : α} {b : β}
    (h₁ : Reads r bs a) (h₂ : Reads s bs' b) : Reads (pairRead r s) (bs ++ bs') (a, b) := by
  intro rest
  rw [List.append_assoc]
  show (r (bs ++ (bs' ++ rest)) >>= _) = _
  rw [h₁ (bs' ++ rest)]
  show (s (bs' ++ rest) >>= _) = _
  rw [h₂ rest]
  rfl

theorem Codes.map {w : Except ε (List ℕ)} {r : ByteReader ε α} {a : α} (h : Codes w r a)
    (f : α → β) :
    Codes w (mapRead f r) (f a) := by
  obtain ⟨ns, hw, hb, hr⟩ := h
  exact ⟨ns, hw, hb, hr.map f⟩

/-- Two fields written one after the other are read one after the other. -/
theorem Codes.pair {w₁ w₂ : Except ε (List ℕ)} {r : ByteReader ε α} {s : ByteReader ε β} {a : α}
    {b : β}
    (h₁ : Codes w₁ r a) (h₂ : Codes w₂ s b) :
    Codes (do return (← w₁) ++ (← w₂)) (pairRead r s) (a, b) := by
  obtain ⟨ns, hw₁, hb₁, hr₁⟩ := h₁
  obtain ⟨ms, hw₂, hb₂, hr₂⟩ := h₂
  refine ⟨ns ++ ms, ?_, allBytes_append.mpr ⟨hb₁, hb₂⟩, ?_⟩
  · rw [hw₁, hw₂]
    rfl
  · rw [bytesOf_append]
    exact hr₁.pair hr₂

theorem Decodes.map {w : Except ε (List ℕ)} {r : ByteReader ε α} {a : α} (h : Decodes w r a)
    (f : α → β) : Decodes w (mapRead f r) (f a) := by
  intro ns hns hb
  exact (h ns hns hb).map f

theorem Decodes.pair {w₁ w₂ : Except ε (List ℕ)} {r : ByteReader ε α} {s : ByteReader ε β} {a : α}
    {b : β} (h₁ : Decodes w₁ r a) (h₂ : Decodes w₂ s b) :
    Decodes (do return (← w₁) ++ (← w₂)) (pairRead r s) (a, b) := by
  intro ns hns hb
  obtain ⟨ns₁, hns₁, hns⟩ := bind_eq_ok.mp hns
  obtain ⟨ns₂, hns₂, hns⟩ := bind_eq_ok.mp hns
  obtain rfl := Except.ok.inj hns
  rw [allBytes_append] at hb
  rw [bytesOf_append]
  exact (h₁ ns₁ hns₁ hb.1).pair (h₂ ns₂ hns₂ hb.2)

/-- A byte in front of what is read back, for a reader that looks at it first. -/
theorem Decodes.cons {r s : ByteReader ε α} {w : Except ε (List ℕ)} {a : α} {n : ℕ}
    (h : Decodes w s a) (hr : ∀ ns, Reads s (bytesOf ns) a → Reads r (bytesOf (n :: ns)) a) :
    Decodes (do return n :: (← w)) r a := by
  intro ns hns hb
  obtain ⟨ns, hw, hns⟩ := bind_eq_ok.mp hns
  obtain rfl := Except.ok.inj hns
  exact hr ns (h ns hw (allBytes_cons.mp hb).2)

/-- `size` bytes are written, and `r` reads `a` off them. -/
def CodesIn (size : ℕ) (w : Except ε (List ℕ)) (r : ByteReader ε α) (a : α) : Prop :=
  ∃ ns, w = .ok ns ∧ AllBytes ns ∧ ns.length = size ∧ Reads r (bytesOf ns) a

theorem CodesIn.pair {m n : ℕ} {w₁ w₂ : Except ε (List ℕ)} {r : ByteReader ε α}
    {s : ByteReader ε β} {a : α} {b : β} (h₁ : CodesIn m w₁ r a) (h₂ : CodesIn n w₂ s b) :
    CodesIn (m + n) (do return (← w₁) ++ (← w₂)) (pairRead r s) (a, b) := by
  obtain ⟨ns, hw₁, hb₁, hl₁, hr₁⟩ := h₁
  obtain ⟨ms, hw₂, hb₂, hl₂, hr₂⟩ := h₂
  refine ⟨ns ++ ms, ?_, allBytes_append.mpr ⟨hb₁, hb₂⟩, ?_, ?_⟩
  · rw [hw₁, hw₂]
    rfl
  · rw [List.length_append, hl₁, hl₂]
  · rw [bytesOf_append]
    exact hr₁.pair hr₂

theorem Codes.writes {w : ByteWriter ε α} {r : ByteReader ε α} {a : α} (h : Codes (w a) r a) :
    Writes w a := by
  obtain ⟨ns, hw, hb, _⟩ := h
  exact ⟨ns, hw, hb⟩

theorem Codes.roundTrips {w : ByteWriter ε α} {r : ByteReader ε α} {a : α} (h : Codes (w a) r a) :
    RoundTrips w r a := by
  obtain ⟨ns, hw, _, hr⟩ := h
  exact RoundTrips.of_ok hw hr

theorem CodesIn.codes {size : ℕ} {w : Except ε (List ℕ)} {r : ByteReader ε α} {a : α}
    (h : CodesIn size w r a) : Codes w r a := by
  obtain ⟨ns, hw, hb, _, hr⟩ := h
  exact ⟨ns, hw, hb, hr⟩

/-! ### Repetition -/

/-- Reads `n` values, one after the other. -/
def readN (r : ByteReader ε α) : ℕ → ByteReader ε (List α)
  | 0, bs => .ok ([], bs)
  | n + 1, bs => do
    let (a, bs) ← r bs
    let (as, bs) ← readN r n bs
    return (a :: as, bs)

/-- Writes the values of a list, one after the other. -/
def writeAll (w : ByteWriter ε α) : ByteWriter ε (List α)
  | [] => .ok []
  | a :: as => do
    let ns ← w a
    let ms ← writeAll w as
    return ns ++ ms

@[simp] theorem readN_zero (r : ByteReader ε α) (bs : Bytes) : readN r 0 bs = .ok ([], bs) := rfl

theorem readN_succ (r : ByteReader ε α) (n : ℕ) (bs : Bytes) :
    readN r (n + 1) bs = (do
      let (a, bs) ← r bs
      let (as, bs) ← readN r n bs
      return (a :: as, bs)) := rfl

theorem writeAll_cons (w : ByteWriter ε α) (a : α) (as : List α) :
    writeAll w (a :: as) = (do
      let ns ← w a
      let ms ← writeAll w as
      return ns ++ ms) := rfl

/-- Reading `n` values gives a list of length `n`. -/
theorem length_of_readN {r : ByteReader ε α} {n : ℕ} {bs rest : Bytes} {as : List α}
    (h : readN r n bs = .ok (as, rest)) : as.length = n := by
  induction n generalizing bs as with
  | zero =>
    rw [readN_zero] at h
    cases h; rfl
  | succ n ih =>
    rw [readN_succ] at h
    obtain ⟨⟨a, bs'⟩, _, h⟩ := bind_eq_ok.mp h
    obtain ⟨⟨as', rest'⟩, htail, h⟩ := bind_eq_ok.mp h
    cases h
    simp [ih htail]

/-- Every one of the values read is read off some of the bytes. -/
theorem exists_of_mem_readN {r : ByteReader ε α} {n : ℕ} {bs rest : Bytes} {as : List α}
    (h : readN r n bs = .ok (as, rest)) {a : α} (ha : a ∈ as) :
    ∃ bs' rest', r bs' = .ok (a, rest') := by
  induction n generalizing bs as with
  | zero =>
    rw [readN_zero] at h
    cases h
    cases ha
  | succ n ih =>
    rw [readN_succ] at h
    obtain ⟨⟨a', bs'⟩, hhead, h⟩ := bind_eq_ok.mp h
    obtain ⟨⟨as', rest'⟩, htail, h⟩ := bind_eq_ok.mp h
    cases h
    rcases List.mem_cons.mp ha with rfl | ha
    · exact ⟨bs, bs', hhead⟩
    · exact ih htail ha

theorem writeAll_cons_eq_ok {w : ByteWriter ε α} {a : α} {as : List α} {ns : List ℕ} :
    writeAll w (a :: as) = .ok ns ↔
      ∃ ms ms', w a = .ok ms ∧ writeAll w as = .ok ms' ∧ ns = ms ++ ms' := by
  constructor
  · intro h
    obtain ⟨ms, hms, h⟩ := bind_eq_ok.mp h
    obtain ⟨ms', hms', h⟩ := bind_eq_ok.mp h
    exact ⟨ms, ms', hms, hms', (Except.ok.inj h).symm⟩
  · rintro ⟨ms, ms', hms, hms', rfl⟩
    rw [writeAll_cons, hms, hms']
    rfl

theorem writeAll_map {γ : Type} (w : ByteWriter ε β) (f : γ → β) (as : List γ) :
    writeAll w (as.map f) = writeAll (fun a => w (f a)) as := by
  induction as with
  | nil => rfl
  | cons a as ih => rw [List.map_cons, writeAll_cons, writeAll_cons, ih]

/-- If every value of a list is read back, so is the list. -/
theorem RoundTrips.writeAll {w : ByteWriter ε α} {r : ByteReader ε α} {as : List α}
    (h : ∀ a ∈ as, RoundTrips w r a) : RoundTrips (writeAll w) (readN r as.length) as := by
  induction as with
  | nil =>
    intro ns hns _ rest
    obtain rfl : [] = ns := Except.ok.inj hns
    rfl
  | cons a as ih =>
    intro ns hns hbytes rest
    obtain ⟨ms, ms', hms, hms', rfl⟩ := writeAll_cons_eq_ok.mp hns
    rw [allBytes_append] at hbytes
    have hhead := h a List.mem_cons_self ms hms hbytes.1
    have htail := ih (fun a' ha' => h a' (List.mem_cons_of_mem a ha')) ms' hms' hbytes.2
    rw [bytesOf_append, List.append_assoc, List.length_cons, readN_succ, hhead]
    simp [htail rest]

/-- If every value of a list is written, so is the list. -/
theorem Writes.writeAll {w : ByteWriter ε α} {as : List α} (h : ∀ a ∈ as, Writes w a) :
    Writes (writeAll w) as := by
  induction as with
  | nil => exact ⟨[], rfl, allBytes_nil⟩
  | cons a as ih =>
    obtain ⟨ms, hms, hb⟩ := h a List.mem_cons_self
    obtain ⟨ms', hms', hb'⟩ := ih (fun a' ha' => h a' (List.mem_cons_of_mem a ha'))
    exact ⟨ms ++ ms', writeAll_cons_eq_ok.mpr ⟨ms, ms', hms, hms', rfl⟩,
      allBytes_append.mpr ⟨hb, hb'⟩⟩

/-- If every value of a list is written and read back, so is the list. -/
theorem Codes.writeAll {w : ByteWriter ε α} {r : ByteReader ε α} {as : List α}
    (h : ∀ a ∈ as, Codes (w a) r a) : Codes (writeAll w as) (readN r as.length) as := by
  obtain ⟨ns, hw, hb⟩ := Writes.writeAll fun a ha => (h a ha).writes
  exact ⟨ns, hw, hb, RoundTrips.writeAll (fun a ha => (h a ha).roundTrips) ns hw hb⟩

/-! ### What is read back only if -/

/-- The bytes `w` are read back as `a` if `p`; if not `p`, nothing that is written is read as
`a`. -/
structure CodesIff (p : Prop) (w : Except ε (List ℕ)) (r : ByteReader ε α) (a : α) : Prop where
  codes : p → Codes w r a
  loses : ¬ p → ∀ ns, w = .ok ns → AllBytes ns →
    ∀ rest rest', r (bytesOf ns ++ rest) ≠ .ok (a, rest')

theorem Codes.codesIff {w : Except ε (List ℕ)} {r : ByteReader ε α} {a : α} (h : Codes w r a) :
    CodesIff True w r a where
  codes := fun _ => h
  loses := fun hp => absurd trivial hp

theorem CodesIff.congr {p q : Prop} {w : Except ε (List ℕ)} {r : ByteReader ε α} {a : α}
    (h : CodesIff p w r a) (hpq : p ↔ q) : CodesIff q w r a where
  codes := fun hq => h.codes (hpq.mpr hq)
  loses := fun hq => h.loses (mt hpq.mp hq)

/-- Bytes are read back if and only if `p`. -/
theorem CodesIff.codes_iff {p : Prop} {w : Except ε (List ℕ)} {r : ByteReader ε α} {a : α}
    (h : CodesIff p w r a) : Codes w r a ↔ p := by
  constructor
  · rintro ⟨ns, hw, hb, hr⟩
    by_contra hp
    exact h.loses hp ns hw hb [] [] (hr [])
  · exact h.codes

/-- What becomes of a value does not hide what the value was. -/
theorem CodesIff.map {p : Prop} {w : Except ε (List ℕ)} {r : ByteReader ε α} {a : α} {f : α → β}
    (h : CodesIff p w r a) (hf : ∀ b, f b = f a → b = a) : CodesIff p w (mapRead f r) (f a) where
  codes := fun hp => (h.codes hp).map f
  loses := by
    intro hp ns hw hb rest rest' hread
    obtain ⟨⟨b, rest''⟩, hr, hread⟩ := bind_eq_ok.mp hread
    obtain ⟨hfb, rfl⟩ := Prod.mk.inj (Except.ok.inj hread)
    obtain rfl := hf b hfb
    exact h.loses hp ns hw hb rest rest'' hr

/-- Of two fields, the second can only be read behind the first. -/
theorem CodesIff.pair {p q : Prop} {w₁ w₂ : Except ε (List ℕ)} {r : ByteReader ε α}
    {s : ByteReader ε β} {a : α} {b : β} (h₁ : CodesIff p w₁ r a) (h₂ : CodesIff q w₂ s b) :
    CodesIff (p ∧ q) (do return (← w₁) ++ (← w₂)) (pairRead r s) (a, b) where
  codes := fun h => (h₁.codes h.1).pair (h₂.codes h.2)
  loses := by
    intro h ns hns hb rest rest' hread
    obtain ⟨ns₁, hw₁, hns⟩ := bind_eq_ok.mp hns
    obtain ⟨ns₂, hw₂, hns⟩ := bind_eq_ok.mp hns
    obtain rfl := Except.ok.inj hns
    rw [allBytes_append] at hb
    rw [bytesOf_append, List.append_assoc] at hread
    obtain ⟨⟨a', mid⟩, hr₁, hread⟩ := bind_eq_ok.mp hread
    obtain ⟨⟨b', rest''⟩, hr₂, hread⟩ := bind_eq_ok.mp hread
    cases hread
    by_cases hp : p
    · obtain ⟨ns', hw', _, hr⟩ := h₁.codes hp
      obtain rfl : ns' = ns₁ := Except.ok.inj (hw'.symm.trans hw₁)
      rw [hr] at hr₁
      obtain ⟨_, rfl⟩ := Prod.mk.inj (Except.ok.inj hr₁)
      exact h₂.loses (fun hq => h ⟨hp, hq⟩) ns₂ hw₂ hb.2 rest rest' hr₂
    · exact h₁.loses hp ns₁ hw₁ hb.1 (bytesOf ns₂ ++ rest) mid hr₁

/-- A list is read back if and only if all of its values are. -/
theorem CodesIff.writeAll {p : α → Prop} {w : ByteWriter ε α} {r : ByteReader ε α} {as : List α}
    (h : ∀ a ∈ as, CodesIff (p a) (w a) r a) :
    CodesIff (∀ a ∈ as, p a) (writeAll w as) (readN r as.length) as where
  codes := fun hp => Codes.writeAll fun a ha => (h a ha).codes (hp a ha)
  loses := by
    induction as with
    | nil => exact fun hp => absurd (by simp) hp
    | cons a as ih =>
      intro hp ns hns hb rest rest' hread
      obtain ⟨ms, ms', hms, hms', rfl⟩ := writeAll_cons_eq_ok.mp hns
      rw [allBytes_append] at hb
      rw [bytesOf_append, List.append_assoc, List.length_cons, readN_succ] at hread
      obtain ⟨⟨a', mid⟩, hhead, hread⟩ := bind_eq_ok.mp hread
      obtain ⟨⟨as', rest''⟩, htail, hread⟩ := bind_eq_ok.mp hread
      cases hread
      have ha := h a List.mem_cons_self
      by_cases hpa : p a
      · obtain ⟨ns', hw', _, hr⟩ := ha.codes hpa
        obtain rfl : ns' = ms := Except.ok.inj (hw'.symm.trans hms)
        rw [hr] at hhead
        obtain ⟨_, rfl⟩ := Prod.mk.inj (Except.ok.inj hhead)
        have hps : ¬ ∀ a' ∈ as, p a' := fun hps => hp (List.forall_mem_cons.mpr ⟨hpa, hps⟩)
        exact ih (fun a' ha' => h a' (List.mem_cons_of_mem a ha')) hps ms' hms' hb.2 rest rest' htail
      · exact ha.loses hpa ms hms hb.1 (bytesOf ms' ++ rest) mid hhead

/-! ### What is written at all -/

/-- `w` writes if and only if `p`, and then `size` bytes. -/
structure WritesIff (p : Prop) (size : ℕ) (w : Except ε (List ℕ)) : Prop where
  ok_iff : (∃ ns, w = .ok ns) ↔ p
  length_eq : ∀ ns, w = .ok ns → ns.length = size

theorem WritesIff.ok (ns : List ℕ) : WritesIff True ns.length (.ok ns : Except ε (List ℕ)) where
  ok_iff := iff_true_intro ⟨ns, rfl⟩
  length_eq := fun _ hns => by rw [Except.ok.inj hns]

theorem WritesIff.error (e : ε) (size : ℕ) : WritesIff False size (.error e) where
  ok_iff := iff_of_false nofun id
  length_eq := nofun

/-- What is checked before it is written. -/
theorem WritesIff.ite (p : Prop) [Decidable p] (ns : List ℕ) (e : ε) :
    WritesIff p ns.length (if p then .ok ns else .error e) where
  ok_iff := by
    by_cases h : p
    · rw [if_pos h]
      exact iff_of_true ⟨ns, rfl⟩ h
    · rw [if_neg h]
      exact iff_of_false nofun h
  length_eq := by
    intro ms hms
    by_cases h : p
    · rw [if_pos h] at hms
      rw [Except.ok.inj hms]
    · rw [if_neg h] at hms
      cases hms

theorem WritesIff.congr {p q : Prop} {size : ℕ} {w : Except ε (List ℕ)}
    (h : WritesIff p size w) (hpq : p ↔ q) : WritesIff q size w where
  ok_iff := h.ok_iff.trans hpq
  length_eq := h.length_eq

/-- What is written depends on what was written before, but not whether. -/
theorem WritesIff.bind {p q : Prop} {m n : ℕ} {w : Except ε (List ℕ)}
    {f : List ℕ → Except ε (List ℕ)} (h : WritesIff p m w)
    (hf : ∀ ns, ns.length = m → WritesIff q n (f ns)) : WritesIff (p ∧ q) n (w >>= f) where
  ok_iff := by
    rw [← h.ok_iff]
    constructor
    · rintro ⟨ms, hms⟩
      obtain ⟨ns, hns, hms⟩ := bind_eq_ok.mp hms
      exact ⟨⟨ns, hns⟩, (hf ns (h.length_eq ns hns)).ok_iff.mp ⟨ms, hms⟩⟩
    · rintro ⟨⟨ns, hns⟩, hq⟩
      obtain ⟨ms, hms⟩ := (hf ns (h.length_eq ns hns)).ok_iff.mpr hq
      exact ⟨ms, bind_eq_ok.mpr ⟨ns, hns, hms⟩⟩
  length_eq := by
    intro ms hms
    obtain ⟨ns, hns, hms⟩ := bind_eq_ok.mp hms
    exact (hf ns (h.length_eq ns hns)).length_eq ms hms

/-- Two fields, one after the other. -/
theorem WritesIff.append {p q : Prop} {m n : ℕ} {w₁ w₂ : Except ε (List ℕ)}
    (h₁ : WritesIff p m w₁) (h₂ : WritesIff q n w₂) :
    WritesIff (p ∧ q) (m + n) (do return (← w₁) ++ (← w₂)) := by
  apply h₁.bind
  intro ns₁ hns₁
  refine (h₂.bind (q := True) (n := m + n) fun ns₂ hns₂ => ?_).congr (and_true q).to_iff
  rw [← hns₁, ← hns₂, ← List.length_append]
  exact WritesIff.ok (ns₁ ++ ns₂)

/-- The values of a list, one after the other. -/
theorem WritesIff.writeAll {w : ByteWriter ε α} {p : α → Prop} {size : α → ℕ} {as : List α}
    (h : ∀ a ∈ as, WritesIff (p a) (size a) (w a)) :
    WritesIff (∀ a ∈ as, p a) (as.map size).sum (writeAll w as) := by
  induction as with
  | nil => exact (WritesIff.ok []).congr (by simp)
  | cons a as ih =>
    have hhead := h a List.mem_cons_self
    have htail := ih fun a' ha' => h a' (List.mem_cons_of_mem a ha')
    exact (hhead.append htail).congr List.forall_mem_cons.symm

end HatDrivers.Lib
