import HatDrivers.Lib.Reads

namespace HatDrivers.Lib

/-!
# Readers on a field and on its prefixes

A reader `Delimits` a byte string if it reads exactly these bytes, whatever follows
them; it `Guards` the byte string if it fails on every strict prefix of it, and
`Exhausts` it if a strict prefix on which it does not fail is read to its end.  What
comes last decides: fields of which the last one is guarded are guarded together
(`Guards.bind`), although the others may accept missing bytes.
-/

variable {ε α β : Type}

/-! ### Definitions -/

/-- What a reader makes of a byte string, without the bytes it leaves. -/
def outcome (r : ByteReader ε α) (bs : Bytes) : Except ε α := (r bs).map Prod.fst

/-- `r` reads exactly `bs`, whether it then fails or not. -/
def Delimits (r : ByteReader ε α) (bs : Bytes) : Prop :=
  ∀ rest, r (bs ++ rest) = (outcome r bs).map fun a => (a, rest)

/-- What `r` reads off a strict prefix of `bs`, it reads to the end. -/
def Exhausts (r : ByteReader ε α) (bs : Bytes) : Prop :=
  ∀ p, p <+: bs → p ≠ bs → ∀ a rest, r p = .ok (a, rest) → rest = []

/-- `r` fails on the strict prefixes of `bs`. -/
def Guards (r : ByteReader ε α) (bs : Bytes) : Prop :=
  ∀ p, p <+: bs → p ≠ bs → ∃ e, r p = .error e

/-- `r` reads `n` bytes. -/
structure FixedSize (n : ℕ) (r : ByteReader ε α) : Prop where
  delimits : ∀ bs, bs.length = n → Delimits r bs
  drops : ∀ bs a rest, r bs = .ok (a, rest) → rest = bs.drop n

/-- `r` fails on fewer than `n` bytes. -/
def Checks (n : ℕ) (r : ByteReader ε α) : Prop := ∀ bs, bs.length < n → ∃ e, r bs = .error e

/-- The second reader goes on with the bytes the first one leaves. -/
def bindRead (r : ByteReader ε α) (s : α → ByteReader ε β) : ByteReader ε β := fun bs =>
  r bs >>= fun p => s p.1 p.2

theorem map_eq_ok {x : Except ε α} {f : α → β} {b : β} :
    x.map f = .ok b ↔ ∃ a, x = .ok a ∧ f a = b := by
  cases x with
  | error e => simp [Except.map]
  | ok a => simp [Except.map]

theorem mapM_congr {f g : α → Except ε β} {as : List α} (h : ∀ a ∈ as, f a = g a) :
    as.mapM f = as.mapM g := by
  induction as with
  | nil => rfl
  | cons a as ih =>
    rw [List.mapM_cons, List.mapM_cons, h a (by simp), ih fun a' ha' => h a' (by simp [ha'])]

/-! ### Delimited byte strings -/

theorem Delimits.intro {r : ByteReader ε α} {bs : Bytes} (x : Except ε α)
    (h : ∀ rest, r (bs ++ rest) = x.map fun a => (a, rest)) : Delimits r bs := by
  have hx : outcome r bs = x := by
    have hread := h []
    rw [List.append_nil] at hread
    rw [outcome, hread]
    cases x <;> rfl
  intro rest
  rw [hx, h rest]

theorem Reads.delimits {r : ByteReader ε α} {bs : Bytes} {a : α} (h : Reads r bs a) :
    Delimits r bs :=
  Delimits.intro (.ok a) h

theorem outcome_of_reads {r : ByteReader ε α} {bs : Bytes} {a : α} (h : Reads r bs a) :
    outcome r bs = .ok a := by
  rw [outcome, h.all]
  rfl

/-- What is delimited is read to its end. -/
theorem Delimits.rest_eq {r : ByteReader ε α} {bs : Bytes} (h : Delimits r bs) {a : α}
    {rest : Bytes} (hread : r bs = .ok (a, rest)) : rest = [] := by
  have hnil := h []
  rw [List.append_nil, hread] at hnil
  cases hx : outcome r bs with
  | error e => rw [hx] at hnil; cases hnil
  | ok b =>
    rw [hx] at hnil
    exact (Prod.mk.inj (Except.ok.inj hnil)).2

theorem Delimits.bind {r : ByteReader ε α} {s : α → ByteReader ε β} {bs cs : Bytes}
    (hr : Delimits r bs) (hs : ∀ a, Delimits (s a) cs) : Delimits (bindRead r s) (bs ++ cs) := by
  apply Delimits.intro (outcome r bs >>= fun a => outcome (s a) cs)
  intro rest
  rw [bindRead, List.append_assoc, hr (cs ++ rest)]
  cases outcome r bs with
  | error e => rfl
  | ok a => exact hs a rest

theorem Delimits.map {r : ByteReader ε α} {bs : Bytes} (h : Delimits r bs) (f : α → β) :
    Delimits (mapRead f r) bs := by
  apply Delimits.intro ((outcome r bs).map f)
  intro rest
  rw [mapRead, h rest]
  cases outcome r bs <;> rfl

theorem Delimits.congr {r s : ByteReader ε α} {bs : Bytes} (h : Delimits r bs)
    (heq : ∀ bs, s bs = r bs) : Delimits s bs := by
  obtain rfl : s = r := funext heq
  exact h

/-- A reader that reads nothing. -/
theorem delimits_nil (x : Except ε α) : Delimits (fun bs => x.map fun a => (a, bs)) [] :=
  Delimits.intro x fun _ => rfl

/-- The values of delimited byte strings are read one after the other. -/
theorem readN_delimited {r : ByteReader ε α} {bss : List Bytes} (h : ∀ bs ∈ bss, Delimits r bs)
    (rest : Bytes) :
    readN r bss.length (bss.flatten ++ rest) =
      (bss.mapM (outcome r)).map fun as => (as, rest) := by
  induction bss with
  | nil => rfl
  | cons bs bss ih =>
    have htail := ih fun bs' hbs' => h bs' (by simp [hbs'])
    rw [List.length_cons, readN_succ, List.flatten_cons, List.append_assoc,
      h bs (by simp) (bss.flatten ++ rest), List.mapM_cons]
    cases outcome r bs with
    | error e => rfl
    | ok a =>
      show (readN r bss.length (bss.flatten ++ rest) >>= _) = _
      rw [htail]
      cases bss.mapM (outcome r) <;> rfl

theorem Delimits.readN {r : ByteReader ε α} {bss : List Bytes} (h : ∀ bs ∈ bss, Delimits r bs) :
    Delimits (readN r bss.length) bss.flatten :=
  Delimits.intro _ (readN_delimited h)

/-! ### Prefixes -/

theorem Guards.exhausts {r : ByteReader ε α} {bs : Bytes} (h : Guards r bs) : Exhausts r bs := by
  intro p hp hne a rest hread
  obtain ⟨e, he⟩ := h p hp hne
  rw [he] at hread
  cases hread

/-- A strict prefix of two byte strings ends in the first or in the second. -/
theorem prefix_append_cases {p bs cs : Bytes} (hp : p <+: bs ++ cs) (hne : p ≠ bs ++ cs) :
    (p <+: bs ∧ p ≠ bs) ∨ ∃ q, p = bs ++ q ∧ q <+: cs ∧ q ≠ cs := by
  by_cases hlen : p.length < bs.length
  · left
    have hstart : p <+: bs :=
      List.prefix_of_prefix_length_le hp (List.prefix_append bs cs) hlen.le
    exact ⟨hstart, fun heq => by rw [heq] at hlen; omega⟩
  · right
    have hstart : bs <+: p :=
      List.prefix_of_prefix_length_le (List.prefix_append bs cs) hp (Nat.le_of_not_lt hlen)
    obtain ⟨q, rfl⟩ := hstart
    refine ⟨q, rfl, (List.prefix_append_right_inj bs).mp hp, ?_⟩
    rintro rfl
    exact hne rfl

/-- A delimited byte string is read to its end, and so is what is left of it after a prefix. -/
theorem Exhausts.nil_rest {r : ByteReader ε α} {bs : Bytes} (hd : Delimits r bs)
    (he : Exhausts r bs) {a : α} {rest : Bytes} (h : r [] = .ok (a, rest)) : rest = [] := by
  by_cases hnil : bs = []
  · rw [hnil] at hd
    exact hd.rest_eq h
  · exact he [] (List.nil_prefix) (Ne.symm hnil) a rest h

theorem Exhausts.bind {r : ByteReader ε α} {s : α → ByteReader ε β} {bs cs : Bytes}
    (hd : Delimits r bs) (hr : Exhausts r bs) (hds : ∀ a, Delimits (s a) cs)
    (hs : ∀ a, Exhausts (s a) cs) : Exhausts (bindRead r s) (bs ++ cs) := by
  intro p hp hne b rest hread
  obtain ⟨⟨a, mid⟩, ha, hb⟩ := bind_eq_ok.mp hread
  rcases prefix_append_cases hp hne with ⟨hp, hne⟩ | ⟨q, rfl, hq, hqne⟩
  · obtain rfl := hr p hp hne a mid ha
    exact (hs a).nil_rest (hds a) hb
  · rw [hd q] at ha
    obtain ⟨a', _, heq⟩ := map_eq_ok.mp ha
    obtain ⟨rfl, rfl⟩ := Prod.mk.inj heq
    exact hs a' q hq hqne b rest hb

/-- **What comes last decides**: a reader that fails on the prefixes of the last field fails on
those of all fields. -/
theorem Guards.bind {r : ByteReader ε α} {s : α → ByteReader ε β} {bs cs : Bytes}
    (hd : Delimits r bs) (hr : Exhausts r bs) (hs : ∀ a, Guards (s a) cs) (hcs : cs ≠ []) :
    Guards (bindRead r s) (bs ++ cs) := by
  intro p hp hne
  cases ha : r p with
  | error e => exact ⟨e, by rw [bindRead, ha]; rfl⟩
  | ok pair =>
    obtain ⟨a, mid⟩ := pair
    have hstep : bindRead r s p = s a mid := by
      rw [bindRead, ha]
      rfl
    rw [hstep]
    rcases prefix_append_cases hp hne with ⟨hp, hne⟩ | ⟨q, rfl, hq, hqne⟩
    · obtain rfl := hr p hp hne a mid ha
      exact hs a [] List.nil_prefix (Ne.symm hcs)
    · rw [hd q] at ha
      obtain ⟨a', _, heq⟩ := map_eq_ok.mp ha
      obtain ⟨rfl, rfl⟩ := Prod.mk.inj heq
      exact hs a' q hq hqne

/-- Behind a guarded field only what follows its own value counts. -/
theorem Guards.bind_of_guards {r : ByteReader ε α} {s : α → ByteReader ε β} {bs cs : Bytes}
    (hd : Delimits r bs) (hr : Guards r bs)
    (hs : ∀ a, outcome r bs = .ok a → Guards (s a) cs) : Guards (bindRead r s) (bs ++ cs) := by
  intro p hp hne
  rcases prefix_append_cases hp hne with ⟨hp, hne⟩ | ⟨q, rfl, hq, hqne⟩
  · obtain ⟨e, he⟩ := hr p hp hne
    exact ⟨e, by rw [bindRead, he]; rfl⟩
  · cases ha : outcome r bs with
    | error e => exact ⟨e, by rw [bindRead, hd q, ha]; rfl⟩
    | ok a =>
      obtain ⟨e, he⟩ := hs a ha q hq hqne
      exact ⟨e, by rw [bindRead, hd q, ha]; exact he⟩

/-- A field behind which nothing comes. -/
theorem Guards.bind_nil {r : ByteReader ε α} {s : α → ByteReader ε β} {bs : Bytes}
    (hr : Guards r bs) : Guards (bindRead r s) bs := by
  intro p hp hne
  obtain ⟨e, he⟩ := hr p hp hne
  exact ⟨e, by rw [bindRead, he]; rfl⟩

theorem Exhausts.readN {r : ByteReader ε α} {bss : List Bytes}
    (hd : ∀ bs ∈ bss, Delimits r bs) (he : ∀ bs ∈ bss, Exhausts r bs) :
    Exhausts (readN r bss.length) bss.flatten := by
  induction bss with
  | nil =>
    intro p hp hne
    exact absurd (List.prefix_nil.mp hp) hne
  | cons bs bss ih =>
    have hd' : ∀ bs' ∈ bss, Delimits r bs' := fun bs' hbs' => hd bs' (by simp [hbs'])
    have htail := ih hd' fun bs' hbs' => he bs' (by simp [hbs'])
    have hrest : ∀ a, Delimits (bindRead (Lib.readN r bss.length)
        fun as bs => .ok (a :: as, bs)) (bss.flatten ++ []) := fun a =>
      (Delimits.readN hd').bind fun as => delimits_nil (.ok (a :: as))
    have hrest' : ∀ a, Exhausts (bindRead (Lib.readN r bss.length)
        fun as bs => .ok (a :: as, bs)) (bss.flatten ++ []) := fun a =>
      Exhausts.bind (Delimits.readN hd') htail (fun as => delimits_nil (.ok (a :: as)))
        fun as p hp hne => absurd (List.prefix_nil.mp hp) hne
    have hall := Exhausts.bind (hd bs (by simp)) (he bs (by simp)) hrest hrest'
    rw [List.append_nil] at hall
    exact hall

/-- Of the values of a list, the last one is guarded. -/
theorem Guards.readN {r : ByteReader ε α} {bss : List Bytes} {last : Bytes}
    (hd : ∀ bs ∈ bss ++ [last], Delimits r bs) (he : ∀ bs ∈ bss, Exhausts r bs)
    (hlast : Guards r last) (hne : last ≠ []) :
    Guards (readN r (bss ++ [last]).length) (bss ++ [last]).flatten := by
  induction bss with
  | nil =>
    have hone : Guards (bindRead r fun a bs => .ok ([a], bs)) last := hlast.bind_nil
    rw [List.nil_append, List.flatten_singleton]
    exact hone
  | cons bs bss ih =>
    have htail := ih (fun bs' hbs' => hd bs' (by simp at hbs' ⊢; tauto))
      fun bs' hbs' => he bs' (by simp [hbs'])
    have htailne : (bss ++ [last]).flatten ≠ [] := by simp [hne]
    have hrest : ∀ a, Guards (bindRead (Lib.readN r (bss ++ [last]).length)
        fun as bs => .ok (a :: as, bs)) (bss ++ [last]).flatten := fun a => htail.bind_nil
    exact Guards.bind (hd bs (by simp)) (he bs (by simp)) hrest htailne

/-! ### Missing bytes that are accepted -/

/-- `r` reads a strict prefix of `bs` to its end. -/
def Tolerates (r : ByteReader ε α) (bs : Bytes) : Prop :=
  ∃ p, p <+: bs ∧ p ≠ bs ∧ ∃ a, r p = .ok (a, [])

theorem Tolerates.not_guards {r : ByteReader ε α} {bs : Bytes} (h : Tolerates r bs) :
    ¬ Guards r bs := by
  intro hg
  obtain ⟨p, hp, hne, a, ha⟩ := h
  obtain ⟨e, he⟩ := hg p hp hne
  rw [he] at ha
  cases ha

/-- Bytes that are missing in the last field. -/
theorem Tolerates.bind {r : ByteReader ε α} {s : α → ByteReader ε β} {bs cs : Bytes} {a : α}
    (hr : Reads r bs a) (hs : Tolerates (s a) cs) : Tolerates (bindRead r s) (bs ++ cs) := by
  obtain ⟨p, hp, hne, b, hb⟩ := hs
  refine ⟨bs ++ p, (List.prefix_append_right_inj bs).mpr hp,
    fun heq => hne (List.append_cancel_left heq), b, ?_⟩
  rw [bindRead, hr p]
  exact hb

/-- Bytes that are missing in a field behind which nothing is read. -/
theorem Tolerates.bind_nil {r : ByteReader ε α} {s : α → ByteReader ε β} {bs : Bytes}
    (hr : Tolerates r bs) (hs : ∀ a, ∃ b, s a [] = .ok (b, [])) : Tolerates (bindRead r s) bs := by
  obtain ⟨p, hp, hne, a, ha⟩ := hr
  obtain ⟨b, hb⟩ := hs a
  refine ⟨p, hp, hne, b, ?_⟩
  rw [bindRead, ha]
  exact hb

theorem Tolerates.readN {r : ByteReader ε α} {bss : List Bytes} {last : Bytes}
    (h : ∀ bs ∈ bss, ∃ a, Reads r bs a) (hlast : Tolerates r last) :
    Tolerates (readN r (bss ++ [last]).length) (bss ++ [last]).flatten := by
  induction bss with
  | nil =>
    have hone : Tolerates (bindRead r fun a bs => .ok ([a], bs)) last :=
      hlast.bind_nil fun a => ⟨[a], rfl⟩
    rw [List.nil_append, List.flatten_singleton]
    exact hone
  | cons bs bss ih =>
    obtain ⟨a, ha⟩ := h bs (by simp)
    have htail := ih fun bs' hbs' => h bs' (by simp [hbs'])
    have hrest : Tolerates (bindRead (Lib.readN r (bss ++ [last]).length)
        fun as bs => .ok (a :: as, bs)) (bss ++ [last]).flatten :=
      htail.bind_nil fun as => ⟨a :: as, rfl⟩
    exact Tolerates.bind (s := fun a => bindRead (Lib.readN r (bss ++ [last]).length)
      fun as bs => .ok (a :: as, bs)) ha hrest

/-! ### Fields of a fixed size -/

theorem FixedSize.exhausts {n : ℕ} {r : ByteReader ε α} (h : FixedSize n r) {bs : Bytes}
    (hlen : bs.length = n) : Exhausts r bs := by
  intro p hp hne a rest hread
  rw [h.drops p a rest hread]
  apply List.drop_eq_nil_of_le
  rw [← hlen]
  exact hp.length_le

theorem Checks.guards {n : ℕ} {r : ByteReader ε α} (h : Checks n r) {bs : Bytes}
    (hlen : bs.length = n) : Guards r bs := by
  intro p hp hne
  apply h p
  rw [← hlen]
  exact lt_of_le_of_ne hp.length_le fun heq => hne (hp.eq_of_length heq)

/-- What a reader of a fixed size reads back has that size. -/
theorem FixedSize.length_eq {n : ℕ} {r : ByteReader ε α} (h : FixedSize n r) {bs : Bytes} {a : α}
    (hr : Reads r bs a) : bs.length = n := by
  -- the bytes after the field, so many that it has its size
  have hrest := h.drops _ _ _ (hr (List.replicate n 0))
  have hlen := congrArg List.length hrest
  simp only [List.length_replicate, List.length_drop, List.length_append] at hlen
  have hnil := h.drops _ _ _ hr.all
  have hlen' := congrArg List.length hnil
  simp only [List.length_nil, List.length_drop] at hlen'
  omega

/-- A reader that looks at `n` bytes and leaves the others. -/
theorem FixedSize.intro {n : ℕ} {r : ByteReader ε α} (f : Bytes → Except ε α)
    (hr : ∀ bs, r bs = (f bs).map fun a => (a, bs.drop n))
    (hf : ∀ bs rest, bs.length = n → f (bs ++ rest) = f bs) : FixedSize n r where
  delimits := by
    intro bs hlen
    apply Delimits.intro (f bs)
    intro rest
    rw [hr, hf bs rest hlen, List.drop_append_of_le_length hlen.ge, List.drop_of_length_le hlen.le]
    rfl
  drops := by
    intro bs a rest hread
    rw [hr] at hread
    obtain ⟨a', _, heq⟩ := map_eq_ok.mp hread
    exact (Prod.mk.inj heq).2.symm

theorem FixedSize.map {n : ℕ} {r : ByteReader ε α} (h : FixedSize n r) (f : α → β) :
    FixedSize n (mapRead f r) where
  delimits := fun bs hlen => (h.delimits bs hlen).map f
  drops := by
    intro bs b rest hread
    obtain ⟨⟨a, rest'⟩, hr, hread⟩ := bind_eq_ok.mp hread
    obtain ⟨_, rfl⟩ := Prod.mk.inj (Except.ok.inj hread)
    exact h.drops bs a rest' hr

theorem FixedSize.pair {m n : ℕ} {r : ByteReader ε α} {s : ByteReader ε β} (hr : FixedSize m r)
    (hs : FixedSize n s) : FixedSize (m + n) (pairRead r s) where
  delimits := by
    intro bs hlen
    have hm : (bs.take m).length = m := by simp; omega
    have hn : (bs.drop m).length = n := by simp; omega
    have hd := (hr.delimits _ hm).bind
      (s := fun a => bindRead s fun b bs => .ok ((a, b), bs)) fun a =>
        (hs.delimits _ hn).bind fun b => delimits_nil (.ok (a, b))
    rw [List.append_nil, List.take_append_drop] at hd
    exact hd
  drops := by
    intro bs p rest hread
    obtain ⟨⟨a, mid⟩, ha, hread⟩ := bind_eq_ok.mp hread
    obtain ⟨⟨b, rest'⟩, hb, hread⟩ := bind_eq_ok.mp hread
    obtain ⟨_, rfl⟩ := Prod.mk.inj (Except.ok.inj hread)
    rw [hs.drops _ _ _ hb, hr.drops _ _ _ ha, List.drop_drop]

theorem Exhausts.map {r : ByteReader ε α} {bs : Bytes} (h : Exhausts r bs) (f : α → β) :
    Exhausts (mapRead f r) bs := by
  intro p hp hne b rest hread
  obtain ⟨⟨a, rest'⟩, hr, hread⟩ := bind_eq_ok.mp hread
  obtain ⟨_, rfl⟩ := Prod.mk.inj (Except.ok.inj hread)
  exact h p hp hne a rest' hr

theorem Guards.map {r : ByteReader ε α} {bs : Bytes} (h : Guards r bs) (f : α → β) :
    Guards (mapRead f r) bs := by
  intro p hp hne
  obtain ⟨e, he⟩ := h p hp hne
  exact ⟨e, by rw [mapRead, he]; rfl⟩

theorem Tolerates.map {r : ByteReader ε α} {bs : Bytes} (h : Tolerates r bs) (f : α → β) :
    Tolerates (mapRead f r) bs := by
  obtain ⟨p, hp, hne, a, ha⟩ := h
  exact ⟨p, hp, hne, f a, by rw [mapRead, ha]; rfl⟩

/-- `r` reads `n` bytes, and fails on fewer. -/
structure CheckedSize (n : ℕ) (r : ByteReader ε α) : Prop extends FixedSize n r where
  checks : Checks n r

theorem CheckedSize.map {n : ℕ} {r : ByteReader ε α} (h : CheckedSize n r) (f : α → β) :
    CheckedSize n (mapRead f r) where
  toFixedSize := h.toFixedSize.map f
  checks := by
    intro bs hlen
    obtain ⟨e, he⟩ := h.checks bs hlen
    exact ⟨e, by rw [mapRead, he]; rfl⟩

/-- Of two fields, the second one counts. -/
theorem FixedSize.pairChecked {m n : ℕ} {r : ByteReader ε α} {s : ByteReader ε β}
    (hr : FixedSize m r) (hs : CheckedSize n s) (hn : 0 < n) :
    CheckedSize (m + n) (pairRead r s) where
  toFixedSize := hr.pair hs.toFixedSize
  checks := by
    intro bs hlen
    cases ha : r bs with
    | error e => exact ⟨e, by rw [pairRead, ha]; rfl⟩
    | ok p =>
      obtain ⟨a, mid⟩ := p
      obtain rfl := hr.drops bs a mid ha
      obtain ⟨e, he⟩ := hs.checks (bs.drop m) (by rw [List.length_drop]; omega)
      refine ⟨e, ?_⟩
      simp only [pairRead, ha, ok_bind, he, error_bind]

/-! ### Lists that were written -/

/-- `bs` is what `w` writes for `a`. -/
def WrittenAs (w : ByteWriter ε α) (a : α) (bs : Bytes) : Prop :=
  ∃ ns, w a = .ok ns ∧ AllBytes ns ∧ bs = bytesOf ns

theorem exists_of_forall₂ {R : α → β → Prop} {as : List α} {bs : List β}
    (h : List.Forall₂ R as bs) {a : α} (ha : a ∈ as) : ∃ b ∈ bs, R a b := by
  induction h with
  | nil => cases ha
  | cons hab _ ih =>
    rcases List.mem_cons.mp ha with rfl | ha
    · exact ⟨_, by simp, hab⟩
    · obtain ⟨b, hb, hab⟩ := ih ha
      exact ⟨b, by simp [hb], hab⟩

theorem exists_of_forall₂' {R : α → β → Prop} {as : List α} {bs : List β}
    (h : List.Forall₂ R as bs) {b : β} (hb : b ∈ bs) : ∃ a ∈ as, R a b := by
  induction h with
  | nil => cases hb
  | cons hab _ ih =>
    rcases List.mem_cons.mp hb with rfl | hb
    · exact ⟨_, by simp, hab⟩
    · obtain ⟨a, ha, hab⟩ := ih hb
      exact ⟨a, by simp [ha], hab⟩

theorem exists_concat_of_forall₂ {R : α → β → Prop} {as : List α} {a : α} {bs : List β}
    (h : List.Forall₂ R (as ++ [a]) bs) :
    ∃ bs' b, bs = bs' ++ [b] ∧ List.Forall₂ R as bs' ∧ R a b := by
  induction as generalizing bs with
  | nil =>
    cases h with
    | cons hab htail =>
      cases htail
      exact ⟨[], _, rfl, .nil, hab⟩
  | cons a' as ih =>
    cases h with
    | cons hab htail =>
      obtain ⟨bs', b, rfl, hbs', hb⟩ := ih htail
      exact ⟨_ :: bs', b, rfl, .cons hab hbs', hb⟩

/-- The bytes of a list are those of its values. -/
theorem exists_written_of_writeAll {w : ByteWriter ε α} {as : List α} {ns : List ℕ}
    (h : writeAll w as = .ok ns) (hb : AllBytes ns) :
    ∃ bss, List.Forall₂ (WrittenAs w) as bss ∧ bytesOf ns = bss.flatten := by
  induction as generalizing ns with
  | nil =>
    obtain rfl := Except.ok.inj h
    exact ⟨[], .nil, rfl⟩
  | cons a as ih =>
    obtain ⟨ms, ms', hms, hms', rfl⟩ := writeAll_cons_eq_ok.mp h
    rw [allBytes_append] at hb
    obtain ⟨bss, hbss, heq⟩ := ih hms' hb.2
    exact ⟨bytesOf ms :: bss, .cons ⟨ms, hms, hb.1, rfl⟩ hbss, by simp [heq]⟩

end HatDrivers.Lib
