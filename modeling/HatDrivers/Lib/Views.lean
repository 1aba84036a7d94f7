import HatDrivers.Lib.Reads

namespace HatDrivers.Lib

/-!
# Views of what is read back

Of a value that is written and read, one may ask for less than the value itself: for a view of
it, as the number of its parts.  `ViewIff e p w r f b` says that whatever `w` wrote is read with
the view `b` if `p`, and never otherwise.  If `e` holds, the bytes behind are left alone; the last
value of a sequence does not need that (`ViewIff.pair`, `ViewIff.writeAll`).
-/

variable {ε α β γ δ : Type}

structure ViewIff (e p : Prop) (w : Except ε (List ℕ)) (r : ByteReader ε α) (f : α → β) (b : β) :
    Prop where
  keeps : p → ∀ ns, w = .ok ns → AllBytes ns → ∀ rest,
    ∃ a rest', r (bytesOf ns ++ rest) = .ok (a, rest') ∧ f a = b ∧ (e → rest' = rest)
  loses : ¬ p → ∀ ns, w = .ok ns → AllBytes ns → ∀ rest a rest',
    r (bytesOf ns ++ rest) = .ok (a, rest') → f a ≠ b

variable {e e' p q : Prop} {w w₁ w₂ : Except ε (List ℕ)} {r : ByteReader ε α}
  {s : ByteReader ε γ} {f : α → β} {g : γ → δ} {b : β} {d : δ}

theorem ViewIff.mono (h : ViewIff e p w r f b) (he : e' → e) : ViewIff e' p w r f b where
  keeps := by
    intro hp ns hw hb rest
    obtain ⟨a, rest', hr, hf, hrest⟩ := h.keeps hp ns hw hb rest
    exact ⟨a, rest', hr, hf, fun h' => hrest (he h')⟩
  loses := h.loses

theorem ViewIff.congr (h : ViewIff e p w r f b) (hpq : p ↔ q) : ViewIff e q w r f b where
  keeps := fun hq => h.keeps (hpq.mpr hq)
  loses := fun hq => h.loses (mt hpq.mp hq)

/-- **What is written is read with its view** iff `p`. -/
theorem ViewIff.iff (h : ViewIff e p w r f b) {ns : List ℕ} (hw : w = .ok ns) (hb : AllBytes ns) :
    (∀ rest, ∃ a rest', r (bytesOf ns ++ rest) = .ok (a, rest') ∧ f a = b) ↔ p := by
  constructor
  · intro hview
    by_contra hp
    obtain ⟨a, rest', hr, hf⟩ := hview []
    exact h.loses hp ns hw hb [] a rest' hr hf
  · intro hp rest
    obtain ⟨a, rest', hr, hf, -⟩ := h.keeps hp ns hw hb rest
    exact ⟨a, rest', hr, hf⟩

/-- A view of what becomes of a value. -/
theorem ViewIff.map {k : α → γ} (h : ViewIff e p w r (fun a => g (k a)) d) :
    ViewIff e p w (mapRead k r) g d where
  keeps := by
    intro hp ns hw hb rest
    obtain ⟨a, rest', hr, hg, hrest⟩ := h.keeps hp ns hw hb rest
    exact ⟨k a, rest', by simp [mapRead, hr], hg, hrest⟩
  loses := by
    intro hp ns hw hb rest c rest' hread
    obtain ⟨⟨a, rest''⟩, hr, hread⟩ := bind_eq_ok.mp hread
    obtain ⟨rfl, rfl⟩ := Prod.mk.inj (Except.ok.inj hread)
    exact h.loses hp ns hw hb rest a rest'' hr

/-- A view behind which there is no telling more. -/
theorem ViewIff.comp {k : β → δ} (hk : Function.Injective k) (h : ViewIff e p w r f b) :
    ViewIff e p w r (fun a => k (f a)) (k b) where
  keeps := by
    intro hp ns hw hb rest
    obtain ⟨a, rest', hr, hf, hrest⟩ := h.keeps hp ns hw hb rest
    exact ⟨a, rest', hr, congrArg k hf, hrest⟩
  loses := fun hp ns hw hb rest a rest' hr heq => h.loses hp ns hw hb rest a rest' hr (hk heq)

/-- Of two fields, the second is read behind the first. -/
theorem ViewIff.pair (h₁ : ViewIff True p w₁ r f b) (h₂ : ViewIff e q w₂ s g d) :
    ViewIff e (p ∧ q) (do return (← w₁) ++ (← w₂)) (pairRead r s) (Prod.map f g) (b, d) where
  keeps := by
    rintro ⟨hp, hq⟩ ns hns hb rest
    obtain ⟨ns₁, hw₁, hns⟩ := bind_eq_ok.mp hns
    obtain ⟨ns₂, hw₂, hns⟩ := bind_eq_ok.mp hns
    obtain rfl := Except.ok.inj hns
    rw [allBytes_append] at hb
    obtain ⟨a, rest₁, hr, hf, hrest₁⟩ := h₁.keeps hp ns₁ hw₁ hb.1 (bytesOf ns₂ ++ rest)
    obtain rfl := hrest₁ trivial
    obtain ⟨c, rest₂, hs, hg, hrest₂⟩ := h₂.keeps hq ns₂ hw₂ hb.2 rest
    refine ⟨(a, c), rest₂, ?_, Prod.ext hf hg, hrest₂⟩
    rw [bytesOf_append, List.append_assoc, pairRead, hr]
    simp [hs]
  loses := by
    intro hpq ns hns hb rest ac rest' hread heq
    obtain ⟨ns₁, hw₁, hns⟩ := bind_eq_ok.mp hns
    obtain ⟨ns₂, hw₂, hns⟩ := bind_eq_ok.mp hns
    obtain rfl := Except.ok.inj hns
    rw [allBytes_append] at hb
    rw [bytesOf_append, List.append_assoc] at hread
    obtain ⟨⟨a, rest₁⟩, hr, hread⟩ := bind_eq_ok.mp hread
    obtain ⟨⟨c, rest₂⟩, hs, hread⟩ := bind_eq_ok.mp hread
    obtain ⟨rfl, rfl⟩ := Prod.mk.inj (Except.ok.inj hread)
    obtain ⟨hf, hg⟩ := Prod.mk.inj heq
    by_cases hp : p
    · -- the first field is as it was written, so the second one is read where it starts
      obtain ⟨a', rest₁', hr', -, hrest⟩ := h₁.keeps hp ns₁ hw₁ hb.1 (bytesOf ns₂ ++ rest)
      rw [hr'] at hr
      obtain ⟨-, rfl⟩ := Prod.mk.inj (Except.ok.inj hr)
      obtain rfl := hrest trivial
      exact h₂.loses (fun hq => hpq ⟨hp, hq⟩) ns₂ hw₂ hb.2 rest c _ hs hg
    · exact h₁.loses hp ns₁ hw₁ hb.1 (bytesOf ns₂ ++ rest) a _ hr hf

/-- A field that is read as it was written, of which nothing is counted. -/
theorem ViewIff.unit
    (h : ∀ ns, w = .ok ns → AllBytes ns → ∃ a, Reads r (bytesOf ns) a) :
    ViewIff True True w r (fun _ => ()) () where
  keeps := by
    intro _ ns hw hb rest
    obtain ⟨a, hr⟩ := h ns hw hb
    exact ⟨a, rest, hr rest, rfl, fun _ => rfl⟩
  loses := fun h => absurd trivial h

/-- A field of which nothing is counted, in front of another one. -/
theorem ViewIff.behind (h₁ : ViewIff True True w₁ r (fun _ => ()) ()) (h₂ : ViewIff e p w₂ s g d) :
    ViewIff e p (do return (← w₁) ++ (← w₂)) (pairRead r s) (fun x => g x.2) d := by
  have hinjective : Function.Injective fun x : Unit × δ => x.2 := by
    rintro ⟨_, x⟩ ⟨_, y⟩ rfl
    rfl
  exact ((h₁.pair h₂).comp hinjective).congr (true_and _).to_iff

theorem ViewIff.nil {w : ByteWriter ε α} :
    ViewIff e True (HatDrivers.Lib.writeAll w []) (readN r 0) (List.map f) [] where
  keeps := by
    intro _ ns hns _ rest
    obtain rfl := Except.ok.inj hns
    exact ⟨[], rest, rfl, rfl, fun _ => rfl⟩
  loses := fun hp => absurd trivial hp

/-- One value in front of others. -/
theorem ViewIff.cons {w : ByteWriter ε α} {a : α} {as : List α} {n : ℕ} {bs : List β}
    (h : ViewIff True p (w a) r f b)
    (hs : ViewIff e q (HatDrivers.Lib.writeAll w as) (readN r n) (List.map f) bs) :
    ViewIff e (p ∧ q) (HatDrivers.Lib.writeAll w (a :: as)) (readN r (n + 1)) (List.map f)
      (b :: bs) := by
  have hinjective : Function.Injective fun x : β × List β => x.1 :: x.2 := by
    rintro ⟨x, xs⟩ ⟨y, ys⟩ h
    obtain ⟨rfl, rfl⟩ := List.cons.inj h
    rfl
  have hview : ViewIff e (p ∧ q) _ (pairRead r (readN r n))
      (fun x : α × List α => List.map f (x.1 :: x.2)) (b :: bs) := (h.pair hs).comp hinjective
  have hread : readN r (n + 1) =
      mapRead (fun x : α × List α => x.1 :: x.2) (pairRead r (readN r n)) := by
    funext bs
    simp [readN_succ, mapRead, pairRead]
  rw [hread]
  exact hview.map

/-- One value, alone. -/
theorem ViewIff.singleton {w : ByteWriter ε α} {a : α} (h : ViewIff e p (w a) r f b) :
    ViewIff e p (HatDrivers.Lib.writeAll w [a]) (readN r 1) (List.map f) [b] := by
  have hwrite : HatDrivers.Lib.writeAll w [a] = w a := by
    cases hw : w a <;> simp [HatDrivers.Lib.writeAll, hw]
  have hread : readN r 1 = mapRead (fun x => [x]) r := by
    funext bs
    simp [readN_succ, mapRead]
  have hinjective : Function.Injective fun x : β => [x] :=
    fun _ _ h => (List.cons.inj h).1
  have hview : ViewIff e p (w a) r (fun x => List.map f [x]) [b] := h.comp hinjective
  rw [hwrite, hread]
  exact hview.map

/-- **A list is read with the views of its values.** -/
theorem ViewIff.writeAll {v : α → Prop} {w : ByteWriter ε α} {as : List α}
    (hinit : ∀ a ∈ as.dropLast, ViewIff True (v a) (w a) r f (f a))
    (hlast : ∀ a ∈ as.getLast?, ViewIff e (v a) (w a) r f (f a)) :
    ViewIff e (∀ a ∈ as, v a) (HatDrivers.Lib.writeAll w as) (readN r as.length) (List.map f)
      (as.map f) := by
  induction as with
  | nil => exact ViewIff.nil.congr (by simp)
  | cons a as ih =>
    cases as with
    | nil => exact (hlast a rfl).singleton.congr (by simp)
    | cons a' as =>
      have ha := hinit a (by simp)
      have htail := ih (fun b hb => hinit b (by rw [List.dropLast_cons_cons]; exact .tail _ hb))
        (fun b hb => hlast b (by rwa [List.getLast?_cons_cons]))
      exact (ha.cons htail).congr List.forall_mem_cons.symm

/-- The number of values, of which a count modulo `m` is written. -/
theorem ViewIff.counted {w : ByteWriter ε α} {as : List α} {m : ℕ} (hm : 0 < m)
    (h : ViewIff e p (HatDrivers.Lib.writeAll w as) (readN r as.length) (List.map f)
      (as.map f)) :
    ViewIff e (as.length < m ∧ p) (HatDrivers.Lib.writeAll w as) (readN r (as.length % m))
      (List.map f) (as.map f) where
  keeps := by
    rintro ⟨hlt, hp⟩
    rw [Nat.mod_eq_of_lt hlt]
    exact h.keeps hp
  loses := by
    intro hp ns hns hb rest as' rest' hread heq
    have hlength := congrArg List.length heq
    rw [List.length_map, List.length_map, length_of_readN hread] at hlength
    have hlt : as.length < m := hlength ▸ Nat.mod_lt _ hm
    rw [Nat.mod_eq_of_lt hlt] at hread
    exact h.loses (fun h => hp ⟨hlt, h⟩) ns hns hb rest as' rest' hread heq

end HatDrivers.Lib
