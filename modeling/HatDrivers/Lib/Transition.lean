import Mathlib.Data.List.Basic

namespace HatDrivers.Lib

/-!
# Runs of a transition system

A system takes events one at a time (`step`), and `none` says that the event cannot
happen in the state.  A run is the list of its events.  `Along c` says that every
step of a run meets a condition on the state before it and the event; an invariant
is proved for one step and then holds after every run (`run_invariant`).
-/

variable {σ ε τ : Type}

/-- The state after the events of a run, if all of them can happen. -/
def run (step : σ → ε → Option σ) : σ → List ε → Option σ
  | s, [] => some s
  | s, e :: es => (step s e).bind fun s' => run step s' es

/-- Every step of the run meets the condition `c`. -/
def Along (step : σ → ε → Option σ) (c : σ → ε → Prop) : σ → List ε → Prop
  | _, [] => True
  | s, e :: es => c s e ∧ ∀ s', step s e = some s' → Along step c s' es

instance decidableAlong {step : σ → ε → Option σ} {c : σ → ε → Prop}
    [∀ s e, Decidable (c s e)] : (s : σ) → (es : List ε) → Decidable (Along step c s es)
  | _, [] => isTrue trivial
  | s, e :: es =>
    have : DecidablePred fun s' => Along step c s' es := fun s' => decidableAlong s' es
    inferInstanceAs (Decidable (c s e ∧ ∀ s' ∈ step s e, Along step c s' es))

variable {step : σ → ε → Option σ} {c : σ → ε → Prop} {s s' : σ}

@[simp] theorem run_nil (s : σ) : run step s [] = some s := rfl

theorem run_cons (s : σ) (e : ε) (es : List ε) :
    run step s (e :: es) = (step s e).bind fun s' => run step s' es := rfl

/-- A run that can happen has a first step that can happen. -/
theorem run_cons_eq_some {e : ε} {es : List ε} :
    run step s (e :: es) = some s' ↔ ∃ s₁, step s e = some s₁ ∧ run step s₁ es = some s' := by
  rw [run_cons, Option.bind_eq_some_iff]

theorem run_append (s : σ) (es es' : List ε) :
    run step s (es ++ es') = (run step s es).bind fun s' => run step s' es' := by
  induction es generalizing s with
  | nil => rfl
  | cons e es ih =>
    rw [List.cons_append, run_cons, run_cons]
    cases step s e with
    | none => rfl
    | some s₁ => exact ih s₁

/-- The condition holds along the first part of a run. -/
theorem Along.of_append {es es' : List ε} (h : Along step c s (es ++ es')) :
    Along step c s es := by
  induction es generalizing s with
  | nil => trivial
  | cons e es ih => exact ⟨h.1, fun s₁ hs₁ => ih (h.2 s₁ hs₁)⟩

/-- **Invariant rule.**  What holds at the start of a run and is kept by every step
that meets the condition holds at its end. -/
theorem run_invariant (Inv : σ → Prop)
    (hstep : ∀ s e s', Inv s → c s e → step s e = some s' → Inv s') {es : List ε}
    (hinv : Inv s) (hc : Along step c s es) (hrun : run step s es = some s') : Inv s' := by
  induction es generalizing s with
  | nil =>
    obtain rfl := Option.some.inj hrun
    exact hinv
  | cons e es ih =>
    obtain ⟨s₁, hs₁, hrun⟩ := run_cons_eq_some.mp hrun
    exact ih (hstep s e s₁ hinv hc.1 hs₁) (hc.2 s₁ hs₁) hrun

/-- Every run meets the condition that is always met. -/
theorem along_true (es : List ε) : Along step (fun _ _ => True) s es := by
  induction es generalizing s with
  | nil => trivial
  | cons e es ih => exact ⟨trivial, fun s₁ _ => ih⟩

/-- Invariant rule for a system without conditions on its steps. -/
theorem run_invariant_of_step {I : σ → Prop}
    (hstep : ∀ s e s', I s → step s e = some s' → I s') {es : List ε}
    (hinv : I s) (hrun : run step s es = some s') : I s' :=
  run_invariant I (fun s e s' h _ hs => hstep s e s' h hs) hinv (along_true es) hrun

/-- Invariant rule for what relates a state to the events before it. -/
theorem run_history {I : List ε → σ → Prop}
    (hstep : ∀ past s e s', I past s → step s e = some s' → I (past ++ [e]) s')
    {past es : List ε} (hinv : I past s) (hrun : run step s es = some s') :
    I (past ++ es) s' := by
  induction es generalizing s past with
  | nil =>
    obtain rfl := Option.some.inj hrun
    rwa [List.append_nil]
  | cons e es ih =>
    obtain ⟨s₁, hs₁, hrun⟩ := run_cons_eq_some.mp hrun
    have hinv' := ih (hstep past s e s₁ hinv hs₁) hrun
    rwa [List.append_assoc] at hinv'

/-- The events of a run meet a condition of their own, too. -/
theorem Along.and {p : ε → Prop} {es : List ε} (h : Along step c s es) (hp : ∀ e ∈ es, p e) :
    Along step (fun s e => p e ∧ c s e) s es := by
  induction es generalizing s with
  | nil => trivial
  | cons e es ih =>
    exact ⟨⟨hp e (by simp), h.1⟩, fun s₁ hs₁ => ih (h.2 s₁ hs₁) fun e' he' => hp e' (by simp [he'])⟩

/-- Invariant rule for a condition that cannot be done without, in runs of some of the events:
where steps that meet it keep an invariant of safe states, and every other step of such a state
leads out of the safe ones, the states of a run are safe iff its steps meet the condition. -/
theorem forall_safe_iff_along_of {Inv Safe : σ → Prop} {p : ε → Prop}
    (hstep : ∀ s e s', Inv s → p e → c s e → step s e = some s' → Inv s')
    (hsafe : ∀ s, Inv s → Safe s)
    (hleaves : ∀ s e, Inv s → p e → ¬ c s e → ∃ s', step s e = some s' ∧ ¬ Safe s')
    {es : List ε} (hp : ∀ e ∈ es, p e) (hinv : Inv s) :
    (∀ es' s', es' <+: es → run step s es' = some s' → Safe s') ↔ Along step c s es := by
  constructor
  · intro h
    induction es generalizing s with
    | nil => trivial
    | cons e es ih =>
      have hc : c s e := by
        by_contra hc
        obtain ⟨s', hs', hs'safe⟩ := hleaves s e hinv (hp e (by simp)) hc
        apply hs'safe
        apply h [e] s' ⟨es, rfl⟩
        rw [run_cons, hs']
        rfl
      refine ⟨hc, fun s₁ hs₁ => ih (fun e' he' => hp e' (by simp [he']))
        (hstep s e s₁ hinv (hp e (by simp)) hc hs₁) ?_⟩
      intro es' s' hprefix hrun
      apply h (e :: es') s' (List.cons_prefix_cons.mpr ⟨rfl, hprefix⟩)
      rw [run_cons, hs₁]
      exact hrun
  · intro h es' s' hprefix hrun
    obtain ⟨es'', rfl⟩ := hprefix
    have hp' : ∀ e ∈ es', p e := fun e he => hp e (by simp [he])
    exact hsafe s' (run_invariant Inv (fun s e s' hinv hc => hstep s e s' hinv hc.1 hc.2) hinv
      (h.of_append.and hp') hrun)

/-- The rule for runs of all events. -/
theorem forall_safe_iff_along {Inv Safe : σ → Prop}
    (hstep : ∀ s e s', Inv s → c s e → step s e = some s' → Inv s')
    (hsafe : ∀ s, Inv s → Safe s)
    (hleaves : ∀ s e, Inv s → ¬ c s e → ∃ s', step s e = some s' ∧ ¬ Safe s')
    {es : List ε} (hinv : Inv s) :
    (∀ es' s', es' <+: es → run step s es' = some s' → Safe s') ↔ Along step c s es :=
  forall_safe_iff_along_of (fun s e s' hinv _ => hstep s e s' hinv) hsafe
    (fun s e hinv _ => hleaves s e hinv) (fun _ _ => trivial) hinv

/-- What holds of every step of a run, as a condition along it. -/
theorem forall_steps_iff_along {P : σ → ε → σ → Prop} {es : List ε} :
    (∀ es' e s₁ s₂, es' ++ [e] <+: es → run step s es' = some s₁ → step s₁ e = some s₂ →
      P s₁ e s₂) ↔ Along step (fun s₁ e => ∀ s₂, step s₁ e = some s₂ → P s₁ e s₂) s es := by
  induction es generalizing s with
  | nil =>
    constructor
    · intro _
      trivial
    · intro _ es' e s₁ s₂ hprefix
      simp at hprefix
  | cons e es ih =>
    constructor
    · intro h
      refine ⟨fun s₂ hstep => h [] e s s₂ ⟨es, rfl⟩ rfl hstep, fun s' hs' => ih.mp ?_⟩
      intro es' e' s₁ s₂ hprefix hrun hstep
      apply h (e :: es') e' s₁ s₂ (List.cons_prefix_cons.mpr ⟨rfl, hprefix⟩) _ hstep
      rw [run_cons, hs']
      exact hrun
    · intro h es' e' s₁ s₂ hprefix hrun hstep
      cases es' with
      | nil =>
        obtain ⟨rfl, -⟩ := List.cons_prefix_cons.mp hprefix
        obtain rfl := Option.some.inj hrun
        exact h.1 s₂ hstep
      | cons e'' es' =>
        obtain ⟨rfl, htail⟩ := List.cons_prefix_cons.mp hprefix
        obtain ⟨s', hs', hrun⟩ := run_cons_eq_some.mp hrun
        exact ih.mpr (h.2 s' hs') es' e' s₁ s₂ htail hrun hstep

/-- Invariant rule for what holds of single steps: where every step of a state of the invariant
keeps it, and is as it should be iff it meets the condition, all steps of a run are as they should
be iff they meet the condition. -/
theorem forall_steps_iff_along_of_inv {I : σ → Prop} {P : σ → ε → σ → Prop}
    (hstep : ∀ s e s', I s → step s e = some s' → I s')
    (hiff : ∀ s e s', I s → step s e = some s' → (P s e s' ↔ c s e))
    (hnone : ∀ s e, I s → step s e = none → c s e) {es : List ε} (hinv : I s) :
    (∀ es' e s₁ s₂, es' ++ [e] <+: es → run step s es' = some s₁ → step s₁ e = some s₂ →
      P s₁ e s₂) ↔ Along step c s es := by
  rw [forall_steps_iff_along]
  induction es generalizing s with
  | nil => exact Iff.rfl
  | cons e es ih =>
    have hhead : (∀ s₂, step s e = some s₂ → P s e s₂) ↔ c s e := by
      cases hs : step s e with
      | none => exact ⟨fun _ => hnone s e hinv hs, fun _ s₂ h => nomatch h⟩
      | some s₂ =>
        rw [← hiff s e s₂ hinv hs]
        constructor
        · intro h
          exact h s₂ rfl
        · rintro h _ ⟨⟩
          exact h
    constructor
    · intro h
      exact ⟨hhead.mp h.1, fun s' hs' => (ih (hstep s e s' hinv hs')).mp (h.2 s' hs')⟩
    · intro h
      exact ⟨hhead.mpr h.1, fun s' hs' => (ih (hstep s e s' hinv hs')).mpr (h.2 s' hs')⟩

end HatDrivers.Lib
