import HatDrivers.Lib.Entries
import Mathlib.Logic.Relation

namespace HatDrivers.Lib

/-!
# A dispatcher and its members

A dispatcher takes requests one after the other and has each processed by the open members that
it is for.  Members join, are closed, and leave some time after that; the dispatcher may have to
wait for a member.  It isolates its members (`Dispatcher.Isolated`) if one of them that closes
neither stops it nor closes another, and the open ones are given all the requests for them.

`Dispatcher.Step` says what such a dispatcher may do.  Its one restriction on the members is
that none leaves while the dispatcher waits for it.
-/

structure Member (ρ : Type) where
  isFor : ρ → Bool
  isOpen : Bool
  /-- was it closed of itself, and not as the dispatcher ended? -/
  closeRequested : Bool
  hasLeft : Bool
  /-- how many requests were taken before it joined -/
  since : ℕ
  /-- the requests it processed -/
  requests : List ρ

structure Dispatcher (ρ : Type) where
  members : List (Member ρ)
  /-- the requests that were taken -/
  taken : List ρ
  /-- the request that is processed, and the members that are still to process it -/
  pending : Option (ρ × List ℕ)
  /-- the member that it waits for -/
  waitsFor : Option ℕ
  alive : Bool
  /-- did it end as a member had left? -/
  failed : Bool

namespace Dispatcher

variable {ρ : Type} {d d' : Dispatcher ρ} {m m' : Member ρ} {r : ρ} {rest : List ℕ} {k : ℕ}

/-- The request that member `k` is still to process. -/
def pendingFor (d : Dispatcher ρ) (k : ℕ) : List ρ :=
  match d.pending with
  | some (r, rest) => if k ∈ rest then [r] else []
  | none => []

structure Isolated (d : Dispatcher ρ) : Prop where
  /-- no member that left ended the dispatcher -/
  running : d.failed = false
  /-- only what was closed of itself is closed -/
  others : d.alive → ∀ m ∈ d.members, m.isOpen = false → m.closeRequested
  /-- an open member processed what is for it, in order -/
  served : d.alive → ∀ (k : ℕ) (m : Member ρ), d.members[k]? = some m → m.isOpen →
    m.requests ++ d.pendingFor k = (d.taken.drop m.since).filter m.isFor
  /-- the dispatcher does not wait for a member that left -/
  flowing : ∀ (k : ℕ) (m : Member ρ), d.waitsFor = some k → d.members[k]? = some m →
    m.hasLeft = false

/-- The dispatcher ends, and closes its members. -/
def finish (d : Dispatcher ρ) : Dispatcher ρ :=
  { d with
    members := d.members.map fun m => { m with isOpen := false }
    pending := none
    waitsFor := none
    alive := false }

inductive Step : Dispatcher ρ → Dispatcher ρ → Prop
  | join {d : Dispatcher ρ} {m : Member ρ} (hopen : m.isOpen = true) (hleft : m.hasLeft = false)
      (hsince : m.since = d.taken.length) (hnew : m.requests = []) :
      Step d { d with members := d.members ++ [m] }
  | close {d : Dispatcher ρ} {k : ℕ} {m : Member ρ} (hk : d.members[k]? = some m) :
      Step d { d with
        members := d.members.set k { m with isOpen := false, closeRequested := true } }
  | leave {d : Dispatcher ρ} {k : ℕ} {m : Member ρ} (hk : d.members[k]? = some m)
      (hclosed : m.isOpen = false) (hwaits : d.waitsFor ≠ some k) :
      Step d { d with members := d.members.set k { m with hasLeft := true } }
  | take {d : Dispatcher ρ} {r : ρ} {rest : List ℕ} (hpending : d.pending = none)
      (hnodup : rest.Nodup) (hrest : ∀ k ∈ rest, k < d.members.length)
      (hfor : ∀ (k : ℕ) (m : Member ρ), d.members[k]? = some m → m.isOpen →
        (k ∈ rest ↔ m.isFor r)) :
      Step d { d with taken := d.taken ++ [r], pending := some (r, rest) }
  | process {d : Dispatcher ρ} {r : ρ} {rest : List ℕ} {k : ℕ} {m : Member ρ} {w : Option ℕ}
      (hpending : d.pending = some (r, k :: rest)) (hk : d.members[k]? = some m)
      (hopen : m.isOpen = true) (hw : w = none ∨ w = some k) :
      Step d { d with
        members := d.members.set k { m with requests := m.requests ++ [r] }
        pending := some (r, rest)
        waitsFor := w }
  | skip {d : Dispatcher ρ} {r : ρ} {rest : List ℕ} {k : ℕ} {m : Member ρ}
      (hpending : d.pending = some (r, k :: rest)) (hk : d.members[k]? = some m)
      (hclosed : m.isOpen = false) : Step d { d with pending := some (r, rest) }
  | goOn {d : Dispatcher ρ} : Step d { d with waitsFor := none }
  | done {d : Dispatcher ρ} {r : ρ} (hpending : d.pending = some (r, [])) :
      Step d { d with pending := none }
  | finish {d : Dispatcher ρ} : Step d d.finish

/-- What makes a dispatcher isolate its members from then on. -/
structure Inv (d : Dispatcher ρ) : Prop extends d.Isolated where
  left : ∀ m ∈ d.members, m.hasLeft → m.isOpen = false
  since_le : ∀ m ∈ d.members, m.since ≤ d.taken.length
  pending : ∀ r rest, d.pending = some (r, rest) → rest.Nodup ∧ ∀ k ∈ rest, k < d.members.length

theorem pendingFor_of_none (h : d.pending = none) (k : ℕ) : d.pendingFor k = [] := by
  simp [pendingFor, h]

theorem pendingFor_of_some (h : d.pending = some (r, rest)) (k : ℕ) :
    d.pendingFor k = if k ∈ rest then [r] else [] := by
  simp [pendingFor, h]

/-! ### One lemma for each step -/

theorem Inv.join (h : d.Inv) (hopen : m.isOpen = true) (hleft : m.hasLeft = false)
    (hsince : m.since = d.taken.length) (hnew : m.requests = []) :
    ({ d with members := d.members ++ [m] } : Dispatcher ρ).Inv where
  running := h.running
  others halive m' hm' hclosed := by
    rcases List.mem_append.mp hm' with hm' | hm'
    · exact h.others halive m' hm' hclosed
    · obtain rfl := List.mem_singleton.mp hm'
      simp [hopen] at hclosed
  served halive k m' hk hm' := by
    rcases getElem?_concat_eq_some.mp hk with hk | ⟨rfl, rfl⟩
    · exact h.served halive k m' hk hm'
    · -- the new member is in no list of members yet
      have hpending : d.pendingFor d.members.length = [] := by
        cases hp : d.pending with
        | none => exact pendingFor_of_none hp _
        | some p =>
          obtain ⟨r, rest⟩ := p
          rw [pendingFor_of_some hp]
          apply if_neg
          intro hmem
          exact Nat.lt_irrefl _ ((h.pending r rest hp).2 _ hmem)
      have hdrop : d.taken.drop m.since = [] := by
        rw [hsince]
        exact List.drop_length
      show m.requests ++ d.pendingFor d.members.length = (d.taken.drop m.since).filter m.isFor
      rw [hpending, hdrop, hnew]
      rfl
  flowing k m' hwaits hk := by
    rcases getElem?_concat_eq_some.mp hk with hk | ⟨-, rfl⟩
    · exact h.flowing k m' hwaits hk
    · exact hleft
  left m' hm' hm'left := by
    rcases List.mem_append.mp hm' with hm' | hm'
    · exact h.left m' hm' hm'left
    · obtain rfl := List.mem_singleton.mp hm'
      simp [hleft] at hm'left
  since_le m' hm' := by
    rcases List.mem_append.mp hm' with hm' | hm'
    · exact h.since_le m' hm'
    · obtain rfl := List.mem_singleton.mp hm'
      exact Nat.le_of_eq hsince
  pending r rest hp := by
    refine ⟨(h.pending r rest hp).1, fun k hk => ?_⟩
    have hlt := (h.pending r rest hp).2 k hk
    show k < (d.members ++ [m]).length
    rw [List.length_append]
    exact Nat.lt_add_right _ hlt

/-- A closed member changes, and nothing that the dispatcher does depends on it. -/
theorem Inv.setClosed (h : d.Inv) (hk : d.members[k]? = some m) (hclosed : m'.isOpen = false)
    (hrequested : d.alive → m'.closeRequested) (hsince : m'.since = m.since)
    (hleft : m'.hasLeft = true → m.hasLeft = true ∨ d.waitsFor ≠ some k) :
    ({ d with members := d.members.set k m' } : Dispatcher ρ).Inv where
  running := h.running
  others halive m₁ hm₁ hm₁closed := by
    rcases List.mem_or_eq_of_mem_set hm₁ with hm₁ | rfl
    · exact h.others halive m₁ hm₁ hm₁closed
    · exact hrequested halive
  served halive k₁ m₁ hk₁ hm₁ := by
    rcases getElem?_set_eq_some.mp hk₁ with ⟨-, hk₁⟩ | ⟨-, -, rfl⟩
    · exact h.served halive k₁ m₁ hk₁ hm₁
    · simp [hclosed] at hm₁
  flowing k₁ m₁ hwaits hk₁ := by
    rcases getElem?_set_eq_some.mp hk₁ with ⟨-, hk₁⟩ | ⟨rfl, -, rfl⟩
    · exact h.flowing k₁ m₁ hwaits hk₁
    · cases hm'left : m'.hasLeft with
      | false => rfl
      | true =>
        rcases hleft hm'left with hmleft | hnot
        · rw [h.flowing k m hwaits hk] at hmleft
          cases hmleft
        · exact absurd hwaits hnot
  left m₁ hm₁ hm₁left := by
    rcases List.mem_or_eq_of_mem_set hm₁ with hm₁ | rfl
    · exact h.left m₁ hm₁ hm₁left
    · exact hclosed
  since_le m₁ hm₁ := by
    rcases List.mem_or_eq_of_mem_set hm₁ with hm₁ | rfl
    · exact h.since_le m₁ hm₁
    · rw [hsince]
      exact h.since_le m (List.mem_of_getElem? hk)
  pending r rest hp := by
    refine ⟨(h.pending r rest hp).1, fun k₁ hk₁ => ?_⟩
    show k₁ < (d.members.set k m').length
    rw [List.length_set]
    exact (h.pending r rest hp).2 k₁ hk₁

theorem Inv.take (h : d.Inv) (hpending : d.pending = none) (hnodup : rest.Nodup)
    (hrest : ∀ k ∈ rest, k < d.members.length)
    (hfor : ∀ (k : ℕ) (m : Member ρ), d.members[k]? = some m → m.isOpen →
      (k ∈ rest ↔ m.isFor r)) :
    ({ d with taken := d.taken ++ [r], pending := some (r, rest) } : Dispatcher ρ).Inv where
  running := h.running
  others := h.others
  served halive k m hk hopen := by
    have hserved := h.served halive k m hk hopen
    rw [pendingFor_of_none hpending, List.append_nil] at hserved
    have hsince := h.since_le m (List.mem_of_getElem? hk)
    rw [pendingFor_of_some rfl, List.drop_append_of_le_length hsince, List.filter_append, hserved]
    congr 1
    by_cases hr : m.isFor r
    · rw [if_pos ((hfor k m hk hopen).mpr hr)]
      simp [hr]
    · rw [if_neg fun hmem => hr ((hfor k m hk hopen).mp hmem)]
      simp [hr]
  flowing := h.flowing
  left := h.left
  since_le m hm := by
    show m.since ≤ (d.taken ++ [r]).length
    rw [List.length_append]
    exact Nat.le_add_right_of_le (h.since_le m hm)
  pending r' rest' hp := by
    cases hp
    exact ⟨hnodup, hrest⟩

theorem Inv.process {w : Option ℕ} (h : d.Inv) (hpending : d.pending = some (r, k :: rest))
    (hk : d.members[k]? = some m) (hopen : m.isOpen = true) (hw : w = none ∨ w = some k) :
    ({ d with
      members := d.members.set k { m with requests := m.requests ++ [r] }
      pending := some (r, rest)
      waitsFor := w } : Dispatcher ρ).Inv where
  running := h.running
  others halive m₁ hm₁ hm₁closed := by
    rcases List.mem_or_eq_of_mem_set hm₁ with hm₁ | rfl
    · exact h.others halive m₁ hm₁ hm₁closed
    · simp [hopen] at hm₁closed
  served halive k₁ m₁ hk₁ hm₁ := by
    obtain ⟨hnodup, -⟩ := h.pending r (k :: rest) hpending
    rcases getElem?_set_eq_some.mp hk₁ with ⟨hne, hk₁⟩ | ⟨rfl, -, rfl⟩
    · have hserved := h.served halive k₁ m₁ hk₁ hm₁
      rw [pendingFor_of_some hpending] at hserved
      rw [pendingFor_of_some rfl, ← hserved]
      simp [Ne.symm hne]
    · -- the request goes from the pending ones to the processed ones
      have hserved := h.served halive k m hk hopen
      rw [pendingFor_of_some hpending, if_pos (List.mem_cons_self ..)] at hserved
      rw [pendingFor_of_some rfl, if_neg (List.nodup_cons.mp hnodup).1, List.append_nil]
      exact hserved
  flowing k₁ m₁ hwaits hk₁ := by
    rcases hw with rfl | rfl
    · cases hwaits
    · obtain rfl := Option.some.inj hwaits
      have hleft : m.hasLeft = false := by
        cases hmleft : m.hasLeft with
        | false => rfl
        | true =>
          have := h.left m (List.mem_of_getElem? hk) hmleft
          simp [hopen] at this
      rcases getElem?_set_eq_some.mp hk₁ with ⟨hne, -⟩ | ⟨-, -, rfl⟩
      · exact absurd rfl hne
      · exact hleft
  left m₁ hm₁ hm₁left := by
    rcases List.mem_or_eq_of_mem_set hm₁ with hm₁ | rfl
    · exact h.left m₁ hm₁ hm₁left
    · exact h.left m (List.mem_of_getElem? hk) hm₁left
  since_le m₁ hm₁ := by
    rcases List.mem_or_eq_of_mem_set hm₁ with hm₁ | rfl
    · exact h.since_le m₁ hm₁
    · exact h.since_le m (List.mem_of_getElem? hk)
  pending r' rest' hp := by
    cases hp
    obtain ⟨hnodup, hlt⟩ := h.pending r (k :: rest) hpending
    refine ⟨(List.nodup_cons.mp hnodup).2, fun k₁ hk₁ => ?_⟩
    show k₁ < (d.members.set k _).length
    rw [List.length_set]
    exact hlt k₁ (List.mem_cons_of_mem _ hk₁)

theorem Inv.skip (h : d.Inv) (hpending : d.pending = some (r, k :: rest))
    (hk : d.members[k]? = some m) (hclosed : m.isOpen = false) :
    ({ d with pending := some (r, rest) } : Dispatcher ρ).Inv where
  running := h.running
  others := h.others
  served halive k₁ m₁ hk₁ hm₁ := by
    have hserved := h.served halive k₁ m₁ hk₁ hm₁
    have hne : k₁ ≠ k := by
      rintro rfl
      obtain rfl := Option.some.inj (hk.symm.trans hk₁)
      simp [hclosed] at hm₁
    rw [pendingFor_of_some hpending] at hserved
    rw [pendingFor_of_some rfl, ← hserved]
    simp [hne]
  flowing := h.flowing
  left := h.left
  since_le := h.since_le
  pending r' rest' hp := by
    cases hp
    obtain ⟨hnodup, hlt⟩ := h.pending r (k :: rest) hpending
    exact ⟨(List.nodup_cons.mp hnodup).2, fun k₁ hk₁ => hlt k₁ (List.mem_cons_of_mem _ hk₁)⟩

theorem Inv.goOn (h : d.Inv) : ({ d with waitsFor := none } : Dispatcher ρ).Inv where
  running := h.running
  others := h.others
  served := h.served
  flowing _ _ hwaits := by cases hwaits
  left := h.left
  since_le := h.since_le
  pending := h.pending

theorem Inv.done (h : d.Inv) (hpending : d.pending = some (r, [])) :
    ({ d with pending := none } : Dispatcher ρ).Inv where
  running := h.running
  others := h.others
  served halive k m hk hopen := by
    have hserved := h.served halive k m hk hopen
    rw [pendingFor_of_some hpending, if_neg List.not_mem_nil] at hserved
    rw [pendingFor_of_none rfl]
    exact hserved
  flowing := h.flowing
  left := h.left
  since_le := h.since_le
  pending _ _ hp := by cases hp

theorem Inv.finish (h : d.Inv) : d.finish.Inv where
  running := h.running
  others halive := by cases halive
  served halive := by cases halive
  flowing _ _ hwaits := by cases hwaits
  left m hm _ := by
    obtain ⟨m', -, rfl⟩ := List.mem_map.mp hm
    rfl
  since_le m hm := by
    obtain ⟨m', hm', rfl⟩ := List.mem_map.mp hm
    exact h.since_le m' hm'
  pending _ _ hp := by cases hp

/-- **Step lemma.** -/
theorem Inv.step (h : d.Inv) (hstep : Step d d') : d'.Inv := by
  cases hstep with
  | join hopen hleft hsince hnew => exact h.join hopen hleft hsince hnew
  | close hk => exact h.setClosed hk rfl (fun _ => rfl) rfl .inl
  | leave hk hclosed hwaits =>
    have hrequested : d.alive → _ := fun halive =>
      h.others halive _ (List.mem_of_getElem? hk) hclosed
    exact h.setClosed hk hclosed hrequested rfl fun _ => .inr hwaits
  | take hpending hnodup hrest hfor => exact h.take hpending hnodup hrest hfor
  | process hpending hk hopen hw => exact h.process hpending hk hopen hw
  | skip hpending hk hclosed => exact h.skip hpending hk hclosed
  | goOn => exact h.goOn
  | done hpending => exact h.done hpending
  | finish => exact h.finish

/-- **Run lemma.** -/
theorem Inv.steps (h : d.Inv) (hsteps : Relation.ReflTransGen Step d d') : d'.Inv := by
  induction hsteps with
  | refl => exact h
  | tail _ hstep ih => exact ih.step hstep

/-- A dispatcher without members isolates them. -/
theorem Inv.of_init (hmembers : d.members = []) (hpending : d.pending = none)
    (hfailed : d.failed = false) : d.Inv where
  running := hfailed
  others _ m hm := by simp [hmembers] at hm
  served _ k m hk := by simp [hmembers] at hk
  flowing k m _ hk := by simp [hmembers] at hk
  left m hm := by simp [hmembers] at hm
  since_le m hm := by simp [hmembers] at hm
  pending r rest hp := by simp [hpending] at hp

/-- A member that leaves while the dispatcher waits for it is the end of isolation. -/
theorem not_isolated_of_leave (hk : d.members[k]? = some m) (hwaits : d.waitsFor = some k) :
    ¬ ({ d with
      members := d.members.set k { m with hasLeft := true } } : Dispatcher ρ).Isolated := by
  intro h
  have hlt : k < d.members.length := (List.getElem?_eq_some_iff.mp hk).1
  have hset : (d.members.set k { m with hasLeft := true })[k]? =
      some { m with hasLeft := true } := by
    rw [List.getElem?_set_self hlt]
  have := h.flowing k _ hwaits hset
  cases this

end Dispatcher

end HatDrivers.Lib
