import HatDrivers.Lib.Entries
import HatDrivers.Lib.Transition
import HatDrivers.Mqtt.IdentifierRegistry

namespace HatDrivers.Mqtt

open HatDrivers.Lib

/-!
# MQTT — allocation of identifiers

The calls of `allocate_identifier` of one registry, and what their callers do with the
identifiers.  Events are the calls, the steps at which suspended calls go on, releases,
cancellations, and the two steps in which the registry is closed.

As long as no call has to wait, no identifier is held twice and none is lost.  A call
that waits breaks this: it waits while an identifier is left (`safe_iff`), and one that
is handed to it while it waits can be allocated again before it runs.
-/

/-- A call of `allocate_identifier`. -/
inductive Call
  /-- suspended in `put`, the queue being full -/
  | putting
  /-- its future is in the queue -/
  | waiting
  /-- its future has the result, and the call has not gone on yet -/
  | handed (identifier : ℕ)
  /-- its future has an exception, and the call has not gone on yet -/
  | failing
  /-- it returned, and the identifier was not released yet -/
  | holding (identifier : ℕ)
  /-- it raised an exception, was cancelled, or its identifier was released -/
  | ended
  deriving DecidableEq

/-- The call is live and has no identifier yet. -/
def Call.Waits (call : Call) : Prop := call = .putting ∨ call = .waiting

structure Allocations where
  registry : IdentifierRegistry
  calls : List Call

namespace Allocations

/-! ### Events -/

def init : Allocations where
  registry := .init
  calls := []

inductive Event
  | allocate
  | put (i : ℕ)
  | resume (i : ℕ)
  | release (i : ℕ)
  | cancel (i : ℕ)
  | close
  | onClose
  deriving DecidableEq

def set (s : Allocations) (i : ℕ) (call : Call) : Allocations :=
  { s with calls := s.calls.set i call }

/-- Is the future of a call done? -/
def done (s : Allocations) (i : ℕ) : Bool := s.calls[i]? ≠ some .waiting

/-- A call up to where it waits. -/
def allocate (s : Allocations) : Allocations :=
  match s.registry.allocateIdentifier with
  | .connectionError => { s with calls := s.calls ++ [.ended] }
  | .unavailable => { s with calls := s.calls ++ [.ended] }
  | .identifier identifier registry =>
    { registry := registry, calls := s.calls ++ [.holding identifier] }
  | .waits =>
    match s.registry.put s.calls.length with
    | .closed => { s with calls := s.calls ++ [.ended] }
    | .full => { s with calls := s.calls ++ [.putting] }
    | .done registry => { registry := registry, calls := s.calls ++ [.waiting] }

/-- The `put` of a call goes on, which it does when there is room or the queue is closed. -/
def put (s : Allocations) (i : ℕ) : Option Allocations :=
  match s.registry.put i with
  | .closed => some (s.set i .ended)
  | .full => none
  | .done registry => some ({ s with registry := registry }.set i .waiting)

/-- A call goes on with the identifier it was handed. -/
def resume (s : Allocations) (i identifier : ℕ) : Allocations :=
  match s.registry.resume identifier with
  | none => s.set i .ended
  | some registry => { s with registry := registry }.set i (.holding identifier)

def release (s : Allocations) (i identifier : ℕ) : Allocations :=
  let (registry, call, _) := s.registry.releaseIdentifier s.done identifier
  let s := { s with registry := registry }.set i .ended
  match call with
  | none => s
  | some j => s.set j (.handed identifier)

/-- The closed registry fails the calls that wait. -/
def onClose (s : Allocations) : Allocations :=
  { registry := s.registry.onClose.1
    calls := s.calls.map fun call => if call = .waiting then .failing else call }

def step (s : Allocations) : Event → Option Allocations
  | .allocate => some s.allocate
  | .put i => if s.calls[i]? = some .putting then s.put i else none
  | .resume i =>
    match s.calls[i]? with
    | some (.handed identifier) => some (s.resume i identifier)
    | some .failing => some (s.set i .ended)
    | _ => none
  | .release i =>
    match s.calls[i]? with
    | some (.holding identifier) => some (s.release i identifier)
    | _ => none
  -- a call that was handed an identifier is cancelled before it can take it
  | .cancel i =>
    match s.calls[i]? with
    | some (.holding _) => none
    | some .ended => none
    | some _ => some (s.set i .ended)
    | none => none
  | .close => some { s with registry := { s.registry with isOpen := false } }
  | .onClose => if s.registry.isOpen then none else some s.onClose

/-! ### Safety -/

def Holds (s : Allocations) (i identifier : ℕ) : Prop :=
  s.calls[i]? = some (.holding identifier)

/-- An identifier of the protocol that no call holds or was handed. -/
def Free (s : Allocations) (identifier : ℕ) : Prop :=
  (1 ≤ identifier ∧ identifier ≤ 0xffff) ∧
    ∀ call ∈ s.calls, call ≠ Call.holding identifier ∧ call ≠ Call.handed identifier

structure Safe (s : Allocations) : Prop where
  /-- no identifier is held twice -/
  exclusive : ∀ i j identifier, s.Holds i identifier → s.Holds j identifier → i = j
  inRange : ∀ i identifier, s.Holds i identifier → 1 ≤ identifier ∧ identifier ≤ 0xffff
  /-- no call waits while an identifier is free -/
  available : ∀ identifier, s.Free identifier → ∀ call ∈ s.calls, ¬ Call.Waits call

/-- A call finds the registry closed, or more than one identifier that is not in use. -/
def Roomy (s : Allocations) (e : Event) : Prop :=
  e = .allocate → s.registry.isOpen → s.registry.identifierFutures.keys.length < 0xffff - 1

/-- What holds as long as no call had to wait. -/
structure Settled (s : Allocations) : Prop where
  calls : ∀ (i : ℕ) call, s.calls[i]? = some call → call = Call.ended ∨ ∃ n, call = Call.holding n
  exclusive : ∀ i j identifier, s.Holds i identifier → s.Holds j identifier → i = j
  mem_iff : ∀ identifier, identifier ∈ s.registry.identifierFutures ↔ ∃ i, s.Holds i identifier
  inRange : ∀ identifier ∈ s.registry.identifierFutures, 1 ≤ identifier ∧ identifier ≤ 0xffff
  length_le : s.registry.identifierFutures.keys.length ≤ 0xffff - 1
  next_pos : 1 ≤ s.registry.nextIdentifier
  next_le : s.registry.nextIdentifier ≤ 0xffff
  createFutures : s.registry.createFutures = []
  createClosed : s.registry.isOpen → s.registry.createClosed = false

variable {s s' : Allocations} {identifier i : ℕ} {call : Call}

theorem Settled.not_waits (h : Settled s) (hcall : call ∈ s.calls) : ¬ Call.Waits call := by
  obtain ⟨i, hi⟩ := List.mem_iff_getElem?.mp hcall
  rcases h.calls i call hi with rfl | ⟨n, rfl⟩
  · rintro (h | h) <;> cases h
  · rintro (h | h) <;> cases h

theorem Settled.safe (h : Settled s) : Safe s where
  exclusive := h.exclusive
  inRange := fun i identifier hi => h.inRange identifier ((h.mem_iff identifier).mpr ⟨i, hi⟩)
  available := fun _ _ _ hcall => h.not_waits hcall

theorem settled_init : Settled init where
  calls := by simp [init]
  exclusive := by simp [init, Holds]
  mem_iff := by simp [init, IdentifierRegistry.init, Holds]
  inRange := by simp [init, IdentifierRegistry.init]
  length_le := by simp [init, IdentifierRegistry.init]
  next_pos := Nat.le_refl 1
  next_le := by decide
  createFutures := rfl
  createClosed := fun _ => rfl

/-! ### Steps without waiting -/

/-- Only `isOpen` and `createClosed` change. -/
theorem Settled.closing (h : Settled s) {createClosed : Bool} :
    Settled { s with registry := { s.registry with
      isOpen := false, createClosed := createClosed } } where
  calls := h.calls
  exclusive := h.exclusive
  mem_iff := h.mem_iff
  inRange := h.inRange
  length_le := h.length_le
  next_pos := h.next_pos
  next_le := h.next_le
  createFutures := h.createFutures
  createClosed := nofun

/-- A call that ends at once holds nothing. -/
theorem Settled.concat_ended (h : Settled s) :
    Settled { s with calls := s.calls ++ [.ended] } := by
  have hholds : ∀ i identifier, Holds { s with calls := s.calls ++ [.ended] } i identifier ↔
      s.Holds i identifier := by
    intro i identifier
    unfold Holds
    rw [getElem?_concat_eq_some]
    simp
  refine ⟨?_, ?_, ?_, h.inRange, h.length_le, h.next_pos, h.next_le, h.createFutures,
    h.createClosed⟩
  · intro i call hi
    rcases getElem?_concat_eq_some.mp hi with hi | ⟨-, rfl⟩
    · exact h.calls i call hi
    · exact .inl rfl
  · intro i j identifier hi hj
    exact h.exclusive i j identifier ((hholds i identifier).mp hi) ((hholds j identifier).mp hj)
  · intro identifier
    rw [h.mem_iff identifier]
    exact exists_congr fun i => (hholds i identifier).symm

/-- A call takes an identifier that is not in use. -/
theorem Settled.concat_holding (h : Settled s) (hfree : identifier ∉ s.registry.identifierFutures)
    (hrange : 1 ≤ identifier ∧ identifier ≤ 0xffff)
    (hlength : s.registry.identifierFutures.keys.length < 0xffff - 1) :
    Settled {
      registry := { s.registry with nextIdentifier := identifier }.register identifier
      calls := s.calls ++ [.holding identifier] } := by
  have hnew : ∀ i, ¬ s.Holds i identifier := fun i hi =>
    hfree ((h.mem_iff identifier).mpr ⟨i, hi⟩)
  refine ⟨?_, ?_, ?_, ?_, ?_, hrange.1, hrange.2, h.createFutures, h.createClosed⟩
  · intro i call hi
    rcases getElem?_concat_eq_some.mp hi with hi | ⟨-, rfl⟩
    · exact h.calls i call hi
    · exact .inr ⟨identifier, rfl⟩
  · intro i j n hi hj
    rcases getElem?_concat_eq_some.mp hi with hi | ⟨rfl, hni⟩
    · rcases getElem?_concat_eq_some.mp hj with hj | ⟨rfl, hnj⟩
      · exact h.exclusive i j n hi hj
      · obtain rfl := Call.holding.inj hnj
        exact absurd hi (hnew i)
    · rcases getElem?_concat_eq_some.mp hj with hj | ⟨rfl, -⟩
      · obtain rfl := Call.holding.inj hni
        exact absurd hj (hnew j)
      · rfl
  · intro n
    show n ∈ s.registry.identifierFutures.insert identifier [] ↔ _
    rw [AList.mem_insert, h.mem_iff n]
    constructor
    · rintro (rfl | ⟨i, hi⟩)
      · exact ⟨s.calls.length, getElem?_concat_eq_some.mpr (.inr ⟨rfl, rfl⟩)⟩
      · exact ⟨i, getElem?_concat_eq_some.mpr (.inl hi)⟩
    · rintro ⟨i, hi⟩
      rcases getElem?_concat_eq_some.mp hi with hi | ⟨-, hn⟩
      · exact .inr ⟨i, hi⟩
      · exact .inl (Call.holding.inj hn).symm
  · intro n hn
    rcases (AList.mem_insert _).mp hn with rfl | hn
    · exact hrange
    · exact h.inRange n hn
  · show (s.registry.identifierFutures.insert identifier []).keys.length ≤ 0xffff - 1
    have hkeys : identifier ∉ s.registry.identifierFutures.keys := hfree
    rw [AList.keys_insert, List.erase_of_not_mem hkeys, List.length_cons]
    omega

/-- A call that need not wait takes an identifier. -/
theorem Settled.exists_allocated (h : Settled s) (hopen : s.registry.isOpen)
    (hlength : s.registry.identifierFutures.keys.length < 0xffff - 1) :
    ∃ identifier, identifier ∉ s.registry.identifierFutures ∧
      (1 ≤ identifier ∧ identifier ≤ 0xffff) ∧ s.allocate = {
        registry := { s.registry with nextIdentifier := identifier }.register identifier
        calls := s.calls ++ [.holding identifier] } := by
  obtain ⟨identifier, hidentifier⟩ := IdentifierRegistry.exists_getFreeIdentifier h.next_pos
    h.next_le (show s.registry.identifierFutures.keys.length < 0xffff by omega)
  obtain ⟨hfree, hrange⟩ :=
    IdentifierRegistry.getFreeIdentifier_eq_some h.next_pos h.next_le hidentifier
  refine ⟨identifier, hfree, hrange, ?_⟩
  unfold Allocations.allocate IdentifierRegistry.allocateIdentifier
  rw [if_neg (by simpa using hopen), if_neg (by omega), hidentifier]

theorem Settled.allocate (h : Settled s) (hroomy : s.Roomy .allocate) : Settled s.allocate := by
  by_cases hopen : s.registry.isOpen
  · have hlength := hroomy rfl hopen
    obtain ⟨identifier, hfree, hrange, hallocate⟩ := h.exists_allocated hopen hlength
    rw [hallocate]
    exact h.concat_holding hfree hrange hlength
  · unfold Allocations.allocate IdentifierRegistry.allocateIdentifier
    rw [if_pos hopen]
    exact h.concat_ended

/-- A released identifier is not in use, and no call waits for it. -/
theorem Settled.release (h : Settled s) (hi : s.Holds i identifier) :
    Settled (s.release i identifier) := by
  have hlt : i < s.calls.length := (List.getElem?_eq_some_iff.mp hi).1
  have hrelease : s.release i identifier = {
      registry := { s.registry with
        identifierFutures := s.registry.identifierFutures.erase identifier }
      calls := s.calls.set i .ended } := by
    simp only [Allocations.release, IdentifierRegistry.releaseIdentifier, h.createFutures,
      nextPending, set]
  have hholds : ∀ j n, (s.release i identifier).Holds j n ↔ j ≠ i ∧ s.Holds j n := by
    intro j n
    rw [hrelease]
    unfold Holds
    rw [getElem?_set_eq_some]
    simp [eq_comm]
  refine ⟨?_, ?_, ?_, ?_, ?_, ?_, ?_, ?_, ?_⟩
  · intro j call hj
    rw [hrelease] at hj
    rcases getElem?_set_eq_some.mp hj with ⟨-, hj⟩ | ⟨-, -, rfl⟩
    · exact h.calls j call hj
    · exact .inl rfl
  · intro j k n hj hk
    exact h.exclusive j k n ((hholds j n).mp hj).2 ((hholds k n).mp hk).2
  · intro n
    rw [hrelease] at hholds ⊢
    show n ∈ s.registry.identifierFutures.erase identifier ↔ _
    rw [AList.mem_erase, h.mem_iff n]
    constructor
    · rintro ⟨hne, j, hj⟩
      refine ⟨j, (hholds j n).mpr ⟨?_, hj⟩⟩
      rintro rfl
      exact hne (Call.holding.inj (Option.some.inj (hj.symm.trans hi)))
    · rintro ⟨j, hj⟩
      obtain ⟨hne, hnj⟩ := (hholds j n).mp hj
      refine ⟨?_, j, hnj⟩
      rintro rfl
      exact hne (h.exclusive j i n hnj hi)
  · intro n hn
    rw [hrelease] at hn
    exact h.inRange n (AList.mem_erase.mp hn).2
  · rw [hrelease]
    show (s.registry.identifierFutures.erase identifier).keys.length ≤ 0xffff - 1
    rw [AList.keys_erase]
    exact Nat.le_trans (List.length_erase_le ..) h.length_le
  · rw [hrelease]; exact h.next_pos
  · rw [hrelease]; exact h.next_le
  · rw [hrelease]; exact h.createFutures
  · rw [hrelease]; exact h.createClosed

/-- Without waiting calls, a closed registry fails none. -/
theorem Settled.onClose (h : Settled s) (hclosed : ¬ s.registry.isOpen) : Settled s.onClose := by
  have hcalls : (s.calls.map fun call => if call = .waiting then .failing else call) = s.calls := by
    refine (List.map_congr_left ?_).trans (List.map_id s.calls)
    intro call hcall
    exact if_neg fun hwaiting => h.not_waits hcall (.inr hwaiting)
  have hopen : s.registry.isOpen = false := by simpa using hclosed
  have honClose : s.onClose = { s with registry := { s.registry with
      isOpen := false, createClosed := true } } := by
    rw [Allocations.onClose, hcalls, IdentifierRegistry.onClose, ← h.createFutures, ← hopen]
  rw [honClose]
  exact h.closing

theorem Settled.step (h : Settled s) {e : Event} (hroomy : s.Roomy e)
    (hstep : s.step e = some s') : Settled s' := by
  -- a call that is in none of the phases of waiting
  have hcall : ∀ (i : ℕ) call, s.calls[i]? = some call →
      call = Call.ended ∨ ∃ n, call = Call.holding n :=
    h.calls
  cases e with
  | allocate =>
    obtain rfl := Option.some.inj hstep
    exact h.allocate hroomy
  | put i =>
    rw [Allocations.step] at hstep
    by_cases hi : s.calls[i]? = some .putting
    · rcases hcall i _ hi with hc | ⟨n, hc⟩ <;> cases hc
    · rw [if_neg hi] at hstep
      cases hstep
  | resume i =>
    rw [Allocations.step] at hstep
    cases hi : s.calls[i]? with
    | none => rw [hi] at hstep; cases hstep
    | some call =>
      rw [hi] at hstep
      rcases hcall i call hi with rfl | ⟨n, rfl⟩ <;> cases hstep
  | release i =>
    rw [Allocations.step] at hstep
    cases hi : s.calls[i]? with
    | none => rw [hi] at hstep; cases hstep
    | some call =>
      rw [hi] at hstep
      rcases hcall i call hi with rfl | ⟨n, rfl⟩
      · cases hstep
      · obtain rfl := Option.some.inj hstep
        exact h.release hi
  | cancel i =>
    rw [Allocations.step] at hstep
    cases hi : s.calls[i]? with
    | none => rw [hi] at hstep; cases hstep
    | some call =>
      rw [hi] at hstep
      rcases hcall i call hi with rfl | ⟨n, rfl⟩ <;> cases hstep
  | close =>
    obtain rfl := Option.some.inj hstep
    exact h.closing
  | onClose =>
    rw [Allocations.step] at hstep
    by_cases hopen : s.registry.isOpen
    · rw [if_pos hopen] at hstep
      cases hstep
    · rw [if_neg hopen] at hstep
      obtain rfl := Option.some.inj hstep
      exact h.onClose hopen

/-! ### The call that waits -/

/-- A call that has to wait puts its future into the queue. -/
theorem Settled.allocate_waits (h : Settled s) (hopen : s.registry.isOpen)
    (hlength : 0xffff - 1 ≤ s.registry.identifierFutures.keys.length) :
    s.allocate = {
      registry := { s.registry with createFutures := [s.calls.length] }
      calls := s.calls ++ [.waiting] } := by
  unfold Allocations.allocate IdentifierRegistry.allocateIdentifier IdentifierRegistry.put
  rw [if_neg (by simpa using hopen), if_pos hlength, if_neg (by simp [h.createClosed hopen]),
    h.createFutures, if_neg (by decide)]
  rfl

/-- The first call that has to wait does so while an identifier is free. -/
theorem Settled.not_safe (h : Settled s) {e : Event} (hroomy : ¬ s.Roomy e) :
    ∃ s', s.step e = some s' ∧ ¬ Safe s' := by
  unfold Roomy at hroomy
  push Not at hroomy
  obtain ⟨rfl, hopen, hlength⟩ := hroomy
  refine ⟨s.allocate, rfl, fun hsafe => ?_⟩
  rw [h.allocate_waits hopen hlength] at hsafe
  have hle := h.length_le
  obtain ⟨identifier, hfree, hrange⟩ := IdentifierRegistry.exists_free
    (show s.registry.identifierFutures.keys.length < 0xffff by omega)
  apply hsafe.available identifier ⟨hrange, ?_⟩ .waiting (by simp) (.inr rfl)
  intro call hcall
  rcases List.mem_append.mp hcall with hcall | hcall
  · obtain ⟨i, hi⟩ := List.mem_iff_getElem?.mp hcall
    constructor
    · rintro rfl
      exact hfree ((h.mem_iff identifier).mpr ⟨i, hi⟩)
    · rintro rfl
      rcases h.calls i _ hi with hc | ⟨n, hc⟩ <;> cases hc
  · obtain rfl := List.mem_singleton.mp hcall
    exact ⟨nofun, nofun⟩

/-- **The registry is safe iff no call has to wait.**  In every state of a run no identifier
is held twice and none is lost, iff every call of the run finds more than one identifier
that is not in use, or a closed registry. -/
theorem safe_iff (es : List Event) :
    (∀ es' s, es' <+: es → run step init es' = some s → Safe s) ↔ Along step Roomy init es :=
  forall_safe_iff_along (fun _ _ _ h hroomy hstep => h.step hroomy hstep) (fun _ h => h.safe)
    (fun _ _ h hroomy => h.not_safe hroomy) settled_init

/-! ### Two holders -/

/-- Calls that need not wait, one after the other. -/
theorem exists_run_allocate (n : ℕ) (hn : n < 0xffff - 1) :
    ∃ s, run step init (List.replicate (n + 1) .allocate) = some s ∧ Settled s ∧
      s.registry.isOpen ∧ s.registry.identifierFutures.keys.length = n + 1 ∧
      s.calls.length = n + 1 ∧ s.Holds n s.registry.nextIdentifier := by
  have hstep : ∀ s, Settled s → s.registry.isOpen →
      s.registry.identifierFutures.keys.length < 0xffff - 1 → s.allocate.registry.isOpen ∧
      s.allocate.registry.identifierFutures.keys.length =
        s.registry.identifierFutures.keys.length + 1 ∧
      s.allocate.calls.length = s.calls.length + 1 ∧
      s.allocate.Holds s.calls.length s.allocate.registry.nextIdentifier := by
    intro s h hopen hlength
    obtain ⟨identifier, hfree, -, hallocate⟩ := h.exists_allocated hopen hlength
    have hkeys : identifier ∉ s.registry.identifierFutures.keys := hfree
    rw [hallocate]
    refine ⟨hopen, ?_, by simp, getElem?_concat_eq_some.mpr (.inr ⟨rfl, rfl⟩)⟩
    show (s.registry.identifierFutures.insert identifier []).keys.length = _
    rw [AList.keys_insert, List.erase_of_not_mem hkeys, List.length_cons]
  induction n with
  | zero =>
    have hnew := hstep init settled_init rfl (by decide)
    exact ⟨init.allocate, rfl, settled_init.allocate fun _ _ => by decide, hnew⟩
  | succ n ih =>
    obtain ⟨s, hrun, h, hopen, hkeys, hlength, -⟩ := ih (by omega)
    obtain ⟨hopen', hkeys', hlength', hholds'⟩ := hstep s h hopen (by omega)
    refine ⟨s.allocate, ?_, h.allocate fun _ _ => by omega, hopen', by omega, by omega, ?_⟩
    · rw [List.replicate_succ', run_append, hrun]
      rfl
    · rwa [hlength] at hholds'

/-- The last identifier to be allocated is the first one to be tried. -/
theorem getFreeIdentifier_next {r : IdentifierRegistry} (hnext : r.nextIdentifier ≤ 0xffff)
    (hfree : r.nextIdentifier ∉ r.identifierFutures) :
    r.getFreeIdentifier = some r.nextIdentifier := by
  obtain ⟨n, hn⟩ : ∃ n, 0x10000 - r.nextIdentifier = n + 1 := ⟨0xffff - r.nextIdentifier, by omega⟩
  rw [IdentifierRegistry.getFreeIdentifier, IdentifierRegistry.candidates, hn, List.range'_succ,
    List.cons_append]
  exact List.find?_cons_of_pos (by simpa using hfree)

/-- The last identifier to be allocated is released while a call waits: the waiting call is
handed it, and before it goes on, the next call finds it free. -/
theorem exists_two_holders (h : Settled s) (hopen : s.registry.isOpen)
    (hlength : s.registry.identifierFutures.keys.length = 0xffff - 1)
    (hi : s.Holds i s.registry.nextIdentifier) :
    ∃ s', run step s [.allocate, .release i, .allocate, .resume s.calls.length] = some s' ∧
      s'.Holds s.calls.length s.registry.nextIdentifier ∧
      s'.Holds (s.calls.length + 1) s.registry.nextIdentifier := by
  obtain ⟨registry, calls⟩ := s
  have hlt : i < calls.length := (List.getElem?_eq_some_iff.mp hi).1
  have hmem : registry.nextIdentifier ∈ registry.identifierFutures :=
    (h.mem_iff registry.nextIdentifier).mpr ⟨i, hi⟩
  -- the call waits
  let s₁ : Allocations := ⟨{ registry with createFutures := [calls.length] }, calls ++ [.waiting]⟩
  have hwaits : step ⟨registry, calls⟩ .allocate = some s₁ :=
    congrArg some (h.allocate_waits hopen (Nat.le_of_eq hlength.symm))
  -- the release hands the identifier to it
  let released : IdentifierRegistry := { registry with
    identifierFutures := registry.identifierFutures.erase registry.nextIdentifier
    createFutures := [] }
  let s₂ : Allocations := ⟨released,
    ((calls ++ [Call.waiting]).set i .ended).set calls.length (.handed registry.nextIdentifier)⟩
  have hheld : s₁.calls[i]? = some (.holding registry.nextIdentifier) :=
    getElem?_concat_eq_some.mpr (.inl hi)
  have hreleases : step s₁ (.release i) = some s₂ := by
    have hpending : s₁.done calls.length = false := by simp [done, s₁]
    rw [step, hheld]
    simp [release, IdentifierRegistry.releaseIdentifier, s₁, nextPending, hpending, set, s₂,
      released]
  -- the next call takes it as well
  let s₃ : Allocations := ⟨{ released with
    nextIdentifier := registry.nextIdentifier }.register registry.nextIdentifier,
    s₂.calls ++ [.holding registry.nextIdentifier]⟩
  have htakes : step s₂ .allocate = some s₃ := by
    have hkeys : released.identifierFutures.keys.length < 0xffff - 1 := by
      show (registry.identifierFutures.erase registry.nextIdentifier).keys.length < _
      rw [AList.keys_erase, List.length_erase_of_mem hmem, hlength]
      decide
    have hfree : released.getFreeIdentifier = some registry.nextIdentifier :=
      getFreeIdentifier_next (r := released) h.next_le (by simp [released])
    have hallocates : released.allocateIdentifier =
        .identifier registry.nextIdentifier ({ released with
          nextIdentifier := registry.nextIdentifier }.register registry.nextIdentifier) := by
      rw [IdentifierRegistry.allocateIdentifier, if_neg (by simpa using hopen),
        if_neg (Nat.not_le.mpr hkeys), hfree]
    show some s₂.allocate = some s₃
    rw [allocate, show s₂.registry = released from rfl, hallocates]
  -- the waiting call goes on
  have hhanded : s₃.calls[calls.length]? = some (.handed registry.nextIdentifier) := by
    apply getElem?_concat_eq_some.mpr
    exact .inl (getElem?_set_eq_some.mpr (.inr ⟨rfl, by simp, rfl⟩))
  let s₄ : Allocations := ⟨s₃.registry.register registry.nextIdentifier,
    s₃.calls.set calls.length (.holding registry.nextIdentifier)⟩
  have hresumes : step s₃ (.resume calls.length) = some s₄ := by
    have hopen₃ : s₃.registry.isOpen := hopen
    rw [step, hhanded]
    simp only [resume, IdentifierRegistry.resume, hopen₃, not_true_eq_false, if_false, set, s₄]
  refine ⟨s₄, ?_, ?_, ?_⟩
  · rw [run_cons, hwaits, Option.bind_some, run_cons, hreleases, Option.bind_some, run_cons, htakes,
      Option.bind_some, run_cons, hresumes]
    rfl
  · have hlt₃ : calls.length < s₃.calls.length := by
      simp only [s₃, s₂, List.length_append, List.length_set, List.length_singleton]
      omega
    exact getElem?_set_eq_some.mpr (.inr ⟨rfl, hlt₃, rfl⟩)
  · refine getElem?_set_eq_some.mpr (.inl ⟨(Nat.succ_ne_self _).symm, ?_⟩)
    exact getElem?_concat_eq_some.mpr (.inr ⟨by simp [s₂], rfl⟩)

/-- All identifiers but one are allocated, a call waits, and the last one is released. -/
def handedTwice : List Event :=
  List.replicate (0xffff - 1) .allocate ++
    [.allocate, .release 0xfffd, .allocate, .resume 0xfffe]

theorem handedTwice_not_safe :
    ∃ s identifier, run step init handedTwice = some s ∧ s.Holds 0xfffe identifier ∧
      s.Holds 0xffff identifier ∧ ¬ Safe s := by
  obtain ⟨s, hrun, h, hopen, hkeys, hlength, hholds⟩ := exists_run_allocate 0xfffd (by decide)
  obtain ⟨s', hrun', hfirst, hsecond⟩ := exists_two_holders h hopen hkeys hholds
  rw [hlength] at hrun' hfirst hsecond
  refine ⟨s', s.registry.nextIdentifier, ?_, hfirst, hsecond, fun hsafe => ?_⟩
  · rw [handedTwice, run_append]
    show (run step init (List.replicate (0xfffd + 1) .allocate)).bind _ = some s'
    rw [hrun]
    exact hrun'
  · exact absurd (hsafe.exclusive _ _ _ hfirst hsecond) (by decide)

end Allocations

end HatDrivers.Mqtt
