import HatDrivers.Tcp

namespace HatDrivers.Tcp

open HatDrivers.Lib

/-!
# TCP — drains under back-pressure

Calls of `drain` wait while the transport has writing paused.  In a run of the protocol, with
what was so when each drain was called, a drain is over when the transport goes on and every
write before it was handed over, or when the connection is lost (`drains_follow_iff`).

One flush does not keep to this: `resume_writing` looks at what is left of its own queue, which
is empty when the transport pauses again at the write of the last entry.
-/

namespace Protocol

/-! ### A flush that is paused at its last write -/

/-- Of the entries of a queue, with which of them are not done: the last one is written, and its
write is the first one to pause. -/
def LastPauses (live : List Bool) (pauses : List Bool) : Prop :=
  live.getLast? = some true ∧ (pauses.idxOf? true).map (· + 1) = some (live.count true)

instance decidableLastPauses (live pauses : List Bool) : Decidable (LastPauses live pauses) :=
  inferInstanceAs (Decidable (_ ∧ _))

/-- Does the transport, in a flush, pause again at the write of the last entry of the queue? -/
def PausesLast (s : Protocol) (pauses : List Bool) : Prop :=
  LastPauses ((s.writeQueue.getD []).map fun entry => !s.done entry.2) pauses

instance decidablePausesLast (s : Protocol) (pauses : List Bool) :
    Decidable (s.PausesLast pauses) := inferInstanceAs (Decidable (LastPauses _ _))

variable {live pauses : List Bool}

theorem not_lastPauses_nil : ¬ LastPauses [] pauses := by
  rintro ⟨h, -⟩
  cases h

/-- An entry that is done is passed over. -/
theorem lastPauses_cons_false : LastPauses (false :: live) pauses ↔ LastPauses live pauses := by
  cases live with
  | nil => simp [LastPauses]
  | cons b live => simp [LastPauses]

/-- An entry whose write does not pause. -/
theorem lastPauses_cons_true (h : pauses.headD false = false) :
    LastPauses (true :: live) pauses ↔ LastPauses live pauses.tail := by
  cases pauses with
  | nil => simp [LastPauses]
  | cons pause pauses =>
    obtain rfl : pause = false := h
    cases live with
    | nil => simp [LastPauses, List.idxOf?_cons]
    | cons b live => simp [LastPauses, List.idxOf?_cons]

/-- An entry whose write pauses. -/
theorem lastPauses_cons_true_of_pauses (h : pauses.headD false = true) :
    LastPauses (true :: live) pauses ↔ live = [] := by
  cases pauses with
  | nil => cases h
  | cons pause pauses =>
    obtain rfl : pause = true := h
    constructor
    · rintro ⟨hlast, hcount⟩
      cases live with
      | nil => rfl
      | cons b live =>
        -- the last entry is a live one behind the first
        have hmem : true ∈ b :: live := List.mem_of_getLast? hlast
        have hpos := List.count_pos_iff.mpr hmem
        simp [List.idxOf?_cons] at hcount
        omega
    · rintro rfl
      simp [LastPauses, List.idxOf?_cons]

/-! ### The flush -/

variable {s s' : Protocol} {queue : List (Bytes × ℕ)} {past queued : List Call}

/-- The entries of a queue are done as their calls are. -/
theorem map_done_numbered (hcalls : s.calls = past ++ queued) :
    ((numbered past.length queued).map fun entry => !s.done entry.2) =
      queued.map fun c => decide (c.future = .pending) := by
  induction queued generalizing past with
  | nil => rfl
  | cons c queued ih =>
    have hcalls' : s.calls = (past ++ [c]) ++ queued := by
      rw [hcalls, List.append_assoc, List.singleton_append]
    have htail := ih hcalls'
    rw [List.length_append, List.length_singleton] at htail
    have hhead : s.done past.length = decide (c.future ≠ .pending) := by
      rw [done, hcalls]
      simp
    rw [numbered, List.map_cons, List.map_cons, htail, hhead]
    simp

/-- **A flush whose last write pauses**, and no other, leaves nothing of its queue while writing
is paused. -/
theorem Queued.flush_pauses (h : Queued s queue past queued) (hs : Flushing s)
    (hnone : s.writeQueue = none) :
    ((s.flush queue pauses).2 = [] ∧ (s.flush queue pauses).1.writeQueue.isSome) ↔
      LastPauses (queued.map fun c => decide (c.future = .pending)) pauses := by
  induction queued generalizing s queue past pauses with
  | nil =>
    obtain rfl := h.queue_eq
    simp [Protocol.flush, numbered, hnone, not_lastPauses_nil]
  | cons c queued ih =>
    have hqueue : queue = (c.data, past.length) :: numbered (past.length + 1) queued := h.queue_eq
    have hp : paused s.trace = false := by rw [hs.paused_eq, hnone]; rfl
    rw [hqueue, Protocol.flush, if_neg (by simp [hnone]), List.map_cons]
    by_cases hc : c.future = .pending
    · rw [if_neg (by rw [h.done_head]; simpa using hc), decide_eq_true hc]
      have hflushing := hs.transportWrite hnone c.data (pauses.headD false)
      have hhand := h.hand hp hc (pauses.headD false)
      cases hpause : pauses.headD false with
      | false =>
        rw [lastPauses_cons_true hpause]
        rw [hpause] at hflushing hhand
        exact ih hhand ⟨hflushing.writeQueue, hflushing.paused_eq⟩ hnone
      | true =>
        rw [lastPauses_cons_true_of_pauses hpause]
        cases queued with
        | nil => simp [Protocol.flush, numbered, settleCall, transportWrite, pauseWriting]
        | cons c' queued =>
          simp [Protocol.flush, numbered, settleCall, transportWrite, pauseWriting]
    · rw [if_pos (by rw [h.done_head]; simpa using hc), decide_eq_false hc, lastPauses_cons_false]
      exact ih (h.skip hc) hs hnone

/-- A flush is no concern of drains. -/
theorem flush_drains (queue : List (Bytes × ℕ)) (s : Protocol) (pauses : List Bool) :
    (s.flush queue pauses).1.drains = s.drains := by
  induction queue generalizing s pauses with
  | nil => rfl
  | cons entry queue ih =>
    obtain ⟨data, i⟩ := entry
    rw [Protocol.flush]
    split
    · rfl
    · split
      · exact ih s pauses
      · rw [ih]
        cases pauses.headD false <;> rfl

/-- A flush that is paused makes both queues anew. -/
theorem flush_drainFutures (queue : List (Bytes × ℕ)) (pauses : List Bool)
    (h : s.drainFutures.isSome = s.writeQueue.isSome) :
    (s.flush queue pauses).1.drainFutures.isSome = (s.flush queue pauses).1.writeQueue.isSome := by
  induction queue generalizing s pauses with
  | nil => exact h
  | cons entry queue ih =>
    obtain ⟨data, i⟩ := entry
    rw [Protocol.flush]
    split
    · exact h
    · split
      · exact ih pauses h
      · apply ih
        cases pauses.headD false
        · exact h
        · rfl

/-! ### Drains that wait -/

/-- A drain waits only among the drain futures, which are there as long as the write queue. -/
structure Waiting (s : Protocol) : Prop where
  isSome_eq : s.drainFutures.isSome = s.writeQueue.isSome
  waiting : ∀ i : ℕ, s.drains[i]? = some .pending → i ∈ s.drainFutures.getD []
  lost : s.hasTransport = false → s.writeQueue = none

theorem Waiting.drainFutures_eq_none (h : Waiting s) (hnone : s.writeQueue = none) :
    s.drainFutures = none := by
  have hsome := h.isSome_eq
  rw [hnone] at hsome
  simpa using hsome

theorem Waiting.not_pending (h : Waiting s) (hnone : s.writeQueue = none) (i : ℕ) :
    s.drains[i]? ≠ some .pending := by
  intro hi
  have hmem := h.waiting i hi
  rw [h.drainFutures_eq_none hnone] at hmem
  cases hmem

/-- What is left of a drain when its future is set. -/
theorem settleDrain_getElem? (s : Protocol) (i j : ℕ) (future : Future) :
    (s.settleDrain i future).drains[j]? =
      if i = j then s.drains[j]?.map (settle future) else s.drains[j]? := by
  rw [settleDrain, List.getElem?_modify]
  split
  · rfl
  · simp

theorem settle_eq_pending {future old : Future} (hfuture : future ≠ .pending) :
    settle future old ≠ .pending := by
  rw [settle]
  split
  · exact hfuture
  · assumption

/-- A future that is done keeps its result. -/
theorem settle_eq_result {future old : Future} (hfuture : future ≠ .result)
    (h : settle future old = .result) : old = .result := by
  rw [settle] at h
  split at h
  · exact absurd h hfuture
  · exact h

theorem settle_settle (future old : Future) :
    settle future (settle future old) = settle future old := by
  unfold settle
  split <;> simp

/-- What is left of a drain when its future is among those that are set. -/
theorem foldl_settleDrain_getElem? (futures : List ℕ) (s : Protocol) (i : ℕ) :
    (futures.foldl (fun s i => s.settleDrain i .result) s).drains[i]? =
      if i ∈ futures then s.drains[i]?.map (settle .result) else s.drains[i]? := by
  induction futures generalizing s with
  | nil => simp
  | cons j futures ih =>
    rw [List.foldl_cons, ih, settleDrain_getElem?]
    by_cases hij : j = i
    · subst hij
      rw [if_pos rfl, if_pos List.mem_cons_self, Option.map_map]
      split
      · congr 1
        funext f
        exact settle_settle .result f
      · rfl
    · have hmem : i ∈ j :: futures ↔ i ∈ futures := by
        rw [List.mem_cons, or_iff_right (Ne.symm hij)]
      simp only [if_neg hij, hmem]

/-! ### Steps -/

theorem waiting_init : Waiting init where
  isSome_eq := rfl
  waiting := fun i hi => by simp [init] at hi
  lost := nofun

/-- Only the drains that wait, and what they wait in, matter. -/
theorem Waiting.of_eq (h : Waiting s) (hdrains : s'.drains = s.drains)
    (hfutures : s'.drainFutures = s.drainFutures)
    (hqueue : s'.writeQueue.isSome = s.writeQueue.isSome)
    (htransport : s'.hasTransport = s.hasTransport) : Waiting s' where
  isSome_eq := by rw [hfutures, hqueue, h.isSome_eq]
  waiting := by
    rw [hdrains, hfutures]
    exact h.waiting
  lost := by
    intro hlost
    rw [htransport] at hlost
    rw [h.lost hlost] at hqueue
    simpa using hqueue

/-- A pause finds no drain that waits. -/
theorem Waiting.pauseWriting (h : Waiting s) (hnone : s.writeQueue = none)
    (htransport : s.hasTransport = true) : Waiting s.pauseWriting where
  isSome_eq := rfl
  waiting := fun i hi => absurd hi (h.not_pending hnone i)
  lost := fun hlost => absurd (htransport.symm.trans hlost) nofun

theorem Waiting.write (h : Waiting s) (data : Bytes) (pauses : Bool) :
    Waiting (s.write data pauses) := by
  rw [Protocol.write]
  split
  · exact h.of_eq rfl rfl rfl rfl
  · rename_i htransport
    split
    · rename_i hnone
      cases pauses with
      | false => exact h.of_eq rfl rfl rfl rfl
      | true =>
        have hcalled : Waiting { s with
            calls := s.calls ++ [⟨data, .result⟩], trace := s.trace ++ [.data data] } :=
          h.of_eq rfl rfl rfl rfl
        exact hcalled.pauseWriting hnone (by simpa using htransport)
    · rename_i queue hqueue
      exact h.of_eq rfl rfl (by rw [hqueue]; rfl) rfl

theorem Waiting.drain (h : Waiting s) : Waiting s.drain := by
  rw [Protocol.drain]
  split
  · rename_i hnone
    refine ⟨h.isSome_eq, ?_, h.lost⟩
    intro i hi
    obtain hi | ⟨-, hi⟩ := getElem?_concat_eq_some.mp hi
    · exact h.waiting i hi
    · cases hi
  · rename_i futures hfutures
    have hsome := h.isSome_eq
    rw [hfutures] at hsome
    refine ⟨hsome, ?_, h.lost⟩
    intro i hi
    obtain hi | ⟨rfl, -⟩ := getElem?_concat_eq_some.mp hi
    · have hmem := h.waiting i hi
      rw [hfutures] at hmem
      exact List.mem_append_left _ hmem
    · exact List.mem_append_right _ List.mem_cons_self

theorem Waiting.cancelDrain (h : Waiting s) (i : ℕ) : Waiting (s.settleDrain i .cancelled) where
  isSome_eq := h.isSome_eq
  waiting := by
    intro j hj
    rw [settleDrain_getElem?] at hj
    split at hj
    · obtain ⟨f, -, hf⟩ := Option.map_eq_some_iff.mp hj
      exact absurd hf (settle_eq_pending nofun)
    · exact h.waiting j hj
  lost := h.lost

/-- Where a flush starts. -/
def resumed (s : Protocol) : Protocol :=
  { s with writeQueue := none, drainFutures := none, trace := s.trace ++ [.resume] }

/-- Either the flush left something of its queue, and all drains go on waiting, or they are over. -/
theorem resumeWriting_cases (s : Protocol) (pauses : List Bool) :
    ((s.resumed.flush (s.writeQueue.getD []) pauses).2 ≠ [] ∧
      (s.resumeWriting pauses).drains = s.drains ∧
      (s.resumeWriting pauses).writeQueue.isSome = true ∧
      ∃ futures, (s.resumeWriting pauses).drainFutures =
        some (s.drainFutures.getD [] ++ futures)) ∨
    ((s.resumed.flush (s.writeQueue.getD []) pauses).2 = [] ∧
      s.resumeWriting pauses = (s.drainFutures.getD []).foldl (fun s i => s.settleDrain i .result)
        (s.resumed.flush (s.writeQueue.getD []) pauses).1) := by
  have hdrains := flush_drains (s.writeQueue.getD []) s.resumed pauses
  have heq : s.resumeWriting pauses =
      if (s.resumed.flush (s.writeQueue.getD []) pauses).2 ≠ [] then
        { (s.resumed.flush (s.writeQueue.getD []) pauses).1 with
          writeQueue := some ((s.resumed.flush (s.writeQueue.getD []) pauses).2 ++
            (s.resumed.flush (s.writeQueue.getD []) pauses).1.writeQueue.getD [])
          drainFutures := some (s.drainFutures.getD [] ++
            (s.resumed.flush (s.writeQueue.getD []) pauses).1.drainFutures.getD []) }
      else (s.drainFutures.getD []).foldl (fun s i => s.settleDrain i .result)
        (s.resumed.flush (s.writeQueue.getD []) pauses).1 := rfl
  by_cases hrest : (s.resumed.flush (s.writeQueue.getD []) pauses).2 = []
  · rw [if_neg (not_not.mpr hrest)] at heq
    exact .inr ⟨hrest, heq⟩
  · rw [if_pos hrest] at heq
    rw [heq]
    exact .inl ⟨hrest, hdrains, rfl, _, rfl⟩

@[simp] theorem foldl_settleDrain_drainFutures (futures : List ℕ) (s : Protocol) :
    (futures.foldl (fun s i => s.settleDrain i .result) s).drainFutures = s.drainFutures := by
  obtain ⟨drains, hdrains⟩ := foldl_settleDrain futures s
  rw [hdrains]

@[simp] theorem foldl_settleDrain_writeQueue (futures : List ℕ) (s : Protocol) :
    (futures.foldl (fun s i => s.settleDrain i .result) s).writeQueue = s.writeQueue := by
  obtain ⟨drains, hdrains⟩ := foldl_settleDrain futures s
  rw [hdrains]

/-- If a drain waits in none but the futures that are set, none waits. -/
theorem foldl_settleDrain_not_pending {futures : List ℕ} {i : ℕ}
    (h : s.drains[i]? = some .pending → i ∈ futures) :
    (futures.foldl (fun s i => s.settleDrain i .result) s).drains[i]? ≠ some .pending := by
  intro hi
  rw [foldl_settleDrain_getElem?] at hi
  split at hi
  · obtain ⟨f, -, hf⟩ := Option.map_eq_some_iff.mp hi
    exact absurd hf (settle_eq_pending nofun)
  · rename_i hmem
    exact hmem (h hi)

theorem Waiting.resumeWriting (h : Waiting s) (pauses : List Bool)
    (htransport : (s.resumeWriting pauses).hasTransport = true) :
    Waiting (s.resumeWriting pauses) := by
  have hlost : (s.resumeWriting pauses).hasTransport = false →
      (s.resumeWriting pauses).writeQueue = none :=
    fun hlost => absurd (htransport.symm.trans hlost) nofun
  obtain ⟨-, hdrains, hqueue, futures, hfutures⟩ | ⟨-, heq⟩ := s.resumeWriting_cases pauses
  · refine ⟨by rw [hfutures, hqueue]; rfl, ?_, hlost⟩
    intro i hi
    rw [hdrains] at hi
    rw [hfutures]
    exact List.mem_append_left _ (h.waiting i hi)
  · refine ⟨?_, ?_, hlost⟩
    · rw [heq, foldl_settleDrain_drainFutures, foldl_settleDrain_writeQueue]
      exact flush_drainFutures _ pauses rfl
    · intro i hi
      rw [heq] at hi
      refine absurd hi (foldl_settleDrain_not_pending fun hi => ?_)
      rw [flush_drains] at hi
      exact h.waiting i hi

/-- Futures of writes are no concern of `drain`. -/
theorem foldl_settleCall_drains (queue : List (Bytes × ℕ)) (s : Protocol) :
    ∃ calls, queue.foldl (fun s entry => s.settleCall entry.2 .exception) s =
      { s with calls := calls } := by
  induction queue generalizing s with
  | nil => exact ⟨s.calls, rfl⟩
  | cons entry queue ih =>
    obtain ⟨calls, hcalls⟩ := ih (s.settleCall entry.2 .exception)
    exact ⟨calls, by rw [List.foldl_cons, hcalls]; rfl⟩

/-- When the connection is lost, all drains are over. -/
theorem Waiting.connectionLost (h : Waiting s) : Waiting s.connectionLost ∧
    ∀ i : ℕ, s.connectionLost.drains[i]? ≠ some .pending := by
  obtain ⟨calls, hcalls⟩ := foldl_settleCall_drains (s.writeQueue.getD [])
    { s with hasTransport := false, writeQueue := none, drainFutures := none }
  have heq : s.connectionLost = (s.drainFutures.getD []).foldl (fun s i => s.settleDrain i .result)
      { s with
        hasTransport := false, writeQueue := none, drainFutures := none, calls := calls } := by
    rw [Protocol.connectionLost, hcalls]
  have hpending : ∀ i : ℕ, s.connectionLost.drains[i]? ≠ some .pending := by
    intro i
    rw [heq]
    exact foldl_settleDrain_not_pending fun hi => h.waiting i hi
  refine ⟨⟨?_, fun i hi => absurd hi (hpending i), fun _ => ?_⟩, hpending⟩
  · rw [heq, foldl_settleDrain_drainFutures, foldl_settleDrain_writeQueue]
    rfl
  · rw [heq, foldl_settleDrain_writeQueue]

/-- No drain is new, and none waits again. -/
structure KeepsDrains (s s' : Protocol) : Prop where
  length_eq : s'.drains.length = s.drains.length
  pending : ∀ i : ℕ, s'.drains[i]? = some .pending → s.drains[i]? = some .pending

theorem KeepsDrains.of_eq (h : s'.drains = s.drains) : KeepsDrains s s' where
  length_eq := by rw [h]
  pending := by
    rw [h]
    exact fun _ hi => hi

theorem write_drains (s : Protocol) (data : Bytes) (pauses : Bool) :
    (s.write data pauses).drains = s.drains := by
  rw [Protocol.write]
  split
  · rfl
  · split
    · cases pauses <;> rfl
    · rfl

theorem keepsDrains_settleDrain (s : Protocol) (i : ℕ) {future : Future}
    (hfuture : future ≠ .pending) : KeepsDrains s (s.settleDrain i future) where
  length_eq := List.length_modify ..
  pending := by
    intro j hj
    rw [settleDrain_getElem?] at hj
    split at hj
    · obtain ⟨f, -, hf⟩ := Option.map_eq_some_iff.mp hj
      exact absurd hf (settle_eq_pending hfuture)
    · exact hj

theorem keepsDrains_foldl (futures : List ℕ) (s : Protocol) :
    KeepsDrains s (futures.foldl (fun s i => s.settleDrain i .result) s) := by
  induction futures generalizing s with
  | nil => exact .of_eq rfl
  | cons i futures ih =>
    have hne : Future.result ≠ .pending := nofun
    have hhead := keepsDrains_settleDrain s i hne
    have htail := ih (s.settleDrain i .result)
    exact ⟨htail.length_eq.trans hhead.length_eq, fun j hj => hhead.pending j (htail.pending j hj)⟩

theorem keepsDrains_resumeWriting (s : Protocol) (pauses : List Bool) :
    KeepsDrains s (s.resumeWriting pauses) := by
  obtain ⟨-, hdrains, -⟩ | ⟨-, heq⟩ := s.resumeWriting_cases pauses
  · exact .of_eq hdrains
  · have hflush := flush_drains (s.writeQueue.getD []) s.resumed pauses
    have hkeeps := keepsDrains_foldl (s.drainFutures.getD [])
      (s.resumed.flush (s.writeQueue.getD []) pauses).1
    rw [heq]
    refine ⟨hkeeps.length_eq.trans (congrArg List.length hflush), fun i hi => ?_⟩
    have hi := hkeeps.pending i hi
    rw [hflush] at hi
    exact hi

theorem keepsDrains_connectionLost (s : Protocol) : KeepsDrains s s.connectionLost := by
  obtain ⟨calls, hcalls⟩ := foldl_settleCall_drains (s.writeQueue.getD [])
    { s with hasTransport := false, writeQueue := none, drainFutures := none }
  rw [Protocol.connectionLost, hcalls]
  have hkeeps := keepsDrains_foldl (s.drainFutures.getD []) { s with
    hasTransport := false, writeQueue := none, drainFutures := none, calls := calls }
  exact ⟨hkeeps.length_eq, hkeeps.pending⟩

/-- **All steps but calls of `drain` keep the drains.** -/
theorem keepsDrains_step {e : Event} (hstep : s.step e = some s') (he : e ≠ .drain) :
    KeepsDrains s s' := by
  cases e with
  | write data pauses =>
    obtain rfl := Option.some.inj hstep
    exact .of_eq (write_drains s data pauses)
  | drain => exact absurd rfl he
  | cancelWrite i =>
    obtain rfl := Option.some.inj hstep
    exact .of_eq rfl
  | cancelDrain i =>
    obtain rfl := Option.some.inj hstep
    exact keepsDrains_settleDrain s i nofun
  | pauseWriting =>
    rw [Protocol.step] at hstep
    split at hstep
    · cases hstep
    · obtain rfl := Option.some.inj hstep
      exact .of_eq rfl
  | resumeWriting pauses =>
    obtain rfl := Option.some.inj hstep
    exact keepsDrains_resumeWriting s pauses
  | connectionLost =>
    obtain rfl := Option.some.inj hstep
    exact keepsDrains_connectionLost s

/-- A drain is over at once if writing is not paused. -/
theorem drain_drains (s : Protocol) :
    s.drain.drains = s.drains ++ [if s.drainFutures.isSome then .pending else .result] := by
  rw [Protocol.drain]
  cases s.drainFutures <;> rfl

end Protocol

/-! ### Runs with the calls of drains -/

open Protocol

/-- What was so when a drain was called. -/
structure DrainCall where
  /-- was there a connection, and writing paused? -/
  paused : Bool
  /-- how many writes had been called -/
  writes : ℕ
  deriving DecidableEq

/-- A protocol, with the calls of drains so far. -/
structure Drained where
  protocol : Protocol
  drainCalls : List DrainCall
  deriving DecidableEq

/-- Is an event a callback of the transport? -/
def Protocol.Event.isCallback : Event → Bool
  | .pauseWriting | .resumeWriting _ | .connectionLost => true
  | .write _ _ | .drain | .cancelWrite _ | .cancelDrain _ => false

namespace Drained

def init : Drained where
  protocol := Protocol.init
  drainCalls := []

/-- The calls of drains after an event. -/
def calls (s : Drained) (e : Event) : List DrainCall :=
  if e = .drain then
    s.drainCalls ++
      [⟨s.protocol.hasTransport && paused s.protocol.trace, s.protocol.calls.length⟩]
  else s.drainCalls

/-- A transport calls nothing after `connection_lost`. -/
def step (s : Drained) (e : Event) : Option Drained :=
  if e.isCallback ∧ ¬ s.protocol.hasTransport then none
  else (s.protocol.step e).map fun protocol => ⟨protocol, s.calls e⟩

/-- What a step does to drains. -/
structure Follows (s : Drained) (e : Event) (s' : Drained) : Prop where
  /-- a drain called while writing was paused is completed when it is not any more, and every write
  called before was handed over or cancelled, or by the loss of the connection -/
  completed : e ≠ .connectionLost → ∀ (i : ℕ) call, s'.drainCalls[i]? = some call →
    call.paused = true → s.protocol.drains[i]? ≠ some .result →
    s'.protocol.drains[i]? = some .result →
    paused s'.protocol.trace = false ∧
      ∀ c ∈ s'.protocol.calls.take call.writes, c.future = .result ∨ c.future = .cancelled
  /-- no drain waits while writing is not paused, and none after the loss -/
  released : s'.protocol.hasTransport = false ∨ paused s'.protocol.trace = false →
    .pending ∉ s'.protocol.drains

/-- If a flush is made while a drain waits, the transport does not pause at its last write. -/
def FlushesWhole (s : Drained) (e : Event) : Prop :=
  ∀ pauses, e = .resumeWriting pauses → .pending ∈ s.protocol.drains →
    ¬ s.protocol.PausesLast pauses

structure Inv (s : Drained) : Prop where
  inv : s.protocol.Inv
  waiting : s.protocol.Waiting
  length_eq : s.drainCalls.length = s.protocol.drains.length
  /-- the drains that wait were called while writing was paused -/
  called : ∀ i : ℕ, s.protocol.drains[i]? = some .pending →
    ∃ call, s.drainCalls[i]? = some call ∧ call.paused = true

variable {s s' : Drained} {e : Event}

theorem step_eq_some (h : step s e = some s') :
    s.protocol.step e = some s'.protocol ∧ s'.drainCalls = s.calls e ∧
      (e.isCallback = true → s.protocol.hasTransport = true) := by
  rw [step] at h
  split at h
  · cases h
  · rename_i hcallback
    obtain ⟨protocol, hprotocol, rfl⟩ := Option.map_eq_some_iff.mp h
    refine ⟨hprotocol, rfl, fun he => ?_⟩
    simpa using fun hlost => hcallback ⟨he, hlost⟩

theorem Inv.isOpen (h : s.Inv) (htransport : s.protocol.hasTransport = true) :
    Open s.protocol := by
  obtain hopen | hclosed := h.inv
  · exact hopen
  · exact absurd (htransport.symm.trans hclosed.hasTransport) nofun

theorem inv_init : init.Inv where
  inv := Protocol.inv_init
  waiting := waiting_init
  length_eq := rfl
  called := fun i hi => by simp [init, Protocol.init] at hi

/-- **The queues after a step.** -/
theorem Inv.waiting_step (h : s.Inv) (hstep : step s e = some s') : s'.protocol.Waiting := by
  obtain ⟨hprotocol, -, hcallback⟩ := step_eq_some hstep
  have hw := h.waiting
  cases e with
  | write data pauses =>
    obtain heq := Option.some.inj hprotocol
    rw [← heq]
    exact hw.write data pauses
  | drain =>
    obtain heq := Option.some.inj hprotocol
    rw [← heq]
    exact hw.drain
  | cancelWrite i =>
    obtain heq := Option.some.inj hprotocol
    rw [← heq]
    exact hw.of_eq rfl rfl rfl rfl
  | cancelDrain i =>
    obtain heq := Option.some.inj hprotocol
    rw [← heq]
    exact hw.cancelDrain i
  | pauseWriting =>
    rw [Protocol.step] at hprotocol
    split at hprotocol
    · cases hprotocol
    · rename_i hnone
      obtain heq := Option.some.inj hprotocol
      rw [← heq]
      exact hw.pauseWriting (by simpa using hnone) (hcallback rfl)
  | resumeWriting pauses =>
    obtain heq := Option.some.inj hprotocol
    rw [← heq]
    exact hw.resumeWriting pauses ((h.isOpen (hcallback rfl)).resumeWriting pauses).hasTransport
  | connectionLost =>
    obtain heq := Option.some.inj hprotocol
    rw [← heq]
    exact hw.connectionLost.1

/-- A drain waits iff it is called while writing is paused. -/
theorem Inv.drain_eq (h : s.Inv) :
    s.protocol.drainFutures.isSome = (s.protocol.hasTransport && paused s.protocol.trace) := by
  rw [h.waiting.isSome_eq]
  cases htransport : s.protocol.hasTransport with
  | true => rw [(h.isOpen htransport).paused_eq, Bool.true_and]
  | false =>
    rw [h.waiting.lost htransport]
    rfl

/-- **Every step keeps the invariant.** -/
theorem Inv.step (h : s.Inv) (hstep : step s e = some s') : s'.Inv := by
  have hwaiting := h.waiting_step hstep
  obtain ⟨hprotocol, hcalls, -⟩ := step_eq_some hstep
  by_cases he : e = .drain
  · subst he
    have hdrain : s.protocol.drain = s'.protocol := Option.some.inj hprotocol
    have hdrains := s.protocol.drain_drains
    rw [hdrain, h.drain_eq] at hdrains
    rw [calls, if_pos rfl] at hcalls
    refine ⟨h.inv.step hprotocol, hwaiting, ?_, ?_⟩
    · rw [hcalls, hdrains, List.length_append, List.length_append, h.length_eq]
      rfl
    · intro i hi
      rw [hdrains] at hi
      rw [hcalls]
      obtain hold | ⟨rfl, hnew⟩ := getElem?_concat_eq_some.mp hi
      · obtain ⟨call, hcall, hpaused⟩ := h.called i hold
        exact ⟨call, getElem?_concat_eq_some.mpr (.inl hcall), hpaused⟩
      · refine ⟨_, getElem?_concat_eq_some.mpr (.inr ⟨h.length_eq.symm, rfl⟩), ?_⟩
        split at hnew
        · assumption
        · cases hnew
  · have hkeeps := keepsDrains_step hprotocol he
    rw [calls, if_neg he] at hcalls
    refine ⟨h.inv.step hprotocol, hwaiting, ?_, ?_⟩
    · rw [hcalls, hkeeps.length_eq, h.length_eq]
    · intro i hi
      rw [hcalls]
      exact h.called i (hkeeps.pending i hi)

/-! ### What a step does to drains -/

/-- No drain waits while writing is not paused. -/
theorem Inv.released (h : s.Inv)
    (hfree : s.protocol.hasTransport = false ∨ paused s.protocol.trace = false) :
    .pending ∉ s.protocol.drains := by
  intro hmem
  obtain ⟨i, hi⟩ := List.mem_iff_getElem?.mp hmem
  refine h.waiting.not_pending ?_ i hi
  cases htransport : s.protocol.hasTransport with
  | false => exact h.waiting.lost htransport
  | true =>
    obtain hlost | hpaused := hfree
    · exact absurd (htransport.symm.trans hlost) nofun
    · rw [(h.isOpen htransport).paused_eq] at hpaused
      simpa using hpaused

/-- Steps that complete no drain. -/
theorem Inv.follows_of_not_completed (h : s'.Inv)
    (hresult : ∀ (i : ℕ) call, s'.drainCalls[i]? = some call → call.paused = true →
      s'.protocol.drains[i]? = some .result → s.protocol.drains[i]? = some .result) :
    Follows s e s' where
  completed := fun _ i call hcall hpaused hne hi => absurd (hresult i call hcall hpaused hi) hne
  released := h.released

/-- A drain that is called gets its result at once only while writing is not paused. -/
theorem Inv.follows_drain (h : s.Inv) (hstep : Drained.step s .drain = some s') :
    Follows s .drain s' := by
  obtain ⟨hprotocol, hcalls, -⟩ := step_eq_some hstep
  have hdrain : s.protocol.drain = s'.protocol := Option.some.inj hprotocol
  have hdrains := s.protocol.drain_drains
  rw [hdrain, h.drain_eq] at hdrains
  rw [calls, if_pos rfl] at hcalls
  apply (h.step hstep).follows_of_not_completed
  intro i call hcall hpaused hi
  rw [hcalls] at hcall
  rw [hdrains] at hi
  obtain hold | ⟨rfl, hnew⟩ := getElem?_concat_eq_some.mp hi
  · exact hold
  · obtain hcall | ⟨-, rfl⟩ := getElem?_concat_eq_some.mp hcall
    · obtain ⟨hlt, -⟩ := List.getElem?_eq_some_iff.mp hcall
      exact absurd hlt (by rw [h.length_eq]; exact Nat.lt_irrefl _)
    · rw [if_pos hpaused] at hnew
      cases hnew

/-- With a connection, the queue of a flush holds the calls that have not left it. -/
theorem Inv.resumed (h : s.Inv) (htransport : s.protocol.hasTransport = true) :
    ∃ past queued, Queued s.protocol (s.protocol.writeQueue.getD []) past queued ∧
      Queued s.protocol.resumed (s.protocol.writeQueue.getD []) past queued ∧
      Flushing s.protocol.resumed := by
  obtain ⟨past, queued, hq⟩ := (h.isOpen htransport).queued
  exact ⟨past, queued, hq, ⟨hq.ordered.action nofun, hq.waiting, hq.queue_eq⟩,
    ⟨.inl rfl, paused_append_resume _⟩⟩

/-- A flush leaves nothing, while writing is paused, iff it pauses at its last write. -/
theorem Inv.flush_pausesLast (h : s.Inv) (htransport : s.protocol.hasTransport = true)
    (pauses : List Bool) :
    ((s.protocol.resumed.flush (s.protocol.writeQueue.getD []) pauses).2 = [] ∧
      (s.protocol.resumed.flush (s.protocol.writeQueue.getD []) pauses).1.writeQueue.isSome) ↔
        s.protocol.PausesLast pauses := by
  obtain ⟨past, queued, hq, hresumed, hflushing⟩ := h.resumed htransport
  rw [hresumed.flush_pauses hflushing rfl, PausesLast]
  have hlive := map_done_numbered hq.ordered.calls_eq
  rw [← hq.queue_eq] at hlive
  rw [hlive]

/-- A flush that leaves nothing has handed over all writes. -/
theorem Inv.flush_done (h : s.Inv) (htransport : s.protocol.hasTransport = true)
    {pauses : List Bool}
    (hrest : (s.protocol.resumed.flush (s.protocol.writeQueue.getD []) pauses).2 = []) :
    ∀ c ∈ (s.protocol.resumed.flush (s.protocol.writeQueue.getD []) pauses).1.calls,
      c.future = .result ∨ c.future = .cancelled := by
  obtain ⟨past, queued, -, hresumed, hflushing⟩ := h.resumed htransport
  obtain ⟨past', queued', hq', -⟩ := hresumed.flush hflushing pauses
  have hqueued : queued' = [] := eq_nil_of_numbered (hq'.queue_eq.symm.trans hrest)
  intro c hc
  rw [hq'.ordered.calls_eq, hqueued, List.append_nil] at hc
  exact hq'.ordered.past_done c hc

/-- A drain that is newly over waited before. -/
theorem pending_of_foldl_settleDrain {t : Protocol} {futures : List ℕ} {i : ℕ}
    (hi : (futures.foldl (fun s i => s.settleDrain i .result) t).drains[i]? = some .result)
    (hne : t.drains[i]? ≠ some .result) : t.drains[i]? = some .pending := by
  rw [foldl_settleDrain_getElem?] at hi
  split at hi
  · obtain ⟨f, hf, hsettle⟩ := Option.map_eq_some_iff.mp hi
    rw [settle] at hsettle
    split at hsettle
    · rename_i hpending
      rw [hf, hpending]
    · rw [hf, hsettle] at hne
      exact absurd rfl hne
  · exact absurd hi hne

/-- **What a flush does to drains.** -/
theorem Inv.follows_resumeWriting (h : s.Inv) {pauses : List Bool}
    (hstep : Drained.step s (.resumeWriting pauses) = some s') :
    Follows s (.resumeWriting pauses) s' ↔ s.FlushesWhole (.resumeWriting pauses) := by
  obtain ⟨hprotocol, hcalls, hcallback⟩ := step_eq_some hstep
  have hs' := h.step hstep
  have htransport := hcallback rfl
  have hresume : s.protocol.resumeWriting pauses = s'.protocol := Option.some.inj hprotocol
  have hlast := h.flush_pausesLast htransport pauses
  have hflush := flush_drains (s.protocol.writeQueue.getD []) s.protocol.resumed pauses
  obtain ⟨hrest, hdrains, -⟩ | ⟨hrest, heq⟩ := s.protocol.resumeWriting_cases pauses
  · -- something is left in the queue, and no drain is over
    rw [hresume] at hdrains
    constructor
    · rintro - _ ⟨⟩ - hpauses
      exact hrest (hlast.mpr hpauses).1
    · intro _
      apply hs'.follows_of_not_completed
      intro i _ _ _ hi
      rwa [hdrains] at hi
  · rw [hresume] at heq
    have hqueue : s'.protocol.writeQueue =
        (s.protocol.resumed.flush (s.protocol.writeQueue.getD []) pauses).1.writeQueue := by
      rw [heq, foldl_settleDrain_writeQueue]
    have hpaused : paused s'.protocol.trace = s'.protocol.writeQueue.isSome := by
      rw [← hresume]
      exact ((h.isOpen htransport).resumeWriting pauses).paused_eq
    constructor
    · rintro hfollows _ ⟨⟩ hmem hpauses
      obtain ⟨i, hi⟩ := List.mem_iff_getElem?.mp hmem
      obtain ⟨call, hcall, hcalled⟩ := h.called i hi
      have hresult : s'.protocol.drains[i]? = some .result := by
        rw [heq, foldl_settleDrain_getElem?, if_pos (h.waiting.waiting i hi), hflush]
        show s.protocol.drains[i]?.map _ = _
        rw [hi]
        rfl
      have hover := hfollows.completed nofun i call (by rw [hcalls]; exact hcall) hcalled
        (by rw [hi]; exact nofun) hresult
      rw [hpaused, hqueue, (hlast.mpr hpauses).2] at hover
      cases hover.1
    · intro hwhole
      refine ⟨fun _ i call _ _ hne hi => ?_, hs'.released⟩
      have hne' : (s.protocol.resumed.flush (s.protocol.writeQueue.getD []) pauses).1.drains[i]? ≠
          some .result := by
        rw [hflush]
        exact hne
      rw [heq] at hi
      have hi := pending_of_foldl_settleDrain hi hne'
      rw [hflush] at hi
      have hpauses := hwhole pauses rfl (List.mem_of_getElem? hi)
      rw [← hlast, not_and] at hpauses
      constructor
      · rw [hpaused, hqueue]
        simpa using hpauses hrest
      · intro c hc
        have hc := List.mem_of_mem_take hc
        obtain ⟨drains, hdrains⟩ := foldl_settleDrain (s.protocol.drainFutures.getD [])
          (s.protocol.resumed.flush (s.protocol.writeQueue.getD []) pauses).1
        rw [heq, hdrains] at hc
        exact h.flush_done htransport hrest c hc

/-- **A step follows the back-pressure iff it is no flush, made while a drain waits, that pauses at
its last write.** -/
theorem Inv.follows_iff (h : s.Inv) (hstep : Drained.step s e = some s') :
    Follows s e s' ↔ s.FlushesWhole e := by
  have hs' := h.step hstep
  obtain ⟨hprotocol, -, -⟩ := step_eq_some hstep
  have hfollows : (∀ pauses, e ≠ .resumeWriting pauses) → Follows s e s' →
      (Follows s e s' ↔ s.FlushesWhole e) :=
    fun hne h => ⟨fun _ pauses he => absurd he (hne pauses), fun _ => h⟩
  -- only drains that are set to a result matter
  have hkeeps : (∀ i : ℕ, s'.protocol.drains[i]? = some .result →
      s.protocol.drains[i]? = some .result) → Follows s e s' :=
    fun hresult => hs'.follows_of_not_completed fun i _ _ _ hi => hresult i hi
  cases e with
  | write data pauses =>
    have heq := Option.some.inj hprotocol
    apply hfollows nofun
    apply hkeeps
    intro i hi
    rwa [← heq, write_drains] at hi
  | drain => exact hfollows nofun (h.follows_drain hstep)
  | cancelWrite j =>
    have heq := Option.some.inj hprotocol
    apply hfollows nofun
    apply hkeeps
    intro i hi
    rwa [← heq] at hi
  | cancelDrain j =>
    have heq := Option.some.inj hprotocol
    apply hfollows nofun
    apply hkeeps
    intro i hi
    rw [← heq, settleDrain_getElem?] at hi
    split at hi
    · obtain ⟨f, hf, hsettle⟩ := Option.map_eq_some_iff.mp hi
      have hne : Future.cancelled ≠ .result := nofun
      rw [hf, settle_eq_result hne hsettle]
    · exact hi
  | pauseWriting =>
    rw [Protocol.step] at hprotocol
    split at hprotocol
    · cases hprotocol
    · have heq := Option.some.inj hprotocol
      apply hfollows nofun
      apply hkeeps
      intro i hi
      rwa [← heq] at hi
  | resumeWriting pauses => exact h.follows_resumeWriting hstep
  | connectionLost => exact hfollows nofun ⟨fun hne => absurd rfl hne, hs'.released⟩

/-- A transport that is gone flushes nothing. -/
theorem Inv.flushesWhole_of_step_eq_none (h : s.Inv) (hstep : Drained.step s e = none) :
    s.FlushesWhole e := by
  rintro pauses rfl hmem
  rw [Drained.step] at hstep
  split at hstep
  · rename_i hlost
    exact absurd hmem (h.released (.inl (by simpa using hlost.2)))
  · cases hstep

/-- **Drains follow the back-pressure** in a run iff no flush of it, made while a drain waits, is
paused again by its last write and no earlier one. -/
theorem drains_follow_iff (es : List Event) :
    (∀ es' e s s', es' ++ [e] <+: es → run step init es' = some s → step s e = some s' →
      Follows s e s') ↔ Along step FlushesWhole init es :=
  forall_steps_iff_along_of_inv (fun _ _ _ h hstep => h.step hstep)
    (fun _ _ _ h hstep => h.follows_iff hstep)
    (fun _ _ h hstep => h.flushesWhole_of_step_eq_none hstep) inv_init

/-- A write that waits is handed over by the flush, and pauses the transport again; the drain behind
it is over. -/
theorem pausedAtLast_not_follows : ∃ s s',
    run step init [.pauseWriting, .write [1] false, .drain] = some s ∧
    step s (.resumeWriting [true]) = some s' ∧
    s.protocol.drains = [.pending] ∧ s'.protocol.drains = [.result] ∧
    paused s'.protocol.trace = true ∧ ¬ Follows s (.resumeWriting [true]) s' := by
  refine ⟨_, _, rfl, rfl, rfl, rfl, rfl, ?_⟩
  intro hfollows
  obtain ⟨hpaused, -⟩ := hfollows.completed nofun 0 ⟨true, 1⟩ rfl rfl nofun rfl
  cases hpaused

end Drained

end HatDrivers.Tcp
