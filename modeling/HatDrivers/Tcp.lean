import HatDrivers.Lib.Transition
import HatDrivers.Lib.Bytes
import HatDrivers.Lib.Entries

namespace HatDrivers.Tcp

open HatDrivers.Lib

/-!
# TCP — writes under back-pressure

The write side of the protocol of a connection.  The transport asks the protocol to
stop writing and to go on; between the two, writes wait in a queue for their futures.
Events are the calls of `write` and `drain`, cancellations of their futures, and the
callbacks of the transport; a call of `transport.write` may call `pause_writing` before
it returns, which an event says of every such call it makes.

What is handed to the transport is the data of the writes in the order of their calls,
but for those cancelled in the queue (`writeOrder_of_run`).
-/

inductive Future
  | pending | result | exception | cancelled
  deriving DecidableEq

/-- A call of `write`: its data and its future.  A write that need not wait is as one
whose future has its result. -/
structure Call where
  data : Bytes
  future : Future
  deriving DecidableEq

/-- What the transport sees. -/
inductive Action
  | data (bs : Bytes)
  | pause
  | resume
  deriving DecidableEq

/-- `Protocol`, with the calls of `write` and `drain` so far, by which futures are
named, and the trace of what the transport saw. -/
structure Protocol where
  /-- `_transport is not None` -/
  hasTransport : Bool
  writeQueue : Option (List (Bytes × ℕ))
  drainFutures : Option (List ℕ)
  calls : List Call
  drains : List Future
  trace : List Action
  deriving DecidableEq

namespace Protocol

/-! ### Operations -/

/-- After `connection_made`. -/
def init : Protocol where
  hasTransport := true
  writeQueue := none
  drainFutures := none
  calls := []
  drains := []
  trace := []

/-- Sets a future that is not done. -/
def settle (future old : Future) : Future := if old = .pending then future else old

def settleCall (s : Protocol) (i : ℕ) (future : Future) : Protocol :=
  { s with calls := s.calls.modify i fun c => { c with future := settle future c.future } }

def settleDrain (s : Protocol) (i : ℕ) (future : Future) : Protocol :=
  { s with drains := s.drains.modify i (settle future) }

/-- `future.done()`. -/
def done (s : Protocol) (i : ℕ) : Bool := s.calls[i]?.any fun c => c.future ≠ .pending

def pauseWriting (s : Protocol) : Protocol :=
  { s with writeQueue := some [], drainFutures := some [], trace := s.trace ++ [.pause] }

/-- `transport.write(data)`, which may call `pause_writing`. -/
def transportWrite (s : Protocol) (data : Bytes) (pauses : Bool) : Protocol :=
  let s : Protocol := { s with trace := s.trace ++ [.data data] }
  if pauses then s.pauseWriting else s

/-- The loop of `resume_writing`, and what it leaves of the queue. -/
def flush : Protocol → List (Bytes × ℕ) → List Bool → Protocol × List (Bytes × ℕ)
  | s, [], _ => (s, [])
  | s, (data, i) :: queue, pauses =>
    if s.writeQueue.isSome then (s, (data, i) :: queue)
    else if s.done i then flush s queue pauses
    else
      flush ((s.transportWrite data (pauses.headD false)).settleCall i .result) queue pauses.tail

def resumeWriting (s : Protocol) (pauses : List Bool) : Protocol :=
  let writeQueue := s.writeQueue.getD []
  let drainFutures := s.drainFutures.getD []
  let s : Protocol :=
    { s with writeQueue := none, drainFutures := none, trace := s.trace ++ [.resume] }
  let (s, writeQueue) := s.flush writeQueue pauses
  if writeQueue ≠ [] then
    { s with
      writeQueue := some (writeQueue ++ s.writeQueue.getD [])
      drainFutures := some (drainFutures ++ s.drainFutures.getD []) }
  else drainFutures.foldl (fun s i => s.settleDrain i .result) s

def connectionLost (s : Protocol) : Protocol :=
  let writeQueue := s.writeQueue.getD []
  let drainFutures := s.drainFutures.getD []
  let s : Protocol := { s with hasTransport := false, writeQueue := none, drainFutures := none }
  let s := writeQueue.foldl (fun s entry => s.settleCall entry.2 .exception) s
  drainFutures.foldl (fun s i => s.settleDrain i .result) s

/-- A call of `write`, up to where it waits. -/
def write (s : Protocol) (data : Bytes) (pauses : Bool) : Protocol :=
  if ¬ s.hasTransport then { s with calls := s.calls ++ [⟨data, .exception⟩] }
  else
    match s.writeQueue with
    | none =>
      let s : Protocol := { s with calls := s.calls ++ [⟨data, .result⟩] }
      s.transportWrite data pauses
    | some queue => { s with
        writeQueue := some (queue ++ [(data, s.calls.length)])
        calls := s.calls ++ [⟨data, .pending⟩] }

/-- A call of `drain`, up to where it waits. -/
def drain (s : Protocol) : Protocol :=
  match s.drainFutures with
  | none => { s with drains := s.drains ++ [.result] }
  | some futures => { s with
      drainFutures := some (futures ++ [s.drains.length])
      drains := s.drains ++ [.pending] }

/-! ### Events -/

inductive Event
  | write (data : Bytes) (pauses : Bool)
  | drain
  /-- the task of a write is cancelled, and with it the future it waits for -/
  | cancelWrite (i : ℕ)
  | cancelDrain (i : ℕ)
  | pauseWriting
  /-- for every call of `transport.write`, whether it calls `pause_writing` -/
  | resumeWriting (pauses : List Bool)
  | connectionLost
  deriving DecidableEq

/-- A transport that asked for a pause does not ask again before it resumes. -/
def step (s : Protocol) : Event → Option Protocol
  | .write data pauses => some (s.write data pauses)
  | .drain => some s.drain
  | .cancelWrite i => some (s.settleCall i .cancelled)
  | .cancelDrain i => some (s.settleDrain i .cancelled)
  | .pauseWriting => if s.writeQueue.isSome then none else some s.pauseWriting
  | .resumeWriting pauses => some (s.resumeWriting pauses)
  | .connectionLost => some s.connectionLost

/-! ### What holds of every run -/

/-- The data handed to the transport, call by call. -/
def handed (trace : List Action) : List Bytes :=
  trace.filterMap fun
    | .data bs => some bs
    | _ => none

/-- Is writing paused after a trace? -/
def paused (trace : List Action) : Bool :=
  trace.foldl (fun paused action =>
    match action with
    | .data _ => paused
    | .pause => true
    | .resume => false) false

/-- No data is handed over while writing is paused. -/
def Quiet (trace : List Action) : Prop :=
  ∀ before data after, trace = before ++ .data data :: after → paused before = false

structure WriteOrder (s : Protocol) : Prop where
  /-- the data of the writes that were handed over, each once, in the order of the calls -/
  handed_eq : handed s.trace = (s.calls.filter (·.future = .result)).map (·.data)
  /-- a write is handed over after those called before it, unless they were cancelled -/
  order : s.calls.Pairwise fun c c' =>
    c'.future = .result → c.future = .result ∨ c.future = .cancelled
  /-- a write waits only while writing is paused -/
  waiting : ∀ c ∈ s.calls, c.future = .pending → paused s.trace = true
  /-- a write fails only when the connection is lost -/
  failed : ∀ c ∈ s.calls, c.future = .exception → s.hasTransport = false
  quiet : Quiet s.trace

/-! ### Traces -/

variable {trace : List Action} {s s' : Protocol}

@[simp] theorem paused_append_data (trace : List Action) (bs : Bytes) :
    paused (trace ++ [.data bs]) = paused trace := by simp [paused]

@[simp] theorem paused_append_pause (trace : List Action) : paused (trace ++ [.pause]) = true := by
  simp [paused]

@[simp] theorem paused_append_resume (trace : List Action) :
    paused (trace ++ [.resume]) = false := by simp [paused]

/-- Data at the end of a trace, handed over while writing is not paused. -/
theorem Quiet.data (h : Quiet trace) (hp : paused trace = false) (bs : Bytes) :
    Quiet (trace ++ [.data bs]) := by
  intro before data after heq
  rcases List.eq_nil_or_concat after with rfl | ⟨after, last, rfl⟩
  · obtain ⟨rfl, -⟩ := List.append_inj' heq rfl
    exact hp
  · rw [List.concat_eq_append, ← List.cons_append, ← List.append_assoc] at heq
    obtain ⟨htrace, -⟩ := List.append_inj' heq rfl
    exact h before data after htrace

theorem Quiet.append (h : Quiet trace) {action : Action} (hne : ∀ bs, action ≠ .data bs) :
    Quiet (trace ++ [action]) := by
  intro before data after heq
  rcases List.eq_nil_or_concat after with rfl | ⟨after, last, rfl⟩
  · obtain ⟨-, hlast⟩ := List.append_inj' heq rfl
    exact absurd (List.cons.inj hlast).1 (hne data)
  · rw [List.concat_eq_append, ← List.cons_append, ← List.append_assoc] at heq
    obtain ⟨htrace, -⟩ := List.append_inj' heq rfl
    exact h before data after htrace

/-! ### Futures -/

/-- Futures of `drain` are no concern of `write`. -/
theorem foldl_settleDrain (futures : List ℕ) (s : Protocol) :
    ∃ drains, futures.foldl (fun s i => s.settleDrain i .result) s =
      { s with drains := drains } := by
  induction futures generalizing s with
  | nil => exact ⟨s.drains, rfl⟩
  | cons i futures ih =>
    obtain ⟨drains, hdrains⟩ := ih (s.settleDrain i .result)
    exact ⟨drains, by rw [List.foldl_cons, hdrains]; rfl⟩

/-! ### The queue -/

/-- Queue entries of successive calls, the first one being call number `n`. -/
def numbered : ℕ → List Call → List (Bytes × ℕ)
  | _, [] => []
  | n, c :: cs => (c.data, n) :: numbered (n + 1) cs

theorem numbered_append (n : ℕ) (cs : List Call) (c : Call) :
    numbered n (cs ++ [c]) = numbered n cs ++ [(c.data, n + cs.length)] := by
  induction cs generalizing n with
  | nil => rfl
  | cons d cs ih =>
    rw [List.cons_append, numbered, ih, numbered, List.cons_append, List.length_cons,
      Nat.add_right_comm n 1, Nat.add_assoc]

theorem eq_nil_of_numbered {n : ℕ} {cs : List Call} (h : numbered n cs = []) : cs = [] := by
  cases cs with
  | nil => rfl
  | cons c cs => cases h

/-- The entries of a queue say nothing of the futures. -/
theorem numbered_modify (n i : ℕ) (cs : List Call) (future : Future) :
    numbered n (cs.modify i fun c => { c with future := settle future c.future }) =
      numbered n cs := by
  induction cs generalizing n i with
  | nil => simp
  | cons c cs ih =>
    cases i with
    | zero => rfl
    | succ i => rw [List.modify_succ_cons, numbered, ih, numbered]

/-- The calls of a protocol, split into those that left the queue and those after them. -/
structure Ordered (calls : List Call) (trace : List Action) (past rest : List Call) : Prop where
  calls_eq : calls = past ++ rest
  past_done : ∀ c ∈ past, c.future = .result ∨ c.future = .cancelled
  rest_unhanded : ∀ c ∈ rest, c.future ≠ .result
  handed_eq : handed trace = (past.filter (·.future = .result)).map (·.data)
  quiet : Quiet trace

variable {calls past rest : List Call}

/-- Calls and data in this order are as they should be. -/
theorem Ordered.writeOrder (h : Ordered s.calls s.trace past rest)
    (hw : ∀ c ∈ rest, c.future = .pending → paused s.trace = true)
    (hf : ∀ c ∈ rest, c.future = .exception → s.hasTransport = false) : WriteOrder s where
  handed_eq := by
    have hrest : rest.filter (·.future = .result) = [] := by
      rw [List.filter_eq_nil_iff]
      intro c hc
      simpa using h.rest_unhanded c hc
    rw [h.handed_eq, h.calls_eq, List.filter_append, hrest, List.append_nil]
  order := by
    rw [h.calls_eq, List.pairwise_append]
    refine ⟨?_, ?_, ?_⟩
    · apply List.pairwise_of_forall_mem_list
      intro c hc c' _ _
      exact h.past_done c hc
    · apply List.pairwise_of_forall_mem_list
      intro c _ c' hc' hresult
      exact absurd hresult (h.rest_unhanded c' hc')
    · intro c hc c' _ _
      exact h.past_done c hc
  waiting := by
    intro c hc hpending
    rw [h.calls_eq] at hc
    rcases List.mem_append.mp hc with hc | hc
    · rcases h.past_done c hc with hf | hf <;> rw [hf] at hpending <;> cases hpending
    · exact hw c hc hpending
  failed := by
    intro c hc hexception
    rw [h.calls_eq] at hc
    rcases List.mem_append.mp hc with hc | hc
    · rcases h.past_done c hc with hf | hf <;> rw [hf] at hexception <;> cases hexception
    · exact hf c hc hexception
  quiet := h.quiet

/-- A future that is cancelled was not handed over, or stays as it is. -/
theorem Ordered.modify (h : Ordered calls trace past rest) (i : ℕ) (future : Future)
    (hf : future ≠ .result) :
    ∃ j, Ordered (calls.modify i fun c => { c with future := settle future c.future }) trace past
      (rest.modify j fun c => { c with future := settle future c.future }) := by
  have hpast : ∀ c ∈ past, { c with future := settle future c.future } = c := by
    intro c hc
    have hdone : c.future ≠ .pending := by
      rcases h.past_done c hc with hc | hc <;> rw [hc] <;> decide
    rw [settle, if_neg hdone]
  refine ⟨if i < past.length then rest.length else i - past.length, ?_, h.past_done, ?_,
    h.handed_eq, h.quiet⟩
  · rw [h.calls_eq, modify_append]
    split
    · rw [modify_eq_of_forall hpast, List.modify_eq_self (Nat.le_refl _)]
    · rfl
  · intro c hc
    rcases mem_modify hc with hc | ⟨c', hc', rfl⟩
    · exact h.rest_unhanded c hc
    · show settle future c'.future ≠ .result
      unfold settle
      split
      · exact hf
      · exact h.rest_unhanded c' hc'

/-- A call that is not handed over joins the calls at their end. -/
theorem Ordered.concat (h : Ordered calls trace past rest) {c : Call} (hc : c.future ≠ .result) :
    Ordered (calls ++ [c]) trace past (rest ++ [c]) where
  calls_eq := by rw [h.calls_eq, List.append_assoc]
  past_done := h.past_done
  rest_unhanded := by
    intro c' hc'
    rcases List.mem_append.mp hc' with hc' | hc'
    · exact h.rest_unhanded c' hc'
    · obtain rfl := List.mem_singleton.mp hc'
      exact hc
  handed_eq := h.handed_eq
  quiet := h.quiet

theorem handed_append_data (trace : List Action) (bs : Bytes) :
    handed (trace ++ [.data bs]) = handed trace ++ [bs] := by simp [handed]

theorem handed_append (trace : List Action) {action : Action} (hne : ∀ bs, action ≠ .data bs) :
    handed (trace ++ [action]) = handed trace := by
  cases action with
  | data bs => exact absurd rfl (hne bs)
  | pause => simp [handed]
  | resume => simp [handed]

/-- The transport pauses or resumes. -/
theorem Ordered.action (h : Ordered calls trace past rest) {action : Action}
    (hne : ∀ bs, action ≠ .data bs) : Ordered calls (trace ++ [action]) past rest where
  calls_eq := h.calls_eq
  past_done := h.past_done
  rest_unhanded := h.rest_unhanded
  handed_eq := by rw [handed_append trace hne, h.handed_eq]
  quiet := h.quiet.append hne

/-- The first call of the rest is handed over. -/
theorem Ordered.hand {c : Call} (h : Ordered calls trace past (c :: rest))
    (hp : paused trace = false) :
    Ordered (past ++ { c with future := .result } :: rest) (trace ++ [.data c.data])
      (past ++ [{ c with future := .result }]) rest where
  calls_eq := by rw [List.append_assoc, List.singleton_append]
  past_done := by
    intro c' hc'
    rcases List.mem_append.mp hc' with hc' | hc'
    · exact h.past_done c' hc'
    · obtain rfl := List.mem_singleton.mp hc'
      exact .inl rfl
  rest_unhanded := fun c' hc' => h.rest_unhanded c' (List.mem_cons_of_mem _ hc')
  handed_eq := by
    rw [handed_append_data, h.handed_eq, List.filter_append, List.map_append]
    simp
  quiet := h.quiet.data hp c.data

/-- A cancelled call leaves the rest. -/
theorem Ordered.skip {c : Call} (h : Ordered calls trace past (c :: rest))
    (hc : c.future = .cancelled) : Ordered calls trace (past ++ [c]) rest where
  calls_eq := by rw [h.calls_eq, List.append_assoc, List.singleton_append]
  past_done := by
    intro c' hc'
    rcases List.mem_append.mp hc' with hc' | hc'
    · exact h.past_done c' hc'
    · obtain rfl := List.mem_singleton.mp hc'
      exact .inr hc
  rest_unhanded := fun c' hc' => h.rest_unhanded c' (List.mem_cons_of_mem _ hc')
  handed_eq := by
    rw [h.handed_eq, List.filter_append, List.map_append]
    simp [hc]
  quiet := h.quiet

/-! ### Flushing -/

/-- The queue holds the calls that have not left it, one entry for each. -/
structure Queued (s : Protocol) (queue : List (Bytes × ℕ)) (past queued : List Call) : Prop where
  ordered : Ordered s.calls s.trace past queued
  waiting : ∀ c ∈ queued, c.future = .pending ∨ c.future = .cancelled
  queue_eq : queue = numbered past.length queued

variable {queue : List (Bytes × ℕ)} {queued : List Call}

/-- The protocol in the middle of a flush: it has no queue, or a new one if the transport
paused it. -/
structure Flushing (s : Protocol) : Prop where
  writeQueue : s.writeQueue = none ∨ s.writeQueue = some []
  paused_eq : paused s.trace = s.writeQueue.isSome

theorem Queued.done_head {c : Call} (h : Queued s queue past (c :: queued)) :
    s.done past.length = (c.future ≠ .pending) := by
  rw [done, h.ordered.calls_eq]
  simp

theorem Flushing.transportWrite (h : Flushing s) (hnone : s.writeQueue = none) (data : Bytes)
    (pauses : Bool) : Flushing (s.transportWrite data pauses) := by
  cases pauses with
  | true =>
    refine ⟨.inr rfl, ?_⟩
    show paused (s.trace ++ [.data data] ++ [.pause]) = true
    exact paused_append_pause _
  | false =>
    refine ⟨.inl hnone, ?_⟩
    have hp := h.paused_eq
    simpa [Protocol.transportWrite] using hp

theorem transportWrite_hasTransport (s : Protocol) (data : Bytes) (pauses : Bool) :
    (s.transportWrite data pauses).hasTransport = s.hasTransport := by
  cases pauses <;> rfl

/-- The head of the queue is handed over. -/
theorem Queued.hand {c : Call} (h : Queued s queue past (c :: queued)) (hp : paused s.trace = false)
    (hc : c.future = .pending) (pauses : Bool) :
    Queued ((s.transportWrite c.data pauses).settleCall past.length .result)
      (numbered (past.length + 1) queued) (past ++ [{ c with future := .result }]) queued := by
  have hcalls : (s.calls.modify past.length fun c => { c with future := settle .result c.future }) =
      past ++ { c with future := .result } :: queued := by
    rw [h.ordered.calls_eq, modify_append, if_neg (Nat.lt_irrefl _), Nat.sub_self,
      List.modify_zero_cons, settle, if_pos hc]
  have hhand := h.ordered.hand hp
  refine ⟨?_, fun c' hc' => h.waiting c' (List.mem_cons_of_mem _ hc'), by simp⟩
  cases pauses with
  | true =>
    show Ordered (s.calls.modify past.length _) (s.trace ++ [.data c.data] ++ [.pause]) _ _
    rw [hcalls]
    exact hhand.action nofun
  | false =>
    show Ordered (s.calls.modify past.length _) (s.trace ++ [.data c.data]) _ _
    rw [hcalls]
    exact hhand

theorem Queued.skip {c : Call} (h : Queued s queue past (c :: queued)) (hc : c.future ≠ .pending) :
    Queued s (numbered (past.length + 1) queued) (past ++ [c]) queued := by
  have hcancelled : c.future = .cancelled := by
    rcases h.waiting c List.mem_cons_self with hf | hf
    · exact absurd hf hc
    · exact hf
  exact ⟨h.ordered.skip hcancelled, fun c' hc' => h.waiting c' (List.mem_cons_of_mem _ hc'),
    by simp⟩

/-- A flush hands over the head of the queue, call by call, until the queue is empty or
the transport pauses. -/
theorem Queued.flush (h : Queued s queue past queued) (hs : Flushing s) (pauses : List Bool) :
    ∃ past' queued', Queued (s.flush queue pauses).1 (s.flush queue pauses).2 past' queued' ∧
      Flushing (s.flush queue pauses).1 ∧
      ((s.flush queue pauses).2 ≠ [] → (s.flush queue pauses).1.writeQueue = some []) ∧
      (s.flush queue pauses).1.hasTransport = s.hasTransport := by
  induction queued generalizing s queue past pauses with
  | nil =>
    obtain rfl := h.queue_eq
    exact ⟨past, [], h, hs, fun hne => absurd rfl hne, rfl⟩
  | cons c queued ih =>
    have hqueue : queue = (c.data, past.length) :: numbered (past.length + 1) queued := h.queue_eq
    rw [hqueue, Protocol.flush]
    rcases hs.writeQueue with hnone | hsome
    · have hp : paused s.trace = false := by rw [hs.paused_eq, hnone]; rfl
      rw [if_neg (by simp [hnone])]
      by_cases hc : c.future = .pending
      · rw [if_neg (by rw [h.done_head]; simpa using hc)]
        have hflushing := hs.transportWrite hnone c.data (pauses.headD false)
        rw [← transportWrite_hasTransport s c.data (pauses.headD false)]
        exact ih (h.hand hp hc (pauses.headD false))
          ⟨hflushing.writeQueue, hflushing.paused_eq⟩ pauses.tail
      · rw [if_pos (by rw [h.done_head]; simpa using hc)]
        exact ih (h.skip hc) hs pauses
    · rw [if_pos (by simp [hsome]), ← hqueue]
      exact ⟨past, c :: queued, h, hs, fun _ => hsome, rfl⟩

/-! ### Steps -/

/-- The transport is there, and the queue is as the trace has it. -/
structure Open (s : Protocol) : Prop where
  hasTransport : s.hasTransport = true
  queued : ∃ past queued, Queued s (s.writeQueue.getD []) past queued
  paused_eq : paused s.trace = s.writeQueue.isSome

/-- The connection is lost, and no write waits. -/
structure Closed (s : Protocol) : Prop where
  hasTransport : s.hasTransport = false
  ordered : ∃ past rest, Ordered s.calls s.trace past rest ∧ ∀ c ∈ rest, c.future ≠ .pending
  queue_eq : s.writeQueue.getD [] = []

def Inv (s : Protocol) : Prop := Open s ∨ Closed s

theorem Inv.writeOrder (h : Inv s) : WriteOrder s := by
  rcases h with h | h
  · obtain ⟨past, queued, hq⟩ := h.queued
    apply hq.ordered.writeOrder
    · intro c hc _
      rw [h.paused_eq]
      -- a write waits in a queue, so there is one
      cases hw : s.writeQueue with
      | some queue => rfl
      | none =>
        have hnil : numbered past.length queued = [] := by rw [← hq.queue_eq, hw]; rfl
        rw [eq_nil_of_numbered hnil] at hc
        cases hc
    · intro c hc hexception
      rcases hq.waiting c hc with hf | hf <;> rw [hf] at hexception <;> cases hexception
  · obtain ⟨past, rest, ho, hrest⟩ := h.ordered
    apply ho.writeOrder
    · intro c hc hpending
      exact absurd hpending (hrest c hc)
    · intro c _ _
      exact h.hasTransport

theorem inv_init : Inv init := by
  refine .inl ⟨rfl, ⟨[], [], ⟨rfl, nofun, nofun, rfl, ?_⟩, nofun, rfl⟩, rfl⟩
  intro before data after heq
  simp [init] at heq

theorem Open.write (h : Open s) (data : Bytes) (pauses : Bool) :
    Open (s.write data pauses) := by
  obtain ⟨past, queued, hq⟩ := h.queued
  have ho := hq.ordered
  unfold Protocol.write
  rw [if_neg (by simp [h.hasTransport])]
  cases hw : s.writeQueue with
  | none =>
    have hnil : numbered past.length queued = [] := by rw [← hq.queue_eq, hw]; rfl
    obtain rfl := eq_nil_of_numbered hnil
    have hp : paused s.trace = false := by rw [h.paused_eq, hw]; rfl
    have hcalls : s.calls = past := by rw [ho.calls_eq, List.append_nil]
    have hhand := (ho.concat (c := ⟨data, .pending⟩) nofun).hand hp
    cases pauses with
    | false =>
      refine ⟨h.hasTransport, ⟨past ++ [⟨data, .result⟩], [], ⟨?_, nofun, ?_⟩⟩, ?_⟩
      · show Ordered (s.calls ++ [⟨data, .result⟩]) (s.trace ++ [.data data]) _ _
        rw [hcalls]
        exact hhand
      · rfl
      · show paused (s.trace ++ [.data data]) = false
        rw [paused_append_data, hp]
    | true =>
      refine ⟨h.hasTransport, ⟨past ++ [⟨data, .result⟩], [], ⟨?_, nofun, rfl⟩⟩, ?_⟩
      · show Ordered (s.calls ++ [⟨data, .result⟩]) (s.trace ++ [.data data] ++ [.pause]) _ _
        rw [hcalls]
        exact hhand.action nofun
      · show paused (s.trace ++ [.data data] ++ [.pause]) = true
        exact paused_append_pause _
  | some queue =>
    have hqueue : queue = numbered past.length queued := by
      have := hq.queue_eq
      rw [hw] at this
      exact this
    have hlength : s.calls.length = past.length + queued.length := by
      rw [ho.calls_eq, List.length_append]
    refine ⟨h.hasTransport, ⟨past, queued ++ [⟨data, .pending⟩], ho.concat ?_, ?_, ?_⟩, ?_⟩
    · exact nofun
    · intro c hc
      rcases List.mem_append.mp hc with hc | hc
      · exact hq.waiting c hc
      · obtain rfl := List.mem_singleton.mp hc
        exact .inl rfl
    · show queue ++ [(data, s.calls.length)] = numbered past.length (queued ++ [⟨data, .pending⟩])
      rw [numbered_append, ← hqueue, hlength]
    · show paused s.trace = true
      rw [h.paused_eq, hw]
      rfl

theorem Closed.write (h : Closed s) (data : Bytes) (pauses : Bool) :
    Closed (s.write data pauses) := by
  obtain ⟨past, rest, ho, hrest⟩ := h.ordered
  unfold Protocol.write
  rw [if_pos (by simp [h.hasTransport])]
  refine ⟨h.hasTransport, ⟨past, rest ++ [⟨data, .exception⟩], ho.concat ?_, ?_⟩, h.queue_eq⟩
  · exact nofun
  intro c hc
  rcases List.mem_append.mp hc with hc | hc
  · exact hrest c hc
  · obtain rfl := List.mem_singleton.mp hc
    exact nofun

theorem Inv.drain (h : Inv s) : Inv s.drain := by
  unfold Protocol.drain
  rcases h with ⟨ht, ⟨past, queued, hq⟩, hp⟩ | ⟨ht, ho, hq⟩ <;> cases s.drainFutures
  · exact .inl ⟨ht, ⟨past, queued, hq.ordered, hq.waiting, hq.queue_eq⟩, hp⟩
  · exact .inl ⟨ht, ⟨past, queued, hq.ordered, hq.waiting, hq.queue_eq⟩, hp⟩
  · exact .inr ⟨ht, ho, hq⟩
  · exact .inr ⟨ht, ho, hq⟩

/-- A write is cancelled in the queue, or has left it. -/
theorem Inv.cancelWrite (h : Inv s) (i : ℕ) : Inv (s.settleCall i .cancelled) := by
  rcases h with ⟨ht, ⟨past, queued, hq⟩, hp⟩ | ⟨ht, ⟨past, rest, ho, hrest⟩, hq⟩
  · obtain ⟨j, hj⟩ := hq.ordered.modify i .cancelled nofun
    refine .inl ⟨ht, ⟨past, _, hj, ?_, ?_⟩, hp⟩
    · intro c hc
      rcases mem_modify hc with hc | ⟨c', hc', rfl⟩
      · exact hq.waiting c hc
      · refine .inr ?_
        show settle .cancelled c'.future = .cancelled
        rcases hq.waiting c' hc' with hf | hf <;> rw [hf] <;> rfl
    · rw [numbered_modify]
      exact hq.queue_eq
  · obtain ⟨j, hj⟩ := ho.modify i .cancelled nofun
    refine .inr ⟨ht, ⟨past, _, hj, ?_⟩, hq⟩
    intro c hc
    rcases mem_modify hc with hc | ⟨c', hc', rfl⟩
    · exact hrest c hc
    · show settle .cancelled c'.future ≠ .pending
      rw [settle, if_neg (hrest c' hc')]
      exact hrest c' hc'

theorem Inv.cancelDrain (h : Inv s) (i : ℕ) : Inv (s.settleDrain i .cancelled) := by
  rcases h with ⟨ht, ⟨past, queued, hq⟩, hp⟩ | ⟨ht, ho, hq⟩
  · exact .inl ⟨ht, ⟨past, queued, hq.ordered, hq.waiting, hq.queue_eq⟩, hp⟩
  · exact .inr ⟨ht, ho, hq⟩

theorem Inv.pauseWriting (h : Inv s) (hnone : s.writeQueue = none) : Inv s.pauseWriting := by
  rcases h with ⟨ht, ⟨past, queued, hq⟩, hp⟩ | ⟨ht, ⟨past, rest, ho, hrest⟩, hq⟩
  · have hqueue := hq.queue_eq
    rw [hnone] at hqueue
    exact .inl ⟨ht, ⟨past, queued, hq.ordered.action nofun, hq.waiting, hqueue⟩,
      paused_append_pause _⟩
  · exact .inr ⟨ht, ⟨past, rest, ho.action nofun, hrest⟩, rfl⟩

/-- What a flush leaves of the queue is the queue of the protocol again. -/
theorem Open.resumeWriting (h : Open s) (pauses : List Bool) : Open (s.resumeWriting pauses) := by
  obtain ⟨past, queued, hq⟩ := h.queued
  simp only [Protocol.resumeWriting]
  have hresumed : Queued { s with
      writeQueue := none, drainFutures := none, trace := s.trace ++ [.resume] }
      (s.writeQueue.getD []) past queued :=
    ⟨hq.ordered.action nofun, hq.waiting, hq.queue_eq⟩
  have hflushing : Flushing { s with
      writeQueue := none, drainFutures := none, trace := s.trace ++ [.resume] } :=
    ⟨.inl rfl, paused_append_resume _⟩
  obtain ⟨past', queued', hq', hs', hrest, ht⟩ := hresumed.flush hflushing pauses
  generalize Protocol.flush _ _ _ = flushed at *
  obtain ⟨s', queue'⟩ := flushed
  by_cases hne : queue' = []
  · subst hne
    obtain ⟨drains, hdrains⟩ := foldl_settleDrain (s.drainFutures.getD []) s'
    simp only [ne_eq, not_true_eq_false, if_false, hdrains]
    refine ⟨ht.trans h.hasTransport, ⟨past', queued', hq'.ordered, hq'.waiting, ?_⟩, hs'.paused_eq⟩
    rw [← hq'.queue_eq]
    rcases hs'.writeQueue with hw | hw <;> simp only at hw <;> simp only [hw] <;> rfl
  · have hw := hrest hne
    simp only [ne_eq, hne, not_false_eq_true, if_true]
    refine ⟨ht.trans h.hasTransport, ⟨past', queued', hq'.ordered, hq'.waiting, ?_⟩, ?_⟩
    · rw [← hq'.queue_eq]
      simp only at hw
      simp [hw]
    · have hp := hs'.paused_eq
      simp only at hw hp
      rw [hw] at hp
      exact hp

theorem Closed.resumeWriting (h : Closed s) (pauses : List Bool) :
    Closed (s.resumeWriting pauses) := by
  obtain ⟨past, rest, ho, hrest⟩ := h.ordered
  unfold Protocol.resumeWriting
  rw [h.queue_eq]
  simp only [flush, ne_eq, not_true_eq_false, if_false]
  obtain ⟨drains, hdrains⟩ := foldl_settleDrain (s.drainFutures.getD [])
    { s with writeQueue := none, drainFutures := none, trace := s.trace ++ [.resume] }
  rw [hdrains]
  exact ⟨h.hasTransport, ⟨past, rest, ho.action nofun, hrest⟩, rfl⟩

/-- Every call in the queue gets its exception, unless it was cancelled. -/
theorem foldl_settleCall (queued past : List Call) (hs : s.calls = past ++ queued) :
    (numbered past.length queued).foldl (fun s entry => s.settleCall entry.2 .exception) s =
      { s with
        calls := past ++ queued.map fun c => { c with future := settle .exception c.future } } := by
  induction queued generalizing s past with
  | nil =>
    rw [numbered, List.foldl_nil, List.map_nil, ← hs]
  | cons c queued ih =>
    have hcalls : (s.settleCall past.length .exception).calls =
        past ++ [{ c with future := settle .exception c.future }] ++ queued := by
      show s.calls.modify past.length _ = _
      rw [hs, modify_append, if_neg (Nat.lt_irrefl _), Nat.sub_self, List.modify_zero_cons,
        List.append_assoc, List.singleton_append]
    have htail := ih _ hcalls
    rw [List.length_append, List.length_singleton] at htail
    rw [numbered, List.foldl_cons, htail, List.append_assoc, List.singleton_append, List.map_cons]
    rfl

theorem Inv.connectionLost (h : Inv s) : Closed s.connectionLost := by
  simp only [Protocol.connectionLost]
  rcases h with ⟨ht, ⟨past, queued, hq⟩, hp⟩ | ⟨ht, ⟨past, rest, ho, hrest⟩, hq⟩
  · have hf : ∀ c ∈ queued, settle .exception c.future = .exception ∨
        settle .exception c.future = .cancelled := by
      intro c hc
      rcases hq.waiting c hc with hf | hf <;> rw [hf]
      · exact .inl rfl
      · exact .inr rfl
    rw [hq.queue_eq, foldl_settleCall (s := { s with
      hasTransport := false, writeQueue := none, drainFutures := none }) queued past
      hq.ordered.calls_eq]
    obtain ⟨drains, hdrains⟩ := foldl_settleDrain (s.drainFutures.getD [])
      { s with
        hasTransport := false, writeQueue := none, drainFutures := none
        calls := past ++ queued.map fun c => { c with future := settle .exception c.future } }
    rw [hdrains]
    refine ⟨rfl, ⟨past, _, ⟨rfl, hq.ordered.past_done, ?_, hq.ordered.handed_eq,
      hq.ordered.quiet⟩, ?_⟩, rfl⟩
    · intro c hc
      obtain ⟨c', hc', rfl⟩ := List.mem_map.mp hc
      show settle .exception c'.future ≠ .result
      rcases hf c' hc' with hf | hf <;> rw [hf] <;> exact nofun
    · intro c hc
      obtain ⟨c', hc', rfl⟩ := List.mem_map.mp hc
      show settle .exception c'.future ≠ .pending
      rcases hf c' hc' with hf | hf <;> rw [hf] <;> exact nofun
  · rw [hq, List.foldl_nil]
    obtain ⟨drains, hdrains⟩ := foldl_settleDrain (s.drainFutures.getD [])
      { s with hasTransport := false, writeQueue := none, drainFutures := none }
    rw [hdrains]
    exact ⟨rfl, ⟨past, rest, ho, hrest⟩, rfl⟩

theorem Inv.step (h : Inv s) {e : Event} (hstep : s.step e = some s') : Inv s' := by
  cases e with
  | write data pauses =>
    obtain rfl := Option.some.inj hstep
    rcases h with h | h
    · exact .inl (h.write data pauses)
    · exact .inr (h.write data pauses)
  | drain =>
    obtain rfl := Option.some.inj hstep
    exact h.drain
  | cancelWrite i =>
    obtain rfl := Option.some.inj hstep
    exact h.cancelWrite i
  | cancelDrain i =>
    obtain rfl := Option.some.inj hstep
    exact h.cancelDrain i
  | pauseWriting =>
    unfold Protocol.step at hstep
    by_cases hw : s.writeQueue.isSome
    · rw [if_pos hw] at hstep
      cases hstep
    · rw [if_neg hw] at hstep
      obtain rfl := Option.some.inj hstep
      exact h.pauseWriting (by simpa using hw)
  | resumeWriting pauses =>
    obtain rfl := Option.some.inj hstep
    rcases h with h | h
    · exact .inl (h.resumeWriting pauses)
    · exact .inr (h.resumeWriting pauses)
  | connectionLost =>
    obtain rfl := Option.some.inj hstep
    exact .inr h.connectionLost

/-- **Writes keep their order.**  After any run, what the transport was handed is the data
of the writes in the order of their calls, each once, but for those cancelled or failed
in the queue; and nothing was handed to it while it had writing paused. -/
theorem writeOrder_of_run {es : List Event} (hrun : run step init es = some s) :
    WriteOrder s :=
  (run_invariant_of_step (fun _ _ _ h hstep => h.step hstep) inv_init hrun).writeOrder

/-- The first write pauses the transport, the third one is cancelled in the queue, and the
first flush is paused after the second one. -/
def flushedTwice : List Event :=
  [.write [1] true, .write [2] false, .write [3] false, .write [4] false, .cancelWrite 2,
    .resumeWriting [true], .write [5] false, .resumeWriting []]

theorem flushedTwice_order :
    ∃ s, run step init flushedTwice = some s ∧ handed s.trace = [[1], [2], [4], [5]] ∧
      WriteOrder s :=
  ⟨_, rfl, rfl, writeOrder_of_run (show run step init flushedTwice = some _ from rfl)⟩

end Protocol

end HatDrivers.Tcp
