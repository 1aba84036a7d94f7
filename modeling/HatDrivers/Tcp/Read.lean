import HatDrivers.Lib.Transition
import HatDrivers.Lib.Bytes
import HatDrivers.Lib.Entries
import Mathlib.Algebra.Order.Ring.Int

namespace HatDrivers.Tcp

open HatDrivers.Lib

/-!
# TCP — reads

The read side of the protocol of a connection.  Received bytes are buffered until they are
read, and calls of `read` and `readexactly` that cannot be served wait in a queue for their
futures.  Events are the calls, the callbacks of the transport, the callbacks of futures, and
the steps at which tasks go on or are cancelled.

No byte is lost, doubled or moved, unless a task is cancelled after its future got its bytes
and before it goes on with them (`intact_iff`).
-/

/-! ### The input buffer -/

/-- The first bytes of `bs`: at most `n`, or all if `n` is negative. -/
def firstBytes (n : ℤ) (bs : Bytes) : Bytes := if n < 0 then bs else bs.take n.toNat

def otherBytes (n : ℤ) (bs : Bytes) : Bytes := if n < 0 then [] else bs.drop n.toNat

/-- `util.BytesBuffer`, by what its operations do to the bytes it holds. -/
structure BytesBuffer where
  Buffer : Type
  bytes : Buffer → Bytes
  empty : Buffer
  add : Buffer → Bytes → Buffer
  read : Buffer → ℤ → Bytes × Buffer
  bytes_empty : bytes empty = []
  bytes_add : ∀ buffer data, bytes (add buffer data) = bytes buffer ++ data
  read_fst : ∀ buffer n, (read buffer n).1 = firstBytes n (bytes buffer)
  bytes_read : ∀ buffer n, bytes (read buffer n).2 = otherBytes n (bytes buffer)

/-! ### State -/

inductive ReadFuture
  | pending
  | result (data : Bytes)
  | exception
  | cancelled
  deriving DecidableEq

/-- Where the task of a read is: suspended at its future, or over. -/
inductive ReadTask
  | waiting
  | returned (data : Bytes)
  /-- raised `ConnectionError` -/
  | failed
  | cancelled
  deriving DecidableEq

/-- A call of `read` or `readexactly`.  A call that need not wait is as one whose future is
done. -/
structure Read where
  future : ReadFuture
  task : ReadTask
  deriving DecidableEq

/-- The bytes that a call returned, or that its task will return. -/
def Read.bytes (r : Read) : Bytes :=
  match r.task, r.future with
  | .returned data, _ => data
  | .waiting, .result data => data
  | _, _ => []

/-- An entry of the read queue, with the read that waits for it. -/
structure ReadEntry where
  exact : Bool
  n : ℤ
  read : ℕ
  deriving DecidableEq

/-- The read side of `Protocol`, with the reads so far, by which futures are named. -/
structure Input (B : BytesBuffer) where
  hasTransport : Bool
  inputBufferLimit : ℤ
  inputBuffer : B.Buffer
  readQueue : Option (List ReadEntry)
  /-- `transport.pause_reading()` was called last -/
  readingPaused : Bool
  reads : List Read
  /-- history: the bytes that were received -/
  received : Bytes

variable {B : BytesBuffer}

namespace Input

/-! ### Operations -/

/-- After `connection_made`. -/
def init (B : BytesBuffer) (inputBufferLimit : ℤ) : Input B where
  hasTransport := true
  inputBufferLimit := inputBufferLimit
  inputBuffer := B.empty
  readQueue := some []
  readingPaused := false
  reads := []
  received := []

def length (s : Input B) : ℕ := (B.bytes s.inputBuffer).length

/-- Is `_read_queue` neither `None` nor empty? -/
def hasReads (s : Input B) : Bool := (s.readQueue.getD []).isEmpty = false

/-- `future.done()`. -/
def done (s : Input B) (i : ℕ) : Bool := s.reads[i]?.any fun r => r.future ≠ .pending

def setFuture (s : Input B) (i : ℕ) (future : ReadFuture) : Input B :=
  { s with reads := s.reads.modify i fun r => { r with future := future } }

def setRead (s : Input B) (i : ℕ) (read : Read) : Input B :=
  { s with reads := s.reads.modify i fun _ => read }

/-- `future.set_result(self._input_buffer.read(n))`. -/
def serve (s : Input B) (entry : ReadEntry) : Input B :=
  let (data, inputBuffer) := B.read s.inputBuffer entry.n
  ({ s with inputBuffer := inputBuffer } : Input B).setFuture entry.read (.result data)

/-- The loop of `_process_input_buffer`, and what it leaves of the queue. -/
def serveQueue : Input B → List ReadEntry → Input B × List ReadEntry
  | s, [] => (s, [])
  | s, entry :: queue =>
    if s.length = 0 then (s, entry :: queue)
    else if s.done entry.read then serveQueue s queue
    else if entry.exact ∧ ¬ entry.n ≤ s.length then (s, entry :: queue)
    else serveQueue (s.serve entry) queue

/-- Reading is paused while nothing is read and the buffer is over its limit. -/
def pauseReading (s : Input B) : Input B :=
  if ¬ s.hasTransport then s
  else { s with
    readingPaused := s.inputBufferLimit > 0 ∧ s.length > s.inputBufferLimit ∧ ¬ s.hasReads }

def processInputBuffer (s : Input B) : Input B :=
  match s.readQueue with
  | none => s.pauseReading
  | some queue =>
    let (s, queue) := s.serveQueue queue
    ({ s with readQueue := some queue } : Input B).pauseReading

def dataReceived (s : Input B) (data : Bytes) : Input B :=
  let s : Input B :=
    { s with inputBuffer := B.add s.inputBuffer data, received := s.received ++ data }
  s.processInputBuffer

/-- The loop of `eof_received`. -/
def endQueue : Input B → List ReadEntry → Input B
  | s, [] => s
  | s, entry :: queue =>
    if s.done entry.read then endQueue s queue
    else if entry.exact ∧ entry.n ≤ s.length then endQueue (s.serve entry) queue
    else if ¬ entry.exact ∧ s.length ≠ 0 then endQueue (s.serve entry) queue
    else endQueue (s.setFuture entry.read .exception) queue

def eofReceived (s : Input B) : Input B :=
  { s.endQueue (s.readQueue.getD []) with readQueue := none }

def connectionLost (s : Input B) : Input B :=
  ({ s with hasTransport := false } : Input B).eofReceived

/-- A read that need not wait. -/
def readNow (s : Input B) (n : ℤ) : Input B :=
  let (data, inputBuffer) := B.read s.inputBuffer n
  let s : Input B :=
    { s with
      inputBuffer := inputBuffer
      reads := s.reads ++ [⟨.result data, .returned data⟩] }
  s.processInputBuffer

/-- A call that ends where it starts. -/
def endNow (s : Input B) (read : Read) : Input B := { s with reads := s.reads ++ [read] }

/-- A read waits for its future. -/
def wait (s : Input B) (queue : List ReadEntry) (exact : Bool) (n : ℤ) : Input B :=
  { s with
    readQueue := some (queue ++ [⟨exact, n, s.reads.length⟩])
    reads := s.reads ++ [⟨.pending, .waiting⟩] }

/-- A call of `read`, up to where it waits. -/
def read (s : Input B) (n : ℤ) : Input B :=
  if n = 0 then s.endNow ⟨.result [], .returned []⟩
  else if s.length ≠ 0 ∧ ¬ s.hasReads then s.readNow n
  else
    match s.readQueue with
    | none => s.endNow ⟨.exception, .failed⟩
    | some queue => s.wait queue false n

/-- A call of `readexactly`, up to where it waits. -/
def readexactly (s : Input B) (n : ℤ) : Input B :=
  if n = 0 then s.endNow ⟨.result [], .returned []⟩
  else if n ≤ s.length ∧ ¬ s.hasReads then s.readNow n
  else
    match s.readQueue with
    | none => s.endNow ⟨.exception, .failed⟩
    | some queue => (s.wait queue true n).processInputBuffer

/-- The callback of a future that is done. -/
def onReadFutureDone (s : Input B) (r : Read) : Input B :=
  if ¬ s.hasReads then s
  else if r.future ≠ .cancelled then s
  else
    let readQueue := s.readQueue.map fun queue => queue.filter fun entry => ¬ s.done entry.read
    ({ s with readQueue := readQueue } : Input B).processInputBuffer

/-- The task of a read goes on. -/
def resume (r : Read) : Option Read :=
  match r.task, r.future with
  | .waiting, .result data => some { r with task := .returned data }
  | .waiting, .exception => some { r with task := .failed }
  | _, _ => none

/-- The task of a read is cancelled, and with it the future it waits for. -/
def cancel (r : Read) : Option Read :=
  if r.task = .waiting then
    some ⟨if r.future = .pending then .cancelled else r.future, .cancelled⟩
  else none

/-! ### Events -/

inductive Event
  | dataReceived (data : Bytes)
  | eofReceived
  | connectionLost
  | read (n : ℤ)
  | readexactly (n : ℤ)
  /-- the callback of the future of a read runs -/
  | readFutureDone (i : ℕ)
  /-- the task of a read goes on -/
  | resume (i : ℕ)
  | cancel (i : ℕ)
  deriving DecidableEq

def step (s : Input B) : Event → Option (Input B)
  | .dataReceived data => some (s.dataReceived data)
  | .eofReceived => some s.eofReceived
  | .connectionLost => some s.connectionLost
  | .read n => some (s.read n)
  | .readexactly n => some (s.readexactly n)
  | .readFutureDone i =>
    s.reads[i]?.bind fun r => if r.future = .pending then none else some (s.onReadFutureDone r)
  | .resume i =>
    s.reads[i]?.bind fun r => (resume r).map fun r => s.setRead i r
  | .cancel i =>
    s.reads[i]?.bind fun r => (cancel r).map fun r => s.setRead i r

/-! ### What holds of every run -/

variable {s s' : Input B} {queue : List ReadEntry}

/-- The results of the reads, in the order of their calls, and what is buffered are the bytes
that were received. -/
def Intact (s : Input B) : Prop :=
  s.reads.flatMap Read.bytes ++ B.bytes s.inputBuffer = s.received

/-- The state but for its queue: only tasks that wait have a future that is not done. -/
structure Sound (s : Input B) : Prop where
  intact : s.Intact
  waiting : ∀ (i : ℕ) r, s.reads[i]? = some r → r.future = .pending → r.task = .waiting

/-- Reads are queued in the order of their calls, after all reads that have bytes. -/
structure Queued (s : Input B) (queue : List ReadEntry) : Prop where
  sorted : queue.Pairwise fun entry entry' => entry.read < entry'.read
  lt_length : ∀ entry ∈ queue, entry.read < s.reads.length
  bytes_eq : ∀ entry ∈ queue, ∀ (i : ℕ) r, entry.read ≤ i → s.reads[i]? = some r → r.bytes = []

structure Inv (s : Input B) : Prop extends Sound s where
  queued : s.Queued (s.readQueue.getD [])

theorem firstBytes_append (n : ℤ) (bs : Bytes) : firstBytes n bs ++ otherBytes n bs = bs := by
  unfold firstBytes otherBytes
  by_cases hn : n < 0
  · rw [if_pos hn, if_pos hn, List.append_nil]
  · rw [if_neg hn, if_neg hn, List.take_append_drop]

theorem inv_init (B : BytesBuffer) (inputBufferLimit : ℤ) : (init B inputBufferLimit).Inv where
  intact := B.bytes_empty
  waiting := by
    intro i r hr
    cases hr
  queued := ⟨.nil, nofun, nofun⟩

/-! ### Serving the queue -/

theorem Queued.tail {entry : ReadEntry} (h : s.Queued (entry :: queue)) : s.Queued queue where
  sorted := (List.pairwise_cons.mp h.sorted).2
  lt_length := fun entry' he => h.lt_length entry' (List.mem_cons_of_mem _ he)
  bytes_eq := fun entry' he => h.bytes_eq entry' (List.mem_cons_of_mem _ he)

/-- The reads of some of the entries. -/
theorem Queued.sublist {queue' : List ReadEntry} (h : s.Queued queue)
    (hsub : queue'.Sublist queue) :
    s.Queued queue' where
  sorted := h.sorted.sublist hsub
  lt_length := fun entry he => h.lt_length entry (hsub.subset he)
  bytes_eq := fun entry he => h.bytes_eq entry (hsub.subset he)

/-- The future of the first read in the queue is set. -/
theorem Queued.setFuture {entry : ReadEntry} (h : s.Queued (entry :: queue)) (future : ReadFuture) :
    (s.setFuture entry.read future).Queued queue where
  sorted := h.tail.sorted
  lt_length := fun entry' he => by
    show entry'.read < (s.reads.modify _ _).length
    rw [List.length_modify]
    exact h.tail.lt_length entry' he
  bytes_eq := by
    intro entry' he i r hi hr
    have hlt := (List.pairwise_cons.mp h.sorted).1 entry' he
    rcases getElem?_modify_eq_some.mp hr with ⟨-, hr⟩ | ⟨rfl, -⟩
    · exact h.tail.bytes_eq entry' he i r hi hr
    · omega

/-- A read that is not done waits. -/
theorem Sound.exists_waiting (h : s.Sound) {i : ℕ} (hi : i < s.reads.length)
    (hdone : s.done i = false) : s.reads[i]? = some ⟨.pending, .waiting⟩ := by
  have hr : s.reads[i]? = some s.reads[i] := List.getElem?_eq_getElem hi
  have hpending : (s.reads[i]).future = .pending := by
    rw [done, hr] at hdone
    simpa using hdone
  have htask := h.waiting i _ hr hpending
  rw [hr]
  congr 1
  generalize s.reads[i] = r at hpending htask
  obtain ⟨future, task⟩ := r
  rw [show future = .pending from hpending, show task = .waiting from htask]

theorem Sound.setFuture (h : s.Sound) {i : ℕ} {future : ReadFuture} (hfuture : future ≠ .pending)
    (hintact : (s.setFuture i future).Intact) : (s.setFuture i future).Sound where
  intact := hintact
  waiting := by
    intro j r hr hpending
    rcases getElem?_modify_eq_some.mp hr with ⟨-, hr⟩ | ⟨rfl, r', -, rfl⟩
    · exact h.waiting j r hr hpending
    · exact absurd hpending hfuture

/-- The first read in the queue gets its bytes. -/
theorem Sound.serve (h : s.Sound) {entry : ReadEntry} (hq : s.Queued (entry :: queue))
    (hdone : s.done entry.read = false) :
    (s.serve entry).Sound ∧ (s.serve entry).Queued queue := by
  have hr := h.exists_waiting (hq.lt_length entry List.mem_cons_self) hdone
  have hbuffer : ({ s with inputBuffer := (B.read s.inputBuffer entry.n).2 } : Input B).Queued
      (entry :: queue) := ⟨hq.sorted, hq.lt_length, hq.bytes_eq⟩
  refine ⟨⟨?_, ?_⟩, hbuffer.setFuture _⟩
  · show (s.reads.modify entry.read _).flatMap Read.bytes ++
      B.bytes (B.read s.inputBuffer entry.n).2 = s.received
    rw [flatMap_modify_of_nil hr (hq.bytes_eq entry List.mem_cons_self), List.append_assoc,
      B.bytes_read]
    show _ ++ ((B.read s.inputBuffer entry.n).1 ++ _) = _
    rw [B.read_fst, firstBytes_append]
    exact h.intact
  · intro j r hr' hpending
    rcases getElem?_modify_eq_some.mp hr' with ⟨-, hr'⟩ | ⟨rfl, r', -, rfl⟩
    · exact h.waiting j r hr' hpending
    · cases hpending

theorem serve_readQueue (s : Input B) (entry : ReadEntry) :
    (s.serve entry).readQueue = s.readQueue := rfl

/-- **The loop over the queue keeps the order.** -/
theorem Sound.serveQueue (h : s.Sound) (hq : s.Queued queue) :
    (s.serveQueue queue).1.Sound ∧ (s.serveQueue queue).1.Queued (s.serveQueue queue).2 := by
  induction queue generalizing s with
  | nil => exact ⟨h, hq⟩
  | cons entry queue ih =>
    rw [Input.serveQueue]
    by_cases hempty : s.length = 0
    · rw [if_pos hempty]
      exact ⟨h, hq⟩
    rw [if_neg hempty]
    by_cases hdone : s.done entry.read
    · rw [if_pos hdone]
      exact ih h hq.tail
    rw [if_neg hdone]
    by_cases hmore : entry.exact ∧ ¬ entry.n ≤ s.length
    · rw [if_pos hmore]
      exact ⟨h, hq⟩
    · rw [if_neg hmore]
      obtain ⟨hserved, hrest⟩ := h.serve hq (Bool.eq_false_of_not_eq_true hdone)
      exact ih hserved hrest

theorem Inv.pauseReading (h : s.Inv) : s.pauseReading.Inv := by
  unfold Input.pauseReading
  by_cases htransport : s.hasTransport
  · rw [if_neg (not_not.mpr htransport)]
    exact ⟨⟨h.intact, h.waiting⟩, ⟨h.queued.sorted, h.queued.lt_length, h.queued.bytes_eq⟩⟩
  · rw [if_pos htransport]
    exact h

theorem Inv.processInputBuffer (h : s.Inv) : s.processInputBuffer.Inv := by
  unfold Input.processInputBuffer
  cases hqueue : s.readQueue with
  | none => exact h.pauseReading
  | some queue =>
    have hq := h.queued
    rw [hqueue] at hq
    obtain ⟨hserved, hrest⟩ := h.toSound.serveQueue hq
    apply Inv.pauseReading
    exact ⟨⟨hserved.intact, hserved.waiting⟩, ⟨hrest.sorted, hrest.lt_length, hrest.bytes_eq⟩⟩

/-! ### Steps -/

theorem Inv.dataReceived (h : s.Inv) (data : Bytes) : (s.dataReceived data).Inv := by
  apply Inv.processInputBuffer
  refine ⟨⟨?_, h.waiting⟩, ⟨h.queued.sorted, h.queued.lt_length, h.queued.bytes_eq⟩⟩
  show _ ++ B.bytes (B.add s.inputBuffer data) = s.received ++ data
  rw [B.bytes_add, ← List.append_assoc, h.intact]

/-- The reads in the queue get what is buffered, or fail. -/
theorem Sound.endQueue (h : s.Sound) (hq : s.Queued queue) : (s.endQueue queue).Sound := by
  induction queue generalizing s with
  | nil => exact h
  | cons entry queue ih =>
    rw [Input.endQueue]
    by_cases hdone : s.done entry.read
    · rw [if_pos hdone]
      exact ih h hq.tail
    rw [if_neg hdone]
    obtain ⟨hserved, hrest⟩ := h.serve hq (Bool.eq_false_of_not_eq_true hdone)
    by_cases hexact : entry.exact ∧ entry.n ≤ s.length
    · rw [if_pos hexact]
      exact ih hserved hrest
    rw [if_neg hexact]
    by_cases hsome : ¬ entry.exact ∧ s.length ≠ 0
    · rw [if_pos hsome]
      exact ih hserved hrest
    · rw [if_neg hsome]
      have hr := h.exists_waiting (hq.lt_length entry List.mem_cons_self)
        (Bool.eq_false_of_not_eq_true hdone)
      refine ih (h.setFuture nofun ?_) (hq.setFuture _)
      show (s.reads.modify entry.read _).flatMap Read.bytes ++ _ = s.received
      rw [flatMap_modify_of_eq]
      · exact h.intact
      · intro r hr'
        obtain rfl := Option.some.inj (hr.symm.trans hr')
        rfl

theorem Inv.eofReceived (h : s.Inv) : s.eofReceived.Inv := by
  have hended := h.toSound.endQueue h.queued
  exact ⟨⟨hended.intact, hended.waiting⟩, ⟨.nil, nofun, nofun⟩⟩

theorem Inv.connectionLost (h : s.Inv) : s.connectionLost.Inv := by
  apply Inv.eofReceived
  exact ⟨⟨h.intact, h.waiting⟩, ⟨h.queued.sorted, h.queued.lt_length, h.queued.bytes_eq⟩⟩

/-- A call that has no bytes joins the others. -/
theorem Queued.concat (h : s.Queued queue) {read : Read} (hread : read.bytes = []) :
    (s.endNow read).Queued queue where
  sorted := h.sorted
  lt_length := fun entry he => by
    show entry.read < (s.reads ++ [read]).length
    rw [List.length_append]
    exact (h.lt_length entry he).trans (Nat.lt_succ_self _)
  bytes_eq := by
    intro entry he i r hi hr
    rcases getElem?_concat_eq_some.mp hr with hr | ⟨-, rfl⟩
    · exact h.bytes_eq entry he i r hi hr
    · exact hread

theorem Sound.concat (h : s.Sound) {read : Read} (hread : read.bytes = [])
    (hwaiting : read.future = .pending → read.task = .waiting) : (s.endNow read).Sound where
  intact := by
    show (s.reads ++ [read]).flatMap Read.bytes ++ _ = s.received
    rw [List.flatMap_append, List.flatMap_singleton, hread, List.append_nil]
    exact h.intact
  waiting := by
    intro i r hr hpending
    rcases getElem?_concat_eq_some.mp hr with hr | ⟨-, rfl⟩
    · exact h.waiting i r hr hpending
    · exact hwaiting hpending

theorem Inv.endNow (h : s.Inv) {read : Read} (hread : read.bytes = [])
    (hfuture : read.future ≠ .pending) : (s.endNow read).Inv where
  toSound := h.toSound.concat hread fun hpending => absurd hpending hfuture
  queued := h.queued.concat hread

theorem Inv.readNow (h : s.Inv) (hreads : ¬ s.hasReads) (n : ℤ) : (s.readNow n).Inv := by
  have hnone : s.readQueue.getD [] = [] := by simpa [hasReads] using hreads
  apply Inv.processInputBuffer
  refine ⟨⟨?_, ?_⟩, ?_⟩
  · show (s.reads ++ [_]).flatMap Read.bytes ++ B.bytes (B.read s.inputBuffer n).2 = s.received
    rw [List.flatMap_append, List.flatMap_singleton, List.append_assoc, B.bytes_read]
    show _ ++ ((B.read s.inputBuffer n).1 ++ _) = _
    rw [B.read_fst, firstBytes_append]
    exact h.intact
  · intro i r hr hpending
    rcases getElem?_concat_eq_some.mp hr with hr | ⟨-, rfl⟩
    · exact h.waiting i r hr hpending
    · cases hpending
  · show Queued _ (s.readQueue.getD [])
    rw [hnone]
    exact ⟨.nil, nofun, nofun⟩

theorem Inv.wait (h : s.Inv) (hqueue : s.readQueue = some queue) (exact : Bool) (n : ℤ) :
    (s.wait queue exact n).Inv := by
  have hq := h.queued
  rw [hqueue] at hq
  have hread : (⟨.pending, .waiting⟩ : Read).bytes = [] := rfl
  have hconcat := h.toSound.concat hread fun _ => rfl
  have hqueued := hq.concat hread
  refine ⟨⟨hconcat.intact, hconcat.waiting⟩, ?_, ?_, ?_⟩
  · refine List.pairwise_append.mpr ⟨hq.sorted, List.pairwise_singleton _ _, ?_⟩
    intro entry he entry' he'
    obtain rfl := List.mem_singleton.mp he'
    exact hq.lt_length entry he
  · intro entry he
    rcases List.mem_append.mp he with he | he
    · exact hqueued.lt_length entry he
    · obtain rfl := List.mem_singleton.mp he
      show s.reads.length < (s.reads ++ [_]).length
      rw [List.length_append]
      exact Nat.lt_succ_self _
  · intro entry he i r hi hr
    rcases List.mem_append.mp he with he | he
    · exact hqueued.bytes_eq entry he i r hi hr
    · obtain rfl := List.mem_singleton.mp he
      rcases getElem?_concat_eq_some.mp hr with hr | ⟨-, rfl⟩
      · have hlt := (List.getElem?_eq_some_iff.mp hr).1
        exact absurd hlt (Nat.not_lt.mpr hi)
      · rfl

theorem Inv.read (h : s.Inv) (n : ℤ) : (s.read n).Inv := by
  unfold Input.read
  by_cases hn : n = 0
  · rw [if_pos hn]
    exact h.endNow rfl nofun
  rw [if_neg hn]
  by_cases hnow : s.length ≠ 0 ∧ ¬ s.hasReads
  · rw [if_pos hnow]
    exact h.readNow hnow.2 n
  rw [if_neg hnow]
  cases hqueue : s.readQueue with
  | none => exact h.endNow rfl nofun
  | some queue => exact h.wait hqueue false n

theorem Inv.readexactly (h : s.Inv) (n : ℤ) : (s.readexactly n).Inv := by
  unfold Input.readexactly
  by_cases hn : n = 0
  · rw [if_pos hn]
    exact h.endNow rfl nofun
  rw [if_neg hn]
  by_cases hnow : n ≤ s.length ∧ ¬ s.hasReads
  · rw [if_pos hnow]
    exact h.readNow hnow.2 n
  rw [if_neg hnow]
  cases hqueue : s.readQueue with
  | none => exact h.endNow rfl nofun
  | some queue => exact (h.wait hqueue true n).processInputBuffer

theorem Inv.onReadFutureDone (h : s.Inv) (r : Read) : (s.onReadFutureDone r).Inv := by
  unfold Input.onReadFutureDone
  by_cases hreads : s.hasReads
  · rw [if_neg (not_not.mpr hreads)]
    by_cases hcancelled : r.future ≠ .cancelled
    · rw [if_pos hcancelled]
      exact h
    rw [if_neg hcancelled]
    apply Inv.processInputBuffer
    have hq := h.queued
    cases hqueue : s.readQueue with
    | none => exact ⟨⟨h.intact, h.waiting⟩, ⟨.nil, nofun, nofun⟩⟩
    | some queue =>
      rw [hqueue] at hq
      have hrest := hq.sublist (List.filter_sublist (p := fun entry => ¬ s.done entry.read))
      exact ⟨⟨h.intact, h.waiting⟩, ⟨hrest.sorted, hrest.lt_length, hrest.bytes_eq⟩⟩
  · rw [if_pos hreads]
    exact h

/-- A task goes on without its bytes being lost. -/
theorem Inv.setRead (h : s.Inv) {i : ℕ} {r read : Read} (hr : s.reads[i]? = some r)
    (hbytes : read.bytes = r.bytes) (hfuture : read.future ≠ .pending) :
    (s.setRead i read).Inv := by
  refine ⟨⟨?_, ?_⟩, h.queued.sorted, ?_, ?_⟩
  · show (s.reads.modify i _).flatMap Read.bytes ++ _ = s.received
    rw [flatMap_modify_of_eq]
    · exact h.intact
    · intro r' hr'
      obtain rfl := Option.some.inj (hr.symm.trans hr')
      exact hbytes
  · intro j r' hr' hpending
    rcases getElem?_modify_eq_some.mp hr' with ⟨-, hr'⟩ | ⟨rfl, -, -, rfl⟩
    · exact h.waiting j r' hr' hpending
    · exact absurd hpending hfuture
  · intro entry he
    show entry.read < (s.reads.modify i _).length
    rw [List.length_modify]
    exact h.queued.lt_length entry he
  · intro entry he j r' hj hr'
    rcases getElem?_modify_eq_some.mp hr' with ⟨-, hr'⟩ | ⟨rfl, -, -, rfl⟩
    · exact h.queued.bytes_eq entry he j r' hj hr'
    · exact hbytes.trans (h.queued.bytes_eq entry he i r hj hr)

/-! ### Cancellation -/

/-- The task that is cancelled, if there is one, has not been given its bytes. -/
def LosesNothing (s : Input B) : Event → Prop
  | .cancel i => ∀ r ∈ s.reads[i]?, r.task = .waiting → r.bytes = []
  | _ => True

theorem cancel_eq_some {r read : Read} :
    cancel r = some read ↔ r.task = .waiting ∧
      (⟨if r.future = .pending then .cancelled else r.future, .cancelled⟩ : Read) = read := by
  unfold cancel
  by_cases htask : r.task = .waiting
  · rw [if_pos htask]
    simp [htask]
  · rw [if_neg htask]
    simp [htask]

theorem Inv.step (h : s.Inv) {e : Event} (hc : s.LosesNothing e) (hstep : s.step e = some s') :
    s'.Inv := by
  cases e with
  | dataReceived data =>
    obtain rfl := Option.some.inj hstep
    exact h.dataReceived data
  | eofReceived =>
    obtain rfl := Option.some.inj hstep
    exact h.eofReceived
  | connectionLost =>
    obtain rfl := Option.some.inj hstep
    exact h.connectionLost
  | read n =>
    obtain rfl := Option.some.inj hstep
    exact h.read n
  | readexactly n =>
    obtain rfl := Option.some.inj hstep
    exact h.readexactly n
  | readFutureDone i =>
    obtain ⟨r, -, hr⟩ := Option.bind_eq_some_iff.mp hstep
    by_cases hpending : r.future = .pending
    · rw [if_pos hpending] at hr
      cases hr
    · rw [if_neg hpending] at hr
      obtain rfl := Option.some.inj hr
      exact h.onReadFutureDone r
  | resume i =>
    obtain ⟨r, hr, hstep⟩ := Option.bind_eq_some_iff.mp hstep
    obtain ⟨read, hread, rfl⟩ := Option.map_eq_some_iff.mp hstep
    unfold Input.resume at hread
    split at hread
    · next htask hfuture =>
      obtain rfl := Option.some.inj hread
      refine h.setRead hr ?_ ?_
      · simp [Read.bytes, htask, hfuture]
      · simp [hfuture]
    · next htask hfuture =>
      obtain rfl := Option.some.inj hread
      refine h.setRead hr ?_ ?_
      · simp [Read.bytes, htask, hfuture]
      · simp [hfuture]
    · cases hread
  | cancel i =>
    obtain ⟨r, hr, hstep⟩ := Option.bind_eq_some_iff.mp hstep
    obtain ⟨read, hread, rfl⟩ := Option.map_eq_some_iff.mp hstep
    obtain ⟨htask, rfl⟩ := cancel_eq_some.mp hread
    refine h.setRead hr (hc r hr htask).symm ?_
    show (if r.future = .pending then .cancelled else r.future) ≠ ReadFuture.pending
    by_cases hpending : r.future = .pending
    · rw [if_pos hpending]
      exact nofun
    · rw [if_neg hpending]
      exact hpending

/-- A task that is cancelled with its bytes loses them. -/
theorem Inv.not_intact_of_cancel (h : s.Inv) {e : Event} (hc : ¬ s.LosesNothing e) :
    ∃ s', s.step e = some s' ∧ ¬ s'.Intact := by
  cases e with
  | cancel i =>
    rw [LosesNothing] at hc
    push Not at hc
    obtain ⟨r, hr, htask, hbytes⟩ := hc
    have hcancel := cancel_eq_some.mpr ⟨htask, rfl⟩
    refine ⟨_, Option.bind_eq_some_iff.mpr ⟨r, hr, Option.map_eq_some_iff.mpr
      ⟨_, hcancel, rfl⟩⟩, ?_⟩
    intro hintact
    have hlength := length_flatMap_modify (f := fun _ : Read =>
      ⟨if r.future = .pending then .cancelled else r.future, .cancelled⟩) (g := Read.bytes) hr
    have hlt : 0 < r.bytes.length := List.length_pos_of_ne_nil hbytes
    have hsame := congrArg List.length (hintact.trans h.intact.symm)
    rw [List.length_append, List.length_append] at hsame
    have hsame : ((s.reads.modify i _).flatMap Read.bytes).length + s.length =
      (s.reads.flatMap Read.bytes).length + s.length := hsame
    have hzero : (Read.bytes ⟨if r.future = .pending then .cancelled else r.future,
      .cancelled⟩).length = 0 := rfl
    omega
  | _ => exact absurd trivial hc

variable {es : List Event} {inputBufferLimit : ℤ}

/-- **Reads return the bytes that were received**, each once and in order, at every moment of a
run iff no task is cancelled between the time its future got its bytes and the time it goes on. -/
theorem intact_iff :
    (∀ (es' : List Event) (s : Input B), es' <+: es →
      run step (init B inputBufferLimit) es' = some s → s.Intact) ↔
    Along step LosesNothing (init B inputBufferLimit) es :=
  forall_safe_iff_along (fun _ _ _ h hc hstep => h.step hc hstep) (fun _ h => h.intact)
    (fun _ _ h hc => h.not_intact_of_cancel hc) (inv_init B inputBufferLimit)

/-- A buffer that is the list of its bytes. -/
def listBuffer : BytesBuffer where
  Buffer := Bytes
  bytes := id
  empty := []
  add buffer data := buffer ++ data
  read buffer n := (firstBytes n buffer, otherBytes n buffer)
  bytes_empty := rfl
  bytes_add _ _ := rfl
  read_fst _ _ := rfl
  bytes_read _ _ := rfl

/-- A read that is cancelled in the same turn of the event loop in which its bytes come, as by
a timeout: the next read gets the bytes after them. -/
theorem cancelledWithBytes_not_intact :
    ∃ s, run step (init listBuffer 0)
        [.readexactly 2, .dataReceived [1, 2], .cancel 0, .dataReceived [3], .read (-1)] = some s ∧
      s.received = [1, 2, 3] ∧ listBuffer.bytes s.inputBuffer = [] ∧
      s.reads = [⟨.result [1, 2], .cancelled⟩, ⟨.result [3], .returned [3]⟩] ∧ ¬ s.Intact :=
  ⟨_, rfl, rfl, rfl, rfl, fun h => by cases h⟩

end Input

end HatDrivers.Tcp
