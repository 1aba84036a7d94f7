import HatDrivers.Iec60870.Apci.Window
import HatDrivers.Lib.SlidingWindow

namespace HatDrivers.Iec60870.Apci

open HatDrivers.Lib SlidingWindow

/-!
# APCI — a connection as an end of a sliding window

The frames of a connection are items of a sliding window (`Conn.toEnd`).  Every step of a
connection keeps what joins it to another end (`Conn.Half`), as long as what it reads is the next
frame that the other end wrote out: it then neither misses a sequence number nor refuses an
acknowledgement (`Conn.Half.read`), and puts the payloads of the other end in its receive queue.
-/

/-! ### Frames as items -/

/-- The item that an APDU carries. -/
def Apdu.item : Apdu → Option (ℕ × Bytes)
  | .APDUI ssn _ data => some (ssn, data)
  | _ => none

def Apdu.ack : Apdu → Option ℕ
  | .APDUI _ rsn _ => some rsn
  | .APDUS rsn => some rsn
  | .APDUU _ => none

/-- What a write is to the other end. -/
def Write.stamped (write : Write) : Stamped Bytes :=
  ⟨write.apdu.item, write.apdu.ack, write.reads, write.received⟩

/-- May an I-frame be written whose write did not return? -/
def WriteLoop.pending : WriteLoop → Bool
  | .writing _ _ | .finished => true
  | _ => false

/-- The write at which a task is suspended. -/
def ReadLoop.write : ReadLoop → Option Write
  | .acknowledging write | .stopping write | .confirming write => some write
  | _ => none

def TestLoop.write : TestLoop → Option Write
  | .writing write => some write
  | _ => none

def Supervisory.write : Supervisory → Option Write
  | .writing write => some write
  | .starting => none

/-- The payload that the read loop received and did not put yet. -/
def ReadLoop.putData : ReadLoop → List Bytes
  | .putting data => [data]
  | _ => []

/-- The payloads of frames that are put in a receive queue. -/
def payloads (frames : List (Stamped Bytes)) : List Bytes :=
  ((items frames).map Prod.snd).filter (· ≠ [])

theorem payloads_append (fs gs : List (Stamped Bytes)) :
    payloads (fs ++ gs) = payloads fs ++ payloads gs := by
  simp [payloads, items_append]

/-- The errors of a read loop and of a write loop that only a peer or a connection that is not
correct would cause. -/
def sequenceErrors : List Exn :=
  [.exception "missing apdu sequence number",
    .exception "received ack for unsent sequence number",
    .exception "can not reuse already registered ssn"]

/-- An encoder that fails complains of a value. -/
theorem encode_error {apdu : Apdu} {e : Exn} (h : encode apdu = .error e) :
    e ∉ sequenceErrors := by
  have hvalue : ∃ msg, e = .valueError msg := by
    have hbytes : ∀ ns, toBytes ns = .error e → ∃ msg, e = .valueError msg := by
      intro ns h
      unfold toBytes at h
      split at h
      · cases h
      · cases h
        exact ⟨_, rfl⟩
    unfold encode at h
    cases hcheck : checkFields apdu with
    | ok u =>
      rw [hcheck] at h
      exact hbytes _ h
    | error e' =>
      rw [hcheck] at h
      cases h
      unfold checkFields at hcheck
      split at hcheck
      · split at hcheck
        · cases hcheck
          exact ⟨_, rfl⟩
        split at hcheck
        · cases hcheck
          exact ⟨_, rfl⟩
        split at hcheck
        · cases hcheck
          exact ⟨_, rfl⟩
        · cases hcheck
      · split at hcheck
        · cases hcheck
          exact ⟨_, rfl⟩
        · cases hcheck
      · cases hcheck
  obtain ⟨msg, rfl⟩ := hvalue
  simp [sequenceErrors]

/-- Neither writes a frame out nor reads one. -/
def Event.Inner : Event → Prop
  | .flush => False
  | .read result => result = .error .connectionError
  | _ => True

instance : (e : Event) → Decidable e.Inner
  | .flush => instDecidableFalse
  | .read result => inferInstanceAs (Decidable (result = .error .connectionError))
  | .call _ _ | .put _ | .cancelCall _ | .receive | .close | .responseTimeout _
  | .supervisoryTimeout | .connectionLost | .resume _ | .fail _ => instDecidableTrue

namespace Conn

/-- A connection, as an end of a sliding window. -/
def toEnd (s : Conn) : End Bytes where
  log := s.sent.map Write.stamped
  queue := s.writeQueue.map Write.stamped
  pending := s.writeLoop.pending
  completed := s.written.length
  covered := s.covered
  reads := s.reads
  received := s.received

/-! ### What joins the ends -/

/-- What the steps of a connection keep, towards another end `y`: `log` is what it wrote out, and
`reads` the number of frames it read. -/
structure HalfOn (x y : End Bytes) (ssn rsn : ℕ) (sent writeQueue : List Write)
    (written delivered : List Bytes) (errors : List Exn) (readLoop : ReadLoop)
    (writeLoop : WriteLoop) (testLoop : TestLoop) (supervisories : List Supervisory)
    (log : List Write) (reads : ℕ) : Prop where
  sent_eq : sent = log
  reads_eq : x.reads = reads
  joined : Joined modulus x y
  ssn_eq : ssn = written.length % modulus
  rsn_eq : rsn = x.received % modulus
  encoded : ∀ write ∈ sent ++ writeQueue, write.apdu.Fits
  written_eq : written = ((items x.log).map Prod.snd).take written.length
  writing : ∀ entry write, writeLoop = .writing entry write →
    ∃ p, write.apdu.item = some p ∧ entry.data = some p.2 ∧
      (write ∈ writeQueue ∨ (items x.log)[written.length]? = some p)
  reader : ∀ write, readLoop.write = some write → write.apdu.item = none
  tester : ∀ write, testLoop.write = some write → write.apdu.item = none
  supervisory : ∀ task ∈ supervisories, ∀ write, task.write = some write → write.apdu.item = none
  delivered : ∃ rest, rest.length ≤ 1 ∧ payloads (y.log.take x.reads) = delivered ++ rest ∧
    (readLoop ≠ .finished → rest = readLoop.putData)
  benign : ∀ e ∈ errors, e ∉ sequenceErrors

def Half (s : Conn) (y : End Bytes) (log : List Write) (reads : ℕ) : Prop :=
  HalfOn s.toEnd y s.ssn s.rsn s.sent s.writeQueue s.written s.delivered s.errors s.readLoop
    s.writeLoop s.testLoop s.supervisories log reads

variable {cfg : Config} {k : ℕ} {s s' : Conn} {y : End Bytes} {log : List Write} {reads : ℕ}

/-- Two ends that are joined when the other one moves. -/
theorem Half.peer (h : s.Half y log reads) {y' : End Bytes} (hjoined : Joined modulus s.toEnd y')
    (more : List (Stamped Bytes)) (hlog : y'.log = y.log ++ more) : s.Half y' log reads := by
  obtain ⟨rest, hlength, hrest, hput⟩ := h.delivered
  refine { h with joined := hjoined, delivered := ⟨rest, hlength, ?_, hput⟩ }
  rw [hlog, List.take_append_of_le_length h.joined.2.reads_le]
  exact hrest

/-! ### The ends of tasks -/

theorem Half.logError (h : s.Half y log reads) {e : Exn} (he : e ∉ sequenceErrors) :
    (s.logError e).Half y log reads :=
  { h with
    benign := by
      intro e' he'
      rcases List.mem_append.mp he' with he' | he'
      · exact h.benign e' he'
      · rw [List.mem_singleton.mp he']
        exact he }

theorem Half.setReadLoop (h : s.Half y log reads) {readLoop : ReadLoop}
    (hwrite : ∀ write, readLoop.write = some write → write.apdu.item = none)
    (hput : readLoop ≠ .finished → s.readLoop ≠ .finished ∧ readLoop.putData = s.readLoop.putData) :
    Half { s with readLoop := readLoop } y log reads := by
  obtain ⟨rest, hlength, hrest, hrestput⟩ := h.delivered
  refine { h with reader := hwrite, delivered := ⟨rest, hlength, hrest, fun hne => ?_⟩ }
  obtain ⟨hne', hput⟩ := hput hne
  rw [hput]
  exact hrestput hne'

theorem Half.endReadLoop (h : s.Half y log reads) {e : Exn} (he : e ∉ sequenceErrors) :
    (s.endReadLoop e).Half y log reads :=
  (h.logError he).setReadLoop (fun _ hwrite => by cases hwrite) fun hne => absurd rfl hne

theorem Half.endWriteLoop (h : s.Half y log reads) (entry : Option SendQueueEntry) {e : Exn}
    (he : e ∉ sequenceErrors) : (s.endWriteLoop entry e).Half y log reads :=
  { h.logError he with
    joined := h.joined.pending
    writing := fun _ _ hwriting => by cases hwriting }

/-- The write loop goes on without a write. -/
theorem Half.setWriteLoop (h : s.Half y log reads) {writeLoop : WriteLoop}
    (hpending : writeLoop.pending = s.writeLoop.pending)
    (hwriting : ∀ entry write, writeLoop ≠ .writing entry write) :
    Half { s with writeLoop := writeLoop } y log reads :=
  { h with
    joined := by
      have hend : ({ s with writeLoop := writeLoop } : Conn).toEnd = s.toEnd := by
        simp only [toEnd, hpending]
      rw [hend]
      exact h.joined
    writing := fun entry write hloop => absurd hloop (hwriting entry write) }

/-! ### Writes -/

/-- A write of a task that is not the write loop. -/
theorem Half.enqueue (h : s.Half y log reads) {apdu : Apdu} (hfits : apdu.Fits)
    (hitem : apdu.item = none) (hack : ∀ n, apdu.ack = some n → n = s.received % modulus) :
    (s.enqueue (s.newWrite apdu)).Half y log reads := by
  have hwrites : s.toEnd.Writes modulus (s.newWrite apdu).stamped :=
    ⟨rfl, rfl, hack, fun p hp => by simp [Write.stamped, newWrite, hitem] at hp⟩
  have hend : (s.enqueue (s.newWrite apdu)).toEnd =
      s.toEnd.write (s.newWrite apdu).stamped := by
    simp [toEnd, End.write, Conn.enqueue, Write.stamped, newWrite, hitem]
  refine { h with joined := ?_, encoded := ?_, writing := ?_ }
  · rw [hend]
    exact h.joined.write hwrites
  · intro write hwrite
    rw [Conn.enqueue, ← List.append_assoc] at hwrite
    rcases List.mem_append.mp hwrite with hwrite | hwrite
    · exact h.encoded write hwrite
    · rw [List.mem_singleton.mp hwrite]
      exact hfits
  · intro entry write hwriting
    obtain ⟨p, hp, hdata, hplace⟩ := h.writing entry write hwriting
    exact ⟨p, hp, hdata, hplace.imp_left (List.mem_append_left _)⟩

/-- A write that is refused. -/
theorem write_error {apdu : Apdu} {e : Exn} (h : s.write apdu = .error e) :
    e ∉ sequenceErrors := by
  unfold Conn.write at h
  split at h
  · rename_i e' hencode
    cases h
    exact encode_error hencode
  · split at h
    · cases h
      simp [sequenceErrors]
    · cases h

theorem Half.readLoopWrite (h : s.Half y log reads) (hr : s.readLoop ≠ .finished)
    (hput : s.readLoop.putData = []) {apdu : Apdu} (hitem : apdu.item = none)
    (hack : ∀ n, apdu.ack = some n → n = s.received % modulus) {next : Write → ReadLoop}
    (hnext : ∀ write, (next write).write = some write) :
    (s.readLoopWrite apdu next).Half y log reads := by
  unfold Conn.readLoopWrite
  split
  · rename_i e hwrite
    exact h.endReadLoop (write_error hwrite)
  · rename_i s₁ write hwrite
    obtain ⟨rfl, rfl, -, hfits⟩ := write_eq_ok hwrite
    apply (h.enqueue hfits hitem hack).setReadLoop
    · intro write' hwrite'
      rw [hnext] at hwrite'
      obtain rfl := Option.some.inj hwrite'
      exact hitem
    · intro _
      refine ⟨hr, ?_⟩
      have hnone := hnext (s.newWrite apdu)
      show _ = s.readLoop.putData
      rw [hput]
      cases hloop : next (s.newWrite apdu) with
      | putting data => simp [hloop, ReadLoop.write] at hnone
      | _ => rfl

/-- A write that is not an I-frame is dropped. -/
theorem Half.dropWrite (h : s.Half y log reads) {write : Write} (hitem : write.apdu.item = none) :
    (s.dropWrite write).Half y log reads := by
  have hitems : items ((s.writeQueue.erase write).map Write.stamped) =
      items (s.writeQueue.map Write.stamped) := by
    by_cases hmem : write ∈ s.writeQueue
    · obtain ⟨before, after, -, hqueue, herase⟩ := List.exists_erase_eq hmem
      rw [herase, hqueue]
      simp [items, Write.stamped, hitem]
    · rw [List.erase_of_not_mem hmem]
  have hsublist := List.erase_sublist (a := write) (l := s.writeQueue)
  refine { h with joined := ?_, encoded := ?_, writing := ?_ }
  · exact h.joined.drop (hsublist.map _) (.inl hitems)
  · intro w hw
    exact h.encoded w (((List.Sublist.refl _).append hsublist).subset hw)
  · intro entry w hwriting
    obtain ⟨p, hp, hdata, hplace⟩ := h.writing entry w hwriting
    refine ⟨p, hp, hdata, hplace.imp_left fun hmem => ?_⟩
    have hne : w ≠ write := by
      rintro rfl
      simp [hitem] at hp
    exact (List.mem_erase_of_ne hne).mpr hmem

/-- The write of an I-frame is dropped, as the write loop ends. -/
theorem Half.dropItem (h : s.Half y log reads) (hloop : s.writeLoop.pending = true) (write : Write)
    (entry : Option SendQueueEntry) :
    ((s.dropWrite write).endWriteLoop entry .connectionError).Half y log reads := by
  have hsublist := List.erase_sublist (a := write) (l := s.writeQueue)
  have hend := h.endWriteLoop entry (e := .connectionError) (by simp [sequenceErrors])
  exact { hend with
    joined := (h.joined.drop (hsublist.map _) (.inr hloop)).pending
    encoded := fun w hw => h.encoded w (((List.Sublist.refl _).append hsublist).subset hw)
    writing := fun _ _ hwriting => by cases hwriting }

/-- An APDU is written out. -/
theorem Half.flush (h : s.Half y log reads) {write : Write} {queue : List Write}
    (hqueue : s.writeQueue = write :: queue) :
    Half { s with writeQueue := queue, sent := s.sent ++ [write] } y (log ++ [write]) reads := by
  have hflush : s.toEnd.queue = write.stamped :: queue.map Write.stamped := by
    show s.writeQueue.map _ = _
    rw [hqueue, List.map_cons]
  have hend : Conn.toEnd { s with writeQueue := queue, sent := s.sent ++ [write] } =
      s.toEnd.flush write.stamped (queue.map Write.stamped) := by
    simp [toEnd, End.flush]
  have hlog : items (s.toEnd.flush write.stamped (queue.map Write.stamped)).log =
      items s.toEnd.log ++ write.apdu.item.toList := by
    show items (s.toEnd.log ++ [write.stamped]) = _
    rw [items_append, items_singleton]
    rfl
  have hwritten : s.written.length ≤ ((items s.toEnd.log).map Prod.snd).length := by
    rw [List.length_map]
    exact h.joined.1.completed_le
  refine { h with sent_eq := ?_, joined := ?_, encoded := ?_, written_eq := ?_, writing := ?_ }
  · exact congrArg (· ++ [write]) h.sent_eq
  · rw [hend]
    exact h.joined.flush hflush
  · intro w hw
    apply h.encoded w
    rw [hqueue]
    simpa [List.append_assoc] using hw
  · rw [hend, hlog, List.map_append, List.take_append_of_le_length hwritten]
    exact h.written_eq
  · intro entry w hwriting
    obtain ⟨p, hp, hdata, hplace⟩ := h.writing entry w hwriting
    refine ⟨p, hp, hdata, ?_⟩
    rw [hend, hlog]
    rcases hplace with hmem | hget
    · rw [hqueue] at hmem
      rcases List.mem_cons.mp hmem with rfl | hmem
      · -- the frame of the write loop is the only one that was not on the stream
        right
        have hle := h.joined.1.le_completed
        have hge := h.joined.1.completed_le
        have hitems : (items s.toEnd.frames).length = (items s.toEnd.log).length +
            (1 + (items (queue.map Write.stamped)).length) := by
          rw [OneWay.frames_eq_append, List.length_append, hflush]
          simp [items, Write.stamped, hp, Nat.add_comm]
        have heq : (items s.toEnd.log).length = s.written.length := by
          have hcompleted : s.toEnd.completed = s.written.length := rfl
          omega
        rw [← heq, hp]
        simp
      · exact .inl hmem
    · right
      have hlt := (List.getElem?_eq_some_iff.mp hget).1
      rw [List.getElem?_append_left hlt]
      exact hget

/-! ### Steps of the read loop -/

theorem Half.countReceived (h : s.Half y log reads) (hr : s.readLoop ≠ .finished)
    (hput : s.readLoop.putData = []) : (s.countReceived cfg).Half y log reads := by
  have hw : Half { s with w := s.w + 1 } y log reads := h
  unfold Conn.countReceived
  dsimp only
  split
  · apply hw.readLoopWrite hr hput rfl
    · intro n hn
      obtain rfl := Option.some.inj hn
      exact h.rsn_eq
    · exact fun _ => rfl
  · apply hw.setReadLoop
    · exact fun _ hwrite => by cases hwrite
    · exact fun _ => ⟨hr, hput.symm⟩

/-- **The next frame is read.**  Its payload is put in the receive queue, or the read loop waits
to put it there. -/
theorem HalfOn.read {x : End Bytes} {ssn rsn : ℕ} {sent writeQueue : List Write}
    {written delivered : List Bytes} {errors : List Exn} {writeLoop : WriteLoop}
    {testLoop : TestLoop} {supervisories : List Supervisory}
    (h : HalfOn x y ssn rsn sent writeQueue written delivered errors .reading writeLoop testLoop
      supervisories log reads)
    (delivered' : List Bytes) (readLoop : ReadLoop) {f : Stamped Bytes}
    (hf : y.log[x.reads]? = some f) (hprompt : x.Prompt f) (hwrite : readLoop.write = none)
    (hput : delivered' ++ readLoop.putData = delivered ++ payloads [f]) :
    HalfOn (x.read f) y ssn ((x.received + f.item.toList.length) % modulus) sent writeQueue written
      delivered' errors readLoop writeLoop testLoop supervisories log (reads + 1) := by
  obtain ⟨rest, -, hrest, hnil⟩ := h.delivered
  have hrest : payloads (y.log.take x.reads) = delivered := by
    rw [hrest, hnil (fun hne => by cases hne)]
    exact List.append_nil _
  have htake : y.log.take (x.reads + 1) = y.log.take x.reads ++ [f] := by
    obtain ⟨hlt, hget⟩ := List.getElem?_eq_some_iff.mp hf
    rw [List.take_succ_eq_append_getElem hlt, hget]
  refine { h with
    reads_eq := congrArg (· + 1) h.reads_eq
    joined := h.joined.read hf hprompt
    rsn_eq := rfl
    reader := ?_
    delivered := ⟨readLoop.putData, ?_, ?_, fun _ => rfl⟩ }
  · intro write hsome
    rw [hwrite] at hsome
    cases hsome
  · cases readLoop <;> exact Nat.le_of_ble_eq_true rfl
  · show payloads (y.log.take (x.reads + 1)) = _
    rw [htake, payloads_append, hrest, hput]

theorem startSupervisoryTimeout_eq (s : Conn) :
    ∃ handle, s.startSupervisoryTimeout = { s with supervisoryHandle := handle } := by
  unfold startSupervisoryTimeout
  split
  · exact ⟨_, rfl⟩
  · exact ⟨s.supervisoryHandle, rfl⟩

theorem Half.notifyAll (h : s.Half y log reads) : s.notifyAll.Half y log reads := by
  have hloop : s.notifyAll.writeLoop.pending = s.writeLoop.pending ∧
      ∀ entry write, s.notifyAll.writeLoop = .writing entry write →
        s.writeLoop = .writing entry write := by
    unfold Conn.notifyAll
    cases s.writeLoop <;> simp [WriteLoop.pending]
  exact { h with
    joined := by
      have hend : s.notifyAll.toEnd = s.toEnd := by
        simp only [toEnd, hloop.1]
        rfl
      rw [hend]
      exact h.joined
    writing := fun entry write hwriting => h.writing entry write (hloop.2 entry write hwriting) }

/-- After an APDU whose acknowledgement covers the first `covered` frames. -/
def accept (s : Conn) (handles : List (ℕ × ℕ)) (cancelled : List ℕ) (ack covered : ℕ) : Conn :=
  notifyAll { s with
    reads := s.reads + 1, waitingAckHandles := handles, cancelled := cancelled, covered := covered,
    ack := ack }

section Accept

variable {write : Write} {ack : ℕ} (hack : write.apdu.ack = some ack)
variable (hf : y.log[s.reads]? = some write.stamped) (hprompt : s.toEnd.Prompt write.stamped)
include hack hf hprompt

/-- The next acknowledgement is not refused. -/
theorem Half.setAck (h : s.Half y log reads) (hn : s.Numbered k) (hk : k < modulus)
    (hr : s.readLoop = .reading) : ∃ handles cancelled,
      ({ s with reads := s.reads + 1 } : Conn).setAck ack =
        (s.accept handles cancelled ack write.received, true) := by
  obtain ⟨hle, hsome⟩ := h.joined.1.next_ack hf hprompt
  obtain ⟨hmod, hcompleted⟩ := hsome ack hack
  have hcovered : s.covered ≤ write.received := hle
  have hwritten : write.received ≤ s.written.length := hcompleted
  have hne : ({ s with reads := s.reads + 1 } : Conn).readLoop ≠ .finished := by
    show s.readLoop ≠ .finished
    simp [hr]
  have hnum : ({ s with reads := s.reads + 1 } : Conn).Numbered k := hn
  have hdistance : cyclicDistance modulus s.ack ack = write.received - s.covered := by
    have hwindow := hn.le_window
    rw [hn.ack_eq hne, hmod]
    exact cyclicDistance_mod hcovered (by show write.received < s.covered + modulus; omega)
  have hlt : ack < modulus := hmod ▸ Nat.mod_lt _ (by decide)
  have hmin : write.received =
      min s.written.length (s.covered + (write.received - s.covered)) := by
    omega
  have hfits : s.covered + (write.received - s.covered) ≤ s.written.length := by omega
  rw [setAck_eq hnum hne hlt hdistance.symm hmin, if_pos hfits]
  exact ⟨_, _, rfl⟩

/-- What the frame leaves, wherever the read loop goes on. -/
theorem Half.accept (h : s.Half y log reads) (hr : s.readLoop = .reading)
    (handles : List (ℕ × ℕ)) (cancelled : List ℕ) {rsn received : ℕ} (delivered : List Bytes)
    {readLoop : ReadLoop} (hreceived : received = s.received + write.apdu.item.toList.length)
    (hrsn : rsn = received % modulus) (hwrite : readLoop.write = none)
    (hput : delivered ++ readLoop.putData = s.delivered ++ payloads [write.stamped])
    (queue : List Bytes) (handle : Timer) :
    Half { s.accept handles cancelled ack write.received with
      rsn := rsn, received := received, supervisoryHandle := handle, receiveQueue := queue,
      delivered := delivered, readLoop := readLoop } y log (reads + 1) := by
  have hbefore : HalfOn s.toEnd y s.ssn s.rsn s.sent s.writeQueue s.written s.delivered s.errors
      .reading s.writeLoop s.testLoop s.supervisories log reads := by
    rw [← hr]
    exact h
  have hafter := hbefore.read delivered readLoop hf hprompt hwrite hput
  have hend : s.toEnd.read write.stamped = toEnd { s with
      reads := s.reads + 1, covered := write.received, received := received } := by
    simp only [End.read, Write.stamped, hack, hreceived]
    rfl
  have hrsn' : (s.toEnd.received + write.stamped.item.toList.length) % modulus = rsn := by
    rw [hrsn, hreceived]
    rfl
  rw [hend, hrsn'] at hafter
  have hhalf : Half { s with
      reads := s.reads + 1, waitingAckHandles := handles, cancelled := cancelled,
      covered := write.received, ack := ack, rsn := rsn, received := received,
      supervisoryHandle := handle, receiveQueue := queue, delivered := delivered,
      readLoop := readLoop } y log (reads + 1) := hafter
  exact hhalf.notifyAll

end Accept

/-- An acknowledgement of a frame whose write did not return is refused. -/
theorem Half.refused (cfg : Config) (h : s.Half y log reads) (hn : s.Numbered k)
    (hk : k + 1 < modulus) (hr : s.readLoop = .reading) {write : Write}
    (hf : y.log[s.reads]? = some write.stamped)
    (hprompt : ¬ s.toEnd.Prompt write.stamped) :
    .exception "received ack for unsent sequence number" ∈
      (s.processRead cfg (.ok write.apdu)).errors := by
  obtain ⟨hsome, hlate⟩ := Classical.not_imp.mp hprompt
  obtain ⟨ack, hack⟩ := Option.isSome_iff_exists.mp hsome
  obtain ⟨-, hreceived, hmod⟩ :=
    h.joined.1.acks _ (List.mem_append_left _ (List.mem_of_getElem? hf))
  -- it is the one frame that is on its way
  have hnext : write.received = s.written.length + 1 := by
    have hle := h.joined.1.le_completed
    have hframes := congrArg List.length (OneWay.frames_eq_append s.toEnd)
    rw [List.length_append] at hframes
    have hall : (items (s.toEnd.log.take write.reads)).length ≤ (items s.toEnd.log).length :=
      ((List.take_sublist ..).filterMap _).length_le
    have hcompleted : s.toEnd.completed = s.written.length := rfl
    have hstamped : write.stamped.received = write.received := rfl
    have hreads : write.stamped.reads = write.reads := rfl
    rw [hreads] at hreceived hlate
    omega
  have hne : ({ s with reads := s.reads + 1 } : Conn).readLoop ≠ .finished := by
    show s.readLoop ≠ .finished
    simp [hr]
  have hnum : ({ s with reads := s.reads + 1 } : Conn).Numbered k := hn
  have hwindow := hn.le_window
  have hcovered := hn.covered_le
  have hdistance : cyclicDistance modulus s.ack ack = s.written.length + 1 - s.covered := by
    have hmod : ack = write.received % modulus := hmod ack hack
    rw [hn.ack_eq hne, hmod, hnext]
    exact cyclicDistance_mod (by omega) (by omega)
  have hlt : ack < modulus := hmod ack hack ▸ Nat.mod_lt _ (by decide)
  have hlong : ¬ s.covered + (s.written.length + 1 - s.covered) ≤ s.written.length := by omega
  have hsetAck := setAck_eq hnum hne hlt hdistance.symm rfl
  rw [if_neg hlong] at hsetAck
  unfold Conn.processRead
  cases hwrite : write.apdu with
  | APDUI ssn rsn data =>
    obtain rfl : rsn = ack := by
      rw [Write.stamped, hwrite] at hack
      exact Option.some.inj hack
    simp only [Conn.processApdui, hsetAck]
    exact List.mem_append_right _ (List.mem_singleton_self _)
  | APDUS rsn =>
    obtain rfl : rsn = ack := by
      rw [Write.stamped, hwrite] at hack
      exact Option.some.inj hack
    simp only [Conn.processApdus, hsetAck]
    exact List.mem_append_right _ (List.mem_singleton_self _)
  | APDUU function =>
    rw [Write.stamped, hwrite] at hack
    cases hack

theorem Half.processApdui (h : s.Half y log reads) (hn : s.Numbered k) (hk : k < modulus)
    (hr : s.readLoop = .reading) {ssn rsn : ℕ} {data : Bytes} {write : Write}
    (hwrite : write.apdu = .APDUI ssn rsn data) (hf : y.log[s.reads]? = some write.stamped)
    (hprompt : s.toEnd.Prompt write.stamped) :
    (processApdui cfg { s with reads := s.reads + 1 } ssn rsn data).Half y log (reads + 1) := by
  have hitem : write.apdu.item = some (ssn, data) := by
    rw [hwrite]
    rfl
  have hack : write.apdu.ack = some rsn := by
    rw [hwrite]
    rfl
  obtain ⟨handles, cancelled, hsetAck⟩ := h.setAck hack hf hprompt hn hk hr
  have hssn : ssn = s.rsn := by
    rw [h.rsn_eq]
    exact h.joined.2.next_item hf hitem
  have hreceived : s.received + 1 = s.received + write.apdu.item.toList.length := by
    rw [hitem]
    rfl
  have hrsn : (s.rsn + 1) % modulus = (s.received + 1) % modulus := by
    rw [h.rsn_eq]
    exact Nat.mod_add_mod ..
  have hpayload : payloads [write.stamped] = if data = [] then [] else [data] := by
    rw [payloads, items_singleton, Write.stamped, hitem]
    by_cases hdata : data = []
    · simp [hdata]
    · simp [hdata]
  -- the frame is counted in whatever was put before
  have hcount : ∀ {delivered : List Bytes}, delivered = s.delivered ++ payloads [write.stamped] →
      ∀ queue handle, Half (Conn.countReceived cfg
        { s.accept handles cancelled rsn write.received with
          rsn := (s.rsn + 1) % modulus, received := s.received + 1, supervisoryHandle := handle,
          receiveQueue := queue, delivered := delivered }) y log (reads + 1) := by
    intro delivered hput queue handle
    have hnil : s.readLoop.putData = [] := by
      rw [hr]
      rfl
    have hhalf := h.accept hack hf hprompt hr handles cancelled delivered hreceived hrsn
      (show s.readLoop.write = none by rw [hr]; rfl) (by rw [hnil, hput, List.append_nil]) queue
      handle
    apply hhalf.countReceived
    · show s.readLoop ≠ .finished
      simp [hr]
    · exact hnil
  unfold Conn.processApdui
  rw [hsetAck]
  simp only [Bool.not_true, Bool.false_eq_true, if_false]
  rw [if_neg (by exact not_not.mpr hssn)]
  obtain ⟨handle, hhandle⟩ := startSupervisoryTimeout_eq
    { s.accept handles cancelled rsn write.received with
      rsn := (s.rsn + 1) % modulus, received := s.received + 1 }
  rw [show (s.accept handles cancelled rsn write.received).rsn = s.rsn from rfl,
    show (s.accept handles cancelled rsn write.received).received = s.received from rfl, hhandle]
  split
  · rename_i hdata
    have hput : s.delivered = s.delivered ++ payloads [write.stamped] := by
      rw [hpayload, if_pos hdata, List.append_nil]
    exact hcount hput s.receiveQueue handle
  rename_i hdata
  have hput : s.delivered ++ [data] = s.delivered ++ payloads [write.stamped] := by
    rw [hpayload, if_neg hdata]
  split
  · exact h.accept hack hf hprompt hr handles cancelled _ hreceived hrsn rfl hput s.receiveQueue
      handle
  · exact hcount hput _ handle

theorem Half.processApdus (h : s.Half y log reads) (hn : s.Numbered k) (hk : k < modulus)
    (hr : s.readLoop = .reading) {rsn : ℕ} {write : Write} (hwrite : write.apdu = .APDUS rsn)
    (hf : y.log[s.reads]? = some write.stamped) (hprompt : s.toEnd.Prompt write.stamped) :
    (processApdus { s with reads := s.reads + 1 } rsn).Half y log (reads + 1) := by
  have hitem : write.apdu.item = none := by
    rw [hwrite]
    rfl
  have hack : write.apdu.ack = some rsn := by
    rw [hwrite]
    rfl
  obtain ⟨handles, cancelled, hsetAck⟩ := h.setAck hack hf hprompt hn hk hr
  have hreceived : s.received = s.received + write.apdu.item.toList.length := by
    rw [hitem]
    rfl
  have hput : s.delivered ++ s.readLoop.putData = s.delivered ++ payloads [write.stamped] := by
    rw [payloads, items_singleton, Write.stamped, hitem, hr]
    rfl
  unfold Conn.processApdus
  rw [hsetAck]
  exact h.accept hack hf hprompt hr handles cancelled s.delivered hreceived h.rsn_eq
    (show s.readLoop.write = none by rw [hr]; rfl) hput s.receiveQueue s.supervisoryHandle

theorem Half.processApduu (h : s.Half y log reads) (hr : s.readLoop = .reading)
    (function : ApduFunction) : (s.processApduu cfg function).Half y log reads := by
  have hne : s.readLoop ≠ .finished := by simp [hr]
  have hnil : s.readLoop.putData = [] := by
    rw [hr]
    rfl
  cases function with
  | STARTDT_ACT =>
    have henable : Half { s with isEnabled := true } y log reads := h
    exact henable.readLoopWrite hne hnil rfl (fun _ hack => by cases hack) fun _ => rfl
  | STOPDT_ACT =>
    rw [Conn.processApduu]
    split
    · exact h
    · apply h.readLoopWrite hne hnil rfl
      · intro n hack
        obtain rfl := Option.some.inj hack
        exact h.rsn_eq
      · exact fun _ => rfl
  | TESTFR_ACT => exact h.readLoopWrite hne hnil rfl (fun _ hack => by cases hack) fun _ => rfl
  | TESTFR_CON => exact h
  | STARTDT_CON | STOPDT_CON => exact h

/-- **The next frame of the other end is read**, whatever it is. -/
theorem Half.read (cfg : Config) (h : s.Half y log reads) (hn : s.Numbered k) (hk : k < modulus)
    (hr : s.readLoop = .reading) {write : Write} (hf : y.log[s.reads]? = some write.stamped)
    (hprompt : s.toEnd.Prompt write.stamped) :
    (s.processRead cfg (.ok write.apdu)).Half y log (reads + 1) := by
  unfold Conn.processRead
  cases hwrite : write.apdu with
  | APDUI ssn rsn data => exact h.processApdui hn hk hr hwrite hf hprompt
  | APDUS rsn => exact h.processApdus hn hk hr hwrite hf hprompt
  | APDUU function =>
    have hbefore : HalfOn s.toEnd y s.ssn s.rsn s.sent s.writeQueue s.written s.delivered s.errors
        .reading s.writeLoop s.testLoop s.supervisories log reads := by
      rw [← hr]
      exact h
    have hitem : write.apdu.item = none := by
      rw [hwrite]
      rfl
    have hafter := hbefore.read s.delivered .reading hf hprompt rfl
      (by rw [payloads, items_singleton, Write.stamped, hitem]; rfl)
    have hend : s.toEnd.read write.stamped = toEnd { s with reads := s.reads + 1 } := by
      simp only [End.read, Write.stamped, hwrite]
      rfl
    rw [hend, Write.stamped, hitem] at hafter
    have hhalf : Half { s with reads := s.reads + 1 } y log (reads + 1) := by
      show HalfOn _ _ _ s.rsn _ _ _ _ _ s.readLoop _ _ _ _ _
      rw [hr, h.rsn_eq]
      exact hafter
    exact hhalf.processApduu hr function

/-- The payload that was received last is put in the receive queue. -/
theorem Half.putReceived (h : s.Half y log reads) {data : Bytes} (hr : s.readLoop = .putting data) :
    Half { s.putReceived data with readLoop := .reading } y log reads := by
  obtain ⟨rest, hlength, hrest, hput⟩ := h.delivered
  have hdata : rest = [data] := by
    rw [hput (by simp [hr]), hr]
    rfl
  refine { h with reader := ?_, delivered := ⟨[], Nat.zero_le _, ?_, fun _ => rfl⟩ }
  · exact fun _ hwrite => by cases hwrite
  · rw [List.append_nil]
    exact hrest.trans (congrArg (s.delivered ++ ·) hdata)

/-- `countReceived` does not depend on where the read loop is. -/
theorem countReceived_readLoop (cfg : Config) (s : Conn) (readLoop : ReadLoop) :
    ({ s with readLoop := readLoop } : Conn).countReceived cfg = s.countReceived cfg := by
  unfold Conn.countReceived Conn.readLoopWrite Conn.write
  dsimp only
  split
  · cases encode (.APDUS s.rsn) with
    | error e => rfl
    | ok frame =>
      dsimp only
      by_cases hclosed : (s.closing || s.lost) = true
      · simp only [hclosed, if_true]
        rfl
      · simp only [hclosed]
        rfl
  · rfl

theorem Half.resumeReadLoop (h : s.Half y log reads) (hs : s.resumeReadLoop cfg = some s') :
    s'.Half y log reads := by
  have hwrite : ∀ {write : Write} {isEnabled : Bool}, s.readLoop ≠ .finished →
      s.readLoop.putData = [] →
      (Conn.Half { s.acknowledge write with isEnabled := isEnabled, readLoop := .reading }
        y log reads) := by
    intro write isEnabled hne hnil
    have hack : Half { s.acknowledge write with isEnabled := isEnabled } y log reads := h
    exact hack.setReadLoop (fun _ hwrite => by cases hwrite) fun _ => ⟨hne, hnil.symm⟩
  unfold Conn.resumeReadLoop at hs
  split at hs
  · rename_i data hr
    split at hs
    · cases hs
    · obtain rfl := Option.some.inj hs
      rw [← countReceived_readLoop cfg _ .reading]
      apply (h.putReceived hr).countReceived
      · exact fun hne => by cases hne
      · rfl
  · rename_i write hr
    split at hs
    · cases hs
    · obtain rfl := Option.some.inj hs
      exact hwrite (by simp [hr]) (by rw [hr]; rfl)
  · rename_i write hr
    split at hs
    · cases hs
    · obtain rfl := Option.some.inj hs
      have hack : Half { s.acknowledge write with isEnabled := false } y log reads := h
      apply hack.readLoopWrite
      · show s.readLoop ≠ .finished
        simp [hr]
      · show s.readLoop.putData = []
        rw [hr]
        rfl
      · rfl
      · exact fun _ hack => by cases hack
      · exact fun _ => rfl
  · rename_i write hr
    split at hs
    · cases hs
    · obtain rfl := Option.some.inj hs
      have hresume : (s.resumeWrite write).Half y log reads := h
      apply hresume.setReadLoop
      · exact fun _ hwrite => by cases hwrite
      · intro _
        show s.readLoop ≠ .finished ∧ _ = s.readLoop.putData
        simp [hr, ReadLoop.putData]
  · cases hs
  · cases hs

/-! ### Steps of the write loop -/

/-- Wherever the write loop was, it now gets the next entry or ends. -/
theorem Half.finishEntry (h : Half { s with writeLoop := .getting } y log reads)
    (entry : SendQueueEntry) (handle : Option ℕ) :
    (s.finishEntry entry handle).Half y log reads := by
  unfold Conn.finishEntry
  split
  · exact h
  split
  · split
    · exact h
    split
    · exact h.endWriteLoop entry (by simp [sequenceErrors])
    · exact h
  · exact h

/-- An I-frame is written. -/
theorem Half.writeApdui (h : s.Half y log reads) (hpending : s.writeLoop.pending = false)
    {entry : SendQueueEntry} {data : Bytes} (hdata : entry.data = some data) :
    (s.writeApdui entry data).Half y log reads := by
  unfold Conn.writeApdui
  split
  · have hsettle : (s.settle entry.future.toList .disabled).Half y log reads := h
    apply hsettle.setWriteLoop
    · exact hpending.symm
    · exact fun _ _ hloop => by cases hloop
  · split
    · rename_i e hwrite
      exact h.endWriteLoop _ (write_error hwrite)
    · rename_i s₁ write hwrite
      obtain ⟨rfl, rfl, -, hfits⟩ := write_eq_ok hwrite
      have hwrites : s.toEnd.Writes modulus (s.newWrite (.APDUI s.ssn s.rsn data)).stamped := by
        refine ⟨rfl, rfl, fun n hn => ?_, fun p hp => ?_⟩
        · obtain rfl := Option.some.inj hn
          exact h.rsn_eq
        · obtain rfl := Option.some.inj hp
          exact ⟨hpending, h.ssn_eq⟩
      have hend : toEnd { s.enqueue (s.newWrite (.APDUI s.ssn s.rsn data)) with
          writeLoop := .writing entry (s.newWrite (.APDUI s.ssn s.rsn data)) } =
          s.toEnd.write (s.newWrite (.APDUI s.ssn s.rsn data)).stamped := by
        simp only [toEnd, End.write, Conn.enqueue, List.map_append, hpending]
        rfl
      refine { h with joined := ?_, encoded := ?_, writing := ?_ }
      · rw [hend]
        exact h.joined.write hwrites
      · intro write hmem
        rw [Conn.enqueue, ← List.append_assoc] at hmem
        rcases List.mem_append.mp hmem with hmem | hmem
        · exact h.encoded write hmem
        · rw [List.mem_singleton.mp hmem]
          exact hfits
      · intro entry' write hloop
        obtain ⟨rfl, rfl⟩ := WriteLoop.writing.inj hloop
        exact ⟨(s.ssn, data), rfl, hdata,
          .inl (List.mem_append_right _ (List.mem_singleton_self _))⟩

theorem Half.waitWindow (h : s.Half y log reads) (hpending : s.writeLoop.pending = false)
    {entry : SendQueueEntry} {data : Bytes} (hdata : entry.data = some data) :
    (s.waitWindow cfg entry data).Half y log reads := by
  unfold Conn.waitWindow
  split
  · exact h.writeApdui hpending hdata
  · apply h.setWriteLoop
    · exact hpending.symm
    · exact fun _ _ hloop => by cases hloop

/-- The next sequence number is free. -/
theorem Half.serveEntry (h : s.Half y log reads) (hn : s.Numbered k) (hk : k < modulus)
    (hpending : s.writeLoop.pending = false) (entry : SendQueueEntry) :
    (s.serveEntry cfg entry).Half y log reads := by
  have hfree : s.waitingAckHandles.lookup s.ssn = none := by
    have hwindow := hn.le_window
    rw [hn.handles_eq, hn.ssn_eq]
    exact lookup_window_end hn.covered_le (by omega)
  unfold Conn.serveEntry
  split
  · apply h.setWriteLoop
    · exact hpending.symm
    · exact fun _ _ hloop => by cases hloop
  · rename_i data hdata
    rw [if_neg (by rw [hfree]; exact Bool.false_ne_true)]
    exact h.waitWindow hpending hdata

/-- The write of an I-frame returns. -/
theorem Half.registerHandle (h : s.Half y log reads) {entry : SendQueueEntry} {write : Write}
    (hloop : s.writeLoop = .writing entry write) (hout : write ∉ s.writeQueue) {data : Bytes}
    (hdata : entry.data = some data) :
    Half { s.registerHandle data write with writeLoop := .getting } y log reads := by
  obtain ⟨p, -, hp, hplace⟩ := h.writing entry write hloop
  obtain rfl : data = p.2 := Option.some.inj (hdata.symm.trans hp)
  have hget : (items s.toEnd.log)[s.written.length]? = some p := hplace.resolve_left hout
  obtain ⟨hlt, hgetElem⟩ := List.getElem?_eq_some_iff.mp hget
  have hlog : (items s.toEnd.log).length = s.toEnd.completed + 1 := by
    have hle := h.joined.1.le_completed
    have hframes := congrArg List.length (OneWay.frames_eq_append s.toEnd)
    rw [List.length_append] at hframes
    have hcompleted : s.toEnd.completed = s.written.length := rfl
    omega
  have hend : toEnd { s.registerHandle p.2 write with writeLoop := .getting } =
      s.toEnd.complete := by
    simp only [toEnd, End.complete, Conn.registerHandle, List.length_append, List.length_singleton]
    rfl
  refine { h with joined := ?_, ssn_eq := ?_, written_eq := ?_, writing := ?_ }
  · rw [hend]
    exact h.joined.complete hlog
  · show (s.ssn + 1) % modulus = (s.written ++ [p.2]).length % modulus
    rw [h.ssn_eq, Nat.mod_add_mod, List.length_append]
    rfl
  · show s.written ++ [p.2] = ((items s.toEnd.log).map Prod.snd).take (s.written ++ [p.2]).length
    rw [List.length_append, List.length_singleton, List.take_succ_eq_append_getElem
      (by rw [List.length_map]; exact hlt), ← h.written_eq, List.getElem_map, hgetElem]
  · exact fun _ _ hloop => by cases hloop

theorem Half.resumeWriteLoop (h : s.Half y log reads) (hn : s.Numbered k) (hk : k < modulus)
    (hs : s.resumeWriteLoop cfg = some s') : s'.Half y log reads := by
  unfold Conn.resumeWriteLoop at hs
  split at hs
  · rename_i hloop
    split at hs
    · cases hs
    · rename_i entry sendQueue _
      obtain rfl := Option.some.inj hs
      have hget : Half { s with sendQueue := sendQueue } y log reads := h
      have hnum : Numbered k { s with sendQueue := sendQueue } := hn
      exact hget.serveEntry hnum hk (by rw [hloop]; rfl) entry
  · rename_i entry hloop
    obtain rfl := Option.some.inj hs
    have hget : Half { s with writeLoop := .getting } y log reads := by
      apply h.setWriteLoop
      · rw [hloop]
        rfl
      · exact fun _ _ hwriting => by cases hwriting
    have hmark : Half { s.setMark entry.future with writeLoop := .getting } y log reads := hget
    exact hmark.finishEntry _ _
  · rename_i entry notified hloop
    split at hs
    · obtain ⟨data, hdata, rfl⟩ := Option.map_eq_some_iff.mp hs
      exact h.waitWindow (by rw [hloop]; rfl) hdata
    · cases hs
  · rename_i entry write hloop
    split at hs
    · cases hs
    · rename_i hout
      obtain ⟨data, hdata, rfl⟩ := Option.map_eq_some_iff.mp hs
      have hmark : Half { (s.registerHandle data write).setMark entry.future with
          writeLoop := .getting } y log reads := h.registerHandle hloop hout hdata
      exact hmark.finishEntry _ _
  · cases hs

/-! ### Other steps -/

theorem Half.resumeTestLoop (h : s.Half y log reads) (hs : s.resumeTestLoop = some s') :
    s'.Half y log reads := by
  unfold Conn.resumeTestLoop at hs
  split at hs
  · split at hs
    · obtain rfl := Option.some.inj hs
      exact { h with tester := fun _ hwrite => by cases hwrite }
    · rename_i s₁ write hwrite
      obtain ⟨rfl, rfl, -, hfits⟩ := write_eq_ok hwrite
      obtain rfl := Option.some.inj hs
      have hevent : Half { s with testEvent := false } y log reads := h
      have hqueued := hevent.enqueue hfits rfl fun _ hack => by cases hack
      refine { hqueued with tester := fun write hsome => ?_ }
      obtain rfl := Option.some.inj hsome
      rfl
  · split at hs
    · cases hs
    · obtain rfl := Option.some.inj hs
      exact { h with tester := fun _ hwrite => by cases hwrite }
  · split at hs
    · obtain rfl := Option.some.inj hs
      exact { h with tester := fun _ hwrite => by cases hwrite }
    · cases hs
  · cases hs

theorem Half.resumeSupervisory (h : s.Half y log reads) {i : ℕ}
    (hs : s.resumeSupervisory i = some s') : s'.Half y log reads := by
  have herase : ∀ task ∈ s.supervisories.eraseIdx i, ∀ write, task.write = some write →
      write.apdu.item = none := fun task hmem => h.supervisory task (List.mem_of_mem_eraseIdx hmem)
  unfold Conn.resumeSupervisory at hs
  split at hs
  · split at hs
    · obtain rfl := Option.some.inj hs
      exact { h with supervisory := herase }
    · rename_i s₁ write hwrite
      obtain ⟨rfl, rfl, -, hfits⟩ := write_eq_ok hwrite
      obtain rfl := Option.some.inj hs
      have hqueued := h.enqueue hfits rfl fun n hack => by
        obtain rfl := Option.some.inj hack
        exact h.rsn_eq
      refine { hqueued with supervisory := fun task hmem write hsome => ?_ }
      rcases List.mem_or_eq_of_mem_set hmem with hmem | rfl
      · exact h.supervisory task hmem write hsome
      · obtain rfl := Option.some.inj hsome
        rfl
  · split at hs
    · cases hs
    · obtain rfl := Option.some.inj hs
      exact { h with supervisory := herase }
  · cases hs

theorem Half.resumeWaitAck (h : s.Half y log reads) {i : ℕ} (hs : s.resumeWaitAck i = some s') :
    s'.Half y log reads := by
  unfold Conn.resumeWaitAck at hs
  split at hs
  · split at hs
    · cases hs
    split at hs
    · obtain rfl := Option.some.inj hs
      exact h
    · obtain rfl := Option.some.inj hs
      exact h
  · cases hs

theorem Half.failReadLoop (h : s.Half y log reads) (hs : s.failReadLoop = some s') :
    s'.Half y log reads := by
  have hlost : Exn.connectionError ∉ sequenceErrors := by simp [sequenceErrors]
  have hdrop : ∀ write, s.readLoop.write = some write →
      ((s.dropWrite write).endReadLoop .connectionError).Half y log reads :=
    fun write hwrite => (h.dropWrite (h.reader write hwrite)).endReadLoop hlost
  unfold Conn.failReadLoop at hs
  split at hs
  · split at hs
    · obtain rfl := Option.some.inj hs
      exact h.endReadLoop hlost
    · cases hs
  · split at hs
    · obtain rfl := Option.some.inj hs
      exact h.endReadLoop hlost
    · cases hs
  · rename_i write hr
    split at hs
    · obtain rfl := Option.some.inj hs
      exact hdrop write (by rw [hr]; rfl)
    · cases hs
  · rename_i write hr
    split at hs
    · obtain rfl := Option.some.inj hs
      exact hdrop write (by rw [hr]; rfl)
    · cases hs
  · rename_i write hr
    split at hs
    · obtain rfl := Option.some.inj hs
      exact hdrop write (by rw [hr]; rfl)
    · cases hs
  · cases hs

theorem Half.failWriteLoop (h : s.Half y log reads) (hs : s.failWriteLoop = some s') :
    s'.Half y log reads := by
  have hlost : Exn.connectionError ∉ sequenceErrors := by simp [sequenceErrors]
  unfold Conn.failWriteLoop at hs
  split at hs
  · split at hs
    · obtain rfl := Option.some.inj hs
      exact h.endWriteLoop _ hlost
    · cases hs
  · split at hs
    · obtain rfl := Option.some.inj hs
      exact h.endWriteLoop _ hlost
    · cases hs
  · split at hs
    · obtain rfl := Option.some.inj hs
      exact h.endWriteLoop _ hlost
    · cases hs
  · rename_i entry write hloop
    split at hs
    · obtain rfl := Option.some.inj hs
      exact h.dropItem (by rw [hloop]; rfl) write _
    · cases hs
  · cases hs

theorem Half.fail (h : s.Half y log reads) {task : Task} (hs : s.step cfg (.fail task) = some s') :
    s'.Half y log reads := by
  cases task with
  | readLoop => exact h.failReadLoop hs
  | writeLoop => exact h.failWriteLoop hs
  | testLoop =>
    simp only [step, failTestLoop] at hs
    split at hs
    · split at hs
      · obtain rfl := Option.some.inj hs
        exact { h with tester := fun _ hwrite => by cases hwrite }
      · cases hs
    · rename_i write hloop
      split at hs
      · obtain rfl := Option.some.inj hs
        have hdrop := h.dropWrite (h.tester write (by rw [hloop]; rfl))
        exact { hdrop with tester := fun _ hwrite => by cases hwrite }
      · cases hs
    · obtain rfl := Option.some.inj hs
      exact { h with tester := fun _ hwrite => by cases hwrite }
    · cases hs
  | supervisory i =>
    simp only [step, failSupervisory] at hs
    split at hs
    · rename_i write hget
      split at hs
      · obtain rfl := Option.some.inj hs
        have hmem := List.mem_of_getElem? hget
        have hdrop := h.dropWrite (h.supervisory _ hmem write rfl)
        exact { hdrop with
          supervisory := fun task hmem => h.supervisory task (List.mem_of_mem_eraseIdx hmem) }
      · cases hs
    · cases hs
  | waitAck i =>
    simp only [step, failWaitAck] at hs
    split at hs
    · split at hs
      · obtain rfl := Option.some.inj hs
        exact h
      · cases hs
    · cases hs

theorem Half.put (h : s.Half y log reads) {i : ℕ} (hs : s.put cfg i = some s') :
    s'.Half y log reads := by
  unfold Conn.put at hs
  split at hs
  · split at hs
    · cases hs
    split at hs
    · obtain rfl := Option.some.inj hs
      exact h
    split at hs
    · cases hs
    · obtain rfl := Option.some.inj hs
      exact h
  · cases hs

theorem Half.cancelCall (h : s.Half y log reads) {i : ℕ} (hs : s.cancelCall i = some s') :
    s'.Half y log reads := by
  unfold Conn.cancelCall at hs
  split at hs
  · split at hs
    · obtain rfl := Option.some.inj hs
      exact h
    · cases hs
  · cases hs

/-- **Every step but one that writes or reads a frame** keeps what joins the ends. -/
theorem Half.step (h : s.Half y log reads) (hn : s.Numbered k) (hk : k < modulus) {e : Event}
    (he : e.Inner) (hs : s.step cfg e = some s') : s'.Half y log reads := by
  cases e with
  | call data waitAck =>
    obtain rfl := Option.some.inj hs
    exact h
  | put i => exact h.put hs
  | cancelCall i => exact h.cancelCall hs
  | receive =>
    simp only [Conn.step] at hs
    split at hs
    · cases hs
    · obtain rfl := Option.some.inj hs
      exact h
  | close | connectionLost =>
    obtain rfl := Option.some.inj hs
    exact h
  | responseTimeout handle =>
    simp only [Conn.step] at hs
    split at hs
    · obtain rfl := Option.some.inj hs
      exact h
    · cases hs
  | supervisoryTimeout =>
    simp only [Conn.step] at hs
    split at hs
    · obtain rfl := Option.some.inj hs
      refine { h with supervisory := fun task hmem write hsome => ?_ }
      rcases List.mem_append.mp hmem with hmem | hmem
      · exact h.supervisory task hmem write hsome
      · split at hmem
        · cases hmem
        · rw [List.mem_singleton.mp hmem] at hsome
          cases hsome
    · cases hs
  | flush => cases he
  | read result =>
    obtain rfl : result = .error .connectionError := he
    simp only [Conn.step] at hs
    split at hs
    · obtain rfl := Option.some.inj hs
      exact h.endReadLoop (by simp [sequenceErrors])
    · cases hs
  | resume task =>
    cases task with
    | readLoop => exact h.resumeReadLoop hs
    | writeLoop => exact h.resumeWriteLoop hn hk hs
    | testLoop => exact h.resumeTestLoop hs
    | supervisory i => exact h.resumeSupervisory hs
    | waitAck i => exact h.resumeWaitAck hs
  | fail task => exact h.fail hs

end Conn

end HatDrivers.Iec60870.Apci
