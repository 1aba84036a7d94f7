import HatDrivers.Iec60870.Apci.Window

namespace HatDrivers.Iec60870.Apci

open HatDrivers.Lib

/-!
# APCI — confirmed calls

A call of `send` or `drain` that waits for an acknowledgement returns once its frame, or every
frame written before it, is acknowledged.  The write loop cancels the handles that are left when it
ends, so that a `_wait_ack` task that then goes on takes its frame for acknowledged: confirmed
calls return only after their acknowledgement if and only if no such task goes on
(`Conn.confirmed_iff`).
-/

/-- The entry that the write loop serves. -/
def WriteLoop.entry : WriteLoop → Option SendQueueEntry
  | .draining entry | .waiting entry _ | .writing entry _ => some entry
  | .getting | .finished => none

def WriteLoop.drained : WriteLoop → List SendQueueEntry
  | .draining entry => [entry]
  | _ => []

def WriteLoop.hasEnded : WriteLoop → Bool
  | .finished => true
  | _ => false

/-- The confirmed call `i` was served when `mark` frames had been written, the last one of which has
its data. -/
def Served (calls : List Call) (written : List Bytes) (i mark : ℕ) : Prop :=
  ∃ call, calls[i]? = some call ∧ call.waitAck = true ∧ call.mark = some mark ∧
    mark ≤ written.length ∧ ∀ data, call.data = some data →
      0 < mark ∧ written[mark - 1]? = some data

/-- Calls, the entries that were not served, and the tasks of those that were. -/
structure ConfirmedOn (calls : List Call) (entries drained : List SendQueueEntry) (finished : Bool)
    (waitAcks : List WaitAck) (written : List Bytes) (covered : ℕ) (cancelled : List ℕ) :
    Prop where
  returned : ∀ i call, calls[i]? = some call → call.waitAck = true → call.state = .returned →
    ∃ mark, mark ≤ covered ∧ Served calls written i mark
  waits : ∀ task ∈ waitAcks, Served calls written task.future (task.handle + 1)
  queued : ∀ entry ∈ entries, ∀ i, entry.future = some i → ∃ call, calls[i]? = some call ∧
    call.data = entry.data ∧ call.waitAck = entry.waitAck ∧ call.mark = none
  nodup : (entries.filterMap (·.future)).Nodup
  putting : ∀ i call, calls[i]? = some call → call.state = .putting →
    call.mark = none ∧ i ∉ entries.filterMap (·.future)
  acked : finished = false → ∀ handle ∈ cancelled, handle < covered
  drained : ∀ entry ∈ drained, entry.data = none
  ended : finished = true → ∀ task ∈ waitAcks, task.handle < covered ∨ task.handle ∈ cancelled

section Calls

variable {calls calls' : List Call} {entries drained : List SendQueueEntry} {finished : Bool}
variable {waitAcks : List WaitAck} {written : List Bytes} {covered : ℕ} {cancelled : List ℕ}

/-- Calls that differ in their states. -/
def SameCalls (state : ℕ → Call → CallState) (calls calls' : List Call) : Prop :=
  ∀ i, calls'[i]? = calls[i]?.map fun call : Call => { call with state := state i call }

theorem Served.states {state : ℕ → Call → CallState} (h : SameCalls state calls calls') {i mark : ℕ}
    (hserved : Served calls written i mark) : Served calls' written i mark := by
  obtain ⟨call, hget, hrest⟩ := hserved
  refine ⟨{ call with state := state i call }, ?_, hrest⟩
  rw [h, hget]
  rfl

theorem Served.append (data : Bytes) {i mark : ℕ} (hserved : Served calls written i mark) :
    Served calls (written ++ [data]) i mark := by
  obtain ⟨call, hget, hwait, hmark, hle, hdata⟩ := hserved
  refine ⟨call, hget, hwait, hmark, ?_, fun data' hdata' => ?_⟩
  · rw [List.length_append]
    exact Nat.le_add_right_of_le hle
  · obtain ⟨hpos, hlast⟩ := hdata data' hdata'
    refine ⟨hpos, ?_⟩
    rw [List.getElem?_append_left (by omega)]
    exact hlast

/-- Only a call that was served and acknowledged may return. -/
theorem ConfirmedOn.states
    (h : ConfirmedOn calls entries drained finished waitAcks written covered cancelled)
    {state : ℕ → Call → CallState} (hcalls : SameCalls state calls calls')
    (hputting : ∀ i call, calls[i]? = some call → state i call = .putting → call.state = .putting)
    (hreturned : ∀ i call, calls[i]? = some call → call.waitAck = true →
      state i call = .returned → call.state = .returned ∨
        ∃ mark, mark ≤ covered ∧ Served calls written i mark) :
    ConfirmedOn calls' entries drained finished waitAcks written covered cancelled := by
  have hget : ∀ {i : ℕ} {call' : Call}, calls'[i]? = some call' → ∃ call, calls[i]? = some call ∧
      call' = ({ call with state := state i call } : Call) := by
    intro i call' hcall'
    rw [hcalls] at hcall'
    obtain ⟨call, hcall, rfl⟩ := Option.map_eq_some_iff.mp hcall'
    exact ⟨call, hcall, rfl⟩
  refine { h with returned := ?_, waits := ?_, queued := ?_, putting := ?_ }
  · intro i call' hcall' hwait hstate
    obtain ⟨call, hcall, rfl⟩ := hget hcall'
    rcases hreturned i call hcall hwait hstate with hbefore | hserved
    · obtain ⟨mark, hle, hserved⟩ := h.returned i call hcall hwait hbefore
      exact ⟨mark, hle, hserved.states hcalls⟩
    · obtain ⟨mark, hle, hserved⟩ := hserved
      exact ⟨mark, hle, hserved.states hcalls⟩
  · exact fun task hmem => (h.waits task hmem).states hcalls
  · intro entry hmem i hfuture
    obtain ⟨call, hcall, hrest⟩ := h.queued entry hmem i hfuture
    refine ⟨{ call with state := state i call }, ?_, hrest⟩
    rw [hcalls, hcall]
    rfl
  · intro i call' hcall' hstate
    obtain ⟨call, hcall, rfl⟩ := hget hcall'
    exact h.putting i call hcall (hputting i call hcall hstate)

/-- More frames are acknowledged. -/
theorem ConfirmedOn.cover
    (h : ConfirmedOn calls entries drained finished waitAcks written covered cancelled)
    {covered' : ℕ} (hle : covered ≤ covered') {popped : List ℕ}
    (hpopped : ∀ handle ∈ popped, handle < covered') :
    ConfirmedOn calls entries drained finished waitAcks written covered' (cancelled ++ popped) := by
  refine { h with returned := ?_, acked := ?_, ended := ?_ }
  · intro i call hcall hwait hstate
    obtain ⟨mark, hmark, hserved⟩ := h.returned i call hcall hwait hstate
    exact ⟨mark, hmark.trans hle, hserved⟩
  · intro hopen handle hmem
    rcases List.mem_append.mp hmem with hmem | hmem
    · exact (h.acked hopen handle hmem).trans_le hle
    · exact hpopped handle hmem
  · intro hfinished task hmem
    rcases h.ended hfinished task hmem with hlt | hmem
    · exact .inl (hlt.trans_le hle)
    · exact .inr (List.mem_append_left _ hmem)

/-- The tasks are the same ones, or fewer. -/
theorem ConfirmedOn.tasks
    (h : ConfirmedOn calls entries drained finished waitAcks written covered cancelled)
    {waitAcks' : List WaitAck}
    (htasks : ∀ task' ∈ waitAcks', ∃ task ∈ waitAcks,
      task'.handle = task.handle ∧ task'.future = task.future) :
    ConfirmedOn calls entries drained finished waitAcks' written covered cancelled := by
  refine { h with waits := ?_, ended := ?_ }
  · intro task' hmem
    obtain ⟨task, hmem, hhandle, hfuture⟩ := htasks task' hmem
    rw [hhandle, hfuture]
    exact h.waits task hmem
  · intro hfinished task' hmem
    obtain ⟨task, hmem, hhandle, -⟩ := htasks task' hmem
    rw [hhandle]
    exact h.ended hfinished task hmem

/-- Entries are dropped. -/
theorem ConfirmedOn.drop
    (h : ConfirmedOn calls entries drained finished waitAcks written covered cancelled)
    {entries' : List SendQueueEntry} (hsub : entries'.Sublist entries) :
    ConfirmedOn calls entries' drained finished waitAcks written covered cancelled := by
  have hfutures := hsub.filterMap (·.future)
  refine { h with queued := ?_, nodup := h.nodup.sublist hfutures, putting := ?_ }
  · exact fun entry hmem => h.queued entry (hsub.subset hmem)
  · intro i call hcall hstate
    obtain ⟨hmark, hfree⟩ := h.putting i call hcall hstate
    exact ⟨hmark, fun hmem => hfree (hfutures.subset hmem)⟩

end Calls

namespace Conn

variable {cfg : Config} {k : ℕ} {s s' : Conn}

def Confirmed (s : Conn) : Prop :=
  ConfirmedOn s.calls (s.writeLoop.entry.toList ++ s.sendQueue) s.writeLoop.drained
    s.writeLoop.hasEnded s.waitAcks s.written s.covered s.cancelled

theorem confirmed_init (isEnabled : Bool) : (init isEnabled).Confirmed where
  returned _ _ hcall := by cases hcall
  waits _ hmem := by cases hmem
  queued _ hmem := by cases hmem
  nodup := List.nodup_nil
  putting _ _ hcall := by cases hcall
  acked _ _ hmem := by cases hmem
  drained _ hmem := by cases hmem
  ended hended := by cases hended

/-! ### Calls -/

theorem sameCalls_settle (s : Conn) (futures : List ℕ) (state : CallState) :
    SameCalls (fun i call => if i ∈ futures ∧ call.state = .waiting then state else call.state)
      s.calls (s.settle futures state).calls := by
  intro i
  rw [settle, List.getElem?_mapIdx]
  cases s.calls[i]? with
  | none => rfl
  | some call =>
    simp only [Option.map_some]
    split <;> rfl

theorem sameCalls_setCall (s : Conn) (i : ℕ) (state : CallState) :
    SameCalls (fun j call => if i = j then state else call.state) s.calls
      (s.setCall i state).calls := by
  intro j
  rw [setCall, List.getElem?_modify]
  cases s.calls[j]? with
  | none => rfl
  | some call =>
    simp only [Option.map_some]
    split <;> rfl

/-- Futures that are not done get a result. -/
theorem settle_confirmedOn {entries drained : List SendQueueEntry} {finished : Bool}
    (h : ConfirmedOn s.calls entries drained finished s.waitAcks s.written s.covered s.cancelled)
    (futures : List ℕ) (state : CallState)
    (hputting : state ≠ .putting)
    (hreturned : state = .returned → ∀ i ∈ futures, ∀ call, s.calls[i]? = some call →
      call.state = .waiting → call.waitAck = true →
        ∃ mark, mark ≤ s.covered ∧ Served s.calls s.written i mark) :
    ConfirmedOn (s.settle futures state).calls entries drained finished s.waitAcks s.written
      s.covered s.cancelled := by
  apply h.states (sameCalls_settle s futures state)
  · intro i call _ hstate
    split at hstate
    · exact absurd hstate hputting
    · exact hstate
  · intro i call hcall hwait hstate
    split at hstate
    · rename_i hfuture
      exact .inr (hreturned hstate i hfuture.1 call hcall hfuture.2 hwait)
    · exact .inl hstate

theorem Confirmed.setCall (h : s.Confirmed) {i : ℕ} {call : Call} (state : CallState)
    (hcall : s.calls[i]? = some call) (hputting : state ≠ .putting)
    (hreturned : state = .returned → call.waitAck = false) : (s.setCall i state).Confirmed := by
  apply h.states (sameCalls_setCall s i state)
  · intro j call' _ hstate
    split at hstate
    · exact absurd hstate hputting
    · exact hstate
  · intro j call' hcall' hwait hstate
    split at hstate
    · rename_i hj
      subst hj
      obtain rfl := Option.some.inj (hcall.symm.trans hcall')
      rw [hreturned hstate] at hwait
      cases hwait
    · exact .inl hstate

theorem Confirmed.call (h : s.Confirmed) (data : Option Bytes) (waitAck : Bool) :
    Confirmed { s with calls := s.calls ++ [⟨data, waitAck, .putting, none⟩] } := by
  have hold : ∀ {i : ℕ} {call : Call}, s.calls[i]? = some call →
      (s.calls ++ [⟨data, waitAck, .putting, none⟩])[i]? = some call := by
    intro i call hcall
    rw [List.getElem?_append_left (List.getElem?_eq_some_iff.mp hcall).1]
    exact hcall
  have hserved : ∀ {i mark : ℕ}, Served s.calls s.written i mark →
      Served (s.calls ++ [⟨data, waitAck, .putting, none⟩]) s.written i mark := by
    rintro i mark ⟨call, hcall, hrest⟩
    exact ⟨call, hold hcall, hrest⟩
  have hnew : ∀ {i : ℕ} {call : Call},
      (s.calls ++ [⟨data, waitAck, .putting, none⟩])[i]? = some call →
      s.calls[i]? = some call ∨ i = s.calls.length ∧ call = ⟨data, waitAck, .putting, none⟩ := by
    intro i call hcall
    rcases Nat.lt_or_ge i s.calls.length with hlt | hge
    · rw [List.getElem?_append_left hlt] at hcall
      exact .inl hcall
    · rw [List.getElem?_append_right hge, List.getElem?_singleton] at hcall
      split at hcall
      · exact .inr ⟨by omega, (Option.some.inj hcall).symm⟩
      · cases hcall
  refine { h with returned := ?_, waits := ?_, queued := ?_, putting := ?_ }
  · intro i call hcall hwait hstate
    rcases hnew hcall with hcall | ⟨-, rfl⟩
    · obtain ⟨mark, hle, hmark⟩ := h.returned i call hcall hwait hstate
      exact ⟨mark, hle, hserved hmark⟩
    · cases hstate
  · exact fun task hmem => hserved (h.waits task hmem)
  · intro entry hmem i hfuture
    obtain ⟨call, hcall, hrest⟩ := h.queued entry hmem i hfuture
    exact ⟨call, hold hcall, hrest⟩
  · intro i call hcall hstate
    rcases hnew hcall with hcall | ⟨rfl, rfl⟩
    · exact h.putting i call hcall hstate
    · refine ⟨rfl, fun hmem => ?_⟩
      obtain ⟨entry, hentry, hfuture⟩ := List.mem_filterMap.mp hmem
      obtain ⟨call, hcall, -⟩ := h.queued entry hentry _ hfuture
      exact absurd (List.getElem?_eq_some_iff.mp hcall).1 (Nat.lt_irrefl _)

/-- An entry is put in the send queue. -/
theorem Confirmed.put (h : s.Confirmed) {i : ℕ} (hs : s.put cfg i = some s') : s'.Confirmed := by
  unfold Conn.put at hs
  split at hs
  · rename_i call hcall
    split at hs
    · cases hs
    rename_i hstate
    have hstate : call.state = .putting := not_not.mp hstate
    obtain ⟨hmark, hfree⟩ := h.putting i call hcall hstate
    split at hs
    · obtain rfl := Option.some.inj hs
      exact h.setCall _ hcall (by simp) (by simp)
    split at hs
    · cases hs
    obtain rfl := Option.some.inj hs
    dsimp only
    split
    · rename_i hfuture
      have hset := h.setCall .waiting hcall (by simp) (by simp)
      have hentry : (s.setCall i .waiting).calls[i]? = some { call with state := .waiting } := by
        rw [sameCalls_setCall, hcall]
        simp
      refine { hset with queued := ?_, nodup := ?_, putting := ?_ }
      · intro entry hmem j hj
        rw [← List.append_assoc] at hmem
        rcases List.mem_append.mp hmem with hmem | hmem
        · exact hset.queued entry hmem j hj
        · obtain rfl := List.mem_singleton.mp hmem
          obtain rfl := Option.some.inj hj
          exact ⟨_, hentry, rfl, rfl, hmark⟩
      · rw [← List.append_assoc, List.filterMap_append, List.nodup_append]
        refine ⟨h.nodup, by simp, fun j hj j' hj' => ?_⟩
        rw [List.mem_singleton.mp hj']
        rintro rfl
        exact hfree hj
      · intro j call' hcall' hstate'
        obtain ⟨hmark', hfree'⟩ := hset.putting j call' hcall' hstate'
        refine ⟨hmark', fun hmem => ?_⟩
        rw [← List.append_assoc, List.filterMap_append] at hmem
        rcases List.mem_append.mp hmem with hmem | hmem
        · exact hfree' hmem
        · rw [List.mem_singleton.mp hmem, hentry] at hcall'
          obtain rfl := Option.some.inj hcall'
          cases hstate'
    · rename_i hfuture
      have hwait : call.waitAck = false := by
        rw [Bool.not_eq_true, Call.hasFuture, Bool.or_eq_false_iff] at hfuture
        exact hfuture.2
      have hset := h.setCall .returned hcall (by simp) fun _ => hwait
      refine { hset with queued := ?_, nodup := ?_, putting := ?_ }
      · intro entry hmem j hj
        rw [← List.append_assoc] at hmem
        rcases List.mem_append.mp hmem with hmem | hmem
        · exact hset.queued entry hmem j hj
        · rw [List.mem_singleton.mp hmem] at hj
          cases hj
      · rw [← List.append_assoc, List.filterMap_append]
        exact (List.append_nil _).symm ▸ h.nodup
      · intro j call' hcall' hstate'
        obtain ⟨hmark', hfree'⟩ := hset.putting j call' hcall' hstate'
        refine ⟨hmark', fun hmem => hfree' ?_⟩
        rw [← List.append_assoc, List.filterMap_append] at hmem
        exact (List.mem_append.mp hmem).resolve_right fun hnil => by cases hnil
  · cases hs

theorem Confirmed.cancelCall (h : s.Confirmed) {i : ℕ} (hs : s.cancelCall i = some s') :
    s'.Confirmed := by
  unfold Conn.cancelCall at hs
  split at hs
  · rename_i call hcall
    split at hs
    · obtain rfl := Option.some.inj hs
      exact h.setCall _ hcall (by simp) (by simp)
    · cases hs
  · cases hs

/-! ### Read loop -/

theorem Confirmed.readLoopWrite (h : s.Confirmed) (apdu : Apdu) (next : Write → ReadLoop) :
    (s.readLoopWrite apdu next).Confirmed := by
  unfold Conn.readLoopWrite
  split
  · exact h
  · rename_i s₁ write hwrite
    obtain ⟨-, rfl, -⟩ := write_eq_ok hwrite
    exact h

theorem Confirmed.countReceived (h : s.Confirmed) : (s.countReceived cfg).Confirmed := by
  have hw : Confirmed { s with w := s.w + 1 } := h
  unfold Conn.countReceived
  dsimp only
  split
  · exact hw.readLoopWrite _ _
  · exact h

theorem Confirmed.startSupervisoryTimeout (h : s.Confirmed) :
    s.startSupervisoryTimeout.Confirmed := by
  unfold Conn.startSupervisoryTimeout
  split <;> exact h

theorem Confirmed.notifyAll (h : s.Confirmed) : s.notifyAll.Confirmed := by
  have hloop : s.notifyAll.writeLoop.entry = s.writeLoop.entry ∧
      s.notifyAll.writeLoop.drained = s.writeLoop.drained ∧
      s.notifyAll.writeLoop.hasEnded = s.writeLoop.hasEnded := by
    unfold Conn.notifyAll
    cases s.writeLoop <;> exact ⟨rfl, rfl, rfl⟩
  have htasks : ∀ task' ∈ s.notifyAll.waitAcks, ∃ task ∈ s.waitAcks,
      task'.handle = task.handle ∧ task'.future = task.future := by
    intro task' hmem
    obtain ⟨task, htask, rfl⟩ := List.mem_map.mp hmem
    refine ⟨task, htask, ?_⟩
    split <;> exact ⟨rfl, rfl⟩
  have hconfirmed := h.tasks htasks
  rw [← hloop.1, ← hloop.2.1, ← hloop.2.2] at hconfirmed
  exact hconfirmed

/-- What is acknowledged is covered, whether the acknowledgement is refused or not. -/
theorem Confirmed.setAck (h : s.Confirmed) (hn : s.Numbered k) (hr : s.readLoop ≠ .finished)
    {ack : ℕ} (hack : ack < modulus) : (s.setAck ack).1.Confirmed := by
  have hle : s.covered ≤ min s.written.length (s.covered + cyclicDistance modulus s.ack ack) :=
    Nat.le_min.mpr ⟨hn.covered_le, Nat.le_add_right _ _⟩
  rw [setAck_eq hn hr hack rfl rfl]
  generalize min s.written.length (s.covered + cyclicDistance modulus s.ack ack) = covered at hle ⊢
  have hpopped : ∀ handle ∈ List.range' s.covered (covered - s.covered), handle < covered := by
    intro handle hmem
    have hrange := (List.mem_range'_1.mp hmem).2
    omega
  have hcover := h.cover hle hpopped
  split
  · exact Confirmed.notifyAll (s := { s with
      waitingAckHandles := window modulus covered s.written.length
      cancelled := s.cancelled ++ List.range' s.covered (covered - s.covered)
      covered := covered, ack := ack }) hcover
  · exact hcover

theorem Confirmed.processApdui (h : s.Confirmed) (hn : s.Numbered k) (hr : s.readLoop = .reading)
    {ssn rsn : ℕ} (hrsn : rsn < modulus) (data : Bytes) :
    (s.processApdui cfg ssn rsn data).Confirmed := by
  have hack := h.setAck hn (by simp [hr]) hrsn
  unfold Conn.processApdui
  generalize s.setAck rsn = result at hack ⊢
  obtain ⟨t, ok⟩ := result
  dsimp only at hack ⊢
  split
  · exact hack
  split
  · exact hack
  have hreceive : Confirmed { t with rsn := (t.rsn + 1) % modulus, received := t.received + 1 } :=
    hack
  have hstart := hreceive.startSupervisoryTimeout
  split
  · exact hstart.countReceived
  split
  · exact hstart
  · exact Confirmed.countReceived (s := Conn.putReceived _ data) hstart

theorem Confirmed.processApduu (h : s.Confirmed) (function : ApduFunction) :
    (s.processApduu cfg function).Confirmed := by
  cases function with
  | STARTDT_ACT =>
    have henable : Confirmed { s with isEnabled := true } := h
    exact henable.readLoopWrite _ _
  | STOPDT_ACT =>
    rw [Conn.processApduu]
    split
    · exact h
    · exact h.readLoopWrite _ _
  | TESTFR_ACT => exact h.readLoopWrite _ _
  | TESTFR_CON => exact h
  | STARTDT_CON | STOPDT_CON => exact h

theorem Confirmed.processApdus (h : s.Confirmed) (hn : s.Numbered k) (hr : s.readLoop = .reading)
    {rsn : ℕ} (hrsn : rsn < modulus) : (s.processApdus rsn).Confirmed := by
  have hack := h.setAck hn (by simp [hr]) hrsn
  unfold Conn.processApdus
  generalize s.setAck rsn = result at hack ⊢
  obtain ⟨t, ok⟩ := result
  dsimp only at hack ⊢
  split
  · exact hack
  · exact hack

theorem Confirmed.processRead (h : s.Confirmed) (hn : s.Numbered k) (hr : s.readLoop = .reading)
    {result : Except Exn Apdu} (hresult : Read result) : (s.processRead cfg result).Confirmed := by
  cases result with
  | error e => exact h
  | ok apdu =>
    have hread : Confirmed { s with reads := s.reads + 1 } := h
    have hnum : Numbered k { s with reads := s.reads + 1 } := hn
    cases apdu with
    | APDUI ssn rsn data => exact hread.processApdui hnum hr hresult.2 data
    | APDUS rsn => exact hread.processApdus hnum hr hresult
    | APDUU function => exact hread.processApduu function

theorem Confirmed.resumeReadLoop (h : s.Confirmed) (hs : s.resumeReadLoop cfg = some s') :
    s'.Confirmed := by
  unfold Conn.resumeReadLoop at hs
  split at hs
  · split at hs
    · cases hs
    · obtain rfl := Option.some.inj hs
      exact Confirmed.countReceived (s := Conn.putReceived s _) h
  · split at hs
    · cases hs
    · obtain rfl := Option.some.inj hs
      exact h
  · rename_i write _
    split at hs
    · cases hs
    · obtain rfl := Option.some.inj hs
      exact Confirmed.readLoopWrite (s := { s.acknowledge write with isEnabled := false }) h _ _
  · split at hs
    · cases hs
    · obtain rfl := Option.some.inj hs
      exact h
  · cases hs
  · cases hs

/-! ### Write loop -/

/-- The write loop serves an entry. -/
def Serves (s : Conn) (entry : SendQueueEntry) : Prop :=
  ConfirmedOn s.calls (entry :: s.sendQueue) [] false s.waitAcks s.written s.covered s.cancelled

/-- The write loop ends, and cancels the handles that are left. -/
theorem endWriteLoop_confirmed {entries drained : List SendQueueEntry} {finished : Bool}
    (h : ConfirmedOn s.calls entries drained finished s.waitAcks s.written s.covered s.cancelled)
    (hhandles : s.waitingAckHandles = window modulus s.covered s.written.length)
    (entry : Option SendQueueEntry) (e : Exn) : (s.endWriteLoop entry e).Confirmed := by
  have hsettle := settle_confirmedOn (s := (s.logError e).stopSupervisoryTimeout) h
    ((entry.toList ++ s.sendQueue).filterMap (·.future)) .failed (by simp) (by simp)
  refine { hsettle.drop (List.nil_sublist _) with acked := ?_, drained := ?_, ended := ?_ }
  · exact fun hopen => by cases hopen
  · exact fun _ hmem => by cases hmem
  · intro _ task hmem
    rcases Nat.lt_or_ge task.handle s.covered with hlt | hge
    · exact .inl hlt
    · right
      obtain ⟨-, -, -, -, hle, -⟩ := h.waits task hmem
      apply List.mem_append_right
      rw [hhandles]
      exact List.mem_map.mpr ⟨(task.handle % modulus, task.handle),
        mem_window.mpr ⟨⟨hge, hle⟩, rfl⟩, rfl⟩

/-- The entry that was served is not served again. -/
theorem Serves.drop {entry : SendQueueEntry} (h : s.Serves entry) :
    Confirmed { s with writeLoop := .getting } :=
  ConfirmedOn.drop h (List.sublist_cons_self _ _)

theorem Serves.writeApdui {entry : SendQueueEntry} (h : s.Serves entry) (hn : s.Numbered k)
    (data : Bytes) : (s.writeApdui entry data).Confirmed := by
  unfold Conn.writeApdui
  split
  · exact ConfirmedOn.drop (settle_confirmedOn h entry.future.toList .disabled (by simp)
      (by simp)) (List.sublist_cons_self _ _)
  · split
    · exact endWriteLoop_confirmed h hn.handles_eq _ _
    · rename_i s₁ write hwrite
      obtain ⟨-, rfl, -⟩ := write_eq_ok hwrite
      exact h

theorem Serves.waitWindow {entry : SendQueueEntry} (h : s.Serves entry) (hn : s.Numbered k)
    (data : Bytes) : (s.waitWindow cfg entry data).Confirmed := by
  unfold Conn.waitWindow
  split
  · exact h.writeApdui hn data
  · exact h

theorem Serves.serveEntry {entry : SendQueueEntry} (h : s.Serves entry) (hn : s.Numbered k) :
    (s.serveEntry cfg entry).Confirmed := by
  unfold Conn.serveEntry
  split
  · rename_i hdata
    refine { h with drained := fun entry' hmem => ?_ }
    rw [List.mem_singleton.mp hmem]
    exact hdata
  · split
    · exact endWriteLoop_confirmed h hn.handles_eq _ _
    · exact h.waitWindow hn _

/-- The call of the entry that is served gets its mark. -/
theorem Serves.setMark {entry : SendQueueEntry} (h : s.Serves entry) :
    ConfirmedOn (s.setMark entry.future).calls s.sendQueue [] false s.waitAcks s.written s.covered
        s.cancelled ∧
      ∀ i, entry.future = some i → ∃ call, (s.setMark entry.future).calls[i]? = some call ∧
        call.data = entry.data ∧ call.waitAck = entry.waitAck ∧
        call.mark = some s.written.length := by
  have hget : ∀ i, (s.setMark entry.future).calls[i]? = s.calls[i]?.map fun call =>
      if some i = entry.future then { call with mark := some s.written.length } else call := by
    intro i
    rw [Conn.setMark, List.getElem?_mapIdx]
  have hother : ∀ {i}, some i ≠ entry.future →
      (s.setMark entry.future).calls[i]? = s.calls[i]? := by
    intro i hne
    rw [hget]
    cases s.calls[i]? with
    | none => rfl
    | some call => simp [hne]
  -- a call that was served is not the one of the entry
  have hfresh : ∀ {i mark}, Served s.calls s.written i mark → some i ≠ entry.future := by
    rintro i mark ⟨call, hcall, -, hmark, -⟩ hfuture
    obtain ⟨call', hcall', -, -, hnone⟩ := h.queued entry (List.mem_cons_self ..) i hfuture.symm
    rw [hcall] at hcall'
    obtain rfl := Option.some.inj hcall'
    rw [hmark] at hnone
    cases hnone
  have hserved : ∀ {i mark}, Served s.calls s.written i mark →
      Served (s.setMark entry.future).calls s.written i mark := by
    intro i mark hi
    have hne := hfresh hi
    obtain ⟨call, hcall, hrest⟩ := hi
    exact ⟨call, (hother hne).trans hcall, hrest⟩
  have hmem : ∀ {i}, entry.future = some i →
      i ∈ (entry :: s.sendQueue).filterMap (·.future) := by
    intro i hfuture
    exact List.mem_filterMap.mpr ⟨entry, List.mem_cons_self .., hfuture⟩
  have hnodup : ∀ {i}, entry.future = some i → i ∉ s.sendQueue.filterMap (·.future) := by
    intro i hfuture
    have hall := h.nodup
    rw [List.filterMap_cons, hfuture] at hall
    exact (List.nodup_cons.mp hall).1
  have hdrop := ConfirmedOn.drop h (List.sublist_cons_self entry s.sendQueue)
  refine ⟨{ hdrop with returned := ?_, waits := ?_, queued := ?_, putting := ?_ }, ?_⟩
  · intro i call hcall hwait hstate
    rw [hget] at hcall
    obtain ⟨call, hbefore, rfl⟩ := Option.map_eq_some_iff.mp hcall
    have hsame : call.waitAck = true ∧ call.state = .returned := by
      split at hwait <;> split at hstate <;> exact ⟨hwait, hstate⟩
    obtain ⟨mark, hle, hmark⟩ := h.returned i call hbefore hsame.1 hsame.2
    exact ⟨mark, hle, hserved hmark⟩
  · exact fun task hmem => hserved (h.waits task hmem)
  · intro entry' hentry i hfuture
    obtain ⟨call, hcall, hrest⟩ := h.queued entry' (List.mem_cons_of_mem _ hentry) i hfuture
    refine ⟨call, ?_, hrest⟩
    rw [hother, hcall]
    intro hsame
    exact hnodup hsame.symm (List.mem_filterMap.mpr ⟨entry', hentry, hfuture⟩)
  · intro i call hcall hstate
    rw [hget] at hcall
    obtain ⟨call, hbefore, rfl⟩ := Option.map_eq_some_iff.mp hcall
    have hputting : call.state = .putting := by
      split at hstate <;> exact hstate
    obtain ⟨hmark, hfree⟩ := h.putting i call hbefore hputting
    have hne : some i ≠ entry.future := fun hfuture => hfree (hmem hfuture.symm)
    rw [if_neg hne]
    exact ⟨hmark, (hdrop.putting i call hbefore hputting).2⟩
  · intro i hfuture
    obtain ⟨call, hcall, hdata, hwait, -⟩ := h.queued entry (List.mem_cons_self ..) i hfuture
    refine ⟨{ call with mark := some s.written.length }, ?_, hdata, hwait, rfl⟩
    rw [hget, hcall]
    simp [hfuture]

/-- An entry was served: its call returns, waits or fails. -/
theorem finishEntry_confirmed {entry : SendQueueEntry} {handle : Option ℕ}
    (h : ConfirmedOn s.calls s.sendQueue [] false s.waitAcks s.written s.covered s.cancelled)
    (hhandles : s.waitingAckHandles = window modulus s.covered s.written.length)
    (hhandle : ∀ i n, entry.future = some i → entry.waitAck = true → handle = some n →
      Served s.calls s.written i (n + 1))
    (hcovered : ∀ i call, entry.future = some i → s.calls[i]? = some call → call.waitAck = true →
      entry.waitAck = true ∧ (handle = none → ∃ mark, mark ≤ s.covered ∧
        Served s.calls s.written i mark)) : (s.finishEntry entry handle).Confirmed := by
  unfold Conn.finishEntry
  split
  · exact h
  rename_i i hfuture
  split
  · rename_i n hwait
    split
    · exact h
    split
    · exact endWriteLoop_confirmed h hhandles _ _
    · refine { h with waits := ?_, ended := ?_ }
      · intro task hmem
        rcases List.mem_append.mp hmem with hmem | hmem
        · exact h.waits task hmem
        · rw [List.mem_singleton.mp hmem]
          exact hhandle i n hfuture hwait rfl
      · exact fun hended => by cases hended
  · rename_i hnone
    apply settle_confirmedOn h [i] .returned (by simp)
    intro _ j hj call hcall _ hwait
    obtain rfl := List.mem_singleton.mp hj
    obtain ⟨hentry, hmark⟩ := hcovered j call hfuture hcall hwait
    apply hmark
    rw [Option.eq_none_iff_forall_ne_some]
    exact fun n hn => hnone n hentry hn

/-- A frame is written, and the task that waits for its acknowledgement is spawned. -/
theorem Serves.finishWrite {entry : SendQueueEntry} (h : s.Serves entry) (hn : s.Numbered k)
    (hw : s.writeLoop.Checked ∧ s.writeLoop.Writing) {data : Bytes}
    (hdata : entry.data = some data) (write : Write) :
    (s.finishWrite entry data write).Confirmed := by
  have hregister : (s.registerHandle data write).Serves entry :=
    { h with
      returned := by
        intro i call hcall hwait hstate
        obtain ⟨mark, hle, hserved⟩ := h.returned i call hcall hwait hstate
        exact ⟨mark, hle, hserved.append data⟩
      waits := fun task hmem => (h.waits task hmem).append data }
  have hnum : Numbered k { s.registerHandle data write with writeLoop := .getting } :=
    hn.registerHandle hw.1 hw.2 data write
  obtain ⟨hmark, hcall⟩ := hregister.setMark
  have hlength : (s.registerHandle data write).written.length = s.written.length + 1 :=
    List.length_append
  apply finishEntry_confirmed hmark hnum.handles_eq
  · intro i n hfuture hwait hn
    obtain rfl := Option.some.inj hn
    obtain ⟨call, hget, hsame, hsameWait, hcallMark⟩ := hcall i hfuture
    refine ⟨call, hget, hsameWait.trans hwait, hcallMark.trans (congrArg some hlength),
      Nat.le_of_eq hlength.symm, ?_⟩
    intro data' hdata'
    rw [hsame, hdata] at hdata'
    obtain rfl := Option.some.inj hdata'
    refine ⟨Nat.succ_pos _, ?_⟩
    show (s.written ++ [data])[s.written.length + 1 - 1]? = _
    rw [Nat.add_sub_cancel, List.getElem?_append_right (Nat.le_refl _), Nat.sub_self]
    rfl
  · intro i call hfuture hget hwait
    obtain ⟨call', hget', -, hsame, -⟩ := hcall i hfuture
    obtain rfl := Option.some.inj (hget.symm.trans hget')
    exact ⟨hsame ▸ hwait, fun hnone => by cases hnone⟩

/-- The handle of the last frame is found while it is not acknowledged. -/
theorem lookup_last (hn : s.Numbered k) :
    s.waitingAckHandles.lookup ((if s.ssn = 0 then modulus else s.ssn) - 1) =
      if s.covered < s.written.length then some (s.written.length - 1) else none := by
  rw [hn.handles_eq]
  by_cases hlt : s.covered < s.written.length
  · rw [if_pos hlt]
    have hlast : (if s.ssn = 0 then modulus else s.ssn) - 1 = (s.written.length - 1) % modulus := by
      have hmodulus : modulus = 0x8000 := rfl
      rw [hn.ssn_eq, hmodulus]
      split
      · omega
      · omega
    rw [hlast]
    exact lookup_window (by omega) (by omega) hn.le_modulus
  · rw [if_neg hlt, window_eq_nil (Nat.le_of_not_lt hlt)]
    rfl

/-- What was written is drained: the call waits for the last frame, if it is not acknowledged. -/
theorem Serves.finishDrain {entry : SendQueueEntry} (h : s.Serves entry) (hn : s.Numbered k)
    (hdata : entry.data = none) : (s.finishDrain entry).Confirmed := by
  obtain ⟨hmark, hcall⟩ := h.setMark
  have hserved : ∀ i, entry.future = some i → entry.waitAck = true →
      Served (s.setMark entry.future).calls s.written i s.written.length := by
    intro i hfuture hwait
    obtain ⟨call, hget, hsame, hsameWait, hcallMark⟩ := hcall i hfuture
    refine ⟨call, hget, hsameWait.trans hwait, hcallMark, Nat.le_refl _, fun data hsome => ?_⟩
    rw [hsame, hdata] at hsome
    cases hsome
  unfold Conn.finishDrain
  dsimp only
  rw [lookup_last hn]
  apply finishEntry_confirmed hmark hn.handles_eq
  · intro i n hfuture hwait hsome
    split at hsome
    · obtain rfl := Option.some.inj hsome
      have hpos : s.written.length - 1 + 1 = s.written.length := by omega
      rw [hpos]
      exact hserved i hfuture hwait
    · cases hsome
  · intro i call hfuture hget hwait
    obtain ⟨call', hget', -, hsame, -⟩ := hcall i hfuture
    obtain rfl := Option.some.inj (hget.symm.trans hget')
    have hwait : entry.waitAck = true := hsame ▸ hwait
    refine ⟨hwait, fun hnone => ⟨s.written.length, ?_, hserved i hfuture hwait⟩⟩
    split at hnone
    · cases hnone
    · rename_i hge
      exact Nat.le_of_not_lt hge

/-- The write loop serves the entry it is at. -/
theorem Confirmed.serves (h : s.Confirmed) {entry : SendQueueEntry}
    (hentry : s.writeLoop.entry = some entry) : s.Serves entry := by
  have hopen : s.writeLoop.hasEnded = false := by
    cases hloop : s.writeLoop with
    | finished =>
      rw [hloop] at hentry
      cases hentry
    | _ => rfl
  unfold Confirmed at h
  rw [hentry, hopen] at h
  exact { h with drained := fun _ hmem => by cases hmem }

theorem Confirmed.resumeWriteLoop (h : s.Confirmed) (hn : s.Numbered k)
    (hs : s.resumeWriteLoop cfg = some s') : s'.Confirmed := by
  unfold Conn.resumeWriteLoop at hs
  split at hs
  · rename_i hloop
    split at hs
    · cases hs
    · rename_i entry sendQueue hqueue
      obtain rfl := Option.some.inj hs
      have hserves : Serves { s with sendQueue := sendQueue } entry := by
        unfold Confirmed at h
        rw [hloop, hqueue] at h
        exact h
      have hnum : Numbered k { s with sendQueue := sendQueue } := hn
      exact hserves.serveEntry hnum
  · rename_i entry hloop
    obtain rfl := Option.some.inj hs
    exact (h.serves (by rw [hloop]; rfl)).finishDrain hn
      (h.drained entry (by rw [hloop]; exact List.mem_singleton_self entry))
  · rename_i entry notified hloop
    split at hs
    · obtain ⟨data, -, rfl⟩ := Option.map_eq_some_iff.mp hs
      exact (h.serves (by rw [hloop]; rfl)).waitWindow hn data
    · cases hs
  · rename_i entry write hloop
    split at hs
    · cases hs
    · obtain ⟨data, hdata, rfl⟩ := Option.map_eq_some_iff.mp hs
      refine (h.serves (by rw [hloop]; rfl)).finishWrite hn ?_ hdata write
      rw [hloop]
      exact ⟨trivial, trivial⟩
  · cases hs

/-! ### Other tasks -/

/-- Does no task take its frame for acknowledged because the write loop ended? -/
def Confirms (s : Conn) : Event → Prop
  | .resume (.waitAck i) => ∀ task ∈ s.waitAcks[i]?, task.wake ≠ .waiting →
      s.writeLoop = .finished → s.pending task.future = true → task.handle < s.covered
  | _ => True

instance (s : Conn) (e : Event) : Decidable (s.Confirms e) := by
  cases e with
  | resume task => cases task <;> unfold Confirms <;> infer_instance
  | _ => exact isTrue trivial

theorem hasEnded_eq_true {writeLoop : WriteLoop} :
    writeLoop.hasEnded = true ↔ writeLoop = .finished := by
  cases writeLoop <;> simp [WriteLoop.hasEnded]

theorem pending_of_waiting {i : ℕ} {call : Call} (hcall : s.calls[i]? = some call)
    (hstate : call.state = .waiting) : s.pending i = true := by
  rw [pending, hcall]
  simp [hstate]

/-- The tasks but one. -/
theorem Confirmed.eraseTask {s : Conn} (h : s.Confirmed) (i : ℕ) :
    Confirmed { s with waitAcks := s.waitAcks.eraseIdx i } :=
  ConfirmedOn.tasks h fun task hmem => ⟨task, List.mem_of_mem_eraseIdx hmem, rfl, rfl⟩

/-- A task whose handle was cancelled has its frame acknowledged, but after the end of the write
loop. -/
theorem Confirmed.resumeWaitAck (h : s.Confirmed) {i : ℕ} (hc : s.Confirms (.resume (.waitAck i)))
    (hs : s.resumeWaitAck i = some s') : s'.Confirmed := by
  unfold Conn.resumeWaitAck at hs
  split at hs
  · rename_i task hget
    have htask := List.mem_of_getElem? hget
    split at hs
    · cases hs
    rename_i hwake
    split at hs
    · rename_i hcancelled
      obtain rfl := Option.some.inj hs
      have hsettle : (s.settle [task.future] .returned).Confirmed := by
        apply settle_confirmedOn h [task.future] .returned (by simp)
        intro _ j hj call hcall hstate _
        obtain rfl := List.mem_singleton.mp hj
        refine ⟨task.handle + 1, ?_, h.waits task htask⟩
        cases hended : s.writeLoop.hasEnded with
        | false => exact h.acked hended task.handle hcancelled
        | true =>
          exact hc task hget hwake (hasEnded_eq_true.mp hended) (pending_of_waiting hcall hstate)
      exact hsettle.eraseTask i
    · obtain rfl := Option.some.inj hs
      apply ConfirmedOn.tasks h
      intro task' hmem
      rcases List.mem_or_eq_of_mem_set hmem with hmem | rfl
      · exact ⟨task', hmem, rfl, rfl⟩
      · exact ⟨task, htask, rfl, rfl⟩
  · cases hs

theorem Confirmed.failWaitAck (h : s.Confirmed) {i : ℕ} (hs : s.failWaitAck i = some s') :
    s'.Confirmed := by
  unfold Conn.failWaitAck at hs
  split at hs
  · rename_i task _
    split at hs
    · obtain rfl := Option.some.inj hs
      have hsettle : (s.settle [task.future] .failed).Confirmed :=
        settle_confirmedOn h [task.future] .failed (by simp) (by simp)
      exact hsettle.eraseTask i
    · cases hs
  · cases hs

theorem Confirmed.resumeTestLoop (h : s.Confirmed) (hs : s.resumeTestLoop = some s') :
    s'.Confirmed := by
  unfold Conn.resumeTestLoop at hs
  split at hs
  · split at hs
    · obtain rfl := Option.some.inj hs
      exact h
    · rename_i s₁ write hwrite
      obtain ⟨-, rfl, -⟩ := write_eq_ok hwrite
      obtain rfl := Option.some.inj hs
      exact h
  · split at hs
    · cases hs
    · obtain rfl := Option.some.inj hs
      exact h
  · split at hs
    · obtain rfl := Option.some.inj hs
      exact h
    · cases hs
  · cases hs

theorem Confirmed.resumeSupervisory (h : s.Confirmed) {i : ℕ}
    (hs : s.resumeSupervisory i = some s') : s'.Confirmed := by
  unfold Conn.resumeSupervisory at hs
  split at hs
  · split at hs
    · obtain rfl := Option.some.inj hs
      exact h
    · rename_i s₁ write hwrite
      obtain ⟨-, rfl, -⟩ := write_eq_ok hwrite
      obtain rfl := Option.some.inj hs
      exact h
  · split at hs
    · cases hs
    · obtain rfl := Option.some.inj hs
      exact h
  · cases hs

theorem Confirmed.failWriteLoop (h : s.Confirmed) (hn : s.Numbered k)
    (hs : s.failWriteLoop = some s') : s'.Confirmed := by
  have hend : ∀ (queue : List Write) (entry : Option SendQueueEntry),
      (endWriteLoop { s with writeQueue := queue } entry .connectionError).Confirmed :=
    fun queue entry =>
      endWriteLoop_confirmed (s := { s with writeQueue := queue }) h hn.handles_eq entry _
  unfold Conn.failWriteLoop at hs
  split at hs
  · split at hs
    · obtain rfl := Option.some.inj hs
      exact hend s.writeQueue none
    · cases hs
  · split at hs
    · obtain rfl := Option.some.inj hs
      exact hend s.writeQueue _
    · cases hs
  · split at hs
    · obtain rfl := Option.some.inj hs
      exact hend s.writeQueue _
    · cases hs
  · split at hs
    · obtain rfl := Option.some.inj hs
      exact hend _ _
    · cases hs
  · cases hs

theorem Confirmed.fail (h : s.Confirmed) (hn : s.Numbered k) {task : Task}
    (hs : s.step cfg (.fail task) = some s') : s'.Confirmed := by
  have hif : ∀ {p : Prop} [Decidable p] {t : Conn}, (if p then some t else none) = some s' →
      t.Confirmed → s'.Confirmed := by
    intro p _ t hs ht
    split at hs
    · obtain rfl := Option.some.inj hs
      exact ht
    · cases hs
  cases task with
  | readLoop =>
    simp only [step, failReadLoop] at hs
    split at hs
    · exact hif hs h
    · exact hif hs h
    · exact hif hs h
    · exact hif hs h
    · exact hif hs h
    · cases hs
  | writeLoop => exact h.failWriteLoop hn hs
  | testLoop =>
    simp only [step, failTestLoop] at hs
    split at hs
    · exact hif hs h
    · exact hif hs h
    · obtain rfl := Option.some.inj hs
      exact h
    · cases hs
  | supervisory i =>
    simp only [step, failSupervisory] at hs
    split at hs
    · exact hif hs h
    · cases hs
  | waitAck i => exact h.failWaitAck hs

/-! ### Runs -/

/-- The numbers, and the calls. -/
def Trusted (k : ℕ) (s : Conn) : Prop := s.Numbered k ∧ s.Confirmed

theorem Trusted.step (h : s.Trusted cfg.sendWindowSize) {e : Event} (hc : s.Confirms e)
    (hs : s.step cfg e = some s') : s'.Trusted cfg.sendWindowSize := by
  obtain ⟨hn, h⟩ := h
  refine ⟨hn.step hs, ?_⟩
  cases e with
  | call data waitAck =>
    obtain rfl := Option.some.inj hs
    exact h.call data waitAck
  | put i => exact h.put hs
  | cancelCall i => exact h.cancelCall hs
  | receive =>
    simp only [Conn.step] at hs
    split at hs
    · cases hs
    · obtain rfl := Option.some.inj hs
      exact h
  | close | connectionLost =>
    obtain rfl := Option.some.inj hs
    exact h
  | responseTimeout handle =>
    simp only [Conn.step] at hs
    split at hs
    · obtain rfl := Option.some.inj hs
      exact h
    · cases hs
  | supervisoryTimeout =>
    simp only [Conn.step] at hs
    split at hs
    · obtain rfl := Option.some.inj hs
      exact h
    · cases hs
  | flush =>
    simp only [Conn.step] at hs
    split at hs
    · cases hs
    split at hs
    · cases hs
    · obtain rfl := Option.some.inj hs
      exact h
  | read result =>
    simp only [Conn.step] at hs
    split at hs
    · rename_i hread
      obtain rfl := Option.some.inj hs
      exact h.processRead hn hread.1 hread.2
    · cases hs
  | resume task =>
    cases task with
    | readLoop => exact h.resumeReadLoop hs
    | writeLoop => exact h.resumeWriteLoop hn hs
    | testLoop => exact h.resumeTestLoop hs
    | supervisory i => exact h.resumeSupervisory hs
    | waitAck i => exact h.resumeWaitAck hc hs
  | fail task => exact h.fail hn hs

/-- Confirmed calls that returned are acknowledged, and the frame of a `send` has its data. -/
def Honest (s : Conn) : Prop :=
  ∀ (i : ℕ) (call : Call), s.calls[i]? = some call → call.waitAck = true → call.state = .returned →
    ∃ mark, mark ≤ s.covered ∧ s.covered ≤ s.written.length ∧ call.mark = some mark ∧
      ∀ data, call.data = some data → 0 < mark ∧ s.written[mark - 1]? = some data

theorem Trusted.honest (h : s.Trusted k) : s.Honest := by
  intro i call hcall hwait hstate
  obtain ⟨mark, hle, call', hcall', -, hmark, -, hdata⟩ := h.2.returned i call hcall hwait hstate
  obtain rfl := Option.some.inj (hcall.symm.trans hcall')
  exact ⟨mark, hle, h.1.covered_le, hmark, hdata⟩

/-- A task that goes on after the write loop ended takes its frame for acknowledged. -/
theorem Trusted.lies (h : s.Trusted k) {e : Event} (hc : ¬ s.Confirms e) :
    ∃ s', s.step cfg e = some s' ∧ ¬ s'.Honest := by
  cases e with
  | resume task =>
    cases task with
    | waitAck i =>
      simp only [Confirms, not_forall] at hc
      obtain ⟨task, hget, hwake, hloop, hpending, hlt⟩ := hc
      have htask := List.mem_of_getElem? hget
      have hcancelled : task.handle ∈ s.cancelled :=
        (h.2.ended (hasEnded_eq_true.mpr hloop) task htask).resolve_left hlt
      refine ⟨{ s.settle [task.future] .returned with waitAcks := s.waitAcks.eraseIdx i }, ?_, ?_⟩
      · simp only [Conn.step, Conn.resumeWaitAck, Option.mem_def.mp hget, hwake, if_false,
          hcancelled, if_true]
      · intro hhonest
        obtain ⟨call, hcall, hwait, hmark, -⟩ := h.2.waits task htask
        have hstate : call.state = .waiting := by
          simpa [pending, hcall] using hpending
        have hafter : (s.settle [task.future] .returned).calls[task.future]? =
            some { call with state := .returned } := by
          rw [sameCalls_settle, hcall]
          simp [hstate]
        obtain ⟨mark, hle, -, hmark', -⟩ := hhonest task.future _ hafter hwait rfl
        obtain rfl := Option.some.inj (hmark.symm.trans hmark')
        exact hlt hle
    | _ => exact absurd trivial hc
  | _ => exact absurd trivial hc

/-- **Confirmed calls.**  In a run confirmed calls return only after the peer acknowledged their
frame, or for `drain` the frames before it, if and only if no task that waits for an
acknowledgement goes on after the write loop ended without it. -/
theorem confirmed_iff {isEnabled : Bool} {es : List Event} :
    (∀ es' s, es' <+: es → run (step cfg) (init isEnabled) es' = some s → s.Honest) ↔
      Along (step cfg) Confirms (init isEnabled) es :=
  forall_safe_iff_along (fun _ _ _ (h : Trusted cfg.sendWindowSize _) hc hs => h.step hc hs)
    (fun _ h => h.honest) (fun _ _ h hc => h.lies hc)
    ⟨numbered_init _ isEnabled, confirmed_init isEnabled⟩

/-- The write loop ends before the task of a confirmed call takes its first step. -/
def cancelledFirst : List Event :=
  [.call (some [1]) true, .put 0, .resume .writeLoop, .flush, .resume .writeLoop, .close,
    .fail .writeLoop, .resume (.waitAck 0)]

/-- The call returns, and no acknowledgement was read. -/
example : ¬ Along (step ⟨true, 12, 8, 1024, 1024⟩) Confirms (init true) cancelledFirst := by
  decide

end Conn

end HatDrivers.Iec60870.Apci
