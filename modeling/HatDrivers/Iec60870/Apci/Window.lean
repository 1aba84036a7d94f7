import HatDrivers.Iec60870.Apci.Connection

namespace HatDrivers.Iec60870.Apci

open HatDrivers.Lib

/-!
# APCI — sequence numbers and the send window

Whatever the peer sends, `_ssn`, `_rsn` and `_ack` are the numbers of I-frames
written, received and acknowledged, and the waiting handles are the frames between
the last two, each under its number (`Conn.Numbered`).
-/

/-! ### Numbered connections -/

/-- Did the write loop pass its check that the next sequence number is free? -/
def WriteLoop.Checked : WriteLoop → Prop
  | .waiting _ _ | .writing _ _ => True
  | _ => False

/-- Is the write loop past the wait for the send window? -/
def WriteLoop.Writing : WriteLoop → Prop
  | .writing _ _ => True
  | _ => False

/-- What the numbers of a connection mean, for a send window of `k`. -/
structure NumberedOn (k ssn rsn ack : ℕ) (handles : List (ℕ × ℕ)) (written covered received : ℕ)
    (readLoop : ReadLoop) (writeLoop : WriteLoop) : Prop where
  ssn_eq : ssn = written % modulus
  rsn_eq : rsn = received % modulus
  handles_eq : handles = window modulus covered written
  covered_le : covered ≤ written
  ack_eq : readLoop ≠ .finished → ack = covered % modulus
  le_modulus : written ≤ covered + modulus
  lt_modulus : writeLoop.Checked → written < covered + modulus
  le_window : written ≤ covered + k
  lt_window : writeLoop.Writing → written < covered + k

namespace Conn

def Numbered (k : ℕ) (s : Conn) : Prop :=
  NumberedOn k s.ssn s.rsn s.ack s.waitingAckHandles s.written.length s.covered s.received
    s.readLoop s.writeLoop

variable {cfg : Config} {k : ℕ} {s s' : Conn}

theorem numbered_init (k : ℕ) (isEnabled : Bool) : (init isEnabled).Numbered k where
  ssn_eq := rfl
  rsn_eq := rfl
  handles_eq := rfl
  covered_le := Nat.le_refl 0
  ack_eq _ := rfl
  le_modulus := Nat.zero_le _
  lt_modulus h := h.elim
  le_window := Nat.zero_le _
  lt_window h := h.elim

/-- A task of the read loop goes on elsewhere. -/
theorem Numbered.setReadLoop (h : s.Numbered k) {readLoop : ReadLoop}
    (hr : readLoop ≠ .finished → s.readLoop ≠ .finished) :
    Numbered k { s with readLoop := readLoop } :=
  { h with ack_eq := fun hne => h.ack_eq (hr hne) }

/-- The write loop goes on where its checks still hold. -/
theorem Numbered.setWriteLoop (h : s.Numbered k) {writeLoop : WriteLoop}
    (hc : writeLoop.Checked → s.written.length < s.covered + modulus)
    (hw : writeLoop.Writing → s.written.length < s.covered + k) :
    Numbered k { s with writeLoop := writeLoop } :=
  { h with lt_modulus := hc, lt_window := hw }

theorem Numbered.endReadLoop (h : s.Numbered k) (e : Exn) : (s.endReadLoop e).Numbered k :=
  { h with ack_eq := fun hne => absurd rfl hne }

theorem Numbered.endWriteLoop (h : s.Numbered k) (entry : Option SendQueueEntry) (e : Exn) :
    (s.endWriteLoop entry e).Numbered k :=
  { h with lt_modulus := fun hc => hc.elim, lt_window := fun hw => hw.elim }

/-- A write that is not refused joins the write queue. -/
theorem write_eq_ok {apdu : Apdu} {write : Write} (h : s.write apdu = .ok (s', write)) :
    write = s.newWrite apdu ∧ s' = s.enqueue write ∧ s.broken = false ∧ apdu.Fits := by
  unfold Conn.write at h
  split at h
  · cases h
  rename_i frame hframe
  split at h
  · cases h
  rename_i hopen
  obtain ⟨rfl, rfl⟩ := Prod.mk.inj (Except.ok.inj h)
  exact ⟨rfl, rfl, by simpa [broken] using hopen, (encode_eq_ok.mp hframe).1⟩

theorem Numbered.readLoopWrite (h : s.Numbered k) (hr : s.readLoop ≠ .finished) (apdu : Apdu)
    (next : Write → ReadLoop) : (s.readLoopWrite apdu next).Numbered k := by
  unfold Conn.readLoopWrite
  split
  · exact h.endReadLoop _
  · rename_i s₁ write hwrite
    obtain ⟨_, rfl, _⟩ := write_eq_ok hwrite
    have h₁ : (s.enqueue write).Numbered k := h
    exact h₁.setReadLoop fun _ => hr

/-! ### Acknowledgements -/

/-- What `_set_ack` does: it takes the frames up to the acknowledged one off the
window, and fails if there are not that many. -/
theorem setAck_eq (h : s.Numbered k) (hr : s.readLoop ≠ .finished) {ack : ℕ}
    (hack : ack < modulus) {d covered : ℕ} (hd : d = cyclicDistance modulus s.ack ack)
    (hcovered : covered = min s.written.length (s.covered + d)) :
    s.setAck ack =
      if s.covered + d ≤ s.written.length then
        (notifyAll { s with
          waitingAckHandles := window modulus covered s.written.length
          cancelled := s.cancelled ++ List.range' s.covered (covered - s.covered)
          covered := covered, ack := ack }, true)
      else
        ({ s with
          waitingAckHandles := window modulus covered s.written.length
          cancelled := s.cancelled ++ List.range' s.covered (covered - s.covered)
          covered := covered }, false) := by
  have hpop : popAll (cyclicRange modulus s.ack ack) s.waitingAckHandles =
      (window modulus covered s.written.length, List.range' s.covered (covered - s.covered),
        decide (s.covered + d ≤ s.written.length)) := by
    rw [h.handles_eq, h.ack_eq hr, cyclicRange_eq hack, ← h.ack_eq hr, ← hd,
      popAll_window h.covered_le, ← hcovered]
  unfold Conn.setAck
  rw [hpop, ← hd, ← hcovered]
  by_cases hle : s.covered + d ≤ s.written.length
  · simp [hle]
  · simp [hle]

/-- Notified or not, the write loop passed the same checks. -/
theorem Numbered.notifyAll (h : s.Numbered k) : s.notifyAll.Numbered k := by
  have hw : ∀ writeLoop, s.notifyAll.writeLoop = writeLoop →
      (writeLoop.Checked → s.writeLoop.Checked) ∧ (writeLoop.Writing → s.writeLoop.Writing) := by
    rintro _ rfl
    unfold Conn.notifyAll
    cases s.writeLoop <;> exact ⟨id, id⟩
  obtain ⟨hc, hw⟩ := hw _ rfl
  exact { h with
    lt_modulus := fun hc' => h.lt_modulus (hc hc')
    lt_window := fun hw' => h.lt_window (hw hw') }

/-- More frames are covered than before. -/
theorem Numbered.cover (h : s.Numbered k) {covered : ℕ} (ack : ℕ) (cancelled : List ℕ)
    (hle : s.covered ≤ covered) (hle' : covered ≤ s.written.length)
    (hack : s.readLoop ≠ .finished → ack = covered % modulus) :
    Numbered k { s with
      waitingAckHandles := window modulus covered s.written.length
      cancelled := cancelled, covered := covered, ack := ack } where
  ssn_eq := h.ssn_eq
  rsn_eq := h.rsn_eq
  handles_eq := rfl
  covered_le := hle'
  ack_eq := hack
  le_modulus := h.le_modulus.trans (Nat.add_le_add_right hle _)
  lt_modulus hc := (h.lt_modulus hc).trans_le (Nat.add_le_add_right hle _)
  le_window := h.le_window.trans (Nat.add_le_add_right hle _)
  lt_window hw := (h.lt_window hw).trans_le (Nat.add_le_add_right hle _)

theorem Numbered.setAck (h : s.Numbered k) (hr : s.readLoop ≠ .finished) {ack : ℕ}
    (hack : ack < modulus) :
    ((s.setAck ack).2 = true → (s.setAck ack).1.Numbered k ∧
      (s.setAck ack).1.readLoop = s.readLoop) ∧
      ∀ e, ((s.setAck ack).1.endReadLoop e).Numbered k := by
  obtain ⟨d, hd⟩ : ∃ d, d = cyclicDistance modulus s.ack ack := ⟨_, rfl⟩
  obtain ⟨covered, hcovered⟩ : ∃ covered, covered = min s.written.length (s.covered + d) := ⟨_, rfl⟩
  have hle : s.covered ≤ covered := by
    have := h.covered_le
    omega
  have hle' : covered ≤ s.written.length := by omega
  rw [setAck_eq h hr hack hd hcovered]
  split
  · have heq : covered = s.covered + d := by omega
    have hmod : ack = covered % modulus := by
      rw [heq, hd, h.ack_eq hr, add_cyclicDistance_mod hack]
    have hcover := h.cover ack
      (s.cancelled ++ List.range' s.covered (covered - s.covered)) hle hle' fun _ => hmod
    exact ⟨fun _ => ⟨hcover.notifyAll, rfl⟩, fun e => hcover.notifyAll.endReadLoop e⟩
  · refine ⟨nofun, fun e => ?_⟩
    -- `_ack` stays behind, but nothing reads it any more
    exact (h.endReadLoop e).cover s.ack _ hle hle' fun hne => absurd rfl hne

/-! ### Steps of the loops -/

theorem Numbered.countReceived (h : s.Numbered k) (hr : s.readLoop ≠ .finished) :
    (s.countReceived cfg).Numbered k := by
  have hw : Numbered k { s with w := s.w + 1 } := h
  unfold Conn.countReceived
  dsimp only
  split
  · exact hw.readLoopWrite hr _ _
  · exact hw.setReadLoop fun _ => hr

theorem Numbered.startSupervisoryTimeout (h : s.Numbered k) :
    s.startSupervisoryTimeout.Numbered k := by
  unfold Conn.startSupervisoryTimeout
  split <;> exact h

theorem startSupervisoryTimeout_readLoop (s : Conn) :
    s.startSupervisoryTimeout.readLoop = s.readLoop := by
  unfold startSupervisoryTimeout
  split <;> rfl

theorem Numbered.receive (h : s.Numbered k) :
    Numbered k { s with rsn := (s.rsn + 1) % modulus, received := s.received + 1 } := by
  have hrsn : (s.rsn + 1) % modulus = (s.received + 1) % modulus := by
    rw [h.rsn_eq, Nat.mod_add_mod]
  exact { h with rsn_eq := hrsn }

theorem Numbered.processApdui (h : s.Numbered k) (hr : s.readLoop = .reading) {ssn rsn : ℕ}
    (hrsn : rsn < modulus) (data : Bytes) : (s.processApdui cfg ssn rsn data).Numbered k := by
  have hne : s.readLoop ≠ .finished := by simp [hr]
  obtain ⟨hok, hend⟩ := h.setAck hne hrsn
  unfold Conn.processApdui
  generalize s.setAck rsn = result at hok hend ⊢
  obtain ⟨t, ok⟩ := result
  cases ok with
  | false => exact hend _
  | true =>
    obtain ⟨ht, hread⟩ := hok rfl
    have htne : t.readLoop ≠ .finished := by rw [hread]; exact hne
    simp only [Bool.not_true, Bool.false_eq_true, if_false]
    split
    · exact ht.endReadLoop _
    · have hstart := ht.receive.startSupervisoryTimeout
      have hune := startSupervisoryTimeout_readLoop
        { t with rsn := (t.rsn + 1) % modulus, received := t.received + 1 } ▸ htne
      generalize Conn.startSupervisoryTimeout
        { t with rsn := (t.rsn + 1) % modulus, received := t.received + 1 } = u at hstart hune ⊢
      split
      · exact hstart.countReceived hune
      split
      · exact hstart.setReadLoop fun _ => hune
      · have hput : (u.putReceived data).Numbered k := hstart
        exact hput.countReceived hune

theorem Numbered.processApdus (h : s.Numbered k) (hr : s.readLoop = .reading) {rsn : ℕ}
    (hrsn : rsn < modulus) : (s.processApdus rsn).Numbered k := by
  obtain ⟨hok, hend⟩ := h.setAck (by simp [hr]) hrsn
  unfold Conn.processApdus
  generalize s.setAck rsn = result at hok hend ⊢
  obtain ⟨t, ok⟩ := result
  cases ok with
  | false => exact hend _
  | true => exact (hok rfl).1

theorem Numbered.processApduu (h : s.Numbered k) (hr : s.readLoop = .reading)
    (function : ApduFunction) : (s.processApduu cfg function).Numbered k := by
  have hne : s.readLoop ≠ .finished := by simp [hr]
  cases function with
  | STARTDT_ACT =>
    have henable : Numbered k { s with isEnabled := true } := h
    exact henable.readLoopWrite hne _ _
  | STOPDT_ACT =>
    rw [Conn.processApduu]
    split
    · exact h
    · exact h.readLoopWrite hne _ _
  | TESTFR_ACT => exact h.readLoopWrite hne _ _
  | TESTFR_CON => exact h
  | STARTDT_CON | STOPDT_CON => exact h

theorem Numbered.processRead (h : s.Numbered k) (hr : s.readLoop = .reading)
    {result : Except Exn Apdu} (hresult : Read result) : (s.processRead cfg result).Numbered k := by
  cases result with
  | error e => exact h.endReadLoop e
  | ok apdu =>
    have hread : Numbered k { s with reads := s.reads + 1 } := h
    cases apdu with
    | APDUI ssn rsn data => exact hread.processApdui hr hresult.2 data
    | APDUS rsn => exact hread.processApdus hr hresult
    | APDUU function => exact hread.processApduu hr function

/-- Wherever the write loop was, it now gets the next entry or ends. -/
theorem Numbered.finishEntry (h : Numbered k { s with writeLoop := .getting })
    (entry : SendQueueEntry) (handle : Option ℕ) : (s.finishEntry entry handle).Numbered k := by
  unfold Conn.finishEntry
  split
  · exact h
  split
  · split
    · exact h
    split
    · exact h.endWriteLoop entry _
    · exact h
  · exact h

theorem Numbered.writeApdui (h : s.Numbered k) (hc : s.written.length < s.covered + modulus)
    (hw : s.written.length < s.covered + k) (entry : SendQueueEntry) (data : Bytes) :
    (s.writeApdui entry data).Numbered k := by
  unfold Conn.writeApdui
  split
  · exact h.setWriteLoop (fun hc => hc.elim) fun hw => hw.elim
  · split
    · exact h.endWriteLoop _ _
    · rename_i s₁ write hwrite
      obtain ⟨_, rfl, _⟩ := write_eq_ok hwrite
      exact h.setWriteLoop (fun _ => hc) fun _ => hw

theorem Numbered.waitWindow (h : s.Numbered cfg.sendWindowSize)
    (hc : s.written.length < s.covered + modulus) (entry : SendQueueEntry) (data : Bytes) :
    (s.waitWindow cfg entry data).Numbered cfg.sendWindowSize := by
  unfold Conn.waitWindow
  split
  · rename_i hlt
    rw [h.handles_eq, length_window] at hlt
    exact h.writeApdui hc (by omega) entry data
  · exact h.setWriteLoop (fun _ => hc) fun hw => hw.elim

/-- The next sequence number is free exactly while fewer than `modulus` frames wait. -/
theorem Numbered.lt_of_free (h : s.Numbered k)
    (hfree : (s.waitingAckHandles.lookup s.ssn).isSome = false) :
    s.written.length < s.covered + modulus := by
  by_contra hfull
  have heq : s.written.length = s.covered + modulus := by
    have := h.le_modulus
    omega
  have hmodulus : 0 < modulus := by decide
  have hssn : s.ssn = s.covered % modulus := by rw [h.ssn_eq, heq, Nat.add_mod_right]
  rw [h.handles_eq, hssn, lookup_window (Nat.le_refl _) (by omega) h.le_modulus] at hfree
  cases hfree

theorem Numbered.serveEntry (h : s.Numbered cfg.sendWindowSize) (entry : SendQueueEntry) :
    (s.serveEntry cfg entry).Numbered cfg.sendWindowSize := by
  unfold Conn.serveEntry
  split
  · exact h.setWriteLoop (fun hc => hc.elim) fun hw => hw.elim
  · split
    · exact h.endWriteLoop _ _
    · rename_i hfree
      exact h.waitWindow (h.lt_of_free (Bool.eq_false_of_not_eq_true hfree)) entry _

/-- A frame whose number was free joins the window. -/
theorem Numbered.registerHandle (h : s.Numbered k) (hc : s.writeLoop.Checked)
    (hw : s.writeLoop.Writing) (data : Bytes) (write : Write) :
    Numbered k { s.registerHandle data write with writeLoop := .getting } := by
  have hlt := h.lt_modulus hc
  have hlt' := h.lt_window hw
  have hlen : (s.written ++ [data]).length = s.written.length + 1 := List.length_append
  constructor
  · show (s.ssn + 1) % modulus = (s.written ++ [data]).length % modulus
    rw [h.ssn_eq, Nat.mod_add_mod, hlen]
  · exact h.rsn_eq
  · show s.waitingAckHandles ++ [(s.ssn, s.written.length)] =
      window modulus s.covered (s.written ++ [data]).length
    rw [hlen, window_concat h.covered_le, ← h.ssn_eq, h.handles_eq]
  · show s.covered ≤ (s.written ++ [data]).length
    have := h.covered_le
    omega
  · exact h.ack_eq
  · show (s.written ++ [data]).length ≤ s.covered + modulus
    omega
  · exact fun hc => hc.elim
  · show (s.written ++ [data]).length ≤ s.covered + k
    omega
  · exact fun hw => hw.elim

theorem Numbered.resumeReadLoop (h : s.Numbered k) (hs : s.resumeReadLoop cfg = some s') :
    s'.Numbered k := by
  unfold Conn.resumeReadLoop at hs
  split at hs
  · rename_i data hr
    split at hs
    · cases hs
    · obtain rfl := Option.some.inj hs
      have hput : (s.putReceived data).Numbered k := h
      exact hput.countReceived (by simp [putReceived, hr])
  · rename_i write hr
    split at hs
    · cases hs
    · obtain rfl := Option.some.inj hs
      have hack : (s.acknowledge write).Numbered k := h
      exact hack.setReadLoop fun _ => by simp [acknowledge, resumeWrite, stopSupervisoryTimeout, hr]
  · rename_i write hr
    split at hs
    · cases hs
    · obtain rfl := Option.some.inj hs
      have hack : Numbered k { s.acknowledge write with isEnabled := false } := h
      exact hack.readLoopWrite
        (by simp [acknowledge, resumeWrite, stopSupervisoryTimeout, hr]) _ _
  · rename_i write hr
    split at hs
    · cases hs
    · obtain rfl := Option.some.inj hs
      have hack : (s.resumeWrite write).Numbered k := h
      exact hack.setReadLoop fun _ => by simp [resumeWrite, hr]
  · cases hs
  · cases hs

theorem Numbered.resumeWriteLoop (h : s.Numbered cfg.sendWindowSize)
    (hs : s.resumeWriteLoop cfg = some s') : s'.Numbered cfg.sendWindowSize := by
  unfold Conn.resumeWriteLoop at hs
  split at hs
  · split at hs
    · cases hs
    · rename_i entry sendQueue _
      obtain rfl := Option.some.inj hs
      have hget : Numbered cfg.sendWindowSize { s with sendQueue := sendQueue } := h
      exact hget.serveEntry entry
  · rename_i entry hw
    obtain rfl := Option.some.inj hs
    have hget : Numbered cfg.sendWindowSize { s with writeLoop := .getting } :=
      h.setWriteLoop (fun hc => hc.elim) fun hw => hw.elim
    have hmark : Numbered cfg.sendWindowSize
        { s.setMark entry.future with writeLoop := .getting } := hget
    exact hmark.finishEntry _ _
  · rename_i entry notified hw
    split at hs
    · obtain ⟨data, _, rfl⟩ := Option.map_eq_some_iff.mp hs
      exact h.waitWindow (h.lt_modulus (by rw [hw]; trivial)) _ _
    · cases hs
  · rename_i entry write hw
    split at hs
    · cases hs
    · obtain ⟨data, _, rfl⟩ := Option.map_eq_some_iff.mp hs
      have hregister := h.registerHandle (by rw [hw]; trivial) (by rw [hw]; trivial) data write
      have hmark : Numbered cfg.sendWindowSize
          { (s.registerHandle data write).setMark entry.future with writeLoop := .getting } :=
        hregister
      exact hmark.finishEntry _ _
  · cases hs

/-- The other tasks have no part in the numbers. -/
theorem Numbered.resumeTestLoop (h : s.Numbered k) (hs : s.resumeTestLoop = some s') :
    s'.Numbered k := by
  unfold Conn.resumeTestLoop at hs
  split at hs
  · split at hs
    · obtain rfl := Option.some.inj hs
      exact h
    · rename_i s₁ write hwrite
      obtain ⟨_, rfl, _⟩ := write_eq_ok hwrite
      obtain rfl := Option.some.inj hs
      exact h
  · split at hs
    · cases hs
    · obtain rfl := Option.some.inj hs
      exact h
  · split at hs
    · obtain rfl := Option.some.inj hs
      exact h
    · cases hs
  · cases hs

theorem Numbered.resumeSupervisory (h : s.Numbered k) {i : ℕ}
    (hs : s.resumeSupervisory i = some s') : s'.Numbered k := by
  unfold Conn.resumeSupervisory at hs
  split at hs
  · split at hs
    · obtain rfl := Option.some.inj hs
      exact h
    · rename_i s₁ write hwrite
      obtain ⟨_, rfl, _⟩ := write_eq_ok hwrite
      obtain rfl := Option.some.inj hs
      exact h
  · split at hs
    · cases hs
    · obtain rfl := Option.some.inj hs
      exact h
  · cases hs

theorem Numbered.resumeWaitAck (h : s.Numbered k) {i : ℕ} (hs : s.resumeWaitAck i = some s') :
    s'.Numbered k := by
  unfold Conn.resumeWaitAck at hs
  split at hs
  · split at hs
    · cases hs
    split at hs
    · obtain rfl := Option.some.inj hs
      exact h
    · obtain rfl := Option.some.inj hs
      exact h
  · cases hs

theorem Numbered.failReadLoop (h : s.Numbered k) (hs : s.failReadLoop = some s') :
    s'.Numbered k := by
  have hdrop : ∀ write, (s.dropWrite write).Numbered k := fun _ => h
  unfold Conn.failReadLoop at hs
  split at hs
  · split at hs
    · obtain rfl := Option.some.inj hs
      exact h.endReadLoop _
    · cases hs
  · split at hs
    · obtain rfl := Option.some.inj hs
      exact h.endReadLoop _
    · cases hs
  · split at hs
    · obtain rfl := Option.some.inj hs
      exact (hdrop _).endReadLoop _
    · cases hs
  · split at hs
    · obtain rfl := Option.some.inj hs
      exact (hdrop _).endReadLoop _
    · cases hs
  · split at hs
    · obtain rfl := Option.some.inj hs
      exact (hdrop _).endReadLoop _
    · cases hs
  · cases hs

theorem Numbered.failWriteLoop (h : s.Numbered k) (hs : s.failWriteLoop = some s') :
    s'.Numbered k := by
  have hdrop : ∀ write, (s.dropWrite write).Numbered k := fun _ => h
  unfold Conn.failWriteLoop at hs
  split at hs
  · split at hs
    · obtain rfl := Option.some.inj hs
      exact h.endWriteLoop _ _
    · cases hs
  · split at hs
    · obtain rfl := Option.some.inj hs
      exact h.endWriteLoop _ _
    · cases hs
  · split at hs
    · obtain rfl := Option.some.inj hs
      exact h.endWriteLoop _ _
    · cases hs
  · split at hs
    · obtain rfl := Option.some.inj hs
      exact (hdrop _).endWriteLoop _ _
    · cases hs
  · cases hs

theorem Numbered.fail (h : s.Numbered k) {task : Task} (hs : s.step cfg (.fail task) = some s') :
    s'.Numbered k := by
  cases task with
  | readLoop => exact h.failReadLoop hs
  | writeLoop => exact h.failWriteLoop hs
  | testLoop =>
    simp only [step, failTestLoop] at hs
    split at hs
    · split at hs
      · obtain rfl := Option.some.inj hs
        exact h
      · cases hs
    · split at hs
      · obtain rfl := Option.some.inj hs
        exact h
      · cases hs
    · obtain rfl := Option.some.inj hs
      exact h
    · cases hs
  | supervisory i =>
    simp only [step, failSupervisory] at hs
    split at hs
    · split at hs
      · obtain rfl := Option.some.inj hs
        exact h
      · cases hs
    · cases hs
  | waitAck i =>
    simp only [step, failWaitAck] at hs
    split at hs
    · split at hs
      · obtain rfl := Option.some.inj hs
        exact h
      · cases hs
    · cases hs

theorem Numbered.put (h : s.Numbered k) {i : ℕ} (hs : s.put cfg i = some s') : s'.Numbered k := by
  unfold Conn.put at hs
  split at hs
  · split at hs
    · cases hs
    split at hs
    · obtain rfl := Option.some.inj hs
      exact h
    split at hs
    · cases hs
    · obtain rfl := Option.some.inj hs
      exact h
  · cases hs

theorem Numbered.cancelCall (h : s.Numbered k) {i : ℕ} (hs : s.cancelCall i = some s') :
    s'.Numbered k := by
  unfold Conn.cancelCall at hs
  split at hs
  · split at hs
    · obtain rfl := Option.some.inj hs
      exact h
    · cases hs
  · cases hs

/-- **Every step keeps the numbers**, whatever the peer sends. -/
theorem Numbered.step (h : s.Numbered cfg.sendWindowSize) {e : Event}
    (hs : s.step cfg e = some s') : s'.Numbered cfg.sendWindowSize := by
  cases e with
  | call data waitAck =>
    obtain rfl := Option.some.inj hs
    exact h
  | put i => exact h.put hs
  | cancelCall i => exact h.cancelCall hs
  | receive =>
    simp only [Conn.step] at hs
    split at hs
    · cases hs
    · obtain rfl := Option.some.inj hs
      exact h
  | close | connectionLost =>
    obtain rfl := Option.some.inj hs
    exact h
  | responseTimeout handle =>
    simp only [Conn.step] at hs
    split at hs
    · obtain rfl := Option.some.inj hs
      exact h
    · cases hs
  | supervisoryTimeout =>
    simp only [Conn.step] at hs
    split at hs
    · obtain rfl := Option.some.inj hs
      exact h
    · cases hs
  | flush =>
    simp only [Conn.step] at hs
    split at hs
    · cases hs
    split at hs
    · cases hs
    · obtain rfl := Option.some.inj hs
      exact h
  | read result =>
    simp only [Conn.step] at hs
    split at hs
    · rename_i hread
      obtain rfl := Option.some.inj hs
      exact h.processRead hread.1 hread.2
    · cases hs
  | resume task =>
    cases task with
    | readLoop => exact h.resumeReadLoop hs
    | writeLoop => exact h.resumeWriteLoop hs
    | testLoop => exact h.resumeTestLoop hs
    | supervisory i => exact h.resumeSupervisory hs
    | waitAck i => exact h.resumeWaitAck hs
  | fail task => exact h.fail hs

end Conn

end HatDrivers.Iec60870.Apci
