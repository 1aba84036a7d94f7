import HatDrivers.Iec60870.Apci.Window

namespace HatDrivers.Iec60870.Apci

open HatDrivers.Lib

/-!
# APCI — what acknowledgements complete

An acknowledgement is accepted if and only if it lies between `_ack` and `_ssn`; it
then completes the handles before it, and otherwise the read loop ends
(`Conn.sendWindow`).  A refused one leaves `_ack` behind the handles that are left, so
the handles lie from `_ack` to `_ssn` only while none was refused.
-/

/-- The number of frames a read acknowledges. -/
def Event.ack? : Event → Option ℕ
  | .read (.ok (.APDUI _ rsn _)) => some rsn
  | .read (.ok (.APDUS rsn)) => some rsn
  | _ => none

namespace Conn

variable {cfg : Config} {k : ℕ} {s s' : Conn}

/-- `ack` lies in the cyclic interval from `_ack` to `_ssn`, both included. -/
def Acceptable (s : Conn) (ack : ℕ) : Prop := ack ∈ cyclicRange modulus s.ack s.ssn ∨ ack = s.ssn

instance (s : Conn) (ack : ℕ) : Decidable (s.Acceptable ack) := by
  unfold Acceptable
  infer_instance

/-- What the event acknowledges, if anything, is acceptable. -/
def Acknowledges (s : Conn) (e : Event) : Prop := ∀ ack, e.ack? = some ack → s.Acceptable ack

/-! ### Steps that acknowledge nothing -/

/-- `_ack` and the number of frames it stands for. -/
def mark (s : Conn) : ℕ × ℕ := (s.ack, s.covered)

/-- All that `_set_ack` changes. -/
def ackState (s : Conn) : (ℕ × ℕ) × List (ℕ × ℕ) × List ℕ :=
  (s.mark, s.waitingAckHandles, s.cancelled)

theorem ackState_readLoopWrite (s : Conn) (apdu : Apdu) (next : Write → ReadLoop) :
    (s.readLoopWrite apdu next).ackState = s.ackState := by
  unfold readLoopWrite
  split
  · rfl
  · rename_i s₁ write hwrite
    obtain ⟨_, rfl, _⟩ := write_eq_ok hwrite
    rfl

theorem ackState_countReceived (cfg : Config) (s : Conn) :
    (s.countReceived cfg).ackState = s.ackState := by
  unfold countReceived
  dsimp only
  split
  · rw [ackState_readLoopWrite]
    rfl
  · rfl

theorem ackState_startSupervisoryTimeout (s : Conn) :
    s.startSupervisoryTimeout.ackState = s.ackState := by
  unfold startSupervisoryTimeout
  split <;> rfl

theorem mark_endWriteLoop (s : Conn) (entry : Option SendQueueEntry) (e : Exn) :
    (s.endWriteLoop entry e).mark = s.mark := rfl

theorem mark_setMark (s : Conn) (future : Option ℕ) : (s.setMark future).mark = s.mark := rfl

theorem mark_dropWrite (s : Conn) (write : Write) : (s.dropWrite write).mark = s.mark := rfl

theorem mark_finishEntry (s : Conn) (entry : SendQueueEntry) (handle : Option ℕ) :
    (s.finishEntry entry handle).mark = s.mark := by
  unfold finishEntry
  split
  · rfl
  split
  · split
    · rfl
    split <;> rfl
  · rfl

theorem mark_writeApdui (s : Conn) (entry : SendQueueEntry) (data : Bytes) :
    (s.writeApdui entry data).mark = s.mark := by
  unfold writeApdui
  split
  · rfl
  · split
    · rfl
    · rename_i s₁ write hwrite
      obtain ⟨_, rfl, _⟩ := write_eq_ok hwrite
      rfl

theorem mark_waitWindow (cfg : Config) (s : Conn) (entry : SendQueueEntry) (data : Bytes) :
    (s.waitWindow cfg entry data).mark = s.mark := by
  unfold waitWindow
  split
  · exact mark_writeApdui s entry data
  · rfl

theorem mark_serveEntry (cfg : Config) (s : Conn) (entry : SendQueueEntry) :
    (s.serveEntry cfg entry).mark = s.mark := by
  unfold serveEntry
  split
  · rfl
  · split
    · rfl
    · exact mark_waitWindow cfg s entry _

theorem mark_resumeReadLoop (h : s.resumeReadLoop cfg = some s') : s'.mark = s.mark := by
  unfold resumeReadLoop at h
  split at h
  · split at h
    · cases h
    · obtain rfl := Option.some.inj h
      exact congrArg Prod.fst (ackState_countReceived cfg _)
  · split at h
    · cases h
    · obtain rfl := Option.some.inj h
      rfl
  · split at h
    · cases h
    · obtain rfl := Option.some.inj h
      exact congrArg Prod.fst (ackState_readLoopWrite _ _ _)
  · split at h
    · cases h
    · obtain rfl := Option.some.inj h
      rfl
  · cases h
  · cases h

theorem mark_resumeWriteLoop (h : s.resumeWriteLoop cfg = some s') : s'.mark = s.mark := by
  unfold resumeWriteLoop at h
  split at h
  · split at h
    · cases h
    · obtain rfl := Option.some.inj h
      rw [mark_serveEntry]
      rfl
  · obtain rfl := Option.some.inj h
    rw [finishDrain, mark_finishEntry, mark_setMark]
  · split at h
    · obtain ⟨data, _, rfl⟩ := Option.map_eq_some_iff.mp h
      exact mark_waitWindow cfg s _ data
    · cases h
  · split at h
    · cases h
    · obtain ⟨data, _, rfl⟩ := Option.map_eq_some_iff.mp h
      rw [finishWrite, mark_finishEntry, mark_setMark]
      rfl
  · cases h

theorem mark_resumeTestLoop (h : s.resumeTestLoop = some s') : s'.mark = s.mark := by
  unfold resumeTestLoop at h
  split at h
  · split at h
    · obtain rfl := Option.some.inj h
      rfl
    · rename_i s₁ write hwrite
      obtain ⟨_, rfl, _⟩ := write_eq_ok hwrite
      obtain rfl := Option.some.inj h
      rfl
  · split at h
    · cases h
    · obtain rfl := Option.some.inj h
      rfl
  · split at h
    · obtain rfl := Option.some.inj h
      rfl
    · cases h
  · cases h

theorem mark_resumeSupervisory {i : ℕ} (h : s.resumeSupervisory i = some s') :
    s'.mark = s.mark := by
  unfold resumeSupervisory at h
  split at h
  · split at h
    · obtain rfl := Option.some.inj h
      rfl
    · rename_i s₁ write hwrite
      obtain ⟨_, rfl, _⟩ := write_eq_ok hwrite
      obtain rfl := Option.some.inj h
      rfl
  · split at h
    · cases h
    · obtain rfl := Option.some.inj h
      rfl
  · cases h

theorem mark_resumeWaitAck {i : ℕ} (h : s.resumeWaitAck i = some s') : s'.mark = s.mark := by
  unfold resumeWaitAck at h
  split at h
  · split at h
    · cases h
    split at h
    · obtain rfl := Option.some.inj h
      rfl
    · obtain rfl := Option.some.inj h
      rfl
  · cases h

/-- A task that ends changes nothing of the window. -/
theorem mark_fail {task : Task} (h : s.step cfg (.fail task) = some s') : s'.mark = s.mark := by
  have hif : ∀ {p : Prop} [Decidable p] {t : Conn}, (if p then some t else none) = some s' →
      t.mark = s.mark → s'.mark = s.mark := by
    intro p _ t h ht
    split at h
    · obtain rfl := Option.some.inj h
      exact ht
    · cases h
  cases task with
  | readLoop =>
    simp only [step, failReadLoop] at h
    split at h
    · exact hif h rfl
    · exact hif h rfl
    · exact hif h rfl
    · exact hif h rfl
    · exact hif h rfl
    · cases h
  | writeLoop =>
    simp only [step, failWriteLoop] at h
    split at h
    · exact hif h (mark_endWriteLoop ..)
    · exact hif h (mark_endWriteLoop ..)
    · exact hif h (mark_endWriteLoop ..)
    · exact hif h ((mark_endWriteLoop ..).trans (mark_dropWrite ..))
    · cases h
  | testLoop =>
    simp only [step, failTestLoop] at h
    split at h
    · exact hif h rfl
    · exact hif h rfl
    · obtain rfl := Option.some.inj h
      rfl
    · cases h
  | supervisory i =>
    simp only [step, failSupervisory] at h
    split at h
    · exact hif h rfl
    · cases h
  | waitAck i =>
    simp only [step, failWaitAck] at h
    split at h
    · exact hif h rfl
    · cases h

/-! ### Steps that acknowledge -/

/-- An acknowledgement is accepted if and only if it is acceptable; what `_set_ack` then does. -/
theorem setAck_cases (h : s.Numbered k) (hk : k < modulus) (hr : s.readLoop ≠ .finished) {ack : ℕ}
    (hack : ack < modulus) :
    ((s.setAck ack).2 = true ↔ s.Acceptable ack) ∧
      ((s.setAck ack).2 = true →
        (s.setAck ack).1.ackState =
          ((ack, s.covered + cyclicDistance modulus s.ack ack),
            s.waitingAckHandles.filter fun p => decide (p.1 ∉ cyclicRange modulus s.ack ack),
            s.cancelled ++ (s.waitingAckHandles.filter fun p =>
              decide (p.1 ∈ cyclicRange modulus s.ack ack)).map Prod.snd)) ∧
      (s.setAck ack).1.errors = s.errors := by
  obtain ⟨d, hd⟩ : ∃ d, d = cyclicDistance modulus s.ack ack := ⟨_, rfl⟩
  have hwritten : s.written.length < s.covered + modulus := by
    have := h.le_window
    omega
  have hacceptable : s.Acceptable ack ↔ s.covered + d ≤ s.written.length := by
    rw [Acceptable, h.ssn_eq, hd, h.ack_eq hr]
    exact mem_cyclicRange_or_eq h.covered_le hwritten hack
  rw [setAck_eq h hr hack hd rfl, hacceptable, ← hd]
  by_cases hle : s.covered + d ≤ s.written.length
  · have hmin : min s.written.length (s.covered + d) = s.covered + d := by omega
    have hrange : cyclicRange modulus s.ack ack =
        (List.range' s.covered d).map (· % modulus) := by
      rw [hd, h.ack_eq hr, cyclicRange_eq hack]
    have hvalues : (window modulus s.covered (s.covered + d)).map Prod.snd =
        List.range' s.covered d := by
      rw [window, List.map_map, Nat.add_sub_cancel_left]
      exact List.map_id _
    rw [if_pos hle, hmin, Nat.add_sub_cancel_left, hrange, h.handles_eq,
      filter_notMem_window hle (by omega), filter_mem_window hle (by omega), hvalues]
    exact ⟨iff_of_true rfl hle, fun _ => rfl, rfl⟩
  · rw [if_neg hle]
    exact ⟨iff_of_false (fun hok => by cases hok) hle, fun hok => (by cases hok), rfl⟩

/-- After an accepted acknowledgement the frame is processed; the window stays as it is. -/
theorem ackState_processApdui (cfg : Config) (s : Conn) (ssn rsn : ℕ) (data : Bytes)
    (hok : (s.setAck rsn).2 = true) :
    (s.processApdui cfg ssn rsn data).ackState = (s.setAck rsn).1.ackState := by
  unfold processApdui
  generalize s.setAck rsn = result at hok ⊢
  obtain ⟨t, ok⟩ := result
  obtain rfl : ok = true := hok
  simp only [Bool.not_true, Bool.false_eq_true, if_false]
  have hstart : ∀ rsn received,
      ({ t with rsn := rsn, received := received } : Conn).startSupervisoryTimeout.ackState =
        t.ackState := fun rsn received => ackState_startSupervisoryTimeout _
  split
  · rfl
  split
  · rw [ackState_countReceived, hstart]
  split
  · exact hstart _ _
  · rw [ackState_countReceived]
    exact hstart _ _

/-- Whether an acknowledgement is accepted does not depend on what was read before it. -/
theorem setAck_reads (s : Conn) (reads ack : ℕ) :
    (({ s with reads := reads } : Conn).setAck ack).2 = (s.setAck ack).2 := by
  unfold setAck
  dsimp only
  split <;> rfl

/-- What reading an acknowledgement does. -/
theorem read_cases (h : s.Numbered k) (hk : k < modulus) {e : Event} {ack : ℕ}
    (he : e.ack? = some ack) (hs : s.step cfg e = some s') :
    ((s.setAck ack).2 = true ↔ s.Acceptable ack) ∧
      ((s.setAck ack).2 = true →
        s'.ackState =
          ((ack, s.covered + cyclicDistance modulus s.ack ack),
            s.waitingAckHandles.filter fun p => decide (p.1 ∉ cyclicRange modulus s.ack ack),
            s.cancelled ++ (s.waitingAckHandles.filter fun p =>
              decide (p.1 ∈ cyclicRange modulus s.ack ack)).map Prod.snd) ∧
        ack < modulus ∧ s.readLoop = .reading) ∧
      ((s.setAck ack).2 = false → s'.readLoop = .finished ∧ s'.closing = true ∧
        s'.errors = s.errors ++ [.exception "received ack for unsent sequence number"]) := by
  have hread : Numbered k { s with reads := s.reads + 1 } := h
  cases e with
  | read result =>
    cases result with
    | error e => cases he
    | ok apdu =>
      simp only [step] at hs
      split at hs
      · rename_i hreading
        obtain ⟨hr, hrange⟩ := hreading
        obtain rfl := Option.some.inj hs
        have hne : s.readLoop ≠ .finished := by simp [hr]
        cases apdu with
        | APDUI ssn rsn data =>
          obtain rfl := Option.some.inj he
          obtain ⟨hiff, hok, herrors⟩ := setAck_cases hread hk hne hrange.2
          rw [← setAck_reads s (s.reads + 1)]
          refine ⟨hiff, fun haccepted => ⟨?_, hrange.2, hr⟩, fun hrefused => ?_⟩
          · exact (ackState_processApdui cfg _ ssn rsn data haccepted).trans (hok haccepted)
          · simp only [processRead, processApdui, hrefused, Bool.not_false, if_true]
            exact ⟨rfl, rfl, congrArg (· ++ _) herrors⟩
        | APDUS rsn =>
          obtain rfl := Option.some.inj he
          obtain ⟨hiff, hok, herrors⟩ := setAck_cases hread hk hne hrange
          rw [← setAck_reads s (s.reads + 1)]
          refine ⟨hiff, fun haccepted => ⟨?_, hrange, hr⟩, fun hrefused => ?_⟩
          · simp only [processRead, processApdus, haccepted, Bool.not_true, Bool.false_eq_true,
              if_false]
            exact hok haccepted
          · simp only [processRead, processApdus, hrefused, Bool.not_false, if_true]
            exact ⟨rfl, rfl, congrArg (· ++ _) herrors⟩
        | APDUU function => cases he
      · cases hs
  | _ => cases he

/-! ### Runs -/

/-- A step that acknowledges nothing leaves `_ack` where it is. -/
theorem mark_step {e : Event} (he : e.ack? = none) (hs : s.step cfg e = some s') :
    s'.mark = s.mark := by
  cases e with
  | call data waitAck | close | connectionLost =>
    obtain rfl := Option.some.inj hs
    rfl
  | put i =>
    simp only [step, put] at hs
    split at hs
    · split at hs
      · cases hs
      split at hs
      · obtain rfl := Option.some.inj hs
        rfl
      split at hs
      · cases hs
      · obtain rfl := Option.some.inj hs
        rfl
    · cases hs
  | cancelCall i =>
    simp only [step, cancelCall] at hs
    split at hs
    · split at hs
      · obtain rfl := Option.some.inj hs
        rfl
      · cases hs
    · cases hs
  | receive =>
    simp only [step] at hs
    split at hs
    · cases hs
    · obtain rfl := Option.some.inj hs
      rfl
  | responseTimeout handle =>
    simp only [step] at hs
    split at hs
    · obtain rfl := Option.some.inj hs
      rfl
    · cases hs
  | supervisoryTimeout =>
    simp only [step] at hs
    split at hs
    · obtain rfl := Option.some.inj hs
      rfl
    · cases hs
  | flush =>
    simp only [step] at hs
    split at hs
    · cases hs
    split at hs
    · cases hs
    · obtain rfl := Option.some.inj hs
      rfl
  | read result =>
    simp only [step] at hs
    split at hs
    · obtain rfl := Option.some.inj hs
      cases result with
      | error e => rfl
      | ok apdu =>
        cases apdu with
        | APDUI ssn rsn data | APDUS rsn => cases he
        | APDUU function =>
          cases function with
          | STARTDT_ACT | TESTFR_ACT => exact congrArg Prod.fst (ackState_readLoopWrite _ _ _)
          | STOPDT_ACT =>
            simp only [processRead, processApduu]
            split
            · rfl
            · exact congrArg Prod.fst (ackState_readLoopWrite _ _ _)
          | TESTFR_CON | STARTDT_CON | STOPDT_CON => rfl
    · cases hs
  | resume task =>
    cases task with
    | readLoop => exact mark_resumeReadLoop hs
    | writeLoop => exact mark_resumeWriteLoop hs
    | testLoop => exact mark_resumeTestLoop hs
    | supervisory i => exact mark_resumeSupervisory hs
    | waitAck i => exact mark_resumeWaitAck hs
  | fail task => exact mark_fail hs

/-- No acknowledgement was refused: `_ack` is the number of the frame after the covered ones. -/
def Marked (k : ℕ) (s : Conn) : Prop := s.Numbered k ∧ s.ack = s.covered % modulus

theorem Marked.step (hk : cfg.sendWindowSize < modulus) (h : s.Marked cfg.sendWindowSize)
    {e : Event} (hc : s.Acknowledges e) (hs : s.step cfg e = some s') :
    s'.Marked cfg.sendWindowSize := by
  refine ⟨h.1.step hs, ?_⟩
  cases he : e.ack? with
  | none =>
    obtain ⟨hack, hcovered⟩ := Prod.mk.inj (mark_step he hs)
    rw [hack, hcovered, h.2]
  | some ack =>
    obtain ⟨hiff, hok, _⟩ := read_cases h.1 hk he hs
    obtain ⟨hstate, hlt, hr⟩ := hok (hiff.mpr (hc ack he))
    have hmark : s'.mark = (ack, s.covered + cyclicDistance modulus s.ack ack) :=
      congrArg Prod.fst hstate
    obtain ⟨hack, hcovered⟩ := Prod.mk.inj hmark
    rw [hack, hcovered, h.2, add_cyclicDistance_mod hlt]

/-- **The send window.**  In every state a connection reaches, there are at most `sendWindowSize`
handles, and as long as no acknowledgement was refused their numbers are those from `_ack` up to
`_ssn`.  An acknowledgement that is read is accepted if and only if it lies from `_ack` to
`_ssn`, and then takes off and completes the handles before it, and no others; otherwise the
connection fails. -/
theorem sendWindow {isEnabled : Bool} {es : List Event} (hk : cfg.sendWindowSize ≤ 0x7FFF)
    (hrun : run (step cfg) (init isEnabled) es = some s) :
    (Along (step cfg) Acknowledges (init isEnabled) es →
      s.waitingAckHandles.map Prod.fst = cyclicRange modulus s.ack s.ssn) ∧
      s.waitingAckHandles.length ≤ cfg.sendWindowSize ∧
      ∀ e ack s', e.ack? = some ack → s.step cfg e = some s' →
        ((s.setAck ack).2 = true ↔ s.Acceptable ack) ∧
        ((s.setAck ack).2 = true → s'.ack = ack ∧
          s'.waitingAckHandles =
            (s.waitingAckHandles.filter fun p => decide (p.1 ∉ cyclicRange modulus s.ack ack)) ∧
          s'.cancelled = s.cancelled ++ (s.waitingAckHandles.filter fun p =>
            decide (p.1 ∈ cyclicRange modulus s.ack ack)).map Prod.snd) ∧
        ((s.setAck ack).2 = false → s'.readLoop = .finished ∧ s'.closing = true ∧
          s'.errors = s.errors ++ [.exception "received ack for unsent sequence number"]) := by
  have hmodulus : cfg.sendWindowSize < modulus := by
    have : modulus = 0x8000 := rfl
    omega
  have hnum : s.Numbered cfg.sendWindowSize :=
    run_invariant_of_step (fun _ _ _ h hs => h.step hs) (numbered_init _ isEnabled) hrun
  have hwindow := hnum.le_window
  refine ⟨fun halong => ?_, ?_, fun e ack s' he hs => ?_⟩
  · have hmarked : s.Marked cfg.sendWindowSize :=
      run_invariant (Marked cfg.sendWindowSize) (fun _ _ _ h hc hs => h.step hmodulus hc hs)
        ⟨numbered_init _ isEnabled, rfl⟩ halong hrun
    rw [hnum.handles_eq, hmarked.2, hnum.ssn_eq]
    exact keys_window hnum.covered_le (by omega)
  · rw [hnum.handles_eq, length_window]
    omega
  · obtain ⟨hiff, hok, hrefused⟩ := read_cases hnum hmodulus he hs
    refine ⟨hiff, fun haccepted => ?_, hrefused⟩
    obtain ⟨hstate, _⟩ := hok haccepted
    obtain ⟨hmark, hrest⟩ := Prod.mk.inj hstate
    exact ⟨congrArg Prod.fst hmark, congrArg Prod.fst hrest, congrArg Prod.snd hrest⟩

/-- Two I-frames are written. -/
def twoFrames : List Event :=
  [.call (some [1]) false, .put 0, .resume .writeLoop, .flush, .resume .writeLoop,
    .call (some [2]) false, .put 1, .resume .writeLoop, .flush, .resume .writeLoop]

/-- The first of two frames is acknowledged, which completes its handle. -/
theorem sendWindow_first :
    let cfg : Config := ⟨true, 12, 8, 1024, 1024⟩
    ∃ s s', run (step cfg) (init true) twoFrames = some s ∧
      s.step cfg (.read (.ok (.APDUS 1))) = some s' ∧ s'.cancelled = [0] := by
  intro cfg
  obtain ⟨s, hs, hview⟩ := Option.map_eq_some_iff.mp
    (show (run (step cfg) (init true) twoFrames).map
      (fun s => (decide (s.Acceptable 1), s.waitingAckHandles, s.cancelled, s.ack, s.readLoop)) =
        some (true, [(0, 0), (1, 1)], [], 0, .reading) by decide)
  simp only [Prod.mk.injEq, decide_eq_true_eq] at hview
  obtain ⟨hacceptable, hhandles, hcancelled, hack, hreading⟩ := hview
  have hread : s.step cfg (.read (.ok (.APDUS 1))) =
      some (s.processRead cfg (.ok (.APDUS 1))) := by
    simp only [step, hreading, true_and]
    exact if_pos (by decide)
  obtain ⟨_, _, hacks⟩ := sendWindow (show cfg.sendWindowSize ≤ 0x7FFF by decide) hs
  obtain ⟨hiff, hok, _⟩ := hacks _ 1 _ rfl hread
  refine ⟨s, _, hs, hread, ?_⟩
  rw [(hok (hiff.mpr hacceptable)).2.2, hhandles, hcancelled, hack]
  decide

/-- After an acknowledgement of a frame that was not sent, which is refused, no handle is left of
the frames from `_ack` to `_ssn`. -/
theorem refused_handles_lost :
    ∃ s, run (step ⟨true, 12, 8, 1024, 1024⟩) (init true) (twoFrames ++ [.read (.ok (.APDUS 3))]) =
        some s ∧
      s.waitingAckHandles.map Prod.fst = [] ∧ cyclicRange modulus s.ack s.ssn = [0, 1] := by
  obtain ⟨s, hs, hview⟩ := Option.map_eq_some_iff.mp
    (show (run (step ⟨true, 12, 8, 1024, 1024⟩) (init true)
      (twoFrames ++ [.read (.ok (.APDUS 3))])).map
        (fun s => (s.waitingAckHandles.map Prod.fst, cyclicRange modulus s.ack s.ssn)) =
          some ([], [0, 1]) by decide)
  obtain ⟨hhandles, hrange⟩ := Prod.mk.inj hview
  exact ⟨s, hs, hhandles, hrange⟩

end Conn

end HatDrivers.Iec60870.Apci
