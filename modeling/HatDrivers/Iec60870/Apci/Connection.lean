import HatDrivers.Iec60870.Apci.Encoder
import HatDrivers.Lib.Sequence
import HatDrivers.Lib.Transition

namespace HatDrivers.Iec60870.Apci

open HatDrivers.Lib

/-!
# APCI — connection

A connection is a state that its tasks change one at a time: a step runs one task
from the `await` it is suspended at to the next one (`Conn.step`).  Every
`transport.write` is such an `await`: the APDU joins the bytes the TCP protocol has
to write out, in order, and the task goes on at some later step, which is the next
one when the protocol is not paused.

The fields under *history* record what happened, for the statements about runs; no
step depends on them.
-/

/-! ### State -/

structure Config where
  alwaysEnabled : Bool
  sendWindowSize : ℕ
  receiveWindowSize : ℕ
  /-- Queue sizes; zero means no bound. -/
  sendQueueSize : ℕ
  receiveQueueSize : ℕ
  deriving DecidableEq

/-- A `transport.write`, with the APDUs read and the I-frames received before it. -/
structure Write where
  id : ℕ
  apdu : Apdu
  reads : ℕ
  received : ℕ
  deriving DecidableEq

/-- `_supervisory_handle`: absent, or a timer that is running or has fired. -/
inductive Timer | absent | armed | fired
  deriving DecidableEq

/-- A request in the send queue; its future is the one of a call. -/
structure SendQueueEntry where
  data : Option Bytes
  future : Option ℕ
  waitAck : Bool
  deriving DecidableEq

/-- Where `_read_loop` is suspended. -/
inductive ReadLoop
  /-- `self._transport.read()` -/
  | reading
  /-- `self._receive_queue.put(apdu.data)` -/
  | putting (data : Bytes)
  /-- `self._write_apdus()` of `_process_apdui` -/
  | acknowledging (write : Write)
  /-- `self._write_apdus()` of `STOPDT_ACT` -/
  | stopping (write : Write)
  /-- the write of `STARTDT_CON`, `STOPDT_CON` or `TESTFR_CON` -/
  | confirming (write : Write)
  | finished
  deriving DecidableEq

/-- Where `_write_loop` is suspended. -/
inductive WriteLoop
  /-- `self._send_queue.get()` -/
  | getting
  /-- `self._transport.drain()` -/
  | draining (entry : SendQueueEntry)
  /-- `self._waiting_ack_cv.wait_for(…)`, and whether it was notified -/
  | waiting (entry : SendQueueEntry) (notified : Bool)
  /-- the write of an I-frame -/
  | writing (entry : SendQueueEntry) (write : Write)
  | finished
  deriving DecidableEq

/-- Where `_test_loop` is suspended. -/
inductive TestLoop | sleeping | writing (write : Write) | waiting | finished
  deriving DecidableEq

/-- Where a task of `_on_supervisory_timeout_async` is suspended. -/
inductive Supervisory | starting | writing (write : Write)
  deriving DecidableEq

/-- Where a task of `_wait_ack` is suspended. -/
inductive Wake | starting | waiting | notified
  deriving DecidableEq

/-- A task of `_wait_ack`. -/
structure WaitAck where
  handle : ℕ
  future : ℕ
  wake : Wake
  deriving DecidableEq

/-- Where a call of `send` or `drain` is: suspended at `put` or at its future, or
over. -/
inductive CallState
  | putting | waiting
  | returned
  /-- raised `ConnectionDisabledError` -/
  | disabled
  /-- raised `ConnectionError` -/
  | failed
  /-- was cancelled by its caller -/
  | cancelled
  deriving DecidableEq

/-- A call of `send` (with data) or `drain` (without). -/
structure Call where
  data : Option Bytes
  waitAck : Bool
  state : CallState
  /-- history: how many I-frames had been written when its entry was served -/
  mark : Option ℕ
  deriving DecidableEq

/-- `drain` always has a future, `send` if it waits for the acknowledgement. -/
def Call.hasFuture (call : Call) : Bool := call.data.isNone || call.waitAck

structure Conn where
  isEnabled : Bool
  receiveQueue : List Bytes
  sendQueue : List SendQueueEntry
  sendQueueClosed : Bool
  testEvent : Bool
  ssn : ℕ
  rsn : ℕ
  ack : ℕ
  w : ℕ
  supervisoryHandle : Timer
  /-- The timer handles by sequence number; a handle is known by the I-frame it is for. -/
  waitingAckHandles : List (ℕ × ℕ)
  readLoop : ReadLoop
  writeLoop : WriteLoop
  testLoop : TestLoop
  supervisories : List Supervisory
  waitAcks : List WaitAck
  calls : List Call
  /-- The handles that were cancelled. -/
  cancelled : List ℕ
  /-- `self.close()` was called. -/
  closing : Bool
  /-- The TCP protocol lost its transport. -/
  lost : Bool
  /-- What the TCP protocol has not written out yet. -/
  writeQueue : List Write
  nextWrite : ℕ
  /-- history: what the TCP protocol has written out -/
  sent : List Write
  /-- history: the writes that returned to their task -/
  resumed : List ℕ
  /-- history: the data of the I-frames whose write returned -/
  written : List Bytes
  /-- history: how many of these an acknowledgement covered -/
  covered : ℕ
  /-- history: APDUs read, and I-frames received -/
  reads : ℕ
  received : ℕ
  /-- history: I-frames received that a write that returned acknowledged -/
  acknowledged : ℕ
  /-- history: what was put in the receive queue -/
  delivered : List Bytes
  /-- history: what ended the read and the write loop -/
  errors : List Exn
  deriving DecidableEq

/-- A new connection. -/
def Conn.init (isEnabled : Bool) : Conn where
  isEnabled := isEnabled
  receiveQueue := []
  sendQueue := []
  sendQueueClosed := false
  testEvent := false
  ssn := 0
  rsn := 0
  ack := 0
  w := 0
  supervisoryHandle := .absent
  waitingAckHandles := []
  readLoop := .reading
  writeLoop := .getting
  testLoop := .sleeping
  supervisories := []
  waitAcks := []
  calls := []
  cancelled := []
  closing := false
  lost := false
  writeQueue := []
  nextWrite := 0
  sent := []
  resumed := []
  written := []
  covered := 0
  reads := 0
  received := 0
  acknowledged := 0
  delivered := []
  errors := []

/-! ### Operations -/

namespace Conn

def newWrite (s : Conn) (apdu : Apdu) : Write := ⟨s.nextWrite, apdu, s.reads, s.received⟩

def enqueue (s : Conn) (write : Write) : Conn :=
  { s with writeQueue := s.writeQueue ++ [write], nextWrite := s.nextWrite + 1 }

/-- `Transport.write` up to the wait for the TCP protocol. -/
def write (s : Conn) (apdu : Apdu) : Except Exn (Conn × Write) :=
  match encode apdu with
  | .error e => .error e
  | .ok _ =>
    if s.closing || s.lost then .error .connectionError
    else .ok (s.enqueue (s.newWrite apdu), s.newWrite apdu)

/-- A write returns to its task. -/
def resumeWrite (s : Conn) (write : Write) : Conn := { s with resumed := s.resumed ++ [write.id] }

/-- A write raises in its task; it is dropped if it is not written out yet. -/
def dropWrite (s : Conn) (write : Write) : Conn := { s with writeQueue := s.writeQueue.erase write }

def startSupervisoryTimeout (s : Conn) : Conn :=
  if s.supervisoryHandle = .absent then { s with supervisoryHandle := .armed } else s

def stopSupervisoryTimeout (s : Conn) : Conn := { s with supervisoryHandle := .absent }

/-- After a write of an I- or S-frame. -/
def acknowledge (s : Conn) (write : Write) : Conn :=
  { (s.resumeWrite write).stopSupervisoryTimeout with
    w := 0, acknowledged := max s.acknowledged write.received }

/-- Sets the outcome of the calls whose future is not done. -/
def settle (s : Conn) (futures : List ℕ) (state : CallState) : Conn :=
  { s with
    calls := s.calls.mapIdx fun i call =>
      if i ∈ futures ∧ call.state = .waiting then { call with state := state } else call }

/-- Records how many I-frames had been written when the entry of a call was served. -/
def setMark (s : Conn) (future : Option ℕ) : Conn :=
  { s with
    calls := s.calls.mapIdx fun i call =>
      if some i = future then { call with mark := some s.written.length } else call }

/-- Is the future of a call not done? -/
def pending (s : Conn) (future : ℕ) : Bool :=
  match s.calls[future]? with
  | some call => call.state = .waiting
  | none => false

def logError (s : Conn) (e : Exn) : Conn := { s with errors := s.errors ++ [e] }

/-- The end of `_read_loop`. -/
def endReadLoop (s : Conn) (e : Exn) : Conn :=
  { s.logError e with readLoop := .finished, closing := true }

/-- The end of `_write_loop`: its `finally`, with the entry it was serving. -/
def endWriteLoop (s : Conn) (entry : Option SendQueueEntry) (e : Exn) : Conn :=
  { (s.logError e).stopSupervisoryTimeout.settle
      ((entry.toList ++ s.sendQueue).filterMap (·.future)) .failed with
    closing := true
    sendQueueClosed := true
    sendQueue := []
    cancelled := s.cancelled ++ s.waitingAckHandles.map (·.2)
    writeLoop := .finished }

/-! ### Read loop -/

/-- A write of the read loop, which goes on at `next`. -/
def readLoopWrite (s : Conn) (apdu : Apdu) (next : Write → ReadLoop) : Conn :=
  match s.write apdu with
  | .error e => s.endReadLoop e
  | .ok (s, write) => { s with readLoop := next write }

/-- `self._waiting_ack_cv.notify_all()` -/
def notifyAll (s : Conn) : Conn :=
  { s with
    waitAcks := s.waitAcks.map fun task =>
      if task.wake = .waiting then { task with wake := .notified } else task
    writeLoop :=
      match s.writeLoop with
      | .waiting entry _ => .waiting entry true
      | writeLoop => writeLoop }

/-- `_set_ack`, and whether it did not raise. -/
def setAck (s : Conn) (ack : ℕ) : Conn × Bool :=
  let (handles, popped, all) := popAll (cyclicRange modulus s.ack ack) s.waitingAckHandles
  let s := { s with
    waitingAckHandles := handles
    cancelled := s.cancelled ++ popped
    covered := min s.written.length (s.covered + cyclicDistance modulus s.ack ack) }
  if all then ({ s with ack := ack }.notifyAll, true) else (s, false)

/-- `_process_apdui` after the payload was put in the receive queue. -/
def countReceived (cfg : Config) (s : Conn) : Conn :=
  let s := { s with w := s.w + 1 }
  if s.w ≥ cfg.receiveWindowSize then s.readLoopWrite (.APDUS s.rsn) .acknowledging
  else { s with readLoop := .reading }

/-- The payload is put in the receive queue. -/
def putReceived (s : Conn) (data : Bytes) : Conn :=
  { s with receiveQueue := s.receiveQueue ++ [data], delivered := s.delivered ++ [data] }

def receiveQueueFull (cfg : Config) (s : Conn) : Prop :=
  0 < cfg.receiveQueueSize ∧ cfg.receiveQueueSize ≤ s.receiveQueue.length

instance (cfg : Config) (s : Conn) : Decidable (s.receiveQueueFull cfg) := by
  unfold receiveQueueFull
  infer_instance

def processApdui (cfg : Config) (s : Conn) (ssn rsn : ℕ) (data : Bytes) : Conn :=
  let (s, ok) := s.setAck rsn
  if !ok then s.endReadLoop (.exception "received ack for unsent sequence number")
  else if ssn ≠ s.rsn then s.endReadLoop (.exception "missing apdu sequence number")
  else
    let s := { s with rsn := (s.rsn + 1) % modulus, received := s.received + 1 }
    let s := s.startSupervisoryTimeout
    if data = [] then s.countReceived cfg
    else if s.receiveQueueFull cfg then { s with readLoop := .putting data }
    else (s.putReceived data).countReceived cfg

def processApdus (s : Conn) (rsn : ℕ) : Conn :=
  let (s, ok) := s.setAck rsn
  if !ok then s.endReadLoop (.exception "received ack for unsent sequence number") else s

def processApduu (cfg : Config) (s : Conn) (function : ApduFunction) : Conn :=
  match function with
  | .STARTDT_ACT => { s with isEnabled := true }.readLoopWrite (.APDUU .STARTDT_CON) .confirming
  | .STOPDT_ACT => if cfg.alwaysEnabled then s else s.readLoopWrite (.APDUS s.rsn) .stopping
  | .TESTFR_ACT => s.readLoopWrite (.APDUU .TESTFR_CON) .confirming
  | .TESTFR_CON => { s with testEvent := true }
  | .STARTDT_CON | .STOPDT_CON => s

/-- `_read_loop` after `transport.read`. -/
def processRead (cfg : Config) (s : Conn) : Except Exn Apdu → Conn
  | .error e => s.endReadLoop e
  | .ok apdu =>
    let s := { s with reads := s.reads + 1 }
    match apdu with
    | .APDUI ssn rsn data => s.processApdui cfg ssn rsn data
    | .APDUS rsn => s.processApdus rsn
    | .APDUU function => s.processApduu cfg function

/-- `_read_loop` goes on after a write or a put. -/
def resumeReadLoop (cfg : Config) (s : Conn) : Option Conn :=
  match s.readLoop with
  | .putting data =>
    if s.receiveQueueFull cfg then none else some ((s.putReceived data).countReceived cfg)
  | .acknowledging write =>
    if write ∈ s.writeQueue then none else some { s.acknowledge write with readLoop := .reading }
  | .stopping write =>
    if write ∈ s.writeQueue then none
    else some ({ s.acknowledge write with isEnabled := false }.readLoopWrite
      (.APDUU .STOPDT_CON) .confirming)
  | .confirming write =>
    if write ∈ s.writeQueue then none else some { s.resumeWrite write with readLoop := .reading }
  | .reading | .finished => none

/-! ### Write loop -/

/-- `_write_loop` after an entry was served: without a handle if there was nothing
to acknowledge. -/
def finishEntry (s : Conn) (entry : SendQueueEntry) (handle : Option ℕ) : Conn :=
  match entry.future with
  | none => { s with writeLoop := .getting }
  | some future =>
    match entry.waitAck, handle with
    | true, some handle =>
      if !s.pending future then { s with writeLoop := .getting }
      else if s.closing then s.endWriteLoop entry (.exception "group not open")
      else { s with
        waitAcks := s.waitAcks ++ [⟨handle, future, .starting⟩], writeLoop := .getting }
    | _, _ => { s.settle [future] .returned with writeLoop := .getting }

/-- `_write_apdui` after the wait for the send window. -/
def writeApdui (s : Conn) (entry : SendQueueEntry) (data : Bytes) : Conn :=
  if !s.isEnabled then { s.settle entry.future.toList .disabled with writeLoop := .getting }
  else
    match s.write (.APDUI s.ssn s.rsn data) with
    | .error e => s.endWriteLoop entry e
    | .ok (s, write) => { s with writeLoop := .writing entry write }

/-- The wait for the send window. -/
def waitWindow (cfg : Config) (s : Conn) (entry : SendQueueEntry) (data : Bytes) : Conn :=
  if s.waitingAckHandles.length < cfg.sendWindowSize then s.writeApdui entry data
  else { s with writeLoop := .waiting entry false }

/-- `_write_loop` after `send_queue.get`. -/
def serveEntry (cfg : Config) (s : Conn) (entry : SendQueueEntry) : Conn :=
  match entry.data with
  | none => { s with writeLoop := .draining entry }
  | some data =>
    if (s.waitingAckHandles.lookup s.ssn).isSome then
      s.endWriteLoop entry (.exception "can not reuse already registered ssn")
    else s.waitWindow cfg entry data

/-- The end of `_write_apdui`: the handle of the I-frame is registered under its
sequence number, which was free and which no other task registers. -/
def registerHandle (s : Conn) (data : Bytes) (write : Write) : Conn :=
  { s.acknowledge write with
    waitingAckHandles := s.waitingAckHandles ++ [(s.ssn, s.written.length)]
    ssn := (s.ssn + 1) % modulus
    written := s.written ++ [data] }

/-- `_write_loop` after the write of an I-frame. -/
def finishWrite (s : Conn) (entry : SendQueueEntry) (data : Bytes) (write : Write) : Conn :=
  ((s.registerHandle data write).setMark entry.future).finishEntry entry (some s.written.length)

/-- `_write_loop` after `transport.drain`. -/
def finishDrain (s : Conn) (entry : SendQueueEntry) : Conn :=
  let ssn := (if s.ssn = 0 then modulus else s.ssn) - 1
  (s.setMark entry.future).finishEntry entry (s.waitingAckHandles.lookup ssn)

/-- `_write_loop` goes on. -/
def resumeWriteLoop (cfg : Config) (s : Conn) : Option Conn :=
  match s.writeLoop with
  | .getting =>
    match s.sendQueue with
    | [] => none
    | entry :: sendQueue => some ({ s with sendQueue := sendQueue }.serveEntry cfg entry)
  | .draining entry => some (s.finishDrain entry)
  | .waiting entry notified =>
    if notified then entry.data.map fun data => s.waitWindow cfg entry data else none
  | .writing entry write =>
    if write ∈ s.writeQueue then none
    else entry.data.map fun data => s.finishWrite entry data write
  | .finished => none

/-! ### Other tasks -/

/-- `_test_loop` goes on; its `sleep` can end at any time. -/
def resumeTestLoop (s : Conn) : Option Conn :=
  match s.testLoop with
  | .sleeping =>
    match ({ s with testEvent := false } : Conn).write (.APDUU .TESTFR_ACT) with
    | .error _ => some { s with testEvent := false, testLoop := .finished, closing := true }
    | .ok (s, write) => some { s with testLoop := .writing write }
  | .writing write =>
    if write ∈ s.writeQueue then none else some { s.resumeWrite write with testLoop := .waiting }
  | .waiting => if s.testEvent then some { s with testLoop := .sleeping } else none
  | .finished => none

/-- A task of `_on_supervisory_timeout_async` goes on. -/
def resumeSupervisory (s : Conn) (i : ℕ) : Option Conn :=
  match s.supervisories[i]? with
  | some .starting =>
    match s.write (.APDUS s.rsn) with
    | .error _ => some { s with supervisories := s.supervisories.eraseIdx i }
    | .ok (s, write) => some { s with supervisories := s.supervisories.set i (.writing write) }
  | some (.writing write) =>
    if write ∈ s.writeQueue then none
    else some { s.acknowledge write with supervisories := s.supervisories.eraseIdx i }
  | none => none

/-- A task of `_wait_ack` goes on. -/
def resumeWaitAck (s : Conn) (i : ℕ) : Option Conn :=
  match s.waitAcks[i]? with
  | some task =>
    if task.wake = .waiting then none
    else if task.handle ∈ s.cancelled then
      some { s.settle [task.future] .returned with waitAcks := s.waitAcks.eraseIdx i }
    else some { s with waitAcks := s.waitAcks.set i { task with wake := .waiting } }
  | none => none

/-! ### Exceptions

A task ends when the `await` it is suspended at raises: a transport operation once
the transport is lost or the group closes, any other one when the group cancels the
task, which it does at some time after `close`.  A task is not cancelled before its
first step. -/

/-- Do transport operations raise? -/
def broken (s : Conn) : Bool := s.closing || s.lost

def failReadLoop (s : Conn) : Option Conn :=
  match s.readLoop with
  | .reading => if s.broken then some (s.endReadLoop .connectionError) else none
  | .putting _ => if s.closing then some (s.endReadLoop .connectionError) else none
  | .acknowledging write | .stopping write | .confirming write =>
    if s.broken then some ((s.dropWrite write).endReadLoop .connectionError) else none
  | .finished => none

def failWriteLoop (s : Conn) : Option Conn :=
  match s.writeLoop with
  | .getting => if s.closing then some (s.endWriteLoop none .connectionError) else none
  | .draining entry | .waiting entry _ =>
    if s.closing then some (s.endWriteLoop entry .connectionError) else none
  | .writing entry write =>
    if s.broken then some ((s.dropWrite write).endWriteLoop entry .connectionError) else none
  | .finished => none

/-- While it waits for the answer, `_test_loop` also ends by the response timeout. -/
def failTestLoop (s : Conn) : Option Conn :=
  match s.testLoop with
  | .sleeping => if s.closing then some { s with testLoop := .finished } else none
  | .writing write =>
    if s.broken then some { s.dropWrite write with testLoop := .finished, closing := true }
    else none
  | .waiting => some { s with testLoop := .finished, closing := true }
  | .finished => none

def failSupervisory (s : Conn) (i : ℕ) : Option Conn :=
  match s.supervisories[i]? with
  | some (.writing write) =>
    if s.broken then some { s.dropWrite write with supervisories := s.supervisories.eraseIdx i }
    else none
  | _ => none

def failWaitAck (s : Conn) (i : ℕ) : Option Conn :=
  match s.waitAcks[i]? with
  | some task =>
    if s.closing ∧ task.wake ≠ .starting then
      some { s.settle [task.future] .failed with waitAcks := s.waitAcks.eraseIdx i }
    else none
  | none => none

/-! ### Calls -/

def setCall (s : Conn) (i : ℕ) (state : CallState) : Conn :=
  { s with calls := s.calls.modify i fun call => { call with state := state } }

/-- `self._send_queue.put(entry)` of a call. -/
def put (cfg : Config) (s : Conn) (i : ℕ) : Option Conn :=
  match s.calls[i]? with
  | some call =>
    if call.state ≠ .putting then none
    else if s.sendQueueClosed then some (s.setCall i .failed)
    else if 0 < cfg.sendQueueSize ∧ cfg.sendQueueSize ≤ s.sendQueue.length then none
    else
      let future := if call.hasFuture then some i else none
      let state := if call.hasFuture then CallState.waiting else .returned
      some { s.setCall i state with
        sendQueue := s.sendQueue ++ [⟨call.data, future, call.waitAck⟩] }
  | none => none

/-- The caller of `send` or `drain` is cancelled. -/
def cancelCall (s : Conn) (i : ℕ) : Option Conn :=
  match s.calls[i]? with
  | some call =>
    if call.state = .putting ∨ call.state = .waiting then some (s.setCall i .cancelled) else none
  | none => none

end Conn

/-! ### Steps -/

inductive Task
  | readLoop | writeLoop | testLoop
  | supervisory (i : ℕ)
  | waitAck (i : ℕ)
  deriving DecidableEq

inductive Event
  /-- a call of `send` (with data) or `drain` starts -/
  | call (data : Option Bytes) (waitAck : Bool)
  /-- a call puts its entry in the send queue -/
  | put (i : ℕ)
  | cancelCall (i : ℕ)
  /-- a call of `receive` takes a payload -/
  | receive
  | close
  /-- `_on_response_timeout` of an I-frame -/
  | responseTimeout (handle : ℕ)
  /-- `_on_supervisory_timeout` -/
  | supervisoryTimeout
  /-- the TCP protocol writes an APDU out -/
  | flush
  | connectionLost
  /-- `transport.read` of the read loop returns or raises -/
  | read (result : Except Exn Apdu)
  /-- a task goes on -/
  | resume (task : Task)
  /-- what a task waits for raises -/
  | fail (task : Task)

/-- What `transport.read` can return or raise: sequence numbers are in range. -/
def Read : Except Exn Apdu → Prop
  | .ok apdu => apdu.InRange
  | .error _ => True

instance (result : Except Exn Apdu) : Decidable (Read result) := by
  cases result <;> unfold Read <;> infer_instance

/-- One step, if the event can happen. -/
def Conn.step (cfg : Config) (s : Conn) : Event → Option Conn
  | .call data waitAck => some { s with calls := s.calls ++ [⟨data, waitAck, .putting, none⟩] }
  | .put i => s.put cfg i
  | .cancelCall i => s.cancelCall i
  | .receive =>
    match s.receiveQueue with
    | [] => none
    | _ :: receiveQueue => some { s with receiveQueue := receiveQueue }
  | .close => some { s with closing := true }
  | .responseTimeout handle =>
    if handle < s.written.length ∧ handle ∉ s.cancelled then some { s with closing := true }
    else none
  | .supervisoryTimeout =>
    if s.supervisoryHandle = .armed then
      some { s with
        supervisoryHandle := .fired
        supervisories := s.supervisories ++ if s.closing then [] else [.starting] }
    else none
  | .flush =>
    match s.writeQueue with
    | [] => none
    | write :: writeQueue =>
      if s.lost then none else some { s with writeQueue := writeQueue, sent := s.sent ++ [write] }
  | .connectionLost => some { s with lost := true }
  | .read result =>
    if s.readLoop = .reading ∧ Read result then some (s.processRead cfg result) else none
  | .resume .readLoop => s.resumeReadLoop cfg
  | .resume .writeLoop => s.resumeWriteLoop cfg
  | .resume .testLoop => s.resumeTestLoop
  | .resume (.supervisory i) => s.resumeSupervisory i
  | .resume (.waitAck i) => s.resumeWaitAck i
  | .fail .readLoop => s.failReadLoop
  | .fail .writeLoop => s.failWriteLoop
  | .fail .testLoop => s.failTestLoop
  | .fail (.supervisory i) => s.failSupervisory i
  | .fail (.waitAck i) => s.failWaitAck i

end HatDrivers.Iec60870.Apci
