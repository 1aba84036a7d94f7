import HatDrivers.Cotp.Encoder
import HatDrivers.Tpkt
import HatDrivers.Lib.Transition

namespace HatDrivers.Cotp

open HatDrivers.Lib

/-!
# COTP — data transfer

One direction of a connection: the send queue and the send loop of one end, the TCP stream, and
the TPKT read loop, the receive loop and the queues of the other end.  Each loop goes on by
itself from one `await` to the next, in any order with the others, and the stream arrives in
any pieces.

Whatever is still on its way in a state, is a list of messages (`Transfer.Pending`); with the
received messages before it, it is what was sent.
-/

/-! ### State -/

/-- `data[:stop]`. -/
def sliceTo (data : Bytes) (stop : ℤ) : Bytes :=
  data.take (if stop < 0 then (data.length + stop).toNat else stop.toNat)

/-- `data[start:]`. -/
def sliceFrom (data : Bytes) (start : ℤ) : Bytes :=
  data.drop (if start < 0 then (data.length + start).toNat else start.toNat)

structure Config where
  maxTpdu : ℕ
  sendQueueSize : ℕ
  tpktReceiveQueueSize : ℕ
  receiveQueueSize : ℕ

/-- Where `_send_loop` is. -/
inductive SendLoop
  /-- at `self._send_queue.get()` -/
  | waiting
  /-- in the inner loop, with the rest of the data -/
  | sending (data : Bytes)
  | failed (e : Exn)
  deriving DecidableEq

/-- Where `_receive_loop` is. -/
inductive ReceiveLoop
  /-- at `self._conn.receive()` -/
  | waiting
  /-- at `self._receive_queue.put(data)` -/
  | putting (data : Bytes)
  /-- after a DR or ER TPDU -/
  | disconnected
  | failed (e : Exn)
  deriving DecidableEq

structure Transfer where
  /-- data to be sent, or `None` for a call of `drain` -/
  sendQueue : List (Option Bytes)
  sendLoop : SendLoop
  /-- what is written and not received yet -/
  stream : Bytes
  /-- what is received and not read yet -/
  inputBuffer : Bytes
  readLoop : Tpkt.ReadLoop
  tpktReceiveQueue : List Bytes
  receiveLoop : ReceiveLoop
  dataQueue : List Bytes
  receiveQueue : List Bytes
  /-- history: the messages put in the send queue -/
  sent : List Bytes
  /-- history: the DT TPDUs that were sent, each with the packet that was written -/
  packets : List (DT × Bytes)
  /-- history: the messages put in the receive queue -/
  received : List Bytes

inductive Event
  /-- a call of `send` puts its data in the send queue -/
  | send (data : Bytes)
  /-- a call of `drain` puts its future in the send queue -/
  | drain
  /-- `_send_loop` takes an entry of its queue -/
  | getData
  /-- an iteration of the inner loop of `_send_loop`, or its end -/
  | sendTpdu
  /-- the next bytes of the stream arrive -/
  | deliver (n : ℕ)
  /-- `_read_loop` goes on from `readexactly` -/
  | read
  /-- `_read_loop` puts a TPDU in its queue -/
  | putTpdu
  /-- `_receive_loop` takes a TPDU of the queue -/
  | receiveTpdu
  /-- `_receive_loop` puts a message in its queue -/
  | putData
  /-- a call of `receive` takes a message -/
  | receive
  deriving DecidableEq

namespace Transfer

def init : Transfer where
  sendQueue := []
  sendLoop := .waiting
  stream := []
  inputBuffer := []
  readLoop := .header
  tpktReceiveQueue := []
  receiveLoop := .waiting
  dataQueue := []
  receiveQueue := []
  sent := []
  packets := []
  received := []

/-! ### Steps -/

variable (cfg : Config)

/-- The loop writes the packet of the next DT TPDU of its data. -/
def sendTpdu (s : Transfer) (data : Bytes) : Transfer :=
  let maxSize : ℤ := cfg.maxTpdu - 3
  let rest := sliceFrom data maxSize
  let tpdu : DT := ⟨rest.isEmpty, sliceTo data maxSize⟩
  match encode (.DT tpdu) >>= Tpkt.packet with
  | .error e => { s with sendLoop := .failed e }
  | .ok packet => { s with
      sendLoop := .sending rest, stream := s.stream ++ packet,
      packets := s.packets ++ [(tpdu, packet)] }

/-- The loop goes on with a TPDU. -/
def receiveTpdu (s : Transfer) (tpduBytes : Bytes) : Transfer :=
  match decode tpduBytes with
  | .error e => { s with receiveLoop := .failed e }
  | .ok (.DR _) | .ok (.ER _) => { s with receiveLoop := .disconnected }
  | .ok (.DT tpdu) =>
    let dataQueue := s.dataQueue ++ [tpdu.data]
    if ¬ tpdu.eot then { s with dataQueue := dataQueue }
    else { s with dataQueue := [], receiveLoop := .putting dataQueue.flatten }
  | .ok _ => s

def step (s : Transfer) : Event → Option Transfer
  | .send data =>
    if ¬ hasRoom cfg.sendQueueSize s.sendQueue then none
    else some { s with sendQueue := s.sendQueue ++ [some data], sent := s.sent ++ [data] }
  | .drain =>
    if ¬ hasRoom cfg.sendQueueSize s.sendQueue then none
    else some { s with sendQueue := s.sendQueue ++ [none] }
  | .getData =>
    match s.sendLoop, s.sendQueue with
    | .waiting, some data :: sendQueue =>
      some { s with sendQueue := sendQueue, sendLoop := .sending data }
    | .waiting, none :: sendQueue => some { s with sendQueue := sendQueue }
    | _, _ => none
  | .sendTpdu =>
    match s.sendLoop with
    | .sending [] => some { s with sendLoop := .waiting }
    | .sending data => some (s.sendTpdu cfg data)
    | _ => none
  | .deliver n =>
    if n = 0 ∨ s.stream.length < n then none
    else some { s with
      inputBuffer := s.inputBuffer ++ s.stream.take n, stream := s.stream.drop n }
  | .read =>
    match s.readLoop.awaits with
    | some n =>
      if s.inputBuffer.length < n then none
      else some { s with
        readLoop := s.readLoop.read (s.inputBuffer.take n),
        inputBuffer := s.inputBuffer.drop n }
    | none => none
  | .putTpdu =>
    match s.readLoop with
    | .putting data =>
      if ¬ hasRoom cfg.tpktReceiveQueueSize s.tpktReceiveQueue then none
      else some { s with
        readLoop := .header, tpktReceiveQueue := s.tpktReceiveQueue ++ [data] }
    | _ => none
  | .receiveTpdu =>
    match s.receiveLoop, s.tpktReceiveQueue with
    | .waiting, tpduBytes :: queue =>
      some (({ s with tpktReceiveQueue := queue } : Transfer).receiveTpdu tpduBytes)
    | _, _ => none
  | .putData =>
    match s.receiveLoop with
    | .putting data =>
      if ¬ hasRoom cfg.receiveQueueSize s.receiveQueue then none
      else some { s with
        receiveLoop := .waiting, receiveQueue := s.receiveQueue ++ [data],
        received := s.received ++ [data] }
    | _ => none
  | .receive =>
    match s.receiveQueue with
    | _ :: queue => some { s with receiveQueue := queue }
    | [] => none

end Transfer

/-! ### Messages on their way -/

/-- The messages that DT TPDUs complete, behind the data of earlier ones, and the data of those
that are left. -/
def assemble : Bytes → List DT → List Bytes × Bytes
  | before, [] => ([], before)
  | before, tpdu :: tpdus =>
    if tpdu.eot then
      ((before ++ tpdu.data) :: (assemble [] tpdus).1, (assemble [] tpdus).2)
    else assemble (before ++ tpdu.data) tpdus

/-- One more TPDU at the end. -/
theorem assemble_concat (before : Bytes) (tpdus : List DT) (tpdu : DT) :
    assemble before (tpdus ++ [tpdu]) =
      if tpdu.eot then
        ((assemble before tpdus).1 ++ [(assemble before tpdus).2 ++ tpdu.data], [])
      else ((assemble before tpdus).1, (assemble before tpdus).2 ++ tpdu.data) := by
  induction tpdus generalizing before with
  | nil => cases h : tpdu.eot <;> simp [assemble, h]
  | cons first tpdus ih =>
    rw [List.cons_append, assemble, assemble]
    cases hfirst : first.eot with
    | false => simpa using ih (before ++ first.data)
    | true => cases h : tpdu.eot <;> simp [ih, h]

/-- The messages among entries of the send queue, without empty ones, of which nothing is
sent. -/
def nonEmpty (datas : List Bytes) : List Bytes := datas.filter (· ≠ [])

/-- The message that the send loop is at, of which `before` is sent. -/
def SendLoop.message (before : Bytes) : SendLoop → List Bytes
  | .sending data => if data = [] then [] else [before ++ data]
  | _ => []

/-- The message that the receive loop is at. -/
def ReceiveLoop.message : ReceiveLoop → List Bytes
  | .putting data => [data]
  | _ => []

/-- A packet carries a TPDU, of allowed size. -/
def Carries (maxTpdu : ℕ) (tpdu : DT) (packet : Bytes) : Prop :=
  ∃ tpduBytes, encode (.DT tpdu) = .ok tpduBytes ∧ tpduBytes.length ≤ maxTpdu ∧
    Tpkt.packet tpduBytes = .ok packet

namespace Transfer

/-- What is on its way: the data of packets that are not read, and the TPDUs of these and of
the TPKT receive queue. -/
structure Pending (s : Transfer) (datas : List Bytes) (tpdus : List DT) : Prop where
  expects : s.readLoop.Expects (s.inputBuffer ++ s.stream) datas
  encoded : List.Forall₂ (fun tpduBytes tpdu => encode (.DT tpdu) = .ok tpduBytes)
    (s.tpktReceiveQueue ++ datas) tpdus
  /-- between messages there is no data left -/
  finished : s.sendLoop = .waiting ∨ s.sendLoop = .sending [] →
    (assemble s.dataQueue.flatten tpdus).2 = []
  messages : s.received ++ (s.receiveLoop.message ++
    ((assemble s.dataQueue.flatten tpdus).1 ++
      (s.sendLoop.message (assemble s.dataQueue.flatten tpdus).2 ++
        nonEmpty (s.sendQueue.filterMap id)))) = nonEmpty s.sent

structure Inv (cfg : Config) (s : Transfer) : Prop where
  pending : ∃ datas tpdus, s.Pending datas tpdus
  sends : s.sendLoop = .waiting ∨ ∃ data, s.sendLoop = .sending data
  receives : s.receiveLoop = .waiting ∨ ∃ data, s.receiveLoop = .putting data
  carries : ∀ p ∈ s.packets, Carries cfg.maxTpdu p.1 p.2

variable {cfg : Config} {s s' : Transfer} {datas : List Bytes} {tpdus : List DT}

theorem inv_init : Inv cfg init where
  pending := ⟨[], [], .header .nil, .nil, fun _ => rfl, rfl⟩
  sends := .inl rfl
  receives := .inl rfl
  carries := nofun

/-! ### What one step does -/

theorem step_send {data : Bytes} : step cfg s (.send data) = some s' ↔
    hasRoom cfg.sendQueueSize s.sendQueue ∧
      s' = { s with sendQueue := s.sendQueue ++ [some data], sent := s.sent ++ [data] } := by
  cases h : hasRoom cfg.sendQueueSize s.sendQueue <;> simp [step, h, eq_comm]

theorem step_drain : step cfg s .drain = some s' ↔
    hasRoom cfg.sendQueueSize s.sendQueue ∧
      s' = { s with sendQueue := s.sendQueue ++ [none] } := by
  cases h : hasRoom cfg.sendQueueSize s.sendQueue <;> simp [step, h, eq_comm]

theorem step_getData : step cfg s .getData = some s' ↔
    s.sendLoop = .waiting ∧ ∃ entry sendQueue, s.sendQueue = entry :: sendQueue ∧
      s' = { s with
        sendQueue := sendQueue, sendLoop := entry.elim .waiting SendLoop.sending } := by
  cases hloop : s.sendLoop with
  | waiting =>
    cases hqueue : s.sendQueue with
    | nil => simp [step, hloop, hqueue]
    | cons entry queue => cases entry <;> simp [step, hloop, hqueue, eq_comm]
  | sending data => simp [step, hloop]
  | failed e => simp [step, hloop]

theorem step_sendTpdu : step cfg s .sendTpdu = some s' ↔ ∃ data, s.sendLoop = .sending data ∧
    (data = [] ∧ s' = { s with sendLoop := .waiting } ∨
      data ≠ [] ∧ s' = s.sendTpdu cfg data) := by
  cases hloop : s.sendLoop with
  | waiting => simp [step, hloop]
  | sending data => cases data <;> simp [step, hloop, eq_comm]
  | failed e => simp [step, hloop]

theorem step_deliver {n : ℕ} : step cfg s (.deliver n) = some s' ↔
    (n ≠ 0 ∧ n ≤ s.stream.length) ∧ s' = { s with
      inputBuffer := s.inputBuffer ++ s.stream.take n, stream := s.stream.drop n } := by
  by_cases h : n = 0 ∨ s.stream.length < n
  · simp only [step, if_pos h]
    exact iff_of_false nofun fun h' => by omega
  · simp only [step, if_neg h, Option.some.injEq, eq_comm (b := s')]
    exact (and_iff_right (by omega)).symm

theorem step_read : step cfg s .read = some s' ↔ ∃ n, s.readLoop.awaits = some n ∧
    n ≤ s.inputBuffer.length ∧ s' = { s with
      readLoop := s.readLoop.read (s.inputBuffer.take n),
      inputBuffer := s.inputBuffer.drop n } := by
  cases hawaits : s.readLoop.awaits with
  | none => simp [step, hawaits]
  | some n =>
    by_cases h : s.inputBuffer.length < n
    · simp [step, hawaits, h]
    · simp [step, hawaits, h, Nat.le_of_not_lt h, eq_comm]

theorem step_putTpdu : step cfg s .putTpdu = some s' ↔ ∃ data, s.readLoop = .putting data ∧
    hasRoom cfg.tpktReceiveQueueSize s.tpktReceiveQueue ∧ s' = { s with
      readLoop := .header, tpktReceiveQueue := s.tpktReceiveQueue ++ [data] } := by
  cases hloop : s.readLoop with
  | putting data =>
    cases h : hasRoom cfg.tpktReceiveQueueSize s.tpktReceiveQueue <;>
      simp [step, hloop, h, eq_comm]
  | header => simp [step, hloop]
  | data n => simp [step, hloop]
  | failed e => simp [step, hloop]

theorem step_receiveTpdu : step cfg s .receiveTpdu = some s' ↔ s.receiveLoop = .waiting ∧
    ∃ tpduBytes queue, s.tpktReceiveQueue = tpduBytes :: queue ∧
      s' = ({ s with tpktReceiveQueue := queue } : Transfer).receiveTpdu tpduBytes := by
  cases hloop : s.receiveLoop with
  | waiting => cases hqueue : s.tpktReceiveQueue <;> simp [step, hloop, hqueue, eq_comm]
  | putting data => simp [step, hloop]
  | disconnected => simp [step, hloop]
  | failed e => simp [step, hloop]

theorem step_putData : step cfg s .putData = some s' ↔ ∃ data, s.receiveLoop = .putting data ∧
    hasRoom cfg.receiveQueueSize s.receiveQueue ∧ s' = { s with
      receiveLoop := .waiting, receiveQueue := s.receiveQueue ++ [data],
      received := s.received ++ [data] } := by
  cases hloop : s.receiveLoop with
  | putting data =>
    cases h : hasRoom cfg.receiveQueueSize s.receiveQueue <;> simp [step, hloop, h, eq_comm]
  | waiting => simp [step, hloop]
  | disconnected => simp [step, hloop]
  | failed e => simp [step, hloop]

theorem step_receive : step cfg s .receive = some s' ↔ ∃ data queue,
    s.receiveQueue = data :: queue ∧ s' = { s with receiveQueue := queue } := by
  cases h : s.receiveQueue <;> simp [step, h, eq_comm]

/-! ### What one step keeps -/

/-- The next fragment is sent as a TPDU, in a packet. -/
theorem sendTpdu_eq (h4 : 4 ≤ cfg.maxTpdu) (hmax : cfg.maxTpdu ≤ 32768) (data : Bytes) :
    ∃ packet, Carries cfg.maxTpdu
      ⟨(data.drop (cfg.maxTpdu - 3)).isEmpty, data.take (cfg.maxTpdu - 3)⟩ packet ∧
      packet.length = (data.take (cfg.maxTpdu - 3)).length + 7 ∧
      s.sendTpdu cfg data = { s with
        sendLoop := .sending (data.drop (cfg.maxTpdu - 3)), stream := s.stream ++ packet,
        packets := s.packets ++
          [(⟨(data.drop (cfg.maxTpdu - 3)).isEmpty, data.take (cfg.maxTpdu - 3)⟩, packet)] } := by
  have hsize : ((cfg.maxTpdu : ℤ) - 3).toNat = cfg.maxTpdu - 3 := by omega
  have hpos : ¬ (cfg.maxTpdu : ℤ) - 3 < 0 := by omega
  have htake : (data.take (cfg.maxTpdu - 3)).length ≤ cfg.maxTpdu - 3 :=
    List.length_take_le ..
  set tpdu : DT := ⟨(data.drop (cfg.maxTpdu - 3)).isEmpty, data.take (cfg.maxTpdu - 3)⟩
    with htpdu
  have hencode := encode_DT tpdu
  set tpduBytes := bytesOf [2, 0xF0, if tpdu.eot then 0x80 else 0] ++ tpdu.data with htpduBytes
  have hlen : tpduBytes.length = (data.take (cfg.maxTpdu - 3)).length + 3 := by
    rw [htpduBytes, List.length_append, length_bytesOf]
    exact Nat.add_comm ..
  have hpacket := Tpkt.packet_eq_ok.mpr ⟨⟨by omega, by omega⟩, Eq.refl (_ ++ tpduBytes)⟩
  refine ⟨_, ⟨tpduBytes, hencode, by omega, hpacket⟩, ?_, ?_⟩
  · rw [(Tpkt.length_packet hpacket).1, hlen]
  · simp only [sendTpdu, sliceTo, sliceFrom, hsize, if_neg hpos, ← htpdu, hencode, ok_bind, hpacket]

/-- A fragment of the message, with the rest of it. -/
theorem Pending.sendTpdu {data packet : Bytes} {n : ℕ} (h : s.Pending datas tpdus)
    (hloop : s.sendLoop = .sending data) (hne : data ≠ [])
    (hcarries : Carries cfg.maxTpdu ⟨(data.drop n).isEmpty, data.take n⟩ packet) :
    ∃ datas' tpdus', Pending { s with
      sendLoop := .sending (data.drop n), stream := s.stream ++ packet,
      packets := s.packets ++ [(⟨(data.drop n).isEmpty, data.take n⟩, packet)] }
      datas' tpdus' := by
  obtain ⟨tpduBytes, hencode, _, hpacket⟩ := hcarries
  set before := assemble s.dataQueue.flatten tpdus with hbefore
  have hmessages := h.messages
  rw [hloop, SendLoop.message, if_neg hne, ← hbefore] at hmessages
  refine ⟨datas ++ [tpduBytes], tpdus ++ [⟨(data.drop n).isEmpty, data.take n⟩], ?_, ?_, ?_, ?_⟩
  · rw [← List.append_assoc]
    exact h.expects.write hpacket
  · rw [← List.append_assoc]
    exact List.rel_append h.encoded (.cons hencode .nil)
  · intro hend
    have hrest : data.drop n = [] := by
      rcases hend with hend | hend
      · cases hend
      · exact SendLoop.sending.inj hend
    rw [assemble_concat, hrest]
    rfl
  · dsimp only
    rw [assemble_concat, ← hbefore]
    by_cases hrest : data.drop n = []
    · -- the last fragment completes the message
      have hall : data.take n = data := by
        conv_rhs => rw [← List.take_append_drop n data, hrest, List.append_nil]
      simp only [hrest, hall, SendLoop.message, List.isEmpty_nil, if_true, List.nil_append,
        List.append_assoc]
      exact hmessages
    · simp only [hrest, SendLoop.message, List.isEmpty_iff, if_false, List.append_assoc,
        List.take_append_drop]
      exact hmessages

theorem nonEmpty_append (ds es : List Bytes) : nonEmpty (ds ++ es) = nonEmpty ds ++ nonEmpty es :=
  List.filter_append ..

/-- The send loop goes on to an entry of its queue. -/
theorem Pending.getData {entry : Option Bytes} {sendQueue : List (Option Bytes)}
    (h : s.Pending datas tpdus) (hloop : s.sendLoop = .waiting)
    (hqueue : s.sendQueue = entry :: sendQueue) :
    Pending { s with sendQueue := sendQueue, sendLoop := entry.elim .waiting SendLoop.sending }
      datas tpdus := by
  have hfinished := h.finished (.inl hloop)
  have hmessages := h.messages
  refine ⟨h.expects, h.encoded, fun _ => hfinished, ?_⟩
  rw [hfinished, hloop, hqueue] at hmessages
  dsimp only
  rw [hfinished, ← hmessages]
  cases entry with
  | none => rfl
  | some data =>
    by_cases hdata : data = []
    · simp [SendLoop.message, nonEmpty, hdata]
    · simp [SendLoop.message, nonEmpty, hdata]

/-- The receive loop goes on with a DT TPDU. -/
theorem receiveTpdu_eq {tpdu : DT} {tpduBytes : Bytes} (h : encode (.DT tpdu) = .ok tpduBytes) :
    s.receiveTpdu tpduBytes =
      if tpdu.eot then
        { s with
          dataQueue := [], receiveLoop := .putting (s.dataQueue.flatten ++ tpdu.data) }
      else { s with dataQueue := s.dataQueue ++ [tpdu.data] } := by
  have hdecode := decode_encode_DT h
  have hflatten : (s.dataQueue ++ [tpdu.data]).flatten = s.dataQueue.flatten ++ tpdu.data := by
    rw [List.flatten_append, List.flatten_singleton]
  cases heot : tpdu.eot with
  | false => simp only [receiveTpdu, hdecode, heot, Bool.false_eq_true, not_false_eq_true, if_true,
      if_false]
  | true => simp only [receiveTpdu, hdecode, heot, not_true_eq_false, if_true, if_false, hflatten]

/-- The TPDU that is received is the first of the pending ones. -/
theorem Pending.receiveTpdu {tpduBytes : Bytes} {queue : List Bytes}
    (h : s.Pending datas tpdus) (hloop : s.receiveLoop = .waiting)
    (hqueue : s.tpktReceiveQueue = tpduBytes :: queue) :
    ∃ tpdu tpdus', encode (.DT tpdu) = .ok tpduBytes ∧
      Pending (({ s with tpktReceiveQueue := queue } : Transfer).receiveTpdu tpduBytes)
        datas tpdus' := by
  have hencoded := h.encoded
  rw [hqueue, List.cons_append] at hencoded
  cases hencoded with
  | @cons _ tpdu _ tpdus' hencode hencoded =>
    refine ⟨tpdu, tpdus', hencode, ?_⟩
    have hmessages := h.messages
    have hfinished := h.finished
    rw [hloop, assemble] at hmessages
    rw [assemble] at hfinished
    rw [receiveTpdu_eq hencode]
    cases heot : tpdu.eot with
    | false =>
      have hflatten : (s.dataQueue ++ [tpdu.data]).flatten = s.dataQueue.flatten ++ tpdu.data := by
        rw [List.flatten_append, List.flatten_singleton]
      simp only [heot, Bool.false_eq_true, if_false, ← hflatten] at hmessages hfinished ⊢
      exact ⟨h.expects, hencoded, hfinished, by rw [hloop]; exact hmessages⟩
    | true =>
      simp only [heot, if_true] at hmessages hfinished ⊢
      exact ⟨h.expects, hencoded, hfinished, hmessages⟩

/-- **Every step keeps the invariant.** -/
theorem Inv.step {e : Event} (h4 : 4 ≤ cfg.maxTpdu) (hmax : cfg.maxTpdu ≤ 32768)
    (h : s.Inv cfg) (hstep : step cfg s e = some s') : s'.Inv cfg := by
  obtain ⟨⟨datas, tpdus, hpending⟩, hsends, hreceives, hcarries⟩ := h
  have hmessages := hpending.messages
  cases e with
  | send data =>
    obtain ⟨_, rfl⟩ := step_send.mp hstep
    refine ⟨⟨datas, tpdus, hpending.expects, hpending.encoded, hpending.finished, ?_⟩, hsends,
      hreceives, hcarries⟩
    dsimp only
    rw [nonEmpty_append, ← hmessages, List.filterMap_append, nonEmpty_append]
    simp only [List.append_assoc]
    rfl
  | drain =>
    obtain ⟨_, rfl⟩ := step_drain.mp hstep
    refine ⟨⟨datas, tpdus, hpending.expects, hpending.encoded, hpending.finished, ?_⟩, hsends,
      hreceives, hcarries⟩
    dsimp only
    rw [List.filterMap_append]
    simpa using hmessages
  | getData =>
    obtain ⟨hloop, entry, sendQueue, hqueue, rfl⟩ := step_getData.mp hstep
    refine ⟨⟨datas, tpdus, hpending.getData hloop hqueue⟩, ?_, hreceives, hcarries⟩
    cases entry with
    | none => exact .inl rfl
    | some data => exact .inr ⟨data, rfl⟩
  | sendTpdu =>
    obtain ⟨data, hloop, ⟨rfl, rfl⟩ | ⟨hne, rfl⟩⟩ := step_sendTpdu.mp hstep
    · rw [hloop] at hmessages
      exact ⟨⟨datas, tpdus, hpending.expects, hpending.encoded,
        fun _ => hpending.finished (.inr hloop), hmessages⟩, .inl rfl, hreceives, hcarries⟩
    · obtain ⟨packet, hpacket, _, heq⟩ := sendTpdu_eq (s := s) h4 hmax data
      rw [heq]
      refine ⟨hpending.sendTpdu hloop hne hpacket, .inr ⟨_, rfl⟩, hreceives, fun p hp => ?_⟩
      rcases List.mem_append.mp hp with hp | hp
      · exact hcarries p hp
      · obtain rfl := List.mem_singleton.mp hp
        exact hpacket
  | deliver n =>
    obtain ⟨_, rfl⟩ := step_deliver.mp hstep
    refine ⟨⟨datas, tpdus, ?_, hpending.encoded, hpending.finished, hmessages⟩, hsends,
      hreceives, hcarries⟩
    dsimp only
    rw [List.append_assoc, List.take_append_drop]
    exact hpending.expects
  | read =>
    obtain ⟨n, hawaits, hle, rfl⟩ := step_read.mp hstep
    have hread := hpending.expects.read hawaits (by rw [List.length_append]; omega)
    rw [List.take_append_of_le_length hle, List.drop_append_of_le_length hle] at hread
    exact ⟨⟨datas, tpdus, hread, hpending.encoded, hpending.finished, hmessages⟩, hsends,
      hreceives, hcarries⟩
  | putTpdu =>
    obtain ⟨data, hloop, _, rfl⟩ := step_putTpdu.mp hstep
    have hexpects := hpending.expects
    rw [hloop] at hexpects
    obtain ⟨datas', rfl, htail⟩ := hexpects.put
    refine ⟨⟨datas', tpdus, htail, ?_, hpending.finished, hmessages⟩, hsends, hreceives,
      hcarries⟩
    dsimp only
    rw [List.append_assoc]
    exact hpending.encoded
  | receiveTpdu =>
    obtain ⟨hloop, tpduBytes, queue, hqueue, rfl⟩ := step_receiveTpdu.mp hstep
    obtain ⟨tpdu, tpdus', hencode, hpending'⟩ := hpending.receiveTpdu hloop hqueue
    rw [receiveTpdu_eq hencode] at hpending' ⊢
    cases heot : tpdu.eot with
    | false =>
      rw [heot] at hpending'
      exact ⟨⟨datas, tpdus', hpending'⟩, hsends, hreceives, hcarries⟩
    | true =>
      rw [heot] at hpending'
      exact ⟨⟨datas, tpdus', hpending'⟩, hsends, .inr ⟨_, rfl⟩, hcarries⟩
  | putData =>
    obtain ⟨data, hloop, _, rfl⟩ := step_putData.mp hstep
    refine ⟨⟨datas, tpdus, hpending.expects, hpending.encoded, hpending.finished, ?_⟩, hsends,
      .inl rfl, hcarries⟩
    rw [hloop] at hmessages
    dsimp only
    rw [List.append_assoc]
    exact hmessages
  | receive =>
    obtain ⟨data, queue, _, rfl⟩ := step_receive.mp hstep
    exact ⟨⟨datas, tpdus, hpending.expects, hpending.encoded, hpending.finished, hmessages⟩,
      hsends, hreceives, hcarries⟩

/-! ### Runs -/

/-- The steps that the loops and the network take of themselves, and the receiving application. -/
def Internal : Event → Bool
  | .send _ | .drain => false
  | _ => true

/-- No loop can go on, and nothing is there to be received. -/
def Idle (cfg : Config) (s : Transfer) : Prop := ∀ e, Internal e → step cfg s e = none

/-- **When nothing can go on, everything sent is received.** -/
theorem Inv.received_of_idle (h : s.Inv cfg) (hidle : s.Idle cfg) :
    s.received = nonEmpty s.sent := by
  obtain ⟨⟨datas, tpdus, hpending⟩, hsends, hreceives, _⟩ := h
  have hstuck : ∀ e s', Internal e → Transfer.step cfg s e ≠ some s' := by
    intro e s' he hs'
    rw [hidle e he] at hs'
    cases hs'
  have hroom : ∀ {size : ℕ} {queue : List Bytes}, queue = [] → hasRoom size queue := by
    rintro size _ rfl
    cases size <;> simp [hasRoom]
  have hreceiveQueue : s.receiveQueue = [] := by
    by_contra hne
    obtain ⟨data, queue, hqueue⟩ := List.exists_cons_of_ne_nil hne
    exact hstuck .receive _ rfl (step_receive.mpr ⟨data, queue, hqueue, rfl⟩)
  have hreceiveLoop : s.receiveLoop = .waiting := by
    refine hreceives.resolve_right ?_
    rintro ⟨data, hloop⟩
    exact hstuck .putData _ rfl (step_putData.mpr ⟨data, hloop, hroom hreceiveQueue, rfl⟩)
  have htpktReceiveQueue : s.tpktReceiveQueue = [] := by
    by_contra hne
    obtain ⟨tpduBytes, queue, hqueue⟩ := List.exists_cons_of_ne_nil hne
    exact hstuck .receiveTpdu _ rfl
      (step_receiveTpdu.mpr ⟨hreceiveLoop, tpduBytes, queue, hqueue, rfl⟩)
  have hstream : s.stream = [] := by
    by_contra hne
    have hpos : 1 ≤ s.stream.length := List.length_pos_iff.mpr hne
    exact hstuck (.deliver 1) _ rfl (step_deliver.mpr ⟨⟨by omega, hpos⟩, rfl⟩)
  have hdatas : datas = [] := by
    have hexpects := hpending.expects
    cases hawaits : s.readLoop.awaits with
    | some n =>
      refine (hexpects.of_waiting hawaits ?_).2
      rw [hstream, List.append_nil]
      by_contra hge
      exact hstuck .read _ rfl (step_read.mpr ⟨n, hawaits, by omega, rfl⟩)
    | none =>
      obtain ⟨data, hloop⟩ := hexpects.putting_of_not_awaits hawaits
      exact (hstuck .putTpdu _ rfl
        (step_putTpdu.mpr ⟨data, hloop, hroom htpktReceiveQueue, rfl⟩)).elim
  have htpdus : tpdus = [] := by
    have hencoded := hpending.encoded
    rw [htpktReceiveQueue, hdatas] at hencoded
    cases hencoded
    rfl
  have hsendLoop : s.sendLoop = .waiting := by
    refine hsends.resolve_right ?_
    rintro ⟨data, hloop⟩
    by_cases hdata : data = []
    · exact hstuck .sendTpdu _ rfl (step_sendTpdu.mpr ⟨data, hloop, .inl ⟨hdata, rfl⟩⟩)
    · exact hstuck .sendTpdu _ rfl (step_sendTpdu.mpr ⟨data, hloop, .inr ⟨hdata, rfl⟩⟩)
  have hsendQueue : s.sendQueue = [] := by
    by_contra hne
    obtain ⟨entry, queue, hqueue⟩ := List.exists_cons_of_ne_nil hne
    exact hstuck .getData _ rfl (step_getData.mpr ⟨hsendLoop, entry, queue, hqueue, rfl⟩)
  have hmessages := hpending.messages
  rw [hreceiveLoop, htpdus, hsendLoop, hsendQueue] at hmessages
  simpa [ReceiveLoop.message, SendLoop.message, assemble, nonEmpty] using hmessages

/-- What is received is the first of what is sent. -/
theorem Inv.received_prefix (h : s.Inv cfg) : s.received <+: nonEmpty s.sent := by
  obtain ⟨datas, tpdus, hpending⟩ := h.pending
  exact ⟨_, hpending.messages⟩

/-! ### Every run of internal steps ends -/

/-- The weight of what the loops have in hand.  A byte weighs more the farther it has to go. -/
def sendLoopWork : SendLoop → ℕ
  | .sending data => 40 * data.length + 1
  | _ => 0

def readLoopWork : Tpkt.ReadLoop → ℕ
  | .data _ => 7
  | .putting _ => 6
  | _ => 0

def receiveLoopWork : ReceiveLoop → ℕ
  | .putting _ => 2
  | _ => 0

/-- The weight of what is still to be done. -/
def work (s : Transfer) : ℕ :=
  (s.sendQueue.map fun entry => 40 * (entry.getD []).length + 2).sum + sendLoopWork s.sendLoop +
    4 * s.stream.length + 3 * s.inputBuffer.length + readLoopWork s.readLoop +
    5 * s.tpktReceiveQueue.length + receiveLoopWork s.receiveLoop + s.receiveQueue.length

/-- The loop reads at least a byte for each of the weights it takes on. -/
theorem readLoopWork_read {r : Tpkt.ReadLoop} {n : ℕ} {bytes : Bytes} (h : r.awaits = some n) :
    readLoopWork (r.read bytes) < 3 * n + readLoopWork r := by
  cases r with
  | header =>
    obtain rfl := Option.some.inj h
    rw [Tpkt.ReadLoop.read]
    cases Tpkt.dataLength bytes with
    | error e => exact Nat.zero_lt_succ _
    | ok n => exact Nat.lt_of_sub_eq_succ rfl
  | data m =>
    show 6 < 3 * n + 7
    omega
  | putting data => cases h
  | failed e => cases h

theorem receiveLoopWork_le (r : ReceiveLoop) : receiveLoopWork r ≤ 2 := by
  cases r <;> simp [receiveLoopWork]

/-- Whatever the loop receives, it changes only what is its own. -/
theorem exists_receiveTpdu_eq (s : Transfer) (tpduBytes : Bytes) : ∃ dataQueue receiveLoop,
    s.receiveTpdu tpduBytes = { s with dataQueue := dataQueue, receiveLoop := receiveLoop } := by
  cases h : decode tpduBytes with
  | error e => exact ⟨_, _, by rw [receiveTpdu, h]⟩
  | ok tpdu =>
    cases tpdu with
    | DT tpdu =>
      cases heot : tpdu.eot with
      | false => exact ⟨s.dataQueue ++ [tpdu.data], s.receiveLoop, by simp [receiveTpdu, h, heot]⟩
      | true =>
        exact ⟨[], .putting (s.dataQueue ++ [tpdu.data]).flatten, by simp [receiveTpdu, h, heot]⟩
    | CR tpdu => exact ⟨s.dataQueue, s.receiveLoop, by rw [receiveTpdu, h]⟩
    | CC tpdu => exact ⟨s.dataQueue, s.receiveLoop, by rw [receiveTpdu, h]⟩
    | DR tpdu => exact ⟨s.dataQueue, .disconnected, by rw [receiveTpdu, h]⟩
    | ER tpdu => exact ⟨s.dataQueue, .disconnected, by rw [receiveTpdu, h]⟩

/-- Every internal step takes off some of the work. -/
theorem work_lt {e : Event} (h4 : 4 ≤ cfg.maxTpdu) (hmax : cfg.maxTpdu ≤ 32768)
    (he : Internal e) (h : Transfer.step cfg s e = some s') : s'.work < s.work := by
  cases e with
  | send data => cases he
  | drain => cases he
  | getData =>
    obtain ⟨hloop, entry, sendQueue, hqueue, rfl⟩ := step_getData.mp h
    rw [work, work, hloop, hqueue]
    cases entry with
    | none =>
      simp only [List.map_cons, List.sum_cons, Option.elim, Option.getD_none, sendLoopWork,
        List.length_nil]
      omega
    | some data =>
      simp only [List.map_cons, List.sum_cons, Option.elim, Option.getD_some, sendLoopWork]
      omega
  | sendTpdu =>
    obtain ⟨data, hloop, ⟨rfl, rfl⟩ | ⟨hne, rfl⟩⟩ := step_sendTpdu.mp h
    · rw [work, work, hloop]
      simp [sendLoopWork]
    · obtain ⟨packet, _, hlen, heq⟩ := sendTpdu_eq (s := s) h4 hmax data
      have hpos : 0 < data.length := List.length_pos_iff.mpr hne
      have htake : 1 ≤ (data.take (cfg.maxTpdu - 3)).length := by rw [List.length_take]; omega
      have hsplit : (data.take (cfg.maxTpdu - 3)).length +
          (data.drop (cfg.maxTpdu - 3)).length = data.length := by
        rw [← List.length_append, List.take_append_drop]
      rw [heq, work, work, hloop]
      simp only [sendLoopWork, List.length_append]
      omega
  | deliver n =>
    obtain ⟨⟨hpos, hle⟩, rfl⟩ := step_deliver.mp h
    have htake : (s.stream.take n).length = n := by rw [List.length_take]; omega
    simp only [work, List.length_append, List.length_drop, htake]
    omega
  | read =>
    obtain ⟨n, hawaits, hle, rfl⟩ := step_read.mp h
    have hread : readLoopWork (s.readLoop.read (s.inputBuffer.take n)) <
        3 * n + readLoopWork s.readLoop := readLoopWork_read hawaits
    simp only [work, List.length_drop]
    omega
  | putTpdu =>
    obtain ⟨data, hloop, _, rfl⟩ := step_putTpdu.mp h
    rw [work, work, hloop]
    simp only [readLoopWork, List.length_append, List.length_singleton]
    omega
  | receiveTpdu =>
    obtain ⟨hloop, tpduBytes, queue, hqueue, rfl⟩ := step_receiveTpdu.mp h
    obtain ⟨dataQueue, receiveLoop, heq⟩ :=
      exists_receiveTpdu_eq { s with tpktReceiveQueue := queue } tpduBytes
    have hbefore : receiveLoopWork .waiting = 0 := rfl
    have hafter := receiveLoopWork_le receiveLoop
    rw [heq, work, work, hloop, hqueue]
    simp only [List.length_cons]
    omega
  | putData =>
    obtain ⟨data, hloop, _, rfl⟩ := step_putData.mp h
    rw [work, work, hloop]
    simp only [receiveLoopWork, List.length_append, List.length_singleton]
    omega
  | receive =>
    obtain ⟨data, queue, hqueue, rfl⟩ := step_receive.mp h
    rw [work, work, hqueue]
    simp only [List.length_cons]
    omega

theorem length_le_work {es : List Event} (h4 : 4 ≤ cfg.maxTpdu) (hmax : cfg.maxTpdu ≤ 32768)
    (hes : ∀ e ∈ es, Internal e) (hrun : run (Transfer.step cfg) s es = some s') :
    es.length + s'.work ≤ s.work := by
  induction es generalizing s with
  | nil =>
    obtain rfl := Option.some.inj hrun
    exact Nat.le_of_eq (Nat.zero_add _)
  | cons e es ih =>
    obtain ⟨s₁, hs₁, hrun⟩ := run_cons_eq_some.mp hrun
    have hfirst := work_lt h4 hmax (hes e (by simp)) hs₁
    have hrest := ih (fun e he => hes e (by simp [he])) hrun
    rw [List.length_cons]
    omega

theorem nonEmpty_eq_self {datas : List Bytes} (h : ∀ data ∈ datas, data ≠ []) :
    nonEmpty datas = datas := by
  rw [nonEmpty, List.filter_eq_self]
  exact fun data hdata => decide_eq_true (h data hdata)

/-- What a connection promises of the messages it was given. -/
structure RoundTrip (cfg : Config) (s : Transfer) : Prop where
  /-- messages are received in order, without a loss or a change -/
  received_prefix : s.received <+: s.sent
  /-- all are received when nothing can go on -/
  received_eq : s.Idle cfg → s.received = s.sent
  /-- which is so after finitely many steps -/
  finite : ∃ n, ∀ es s', (∀ e ∈ es, Internal e) → run (Transfer.step cfg) s es = some s' →
    es.length ≤ n
  /-- every packet carries one TPDU, of allowed size -/
  carries : ∀ p ∈ s.packets, Carries cfg.maxTpdu p.1 p.2

/-- **Messages are sent and received as they are**, in every run and for every chunking of the
stream. -/
theorem roundTrip {es : List Event} (h4 : 4 ≤ cfg.maxTpdu) (hmax : cfg.maxTpdu ≤ 32768)
    (hrun : run (Transfer.step cfg) init es = some s) (hne : ∀ data ∈ s.sent, data ≠ []) :
    s.RoundTrip cfg := by
  have hinv : s.Inv cfg :=
    run_invariant_of_step (fun s e s' h hs => h.step h4 hmax hs) inv_init hrun
  have hsent := nonEmpty_eq_self hne
  constructor
  · rw [← hsent]
    exact hinv.received_prefix
  · intro hidle
    rw [← hsent]
    exact hinv.received_of_idle hidle
  · refine ⟨s.work, fun es s' hes hrun' => ?_⟩
    have hle := length_le_work h4 hmax hes hrun'
    omega
  · exact hinv.carries

/-- A message of two bytes, in TPDUs of four bytes, of which one is received. -/
theorem roundTrip_two_bytes : RoundTrip ⟨4, 1, 1, 1⟩
    { init with
      sendLoop := .sending [2], inputBuffer := [3, 0, 0, 8], stream := [2, 0xF0, 0, 1],
      sent := [[1, 2]], packets := [(⟨false, [1]⟩, [3, 0, 0, 8, 2, 0xF0, 0, 1])] } :=
  @roundTrip ⟨4, 1, 1, 1⟩ _ [.send [1, 2], .getData, .sendTpdu, .deliver 4] (by decide)
    (by decide) (by rfl) (by decide)

end Transfer

end HatDrivers.Cotp
