import HatDrivers.Iec60870.Link.Unbalanced.Master
import HatDrivers.Iec60870.Link.Unbalanced.Slave

namespace HatDrivers.Iec60870.Link.Unbalanced

open HatDrivers.Lib

/-!
# Unbalanced link — a line between a master and a slave

A master connection and the slave connection of its address, on a line that loses frames
(`Line`).  No response is late if the master takes a response for lost only when none is on its
way (`Line.Prompt`).

The requests of the master are numbered.  The slave processed all of them, or all but the last
one, and which of both is told by the frame count bit and the response that it keeps
(`Progress`); where the exchange of the last request is, is told by the loops and by the frame on
the line (`Exchange`).
-/

/-! ### Lines -/

/-- Has the slave no response to send? -/
def SlaveLoop.quiet : SlaveLoop → Bool
  | .receiving | .processing _ [] | .calling _ [] | .ended _ => true
  | _ => false

structure Line where
  master : MasterLink
  slave : SlaveLink
  /-- the frame on the line -/
  flight : Option Frame
  /-- history: the data that was queued at the slave connection -/
  queued : List Bytes

inductive LineEvent
  | master (e : Event)
  | slave (e : SlaveEvent)
  /-- the master writes a request -/
  | write
  /-- the slave receives it -/
  | request
  /-- the slave writes the response -/
  | respond
  /-- the master receives it -/
  | response
  /-- the frame on the line is lost -/
  | lose
  /-- the response timeout of the master is over -/
  | timeout

namespace Line

/-- The line of a master connection that is being opened. -/
def init (addressSize : AddressSize) (broadcastAddress address sendRetryCount : ℕ)
    (linkQueueSize sendQueueSize receiveQueueSize : ℕ)
    (slaveSendQueueSize slaveReceiveQueueSize : ℕ) : Line where
  master := { MasterLink.init addressSize broadcastAddress linkQueueSize with
    conns := [.new address sendRetryCount sendQueueSize receiveQueueSize] }
  slave := { SlaveLink.init addressSize broadcastAddress with
    conns := [.new address false slaveReceiveQueueSize slaveSendQueueSize 0] }
  flight := none
  queued := []

/-- What the connections and the loop of the master do of themselves.  A poll is not cancelled
but with its connection. -/
def MasterInner (s : MasterLink) : Event → Bool
  | .request _ _ _ | .receiveData _ | .nextRequest _ | .submit _ | .resume _ | .nextCall | .wake
  | .resumeLink => true
  | .cancel k i => s.conns[k]?.any fun conn =>
    conn.requests[i]?.any fun request => request.function = .DATA
  | _ => false

def SlaveInner : SlaveEvent → Bool
  | .openConnection _ _ _ _ | .receive _ | .sent => false
  | _ => true

/-- The data that a step queues. -/
def queues : SlaveEvent → List Bytes
  | .send _ data _ => [data]
  | _ => []

def step (l : Line) : LineEvent → Option Line
  | .master e =>
    if MasterInner l.master e then (l.master.step e).map fun master => { l with master := master }
    else none
  | .slave e =>
    if SlaveInner e then (l.slave.step e).map fun slave =>
      { l with slave := slave, queued := l.queued ++ queues e }
    else none
  | .write => (l.master.step .write).map fun master =>
    { l with
      master := master
      flight := (master.written[l.master.written.length]?).map fun p => .ReqFrame p.2 }
  | .request =>
    match l.flight with
    | some (.ReqFrame req) => (l.slave.step (.receive (.ReqFrame req))).map fun slave =>
      { l with slave := slave, flight := none }
    | _ => none
  | .respond =>
    match l.slave.loop with
    | .sending _ _ res _ => (l.slave.step .sent).map fun slave =>
      { l with slave := slave, flight := if slave.loop.alive then res else none }
    | _ => none
  | .response =>
    match l.flight with
    | some (.ReqFrame _) | none => none
    | some frame =>
      (l.master.step (.receive ⟨frame, some (l.master.written.length - 1)⟩)).map fun master =>
        { l with master := master, flight := none }
  | .lose => l.flight.map fun _ => { l with flight := none }
  | .timeout => (l.master.step .timeout).map fun master => { l with master := master }

/-- Does the master take a response for lost only if none is on its way? -/
def Prompt (l : Line) : LineEvent → Prop
  | .timeout => l.flight = none ∧ l.slave.loop.quiet
  | _ => True

instance (l : Line) (e : LineEvent) : Decidable (l.Prompt e) := by
  cases e <;> unfold Prompt <;> infer_instance

end Line

/-! ### Requests and progress -/

/-- The frame count bit of the request with a number. -/
def bitOf (n : ℕ) : Bool := n % 2 = 1

@[simp] theorem bitOf_succ (n : ℕ) : bitOf (n + 1) = !bitOf n := by
  unfold bitOf
  rcases Nat.mod_two_eq_zero_or_one n with h | h <;> simp [Nat.add_mod, h]

/-- What requests ask for. -/
def MasterConnection.asked (conn : MasterConnection) : List (ReqFunction × Bytes) :=
  conn.requests.map fun request => (request.function, request.data)

/-- The frame of the request with a number; the first is the reset. -/
def requestFrame (address : ℕ) (asked : List (ReqFunction × Bytes)) : ℕ → ReqFrame
  | 0 => ⟨none, false, false, .RESET_LINK, address, []⟩
  | n + 1 => ⟨none, bitOf (n + 1), true, (asked[n]?.map Prod.fst).getD .TEST, address,
    (asked[n]?.map Prod.snd).getD []⟩

/-- The data of `DATA` requests. -/
def sentData (asked : List (ReqFunction × Bytes)) : List Bytes :=
  asked.filterMap fun p => if p.1 = .DATA then some p.2 else none

/-- The data that a response carries. -/
def responseData : Frame → List Bytes
  | .ResFrame frame => if frame.function = .RES_DATA ∧ frame.data ≠ [] then [frame.data] else []
  | _ => []

/-- How far the slave is: it processed `p` of `n` requests, and `res` answers the last one if it
processed all. -/
inductive Progress (bit : Option Bool) (kept : Option Frame) (loop : SlaveLoop) (n p : ℕ) :
    Option Frame → Prop
  /-- the reset was not received -/
  | fresh (hn : n = 0) (hp : p = 0) (hwaits : loop.waitsFor = none) :
      Progress bit kept loop n p none
  | behind (hn : n = p + 1) (hbit : bit = some (bitOf p)) (hwaits : loop.waitsFor = none) :
      Progress bit kept loop n p none
  /-- the loop waits to put the data, or ended as it did -/
  | putting (hn : n = p + 1) (hbit : bit = some (bitOf n))
      (hloop : (∃ req rest k, loop = .putting req rest k) ∨ ∃ reason, loop = .ended reason) :
      Progress bit kept loop n p none
  | done {res : Frame} (hn : n = p) (hbit : bit = some (bitOf n)) (hres : kept = some res)
      (hwaits : loop.waitsFor = none) : Progress bit kept loop n p (some res)

/-- Where the exchange of call `j` is, which the link makes of request `req`. -/
inductive Exchange (req : ReqFrame) (j : ℕ) (res : Option Frame) (sendQueue : List ℕ)
    (resFuture : ResFuture) (flight : Option Frame) : LinkLoop → SlaveLoop → Prop
  | queued (loop : SlaveLoop) (hqueue : sendQueue = [j]) (hfuture : resFuture = .none)
      (hflight : flight = none) (hquiet : loop.quiet) :
      Exchange req j res sendQueue resFuture flight .waiting loop
  | sleeping (loop : SlaveLoop) (hqueue : sendQueue = []) (hfuture : resFuture = .none)
      (hflight : flight = none) (hquiet : loop.quiet) :
      Exchange req j res sendQueue resFuture flight (.sleeping j) loop
  | writing (loop : SlaveLoop) (hqueue : sendQueue = []) (hfuture : resFuture = .pending)
      (hflight : flight = none) (hquiet : loop.quiet) :
      Exchange req j res sendQueue resFuture flight (.writing j) loop
  /-- the request is on the line, or was lost, or its response was -/
  | written (loop : SlaveLoop) (hqueue : sendQueue = []) (hfuture : resFuture = .pending)
      (hflight : flight = none ∨ flight = some (.ReqFrame req)) (hquiet : loop.quiet) :
      Exchange req j res sendQueue resFuture flight (.awaiting j) loop
  /-- the slave is to process it -/
  | received (hqueue : sendQueue = []) (hfuture : resFuture = .pending) (hflight : flight = none) :
      Exchange req j res sendQueue resFuture flight (.awaiting j) (.processing req [0])
  | putting (hqueue : sendQueue = []) (hfuture : resFuture = .pending) (hflight : flight = none)
      (hfunction : req.function = .DATA) :
      Exchange req j res sendQueue resFuture flight (.awaiting j) (.putting req [] 0)
  | processed (sentCb : Bool) (hqueue : sendQueue = []) (hfuture : resFuture = .pending)
      (hflight : flight = none) (hres : res ≠ none) :
      Exchange req j res sendQueue resFuture flight (.awaiting j) (.sending req [] res sentCb)
  /-- the response is on the line -/
  | answered (loop : SlaveLoop) (hqueue : sendQueue = []) (hfuture : resFuture = .pending)
      (hflight : flight = res) (hres : res ≠ none) (hquiet : loop.quiet) :
      Exchange req j res sendQueue resFuture flight (.awaiting j) loop
  | taken (loop : SlaveLoop) {response : Response} (hqueue : sendQueue = [])
      (hfuture : resFuture = .result response) (hres : res = some response.frame)
      (hflight : flight = none) (hquiet : loop.quiet) :
      Exchange req j res sendQueue resFuture flight (.awaiting j) loop

/-- No exchange is on the way. -/
structure Idle (l : Line) : Prop where
  sendQueue : l.master.sendQueue = []
  sendLoop : l.master.sendLoop = .waiting
  resFuture : l.master.resFuture = .none
  flight : l.flight = none
  quiet : l.slave.loop.quiet

/-- Where the exchange of the call that the connection awaits is. -/
inductive Stage (l : Line) (req : ReqFrame) (res : Option Frame) : Option ℕ → Prop
  | idle (hidle : Idle l) : Stage l req res none
  | exchanging {j : ℕ} {call : Call} (hlast : j + 1 = l.master.calls.length)
      (hcall : l.master.calls[j]? = some call) (hreq : call.req = req)
      (hpending : call.future = .pending)
      (hexchange : Exchange req j res l.master.sendQueue l.master.resFuture l.flight
        l.master.sendLoop l.slave.loop) : Stage l req res (some j)
  | answered {j : ℕ} {call : Call} {response : Response} (hcall : l.master.calls[j]? = some call)
      (hresult : call.future = .result (some response)) (hres : res = some response.frame)
      (hidle : Idle l) : Stage l req res (some j)
  | timedOut {j : ℕ} {call : Call} (hcall : l.master.calls[j]? = some call)
      (htimeout : call.future = .timeoutError) (hidle : Idle l) : Stage l req res (some j)

/-- The requests of a connection, `n` of which it made. -/
structure Asking (c : MasterConnection) (n : ℕ) : Prop where
  le : n ≤ c.requests.length
  queue : c.loop ≠ .ended → c.sendQueue = List.range' n (c.requests.length - n)
  bit : c.frameCountBit = bitOf n
  flow : c.dataFlowControl = false ∧ c.dataFlowQueue = []
  allowed : ∀ r ∈ c.requests, MasterConnection.Allowed r.function r.data = true
  resetting : (c.loop = .resetting ∨ ∃ j, c.loop = .awaitingReset j) → n = 0
  requesting : ∀ i req retryCounter, (c.loop = .requesting i req retryCounter ∨
    ∃ j, c.loop = .awaiting i req retryCounter j) →
      n = i + 1 ∧ req = requestFrame c.address c.asked n

/-- The polls that are not answered are awaited. -/
def Waits (c : MasterConnection) (n : ℕ) : Prop :=
  c.loop ≠ .ended → ∀ (i : ℕ) (r : Request), c.requests[i]? = some r → r.function ≠ .DATA →
    n ≤ i ∨ n = i + 1 ∧ c.loop ≠ .next → r.future = .pending

/-- The data and the response that the slave connection has, after `p` of `n` requests. -/
structure Keeping (d : SlaveConnection) (asked : List (ReqFunction × Bytes)) (n p : ℕ)
    (res : Option Frame) : Prop where
  received : d.receiveQueue.received = sentData (asked.take p)
  nonempty : [] ∉ d.sendQueue.map Prod.fst
  flow : ∀ frame, res = some (.ResFrame frame) → frame.dataFlowControl = false
  response : ∀ req, res ≠ some (.ReqFrame req)
  polled : ∀ r, res = some r → responseData r ≠ [] →
    ∃ i function data, n = i + 1 ∧ asked[i]? = some (function, data) ∧ function ≠ .DATA

/-- What the data on its way to the master is. -/
structure Transit (loop : ConnectionLoop) (res : Option Frame) (transit : List Bytes) : Prop where
  next : loop = .next → transit = [] ∧ res ≠ none
  exchanging : loop ≠ .next → loop ≠ .ended → transit = (res.map responseData).getD []
  length_le : transit.length ≤ 1

/-- What joins the two connections of a line. -/
structure Joint (b : ℕ) (l : Line) (c : MasterConnection) (d : SlaveConnection) (n p : ℕ)
    (res : Option Frame) (transit : List Bytes) : Prop where
  conns : l.master.conns = [c]
  slaveConns : l.slave.conns = [d]
  broadcast : l.master.broadcastAddress = b ∧ l.slave.broadcastAddress = b ∧ c.address < b ∧
    d.address = c.address ∧ d.polls = false
  asking : Asking c n
  waits : Waits c n
  progress : Progress d.frameCountBit d.res l.slave.loop n p res
  keeping : Keeping d c.asked n p res
  served : ∀ (i : ℕ) (r : Request) (response : Response), c.requests[i]? = some r →
    r.future = .result response → i < p
  queued : l.queued = c.received.map Prod.fst ++ transit ++ d.sendQueue.map Prod.fst
  transit : Transit c.loop res transit
  stage : Stage l (requestFrame c.address c.asked n) res c.loop.call

variable {b : ℕ} {l l' : Line} {c c' : MasterConnection} {d d' : SlaveConnection} {n p : ℕ}
variable {res : Option Frame} {transit : List Bytes}

/-- The connections are joined, with whatever numbers. -/
def Line.Inv (b : ℕ) (l : Line) : Prop :=
  ∃ c d n p res transit, Joint b l c d n p res transit

/-! ### Steps of the master connection -/

theorem asked_setFuture (c : MasterConnection) (i : ℕ) (future : RequestFuture) :
    (c.setFuture i future).asked = c.asked := by
  apply List.ext_getElem?
  intro j
  rw [MasterConnection.asked, MasterConnection.asked, List.getElem?_map, List.getElem?_map,
    MasterConnection.setFuture, List.getElem?_modify]
  cases c.requests[j]? with
  | none => rfl
  | some request =>
    by_cases hij : i = j
    · by_cases hpending : request.future = .pending <;> simp [hij, hpending]
    · simp [hij]

theorem asked_finish (c : MasterConnection) : c.finish.asked = c.asked := by
  simp only [MasterConnection.asked, MasterConnection.finish, List.map_map]
  apply List.map_congr_left
  intro request _
  simp only [Function.comp]
  split <;> rfl

/-- The request that is put last. -/
theorem requestFrame_append (address : ℕ) {asked : List (ReqFunction × Bytes)} {n : ℕ}
    (hn : n ≤ asked.length) (more : List (ReqFunction × Bytes)) :
    requestFrame address (asked ++ more) n = requestFrame address asked n := by
  cases n with
  | zero => rfl
  | succ n => simp only [requestFrame, List.getElem?_append_left (show n < asked.length from hn)]

theorem Asking.length_asked (h : Asking c n) : n ≤ c.asked.length := by
  rw [MasterConnection.asked, List.length_map]
  exact h.le

theorem mem_setFuture {i : ℕ} {future : RequestFuture} {r : Request}
    (hmem : r ∈ (c.setFuture i future).requests) :
    ∃ r' ∈ c.requests, r.function = r'.function ∧ r.data = r'.data := by
  rcases mem_modify hmem with hmem | ⟨r', hmem', rfl⟩
  · exact ⟨r, hmem, rfl, rfl⟩
  · refine ⟨r', hmem', ?_⟩
    split <;> exact ⟨rfl, rfl⟩

theorem Asking.setFuture (h : Asking c n) (i : ℕ) (future : RequestFuture) :
    Asking (c.setFuture i future) n := by
  have hlength : (c.setFuture i future).requests.length = c.requests.length := List.length_modify ..
  have hasked := asked_setFuture c i future
  refine { h with le := ?_, queue := ?_, allowed := ?_, requesting := ?_ }
  · rw [hlength]
    exact h.le
  · intro hloop
    rw [hlength]
    exact h.queue hloop
  · intro r hmem
    obtain ⟨r', hmem', hfunction, hdata⟩ := mem_setFuture hmem
    rw [hfunction, hdata]
    exact h.allowed r' hmem'
  · intro j req retryCounter hloop
    rw [hasked]
    exact h.requesting j req retryCounter hloop

theorem Asking.finish (h : Asking c n) : Asking c.finish n := by
  have hasked := asked_finish c
  refine ⟨?_, fun hloop => absurd rfl hloop, h.bit, ⟨h.flow.1, rfl⟩, ?_, ?_, ?_⟩
  · show n ≤ (c.requests.map _).length
    rw [List.length_map]
    exact h.le
  · intro r hmem
    obtain ⟨r', hmem', rfl⟩ := List.mem_map.mp hmem
    have hallowed := h.allowed r' hmem'
    split <;> exact hallowed
  · rintro (hloop | ⟨j, hloop⟩) <;> cases hloop
  · rintro i req retryCounter (hloop | ⟨j, hloop⟩) <;> cases hloop

/-- The connection takes the next request. -/
theorem Asking.nextRequest (h : Asking c n) (hs : c.nextRequest = some c') :
    c.loop = .next ∧ ∃ req, c' = { c with
      sendQueue := List.range' (n + 1) (c.requests.length - (n + 1))
      frameCountBit := !c.frameCountBit, loop := .requesting n req 0 } ∧ Asking c' (n + 1) := by
  unfold MasterConnection.nextRequest at hs
  split at hs
  · cases hs
  rename_i hloop
  have hloop : c.loop = .next := not_not.mp hloop
  have hqueue := h.queue (by simp [hloop])
  rw [h.flow.1, h.flow.2, hqueue] at hs
  simp only [Bool.false_eq_true, if_false] at hs
  cases hlength : c.requests.length - n with
  | zero =>
    rw [hlength] at hs
    cases hs
  | succ m =>
    rw [hlength, List.range'_succ] at hs
    obtain ⟨request, hget, rfl⟩ := Option.map_eq_some_iff.mp hs
    have hlt := (List.getElem?_eq_some_iff.mp hget).1
    have hm : m = c.requests.length - (n + 1) := by omega
    have hasked : c.asked[n]? = some (request.function, request.data) := by
      rw [MasterConnection.asked, List.getElem?_map, hget]
      rfl
    refine ⟨hloop, requestFrame c.address c.asked (n + 1), ?_, ?_⟩
    · simp [MasterConnection.handle, h.flow.1, h.flow.2, requestFrame, hasked, h.bit, hm]
    · simp only [MasterConnection.handle, Bool.false_eq_true, false_and, if_false]
      refine { h with
        le := hlt, flow := ⟨rfl, rfl⟩, queue := ?_, bit := ?_, resetting := ?_, requesting := ?_ }
      · intro _
        show List.range' (n + 1) m = List.range' (n + 1) (c.requests.length - (n + 1))
        rw [hm]
      · rw [bitOf_succ, h.bit]
      · rintro (hreset | ⟨j, hreset⟩) <;> cases hreset
      · rintro i req retryCounter (hrequest | ⟨j, hrequest⟩)
        · obtain ⟨rfl, rfl, -⟩ := ConnectionLoop.requesting.inj hrequest
          refine ⟨rfl, ?_⟩
          show _ = requestFrame c.address c.asked (n + 1)
          simp [requestFrame, hasked, h.bit]
        · cases hrequest

/-- The connection goes on elsewhere with the same request. -/
theorem Asking.setLoop (h : Asking c n) {loop : ConnectionLoop} (hend : c.loop ≠ .ended)
    (hreset : (loop = .resetting ∨ ∃ j, loop = .awaitingReset j) → n = 0)
    (hrequest : ∀ i req retryCounter, (loop = .requesting i req retryCounter ∨
      ∃ j, loop = .awaiting i req retryCounter j) →
        n = i + 1 ∧ req = requestFrame c.address c.asked n) :
    Asking { c with loop := loop } n :=
  { h with queue := fun _ => h.queue hend, resetting := hreset, requesting := hrequest }

theorem Progress.le {bit : Option Bool} {kept : Option Frame} {loop : SlaveLoop}
    (h : Progress bit kept loop n p res) : p ≤ n := by
  cases h <;> omega

theorem onConn_singleton {s s' : MasterLink} {k : ℕ}
    {f : MasterConnection → Option MasterConnection} (hconns : s.conns = [c])
    (hs : s.onConn k f = some s') :
    k = 0 ∧ ∃ c', f c = some c' ∧ s' = { s with conns := [c'] } := by
  obtain ⟨c', hc', rfl⟩ := Option.map_eq_some_iff.mp hs
  obtain ⟨conn, hconn, hf⟩ := Option.bind_eq_some_iff.mp hc'
  rw [hconns, List.getElem?_singleton] at hconn
  split at hconn
  · rename_i hk
    obtain rfl := Option.some.inj hconn
    refine ⟨hk, c', hf, ?_⟩
    rw [hconns, hk]
    rfl
  · cases hconn

theorem getElem?_singleton_eq_some {α : Type} {a a' : α} {k : ℕ} (h : [a][k]? = some a') :
    k = 0 ∧ a' = a := by
  rw [List.getElem?_singleton] at h
  split at h
  · rename_i hk
    exact ⟨hk, (Option.some.inj h).symm⟩
  · cases h

theorem Stage.setMaster {req : ReqFrame} {j : Option ℕ} (h : Stage l req res j)
    {conns : List MasterConnection} :
    Stage { l with master := { l.master with conns := conns } } req res j := by
  cases h with
  | idle hidle => exact .idle { hidle with }
  | exchanging hlast hcall hreq hpending hexchange =>
    exact .exchanging hlast hcall hreq hpending hexchange
  | answered hcall hresult hres hidle => exact .answered hcall hresult hres { hidle with }
  | timedOut hcall htimeout hidle => exact .timedOut hcall htimeout { hidle with }

/-- A request is put in the send queue. -/
theorem Joint.request (h : Joint b l c d n p res transit) {function : ReqFunction} {data : Bytes}
    (hc : c.request function data = some c') :
    Joint b { l with master := { l.master with conns := [c'] } } c' d n p res transit := by
  unfold MasterConnection.request at hc
  split at hc
  · rename_i hallowed
    obtain rfl := Option.some.inj hc
    have hend : c.loop ≠ .ended := by
      intro hloop
      simp [MasterConnection.isUp, hloop] at hallowed
    have hn := h.asking.length_asked
    have hp := h.progress.le
    have hasked : ∀ queue requests, MasterConnection.asked { c with
        sendQueue := queue, requests := c.requests ++ requests } =
          c.asked ++ requests.map fun r => (r.function, r.data) := fun _ _ => List.map_append
    have hframe := requestFrame_append c.address hn [(function, data)]
    refine { h with
      conns := rfl, asking := ?_, waits := ?_, keeping := ?_, served := ?_, stage := ?_ }
    · refine { h.asking with le := ?_, queue := ?_, allowed := ?_, requesting := ?_ }
      · rw [List.length_append]
        exact Nat.le_add_right_of_le h.asking.le
      · intro _
        have hle := h.asking.le
        have hlast : n + (c.requests.length - n) = c.requests.length := by omega
        rw [h.asking.queue hend, List.length_append, List.length_singleton,
          Nat.sub_add_comm hle, List.range'_concat, Nat.one_mul, hlast]
      · intro r hmem
        rcases List.mem_append.mp hmem with hmem | hmem
        · exact h.asking.allowed r hmem
        · rw [List.mem_singleton.mp hmem]
          exact hallowed.2.1
      · intro i req retryCounter hloop
        obtain ⟨hi, hreq⟩ := h.asking.requesting i req retryCounter hloop
        exact ⟨hi, hreq.trans (by rw [hasked]; exact hframe.symm)⟩
    · intro _ i r hget hne hi
      rcases getElem?_concat_eq_some.mp hget with hget | ⟨-, rfl⟩
      · exact h.waits hend i r hget hne hi
      · rfl
    · rw [hasked]
      refine { h.keeping with received := ?_, polled := ?_ }
      · rw [List.take_append_of_le_length (hp.trans hn)]
        exact h.keeping.received
      · intro r hr hdata
        obtain ⟨i, function', data', hi, hget, hne⟩ := h.keeping.polled r hr hdata
        refine ⟨i, function', data', hi, ?_, hne⟩
        rw [List.getElem?_append_left (List.getElem?_eq_some_iff.mp hget).1]
        exact hget
    · intro i r response hget hfuture
      rcases getElem?_concat_eq_some.mp hget with hget | ⟨-, rfl⟩
      · exact h.served i r response hget hfuture
      · cases hfuture
    · rw [hasked]
      show Stage _ (requestFrame c.address (c.asked ++ [(function, data)]) n) res c.loop.call
      rw [hframe]
      exact h.stage.setMaster
  · cases hc

/-- Data is taken from the receive queue of the master. -/
theorem Joint.receiveData (h : Joint b l c d n p res transit) (hc : c.receiveData = some c') :
    Joint b { l with master := { l.master with conns := [c'] } } c' d n p res transit := by
  unfold MasterConnection.receiveData at hc
  split at hc
  · obtain rfl := Option.some.inj hc
    exact { h with conns := rfl, asking := { h.asking with }, stage := h.stage.setMaster }
  · cases hc

theorem served_setFuture {i m : ℕ} {future : RequestFuture}
    (h : ∀ (j : ℕ) (r : Request) (response : Response), c.requests[j]? = some r →
      r.future = .result response → j < m)
    (hresult : ∀ response, future = .result response → i < m) :
    ∀ (j : ℕ) (r : Request) (response : Response), (c.setFuture i future).requests[j]? = some r →
      r.future = .result response → j < m := by
  intro j r response hget hfuture
  rcases getElem?_modify_eq_some.mp hget with ⟨-, hget⟩ | ⟨rfl, r', hget', rfl⟩
  · exact h j r response hget hfuture
  · split at hfuture
    · exact hresult response hfuture
    · exact h i r' response hget' hfuture

/-- The task that awaits a request is cancelled. -/
theorem Joint.cancel (h : Joint b l c d n p res transit) {i : ℕ} {request : Request}
    (hget : c.requests[i]? = some request) (hfunction : request.function = .DATA) :
    Joint b { l with master := { l.master with conns := [c.setFuture i .cancelled] } }
      (c.setFuture i .cancelled) d n p res transit := by
  have hasked := asked_setFuture c i .cancelled
  refine { h with
    conns := rfl, asking := h.asking.setFuture i _, waits := ?_, keeping := ?_, served := ?_
    stage := ?_ }
  · intro hend j r hget' hne hj
    rcases getElem?_modify_eq_some.mp hget' with ⟨-, hother⟩ | ⟨rfl, r', hother, rfl⟩
    · exact h.waits hend j r hother hne hj
    · obtain rfl := Option.some.inj (hget.symm.trans hother)
      refine absurd ?_ hne
      split <;> exact hfunction
  · rw [hasked]
    exact h.keeping
  · exact served_setFuture h.served fun _ hfuture => by cases hfuture
  · rw [hasked]
    exact h.stage.setMaster

/-- The connection makes the next request. -/
theorem Joint.nextRequest (h : Joint b l c d n p res transit) (hc : c.nextRequest = some c') :
    Joint b { l with master := { l.master with conns := [c'] } } c' d (n + 1) p none [] := by
  obtain ⟨hloop, req, rfl, hasking⟩ := h.asking.nextRequest hc
  obtain ⟨rfl, hres⟩ := h.transit.next hloop
  obtain ⟨r, rfl⟩ := Option.ne_none_iff_exists'.mp hres
  refine { h with
    conns := rfl, asking := hasking, waits := ?_, progress := ?_, keeping := ?_, transit := ?_
    stage := ?_ }
  · intro _ i r hget hne hi
    exact h.waits (by simp [hloop]) i r hget hne (.inl (by omega))
  · cases h.progress with
    | done hn hbit _ hwaits => exact .behind (by omega) (hn ▸ hbit) hwaits
  · exact { h.keeping with
      flow := fun _ hnone => by cases hnone
      response := fun _ hnone => by cases hnone
      polled := fun _ hnone => by cases hnone }
  · exact ⟨fun hnext => (by cases hnext), fun _ _ => rfl, Nat.zero_le 1⟩
  · have hstage := h.stage
    rw [hloop] at hstage
    cases hstage with
    | idle hidle => exact .idle { hidle with }

/-- The connection has the link make its request. -/
theorem Joint.submit (h : Joint b l c d n p res transit) {req : ReqFrame} (hc : c.req = some req) :
    Joint b { l with master := l.master.submit 0 c req } (c.submitted l.master.calls.length) d n p
      res transit := by
  have hstart : c.loop.call = none ∧ c.loop ≠ .next ∧ c.loop ≠ .ended ∧
      req = requestFrame c.address c.asked n ∧
      ∃ loop, c.submitted l.master.calls.length = { c with loop := loop } ∧
        loop.call = some l.master.calls.length ∧ Asking { c with loop := loop } n ∧
        loop ≠ .next ∧ loop ≠ .ended := by
    unfold MasterConnection.req at hc
    unfold MasterConnection.submitted
    split at hc
    · rename_i hloop
      obtain rfl := Option.some.inj hc
      have hzero := h.asking.resetting (.inl hloop)
      rw [hloop]
      refine ⟨rfl, by simp, by simp, by rw [hzero]; rfl, _, rfl, rfl, ?_, by simp, by simp⟩
      apply h.asking.setLoop (by simp [hloop])
      · exact fun _ => hzero
      · rintro i req retryCounter (hrequest | ⟨j, hrequest⟩) <;> cases hrequest
    · rename_i i req' retryCounter hloop
      obtain rfl := Option.some.inj hc
      obtain ⟨hi, hreq⟩ := h.asking.requesting i req' retryCounter (.inl hloop)
      rw [hloop]
      refine ⟨rfl, by simp, by simp, hreq, _, rfl, rfl, ?_, by simp, by simp⟩
      apply h.asking.setLoop (by simp [hloop])
      · rintro (hreset | ⟨j, hreset⟩) <;> cases hreset
      · rintro i' req'' retryCounter' (hrequest | ⟨j, hrequest⟩)
        · cases hrequest
        · obtain ⟨rfl, rfl, -, -⟩ := ConnectionLoop.awaiting.inj hrequest
          exact ⟨hi, hreq⟩
    · cases hc
  obtain ⟨hnone, hnext, hended, rfl, loop, hsubmitted, hcall, hasking, hnext', hended'⟩ := hstart
  have hstage := h.stage
  rw [hnone] at hstage
  cases hstage with
  | idle hidle =>
    unfold MasterLink.submit
    rw [hsubmitted, h.conns]
    have hget : (l.master.calls ++ [⟨0, requestFrame c.address c.asked n, .pending⟩])[
        l.master.calls.length]? = some ⟨0, requestFrame c.address c.asked n, .pending⟩ := by
      rw [List.getElem?_append_right (Nat.le_refl _), Nat.sub_self]
      rfl
    refine { h with
      conns := rfl, asking := hasking, waits := ?_, transit := ?_, stage := ?_ }
    · intro _ i r hget hne hi
      exact h.waits hended i r hget hne (hi.imp id fun hi => ⟨hi.1, hnext⟩)
    · exact ⟨fun hloop => absurd hloop hnext', fun _ _ => h.transit.exchanging hnext hended,
        h.transit.length_le⟩
    · show Stage _ _ _ loop.call
      rw [hcall]
      refine .exchanging ?_ hget rfl rfl ?_
      · show _ = (l.master.calls ++ [_]).length
        rw [List.length_append, List.length_singleton]
      · show Exchange _ _ _ (l.master.sendQueue ++ _) _ _ l.master.sendLoop _
        rw [hidle.sendQueue, hidle.sendLoop]
        exact .queued _ rfl hidle.resFuture hidle.flight hidle.quiet

/-- The connection has taken the data of the response, and goes on with the next request. -/
theorem Joint.goOn (h : Joint b l c d n p res transit) {j : ℕ} {response : Response}
    (hj : c.loop.call = some j) (hres : res = some response.frame) (hidle : Idle l)
    (queue : List Bytes) {more : List (Bytes × Response)}
    (hmore : more.map Prod.fst = responseData response.frame) :
    Joint b { l with master := { l.master with conns := [{ c with
      loop := .next, receiveQueue := queue, received := c.received ++ more }] } }
      { c with loop := .next, receiveQueue := queue, received := c.received ++ more }
      d n p res [] := by
  have hend : c.loop ≠ .ended := by
    intro hloop
    rw [hloop] at hj
    cases hj
  have hnext : c.loop ≠ .next := by
    intro hloop
    rw [hloop] at hj
    cases hj
  have htransit : transit = more.map Prod.fst := by
    rw [h.transit.exchanging hnext hend, hres, Option.map_some, Option.getD_some, hmore]
  refine { h with
    conns := rfl, asking := ?_, waits := ?_, queued := ?_, transit := ?_, stage := ?_ }
  · refine { h.asking with
      queue := fun _ => h.asking.queue hend, resetting := ?_, requesting := ?_ }
    · rintro (hreset | ⟨j, hreset⟩) <;> cases hreset
    · rintro i req retryCounter (hrequest | ⟨j, hrequest⟩) <;> cases hrequest
  · intro _ i r hget hne hi
    exact h.waits hend i r hget hne (.inl (hi.elim id fun hi => absurd rfl hi.2))
  · show l.queued = (c.received ++ more).map Prod.fst ++ [] ++ d.sendQueue.map Prod.fst
    rw [h.queued, htransit, List.map_append, List.append_nil]
  · exact ⟨fun _ => ⟨rfl, by simp [hres]⟩, fun hnext => absurd rfl hnext, Nat.zero_le 1⟩
  · exact .idle { hidle with }

/-- The future of the request that was answered is set. -/
theorem Joint.setFuture (h : Joint b l c d n p res []) (hloop : c.loop = .next) {i : ℕ}
    (hn : n = i + 1) (future : RequestFuture) :
    Joint b { l with master := { l.master with conns := [c.setFuture i future] } }
      (c.setFuture i future) d n p res [] := by
  have hasked := asked_setFuture c i future
  have hp : p = n := by
    cases h.progress with
    | done hn _ _ _ => exact hn.symm
    | _ => exact absurd rfl (h.transit.next hloop).2
  refine { h with
    conns := rfl, asking := h.asking.setFuture i _, waits := ?_, keeping := ?_, served := ?_
    stage := ?_ }
  · intro hend j r hget hne hj
    rcases getElem?_modify_eq_some.mp hget with ⟨-, hget⟩ | ⟨rfl, r', hget, rfl⟩
    · exact h.waits hend j r hget hne hj
    · -- request `i` is not awaited any more
      rcases hj with hj | ⟨-, hj⟩
      · omega
      · exact absurd hloop hj
  · rw [hasked]
    exact h.keeping
  · exact served_setFuture h.served fun _ _ => by omega
  · rw [hasked]
    exact h.stage.setMaster

/-- The connection ends. -/
theorem Joint.finish (h : Joint b l c d n p res transit) (hconns : l'.master.conns = [c.finish])
    (hbroadcast : l'.master.broadcastAddress = l.master.broadcastAddress)
    (hslave : l'.slave = l.slave) (hqueued : l'.queued = l.queued) (hidle : Idle l') :
    Joint b l' c.finish d n p res transit := by
  have hasked := asked_finish c
  refine ⟨hconns, hslave ▸ h.slaveConns, ?_, h.asking.finish, fun hend => absurd rfl hend,
    hslave ▸ h.progress, ?_, ?_, hqueued ▸ h.queued, ?_, .idle hidle⟩
  · rw [hbroadcast, hslave]
    exact h.broadcast
  · rw [hasked]
    exact h.keeping
  · intro i r response hget hfuture
    rw [MasterConnection.finish, List.getElem?_map] at hget
    obtain ⟨r', hget', rfl⟩ := Option.map_eq_some_iff.mp hget
    split at hfuture
    · cases hfuture
    · exact h.served i r' response hget' hfuture
  · exact ⟨fun hloop => (by cases hloop), fun _ hloop => absurd rfl hloop, h.transit.length_le⟩

/-- A response without data is credited as the outcome of its request. -/
theorem credit_of_empty (c : MasterConnection) (i : ℕ) {response : Response}
    (hdata : responseData response.frame = []) :
    ∃ future, c.credit i (some response) = c.setFuture i future := by
  obtain ⟨frame, answers⟩ := response
  cases frame with
  | ShortFrame => exact ⟨_, rfl⟩
  | ReqFrame _ => exact ⟨_, rfl⟩
  | ResFrame frame =>
    unfold MasterConnection.credit
    cases hfunction : frame.function with
    | RES_DATA =>
      have hempty : frame.data = [] := by simpa [responseData, hfunction] using hdata
      simp only [hfunction, hempty, if_true]
      exact ⟨_, rfl⟩
    | _ =>
      simp only [hfunction]
      exact ⟨_, rfl⟩

/-- Data is put in the receive queue, or the connection ends. -/
theorem credit_of_data (c : MasterConnection) (i : ℕ) {response : Response}
    (hdata : responseData response.frame ≠ []) :
    c.credit i (some response) = c.finish ∨
    ∃ data, responseData response.frame = [data] ∧ c.credit i (some response) =
      ({ c with
        receiveQueue := c.receiveQueue ++ [data]
        received := c.received ++ [(data, response)] } : MasterConnection).setFuture i
          (.result response) := by
  obtain ⟨frame, answers⟩ := response
  cases frame with
  | ShortFrame => exact absurd rfl hdata
  | ReqFrame _ => exact absurd rfl hdata
  | ResFrame frame =>
    simp only [responseData, ne_eq, ite_eq_right_iff, reduceCtorEq, imp_false, not_not] at hdata
    obtain ⟨hfunction, hne⟩ := hdata
    simp only [MasterConnection.credit, hfunction, hne, if_false, responseData, not_false_eq_true,
      and_self, if_true, ne_eq]
    split
    · exact .inl rfl
    · exact .inr ⟨_, rfl, rfl⟩

/-- The response to the request that is awaited is credited. -/
theorem Joint.respond (h : Joint b l c d n p res transit) {i j retryCounter : ℕ} {req : ReqFrame}
    {response : Response} (hloop : c.loop = .awaiting i req retryCounter j)
    (hres : res = some response.frame) (hidle : Idle l) :
    ∃ transit', Joint b { l with master := { l.master with
      conns := [c.respond i (some response)] } } (c.respond i (some response)) d n p res
        transit' := by
  have hj : c.loop.call = some j := by rw [hloop]; rfl
  have hn := (h.asking.requesting i req retryCounter (.inr ⟨j, hloop⟩)).1
  have hflow : MasterConnection.dataFlowControlOf (some response) = c.dataFlowControl := by
    rw [h.asking.flow.1]
    obtain ⟨frame, answers⟩ := response
    cases frame with
    | ResFrame frame => exact h.keeping.flow frame hres
    | _ => rfl
  unfold MasterConnection.respond
  simp only [hflow]
  by_cases hdata : responseData response.frame = []
  · -- there is no data to lose
    have hnext := h.goOn hj hres hidle c.receiveQueue (show [].map Prod.fst = _ from hdata.symm)
    rw [List.append_nil] at hnext
    refine ⟨[], ?_⟩
    split
    · obtain ⟨future, hfuture⟩ := credit_of_empty { c with loop := .next } i hdata
      rw [hfuture]
      exact hnext.setFuture rfl hn future
    · exact hnext
  · -- a poll is answered, and a poll is awaited until it is
    obtain ⟨i', function, data, hi', hget, hpoll⟩ := h.keeping.polled _ hres hdata
    obtain rfl : i = i' := by omega
    rw [MasterConnection.asked, List.getElem?_map] at hget
    obtain ⟨r, hr, hasked⟩ := Option.map_eq_some_iff.mp hget
    obtain ⟨rfl, rfl⟩ := Prod.mk.inj hasked
    have hpending : r.future = .pending :=
      h.waits (by simp [hloop]) i r hr hpoll (.inr ⟨hn, by simp [hloop]⟩)
    have hany : (c.requests[i]?.any fun request => request.future = .pending) = true := by
      simp [hr, hpending]
    rw [if_pos hany]
    rcases credit_of_data { c with loop := .next } i hdata with hfinish | ⟨data, hdata, hput⟩
    · rw [hfinish]
      exact ⟨transit, h.finish rfl rfl rfl rfl { hidle with }⟩
    · rw [hput]
      have hnext := h.goOn hj hres hidle (c.receiveQueue ++ [data])
        (show [(data, response)].map Prod.fst = _ from hdata.symm)
      exact ⟨[], hnext.setFuture rfl hn (.result response)⟩

/-- The connection makes its request again. -/
theorem Joint.again (h : Joint b l c d n p res transit) {j : ℕ} {loop : ConnectionLoop}
    (hj : c.loop.call = some j) (hidle : Idle l) (hcall : loop.call = none) (hnext : loop ≠ .next)
    (hreset : loop = .resetting → n = 0)
    (hrequest : ∀ i req retryCounter, loop = .requesting i req retryCounter →
      n = i + 1 ∧ req = requestFrame c.address c.asked n) :
    Joint b { l with master := { l.master with conns := [{ c with loop := loop }] } }
      { c with loop := loop } d n p res transit := by
  have hend : c.loop ≠ .ended := by
    intro hloop
    rw [hloop] at hj
    cases hj
  have hnext' : c.loop ≠ .next := by
    intro hloop
    rw [hloop] at hj
    cases hj
  refine { h with conns := rfl, asking := ?_, waits := ?_, transit := ?_, stage := ?_ }
  · apply h.asking.setLoop hend
    · rintro (hloop | ⟨j, hloop⟩)
      · exact hreset hloop
      · rw [hloop] at hcall
        cases hcall
    · rintro i req retryCounter (hloop | ⟨j, hloop⟩)
      · exact hrequest i req retryCounter hloop
      · rw [hloop] at hcall
        cases hcall
  · intro _ i r hget hne hi
    exact h.waits hend i r hget hne (hi.imp id fun hi => ⟨hi.1, hnext'⟩)
  · exact ⟨fun hloop => absurd hloop hnext, fun _ _ => h.transit.exchanging hnext' hend,
      h.transit.length_le⟩
  · show Stage _ _ _ loop.call
    rw [hcall]
    exact .idle { hidle with }

/-- The connection goes on with the future of its call. -/
theorem Joint.resume (h : Joint b l c d n p res transit) {j : ℕ} {call : Call}
    (hj : c.loop.call = some j) (hcall : l.master.calls[j]? = some call)
    (hc : c.resume call.future = some c') : ∃ transit',
    Joint b { l with master := { l.master with conns := [c'] } } c' d n p res transit' := by
  have hstage := h.stage
  rw [hj] at hstage
  cases hstage with
  | exchanging _ hcall' _ hpending _ =>
    obtain rfl := Option.some.inj (hcall.symm.trans hcall')
    rw [hpending] at hc
    unfold MasterConnection.resume at hc
    cases hloop : c.loop <;> simp [hloop] at hc
  | @answered _ _ response hcall' hresult hres hidle =>
    obtain rfl := Option.some.inj (hcall.symm.trans hcall')
    rw [hresult] at hc
    cases hloop : c.loop with
    | awaitingReset j' =>
      simp only [MasterConnection.resume, hloop] at hc
      obtain rfl := Option.some.inj hc
      have hzero := h.asking.resetting (.inr ⟨j', hloop⟩)
      split
      · -- the response to a reset carries no data
        have hdata : responseData response.frame = [] := by
          by_contra hdata
          obtain ⟨i, _, _, hi, _⟩ := h.keeping.polled _ hres hdata
          omega
        have hnext := h.goOn hj hres hidle c.receiveQueue (show [].map Prod.fst = _ from hdata.symm)
        rw [List.append_nil] at hnext
        exact ⟨[], hnext⟩
      · refine ⟨transit, h.again hj hidle rfl (by simp) (fun _ => hzero) ?_⟩
        intro i req retryCounter hrequest
        cases hrequest
    | awaiting i req retryCounter j' =>
      simp only [MasterConnection.resume, hloop] at hc
      obtain rfl := Option.some.inj hc
      exact h.respond hloop hres hidle
    | _ => simp [hloop, ConnectionLoop.call] at hj
  | timedOut hcall' htimeout hidle =>
    obtain rfl := Option.some.inj (hcall.symm.trans hcall')
    rw [htimeout] at hc
    refine ⟨transit, ?_⟩
    cases hloop : c.loop with
    | awaitingReset j' =>
      simp only [MasterConnection.resume, hloop] at hc
      obtain rfl := Option.some.inj hc
      have hzero := h.asking.resetting (.inr ⟨j', hloop⟩)
      apply h.again hj hidle rfl (by simp) (fun _ => hzero)
      intro i req retryCounter hrequest
      cases hrequest
    | awaiting i req retryCounter j' =>
      simp only [MasterConnection.resume, hloop] at hc
      obtain rfl := Option.some.inj hc
      split
      · exact h.finish rfl rfl rfl rfl { hidle with }
      · have hasking := h.asking.requesting i req retryCounter (.inr ⟨j', hloop⟩)
        apply h.again hj hidle rfl (by simp)
        · intro hreset
          cases hreset
        · intro i' req' retryCounter' hrequest
          obtain ⟨rfl, rfl, -⟩ := ConnectionLoop.requesting.inj hrequest
          exact hasking
    | _ => simp [hloop, ConnectionLoop.call] at hj

/-! ### Steps of the master link -/

/-- The link goes on with the call that the connection awaits. -/
theorem Joint.setStage (h : Joint b l c d n p res transit)
    (hconns : l'.master.conns = l.master.conns)
    (hbroadcast : l'.master.broadcastAddress = l.master.broadcastAddress)
    (hslave : l'.slave = l.slave) (hqueued : l'.queued = l.queued)
    (hstage : Stage l' (requestFrame c.address c.asked n) res c.loop.call) :
    Joint b l' c d n p res transit := by
  refine ⟨hconns ▸ h.conns, hslave ▸ h.slaveConns, ?_, h.asking, h.waits, hslave ▸ h.progress,
    h.keeping, h.served, hqueued ▸ h.queued, h.transit, hstage⟩
  rw [hbroadcast, hslave]
  exact h.broadcast

/-- What is not idle is in an exchange. -/
theorem Stage.exchange {req : ReqFrame} {o : Option ℕ} (h : Stage l req res o)
    (hidle : ¬ Idle l) : ∃ j call, o = some j ∧ j + 1 = l.master.calls.length ∧
      l.master.calls[j]? = some call ∧ call.req = req ∧ call.future = .pending ∧
      Exchange req j res l.master.sendQueue l.master.resFuture l.flight l.master.sendLoop
        l.slave.loop := by
  cases h with
  | idle h => exact absurd h hidle
  | exchanging hlast hcall hreq hpending hexchange =>
    exact ⟨_, _, rfl, hlast, hcall, hreq, hpending, hexchange⟩
  | answered _ _ _ h => exact absurd h hidle
  | timedOut _ _ h => exact absurd h hidle

/-- The exchange is over. -/
theorem finishCall_idle {s : MasterLink} (hqueue : s.sendQueue = []) (hflight : l'.flight = none)
    (hquiet : l'.slave.loop.quiet) {j : ℕ} {future : CallFuture}
    (hmaster : l'.master = s.finishCall j future) : Idle l' := by
  refine ⟨?_, ?_, ?_, hflight, hquiet⟩ <;> rw [hmaster]
  · exact hqueue
  · rfl
  · rfl

theorem finishCall_calls {s : MasterLink} {j : ℕ} {call : Call} (hcall : s.calls[j]? = some call)
    (hpending : call.future = .pending) (future : CallFuture) :
    (s.finishCall j future).calls[j]? = some { call with future := future } := by
  show (s.calls.modify j _)[j]? = _
  rw [List.getElem?_modify_eq, hcall]
  exact congrArg some (if_pos hpending)

/-- The loop of the link takes a call. -/
theorem Joint.nextCall (h : Joint b l c d n p res transit) {master : MasterLink}
    (hs : l.master.step .nextCall = some master) :
    Joint b { l with master := master } c d n p res transit := by
  simp only [MasterLink.step] at hs
  split at hs
  · rename_i i sendQueue hloop hqueue
    obtain ⟨j, call, hj, hlast, hcall, hreq, hpending, hexchange⟩ :=
      h.stage.exchange fun hidle => by simp [hidle.sendQueue] at hqueue
    rw [hloop, hqueue] at hexchange
    cases hexchange with
    | queued _ hqueue hfuture hflight hquiet =>
      obtain ⟨rfl, rfl⟩ := List.cons.inj hqueue
      rw [hcall, Option.map_some, if_pos hpending] at hs
      obtain rfl := Option.some.inj hs
      refine h.setStage rfl rfl rfl rfl ?_
      rw [hj]
      exact .exchanging hlast hcall hreq hpending (.sleeping _ rfl hfuture hflight hquiet)
  · cases hs

/-- The silent interval is over. -/
theorem Joint.wake (h : Joint b l c d n p res transit) {master : MasterLink}
    (hs : l.master.step .wake = some master) :
    Joint b { l with master := master } c d n p res transit := by
  simp only [MasterLink.step] at hs
  split at hs
  · rename_i i hloop
    obtain rfl := Option.some.inj hs
    obtain ⟨j, call, hj, hlast, hcall, hreq, hpending, hexchange⟩ :=
      h.stage.exchange fun hidle => by simp [hidle.sendLoop] at hloop
    rw [hloop] at hexchange
    cases hexchange with
    | sleeping _ hqueue hfuture hflight hquiet =>
      refine h.setStage rfl rfl rfl rfl ?_
      rw [hj]
      exact .exchanging hlast hcall hreq hpending (.writing _ hqueue rfl hflight hquiet)
  · cases hs

/-- The response timeout is over. -/
theorem Joint.timeout (h : Joint b l c d n p res transit) {master : MasterLink}
    (hflight : l.flight = none) (hquiet : l.slave.loop.quiet)
    (hs : l.master.step .timeout = some master) :
    Joint b { l with master := master } c d n p res transit := by
  simp only [MasterLink.step] at hs
  split at hs
  · rename_i i hloop hfuture
    obtain rfl := Option.some.inj hs
    obtain ⟨j, call, hj, hlast, hcall, hreq, hpending, hexchange⟩ :=
      h.stage.exchange fun hidle => by simp [hidle.sendLoop] at hloop
    have hqueue : l.master.sendQueue = [] ∧ i = j := by
      rw [hloop] at hexchange
      generalize l.slave.loop = loop at hexchange
      cases hexchange <;> exact ⟨by assumption, rfl⟩
    obtain ⟨hqueue, rfl⟩ := hqueue
    refine h.setStage rfl rfl rfl rfl ?_
    rw [hj]
    exact .timedOut (finishCall_calls hcall hpending _) rfl
      (finishCall_idle hqueue hflight hquiet rfl)
  · cases hs

/-- The loop of the link goes on with the response. -/
theorem Joint.resumeLink (h : Joint b l c d n p res transit) {master : MasterLink}
    (hs : l.master.step .resumeLink = some master) :
    Joint b { l with master := master } c d n p res transit := by
  simp only [MasterLink.step] at hs
  split at hs
  · rename_i i response hloop hfuture
    obtain rfl := Option.some.inj hs
    obtain ⟨j, call, hj, hlast, hcall, hreq, hpending, hexchange⟩ :=
      h.stage.exchange fun hidle => by simp [hidle.sendLoop] at hloop
    rw [hloop, hfuture] at hexchange
    generalize hslave : l.slave.loop = loop at hexchange
    cases hexchange with
    | taken _ hqueue hresult hres hflight hquiet =>
      obtain rfl := ResFuture.result.inj hresult
      rw [← hslave] at hquiet
      refine h.setStage rfl rfl rfl rfl ?_
      rw [hj]
      exact .answered (finishCall_calls hcall hpending _) rfl hres
        (finishCall_idle hqueue hflight hquiet rfl)
    | _ => contradiction
  · cases hs

/-- The requests of a connection are answered, and not by all connections. -/
theorem Joint.requestFrame_answered (h : Joint b l c d n p res transit) :
    (requestFrame c.address c.asked n).address = c.address ∧
      (requestFrame c.address c.asked n).function ≠ .DATA_NO_RES := by
  cases n with
  | zero => exact ⟨rfl, by simp [requestFrame]⟩
  | succ n =>
    refine ⟨rfl, ?_⟩
    have hlt : n < c.requests.length := h.asking.le
    have hallowed := h.asking.allowed _ (List.getElem_mem hlt)
    intro hfunction
    simp [requestFrame, MasterConnection.asked, hlt] at hfunction
    simp [MasterConnection.Allowed, hfunction] at hallowed

/-- A request that is answered is written and awaited, or the link is closed. -/
theorem writeCall_cases (s : MasterLink) (i : ℕ) {call : Call}
    (haddress : call.req.address ≠ s.broadcastAddress)
    (hfunction : call.req.function ≠ .DATA_NO_RES) :
    s.writeCall i call = s.close ∨
    s.writeCall i call = { s with
      written := s.written ++ [(call.connection, call.req)], sendLoop := .awaiting i } := by
  unfold MasterLink.writeCall
  split
  · exact .inl rfl
  · right
    simp only [haddress, hfunction, or_self, if_false]

/-- The master writes its request. -/
theorem Joint.write (h : Joint b l c d n p res transit) (hs : l.step .write = some l') :
    ∃ c', Joint b l' c' d n p res transit := by
  obtain ⟨master, hwrite, rfl⟩ := Option.map_eq_some_iff.mp hs
  simp only [MasterLink.step] at hwrite
  split at hwrite
  · rename_i i hloop
    obtain ⟨j, call, hj, hlast, hcall, hreq, hpending, hexchange⟩ :=
      h.stage.exchange fun hidle => by simp [hidle.sendLoop] at hloop
    rw [hloop] at hexchange
    cases hexchange with
    | writing _ hqueue hfuture hflight hquiet =>
      rw [hcall] at hwrite
      obtain rfl : l.master.writeCall i call = master := Option.some.inj hwrite
      obtain ⟨haddress, hfunction⟩ := h.requestFrame_answered
      rw [← hreq] at haddress hfunction
      have hbroadcast : call.req.address ≠ l.master.broadcastAddress := by
        have := h.broadcast
        omega
      rcases writeCall_cases l.master i hbroadcast hfunction with hclose | hwritten
      · -- the request cannot be encoded
        have hnone : l.master.close.written[l.master.written.length]? = none :=
          List.getElem?_eq_none (Nat.le_refl _)
        rw [hclose, hnone]
        refine ⟨c.finish, h.finish ?_ rfl rfl rfl ⟨rfl, rfl, rfl, rfl, hquiet⟩⟩
        show l.master.conns.map _ = _
        rw [h.conns, List.map_singleton]
      · rw [hwritten]
        refine ⟨c, h.setStage rfl rfl rfl rfl ?_⟩
        rw [hj]
        refine .exchanging hlast hcall hreq hpending (.written _ hqueue hfuture (.inr ?_) hquiet)
        show Option.map _ (l.master.written ++ [_])[l.master.written.length]? = _
        rw [List.getElem?_append_right (Nat.le_refl _), Nat.sub_self, ← hreq]
        rfl
  · cases hwrite

/-- The master receives the response. -/
theorem Joint.response (h : Joint b l c d n p res transit) (hs : l.step .response = some l') :
    Joint b l' c d n p res transit := by
  simp only [Line.step] at hs
  split at hs
  · cases hs
  · cases hs
  · rename_i frame hnot hflight
    obtain ⟨master, hreceive, rfl⟩ := Option.map_eq_some_iff.mp hs
    obtain ⟨j, call, hj, hlast, hcall, hreq, hpending, hexchange⟩ :=
      h.stage.exchange fun hidle => by simp [hidle.flight] at hflight
    rw [hflight] at hexchange
    simp only [MasterLink.step] at hreceive
    generalize hsendLoop : l.master.sendLoop = sendLoop at hexchange
    generalize hslave : l.slave.loop = loop at hexchange
    cases hexchange with
    | written _ _ _ hflight' _ =>
      rcases hflight' with hflight' | hflight'
      · cases hflight'
      · exact absurd (Option.some.inj hflight') (hnot _)
    | answered _ hqueue hfuture hres _ hquiet =>
      split at hreceive
      · cases hreceive
      · obtain rfl := Option.some.inj hreceive
        refine h.setStage rfl rfl rfl rfl ?_
        rw [hj]
        refine .exchanging hlast hcall hreq hpending ?_
        show Exchange _ _ _ _ _ _ l.master.sendLoop l.slave.loop
        rw [hsendLoop, hslave]
        exact .taken _ hqueue rfl hres.symm rfl hquiet
    | _ => contradiction

/-- The frame on the line is lost. -/
theorem Joint.lose (h : Joint b l c d n p res transit) (hs : l.step .lose = some l') :
    Joint b l' c d n p res transit := by
  obtain ⟨frame, hflight, rfl⟩ := Option.map_eq_some_iff.mp hs
  obtain ⟨j, call, hj, hlast, hcall, hreq, hpending, hexchange⟩ :=
    h.stage.exchange fun hidle => by simp [hidle.flight] at hflight
  rw [hflight] at hexchange
  refine h.setStage rfl rfl rfl rfl ?_
  rw [hj]
  refine .exchanging hlast hcall hreq hpending ?_
  show Exchange _ _ _ _ _ none l.master.sendLoop l.slave.loop
  generalize l.master.sendLoop = sendLoop at hexchange
  generalize l.slave.loop = loop at hexchange
  cases hexchange with
  | written _ hqueue hfuture _ hquiet => exact .written _ hqueue hfuture (.inl rfl) hquiet
  | answered _ hqueue hfuture _ _ hquiet => exact .written _ hqueue hfuture (.inl rfl) hquiet
  | _ => contradiction

/-! ### Steps of the slave connection -/

theorem Stage.setSlave {req : ReqFrame} {o : Option ℕ} (h : Stage l req res o)
    (hmaster : l'.master = l.master) (hflight : l'.flight = l.flight)
    (hloop : l'.slave.loop = l.slave.loop) : Stage l' req res o := by
  obtain ⟨master, slave, flight, queued⟩ := l'
  obtain rfl : master = l.master := hmaster
  obtain rfl : flight = l.flight := hflight
  have hidle : Idle l → Idle ⟨l.master, slave, l.flight, queued⟩ := fun hidle =>
    { hidle with quiet := (by rw [hloop]; exact hidle.quiet) }
  cases h with
  | idle h => exact .idle (hidle h)
  | exchanging hlast hcall hreq hpending hexchange =>
    refine .exchanging hlast hcall hreq hpending ?_
    show Exchange _ _ _ _ _ _ _ slave.loop
    rw [hloop]
    exact hexchange
  | answered hcall hresult hres h => exact .answered hcall hresult hres (hidle h)
  | timedOut hcall htimeout h => exact .timedOut hcall htimeout (hidle h)

/-- The user of the slave connection sends or takes data, or closes it. -/
theorem Joint.setSlave (h : Joint b l c d n p res transit) (data : List Bytes)
    (haddress : d'.address = d.address ∧ d'.polls = d.polls)
    (hbit : d'.frameCountBit = d.frameCountBit) (hres : d'.res = d.res)
    (hreceived : d'.receiveQueue.received = d.receiveQueue.received)
    (hqueue : d'.sendQueue.map Prod.fst = d.sendQueue.map Prod.fst ++ data) (hdata : [] ∉ data) :
    Joint b { l with slave := { l.slave with conns := [d'] }, queued := l.queued ++ data } c d' n p
      res transit := by
  refine { h with
    slaveConns := rfl, broadcast := ?_, progress := ?_, keeping := ?_, queued := ?_
    stage := h.stage.setSlave rfl rfl rfl }
  · rw [haddress.1, haddress.2]
    exact h.broadcast
  · rw [hbit, hres]
    exact h.progress
  · refine { h.keeping with received := hreceived.trans h.keeping.received, nonempty := ?_ }
    rw [hqueue, List.mem_append, not_or]
    exact ⟨h.keeping.nonempty, hdata⟩
  · rw [h.queued, hqueue]
    simp only [List.append_assoc]

/-- The loop of the slave goes on with no response to send; a request that it had is lost. -/
theorem Exchange.quieten {req : ReqFrame} {j : ℕ} {sendQueue : List ℕ} {resFuture : ResFuture}
    {flight : Option Frame} {sendLoop : LinkLoop} {loop : SlaveLoop}
    (h : Exchange req j res sendQueue resFuture flight sendLoop loop) (loop' : SlaveLoop)
    (hquiet : loop'.quiet) : Exchange req j res sendQueue resFuture flight sendLoop loop' := by
  cases h with
  | queued _ hqueue hfuture hflight _ => exact .queued _ hqueue hfuture hflight hquiet
  | sleeping _ hqueue hfuture hflight _ => exact .sleeping _ hqueue hfuture hflight hquiet
  | writing _ hqueue hfuture hflight _ => exact .writing _ hqueue hfuture hflight hquiet
  | written _ hqueue hfuture hflight _ => exact .written _ hqueue hfuture hflight hquiet
  | received hqueue hfuture hflight => exact .written _ hqueue hfuture (.inl hflight) hquiet
  | putting hqueue hfuture hflight _ => exact .written _ hqueue hfuture (.inl hflight) hquiet
  | processed _ hqueue hfuture hflight _ => exact .written _ hqueue hfuture (.inl hflight) hquiet
  | answered _ hqueue hfuture hflight hres _ =>
    exact .answered _ hqueue hfuture hflight hres hquiet
  | taken _ hqueue hfuture hres hflight _ => exact .taken _ hqueue hfuture hres hflight hquiet

theorem Stage.quieten {req : ReqFrame} {o : Option ℕ} (h : Stage l req res o) (loop : SlaveLoop)
    (hquiet : loop.quiet) :
    Stage { l with slave := { l.slave with loop := loop } } req res o := by
  cases h with
  | idle h => exact .idle { h with quiet := hquiet }
  | exchanging hlast hcall hreq hpending hexchange =>
    exact .exchanging hlast hcall hreq hpending (hexchange.quieten loop hquiet)
  | answered hcall hresult hres h =>
    exact .answered hcall hresult hres { h with quiet := hquiet }
  | timedOut hcall htimeout h => exact .timedOut hcall htimeout { h with quiet := hquiet }

theorem Progress.setLoop {bit : Option Bool} {kept : Option Frame} {loop loop' : SlaveLoop}
    (h : Progress bit kept loop n p res) (hwaits' : loop'.waitsFor = none)
    (hloop : (∃ reason, loop' = .ended reason) ∨ loop.alive ∧ loop.waitsFor = none) :
    Progress bit kept loop' n p res := by
  cases h with
  | fresh hn hp _ => exact .fresh hn hp hwaits'
  | behind hn hbit _ => exact .behind hn hbit hwaits'
  | done hn hbit hres _ => exact .done hn hbit hres hwaits'
  | putting hn hbit hput =>
    rcases hloop with hended | ⟨halive, hwaits⟩
    · exact .putting hn hbit (.inr hended)
    · rcases hput with ⟨req, rest, k, rfl⟩ | ⟨reason, rfl⟩
      · cases hwaits
      · cases halive

theorem waitsFor_of_quiet {loop : SlaveLoop} (h : loop.quiet) : loop.waitsFor = none := by
  unfold SlaveLoop.quiet at h
  split at h <;> first | rfl | cases h

theorem Joint.quieten (h : Joint b l c d n p res transit) (loop : SlaveLoop) (hquiet : loop.quiet)
    (hloop : (∃ reason, loop = .ended reason) ∨
      l.slave.loop.alive ∧ l.slave.loop.waitsFor = none) :
    Joint b { l with slave := { l.slave with loop := loop } } c d n p res transit :=
  { h with
    progress := h.progress.setLoop (waitsFor_of_quiet hquiet) hloop
    stage := h.stage.quieten loop hquiet }

/-- The loop of the slave ends. -/
theorem Joint.finishSlave (h : Joint b l c d n p res transit) (reason : Reason) :
    Joint b { l with slave := l.slave.finish reason } c { d with isOpen := false } n p res
      transit := by
  have hclosed : Joint b { l with
      slave := { l.slave with conns := [{ d with isOpen := false }] } } c
      { d with isOpen := false } n p res transit := by
    rw [← List.append_nil l.queued]
    exact h.setSlave [] ⟨rfl, rfl⟩ rfl rfl rfl (List.append_nil _).symm List.not_mem_nil
  have hended := hclosed.quieten (.ended reason) rfl (.inl ⟨reason, rfl⟩)
  unfold SlaveLink.finish
  rw [h.slaveConns, List.map_singleton]
  exact hended

/-! ### The slave processes a request -/

/-- The master awaits the response to a request that the slave has. -/
def Serving (l : Line) (req : ReqFrame) (o : Option ℕ) : Prop :=
  ∃ j call, o = some j ∧ j + 1 = l.master.calls.length ∧ l.master.calls[j]? = some call ∧
    call.req = req ∧ call.future = .pending ∧ l.master.sendQueue = [] ∧
    l.master.resFuture = .pending ∧ l.master.sendLoop = .awaiting j ∧ l.flight = none

theorem Serving.flight {req : ReqFrame} {o : Option ℕ} (h : Serving l req o) : l.flight = none := by
  obtain ⟨_, _, _, _, _, _, _, _, _, _, hflight⟩ := h
  exact hflight

theorem Serving.stage {req : ReqFrame} {o : Option ℕ} (h : Serving l req o)
    (hmaster : l'.master = l.master)
    (hexchange : ∀ j, Exchange req j res [] .pending l'.flight (.awaiting j) l'.slave.loop) :
    Stage l' req res o := by
  obtain ⟨j, call, rfl, hlast, hcall, hreq, hpending, hqueue, hfuture, hloop, -⟩ := h
  rw [← hmaster] at hlast hcall hqueue hfuture hloop
  refine .exchanging hlast hcall hreq hpending ?_
  rw [hqueue, hfuture, hloop]
  exact hexchange j

/-- Where the loop of the slave is. -/
theorem Stage.slaveLoop {req : ReqFrame} {o : Option ℕ} (h : Stage l req res o) :
    l.slave.loop.quiet ∨ Serving l req o ∧ (l.slave.loop = .processing req [0] ∨
      l.slave.loop = .putting req [] 0 ∧ req.function = .DATA ∨
      res ≠ none ∧ ∃ sentCb, l.slave.loop = .sending req [] res sentCb) := by
  by_cases hidle : Idle l
  · exact .inl hidle.quiet
  obtain ⟨j, call, hj, hlast, hcall, hreq, hpending, hexchange⟩ := h.exchange hidle
  generalize hsend : l.master.sendLoop = sendLoop at hexchange
  have hserving : l.master.sendQueue = [] → l.master.resFuture = .pending → l.flight = none →
      sendLoop = .awaiting j → Serving l req o := fun hqueue hfuture hflight hawaiting =>
    ⟨j, call, hj, hlast, hcall, hreq, hpending, hqueue, hfuture, hsend.trans hawaiting, hflight⟩
  generalize l.slave.loop = loop at hexchange
  cases hexchange with
  | received hqueue hfuture hflight => exact .inr ⟨hserving hqueue hfuture hflight rfl, .inl rfl⟩
  | putting hqueue hfuture hflight hfunction =>
    exact .inr ⟨hserving hqueue hfuture hflight rfl, .inr (.inl ⟨rfl, hfunction⟩)⟩
  | processed sentCb hqueue hfuture hflight hres =>
    exact .inr ⟨hserving hqueue hfuture hflight rfl, .inr (.inr ⟨hres, sentCb, rfl⟩)⟩
  | _ => exact .inl (by assumption)

theorem Stage.processing {req req' : ReqFrame} {o : Option ℕ} {k : ℕ} {rest : List ℕ}
    (h : Stage l req res o) (hloop : l.slave.loop = .processing req' (k :: rest)) :
    req' = req ∧ k = 0 ∧ rest = [] ∧ Serving l req o := by
  have hslave := h.slaveLoop
  rw [hloop] at hslave
  rcases hslave with hquiet | ⟨hserving, hreceived | ⟨hputting, -⟩ | ⟨-, sentCb, hsending⟩⟩
  · cases hquiet
  · cases hreceived
    exact ⟨rfl, rfl, rfl, hserving⟩
  · cases hputting
  · cases hsending

theorem Stage.putting {req req' : ReqFrame} {o : Option ℕ} {k : ℕ} {rest : List ℕ}
    (h : Stage l req res o) (hloop : l.slave.loop = .putting req' rest k) :
    req' = req ∧ k = 0 ∧ rest = [] ∧ req.function = .DATA ∧ Serving l req o := by
  have hslave := h.slaveLoop
  rw [hloop] at hslave
  rcases hslave with hquiet | ⟨hserving, hreceived | ⟨hputting, hdata⟩ | ⟨-, sentCb, hsending⟩⟩
  · cases hquiet
  · cases hreceived
  · cases hputting
    exact ⟨rfl, rfl, rfl, hdata, hserving⟩
  · cases hsending

theorem Stage.sending {req req' : ReqFrame} {o : Option ℕ} {res' : Option Frame}
    {rest : List ℕ} {sentCb : Bool} (h : Stage l req res o)
    (hloop : l.slave.loop = .sending req' rest res' sentCb) :
    rest = [] ∧ res' = res ∧ res ≠ none ∧ Serving l req o := by
  have hslave := h.slaveLoop
  rw [hloop] at hslave
  rcases hslave with hquiet | ⟨hserving, hreceived | ⟨hputting, -⟩ | ⟨hres, sentCb, hsending⟩⟩
  · cases hquiet
  · cases hreceived
  · cases hputting
  · cases hsending
    exact ⟨rfl, rfl, hres, hserving⟩

/-- The slave has the response to the last request. -/
theorem Joint.answer (h : Joint b l c d n p res transit)
    (hserving : Serving l (requestFrame c.address c.asked n) c.loop.call) {r : Frame}
    (haddress : d'.address = d.address ∧ d'.polls = d.polls)
    (hbit : d'.frameCountBit = some (bitOf n)) (hres : d'.res = some r)
    (hkeeping : Keeping d' c.asked n n (some r))
    (hqueue : transit ++ d.sendQueue.map Prod.fst = responseData r ++ d'.sendQueue.map Prod.fst)
    (sentCb : Bool) :
    Joint b { l with slave := { l.slave with
      conns := [d'], loop := .sending (requestFrame c.address c.asked n) [] (some r) sentCb } } c d'
      n n (some r) (responseData r) := by
  have hcall : c.loop.call ≠ none := by
    obtain ⟨j, call, hj, -⟩ := hserving
    simp [hj]
  refine { h with
    slaveConns := rfl, broadcast := ?_, progress := .done rfl hbit hres rfl, keeping := hkeeping
    served := ?_, queued := ?_, transit := ?_, stage := ?_ }
  · rw [haddress.1, haddress.2]
    exact h.broadcast
  · intro i r' response hget hfuture
    exact (h.served i r' response hget hfuture).trans_le h.progress.le
  · rw [h.queued, List.append_assoc, hqueue, List.append_assoc]
  · refine ⟨?_, fun _ _ => rfl, ?_⟩
    · intro hloop
      simp [hloop, ConnectionLoop.call] at hcall
    · unfold responseData
      split
      · split <;> simp
      · simp
  · exact hserving.stage rfl fun j => .processed sentCb rfl rfl hserving.flight (by simp)

/-! ### Responses of the slave -/

theorem responseData_response (conn : SlaveConnection) (function : ResFunction) (data : Bytes) :
    responseData (conn.response function data).2 =
      if function = .RES_DATA ∧ data ≠ [] then [data] else [] := by
  unfold SlaveConnection.response
  simp only
  split
  · rename_i hshort
    rcases hshort.2 with rfl | rfl <;> rfl
  · rfl

/-- A new response to the last request is kept. -/
theorem Keeping.respond {asked : List (ReqFunction × Bytes)} (conn : SlaveConnection)
    {function : ResFunction} {data : Bytes}
    (hreceived : d.receiveQueue.received = sentData (asked.take n))
    (hnonempty : [] ∉ d.sendQueue.map Prod.fst)
    (hpolled : function = .RES_DATA →
      ∃ i function data, n = i + 1 ∧ asked[i]? = some (function, data) ∧ function ≠ .DATA) :
    Keeping d asked n n (some (conn.response function data).2) := by
  refine ⟨hreceived, hnonempty, ?_, ?_, ?_⟩
  · intro frame hframe
    unfold SlaveConnection.response at hframe
    simp only at hframe
    split at hframe <;> cases hframe
    rfl
  · intro req hreq
    unfold SlaveConnection.response at hreq
    simp only at hreq
    split at hreq <;> cases hreq
  · intro r hr hdata
    obtain rfl := Option.some.inj hr
    rw [responseData_response] at hdata
    split at hdata
    · rename_i hfunction
      exact hpolled hfunction.1
    · exact absurd rfl hdata

theorem sentData_take_succ {asked : List (ReqFunction × Bytes)} {m : ℕ} {function : ReqFunction}
    {data : Bytes} (hget : asked[m]? = some (function, data)) :
    sentData (asked.take (m + 1)) =
      sentData (asked.take m) ++ if function = .DATA then [data] else [] := by
  rw [sentData, List.take_add_one, List.filterMap_append, hget]
  split <;> simp [sentData, *]

theorem received_of_done {queue queue' : ReceiveQueue} {data : Bytes}
    (h : queue.tryPut data = .done queue') : queue'.received = queue.received ++ [data] := by
  unfold ReceiveQueue.tryPut at h
  split at h
  · cases h
  · split at h
    · cases h
      rfl
    · cases h

/-- The request of the master is answered. -/
theorem Joint.goOn_eq (h : Joint b l c d n p res transit) (conn : SlaveConnection)
    (res' : Option Frame) (sentCb : Bool) :
    l.slave.goOn (requestFrame c.address c.asked n) [] 0 conn (.responds res' sentCb) =
      { l.slave with
        conns := [conn]
        loop := .sending (requestFrame c.address c.asked n) [] res' sentCb } := by
  obtain ⟨haddress, hfunction⟩ := h.requestFrame_answered
  have hbroadcast : ¬ ((requestFrame c.address c.asked n).address = l.slave.broadcastAddress ∨
      (requestFrame c.address c.asked n).function = .DATA_NO_RES) := by
    rintro (haddress' | hfunction')
    · have := h.broadcast
      omega
    · exact hfunction hfunction'
  unfold SlaveLink.goOn SlaveLink.answer
  simp only [if_neg hbroadcast, h.slaveConns, List.set_cons_zero]

theorem requestFrame_succ (address : ℕ) {asked : List (ReqFunction × Bytes)} {m : ℕ}
    {function : ReqFunction} {data : Bytes} (hget : asked[m]? = some (function, data)) :
    requestFrame address asked (m + 1) =
      ⟨none, bitOf (m + 1), true, function, address, data⟩ := by
  simp [requestFrame, hget]

/-- The data of a request is in the receive queue. -/
theorem Joint.goOnPut (h : Joint b l c d (p + 1) p none transit)
    (hserving : Serving l (requestFrame c.address c.asked (p + 1)) c.loop.call) {data : Bytes}
    (hget : c.asked[p]? = some (.DATA, data)) {conn : SlaveConnection} {queue : ReceiveQueue}
    (haddress : conn.address = d.address ∧ conn.polls = d.polls)
    (hbit : conn.frameCountBit = some (bitOf (p + 1))) (hqueue : conn.sendQueue = d.sendQueue)
    (hput : d.receiveQueue.tryPut data = .done queue) :
    ∃ d' p' res' transit', Joint b { l with
      slave := l.slave.goOnPut (requestFrame c.address c.asked (p + 1)) [] 0 conn queue } c d'
      (p + 1) p' res' transit' := by
  obtain ⟨j, call, hj, -⟩ := id hserving
  have htransit : transit = [] := by
    refine h.transit.exchanging ?_ ?_ <;> intro hloop <;> simp [hloop, ConnectionLoop.call] at hj
  have hgoOn := h.goOn_eq
    (({ conn with receiveQueue := queue } : SlaveConnection).response .ACK []).1
    (some (({ conn with receiveQueue := queue } : SlaveConnection).response .ACK []).2) false
  have hslave : l.slave.goOnPut (requestFrame c.address c.asked (p + 1)) [] 0 conn queue = _ :=
    hgoOn
  rw [hslave]
  refine ⟨_, _, _, _, h.answer hserving ?_ ?_ rfl ?_ ?_ false⟩
  · exact haddress
  · exact hbit
  · apply Keeping.respond
    · show queue.received = _
      rw [received_of_done hput, h.keeping.received, sentData_take_succ hget, if_pos rfl]
    · show [] ∉ conn.sendQueue.map Prod.fst
      rw [hqueue]
      exact h.keeping.nonempty
    · intro hfunction
      cases hfunction
  · rw [htransit, responseData_response, if_neg (by simp)]
    show _ = [] ++ conn.sendQueue.map Prod.fst
    rw [hqueue]

/-- The slave is asked again for the response to the last request. -/
theorem Joint.repeated (h : Joint b l c d n p res transit)
    (hserving : Serving l (requestFrame c.address c.asked n) c.loop.call)
    (hbit : d.frameCountBit = some (bitOf n)) (hres : res ≠ none) (requests : List ReqFrame) :
    Joint b { l with
      slave := l.slave.goOn (requestFrame c.address c.asked n) [] 0 { d with requests := requests }
        (.responds d.res false) } c { d with requests := requests } n n res transit := by
  obtain ⟨r, rfl⟩ := Option.ne_none_iff_exists'.mp hres
  obtain ⟨j, call, hj, -⟩ := id hserving
  have htransit : transit = responseData r := by
    refine h.transit.exchanging ?_ ?_ <;> intro hloop <;> simp [hloop, ConnectionLoop.call] at hj
  have hkept : d.res = some r ∧ p = n := by
    cases h.progress with
    | done hn _ hres _ => exact ⟨hres, hn.symm⟩
  obtain ⟨hkept, rfl⟩ := hkept
  rw [h.goOn_eq, htransit, hkept]
  refine h.answer hserving ?_ ?_ ?_ ?_ ?_ false
  · exact ⟨rfl, rfl⟩
  · exact hbit
  · rfl
  · exact { h.keeping with }
  · rw [htransit]

/-- The reset of the link is acknowledged, whether or not one was before. -/
theorem Joint.reset (h : Joint b l c d 0 p res transit)
    (hserving : Serving l (requestFrame c.address c.asked 0) c.loop.call)
    (requests : List ReqFrame) :
    ∃ d' p' res' transit', Joint b { l with
      slave := l.slave.goOn (requestFrame c.address c.asked 0) [] 0
        (({ d with requests := requests } : SlaveConnection).processNew
          (requestFrame c.address c.asked 0)).1
        (({ d with requests := requests } : SlaveConnection).processNew
          (requestFrame c.address c.asked 0)).2 } c d' 0 p' res' transit' := by
  obtain ⟨j, call, hj, -⟩ := id hserving
  have hp := h.progress.le
  have htransit : transit = [] := by
    have hexchanging : transit = (res.map responseData).getD [] := by
      refine h.transit.exchanging ?_ ?_ <;> intro hloop <;> simp [hloop, ConnectionLoop.call] at hj
    cases res with
    | none => exact hexchanging
    | some r =>
      by_contra hne
      obtain ⟨i, _, _, hi, -⟩ := h.keeping.polled r rfl (fun hdata => hne (hexchanging.trans hdata))
      omega
  have hgoOn := h.goOn_eq
    (({ d with requests := requests, frameCountBit := some false } : SlaveConnection).response
      .ACK []).1
    (some (({ d with requests := requests, frameCountBit := some false } :
      SlaveConnection).response .ACK []).2) false
  have hslave : l.slave.goOn (requestFrame c.address c.asked 0) [] 0
      (({ d with requests := requests } : SlaveConnection).processNew
        (requestFrame c.address c.asked 0)).1
      (({ d with requests := requests } : SlaveConnection).processNew
        (requestFrame c.address c.asked 0)).2 = _ := hgoOn
  rw [hslave]
  refine ⟨_, _, _, _, h.answer hserving ?_ ?_ rfl ?_ ?_ false⟩
  · exact ⟨rfl, rfl⟩
  · rfl
  · apply Keeping.respond
    · show d.receiveQueue.received = _
      rw [h.keeping.received, Nat.le_zero.mp hp]
    · exact h.keeping.nonempty
    · intro hfunction
      cases hfunction
  · rw [htransit, responseData_response, if_neg (by simp)]
    rfl

/-- A new poll is answered by data of the send queue, if there is any. -/
theorem Joint.poll (h : Joint b l c d (p + 1) p none transit)
    (hserving : Serving l (requestFrame c.address c.asked (p + 1)) c.loop.call)
    {function : ReqFunction} {data : Bytes} (hget : c.asked[p]? = some (function, data))
    (hfunction : function ≠ .DATA) {conn : SlaveConnection}
    (haddress : conn.address = d.address ∧ conn.polls = d.polls)
    (hbit : conn.frameCountBit = some (bitOf (p + 1))) (hqueue : conn.sendQueue = d.sendQueue)
    (hreceived : conn.receiveQueue = d.receiveQueue) :
    ∃ d' p' res' transit', Joint b { l with
      slave := l.slave.goOn (requestFrame c.address c.asked (p + 1)) [] 0 conn.respondQueued.1
        conn.respondQueued.2 } c d' (p + 1) p' res' transit' := by
  obtain ⟨j, call, hj, -⟩ := id hserving
  have htransit : transit = [] := by
    refine h.transit.exchanging ?_ ?_ <;> intro hloop <;> simp [hloop, ConnectionLoop.call] at hj
  have htake : conn.receiveQueue.received = sentData (c.asked.take (p + 1)) := by
    rw [hreceived, h.keeping.received, sentData_take_succ hget, if_neg hfunction, List.append_nil]
  have hpolled : ∃ i function data, p + 1 = i + 1 ∧ c.asked[i]? = some (function, data) ∧
      function ≠ .DATA := ⟨p, function, data, rfl, hget, hfunction⟩
  have hnonempty := h.keeping.nonempty
  rw [← hqueue] at hnonempty
  cases hsend : conn.sendQueue with
  | nil =>
    simp only [SlaveConnection.respondQueued, hsend, SlaveConnection.respond]
    rw [h.goOn_eq]
    refine ⟨_, _, _, _, h.answer hserving ?_ ?_ rfl ?_ ?_ false⟩
    · exact haddress
    · exact hbit
    · exact Keeping.respond conn htake hnonempty fun _ => hpolled
    · rw [htransit, responseData_response, if_neg (by simp), ← hqueue]
      rfl
  | cons x queue =>
    obtain ⟨data, sentCb⟩ := x
    simp only [SlaveConnection.respondQueued, hsend, SlaveConnection.respond]
    rw [h.goOn_eq]
    rw [hsend, List.map_cons, List.mem_cons, not_or] at hnonempty
    refine ⟨_, _, _, _, h.answer hserving ?_ ?_ rfl ?_ ?_ sentCb⟩
    · exact haddress
    · exact hbit
    · exact Keeping.respond _ htake hnonempty.2 fun _ => hpolled
    · rw [htransit, responseData_response, if_pos ⟨rfl, Ne.symm hnonempty.1⟩, ← hqueue, hsend]
      rfl

/-- The data of a new request is put in the receive queue, or the loop waits, or it ends. -/
theorem Joint.put (h : Joint b l c d (p + 1) p none transit)
    (hserving : Serving l (requestFrame c.address c.asked (p + 1)) c.loop.call) {data : Bytes}
    (hget : c.asked[p]? = some (.DATA, data)) (requests : List ReqFrame) :
    ∃ d' p' res' transit', Joint b { l with
      slave := l.slave.goOn (requestFrame c.address c.asked (p + 1)) [] 0
        { d with requests := requests, frameCountBit := some (bitOf (p + 1)) } (.puts data) } c d'
      (p + 1) p' res' transit' := by
  unfold SlaveLink.goOn
  simp only
  split
  · -- the receive queue is closed
    refine ⟨{ d with
      requests := requests, frameCountBit := some (bitOf (p + 1)), isOpen := false }, p, none,
      transit, { h with
        slaveConns := ?_, progress := .putting rfl rfl (.inr ⟨_, rfl⟩)
        keeping := { h.keeping with }, stage := ?_ }⟩
    · show (l.slave.conns.set 0 _).map _ = _
      rw [h.slaveConns]
      rfl
    · exact (h.stage.quieten (.ended .queueClosedError) rfl).setSlave rfl rfl rfl
  · -- the receive queue is full
    refine ⟨{ d with requests := requests, frameCountBit := some (bitOf (p + 1)) }, p, none,
      transit, { h with
        slaveConns := ?_, progress := .putting rfl rfl (.inl ⟨_, _, _, rfl⟩)
        keeping := { h.keeping with }, stage := ?_ }⟩
    · show l.slave.conns.set 0 _ = _
      rw [h.slaveConns]
      rfl
    · refine hserving.stage rfl fun j => .putting rfl rfl hserving.flight ?_
      rw [requestFrame_succ c.address hget]
  · rename_i queue hput
    refine h.goOnPut hserving hget ?_ ?_ ?_ hput
    · exact ⟨rfl, rfl⟩
    · rfl
    · rfl

theorem Asking.allowed_asked (h : Asking c n) {i : ℕ} {function : ReqFunction} {data : Bytes}
    (hget : c.asked[i]? = some (function, data)) :
    MasterConnection.Allowed function data = true := by
  obtain ⟨r, hr, heq⟩ := List.mem_map.mp (List.mem_of_getElem? hget)
  obtain ⟨rfl, rfl⟩ := Prod.mk.inj heq
  exact h.allowed r hr

/-- What a new request makes the slave do. -/
theorem process_new (hpolls : d.polls = false) {m address : ℕ} {function : ReqFunction}
    {data : Bytes} (hallowed : MasterConnection.Allowed function data = true)
    (hbit : d.frameCountBit = some (bitOf m)) {req : ReqFrame}
    (hreq : req = ⟨none, bitOf (m + 1), true, function, address, data⟩) :
    d.process req =
      if function = .DATA then
        ({ d with
          requests := d.requests ++ [req], frameCountBit := some (bitOf (m + 1)) }, .puts data)
      else ({ d with requests := d.requests ++ [req], frameCountBit := some (bitOf (m + 1)) } :
        SlaveConnection).respondQueued := by
  have hnew : some (bitOf (m + 1)) ≠ some (bitOf m) := by simp
  subst hreq
  simp only [SlaveConnection.process, hbit, if_true, hnew, if_false]
  simp only [MasterConnection.Allowed, decide_eq_true_eq] at hallowed
  rcases hallowed with ⟨rfl, hdata⟩ | ⟨rfl | rfl, rfl⟩
  · simp [SlaveConnection.processNew, hdata]
  · simp [SlaveConnection.processNew]
  · simp [SlaveConnection.processNew, hpolls]

/-- The slave comes to its connection with the request of the master. -/
theorem Joint.process (h : Joint b l c d n p res transit)
    (hserving : Serving l (requestFrame c.address c.asked n) c.loop.call)
    (hloop : l.slave.loop.alive ∧ l.slave.loop.waitsFor = none) :
    ∃ d' p' res' transit', Joint b { l with
      slave := l.slave.goOn (requestFrame c.address c.asked n) [] 0
        (d.process (requestFrame c.address c.asked n)).1
        (d.process (requestFrame c.address c.asked n)).2 } c d' n p' res' transit' := by
  cases n with
  | zero => exact h.reset hserving _
  | succ m =>
    have hlt : m < c.asked.length := h.asking.length_asked
    obtain ⟨⟨function, data⟩, hget⟩ : ∃ x, c.asked[m]? = some x := ⟨_, List.getElem?_eq_getElem hlt⟩
    have hreq := requestFrame_succ c.address hget
    have hpolls := h.broadcast.2.2.2.2
    have hprogress := h.progress
    cases hprogress with
    | fresh hn _ _ => cases hn
    | putting _ _ hput =>
      -- the loop would be elsewhere
      rcases hput with ⟨req, rest, k, hput⟩ | ⟨reason, hended⟩
      · rw [hput] at hloop
        cases hloop.2
      · rw [hended] at hloop
        cases hloop.1
    | behind hn hbit _ =>
      obtain rfl : m = p := Nat.succ.inj hn
      rw [process_new hpolls (h.asking.allowed_asked hget) hbit hreq]
      split
      · rename_i hfunction
        subst hfunction
        exact h.put hserving hget _
      · rename_i hfunction
        refine h.poll hserving hget hfunction ?_ ?_ ?_ ?_
        · exact ⟨rfl, rfl⟩
        · rfl
        · rfl
        · rfl
    | done hn hbit hres _ =>
      have hrepeated : d.process (requestFrame c.address c.asked (m + 1)) =
          ({ d with requests := d.requests ++ [requestFrame c.address c.asked (m + 1)] },
            .responds d.res false) := by
        rw [hreq]
        simp [SlaveConnection.process, hbit]
      rw [hrepeated]
      exact ⟨_, _, _, _, h.repeated hserving hbit (by simp) _⟩

/-! ### Steps of the slave link -/

theorem receivers_singleton {s : SlaveLink} (hconns : s.conns = [d]) (req : ReqFrame) :
    s.receivers req = [] ∨ s.receivers req = [0] := by
  unfold SlaveLink.receivers
  rw [hconns, List.length_singleton, List.range_one, List.filter_singleton]
  generalize Option.any _ _ = found
  cases found with
  | true => exact .inr rfl
  | false => exact .inl rfl

/-- The slave receives the request. -/
theorem Joint.receive (h : Joint b l c d n p res transit) (hs : l.step .request = some l') :
    Joint b l' c d n p res transit := by
  simp only [Line.step] at hs
  split at hs
  · rename_i req hflight
    obtain ⟨slave, hreceive, rfl⟩ := Option.map_eq_some_iff.mp hs
    cases hloop : l.slave.loop with
    | receiving =>
      simp only [SlaveLink.step, hloop, Option.some.injEq] at hreceive
      subst hreceive
      obtain ⟨j, call, hj, hlast, hcall, hreq, hpending, hexchange⟩ :=
        h.stage.exchange fun hidle => by simp [hidle.flight] at hflight
      refine { h with
        progress := h.progress.setLoop rfl
          (.inr (by simp [hloop, SlaveLoop.alive, SlaveLoop.waitsFor]))
        stage := ?_ }
      rw [hj]
      refine .exchanging hlast hcall hreq hpending ?_
      show Exchange _ _ _ l.master.sendQueue l.master.resFuture none l.master.sendLoop
        (.processing req (l.slave.receivers req))
      rw [hflight, hloop] at hexchange
      generalize l.master.sendLoop = sendLoop at hexchange
      cases hexchange with
      | written _ hqueue hfuture hwritten _ =>
        obtain rfl : req = requestFrame c.address c.asked n := by simpa using hwritten
        -- a connection that is closed is not found
        rcases receivers_singleton h.slaveConns (requestFrame c.address c.asked n) with hnone | hone
        · rw [hnone]
          exact .written _ hqueue hfuture (.inl rfl) rfl
        · rw [hone]
          exact .received hqueue hfuture rfl
      | answered _ _ _ hres _ _ => exact absurd hres.symm (h.keeping.response req)
      | _ => contradiction
    | _ => simp [SlaveLink.step, hloop] at hreceive
  · cases hs

/-- A response is sent, or cannot be encoded. -/
theorem send_cases (s : SlaveLink) (req : ReqFrame) (rest : List ℕ) (sentCb : Bool) (r : Frame) :
    (∃ e, s.send req rest sentCb (some r) = s.finish (.error e)) ∨
    s.send req rest sentCb (some r) =
      { s with loop := if sentCb then .calling req rest else .processing req rest } := by
  unfold SlaveLink.send
  cases hencode : s.encoder.encode r with
  | error e => exact .inl ⟨e, by simp only [hencode]⟩
  | ok bytes => exact .inr (by simp only [hencode])

/-- The slave writes the response. -/
theorem Joint.sent (h : Joint b l c d n p res transit) (hs : l.step .respond = some l') :
    ∃ d', Joint b l' c d' n p res transit := by
  simp only [Line.step] at hs
  split at hs
  · rename_i req rest res' sentCb hloop
    obtain ⟨slave, hsent, rfl⟩ := Option.map_eq_some_iff.mp hs
    simp only [SlaveLink.step, hloop, Option.some.injEq] at hsent
    subst hsent
    obtain ⟨rfl, rfl, hres, hserving⟩ := h.stage.sending hloop
    obtain ⟨r, rfl⟩ := Option.ne_none_iff_exists'.mp hres
    rcases send_cases l.slave req [] sentCb r with ⟨e, hsend⟩ | hsend
    · rw [hsend]
      refine ⟨_, (h.finishSlave (.error e)).setStage rfl rfl rfl rfl ?_⟩
      exact hserving.stage rfl fun j => .written _ rfl rfl (.inl rfl) rfl
    · have halive : (if sentCb then SlaveLoop.calling req [] else .processing req []).quiet ∧
          (if sentCb then SlaveLoop.calling req [] else .processing req []).alive := by
        split <;> exact ⟨rfl, rfl⟩
      rw [hsend]
      refine ⟨d, { h with
        progress := h.progress.setLoop (waitsFor_of_quiet halive.1)
          (.inr (by simp [hloop, SlaveLoop.alive, SlaveLoop.waitsFor]))
        stage := hserving.stage rfl fun j => ?_ }⟩
      exact .answered _ rfl rfl (if_pos halive.2) (by simp) halive.1
  · cases hs

/-- The loop of the slave goes on to its connection, or to the next frame. -/
theorem Joint.next (h : Joint b l c d n p res transit) {slave : SlaveLink}
    (hs : l.slave.step .next = some slave) :
    ∃ d' p' res' transit', Joint b { l with slave := slave } c d' n p' res' transit' := by
  simp only [SlaveLink.step] at hs
  split at hs
  · rename_i req hloop
    obtain rfl := Option.some.inj hs
    exact ⟨d, p, res, transit, h.quieten .receiving rfl
      (.inr (by simp [hloop, SlaveLoop.alive, SlaveLoop.waitsFor]))⟩
  · rename_i req k rest hloop
    obtain ⟨rfl, rfl, rfl, hserving⟩ := h.stage.processing hloop
    rw [h.slaveConns] at hs
    obtain rfl := Option.some.inj hs
    have hrunning : l.slave.loop.alive ∧ l.slave.loop.waitsFor = none := by
      simp [hloop, SlaveLoop.alive, SlaveLoop.waitsFor]
    show ∃ d' p' res' transit', Joint b { l with
      slave := l.slave.visit (requestFrame c.address c.asked n) [] 0 d } c d' n p' res' transit'
    unfold SlaveLink.visit
    split
    · exact h.process hserving hrunning
    · -- the connection is closed
      exact ⟨d, p, res, transit, h.quieten _ rfl (.inr hrunning)⟩
  · cases hs

/-- The loop of the slave goes on from `put`. -/
theorem Joint.resumePut (h : Joint b l c d n p res transit) {slave : SlaveLink}
    (hs : l.slave.step .resumePut = some slave) :
    ∃ d' p' res' transit', Joint b { l with slave := slave } c d' n p' res' transit' := by
  simp only [SlaveLink.step] at hs
  split at hs
  · rename_i req rest k hloop
    obtain ⟨rfl, rfl, rfl, hfunction, hserving⟩ := h.stage.putting hloop
    rw [h.slaveConns] at hs
    change l.slave.resumePut _ [] 0 d = some slave at hs
    unfold SlaveLink.resumePut at hs
    split at hs
    · obtain rfl := Option.some.inj hs
      exact ⟨_, p, res, transit, h.finishSlave _⟩
    · cases hs
    · obtain rfl := Option.some.inj hs
      rename_i queue hput
      have hprogress := h.progress
      rw [hloop] at hprogress
      cases hprogress with
      | putting hn hbit _ =>
        subst hn
        have hlt : p < c.asked.length := h.asking.length_asked
        obtain ⟨⟨function, data⟩, hget⟩ : ∃ x, c.asked[p]? = some x :=
          ⟨_, List.getElem?_eq_getElem hlt⟩
        rw [requestFrame_succ c.address hget] at hfunction hput
        subst hfunction
        exact h.goOnPut hserving hget ⟨rfl, rfl⟩ hbit rfl hput
      | _ => contradiction
  · cases hs

/-- `sent_cb` ends. -/
theorem Joint.called (h : Joint b l c d n p res transit) {result : Except Exn Unit}
    {slave : SlaveLink} (hs : l.slave.step (.called result) = some slave) :
    ∃ d', Joint b { l with slave := slave } c d' n p res transit := by
  simp only [SlaveLink.step] at hs
  split at hs
  · obtain rfl := Option.some.inj hs
    exact ⟨_, h.finishSlave _⟩
  · rename_i req rest value hloop
    obtain rfl := Option.some.inj hs
    have hrest : rest = [] := by
      have hslave := h.stage.slaveLoop
      rw [hloop] at hslave
      cases rest with
      | nil => rfl
      | cons k rest => simp [SlaveLoop.quiet] at hslave
    subst hrest
    exact ⟨d, h.quieten _ rfl (.inr (by simp [hloop, SlaveLoop.alive, SlaveLoop.waitsFor]))⟩
  · cases hs

theorem onConn_singleton_slave {s s' : SlaveLink} {k : ℕ}
    {f : SlaveConnection → Option SlaveConnection} (hconns : s.conns = [d])
    (hs : s.onConn k f = some s') : ∃ d', f d = some d' ∧ s' = { s with conns := [d'] } := by
  obtain ⟨d', hd', rfl⟩ := Option.map_eq_some_iff.mp hs
  obtain ⟨conn, hconn, hf⟩ := Option.bind_eq_some_iff.mp hd'
  rw [hconns] at hconn
  obtain ⟨rfl, rfl⟩ := getElem?_singleton_eq_some hconn
  refine ⟨d', hf, ?_⟩
  rw [hconns]
  rfl

/-- Do two slave connections keep the same, and have the same to send? -/
def Same (d d' : SlaveConnection) : Prop :=
  (d'.address = d.address ∧ d'.polls = d.polls) ∧ d'.frameCountBit = d.frameCountBit ∧
    d'.res = d.res ∧ d'.receiveQueue.received = d.receiveQueue.received ∧
    d'.sendQueue = d.sendQueue

theorem same_of_receiveData (h : d.receiveData = some d') : Same d d' := by
  unfold SlaveConnection.receiveData at h
  split at h
  · obtain ⟨queue, hqueue, rfl⟩ := Option.map_eq_some_iff.mp h
    refine ⟨⟨rfl, rfl⟩, rfl, rfl, ?_, rfl⟩
    unfold ReceiveQueue.take at hqueue
    split at hqueue
    · obtain rfl := Option.some.inj hqueue
      rfl
    · cases hqueue
  · cases h

theorem same_of_close (h : d.close = some d') : Same d d' := by
  unfold SlaveConnection.close at h
  split at h
  · obtain rfl := Option.some.inj h
    exact ⟨⟨rfl, rfl⟩, rfl, rfl, rfl, rfl⟩
  · cases h

theorem same_of_cleanUp (h : d.cleanUp = some d') : Same d d' := by
  unfold SlaveConnection.cleanUp at h
  split at h
  · obtain rfl := Option.some.inj h
    exact ⟨⟨rfl, rfl⟩, rfl, rfl, rfl, rfl⟩
  · cases h

theorem Joint.same (h : Joint b l c d n p res transit) {slave : SlaveLink} {k : ℕ}
    {f : SlaveConnection → Option SlaveConnection} (hf : ∀ d', f d = some d' → Same d d')
    (hs : l.slave.onConn k f = some slave) : ∃ d' p' res' transit', Joint b { l with
      slave := slave, queued := l.queued ++ [] } c d' n p' res' transit' := by
  obtain ⟨d', hd', rfl⟩ := onConn_singleton_slave h.slaveConns hs
  obtain ⟨haddress, hbit, hres, hreceived, hqueue⟩ := hf d' hd'
  refine ⟨d', p, res, transit, h.setSlave [] haddress hbit hres hreceived ?_ List.not_mem_nil⟩
  rw [hqueue, List.append_nil]

theorem queues_nothing {slave : SlaveLink}
    (h : ∃ d' p' res' transit', Joint b { l with slave := slave } c d' n p' res' transit') :
    ∃ d' p' res' transit', Joint b { l with
      slave := slave, queued := l.queued ++ [] } c d' n p' res' transit' := by
  rw [List.append_nil]
  exact h

/-- A step of the slave. -/
theorem Joint.slave (h : Joint b l c d n p res transit) {e : SlaveEvent}
    (he : Line.SlaveInner e) {slave : SlaveLink} (hs : l.slave.step e = some slave) :
    ∃ d' p' res' transit', Joint b { l with
      slave := slave, queued := l.queued ++ Line.queues e } c d' n p' res' transit' := by
  cases e with
  | openConnection => cases he
  | receive frame => cases he
  | sent => cases he
  | send k data sentCb =>
    obtain ⟨d', hd', rfl⟩ := onConn_singleton_slave h.slaveConns hs
    unfold SlaveConnection.send at hd'
    split at hd'
    · rename_i hsend
      obtain rfl := Option.some.inj hd'
      refine ⟨_, p, res, transit, h.setSlave [data] ⟨rfl, rfl⟩ rfl rfl rfl List.map_append ?_⟩
      exact fun hmem => hsend.2.2.1 (List.mem_singleton.mp hmem).symm
    · cases hd'
  | receiveData k => exact h.same (fun _ => same_of_receiveData) hs
  | close k => exact h.same (fun _ => same_of_close) hs
  | cleanUp k => exact h.same (fun _ => same_of_cleanUp) hs
  | closeLink =>
    simp only [SlaveLink.step] at hs
    split at hs
    · obtain rfl := Option.some.inj hs
      exact queues_nothing ⟨_, p, res, transit, h.finishSlave _⟩
    · cases hs
  | next => exact queues_nothing (h.next hs)
  | resumePut => exact queues_nothing (h.resumePut hs)
  | called result =>
    obtain ⟨d', hd'⟩ := h.called hs
    exact queues_nothing ⟨d', p, res, transit, hd'⟩
  | polled result =>
    -- the connection has no callback
    have hslave := h.stage.slaveLoop
    cases hloop : l.slave.loop with
    | polling req rest k => simp [hloop, SlaveLoop.quiet] at hslave
    | _ => simp [SlaveLink.step, hloop] at hs

/-- A step of the master connection, or of the loop of its link. -/
theorem Joint.master (h : Joint b l c d n p res transit) {e : Event}
    (he : Line.MasterInner l.master e) {master : MasterLink} (hs : l.master.step e = some master) :
    ∃ c' n' res' transit', Joint b { l with master := master } c' d n' p res' transit' := by
  cases e with
  | request k function data =>
    obtain ⟨-, c', hc', rfl⟩ := onConn_singleton h.conns hs
    exact ⟨c', n, res, transit, h.request hc'⟩
  | receiveData k =>
    obtain ⟨-, c', hc', rfl⟩ := onConn_singleton h.conns hs
    exact ⟨c', n, res, transit, h.receiveData hc'⟩
  | nextRequest k =>
    obtain ⟨-, c', hc', rfl⟩ := onConn_singleton h.conns hs
    exact ⟨c', n + 1, none, [], h.nextRequest hc'⟩
  | cancel k i =>
    obtain ⟨rfl, c', hc', rfl⟩ := onConn_singleton h.conns hs
    obtain rfl := Option.some.inj hc'
    obtain ⟨conn, hconn, hany⟩ := (Option.any_eq_true ..).mp he
    rw [h.conns] at hconn
    obtain ⟨-, rfl⟩ := getElem?_singleton_eq_some hconn
    obtain ⟨request, hget, hfunction⟩ := (Option.any_eq_true ..).mp hany
    exact ⟨_, n, res, transit, h.cancel hget (of_decide_eq_true hfunction)⟩
  | submit k =>
    obtain ⟨conn, hconn, hs⟩ := Option.bind_eq_some_iff.mp hs
    rw [h.conns] at hconn
    obtain ⟨rfl, rfl⟩ := getElem?_singleton_eq_some hconn
    obtain ⟨req, hreq, hs⟩ := Option.bind_eq_some_iff.mp hs
    split at hs
    · obtain rfl := Option.some.inj hs
      exact ⟨_, n, res, transit, h.submit hreq⟩
    · cases hs
  | resume k =>
    obtain ⟨-, c', hc', rfl⟩ := onConn_singleton h.conns hs
    obtain ⟨call, hcall, hc'⟩ := Option.bind_eq_some_iff.mp hc'
    obtain ⟨j, hj, hcall⟩ := Option.bind_eq_some_iff.mp hcall
    obtain ⟨transit', hjoint⟩ := h.resume hj hcall hc'
    exact ⟨c', n, res, transit', hjoint⟩
  | nextCall => exact ⟨c, n, res, transit, h.nextCall hs⟩
  | wake => exact ⟨c, n, res, transit, h.wake hs⟩
  | resumeLink => exact ⟨c, n, res, transit, h.resumeLink hs⟩
  | _ => cases he

/-! ### Runs -/

namespace Line

theorem Inv.init {addressSize : AddressSize} {broadcastAddress address : ℕ}
    (haddress : address < broadcastAddress) (sendRetryCount : ℕ)
    (linkQueueSize sendQueueSize receiveQueueSize : ℕ)
    (slaveSendQueueSize slaveReceiveQueueSize : ℕ) :
    Inv broadcastAddress (init addressSize broadcastAddress address sendRetryCount linkQueueSize
      sendQueueSize receiveQueueSize slaveSendQueueSize slaveReceiveQueueSize) := by
  refine ⟨_, _, 0, 0, none, [], rfl, rfl, ⟨rfl, rfl, haddress, rfl, rfl⟩, ?_, ?_,
    .fresh rfl rfl rfl, ?_, ?_, rfl, ?_, .idle ⟨rfl, rfl, rfl, rfl, rfl⟩⟩
  · refine ⟨Nat.zero_le _, fun _ => rfl, rfl, ⟨rfl, rfl⟩, ?_, fun _ => rfl, ?_⟩
    · intro r hmem
      cases hmem
    · rintro i req retryCounter (hloop | ⟨j, hloop⟩) <;> cases hloop
  · intro _ i r hget
    cases hget
  · refine ⟨rfl, List.not_mem_nil, ?_, ?_, ?_⟩
    · intro frame hframe
      cases hframe
    · intro req hreq
      cases hreq
    · intro r hr
      cases hr
  · intro i r response hget
    cases hget
  · exact ⟨fun hloop => (by cases hloop), fun _ _ => rfl, Nat.zero_le 1⟩

theorem Inv.step (h : l.Inv b) {e : LineEvent} (hprompt : l.Prompt e) (hs : l.step e = some l') :
    l'.Inv b := by
  obtain ⟨c, d, n, p, res, transit, h⟩ := h
  cases e with
  | master e =>
    simp only [Line.step] at hs
    split at hs
    · rename_i he
      obtain ⟨master, hmaster, rfl⟩ := Option.map_eq_some_iff.mp hs
      obtain ⟨c', n', res', transit', hjoint⟩ := h.master he hmaster
      exact ⟨c', d, n', p, res', transit', hjoint⟩
    · cases hs
  | slave e =>
    simp only [Line.step] at hs
    split at hs
    · rename_i he
      obtain ⟨slave, hslave, rfl⟩ := Option.map_eq_some_iff.mp hs
      obtain ⟨d', p', res', transit', hjoint⟩ := h.slave he hslave
      exact ⟨c, d', n, p', res', transit', hjoint⟩
    · cases hs
  | write =>
    obtain ⟨c', hjoint⟩ := h.write hs
    exact ⟨c', d, n, p, res, transit, hjoint⟩
  | request => exact ⟨c, d, n, p, res, transit, h.receive hs⟩
  | respond =>
    obtain ⟨d', hjoint⟩ := h.sent hs
    exact ⟨c, d', n, p, res, transit, hjoint⟩
  | response => exact ⟨c, d, n, p, res, transit, h.response hs⟩
  | lose => exact ⟨c, d, n, p, res, transit, h.lose hs⟩
  | timeout =>
    obtain ⟨master, hmaster, rfl⟩ := Option.map_eq_some_iff.mp hs
    exact ⟨c, d, n, p, res, transit, h.timeout hprompt.1 hprompt.2 hmaster⟩

/-- The slave has the data of the first requests of the master once each, in their order, and among
these requests are all that succeeded. -/
def Commanded (c : MasterConnection) (d : SlaveConnection) : Prop :=
  ∃ p ≤ c.asked.length, d.receiveQueue.received = sentData (c.asked.take p) ∧
    ∀ (i : ℕ) (r : Request) (response : Response), c.requests[i]? = some r →
      r.future = .result response → i < p

/-- The master has the first data that the slave queued once each, in its order, and the slave has
the others, but for one response that is on its way. -/
def Reported (queued : List Bytes) (c : MasterConnection) (d : SlaveConnection) : Prop :=
  ∃ transit : List Bytes, transit.length ≤ 1 ∧ (c.loop = .next → transit = []) ∧
    queued = c.received.map Prod.fst ++ transit ++ d.sendQueue.map Prod.fst

/-- **Exactly once.**  In a run with no late response, data goes over a line that loses frames in
both directions once each and in its order. -/
theorem exactlyOnce {addressSize : AddressSize} {broadcastAddress address : ℕ}
    (haddress : address < broadcastAddress) {sendRetryCount : ℕ}
    {linkQueueSize sendQueueSize receiveQueueSize slaveSendQueueSize slaveReceiveQueueSize : ℕ}
    {es : List LineEvent}
    (hprompt : Along step Prompt (init addressSize broadcastAddress address sendRetryCount
      linkQueueSize sendQueueSize receiveQueueSize slaveSendQueueSize slaveReceiveQueueSize) es)
    (hrun : run step (init addressSize broadcastAddress address sendRetryCount linkQueueSize
      sendQueueSize receiveQueueSize slaveSendQueueSize slaveReceiveQueueSize) es = some l) :
    ∃ c d, l.master.conns = [c] ∧ l.slave.conns = [d] ∧ Commanded c d ∧ Reported l.queued c d := by
  obtain ⟨c, d, n, p, res, transit, h⟩ := run_invariant (Inv broadcastAddress)
    (fun _ _ _ h hc hs => h.step hc hs) (Inv.init haddress ..) hprompt hrun
  refine ⟨c, d, h.conns, h.slaveConns, ⟨p, ?_, h.keeping.received, h.served⟩, transit,
    h.transit.length_le, fun hloop => (h.transit.next hloop).1, h.queued⟩
  exact h.progress.le.trans h.asking.length_asked

/-! ### Examples -/

/-- A line to station 1. -/
def station : Line := init .ONE 0xFF 1 2 0 0 0 0 0

/-- The master makes its request, and the slave answers it. -/
def request : List LineEvent :=
  [.master (.submit 0), .master .nextCall, .master .wake, .write, .request, .slave .next, .respond,
    .slave .next]

/-- The master takes the response. -/
def answer : List LineEvent := [.response, .master .resumeLink, .master (.resume 0)]

/-- The response is lost, and the request is repeated. -/
def lossy : List LineEvent :=
  request ++ [.lose, .timeout, .master (.resume 0)] ++ request ++ answer

/-- Data goes both ways, and each response is lost once. -/
def exchange : List LineEvent :=
  lossy ++ [.master (.request 0 .DATA [7]), .master (.nextRequest 0)] ++ lossy ++
    [.slave (.send 0 [8] false), .master (.request 0 .REQ_DATA_1 []), .master (.nextRequest 0)] ++
    lossy

set_option maxRecDepth 8000 in
/-- The data arrives once. -/
theorem exactlyOnce_exchange :
    ∃ l, run step station exchange = some l ∧
      l.slave.conns.map (·.receiveQueue.received) = [[[7]]] ∧
      l.master.conns.map (·.receiveQueue) = [[[8]]] ∧ ∃ c d, l.master.conns = [c] ∧
        l.slave.conns = [d] ∧ Commanded c d ∧ Reported l.queued c d := by
  have hprompt : Along step Prompt station exchange := by decide
  obtain ⟨l, hrun, hview⟩ := Option.map_eq_some_iff.mp
    (show (run step station exchange).map (fun l =>
      (l.slave.conns.map (·.receiveQueue.received), l.master.conns.map (·.receiveQueue))) =
        some ([[[7]]], [[[8]]]) by decide)
  obtain ⟨hslave, hmaster⟩ := Prod.mk.inj hview
  have haddress : 1 < 0xFF := by decide
  exact ⟨l, hrun, hslave, hmaster, exactlyOnce haddress hprompt hrun⟩

end Line

end HatDrivers.Iec60870.Link.Unbalanced
