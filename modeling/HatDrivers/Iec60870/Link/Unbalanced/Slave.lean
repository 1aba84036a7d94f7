import HatDrivers.Iec60870.Link.Receiving

namespace HatDrivers.Iec60870.Link.Unbalanced

open HatDrivers.Lib

/-!
# Unbalanced slave link

One receive loop takes the requests of the master off the line and has the connections process
them: a request with an address goes to the connection of that address, a broadcast to all.
Data is put in the receive queue of the connection, where the loop waits for room.

A connection that is closed has its queue closed a moment later (`cleanUp`).
-/

structure SlaveConnection where
  address : ℕ
  /-- has it a `poll_class2_cb`? -/
  polls : Bool
  isOpen : Bool
  /-- history: was it closed of itself, or by its user? -/
  closeRequested : Bool
  /-- its queues are closed, and it is not in `_conns` any more -/
  cleanedUp : Bool
  frameCountBit : Option Bool
  res : Option Frame
  sendQueueSize : ℕ
  /-- data, and has it a `sent_cb`? -/
  sendQueue : List (Bytes × Bool)
  receiveQueue : ReceiveQueue
  /-- history: how many requests the loop had taken when the connection was opened -/
  since : ℕ
  /-- history: the requests that were processed -/
  requests : List ReqFrame
  deriving DecidableEq

/-- What `_process` does next. -/
inductive Processing
  | responds (res : Option Frame) (sentCb : Bool)
  | puts (data : Bytes)
  | polls
  deriving DecidableEq

namespace SlaveConnection

def new (address : ℕ) (polls : Bool) (receiveQueueSize sendQueueSize since : ℕ) :
    SlaveConnection where
  address := address
  polls := polls
  isOpen := true
  closeRequested := false
  cleanedUp := false
  frameCountBit := none
  res := none
  sendQueueSize := sendQueueSize
  sendQueue := []
  receiveQueue := .empty receiveQueueSize
  since := since
  requests := []

/-- The end of `_process`: the response, which is kept. -/
def response (conn : SlaveConnection) (function : ResFunction) (data : Bytes) :
    SlaveConnection × Frame :=
  let accessDemand := ¬ conn.sendQueue.isEmpty
  let res : Frame :=
    if ¬ accessDemand ∧ (function = .ACK ∨ function = .RES_NACK) then .ShortFrame
    else .ResFrame ⟨none, accessDemand, false, function, conn.address, data⟩
  ({ conn with res := some res }, res)

def respond (conn : SlaveConnection) (function : ResFunction) (data : Bytes) (sentCb : Bool) :
    SlaveConnection × Processing :=
  ((conn.response function data).1, .responds (some (conn.response function data).2) sentCb)

/-- Data of the send queue, if there is any. -/
def respondQueued (conn : SlaveConnection) : SlaveConnection × Processing :=
  match conn.sendQueue with
  | [] => conn.respond .RES_NACK [] false
  | (data, sentCb) :: queue =>
    ({ conn with sendQueue := queue } : SlaveConnection).respond .RES_DATA data sentCb

/-- `_process` of a request that is not a repetition. -/
def processNew (conn : SlaveConnection) (req : ReqFrame) : SlaveConnection × Processing :=
  match req.function with
  | .RESET_LINK | .RESET_PROCESS =>
    let conn := if req.frameCountValid then conn else { conn with frameCountBit := some false }
    conn.respond .ACK [] false
  | .DATA | .DATA_NO_RES =>
    if req.data ≠ [] then (conn, .puts req.data) else conn.respond .ACK [] false
  | .REQ_ACCESS_DEMAND => conn.respond .RES_NACK [] false
  | .REQ_STATUS => conn.respond .RES_STATUS [] false
  | .REQ_DATA_1 => conn.respondQueued
  | .REQ_DATA_2 => if conn.polls then (conn, .polls) else conn.respondQueued
  | .TEST => conn.respond .NOT_IMPLEMENTED [] false

def process (conn : SlaveConnection) (req : ReqFrame) : SlaveConnection × Processing :=
  let conn := { conn with requests := conn.requests ++ [req] }
  if req.frameCountValid then
    if some req.frameCountBit = conn.frameCountBit then (conn, .responds conn.res false)
    else ({ conn with frameCountBit := some req.frameCountBit } : SlaveConnection).processNew req
  else conn.processNew req

/-- `_process` after the callback of class 2 polls. -/
def polled (conn : SlaveConnection) : Option Bytes → SlaveConnection × Processing
  | some data => conn.respond .RES_DATA data false
  | none => conn.respondQueued

/-! ### Its user -/

/-- Was `open_connection` of it completed?  It waits for the first request. -/
def isActive (conn : SlaveConnection) : Bool := ¬ conn.requests.isEmpty

def send (conn : SlaveConnection) (data : Bytes) (sentCb : Bool) : Option SlaveConnection :=
  if conn.isActive ∧ ¬ conn.cleanedUp ∧ data ≠ [] ∧ hasRoom conn.sendQueueSize conn.sendQueue then
    some { conn with sendQueue := conn.sendQueue ++ [(data, sentCb)] }
  else none

def receiveData (conn : SlaveConnection) : Option SlaveConnection :=
  if conn.isActive then
    conn.receiveQueue.take.map fun queue => { conn with receiveQueue := queue }
  else none

def close (conn : SlaveConnection) : Option SlaveConnection :=
  if conn.isOpen then some { conn with isOpen := false, closeRequested := true } else none

/-- Is it closed, with its tasks not yet ended? -/
def isClosing (conn : SlaveConnection) : Bool := ¬ conn.isOpen ∧ ¬ conn.cleanedUp

def cleanUp (conn : SlaveConnection) : Option SlaveConnection :=
  if conn.isClosing then
    some { conn with cleanedUp := true, receiveQueue := conn.receiveQueue.close }
  else none

end SlaveConnection

/-- Where `_receive_loop` is, with the connections that are still to process the request. -/
inductive SlaveLoop
  | receiving
  | processing (req : ReqFrame) (rest : List ℕ)
  /-- at `self._receive_queue.put(req.data)` of a connection -/
  | putting (req : ReqFrame) (rest : List ℕ) (connection : ℕ)
  /-- at the callback of class 2 polls of a connection -/
  | polling (req : ReqFrame) (rest : List ℕ) (connection : ℕ)
  /-- in the silent interval, or at `self._endpoint.send(res)` -/
  | sending (req : ReqFrame) (rest : List ℕ) (res : Option Frame) (sentCb : Bool)
  /-- at `sent_cb` -/
  | calling (req : ReqFrame) (rest : List ℕ)
  | ended (reason : Reason)
  deriving DecidableEq

namespace SlaveLoop

def alive : SlaveLoop → Bool
  | .ended _ => false
  | _ => true

/-- The request that is processed, and the connections that are still to process it. -/
def pending : SlaveLoop → Option (ReqFrame × List ℕ)
  | .processing req rest => some (req, rest)
  | .putting req rest _ => some (req, rest)
  | .polling req rest _ => some (req, rest)
  | .sending req rest _ _ => some (req, rest)
  | .calling req rest => some (req, rest)
  | _ => none

/-- The connection in whose queue the loop waits to put data. -/
def waitsFor : SlaveLoop → Option ℕ
  | .putting _ _ k => some k
  | _ => none

/-- Did it end as it put data in a closed queue? -/
def failed : SlaveLoop → Bool
  | .ended .queueClosedError => true
  | _ => false

end SlaveLoop

structure SlaveLink where
  encoder : Encoder
  broadcastAddress : ℕ
  loop : SlaveLoop
  conns : List SlaveConnection
  /-- history: the requests that were received -/
  frames : List ReqFrame
  deriving DecidableEq

inductive SlaveEvent
  | openConnection (address : ℕ) (polls : Bool) (receiveQueueSize sendQueueSize : ℕ)
  /-- a call of `send` of a connection puts its data in the send queue -/
  | send (connection : ℕ) (data : Bytes) (sentCb : Bool)
  /-- a call of `receive` of a connection takes data -/
  | receiveData (connection : ℕ)
  /-- a connection is closed by its user, or as it was not kept alive -/
  | close (connection : ℕ)
  /-- the tasks of a closed connection end -/
  | cleanUp (connection : ℕ)
  | closeLink
  /-- the loop receives a frame -/
  | receive (frame : Frame)
  /-- the loop goes on to the next connection, or to the next frame -/
  | next
  /-- the loop goes on from `put` -/
  | resumePut
  /-- the callback of class 2 polls ends -/
  | polled (result : Except Exn (Option Bytes))
  /-- the response is sent -/
  | sent
  /-- `sent_cb` ends -/
  | called (result : Except Exn Unit)

namespace SlaveLink

def init (addressSize : AddressSize) (broadcastAddress : ℕ) : SlaveLink where
  encoder := ⟨addressSize, false⟩
  broadcastAddress := broadcastAddress
  loop := .receiving
  conns := []
  frames := []

/-- The loop ends, and closes the link with its connections. -/
def finish (s : SlaveLink) (reason : Reason) : SlaveLink :=
  { s with
    loop := .ended reason
    conns := s.conns.map fun conn => { conn with isOpen := false } }

/-- A step of one connection. -/
def onConn (s : SlaveLink) (k : ℕ) (f : SlaveConnection → Option SlaveConnection) :
    Option SlaveLink :=
  (s.conns[k]?.bind f).map fun conn => { s with conns := s.conns.set k conn }

/-- Is a request for an address for the connection of that address? -/
def Addressed (s : SlaveLink) (req : ReqFrame) (address : ℕ) : Bool :=
  req.address = s.broadcastAddress ∨ req.address = address

/-- The connections, by their numbers, that are to process a request. -/
def receivers (s : SlaveLink) (req : ReqFrame) : List ℕ :=
  (List.range s.conns.length).filter fun k =>
    s.conns[k]?.any fun conn => ¬ conn.cleanedUp ∧ s.Addressed req conn.address

/-- The loop has the response of a connection. -/
def answer (s : SlaveLink) (req : ReqFrame) (rest : List ℕ) (res : Option Frame)
    (sentCb : Bool) : SlaveLink :=
  if req.address = s.broadcastAddress ∨ req.function = .DATA_NO_RES then
    { s with loop := .processing req rest }
  else { s with loop := .sending req rest res sentCb }

/-- The data is in the receive queue of connection `k`, and `_process` ends. -/
def goOnPut (s : SlaveLink) (req : ReqFrame) (rest : List ℕ) (k : ℕ) (conn : SlaveConnection)
    (queue : ReceiveQueue) : SlaveLink :=
  let (conn, res) := ({ conn with receiveQueue := queue } : SlaveConnection).response .ACK []
  ({ s with conns := s.conns.set k conn } : SlaveLink).answer req rest (some res) false

/-- The loop goes on with `_process` of connection `k`. -/
def goOn (s : SlaveLink) (req : ReqFrame) (rest : List ℕ) (k : ℕ) (conn : SlaveConnection) :
    Processing → SlaveLink
  | .responds res sentCb =>
    ({ s with conns := s.conns.set k conn } : SlaveLink).answer req rest res sentCb
  | .polls => { s with conns := s.conns.set k conn, loop := .polling req rest k }
  | .puts data =>
    match conn.receiveQueue.tryPut data with
    | .fails => ({ s with conns := s.conns.set k conn } : SlaveLink).finish .queueClosedError
    | .waits => { s with conns := s.conns.set k conn, loop := .putting req rest k }
    | .done queue => s.goOnPut req rest k conn queue

/-- The loop goes on from `put` in the queue of connection `k`. -/
def resumePut (s : SlaveLink) (req : ReqFrame) (rest : List ℕ) (k : ℕ) (conn : SlaveConnection) :
    Option SlaveLink :=
  match conn.receiveQueue.tryPut req.data with
  | .fails => some (s.finish .queueClosedError)
  | .waits => none
  | .done queue => some (s.goOnPut req rest k conn queue)

/-- The loop comes to connection `k`. -/
def visit (s : SlaveLink) (req : ReqFrame) (rest : List ℕ) (k : ℕ) (conn : SlaveConnection) :
    SlaveLink :=
  if conn.isOpen then s.goOn req rest k (conn.process req).1 (conn.process req).2
  else { s with loop := .processing req rest }

/-- The response is encoded and sent. -/
def send (s : SlaveLink) (req : ReqFrame) (rest : List ℕ) (sentCb : Bool) :
    Option Frame → SlaveLink
  | none => s.finish (.error .attributeError)
  | some res =>
    match s.encoder.encode res with
    | .error e => s.finish (.error e)
    | .ok _ => { s with loop := if sentCb then .calling req rest else .processing req rest }

def step (s : SlaveLink) : SlaveEvent → Option SlaveLink
  | .openConnection address polls receiveQueueSize sendQueueSize =>
    if s.loop.alive ∧ address < s.broadcastAddress ∧
        ∀ conn ∈ s.conns, conn.cleanedUp ∨ conn.address ≠ address then
      some { s with conns := s.conns ++
        [.new address polls receiveQueueSize sendQueueSize s.frames.length] }
    else none
  | .send k data sentCb => s.onConn k fun conn => conn.send data sentCb
  | .receiveData k => s.onConn k SlaveConnection.receiveData
  | .close k => s.onConn k SlaveConnection.close
  | .cleanUp k => s.onConn k SlaveConnection.cleanUp
  | .closeLink => if s.loop.alive then some (s.finish .connectionError) else none
  | .receive frame =>
    match s.loop, frame with
    | .receiving, .ReqFrame req => some { s with
        frames := s.frames ++ [req], loop := .processing req (s.receivers req) }
    | .receiving, _ => some s
    | _, _ => none
  | .next =>
    match s.loop with
    | .processing _ [] => some { s with loop := .receiving }
    | .processing req (k :: rest) => s.conns[k]?.map fun conn => s.visit req rest k conn
    | _ => none
  | .resumePut =>
    match s.loop with
    | .putting req rest k => s.conns[k]?.bind fun conn => s.resumePut req rest k conn
    | _ => none
  | .polled result =>
    match s.loop, result with
    | .polling _ _ _, .error e => some (s.finish (.error e))
    | .polling req rest k, .ok data => s.conns[k]?.map fun conn =>
      s.goOn req rest k (conn.polled data).1 (conn.polled data).2
    | _, _ => none
  | .sent =>
    match s.loop with
    | .sending req rest res sentCb => some (s.send req rest sentCb res)
    | _ => none
  | .called result =>
    match s.loop, result with
    | .calling _ _, .error e => some (s.finish (.error e))
    | .calling req rest, .ok _ => some { s with loop := .processing req rest }
    | _, _ => none

end SlaveLink

end HatDrivers.Iec60870.Link.Unbalanced
