import HatDrivers.Iec60870.Link.Receiving

namespace HatDrivers.Iec60870.Link

open HatDrivers.Lib

/-!
# Balanced link

One receive loop takes all frames off the line: requests go to the connection of their direction
and address, which processes them, and any other frame is the response to the request that the
send loop wrote last.  Data is put in the receive queue of the connection, where the receive loop
waits for room.

The send loops of the connections are not followed: an open connection may have the link send
any request of its own.  A connection that is closed is out of `_conns` a moment later
(`cleanUp`).  It is its send loop that closes its receive queue, so that a connection which
`open_connection` did not return yet leaves its queue open.
-/

def invertDirection : Direction → Direction
  | .B_TO_A => .A_TO_B
  | .A_TO_B => .B_TO_A

structure BalancedConnection where
  direction : Direction
  address : ℕ
  isOpen : Bool
  /-- history: was it closed of itself, or by its user? -/
  closeRequested : Bool
  /-- did `open_connection` return it? -/
  opened : Bool
  cleanedUp : Bool
  frameCountBit : Option Bool
  res : Option Frame
  receiveQueue : ReceiveQueue
  /-- history: how many requests the loop had taken when the connection was opened -/
  since : ℕ
  /-- history: the requests that were processed -/
  requests : List ReqFrame
  deriving DecidableEq

/-- What `_process` of a connection does next. -/
inductive BalancedProcessing
  | responds (res : Option Frame)
  | puts (data : Bytes)
  deriving DecidableEq

namespace BalancedConnection

def new (direction : Direction) (address receiveQueueSize since : ℕ) : BalancedConnection where
  direction := direction
  address := address
  isOpen := true
  closeRequested := false
  opened := false
  cleanedUp := false
  frameCountBit := none
  res := none
  receiveQueue := .empty receiveQueueSize
  since := since
  requests := []

/-- The end of `_process`: the response, which is kept. -/
def response (conn : BalancedConnection) (function : ResFunction) : BalancedConnection × Frame :=
  let res : Frame :=
    if function = .ACK then .ShortFrame
    else .ResFrame ⟨some conn.direction, false, false, function, conn.address, []⟩
  ({ conn with res := some res }, res)

def respond (conn : BalancedConnection) (function : ResFunction) :
    BalancedConnection × BalancedProcessing :=
  ((conn.response function).1, .responds (some (conn.response function).2))

/-- `_process` of a request that is not a repetition. -/
def processNew (conn : BalancedConnection) (req : ReqFrame) :
    BalancedConnection × BalancedProcessing :=
  match req.function with
  | .RESET_LINK | .RESET_PROCESS =>
    let conn := if req.frameCountValid then conn else { conn with frameCountBit := some false }
    conn.respond .ACK
  | .TEST => conn.respond .ACK
  | .DATA | .DATA_NO_RES =>
    if req.data ≠ [] then (conn, .puts req.data) else conn.respond .ACK
  | .REQ_STATUS => conn.respond .RES_STATUS
  | .REQ_ACCESS_DEMAND | .REQ_DATA_1 | .REQ_DATA_2 => conn.respond .NOT_IMPLEMENTED

def process (conn : BalancedConnection) (req : ReqFrame) :
    BalancedConnection × BalancedProcessing :=
  let conn := { conn with requests := conn.requests ++ [req] }
  if req.frameCountValid then
    if some req.frameCountBit = conn.frameCountBit then (conn, .responds conn.res)
    else ({ conn with frameCountBit := some req.frameCountBit } : BalancedConnection).processNew req
  else conn.processNew req

/-! ### Its user -/

def receiveData (conn : BalancedConnection) : Option BalancedConnection :=
  if conn.opened then
    conn.receiveQueue.take.map fun queue => { conn with receiveQueue := queue }
  else none

def close (conn : BalancedConnection) : Option BalancedConnection :=
  if conn.isOpen then some { conn with isOpen := false, closeRequested := true } else none

/-- Is it closed, with its tasks not yet ended? -/
def isClosing (conn : BalancedConnection) : Bool := ¬ conn.isOpen ∧ ¬ conn.cleanedUp

def cleanUp (conn : BalancedConnection) : Option BalancedConnection :=
  if conn.isClosing then
    some { conn with
      cleanedUp := true
      receiveQueue := if conn.opened then conn.receiveQueue.close else conn.receiveQueue }
  else none

end BalancedConnection

/-! ### Its send loop -/

/-- The future of `BalancedLink._send`. -/
inductive SendFuture
  | pending
  | result (res : Option Frame)
  | timeoutError
  | connectionError
  | cancelled
  deriving DecidableEq

/-- A call of `BalancedLink._send`. -/
structure SendCall where
  connection : ℕ
  req : ReqFrame
  future : SendFuture
  deriving DecidableEq

/-- Is a request acknowledged? -/
def SendFuture.acknowledged : SendFuture → Bool
  | .result (some .ShortFrame) => true
  | .result (some (.ResFrame frame)) => frame.function = .ACK
  | _ => false

/-- Where `BalancedLink._send_loop` is. -/
inductive LinkSendLoop
  | waiting
  /-- at `self._endpoint.drain()` -/
  | draining (call : ℕ)
  /-- at `self._res_future` -/
  | awaiting (call : ℕ)
  | ended
  deriving DecidableEq

/-- `self._res_future`. -/
inductive ResFuture
  | none
  | pending
  | result (res : Frame)
  deriving DecidableEq

/-- Where `BalancedLink._receive_loop` is. -/
inductive LinkReceiveLoop
  | receiving
  /-- at `self._receive_queue.put(req.data)` of a connection -/
  | putting (req : ReqFrame) (connection : ℕ)
  /-- at `self._endpoint.send(res)` -/
  | sending (res : Option Frame)
  | ended (reason : Reason)
  deriving DecidableEq

namespace LinkReceiveLoop

def alive : LinkReceiveLoop → Bool
  | .ended _ => false
  | _ => true

/-- The connection in whose queue the loop waits to put data. -/
def waitsFor : LinkReceiveLoop → Option ℕ
  | .putting _ k => some k
  | _ => none

/-- Did it end as it put data in a closed queue? -/
def failed : LinkReceiveLoop → Bool
  | .ended .queueClosedError => true
  | _ => false

end LinkReceiveLoop

structure BalancedLink where
  encoder : Encoder
  loop : LinkReceiveLoop
  conns : List BalancedConnection
  sendLoop : LinkSendLoop
  sendQueueSize : ℕ
  sendQueue : List ℕ
  calls : List SendCall
  resFuture : ResFuture
  /-- history: the requests that were received -/
  frames : List ReqFrame
  deriving DecidableEq

inductive BalancedEvent
  | openConnection (direction : Direction) (address receiveQueueSize : ℕ)
  /-- `open_connection` returns the connection, as its reset was acknowledged -/
  | opened (connection call : ℕ)
  /-- a call of `_send` puts a request of a connection in the send queue -/
  | call (connection : ℕ) (req : ReqFrame)
  /-- the caller of `_send` is cancelled -/
  | cancel (call : ℕ)
  /-- a call of `receive` of a connection takes data -/
  | receiveData (connection : ℕ)
  /-- a connection is closed by its user, or as its loops ended -/
  | close (connection : ℕ)
  /-- the tasks of a closed connection end -/
  | cleanUp (connection : ℕ)
  | closeLink
  /-- the receive loop receives a frame -/
  | receive (frame : Frame)
  /-- the receive loop goes on from `put` -/
  | resumePut
  /-- the response is sent -/
  | sent
  /-- the send loop takes a request -/
  | sendNext
  /-- the request is written -/
  | drained
  /-- the send loop takes the response -/
  | answered
  | timeout

namespace BalancedLink

def init (addressSize : AddressSize) (sendQueueSize : ℕ) : BalancedLink where
  encoder := ⟨addressSize, true⟩
  loop := .receiving
  conns := []
  sendLoop := .waiting
  sendQueueSize := sendQueueSize
  sendQueue := []
  calls := []
  resFuture := .none
  frames := []

/-- `if not future.done()`, a future is set. -/
def setFuture (s : BalancedLink) (i : ℕ) (future : SendFuture) : BalancedLink :=
  { s with calls := s.calls.modify i fun call =>
    if call.future = .pending then { call with future := future } else call }

/-- A loop of the link ends, and closes the link with its connections. -/
def finish (s : BalancedLink) (reason : Reason) : BalancedLink :=
  { s with
    loop := .ended reason
    sendLoop := .ended
    sendQueue := []
    calls := s.calls.map fun call =>
      if call.future = .pending then { call with future := .connectionError } else call
    conns := s.conns.map fun conn => { conn with isOpen := false } }

/-- A step of one connection. -/
def onConn (s : BalancedLink) (k : ℕ) (f : BalancedConnection → Option BalancedConnection) :
    Option BalancedLink :=
  (s.conns[k]?.bind f).map fun conn => { s with conns := s.conns.set k conn }

/-- `self._conns.get(conn_key)`. -/
def lookup (s : BalancedLink) (direction : Direction) (address : ℕ) : Option ℕ :=
  s.conns.findIdx? fun conn =>
    ¬ conn.cleanedUp ∧ conn.direction = direction ∧ conn.address = address

/-! ### The receive loop -/

/-- The loop has the response of a connection. -/
def answer (s : BalancedLink) (req : ReqFrame) (res : Option Frame) : BalancedLink :=
  if req.function = .DATA_NO_RES then { s with loop := .receiving }
  else { s with loop := .sending res }

/-- The data is in the receive queue of connection `k`, and `_process` ends. -/
def goOnPut (s : BalancedLink) (req : ReqFrame) (k : ℕ) (conn : BalancedConnection)
    (queue : ReceiveQueue) : BalancedLink :=
  let (conn, res) := ({ conn with receiveQueue := queue } : BalancedConnection).response .ACK
  ({ s with conns := s.conns.set k conn } : BalancedLink).answer req (some res)

/-- The loop goes on with `_process` of connection `k`. -/
def goOn (s : BalancedLink) (req : ReqFrame) (k : ℕ) (conn : BalancedConnection) :
    BalancedProcessing → BalancedLink
  | .responds res => ({ s with conns := s.conns.set k conn } : BalancedLink).answer req res
  | .puts data =>
    match conn.receiveQueue.tryPut data with
    | .fails => ({ s with conns := s.conns.set k conn } : BalancedLink).finish .queueClosedError
    | .waits => { s with conns := s.conns.set k conn, loop := .putting req k }
    | .done queue => s.goOnPut req k conn queue

/-- The loop goes on from `put` in the queue of connection `k`. -/
def resumePut (s : BalancedLink) (req : ReqFrame) (k : ℕ) (conn : BalancedConnection) :
    Option BalancedLink :=
  match conn.receiveQueue.tryPut req.data with
  | .fails => some (s.finish .queueClosedError)
  | .waits => none
  | .done queue => some (s.goOnPut req k conn queue)

/-- The connection of a request processes it, if it is open. -/
def visit (s : BalancedLink) (req : ReqFrame) (k : ℕ) (conn : BalancedConnection) :
    BalancedLink :=
  if conn.isOpen then s.goOn req k (conn.process req).1 (conn.process req).2 else s

def process (s : BalancedLink) (req : ReqFrame) : BalancedLink :=
  match req.direction with
  | none => s.finish (.error (.valueError "unsupported direction"))
  | some direction =>
    let k := s.lookup (invertDirection direction) req.address
    let s := { s with frames := s.frames ++ [req] }
    match k.bind fun k => s.conns[k]?.map fun conn => (k, conn) with
    | none => s
    | some (k, conn) => s.visit req k conn

def receive (s : BalancedLink) : Frame → BalancedLink
  | .ReqFrame req => s.process req
  | res => if s.resFuture = .pending then { s with resFuture := .result res } else s

/-- The response is encoded and sent. -/
def send (s : BalancedLink) : Option Frame → BalancedLink
  | none => s.finish (.error .attributeError)
  | some res =>
    match s.encoder.encode res with
    | .error e => s.finish (.error e)
    | .ok _ => { s with loop := .receiving }

/-! ### The send loop -/

/-- The request of a call is encoded and written. -/
def write (s : BalancedLink) (i : ℕ) (call : SendCall) : BalancedLink :=
  if call.future ≠ .pending then s
  else
    match s.encoder.encode (.ReqFrame call.req) with
    | .error e => s.finish (.error e)
    | .ok _ => { s with sendLoop := .draining i, resFuture := .pending }

/-- The future of a call is set, and the loop goes on. -/
def complete (s : BalancedLink) (i : ℕ) (future : SendFuture) : BalancedLink :=
  ({ s with sendLoop := .waiting, resFuture := .none } : BalancedLink).setFuture i future

def step (s : BalancedLink) : BalancedEvent → Option BalancedLink
  | .openConnection direction address receiveQueueSize =>
    if s.loop.alive ∧ address < 256 ^ s.encoder.addressSize.value ∧
        s.lookup direction address = none then
      some { s with conns := s.conns ++
        [.new direction address receiveQueueSize s.frames.length] }
    else none
  | .opened k i => s.onConn k fun conn =>
    if conn.isOpen ∧ s.calls[i]?.any fun call =>
        call.connection = k ∧ call.req.function = .RESET_LINK ∧ call.future.acknowledged then
      some { conn with opened := true }
    else none
  | .call k req =>
    if s.conns[k]?.any (fun conn => conn.isOpen ∧ req.direction = some conn.direction ∧
        req.address = conn.address) ∧ hasRoom s.sendQueueSize s.sendQueue then
      some { s with
        calls := s.calls ++ [⟨k, req, .pending⟩], sendQueue := s.sendQueue ++ [s.calls.length] }
    else none
  | .cancel i => some (s.setFuture i .cancelled)
  | .receiveData k => s.onConn k BalancedConnection.receiveData
  | .close k => s.onConn k BalancedConnection.close
  | .cleanUp k => s.onConn k BalancedConnection.cleanUp
  | .closeLink => if s.loop.alive then some (s.finish .connectionError) else none
  | .receive frame => if s.loop = .receiving then some (s.receive frame) else none
  | .resumePut =>
    match s.loop with
    | .putting req k => s.conns[k]?.bind fun conn => s.resumePut req k conn
    | _ => none
  | .sent =>
    match s.loop with
    | .sending res => some (s.send res)
    | _ => none
  | .sendNext =>
    match s.sendLoop, s.sendQueue with
    | .waiting, i :: queue => s.calls[i]?.map fun call =>
      ({ s with sendQueue := queue } : BalancedLink).write i call
    | _, _ => none
  | .drained =>
    match s.sendLoop with
    | .draining i => s.calls[i]?.map fun call =>
      if call.req.function = .DATA_NO_RES then s.complete i (.result none)
      else { s with sendLoop := .awaiting i }
    | _ => none
  | .answered =>
    match s.sendLoop, s.resFuture with
    | .awaiting i, .result res => some (s.complete i (.result (some res)))
    | _, _ => none
  | .timeout =>
    match s.sendLoop, s.resFuture with
    | .awaiting i, .pending => some (s.complete i .timeoutError)
    | _, _ => none

end BalancedLink

end HatDrivers.Iec60870.Link
