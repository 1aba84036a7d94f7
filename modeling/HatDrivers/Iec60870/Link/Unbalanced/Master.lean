import HatDrivers.Iec60870.Link.Encoder
import HatDrivers.Lib.Entries
import HatDrivers.Lib.Transition

namespace HatDrivers.Iec60870.Link.Unbalanced

open HatDrivers.Lib

/-!
# Unbalanced master link

A master link writes the requests of its connections one at a time, and takes the next frame
that it receives for the answer.  Events are the calls of the connections, the steps at which
the loops go on, timeouts, and the frames that arrive.

Of every frame it is known which written request it answers, if any.  A response is genuine for
a connection if it answers a request of that connection (`Genuine`).  The link does not look at
this: what a connection is credited with is genuine if no frame arrives, while the link waits for
a response to one connection, that answers a request of another (`attributed_of_prompt`).
-/

/-! ### Requests and responses -/

/-- A frame off the line, with the number of the written request that it answers. -/
structure Response where
  frame : Frame
  answers : Option ℕ
  deriving DecidableEq

/-- The future of `MasterLink._send`. -/
inductive CallFuture
  | pending
  | result (res : Option Response)
  | timeoutError
  | connectionError
  | cancelled
  deriving DecidableEq

/-- A call of `MasterLink._send`. -/
structure Call where
  connection : ℕ
  req : ReqFrame
  future : CallFuture
  deriving DecidableEq

/-- The future of a request in the send queue of a connection. -/
inductive RequestFuture
  | pending
  /-- `set_result(None)`, on account of a response -/
  | result (res : Response)
  | exception (e : Exn)
  | connectionError
  | cancelled
  deriving DecidableEq

/-- A call of `MasterConnection.send`, or a poll. -/
structure Request where
  function : ReqFunction
  data : Bytes
  future : RequestFuture
  deriving DecidableEq

/-! ### Connections -/

/-- Where `open_connection`, and then `_send_loop` of the connection, is. -/
inductive ConnectionLoop
  | resetting
  | awaitingReset (call : ℕ)
  | next
  /-- at `self._send_queue.put` of the link -/
  | requesting (request : ℕ) (req : ReqFrame) (retryCounter : ℕ)
  /-- at the future of the call -/
  | awaiting (request : ℕ) (req : ReqFrame) (retryCounter : ℕ) (call : ℕ)
  | ended
  deriving DecidableEq

/-- The call that a loop awaits. -/
def ConnectionLoop.call : ConnectionLoop → Option ℕ
  | .awaitingReset call => some call
  | .awaiting _ _ _ call => some call
  | _ => none

structure MasterConnection where
  address : ℕ
  sendRetryCount : ℕ
  sendQueueSize : ℕ
  receiveQueueSize : ℕ
  loop : ConnectionLoop
  sendQueue : List ℕ
  frameCountBit : Bool
  dataFlowControl : Bool
  dataFlowQueue : List ℕ
  requests : List Request
  receiveQueue : List Bytes
  /-- history: the data put in the receive queue, with the response that carried it -/
  received : List (Bytes × Response)

namespace MasterConnection

def new (address sendRetryCount sendQueueSize receiveQueueSize : ℕ) : MasterConnection where
  address := address
  sendRetryCount := sendRetryCount
  sendQueueSize := sendQueueSize
  receiveQueueSize := receiveQueueSize
  loop := .resetting
  sendQueue := []
  frameCountBit := false
  dataFlowControl := false
  dataFlowQueue := []
  requests := []
  receiveQueue := []
  received := []

def resetReq (conn : MasterConnection) : ReqFrame :=
  ⟨none, false, false, .RESET_LINK, conn.address, []⟩

def setFuture (conn : MasterConnection) (i : ℕ) (future : RequestFuture) : MasterConnection :=
  { conn with requests := conn.requests.modify i fun request =>
    if request.future = .pending then { request with future := future } else request }

/-- The end of `_send_loop`. -/
def finish (conn : MasterConnection) : MasterConnection :=
  { conn with
    loop := .ended, sendQueue := [], dataFlowQueue := []
    requests := conn.requests.map fun request =>
      if request.future = .pending then { request with future := .connectionError } else request }

/-- The loop takes a request: it is put off, or made a frame. -/
def handle (conn : MasterConnection) (i : ℕ) (request : Request) : MasterConnection :=
  if conn.dataFlowControl ∧ request.function = .DATA then
    { conn with dataFlowQueue := conn.dataFlowQueue ++ [i] }
  else
    let req : ReqFrame :=
      ⟨none, !conn.frameCountBit, true, request.function, conn.address, request.data⟩
    { conn with frameCountBit := !conn.frameCountBit, loop := .requesting i req 0 }

/-- `res.data_flow_control` of a response, and `False` of other frames. -/
def dataFlowControlOf : Option Response → Bool
  | some ⟨.ResFrame frame, _⟩ => frame.dataFlowControl
  | _ => false

/-- What the loop does with the response to request `i`, of which it awaits the future. -/
def credit (conn : MasterConnection) (i : ℕ) : Option Response → MasterConnection
  | none => conn.setFuture i (.exception (.exception "unexpected response"))
  | some res =>
    match res.frame with
    | .ShortFrame => conn.setFuture i (.result res)
    | .ReqFrame _ => conn.setFuture i (.exception (.exception "unexpected response"))
    | .ResFrame frame =>
      match frame.function with
      | .RES_DATA =>
        if frame.data = [] then conn.setFuture i (.result res)
        -- `put_nowait` raises if the queue is full, and the loop ends
        else if ¬ hasRoom conn.receiveQueueSize conn.receiveQueue then conn.finish
        else ({ conn with
          receiveQueue := conn.receiveQueue ++ [frame.data]
          received := conn.received ++ [(frame.data, res)] } : MasterConnection).setFuture i
            (.result res)
      | .ACK | .RES_NACK => conn.setFuture i (.result res)
      | function => conn.setFuture i (.exception (.exception ("received " ++ function.name)))

/-- The loop goes on with the response to request `i`. -/
def respond (conn : MasterConnection) (i : ℕ) (res : Option Response) : MasterConnection :=
  let conn := { conn with dataFlowControl := dataFlowControlOf res, loop := .next }
  if conn.requests[i]?.any fun request => request.future = .pending then conn.credit i res
  else conn

/-- The link is reset by a short frame or an acknowledgement. -/
def resetBy : Option Response → Bool
  | some ⟨.ShortFrame, _⟩ => true
  | some ⟨.ResFrame frame, _⟩ => frame.function = .ACK
  | _ => false

/-- Is `open_connection` done, and the connection not closed? -/
def isUp (conn : MasterConnection) : Bool :=
  match conn.loop with
  | .resetting | .awaitingReset _ | .ended => false
  | _ => true

/-- The requests that a connection makes: data, and polls without data. -/
def Allowed (function : ReqFunction) (data : Bytes) : Bool :=
  function = .DATA ∧ data ≠ [] ∨ (function = .REQ_DATA_1 ∨ function = .REQ_DATA_2) ∧ data = []

/-- A request is put in the send queue. -/
def request (conn : MasterConnection) (function : ReqFunction) (data : Bytes) :
    Option MasterConnection :=
  if conn.isUp ∧ Allowed function data ∧ hasRoom conn.sendQueueSize conn.sendQueue then
    some { conn with
      sendQueue := conn.sendQueue ++ [conn.requests.length]
      requests := conn.requests ++ [⟨function, data, .pending⟩] }
  else none

def receiveData (conn : MasterConnection) : Option MasterConnection :=
  match conn.receiveQueue with
  | _ :: queue => some { conn with receiveQueue := queue }
  | [] => none

/-- The loop takes a request that was put off, or one of its queue. -/
def nextRequest (conn : MasterConnection) : Option MasterConnection :=
  if conn.loop ≠ .next then none
  else
    match if conn.dataFlowControl then [] else conn.dataFlowQueue with
    | i :: queue => conn.requests[i]?.map fun request =>
      ({ conn with dataFlowQueue := queue } : MasterConnection).handle i request
    | [] =>
      match conn.sendQueue with
      | i :: queue => conn.requests[i]?.map fun request =>
        ({ conn with sendQueue := queue } : MasterConnection).handle i request
      | [] => none

/-- The request that the loop is about to make. -/
def req (conn : MasterConnection) : Option ReqFrame :=
  match conn.loop with
  | .resetting => some conn.resetReq
  | .requesting _ req _ => some req
  | _ => none

/-- The loop awaits its call. -/
def submitted (conn : MasterConnection) (call : ℕ) : MasterConnection :=
  match conn.loop with
  | .requesting i req retryCounter => { conn with loop := .awaiting i req retryCounter call }
  | _ => { conn with loop := .awaitingReset call }

/-- A loop goes on with the future of its call. -/
def resume (conn : MasterConnection) (future : CallFuture) : Option MasterConnection :=
  match conn.loop, future with
  | .awaitingReset _, .result res =>
    some { conn with loop := if resetBy res then .next else .resetting }
  | .awaitingReset _, .timeoutError => some { conn with loop := .resetting }
  | .awaiting i _ _ _, .result res => some (conn.respond i res)
  | .awaiting i req retryCounter _, .timeoutError =>
    some (if retryCounter ≥ conn.sendRetryCount then conn.finish
      else { conn with loop := .requesting i req (retryCounter + 1) })
  | .awaitingReset _, .connectionError => some conn.finish
  | .awaiting _ _ _ _, .connectionError => some conn.finish
  | _, _ => none

end MasterConnection

/-! ### The link -/

/-- Where `_send_loop` of the link is. -/
inductive LinkLoop
  | waiting
  /-- it took a call, and keeps the silent interval -/
  | sleeping (call : ℕ)
  /-- at `self._endpoint.send` and `drain` -/
  | writing (call : ℕ)
  /-- at `aio.wait_for(self._res_future, …)` -/
  | awaiting (call : ℕ)
  deriving DecidableEq

/-- `self._res_future`. -/
inductive ResFuture
  | none
  | pending
  | result (res : Response)
  deriving DecidableEq

/-- The call whose response the link takes. -/
def LinkLoop.call : LinkLoop → Option ℕ
  | .writing call => some call
  | .awaiting call => some call
  | _ => none

structure MasterLink where
  encoder : Encoder
  broadcastAddress : ℕ
  sendQueueSize : ℕ
  isOpen : Bool
  sendQueue : List ℕ
  sendLoop : LinkLoop
  resFuture : ResFuture
  calls : List Call
  conns : List MasterConnection
  /-- history: the requests that were written, each with its connection -/
  written : List (ℕ × ReqFrame)

inductive Event
  | openConnection (address sendRetryCount sendQueueSize receiveQueueSize : ℕ)
  /-- a call of `send` or a poll puts a request in the send queue of a connection -/
  | request (connection : ℕ) (function : ReqFunction) (data : Bytes)
  /-- the task that awaits a request is cancelled -/
  | cancel (connection request : ℕ)
  | receiveData (connection : ℕ)
  | close (connection : ℕ)
  | closeLink
  /-- the loop of a connection takes a request -/
  | nextRequest (connection : ℕ)
  /-- the loop of a connection calls `MasterLink._send` -/
  | submit (connection : ℕ)
  /-- the loop of a connection goes on with the future of its call -/
  | resume (connection : ℕ)
  /-- the loop of the link takes a call -/
  | nextCall
  /-- the silent interval is over -/
  | wake
  /-- the request is written -/
  | write
  /-- the response timeout is over -/
  | timeout
  /-- the loop of the link goes on with the response -/
  | resumeLink
  /-- a frame is received -/
  | receive (res : Response)
  deriving DecidableEq

namespace MasterLink

def init (addressSize : AddressSize) (broadcastAddress sendQueueSize : ℕ) : MasterLink where
  encoder := ⟨addressSize, false⟩
  broadcastAddress := broadcastAddress
  sendQueueSize := sendQueueSize
  isOpen := true
  sendQueue := []
  sendLoop := .waiting
  resFuture := .none
  calls := []
  conns := []
  written := []

def modifyConn (s : MasterLink) (k : ℕ) (f : MasterConnection → MasterConnection) : MasterLink :=
  { s with conns := s.conns.modify k f }

def setCallFuture (s : MasterLink) (i : ℕ) (future : CallFuture) : MasterLink :=
  { s with calls := s.calls.modify i fun call =>
    if call.future = .pending then { call with future := future } else call }

/-- The link is closed, with its connections. -/
def close (s : MasterLink) : MasterLink :=
  { s with
    isOpen := false, sendQueue := [], sendLoop := .waiting, resFuture := .none
    calls := s.calls.map fun call =>
      if call.future = .pending then { call with future := .connectionError } else call
    conns := s.conns.map MasterConnection.finish }

/-- Does the station with an address send this frame? -/
def Sends (address : ℕ) : Frame → Bool
  | .ShortFrame => true
  | .ResFrame frame => frame.address = address
  | .ReqFrame _ => false

/-- A frame that answers a written request is sent by the station that it was addressed to. -/
def Possible (s : MasterLink) (res : Response) : Bool :=
  res.answers.all fun i => s.written[i]?.any fun p => Sends p.2.address res.frame

/-- A step of one connection. -/
def onConn (s : MasterLink) (k : ℕ) (f : MasterConnection → Option MasterConnection) :
    Option MasterLink :=
  (s.conns[k]?.bind f).map fun conn => { s with conns := s.conns.set k conn }

/-- `MasterLink._send` up to its future. -/
def submit (s : MasterLink) (k : ℕ) (conn : MasterConnection) (req : ReqFrame) : MasterLink :=
  { s with
    sendQueue := s.sendQueue ++ [s.calls.length]
    calls := s.calls ++ [⟨k, req, .pending⟩]
    conns := s.conns.set k (conn.submitted s.calls.length) }

/-- A connection is closed, and the call that it awaits is cancelled. -/
def closeConn (s : MasterLink) (k : ℕ) (conn : MasterConnection) : MasterLink :=
  let s := { s with conns := s.conns.set k conn.finish }
  match conn.loop.call with
  | some i => s.setCallFuture i .cancelled
  | none => s

/-- The end of an iteration of the loop of the link. -/
def finishCall (s : MasterLink) (i : ℕ) (future : CallFuture) : MasterLink :=
  ({ s with sendLoop := .waiting, resFuture := .none } : MasterLink).setCallFuture i future

/-- The request of a call is written. -/
def writeCall (s : MasterLink) (i : ℕ) (call : Call) : MasterLink :=
  match s.encoder.encode (.ReqFrame call.req) with
  | .error _ => s.close
  | .ok _ =>
    let s := { s with written := s.written ++ [(call.connection, call.req)] }
    if call.req.address = s.broadcastAddress ∨ call.req.function = .DATA_NO_RES then
      s.finishCall i (.result none)
    else { s with sendLoop := .awaiting i }

def step (s : MasterLink) : Event → Option MasterLink
  | .openConnection address sendRetryCount sendQueueSize receiveQueueSize =>
    if ¬ s.isOpen ∨ address ≥ s.broadcastAddress then none
    else some { s with
      conns := s.conns ++ [.new address sendRetryCount sendQueueSize receiveQueueSize] }
  | .request k function data => s.onConn k fun conn => conn.request function data
  | .cancel k i => s.onConn k fun conn => some (conn.setFuture i .cancelled)
  | .receiveData k => s.onConn k MasterConnection.receiveData
  | .nextRequest k => s.onConn k MasterConnection.nextRequest
  | .resume k => s.onConn k fun conn =>
    (conn.loop.call.bind (s.calls[·]?)).bind fun call => conn.resume call.future
  | .close k => s.conns[k]?.map fun conn => s.closeConn k conn
  | .closeLink => some s.close
  | .submit k => s.conns[k]?.bind fun conn => conn.req.bind fun req =>
    if s.isOpen ∧ hasRoom s.sendQueueSize s.sendQueue then some (s.submit k conn req) else none
  | .nextCall =>
    match s.sendLoop, s.sendQueue with
    | .waiting, i :: sendQueue => s.calls[i]?.map fun call =>
      { s with
        sendQueue := sendQueue
        sendLoop := if call.future = .pending then .sleeping i else .waiting }
    | _, _ => none
  | .wake =>
    match s.sendLoop with
    | .sleeping i => some { s with sendLoop := .writing i, resFuture := .pending }
    | _ => none
  | .write =>
    match s.sendLoop with
    | .writing i => s.calls[i]?.map fun call => s.writeCall i call
    | _ => none
  | .timeout =>
    match s.sendLoop, s.resFuture with
    | .awaiting i, .pending => some (s.finishCall i .timeoutError)
    | _, _ => none
  | .resumeLink =>
    match s.sendLoop, s.resFuture with
    | .awaiting i, .result res => some (s.finishCall i (.result (some res)))
    | _, _ => none
  | .receive res =>
    if ¬ s.isOpen ∨ ¬ s.Possible res then none
    else if s.resFuture = .pending then some { s with resFuture := .result res }
    else some s

end MasterLink

end HatDrivers.Iec60870.Link.Unbalanced
