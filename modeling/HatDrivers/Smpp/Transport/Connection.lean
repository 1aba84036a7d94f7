import HatDrivers.Lib.Transition
import HatDrivers.Smpp.Transport.Encoder

namespace HatDrivers.Smpp.Transport

open HatDrivers.Lib

/-!
# SMPP — connection

Calls of `send` take numbers one after the other, wait for their writes, and then for the
responses of their sequence numbers.  The receive loop takes PDUs off the connection: requests
are handed to a callback and answered, responses complete the futures of calls, and at its end
the loop cancels what is left of them.

Events are what the tasks do between two points where they wait: the environment decides which
of them goes on, what the bytes are, and what the callbacks return.
-/

/-! ### Commands -/

def getRequestCommandId : Request → CommandId
  | .BindReq req =>
    match req.bindType with
    | .TRANSMITTER => .BIND_TRANSMITTER_REQ
    | .RECEIVER => .BIND_RECEIVER_REQ
    | .TRANSCEIVER => .BIND_TRANSCEIVER_REQ
  | .UnbindReq => .UNBIND_REQ
  | .SubmitSmReq _ => .SUBMIT_SM_REQ
  | .SubmitMultiReq => .SUBMIT_MULTI_REQ
  | .DeliverSmReq _ => .DELIVER_SM_REQ
  | .DataSmReq _ => .DATA_SM_REQ
  | .QuerySmReq _ => .QUERY_SM_REQ
  | .CancelSmReq _ => .CANCEL_SM_REQ
  | .ReplaceSmReq _ => .REPLACE_SM_REQ
  | .EnquireLinkReq => .ENQUIRE_LINK_REQ

def getResponseCommandId : Response → CommandId
  | .BindRes res =>
    match res.bindType with
    | .TRANSMITTER => .BIND_TRANSMITTER_RESP
    | .RECEIVER => .BIND_RECEIVER_RESP
    | .TRANSCEIVER => .BIND_TRANSCEIVER_RESP
  | .UnbindRes => .UNBIND_RESP
  | .SubmitSmRes _ => .SUBMIT_SM_RESP
  | .SubmitMultiRes => .SUBMIT_MULTI_RESP
  | .DeliverSmRes => .DELIVER_SM_RESP
  | .DataSmRes _ => .DATA_SM_RESP
  | .QuerySmRes _ => .QUERY_SM_RESP
  | .CancelSmRes => .CANCEL_SM_RESP
  | .ReplaceSmRes => .REPLACE_SM_RESP
  | .EnquireLinkRes => .ENQUIRE_LINK_RESP

def getNotificationCommandId : Notification → CommandId
  | .OutbindNotification _ => .OUTBIND
  | .AlertNotification _ => .ALERT_NOTIFICATION

def requestCommandIds : List CommandId :=
  [.BIND_RECEIVER_REQ, .BIND_TRANSMITTER_REQ, .QUERY_SM_REQ, .SUBMIT_SM_REQ, .DELIVER_SM_REQ,
   .UNBIND_REQ, .REPLACE_SM_REQ, .CANCEL_SM_REQ, .BIND_TRANSCEIVER_REQ, .ENQUIRE_LINK_REQ,
   .SUBMIT_MULTI_REQ, .DATA_SM_REQ]

def responseCommandIds : List CommandId :=
  [.GENERIC_NACK, .BIND_RECEIVER_RESP, .BIND_TRANSMITTER_RESP, .QUERY_SM_RESP, .SUBMIT_SM_RESP,
   .DELIVER_SM_RESP, .UNBIND_RESP, .REPLACE_SM_RESP, .CANCEL_SM_RESP, .BIND_TRANSCEIVER_RESP,
   .ENQUIRE_LINK_RESP, .SUBMIT_MULTI_RESP, .DATA_SM_RESP]

def notificationCommandIds : List CommandId := [.OUTBIND, .ALERT_NOTIFICATION]

/-- `header.command_id.value | 0x80000000`. -/
def responseValue (commandId : CommandId) : ℕ := commandId.value ||| 0x80000000

/-! ### State -/

/-- `Response | CommandStatus`. -/
inductive Reply
  | res (res : Response)
  | status (commandStatus : CommandStatus)
  deriving DecidableEq

/-- A future of `_sequence_number_futures`. -/
inductive Future
  | pending
  /-- history: the result was set for the PDU of this number -/
  | result (reply : Reply) (pdu : ℕ)
  | cancelled
  deriving DecidableEq

/-- A call of `send` that has its future. -/
structure Send where
  /-- the calls of `send` and `notify` before it -/
  number : ℕ
  request : Request
  sequenceNumber : ℕ
  future : Future
  /-- is its write going on? -/
  writing : Bool
  deriving DecidableEq

/-- How a call of `send` ends. -/
inductive Outcome
  | reply (reply : Reply) (pdu : ℕ)
  | connectionError
  /-- history: was it the caller who cancelled it? -/
  | cancelledError (byCaller : Bool)
  | error (e : Error)
  deriving DecidableEq

/-- Where the receive loop is. -/
inductive ReceiveLoop
  | header
  | body (header : Header)
  /-- in the callback for a request -/
  | calling (header : Header) (req : Body)
  /-- in the callback for a notification -/
  | notifying
  | ended
  deriving DecidableEq

structure Connection where
  /-- `request_cb is not None` -/
  requestCb : Bool
  /-- `notification_cb is not None` -/
  notificationCb : Bool
  isOpen : Bool
  receiveLoop : ReceiveLoop
  /-- the calls of `send` and `notify` that took a number -/
  count : ℕ
  /-- `_sequence_number_futures` -/
  futures : List Send
  /-- history: the calls of `send` that have ended -/
  ended : List (Send × Outcome)
  /-- history: the PDUs that were received -/
  received : List (Header × Bytes)
  /-- what was handed to `write` of the TCP connection -/
  written : List Bytes
  deriving DecidableEq

inductive Event
  /-- the loop has read the bytes of a header -/
  | header (headerBytes : Bytes)
  /-- the loop has read the bytes of a body -/
  | body (bodyBytes : Bytes)
  /-- the callback for a request returns or raises -/
  | returned (res : Except Exn Reply)
  /-- the callback for a notification returns or raises -/
  | notified
  /-- a read fails, or the loop of a closed connection is cancelled -/
  | lost
  | close
  | send (request : Request)
  | notify (notification : Notification)
  /-- a write of `send` is done -/
  | sent (number : ℕ)
  /-- a write of `send` raises `ConnectionError` -/
  | unsent (number : ℕ)
  /-- a task in `send` is cancelled -/
  | cancel (number : ℕ)
  /-- a task in `send` goes on with its future -/
  | resume (number : ℕ)

/-! ### Futures -/

def Future.done (future : Future) : Bool := future ≠ .pending

/-- `await future`, for a future that is done. -/
def Future.outcome : Future → Option Outcome
  | .pending => none
  | .result reply pdu => some (.reply reply pdu)
  | .cancelled => some (.cancelledError false)

/-- `future.cancel()`, if it is not done. -/
def Send.cancel (send : Send) : Send :=
  if send.future = .pending then { send with future := .cancelled } else send

/-- `future.set_result(...)`, for the future of a sequence number, if it is not done. -/
def Send.setResult (sequenceNumber : ℕ) (reply : Reply) (pdu : ℕ) (send : Send) : Send :=
  if send.sequenceNumber = sequenceNumber ∧ send.future = .pending then
    { send with future := .result reply pdu }
  else send

/-! ### Operations -/

/-- The sequence number of a call. -/
def sequenceNumberOf (count : ℕ) : ℕ := count % 0x7ffffffe + 1

/-- `encode_body(body) if body is not None else b''`. -/
def encodeOptionalBody : Option Body → Except Error (List ℕ)
  | some body => encodeBody body
  | none => .ok []

/-- The PDU that `_send` writes. -/
def encodePdu (commandId : CommandId) (commandStatus : CommandStatus) (sequenceNumber : ℕ)
    (body : Option Body) : Except Error Bytes := do
  let bodyBytes ← encodeOptionalBody body
  let headerBytes ← encodeHeader {
    commandLength := headerLength + bodyBytes.length
    commandId := commandId
    commandStatus := commandStatus
    sequenceNumber := sequenceNumber }
  return bytesOf (headerBytes ++ bodyBytes)

/-- The command status of an answer to a request, or the body that the callback gets. -/
def requestBody (requestCb : Bool) (header : Header) (bodyBytes : Bytes) :
    Except CommandStatus Body :=
  if ¬ requestCb then .error .ESME_RINVCMDID
  else if header.commandStatus ≠ .ESME_ROK then .error .ESME_RUNKNOWNERR
  else
    match decodeBody header.commandId bodyBytes with
    | .ok req => .ok req
    | .error (.commandStatusError commandStatus) => .error commandStatus
    | .error _ => .error .ESME_RUNKNOWNERR

/-- The command status and the response, out of what the callback returned or raised. -/
def callbackReply : Except Exn Reply → CommandStatus × Option Response
  | .ok (.res res) => (.ESME_ROK, some res)
  | .ok (.status commandStatus) =>
    (if commandStatus = .ESME_ROK then .ESME_RSYSERR else commandStatus, none)
  | .error _ => (.ESME_RSYSERR, none)

/-- The answer to a request. -/
def encodeAnswer (header : Header) (reply : CommandStatus × Option Response) :
    Except Error Bytes := do
  let resCommandId ← enumOf (responseValue header.commandId)
  match reply with
  | (resCommandStatus, none) =>
    encodePdu resCommandId resCommandStatus header.sequenceNumber none
  | (resCommandStatus, some res) =>
    if getResponseCommandId res ≠ resCommandId then
      encodePdu resCommandId .ESME_RSYSERR header.sequenceNumber none
    else encodePdu resCommandId resCommandStatus header.sequenceNumber (some (.res res))

/-- What a future gets for a PDU.  The body of a response command is a response. -/
def responseReply (header : Header) (bodyBytes : Bytes) : Reply :=
  if header.commandStatus ≠ .ESME_ROK then .status header.commandStatus
  else
    match decodeBody header.commandId bodyBytes with
    | .ok (.res res) => .res res
    | _ => .status .ESME_RUNKNOWNERR

namespace Connection

def init (requestCb notificationCb : Bool) : Connection where
  requestCb := requestCb
  notificationCb := notificationCb
  isOpen := true
  receiveLoop := .header
  count := 0
  futures := []
  ended := []
  received := []
  written := []

/-- The end of the receive loop. -/
def endLoop (s : Connection) : Connection :=
  { s with
    isOpen := false
    receiveLoop := .ended
    futures := s.futures.map Send.cancel }

/-- `_send` in the receive loop, which ends if it raises. -/
def write (s : Connection) (pdu : Except Error Bytes) : Connection :=
  match pdu with
  | .ok pdu =>
    if s.isOpen then { s with written := s.written ++ [pdu], receiveLoop := .header }
    else s.endLoop
  | .error _ => s.endLoop

/-- What the loop does with a header. -/
def receiveHeader (s : Connection) (headerBytes : Bytes) : Connection :=
  match decodeHeader headerBytes with
  | .ok header => { s with receiveLoop := .body header }
  | .error (.commandStatusError commandStatus) =>
    (s.write (encodePdu .GENERIC_NACK commandStatus (decodeSequenceNumber headerBytes)
      none)).endLoop
  | .error _ => s.endLoop

def processRequest (s : Connection) (header : Header) (bodyBytes : Bytes) : Connection :=
  match requestBody s.requestCb header bodyBytes with
  | .ok req => { s with receiveLoop := .calling header req }
  | .error resCommandStatus => s.write (encodeAnswer header (resCommandStatus, none))

def processResponse (s : Connection) (header : Header) (bodyBytes : Bytes) (pdu : ℕ) :
    Connection :=
  { s with
    futures := s.futures.map
      (Send.setResult header.sequenceNumber (responseReply header bodyBytes) pdu)
    receiveLoop := .header }

def processNotification (s : Connection) (header : Header) (bodyBytes : Bytes) : Connection :=
  if ¬ s.notificationCb then { s with receiveLoop := .header }
  else
    match decodeBody header.commandId bodyBytes with
    | .ok _ => { s with receiveLoop := .notifying }
    | .error _ => { s with receiveLoop := .header }

/-- What the loop does with a PDU. -/
def receivePdu (s : Connection) (header : Header) (bodyBytes : Bytes) : Connection :=
  let pdu := s.received.length
  let s : Connection := { s with received := s.received ++ [(header, bodyBytes)] }
  if header.commandId ∈ requestCommandIds then s.processRequest header bodyBytes
  else if header.commandId ∈ responseCommandIds then s.processResponse header bodyBytes pdu
  else if header.commandId ∈ notificationCommandIds then s.processNotification header bodyBytes
  else s.endLoop

/-- Is there a future of a sequence number? -/
def inUse (s : Connection) (sequenceNumber : ℕ) : Bool :=
  s.futures.any (·.sequenceNumber = sequenceNumber)

/-- A call of `send` ends, and its future is gone. -/
def finish (s : Connection) (send : Send) (outcome : Outcome) : Connection :=
  { s with
    futures := s.futures.filter (·.number ≠ send.number)
    ended := s.ended ++ [(send, outcome)] }

/-- A call of `send`, up to where it waits. -/
def send (s : Connection) (request : Request) : Connection :=
  -- `ConnectionError`
  if ¬ s.isOpen then s
  else
    let sequenceNumber := sequenceNumberOf s.count
    -- `Exception('sequence number in use')`
    if s.inUse sequenceNumber then { s with count := s.count + 1 }
    else
      let send : Send :=
        { number := s.count, request, sequenceNumber, future := .pending, writing := true }
      match encodePdu (getRequestCommandId request) .ESME_ROK sequenceNumber
          (some (.req request)) with
      | .ok pdu => { s with
          count := s.count + 1
          futures := s.futures ++ [send]
          written := s.written ++ [pdu] }
      | .error e => { s with count := s.count + 1, ended := s.ended ++ [(send, .error e)] }

def notify (s : Connection) (notification : Notification) : Connection :=
  if ¬ s.isOpen then s
  else
    let sequenceNumber := sequenceNumberOf s.count
    if s.inUse sequenceNumber then { s with count := s.count + 1 }
    else
      match encodePdu (getNotificationCommandId notification) .ESME_ROK sequenceNumber
          (some (.notification notification)) with
      | .ok pdu => { s with count := s.count + 1, written := s.written ++ [pdu] }
      | .error _ => { s with count := s.count + 1 }

/-- A write is done, and the call goes on with its future if that is done, too. -/
def sent (s : Connection) (send : Send) : Connection :=
  match send.future.outcome with
  | some outcome => s.finish send outcome
  | none => { s with
      futures := s.futures.map fun other =>
        if other.number = send.number then { other with writing := false } else other }

/-! ### Steps -/

/-- The call of a number. -/
def call (s : Connection) (number : ℕ) : Option Send :=
  s.futures.find? (·.number = number)

def step (s : Connection) : Event → Option Connection
  | .header headerBytes =>
    if s.receiveLoop = .header ∧ headerBytes.length = headerLength then
      some (s.receiveHeader headerBytes)
    else none
  | .body bodyBytes =>
    match s.receiveLoop with
    | .body header =>
      if bodyBytes.length = header.commandLength - headerLength then
        some (s.receivePdu header bodyBytes)
      else none
    | _ => none
  | .returned res =>
    match s.receiveLoop with
    | .calling header _ => some (s.write (encodeAnswer header (callbackReply res)))
    | _ => none
  | .notified =>
    if s.receiveLoop = .notifying then some { s with receiveLoop := .header } else none
  | .lost =>
    match s.receiveLoop with
    | .header | .body _ => some s.endLoop
    | .calling _ _ | .notifying => if s.isOpen then none else some s.endLoop
    | .ended => none
  | .close => some { s with isOpen := false }
  | .send request => some (s.send request)
  | .notify notification => some (s.notify notification)
  | .sent number =>
    (s.call number).bind fun send => if send.writing then some (s.sent send) else none
  | .unsent number =>
    (s.call number).bind fun send =>
      if send.writing then some (s.finish send .connectionError) else none
  | .cancel number =>
    (s.call number).map fun send => s.finish send (.cancelledError true)
  | .resume number =>
    (s.call number).bind fun send =>
      if send.writing then none else send.future.outcome.map (s.finish send)

end Connection

end HatDrivers.Smpp.Transport
