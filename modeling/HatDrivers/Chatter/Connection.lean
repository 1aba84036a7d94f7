import HatDrivers.Chatter.Common

namespace HatDrivers.Chatter

open HatDrivers.Lib

/-!
# Chatter — two connections

The two ends of a byte stream in either direction, each a `Connection` with its calls of `send`,
its queues and its loops.  A call of `send` takes its number, waits for room in the send queue,
and returns the conversation of its message when the message is there.  Events are the calls and
the points at which the tasks of an end go on; they come in any order.

Messages and received messages carry a history of their own, which no step looks at to decide
what it does: the conversation that the caller of `send` meant is kept as the end and the number
of the call that opened it.  The ping loop sends pings at any time here, and a call of `send`
can be given up at any time, whether its task is cancelled or the queue is closed.
-/

inductive Side
  | client
  | server
  deriving DecidableEq

@[simp] def Side.peer : Side → Side
  | .client => .server
  | .server => .client

@[simp] theorem Side.peer_peer (side : Side) : side.peer.peer = side := by cases side <;> rfl

@[simp] theorem Side.peer_ne (side : Side) : side.peer ≠ side := by cases side <;> decide

@[simp] theorem Side.ne_peer (side : Side) : side ≠ side.peer := by cases side <;> decide

/-- The call of `send` that opened a conversation. -/
structure Opening where
  side : Side
  id : ℤ
  deriving DecidableEq

/-- A conversation as an end knows it. -/
structure Known where
  conv : Conversation
  /-- history: which conversation it is -/
  opening : Opening
  deriving DecidableEq

/-- A call of `send` that has a number. -/
structure Call where
  msg : Record
  /-- what the call returns -/
  conv : Conversation
  /-- `conv` was not given -/
  new : Bool
  /-- it is `_read_loop` that calls -/
  response : Bool
  /-- history: the conversation that the message belongs to -/
  opening : Opening
  deriving DecidableEq

def Call.known (call : Call) : Known := { conv := call.conv, opening := call.opening }

/-- A message for the user. -/
structure Receipt where
  msg : Msg
  /-- history: how many messages were read before it -/
  source : ℕ
  deriving DecidableEq

inductive ReadLoop
  | reading
  /-- waits in `send` -/
  | responding
  /-- waits in `_receive_queue.put` -/
  | delivering (receipt : Receipt)
  | ended
  deriving DecidableEq

structure Connection where
  isOpen : Bool
  receiveQueueSize : ℕ
  nextMsgId : ℤ
  /-- the calls of `send` that wait in `_send_queue.put` -/
  puts : List Call
  sendQueue : List Record
  writing : Bool
  readLoop : ReadLoop
  receiveQueue : List Receipt
  /-- history: how many messages were read -/
  reads : ℕ
  /-- history: the calls that put their messages in the send queue, in this order -/
  sent : List Call
  /-- history: what calls of `receive` returned -/
  received : List Receipt
  deriving DecidableEq

namespace Connection

def init (receiveQueueSize : ℕ) : Connection where
  isOpen := true
  receiveQueueSize := receiveQueueSize
  nextMsgId := 1
  puts := []
  sendQueue := []
  writing := true
  readLoop := .reading
  receiveQueue := []
  reads := 0
  sent := []
  received := []

def close (s : Connection) : Connection := { s with isOpen := false }

def endReadLoop (s : Connection) : Connection := { s.close with readLoop := .ended }

def endWriteLoop (s : Connection) : Connection :=
  { s.close with writing := false, sendQueue := [] }

/-- `send`, up to the point where it waits for the send queue. -/
def send (s : Connection) (data : Data) (conv : Option Conversation) (last token : Bool) :
    Except Exn (Record × Conversation × Connection) :=
  if ¬ s.isOpen then .error .connectionError
  else
    let msgId := s.nextMsgId
    let conv := conv.getD { owner := true, firstId := msgId }
    .ok ({ id := msgId, first := conv.firstId, owner := conv.owner, token := token, last := last,
           data := data }, conv, { s with nextMsgId := msgId + 1 })

/-- A call of `send` at `side`, in a conversation that is known there or in a new one. -/
def call (s : Connection) (side : Side) (data : Data) (known : Option Known)
    (last token response : Bool) : Except Exn Connection :=
  (s.send data (known.map Known.conv) last token).map fun p =>
    { p.2.2 with puts := p.2.2.puts ++ [
        { msg := p.1, conv := p.2.1, new := known.isNone, response := response,
          opening := (known.map Known.opening).getD { side := side, id := p.1.id } }] }

/-- The messages for the user that were not lost. -/
def receipts (s : Connection) : List Receipt :=
  s.received ++ s.receiveQueue ++
    match s.readLoop with
    | .delivering receipt => [receipt]
    | _ => []

end Connection

/-- The connections of the two ends, and the bytes that `side` wrote and the other end did not
read yet. -/
structure Link where
  connection : Side → Connection
  stream : Side → Bytes

/-- What a user passes to `send` as conversation: nothing, what a call of `send` returned, or what
a received message came with. -/
inductive Handle
  | new
  | sent (n : ℕ)
  | received (n : ℕ)
  deriving DecidableEq

inductive Action
  | send (data : Data) (handle : Handle) (last token : Bool)
  /-- `send` in `_ping_loop` -/
  | ping
  /-- a call of `send` puts its message in the send queue, and returns -/
  | put (n : ℕ)
  /-- a call of `send` ends with an exception -/
  | abandon (n : ℕ)
  | write
  /-- the write loop is cancelled, or fails -/
  | endWriteLoop
  | read
  /-- the read loop is cancelled, or fails -/
  | endReadLoop
  | deliver
  | receive
  | close
  deriving DecidableEq

namespace Link

def init (receiveQueueSize : Side → ℕ) : Link where
  connection side := Connection.init (receiveQueueSize side)
  stream _ := []

def set (s : Link) (side : Side) (connection : Connection) : Link :=
  { s with connection := Function.update s.connection side connection }

def setStream (s : Link) (side : Side) (stream : Bytes) : Link :=
  { s with stream := Function.update s.stream side stream }

section Access

variable (s : Link) (side : Side) (connection : Connection) (bs : Bytes)

@[simp] theorem set_connection_same : (s.set side connection).connection side = connection :=
  Function.update_self ..

@[simp] theorem set_connection_peer :
    (s.set side connection).connection side.peer = s.connection side.peer :=
  Function.update_of_ne (Side.peer_ne side) ..

@[simp] theorem set_stream : (s.set side connection).stream = s.stream := rfl

@[simp] theorem set_set (connection' : Connection) :
    (s.set side connection).set side connection' = s.set side connection' := by
  simp only [set, Function.update_idem]

@[simp] theorem setStream_connection : (s.setStream side bs).connection = s.connection := rfl

@[simp] theorem setStream_same : (s.setStream side bs).stream side = bs :=
  Function.update_self ..

@[simp] theorem setStream_peer : (s.setStream side bs).stream side.peer = s.stream side.peer :=
  Function.update_of_ne (Side.peer_ne side) ..

end Access

/-- The call of `send` at the other end that a message was sent by. -/
def source (s : Link) (side : Side) (receipt : Receipt) : Option Call :=
  (s.connection side.peer).sent[receipt.source]?

/-- The conversation of a received message. -/
def knownOf (s : Link) (side : Side) (receipt : Receipt) : Option Known :=
  (s.source side receipt).map fun call =>
    { conv := receipt.msg.conv, opening := call.opening }

/-- The conversation a handle stands for. -/
def known (s : Link) (side : Side) : Handle → Option (Option Known)
  | .new => some none
  | .sent n => ((s.connection side).sent[n]?).map fun call => some call.known
  | .received n => ((s.connection side).received[n]?).bind fun receipt =>
      (s.knownOf side receipt).map some

/-- `_read_loop`, from a message to the point where it waits or reads on. -/
def receiveMsg (s : Link) (side : Side) (receipt : Receipt) : Link :=
  let connection := s.connection side
  if receipt.msg.data.type = "HatChatter.Ping" then
    match connection.call side { type := "HatChatter.Pong", data := [] }
      (s.knownOf side receipt) true true true with
    | .ok connection => s.set side { connection with readLoop := .responding }
    | .error _ => s.set side connection.endReadLoop
  else if receipt.msg.data.type = "HatChatter.Pong" then s
  else s.set side { connection with readLoop := .delivering receipt }

/-- A message is read off the stream of the other end. -/
def read (s : Link) (sbs : Sbs) (side : Side) : Option Link :=
  let connection := s.connection side
  match Chatter.read sbs (s.stream side.peer) with
  | none => none
  | some (.ok record, stream) =>
    some (((s.set side { connection with reads := connection.reads + 1 }).setStream side.peer
      stream).receiveMsg side { msg := record.toMsg, source := connection.reads })
  | some (.error _, stream) =>
    some ((s.set side connection.endReadLoop).setStream side.peer stream)

/-- The next message of the send queue is written. -/
def write (s : Link) (sbs : Sbs) (side : Side) : Option Link :=
  let connection := s.connection side
  match connection.sendQueue with
  | [] => none
  | msg :: sendQueue =>
    match frame sbs msg with
    | .ok bs =>
      some ((s.set side { connection with sendQueue := sendQueue }).setStream side
        (s.stream side ++ bs))
    | .error _ => some (s.set side connection.endWriteLoop)

/-- A message goes on from its call to the send queue. -/
def put (s : Link) (side : Side) (n : ℕ) (call : Call) : Link :=
  let connection := s.connection side
  s.set side { connection with
    puts := connection.puts.eraseIdx n
    sendQueue := connection.sendQueue ++ [call.msg]
    sent := connection.sent ++ [call]
    readLoop := if call.response then .reading else connection.readLoop }

def abandon (s : Link) (side : Side) (n : ℕ) (call : Call) : Link :=
  let connection := { s.connection side with puts := (s.connection side).puts.eraseIdx n }
  s.set side (if call.response then connection.endReadLoop else connection)

/-- An event at one end. -/
def act (s : Link) (sbs : Sbs) (side : Side) : Action → Option Link
  | .send data handle last token =>
    (s.known side handle).map fun known =>
      match (s.connection side).call side data known last token false with
      | .ok connection => s.set side connection
      | .error _ => s
  | .ping =>
    match (s.connection side).call side { type := "HatChatter.Ping", data := [] } none false true
      false with
    | .ok connection => some (s.set side connection)
    | .error _ => some (s.set side (s.connection side).close)
  | .put n =>
    ((s.connection side).puts[n]?).bind fun call =>
      if (s.connection side).writing ∧
          hasRoom (s.connection side).receiveQueueSize (s.connection side).sendQueue then
        some (s.put side n call)
      else none
  | .abandon n => ((s.connection side).puts[n]?).map fun call => s.abandon side n call
  | .write => if (s.connection side).writing then s.write sbs side else none
  | .endWriteLoop => some (s.set side (s.connection side).endWriteLoop)
  | .read => if (s.connection side).readLoop = .reading then s.read sbs side else none
  | .endReadLoop =>
    if (s.connection side).readLoop = .responding then none
    else some (s.set side (s.connection side).endReadLoop)
  | .deliver =>
    match (s.connection side).readLoop with
    | .delivering receipt =>
      if hasRoom (s.connection side).receiveQueueSize (s.connection side).receiveQueue then
        some (s.set side { s.connection side with
          receiveQueue := (s.connection side).receiveQueue ++ [receipt], readLoop := .reading })
      else none
    | _ => none
  | .receive =>
    match (s.connection side).receiveQueue with
    | [] => none
    | receipt :: receiveQueue =>
      some (s.set side { s.connection side with
        receiveQueue := receiveQueue, received := (s.connection side).received ++ [receipt] })
  | .close => some (s.set side (s.connection side).close)

def step (sbs : Sbs) (s : Link) (e : Side × Action) : Option Link := s.act sbs e.1 e.2

end Link

end HatDrivers.Chatter
