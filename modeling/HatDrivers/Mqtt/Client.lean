import HatDrivers.Lib.Entries
import HatDrivers.Lib.Transition
import HatDrivers.Mqtt.IdentifierRegistry
import HatDrivers.Mqtt.Transport.Encoder

namespace HatDrivers.Mqtt

open HatDrivers.Lib HatDrivers.Mqtt.Transport

/-!
# MQTT — operations of a client

The calls of `publish`, `subscribe` and `unsubscribe` of one client, from their start to
the release of their identifiers.  Events are the calls, the steps at which suspended
calls go on, timeouts, cancellations, the acknowledgements of a server that answers every
packet at most once and in any order, and the closing of the client.

The acknowledgements that are still to come, and which call got which, are kept beside
the state of the client.
-/

/-! ### Packets -/

structure Msg where
  topic : String
  payload : Payload
  qos : QoS
  retain : Bool
  messageExpiryInterval : Option ℕ
  responseTopic : Option String
  correlationData : Option Bytes
  userProperties : UserProperties
  contentType : Option String
  deriving DecidableEq

/-- A call of `publish`, `subscribe` or `unsubscribe`. -/
inductive Request
  | publish (msg : Msg)
  | subscribe (subscriptions : List Subscription)
  | unsubscribe (topicFilters : List String)
  deriving DecidableEq

def publishPacket (qos : QoS) (msg : Msg) (identifier : Option ℕ) : PublishPacket where
  duplicate := false
  qos := qos
  retain := msg.retain
  topicName := msg.topic
  packetIdentifier := identifier
  messageExpiryInterval := msg.messageExpiryInterval
  topicAlias := none
  responseTopic := msg.responseTopic
  correlationData := msg.correlationData
  userProperties := msg.userProperties
  subscriptionIdentifiers := []
  contentType := msg.contentType
  payload := msg.payload

/-- The packet that a call sends first.  A message is sent with the quality of service of
the server, not with its own. -/
def requestPacket (maximumQos : QoS) (identifier : Option ℕ) : Request → Packet
  | .publish msg => .publish (publishPacket maximumQos msg identifier)
  | .subscribe subscriptions => .subscribe ⟨identifier.getD 0, none, [], subscriptions⟩
  | .unsubscribe topicFilters => .unsubscribe ⟨identifier.getD 0, [], topicFilters⟩

def pubrelPacket (identifier : ℕ) : Packet := .pubrel ⟨identifier, .SUCCESS, none, []⟩

/-- The identifier under which a packet is acknowledged. -/
def expectedIdentifier : Packet → Option ℕ
  | .publish packet => if packet.qos = .AT_MOST_ONCE then none else packet.packetIdentifier
  | .pubrel packet => some packet.packetIdentifier
  | .subscribe packet => some packet.packetIdentifier
  | .unsubscribe packet => some packet.packetIdentifier
  | _ => none

/-- `packet.packet_identifier` of an acknowledgement. -/
def acknowledgedIdentifier : Packet → Option ℕ
  | .puback packet => some packet.packetIdentifier
  | .pubrec packet => some packet.packetIdentifier
  | .pubcomp packet => some packet.packetIdentifier
  | .suback packet => some packet.packetIdentifier
  | .unsuback packet => some packet.packetIdentifier
  | _ => none

/-- The acknowledgements with which a server answers a packet. -/
def Answers : Packet → Packet → Prop
  | .publish packet, .puback ack =>
    packet.qos = .AT_LEAST_ONCE ∧ packet.packetIdentifier = some ack.packetIdentifier
  | .publish packet, .pubrec ack =>
    packet.qos = .EXACLTY_ONCE ∧ packet.packetIdentifier = some ack.packetIdentifier
  | .pubrel packet, .pubcomp ack => packet.packetIdentifier = ack.packetIdentifier
  | .subscribe packet, .suback ack =>
    packet.packetIdentifier = ack.packetIdentifier ∧
      packet.subscriptions.length = ack.reasons.length
  | .unsubscribe packet, .unsuback ack =>
    packet.packetIdentifier = ack.packetIdentifier ∧
      packet.topicFilters.length = ack.reasons.length
  | _, _ => False

instance (packet ack : Packet) : Decidable (Answers packet ack) := by
  unfold Answers
  split <;> infer_instance

/-! ### Calls -/

inductive Failure
  | connectionError
  | keyError
  | mqttError (reason : Reason) (description : Option String)
  /-- raised while a packet is encoded -/
  | encoding (e : Error)
  | exception (msg : String)
  deriving DecidableEq

inductive Outcome
  /-- with the reasons that `subscribe` and `unsubscribe` return -/
  | returned (reasons : Option (List Reason))
  | raised (failure : Failure)
  | cancelled
  deriving DecidableEq

/-- The future of `create_future`. -/
inductive Future
  | pending
  | result (packet : Packet)
  | exception
  deriving DecidableEq

inductive Phase
  /-- not suspended yet -/
  | calling
  /-- suspended in `put` of the registry -/
  | putting
  /-- its future is in the queue of the registry -/
  | waiting
  /-- that future has a result, and the call has not gone on yet -/
  | handed (identifier : ℕ)
  /-- that future has an exception, and the call has not gone on yet -/
  | failing
  /-- suspended in `send`, the packet not being handed to the transport -/
  | sending (packet : Packet)
  /-- the packet is with the transport -/
  | awaiting (packet : Packet)
  | ended (outcome : Outcome)
  deriving DecidableEq

structure Operation where
  request : Request
  identifier : Option ℕ
  phase : Phase
  future : Option Future
  /-- the packets that were sent and the acknowledgements that were taken -/
  exchange : List Packet
  deriving DecidableEq

/-- A call that was not suspended yet. -/
def Operation.new (request : Request) : Operation where
  request := request
  identifier := none
  phase := .calling
  future := none
  exchange := []

/-- `future.set_exception(ConnectionError())` if the future is not done. -/
def Operation.fail (op : Operation) : Operation :=
  if op.future = some .pending then { op with future := some .exception } else op

/-- A packet that the server has not answered, with the call that sent it. -/
structure Unanswered where
  operation : ℕ
  packet : Packet
  deriving DecidableEq

structure Client where
  maximumQos : QoS
  registry : IdentifierRegistry
  operations : List Operation
  unanswered : List Unanswered
  /-- the calls that sent the packet and that got its acknowledgement -/
  matched : List (ℕ × ℕ)

/-- What a call does with the result of its future. -/
inductive Reaction
  | returns (reasons : Option (List Reason))
  | raises (reason : Reason) (description : Option String)
  /-- `_assert_res_type` fails -/
  | invalid
  /-- the handshake goes on with PUBREL -/
  | releases
  deriving DecidableEq

/-- `if is_error_reason(res.reason): raise MqttError(…)`, else the call goes on. -/
def checkReason (res : ReasonPacket) (reaction : Reaction) : Reaction :=
  if isErrorReason res.reason then .raises res.reason res.reasonString else reaction

/-- The reaction to `res` as the answer to the packet `sent`. -/
def react : Request → Packet → Packet → Reaction
  | .publish _, .pubrel _, .pubcomp res => checkReason res (.returns none)
  | .publish _, .pubrel _, _ => .invalid
  | .publish msg, _, .puback res =>
    if msg.qos = .AT_LEAST_ONCE then checkReason res (.returns none) else .invalid
  | .publish msg, _, .pubrec res =>
    if msg.qos = .AT_LEAST_ONCE then .invalid else checkReason res .releases
  | .publish _, _, _ => .invalid
  | .subscribe _, _, .suback res => .returns (some res.reasons)
  | .subscribe _, _, _ => .invalid
  | .unsubscribe _, _, .unsuback res => .returns (some res.reasons)
  | .unsubscribe _, _, _ => .invalid

namespace Client

def init (maximumQos : QoS) : Client where
  maximumQos := maximumQos
  registry := .init
  operations := []
  unanswered := []
  matched := []

/-! ### Steps of a call -/

def modify (s : Client) (k : ℕ) (f : Operation → Operation) : Client :=
  { s with operations := s.operations.modify k f }

def setPhase (s : Client) (k : ℕ) (phase : Phase) : Client :=
  s.modify k fun op => { op with phase := phase }

/-- Is the future of a waiting call done? -/
def waiterDone (s : Client) (k : ℕ) : Bool :=
  (s.operations[k]?).all fun op => op.phase ≠ .waiting

/-- Is the future of an acknowledgement done? -/
def futureDone (s : Client) (k : ℕ) : Bool :=
  (s.operations[k]?).all fun op => op.future ≠ some .pending

def failFutures (s : Client) (ks : List ℕ) : Client :=
  { s with operations := s.operations.mapIdx fun k op => if k ∈ ks then op.fail else op }

def close (s : Client) : Client :=
  { s with registry := { s.registry with isOpen := false } }

/-- `release_identifier`. -/
def release (s : Client) (identifier : ℕ) : Client :=
  let (registry, call, futures) := s.registry.releaseIdentifier s.waiterDone identifier
  let s := { s with registry := registry }.failFutures futures
  match call with
  | none => s
  | some k => s.setPhase k (.handed identifier)

/-- The end of a call, with the `finally` of its `try`. -/
def finish (s : Client) (k : ℕ) (outcome : Outcome) : Client :=
  let s := s.setPhase k (.ended outcome)
  match s.operations[k]?.bind (·.identifier) with
  | none => s
  | some identifier => s.release identifier

/-- The end of a call that has not reached its `try`. -/
def fail (s : Client) (k : ℕ) (failure : Failure) : Client :=
  s.setPhase k (.ended (.raised failure))

/-- `_conn.send(packet)`, up to where it waits. -/
def send (s : Client) (k : ℕ) (packet : Packet) : Client :=
  match encodePacket packet with
  | .error e => s.finish k (.raised (.encoding e))
  | .ok _ => s.setPhase k (.sending packet)

/-- `create_future(identifier)` and `_conn.send(packet)`. -/
def request (s : Client) (k identifier : ℕ) (packet : Packet) : Client :=
  if ¬ s.registry.isOpen then s.finish k (.raised .connectionError)
  else
    match s.registry.createFuture identifier k with
    | none => s.finish k (.raised .keyError)
    | some registry =>
      let s := { s with registry := registry }.modify k fun op =>
        { op with future := some .pending }
      s.send k packet

/-- A call goes on with its identifier. -/
def start (s : Client) (k identifier : ℕ) (request : Request) : Client :=
  let s := s.modify k fun op => { op with identifier := some identifier }
  s.request k identifier (requestPacket s.maximumQos (some identifier) request)

/-- `allocate_identifier`, and the call from there on if it need not wait. -/
def allocate (s : Client) (k : ℕ) (request : Request) : Client :=
  match s.registry.allocateIdentifier with
  | .connectionError => s.fail k .connectionError
  | .unavailable => s.fail k (.exception "free identifier unavailable")
  | .identifier identifier registry => { s with registry := registry }.start k identifier request
  | .waits =>
    match s.registry.put k with
    | .closed => s.fail k .connectionError
    | .full => s.setPhase k .putting
    | .done registry => { s with registry := registry }.setPhase k .waiting

/-- `str(qos)`. -/
def qosName : QoS → String
  | .AT_MOST_ONCE => "QoS.AT_MOST_ONCE"
  | .AT_LEAST_ONCE => "QoS.AT_LEAST_ONCE"
  | .EXACLTY_ONCE => "QoS.EXACLTY_ONCE"

/-- A call up to where it waits. -/
def call (s : Client) (request : Request) : Client :=
  let k := s.operations.length
  let s : Client := { s with operations := s.operations ++ [.new request] }
  match request with
  | .publish msg =>
    if msg.qos.value > s.maximumQos.value then
      s.fail k (.exception ("maximum supported QoS is " ++ qosName s.maximumQos))
    else if msg.qos = .AT_MOST_ONCE then s.send k (requestPacket s.maximumQos none request)
    else s.allocate k request
  | .subscribe _ => s.allocate k request
  | .unsubscribe _ => s.allocate k request

/-- The `put` of a call goes on, which it does when there is room or the queue is closed. -/
def put (s : Client) (k : ℕ) (op : Operation) : Option Client :=
  match op.phase, s.registry.put k with
  | .putting, .closed => some (s.fail k .connectionError)
  | .putting, .done registry => some ({ s with registry := registry }.setPhase k .waiting)
  | _, _ => none

/-- A call takes the result of its future. -/
def take (s : Client) (k identifier : ℕ) (op : Operation) (sent res : Packet) : Client :=
  let taken := s.modify k fun op => { op with exchange := op.exchange ++ [res] }
  match react op.request sent res with
  | .returns reasons => taken.finish k (.returned reasons)
  | .raises reason description => taken.finish k (.raised (.mqttError reason description))
  | .invalid => s.close.finish k (.raised .connectionError)
  | .releases => taken.request k identifier (pubrelPacket identifier)

/-- A call goes on, if what it waits for is done. -/
def resume (s : Client) (k : ℕ) (op : Operation) : Option Client :=
  match op.phase with
  | .handed identifier =>
    match s.registry.resume identifier with
    | none => some (s.fail k .connectionError)
    | some registry => some ({ s with registry := registry }.start k identifier op.request)
  | .failing => some (s.fail k .connectionError)
  | .awaiting sent =>
    match op.identifier, op.future with
    | none, _ => some (s.finish k (.returned none))
    | some identifier, some (.result res) => some (s.take k identifier op sent res)
    | some _, some .exception => some (s.finish k (.raised .connectionError))
    | some _, _ => none
  | _ => none

/-- The packet of a call is handed to the transport. -/
def write (s : Client) (k : ℕ) (packet : Packet) : Client :=
  let s := s.modify k fun op =>
    { op with phase := .awaiting packet, exchange := op.exchange ++ [packet] }
  if (expectedIdentifier packet).isNone then s
  else { s with unanswered := s.unanswered ++ [⟨k, packet⟩] }

def written (s : Client) (k : ℕ) (op : Operation) : Option Client :=
  match op.phase with
  | .sending packet => some (s.write k packet)
  | _ => none

/-- The connection is lost while a call is suspended in `send`. -/
def writeFails (s : Client) (k : ℕ) (op : Operation) : Option Client :=
  match op.phase with
  | .sending _ => some (s.finish k (.raised .connectionError))
  | _ => none

/-- No result comes in time, and the client is closed. -/
def timeout (s : Client) (k : ℕ) (op : Operation) : Option Client :=
  match op.phase, op.future with
  | .awaiting _, some .pending => some (s.close.finish k (.raised .connectionError))
  | _, _ => none

/-- The receive loop gets an acknowledgement of the packet `sent`. -/
def acknowledge (s : Client) (sent : Unanswered) (identifier : ℕ) (ack : Packet) : Client :=
  if ¬ s.registry.isOpen then s
  else
    let (registry, future) := s.registry.registerPacket s.futureDone identifier
    match future with
    | none => { s with registry := registry }
    | some k =>
      { s with registry := registry, matched := s.matched ++ [(sent.operation, k)] }.modify k
        fun op => { op with future := some (.result ack) }

/-- A call is cancelled where it is suspended. -/
def cancel (s : Client) (k : ℕ) (op : Operation) : Option Client :=
  match op.phase with
  | .putting | .waiting | .handed _ | .failing => some (s.setPhase k (.ended .cancelled))
  | .sending _ | .awaiting _ => some (s.finish k .cancelled)
  | .calling | .ended _ => none

/-- The closed registry fails the futures it has. -/
def onClose (s : Client) : Client :=
  let (registry, _, futures) := s.registry.onClose
  let s : Client := { s with
    registry := registry
    operations := s.operations.map fun op =>
      if op.phase = .waiting then { op with phase := .failing } else op }
  s.failFutures futures

/-! ### Events -/

inductive Event
  | call (request : Request)
  | put (k : ℕ)
  | resume (k : ℕ)
  | written (k : ℕ)
  | writeFails (k : ℕ)
  | timeout (k : ℕ)
  | cancel (k : ℕ)
  /-- the server's answer to one of the packets it has not answered -/
  | acknowledge (n : ℕ) (ack : Packet)
  | close
  | onClose
  deriving DecidableEq

def step (s : Client) : Event → Option Client
  | .call request => some (s.call request)
  | .put k => (s.operations[k]?).bind (s.put k)
  | .resume k => (s.operations[k]?).bind (s.resume k)
  | .written k => (s.operations[k]?).bind (s.written k)
  | .writeFails k => (s.operations[k]?).bind (s.writeFails k)
  | .timeout k => (s.operations[k]?).bind (s.timeout k)
  | .cancel k => (s.operations[k]?).bind (s.cancel k)
  | .acknowledge n ack =>
    match s.unanswered[n]?, acknowledgedIdentifier ack with
    | some sent, some identifier =>
      if Answers sent.packet ack then
        some ({ s with unanswered := s.unanswered.eraseIdx n }.acknowledge sent identifier ack)
      else none
    | _, _ => none
  | .close => some s.close
  | .onClose => if s.registry.isOpen then none else some s.onClose

end Client

end HatDrivers.Mqtt
