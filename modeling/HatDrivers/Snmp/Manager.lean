import HatDrivers.Lib.Exchange
import HatDrivers.Snmp.Agent

namespace HatDrivers.Snmp

open HatDrivers.Lib
open Exchange (answered)
open Asn1 (Ber)

/-!
# SNMP driver — managers

The managers of the three versions: what `send` puts on the wire, and what the receive loop does
with a datagram.  The managers are open; a request that waits is in the tables of `Exchange`.
-/

/-- What a manager finds in its environment. -/
structure Env where
  /-- the rounded time of the agent's engine -/
  time : ℤ
  salt : Salt

/-- `{id: future}` is looked up by an integer of a message. -/
def idOf : ℤ → Option ℕ
  | .ofNat id => some id
  | .negSucc _ => none

/-- `res` of the receive loops. -/
def responseOf (error : Error) (data : List Data) : Response :=
  if error.type = .NO_ERROR then .data data else .error error

/-- The names of a request's data, as `name` has them, or the data of a `SetDataReq`. -/
def requestData (data : ObjectIdentifier → Data) : Request → List Data
  | .SetDataReq data => data
  | .GetDataReq names | .GetNextDataReq names | .GetBulkDataReq names => names.map data

/-! ### Version 1 -/

namespace V1

/-- `V1Manager`. -/
structure Manager where
  community : String
  nextRequestId : ℕ

def Manager.init (community : String) : Manager where
  community := community
  nextRequestId := 1

/-- The message type of a request. -/
def typeOf : Request → Except Failure MsgType
  | .GetDataReq _ => .ok .GET_REQUEST
  | .GetNextDataReq _ => .ok .GET_NEXT_REQUEST
  | .SetDataReq _ => .ok .SET_REQUEST
  | .GetBulkDataReq _ => .error (.valueError "unsupported request")

def Manager.message (manager : Manager) (type : MsgType) (req : Request) : Msg where
  type := type
  community := manager.community
  pdu := .basic
    { requestId := manager.nextRequestId, error := ⟨.NO_ERROR, 0⟩,
      data := requestData .EmptyData req }

variable (ber : Ber) (crypto : Crypto)

/-- `send`, up to where it waits. -/
def Manager.send (manager : Manager) (req : Request) (env : Env) :
    Manager × Except Failure (Unit × Bytes) :=
  match typeOf req with
  | .error e => (manager, .error e)
  | .ok type =>
    ({ manager with nextRequestId := manager.nextRequestId + 1 },
      (encode ber crypto env.salt (.v1 (manager.message type req)) none none).map fun bs =>
        ((), bs))

/-- A round of `_receive_loop`: the result and the request it is for. -/
def Manager.accept (manager : Manager) (msgBytes : Bytes) : Option (ℕ × Response) :=
  match decode ber crypto msgBytes none none with
  | .ok (.v1 msg) =>
    if msg.type ≠ .GET_RESPONSE then none
    else if msg.community ≠ manager.community then none
    else
      match msg.pdu with
      | .basic pdu => (idOf pdu.requestId).map fun id => (id, responseOf pdu.error pdu.data)
      | .trap _ => none
  | _ => none

end V1

/-! ### Version 2c -/

namespace V2c

/-- `V2CManager`. -/
structure Manager where
  community : String
  nextRequestId : ℕ

def Manager.init (community : String) : Manager where
  community := community
  nextRequestId := 1

/-- The message type of a request, as for version 3. -/
def typeOf : Request → MsgType
  | .GetDataReq _ => .GET_REQUEST
  | .GetNextDataReq _ => .GET_NEXT_REQUEST
  | .GetBulkDataReq _ => .GET_BULK_REQUEST
  | .SetDataReq _ => .SET_REQUEST

/-- The PDU of a request, as for version 3. -/
def pduOf (requestId : ℕ) (req : Request) : Pdu :=
  let data := requestData .UnspecifiedData req
  match req with
  | .GetBulkDataReq _ =>
    .bulk { requestId := requestId, nonRepeaters := 0, maxRepetitions := 0, data := data }
  | _ => .basic { requestId := requestId, error := ⟨.NO_ERROR, 0⟩, data := data }

def Manager.message (manager : Manager) (req : Request) : Msg where
  type := typeOf req
  community := manager.community
  pdu := pduOf manager.nextRequestId req

variable (ber : Ber) (crypto : Crypto)

/-- `send`, up to where it waits. -/
def Manager.send (manager : Manager) (req : Request) (env : Env) :
    Manager × Except Failure (Unit × Bytes) :=
  ({ manager with nextRequestId := manager.nextRequestId + 1 },
    (encode ber crypto env.salt (.v2c (manager.message req)) none none).map fun bs => ((), bs))

/-- A round of `_receive_loop`: the result and the request it is for. -/
def Manager.accept (manager : Manager) (msgBytes : Bytes) : Option (ℕ × Response) :=
  match decode ber crypto msgBytes none none with
  | .ok (.v2c msg) =>
    if msg.type ≠ .RESPONSE then none
    else if msg.community ≠ manager.community then none
    else
      match msg.pdu with
      | .basic pdu => (idOf pdu.requestId).map fun id => (id, responseOf pdu.error pdu.data)
      | .bulk _ => none
  | _ => none

end V2c

/-! ### Version 3 -/

namespace V3

/-- `V3Manager`. -/
structure Manager where
  context : Option Context
  user : User
  nextRequestId : ℕ
  authorativeEngine : Option AuthorativeEngine
  authKey : Option Key
  privKey : Option Key

def Manager.create (context : Option Context) (user : User) : Except Failure Manager := do
  validateUser user
  return { context := context, user := user, nextRequestId := 1, authorativeEngine := none,
           authKey := none, privKey := none }

/-- A call of `sync` or of `send`. -/
inductive ManagerCall
  | sync
  | send (req : Request)
  deriving DecidableEq

variable (ber : Ber) (crypto : Crypto)

/-- The message of `_send`. -/
def requestMsg (requestId : ℕ) (req : Request) (engine : AuthorativeEngine) (context : Context)
    (username : String) (auth priv : Bool) : Msg where
  type := V2c.typeOf req
  id := requestId
  reportable := true
  auth := auth
  priv := priv
  authorativeEngine := engine
  user := username
  context := context
  pdu := V2c.pduOf requestId req

namespace Manager

/-- `_send`, up to where it waits. -/
def sendMsg (manager : Manager) (req : Request) (engine : AuthorativeEngine) (context : Context)
    (username : String) (authKey privKey : Option Key) (salt : Salt) :
    Manager × Except Failure (Msg × Bytes) :=
  let reqMsg := requestMsg manager.nextRequestId req engine context username authKey.isSome
    privKey.isSome
  ({ manager with nextRequestId := manager.nextRequestId + 1 },
    (encode ber crypto salt (.v3 reqMsg) authKey privKey).map fun bs => (reqMsg, bs))

/-- `sync` and `send`. -/
def send (manager : Manager) (call : ManagerCall) (env : Env) :
    Manager × Except Failure (Msg × Bytes) :=
  match call with
  | .sync => manager.sendMsg ber crypto (.GetDataReq []) ⟨[], 0, 0⟩ ⟨[], ""⟩ "" none none env.salt
  | .send req =>
    match manager.authorativeEngine with
    | none => (manager, .error (.exception "manager not synchronized"))
    | some engine =>
      manager.sendMsg ber crypto req { engine with time := env.time }
        (manager.context.getD ⟨engine.id, ""⟩) manager.user.name manager.authKey manager.privKey
        env.salt

/-- The manager with the keys for an engine, if it has none. -/
def synchronize (manager : Manager) (engine : AuthorativeEngine) : Except Failure Manager :=
  match manager.authorativeEngine with
  | some _ => .ok { manager with authorativeEngine := some engine }
  | none => do
    let authKey ← userKey crypto (manager.user.authType.map authTypeToKeyType)
      manager.user.authPassword (some engine.id)
    let privKey ← userKey crypto (manager.user.privType.map privTypeToKeyType)
      manager.user.privPassword (some engine.id)
    return { manager with
      authorativeEngine := some engine, authKey := authKey, privKey := privKey }

/-- The result of a response to a message that was sent. -/
def resultOf (resMsg reqMsg : Msg) : Option Response :=
  if resMsg.auth ≠ reqMsg.auth then none
  else if resMsg.priv ≠ reqMsg.priv then none
  else if resMsg.type = .RESPONSE ∧ resMsg.context ≠ reqMsg.context then none
  else
    match resMsg.pdu with
    | .basic pdu => some (responseOf pdu.error pdu.data)
    | .bulk _ => none

/-- A round of `_receive_loop`, with the messages that wait for responses. -/
def accept (manager : Manager) (reqMsgs : ℕ → Option Msg) (msgBytes : Bytes) :
    Manager × Option (ℕ × Response) :=
  match decode ber crypto msgBytes (some fun _ _ => .ok manager.authKey)
    (some fun _ _ => .ok manager.privKey) with
  | .ok (.v3 resMsg) =>
    if resMsg.type ≠ .RESPONSE ∧ resMsg.type ≠ .REPORT then (manager, none)
    else if manager.authorativeEngine.any fun engine =>
        engine.id ≠ resMsg.authorativeEngine.id then (manager, none)
    else
      match manager.synchronize crypto resMsg.authorativeEngine with
      | .error _ => (manager, none)
      | .ok manager =>
        (manager, do
          let id ← idOf resMsg.id
          let reqMsg ← reqMsgs id
          let res ← resultOf resMsg reqMsg
          return (id, res))
  | _ => (manager, none)

end Manager

end V3

/-! ### Managers and an agent -/

section

variable (ber : Ber) (crypto : Crypto) (agent : Agent) (addr : Address)

/-- What the agent does with a datagram of a manager. -/
def Agent.serve (msgBytes : Bytes) (outcome : Outcome) (env : Env) :
    Option RequestCall × Except Failure Bytes :=
  let handled := agent.handle ber crypto
    { bytes := msgBytes, addr := addr, outcome := outcome, time := env.time, salt := env.salt }
  (handled.call, handled.sent)

def V1.exchange : Exchange V1.Manager Request Unit Outcome RequestCall Response Env Bytes Failure
    where
  next := V1.Manager.nextRequestId
  send := V1.Manager.send ber crypto
  serve datagram outcome env := answered (agent.serve ber crypto addr datagram outcome env)
  accept manager _ msgBytes := (manager, manager.accept ber crypto msgBytes)

def V2c.exchange : Exchange V2c.Manager Request Unit Outcome RequestCall Response Env Bytes Failure
    where
  next := V2c.Manager.nextRequestId
  send := V2c.Manager.send ber crypto
  serve datagram outcome env := answered (agent.serve ber crypto addr datagram outcome env)
  accept manager _ msgBytes := (manager, manager.accept ber crypto msgBytes)

def V3.exchange : Exchange V3.Manager V3.ManagerCall V3.Msg Outcome RequestCall Response Env Bytes
    Failure where
  next := V3.Manager.nextRequestId
  send := V3.Manager.send ber crypto
  serve datagram outcome env := answered (agent.serve ber crypto addr datagram outcome env)
  accept := V3.Manager.accept ber crypto

end

end HatDrivers.Snmp
