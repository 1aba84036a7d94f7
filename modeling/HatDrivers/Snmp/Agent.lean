import HatDrivers.Snmp.Users

namespace HatDrivers.Snmp

open HatDrivers.Lib
open Asn1 (Ber)

/-!
# SNMP driver — agent

The receive loop of an agent: it decodes a datagram, calls the callback of its version and sends
the response.  Nothing that it does changes the agent, so what it does with a datagram depends on
that datagram alone.
-/

/-- `udp.Address`. -/
structure Address where
  host : String
  port : ℕ
  deriving DecidableEq

/-- What a request callback does. -/
inductive Outcome
  | returns (res : Response)
  | raises
  deriving DecidableEq

/-- A call of a request callback. -/
inductive RequestCall
  | v1 (addr : Address) (community : String) (req : Request)
  | v2c (addr : Address) (community : String) (req : Request)
  | v3 (addr : Address) (user : String) (context : Context) (req : Request)
  deriving DecidableEq

/-- A datagram that is received, and what the agent finds in its environment. -/
structure Datagram where
  bytes : Bytes
  addr : Address
  /-- what the callback does, if it is called -/
  outcome : Outcome
  /-- `round(time.monotonic())` -/
  time : ℤ
  salt : Salt

structure Agent where
  /-- `_v1_request_cb is not None` -/
  v1RequestCb : Bool
  v2cRequestCb : Bool
  v3RequestCb : Bool
  authEngineId : Option EngineId
  authKeys : String → Option (Option Key)
  privKeys : String → Option (Option Key)

namespace Agent

/-! ### Users -/

/-- A round of the loop of `__init__`. -/
def addUser (crypto : Crypto) (agent : Agent) (user : User) : Except Failure Agent := do
  validateUser user
  let authKey ← userKey crypto (user.authType.map authTypeToKeyType) user.authPassword
    agent.authEngineId
  let privKey ← userKey crypto (user.privType.map privTypeToKeyType) user.privPassword
    agent.authEngineId
  return { agent with
    authKeys := Function.update agent.authKeys user.name (some authKey)
    privKeys := Function.update agent.privKeys user.name (some privKey) }

def create (crypto : Crypto) (v1RequestCb v2cRequestCb v3RequestCb : Bool)
    (authoritativeEngineId : Option EngineId) (users : List User) : Except Failure Agent :=
  users.foldlM (addUser crypto)
    { v1RequestCb := v1RequestCb
      v2cRequestCb := v2cRequestCb
      v3RequestCb := v3RequestCb
      authEngineId := authoritativeEngineId
      authKeys := fun _ => none
      privKeys := fun _ => none }

/-- `_on_auth_key`. -/
def onAuthKey (agent : Agent) : KeyCb := fun engineId username =>
  if some engineId ≠ agent.authEngineId then
    .error (.exception "invalid authoritative engine id")
  else
    match agent.authKeys username with
    | none => .error (.exception "invalid user")
    | some key => .ok key

/-- `_on_priv_key`. -/
def onPrivKey (agent : Agent) : KeyCb := fun engineId username =>
  if some engineId ≠ agent.authEngineId then
    .error (.exception "invalid authoritative engine id")
  else
    match agent.privKeys username with
    | none => .error (.exception "invalid user")
    | some key => .ok key

end Agent

/-! ### Requests and responses -/

/-- The request of a message of version 1. -/
def V1.requestOf : V1.MsgType → List Data → Except Failure Request
  | .GET_REQUEST, data => .ok (.GetDataReq (data.map Data.name))
  | .GET_NEXT_REQUEST, data => .ok (.GetNextDataReq (data.map Data.name))
  | .SET_REQUEST, data => .ok (.SetDataReq data)
  | _, _ => .error (.exception "invalid request message type")

/-- The request of a message of version 2c or 3. -/
def V2c.requestOf : V2c.MsgType → List Data → Except Failure Request
  | .GET_REQUEST, data => .ok (.GetDataReq (data.map Data.name))
  | .GET_NEXT_REQUEST, data => .ok (.GetNextDataReq (data.map Data.name))
  | .GET_BULK_REQUEST, data => .ok (.GetBulkDataReq (data.map Data.name))
  | .SET_REQUEST, data => .ok (.SetDataReq data)
  | _, _ => .error (.exception "invalid request message type")

/-- `res_error` and `res_data` of versions 2c and 3. -/
def Outcome.result : Outcome → Error × List Data
  | returns (.error error) => (error, [])
  | returns (.data data) => (⟨.NO_ERROR, 0⟩, data)
  | raises => (⟨.GEN_ERR, 0⟩, [])

/-- `res_error` and `res_data` of version 1. -/
def Outcome.resultV1 (outcome : Outcome) : Error × List Data :=
  match outcome with
  | returns (.error error) =>
    if Enumeration.value error.type > Enumeration.value ErrorType.GEN_ERR then
      (⟨.GEN_ERR, 0⟩, [])
    else (error, [])
  | outcome => outcome.result

/-- `pdu.request_id`. -/
def V1.Pdu.requestId : V1.Pdu → Except Failure ℤ
  | basic pdu => .ok pdu.requestId
  | trap _ => .error .attributeError

namespace Agent

/-- `_process_v1_req_msg`: the call of the callback, and what is returned. -/
def processV1ReqMsg (agent : Agent) (reqMsg : V1.Msg) (dgram : Datagram) :
    Option RequestCall × Except Failure V1.Msg :=
  if ¬ agent.v1RequestCb then (none, .error (.exception "not accepting V1"))
  else
    match V1.requestOf reqMsg.type reqMsg.pdu.data with
    | .error e => (none, .error e)
    | .ok req =>
      let res := dgram.outcome.resultV1
      (some (.v1 dgram.addr reqMsg.community req),
        reqMsg.pdu.requestId.map fun requestId =>
          { type := .GET_RESPONSE
            community := reqMsg.community
            pdu := .basic { requestId := requestId, error := res.1, data := res.2 } })

/-- `_process_v2c_req_msg`. -/
def processV2cReqMsg (agent : Agent) (reqMsg : V2c.Msg) (dgram : Datagram) :
    Option RequestCall × Except Failure V2c.Msg :=
  if ¬ agent.v2cRequestCb then (none, .error (.exception "not accepting V2C"))
  else
    match V2c.requestOf reqMsg.type reqMsg.pdu.data with
    | .error e => (none, .error e)
    | .ok req =>
      let res := dgram.outcome.result
      (some (.v2c dgram.addr reqMsg.community req),
        .ok { type := .RESPONSE
              community := reqMsg.community
              pdu := .basic
                { requestId := reqMsg.pdu.requestId, error := res.1, data := res.2 } })

/-- The report of the agent's engine. -/
def report (engineId : EngineId) (reqMsg : V3.Msg) (dgram : Datagram) : V3.Msg where
  type := .REPORT
  id := reqMsg.id
  reportable := false
  auth := false
  priv := false
  authorativeEngine := { id := engineId, boots := 0, time := dgram.time }
  user := ""
  context := reqMsg.context
  pdu := .basic { requestId := reqMsg.pdu.requestId, error := ⟨.NO_ERROR, 0⟩, data := [] }

/-- The response to a request. -/
def responseV3 (reqMsg : V3.Msg) (dgram : Datagram) : V3.Msg where
  type := .RESPONSE
  id := reqMsg.id
  reportable := false
  auth := reqMsg.auth
  priv := reqMsg.priv
  authorativeEngine := { id := reqMsg.authorativeEngine.id, boots := 0, time := dgram.time }
  user := reqMsg.user
  context := reqMsg.context
  pdu := .basic
    { requestId := reqMsg.pdu.requestId
      error := dgram.outcome.result.1
      data := dgram.outcome.result.2 }

/-- `_process_v3_req_msg`. -/
def processV3ReqMsg (agent : Agent) (reqMsg : V3.Msg) (dgram : Datagram) :
    Option RequestCall × Except Failure V3.Msg :=
  match agent.v3RequestCb, agent.authEngineId with
  | true, some engineId =>
    match V2c.requestOf reqMsg.type reqMsg.pdu.data with
    | .error e => (none, .error e)
    | .ok req =>
      if reqMsg.authorativeEngine.id ≠ engineId then
        if reqMsg.reportable then (none, .ok (report engineId reqMsg dgram))
        else (none, .error (.exception "invalid authoritative engine id"))
      else
        match agent.authKeys reqMsg.user, agent.privKeys reqMsg.user with
        | some authKey, some privKey =>
          if authKey.isSome ∧ ¬ reqMsg.auth then (none, .error (.exception "invalid auth flag"))
          else if privKey.isSome ∧ ¬ reqMsg.priv then
            (none, .error (.exception "invalid priv flag"))
          else (some (.v3 dgram.addr reqMsg.user reqMsg.context req),
            .ok (responseV3 reqMsg dgram))
        | _, _ => (none, .error (.exception "invalid user"))
  | _, _ => (none, .error (.exception "not accepting V3"))

/-- The processing of a message of any version. -/
def process (agent : Agent) (reqMsg : Msg) (dgram : Datagram) :
    Option RequestCall × Except Failure Msg :=
  match reqMsg with
  | .v1 msg => ((agent.processV1ReqMsg msg dgram).map id (Except.map .v1))
  | .v2c msg => ((agent.processV2cReqMsg msg dgram).map id (Except.map .v2c))
  | .v3 msg => ((agent.processV3ReqMsg msg dgram).map id (Except.map .v3))

variable (ber : Ber) (crypto : Crypto)

/-- The bytes of a response. -/
def encodeResponse (agent : Agent) (resMsg : Msg) (salt : Salt) : Except Failure Bytes :=
  match resMsg with
  | .v3 msg => do
    let authKey ← (if msg.auth then agent.onAuthKey msg.authorativeEngine.id msg.user else .ok none)
    let privKey ← (if msg.priv then agent.onPrivKey msg.authorativeEngine.id msg.user else .ok none)
    encode ber crypto salt (.v3 msg) authKey privKey
  | msg => encode ber crypto salt msg none none

/-- A datagram, the call that was made for it, and what was sent in response or why nothing was. -/
structure Handled where
  dgram : Datagram
  call : Option RequestCall
  sent : Except Failure Bytes

/-- A round of `_receive_loop`. -/
def handle (agent : Agent) (dgram : Datagram) : Handled :=
  let processed : Option RequestCall × Except Failure Msg :=
    match decode ber crypto dgram.bytes (some agent.onAuthKey) (some agent.onPrivKey) with
    | .error e => (none, .error e)
    | .ok reqMsg => agent.process reqMsg dgram
  { dgram := dgram
    call := processed.1
    sent := processed.2.bind fun resMsg => encodeResponse ber crypto agent resMsg dgram.salt }

/-- `_receive_loop`, for the datagrams that it receives. -/
def receiveLoop (agent : Agent) (dgrams : List Datagram) : List Handled :=
  dgrams.map (agent.handle ber crypto)

end Agent

end HatDrivers.Snmp
