import HatDrivers.Snmp.Agent

namespace HatDrivers.Snmp

open HatDrivers.Lib
open Asn1 (Ber)

/-!
# SNMP driver — trap listener

The receive loop of a trap listener: it decodes a datagram and calls the callback of its version
and kind; an inform is responded to.  A key of a user is made of the password for the engine of
the message at hand.  That the listener keeps the keys it made is left out: they would be made
anew as they are.
-/

/-- What a callback does: a trap callback's value is of no use. -/
inductive NotifyOutcome
  | returns (error : Option Error)
  | raises
  deriving DecidableEq

/-- A call of a trap or inform callback. -/
inductive NotifyCall
  | v1Trap (addr : Address) (community : String) (trap : Trap)
  | v2cTrap (addr : Address) (community : String) (trap : Trap)
  | v2cInform (addr : Address) (community : String) (inform : Inform)
  | v3Trap (addr : Address) (user : String) (context : Context) (trap : Trap)
  | v3Inform (addr : Address) (user : String) (context : Context) (inform : Inform)
  deriving DecidableEq

/-- A datagram that a listener receives, and what it finds in its environment. -/
structure Notification where
  bytes : Bytes
  addr : Address
  /-- what the callback does, if one is called -/
  outcome : NotifyOutcome
  salt : Salt

structure TrapListener where
  /-- `_v1_trap_cb is not None` -/
  v1TrapCb : Bool
  v2cTrapCb : Bool
  v2cInformCb : Bool
  v3TrapCb : Bool
  v3InformCb : Bool
  users : String → Option User

namespace TrapListener

variable (ber : Ber) (crypto : Crypto)

/-! ### Users -/

/-- A round of the loop of `__init__`. -/
def addUser (listener : TrapListener) (user : User) : Except Failure TrapListener := do
  validateUser user
  return { listener with users := Function.update listener.users user.name (some user) }

/-- A listener for the kinds of notifications that it has callbacks for. -/
def create (v1TrapCb v2cTrapCb v2cInformCb v3TrapCb v3InformCb : Bool) (users : List User) :
    Except Failure TrapListener :=
  users.foldlM addUser
    { v1TrapCb := v1TrapCb
      v2cTrapCb := v2cTrapCb
      v2cInformCb := v2cInformCb
      v3TrapCb := v3TrapCb
      v3InformCb := v3InformCb
      users := fun _ => none }

/-- `_on_auth_key`. -/
def onAuthKey (listener : TrapListener) : KeyCb := fun engineId username =>
  match listener.users username with
  | none => .ok none
  | some user => userKey crypto (user.authType.map authTypeToKeyType) user.authPassword
      (some engineId)

/-- `_on_priv_key`. -/
def onPrivKey (listener : TrapListener) : KeyCb := fun engineId username =>
  match listener.users username with
  | none => .ok none
  | some user => userKey crypto (user.privType.map privTypeToKeyType) user.privPassword
      (some engineId)

/-! ### Notifications -/

/-- The trap of the data of versions 2c and 3. -/
def trapOf : List Data → Except Failure Trap
  | .TimeTicksData _ timestamp :: .ObjectIdData _ oid :: data =>
    .ok { cause := none, oid := oid, timestamp := timestamp, data := data }
  | _ => .error (.exception "invalid trap data")

/-- The call of a callback, and what is returned: a response to an inform. -/
abbrev Processed (M : Type) := Option NotifyCall × Except Failure (Option M)

def Processed.raise {M : Type} (failure : Failure) : Processed M := (none, .error failure)

/-- A trap callback is called, and nothing is sent. -/
def Processed.trap {M : Type} (call : NotifyCall) (outcome : NotifyOutcome) : Processed M :=
  (some call,
    match outcome with
    | .returns _ => .ok none
    | .raises => .error (.exception "callback"))

/-- An inform callback is called, and what it returns is sent. -/
def Processed.inform {M : Type} (call : NotifyCall) (outcome : NotifyOutcome)
    (response : Error → M) : Processed M :=
  (some call,
    match outcome with
    | .returns error => .ok (some (response (error.getD ⟨.NO_ERROR, 0⟩)))
    | .raises => .error (.exception "callback"))

/-- `_process_v1_req_msg` and `_process_v1_trap`. -/
def processV1ReqMsg (listener : TrapListener) (reqMsg : V1.Msg) (dgram : Notification) :
    Processed V1.Msg :=
  match reqMsg.type, reqMsg.pdu with
  | .TRAP, .trap pdu =>
    if ¬ listener.v1TrapCb then .raise (.exception "not accepting V1 trap")
    else
      .trap (.v1Trap dgram.addr reqMsg.community
        { cause := some pdu.cause, oid := pdu.enterprise, timestamp := pdu.timestamp,
          data := pdu.data }) dgram.outcome
  | .TRAP, .basic _ =>
    if ¬ listener.v1TrapCb then .raise (.exception "not accepting V1 trap")
    else .raise .attributeError
  | _, _ => .raise (.exception "invalid request message type")

/-- `_process_v2c_req_msg`, `_process_v2c_trap` and `_process_v2c_inform`. -/
def processV2cReqMsg (listener : TrapListener) (reqMsg : V2c.Msg) (dgram : Notification) :
    Processed V2c.Msg :=
  match reqMsg.type with
  | .SNMPV2_TRAP =>
    if ¬ listener.v2cTrapCb then .raise (.exception "not accepting V2C trap")
    else
      match trapOf reqMsg.pdu.data with
      | .error e => .raise e
      | .ok trap => .trap (.v2cTrap dgram.addr reqMsg.community trap) dgram.outcome
  | .INFORM_REQUEST =>
    if ¬ listener.v2cInformCb then .raise (.exception "not accepting V2C inform")
    else
      .inform (.v2cInform dgram.addr reqMsg.community ⟨reqMsg.pdu.data⟩) dgram.outcome fun error =>
        { type := .RESPONSE
          community := reqMsg.community
          pdu := .basic
            { requestId := reqMsg.pdu.requestId, error := error, data := reqMsg.pdu.data } }
  | _ => .raise (.exception "invalid request message type")

/-- The response to an inform. -/
def responseV3 (reqMsg : V3.Msg) (error : Error) : V3.Msg where
  type := .RESPONSE
  id := reqMsg.id
  reportable := false
  auth := reqMsg.auth
  priv := reqMsg.priv
  authorativeEngine := reqMsg.authorativeEngine
  user := reqMsg.user
  context := reqMsg.context
  pdu := .basic { requestId := reqMsg.pdu.requestId, error := error, data := reqMsg.pdu.data }

/-- `_process_v3_req_msg`, `_process_v3_trap` and `_process_v3_inform`. -/
def processV3ReqMsg (listener : TrapListener) (reqMsg : V3.Msg) (dgram : Notification) :
    Processed V3.Msg :=
  match reqMsg.type with
  | .SNMPV2_TRAP =>
    if ¬ listener.v3TrapCb then .raise (.exception "not accepting V3 trap")
    else
      match trapOf reqMsg.pdu.data with
      | .error e => .raise e
      | .ok trap => .trap (.v3Trap dgram.addr reqMsg.user reqMsg.context trap) dgram.outcome
  | .INFORM_REQUEST =>
    if ¬ listener.v3InformCb then .raise (.exception "not accepting V3 inform")
    else
      .inform (.v3Inform dgram.addr reqMsg.user reqMsg.context ⟨reqMsg.pdu.data⟩) dgram.outcome
        (responseV3 reqMsg)
  | _ => .raise (.exception "invalid request message type")

/-- The processing of a message of any version. -/
def process (listener : TrapListener) (reqMsg : Msg) (dgram : Notification) : Processed Msg :=
  match reqMsg with
  | .v1 msg => (listener.processV1ReqMsg msg dgram).map id (Except.map (Option.map .v1))
  | .v2c msg => (listener.processV2cReqMsg msg dgram).map id (Except.map (Option.map .v2c))
  | .v3 msg => (listener.processV3ReqMsg msg dgram).map id (Except.map (Option.map .v3))

/-- The bytes of a response. -/
def encodeResponse (listener : TrapListener) (resMsg : Msg) (salt : Salt) :
    Except Failure Bytes :=
  match resMsg with
  | .v3 msg => do
    let authKey ← (if msg.auth then listener.onAuthKey crypto msg.authorativeEngine.id msg.user
      else .ok none)
    let privKey ← (if msg.priv then listener.onPrivKey crypto msg.authorativeEngine.id msg.user
      else .ok none)
    encode ber crypto salt (.v3 msg) authKey privKey
  | msg => encode ber crypto salt msg none none

/-- A datagram, the call that was made for it, and what was sent in response or why nothing was. -/
structure Handled where
  dgram : Notification
  call : Option NotifyCall
  sent : Except Failure (Option Bytes)

/-- `encoder.decode`, with the listener's callbacks. -/
def decodeDgram (listener : TrapListener) (dgram : Notification) : Except Failure Msg :=
  decode ber crypto dgram.bytes (some (listener.onAuthKey crypto))
    (some (listener.onPrivKey crypto))

/-- A round of `_receive_loop`. -/
def handle (listener : TrapListener) (dgram : Notification) : Handled :=
  let processed : Processed Msg :=
    match listener.decodeDgram ber crypto dgram with
    | .error e => .raise e
    | .ok reqMsg => listener.process reqMsg dgram
  { dgram := dgram
    call := processed.1
    sent := processed.2.bind fun resMsg =>
      match resMsg with
      | none => .ok none
      | some resMsg => (listener.encodeResponse ber crypto resMsg dgram.salt).map some }

/-- `_receive_loop`, for the datagrams that it receives. -/
def receiveLoop (listener : TrapListener) (dgrams : List Notification) : List Handled :=
  dgrams.map (listener.handle ber crypto)

end TrapListener

end HatDrivers.Snmp
