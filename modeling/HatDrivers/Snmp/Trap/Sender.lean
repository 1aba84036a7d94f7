import HatDrivers.Snmp.Manager
import HatDrivers.Snmp.Trap.Listener

namespace HatDrivers.Snmp

open HatDrivers.Lib
open Asn1 (Ber)

/-!
# SNMP driver — trap senders

The senders of versions 2c and 3: what `send_trap` and `send_inform` put on the wire, and what the
receive loops do with a datagram.  The senders are open; an inform that waits is in the tables of
`Exchange`, and nothing waits for a trap.
-/

/-- A call of `send_trap` or of `send_inform`. -/
inductive SenderCall
  | trap (trap : Trap)
  | inform (inform : Inform)
  deriving DecidableEq

namespace SenderCall

def isInform : SenderCall → Bool
  | trap _ => false
  | inform _ => true

/-- The message type of a call, as for version 3. -/
def type : SenderCall → Asn1.V2c.MsgType
  | trap _ => .SNMPV2_TRAP
  | inform _ => .INFORM_REQUEST

/-- The data of a call: those of a trap follow its timestamp and its identifier. -/
def data : SenderCall → List Data
  | trap t =>
    .TimeTicksData [1, 3, 6, 1, 2, 1, 1, 3, 0] t.timestamp ::
      .ObjectIdData [1, 3, 6, 1, 6, 3, 1, 1, 4, 1, 0] t.oid :: t.data
  | inform i => i.data

/-- The PDU of a call, as for version 3. -/
def pdu (requestId : ℕ) (call : SenderCall) : V2c.Pdu :=
  .basic { requestId := requestId, error := ⟨.NO_ERROR, 0⟩, data := call.data }

end SenderCall

/-- `res` of the receive loops. -/
def informResult (error : Error) : Option Error :=
  if error.type = .NO_ERROR then none else some error

/-! ### Version 2c -/

namespace V2c

/-- `V2CTrapSender`. -/
structure TrapSender where
  community : String
  nextRequestId : ℕ

def TrapSender.init (community : String) : TrapSender where
  community := community
  nextRequestId := 1

namespace TrapSender

def message (sender : TrapSender) (call : SenderCall) : Msg where
  type := call.type
  community := sender.community
  pdu := call.pdu sender.nextRequestId

variable (ber : Ber) (crypto : Crypto)

/-- `send_trap`, and `send_inform` up to where it waits. -/
def send (sender : TrapSender) (call : SenderCall) (env : Env) :
    TrapSender × Except Failure (Bool × Bytes) :=
  ({ sender with nextRequestId := sender.nextRequestId + 1 },
    (encode ber crypto env.salt (.v2c (sender.message call)) none none).map fun bs =>
      (call.isInform, bs))

/-- A round of `_receive_loop`, with what is told of the requests: whether they wait. -/
def accept (sender : TrapSender) (waits : ℕ → Option Bool) (msgBytes : Bytes) :
    Option (ℕ × Option Error) :=
  match decode ber crypto msgBytes none none with
  | .ok (.v2c msg) =>
    if msg.type ≠ .RESPONSE then none
    else if msg.community ≠ sender.community then none
    else
      match msg.pdu with
      | .basic pdu => do
        let id ← idOf pdu.requestId
        guard (waits id = some true)
        return (id, informResult pdu.error)
      | .bulk _ => none
  | _ => none

end TrapSender

end V2c

/-! ### Version 3 -/

namespace V3

/-- `V3TrapSender`. -/
structure TrapSender where
  authoritativeEngineId : EngineId
  context : Option Context
  user : User
  nextRequestId : ℕ
  authKey : Option Key
  privKey : Option Key

namespace TrapSender

def create (crypto : Crypto) (authoritativeEngineId : EngineId) (context : Option Context)
    (user : User) : Except Failure TrapSender := do
  validateUser user
  let authKey ← userKey crypto (user.authType.map authTypeToKeyType) user.authPassword
    (some authoritativeEngineId)
  let privKey ← userKey crypto (user.privType.map privTypeToKeyType) user.privPassword
    (some authoritativeEngineId)
  return { authoritativeEngineId := authoritativeEngineId, context := context, user := user,
           nextRequestId := 1, authKey := authKey, privKey := privKey }

def message (sender : TrapSender) (call : SenderCall) (context : Context) (time : ℤ) : Msg where
  type := call.type
  id := sender.nextRequestId
  reportable := false
  auth := sender.authKey.isSome
  priv := sender.privKey.isSome
  authorativeEngine := { id := sender.authoritativeEngineId, boots := 0, time := time }
  user := sender.user.name
  context := context
  pdu := call.pdu sender.nextRequestId

variable (ber : Ber) (crypto : Crypto)

/-- `send_trap`, and `send_inform` up to where it waits. -/
def send (sender : TrapSender) (call : SenderCall) (env : Env) :
    TrapSender × Except Failure (Option Msg × Bytes) :=
  let sent :=
    match sender.context with
    -- `self.authoritative_engine_id` is not an attribute of the sender
    | none => .error .attributeError
    | some context =>
      let msg := sender.message call context env.time
      (encode ber crypto env.salt (.v3 msg) sender.authKey sender.privKey).map fun bs =>
        (if call.isInform then some msg else none, bs)
  ({ sender with nextRequestId := sender.nextRequestId + 1 }, sent)

/-- `_on_auth_key`. -/
def onAuthKey (sender : TrapSender) : KeyCb := fun engineId username =>
  if engineId ≠ sender.authoritativeEngineId ∨ username ≠ sender.user.name then .ok none
  else .ok sender.authKey

/-- `_on_priv_key`. -/
def onPrivKey (sender : TrapSender) : KeyCb := fun engineId username =>
  if engineId ≠ sender.authoritativeEngineId ∨ username ≠ sender.user.name then .ok none
  else .ok sender.privKey

/-- The result of a response to an inform. -/
def resultOf (resMsg reqMsg : Msg) : Option (Option Error) :=
  if resMsg.auth ≠ reqMsg.auth then none
  else if resMsg.priv ≠ reqMsg.priv then none
  else if resMsg.context ≠ reqMsg.context then none
  else
    match resMsg.pdu with
    | .basic pdu => some (informResult pdu.error)
    | .bulk _ => none

/-- A round of `_receive_loop`, with the messages of the requests that wait. -/
def accept (sender : TrapSender) (reqMsgs : ℕ → Option (Option Msg)) (msgBytes : Bytes) :
    Option (ℕ × Option Error) :=
  match decode ber crypto msgBytes (some sender.onAuthKey) (some sender.onPrivKey) with
  | .ok (.v3 resMsg) =>
    if resMsg.type ≠ .RESPONSE then none
    else do
      let id ← idOf resMsg.id
      let reqMsg ← (reqMsgs id).join
      let res ← resultOf resMsg reqMsg
      return (id, res)
  | _ => none

end TrapSender

end V3

/-! ### Senders and a listener -/

section

variable (ber : Ber) (crypto : Crypto) (listener : TrapListener) (addr : Address)

/-- What the listener does with a datagram of a sender. -/
def TrapListener.serve (msgBytes : Bytes) (outcome : NotifyOutcome) (env : Env) :
    Option NotifyCall × Except Failure (Option Bytes) :=
  let handled := listener.handle ber crypto
    { bytes := msgBytes, addr := addr, outcome := outcome, salt := env.salt }
  (handled.call, handled.sent)

def V2c.notification : Exchange V2c.TrapSender SenderCall Bool NotifyOutcome NotifyCall
    (Option Error) Env Bytes Failure where
  next := V2c.TrapSender.nextRequestId
  send := V2c.TrapSender.send ber crypto
  serve := listener.serve ber crypto addr
  accept sender waits msgBytes := (sender, sender.accept ber crypto waits msgBytes)

def V3.notification : Exchange V3.TrapSender SenderCall (Option V3.Msg) NotifyOutcome NotifyCall
    (Option Error) Env Bytes Failure where
  next := V3.TrapSender.nextRequestId
  send := V3.TrapSender.send ber crypto
  serve := listener.serve ber crypto addr
  accept sender reqMsgs msgBytes := (sender, sender.accept ber crypto reqMsgs msgBytes)

end

end HatDrivers.Snmp
