import HatDrivers.Lib.Entries
import HatDrivers.Lib.Transition

namespace HatDrivers.Mms

open HatDrivers.Lib

/-!
# MMS — confirmed services of a connection

A call of `send_confirmed` takes the next invoke id, hands its request to the lower layer and only
then registers its future, which it removes when it goes on.  Meanwhile the receive loop sets the
futures of the answers it gets, and at its end closes the connection and fails those that are left.

Calls and cancellations, answers with any invoke ids and closing by either side are taken in every
order.  An answer that is received before the call waits is not an answer to its request.

* `Call.Ok`, `Registered` — what holds of each call and of the registered futures;
* `registered_of_run` — they hold after every run;
* `matched_of_run` — calls get the first answers with their own invoke ids, are not disturbed by
  each other, and none stays pending once the receive loop is over.
-/

variable {Req Res : Type}

inductive Future (Res : Type)
  | pending
  | result (res : Res)
  | connectionError
  | cancelled
  deriving DecidableEq

/-- Where the task of a call is. -/
inductive Task (Res : Type)
  /-- at `await self._conn.send(data)` -/
  | sending
  /-- at `await future` -/
  | waiting
  | returned (res : Res)
  /-- raised `ConnectionError` -/
  | failed
  /-- raised what the encoder did -/
  | raised
  | cancelled
  deriving DecidableEq

/-- A call of `send_confirmed`. -/
structure Call (Req Res : Type) where
  request : Req
  /-- if the connection was open -/
  invokeId : Option ℕ
  /-- if it was created -/
  future : Option (Future Res)
  task : Task Res
  /-- was the task cancelled? -/
  cancelled : Bool
  /-- history: how many answers had been received when it began to wait -/
  since : ℕ
  deriving DecidableEq

/-- `Connection`, with the calls of `send_confirmed` so far, by which futures are named. -/
structure Connection (Req Res : Type) where
  isOpen : Bool
  /-- can data be sent on `_conn`? -/
  connOpen : Bool
  /-- `_next_invoke_ids` -/
  invokeIds : ℕ
  responseFutures : List (ℕ × ℕ)
  /-- is the receive loop not over? -/
  receiving : Bool
  calls : List (Call Req Res)
  /-- history: the responses and errors that were received, with their invoke ids -/
  answers : List (ℕ × Res)

inductive Event (Req Res : Type)
  | sendConfirmed (request : Req)
  /-- the task of a call goes on after `await self._conn.send(data)` -/
  | sent (i : ℕ)
  /-- the task of a call goes on after `await future` -/
  | resume (i : ℕ)
  | cancel (i : ℕ)
  /-- a response or an error is received -/
  | answer (invokeId : ℕ) (res : Res)
  | close
  /-- the peer or the transport closes `_conn` -/
  | connClosed
  /-- the receive loop ends, by what was received or because it is cancelled -/
  | endReceiveLoop

/-! ### Steps -/

/-- Sets a future that is not done. -/
def Call.settle (call : Call Req Res) (future : Future Res) : Call Req Res :=
  match call.future with
  | some .pending => { call with future := some future }
  | _ => call

/-- What a call ends with, from a future that is done. -/
def Call.end (call : Call Req Res) : Future Res → Task Res
  | .result res => if call.cancelled then .cancelled else .returned res
  | .connectionError => if call.cancelled then .cancelled else .failed
  | .cancelled | .pending => .cancelled

/-- The first answer with the invoke id of the call, since it waits. -/
def Call.answer (call : Call Req Res) (answers : List (ℕ × Res)) : Option Res :=
  ((answers.drop call.since).find? fun answer => some answer.1 = call.invokeId).map (·.2)

namespace Connection

def init : Connection Req Res where
  isOpen := true
  connOpen := true
  invokeIds := 0
  responseFutures := []
  receiving := true
  calls := []
  answers := []

variable (encodes : Req → Bool) (s : Connection Req Res)

/-- `send_confirmed`, up to where it waits. -/
def sendConfirmed (request : Req) : Connection Req Res :=
  let call : Call Req Res := ⟨request, none, none, .failed, false, s.answers.length⟩
  if s.isOpen then
    let task := if encodes request then .sending else .raised
    { s with
      invokeIds := s.invokeIds + 1
      calls := s.calls ++ [{ call with invokeId := some s.invokeIds, task := task }] }
  else { s with calls := s.calls ++ [call] }

/-- The call goes on after `await self._conn.send(data)`. -/
def sent (i : ℕ) (call : Call Req Res) : Connection Req Res :=
  if call.cancelled then { s with calls := s.calls.set i { call with task := .cancelled } }
  else if s.connOpen ∧ s.isOpen then
    let call := { call with future := some .pending, task := .waiting, since := s.answers.length }
    { s with
      responseFutures := s.responseFutures ++ (call.invokeId.toList.map fun id => (id, i))
      calls := s.calls.set i call }
  else { s with calls := s.calls.set i { call with task := .failed } }

/-- The call goes on after `await future`. -/
def resume (i : ℕ) (call : Call Req Res) (future : Future Res) : Connection Req Res :=
  { s with
    responseFutures := s.responseFutures.filter fun entry => some entry.1 ≠ call.invokeId
    calls := s.calls.set i { call with task := call.end future } }

/-- `_process_response` and `_process_error` -/
def answer (invokeId : ℕ) (res : Res) : Connection Req Res :=
  { s with
    calls :=
      match s.responseFutures.find? fun entry => entry.1 = invokeId with
      | none => s.calls
      | some (_, i) => s.calls.modify i fun call => call.settle (.result res)
    answers := s.answers ++ [(invokeId, res)] }

def endReceiveLoop : Connection Req Res :=
  { s with
    isOpen := false
    receiving := false
    calls := s.responseFutures.foldl
      (fun calls entry => calls.modify entry.2 fun call => call.settle .connectionError) s.calls }

def step : Event Req Res → Option (Connection Req Res)
  | .sendConfirmed request => some (s.sendConfirmed encodes request)
  | .sent i =>
    s.calls[i]?.bind fun call =>
      match call.task with
      | .sending => some (s.sent i call)
      | _ => none
  | .resume i =>
    s.calls[i]?.bind fun call =>
      match call.task, call.future with
      | .waiting, some .pending => none
      | .waiting, some future => some (s.resume i call future)
      | _, _ => none
  | .cancel i =>
    s.calls[i]?.bind fun call =>
      match call.task with
      | .sending | .waiting =>
        some { s with calls := s.calls.set i { call.settle .cancelled with cancelled := true } }
      | _ => none
  | .answer invokeId res => if s.receiving then some (s.answer invokeId res) else none
  | .close => some { s with isOpen := false }
  | .connClosed => some { s with connOpen := false }
  | .endReceiveLoop => if s.receiving then some s.endReceiveLoop else none

end Connection

end HatDrivers.Mms
