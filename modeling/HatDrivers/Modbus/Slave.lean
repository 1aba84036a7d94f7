import HatDrivers.Lib.Transition
import HatDrivers.Modbus.Common
import HatDrivers.Modbus.Transport.Connection

namespace HatDrivers.Modbus

open HatDrivers.Lib

/-!
# Modbus — slave

The receive loop of a slave takes one frame after the other off its link, has the callback
answer the request, and writes the response.  What goes wrong with one frame (it cannot be
decoded, the callback raises, the response cannot be encoded) is logged, and the loop goes on
with the next.

The callback may keep a state of its own, and do what it likes with it.
-/

def getPduFunctionCode : Pdu → FunctionCode
  | .res (.ErrorRes fc _) => fc
  | .req (.ReadCoilsReq _ _) | .res (.ReadCoilsRes _) => .READ_COILS
  | .req (.ReadDiscreteInputsReq _ _) | .res (.ReadDiscreteInputsRes _) => .READ_DISCRETE_INPUTS
  | .req (.ReadHoldingRegistersReq _ _) | .res (.ReadHoldingRegistersRes _) =>
    .READ_HOLDING_REGISTERS
  | .req (.ReadInputRegistersReq _ _) | .res (.ReadInputRegistersRes _) => .READ_INPUT_REGISTERS
  | .req (.WriteSingleCoilReq _ _) | .res (.WriteSingleCoilRes _ _) => .WRITE_SINGLE_COIL
  | .req (.WriteSingleRegisterReq _ _) | .res (.WriteSingleRegisterRes _ _) =>
    .WRITE_SINGLE_REGISTER
  | .req (.WriteMultipleCoilsReq _ _) | .res (.WriteMultipleCoilsRes _ _) => .WRITE_MULTIPLE_COILS
  | .req (.WriteMultipleRegistersReq _ _) | .res (.WriteMultipleRegistersRes _ _) =>
    .WRITE_MULTIPLE_REGISTER
  | .req (.MaskWriteRegisterReq _ _ _) | .res (.MaskWriteRegisterRes _ _ _) =>
    .MASK_WRITE_REGISTER
  | .req (.ReadFifoQueueReq _) | .res (.ReadFifoQueueRes _) => .READ_FIFO_QUEUE

def Adu.deviceId : Adu → ℤ
  | .TcpAdu _ deviceId _ | .RtuAdu deviceId _ | .AsciiAdu deviceId _ => deviceId

/-- The transaction id, of a TCP ADU. -/
def Adu.transactionId : Adu → Option ℤ
  | .TcpAdu transactionId _ _ => some transactionId
  | .RtuAdu _ _ | .AsciiAdu _ _ => none

/-- An ADU with the header of another one. -/
def Adu.reply : Adu → Pdu → Adu
  | .TcpAdu transactionId deviceId _, pdu => .TcpAdu transactionId deviceId pdu
  | .RtuAdu deviceId _, pdu => .RtuAdu deviceId pdu
  | .AsciiAdu deviceId _, pdu => .AsciiAdu deviceId pdu

/-- The request that the callback is called with. -/
def Request.toCommon (deviceId : ℤ) : Request → Common.Request
  | .ReadCoilsReq address quantity => .ReadReq deviceId .COIL address quantity
  | .ReadDiscreteInputsReq address quantity => .ReadReq deviceId .DISCRETE_INPUT address quantity
  | .ReadHoldingRegistersReq address quantity =>
    .ReadReq deviceId .HOLDING_REGISTER address quantity
  | .ReadInputRegistersReq address quantity => .ReadReq deviceId .INPUT_REGISTER address quantity
  | .WriteSingleCoilReq address value => .WriteReq deviceId .COIL address [value]
  | .WriteSingleRegisterReq address value => .WriteReq deviceId .HOLDING_REGISTER address [value]
  | .WriteMultipleCoilsReq address values => .WriteReq deviceId .COIL address values
  | .WriteMultipleRegistersReq address values =>
    .WriteReq deviceId .HOLDING_REGISTER address values
  | .MaskWriteRegisterReq address andMask orMask => .WriteMaskReq deviceId address andMask orMask
  | .ReadFifoQueueReq address => .ReadReq deviceId .QUEUE address 0

/-- The response to a request, out of what the callback returned. -/
def Request.response (req : Request) : Common.Response → Response
  | .Error error => .ErrorRes (getPduFunctionCode (.req req)) error
  | res =>
    match req with
    | .ReadCoilsReq _ _ => .ReadCoilsRes res.toValues
    | .ReadDiscreteInputsReq _ _ => .ReadDiscreteInputsRes res.toValues
    | .ReadHoldingRegistersReq _ _ => .ReadHoldingRegistersRes res.toValues
    | .ReadInputRegistersReq _ _ => .ReadInputRegistersRes res.toValues
    | .WriteSingleCoilReq address value => .WriteSingleCoilRes address value
    | .WriteSingleRegisterReq address value => .WriteSingleRegisterRes address value
    | .WriteMultipleCoilsReq address values => .WriteMultipleCoilsRes address values.length
    | .WriteMultipleRegistersReq address values => .WriteMultipleRegistersRes address values.length
    | .MaskWriteRegisterReq address andMask orMask => .MaskWriteRegisterRes address andMask orMask
    | .ReadFifoQueueReq _ => .ReadFifoQueueRes res.toValues

/-- A callback with a state: what it returns or raises, and its next state. -/
abbrev RequestCb (σ : Type) := σ → Common.Request → Except Exn (Option Common.Response) × σ

/-- What a slave did so far. -/
structure Served (σ : Type) where
  /-- the state of the callback -/
  state : σ
  /-- history: the requests that the callback was called with -/
  requests : List Common.Request
  written : List Bytes
  deriving DecidableEq

structure Slave (σ : Type) where
  modbusType : ModbusType
  requestCb : Option (RequestCb σ)
  isOpen : Bool
  /-- history: the bytes that arrived -/
  arrived : Bytes
  /-- those of them that were not read -/
  stream : Bytes
  served : Served σ

inductive SlaveEvent
  /-- bytes arrive -/
  | arrive (data : Bytes)
  /-- the receive loop takes a frame, and is done with it -/
  | next
  | close

variable {σ : Type}

namespace Served

/-- `_process_request`. -/
def processRequest (requestCb : Option (RequestCb σ)) (s : Served σ) (deviceId : ℤ)
    (req : Request) : Except Exn (Option Response) × Served σ :=
  match requestCb with
  | none => (.ok none, s)
  | some requestCb =>
    let (res, state) := requestCb s.state (req.toCommon deviceId)
    (res.map fun res => res.map req.response,
      { s with state := state, requests := s.requests ++ [req.toCommon deviceId] })

/-- `self._conn.send(res_adu)`, or a warning. -/
def send (s : Served σ) (adu : Adu) : Served σ :=
  match encodeAdu adu with
  | .ok data => { s with written := s.written ++ [data] }
  | .error _ => s

/-- What the loop does with a frame that it received. -/
def answer (requestCb : Option (RequestCb σ)) (s : Served σ) (adu : Adu) : Served σ :=
  match adu.pdu with
  -- `TypeError('unsupported request')`
  | .res _ => s
  | .req req =>
    match s.processRequest requestCb adu.deviceId req with
    | (.ok (some res), s) => s.send (adu.reply (.res res))
    | (.ok none, s) => s
    | (.error _, s) => s

/-- A frame that cannot be decoded is skipped. -/
def receive (requestCb : Option (RequestCb σ)) (s : Served σ) : Except Exn Adu → Served σ
  | .ok adu => s.answer requestCb adu
  | .error _ => s

end Served

namespace Slave

def init (modbusType : ModbusType) (requestCb : Option (RequestCb σ)) (state : σ) : Slave σ where
  modbusType := modbusType
  requestCb := requestCb
  isOpen := true
  arrived := []
  stream := []
  served := ⟨state, [], []⟩

/-- One iteration of the loop, if a frame has arrived. -/
def next (s : Slave σ) : Option (Slave σ) :=
  (takeMessage (getNextAduSize s.modbusType .REQUEST) (decodeAdu s.modbusType .REQUEST)
    s.stream).map fun p => { s with stream := p.2, served := s.served.receive s.requestCb p.1 }

def step (s : Slave σ) : SlaveEvent → Option (Slave σ)
  | .arrive data =>
    if s.isOpen then some { s with arrived := s.arrived ++ data, stream := s.stream ++ data }
    else none
  | .next => if s.isOpen then s.next else none
  | .close => if s.isOpen then some { s with isOpen := false } else none

end Slave

/-! ### What the slave does with a frame -/

/-- What is written for a request, out of what the callback returned or raised. -/
def Adu.replies (adu : Adu) (req : Request) : Except Exn (Option Common.Response) → List Bytes
  | .ok (some res) => (encodeAdu (adu.reply (.res (req.response res)))).toOption.toList
  | _ => []

theorem Served.send_eq (s : Served σ) (adu : Adu) :
    s.send adu = { s with written := s.written ++ (encodeAdu adu).toOption.toList } := by
  unfold Served.send
  cases encodeAdu adu with
  | error e => simp [Except.toOption]
  | ok data => rfl

/-- A request is handed to the callback, and answered by one frame if the callback returned a
response that can be encoded. -/
theorem Served.answer_eq (requestCb : RequestCb σ) (s : Served σ) {adu : Adu} {req : Request}
    (hadu : adu.pdu = .req req) : s.answer (some requestCb) adu =
      ⟨(requestCb s.state (req.toCommon adu.deviceId)).2,
        s.requests ++ [req.toCommon adu.deviceId],
        s.written ++ adu.replies req (requestCb s.state (req.toCommon adu.deviceId)).1⟩ := by
  cases hres : requestCb s.state (req.toCommon adu.deviceId) with
  | mk res state =>
    simp only [Served.answer, hadu, Served.processRequest, hres]
    cases res with
    | error e => simp [Except.map, Adu.replies]
    | ok res =>
      cases res with
      | none => simp [Except.map, Adu.replies]
      | some res => simp only [Except.map, Option.map_some, Served.send_eq, Adu.replies]

end HatDrivers.Modbus
