import HatDrivers.Modbus.Slave

namespace HatDrivers.Modbus

open HatDrivers.Lib

/-!
# Modbus — master

`send` makes a PDU of a request, has it written in an ADU, takes the first ADU that comes back
with the header and function code of the request, and makes a response of its PDU.
-/

namespace Master

/-- The PDU of a request. -/
def requestPdu : Common.Request → Except Exn Request
  | .ReadReq _ .COIL startAddress quantity => .ok (.ReadCoilsReq startAddress quantity)
  | .ReadReq _ .DISCRETE_INPUT startAddress quantity =>
    .ok (.ReadDiscreteInputsReq startAddress quantity)
  | .ReadReq _ .HOLDING_REGISTER startAddress quantity =>
    .ok (.ReadHoldingRegistersReq startAddress quantity)
  | .ReadReq _ .INPUT_REGISTER startAddress quantity =>
    .ok (.ReadInputRegistersReq startAddress quantity)
  | .ReadReq _ .QUEUE startAddress _ => .ok (.ReadFifoQueueReq startAddress)
  | .WriteReq _ .COIL startAddress [value] => .ok (.WriteSingleCoilReq startAddress value)
  | .WriteReq _ .COIL startAddress values => .ok (.WriteMultipleCoilsReq startAddress values)
  | .WriteReq _ .HOLDING_REGISTER startAddress [value] =>
    .ok (.WriteSingleRegisterReq startAddress value)
  | .WriteReq _ .HOLDING_REGISTER startAddress values =>
    .ok (.WriteMultipleRegistersReq startAddress values)
  | .WriteReq _ _ _ _ => .error (.valueError "unsupported data type")
  | .WriteMaskReq _ address andMask orMask => .ok (.MaskWriteRegisterReq address andMask orMask)

/-- `res_pdu.values[:req.quantity]`, which counts a negative quantity from the end. -/
def takeQuantity (values : List ℤ) (quantity : ℤ) : List ℤ :=
  values.take (if quantity < 0 then values.length + quantity else quantity).toNat

/-- The response to a request, out of the PDU that came back. -/
def response : Common.Request → Response → Except Exn Common.Response
  | _, .ErrorRes _ error => .ok (.Error error)
  | .ReadReq _ _ _ quantity, .ReadCoilsRes values
  | .ReadReq _ _ _ quantity, .ReadDiscreteInputsRes values
  | .ReadReq _ _ _ quantity, .ReadHoldingRegistersRes values
  | .ReadReq _ _ _ quantity, .ReadInputRegistersRes values =>
    .ok (.Values (takeQuantity values quantity))
  | .ReadReq _ _ _ _, .ReadFifoQueueRes values => .ok (.Values values)
  | .WriteReq _ _ startAddress values, .WriteSingleCoilRes address value
  | .WriteReq _ _ startAddress values, .WriteSingleRegisterRes address value =>
    if address ≠ startAddress then .error (.exception "invalid response pdu address")
    else
      match values with
      | [] => .error .indexError
      | value' :: _ =>
        if value ≠ value' then .error (.exception "invalid response pdu value") else .ok .Success
  | .WriteReq _ _ startAddress values, .WriteMultipleCoilsRes address quantity
  | .WriteReq _ _ startAddress values, .WriteMultipleRegistersRes address quantity =>
    if address ≠ startAddress then .error (.exception "invalid response pdu address")
    else if quantity ≠ values.length then .error (.exception "invalid response pdu quantity")
    else .ok .Success
  | .WriteMaskReq _ address andMask orMask, .MaskWriteRegisterRes address' andMask' orMask' =>
    if address' ≠ address then .error (.exception "invalid response pdu address")
    else if andMask' ≠ andMask then .error (.exception "invalid response pdu and mask")
    else if orMask' ≠ orMask then .error (.exception "invalid response pdu or mask")
    else .ok .Success
  | _, _ => .error (.valueError "unsupported response pdu")

def makeAdu (modbusType : ModbusType) (transactionId deviceId : ℤ) (pdu : Pdu) : Adu :=
  match modbusType with
  | .TCP => .TcpAdu transactionId deviceId pdu
  | .RTU => .RtuAdu deviceId pdu
  | .ASCII => .AsciiAdu deviceId pdu

/-- Is an ADU taken for the response to another one? -/
def answers (reqAdu resAdu : Adu) : Bool :=
  resAdu.transactionId = reqAdu.transactionId ∧ resAdu.deviceId = reqAdu.deviceId ∧
    getPduFunctionCode reqAdu.pdu = getPduFunctionCode resAdu.pdu

/-- `_receive` with a bound on its iterations. -/
def receiveFuel (reqAdu : Adu) : ℕ → ByteReader Exn Adu
  | 0 => fun _ => .error .connectionError
  | fuel + 1 => fun stream => do
    let (resAdu, stream) ← Modbus.receive reqAdu.modbusType .RESPONSE stream
    if answers reqAdu resAdu then return (resAdu, stream)
    else receiveFuel reqAdu fuel stream

/-- `_receive`: ADUs that do not answer the request are discarded. -/
def receive (reqAdu : Adu) : ByteReader Exn Adu := fun stream =>
  receiveFuel reqAdu (stream.length + 1) stream

end Master

end HatDrivers.Modbus
