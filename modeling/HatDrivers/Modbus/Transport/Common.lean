import HatDrivers.Basic

namespace HatDrivers.Modbus

/-!
# Modbus — protocol data units

Requests and responses of every function code, and the application data units of
the three framings.  Fields are any integers: the encoder checks the ranges.
-/

inductive ModbusType | TCP | RTU | ASCII
  deriving DecidableEq

inductive Direction | REQUEST | RESPONSE
  deriving DecidableEq

inductive Error
  | INVALID_FUNCTION_CODE | INVALID_DATA_ADDRESS | INVALID_DATA_VALUE | FUNCTION_ERROR
  | GATEWAY_PATH_UNAVAILABLE | GATEWAY_TARGET_DEVICE_FAILED_TO_RESPOND
  deriving DecidableEq

def Error.value : Error → ℕ
  | .INVALID_FUNCTION_CODE => 0x01
  | .INVALID_DATA_ADDRESS => 0x02
  | .INVALID_DATA_VALUE => 0x03
  | .FUNCTION_ERROR => 0x04
  | .GATEWAY_PATH_UNAVAILABLE => 0x0a
  | .GATEWAY_TARGET_DEVICE_FAILED_TO_RESPOND => 0x0b

instance : Enumeration Error where
  name := "Error"
  value := Error.value
  members :=
    [.INVALID_FUNCTION_CODE, .INVALID_DATA_ADDRESS, .INVALID_DATA_VALUE, .FUNCTION_ERROR,
     .GATEWAY_PATH_UNAVAILABLE, .GATEWAY_TARGET_DEVICE_FAILED_TO_RESPOND]
  find_value e := by cases e <;> rfl

inductive FunctionCode
  | READ_COILS | READ_DISCRETE_INPUTS | READ_HOLDING_REGISTERS | READ_INPUT_REGISTERS
  | WRITE_SINGLE_COIL | WRITE_SINGLE_REGISTER | WRITE_MULTIPLE_COILS | WRITE_MULTIPLE_REGISTER
  | MASK_WRITE_REGISTER | READ_FIFO_QUEUE
  deriving DecidableEq

def FunctionCode.value : FunctionCode → ℕ
  | .READ_COILS => 1
  | .READ_DISCRETE_INPUTS => 2
  | .READ_HOLDING_REGISTERS => 3
  | .READ_INPUT_REGISTERS => 4
  | .WRITE_SINGLE_COIL => 5
  | .WRITE_SINGLE_REGISTER => 6
  | .WRITE_MULTIPLE_COILS => 15
  | .WRITE_MULTIPLE_REGISTER => 16
  | .MASK_WRITE_REGISTER => 22
  | .READ_FIFO_QUEUE => 24

instance : Enumeration FunctionCode where
  name := "FunctionCode"
  value := FunctionCode.value
  members :=
    [.READ_COILS, .READ_DISCRETE_INPUTS, .READ_HOLDING_REGISTERS, .READ_INPUT_REGISTERS,
     .WRITE_SINGLE_COIL, .WRITE_SINGLE_REGISTER, .WRITE_MULTIPLE_COILS, .WRITE_MULTIPLE_REGISTER,
     .MASK_WRITE_REGISTER, .READ_FIFO_QUEUE]
  find_value e := by cases e <;> rfl

inductive Request
  | ReadCoilsReq (address quantity : ℤ)
  | ReadDiscreteInputsReq (address quantity : ℤ)
  | ReadHoldingRegistersReq (address quantity : ℤ)
  | ReadInputRegistersReq (address quantity : ℤ)
  | WriteSingleCoilReq (address value : ℤ)
  | WriteSingleRegisterReq (address value : ℤ)
  | WriteMultipleCoilsReq (address : ℤ) (values : List ℤ)
  | WriteMultipleRegistersReq (address : ℤ) (values : List ℤ)
  | MaskWriteRegisterReq (address andMask orMask : ℤ)
  | ReadFifoQueueReq (address : ℤ)
  deriving DecidableEq

inductive Response
  | ErrorRes (fc : FunctionCode) (error : Error)
  | ReadCoilsRes (values : List ℤ)
  | ReadDiscreteInputsRes (values : List ℤ)
  | ReadHoldingRegistersRes (values : List ℤ)
  | ReadInputRegistersRes (values : List ℤ)
  | WriteSingleCoilRes (address value : ℤ)
  | WriteSingleRegisterRes (address value : ℤ)
  | WriteMultipleCoilsRes (address quantity : ℤ)
  | WriteMultipleRegistersRes (address quantity : ℤ)
  | MaskWriteRegisterRes (address andMask orMask : ℤ)
  | ReadFifoQueueRes (values : List ℤ)
  deriving DecidableEq

inductive Pdu
  | req (req : Request)
  | res (res : Response)
  deriving DecidableEq

inductive Adu
  | TcpAdu (transactionId deviceId : ℤ) (pdu : Pdu)
  | RtuAdu (deviceId : ℤ) (pdu : Pdu)
  | AsciiAdu (deviceId : ℤ) (pdu : Pdu)
  deriving DecidableEq

/-- The framing of an ADU. -/
def Adu.modbusType : Adu → ModbusType
  | .TcpAdu .. => .TCP
  | .RtuAdu .. => .RTU
  | .AsciiAdu .. => .ASCII

def Adu.pdu : Adu → Pdu
  | .TcpAdu _ _ pdu | .RtuAdu _ pdu | .AsciiAdu _ pdu => pdu

/-- The direction a PDU is sent in. -/
def Pdu.direction : Pdu → Direction
  | .req _ => .REQUEST
  | .res _ => .RESPONSE

end HatDrivers.Modbus
