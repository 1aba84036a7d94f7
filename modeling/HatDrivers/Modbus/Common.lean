import HatDrivers.Modbus.Transport.Common

namespace HatDrivers.Modbus.Common

/-!
# Modbus — requests and responses of masters and slaves
-/

inductive DataType | COIL | DISCRETE_INPUT | HOLDING_REGISTER | INPUT_REGISTER | QUEUE
  deriving DecidableEq

inductive Request
  | ReadReq (deviceId : ℤ) (dataType : DataType) (startAddress quantity : ℤ)
  | WriteReq (deviceId : ℤ) (dataType : DataType) (startAddress : ℤ) (values : List ℤ)
  | WriteMaskReq (deviceId address andMask orMask : ℤ)
  deriving DecidableEq

inductive Response
  | Values (values : List ℤ)
  | Success
  | Error (error : Modbus.Error)
  deriving DecidableEq

def Request.deviceId : Request → ℤ
  | .ReadReq deviceId _ _ _ | .WriteReq deviceId _ _ _ | .WriteMaskReq deviceId _ _ _ => deviceId

/-- A response as a sequence of values; `Success()` is an empty tuple. -/
def Response.toValues : Response → List ℤ
  | .Values values => values
  | .Success | .Error _ => []

end HatDrivers.Modbus.Common
