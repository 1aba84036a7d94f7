import HatDrivers.Basic

namespace HatDrivers.Iec60870.Link

open HatDrivers.Lib

/-!
# Link layer — frames
-/

inductive AddressSize
  | ZERO
  | ONE
  | TWO
  deriving DecidableEq

def AddressSize.value : AddressSize → ℕ
  | .ZERO => 0
  | .ONE => 1
  | .TWO => 2

inductive Direction
  | B_TO_A
  | A_TO_B
  deriving DecidableEq

def Direction.value : Direction → ℕ
  | .B_TO_A => 0
  | .A_TO_B => 1

inductive ReqFunction
  | RESET_LINK
  | RESET_PROCESS
  | TEST
  | DATA
  | DATA_NO_RES
  | REQ_ACCESS_DEMAND
  | REQ_STATUS
  | REQ_DATA_1
  | REQ_DATA_2
  deriving DecidableEq

def ReqFunction.value : ReqFunction → ℕ
  | .RESET_LINK => 0
  | .RESET_PROCESS => 1
  | .TEST => 2
  | .DATA => 3
  | .DATA_NO_RES => 4
  | .REQ_ACCESS_DEMAND => 8
  | .REQ_STATUS => 9
  | .REQ_DATA_1 => 10
  | .REQ_DATA_2 => 11

inductive ResFunction
  | ACK
  | NACK
  | RES_DATA
  | RES_NACK
  | RES_STATUS
  | NOT_FUNCTIONING
  | NOT_IMPLEMENTED
  deriving DecidableEq

def ResFunction.value : ResFunction → ℕ
  | .ACK => 0
  | .NACK => 1
  | .RES_DATA => 8
  | .RES_NACK => 9
  | .RES_STATUS => 11
  | .NOT_FUNCTIONING => 14
  | .NOT_IMPLEMENTED => 15

def ResFunction.name : ResFunction → String
  | .ACK => "ACK"
  | .NACK => "NACK"
  | .RES_DATA => "RES_DATA"
  | .RES_NACK => "RES_NACK"
  | .RES_STATUS => "RES_STATUS"
  | .NOT_FUNCTIONING => "NOT_FUNCTIONING"
  | .NOT_IMPLEMENTED => "NOT_IMPLEMENTED"

instance : Enumeration Direction where
  name := "Direction"
  members := [.B_TO_A, .A_TO_B]
  value := Direction.value
  find_value e := by cases e <;> rfl

instance : Enumeration ReqFunction where
  name := "ReqFunction"
  members := [.RESET_LINK, .RESET_PROCESS, .TEST, .DATA, .DATA_NO_RES, .REQ_ACCESS_DEMAND,
    .REQ_STATUS, .REQ_DATA_1, .REQ_DATA_2]
  value := ReqFunction.value
  find_value e := by cases e <;> rfl

instance : Enumeration ResFunction where
  name := "ResFunction"
  members := [.ACK, .NACK, .RES_DATA, .RES_NACK, .RES_STATUS, .NOT_FUNCTIONING,
    .NOT_IMPLEMENTED]
  value := ResFunction.value
  find_value e := by cases e <;> rfl

structure ReqFrame where
  direction : Option Direction
  frameCountBit : Bool
  frameCountValid : Bool
  function : ReqFunction
  address : ℕ
  data : Bytes
  deriving DecidableEq

structure ResFrame where
  direction : Option Direction
  accessDemand : Bool
  dataFlowControl : Bool
  function : ResFunction
  address : ℕ
  data : Bytes
  deriving DecidableEq

inductive Frame
  | ReqFrame (frame : ReqFrame)
  | ResFrame (frame : ResFrame)
  | ShortFrame
  deriving DecidableEq

def getBroadcastAddress : AddressSize → Except Exn ℕ
  | .ONE => .ok 0xFF
  | .TWO => .ok 0xFFFF
  | .ZERO => .error (.valueError "unsupported address size")

end HatDrivers.Iec60870.Link
