import HatDrivers.Basic

namespace HatDrivers.Cotp

open HatDrivers.Lib

/-!
# COTP — TPDUs
-/

inductive TpduType
  | DT
  | CR
  | CC
  | DR
  | ER
  deriving DecidableEq

def TpduType.value : TpduType → ℕ
  | .DT => 0xF0
  | .CR => 0xE0
  | .CC => 0xD0
  | .DR => 0x80
  | .ER => 0x70

instance : Enumeration TpduType where
  name := "TpduType"
  members := [.DT, .CR, .CC, .DR, .ER]
  value := TpduType.value
  find_value e := by cases e <;> rfl

/-- Data TPDU. -/
structure DT where
  /-- end of transmission flag -/
  eot : Bool
  data : Bytes
  deriving DecidableEq

/-- Connection request TPDU. -/
structure CR where
  src : ℕ
  cls : ℕ
  callingTsel : Option ℕ
  calledTsel : Option ℕ
  maxTpdu : Option ℕ
  prefMaxTpdu : Option ℕ
  deriving DecidableEq

/-- Connection confirm TPDU. -/
structure CC where
  dst : ℕ
  src : ℕ
  cls : ℕ
  callingTsel : Option ℕ
  calledTsel : Option ℕ
  maxTpdu : Option ℕ
  prefMaxTpdu : Option ℕ
  deriving DecidableEq

/-- Disconnect request TPDU. -/
structure DR where
  dst : ℕ
  src : ℕ
  reason : ℕ
  deriving DecidableEq

/-- Error TPDU. -/
structure ER where
  dst : ℕ
  cause : ℕ
  deriving DecidableEq

inductive Tpdu
  | DT (tpdu : DT)
  | CR (tpdu : CR)
  | CC (tpdu : CC)
  | DR (tpdu : DR)
  | ER (tpdu : ER)
  deriving DecidableEq

def Tpdu.type : Tpdu → TpduType
  | .DT _ => .DT
  | .CR _ => .CR
  | .CC _ => .CC
  | .DR _ => .DR
  | .ER _ => .ER

end HatDrivers.Cotp
