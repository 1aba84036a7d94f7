import HatDrivers.Basic

namespace HatDrivers.Cosp

open HatDrivers.Lib

/-!
# COSP — SPDUs
-/

inductive SpduType
  | CN
  | AC
  | RF
  | FN
  | DN
  | NF
  | AB
  | DT
  deriving DecidableEq

def SpduType.value : SpduType → ℕ
  | .CN => 13
  | .AC => 14
  | .RF => 12
  | .FN => 9
  | .DN => 10
  | .NF => 8
  | .AB => 25
  | .DT => 1

instance : Enumeration SpduType where
  name := "SpduType"
  members := [.CN, .AC, .RF, .FN, .DN, .NF, .AB, .DT]
  value := SpduType.value
  find_value e := by cases e <;> rfl

/-- The parameters of an SPDU. -/
structure Parameters where
  extendedSpdus : Option Bool
  versionNumber : Option ℕ
  transportDisconnect : Option Bool
  requirements : Option Bytes
  beginning : Option Bool
  end_ : Option Bool
  callingSsel : Option ℕ
  calledSsel : Option ℕ
  userData : Option Bytes
  deriving DecidableEq

def Parameters.empty : Parameters := ⟨none, none, none, none, none, none, none, none, none⟩

structure Spdu extends Parameters where
  type : SpduType
  data : Bytes
  deriving DecidableEq

def giveTokensSpduBytes : Bytes := [1, 0]

end HatDrivers.Cosp
