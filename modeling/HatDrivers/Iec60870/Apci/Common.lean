import HatDrivers.Basic

namespace HatDrivers.Iec60870.Apci

open HatDrivers.Lib

/-!
# IEC 60870-5-104 — application protocol control information

The frames of a connection: `I` carries data and both sequence numbers, `S` only
acknowledges, `U` starts, stops and tests the transfer.
-/

inductive ApduFunction
  | TESTFR_CON | TESTFR_ACT | STOPDT_CON | STOPDT_ACT | STARTDT_CON | STARTDT_ACT
  deriving DecidableEq

def ApduFunction.value : ApduFunction → ℕ
  | .TESTFR_CON => 0x83
  | .TESTFR_ACT => 0x43
  | .STOPDT_CON => 0x23
  | .STOPDT_ACT => 0x13
  | .STARTDT_CON => 0x0B
  | .STARTDT_ACT => 0x07

instance : Enumeration ApduFunction where
  name := "ApduFunction"
  value := ApduFunction.value
  members := [.TESTFR_CON, .TESTFR_ACT, .STOPDT_CON, .STOPDT_ACT, .STARTDT_CON, .STARTDT_ACT]
  find_value e := by cases e <;> rfl

inductive Apdu
  | APDUI (ssn rsn : ℕ) (data : Bytes)
  | APDUS (rsn : ℕ)
  | APDUU (function : ApduFunction)
  deriving DecidableEq

/-- Sequence numbers count modulo this. -/
def modulus : ℕ := 0x8000

end HatDrivers.Iec60870.Apci
