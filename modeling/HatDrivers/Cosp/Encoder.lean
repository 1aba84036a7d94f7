import HatDrivers.Cosp.Common
import HatDrivers.Lib.ReadWhile

namespace HatDrivers.Cosp

open HatDrivers.Lib

/-!
# COSP — encoder

An SPDU is its type, the length of its parameters, the parameters, and its data.  A parameter has
a code and a length, and one of them has parameters of its own.  Lengths are given in one byte, or
in two bytes behind `0xFF`.
-/

/-! ### Encoder -/

/-- What `buff.extend(ns)` adds to a buffer. -/
def extend (ns : List ℕ) : Except Exn Bytes :=
  if AllBytes ns then .ok (bytesOf ns) else .error (.valueError "byte must be in range(0, 256)")

/-- The length of `li` bytes. -/
def encodeLength (li : ℕ) : Except Exn Bytes :=
  if li < 0xFF then extend [li] else extend [0xFF, li >>> 8, li &&& 0xFF]

def encodeParam (code : ℕ) (data : List ℕ) : Except Exn Bytes := do
  let length ← encodeLength data.length
  let data ← extend data
  return UInt8.ofNat code :: (length ++ data)

/-- `x.to_bytes(2, 'big')`. -/
def uint16Bytes (x : ℕ) : Except Exn (List ℕ) :=
  if x < 256 ^ 2 then .ok (beDigits 2 x) else .error .overflowError

/-- The parameter of a value that is not `None`. -/
def encodeOptional {α : Type} (code : ℕ) (data : α → Except Exn (List ℕ)) :
    Option α → Except Exn Bytes
  | none => .ok []
  | some a => do encodeParam code (← data a)

def boolBytes (b : Bool) : Except Exn (List ℕ) := .ok [if b then 1 else 0]

def intBytes (n : ℕ) : Except Exn (List ℕ) := .ok [n]

def plainBytes (bs : Bytes) : Except Exn (List ℕ) := .ok (bs.map UInt8.toNat)

def enclosureBytes (enclosure : Bool × Bool) : Except Exn (List ℕ) :=
  .ok [(if enclosure.1 then 1 else 0) ||| (if enclosure.2 then 2 else 0)]

/-- `beginning` and `end`, if neither is `None`. -/
def Parameters.enclosure (p : Parameters) : Option (Bool × Bool) :=
  match p.beginning, p.end_ with
  | some beginning, some end_ => some (beginning, end_)
  | _, _ => none

/-- `conn_acc`. -/
def encodeConnAcc (p : Parameters) : Except Exn Bytes := do
  let extendedSpdus ← encodeOptional 19 boolBytes p.extendedSpdus
  let versionNumber ← encodeOptional 22 intBytes p.versionNumber
  return extendedSpdus ++ versionNumber

/-- The parameter of `conn_acc`, if there is anything in it. -/
def encodeGroup (connAcc : Bytes) : Except Exn Bytes :=
  if connAcc = [] then .ok [] else encodeParam 5 (connAcc.map UInt8.toNat)

def encodeParams (p : Parameters) : Except Exn Bytes := do
  let connAcc ← encodeConnAcc p
  let group ← encodeGroup connAcc
  let transportDisconnect ← encodeOptional 17 boolBytes p.transportDisconnect
  let requirements ← encodeOptional 20 plainBytes p.requirements
  let enclosure ← encodeOptional 25 enclosureBytes p.enclosure
  let callingSsel ← encodeOptional 51 uint16Bytes p.callingSsel
  let calledSsel ← encodeOptional 52 uint16Bytes p.calledSsel
  let userData ← encodeOptional 193 plainBytes p.userData
  return group ++ (transportDisconnect ++ (requirements ++ (enclosure ++ (callingSsel ++
    (calledSsel ++ userData)))))

def encode (spdu : Spdu) : Except Exn Bytes := do
  let params ← encodeParams spdu.toParameters
  let length ← encodeLength params.length
  return UInt8.ofNat spdu.type.value :: (length ++ (params ++ spdu.data))

/-! ### Decoder -/

def decodeLength : ByteReader Exn ℕ := fun data => do
  let first ← byteAt data 0
  if first ≠ 0xFF then return (first, data.drop 1)
  return (((← byteAt data 1) <<< 8) ||| (← byteAt data 2), data.drop 3)

/-- The code of a parameter and what it carries. -/
def decodeParam : ByteReader Exn (ℕ × Bytes) := fun data => do
  let code ← byteAt data 0
  let (length, data) ← decodeLength (data.drop 1)
  return ((code, data.take length), data.drop length)

/-- An iteration of a loop over parameters, each of which changes what is known by `set`. -/
def readParam (set : Parameters → ℕ → Bytes → Except Exn Parameters) (p : Parameters) :
    ByteReader Exn Parameters := fun params => do
  let ((code, param), params) ← decodeParam params
  let p ← set p code param
  return (p, params)

/-- A parameter of the group. -/
def Parameters.setConnAcc (p : Parameters) (code : ℕ) (param : Bytes) : Except Exn Parameters :=
  if code = 19 then do return { p with extendedSpdus := some ((← byteAt param 0) != 0) }
  else if code = 22 then do return { p with versionNumber := some (← byteAt param 0) }
  else .ok p

def Parameters.set (p : Parameters) (code : ℕ) (param : Bytes) : Except Exn Parameters :=
  if code = 5 then readWhile (readParam setConnAcc) p param
  else if code = 17 then do return { p with transportDisconnect := some ((← byteAt param 0) != 0) }
  else if code = 20 then .ok { p with requirements := some param }
  else if code = 25 then do
    let flags ← byteAt param 0
    return { p with beginning := some (bit flags 1), end_ := some (bit flags 2) }
  else if code = 51 then .ok { p with callingSsel := some (ofBE param) }
  else if code = 52 then .ok { p with calledSsel := some (ofBE param) }
  else if code = 193 then .ok { p with userData := some param }
  else .ok p

/-- The SPDU after the give-tokens SPDU, if there is one. -/
def skipGiveTokens (data : Bytes) : Bytes :=
  if data.take giveTokensSpduBytes.length = giveTokensSpduBytes then
    data.drop giveTokensSpduBytes.length
  else data

def decode (data : Bytes) : Except Exn Spdu := do
  let data := skipGiveTokens data
  let spduType ← Enumeration.ofValue (← byteAt data 0)
  let (paramsLength, data) ← decodeLength (data.drop 1)
  let p ← readWhile (readParam Parameters.set) .empty (data.take paramsLength)
  return { p with type := spduType, data := data.drop paramsLength }

end HatDrivers.Cosp
