import HatDrivers.Lib.Framing
import HatDrivers.Modbus.Transport.Common

namespace HatDrivers.Modbus

open HatDrivers.Lib

/-!
# Modbus — encoder

Three case analyses over the function codes, written separately: the sizes asked
for while a frame is read, the decoder and the encoder.  The two checksums are
computed over the bytes before them.
-/

/-! ### Checksums -/

/-- One of the eight rounds for a byte. -/
def crcRound (crc : ℕ) : ℕ := if crc &&& 1 = 1 then (crc >>> 1) ^^^ 0xA001 else crc >>> 1

def calculateCrc (data : List ℕ) : ℕ := data.foldl (fun crc i => crcRound^[8] (crc ^^^ i)) 0xFFFF

/-- `(~sum(data) + 1) & 0xFF`. -/
def calculateLrc (data : List ℕ) : ℕ := (-(data.sum : ℤ) % 256).toNat

/-! ### Sizes -/

def getNextReqSize (data : Bytes) (offset : ℕ) : Except Exn ℕ := do
  if data.length < offset + 1 then return 1
  let fc : FunctionCode ← Enumeration.ofValue (← byteAt data offset)
  match fc with
  | .READ_COILS | .READ_DISCRETE_INPUTS | .READ_HOLDING_REGISTERS | .READ_INPUT_REGISTERS
  | .WRITE_SINGLE_COIL | .WRITE_SINGLE_REGISTER => return 5
  | .WRITE_MULTIPLE_COILS | .WRITE_MULTIPLE_REGISTER =>
    if data.length < offset + 6 then return 6
    return (← byteAt data (offset + 5)) + 6
  | .MASK_WRITE_REGISTER => return 7
  | .READ_FIFO_QUEUE => return 3

def getNextResSize (data : Bytes) (offset : ℕ) : Except Exn ℕ := do
  if data.length < offset + 1 then return 1
  let code ← byteAt data offset
  if bit code 0x80 then return 2
  let fc : FunctionCode ← Enumeration.ofValue code
  match fc with
  | .READ_COILS | .READ_DISCRETE_INPUTS | .READ_HOLDING_REGISTERS | .READ_INPUT_REGISTERS
  | .READ_FIFO_QUEUE =>
    if data.length < offset + 2 then return 2
    return (← byteAt data (offset + 1)) + 2
  | .WRITE_SINGLE_COIL | .WRITE_SINGLE_REGISTER | .WRITE_MULTIPLE_COILS
  | .WRITE_MULTIPLE_REGISTER => return 5
  | .MASK_WRITE_REGISTER => return 7

def getNextPduSize (direction : Direction) (data : Bytes) (offset : ℕ) : Except Exn ℕ :=
  match direction with
  | .REQUEST => getNextReqSize data offset
  | .RESPONSE => getNextResSize data offset

def getNextTcpAduSize (data : Bytes) : Except Exn ℕ :=
  if data.length < 6 then return 6
  else return ofBE (slice data 4 6) + 6

def getNextRtuAduSize (direction : Direction) (data : Bytes) : Except Exn ℕ := do
  if data.length < 1 then return 1
  let pduSize ← getNextPduSize direction data 1
  return pduSize + 3

/-- The bytes before the first `:`, all of them if there is none. -/
def colonIndex (data : Bytes) : ℕ := data.findIdx (· == 0x3A)

/-- The pairs of bytes before the first pair `\r\n`, in bytes. -/
def crlfIndex : Bytes → ℕ
  | a :: b :: data => if a = 0x0D ∧ b = 0x0A then 0 else crlfIndex data + 2
  | [_] => 2
  | [] => 0

def getNextAsciiAduSize (data : Bytes) : Except Exn ℕ :=
  let size := colonIndex data
  if size ≥ data.length then return size + 1
  else return size + 1 + crlfIndex (data.drop (size + 1)) + 2

def getNextAduSize (modbusType : ModbusType) (direction : Direction) (data : Bytes) :
    Except Exn ℕ :=
  match modbusType with
  | .TCP => getNextTcpAduSize data
  | .RTU => getNextRtuAduSize direction data
  | .ASCII => getNextAsciiAduSize data

/-! ### Decoder -/

/-- `values` of a request to write coils: the bit of each, out of its byte. -/
def requestCoils (bytes : Bytes) (quantity : ℕ) : Except Exn (List ℤ) :=
  (List.range quantity).mapM fun i => do
    return if bit (← byteAt bytes (i / 8)) (1 <<< (i % 8)) then 1 else 0

/-- `values` of a response with coils: the eight bits of every byte. -/
def responseCoils (bytes : Bytes) : List ℤ :=
  bytes.flatMap fun b => (List.range 8).map fun j => (((b.toNat >>> j) &&& 1 : ℕ) : ℤ)

/-- `quantity` registers of two bytes. -/
def registers (bytes : Bytes) (quantity : ℕ) : List ℤ :=
  (List.range quantity).map fun i => (ofBE (slice bytes (i * 2) ((i + 1) * 2)) : ℤ)

/-- `rest[:byte_count]` and what follows. -/
def takeBytes (byteCount : ℕ) : ByteReader Exn Bytes := fun rest =>
  .ok (rest.take byteCount, rest.drop byteCount)

/-- `bool(value)`, an integer. -/
def coil (value : ℤ) : ℤ := if value ≠ 0 then 1 else 0

/-- A byte count, and as many bytes. -/
def decodeCounted : ByteReader Exn Bytes := fun rest => do
  let byteCount ← byteAt rest 0
  takeBytes byteCount (rest.drop 1)

/-- Registers with a byte count, which has to be even. -/
def decodeRegisters : ByteReader Exn (List ℤ) := fun rest => do
  let byteCount ← byteAt rest 0
  if byteCount % 2 ≠ 0 then throw (.exception "invalid number of bytes")
  let (bytes, rest) ← takeBytes byteCount (rest.drop 1)
  return (registers bytes (byteCount / 2), rest)

/-- What follows the function code of a request. -/
def decodeReqFields : FunctionCode → ByteReader Exn Request
  | .READ_COILS => mapRead (fun (address, quantity) => .ReadCoilsReq address quantity)
      (pairRead (unpackUInt 2) (unpackUInt 2))
  | .READ_DISCRETE_INPUTS =>
      mapRead (fun (address, quantity) => .ReadDiscreteInputsReq address quantity)
        (pairRead (unpackUInt 2) (unpackUInt 2))
  | .READ_HOLDING_REGISTERS =>
      mapRead (fun (address, quantity) => .ReadHoldingRegistersReq address quantity)
        (pairRead (unpackUInt 2) (unpackUInt 2))
  | .READ_INPUT_REGISTERS =>
      mapRead (fun (address, quantity) => .ReadInputRegistersReq address quantity)
        (pairRead (unpackUInt 2) (unpackUInt 2))
  | .WRITE_SINGLE_COIL => mapRead (fun (address, value) => .WriteSingleCoilReq address (coil value))
      (pairRead (unpackUInt 2) (unpackUInt 2))
  | .WRITE_SINGLE_REGISTER =>
    mapRead (fun (address, value) => .WriteSingleRegisterReq address value)
      (pairRead (unpackUInt 2) (unpackUInt 2))
  | .WRITE_MULTIPLE_COILS => fun rest => do
    let (((address, quantity), byteCount), rest) ←
      pairRead (pairRead (unpackUInt 2) (unpackUInt 2)) (unpackUInt 1) rest
    let (bytes, rest) ← takeBytes byteCount.toNat rest
    return (.WriteMultipleCoilsReq address (← requestCoils bytes quantity.toNat), rest)
  | .WRITE_MULTIPLE_REGISTER => fun rest => do
    let (((address, quantity), byteCount), rest) ←
      pairRead (pairRead (unpackUInt 2) (unpackUInt 2)) (unpackUInt 1) rest
    let (bytes, rest) ← takeBytes byteCount.toNat rest
    return (.WriteMultipleRegistersReq address (registers bytes quantity.toNat), rest)
  | .MASK_WRITE_REGISTER =>
      mapRead (fun ((address, andMask), orMask) => .MaskWriteRegisterReq address andMask orMask)
        (pairRead (pairRead (unpackUInt 2) (unpackUInt 2)) (unpackUInt 2))
  | .READ_FIFO_QUEUE => mapRead .ReadFifoQueueReq (takeUInt 2)

def decodeReq : ByteReader Exn Request := fun data => do
  let fc ← Enumeration.ofValue (← byteAt data 0)
  decodeReqFields fc (data.drop 1)

/-- What follows the function code of a response without an error. -/
def decodeResFields : FunctionCode → ByteReader Exn Response
  | .READ_COILS => mapRead (fun bytes => .ReadCoilsRes (responseCoils bytes)) decodeCounted
  | .READ_DISCRETE_INPUTS =>
      mapRead (fun bytes => .ReadDiscreteInputsRes (responseCoils bytes)) decodeCounted
  | .READ_HOLDING_REGISTERS => mapRead .ReadHoldingRegistersRes decodeRegisters
  | .READ_INPUT_REGISTERS => mapRead .ReadInputRegistersRes decodeRegisters
  | .WRITE_SINGLE_COIL => mapRead (fun (address, value) => .WriteSingleCoilRes address (coil value))
      (pairRead (takeUInt 2) (takeUInt 2))
  | .WRITE_SINGLE_REGISTER =>
    mapRead (fun (address, value) => .WriteSingleRegisterRes address value)
      (pairRead (takeUInt 2) (takeUInt 2))
  | .WRITE_MULTIPLE_COILS =>
      mapRead (fun (address, quantity) => .WriteMultipleCoilsRes address quantity)
        (pairRead (takeUInt 2) (takeUInt 2))
  | .WRITE_MULTIPLE_REGISTER =>
      mapRead (fun (address, quantity) => .WriteMultipleRegistersRes address quantity)
        (pairRead (takeUInt 2) (takeUInt 2))
  | .MASK_WRITE_REGISTER =>
      mapRead (fun ((address, andMask), orMask) => .MaskWriteRegisterRes address andMask orMask)
        (pairRead (pairRead (unpackUInt 2) (unpackUInt 2)) (unpackUInt 2))
  | .READ_FIFO_QUEUE => mapRead .ReadFifoQueueRes decodeRegisters

def decodeRes : ByteReader Exn Response := fun data => do
  let code ← byteAt data 0
  let fc ← Enumeration.ofValue (code &&& 0x7F)
  let rest := data.drop 1
  if bit code 0x80 then
    let error ← Enumeration.ofValue (← byteAt rest 0)
    return (.ErrorRes fc error, rest.drop 1)
  decodeResFields fc rest

def decodePdu (direction : Direction) : ByteReader Exn Pdu :=
  match direction with
  | .REQUEST => mapRead .req decodeReq
  | .RESPONSE => mapRead .res decodeRes

def decodeTcpAdu (direction : Direction) : ByteReader Exn Adu := fun data => do
  let (((transactionId, identifier), length), rest) ←
    pairRead (pairRead (unpackUInt 2) (unpackUInt 2)) (unpackUInt 2) data
  let (deviceId, rest) ← unpackUInt 1 rest
  if identifier ≠ 0 then throw (.exception "invalid protocol identifier")
  -- a length of zero takes all but the last byte, as a slice does
  let pduSize := if length = 0 then rest.length - 1 else (length - 1).toNat
  let (pdu, _) ← decodePdu direction (rest.take pduSize)
  return (.TcpAdu transactionId deviceId pdu, rest.drop pduSize)

def decodeRtuAdu (direction : Direction) : ByteReader Exn Adu := fun data => do
  let deviceId ← byteAt data 0
  let (pdu, rest) ← decodePdu direction (data.drop 1)
  let crc := ofLE (rest.take 2)
  let rest := rest.drop 2
  let message := data.take (data.length - rest.length - 2)
  if crc ≠ calculateCrc (message.map UInt8.toNat) then
    throw (.exception "CRC didn't match received message")
  return (.RtuAdu deviceId pdu, rest)

/-- The value of a hexadecimal digit. -/
def hexDigit? (b : UInt8) : Option ℕ :=
  if 0x30 ≤ b ∧ b ≤ 0x39 then some (b.toNat - 0x30)
  else if 0x41 ≤ b ∧ b ≤ 0x46 then some (b.toNat - 0x41 + 10)
  else if 0x61 ≤ b ∧ b ≤ 0x66 then some (b.toNat - 0x61 + 10)
  else none

/-- `' \t\n\v\f\r'`, which `int` strips. -/
def isSpace (b : UInt8) : Bool := b == 0x20 || (0x09 ≤ b && b ≤ 0x0D)

/-- `int(str(i, 'ascii'), 16)` of at most two bytes, appended as a byte. -/
def hexByte (i : Bytes) : Except Exn ℕ :=
  match i.filter (!isSpace ·) with
  | [a, b] =>
    match hexDigit? a, hexDigit? b with
    | some x, some y => .ok (x * 16 + y)
    | none, some y =>
      -- a sign before a digit
      if a = 0x2B ∨ (a = 0x2D ∧ y = 0) then .ok y else .error (.valueError "hex")
    | _, none => .error (.valueError "hex")
  | [a] =>
    match hexDigit? a with
    | some x => .ok x
    | none => .error (.valueError "hex")
  | _ => .error (.valueError "hex")

/-- Bytes in pairs of hexadecimal digits up to `\r\n`, and what follows. -/
def decodeHex : Bytes → Except Exn (List ℕ × Bytes)
  | a :: b :: rest =>
    if a = 0x0D ∧ b = 0x0A then .ok ([], rest)
    else do
      let n ← hexByte [a, b]
      let (ns, rest) ← decodeHex rest
      return (n :: ns, rest)
  | [a] => do
    let _ ← hexByte [a]
    .error (.valueError "hex")
  | [] => .error (.valueError "hex")

def decodeAsciiAdu (direction : Direction) : ByteReader Exn Adu := fun data => do
  if colonIndex data ≥ data.length then throw .indexError
  let (aduBytes, rest) ← decodeHex (data.drop (colonIndex data + 1))
  let deviceId ← byteAt (bytesOf aduBytes) 0
  let (pdu, _) ← decodePdu direction (bytesOf (aduBytes.drop 1))
  if aduBytes.getLastD 0 ≠ calculateLrc aduBytes.dropLast then
    throw (.exception "LRC didn't match received message")
  return (.AsciiAdu deviceId pdu, rest)

def decodeAdu (modbusType : ModbusType) (direction : Direction) : ByteReader Exn Adu :=
  match modbusType with
  | .TCP => decodeTcpAdu direction
  | .RTU => decodeRtuAdu direction
  | .ASCII => decodeAsciiAdu direction

/-! ### Encoder -/

/-- The number of bytes of coils. -/
def coilByteCount (quantity : ℕ) : ℕ := quantity / 8 + if quantity % 8 ≠ 0 then 1 else 0

/-- A byte of coils: the bits whose coil is there and set. -/
def coilByte (values : List ℤ) (i : ℕ) : ℕ :=
  (List.range 8).foldl
    (fun dataByte j =>
      if values.length > i * 8 + j ∧ values.getD (i * 8 + j) 0 ≠ 0 then dataByte ||| (1 <<< j)
      else dataByte) 0

def coilBytes (values : List ℤ) : List ℕ :=
  (List.range (coilByteCount values.length)).map (coilByte values)

/-- `(i >> 8) & 0xFF` and `i & 0xFF`, which keep sixteen bits of any integer. -/
def registerBytes (values : List ℤ) : List ℕ :=
  values.flatMap fun i => [(i / 256 % 256).toNat, (i % 256).toNat]

/-- The value a coil is written as. -/
def singleCoil (value : ℤ) : ℤ := if value ≠ 0 then 0xFF00 else 0

/-- A function code and two fields of two bytes. -/
def encodeTwo (fc : FunctionCode) (x y : ℤ) : Except Exn (List ℕ) := do
  return fc.value :: ((← packUInt 2 x) ++ (← packUInt 2 y))

/-- A function code and three fields of two bytes. -/
def encodeThree (fc : FunctionCode) (x y z : ℤ) : Except Exn (List ℕ) := do
  return fc.value :: ((← packUInt 2 x) ++ (← packUInt 2 y) ++ (← packUInt 2 z))

/-- A function code, an address, a quantity, a byte count and the bytes. -/
def encodeMultiple (fc : FunctionCode) (address : ℤ) (quantity : ℕ) (bytes : List ℕ) :
    Except Exn (List ℕ) := do
  return fc.value :: ((← packUInt 2 address) ++ (← packUInt 2 quantity) ++
    (← packUInt 1 bytes.length) ++ bytes)

def encodeReq : Request → Except Exn (List ℕ)
  | .ReadCoilsReq address quantity => encodeTwo .READ_COILS address quantity
  | .ReadDiscreteInputsReq address quantity => encodeTwo .READ_DISCRETE_INPUTS address quantity
  | .ReadHoldingRegistersReq address quantity => encodeTwo .READ_HOLDING_REGISTERS address quantity
  | .ReadInputRegistersReq address quantity => encodeTwo .READ_INPUT_REGISTERS address quantity
  | .WriteSingleCoilReq address value => encodeTwo .WRITE_SINGLE_COIL address (singleCoil value)
  | .WriteSingleRegisterReq address value => encodeTwo .WRITE_SINGLE_REGISTER address value
  | .WriteMultipleCoilsReq address values =>
    encodeMultiple .WRITE_MULTIPLE_COILS address values.length (coilBytes values)
  | .WriteMultipleRegistersReq address values =>
    encodeMultiple .WRITE_MULTIPLE_REGISTER address values.length (registerBytes values)
  | .MaskWriteRegisterReq address andMask orMask =>
    encodeThree .MASK_WRITE_REGISTER address andMask orMask
  | .ReadFifoQueueReq address => do
    return FunctionCode.READ_FIFO_QUEUE.value :: (← packUInt 2 address)

/-- A function code, a byte count and the bytes; a count that is no byte fails later. -/
def encodeCounted (fc : FunctionCode) (bytes : List ℕ) : List ℕ := fc.value :: bytes.length :: bytes

def encodeRes : Response → Except Exn (List ℕ)
  | .ErrorRes fc error => return [fc.value ||| 0x80, error.value]
  | .ReadCoilsRes values => return encodeCounted .READ_COILS (coilBytes values)
  | .ReadDiscreteInputsRes values => return encodeCounted .READ_DISCRETE_INPUTS (coilBytes values)
  | .ReadHoldingRegistersRes values =>
    return encodeCounted .READ_HOLDING_REGISTERS (registerBytes values)
  | .ReadInputRegistersRes values =>
    return encodeCounted .READ_INPUT_REGISTERS (registerBytes values)
  | .WriteSingleCoilRes address value => encodeTwo .WRITE_SINGLE_COIL address (singleCoil value)
  | .WriteSingleRegisterRes address value => encodeTwo .WRITE_SINGLE_REGISTER address value
  | .WriteMultipleCoilsRes address quantity => encodeTwo .WRITE_MULTIPLE_COILS address quantity
  | .WriteMultipleRegistersRes address quantity =>
    encodeTwo .WRITE_MULTIPLE_REGISTER address quantity
  | .MaskWriteRegisterRes address andMask orMask =>
    encodeThree .MASK_WRITE_REGISTER address andMask orMask
  | .ReadFifoQueueRes values => return encodeCounted .READ_FIFO_QUEUE (registerBytes values)

def encodePdu : Pdu → Except Exn (List ℕ)
  | .req req => encodeReq req
  | .res res => encodeRes res

/-- `bytearray.append(device_id)`. -/
def appendDeviceId (deviceId : ℤ) : Except Exn ℕ :=
  if 0 ≤ deviceId ∧ deviceId < 256 then .ok deviceId.toNat
  else .error (.valueError "byte must be in range(0, 256)")

def encodeTcpAdu (transactionId deviceId : ℤ) (pdu : Pdu) : Except Exn Bytes := do
  let pduBytes ← toBytes (← encodePdu pdu)
  let header := (← packUInt 2 transactionId) ++ (← packUInt 2 0) ++
    (← packUInt 2 (pduBytes.length + 1)) ++ (← packUInt 1 deviceId)
  return bytesOf header ++ pduBytes

/-- The device id and the PDU, which the checksums are computed over. -/
def messageBytes (deviceId : ℤ) (pdu : Pdu) : Except Exn (List ℕ) := do
  let deviceId ← appendDeviceId deviceId
  let pdu ← encodePdu pdu
  let _ ← toBytes pdu
  return deviceId :: pdu

def encodeRtuAdu (deviceId : ℤ) (pdu : Pdu) : Except Exn Bytes := do
  let aduBytes ← messageBytes deviceId pdu
  let crcBytes ← intToBytes (calculateCrc aduBytes) 2
  return bytesOf (aduBytes ++ crcBytes)

/-- A digit of `f'{i:02X}'`. -/
def hexChar (x : ℕ) : ℕ := if x < 10 then 0x30 + x else 0x41 + (x - 10)

def encodeAsciiAdu (deviceId : ℤ) (pdu : Pdu) : Except Exn Bytes := do
  let msgBytes ← messageBytes deviceId pdu
  let msgBytes := msgBytes ++ [calculateLrc msgBytes]
  return bytesOf ([0x3A] ++ (msgBytes.flatMap fun i => [hexChar (i / 16), hexChar (i % 16)]) ++
    [0x0D, 0x0A])

def encodeAdu : Adu → Except Exn Bytes
  | .TcpAdu transactionId deviceId pdu => encodeTcpAdu transactionId deviceId pdu
  | .RtuAdu deviceId pdu => encodeRtuAdu deviceId pdu
  | .AsciiAdu deviceId pdu => encodeAsciiAdu deviceId pdu

end HatDrivers.Modbus
