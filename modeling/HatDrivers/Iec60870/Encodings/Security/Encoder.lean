import HatDrivers.Iec60870.Encodings.Security.Common

namespace HatDrivers.Iec60870.Encodings.Security

open HatDrivers.Lib

/-!
# IEC 60870-5-7 — encoder

`security/encoder.py`: information elements, the segments they are cut into, and
the buffer they are put together in again.  The encoder wraps one of 101 or 104,
which has the field sizes and takes every ASDU that is none of the extension.

The decoder keeps its buffer also when it raises, so its functions return the
buffer next to the result.
-/

/-! ### The encoder inside -/

/-- `iec101.Encoder | iec104.Encoder`. -/
inductive InnerEncoder
  | iec101 (encoder : Iec101.Encoder)
  | iec104
  deriving DecidableEq

namespace InnerEncoder

def causeSize : InnerEncoder → CauseSize
  | .iec101 encoder => encoder.causeSize
  | .iec104 => .TWO

def asduAddressSize : InnerEncoder → AsduAddressSize
  | .iec101 encoder => encoder.asduAddressSize
  | .iec104 => .TWO

def ioAddressSize : InnerEncoder → IoAddressSize
  | .iec101 encoder => encoder.ioAddressSize
  | .iec104 => .THREE

/-- The ASDUs of the encoder. -/
def ASDU : InnerEncoder → Type
  | .iec101 _ => Iec101.ASDU Iec101.AsduType Iec101.IoElement
  | .iec104 => Iec104.ASDU

def decodeAsdu : (encoder : InnerEncoder) → ByteReader Exn encoder.ASDU
  | .iec101 encoder => encoder.decodeAsdu
  | .iec104 => Iec104.decodeAsdu

def encodeAsdu : (encoder : InnerEncoder) → encoder.ASDU → Except Exn Bytes
  | .iec101 encoder => encoder.encodeAsdu
  | .iec104 => Iec104.encodeAsdu

/-- The bytes of type, number of objects, cause and address. -/
def headerSize (encoder : InnerEncoder) : ℕ :=
  2 + encoder.causeSize.value + encoder.asduAddressSize.value

end InnerEncoder

/-- An ASDU of the security extension, or one of the encoder inside. -/
abbrev AnyASDU (encoder : InnerEncoder) := ASDU ⊕ encoder.ASDU

/-! ### Cause and number of objects -/

/-- `_decode_io_count`. -/
def decodeIoCount (asduType : AsduType) : ByteReader Exn ℕ := fun qualifierBytes => do
  let qualifier ← byteAt qualifierBytes 0
  if bit qualifier 0x80 then
    throw (.valueError "invalid qualifier")
  if asduType ≠ .S_IT_TC ∧ qualifier ≠ 1 then
    throw (.valueError "invalid io count")
  return (qualifier, qualifierBytes.drop 1)

def decodeCause (causeBytes : Bytes) (causeSize : CauseSize) : Cause × Bytes :=
  let (cause, rest) := decodeInt causeSize.value causeBytes
  let cause := Iec101.decodeCause cause causeSize
  ({ type := EnumOr.ofNat cause.type.toNat
     isNegativeConfirm := cause.isNegativeConfirm
     isTest := cause.isTest
     originatorAddress := cause.originatorAddress }, rest)

def encodeCause (cause : Cause) (causeSize : CauseSize) : Except Exn (List ℕ) :=
  let cause : Iec101.Cause :=
    { type := .int cause.type.toNat
      isNegativeConfirm := cause.isNegativeConfirm
      isTest := cause.isTest
      originatorAddress := cause.originatorAddress }
  intToBytes (Iec101.encodeCause cause causeSize) causeSize.value

/-! ### Information elements -/

/-- `rest[:size], rest[size:]`. -/
def decodeData (size : ℕ) (data : Bytes) : Bytes × Bytes := (data.take size, data.drop size)

def decodeIoElement (encoder : InnerEncoder) : AsduType → ByteReader Exn IoElement
  | .S_IT_TC => fun ioBytes => do
    let (associationId, rest) := decodeInt 2 ioBytes
    let (value, rest) ← Iec101.decodeBinaryCounterValue rest
    return (.S_IT_TC associationId value, rest)
  | .S_CH_NA => fun ioBytes =>
    let (sequence, rest) := decodeInt 4 ioBytes
    let (user, rest) := decodeInt 2 rest
    let (macAlgorithm, rest) := decodeInt 1 rest
    let (reason, rest) := decodeInt 1 rest
    let (dataLen, rest) := decodeInt 2 rest
    let (data, rest) := decodeData dataLen rest
    return (.S_CH_NA sequence user (EnumOr.ofNat macAlgorithm) reason data, rest)
  | .S_RP_NA => fun ioBytes =>
    let (sequence, rest) := decodeInt 4 ioBytes
    let (user, rest) := decodeInt 2 rest
    let (macLen, rest) := decodeInt 2 rest
    let (mac, rest) := decodeData macLen rest
    return (.S_RP_NA sequence user mac, rest)
  | .S_AR_NA => fun ioBytes => do
    let (_, rest) ← encoder.decodeAsdu ioBytes
    let asduLen := ioBytes.length - rest.length
    let asdu := ioBytes.take asduLen
    let (sequence, rest) := decodeInt 4 rest
    let (user, rest) := decodeInt 2 rest
    return (.S_AR_NA asdu sequence user rest, [])
  | .S_KR_NA => fun ioBytes =>
    let (user, rest) := decodeInt 2 ioBytes
    return (.S_KR_NA user, rest)
  | .S_KS_NA => fun ioBytes =>
    let (sequence, rest) := decodeInt 4 ioBytes
    let (user, rest) := decodeInt 2 rest
    let (keyWrapAlgorithm, rest) := decodeInt 1 rest
    let (keyStatus, rest) := decodeInt 1 rest
    let (macAlgorithm, rest) := decodeInt 1 rest
    let (dataLen, rest) := decodeInt 2 rest
    let (data, rest) := decodeData dataLen rest
    return (.S_KS_NA sequence user (EnumOr.ofNat keyWrapAlgorithm) (EnumOr.ofNat keyStatus)
      (EnumOr.ofNat macAlgorithm) data rest, [])
  | .S_KC_NA => fun ioBytes =>
    let (sequence, rest) := decodeInt 4 ioBytes
    let (user, rest) := decodeInt 2 rest
    let (wrappedKeyLen, rest) := decodeInt 2 rest
    let (wrappedKey, rest) := decodeData wrappedKeyLen rest
    return (.S_KC_NA sequence user wrappedKey, rest)
  | .S_ER_NA => fun ioBytes => do
    let (challengeSequence, rest) := decodeInt 4 ioBytes
    let (keyChangeSequence, rest) := decodeInt 4 rest
    let (user, rest) := decodeInt 2 rest
    let (associationId, rest) := decodeInt 2 rest
    let (code, rest) := decodeInt 1 rest
    let time ← decodeTime rest .SEVEN
    let (textLen, rest) := decodeInt 2 (rest.drop 7)
    let (text, rest) := decodeData textLen rest
    return (.S_ER_NA challengeSequence keyChangeSequence user associationId (EnumOr.ofNat code)
      time text, rest)
  | .S_UC_NA_X => fun ioBytes =>
    let (keyChangeMethod, rest) := decodeInt 1 ioBytes
    let (dataLen, rest) := decodeInt 2 rest
    let (data, rest) := decodeData dataLen rest
    return (.S_UC_NA_X (EnumOr.ofNat keyChangeMethod) data, rest)
  | .S_US_NA => fun ioBytes =>
    let (keyChangeMethod, rest) := decodeInt 1 ioBytes
    let (operation, rest) := decodeInt 1 rest
    let (sequence, rest) := decodeInt 4 rest
    let (role, rest) := decodeInt 2 rest
    let (roleExpiry, rest) := decodeInt 2 rest
    let (nameLen, rest) := decodeInt 2 rest
    let (publicKeyLen, rest) := decodeInt 2 rest
    let (certificationLen, rest) := decodeInt 2 rest
    let (name, rest) := decodeData nameLen rest
    let (publicKey, rest) := decodeData publicKeyLen rest
    let (certification, rest) := decodeData certificationLen rest
    return (.S_US_NA (EnumOr.ofNat keyChangeMethod) (EnumOr.ofNat operation) sequence
      (EnumOr.ofNat role) roleExpiry name publicKey certification, rest)
  | .S_UQ_NA => fun ioBytes =>
    let (keyChangeMethod, rest) := decodeInt 1 ioBytes
    let (nameLen, rest) := decodeInt 2 rest
    let (dataLen, rest) := decodeInt 2 rest
    let (name, rest) := decodeData nameLen rest
    let (data, rest) := decodeData dataLen rest
    return (.S_UQ_NA (EnumOr.ofNat keyChangeMethod) name data, rest)
  | .S_UR_NA => fun ioBytes =>
    let (sequence, rest) := decodeInt 4 ioBytes
    let (user, rest) := decodeInt 2 rest
    let (dataLen, rest) := decodeInt 2 rest
    let (data, rest) := decodeData dataLen rest
    return (.S_UR_NA sequence user data, rest)
  | .S_UK_NA => fun ioBytes =>
    let (sequence, rest) := decodeInt 4 ioBytes
    let (user, rest) := decodeInt 2 rest
    let (encryptedUpdateKeyLen, rest) := decodeInt 2 rest
    let (encryptedUpdateKey, rest) := decodeData encryptedUpdateKeyLen rest
    return (.S_UK_NA sequence user encryptedUpdateKey rest, [])
  | .S_UA_NA => fun ioBytes =>
    let (sequence, rest) := decodeInt 4 ioBytes
    let (user, rest) := decodeInt 2 rest
    let (encryptedUpdateKeyLen, rest) := decodeInt 2 rest
    let (encryptedUpdateKey, rest) := decodeData encryptedUpdateKeyLen rest
    return (.S_UA_NA sequence user encryptedUpdateKey rest, [])
  | .S_UC_NA => fun ioBytes => return (.S_UC_NA ioBytes, [])

/-- `yield from data`. -/
def encodeData (data : Bytes) : List ℕ := data.map UInt8.toNat

def encodeIoElement : ByteWriter Exn IoElement
  | .S_IT_TC associationId value => do
    return (← intToBytes associationId 2) ++ (← Iec101.encodeBinaryCounterValue value)
  | .S_CH_NA sequence user macAlgorithm reason data => do
    return (← intToBytes sequence 4) ++ (← intToBytes user 2) ++
      (← intToBytes macAlgorithm.toNat 1) ++ (← intToBytes reason 1) ++
      (← intToBytes data.length 2) ++ encodeData data
  | .S_RP_NA sequence user mac => do
    return (← intToBytes sequence 4) ++ (← intToBytes user 2) ++ (← intToBytes mac.length 2) ++
      encodeData mac
  | .S_AR_NA asdu sequence user mac => do
    return encodeData asdu ++ (← intToBytes sequence 4) ++ (← intToBytes user 2) ++ encodeData mac
  | .S_KR_NA user => intToBytes user 2
  | .S_KS_NA sequence user keyWrapAlgorithm keyStatus macAlgorithm data mac => do
    return (← intToBytes sequence 4) ++ (← intToBytes user 2) ++
      (← intToBytes keyWrapAlgorithm.toNat 1) ++ (← intToBytes keyStatus.toNat 1) ++
      (← intToBytes macAlgorithm.toNat 1) ++ (← intToBytes data.length 2) ++ encodeData data ++
      encodeData mac
  | .S_KC_NA sequence user wrappedKey => do
    return (← intToBytes sequence 4) ++ (← intToBytes user 2) ++
      (← intToBytes wrappedKey.length 2) ++ encodeData wrappedKey
  | .S_ER_NA challengeSequence keyChangeSequence user associationId code time text => do
    return (← intToBytes challengeSequence 4) ++ (← intToBytes keyChangeSequence 4) ++
      (← intToBytes user 2) ++ (← intToBytes associationId 2) ++ (← intToBytes code.toNat 1) ++
      (← encodeTime time .SEVEN) ++ (← intToBytes text.length 2) ++ encodeData text
  | .S_UC_NA_X keyChangeMethod data => do
    return (← intToBytes keyChangeMethod.toNat 1) ++ (← intToBytes data.length 2) ++
      encodeData data
  | .S_US_NA keyChangeMethod operation sequence role roleExpiry name publicKey certification => do
    return (← intToBytes keyChangeMethod.toNat 1) ++ (← intToBytes operation.toNat 1) ++
      (← intToBytes sequence 4) ++ (← intToBytes role.toNat 2) ++ (← intToBytes roleExpiry 2) ++
      (← intToBytes name.length 2) ++ (← intToBytes publicKey.length 2) ++
      (← intToBytes certification.length 2) ++ encodeData name ++ encodeData publicKey ++
      encodeData certification
  | .S_UQ_NA keyChangeMethod name data => do
    return (← intToBytes keyChangeMethod.toNat 1) ++ (← intToBytes name.length 2) ++
      (← intToBytes data.length 2) ++ encodeData name ++ encodeData data
  | .S_UR_NA sequence user data => do
    return (← intToBytes sequence 4) ++ (← intToBytes user 2) ++ (← intToBytes data.length 2) ++
      encodeData data
  | .S_UK_NA sequence user encryptedUpdateKey mac => do
    return (← intToBytes sequence 4) ++ (← intToBytes user 2) ++
      (← intToBytes encryptedUpdateKey.length 2) ++ encodeData encryptedUpdateKey ++
      encodeData mac
  | .S_UA_NA sequence user encryptedUpdateKey signature => do
    return (← intToBytes sequence 4) ++ (← intToBytes user 2) ++
      (← intToBytes encryptedUpdateKey.length 2) ++ encodeData encryptedUpdateKey ++
      encodeData signature
  | .S_UC_NA mac => return encodeData mac

/-! ### Decoding -/

/-- `_Buffer`: the segments of a message so far. -/
structure Buffer where
  asduType : AsduType
  cause : Cause
  asduAddress : ℕ
  prevFirst : Bool
  prevSegment : ℕ
  prevIoBytes : Bytes
  allIoBytes : Bytes
  deriving DecidableEq

/-- A result, or the exception raised, and the buffer that is left. -/
abbrev Decoded (α : Type) := Except Exn (α × Bytes) × Option Buffer

def unsegmentedAsduTypes : List AsduType := [.S_IT_TC, .S_KR_NA]

/-- `_decode_unsegmented_io`, which first discards the buffer. -/
def decodeUnsegmentedIo (encoder : InnerEncoder) (asduType : AsduType) : ByteReader Exn Io :=
  fun ioBytes =>
    if asduType = .S_IT_TC then do
      let (ioAddress, rest) := decodeInt encoder.ioAddressSize.value ioBytes
      let (element, rest) ← decodeIoElement encoder asduType rest
      let time ← decodeTime rest .SEVEN
      return ({ address := some ioAddress, element, time := some time }, rest.drop 7)
    else do
      let (element, rest) ← decodeIoElement encoder asduType ioBytes
      return ({ address := none, element, time := none }, rest)

/-- A segment of an ASDU: what the buffer is compared with, and its part of the element. -/
structure Segment where
  asduType : AsduType
  cause : Cause
  asduAddress : ℕ
  first : Bool
  last : Bool
  segment : ℕ
  rest : Bytes
  deriving DecidableEq

/-- The buffer of a first segment. -/
def Segment.buffer (s : Segment) : Buffer where
  asduType := s.asduType
  cause := s.cause
  asduAddress := s.asduAddress
  prevFirst := s.first
  prevSegment := s.segment
  prevIoBytes := s.rest
  allIoBytes := s.rest

/-- The buffer with one more segment. -/
def Buffer.append (buffer : Buffer) (s : Segment) : Buffer :=
  { buffer with
    prevFirst := s.first
    prevSegment := s.segment
    prevIoBytes := s.rest
    allIoBytes := buffer.allIoBytes ++ s.rest }

/-- The buffer with a segment in it; or, if the segment is discarded, what is left of the buffer. -/
def takeSegment (buffer : Option Buffer) (s : Segment) : Except (Option Buffer) Buffer :=
  if s.first then .ok s.buffer
  else
    match buffer with
    | none => .error none
    | some buffer =>
      if buffer.asduType ≠ s.asduType then .error none
      else if buffer.cause ≠ s.cause then .error none
      else if buffer.asduAddress ≠ s.asduAddress then .error none
      else if (buffer.prevSegment + 1) % 64 ≠ s.segment then
        if buffer.prevFirst = s.first ∧ buffer.prevSegment = s.segment ∧
            buffer.prevIoBytes = s.rest then
          .error (some buffer)
        else .error none
      else .ok (buffer.append s)

/-- The qualifier of a segment and what follows it. -/
def readSegment (asduType : AsduType) (cause : Cause) (asduAddress : ℕ) (ioBytes : Bytes) :
    Except Exn Segment := do
  let qualifier ← byteAt ioBytes 0
  return { asduType, cause, asduAddress, first := bit qualifier 0x40, last := bit qualifier 0x80,
           segment := qualifier &&& 0x3F, rest := ioBytes.drop 1 }

/-- `_decode_segmented_io`, once the qualifier is read. -/
def decodeSegment (encoder : InnerEncoder) (s : Segment) (buffer : Option Buffer) :
    Decoded (Option Io) :=
  match takeSegment buffer s with
  | .error buffer => (.ok (none, []), buffer)
  | .ok buffer =>
    if s.last then
      (do
        let (element, rest) ← decodeIoElement encoder s.asduType buffer.allIoBytes
        return (some { address := none, element, time := none }, rest), none)
    else (.ok (none, []), some buffer)

def decodeSegmentedIo (encoder : InnerEncoder) (asduType : AsduType) (cause : Cause)
    (asduAddress : ℕ) (ioBytes : Bytes) (buffer : Option Buffer) : Decoded (Option Io) :=
  match readSegment asduType cause asduAddress ioBytes with
  | .error e => (.error e, buffer)
  | .ok s => decodeSegment encoder s buffer

/-- One round of the loop of `_decode_asdu`. -/
def decodeIo (encoder : InnerEncoder) (asduType : AsduType) (cause : Cause) (asduAddress : ℕ)
    (ioBytes : Bytes) (buffer : Option Buffer) : Decoded (Option Io) :=
  if asduType ∈ unsegmentedAsduTypes then
    (mapRead some (decodeUnsegmentedIo encoder asduType) ioBytes, none)
  else decodeSegmentedIo encoder asduType cause asduAddress ioBytes buffer

def decodeIos (encoder : InnerEncoder) (asduType : AsduType) (cause : Cause) (asduAddress : ℕ) :
    ℕ → Bytes → Option Buffer → Decoded (List Io)
  | 0, rest, buffer => (.ok ([], rest), buffer)
  | ioCount + 1, rest, buffer =>
    match decodeIo encoder asduType cause asduAddress rest buffer with
    | (.error e, buffer) => (.error e, buffer)
    | (.ok (io, rest), buffer) =>
      match decodeIos encoder asduType cause asduAddress ioCount rest buffer with
      | (.error e, buffer) => (.error e, buffer)
      | (.ok (ios, rest), buffer) => (.ok (io.toList ++ ios, rest), buffer)

/-- Number of objects, cause and address of an ASDU. -/
def decodeHeader (encoder : InnerEncoder) (asduType : AsduType) :
    ByteReader Exn (ℕ × Cause × ℕ) := fun asduBytes => do
  let (ioCount, rest) ← decodeIoCount asduType (asduBytes.drop 1)
  let (cause, rest) := decodeCause rest encoder.causeSize
  let (asduAddress, rest) := decodeInt encoder.asduAddressSize.value rest
  return ((ioCount, cause, asduAddress), rest)

/-- `_decode_asdu`. -/
def decodeSecurityAsdu (encoder : InnerEncoder) (asduType : AsduType) (asduBytes : Bytes)
    (buffer : Option Buffer) : Decoded (Option ASDU) :=
  match decodeHeader encoder asduType asduBytes with
  | .error e => (.error e, buffer)
  | .ok ((ioCount, cause, asduAddress), rest) =>
    match decodeIos encoder asduType cause asduAddress ioCount rest buffer with
    | (.error e, buffer) => (.error e, buffer)
    | (.ok (ios, rest), buffer) =>
      if asduType ≠ .S_IT_TC ∧ ios = [] then (.ok (none, rest), buffer)
      else (.ok (some { type := asduType, cause, address := asduAddress, ios }, rest), buffer)

def decodeAsdu (encoder : InnerEncoder) (asduBytes : Bytes) (buffer : Option Buffer) :
    Decoded (Option (AnyASDU encoder)) :=
  match byteAt asduBytes 0 with
  | .error e => (.error e, buffer)
  | .ok asduType =>
    match Enumeration.ofValue? asduType with
    | some asduType =>
      let (result, buffer) := decodeSecurityAsdu encoder asduType asduBytes buffer
      (do
        let (asdu, rest) ← result
        return (asdu.map .inl, rest), buffer)
    | none => (mapRead (fun asdu => some (.inr asdu)) encoder.decodeAsdu asduBytes, none)

/-- The results of successive calls of `decode_asdu`, and the buffer after them. -/
def decodeAll (encoder : InnerEncoder) :
    List Bytes → Option Buffer →
      List (Except Exn (Option (AnyASDU encoder) × Bytes)) × Option Buffer
  | [], buffer => ([], buffer)
  | asduBytes :: inputs, buffer =>
    let (result, buffer) := decodeAsdu encoder asduBytes buffer
    let (results, buffer) := decodeAll encoder inputs buffer
    (result :: results, buffer)

/-! ### Encoding -/

/-- The encoder, with room for at least one byte in a segment. -/
structure Encoder where
  encoder : InnerEncoder
  maxAsduSize : ℕ
  header_lt : encoder.headerSize + 1 < maxAsduSize

def encodeIoAddress (encoder : InnerEncoder) (io : Io) : Except Exn (List ℕ) :=
  match io.address with
  | some address => intToBytes address encoder.ioAddressSize.value
  | none => .ok []

/-- The parts of an object, one after the other. -/
def encodeIo (encoder : InnerEncoder) : ByteWriter Exn Io := fun io => do
  let address ← encodeIoAddress encoder io
  let element ← encodeIoElement io.element
  let time ←
    match io.time with
    | some time => encodeTime time .SEVEN
    | none => .ok []
  return address ++ element ++ time

/-- The bytes every segment starts with. -/
def encodeIdentifier (encoder : InnerEncoder) (asdu : ASDU) : Except Exn (List ℕ) := do
  let cause ← encodeCause asdu.cause encoder.causeSize
  let address ← intToBytes asdu.address encoder.asduAddressSize.value
  return [asdu.type.value, asdu.ios.length] ++ cause ++ address

/-- The byte in front of the data of a segment. -/
def segmentQualifier (first last : Bool) (segment : ℕ) : ℕ :=
  (if first then 0x40 else 0) ||| (if last then 0x80 else 0) ||| segment

/-- The loop of `_encode_asdu`, for at most `fuel` segments. -/
def encodeSegments (identifier : List ℕ) (maxSize : ℕ) :
    ℕ → Bool → ℕ → Bytes → Except Exn (List Bytes)
  | 0, _, _, _ => .ok []
  | fuel + 1, first, segment, rest =>
    if rest = [] then .ok []
    else do
      let data := rest.take maxSize
      let rest := rest.drop maxSize
      let last := rest.isEmpty
      let bytes ← toBytes (identifier ++ [segmentQualifier first last segment] ++ encodeData data)
      let segments ← encodeSegments identifier maxSize fuel false ((segment + 1) % 64) rest
      return bytes :: segments

/-- `_encode_asdu`.  The addresses are encoded before anything else of the objects;
every segment takes a byte of the objects at least. -/
def encodeSecurityAsdu (e : Encoder) (asdu : ASDU) : Except Exn (List Bytes) := do
  let identifier ← encodeIdentifier e.encoder asdu
  let _ ← asdu.ios.mapM (encodeIoAddress e.encoder)
  let rest ← writeAll (encodeIo e.encoder) asdu.ios
  if asdu.type ∈ unsegmentedAsduTypes then
    return [← toBytes (identifier ++ rest)]
  else
    let rest ← toBytes rest
    let maxSize := e.maxAsduSize - identifier.length - 1
    encodeSegments identifier maxSize rest.length true 0 rest

def Encoder.encodeAsdu (e : Encoder) : AnyASDU e.encoder → Except Exn (List Bytes)
  | .inl asdu => encodeSecurityAsdu e asdu
  | .inr asdu => do return [← e.encoder.encodeAsdu asdu]

end HatDrivers.Iec60870.Encodings.Security
