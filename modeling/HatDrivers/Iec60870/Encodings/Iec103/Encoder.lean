import HatDrivers.Iec60870.Encodings.Encoder
import HatDrivers.Iec60870.Encodings.Iec103.Values

namespace HatDrivers.Iec60870.Encodings.Iec103

open HatDrivers.Lib

/-!
# IEC 60870-5-103 encodings — encoder

The information element of every ASDU type, and `Encoder`, which is the generic encoder with the
sequence bit inverted: the ASDU types have no times of their own.
-/

/-! ### Parts of information elements -/

def decodeDescriptiveData : ByteReader Exn DescriptiveData := fun data => do
  let description ← Enumeration.ofValue (← byteAt data 0)
  let (value, data) ← decodeArray (data.drop 1)
  return ({ description, value }, data)

def encodeDescriptiveData : ByteWriter Exn DescriptiveData := fun data => do
  return data.description.value :: (← encodeValue data.value.toValue none)

/-- An identification and what it identifies. -/
def decodeGenericData : ByteReader Exn (Identification × DescriptiveData) := fun data => do
  let (identification, data) ← decodeIdentification data
  let (dataI, data) ← decodeDescriptiveData data
  return ((identification, dataI), data)

def encodeGenericData : ByteWriter Exn (Identification × DescriptiveData) := fun data => do
  return (← encodeValue (.IdentificationValue data.1) none) ++ (← encodeDescriptiveData data.2)

def decodeGenericCommand : ByteReader Exn (Identification × Description) := fun data => do
  let (identification, data) ← decodeIdentification data
  let description ← Enumeration.ofValue (← byteAt data 0)
  return ((identification, description), data.drop 1)

def encodeGenericCommand : ByteWriter Exn (Identification × Description) := fun data => do
  return (← encodeValue (.IdentificationValue data.1) none) ++ [data.2.value]

def decodeTag : ByteReader Exn (IoAddress × DoubleValue) := fun data => do
  let (address, data) ← decodeIoAddressValue data
  let (value, data) ← decodeEnum data
  return ((address, value), data)

def encodeTag : ByteWriter Exn (IoAddress × DoubleValue) := fun tag => do
  return (← encodeValue (.IoAddressValue tag.1) none) ++ (← encodeValue (.DoubleValue tag.2) none)

/-- A disturbance value. -/
def decodeDisturbanceValue : ByteReader Exn ℚ := fun data => do
  return (← decodeFixed (data.take 2) 0 16 true, data.drop 2)

def encodeDisturbanceValue : ByteWriter Exn ℚ := fun value => encodeFixed value 0 16 true

/-- The fields of the three classes of disturbance orders. -/
def decodeOrder : ByteReader Exn (OrderType × ℕ × Channel) := fun ioBytes => do
  let orderType ← Enumeration.ofValue (← byteAt ioBytes 0)
  let faultNumber := intFromBytes (slice ioBytes 2 4)
  let channel ← Enumeration.ofValue (← byteAt ioBytes 4)
  return ((orderType, faultNumber, channel), ioBytes.drop 5)

def encodeOrder (orderType : OrderType) (faultNumber : ℕ) (channel : Channel) :
    Except Exn (List ℕ) := do
  return [orderType.value, 0x01] ++ (← intToBytes faultNumber 2) ++ [channel.value]

/-- The byte of the two flags and the count of generic data. -/
def genericFlags (counter moreFollows : Bool) (count : ℕ) : ℕ :=
  (if moreFollows then 0x80 else 0x00) ||| (if counter then 0x40 else 0x00) ||| (count &&& 0x3F)

/-! ### Information elements -/

def decodeAsduType (asduType : ℕ) : Except Exn AsduType :=
  match Enumeration.ofValue? asduType with
  | some asduType => .ok asduType
  | none => .error (.asduTypeError asduType)

def decodeElement : AsduType → ByteReader Exn IoElement
  | .TIME_TAGGED_MESSAGE => mapRead .TIME_TAGGED_MESSAGE decodeDoubleWithTime
  | .TIME_TAGGED_MESSAGE_WITH_RELATIVE_TIME =>
    mapRead .TIME_TAGGED_MESSAGE_WITH_RELATIVE_TIME decodeDoubleWithRelativeTime
  | .MEASURANDS_1 => mapRead .MEASURANDS_1 decodeMeasurand
  | .TIME_TAGGED_MEASURANDS_WITH_RELATIVE_TIME =>
    mapRead .TIME_TAGGED_MEASURANDS_WITH_RELATIVE_TIME decodeMeasurandWithRelativeTime
  | .IDENTIFICATION => fun ioBytes => do
    let compatibility ← byteAt ioBytes 0
    let value := slice ioBytes 1 9
    let software := slice ioBytes 9 13
    return (.IDENTIFICATION compatibility value software, ioBytes.drop 13)
  | .TIME_SYNCHRONIZATION => fun ioBytes => do
    let time ← decodeTime (ioBytes.take 7) .SEVEN
    return (.TIME_SYNCHRONIZATION time, ioBytes.drop 7)
  | .GENERAL_INTERROGATION => fun ioBytes => do
    return (.GENERAL_INTERROGATION (← byteAt ioBytes 0), ioBytes.drop 1)
  | .GENERAL_INTERROGATION_TERMINATION => fun ioBytes => do
    return (.GENERAL_INTERROGATION_TERMINATION (← byteAt ioBytes 0), ioBytes.drop 1)
  | .MEASURANDS_2 => mapRead .MEASURANDS_2 decodeMeasurand
  | .GENERIC_DATA => fun ioBytes => do
    let returnIdentifier ← byteAt ioBytes 0
    let dataSize := (← byteAt ioBytes 1) &&& 0x3F
    let counter := bit (← byteAt ioBytes 1) 0x40
    let moreFollows := bit (← byteAt ioBytes 1) 0x80
    let (data, ioBytes) ← readN decodeGenericData dataSize (ioBytes.drop 2)
    return (.GENERIC_DATA returnIdentifier counter moreFollows data, ioBytes)
  | .GENERIC_IDENTIFICATION => fun ioBytes => do
    let returnIdentifier ← byteAt ioBytes 0
    let (identification, _) ← decodeIdentification (slice ioBytes 1 3)
    let dataSize := (← byteAt ioBytes 3) &&& 0x3F
    let counter := bit (← byteAt ioBytes 3) 0x40
    let moreFollows := bit (← byteAt ioBytes 3) 0x80
    let (data, ioBytes) ← readN decodeDescriptiveData dataSize (ioBytes.drop 4)
    return (.GENERIC_IDENTIFICATION returnIdentifier identification counter moreFollows data,
      ioBytes)
  | .GENERAL_COMMAND => fun ioBytes => do
    let (value, _) ← decodeEnum ioBytes
    let returnIdentifier ← byteAt ioBytes 1
    return (.GENERAL_COMMAND value returnIdentifier, ioBytes.drop 2)
  | .GENERIC_COMMAND => fun ioBytes => do
    let returnIdentifier ← byteAt ioBytes 0
    let dataSize ← byteAt ioBytes 1
    let (data, ioBytes) ← readN decodeGenericCommand dataSize (ioBytes.drop 2)
    return (.GENERIC_COMMAND returnIdentifier data, ioBytes)
  | .LIST_OF_RECORDED_DISTURBANCES => fun ioBytes => do
    let faultNumber := intFromBytes (ioBytes.take 2)
    let flags ← byteAt ioBytes 2
    let time ← decodeTime (slice ioBytes 3 10) .SEVEN
    return (.LIST_OF_RECORDED_DISTURBANCES faultNumber (bit flags 0x01) (bit flags 0x02)
      (bit flags 0x04) (bit flags 0x08) time, ioBytes.drop 10)
  | .ORDER_FOR_DISTURBANCE_DATA_TRANSMISSION => mapRead
    (fun (orderType, faultNumber, channel) =>
      .ORDER_FOR_DISTURBANCE_DATA_TRANSMISSION orderType faultNumber channel) decodeOrder
  | .ACKNOWLEDGEMENT_FOR_DISTURBANCE_DATA_TRANSMISSION => mapRead
    (fun (orderType, faultNumber, channel) =>
      .ACKNOWLEDGEMENT_FOR_DISTURBANCE_DATA_TRANSMISSION orderType faultNumber channel) decodeOrder
  | .READY_FOR_TRANSMISSION_OF_DISTURBANCE_DATA => fun ioBytes => do
    let faultNumber := intFromBytes (slice ioBytes 1 3)
    let numberOfFaults := intFromBytes (slice ioBytes 3 5)
    let numberOfChannels ← byteAt ioBytes 5
    let numberOfElements := intFromBytes (slice ioBytes 6 8)
    let interval := intFromBytes (slice ioBytes 8 10)
    let time ← decodeTime (slice ioBytes 10 14) .FOUR
    return (.READY_FOR_TRANSMISSION_OF_DISTURBANCE_DATA faultNumber numberOfFaults numberOfChannels
      numberOfElements interval time, ioBytes.drop 14)
  | .READY_FOR_TRANSMISSION_OF_A_CHANNEL => fun ioBytes => do
    let faultNumber := intFromBytes (slice ioBytes 1 3)
    let channel ← Enumeration.ofValue (← byteAt ioBytes 3)
    let (primary, ioBytes) ← decodeReal32 (ioBytes.drop 4)
    let (secondary, ioBytes) ← decodeReal32 ioBytes
    let (reference, ioBytes) ← decodeReal32 ioBytes
    return (.READY_FOR_TRANSMISSION_OF_A_CHANNEL faultNumber channel primary secondary reference,
      ioBytes)
  | .READY_FOR_TRANSMISSION_OF_TAGS => fun ioBytes =>
    return (.READY_FOR_TRANSMISSION_OF_TAGS (intFromBytes (slice ioBytes 2 4)), ioBytes.drop 4)
  | .TRANSMISSION_OF_TAGS => fun ioBytes => do
    let faultNumber := intFromBytes (ioBytes.take 2)
    let valuesSize ← byteAt ioBytes 2
    let tagPosition := intFromBytes (slice ioBytes 3 5)
    let (values, ioBytes) ← readN decodeTag valuesSize (ioBytes.drop 5)
    return (.TRANSMISSION_OF_TAGS faultNumber tagPosition values, ioBytes)
  | .TRANSMISSION_OF_DISTURBANCE_VALUES => fun ioBytes => do
    let faultNumber := intFromBytes (slice ioBytes 1 3)
    let channel ← Enumeration.ofValue (← byteAt ioBytes 3)
    let valuesSize ← byteAt ioBytes 4
    let elementNumber := intFromBytes (slice ioBytes 5 7)
    let (values, ioBytes) ← readN decodeDisturbanceValue valuesSize (ioBytes.drop 7)
    return (.TRANSMISSION_OF_DISTURBANCE_VALUES faultNumber channel elementNumber values, ioBytes)
  | .END_OF_TRANSMISSION => mapRead
    (fun (orderType, faultNumber, channel) => .END_OF_TRANSMISSION orderType faultNumber channel)
    decodeOrder

def decodeIoElement (asduType : ℕ) : ByteReader Exn IoElement := fun ioBytes => do
  decodeElement (← decodeAsduType asduType) ioBytes

/-- An element is written by the branch of its class, which is that of the ASDU type. -/
def encodeElement : ByteWriter Exn IoElement
  | .TIME_TAGGED_MESSAGE value => encodeValue (.DoubleWithTimeValue value) none
  | .TIME_TAGGED_MESSAGE_WITH_RELATIVE_TIME value =>
    encodeValue (.DoubleWithRelativeTimeValue value) none
  | .MEASURANDS_1 value => encodeValue (.MeasurandValue value) none
  | .TIME_TAGGED_MEASURANDS_WITH_RELATIVE_TIME value =>
    encodeValue (.MeasurandWithRelativeTimeValue value) none
  | .IDENTIFICATION compatibility value software =>
    return [compatibility] ++ (value.take 8).map UInt8.toNat ++ zeros (8 - value.length) ++
      (software.take 4).map UInt8.toNat ++ zeros (4 - software.length)
  | .TIME_SYNCHRONIZATION time => encodeTime time .SEVEN
  | .GENERAL_INTERROGATION scanNumber => return [scanNumber]
  | .GENERAL_INTERROGATION_TERMINATION scanNumber => return [scanNumber]
  | .MEASURANDS_2 value => encodeValue (.MeasurandValue value) none
  | .GENERIC_DATA returnIdentifier counter moreFollows data => do
    return [returnIdentifier, genericFlags counter moreFollows data.length] ++
      (← writeAll encodeGenericData data)
  | .GENERIC_IDENTIFICATION returnIdentifier identification counter moreFollows data => do
    return [returnIdentifier] ++ (← encodeValue (.IdentificationValue identification) none) ++
      [genericFlags counter moreFollows data.length] ++ (← writeAll encodeDescriptiveData data)
  | .GENERAL_COMMAND value returnIdentifier => do
    return (← encodeValue (.DoubleValue value) none) ++ [returnIdentifier]
  | .GENERIC_COMMAND returnIdentifier data => do
    return [returnIdentifier, data.length] ++ (← writeAll encodeGenericCommand data)
  | .LIST_OF_RECORDED_DISTURBANCES faultNumber trip transmitted test other time => do
    return (← intToBytes faultNumber 2) ++
      [(if other then 0x08 else 0x00) ||| (if test then 0x04 else 0x00) |||
        (if transmitted then 0x02 else 0x00) ||| (if trip then 0x01 else 0x00)] ++
      (← encodeTime time .SEVEN)
  | .ORDER_FOR_DISTURBANCE_DATA_TRANSMISSION orderType faultNumber channel =>
    encodeOrder orderType faultNumber channel
  | .ACKNOWLEDGEMENT_FOR_DISTURBANCE_DATA_TRANSMISSION orderType faultNumber channel =>
    encodeOrder orderType faultNumber channel
  | .READY_FOR_TRANSMISSION_OF_DISTURBANCE_DATA faultNumber numberOfFaults numberOfChannels
      numberOfElements interval time => do
    return [0x01] ++ (← intToBytes faultNumber 2) ++ (← intToBytes numberOfFaults 2) ++
      [numberOfChannels] ++ (← intToBytes numberOfElements 2) ++ (← intToBytes interval 2) ++
      (← encodeTime time .FOUR)
  | .READY_FOR_TRANSMISSION_OF_A_CHANNEL faultNumber channel primary secondary reference => do
    return [0x01] ++ (← intToBytes faultNumber 2) ++ [channel.value] ++
      (← encodeValue (.Real32Value primary) none) ++
      (← encodeValue (.Real32Value secondary) none) ++
      (← encodeValue (.Real32Value reference) none)
  | .READY_FOR_TRANSMISSION_OF_TAGS faultNumber => do
    return [0x00, 0x00] ++ (← intToBytes faultNumber 2)
  | .TRANSMISSION_OF_TAGS faultNumber tagPosition values => do
    return (← intToBytes faultNumber 2) ++ [values.length] ++ (← intToBytes tagPosition 2) ++
      (← writeAll encodeTag values)
  | .TRANSMISSION_OF_DISTURBANCE_VALUES faultNumber channel elementNumber values => do
    return [0x01] ++ (← intToBytes faultNumber 2) ++ [channel.value, values.length] ++
      (← intToBytes elementNumber 2) ++ (← writeAll encodeDisturbanceValue values)
  | .END_OF_TRANSMISSION orderType faultNumber channel =>
    encodeOrder orderType faultNumber channel

def encodeIoElement (asduType : ℕ) : ByteWriter Exn IoElement := fun element => do
  let _ ← decodeAsduType asduType
  encodeElement element

/-! ### The encoder -/

def decodeIoAddress (ioAddress : ℕ) : IoAddress where
  functionType := ioAddress &&& 0xFF
  informationNumber := ioAddress >>> 8

def encodeIoAddress (ioAddress : IoAddress) : ℕ :=
  ioAddress.functionType ||| (ioAddress.informationNumber <<< 8)

/-- The generic encoder inside. -/
def encoder : Encodings.Encoder IoElement where
  causeSize := .ONE
  asduAddressSize := .ONE
  ioAddressSize := .TWO
  asduTypeTimeSizes := []
  invertedSequenceBit := true
  decodeIoElementCb := decodeIoElement
  encodeIoElementCb := encodeIoElement

def decodeAsdu : ByteReader Exn ASDU := fun asduBytes => do
  let (asdu, rest) ← encoder.decodeAsdu asduBytes
  let asduType ← decodeAsduType asdu.type
  let ios := asdu.ios.map fun io =>
    { address := decodeIoAddress io.address, elements := io.elements : Io }
  return ({ type := asduType, cause := EnumOr.ofNat asdu.cause, address := asdu.address, ios },
    rest)

/-- The ASDU the generic encoder is given. -/
def ASDU.generic (asdu : ASDU) : Encodings.ASDU IoElement where
  type := asdu.type.value
  cause := asdu.cause.toNat
  address := asdu.address
  ios := asdu.ios.map fun io =>
    { address := encodeIoAddress io.address, elements := io.elements, time := none }

def encodeAsdu (asdu : ASDU) : Except Exn Bytes := encoder.encodeAsdu asdu.generic

end HatDrivers.Iec60870.Encodings.Iec103
