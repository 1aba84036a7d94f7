import HatDrivers.Doubles
import HatDrivers.Mms.Asn1
import HatDrivers.Mms.Common

namespace HatDrivers.Mms

open HatDrivers.Lib

/-!
# MMS — encoder

`encode_request`, `decode_request` and their like, between the values of the driver and those of
the ASN.1 schema.  What is decoded has come through BER, so it is of its type: what remains to
go wrong are octet strings that are too short, and integers that no enumeration has.
-/

/-- `E(n)`. -/
def enumOf {E : Type} [Enumeration E] (n : ℤ) : Except Exn E :=
  if 0 ≤ n then Enumeration.ofValue n.toNat
  else .error (.valueError (toString n ++ " is not a valid " ++ Enumeration.name E))

theorem enumOf_value {E : Type} [Enumeration E] (e : E) :
    enumOf (Enumeration.value e : ℤ) = .ok e := by
  rw [enumOf, if_pos (Int.natCast_nonneg _), Int.toNat_natCast, Enumeration.ofValue_value]

/-! ### Names, scopes and addresses -/

def encodeObjectName : ObjectName → Asn1.ObjectName
  | .AaSpecificObjectName identifier => .aaSpecific identifier
  | .DomainSpecificObjectName domainId itemId => .domainSpecific domainId itemId
  | .VmdSpecificObjectName identifier => .vmdSpecific identifier

def decodeObjectName : Asn1.ObjectName → ObjectName
  | .aaSpecific identifier => .AaSpecificObjectName identifier
  | .domainSpecific domainID itemID => .DomainSpecificObjectName domainID itemID
  | .vmdSpecific identifier => .VmdSpecificObjectName identifier

def encodeObjectScope : ObjectScope → Asn1.ObjectScope
  | .AaSpecificObjectScope => .aaSpecific
  | .DomainSpecificObjectScope identifier => .domainSpecific identifier
  | .VmdSpecificObjectScope => .vmdSpecific

def decodeObjectScope : Asn1.ObjectScope → ObjectScope
  | .aaSpecific => .AaSpecificObjectScope
  | .domainSpecific identifier => .DomainSpecificObjectScope identifier
  | .vmdSpecific => .VmdSpecificObjectScope

def encodeAddress : Address → Asn1.Address
  | .int address => .numericAddress address
  | .str address => .symbolicAddress address
  | .bytes address => .unconstrainedAddress address

def decodeAddress : Asn1.Address → Address
  | .numericAddress address => .int address
  | .symbolicAddress address => .str address
  | .unconstrainedAddress address => .bytes address

/-! ### Times and floats -/

def microseconds : ℤ := 1000000

/-- The start of 1984, UTC. -/
def binaryTimeEpoch : DateTime := 441763200 * microseconds

/-- `0xFF & n`. -/
def lowByte (n : ℤ) : ℕ := (n % 256).toNat

/-- The octets of a binary time: the seconds of the day and the days since 1984.  Days that do not
fit are cut. -/
def encodeBinaryTime (value : DateTime) : Bytes :=
  let delta := value - binaryTimeEpoch
  let seconds := delta / microseconds % 86400
  let days := delta / microseconds / 86400
  bytesOf [lowByte (seconds >>> (24 : ℕ)), lowByte (seconds >>> (16 : ℕ)),
    lowByte (seconds >>> (8 : ℕ)), lowByte seconds, lowByte (days >>> (8 : ℕ)), lowByte days]

def decodeBinaryTime (data : Bytes) : Except Exn DateTime := do
  let days := ((← byteAt data 4) <<< 8) ||| (← byteAt data 5)
  let seconds := ((← byteAt data 0) <<< 24) ||| ((← byteAt data 1) <<< 16) |||
    ((← byteAt data 2) <<< 8) ||| (← byteAt data 3)
  return binaryTimeEpoch + (days * 86400 + seconds) * microseconds

/-- The fraction of a second, bit by bit. -/
def encodeFraction (decimal : ℚ) : List ℕ :=
  ((List.range 24).foldl (fun (s : ℚ × List ℕ) (i : ℕ) =>
    if s.1 ≥ 2 ^ (-(i + 1) : ℤ) then
      (s.1 - 2 ^ (-(i + 1) : ℤ), s.2.modify (i / 8) fun octet => octet ||| 1 <<< (7 - i % 8))
    else s) (decimal, [0, 0, 0])).2

def encodeUtcTime (value : DateTime) (leapSecond clockFailure notSynchronized : Bool)
    (accuracy : Option ℤ) : Except Exn Bytes := do
  if ¬ accuracy.all fun accuracy => 0 ≤ accuracy ∧ accuracy ≤ 24 then
    throw (.valueError "invalid UtcTime accuracy")
  let ts := toDouble (value / microseconds)
  -- `int` drops the fraction
  let whole : ℤ := if 0 ≤ ts then ⌊ts⌋ else ⌈ts⌉
  let fraction := encodeFraction (ts - whole)
  let quality := (if leapSecond then 0x80 else 0) ||| (if clockFailure then 0x40 else 0) |||
    (if notSynchronized then 0x20 else 0) ||| (accuracy.getD 0x1F).toNat
  return bytesOf ((← packUInt 4 whole) ++ fraction ++ [quality])

/-- `datetime.fromtimestamp(ts, timezone.utc)`, of a time after the start of 1970. -/
def fromTimestamp (ts : ℚ) : DateTime :=
  ⌊ts⌋ * microseconds + roundHalfEven (toDouble ((ts - ⌊ts⌋) * microseconds))

/-- The time, and the octet of its quality. -/
def decodeUtcTime (data : Bytes) : Except Exn (DateTime × ℕ) := do
  let (seconds, _) ← unpackUInt 4 (data.take 4)
  let ts ← (List.range 24).foldlM (fun (ts : ℚ) (i : ℕ) => do
    let octet ← byteAt data (4 + i / 8)
    return if bit octet (1 <<< (7 - i % 8)) then toDouble (ts + 2 ^ (-(i + 1) : ℤ)) else ts) seconds
  return (fromTimestamp ts, ← byteAt data 7)

/-- `b'\x08' + struct.pack('>f', value)` of the float with bit pattern `value`. -/
def encodeFloatingPoint (value : BitVec 32) : Bytes := bytesOf (8 :: beDigits 4 value.toNat)

/-- `struct.unpack('>f', data[1:])[0]`. -/
def decodeFloatingPoint (data : Bytes) : Except Exn (BitVec 32) :=
  if (data.drop 1).length = 4 then .ok (BitVec.ofNat 32 (ofBE (data.drop 1)))
  else .error .structError

/-! ### Data -/

mutual

def encodeData : Data → Except Exn Asn1.Data
  | .ArrayData elements => return .array (← encodeDataList elements)
  | .BcdData value => return .bcd value
  | .BinaryTimeData value => return .binaryTime (encodeBinaryTime value)
  | .BitStringData value => return .bitString value
  | .BooleanData value => return .boolean value
  | .BooleanArrayData value => return .booleanArray value
  | .FloatingPointData value => return .floatingPoint (encodeFloatingPoint value)
  | .GeneralizedTimeData value => return .generalizedTime value
  | .IntegerData value => return .integer value
  | .MmsStringData value => return .mMSString value
  | .ObjIdData value => return .objId value
  | .OctetStringData value => return .octetString value
  | .StructureData elements => return .structure (← encodeDataList elements)
  | .UnsignedData value => return .unsigned value
  | .UtcTimeData value leapSecond clockFailure notSynchronized accuracy =>
    return .utcTime (← encodeUtcTime value leapSecond clockFailure notSynchronized accuracy)
  | .VisibleStringData value => return .visibleString value

/-- `[_encode_data(i) for i in elements]`. -/
def encodeDataList : List Data → Except Exn (List Asn1.Data)
  | [] => return []
  | data :: elements => return (← encodeData data) :: (← encodeDataList elements)

end

mutual

def decodeData : Asn1.Data → Except Exn Data
  | .array elements => return .ArrayData (← decodeDataList elements)
  | .bcd value => return .BcdData value
  | .binaryTime value => return .BinaryTimeData (← decodeBinaryTime value)
  | .bitString value => return .BitStringData value
  | .boolean value => return .BooleanData value
  | .booleanArray value => return .BooleanArrayData value
  | .floatingPoint value => return .FloatingPointData (← decodeFloatingPoint value)
  | .generalizedTime value => return .GeneralizedTimeData value
  | .integer value => return .IntegerData value
  | .mMSString value => return .MmsStringData value
  | .objId value => return .ObjIdData value
  | .octetString value => return .OctetStringData value
  | .structure elements => return .StructureData (← decodeDataList elements)
  | .unsigned value => return .UnsignedData value
  | .utcTime value => do
    let (t, quality) ← decodeUtcTime value
    let accuracy := 0x1F &&& quality
    return .UtcTimeData t (bit quality 0x80) (bit quality 0x40) (bit quality 0x20)
      (if accuracy > 24 then none else some accuracy)
  | .visibleString value => return .VisibleStringData value

/-- `[_decode_data(i) for i in data]`. -/
def decodeDataList : List Asn1.Data → Except Exn (List Data)
  | [] => return []
  | data :: elements => return (← decodeData data) :: (← decodeDataList elements)

end

/-! ### Types -/

mutual

def encodeTypeDescription : TypeDescription → Asn1.TypeDescription
  | .ArrayTypeDescription numberOfElements elementType =>
    .array numberOfElements (encodeTypeOrName elementType)
  | .BcdTypeDescription xyz => .bcd xyz
  | .BinaryTimeTypeDescription xyz => .binaryTime xyz
  | .BitStringTypeDescription xyz => .bitString xyz
  | .BooleanTypeDescription => .boolean
  | .FloatingPointTypeDescription formatWidth exponentWidth =>
    .floatingPoint formatWidth exponentWidth
  | .GeneralizedTimeTypeDescription => .generalizedTime
  | .IntegerTypeDescription xyz => .integer xyz
  | .MmsStringTypeDescription xyz => .mMSString xyz
  | .ObjIdTypeDescription => .objId
  | .OctetStringTypeDescription xyz => .octetString xyz
  | .StructureTypeDescription components => .structure (encodeComponents components)
  | .UnsignedTypeDescription xyz => .unsigned xyz
  | .UtcTimeTypeDescription => .utcTime
  | .VisibleStringTypeDescription xyz => .visibleString xyz

def encodeTypeOrName : TypeOrName → Asn1.TypeSpecification
  | .type typeDescription => .typeDescription (encodeTypeDescription typeDescription)
  | .name objectName => .typeName (encodeObjectName objectName)

/-- The loop over the components of a structure. -/
def encodeComponents :
    List (Option String × TypeOrName) → List (Option String × Asn1.TypeSpecification)
  | [] => []
  | (name, type) :: components => (name, encodeTypeOrName type) :: encodeComponents components

end

mutual

def decodeTypeDescription : Asn1.TypeDescription → TypeDescription
  | .array numberOfElements elementType =>
    .ArrayTypeDescription numberOfElements (decodeTypeSpecification elementType)
  | .bcd xyz => .BcdTypeDescription xyz
  | .binaryTime xyz => .BinaryTimeTypeDescription xyz
  | .bitString xyz => .BitStringTypeDescription xyz
  | .boolean => .BooleanTypeDescription
  | .floatingPoint formatWidth exponentWidth =>
    .FloatingPointTypeDescription formatWidth exponentWidth
  | .generalizedTime => .GeneralizedTimeTypeDescription
  | .integer xyz => .IntegerTypeDescription xyz
  | .mMSString xyz => .MmsStringTypeDescription xyz
  | .objId => .ObjIdTypeDescription
  | .octetString xyz => .OctetStringTypeDescription xyz
  | .structure components => .StructureTypeDescription (decodeComponents components)
  | .unsigned xyz => .UnsignedTypeDescription xyz
  | .utcTime => .UtcTimeTypeDescription
  | .visibleString xyz => .VisibleStringTypeDescription xyz

def decodeTypeSpecification : Asn1.TypeSpecification → TypeOrName
  | .typeDescription typeDescription => .type (decodeTypeDescription typeDescription)
  | .typeName name => .name (decodeObjectName name)

def decodeComponents :
    List (Option String × Asn1.TypeSpecification) → List (Option String × TypeOrName)
  | [] => []
  | (name, type) :: components =>
    (name, decodeTypeSpecification type) :: decodeComponents components

end

/-! ### Variables -/

mutual

def encodeVariableSpecification : VariableSpecification → Asn1.VariableSpecification
  | .AddressVariableSpecification address => .address (encodeAddress address)
  | .InvalidatedVariableSpecification => .invalidated
  | .NameVariableSpecification name => .name (encodeObjectName name)
  | .ScatteredAccessDescriptionVariableSpecification specifications =>
    .scatteredAccessDescription (encodeVariableSpecifications specifications)
  | .VariableDescriptionVariableSpecification address typeSpecification =>
    .variableDescription (encodeAddress address) (encodeTypeOrName typeSpecification)

def encodeVariableSpecifications : List VariableSpecification → List Asn1.VariableSpecification
  | [] => []
  | specification :: specifications =>
    encodeVariableSpecification specification :: encodeVariableSpecifications specifications

end

mutual

def decodeVariableSpecification : Asn1.VariableSpecification → VariableSpecification
  | .address address => .AddressVariableSpecification (decodeAddress address)
  | .invalidated => .InvalidatedVariableSpecification
  | .name name => .NameVariableSpecification (decodeObjectName name)
  | .scatteredAccessDescription specifications =>
    .ScatteredAccessDescriptionVariableSpecification (decodeVariableSpecifications specifications)
  | .variableDescription address typeSpecification =>
    .VariableDescriptionVariableSpecification (decodeAddress address)
      (decodeTypeSpecification typeSpecification)

def decodeVariableSpecifications : List Asn1.VariableSpecification → List VariableSpecification
  | [] => []
  | specification :: specifications =>
    decodeVariableSpecification specification :: decodeVariableSpecifications specifications

end

/-- A specification of variables, or the name of a list of them. -/
def encodeVariableAccess : VariableAccess → Asn1.VariableAccessSpecification
  | .name objectName => .variableListName (encodeObjectName objectName)
  | .list specifications => .listOfVariable (encodeVariableSpecifications specifications)

def decodeVariableAccess : Asn1.VariableAccessSpecification → VariableAccess
  | .variableListName name => .name (decodeObjectName name)
  | .listOfVariable specifications => .list (decodeVariableSpecifications specifications)

/-! ### Results -/

def encodeAccessResult : AccessResult → Except Exn Asn1.AccessResult
  | .error error => return .failure error.value
  | .data data => return .success (← encodeData data)

def decodeAccessResult : Asn1.AccessResult → Except Exn AccessResult
  | .failure error => return .error (← enumOf error)
  | .success data => return .data (← decodeData data)

def encodeWriteResult : Option DataAccessError → Asn1.WriteResult
  | none => .success
  | some error => .failure error.value

def decodeWriteResult : Asn1.WriteResult → Except Exn (Option DataAccessError)
  | .success => return none
  | .failure error => return some (← enumOf error)

/-! ### Requests -/

def encodeNameOrAddress : NameOrAddress → Asn1.NameOrAddress
  | .name objectName => .name (encodeObjectName objectName)
  | .address address => .address (encodeAddress address)

def decodeNameOrAddress : Asn1.NameOrAddress → NameOrAddress
  | .name name => .name (decodeObjectName name)
  | .address address => .address (decodeAddress address)

def encodeRequest : Request → Except Exn Asn1.ConfirmedServiceRequest
  | .StatusRequest => return .status false
  | .GetNameListRequest objectClass objectScope continueAfter =>
    return .getNameList (.basicObjectClass objectClass.value) (encodeObjectScope objectScope)
      continueAfter
  | .IdentifyRequest => return .identify
  | .GetVariableAccessAttributesRequest value =>
    return .getVariableAccessAttributes (encodeNameOrAddress value)
  | .GetNamedVariableListAttributesRequest value =>
    return .getNamedVariableListAttributes (encodeObjectName value)
  | .ReadRequest value => return .read (encodeVariableAccess value)
  | .WriteRequest specification data =>
    return .write (encodeVariableAccess specification) (← encodeDataList data)
  | .DefineNamedVariableListRequest name specification =>
    return .defineNamedVariableList (encodeObjectName name)
      (encodeVariableSpecifications specification)
  | .DeleteNamedVariableListRequest names =>
    return .deleteNamedVariableList (some (names.map encodeObjectName))

def decodeObjectClass : Asn1.ObjectClass → Except Exn ObjectClass
  | .basicObjectClass value => enumOf value
  | .csObjectClass _ => return .UNDEFINED

def decodeRequest : Asn1.ConfirmedServiceRequest → Except Exn Request
  | .status _ => return .StatusRequest
  | .getNameList objectClass objectScope continueAfter =>
    return .GetNameListRequest (← decodeObjectClass objectClass) (decodeObjectScope objectScope)
      continueAfter
  | .identify => return .IdentifyRequest
  | .getVariableAccessAttributes value =>
    return .GetVariableAccessAttributesRequest (decodeNameOrAddress value)
  | .getNamedVariableListAttributes name =>
    return .GetNamedVariableListAttributesRequest (decodeObjectName name)
  | .read specification => return .ReadRequest (decodeVariableAccess specification)
  | .write specification listOfData =>
    return .WriteRequest (decodeVariableAccess specification) (← decodeDataList listOfData)
  | .defineNamedVariableList variableListName listOfVariable =>
    return .DefineNamedVariableListRequest (decodeObjectName variableListName)
      (decodeVariableSpecifications listOfVariable)
  | .deleteNamedVariableList listOfVariableListName =>
    return .DeleteNamedVariableListRequest ((listOfVariableListName.getD []).map decodeObjectName)
  | .other => .error (.valueError "unsupported name")

/-! ### Responses -/

def encodeResponse : Response → Except Exn Asn1.ConfirmedServiceResponse
  | .StatusResponse logical physical =>
    return .status { vmdLogicalStatus := logical, vmdPhysicalStatus := physical }
  | .GetNameListResponse identifiers moreFollows =>
    return .getNameList identifiers (some moreFollows)
  | .IdentifyResponse vendor model revision syntaxes =>
    return .identify vendor model revision syntaxes
  | .GetVariableAccessAttributesResponse mmsDeletable typeDescription =>
    return .getVariableAccessAttributes mmsDeletable (encodeTypeDescription typeDescription)
  | .GetNamedVariableListAttributesResponse mmsDeletable specification =>
    return .getNamedVariableListAttributes mmsDeletable
      (encodeVariableSpecifications specification)
  | .ReadResponse results => return .read (← results.mapM encodeAccessResult)
  | .WriteResponse results => return .write (results.map encodeWriteResult)
  | .DefineNamedVariableListResponse => return .defineNamedVariableList
  | .DeleteNamedVariableListResponse matched deleted =>
    return .deleteNamedVariableList matched deleted

def decodeResponse : Asn1.ConfirmedServiceResponse → Except Exn Response
  | .status response => return .StatusResponse response.vmdLogicalStatus response.vmdPhysicalStatus
  | .getNameList listOfIdentifier moreFollows =>
    return .GetNameListResponse listOfIdentifier (moreFollows.getD true)
  | .identify vendorName modelName revision listOfAbstractSyntaxes =>
    return .IdentifyResponse vendorName modelName revision listOfAbstractSyntaxes
  | .getVariableAccessAttributes mmsDeletable typeDescription =>
    return .GetVariableAccessAttributesResponse mmsDeletable (decodeTypeDescription typeDescription)
  | .getNamedVariableListAttributes mmsDeletable listOfVariable =>
    return .GetNamedVariableListAttributesResponse mmsDeletable
      (decodeVariableSpecifications listOfVariable)
  | .read listOfAccessResult => return .ReadResponse (← listOfAccessResult.mapM decodeAccessResult)
  | .write results => return .WriteResponse (← results.mapM decodeWriteResult)
  | .defineNamedVariableList => return .DefineNamedVariableListResponse
  | .deleteNamedVariableList numberMatched numberDeleted =>
    return .DeleteNamedVariableListResponse numberMatched numberDeleted
  | .other => .error (.valueError "unsupported name")

/-! ### Errors -/

def encodeError : Error → Asn1.ServiceError
  | .VmdStateError error => .vmdState error.value
  | .ApplicationReferenceError error => .applicationReference error.value
  | .DefinitionError error => .definition error.value
  | .ResourceError error => .resource error.value
  | .ServiceError error => .service error.value
  | .ServicePreemptError error => .servicePreempt error.value
  | .TimeResolutionError error => .timeResolution error.value
  | .AccessError error => .access error.value
  | .InitiateError error => .initiate error.value
  | .ConcludeError error => .conclude error.value
  | .CancelError error => .cancel error.value
  | .FileError error => .file error.value
  | .OtherError value => .others value

def decodeError : Asn1.ServiceError → Except Exn Error
  | .vmdState value => return .VmdStateError (← enumOf value)
  | .applicationReference value => return .ApplicationReferenceError (← enumOf value)
  | .definition value => return .DefinitionError (← enumOf value)
  | .resource value => return .ResourceError (← enumOf value)
  | .service value => return .ServiceError (← enumOf value)
  | .servicePreempt value => return .ServicePreemptError (← enumOf value)
  | .timeResolution value => return .TimeResolutionError (← enumOf value)
  | .access value => return .AccessError (← enumOf value)
  | .initiate value => return .InitiateError (← enumOf value)
  | .conclude value => return .ConcludeError (← enumOf value)
  | .cancel value => return .CancelError (← enumOf value)
  | .file value => return .FileError (← enumOf value)
  | .others value => return .OtherError value

/-! ### Unconfirmed messages -/

def encodeEventTime : EventTime → Asn1.EventTime
  | .none => .undefined
  | .int time => .timeSequenceIdentifier time
  | .octets time => .timeOfDay time

/-- `data['transitionTime'][1]`. -/
def decodeEventTime : Asn1.EventTime → EventTime
  | .undefined => .none
  | .timeSequenceIdentifier value => .int value
  | .timeOfDay value => .octets value

def encodeUnconfirmed : Unconfirmed → Except Exn Asn1.UnconfirmedService
  | .EventNotificationUnconfirmed enrollment condition severity time =>
    return .eventNotification (encodeObjectName enrollment) (encodeObjectName condition) severity
      (encodeEventTime time)
  | .InformationReportUnconfirmed specification data =>
    return .informationReport (encodeVariableAccess specification) (← data.mapM encodeAccessResult)
  | .UnsolicitedStatusUnconfirmed logical physical =>
    return .unsolicitedStatus { vmdLogicalStatus := logical, vmdPhysicalStatus := physical }

def decodeUnconfirmed : Asn1.UnconfirmedService → Except Exn Unconfirmed
  | .eventNotification eventEnrollmentName eventConditionName severity transitionTime =>
    return .EventNotificationUnconfirmed (decodeObjectName eventEnrollmentName)
      (decodeObjectName eventConditionName) severity (decodeEventTime transitionTime)
  | .informationReport specification listOfAccessResult =>
    return .InformationReportUnconfirmed (decodeVariableAccess specification)
      (← listOfAccessResult.mapM decodeAccessResult)
  | .unsolicitedStatus status =>
    return .UnsolicitedStatusUnconfirmed status.vmdLogicalStatus status.vmdPhysicalStatus

end HatDrivers.Mms
