import HatDrivers.Basic

namespace HatDrivers.Mms

open HatDrivers.Lib

/-!
# MMS — common structures

The values of the driver: names of objects, data, descriptions of types and specifications of
variables, of which the last three can hold values of their own kind to any depth, and the
requests, responses, errors and unconfirmed messages made of them.  Collections are lists, and a
single-precision float is its bit pattern.
-/

/-- An aware `datetime`, in microseconds since the start of 1970, UTC. -/
abbrev DateTime := ℤ

/-- `asn1.ObjectIdentifier`. -/
abbrev ObjectIdentifier := List ℕ

inductive DataAccessError
  | OBJECT_INVALIDATED | HARDWARE_FAULT | TEMPORARILY_UNAVAILABLE | OBJECT_ACCESS_DENIED
  | OBJECT_UNDEFINED | INVALID_ADDRESS | TYPE_UNSUPPORTED | TYPE_INCONSISTENT
  | OBJECT_ATTRIBUTE_INCONSISTENT | OBJECT_ACCESS_UNSUPPORTED | OBJECT_NON_EXISTENT
  | OBJECT_VALUE_INVALID
  deriving DecidableEq

def DataAccessError.value : DataAccessError → ℕ
  | .OBJECT_INVALIDATED => 0 | .HARDWARE_FAULT => 1 | .TEMPORARILY_UNAVAILABLE => 2
  | .OBJECT_ACCESS_DENIED => 3 | .OBJECT_UNDEFINED => 4 | .INVALID_ADDRESS => 5
  | .TYPE_UNSUPPORTED => 6 | .TYPE_INCONSISTENT => 7 | .OBJECT_ATTRIBUTE_INCONSISTENT => 8
  | .OBJECT_ACCESS_UNSUPPORTED => 9 | .OBJECT_NON_EXISTENT => 10 | .OBJECT_VALUE_INVALID => 11

instance : Enumeration DataAccessError where
  name := "DataAccessError"
  value := DataAccessError.value
  members :=
    [.OBJECT_INVALIDATED, .HARDWARE_FAULT, .TEMPORARILY_UNAVAILABLE, .OBJECT_ACCESS_DENIED,
     .OBJECT_UNDEFINED, .INVALID_ADDRESS, .TYPE_UNSUPPORTED, .TYPE_INCONSISTENT,
     .OBJECT_ATTRIBUTE_INCONSISTENT, .OBJECT_ACCESS_UNSUPPORTED, .OBJECT_NON_EXISTENT,
     .OBJECT_VALUE_INVALID]
  find_value e := by cases e <;> rfl

inductive ObjectClass
  | NAMED_VARIABLE | NAMED_VARIABLE_LIST | JOURNAL | DOMAIN | UNDEFINED
  deriving DecidableEq

def ObjectClass.value : ObjectClass → ℕ
  | .NAMED_VARIABLE => 0 | .NAMED_VARIABLE_LIST => 2 | .JOURNAL => 8 | .DOMAIN => 9
  | .UNDEFINED => 255

instance : Enumeration ObjectClass where
  name := "ObjectClass"
  value := ObjectClass.value
  members :=
    [.NAMED_VARIABLE, .NAMED_VARIABLE_LIST, .JOURNAL, .DOMAIN, .UNDEFINED]
  find_value e := by cases e <;> rfl

/-! ### Names and scopes of objects -/

inductive ObjectName
  | AaSpecificObjectName (identifier : String)
  | DomainSpecificObjectName (domainId itemId : String)
  | VmdSpecificObjectName (identifier : String)
  deriving DecidableEq

inductive ObjectScope
  | AaSpecificObjectScope
  | DomainSpecificObjectScope (identifier : String)
  | VmdSpecificObjectScope
  deriving DecidableEq

/-! ### Data -/

inductive Data
  | ArrayData (elements : List Data)
  | BcdData (value : ℤ)
  | BinaryTimeData (value : DateTime)
  | BitStringData (value : List Bool)
  | BooleanData (value : Bool)
  | BooleanArrayData (value : List Bool)
  | FloatingPointData (value : BitVec 32)
  | GeneralizedTimeData (value : String)
  | IntegerData (value : ℤ)
  | MmsStringData (value : String)
  | ObjIdData (value : ObjectIdentifier)
  | OctetStringData (value : Bytes)
  | StructureData (elements : List Data)
  | UnsignedData (value : ℤ)
  | UtcTimeData (value : DateTime) (leapSecond clockFailure notSynchronized : Bool)
      (accuracy : Option ℤ)
  | VisibleStringData (value : String)

/-! ### Types -/

mutual

inductive TypeDescription
  | ArrayTypeDescription (numberOfElements : ℤ) (elementType : TypeOrName)
  | BcdTypeDescription (xyz : ℤ)
  | BinaryTimeTypeDescription (xyz : Bool)
  | BitStringTypeDescription (xyz : ℤ)
  | BooleanTypeDescription
  | FloatingPointTypeDescription (formatWidth exponentWidth : ℤ)
  | GeneralizedTimeTypeDescription
  | IntegerTypeDescription (xyz : ℤ)
  | MmsStringTypeDescription (xyz : ℤ)
  | ObjIdTypeDescription
  | OctetStringTypeDescription (xyz : ℤ)
  | StructureTypeDescription (components : List (Option String × TypeOrName))
  | UnsignedTypeDescription (xyz : ℤ)
  | UtcTimeTypeDescription
  | VisibleStringTypeDescription (xyz : ℤ)

/-- `TypeDescription | ObjectName`. -/
inductive TypeOrName
  | type (typeDescription : TypeDescription)
  | name (objectName : ObjectName)

end

/-! ### Variables -/

/-- `int | str | util.Bytes`. -/
inductive Address
  | int (address : ℤ)
  | str (address : String)
  | bytes (address : Bytes)
  deriving DecidableEq

inductive VariableSpecification
  | AddressVariableSpecification (address : Address)
  | InvalidatedVariableSpecification
  | NameVariableSpecification (name : ObjectName)
  | ScatteredAccessDescriptionVariableSpecification (specifications : List VariableSpecification)
  | VariableDescriptionVariableSpecification (address : Address) (typeSpecification : TypeOrName)

/-- `Collection[VariableSpecification] | ObjectName`. -/
inductive VariableAccess
  | list (specifications : List VariableSpecification)
  | name (objectName : ObjectName)

/-! ### Requests and responses -/

/-- `ObjectName | int | str | util.Bytes`. -/
inductive NameOrAddress
  | name (objectName : ObjectName)
  | address (address : Address)
  deriving DecidableEq

inductive Request
  | StatusRequest
  | GetNameListRequest (objectClass : ObjectClass) (objectScope : ObjectScope)
      (continueAfter : Option String)
  | IdentifyRequest
  | GetVariableAccessAttributesRequest (value : NameOrAddress)
  | GetNamedVariableListAttributesRequest (value : ObjectName)
  | ReadRequest (value : VariableAccess)
  | WriteRequest (specification : VariableAccess) (data : List Data)
  | DefineNamedVariableListRequest (name : ObjectName) (specification : List VariableSpecification)
  | DeleteNamedVariableListRequest (names : List ObjectName)

/-- `DataAccessError | Data`. -/
inductive AccessResult
  | error (error : DataAccessError)
  | data (data : Data)

inductive Response
  | StatusResponse (logical physical : ℤ)
  | GetNameListResponse (identifiers : List String) (moreFollows : Bool)
  | IdentifyResponse (vendor model revision : String) (syntaxes : Option (List ObjectIdentifier))
  | GetVariableAccessAttributesResponse (mmsDeletable : Bool) (typeDescription : TypeDescription)
  | GetNamedVariableListAttributesResponse (mmsDeletable : Bool)
      (specification : List VariableSpecification)
  | ReadResponse (results : List AccessResult)
  | WriteResponse (results : List (Option DataAccessError))
  | DefineNamedVariableListResponse
  | DeleteNamedVariableListResponse (matched deleted : ℤ)

/-! ### Errors -/

inductive VmdStateError
  | OTHER | VMD_STATE_CONFLICT | VMD_OPERATIONAL_PROBLEM | DOMAIN_TRANSFER_PROBLEM
  | STATE_MACHINE_ID_INVALID
  deriving DecidableEq

def VmdStateError.value : VmdStateError → ℕ
  | .OTHER => 0 | .VMD_STATE_CONFLICT => 1 | .VMD_OPERATIONAL_PROBLEM => 2
  | .DOMAIN_TRANSFER_PROBLEM => 3 | .STATE_MACHINE_ID_INVALID => 4

instance : Enumeration VmdStateError where
  name := "VmdStateError"
  value := VmdStateError.value
  members :=
    [.OTHER, .VMD_STATE_CONFLICT, .VMD_OPERATIONAL_PROBLEM, .DOMAIN_TRANSFER_PROBLEM,
     .STATE_MACHINE_ID_INVALID]
  find_value e := by cases e <;> rfl

inductive ApplicationReferenceError
  | OTHER | APPLICATION_UNREACHABLE | CONNECTION_LOST | APPLICATION_REFERENCE_INVALID
  | CONTEXT_UNSUPPORTED
  deriving DecidableEq

def ApplicationReferenceError.value : ApplicationReferenceError → ℕ
  | .OTHER => 0 | .APPLICATION_UNREACHABLE => 1 | .CONNECTION_LOST => 2
  | .APPLICATION_REFERENCE_INVALID => 3 | .CONTEXT_UNSUPPORTED => 4

instance : Enumeration ApplicationReferenceError where
  name := "ApplicationReferenceError"
  value := ApplicationReferenceError.value
  members :=
    [.OTHER, .APPLICATION_UNREACHABLE, .CONNECTION_LOST, .APPLICATION_REFERENCE_INVALID,
     .CONTEXT_UNSUPPORTED]
  find_value e := by cases e <;> rfl

inductive DefinitionError
  | OTHER | OBJECT_UNDEFINED | INVALID_ADDRESS | TYPE_UNSUPPORTED | TYPE_INCONSISTENT
  | OBJECT_EXISTS | OBJECT_ATTRIBUTE_INCONSISTENT
  deriving DecidableEq

def DefinitionError.value : DefinitionError → ℕ
  | .OTHER => 0 | .OBJECT_UNDEFINED => 1 | .INVALID_ADDRESS => 2 | .TYPE_UNSUPPORTED => 3
  | .TYPE_INCONSISTENT => 4 | .OBJECT_EXISTS => 5 | .OBJECT_ATTRIBUTE_INCONSISTENT => 6

instance : Enumeration DefinitionError where
  name := "DefinitionError"
  value := DefinitionError.value
  members :=
    [.OTHER, .OBJECT_UNDEFINED, .INVALID_ADDRESS, .TYPE_UNSUPPORTED, .TYPE_INCONSISTENT,
     .OBJECT_EXISTS, .OBJECT_ATTRIBUTE_INCONSISTENT]
  find_value e := by cases e <;> rfl

inductive ResourceError
  | OTHER | MEMORY_UNAVAILABLE | PROCESSOR_RESOURCE_UNAVAILABLE | MASS_STORAGE_UNAVAILABLE
  | CAPABILITY_UNAVAILABLE | CAPABILITY_UNKNOWN
  deriving DecidableEq

def ResourceError.value : ResourceError → ℕ
  | .OTHER => 0 | .MEMORY_UNAVAILABLE => 1 | .PROCESSOR_RESOURCE_UNAVAILABLE => 2
  | .MASS_STORAGE_UNAVAILABLE => 3 | .CAPABILITY_UNAVAILABLE => 4 | .CAPABILITY_UNKNOWN => 5

instance : Enumeration ResourceError where
  name := "ResourceError"
  value := ResourceError.value
  members :=
    [.OTHER, .MEMORY_UNAVAILABLE, .PROCESSOR_RESOURCE_UNAVAILABLE, .MASS_STORAGE_UNAVAILABLE,
     .CAPABILITY_UNAVAILABLE, .CAPABILITY_UNKNOWN]
  find_value e := by cases e <;> rfl

inductive ServiceError
  | OTHER | PRIMITIVES_OUT_OF_SEQUENCE | OBJECT_STATE_CONFLICT | PDU_SIZE | CONTINUATION_INVALID
  | OBJECT_CONSTRAINT_CONFLICT
  deriving DecidableEq

def ServiceError.value : ServiceError → ℕ
  | .OTHER => 0 | .PRIMITIVES_OUT_OF_SEQUENCE => 1 | .OBJECT_STATE_CONFLICT => 2 | .PDU_SIZE => 3
  | .CONTINUATION_INVALID => 4 | .OBJECT_CONSTRAINT_CONFLICT => 5

instance : Enumeration ServiceError where
  name := "ServiceError"
  value := ServiceError.value
  members :=
    [.OTHER, .PRIMITIVES_OUT_OF_SEQUENCE, .OBJECT_STATE_CONFLICT, .PDU_SIZE, .CONTINUATION_INVALID,
     .OBJECT_CONSTRAINT_CONFLICT]
  find_value e := by cases e <;> rfl

inductive ServicePreemptError
  | OTHER | TIMEOUT | DEADLOCK | CANCEL
  deriving DecidableEq

def ServicePreemptError.value : ServicePreemptError → ℕ
  | .OTHER => 0 | .TIMEOUT => 1 | .DEADLOCK => 2 | .CANCEL => 3

instance : Enumeration ServicePreemptError where
  name := "ServicePreemptError"
  value := ServicePreemptError.value
  members :=
    [.OTHER, .TIMEOUT, .DEADLOCK, .CANCEL]
  find_value e := by cases e <;> rfl

inductive TimeResolutionError
  | OTHER | UNSUPPORTABLE_TIME_RESOLUTION
  deriving DecidableEq

def TimeResolutionError.value : TimeResolutionError → ℕ
  | .OTHER => 0 | .UNSUPPORTABLE_TIME_RESOLUTION => 1

instance : Enumeration TimeResolutionError where
  name := "TimeResolutionError"
  value := TimeResolutionError.value
  members :=
    [.OTHER, .UNSUPPORTABLE_TIME_RESOLUTION]
  find_value e := by cases e <;> rfl

inductive AccessError
  | OTHER | OBJECT_ACCESS_UNSUPPORTED | OBJECT_NON_EXISTENT | OBJECT_ACCESS_DENIED
  | OBJECT_INVALIDATED
  deriving DecidableEq

def AccessError.value : AccessError → ℕ
  | .OTHER => 0 | .OBJECT_ACCESS_UNSUPPORTED => 1 | .OBJECT_NON_EXISTENT => 2
  | .OBJECT_ACCESS_DENIED => 3 | .OBJECT_INVALIDATED => 4

instance : Enumeration AccessError where
  name := "AccessError"
  value := AccessError.value
  members :=
    [.OTHER, .OBJECT_ACCESS_UNSUPPORTED, .OBJECT_NON_EXISTENT, .OBJECT_ACCESS_DENIED,
     .OBJECT_INVALIDATED]
  find_value e := by cases e <;> rfl

inductive InitiateError
  | OTHER | MAX_SERVICES_OUTSTANDING_CALLING_INSUFFICIENT
  | MAX_SERVICES_OUTSTANDING_CALLED_INSUFFICIENT | SERVICE_CBB_INSUFFICIENT
  | PARAMETER_CBB_INSUFFICIENT | NESTING_LEVEL_INSUFFICIENT
  deriving DecidableEq

def InitiateError.value : InitiateError → ℕ
  | .OTHER => 0 | .MAX_SERVICES_OUTSTANDING_CALLING_INSUFFICIENT => 3
  | .MAX_SERVICES_OUTSTANDING_CALLED_INSUFFICIENT => 4 | .SERVICE_CBB_INSUFFICIENT => 5
  | .PARAMETER_CBB_INSUFFICIENT => 6 | .NESTING_LEVEL_INSUFFICIENT => 7

instance : Enumeration InitiateError where
  name := "InitiateError"
  value := InitiateError.value
  members :=
    [.OTHER, .MAX_SERVICES_OUTSTANDING_CALLING_INSUFFICIENT,
     .MAX_SERVICES_OUTSTANDING_CALLED_INSUFFICIENT, .SERVICE_CBB_INSUFFICIENT,
     .PARAMETER_CBB_INSUFFICIENT, .NESTING_LEVEL_INSUFFICIENT]
  find_value e := by cases e <;> rfl

inductive ConcludeError
  | OTHER | FURTHER_COMMUNICATION_REQUIRED
  deriving DecidableEq

def ConcludeError.value : ConcludeError → ℕ
  | .OTHER => 0 | .FURTHER_COMMUNICATION_REQUIRED => 1

instance : Enumeration ConcludeError where
  name := "ConcludeError"
  value := ConcludeError.value
  members :=
    [.OTHER, .FURTHER_COMMUNICATION_REQUIRED]
  find_value e := by cases e <;> rfl

inductive CancelError
  | OTHER | INVOKE_ID_UNKNOWN | CANCEL_NOT_POSSIBLE
  deriving DecidableEq

def CancelError.value : CancelError → ℕ
  | .OTHER => 0 | .INVOKE_ID_UNKNOWN => 1 | .CANCEL_NOT_POSSIBLE => 2

instance : Enumeration CancelError where
  name := "CancelError"
  value := CancelError.value
  members :=
    [.OTHER, .INVOKE_ID_UNKNOWN, .CANCEL_NOT_POSSIBLE]
  find_value e := by cases e <;> rfl

inductive FileError
  | OTHER | FILENAME_AMBIGUOUS | FILE_BUSY | FILENAME_SYNTAX_ERROR | CONTENT_TYPE_INVALID
  | POSITION_INVALID | FILE_ACCESS_DENIED | FILE_NON_EXISTENT | DUPLICATE_FILENAME
  | INSUFFICIENT_SPACE_IN_FILESTORE
  deriving DecidableEq

def FileError.value : FileError → ℕ
  | .OTHER => 0 | .FILENAME_AMBIGUOUS => 1 | .FILE_BUSY => 2 | .FILENAME_SYNTAX_ERROR => 3
  | .CONTENT_TYPE_INVALID => 4 | .POSITION_INVALID => 5 | .FILE_ACCESS_DENIED => 6
  | .FILE_NON_EXISTENT => 7 | .DUPLICATE_FILENAME => 8 | .INSUFFICIENT_SPACE_IN_FILESTORE => 9

instance : Enumeration FileError where
  name := "FileError"
  value := FileError.value
  members :=
    [.OTHER, .FILENAME_AMBIGUOUS, .FILE_BUSY, .FILENAME_SYNTAX_ERROR, .CONTENT_TYPE_INVALID,
     .POSITION_INVALID, .FILE_ACCESS_DENIED, .FILE_NON_EXISTENT, .DUPLICATE_FILENAME,
     .INSUFFICIENT_SPACE_IN_FILESTORE]
  find_value e := by cases e <;> rfl

inductive Error
  | VmdStateError (error : VmdStateError)
  | ApplicationReferenceError (error : ApplicationReferenceError)
  | DefinitionError (error : DefinitionError)
  | ResourceError (error : ResourceError)
  | ServiceError (error : ServiceError)
  | ServicePreemptError (error : ServicePreemptError)
  | TimeResolutionError (error : TimeResolutionError)
  | AccessError (error : AccessError)
  | InitiateError (error : InitiateError)
  | ConcludeError (error : ConcludeError)
  | CancelError (error : CancelError)
  | FileError (error : FileError)
  | OtherError (value : ℤ)
  deriving DecidableEq

/-! ### Unconfirmed messages -/

/-- The time of an event: `int`, an octet string or `None`. -/
inductive EventTime
  | none
  | int (time : ℤ)
  | octets (time : Bytes)
  deriving DecidableEq

inductive Unconfirmed
  | EventNotificationUnconfirmed (enrollment condition : ObjectName) (severity : ℤ)
      (time : EventTime)
  | InformationReportUnconfirmed (specification : VariableAccess) (data : List AccessResult)
  | UnsolicitedStatusUnconfirmed (logical physical : ℤ)

end HatDrivers.Mms
