import HatDrivers.Basic

namespace HatDrivers.Mms.Asn1

open HatDrivers.Lib

/-!
# MMS — ASN.1 values

The types of the schema that the encoder reads and writes, with the names of their alternatives
and fields.  Fields that it neither reads nor writes are left out, and so are the bounds of
integers, which BER does not look at.
-/

inductive ObjectName
  | vmdSpecific (identifier : String)
  | domainSpecific (domainID itemID : String)
  | aaSpecific (identifier : String)
  deriving DecidableEq

inductive ObjectScope
  | vmdSpecific
  | domainSpecific (identifier : String)
  | aaSpecific
  deriving DecidableEq

inductive ObjectClass
  | basicObjectClass (value : ℤ)
  | csObjectClass (value : ℤ)
  deriving DecidableEq

inductive Address
  | numericAddress (value : ℤ)
  | symbolicAddress (value : String)
  | unconstrainedAddress (value : Bytes)
  deriving DecidableEq

inductive Data
  | array (elements : List Data)
  | structure (elements : List Data)
  | boolean (value : Bool)
  | bitString (value : List Bool)
  | integer (value : ℤ)
  | unsigned (value : ℤ)
  | floatingPoint (value : Bytes)
  | octetString (value : Bytes)
  | visibleString (value : String)
  | generalizedTime (value : String)
  | binaryTime (value : Bytes)
  | bcd (value : ℤ)
  | booleanArray (value : List Bool)
  | objId (value : List ℕ)
  | mMSString (value : String)
  | utcTime (value : Bytes)

mutual

inductive TypeDescription
  | array (numberOfElements : ℤ) (elementType : TypeSpecification)
  | structure (components : List (Option String × TypeSpecification))
  | boolean
  | bitString (size : ℤ)
  | integer (size : ℤ)
  | unsigned (size : ℤ)
  | floatingPoint (formatWidth exponentWidth : ℤ)
  | octetString (size : ℤ)
  | visibleString (size : ℤ)
  | generalizedTime
  | binaryTime (date : Bool)
  | bcd (size : ℤ)
  | objId
  | mMSString (size : ℤ)
  | utcTime

inductive TypeSpecification
  | typeName (name : ObjectName)
  | typeDescription (description : TypeDescription)

end

inductive VariableSpecification
  | name (name : ObjectName)
  | address (address : Address)
  | variableDescription (address : Address) (typeSpecification : TypeSpecification)
  | scatteredAccessDescription (specifications : List VariableSpecification)
  | invalidated

inductive VariableAccessSpecification
  | listOfVariable (specifications : List VariableSpecification)
  | variableListName (name : ObjectName)

inductive AccessResult
  | failure (error : ℤ)
  | success (data : Data)

inductive WriteResult
  | failure (error : ℤ)
  | success
  deriving DecidableEq

structure StatusResponse where
  vmdLogicalStatus : ℤ
  vmdPhysicalStatus : ℤ
  deriving DecidableEq

inductive NameOrAddress
  | name (name : ObjectName)
  | address (address : Address)
  deriving DecidableEq

inductive ConfirmedServiceRequest
  | status (extendedDerivation : Bool)
  | getNameList (objectClass : ObjectClass) (objectScope : ObjectScope)
      (continueAfter : Option String)
  | identify
  | read (variableAccessSpecification : VariableAccessSpecification)
  | write (variableAccessSpecification : VariableAccessSpecification) (listOfData : List Data)
  | getVariableAccessAttributes (value : NameOrAddress)
  | defineNamedVariableList (variableListName : ObjectName)
      (listOfVariable : List VariableSpecification)
  | getNamedVariableListAttributes (name : ObjectName)
  | deleteNamedVariableList (listOfVariableListName : Option (List ObjectName))
  /-- a service that the driver does not support -/
  | other

inductive ConfirmedServiceResponse
  | status (response : StatusResponse)
  | getNameList (listOfIdentifier : List String) (moreFollows : Option Bool)
  | identify (vendorName modelName revision : String)
      (listOfAbstractSyntaxes : Option (List (List ℕ)))
  | read (listOfAccessResult : List AccessResult)
  | write (results : List WriteResult)
  | getVariableAccessAttributes (mmsDeletable : Bool) (typeDescription : TypeDescription)
  | defineNamedVariableList
  | getNamedVariableListAttributes (mmsDeletable : Bool)
      (listOfVariable : List VariableSpecification)
  | deleteNamedVariableList (numberMatched numberDeleted : ℤ)
  /-- a service that the driver does not support -/
  | other

/-- The `errorClass` of a `ServiceError`. -/
inductive ServiceError
  | vmdState (value : ℤ)
  | applicationReference (value : ℤ)
  | definition (value : ℤ)
  | resource (value : ℤ)
  | service (value : ℤ)
  | servicePreempt (value : ℤ)
  | timeResolution (value : ℤ)
  | access (value : ℤ)
  | initiate (value : ℤ)
  | conclude (value : ℤ)
  | cancel (value : ℤ)
  | file (value : ℤ)
  | others (value : ℤ)
  deriving DecidableEq

inductive EventTime
  | timeOfDay (value : Bytes)
  | timeSequenceIdentifier (value : ℤ)
  | undefined
  deriving DecidableEq

inductive UnconfirmedService
  | informationReport (variableAccessSpecification : VariableAccessSpecification)
      (listOfAccessResult : List AccessResult)
  | unsolicitedStatus (status : StatusResponse)
  | eventNotification (eventEnrollmentName eventConditionName : ObjectName) (severity : ℤ)
      (transitionTime : EventTime)

end HatDrivers.Mms.Asn1
