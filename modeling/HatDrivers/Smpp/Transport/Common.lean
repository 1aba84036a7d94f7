import HatDrivers.Smpp.Transport.Enumerations
import Mathlib.Data.Finset.Filter
import Mathlib.Data.Rat.Defs

namespace HatDrivers.Smpp.Transport

open HatDrivers.Lib

/-!
# SMPP — protocol data units

Requests, responses and notifications.  Integers, strings and byte strings are not bounded by
their types: the encoder checks what it can write.
-/

/-! ### Fields -/

structure EsmClass where
  messagingMode : MessagingMode
  messageType : MessageType
  gsmFeatures : Finset GsmFeature
  deriving DecidableEq

def leapYear (year : ℤ) : Prop := year % 4 = 0 ∧ (year % 100 ≠ 0 ∨ year % 400 = 0)

instance (year : ℤ) : Decidable (leapYear year) := inferInstanceAs (Decidable (_ ∧ _))

def daysInMonth (year month : ℤ) : ℤ :=
  if month = 2 then if leapYear year then 29 else 28
  else if month = 4 ∨ month = 6 ∨ month = 9 ∨ month = 11 then 30
  else 31

/-- The fields of a `datetime`. -/
structure ValidDate (year month day hour minute second microsecond : ℤ) : Prop where
  year_mem : 1 ≤ year ∧ year ≤ 9999
  month_mem : 1 ≤ month ∧ month ≤ 12
  day_mem : 1 ≤ day ∧ day ≤ daysInMonth year month
  hour_mem : 0 ≤ hour ∧ hour < 24
  minute_mem : 0 ≤ minute ∧ minute < 60
  second_mem : 0 ≤ second ∧ second < 60
  microsecond_mem : 0 ≤ microsecond ∧ microsecond < 1000000

instance (year month day hour minute second microsecond : ℤ) :
    Decidable (ValidDate year month day hour minute second microsecond) :=
  decidable_of_iff
    ((1 ≤ year ∧ year ≤ 9999) ∧ (1 ≤ month ∧ month ≤ 12) ∧
      (1 ≤ day ∧ day ≤ daysInMonth year month) ∧ (0 ≤ hour ∧ hour < 24) ∧
      (0 ≤ minute ∧ minute < 60) ∧ (0 ≤ second ∧ second < 60) ∧
      (0 ≤ microsecond ∧ microsecond < 1000000))
    ⟨fun ⟨h₁, h₂, h₃, h₄, h₅, h₆, h₇⟩ => ⟨h₁, h₂, h₃, h₄, h₅, h₆, h₇⟩,
      fun ⟨h₁, h₂, h₃, h₄, h₅, h₆, h₇⟩ => ⟨h₁, h₂, h₃, h₄, h₅, h₆, h₇⟩⟩

/-- Microseconds of a day. -/
def dayMicroseconds : ℤ := 24 * 60 * 60 * 1000000

/-- An offset from UTC, in microseconds: less than a day, in either direction. -/
def ValidOffset (microseconds : ℤ) : Prop :=
  -dayMicroseconds < microseconds ∧ microseconds < dayMicroseconds

instance (microseconds : ℤ) : Decidable (ValidOffset microseconds) :=
  inferInstanceAs (Decidable (_ ∧ _))

/-- `datetime.datetime`. -/
structure AbsoluteTime where
  year : ℤ
  month : ℤ
  day : ℤ
  hour : ℤ
  minute : ℤ
  second : ℤ
  microsecond : ℤ
  /-- is `tzinfo` `None`? -/
  naive : Bool
  /-- the offset of its time zone from UTC in microseconds, or of the system's if it is naive -/
  utcoffset : ℤ
  valid : ValidDate year month day hour minute second microsecond
  utcoffset_valid : ValidOffset utcoffset
  deriving DecidableEq

structure RelativeTime where
  years : ℤ
  months : ℤ
  days : ℤ
  hours : ℤ
  minutes : ℤ
  /-- a double -/
  seconds : ℚ
  deriving DecidableEq

inductive Time
  | absolute (time : AbsoluteTime)
  | relative (time : RelativeTime)
  deriving DecidableEq

structure RegisteredDelivery where
  deliveryReceipt : DeliveryReceipt
  acknowledgements : Finset Acknowledgement
  intermediateNotification : Bool
  deriving DecidableEq

structure Subaddress where
  type : SubaddressType
  value : Bytes
  deriving DecidableEq

/-! ### Optional parameters -/

structure MsMsgWaitFacilities where
  active : Bool
  indicator : MessageWaitingIndicator
  deriving DecidableEq

structure NetworkErrorCode where
  networkType : ℤ
  errorCode : ℤ
  deriving DecidableEq

structure ItsSessionInfo where
  sessionNumber : ℤ
  sequenceNumber : ℤ
  endOfSession : Bool
  deriving DecidableEq

/-- A value of any of the types that values of optional parameters have. -/
inductive OptionalParamValue
  | subunit (value : Subunit)
  | networkType (value : NetworkType)
  | bearerType (value : BearerType)
  | int (value : ℤ)
  | payloadType (value : PayloadType)
  | str (value : String)
  | bytes (value : Bytes)
  | msMsgWaitFacilities (value : MsMsgWaitFacilities)
  | privacyIndicator (value : PrivacyIndicator)
  | subaddress (value : Subaddress)
  | bool (value : Bool)
  | msAvailabilityStatus (value : MsAvailabilityStatus)
  | networkErrorCode (value : NetworkErrorCode)
  | deliveryFailureReason (value : DeliveryFailureReason)
  | messageState (value : MessageState)
  | displayTime (value : DisplayTime)
  | msValidity (value : MsValidity)
  /-- `()` -/
  | unit
  | itsReplyType (value : ItsReplyType)
  | itsSessionInfo (value : ItsSessionInfo)
  deriving DecidableEq

/-- A dictionary, in the order its keys were set. -/
abbrev OptionalParams := List (OptionalParamTag × OptionalParamValue)

/-- `optional_params[tag] = value`. -/
def OptionalParams.set (params : OptionalParams) (tag : OptionalParamTag)
    (value : OptionalParamValue) : OptionalParams :=
  if tag ∈ params.map Prod.fst then
    params.map fun entry => if entry.1 = tag then (tag, value) else entry
  else params ++ [(tag, value)]

/-! ### Requests -/

structure BindReq where
  bindType : BindType
  systemId : String
  password : String
  systemType : String
  interfaceVersion : ℤ
  addrTon : TypeOfNumber
  addrNpi : NumericPlanIndicator
  addressRange : String
  deriving DecidableEq

structure SubmitSmReq where
  serviceType : String
  sourceAddrTon : TypeOfNumber
  sourceAddrNpi : NumericPlanIndicator
  sourceAddr : String
  destAddrTon : TypeOfNumber
  destAddrNpi : NumericPlanIndicator
  destinationAddr : String
  esmClass : EsmClass
  protocolId : ℤ
  priorityFlag : Priority
  scheduleDeliveryTime : Option Time
  validityPeriod : Option Time
  registeredDelivery : RegisteredDelivery
  replaceIfPresentFlag : Bool
  dataCoding : DataCoding
  smDefaultMsgId : ℤ
  shortMessage : Bytes
  optionalParams : OptionalParams
  deriving DecidableEq

structure DeliverSmReq where
  serviceType : String
  sourceAddrTon : TypeOfNumber
  sourceAddrNpi : NumericPlanIndicator
  sourceAddr : String
  destAddrTon : TypeOfNumber
  destAddrNpi : NumericPlanIndicator
  destinationAddr : String
  esmClass : EsmClass
  protocolId : ℤ
  priorityFlag : Priority
  registeredDelivery : RegisteredDelivery
  dataCoding : DataCoding
  shortMessage : Bytes
  optionalParams : OptionalParams
  deriving DecidableEq

structure DataSmReq where
  serviceType : String
  sourceAddrTon : TypeOfNumber
  sourceAddrNpi : NumericPlanIndicator
  sourceAddr : String
  destAddrTon : TypeOfNumber
  destAddrNpi : NumericPlanIndicator
  destinationAddr : String
  esmClass : EsmClass
  registeredDelivery : RegisteredDelivery
  dataCoding : DataCoding
  optionalParams : OptionalParams
  deriving DecidableEq

structure QuerySmReq where
  messageId : MessageId
  sourceAddrTon : TypeOfNumber
  sourceAddrNpi : NumericPlanIndicator
  sourceAddr : String
  deriving DecidableEq

structure CancelSmReq where
  serviceType : String
  messageId : MessageId
  sourceAddrTon : TypeOfNumber
  sourceAddrNpi : NumericPlanIndicator
  sourceAddr : String
  destAddrTon : TypeOfNumber
  destAddrNpi : NumericPlanIndicator
  destinationAddr : String
  deriving DecidableEq

structure ReplaceSmReq where
  messageId : MessageId
  sourceAddrTon : TypeOfNumber
  sourceAddrNpi : NumericPlanIndicator
  sourceAddr : String
  scheduleDeliveryTime : Option Time
  validityPeriod : Option Time
  registeredDelivery : RegisteredDelivery
  smDefaultMsgId : ℤ
  shortMessage : Bytes
  deriving DecidableEq

inductive Request
  | BindReq (req : BindReq)
  | UnbindReq
  | SubmitSmReq (req : SubmitSmReq)
  | SubmitMultiReq
  | DeliverSmReq (req : DeliverSmReq)
  | DataSmReq (req : DataSmReq)
  | QuerySmReq (req : QuerySmReq)
  | CancelSmReq (req : CancelSmReq)
  | ReplaceSmReq (req : ReplaceSmReq)
  | EnquireLinkReq
  deriving DecidableEq

/-! ### Responses -/

structure BindRes where
  bindType : BindType
  systemId : String
  optionalParams : OptionalParams
  deriving DecidableEq

structure DataSmRes where
  messageId : MessageId
  optionalParams : OptionalParams
  deriving DecidableEq

structure QuerySmRes where
  messageId : MessageId
  finalDate : Option Time
  messageState : MessageState
  errorCode : ℤ
  deriving DecidableEq

inductive Response
  | BindRes (res : BindRes)
  | UnbindRes
  | SubmitSmRes (messageId : MessageId)
  | SubmitMultiRes
  | DeliverSmRes
  | DataSmRes (res : DataSmRes)
  | QuerySmRes (res : QuerySmRes)
  | CancelSmRes
  | ReplaceSmRes
  | EnquireLinkRes
  deriving DecidableEq

/-! ### Notifications -/

structure OutbindNotification where
  systemId : String
  password : String
  deriving DecidableEq

structure AlertNotification where
  sourceAddrTon : TypeOfNumber
  sourceAddrNpi : NumericPlanIndicator
  sourceAddr : String
  esmeAddrTon : TypeOfNumber
  esmeAddrNpi : NumericPlanIndicator
  esmeAddr : String
  optionalParams : OptionalParams
  deriving DecidableEq

inductive Notification
  | OutbindNotification (notification : OutbindNotification)
  | AlertNotification (notification : AlertNotification)
  deriving DecidableEq

/-- What a PDU carries after its header. -/
inductive Body
  | req (req : Request)
  | res (res : Response)
  | notification (notification : Notification)
  deriving DecidableEq

end HatDrivers.Smpp.Transport
