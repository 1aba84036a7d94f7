import HatDrivers.Iec103.Common
import HatDrivers.Lib.Transition

namespace HatDrivers.Iec103

open HatDrivers.Lib
open Iec60870.Encodings.Iec103 (AsduType Cause IoAddress DoubleValue IoElement Io ASDU
  Identification DescriptiveData encodeAsdu decodeAsdu)

/-!
# IEC 60870-5-103 driver — master

Of each kind of request one call at a time waits for the ASDU that has its identifier.  The receive
loop takes ASDUs off the connection and goes through their information objects and elements: they
complete the waiting calls or are handed to the callbacks.  If that raises, or when the connection
is lost, the loop ends, and the waiting calls get a `ConnectionError`.

Events are what the tasks do between two points where they may wait.  The loop waits in callbacks
only; that it may be interrupted between any two elements makes for more runs, not for fewer.
-/

/-! ### State -/

/-- The calls that wait for an answer. -/
inductive Kind
  | interrogate | sendCommand | interrogateGeneric
  deriving DecidableEq

inductive Future
  | pending
  /-- the value of a command, or `None` -/
  | result (value : Option Bool)
  | connectionError
  | cancelled
  deriving DecidableEq

/-- A call that holds the lock of its kind. -/
structure Caller where
  request : ASDU
  /-- is its `send` going on? -/
  sending : Bool

/-- `_interrogate_req_id` and `_interrogate_future`, or those of another kind of calls. -/
structure Slot where
  reqId : Option ℕ
  future : Option Future
  /-- who holds the lock -/
  caller : Option Caller

/-- A call of a callback. -/
inductive Callback
  | data (data : Data)
  | genericData (data : GenericData)

/-- What the loop has yet to do for an ASDU. -/
inductive Item
  | io (asduType : AsduType) (cause : EnumOr Cause) (asduAddress : ℕ) (io : Io)
  /-- a function of `_process_single_element_fns` -/
  | element (asduType : AsduType) (cause : EnumOr Cause) (asduAddress : ℕ) (ioAddress : IoAddress)
    (element : IoElement)
  /-- a function of `_process_multiple_elements_fns` -/
  | elements (asduType : AsduType) (cause : EnumOr Cause) (asduAddress : ℕ) (ioAddress : IoAddress)
    (elements : List IoElement)
  /-- a round of the loop of `_process_GENERIC_DATA` -/
  | genericData (data : GenericData)

inductive ReceiveLoop
  /-- it receives if there is nothing to do -/
  | running (items : List Item)
  | ended

structure Master where
  /-- `data_cb is not None` -/
  dataCb : Bool
  /-- `generic_data_cb is not None` -/
  genericDataCb : Bool
  isOpen : Bool
  /-- the identifiers that were taken from `_next_req_ids` -/
  count : ℕ
  slots : Kind → Slot
  receiveLoop : ReceiveLoop
  /-- history: the ASDUs that were received -/
  received : List ASDU
  /-- history: the callbacks that were called -/
  calls : List Callback

inductive Event
  | interrogate (asduAddress : ℕ)
  | sendCommand (asduAddress : ℕ) (ioAddress : IoAddress) (value : DoubleValue)
  | interrogateGeneric (asduAddress : ℕ)
  /-- the `send` of a call is done -/
  | sent (kind : Kind)
  /-- the `send` of a call raises -/
  | unsent (kind : Kind)
  /-- a task that waits for its future is cancelled -/
  | cancel (kind : Kind)
  /-- a task whose future is done goes on -/
  | resume (kind : Kind)
  | receive (data : Bytes)
  /-- the loop goes on with what it has to do -/
  | process
  /-- it does, and the callback it calls raises -/
  | raise
  /-- `receive` raises, or the loop is cancelled -/
  | lost
  | close

/-! ### Requests -/

/-- The ASDU of `interrogate`. -/
def interrogateAsdu (asduAddress scanNumber : ℕ) : ASDU where
  type := .GENERAL_INTERROGATION
  cause := .enum .GENERAL_INTERROGATION
  address := asduAddress
  ios := [{ address := ⟨255, 0⟩, elements := [.GENERAL_INTERROGATION scanNumber] }]

/-- The ASDU of `send_command`. -/
def sendCommandAsdu (asduAddress : ℕ) (ioAddress : IoAddress) (value : DoubleValue)
    (returnIdentifier : ℕ) : ASDU where
  type := .GENERAL_COMMAND
  cause := .enum .GENERAL_COMMAND
  address := asduAddress
  ios := [{ address := ioAddress, elements := [.GENERAL_COMMAND value returnIdentifier] }]

/-- The ASDU of `interrogate_generic`. -/
def interrogateGenericAsdu (asduAddress returnIdentifier : ℕ) : ASDU where
  type := .GENERIC_COMMAND
  cause := .enum .GENERAL_INTERROGATION
  address := asduAddress
  ios := [{ address := ⟨254, 245⟩, elements := [.GENERIC_COMMAND returnIdentifier []] }]

/-! ### Slots -/

/-- No call holds the lock. -/
def Slot.free : Slot where
  reqId := none
  future := none
  caller := none

/-- `_try_set_result`. -/
def Slot.trySetResult (slot : Slot) (value : Option Bool) : Slot :=
  if slot.future = some .pending then { slot with future := some (.result value) } else slot

/-- `_try_set_exception`. -/
def Slot.trySetException (slot : Slot) : Slot :=
  if slot.future = some .pending then { slot with future := some .connectionError } else slot

namespace Master

def init (dataCb genericDataCb : Bool) : Master where
  dataCb := dataCb
  genericDataCb := genericDataCb
  isOpen := true
  count := 0
  slots := fun _ => .free
  receiveLoop := .running []
  received := []
  calls := []

def setSlot (s : Master) (kind : Kind) (slot : Slot) : Master :=
  { s with slots := Function.update s.slots kind slot }

/-- `_try_set_result` for the future of a kind of calls, if it waits for an identifier. -/
def complete (s : Master) (kind : Kind) (identifier : ℕ) (value : Option Bool) : Master :=
  if (s.slots kind).reqId = some identifier then
    s.setSlot kind ((s.slots kind).trySetResult value)
  else s

/-- `_try_aio_call` of `data_cb`. -/
def callData (s : Master) (data : Data) : Master :=
  if s.dataCb then { s with calls := s.calls ++ [.data data] } else s

/-- `_try_aio_call` of `generic_data_cb`. -/
def callGenericData (s : Master) (data : GenericData) : Master :=
  if s.genericDataCb then { s with calls := s.calls ++ [.genericData data] } else s

/-- The end of the receive loop. -/
def endLoop (s : Master) : Master :=
  { s with
    isOpen := false
    receiveLoop := .ended
    slots := fun kind => (s.slots kind).trySetException }

/-! ### Calls -/

/-- A call, from where it gets the lock to where it waits. -/
def call (s : Master) (kind : Kind) (request : ℕ → ASDU) : Option Master :=
  match (s.slots kind).caller with
  | some _ => none
  | none =>
    -- `ConnectionError`
    if ¬ s.isOpen then some s
    else
      let reqId := s.count % 0x100
      let s := { s with count := s.count + 1 }
      match encodeAsdu (request reqId) with
      | .error _ => some s
      | .ok _ => some (s.setSlot kind
          { reqId := some reqId, future := some .pending,
            caller := some { request := request reqId, sending := true } })

/-! ### Processing -/

/-- The types of `_process_single_element_fns`. -/
def singleElementTypes : List AsduType :=
  [.TIME_TAGGED_MESSAGE, .TIME_TAGGED_MESSAGE_WITH_RELATIVE_TIME,
   .TIME_TAGGED_MEASURANDS_WITH_RELATIVE_TIME, .IDENTIFICATION, .TIME_SYNCHRONIZATION,
   .GENERAL_INTERROGATION_TERMINATION, .GENERIC_DATA, .GENERIC_IDENTIFICATION,
   .READY_FOR_TRANSMISSION_OF_DISTURBANCE_DATA, .READY_FOR_TRANSMISSION_OF_A_CHANNEL,
   .READY_FOR_TRANSMISSION_OF_TAGS, .TRANSMISSION_OF_TAGS, .TRANSMISSION_OF_DISTURBANCE_VALUES,
   .END_OF_TRANSMISSION]

/-- The types of `_process_multiple_elements_fns`. -/
def multipleElementsTypes : List AsduType :=
  [.MEASURANDS_1, .MEASURANDS_2, .LIST_OF_RECORDED_DISTURBANCES]

/-- `element.value`, of an element of the measurand types. -/
def measurand : IoElement → Except Exn Iec60870.Encodings.Iec103.MeasurandValue
  | .MEASURANDS_1 value => .ok value
  | .MEASURANDS_2 value => .ok value
  | _ => .error .attributeError

/-- The measurands of `_process_MEASURANDS_1` and `_process_MEASURANDS_2`. -/
def measurandValues (asduType : AsduType) (elements : List IoElement) :
    Except Exn (List (MeasurandType × Iec60870.Encodings.Iec103.MeasurandValue)) :=
  elements.zipIdx.mapM fun (element, i) => do
    let measurandType ← MeasurandType.ofValue (asduType.value, i)
    return (measurandType, ← measurand element)

/-- The generic data of an element, one by one. -/
def genericDataItems (cause : EnumOr Cause) (asduAddress : ℕ) (ioAddress : IoAddress)
    (data : List (Identification × DescriptiveData)) : List Item :=
  data.map fun (identification, data) => .genericData
    { asduAddress, ioAddress, cause := tryDecodeCause cause, identification,
      description := data.description, value := data.value }

/-- A function of `_process_single_element_fns`, and what it has yet to do. -/
def processElement (s : Master) (asduType : AsduType) (cause : EnumOr Cause) (asduAddress : ℕ)
    (ioAddress : IoAddress) (element : IoElement) : Except Exn (Master × List Item) :=
  match asduType, element with
  | .TIME_TAGGED_MESSAGE, .TIME_TAGGED_MESSAGE value =>
    if cause = .enum .GENERAL_COMMAND then
      .ok (s.complete .sendCommand value.supplementary (some true), [])
    else if cause = .enum .GENERAL_COMMAND_NACK then
      .ok (s.complete .sendCommand value.supplementary (some false), [])
    else
      .ok (s.callData { asduAddress, ioAddress, cause := tryDecodeCause cause,
                        value := .DoubleWithTimeValue value }, [])
  | .TIME_TAGGED_MESSAGE_WITH_RELATIVE_TIME, .TIME_TAGGED_MESSAGE_WITH_RELATIVE_TIME value =>
    .ok (s.callData { asduAddress, ioAddress, cause := tryDecodeCause cause,
                      value := .DoubleWithRelativeTimeValue value }, [])
  | .TIME_TAGGED_MEASURANDS_WITH_RELATIVE_TIME,
      .TIME_TAGGED_MEASURANDS_WITH_RELATIVE_TIME value =>
    .ok (s.callData { asduAddress, ioAddress, cause := tryDecodeCause cause,
                      value := .MeasurandWithRelativeTimeValue value }, [])
  | .GENERAL_INTERROGATION_TERMINATION, .GENERAL_INTERROGATION_TERMINATION scanNumber =>
    .ok (s.complete .interrogate scanNumber none, [])
  | .GENERIC_DATA, .GENERIC_DATA returnIdentifier _ _ data =>
    if cause = .enum .TERMINATION_OF_GENERAL_INTERROGATION then
      .ok (s.complete .interrogateGeneric returnIdentifier none, [])
    else .ok (s, genericDataItems cause asduAddress ioAddress data)
  -- these are logged, or nothing is done
  | .IDENTIFICATION, _ | .TIME_SYNCHRONIZATION, _ | .GENERIC_IDENTIFICATION, _
  | .READY_FOR_TRANSMISSION_OF_DISTURBANCE_DATA, _ | .READY_FOR_TRANSMISSION_OF_A_CHANNEL, _
  | .READY_FOR_TRANSMISSION_OF_TAGS, _ | .TRANSMISSION_OF_TAGS, _
  | .TRANSMISSION_OF_DISTURBANCE_VALUES, _ | .END_OF_TRANSMISSION, _ => .ok (s, [])
  | _, _ => .error .attributeError

/-- A function of `_process_multiple_elements_fns`. -/
def processElements (s : Master) (asduType : AsduType) (cause : EnumOr Cause) (asduAddress : ℕ)
    (ioAddress : IoAddress) (elements : List IoElement) : Except Exn Master :=
  if asduType = .LIST_OF_RECORDED_DISTURBANCES then .ok s
  else do
    let values ← measurandValues asduType elements
    return s.callData { asduAddress, ioAddress, cause := tryDecodeCause cause,
                        value := .MeasurandValues values }

/-- The functions for an information object. -/
def ioItems (asduType : AsduType) (cause : EnumOr Cause) (asduAddress : ℕ) (io : Io) :
    Except Exn (List Item) :=
  if asduType ∈ singleElementTypes then
    .ok (io.elements.map (.element asduType cause asduAddress io.address))
  else if asduType ∈ multipleElementsTypes then
    .ok [.elements asduType cause asduAddress io.address io.elements]
  else .error (.valueError "unsupported asdu type")

/-- One item, and what it leaves to do. -/
def processItem (s : Master) : Item → Except Exn (Master × List Item)
  | .io asduType cause asduAddress io => do
    return (s, ← ioItems asduType cause asduAddress io)
  | .element asduType cause asduAddress ioAddress element =>
    s.processElement asduType cause asduAddress ioAddress element
  | .elements asduType cause asduAddress ioAddress elements => do
    return (← s.processElements asduType cause asduAddress ioAddress elements, [])
  | .genericData data => .ok (s.callGenericData data, [])

/-- The receive loop goes on with an item. -/
def process (s : Master) (item : Item) (items : List Item) : Master :=
  match s.processItem item with
  | .ok (s, items') => { s with receiveLoop := .running (items' ++ items) }
  | .error _ => s.endLoop

/-- The information objects of an ASDU. -/
def asduItems (asdu : ASDU) : List Item :=
  asdu.ios.map (.io asdu.type asdu.cause asdu.address)

/-- What the receive loop does with the bytes it receives. -/
def receive (s : Master) (data : Bytes) : Master :=
  match decodeAsdu data with
  | .ok (asdu, _) =>
    { s with received := s.received ++ [asdu], receiveLoop := .running (asduItems asdu) }
  | .error (.asduTypeError _) => s
  | .error _ => s.endLoop

/-! ### Steps -/

def step (s : Master) : Event → Option Master
  | .interrogate asduAddress => s.call .interrogate (interrogateAsdu asduAddress)
  | .sendCommand asduAddress ioAddress value =>
    s.call .sendCommand (sendCommandAsdu asduAddress ioAddress value)
  | .interrogateGeneric asduAddress =>
    s.call .interrogateGeneric (interrogateGenericAsdu asduAddress)
  | .sent kind =>
    match (s.slots kind).caller with
    | some ⟨request, true⟩ =>
      some (s.setSlot kind { s.slots kind with caller := some ⟨request, false⟩ })
    | _ => none
  | .unsent kind =>
    match (s.slots kind).caller with
    | some ⟨_, true⟩ => some (s.setSlot kind .free)
    | _ => none
  | .cancel kind =>
    match (s.slots kind).caller with
    | some ⟨_, false⟩ =>
      if (s.slots kind).future = some .pending then
        some (s.setSlot kind { s.slots kind with future := some .cancelled })
      else some s
    | _ => none
  | .resume kind =>
    match (s.slots kind).caller with
    | some ⟨_, false⟩ =>
      if (s.slots kind).future = some .pending then none else some (s.setSlot kind .free)
    | _ => none
  | .receive data =>
    match s.receiveLoop with
    | .running [] => some (s.receive data)
    | _ => none
  | .process =>
    match s.receiveLoop with
    | .running (item :: items) => some (s.process item items)
    | _ => none
  | .raise =>
    match s.receiveLoop with
    | .running (item :: items) =>
      if s.calls.length < (s.process item items).calls.length then
        some (s.process item items).endLoop
      else none
    | _ => none
  | .lost =>
    match s.receiveLoop with
    | .running _ => some s.endLoop
    | .ended => none
  | .close => some { s with isOpen := false }

end Master

end HatDrivers.Iec103
