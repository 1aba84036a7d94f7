import HatDrivers.Lib.ReadWhile
import HatDrivers.Smpp.Transport.Fields

namespace HatDrivers.Smpp.Transport

open HatDrivers.Lib

/-!
# SMPP — optional parameters

An optional parameter is a tag, the length of its value, and the value.  Which tags may stand in
a body depends on its command.
-/

/-- `_valid_optional_params[command_id]`. -/
def validOptionalParams : CommandId → List OptionalParamTag
  | .BIND_RECEIVER_RESP => [.SC_INTERFACE_VERSION]
  | .BIND_TRANSMITTER_RESP => [.SC_INTERFACE_VERSION]
  | .SUBMIT_SM_REQ =>
    [.USER_MESSAGE_REFERENCE, .SOURCE_PORT, .SOURCE_ADDR_SUBUNIT, .DESTINATION_PORT,
     .DEST_ADDR_SUBUNIT, .SAR_MSG_REF_NUM, .SAR_TOTAL_SEGMENTS, .SAR_SEGMENT_SEQNUM,
     .MORE_MESSAGES_TO_SEND, .PAYLOAD_TYPE, .MESSAGE_PAYLOAD, .PRIVACY_INDICATOR, .CALLBACK_NUM,
     .CALLBACK_NUM_PRES_IND, .CALLBACK_NUM_ATAG, .SOURCE_SUBADDRESS, .DEST_SUBADDRESS,
     .USER_RESPONSE_CODE, .DISPLAY_TIME, .SMS_SIGNAL, .MS_VALIDITY, .MS_MSG_WAIT_FACILITIES,
     .NUMBER_OF_MESSAGES, .ALERT_ON_MESSAGE_DELIVERY, .LANGUAGE_INDICATOR, .ITS_REPLY_TYPE,
     .ITS_SESSION_INFO, .USSD_SERVICE_OP]
  | .DELIVER_SM_REQ =>
    [.USER_MESSAGE_REFERENCE, .SOURCE_PORT, .DESTINATION_PORT, .SAR_MSG_REF_NUM,
     .SAR_TOTAL_SEGMENTS, .SAR_SEGMENT_SEQNUM, .USER_RESPONSE_CODE, .PRIVACY_INDICATOR,
     .PAYLOAD_TYPE, .MESSAGE_PAYLOAD, .CALLBACK_NUM, .SOURCE_SUBADDRESS, .DEST_SUBADDRESS,
     .LANGUAGE_INDICATOR, .ITS_SESSION_INFO, .NETWORK_ERROR_CODE, .MESSAGE_STATE,
     .RECEIPTED_MESSAGE_ID]
  | .BIND_TRANSCEIVER_RESP => [.SC_INTERFACE_VERSION]
  | .SUBMIT_MULTI_REQ =>
    [.USER_MESSAGE_REFERENCE, .SOURCE_PORT, .SOURCE_ADDR_SUBUNIT, .DESTINATION_PORT,
     .DEST_ADDR_SUBUNIT, .SAR_MSG_REF_NUM, .SAR_TOTAL_SEGMENTS, .SAR_SEGMENT_SEQNUM,
     .PAYLOAD_TYPE, .MESSAGE_PAYLOAD, .PRIVACY_INDICATOR, .CALLBACK_NUM, .CALLBACK_NUM_PRES_IND,
     .CALLBACK_NUM_ATAG, .SOURCE_SUBADDRESS, .DEST_SUBADDRESS, .DISPLAY_TIME, .SMS_SIGNAL,
     .MS_VALIDITY, .MS_MSG_WAIT_FACILITIES, .ALERT_ON_MESSAGE_DELIVERY, .LANGUAGE_INDICATOR]
  | .ALERT_NOTIFICATION => [.MS_AVAILABILITY_STATUS]
  | .DATA_SM_REQ =>
    [.SOURCE_PORT, .SOURCE_ADDR_SUBUNIT, .SOURCE_NETWORK_TYPE, .SOURCE_BEARER_TYPE,
     .SOURCE_TELEMATICS_ID, .DESTINATION_PORT, .DEST_ADDR_SUBUNIT, .DEST_NETWORK_TYPE,
     .DEST_BEARER_TYPE, .DEST_TELEMATICS_ID, .SAR_MSG_REF_NUM, .SAR_TOTAL_SEGMENTS,
     .SAR_SEGMENT_SEQNUM, .MORE_MESSAGES_TO_SEND, .QOS_TIME_TO_LIVE, .PAYLOAD_TYPE,
     .MESSAGE_PAYLOAD, .SET_DPF, .RECEIPTED_MESSAGE_ID, .MESSAGE_STATE, .NETWORK_ERROR_CODE,
     .USER_MESSAGE_REFERENCE, .PRIVACY_INDICATOR, .CALLBACK_NUM, .CALLBACK_NUM_PRES_IND,
     .CALLBACK_NUM_ATAG, .SOURCE_SUBADDRESS, .DEST_SUBADDRESS, .USER_RESPONSE_CODE,
     .DISPLAY_TIME, .SMS_SIGNAL, .MS_VALIDITY, .MS_MSG_WAIT_FACILITIES, .NUMBER_OF_MESSAGES,
     .ALERT_ON_MESSAGE_DELIVERY, .LANGUAGE_INDICATOR, .ITS_REPLY_TYPE, .ITS_SESSION_INFO]
  | .DATA_SM_RESP =>
    [.DELIVERY_FAILURE_REASON, .NETWORK_ERROR_CODE, .ADDITIONAL_STATUS_INFO_TEXT, .DPF_RESULT]
  | .GENERIC_NACK | .BIND_RECEIVER_REQ | .BIND_TRANSMITTER_REQ | .QUERY_SM_REQ | .QUERY_SM_RESP
  | .SUBMIT_SM_RESP | .DELIVER_SM_RESP | .UNBIND_REQ | .UNBIND_RESP | .REPLACE_SM_REQ
  | .REPLACE_SM_RESP | .CANCEL_SM_REQ | .CANCEL_SM_RESP | .BIND_TRANSCEIVER_REQ | .OUTBIND
  | .ENQUIRE_LINK_REQ | .ENQUIRE_LINK_RESP | .SUBMIT_MULTI_RESP => []

/-! ### Values -/

/-- `raise TypeError('invalid value type')`. -/
def invalidValueType {α : Type} : Except Error α := .error (.exn .typeError)

/-- `value`, if it is an `int`: a `bool` is one, too. -/
def OptionalParamValue.toInt : OptionalParamValue → Except Error ℤ
  | .int value => .ok value
  | .bool value => .ok (if value then 1 else 0)
  | _ => invalidValueType

/-- `yield value.value`. -/
def yieldValue {E : Type} [Enumeration E] (value : E) : Except Error (List ℕ) :=
  yieldInt (Enumeration.value value : ℕ)

def encodeSubaddress (value : Subaddress) : Except Error (List ℕ) := do
  return (← yieldValue value.type) ++ value.value.map UInt8.toNat

def encodeOptionalParamValue (tag : OptionalParamTag) (value : OptionalParamValue) :
    Except Error (List ℕ) :=
  match tag with
  | .DEST_ADDR_SUBUNIT | .SOURCE_ADDR_SUBUNIT =>
    match value with
    | .subunit value => yieldValue value
    | _ => invalidValueType
  | .DEST_NETWORK_TYPE | .SOURCE_NETWORK_TYPE =>
    match value with
    | .networkType value => yieldValue value
    | _ => invalidValueType
  | .DEST_BEARER_TYPE | .SOURCE_BEARER_TYPE =>
    match value with
    | .bearerType value => yieldValue value
    | _ => invalidValueType
  | .DEST_TELEMATICS_ID | .SOURCE_TELEMATICS_ID | .USER_MESSAGE_REFERENCE | .SOURCE_PORT
  | .DESTINATION_PORT | .SAR_MSG_REF_NUM | .SMS_SIGNAL => do encodeUint16 (← value.toInt)
  | .QOS_TIME_TO_LIVE => do encodeUint32 (← value.toInt)
  | .PAYLOAD_TYPE =>
    match value with
    | .payloadType value => yieldValue value
    | _ => invalidValueType
  | .ADDITIONAL_STATUS_INFO_TEXT =>
    match value with
    | .str value => encodeCstring value
    | _ => invalidValueType
  | .RECEIPTED_MESSAGE_ID =>
    match value with
    | .bytes value => encodeCbytes value
    | _ => invalidValueType
  | .MS_MSG_WAIT_FACILITIES =>
    match value with
    | .msMsgWaitFacilities value =>
      yieldInt ((if value.active then 0x80 else 0x00) ||| (value.indicator.value &&& 0x03) : ℕ)
    | _ => invalidValueType
  | .PRIVACY_INDICATOR =>
    match value with
    | .privacyIndicator value => yieldValue value
    | _ => invalidValueType
  | .SOURCE_SUBADDRESS | .DEST_SUBADDRESS =>
    match value with
    | .subaddress value => encodeSubaddress value
    | _ => invalidValueType
  | .USER_RESPONSE_CODE | .LANGUAGE_INDICATOR | .SAR_TOTAL_SEGMENTS | .SAR_SEGMENT_SEQNUM
  | .SC_INTERFACE_VERSION | .CALLBACK_NUM_PRES_IND | .NUMBER_OF_MESSAGES | .USSD_SERVICE_OP =>
    do yieldInt (← value.toInt)
  | .CALLBACK_NUM_ATAG | .CALLBACK_NUM | .MESSAGE_PAYLOAD =>
    match value with
    | .bytes value => .ok (value.map UInt8.toNat)
    | _ => invalidValueType
  | .DPF_RESULT | .SET_DPF | .MORE_MESSAGES_TO_SEND =>
    match value with
    | .bool value => yieldInt (if value then 1 else 0)
    | _ => invalidValueType
  | .MS_AVAILABILITY_STATUS =>
    match value with
    | .msAvailabilityStatus value => yieldValue value
    | _ => invalidValueType
  | .NETWORK_ERROR_CODE =>
    match value with
    | .networkErrorCode value => do
      return (← yieldInt value.networkType) ++ (← encodeUint16 value.errorCode)
    | _ => invalidValueType
  | .DELIVERY_FAILURE_REASON =>
    match value with
    | .deliveryFailureReason value => yieldValue value
    | _ => invalidValueType
  | .MESSAGE_STATE =>
    match value with
    | .messageState value => yieldValue value
    | _ => invalidValueType
  | .DISPLAY_TIME =>
    match value with
    | .displayTime value => yieldValue value
    | _ => invalidValueType
  | .MS_VALIDITY =>
    match value with
    | .msValidity value => yieldValue value
    | _ => invalidValueType
  -- the value is not looked at
  | .ALERT_ON_MESSAGE_DELIVERY => .ok []
  | .ITS_REPLY_TYPE =>
    match value with
    | .itsReplyType value => yieldValue value
    | _ => invalidValueType
  | .ITS_SESSION_INFO =>
    match value with
    | .itsSessionInfo value => do
      -- the flag takes the bit that the shift of the number leaves free
      return (← yieldInt value.sessionNumber) ++
        (← yieldInt (2 * value.sequenceNumber + if value.endOfSession then 1 else 0))
    | _ => invalidValueType

/-- `E(_decode_uint(value_bytes))`. -/
def decodeValue {E : Type} [Enumeration E] (valueBytes : Bytes) : Except Error E :=
  enumOf (decodeUint valueBytes)

def decodeSubaddress (valueBytes : Bytes) : Except Error Subaddress := do
  let type ← enumOf (← raised (byteAt valueBytes 0))
  return { type := type, value := valueBytes.drop 1 }

/-- `bool(value_bytes[0])`. -/
def decodeBool (valueBytes : Bytes) : Except Error Bool := do
  return (← raised (byteAt valueBytes 0)) != 0

def decodeOptionalParamValue (tag : OptionalParamTag) (valueBytes : Bytes) :
    Except Error OptionalParamValue :=
  match tag with
  | .DEST_ADDR_SUBUNIT | .SOURCE_ADDR_SUBUNIT => do return .subunit (← decodeValue valueBytes)
  | .DEST_NETWORK_TYPE | .SOURCE_NETWORK_TYPE => do
    return .networkType (← decodeValue valueBytes)
  | .DEST_BEARER_TYPE | .SOURCE_BEARER_TYPE => do return .bearerType (← decodeValue valueBytes)
  | .DEST_TELEMATICS_ID | .SOURCE_TELEMATICS_ID | .QOS_TIME_TO_LIVE | .USER_MESSAGE_REFERENCE
  | .USER_RESPONSE_CODE | .SOURCE_PORT | .DESTINATION_PORT | .SAR_MSG_REF_NUM
  | .LANGUAGE_INDICATOR | .SAR_TOTAL_SEGMENTS | .SAR_SEGMENT_SEQNUM | .SC_INTERFACE_VERSION
  | .CALLBACK_NUM_PRES_IND | .NUMBER_OF_MESSAGES | .USSD_SERVICE_OP | .SMS_SIGNAL =>
    .ok (.int (decodeUint valueBytes))
  | .PAYLOAD_TYPE => do return .payloadType (← decodeValue valueBytes)
  | .ADDITIONAL_STATUS_INFO_TEXT => do return .str (← decodeCstring valueBytes).1
  | .RECEIPTED_MESSAGE_ID => do return .bytes (← decodeCbytes valueBytes).1
  | .MS_MSG_WAIT_FACILITIES => do
    let n ← raised (byteAt valueBytes 0)
    let indicator ← enumOf (n &&& 0x03)
    return .msMsgWaitFacilities { active := bit n 0x80, indicator := indicator }
  | .PRIVACY_INDICATOR => do return .privacyIndicator (← decodeValue valueBytes)
  | .SOURCE_SUBADDRESS | .DEST_SUBADDRESS => do
    return .subaddress (← decodeSubaddress valueBytes)
  | .CALLBACK_NUM_ATAG | .CALLBACK_NUM | .MESSAGE_PAYLOAD => .ok (.bytes valueBytes)
  | .DPF_RESULT | .SET_DPF | .MORE_MESSAGES_TO_SEND => do
    return .bool (← decodeBool valueBytes)
  | .MS_AVAILABILITY_STATUS => do return .msAvailabilityStatus (← decodeValue valueBytes)
  | .NETWORK_ERROR_CODE => do
    let networkType ← raised (byteAt valueBytes 0)
    return .networkErrorCode
      { networkType := networkType, errorCode := decodeUint (valueBytes.drop 1) }
  | .DELIVERY_FAILURE_REASON => do return .deliveryFailureReason (← decodeValue valueBytes)
  | .MESSAGE_STATE => do return .messageState (← decodeValue valueBytes)
  | .DISPLAY_TIME => do return .displayTime (← decodeValue valueBytes)
  | .MS_VALIDITY => do return .msValidity (← decodeValue valueBytes)
  | .ALERT_ON_MESSAGE_DELIVERY => .ok .unit
  | .ITS_REPLY_TYPE => do return .itsReplyType (← decodeValue valueBytes)
  | .ITS_SESSION_INFO => do
    let sessionNumber ← raised (byteAt valueBytes 0)
    let n ← raised (byteAt valueBytes 1)
    return .itsSessionInfo {
      sessionNumber := sessionNumber
      sequenceNumber := (n >>> 1 : ℕ)
      endOfSession := bit n 0x01 }

/-! ### Parameters -/

def encodeOptionalParam (commandId : CommandId) :
    ByteWriter Error (OptionalParamTag × OptionalParamValue) := fun (tag, value) => do
  if tag ∉ validOptionalParams commandId then
    throw (.commandStatusError .ESME_ROPTPARNOTALLWD)
  let valueBytes ← encodeOptionalParamValue tag value
  return (← encodeUint16 tag.value) ++ (← encodeUint16 valueBytes.length) ++ valueBytes

def encodeOptionalParams (commandId : CommandId) (optionalParams : OptionalParams) :
    Except Error (List ℕ) :=
  writeAll (encodeOptionalParam commandId) optionalParams

/-- An iteration of the loop over the data. -/
def decodeOptionalParam (commandId : CommandId) (optionalParams : OptionalParams) :
    ByteReader Error OptionalParams := fun data => do
  let ((tagInt, valueLen), rest) ← raised (pairRead (unpackUInt 2) (unpackUInt 2) data)
  let tag ← enumOr .ESME_ROPTPARNOTALLWD tagInt.toNat
  if tag ∉ validOptionalParams commandId then
    throw (.commandStatusError .ESME_ROPTPARNOTALLWD)
  let value ← (decodeOptionalParamValue tag (rest.take valueLen.toNat)).mapError
    fun _ => .commandStatusError .ESME_RINVOPTPARAMVAL
  return (optionalParams.set tag value, rest.drop valueLen.toNat)

def decodeOptionalParams (commandId : CommandId) (data : Bytes) : Except Error OptionalParams :=
  readWhile (decodeOptionalParam commandId) [] data

end HatDrivers.Smpp.Transport
