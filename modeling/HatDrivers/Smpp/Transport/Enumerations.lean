import HatDrivers.Smpp.Common

namespace HatDrivers.Smpp.Transport

/-!
# SMPP — enumerations of the transport
-/

inductive CommandId
  | GENERIC_NACK | BIND_RECEIVER_REQ | BIND_RECEIVER_RESP | BIND_TRANSMITTER_REQ
  | BIND_TRANSMITTER_RESP | QUERY_SM_REQ | QUERY_SM_RESP | SUBMIT_SM_REQ | SUBMIT_SM_RESP
  | DELIVER_SM_REQ | DELIVER_SM_RESP | UNBIND_REQ | UNBIND_RESP | REPLACE_SM_REQ | REPLACE_SM_RESP
  | CANCEL_SM_REQ | CANCEL_SM_RESP | BIND_TRANSCEIVER_REQ | BIND_TRANSCEIVER_RESP | OUTBIND
  | ENQUIRE_LINK_REQ | ENQUIRE_LINK_RESP | SUBMIT_MULTI_REQ | SUBMIT_MULTI_RESP
  | ALERT_NOTIFICATION | DATA_SM_REQ | DATA_SM_RESP
  deriving DecidableEq

def CommandId.value : CommandId → ℕ
  | .GENERIC_NACK => 0x80000000
  | .BIND_RECEIVER_REQ => 0x00000001
  | .BIND_RECEIVER_RESP => 0x80000001
  | .BIND_TRANSMITTER_REQ => 0x00000002
  | .BIND_TRANSMITTER_RESP => 0x80000002
  | .QUERY_SM_REQ => 0x00000003
  | .QUERY_SM_RESP => 0x80000003
  | .SUBMIT_SM_REQ => 0x00000004
  | .SUBMIT_SM_RESP => 0x80000004
  | .DELIVER_SM_REQ => 0x00000005
  | .DELIVER_SM_RESP => 0x80000005
  | .UNBIND_REQ => 0x00000006
  | .UNBIND_RESP => 0x80000006
  | .REPLACE_SM_REQ => 0x00000007
  | .REPLACE_SM_RESP => 0x80000007
  | .CANCEL_SM_REQ => 0x00000008
  | .CANCEL_SM_RESP => 0x80000008
  | .BIND_TRANSCEIVER_REQ => 0x00000009
  | .BIND_TRANSCEIVER_RESP => 0x80000009
  | .OUTBIND => 0x0000000b
  | .ENQUIRE_LINK_REQ => 0x00000015
  | .ENQUIRE_LINK_RESP => 0x80000015
  | .SUBMIT_MULTI_REQ => 0x00000021
  | .SUBMIT_MULTI_RESP => 0x80000021
  | .ALERT_NOTIFICATION => 0x00000102
  | .DATA_SM_REQ => 0x00000103
  | .DATA_SM_RESP => 0x80000103

instance : Enumeration CommandId where
  name := "CommandId"
  value := CommandId.value
  members :=
    [.GENERIC_NACK, .BIND_RECEIVER_REQ, .BIND_RECEIVER_RESP, .BIND_TRANSMITTER_REQ,
     .BIND_TRANSMITTER_RESP, .QUERY_SM_REQ, .QUERY_SM_RESP, .SUBMIT_SM_REQ, .SUBMIT_SM_RESP,
     .DELIVER_SM_REQ, .DELIVER_SM_RESP, .UNBIND_REQ, .UNBIND_RESP, .REPLACE_SM_REQ,
     .REPLACE_SM_RESP, .CANCEL_SM_REQ, .CANCEL_SM_RESP, .BIND_TRANSCEIVER_REQ,
     .BIND_TRANSCEIVER_RESP, .OUTBIND, .ENQUIRE_LINK_REQ, .ENQUIRE_LINK_RESP, .SUBMIT_MULTI_REQ,
     .SUBMIT_MULTI_RESP, .ALERT_NOTIFICATION, .DATA_SM_REQ, .DATA_SM_RESP]
  find_value e := by cases e <;> rfl

inductive CommandStatus
  | ESME_ROK | ESME_RINVMSGLEN | ESME_RINVCMDLEN | ESME_RINVCMDID | ESME_RINVBNDSTS | ESME_RALYBND
  | ESME_RINVPRTFLG | ESME_RINVREGDLVFLG | ESME_RSYSERR | ESME_RINVSRCADR | ESME_RINVDSTADR
  | ESME_RINVMSGID | ESME_RBINDFAIL | ESME_RINVPASWD | ESME_RINVSYSID | ESME_RCANCELFAIL
  | ESME_RREPLACEFAIL | ESME_RMSGQFUL | ESME_RINVSERTYP | ESME_RINVNUMDESTS | ESME_RINVDLNAME
  | ESME_RINVDESTFLAG | ESME_RINVSUBREP | ESME_RINVESMCLASS | ESME_RCNTSUBDL | ESME_RSUBMITFAIL
  | ESME_RINVSRCTON | ESME_RINVSRCNPI | ESME_RINVDSTTON | ESME_RINVDSTNPI | ESME_RINVSYSTYP
  | ESME_RINVREPFLAG | ESME_RINVNUMMSGS | ESME_RTHROTTLED | ESME_RINVSCHED | ESME_RINVEXPIRY
  | ESME_RINVDFTMSGID | ESME_RX_T_APPN | ESME_RX_P_APPN | ESME_RX_R_APPN | ESME_RQUERYFAIL
  | ESME_RINVOPTPARSTREAM | ESME_ROPTPARNOTALLWD | ESME_RINVPARLEN | ESME_RMISSINGOPTPARAM
  | ESME_RINVOPTPARAMVAL | ESME_RDELIVERYFAILURE | ESME_RUNKNOWNERR
  deriving DecidableEq

def CommandStatus.value : CommandStatus → ℕ
  | .ESME_ROK => 0x00
  | .ESME_RINVMSGLEN => 0x01
  | .ESME_RINVCMDLEN => 0x02
  | .ESME_RINVCMDID => 0x03
  | .ESME_RINVBNDSTS => 0x04
  | .ESME_RALYBND => 0x05
  | .ESME_RINVPRTFLG => 0x06
  | .ESME_RINVREGDLVFLG => 0x07
  | .ESME_RSYSERR => 0x08
  | .ESME_RINVSRCADR => 0x0a
  | .ESME_RINVDSTADR => 0x0b
  | .ESME_RINVMSGID => 0x0c
  | .ESME_RBINDFAIL => 0x0d
  | .ESME_RINVPASWD => 0x0e
  | .ESME_RINVSYSID => 0x0f
  | .ESME_RCANCELFAIL => 0x11
  | .ESME_RREPLACEFAIL => 0x13
  | .ESME_RMSGQFUL => 0x14
  | .ESME_RINVSERTYP => 0x15
  | .ESME_RINVNUMDESTS => 0x33
  | .ESME_RINVDLNAME => 0x34
  | .ESME_RINVDESTFLAG => 0x40
  | .ESME_RINVSUBREP => 0x42
  | .ESME_RINVESMCLASS => 0x43
  | .ESME_RCNTSUBDL => 0x44
  | .ESME_RSUBMITFAIL => 0x45
  | .ESME_RINVSRCTON => 0x48
  | .ESME_RINVSRCNPI => 0x49
  | .ESME_RINVDSTTON => 0x50
  | .ESME_RINVDSTNPI => 0x51
  | .ESME_RINVSYSTYP => 0x53
  | .ESME_RINVREPFLAG => 0x54
  | .ESME_RINVNUMMSGS => 0x55
  | .ESME_RTHROTTLED => 0x58
  | .ESME_RINVSCHED => 0x61
  | .ESME_RINVEXPIRY => 0x62
  | .ESME_RINVDFTMSGID => 0x63
  | .ESME_RX_T_APPN => 0x64
  | .ESME_RX_P_APPN => 0x65
  | .ESME_RX_R_APPN => 0x66
  | .ESME_RQUERYFAIL => 0x67
  | .ESME_RINVOPTPARSTREAM => 0xc0
  | .ESME_ROPTPARNOTALLWD => 0xc1
  | .ESME_RINVPARLEN => 0xc2
  | .ESME_RMISSINGOPTPARAM => 0xc3
  | .ESME_RINVOPTPARAMVAL => 0xc4
  | .ESME_RDELIVERYFAILURE => 0xfe
  | .ESME_RUNKNOWNERR => 0xff

instance : Enumeration CommandStatus where
  name := "CommandStatus"
  value := CommandStatus.value
  members :=
    [.ESME_ROK, .ESME_RINVMSGLEN, .ESME_RINVCMDLEN, .ESME_RINVCMDID, .ESME_RINVBNDSTS,
     .ESME_RALYBND, .ESME_RINVPRTFLG, .ESME_RINVREGDLVFLG, .ESME_RSYSERR, .ESME_RINVSRCADR,
     .ESME_RINVDSTADR, .ESME_RINVMSGID, .ESME_RBINDFAIL, .ESME_RINVPASWD, .ESME_RINVSYSID,
     .ESME_RCANCELFAIL, .ESME_RREPLACEFAIL, .ESME_RMSGQFUL, .ESME_RINVSERTYP, .ESME_RINVNUMDESTS,
     .ESME_RINVDLNAME, .ESME_RINVDESTFLAG, .ESME_RINVSUBREP, .ESME_RINVESMCLASS, .ESME_RCNTSUBDL,
     .ESME_RSUBMITFAIL, .ESME_RINVSRCTON, .ESME_RINVSRCNPI, .ESME_RINVDSTTON, .ESME_RINVDSTNPI,
     .ESME_RINVSYSTYP, .ESME_RINVREPFLAG, .ESME_RINVNUMMSGS, .ESME_RTHROTTLED, .ESME_RINVSCHED,
     .ESME_RINVEXPIRY, .ESME_RINVDFTMSGID, .ESME_RX_T_APPN, .ESME_RX_P_APPN, .ESME_RX_R_APPN,
     .ESME_RQUERYFAIL, .ESME_RINVOPTPARSTREAM, .ESME_ROPTPARNOTALLWD, .ESME_RINVPARLEN,
     .ESME_RMISSINGOPTPARAM, .ESME_RINVOPTPARAMVAL, .ESME_RDELIVERYFAILURE, .ESME_RUNKNOWNERR]
  find_value e := by cases e <;> rfl

inductive BindType | TRANSMITTER | RECEIVER | TRANSCEIVER
  deriving DecidableEq

inductive NumericPlanIndicator
  | UNKNOWN | ISDN | DATA | TELEX | LAND_MOBILE | NATIONAL | PRIVATE | ERMES | INTERNET
  | WAP_CLIENT_ID
  deriving DecidableEq

def NumericPlanIndicator.value : NumericPlanIndicator → ℕ
  | .UNKNOWN => 0 | .ISDN => 1 | .DATA => 3 | .TELEX => 4 | .LAND_MOBILE => 6 | .NATIONAL => 8
  | .PRIVATE => 9 | .ERMES => 10 | .INTERNET => 14 | .WAP_CLIENT_ID => 18

instance : Enumeration NumericPlanIndicator where
  name := "NumericPlanIndicator"
  value := NumericPlanIndicator.value
  members :=
    [.UNKNOWN, .ISDN, .DATA, .TELEX, .LAND_MOBILE, .NATIONAL, .PRIVATE, .ERMES, .INTERNET,
     .WAP_CLIENT_ID]
  find_value e := by cases e <;> rfl

inductive MessagingMode | DEFAULT | DATAGRAM | FORWARD | STORE_AND_FORWARD
  deriving DecidableEq

def MessagingMode.value : MessagingMode → ℕ
  | .DEFAULT => 0 | .DATAGRAM => 1 | .FORWARD => 2 | .STORE_AND_FORWARD => 3

instance : Enumeration MessagingMode where
  name := "MessagingMode"
  value := MessagingMode.value
  members := [.DEFAULT, .DATAGRAM, .FORWARD, .STORE_AND_FORWARD]
  find_value e := by cases e <;> rfl

inductive MessageType
  | DEFAULT | DELIVERY_RECEIPT | DELIVERY_ACKNOWLEDGEMENT | MANUAL_ACKNOWLEDGEMENT
  | CONVERSATION_ABORT | INTERMEDIATE_DELIVERY_NOTIFICATION
  deriving DecidableEq

def MessageType.value : MessageType → ℕ
  | .DEFAULT => 0
  | .DELIVERY_RECEIPT => 1
  | .DELIVERY_ACKNOWLEDGEMENT => 2
  | .MANUAL_ACKNOWLEDGEMENT => 4
  | .CONVERSATION_ABORT => 6
  | .INTERMEDIATE_DELIVERY_NOTIFICATION => 8

instance : Enumeration MessageType where
  name := "MessageType"
  value := MessageType.value
  members :=
    [.DEFAULT, .DELIVERY_RECEIPT, .DELIVERY_ACKNOWLEDGEMENT, .MANUAL_ACKNOWLEDGEMENT,
     .CONVERSATION_ABORT, .INTERMEDIATE_DELIVERY_NOTIFICATION]
  find_value e := by cases e <;> rfl

inductive GsmFeature | UDHI | REPLY_PATH
  deriving DecidableEq

def GsmFeature.value : GsmFeature → ℕ
  | .UDHI => 1 | .REPLY_PATH => 2

instance : Enumeration GsmFeature where
  name := "GsmFeature"
  value := GsmFeature.value
  members := [.UDHI, .REPLY_PATH]
  find_value e := by cases e <;> rfl

inductive DeliveryReceipt | NO_RECEIPT | RECEIPT | RECEIPT_ON_FAILURE
  deriving DecidableEq

def DeliveryReceipt.value : DeliveryReceipt → ℕ
  | .NO_RECEIPT => 0 | .RECEIPT => 1 | .RECEIPT_ON_FAILURE => 2

instance : Enumeration DeliveryReceipt where
  name := "DeliveryReceipt"
  value := DeliveryReceipt.value
  members := [.NO_RECEIPT, .RECEIPT, .RECEIPT_ON_FAILURE]
  find_value e := by cases e <;> rfl

inductive Acknowledgement | DELIVERY | MANUAL
  deriving DecidableEq

def Acknowledgement.value : Acknowledgement → ℕ
  | .DELIVERY => 1 | .MANUAL => 2

instance : Enumeration Acknowledgement where
  name := "Acknowledgement"
  value := Acknowledgement.value
  members := [.DELIVERY, .MANUAL]
  find_value e := by cases e <;> rfl

inductive MessageState
  | ENROUTE | DELIVERED | EXPIRED | DELETED | UNDELIVERABLE | ACCEPTED | UNKNOWN | REJECTED
  deriving DecidableEq

def MessageState.value : MessageState → ℕ
  | .ENROUTE => 1 | .DELIVERED => 2 | .EXPIRED => 3 | .DELETED => 4 | .UNDELIVERABLE => 5
  | .ACCEPTED => 6 | .UNKNOWN => 7 | .REJECTED => 8

instance : Enumeration MessageState where
  name := "MessageState"
  value := MessageState.value
  members :=
    [.ENROUTE, .DELIVERED, .EXPIRED, .DELETED, .UNDELIVERABLE, .ACCEPTED, .UNKNOWN, .REJECTED]
  find_value e := by cases e <;> rfl

/-! ### Optional parameters -/

inductive OptionalParamTag
  | DEST_ADDR_SUBUNIT | DEST_NETWORK_TYPE | DEST_BEARER_TYPE | DEST_TELEMATICS_ID
  | SOURCE_ADDR_SUBUNIT | SOURCE_NETWORK_TYPE | SOURCE_BEARER_TYPE | SOURCE_TELEMATICS_ID
  | QOS_TIME_TO_LIVE | PAYLOAD_TYPE | ADDITIONAL_STATUS_INFO_TEXT | RECEIPTED_MESSAGE_ID
  | MS_MSG_WAIT_FACILITIES | PRIVACY_INDICATOR | SOURCE_SUBADDRESS | DEST_SUBADDRESS
  | USER_MESSAGE_REFERENCE | USER_RESPONSE_CODE | SOURCE_PORT | DESTINATION_PORT | SAR_MSG_REF_NUM
  | LANGUAGE_INDICATOR | SAR_TOTAL_SEGMENTS | SAR_SEGMENT_SEQNUM | SC_INTERFACE_VERSION
  | CALLBACK_NUM_PRES_IND | CALLBACK_NUM_ATAG | NUMBER_OF_MESSAGES | CALLBACK_NUM | DPF_RESULT
  | SET_DPF | MS_AVAILABILITY_STATUS | NETWORK_ERROR_CODE | MESSAGE_PAYLOAD
  | DELIVERY_FAILURE_REASON | MORE_MESSAGES_TO_SEND | MESSAGE_STATE | USSD_SERVICE_OP
  | DISPLAY_TIME | SMS_SIGNAL | MS_VALIDITY | ALERT_ON_MESSAGE_DELIVERY | ITS_REPLY_TYPE
  | ITS_SESSION_INFO
  deriving DecidableEq

def OptionalParamTag.value : OptionalParamTag → ℕ
  | .DEST_ADDR_SUBUNIT => 0x0005
  | .DEST_NETWORK_TYPE => 0x0006
  | .DEST_BEARER_TYPE => 0x0007
  | .DEST_TELEMATICS_ID => 0x0008
  | .SOURCE_ADDR_SUBUNIT => 0x000d
  | .SOURCE_NETWORK_TYPE => 0x000e
  | .SOURCE_BEARER_TYPE => 0x000f
  | .SOURCE_TELEMATICS_ID => 0x0010
  | .QOS_TIME_TO_LIVE => 0x0017
  | .PAYLOAD_TYPE => 0x0019
  | .ADDITIONAL_STATUS_INFO_TEXT => 0x001d
  | .RECEIPTED_MESSAGE_ID => 0x001e
  | .MS_MSG_WAIT_FACILITIES => 0x0030
  | .PRIVACY_INDICATOR => 0x0201
  | .SOURCE_SUBADDRESS => 0x0202
  | .DEST_SUBADDRESS => 0x0203
  | .USER_MESSAGE_REFERENCE => 0x0204
  | .USER_RESPONSE_CODE => 0x0205
  | .SOURCE_PORT => 0x020a
  | .DESTINATION_PORT => 0x020b
  | .SAR_MSG_REF_NUM => 0x020c
  | .LANGUAGE_INDICATOR => 0x020d
  | .SAR_TOTAL_SEGMENTS => 0x020e
  | .SAR_SEGMENT_SEQNUM => 0x020f
  | .SC_INTERFACE_VERSION => 0x0210
  | .CALLBACK_NUM_PRES_IND => 0x0302
  | .CALLBACK_NUM_ATAG => 0x0303
  | .NUMBER_OF_MESSAGES => 0x0304
  | .CALLBACK_NUM => 0x0381
  | .DPF_RESULT => 0x0420
  | .SET_DPF => 0x0421
  | .MS_AVAILABILITY_STATUS => 0x0422
  | .NETWORK_ERROR_CODE => 0x0423
  | .MESSAGE_PAYLOAD => 0x0424
  | .DELIVERY_FAILURE_REASON => 0x0425
  | .MORE_MESSAGES_TO_SEND => 0x0426
  | .MESSAGE_STATE => 0x0427
  | .USSD_SERVICE_OP => 0x0501
  | .DISPLAY_TIME => 0x1201
  | .SMS_SIGNAL => 0x1203
  | .MS_VALIDITY => 0x1204
  | .ALERT_ON_MESSAGE_DELIVERY => 0x130c
  | .ITS_REPLY_TYPE => 0x1380
  | .ITS_SESSION_INFO => 0x1383

instance : Enumeration OptionalParamTag where
  name := "OptionalParamTag"
  value := OptionalParamTag.value
  members :=
    [.DEST_ADDR_SUBUNIT, .DEST_NETWORK_TYPE, .DEST_BEARER_TYPE, .DEST_TELEMATICS_ID,
     .SOURCE_ADDR_SUBUNIT, .SOURCE_NETWORK_TYPE, .SOURCE_BEARER_TYPE, .SOURCE_TELEMATICS_ID,
     .QOS_TIME_TO_LIVE, .PAYLOAD_TYPE, .ADDITIONAL_STATUS_INFO_TEXT, .RECEIPTED_MESSAGE_ID,
     .MS_MSG_WAIT_FACILITIES, .PRIVACY_INDICATOR, .SOURCE_SUBADDRESS, .DEST_SUBADDRESS,
     .USER_MESSAGE_REFERENCE, .USER_RESPONSE_CODE, .SOURCE_PORT, .DESTINATION_PORT,
     .SAR_MSG_REF_NUM, .LANGUAGE_INDICATOR, .SAR_TOTAL_SEGMENTS, .SAR_SEGMENT_SEQNUM,
     .SC_INTERFACE_VERSION, .CALLBACK_NUM_PRES_IND, .CALLBACK_NUM_ATAG, .NUMBER_OF_MESSAGES,
     .CALLBACK_NUM, .DPF_RESULT, .SET_DPF, .MS_AVAILABILITY_STATUS, .NETWORK_ERROR_CODE,
     .MESSAGE_PAYLOAD, .DELIVERY_FAILURE_REASON, .MORE_MESSAGES_TO_SEND, .MESSAGE_STATE,
     .USSD_SERVICE_OP, .DISPLAY_TIME, .SMS_SIGNAL, .MS_VALIDITY, .ALERT_ON_MESSAGE_DELIVERY,
     .ITS_REPLY_TYPE, .ITS_SESSION_INFO]
  find_value e := by cases e <;> rfl

inductive Subunit | UNKNOWN | MS_DISPLAY | MOBILE_EQUIPMENT | SMART_CARD | EXTERNAL_UNIT
  deriving DecidableEq

def Subunit.value : Subunit → ℕ
  | .UNKNOWN => 0 | .MS_DISPLAY => 1 | .MOBILE_EQUIPMENT => 2 | .SMART_CARD => 3
  | .EXTERNAL_UNIT => 4

instance : Enumeration Subunit where
  name := "Subunit"
  value := Subunit.value
  members := [.UNKNOWN, .MS_DISPLAY, .MOBILE_EQUIPMENT, .SMART_CARD, .EXTERNAL_UNIT]
  find_value e := by cases e <;> rfl

inductive NetworkType | UNKNOWN | GSM | TDMA | CDMA | PDC | PHS | IDEN | AMPS | PAGING_NETWORK
  deriving DecidableEq

def NetworkType.value : NetworkType → ℕ
  | .UNKNOWN => 0 | .GSM => 1 | .TDMA => 2 | .CDMA => 3 | .PDC => 4 | .PHS => 5 | .IDEN => 6
  | .AMPS => 7 | .PAGING_NETWORK => 8

instance : Enumeration NetworkType where
  name := "NetworkType"
  value := NetworkType.value
  members := [.UNKNOWN, .GSM, .TDMA, .CDMA, .PDC, .PHS, .IDEN, .AMPS, .PAGING_NETWORK]
  find_value e := by cases e <;> rfl

inductive BearerType
  | UNKNOWN | SMS | CSD | PACKET_DATA | USSD | CDPD | DATATAC | FLEX | CELL_BROADCAST
  deriving DecidableEq

def BearerType.value : BearerType → ℕ
  | .UNKNOWN => 0 | .SMS => 1 | .CSD => 2 | .PACKET_DATA => 3 | .USSD => 4 | .CDPD => 5
  | .DATATAC => 6 | .FLEX => 7 | .CELL_BROADCAST => 8

instance : Enumeration BearerType where
  name := "BearerType"
  value := BearerType.value
  members := [.UNKNOWN, .SMS, .CSD, .PACKET_DATA, .USSD, .CDPD, .DATATAC, .FLEX, .CELL_BROADCAST]
  find_value e := by cases e <;> rfl

inductive MessageWaitingIndicator | VOICEMAIL | FAX | ELECTRONICE_MAIL | OTHER
  deriving DecidableEq

def MessageWaitingIndicator.value : MessageWaitingIndicator → ℕ
  | .VOICEMAIL => 0 | .FAX => 1 | .ELECTRONICE_MAIL => 2 | .OTHER => 3

instance : Enumeration MessageWaitingIndicator where
  name := "MessageWaitingIndicator"
  value := MessageWaitingIndicator.value
  members := [.VOICEMAIL, .FAX, .ELECTRONICE_MAIL, .OTHER]
  find_value e := by cases e <;> rfl

inductive SubaddressType | NSAP_EVEN | NSAP_ODD | USER
  deriving DecidableEq

def SubaddressType.value : SubaddressType → ℕ
  | .NSAP_EVEN => 0x80 | .NSAP_ODD => 0x88 | .USER => 0xa0

instance : Enumeration SubaddressType where
  name := "SubaddressType"
  value := SubaddressType.value
  members := [.NSAP_EVEN, .NSAP_ODD, .USER]
  find_value e := by cases e <;> rfl

inductive PayloadType | DEFAULT | WCMP
  deriving DecidableEq

def PayloadType.value : PayloadType → ℕ
  | .DEFAULT => 0 | .WCMP => 1

instance : Enumeration PayloadType where
  name := "PayloadType"
  value := PayloadType.value
  members := [.DEFAULT, .WCMP]
  find_value e := by cases e <;> rfl

inductive PrivacyIndicator | NOT_RESTRICTED | RESTRICTED | CONFIDENTAL | SECRET
  deriving DecidableEq

def PrivacyIndicator.value : PrivacyIndicator → ℕ
  | .NOT_RESTRICTED => 0 | .RESTRICTED => 1 | .CONFIDENTAL => 2 | .SECRET => 3

instance : Enumeration PrivacyIndicator where
  name := "PrivacyIndicator"
  value := PrivacyIndicator.value
  members := [.NOT_RESTRICTED, .RESTRICTED, .CONFIDENTAL, .SECRET]
  find_value e := by cases e <;> rfl

inductive MsAvailabilityStatus | AVAILABLE | DENIED | UNAVAILABLE
  deriving DecidableEq

def MsAvailabilityStatus.value : MsAvailabilityStatus → ℕ
  | .AVAILABLE => 0 | .DENIED => 1 | .UNAVAILABLE => 2

instance : Enumeration MsAvailabilityStatus where
  name := "MsAvailabilityStatus"
  value := MsAvailabilityStatus.value
  members := [.AVAILABLE, .DENIED, .UNAVAILABLE]
  find_value e := by cases e <;> rfl

inductive DeliveryFailureReason
  | DESTINATION_UNAVAILABLE | DESTINATION_ADDRESS_INVALID | PERMANENT_NETWORK_ERROR
  | TEMPORARY_NETWORK_ERROR
  deriving DecidableEq

def DeliveryFailureReason.value : DeliveryFailureReason → ℕ
  | .DESTINATION_UNAVAILABLE => 0
  | .DESTINATION_ADDRESS_INVALID => 1
  | .PERMANENT_NETWORK_ERROR => 2
  | .TEMPORARY_NETWORK_ERROR => 3

instance : Enumeration DeliveryFailureReason where
  name := "DeliveryFailureReason"
  value := DeliveryFailureReason.value
  members :=
    [.DESTINATION_UNAVAILABLE, .DESTINATION_ADDRESS_INVALID, .PERMANENT_NETWORK_ERROR,
     .TEMPORARY_NETWORK_ERROR]
  find_value e := by cases e <;> rfl

inductive DisplayTime | TEMPORARY | DEFAULT | INVOKE
  deriving DecidableEq

def DisplayTime.value : DisplayTime → ℕ
  | .TEMPORARY => 0 | .DEFAULT => 1 | .INVOKE => 2

instance : Enumeration DisplayTime where
  name := "DisplayTime"
  value := DisplayTime.value
  members := [.TEMPORARY, .DEFAULT, .INVOKE]
  find_value e := by cases e <;> rfl

inductive MsValidity | STORE_INDEFINITELY | POWER_DOWN | REGISTRATION_AREA | DISPLAY_ONLY
  deriving DecidableEq

def MsValidity.value : MsValidity → ℕ
  | .STORE_INDEFINITELY => 0 | .POWER_DOWN => 1 | .REGISTRATION_AREA => 2 | .DISPLAY_ONLY => 3

instance : Enumeration MsValidity where
  name := "MsValidity"
  value := MsValidity.value
  members := [.STORE_INDEFINITELY, .POWER_DOWN, .REGISTRATION_AREA, .DISPLAY_ONLY]
  find_value e := by cases e <;> rfl

inductive ItsReplyType
  | DIGIT | NUMBER | TELEPHONE_NUMBER | PASSWORD | CHARACTER_LINE | MENU | DATE | TIME | CONTINUE
  deriving DecidableEq

def ItsReplyType.value : ItsReplyType → ℕ
  | .DIGIT => 0 | .NUMBER => 1 | .TELEPHONE_NUMBER => 2 | .PASSWORD => 3 | .CHARACTER_LINE => 4
  | .MENU => 5 | .DATE => 6 | .TIME => 7 | .CONTINUE => 8

instance : Enumeration ItsReplyType where
  name := "ItsReplyType"
  value := ItsReplyType.value
  members :=
    [.DIGIT, .NUMBER, .TELEPHONE_NUMBER, .PASSWORD, .CHARACTER_LINE, .MENU, .DATE, .TIME,
     .CONTINUE]
  find_value e := by cases e <;> rfl

end HatDrivers.Smpp.Transport
