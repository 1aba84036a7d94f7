import HatDrivers.Smpp.Transport.OptionalParams

namespace HatDrivers.Smpp.Transport

open HatDrivers.Lib

/-!
# SMPP — encoder

A PDU is a header of four integers (the length of the PDU, the command, its status, and a
sequence number) and a body, the form of which depends on the command.
-/

/-! ### Headers -/

def headerLength : ℕ := 16

structure Header where
  commandLength : ℕ
  commandId : CommandId
  commandStatus : CommandStatus
  sequenceNumber : ℕ
  deriving DecidableEq

def decodeSequenceNumber (headerBytes : Bytes) : ℕ := ofBE (headerBytes.drop 12)

/-- The header of the 16 bytes of one. -/
def decodeHeader (headerBytes : Bytes) : Except Error Header := do
  let cmdLen := ofBE (slice headerBytes 0 4)
  let cmdId := ofBE (slice headerBytes 4 8)
  let cmdStatus := ofBE (slice headerBytes 8 12)
  let seqNum := ofBE (slice headerBytes 12 16)
  if cmdLen < headerLength then throw (.commandStatusError .ESME_RINVCMDLEN)
  let commandId ← enumOr .ESME_RINVCMDID cmdId
  return {
    commandLength := cmdLen
    commandId := commandId
    commandStatus := (Enumeration.ofValue? cmdStatus).getD .ESME_RUNKNOWNERR
    sequenceNumber := seqNum }

def encodeHeader (header : Header) : Except Error (List ℕ) := do
  return (← encodeUint32 header.commandLength) ++ (← encodeUint32 header.commandId.value) ++
    (← encodeUint32 header.commandStatus.value) ++ (← encodeUint32 header.sequenceNumber)

/-- The sequence number of a header has four bytes. -/
theorem sequenceNumber_lt {headerBytes : Bytes} {header : Header}
    (h : decodeHeader headerBytes = .ok header) : header.sequenceNumber < 256 ^ 4 := by
  simp only [decodeHeader] at h
  split at h
  · cases h
  · obtain ⟨commandId, _, h⟩ := bind_eq_ok.mp h
    obtain rfl := Except.ok.inj h
    have hlength : (slice headerBytes 12 16).length ≤ 4 := by
      rw [slice, List.length_drop, List.length_take]
      omega
    have hlt : ofBE (slice headerBytes 12 16) < 256 ^ (slice headerBytes 12 16).length := by
      rw [ofBE, ← List.length_reverse]
      exact ofLE_lt _
    exact Nat.lt_of_lt_of_le hlt (Nat.pow_le_pow_right (by omega) hlength)

section Slices

variable (a b c d : ℕ) (rest : Bytes)

private theorem slice_first : slice (bytesOf (beDigits 4 a) ++ rest) 0 4 = bytesOf (beDigits 4 a) :=
  slice_zero (length_beDigits 4 a) rest

private theorem slice_second :
    slice (bytesOf (beDigits 4 a) ++ (bytesOf (beDigits 4 b) ++ rest)) 4 8 =
      bytesOf (beDigits 4 b) := by
  rw [slice_skip (by simp), length_beDigits]
  exact slice_first b rest

private theorem slice_third :
    slice (bytesOf (beDigits 4 a) ++ (bytesOf (beDigits 4 b) ++ (bytesOf (beDigits 4 c) ++ rest)))
      8 12 = bytesOf (beDigits 4 c) := by
  rw [slice_skip (by simp), length_beDigits]
  exact slice_second b c rest

private theorem slice_fourth :
    slice (bytesOf (beDigits 4 a) ++ (bytesOf (beDigits 4 b) ++ (bytesOf (beDigits 4 c) ++
      bytesOf (beDigits 4 d)))) 12 16 = bytesOf (beDigits 4 d) := by
  rw [slice_skip (by simp), length_beDigits, ← List.append_nil (bytesOf (beDigits 4 d))]
  exact slice_third b c d []

end Slices

/-- **A header is read back.** -/
theorem decodeHeader_encodeHeader {header : Header} {ns : List ℕ}
    (h : encodeHeader header = .ok ns) (hlength : headerLength ≤ header.commandLength) :
    ns.length = headerLength ∧ decodeHeader (bytesOf ns) = .ok header := by
  obtain ⟨lengthBytes, hlengthBytes, h⟩ := bind_eq_ok.mp h
  obtain ⟨idBytes, hidBytes, h⟩ := bind_eq_ok.mp h
  obtain ⟨statusBytes, hstatusBytes, h⟩ := bind_eq_ok.mp h
  obtain ⟨numberBytes, hnumberBytes, h⟩ := bind_eq_ok.mp h
  obtain rfl := Except.ok.inj h
  obtain ⟨hlengthLt, rfl⟩ := encodeUint32_eq_ok.mp hlengthBytes
  obtain ⟨hidLt, rfl⟩ := encodeUint32_eq_ok.mp hidBytes
  obtain ⟨hstatusLt, rfl⟩ := encodeUint32_eq_ok.mp hstatusBytes
  obtain ⟨hnumberLt, rfl⟩ := encodeUint32_eq_ok.mp hnumberBytes
  obtain ⟨commandLength, commandId, commandStatus, sequenceNumber⟩ := header
  constructor
  · simp [headerLength]
  · simp only [decodeHeader, bytesOf_append, List.append_assoc, slice_first, slice_second,
      slice_third, slice_fourth, ofBE_beDigits_of_lt hlengthLt, ofBE_beDigits_of_lt hidLt,
      ofBE_beDigits_of_lt hstatusLt, ofBE_beDigits_of_lt hnumberLt]
    rw [if_neg (Nat.not_lt.mpr hlength),
      show commandId.value = Enumeration.value commandId from rfl,
      enumOr_value, show commandStatus.value = Enumeration.value commandStatus from rfl,
      Enumeration.ofValue?_value]
    rfl

/-! ### Requests -/

def decodeBindReq (bindType : BindType) (reqBytes : Bytes) : Except Error BindReq := do
  let (systemId, rest) ← decodeCstring reqBytes
  let (password, rest) ← decodeCstring rest
  let (systemType, rest) ← decodeCstring rest
  let (interfaceVersion, rest) ← readByte rest
  let (addrTon, rest) ← decodeSourceAddrTon rest
  let (addrNpi, rest) ← decodeSourceAddrNpi rest
  let (addressRange, _) ← decodeCstring rest
  return {
    bindType := bindType
    systemId := systemId
    password := password
    systemType := systemType
    interfaceVersion := interfaceVersion
    addrTon := addrTon
    addrNpi := addrNpi
    addressRange := addressRange }

def encodeBindReq (req : BindReq) : Except Error (List ℕ) := do
  return (← encodeCstring req.systemId) ++ (← encodeCstring req.password) ++
    (← encodeCstring req.systemType) ++ (← yieldInt req.interfaceVersion) ++
    (← yieldValue req.addrTon) ++ (← yieldValue req.addrNpi) ++
    (← encodeCstring req.addressRange)

/-- The length of a message, and the message. -/
def decodeShortMessage : ByteReader Error Bytes := fun rest => do
  let (shortMessageLen, rest) ← readByte rest
  readBytes shortMessageLen rest

def encodeShortMessage (shortMessage : Bytes) : Except Error (List ℕ) := do
  if shortMessage.length > 254 then throw (.commandStatusError .ESME_RINVMSGLEN)
  return (← yieldInt shortMessage.length) ++ shortMessage.map UInt8.toNat

def decodeSubmitSmReq (reqBytes : Bytes) : Except Error SubmitSmReq := do
  let (serviceType, rest) ← decodeCstring reqBytes
  let (sourceAddrTon, rest) ← decodeSourceAddrTon rest
  let (sourceAddrNpi, rest) ← decodeSourceAddrNpi rest
  let (sourceAddr, rest) ← decodeCstring rest
  let (destAddrTon, rest) ← decodeDestAddrTon rest
  let (destAddrNpi, rest) ← decodeDestAddrNpi rest
  let (destinationAddr, rest) ← decodeCstring rest
  let (esmClass, rest) ← decodeEsmClass rest
  let (protocolId, rest) ← readByte rest
  let (priorityFlag, rest) ← decodePriorityFlag rest
  let (scheduleDeliveryTime, rest) ← decodeScheduleDeliveryTime rest
  let (validityPeriod, rest) ← decodeValidityPeriod rest
  let (registeredDelivery, rest) ← decodeRegisteredDelivery rest
  let (replaceIfPresentFlag, rest) ← readByte rest
  let (dataCoding, rest) ← decodeDataCoding rest
  let (smDefaultMsgId, rest) ← readByte rest
  let (shortMessage, rest) ← decodeShortMessage rest
  let optionalParams ← decodeOptionalParams .SUBMIT_SM_REQ rest
  return {
    serviceType := serviceType
    sourceAddrTon := sourceAddrTon
    sourceAddrNpi := sourceAddrNpi
    sourceAddr := sourceAddr
    destAddrTon := destAddrTon
    destAddrNpi := destAddrNpi
    destinationAddr := destinationAddr
    esmClass := esmClass
    protocolId := protocolId
    priorityFlag := priorityFlag
    scheduleDeliveryTime := scheduleDeliveryTime
    validityPeriod := validityPeriod
    registeredDelivery := registeredDelivery
    replaceIfPresentFlag := replaceIfPresentFlag != 0
    dataCoding := dataCoding
    smDefaultMsgId := smDefaultMsgId
    shortMessage := shortMessage
    optionalParams := optionalParams }

def encodeSubmitSmReq (req : SubmitSmReq) : Except Error (List ℕ) := do
  return (← encodeCstring req.serviceType) ++ (← yieldValue req.sourceAddrTon) ++
    (← yieldValue req.sourceAddrNpi) ++ (← encodeCstring req.sourceAddr) ++
    (← yieldValue req.destAddrTon) ++ (← yieldValue req.destAddrNpi) ++
    (← encodeCstring req.destinationAddr) ++ (← encodeEsmClass req.esmClass) ++
    (← yieldInt req.protocolId) ++ (← yieldValue req.priorityFlag) ++
    (← encodeTime req.scheduleDeliveryTime) ++ (← encodeTime req.validityPeriod) ++
    (← encodeRegisteredDelivery req.registeredDelivery) ++
    (← yieldInt (if req.replaceIfPresentFlag then 1 else 0)) ++
    (← yieldValue req.dataCoding) ++ (← yieldInt req.smDefaultMsgId) ++
    (← encodeShortMessage req.shortMessage) ++
    (← encodeOptionalParams .SUBMIT_SM_REQ req.optionalParams)

def decodeDeliverSmReq (reqBytes : Bytes) : Except Error DeliverSmReq := do
  let (serviceType, rest) ← decodeCstring reqBytes
  let (sourceAddrTon, rest) ← decodeSourceAddrTon rest
  let (sourceAddrNpi, rest) ← decodeSourceAddrNpi rest
  let (sourceAddr, rest) ← decodeCstring rest
  let (destAddrTon, rest) ← decodeDestAddrTon rest
  let (destAddrNpi, rest) ← decodeDestAddrNpi rest
  let (destinationAddr, rest) ← decodeCstring rest
  let (esmClass, rest) ← decodeEsmClass rest
  let (protocolId, rest) ← readByte rest
  let (priorityFlag, rest) ← decodePriorityFlag rest
  let (_, rest) ← decodeCstring rest
  let (_, rest) ← decodeCstring rest
  let (registeredDelivery, rest) ← decodeRegisteredDelivery rest
  let rest := rest.drop 1
  let (dataCoding, rest) ← decodeDataCoding rest
  let rest := rest.drop 1
  let (shortMessage, rest) ← decodeShortMessage rest
  let optionalParams ← decodeOptionalParams .DELIVER_SM_REQ rest
  return {
    serviceType := serviceType
    sourceAddrTon := sourceAddrTon
    sourceAddrNpi := sourceAddrNpi
    sourceAddr := sourceAddr
    destAddrTon := destAddrTon
    destAddrNpi := destAddrNpi
    destinationAddr := destinationAddr
    esmClass := esmClass
    protocolId := protocolId
    priorityFlag := priorityFlag
    registeredDelivery := registeredDelivery
    dataCoding := dataCoding
    shortMessage := shortMessage
    optionalParams := optionalParams }

def encodeDeliverSmReq (req : DeliverSmReq) : Except Error (List ℕ) := do
  return (← encodeCstring req.serviceType) ++ (← yieldValue req.sourceAddrTon) ++
    (← yieldValue req.sourceAddrNpi) ++ (← encodeCstring req.sourceAddr) ++
    (← yieldValue req.destAddrTon) ++ (← yieldValue req.destAddrNpi) ++
    (← encodeCstring req.destinationAddr) ++ (← encodeEsmClass req.esmClass) ++
    (← yieldInt req.protocolId) ++ (← yieldValue req.priorityFlag) ++ [0, 0] ++
    (← encodeRegisteredDelivery req.registeredDelivery) ++ [0] ++
    (← yieldValue req.dataCoding) ++ [0] ++ (← encodeShortMessage req.shortMessage) ++
    (← encodeOptionalParams .DELIVER_SM_REQ req.optionalParams)

def decodeDataSmReq (reqBytes : Bytes) : Except Error DataSmReq := do
  let (serviceType, rest) ← decodeCstring reqBytes
  let (sourceAddrTon, rest) ← decodeSourceAddrTon rest
  let (sourceAddrNpi, rest) ← decodeSourceAddrNpi rest
  let (sourceAddr, rest) ← decodeCstring rest
  let (destAddrTon, rest) ← decodeDestAddrTon rest
  let (destAddrNpi, rest) ← decodeDestAddrNpi rest
  let (destinationAddr, rest) ← decodeCstring rest
  let (esmClass, rest) ← decodeEsmClass rest
  let (registeredDelivery, rest) ← decodeRegisteredDelivery rest
  let (dataCoding, rest) ← decodeDataCoding rest
  let optionalParams ← decodeOptionalParams .DATA_SM_REQ rest
  return {
    serviceType := serviceType
    sourceAddrTon := sourceAddrTon
    sourceAddrNpi := sourceAddrNpi
    sourceAddr := sourceAddr
    destAddrTon := destAddrTon
    destAddrNpi := destAddrNpi
    destinationAddr := destinationAddr
    esmClass := esmClass
    registeredDelivery := registeredDelivery
    dataCoding := dataCoding
    optionalParams := optionalParams }

def encodeDataSmReq (req : DataSmReq) : Except Error (List ℕ) := do
  return (← encodeCstring req.serviceType) ++ (← yieldValue req.sourceAddrTon) ++
    (← yieldValue req.sourceAddrNpi) ++ (← encodeCstring req.sourceAddr) ++
    (← yieldValue req.destAddrTon) ++ (← yieldValue req.destAddrNpi) ++
    (← encodeCstring req.destinationAddr) ++ (← encodeEsmClass req.esmClass) ++
    (← encodeRegisteredDelivery req.registeredDelivery) ++ (← yieldValue req.dataCoding) ++
    (← encodeOptionalParams .DATA_SM_REQ req.optionalParams)

def decodeQuerySmReq (reqBytes : Bytes) : Except Error QuerySmReq := do
  let (messageId, rest) ← decodeCbytes reqBytes
  let (sourceAddrTon, rest) ← decodeSourceAddrTon rest
  let (sourceAddrNpi, rest) ← decodeSourceAddrNpi rest
  let (sourceAddr, _) ← decodeCstring rest
  return {
    messageId := messageId
    sourceAddrTon := sourceAddrTon
    sourceAddrNpi := sourceAddrNpi
    sourceAddr := sourceAddr }

def encodeQuerySmReq (req : QuerySmReq) : Except Error (List ℕ) := do
  return (← encodeCbytes req.messageId) ++ (← yieldValue req.sourceAddrTon) ++
    (← yieldValue req.sourceAddrNpi) ++ (← encodeCstring req.sourceAddr)

def decodeCancelSmReq (reqBytes : Bytes) : Except Error CancelSmReq := do
  let (serviceType, rest) ← decodeCstring reqBytes
  let (messageId, rest) ← decodeCbytes rest
  let (sourceAddrTon, rest) ← decodeSourceAddrTon rest
  let (sourceAddrNpi, rest) ← decodeSourceAddrNpi rest
  let (sourceAddr, rest) ← decodeCstring rest
  let (destAddrTon, rest) ← decodeDestAddrTon rest
  let (destAddrNpi, rest) ← decodeDestAddrNpi rest
  let (destinationAddr, _) ← decodeCstring rest
  return {
    serviceType := serviceType
    messageId := messageId
    sourceAddrTon := sourceAddrTon
    sourceAddrNpi := sourceAddrNpi
    sourceAddr := sourceAddr
    destAddrTon := destAddrTon
    destAddrNpi := destAddrNpi
    destinationAddr := destinationAddr }

def encodeCancelSmReq (req : CancelSmReq) : Except Error (List ℕ) := do
  return (← encodeCstring req.serviceType) ++ (← encodeCbytes req.messageId) ++
    (← yieldValue req.sourceAddrTon) ++ (← yieldValue req.sourceAddrNpi) ++
    (← encodeCstring req.sourceAddr) ++ (← yieldValue req.destAddrTon) ++
    (← yieldValue req.destAddrNpi) ++ (← encodeCstring req.destinationAddr)

def decodeReplaceSmReq (reqBytes : Bytes) : Except Error ReplaceSmReq := do
  let (messageId, rest) ← decodeCbytes reqBytes
  let (sourceAddrTon, rest) ← decodeSourceAddrTon rest
  let (sourceAddrNpi, rest) ← decodeSourceAddrNpi rest
  let (sourceAddr, rest) ← decodeCstring rest
  let (scheduleDeliveryTime, rest) ← decodeScheduleDeliveryTime rest
  let (validityPeriod, rest) ← decodeValidityPeriod rest
  let (registeredDelivery, rest) ← decodeRegisteredDelivery rest
  let (smDefaultMsgId, rest) ← readByte rest
  let (shortMessage, _) ← decodeShortMessage rest
  return {
    messageId := messageId
    sourceAddrTon := sourceAddrTon
    sourceAddrNpi := sourceAddrNpi
    sourceAddr := sourceAddr
    scheduleDeliveryTime := scheduleDeliveryTime
    validityPeriod := validityPeriod
    registeredDelivery := registeredDelivery
    smDefaultMsgId := smDefaultMsgId
    shortMessage := shortMessage }

def encodeReplaceSmReq (req : ReplaceSmReq) : Except Error (List ℕ) := do
  return (← encodeCbytes req.messageId) ++ (← yieldValue req.sourceAddrTon) ++
    (← yieldValue req.sourceAddrNpi) ++ (← encodeCstring req.sourceAddr) ++
    (← encodeTime req.scheduleDeliveryTime) ++ (← encodeTime req.validityPeriod) ++
    (← encodeRegisteredDelivery req.registeredDelivery) ++ (← yieldInt req.smDefaultMsgId) ++
    (← encodeShortMessage req.shortMessage)

/-! ### Responses -/

def decodeBindRes (bindType : BindType) (resBytes : Bytes) : Except Error BindRes := do
  let (systemId, rest) ← decodeCstring resBytes
  let optionalParams ← decodeOptionalParams .BIND_RECEIVER_RESP rest
  return { bindType := bindType, systemId := systemId, optionalParams := optionalParams }

def encodeBindRes (res : BindRes) : Except Error (List ℕ) := do
  return (← encodeCstring res.systemId) ++
    (← encodeOptionalParams .BIND_RECEIVER_RESP res.optionalParams)

def decodeDataSmRes (resBytes : Bytes) : Except Error DataSmRes := do
  let (messageId, rest) ← decodeCbytes resBytes
  let optionalParams ← decodeOptionalParams .DATA_SM_RESP rest
  return { messageId := messageId, optionalParams := optionalParams }

def encodeDataSmRes (res : DataSmRes) : Except Error (List ℕ) := do
  return (← encodeCbytes res.messageId) ++
    (← encodeOptionalParams .DATA_SM_RESP res.optionalParams)

def decodeQuerySmRes (resBytes : Bytes) : Except Error QuerySmRes := do
  let (messageId, rest) ← decodeCbytes resBytes
  let (finalDate, rest) ← decodeTime rest
  let (messageState, rest) ← readByte rest
  let messageState ← enumOf messageState
  let (errorCode, _) ← readByte rest
  return {
    messageId := messageId
    finalDate := finalDate
    messageState := messageState
    errorCode := errorCode }

def encodeQuerySmRes (res : QuerySmRes) : Except Error (List ℕ) := do
  return (← encodeCbytes res.messageId) ++ (← encodeTime res.finalDate) ++
    (← yieldValue res.messageState) ++ (← yieldInt res.errorCode)

/-! ### Notifications -/

def decodeOutbindNotification (notificationBytes : Bytes) : Except Error OutbindNotification := do
  let (systemId, rest) ← decodeCstring notificationBytes
  let (password, _) ← decodeCstring rest
  return { systemId := systemId, password := password }

def encodeOutbindNotification (notification : OutbindNotification) : Except Error (List ℕ) := do
  return (← encodeCstring notification.systemId) ++ (← encodeCstring notification.password)

def decodeAlertNotification (notificationBytes : Bytes) : Except Error AlertNotification := do
  let (sourceAddrTon, rest) ← decodeSourceAddrTon notificationBytes
  let (sourceAddrNpi, rest) ← decodeSourceAddrNpi rest
  let (sourceAddr, rest) ← decodeCstring rest
  let (esmeAddrTon, rest) ← decodeDestAddrTon rest
  let (esmeAddrNpi, rest) ← decodeDestAddrNpi rest
  let (esmeAddr, rest) ← decodeCstring rest
  let optionalParams ← decodeOptionalParams .ALERT_NOTIFICATION rest
  return {
    sourceAddrTon := sourceAddrTon
    sourceAddrNpi := sourceAddrNpi
    sourceAddr := sourceAddr
    esmeAddrTon := esmeAddrTon
    esmeAddrNpi := esmeAddrNpi
    esmeAddr := esmeAddr
    optionalParams := optionalParams }

def encodeAlertNotification (notification : AlertNotification) : Except Error (List ℕ) := do
  return (← yieldValue notification.sourceAddrTon) ++ (← yieldValue notification.sourceAddrNpi) ++
    (← encodeCstring notification.sourceAddr) ++ (← yieldValue notification.esmeAddrTon) ++
    (← yieldValue notification.esmeAddrNpi) ++ (← encodeCstring notification.esmeAddr) ++
    (← encodeOptionalParams .ALERT_NOTIFICATION notification.optionalParams)

/-! ### Bodies -/

def decodeBody (commandId : CommandId) (bodyBytes : Bytes) : Except Error Body :=
  match commandId with
  | .GENERIC_NACK => .error (.commandStatusError .ESME_RUNKNOWNERR)
  | .BIND_RECEIVER_REQ => do return .req (.BindReq (← decodeBindReq .RECEIVER bodyBytes))
  | .BIND_RECEIVER_RESP => do return .res (.BindRes (← decodeBindRes .RECEIVER bodyBytes))
  | .BIND_TRANSMITTER_REQ => do return .req (.BindReq (← decodeBindReq .TRANSMITTER bodyBytes))
  | .BIND_TRANSMITTER_RESP => do return .res (.BindRes (← decodeBindRes .TRANSMITTER bodyBytes))
  | .QUERY_SM_REQ => do return .req (.QuerySmReq (← decodeQuerySmReq bodyBytes))
  | .QUERY_SM_RESP => do return .res (.QuerySmRes (← decodeQuerySmRes bodyBytes))
  | .SUBMIT_SM_REQ => do return .req (.SubmitSmReq (← decodeSubmitSmReq bodyBytes))
  | .SUBMIT_SM_RESP => do return .res (.SubmitSmRes (← decodeCbytes bodyBytes).1)
  | .DELIVER_SM_REQ => do return .req (.DeliverSmReq (← decodeDeliverSmReq bodyBytes))
  | .DELIVER_SM_RESP => .ok (.res .DeliverSmRes)
  | .UNBIND_REQ => .ok (.req .UnbindReq)
  | .UNBIND_RESP => .ok (.res .UnbindRes)
  | .REPLACE_SM_REQ => do return .req (.ReplaceSmReq (← decodeReplaceSmReq bodyBytes))
  | .REPLACE_SM_RESP => .ok (.res .ReplaceSmRes)
  | .CANCEL_SM_REQ => do return .req (.CancelSmReq (← decodeCancelSmReq bodyBytes))
  | .CANCEL_SM_RESP => .ok (.res .CancelSmRes)
  | .BIND_TRANSCEIVER_REQ => do return .req (.BindReq (← decodeBindReq .TRANSCEIVER bodyBytes))
  | .BIND_TRANSCEIVER_RESP => do return .res (.BindRes (← decodeBindRes .TRANSCEIVER bodyBytes))
  | .OUTBIND => do
    return .notification (.OutbindNotification (← decodeOutbindNotification bodyBytes))
  | .ENQUIRE_LINK_REQ => .ok (.req .EnquireLinkReq)
  | .ENQUIRE_LINK_RESP => .ok (.res .EnquireLinkRes)
  -- the fields of a submission to many are not decoded
  | .SUBMIT_MULTI_REQ => .ok (.req .SubmitMultiReq)
  | .SUBMIT_MULTI_RESP => .ok (.res .SubmitMultiRes)
  | .ALERT_NOTIFICATION => do
    return .notification (.AlertNotification (← decodeAlertNotification bodyBytes))
  | .DATA_SM_REQ => do return .req (.DataSmReq (← decodeDataSmReq bodyBytes))
  | .DATA_SM_RESP => do return .res (.DataSmRes (← decodeDataSmRes bodyBytes))

def encodeRequest : Request → Except Error (List ℕ)
  | .BindReq req => encodeBindReq req
  | .UnbindReq => .ok []
  | .SubmitSmReq req => encodeSubmitSmReq req
  | .SubmitMultiReq => .error .notImplementedError
  | .DeliverSmReq req => encodeDeliverSmReq req
  | .DataSmReq req => encodeDataSmReq req
  | .QuerySmReq req => encodeQuerySmReq req
  | .CancelSmReq req => encodeCancelSmReq req
  | .ReplaceSmReq req => encodeReplaceSmReq req
  | .EnquireLinkReq => .ok []

def encodeResponse : Response → Except Error (List ℕ)
  | .BindRes res => encodeBindRes res
  | .UnbindRes => .ok []
  | .SubmitSmRes messageId => encodeCbytes messageId
  | .SubmitMultiRes => .error .notImplementedError
  | .DeliverSmRes => .ok []
  | .DataSmRes res => encodeDataSmRes res
  | .QuerySmRes res => encodeQuerySmRes res
  | .CancelSmRes => .ok []
  | .ReplaceSmRes => .ok []
  | .EnquireLinkRes => .ok []

def encodeNotification : Notification → Except Error (List ℕ)
  | .OutbindNotification notification => encodeOutbindNotification notification
  | .AlertNotification notification => encodeAlertNotification notification

def encodeBody : Body → Except Error (List ℕ)
  | .req req => encodeRequest req
  | .res res => encodeResponse res
  | .notification notification => encodeNotification notification

end HatDrivers.Smpp.Transport
