import HatDrivers.Smpp.Transport.Codes
import HatDrivers.Smpp.Transport.Connection

namespace HatDrivers.Smpp.Transport

open HatDrivers.Lib

/-!
# SMPP — bodies are read back

`Body.Fits` says which bodies the layout of their PDU can hold, and `Body.decoded` what they are
read as: the same body, with its times as they are read.  `decodeBody_encodeBody` goes over the
bodies, and `body_roundTrip_iff` leaves only the times.
-/

/-! ### Values of optional parameters -/

/-- A value that the parameter of a tag can hold. -/
def ParamFits (tag : OptionalParamTag) (value : OptionalParamValue) : Prop :=
  match tag with
  | .DEST_ADDR_SUBUNIT | .SOURCE_ADDR_SUBUNIT =>
    match value with
    | .subunit _ => True
    | _ => False
  | .DEST_NETWORK_TYPE | .SOURCE_NETWORK_TYPE =>
    match value with
    | .networkType _ => True
    | _ => False
  | .DEST_BEARER_TYPE | .SOURCE_BEARER_TYPE =>
    match value with
    | .bearerType _ => True
    | _ => False
  | .DEST_TELEMATICS_ID | .SOURCE_TELEMATICS_ID | .USER_MESSAGE_REFERENCE | .SOURCE_PORT
  | .DESTINATION_PORT | .SAR_MSG_REF_NUM | .SMS_SIGNAL =>
    match value with
    | .int value => 0 ≤ value ∧ value < 256 ^ 2
    | _ => False
  | .QOS_TIME_TO_LIVE =>
    match value with
    | .int value => 0 ≤ value ∧ value < 256 ^ 4
    | _ => False
  | .PAYLOAD_TYPE =>
    match value with
    | .payloadType _ => True
    | _ => False
  | .ADDITIONAL_STATUS_INFO_TEXT =>
    match value with
    | .str value => NulFreeAscii value ∧ value.length + 1 < 65536
    | _ => False
  | .RECEIPTED_MESSAGE_ID =>
    match value with
    | .bytes value => NulFree value ∧ value.length + 1 < 65536
    | _ => False
  | .MS_MSG_WAIT_FACILITIES =>
    match value with
    | .msMsgWaitFacilities _ => True
    | _ => False
  | .PRIVACY_INDICATOR =>
    match value with
    | .privacyIndicator _ => True
    | _ => False
  | .SOURCE_SUBADDRESS | .DEST_SUBADDRESS =>
    match value with
    | .subaddress value => value.value.length + 1 < 65536
    | _ => False
  | .USER_RESPONSE_CODE | .LANGUAGE_INDICATOR | .SAR_TOTAL_SEGMENTS | .SAR_SEGMENT_SEQNUM
  | .SC_INTERFACE_VERSION | .CALLBACK_NUM_PRES_IND | .NUMBER_OF_MESSAGES | .USSD_SERVICE_OP =>
    match value with
    | .int value => FitsByte value
    | _ => False
  | .CALLBACK_NUM_ATAG | .CALLBACK_NUM | .MESSAGE_PAYLOAD =>
    match value with
    | .bytes value => value.length < 65536
    | _ => False
  | .DPF_RESULT | .SET_DPF | .MORE_MESSAGES_TO_SEND =>
    match value with
    | .bool _ => True
    | _ => False
  | .MS_AVAILABILITY_STATUS =>
    match value with
    | .msAvailabilityStatus _ => True
    | _ => False
  | .NETWORK_ERROR_CODE =>
    match value with
    | .networkErrorCode value =>
      FitsByte value.networkType ∧ 0 ≤ value.errorCode ∧ value.errorCode < 256 ^ 2
    | _ => False
  | .DELIVERY_FAILURE_REASON =>
    match value with
    | .deliveryFailureReason _ => True
    | _ => False
  | .MESSAGE_STATE =>
    match value with
    | .messageState _ => True
    | _ => False
  | .DISPLAY_TIME =>
    match value with
    | .displayTime _ => True
    | _ => False
  | .MS_VALIDITY =>
    match value with
    | .msValidity _ => True
    | _ => False
  | .ALERT_ON_MESSAGE_DELIVERY =>
    match value with
    | .unit => True
    | _ => False
  | .ITS_REPLY_TYPE =>
    match value with
    | .itsReplyType _ => True
    | _ => False
  | .ITS_SESSION_INFO =>
    match value with
    | .itsSessionInfo value =>
      FitsByte value.sessionNumber ∧ 0 ≤ value.sequenceNumber ∧ value.sequenceNumber < 128
    | _ => False

/-- A value that is written to less than 65536 bytes and read back off all of them. -/
def ValueCodes (w : Except Error (List ℕ)) (r : Bytes → Except Error OptionalParamValue)
    (value : OptionalParamValue) : Prop :=
  ∃ ns, w = .ok ns ∧ AllBytes ns ∧ ns.length < 65536 ∧ r (bytesOf ns) = .ok value

theorem decodeUint_singleton {n : ℕ} (h : n < 256) : decodeUint (bytesOf [n]) = n := by
  show Nat.ofDigits 256 [(UInt8.ofNat n).toNat] = n
  rw [toNat_ofNat_of_lt h, Nat.ofDigits_singleton]

theorem byteAt_zero {n : ℕ} (h : n < 256) (bs : Bytes) :
    raised (byteAt (UInt8.ofNat n :: bs) 0) = .ok n := by
  show Except.ok (UInt8.ofNat n).toNat = _
  rw [toNat_ofNat_of_lt h]

theorem enumValue_codes {E : Type} [Enumeration E] (f : E → OptionalParamValue) {e : E}
    (h : Enumeration.value e < 256) :
    ValueCodes (yieldValue e) (fun valueBytes => do return f (← decodeValue valueBytes)) (f e) := by
  refine ⟨[Enumeration.value e], yieldInt_natCast h, allBytes_cons.mpr ⟨h, allBytes_nil⟩,
    Nat.one_lt_ofNat, ?_⟩
  simp only [decodeValue, decodeUint_singleton h, enumOf, Enumeration.ofValue_value]
  rfl

theorem byteValue_codes {x : ℤ} (h : FitsByte x) :
    ValueCodes (yieldInt x) (fun valueBytes => .ok (.int (decodeUint valueBytes))) (.int x) := by
  obtain ⟨n, rfl⟩ := Int.eq_ofNat_of_zero_le h.1
  have hn : n < 256 := by exact_mod_cast h.2
  refine ⟨[n], yieldInt_natCast hn, allBytes_cons.mpr ⟨hn, allBytes_nil⟩, Nat.one_lt_ofNat, ?_⟩
  simp only [decodeUint_singleton hn]

theorem packed_codes {size : ℕ} (hsize : size < 65536) {x : ℤ} (h : 0 ≤ x ∧ x < 256 ^ size) :
    ValueCodes (raised (packUInt size x)) (fun valueBytes => .ok (.int (decodeUint valueBytes)))
      (.int x) := by
  have hpack := packUInt_eq_ok.mpr ⟨h, rfl⟩
  refine ⟨beDigits size x.toNat, raised_eq_ok.mpr hpack, allBytes_of_packUInt hpack, ?_, ?_⟩
  · rw [length_beDigits]
    exact hsize
  · show Except.ok (OptionalParamValue.int (ofBE _ : ℕ)) = _
    rw [ofBE_of_packUInt hpack]

theorem bytesValue_codes {value : Bytes} (h : value.length < 65536) :
    ValueCodes (.ok (value.map UInt8.toNat)) (fun valueBytes => .ok (.bytes valueBytes))
      (.bytes value) := by
  refine ⟨value.map UInt8.toNat, rfl, allBytes_map_toNat value, ?_, ?_⟩
  · rw [List.length_map]
    exact h
  · rw [bytesOf_map_toNat]

theorem boolValue_codes (value : Bool) :
    ValueCodes (yieldInt (if value then 1 else 0))
      (fun valueBytes => do return .bool (← decodeBool valueBytes)) (.bool value) := by
  cases value with
  | true => exact ⟨[1], rfl, by decide, by decide, rfl⟩
  | false => exact ⟨[0], rfl, by decide, by decide, rfl⟩

theorem subaddress_codes {value : Subaddress} (h : value.value.length + 1 < 65536) :
    ValueCodes (encodeSubaddress value)
      (fun valueBytes => do return .subaddress (← decodeSubaddress valueBytes))
      (.subaddress value) := by
  obtain ⟨type, bytes⟩ := value
  have hlt : Enumeration.value type < 256 := by cases type <;> decide
  have hyield : yieldValue type = .ok [Enumeration.value type] := yieldInt_natCast hlt
  refine ⟨Enumeration.value type :: bytes.map UInt8.toNat, ?_, ?_, ?_, ?_⟩
  · simp only [encodeSubaddress, hyield, ok_bind, pure_eq_ok, List.singleton_append]
  · exact allBytes_cons.mpr ⟨hlt, allBytes_map_toNat bytes⟩
  · rw [List.length_cons, List.length_map]
    exact h
  · simp only [decodeSubaddress, byteAt_zero hlt, ok_bind, enumOf, Enumeration.ofValue_value,
      bytesOf_cons, bytesOf_map_toNat, List.drop_succ_cons, List.drop_zero]
    rfl

theorem msMsgWaitFacilities_codes (value : MsMsgWaitFacilities) :
    ValueCodes (encodeOptionalParamValue .MS_MSG_WAIT_FACILITIES (.msMsgWaitFacilities value))
      (decodeOptionalParamValue .MS_MSG_WAIT_FACILITIES) (.msMsgWaitFacilities value) := by
  obtain ⟨active, indicator⟩ := value
  cases active <;> cases indicator <;> exact ⟨[_], rfl, by decide, by decide, rfl⟩

theorem networkErrorCode_codes {value : NetworkErrorCode} (htype : FitsByte value.networkType)
    (hcode : 0 ≤ value.errorCode ∧ value.errorCode < 256 ^ 2) :
    ValueCodes (encodeOptionalParamValue .NETWORK_ERROR_CODE (.networkErrorCode value))
      (decodeOptionalParamValue .NETWORK_ERROR_CODE) (.networkErrorCode value) := by
  obtain ⟨networkType, errorCode⟩ := value
  obtain ⟨n, rfl⟩ := Int.eq_ofNat_of_zero_le htype.1
  have hn : n < 256 := Int.ofNat_lt.mp htype.2
  have hsize : 2 < 65536 := by omega
  obtain ⟨ns, hw, hb, hlength, hr⟩ := packed_codes hsize hcode
  have hread := OptionalParamValue.int.inj (Except.ok.inj hr)
  have hyield := yieldInt_natCast hn
  refine ⟨n :: ns, ?_, allBytes_cons.mpr ⟨hn, hb⟩, ?_, ?_⟩
  · simp only [encodeOptionalParamValue, encodeUint16, hyield, hw, ok_bind, pure_eq_ok,
      List.singleton_append]
  · obtain ⟨_, rfl⟩ := packUInt_eq_ok.mp (raised_eq_ok.mp hw)
    rw [List.length_cons, length_beDigits]
    omega
  · simp only [decodeOptionalParamValue, byteAt_zero hn, ok_bind, bytesOf_cons, List.drop_succ_cons,
      List.drop_zero, hread, pure_eq_ok]

theorem itsSessionInfo_codes {value : ItsSessionInfo} (hsession : FitsByte value.sessionNumber)
    (hsequence : 0 ≤ value.sequenceNumber ∧ value.sequenceNumber < 128) :
    ValueCodes (encodeOptionalParamValue .ITS_SESSION_INFO (.itsSessionInfo value))
      (decodeOptionalParamValue .ITS_SESSION_INFO) (.itsSessionInfo value) := by
  obtain ⟨sessionNumber, sequenceNumber, endOfSession⟩ := value
  obtain ⟨m, rfl⟩ := Int.eq_ofNat_of_zero_le hsession.1
  obtain ⟨n, rfl⟩ := Int.eq_ofNat_of_zero_le hsequence.1
  have hm : m < 256 := Int.ofNat_lt.mp hsession.2
  have hn : n < 128 := Int.ofNat_lt.mp hsequence.2
  have hbits : ∀ n < 128, ∀ flag : Bool, 2 * n + flag.toNat < 256 ∧
      (2 * n + flag.toNat) >>> 1 = n ∧ bit (2 * n + flag.toNat) 0x01 = flag := by
    decide +kernel
  obtain ⟨hlt, hshift, hflag⟩ := hbits n hn endOfSession
  have hyield := yieldInt_natCast hm
  have hyield' : yieldInt (2 * (n : ℤ) + if endOfSession then 1 else 0) =
      .ok [2 * n + endOfSession.toNat] := by
    rw [← yieldInt_natCast hlt]
    cases endOfSession <;> rfl
  have hsecond : raised (byteAt
      [UInt8.ofNat m, UInt8.ofNat (2 * n + endOfSession.toNat)] 1) =
        .ok (2 * n + endOfSession.toNat) := by
    show Except.ok (UInt8.ofNat (2 * n + endOfSession.toNat)).toNat = _
    rw [toNat_ofNat_of_lt hlt]
  have htwo : [m, 2 * n + endOfSession.toNat].length < 65536 := by
    rw [List.length_cons, List.length_singleton]
    omega
  refine ⟨[m, 2 * n + endOfSession.toNat], ?_, ?_, htwo, ?_⟩
  · simp only [encodeOptionalParamValue, hyield, hyield', ok_bind, pure_eq_ok,
      List.singleton_append]
  · exact allBytes_cons.mpr ⟨hm, allBytes_cons.mpr ⟨hlt, allBytes_nil⟩⟩
  · simp only [decodeOptionalParamValue, bytesOf_cons, bytesOf_nil, byteAt_zero hm, hsecond,
      ok_bind, hshift, hflag, pure_eq_ok]

/-- A field that is read off the front of the value. -/
theorem ValueCodes.of_codes {α : Type} {w : Except Error (List ℕ)} {r : ByteReader Error α}
    {a : α} {n : ℕ} (h : Codes w r a) (hw : WritesIff True n w) (hn : n < 65536)
    (f : α → OptionalParamValue) :
    ValueCodes w (fun valueBytes => do return f (← r valueBytes).1) (f a) := by
  obtain ⟨ns, hns, hb, hr⟩ := h
  refine ⟨ns, hns, hb, hw.length_eq ns hns ▸ hn, ?_⟩
  have hread := hr []
  rw [List.append_nil] at hread
  simp only [hread, ok_bind, pure_eq_ok]

theorem optionalParamValue_codes {tag : OptionalParamTag} {value : OptionalParamValue}
    (h : ParamFits tag value) :
    ValueCodes (encodeOptionalParamValue tag value) (decodeOptionalParamValue tag) value := by
  cases tag with
  | DEST_ADDR_SUBUNIT | SOURCE_ADDR_SUBUNIT =>
    cases value with
    | subunit value => exact enumValue_codes _ (by cases value <;> decide)
    | _ => exact h.elim
  | DEST_NETWORK_TYPE | SOURCE_NETWORK_TYPE =>
    cases value with
    | networkType value => exact enumValue_codes _ (by cases value <;> decide)
    | _ => exact h.elim
  | DEST_BEARER_TYPE | SOURCE_BEARER_TYPE =>
    cases value with
    | bearerType value => exact enumValue_codes _ (by cases value <;> decide)
    | _ => exact h.elim
  | DEST_TELEMATICS_ID | SOURCE_TELEMATICS_ID | USER_MESSAGE_REFERENCE | SOURCE_PORT
  | DESTINATION_PORT | SAR_MSG_REF_NUM | SMS_SIGNAL =>
    cases value with
    | int value => exact packed_codes (by omega) h
    | _ => exact h.elim
  | QOS_TIME_TO_LIVE =>
    cases value with
    | int value => exact packed_codes (by omega) h
    | _ => exact h.elim
  | PAYLOAD_TYPE =>
    cases value with
    | payloadType value => exact enumValue_codes _ (by cases value <;> decide)
    | _ => exact h.elim
  | ADDITIONAL_STATUS_INFO_TEXT =>
    cases value with
    | str value =>
      have hw := (encodeCstring_writesIff value).congr (iff_true_intro h.1.ascii)
      exact ValueCodes.of_codes (cstring_codes h.1) hw h.2 .str
    | _ => exact h.elim
  | RECEIPTED_MESSAGE_ID =>
    cases value with
    | bytes value =>
      exact ValueCodes.of_codes (cbytes_codes h.1) (encodeCbytes_writesIff value) h.2 .bytes
    | _ => exact h.elim
  | MS_MSG_WAIT_FACILITIES =>
    cases value with
    | msMsgWaitFacilities value => exact msMsgWaitFacilities_codes value
    | _ => exact h.elim
  | PRIVACY_INDICATOR =>
    cases value with
    | privacyIndicator value => exact enumValue_codes _ (by cases value <;> decide)
    | _ => exact h.elim
  | SOURCE_SUBADDRESS | DEST_SUBADDRESS =>
    cases value with
    | subaddress value => exact subaddress_codes h
    | _ => exact h.elim
  | USER_RESPONSE_CODE | LANGUAGE_INDICATOR | SAR_TOTAL_SEGMENTS | SAR_SEGMENT_SEQNUM
  | SC_INTERFACE_VERSION | CALLBACK_NUM_PRES_IND | NUMBER_OF_MESSAGES | USSD_SERVICE_OP =>
    cases value with
    | int value => exact byteValue_codes h
    | _ => exact h.elim
  | CALLBACK_NUM_ATAG | CALLBACK_NUM | MESSAGE_PAYLOAD =>
    cases value with
    | bytes value => exact bytesValue_codes h
    | _ => exact h.elim
  | DPF_RESULT | SET_DPF | MORE_MESSAGES_TO_SEND =>
    cases value with
    | bool value => exact boolValue_codes value
    | _ => exact h.elim
  | MS_AVAILABILITY_STATUS =>
    cases value with
    | msAvailabilityStatus value => exact enumValue_codes _ (by cases value <;> decide)
    | _ => exact h.elim
  | NETWORK_ERROR_CODE =>
    cases value with
    | networkErrorCode value => exact networkErrorCode_codes h.1 h.2
    | _ => exact h.elim
  | DELIVERY_FAILURE_REASON =>
    cases value with
    | deliveryFailureReason value => exact enumValue_codes _ (by cases value <;> decide)
    | _ => exact h.elim
  | MESSAGE_STATE =>
    cases value with
    | messageState value => exact enumValue_codes _ (by cases value <;> decide)
    | _ => exact h.elim
  | DISPLAY_TIME =>
    cases value with
    | displayTime value => exact enumValue_codes _ (by cases value <;> decide)
    | _ => exact h.elim
  | MS_VALIDITY =>
    cases value with
    | msValidity value => exact enumValue_codes _ (by cases value <;> decide)
    | _ => exact h.elim
  | ALERT_ON_MESSAGE_DELIVERY =>
    cases value with
    | unit => exact ⟨[], rfl, allBytes_nil, by decide, rfl⟩
    | _ => exact h.elim
  | ITS_REPLY_TYPE =>
    cases value with
    | itsReplyType value => exact enumValue_codes _ (by cases value <;> decide)
    | _ => exact h.elim
  | ITS_SESSION_INFO =>
    cases value with
    | itsSessionInfo value => exact itsSessionInfo_codes h.1 h.2
    | _ => exact h.elim

/-! ### Optional parameters -/

/-- Parameters that may stand in the body of a command, one for each tag. -/
structure ParamsFit (commandId : CommandId) (params : OptionalParams) : Prop where
  nodup : (params.map Prod.fst).Nodup
  valid : ∀ param ∈ params, param.1 ∈ validOptionalParams commandId
  fits : ∀ param ∈ params, ParamFits param.1 param.2

theorem uint16_codes {n : ℕ} (h : n < 65536) :
    Codes (packUInt 2 (n : ℤ)) (unpackUInt 2) (n : ℤ) := by
  have hrange : 0 ≤ (n : ℤ) ∧ (n : ℤ) < 256 ^ 2 := by
    norm_num
    exact_mod_cast h
  have hpack := packUInt_eq_ok.mpr ⟨hrange, rfl⟩
  have hbytes := allBytes_of_packUInt hpack
  exact ⟨beDigits 2 (n : ℤ).toNat, hpack, hbytes, packUInt_decodes 2 n _ hpack hbytes⟩

/-- A parameter is added to those before it. -/
theorem optionalParam_reads {commandId : CommandId} {tag : OptionalParamTag}
    {value : OptionalParamValue} (hvalid : tag ∈ validOptionalParams commandId)
    (hfits : ParamFits tag value) :
    ∃ ns, encodeOptionalParam commandId (tag, value) = .ok ns ∧ ns ≠ [] ∧
      ∀ before, Reads (decodeOptionalParam commandId before) (bytesOf ns)
        (before.set tag value) := by
  obtain ⟨valueBytes, hvalue, _, hlength, hread⟩ := optionalParamValue_codes hfits
  obtain ⟨tagBytes, htag, _, htagRead⟩ :=
    uint16_codes (n := tag.value) (by exact_mod_cast tag.value_lt)
  obtain ⟨lengthBytes, hlengthBytes, _, hlengthRead⟩ := uint16_codes hlength
  have hne : tagBytes ≠ [] := by
    have hsize := length_of_packUInt htag
    rintro rfl
    cases hsize
  refine ⟨tagBytes ++ lengthBytes ++ valueBytes, ?_, by simp [hne], fun before rest => ?_⟩
  · rw [encodeOptionalParam_of_mem hvalid]
    refine bind_eq_ok.mpr ⟨valueBytes, hvalue, bind_eq_ok.mpr ⟨tagBytes, ?_, ?_⟩⟩
    · exact raised_eq_ok.mpr htag
    · exact bind_eq_ok.mpr ⟨lengthBytes, raised_eq_ok.mpr hlengthBytes, rfl⟩
  · have hpair : pairRead (unpackUInt 2) (unpackUInt 2)
        (bytesOf tagBytes ++ (bytesOf lengthBytes ++ (bytesOf valueBytes ++ rest))) =
          .ok (((tag.value : ℤ), (valueBytes.length : ℤ)), bytesOf valueBytes ++ rest) := by
      simp only [pairRead, htagRead _, hlengthRead _, ok_bind, pure_eq_ok]
    have htake : (bytesOf valueBytes ++ rest).take valueBytes.length = bytesOf valueBytes :=
      List.take_left' (length_bytesOf _)
    have hdrop : (bytesOf valueBytes ++ rest).drop valueBytes.length = rest :=
      List.drop_left' (length_bytesOf _)
    have henum : enumOr .ESME_ROPTPARNOTALLWD (tag.value : ℤ).toNat = .ok tag :=
      enumOr_value (E := OptionalParamTag) _ tag
    rw [bytesOf_append, bytesOf_append, List.append_assoc, List.append_assoc]
    refine bind_eq_ok.mpr ⟨_, raised_eq_ok.mpr hpair, bind_eq_ok.mpr ⟨tag, henum, ?_⟩⟩
    simp only [Int.toNat_natCast, if_neg (not_not_intro hvalid), htake, hdrop, hread]
    rfl

theorem OptionalParams.set_of_not_mem {params : OptionalParams} {tag : OptionalParamTag}
    (h : tag ∉ params.map Prod.fst) (value : OptionalParamValue) :
    params.set tag value = params ++ [(tag, value)] := if_neg h

/-- The parameters are read one after the other. -/
theorem optionalParams_chunks {commandId : CommandId} {before params : OptionalParams}
    (hnodup : ((before ++ params).map Prod.fst).Nodup)
    (hvalid : ∀ param ∈ params, param.1 ∈ validOptionalParams commandId)
    (hfits : ∀ param ∈ params, ParamFits param.1 param.2) :
    ∃ ns, encodeOptionalParams commandId params = .ok ns ∧
      Chunks (decodeOptionalParam commandId) before (bytesOf ns) (before ++ params) := by
  induction params generalizing before with
  | nil =>
    refine ⟨[], rfl, ?_⟩
    rw [List.append_nil]
    exact .nil before
  | cons param params ih =>
    obtain ⟨tag, value⟩ := param
    obtain ⟨ns, hw, hne, hread⟩ := optionalParam_reads
      (hvalid (tag, value) List.mem_cons_self) (hfits (tag, value) List.mem_cons_self)
    rw [List.append_cons] at hnodup
    have hfresh : tag ∉ before.map Prod.fst := by
      rw [List.map_append, List.map_append] at hnodup
      have hdisjoint := (List.nodup_append'.mp (List.nodup_append'.mp hnodup).1).2.2
      exact fun hmem => hdisjoint hmem (List.mem_singleton_self tag)
    obtain ⟨ms, hms, hchunks⟩ := ih hnodup (fun param h => hvalid param (List.mem_cons_of_mem _ h))
      (fun param h => hfits param (List.mem_cons_of_mem _ h))
    refine ⟨ns ++ ms, writeAll_cons_eq_ok.mpr ⟨ns, ms, hw, hms, rfl⟩, ?_⟩
    have hhead := hread before
    rw [OptionalParams.set_of_not_mem hfresh] at hhead
    rw [bytesOf_append, List.append_cons]
    exact .cons (mt List.map_eq_nil_iff.mp hne) hhead hchunks

theorem optionalParams_codes {commandId : CommandId} {params : OptionalParams}
    (h : ParamsFit commandId params) :
    ∃ ns, encodeOptionalParams commandId params = .ok ns ∧
      decodeOptionalParams commandId (bytesOf ns) = .ok params := by
  have hnodup : (([] ++ params : OptionalParams).map Prod.fst).Nodup := h.nodup
  obtain ⟨ns, hw, hchunks⟩ := optionalParams_chunks hnodup h.valid h.fits
  exact ⟨ns, hw, hchunks.readWhile⟩

/-! ### Fields of bodies -/

theorem sourceAddrTon_codes (ton : TypeOfNumber) :
    Codes (yieldValue ton) decodeSourceAddrTon ton := enum_codes (by cases ton <;> decide) _

theorem sourceAddrNpi_codes (npi : NumericPlanIndicator) :
    Codes (yieldValue npi) decodeSourceAddrNpi npi := enum_codes (by cases npi <;> decide) _

theorem destAddrTon_codes (ton : TypeOfNumber) :
    Codes (yieldValue ton) decodeDestAddrTon ton := enum_codes (by cases ton <;> decide) _

theorem destAddrNpi_codes (npi : NumericPlanIndicator) :
    Codes (yieldValue npi) decodeDestAddrNpi npi := enum_codes (by cases npi <;> decide) _

theorem priorityFlag_codes (priorityFlag : Priority) :
    Codes (yieldValue priorityFlag) decodePriorityFlag priorityFlag :=
  enum_codes (by cases priorityFlag <;> decide) _

theorem scheduleDeliveryTime_codes {time : Option Time} (h : ∀ t ∈ time, t.InTenths) :
    Codes (encodeTime time) decodeScheduleDeliveryTime (time.map Time.decoded) :=
  timeOr_codes h _

theorem validityPeriod_codes {time : Option Time} (h : ∀ t ∈ time, t.InTenths) :
    Codes (encodeTime time) decodeValidityPeriod (time.map Time.decoded) :=
  timeOr_codes h _

/-! ### Requests -/

structure BindReq.Fits (req : BindReq) : Prop where
  systemId : NulFreeAscii req.systemId
  password : NulFreeAscii req.password
  systemType : NulFreeAscii req.systemType
  interfaceVersion : FitsByte req.interfaceVersion
  addressRange : NulFreeAscii req.addressRange

structure SubmitSmReq.Fits (req : SubmitSmReq) : Prop where
  serviceType : NulFreeAscii req.serviceType
  sourceAddr : NulFreeAscii req.sourceAddr
  destinationAddr : NulFreeAscii req.destinationAddr
  protocolId : FitsByte req.protocolId
  scheduleDeliveryTime : ∀ time ∈ req.scheduleDeliveryTime, time.InTenths
  validityPeriod : ∀ time ∈ req.validityPeriod, time.InTenths
  smDefaultMsgId : FitsByte req.smDefaultMsgId
  shortMessage : req.shortMessage.length ≤ 254
  optionalParams : ParamsFit .SUBMIT_SM_REQ req.optionalParams

structure DeliverSmReq.Fits (req : DeliverSmReq) : Prop where
  serviceType : NulFreeAscii req.serviceType
  sourceAddr : NulFreeAscii req.sourceAddr
  destinationAddr : NulFreeAscii req.destinationAddr
  protocolId : FitsByte req.protocolId
  shortMessage : req.shortMessage.length ≤ 254
  optionalParams : ParamsFit .DELIVER_SM_REQ req.optionalParams

structure DataSmReq.Fits (req : DataSmReq) : Prop where
  serviceType : NulFreeAscii req.serviceType
  sourceAddr : NulFreeAscii req.sourceAddr
  destinationAddr : NulFreeAscii req.destinationAddr
  optionalParams : ParamsFit .DATA_SM_REQ req.optionalParams

structure QuerySmReq.Fits (req : QuerySmReq) : Prop where
  messageId : NulFree req.messageId
  sourceAddr : NulFreeAscii req.sourceAddr

structure CancelSmReq.Fits (req : CancelSmReq) : Prop where
  serviceType : NulFreeAscii req.serviceType
  messageId : NulFree req.messageId
  sourceAddr : NulFreeAscii req.sourceAddr
  destinationAddr : NulFreeAscii req.destinationAddr

structure ReplaceSmReq.Fits (req : ReplaceSmReq) : Prop where
  messageId : NulFree req.messageId
  sourceAddr : NulFreeAscii req.sourceAddr
  scheduleDeliveryTime : ∀ time ∈ req.scheduleDeliveryTime, time.InTenths
  validityPeriod : ∀ time ∈ req.validityPeriod, time.InTenths
  smDefaultMsgId : FitsByte req.smDefaultMsgId
  shortMessage : req.shortMessage.length ≤ 254

def SubmitSmReq.decoded (req : SubmitSmReq) : SubmitSmReq :=
  { req with
    scheduleDeliveryTime := req.scheduleDeliveryTime.map Time.decoded
    validityPeriod := req.validityPeriod.map Time.decoded }

def ReplaceSmReq.decoded (req : ReplaceSmReq) : ReplaceSmReq :=
  { req with
    scheduleDeliveryTime := req.scheduleDeliveryTime.map Time.decoded
    validityPeriod := req.validityPeriod.map Time.decoded }

theorem bindReq_codes {req : BindReq} (h : req.Fits) :
    ∃ ns, encodeBindReq req = .ok ns ∧ decodeBindReq req.bindType (bytesOf ns) = .ok req := by
  obtain ⟨_, hw₁, _, hr₁⟩ := cstring_codes h.systemId
  obtain ⟨_, hw₂, _, hr₂⟩ := cstring_codes h.password
  obtain ⟨_, hw₃, _, hr₃⟩ := cstring_codes h.systemType
  obtain ⟨_, hw₄, _, hr₄⟩ := byte_codes h.interfaceVersion
  obtain ⟨_, hw₅, _, hr₅⟩ := sourceAddrTon_codes req.addrTon
  obtain ⟨_, hw₆, _, hr₆⟩ := sourceAddrNpi_codes req.addrNpi
  obtain ⟨_, hw₇, _, hr₇⟩ := cstring_codes h.addressRange
  constructor
  constructor
  · simp only [encodeBindReq, hw₁, hw₂, hw₃, hw₄, hw₅, hw₆, hw₇, ok_bind, pure_eq_ok]
    rfl
  · simp only [decodeBindReq, bytesOf_append, List.append_assoc, hr₁ _, hr₂ _, hr₃ _, hr₄ _, hr₅ _,
      hr₆ _, hr₇.all, ok_bind, pure_eq_ok, Int.toNat_of_nonneg h.interfaceVersion.1]

theorem querySmReq_codes {req : QuerySmReq} (h : req.Fits) :
    ∃ ns, encodeQuerySmReq req = .ok ns ∧ decodeQuerySmReq (bytesOf ns) = .ok req := by
  obtain ⟨_, hw₁, _, hr₁⟩ := cbytes_codes h.messageId
  obtain ⟨_, hw₂, _, hr₂⟩ := sourceAddrTon_codes req.sourceAddrTon
  obtain ⟨_, hw₃, _, hr₃⟩ := sourceAddrNpi_codes req.sourceAddrNpi
  obtain ⟨_, hw₄, _, hr₄⟩ := cstring_codes h.sourceAddr
  constructor
  constructor
  · simp only [encodeQuerySmReq, hw₁, hw₂, hw₃, hw₄, ok_bind, pure_eq_ok]
    rfl
  · simp only [decodeQuerySmReq, bytesOf_append, List.append_assoc, hr₁ _, hr₂ _, hr₃ _, hr₄.all,
      ok_bind, pure_eq_ok]

theorem cancelSmReq_codes {req : CancelSmReq} (h : req.Fits) :
    ∃ ns, encodeCancelSmReq req = .ok ns ∧ decodeCancelSmReq (bytesOf ns) = .ok req := by
  obtain ⟨_, hw₁, _, hr₁⟩ := cstring_codes h.serviceType
  obtain ⟨_, hw₂, _, hr₂⟩ := cbytes_codes h.messageId
  obtain ⟨_, hw₃, _, hr₃⟩ := sourceAddrTon_codes req.sourceAddrTon
  obtain ⟨_, hw₄, _, hr₄⟩ := sourceAddrNpi_codes req.sourceAddrNpi
  obtain ⟨_, hw₅, _, hr₅⟩ := cstring_codes h.sourceAddr
  obtain ⟨_, hw₆, _, hr₆⟩ := destAddrTon_codes req.destAddrTon
  obtain ⟨_, hw₇, _, hr₇⟩ := destAddrNpi_codes req.destAddrNpi
  obtain ⟨_, hw₈, _, hr₈⟩ := cstring_codes h.destinationAddr
  constructor
  constructor
  · simp only [encodeCancelSmReq, hw₁, hw₂, hw₃, hw₄, hw₅, hw₆, hw₇, hw₈, ok_bind, pure_eq_ok]
    rfl
  · simp only [decodeCancelSmReq, bytesOf_append, List.append_assoc, hr₁ _, hr₂ _, hr₃ _, hr₄ _,
      hr₅ _, hr₆ _, hr₇ _, hr₈.all, ok_bind, pure_eq_ok]

theorem dataSmReq_codes {req : DataSmReq} (h : req.Fits) :
    ∃ ns, encodeDataSmReq req = .ok ns ∧ decodeDataSmReq (bytesOf ns) = .ok req := by
  obtain ⟨_, hw₁, _, hr₁⟩ := cstring_codes h.serviceType
  obtain ⟨_, hw₂, _, hr₂⟩ := sourceAddrTon_codes req.sourceAddrTon
  obtain ⟨_, hw₃, _, hr₃⟩ := sourceAddrNpi_codes req.sourceAddrNpi
  obtain ⟨_, hw₄, _, hr₄⟩ := cstring_codes h.sourceAddr
  obtain ⟨_, hw₅, _, hr₅⟩ := destAddrTon_codes req.destAddrTon
  obtain ⟨_, hw₆, _, hr₆⟩ := destAddrNpi_codes req.destAddrNpi
  obtain ⟨_, hw₇, _, hr₇⟩ := cstring_codes h.destinationAddr
  obtain ⟨_, hw₈, _, hr₈⟩ := esmClass_codes req.esmClass
  obtain ⟨_, hw₉, _, hr₉⟩ := registeredDelivery_codes req.registeredDelivery
  obtain ⟨_, hw₁₀, _, hr₁₀⟩ := dataCoding_codes req.dataCoding
  obtain ⟨_, hw, hr⟩ := optionalParams_codes h.optionalParams
  constructor
  constructor
  · simp only [encodeDataSmReq, hw₁, hw₂, hw₃, hw₄, hw₅, hw₆, hw₇, hw₈, hw₉, hw₁₀, hw, ok_bind,
      pure_eq_ok]
    rfl
  · simp only [decodeDataSmReq, bytesOf_append, List.append_assoc, hr₁ _, hr₂ _, hr₃ _, hr₄ _,
      hr₅ _, hr₆ _, hr₇ _, hr₈ _, hr₉ _, hr₁₀ _, hr, ok_bind, pure_eq_ok]

theorem replaceSmReq_codes {req : ReplaceSmReq} (h : req.Fits) :
    ∃ ns, encodeReplaceSmReq req = .ok ns ∧ decodeReplaceSmReq (bytesOf ns) = .ok req.decoded := by
  obtain ⟨_, hw₁, _, hr₁⟩ := cbytes_codes h.messageId
  obtain ⟨_, hw₂, _, hr₂⟩ := sourceAddrTon_codes req.sourceAddrTon
  obtain ⟨_, hw₃, _, hr₃⟩ := sourceAddrNpi_codes req.sourceAddrNpi
  obtain ⟨_, hw₄, _, hr₄⟩ := cstring_codes h.sourceAddr
  obtain ⟨_, hw₅, _, hr₅⟩ := scheduleDeliveryTime_codes h.scheduleDeliveryTime
  obtain ⟨_, hw₆, _, hr₆⟩ := validityPeriod_codes h.validityPeriod
  obtain ⟨_, hw₇, _, hr₇⟩ := registeredDelivery_codes req.registeredDelivery
  obtain ⟨_, hw₈, _, hr₈⟩ := byte_codes h.smDefaultMsgId
  obtain ⟨_, hw₉, _, hr₉⟩ := shortMessage_codes h.shortMessage
  constructor
  constructor
  · simp only [encodeReplaceSmReq, hw₁, hw₂, hw₃, hw₄, hw₅, hw₆, hw₇, hw₈, hw₉, ok_bind, pure_eq_ok]
    rfl
  · simp only [decodeReplaceSmReq, bytesOf_append, List.append_assoc, hr₁ _, hr₂ _, hr₃ _, hr₄ _,
      hr₅ _, hr₆ _, hr₇ _, hr₈ _, hr₉.all, ok_bind, pure_eq_ok,
      Int.toNat_of_nonneg h.smDefaultMsgId.1]
    rfl

theorem deliverSmReq_codes {req : DeliverSmReq} (h : req.Fits) :
    ∃ ns, encodeDeliverSmReq req = .ok ns ∧ decodeDeliverSmReq (bytesOf ns) = .ok req := by
  obtain ⟨_, hw₁, _, hr₁⟩ := cstring_codes h.serviceType
  obtain ⟨_, hw₂, _, hr₂⟩ := sourceAddrTon_codes req.sourceAddrTon
  obtain ⟨_, hw₃, _, hr₃⟩ := sourceAddrNpi_codes req.sourceAddrNpi
  obtain ⟨_, hw₄, _, hr₄⟩ := cstring_codes h.sourceAddr
  obtain ⟨_, hw₅, _, hr₅⟩ := destAddrTon_codes req.destAddrTon
  obtain ⟨_, hw₆, _, hr₆⟩ := destAddrNpi_codes req.destAddrNpi
  obtain ⟨_, hw₇, _, hr₇⟩ := cstring_codes h.destinationAddr
  obtain ⟨_, hw₈, _, hr₈⟩ := esmClass_codes req.esmClass
  obtain ⟨_, hw₉, _, hr₉⟩ := byte_codes h.protocolId
  obtain ⟨_, hw₁₀, _, hr₁₀⟩ := priorityFlag_codes req.priorityFlag
  obtain ⟨_, hw₁₁, _, hr₁₁⟩ := registeredDelivery_codes req.registeredDelivery
  obtain ⟨_, hw₁₂, _, hr₁₂⟩ := dataCoding_codes req.dataCoding
  obtain ⟨_, hw₁₃, _, hr₁₃⟩ := shortMessage_codes h.shortMessage
  obtain ⟨_, hw, hr⟩ := optionalParams_codes h.optionalParams
  -- the times are empty strings, and the flag and the message id are zeros that are skipped
  have hschedule : ∀ rest, decodeCstring (bytesOf [0, 0] ++ rest) = .ok ("", bytesOf [0] ++ rest) :=
    fun _ => rfl
  have hvalidity : ∀ rest, decodeCstring (bytesOf [0] ++ rest) = .ok ("", rest) := fun _ => rfl
  have hskip : ∀ rest, (bytesOf [0] ++ rest).drop 1 = rest := fun _ => rfl
  constructor
  constructor
  · simp only [encodeDeliverSmReq, hw₁, hw₂, hw₃, hw₄, hw₅, hw₆, hw₇, hw₈, hw₉, hw₁₀, hw₁₁, hw₁₂,
      hw₁₃, hw, ok_bind, pure_eq_ok]
    rfl
  · simp only [decodeDeliverSmReq, hschedule, hvalidity, hskip, bytesOf_append, List.append_assoc,
      hr₁ _, hr₂ _, hr₃ _, hr₄ _, hr₅ _, hr₆ _, hr₇ _, hr₈ _, hr₉ _, hr₁₀ _, hr₁₁ _, hr₁₂ _, hr₁₃ _,
      hr, ok_bind, pure_eq_ok, Int.toNat_of_nonneg h.protocolId.1]

theorem submitSmReq_codes {req : SubmitSmReq} (h : req.Fits) :
    ∃ ns, encodeSubmitSmReq req = .ok ns ∧ decodeSubmitSmReq (bytesOf ns) = .ok req.decoded := by
  obtain ⟨_, hw₁, _, hr₁⟩ := cstring_codes h.serviceType
  obtain ⟨_, hw₂, _, hr₂⟩ := sourceAddrTon_codes req.sourceAddrTon
  obtain ⟨_, hw₃, _, hr₃⟩ := sourceAddrNpi_codes req.sourceAddrNpi
  obtain ⟨_, hw₄, _, hr₄⟩ := cstring_codes h.sourceAddr
  obtain ⟨_, hw₅, _, hr₅⟩ := destAddrTon_codes req.destAddrTon
  obtain ⟨_, hw₆, _, hr₆⟩ := destAddrNpi_codes req.destAddrNpi
  obtain ⟨_, hw₇, _, hr₇⟩ := cstring_codes h.destinationAddr
  obtain ⟨_, hw₈, _, hr₈⟩ := esmClass_codes req.esmClass
  obtain ⟨_, hw₉, _, hr₉⟩ := byte_codes h.protocolId
  obtain ⟨_, hw₁₀, _, hr₁₀⟩ := priorityFlag_codes req.priorityFlag
  obtain ⟨_, hw₁₁, _, hr₁₁⟩ := scheduleDeliveryTime_codes h.scheduleDeliveryTime
  obtain ⟨_, hw₁₂, _, hr₁₂⟩ := validityPeriod_codes h.validityPeriod
  obtain ⟨_, hw₁₃, _, hr₁₃⟩ := registeredDelivery_codes req.registeredDelivery
  obtain ⟨_, hw₁₄, _, hr₁₄⟩ := byte_codes (x := if req.replaceIfPresentFlag then 1 else 0) (by cases
    req.replaceIfPresentFlag <;> decide)
  obtain ⟨_, hw₁₅, _, hr₁₅⟩ := dataCoding_codes req.dataCoding
  obtain ⟨_, hw₁₆, _, hr₁₆⟩ := byte_codes h.smDefaultMsgId
  obtain ⟨_, hw₁₇, _, hr₁₇⟩ := shortMessage_codes h.shortMessage
  obtain ⟨_, hw, hr⟩ := optionalParams_codes h.optionalParams
  have hflag : ((if req.replaceIfPresentFlag then (1 : ℤ) else 0).toNat != 0) =
      req.replaceIfPresentFlag := by
    cases req.replaceIfPresentFlag <;> rfl
  constructor
  constructor
  · simp only [encodeSubmitSmReq, hw₁, hw₂, hw₃, hw₄, hw₅, hw₆, hw₇, hw₈, hw₉, hw₁₀, hw₁₁, hw₁₂,
      hw₁₃, hw₁₄, hw₁₅, hw₁₆, hw₁₇, hw, ok_bind, pure_eq_ok]
    rfl
  · simp only [decodeSubmitSmReq, bytesOf_append, List.append_assoc, hr₁ _, hr₂ _, hr₃ _, hr₄ _,
      hr₅ _, hr₆ _, hr₇ _, hr₈ _, hr₉ _, hr₁₀ _, hr₁₁ _, hr₁₂ _, hr₁₃ _, hr₁₄ _, hr₁₅ _, hr₁₆ _,
      hr₁₇ _, hr, ok_bind, pure_eq_ok, hflag, Int.toNat_of_nonneg h.protocolId.1,
      Int.toNat_of_nonneg h.smDefaultMsgId.1]
    rfl

/-! ### Responses -/

structure BindRes.Fits (res : BindRes) : Prop where
  systemId : NulFreeAscii res.systemId
  optionalParams : ParamsFit .BIND_RECEIVER_RESP res.optionalParams

structure DataSmRes.Fits (res : DataSmRes) : Prop where
  messageId : NulFree res.messageId
  optionalParams : ParamsFit .DATA_SM_RESP res.optionalParams

structure QuerySmRes.Fits (res : QuerySmRes) : Prop where
  messageId : NulFree res.messageId
  finalDate : ∀ time ∈ res.finalDate, time.InTenths
  errorCode : FitsByte res.errorCode

def QuerySmRes.decoded (res : QuerySmRes) : QuerySmRes :=
  { res with finalDate := res.finalDate.map Time.decoded }

theorem bindRes_codes {res : BindRes} (h : res.Fits) :
    ∃ ns, encodeBindRes res = .ok ns ∧ decodeBindRes res.bindType (bytesOf ns) = .ok res := by
  obtain ⟨_, hw₁, _, hr₁⟩ := cstring_codes h.systemId
  obtain ⟨_, hw, hr⟩ := optionalParams_codes h.optionalParams
  constructor
  constructor
  · simp only [encodeBindRes, hw₁, hw, ok_bind, pure_eq_ok]
    rfl
  · simp only [decodeBindRes, bytesOf_append, hr₁ _, hr, ok_bind, pure_eq_ok]

theorem dataSmRes_codes {res : DataSmRes} (h : res.Fits) :
    ∃ ns, encodeDataSmRes res = .ok ns ∧ decodeDataSmRes (bytesOf ns) = .ok res := by
  obtain ⟨_, hw₁, _, hr₁⟩ := cbytes_codes h.messageId
  obtain ⟨_, hw, hr⟩ := optionalParams_codes h.optionalParams
  constructor
  constructor
  · simp only [encodeDataSmRes, hw₁, hw, ok_bind, pure_eq_ok]
    rfl
  · simp only [decodeDataSmRes, bytesOf_append, hr₁ _, hr, ok_bind, pure_eq_ok]

theorem messageState_codes (messageState : MessageState) :
    Codes (yieldValue messageState) readByte (Enumeration.value messageState) :=
  byte_codes ⟨Int.natCast_nonneg _, by cases messageState <;> decide⟩

theorem querySmRes_codes {res : QuerySmRes} (h : res.Fits) :
    ∃ ns, encodeQuerySmRes res = .ok ns ∧ decodeQuerySmRes (bytesOf ns) = .ok res.decoded := by
  obtain ⟨_, hw₁, _, hr₁⟩ := cbytes_codes h.messageId
  obtain ⟨_, hw₂, _, hr₂⟩ := time_codes h.finalDate
  obtain ⟨_, hw₃, _, hr₃⟩ := messageState_codes res.messageState
  obtain ⟨_, hw₄, _, hr₄⟩ := byte_codes h.errorCode
  have hstate : enumOf (Enumeration.value res.messageState) = .ok res.messageState :=
    raised_eq_ok.mpr (Enumeration.ofValue_value res.messageState)
  constructor
  constructor
  · simp only [encodeQuerySmRes, hw₁, hw₂, hw₃, hw₄, ok_bind, pure_eq_ok]
    rfl
  · simp only [decodeQuerySmRes, bytesOf_append, List.append_assoc, hr₁ _, hr₂ _, hr₃ _, hr₄.all,
      hstate, ok_bind, pure_eq_ok, Int.toNat_of_nonneg h.errorCode.1]
    rfl

/-! ### Bodies -/

/-- The command of a body. -/
def Body.commandId : Body → CommandId
  | .req request => getRequestCommandId request
  | .res response => getResponseCommandId response
  | .notification unsolicited => getNotificationCommandId unsolicited

/-- A request or response that is implemented, with fields of sizes that its layout holds. -/
def Body.Fits : Body → Prop
  | .req (.BindReq request) => request.Fits
  | .req .UnbindReq => True
  | .req (.SubmitSmReq request) => request.Fits
  | .req .SubmitMultiReq => False
  | .req (.DeliverSmReq request) => request.Fits
  | .req (.DataSmReq request) => request.Fits
  | .req (.QuerySmReq request) => request.Fits
  | .req (.CancelSmReq request) => request.Fits
  | .req (.ReplaceSmReq request) => request.Fits
  | .req .EnquireLinkReq => True
  | .res (.BindRes response) => response.Fits
  | .res .UnbindRes => True
  | .res (.SubmitSmRes messageId) => NulFree messageId
  | .res .SubmitMultiRes => False
  | .res .DeliverSmRes => True
  | .res (.DataSmRes response) => response.Fits
  | .res (.QuerySmRes response) => response.Fits
  | .res .CancelSmRes => True
  | .res .ReplaceSmRes => True
  | .res .EnquireLinkRes => True
  | .notification _ => False

/-- The times of a body. -/
def Body.times : Body → List Time
  | .req (.SubmitSmReq request) =>
    request.scheduleDeliveryTime.toList ++ request.validityPeriod.toList
  | .req (.ReplaceSmReq request) =>
    request.scheduleDeliveryTime.toList ++ request.validityPeriod.toList
  | .res (.QuerySmRes response) => response.finalDate.toList
  | _ => []

/-- What a body is read as. -/
def Body.decoded : Body → Body
  | .req (.SubmitSmReq request) => .req (.SubmitSmReq request.decoded)
  | .req (.ReplaceSmReq request) => .req (.ReplaceSmReq request.decoded)
  | .res (.QuerySmRes response) => .res (.QuerySmRes response.decoded)
  | body => body

theorem decodeBody_encodeBody {body : Body} (h : body.Fits) :
    ∃ ns, encodeBody body = .ok ns ∧
      decodeBody body.commandId (bytesOf ns) = .ok body.decoded := by
  cases body with
  | req request =>
    cases request with
    | BindReq req =>
      obtain ⟨ns, hw, hr⟩ := bindReq_codes h
      refine ⟨ns, hw, ?_⟩
      obtain ⟨bindType, systemId, password, systemType, interfaceVersion, addrTon, addrNpi,
        addressRange⟩ := req
      cases bindType <;>
        exact (bind_eq_ok (f := fun req => pure (Body.req (.BindReq req)))).mpr ⟨_, hr, rfl⟩
    | UnbindReq | EnquireLinkReq => exact ⟨[], rfl, rfl⟩
    | SubmitSmReq req =>
      obtain ⟨ns, hw, hr⟩ := submitSmReq_codes h
      exact ⟨ns, hw, bind_eq_ok.mpr ⟨_, hr, rfl⟩⟩
    | SubmitMultiReq => exact h.elim
    | DeliverSmReq req =>
      obtain ⟨ns, hw, hr⟩ := deliverSmReq_codes h
      exact ⟨ns, hw, bind_eq_ok.mpr ⟨_, hr, rfl⟩⟩
    | DataSmReq req =>
      obtain ⟨ns, hw, hr⟩ := dataSmReq_codes h
      exact ⟨ns, hw, bind_eq_ok.mpr ⟨_, hr, rfl⟩⟩
    | QuerySmReq req =>
      obtain ⟨ns, hw, hr⟩ := querySmReq_codes h
      exact ⟨ns, hw, bind_eq_ok.mpr ⟨_, hr, rfl⟩⟩
    | CancelSmReq req =>
      obtain ⟨ns, hw, hr⟩ := cancelSmReq_codes h
      exact ⟨ns, hw, bind_eq_ok.mpr ⟨_, hr, rfl⟩⟩
    | ReplaceSmReq req =>
      obtain ⟨ns, hw, hr⟩ := replaceSmReq_codes h
      exact ⟨ns, hw, bind_eq_ok.mpr ⟨_, hr, rfl⟩⟩
  | res response =>
    cases response with
    | BindRes res =>
      obtain ⟨ns, hw, hr⟩ := bindRes_codes h
      refine ⟨ns, hw, ?_⟩
      obtain ⟨bindType, systemId, optionalParams⟩ := res
      cases bindType <;>
        exact (bind_eq_ok (f := fun res => pure (Body.res (.BindRes res)))).mpr ⟨_, hr, rfl⟩
    | UnbindRes | DeliverSmRes | CancelSmRes | ReplaceSmRes | EnquireLinkRes =>
      exact ⟨[], rfl, rfl⟩
    | SubmitSmRes messageId =>
      obtain ⟨ns, hw, _, hr⟩ := cbytes_codes h
      exact ⟨ns, hw, bind_eq_ok.mpr ⟨_, hr.all, rfl⟩⟩
    | SubmitMultiRes => exact h.elim
    | DataSmRes res =>
      obtain ⟨ns, hw, hr⟩ := dataSmRes_codes h
      exact ⟨ns, hw, bind_eq_ok.mpr ⟨_, hr, rfl⟩⟩
    | QuerySmRes res =>
      obtain ⟨ns, hw, hr⟩ := querySmRes_codes h
      exact ⟨ns, hw, bind_eq_ok.mpr ⟨_, hr, rfl⟩⟩
  | notification _ => exact h.elim

theorem map_decoded_eq_iff {time : Option Time} (h : ∀ t ∈ time, t.InTenths) :
    time.map Time.decoded = time ↔ ∀ t ∈ time.toList, t.Exact := by
  cases time with
  | none => simp
  | some time => simp [Time.decoded_eq_iff (h time rfl)]

theorem SubmitSmReq.decoded_eq_iff {req : SubmitSmReq} : req.decoded = req ↔
    req.scheduleDeliveryTime.map Time.decoded = req.scheduleDeliveryTime ∧
      req.validityPeriod.map Time.decoded = req.validityPeriod := by
  constructor
  · intro h
    exact ⟨congrArg SubmitSmReq.scheduleDeliveryTime h, congrArg SubmitSmReq.validityPeriod h⟩
  · rintro ⟨hschedule, hvalidity⟩
    rw [SubmitSmReq.decoded, hschedule, hvalidity]

theorem ReplaceSmReq.decoded_eq_iff {req : ReplaceSmReq} : req.decoded = req ↔
    req.scheduleDeliveryTime.map Time.decoded = req.scheduleDeliveryTime ∧
      req.validityPeriod.map Time.decoded = req.validityPeriod := by
  constructor
  · intro h
    exact ⟨congrArg ReplaceSmReq.scheduleDeliveryTime h, congrArg ReplaceSmReq.validityPeriod h⟩
  · rintro ⟨hschedule, hvalidity⟩
    rw [ReplaceSmReq.decoded, hschedule, hvalidity]

theorem QuerySmRes.decoded_eq_iff {res : QuerySmRes} :
    res.decoded = res ↔ res.finalDate.map Time.decoded = res.finalDate := by
  constructor
  · exact fun h => congrArg QuerySmRes.finalDate h
  · intro h
    rw [QuerySmRes.decoded, h]

/-- A body is read as it was written iff its times are. -/
theorem Body.decoded_eq_iff {body : Body} (h : body.Fits) :
    body.decoded = body ↔ ∀ time ∈ body.times, time.Exact := by
  cases body with
  | req request =>
    cases request with
    | SubmitSmReq request =>
      have hfields : (Body.req (.SubmitSmReq request)).decoded = .req (.SubmitSmReq request) ↔
          request.decoded = request := by
        rw [Body.decoded, Body.req.injEq, Request.SubmitSmReq.injEq]
      rw [hfields, SubmitSmReq.decoded_eq_iff, map_decoded_eq_iff h.scheduleDeliveryTime,
        map_decoded_eq_iff h.validityPeriod]
      exact List.forall_mem_append.symm
    | ReplaceSmReq request =>
      have hfields : (Body.req (.ReplaceSmReq request)).decoded = .req (.ReplaceSmReq request) ↔
          request.decoded = request := by
        rw [Body.decoded, Body.req.injEq, Request.ReplaceSmReq.injEq]
      rw [hfields, ReplaceSmReq.decoded_eq_iff, map_decoded_eq_iff h.scheduleDeliveryTime,
        map_decoded_eq_iff h.validityPeriod]
      exact List.forall_mem_append.symm
    | _ => exact iff_of_true rfl (fun _ htime => (by cases htime))
  | res response =>
    cases response with
    | QuerySmRes response =>
      have hfields : (Body.res (.QuerySmRes response)).decoded = .res (.QuerySmRes response) ↔
          response.decoded = response := by
        rw [Body.decoded, Body.res.injEq, Response.QuerySmRes.injEq]
      rw [hfields, QuerySmRes.decoded_eq_iff, map_decoded_eq_iff h.finalDate]
      rfl
    | _ => exact iff_of_true rfl (fun _ htime => (by cases htime))
  | notification _ => exact h.elim

/-- **Round trip of bodies.**  What is encoded for a body decodes to it iff the seconds of its
relative times are none of those that are read as other doubles. -/
theorem body_roundTrip_iff {body : Body} (h : body.Fits) :
    (∃ ns, encodeBody body = .ok ns ∧ decodeBody body.commandId (bytesOf ns) = .ok body) ↔
      ∀ time ∈ body.times, time.Exact := by
  obtain ⟨ns, hw, hr⟩ := decodeBody_encodeBody h
  rw [← Body.decoded_eq_iff h]
  constructor
  · rintro ⟨ms, hms, hread⟩
    obtain rfl := Except.ok.inj (hw.symm.trans hms)
    exact Except.ok.inj (hr.symm.trans hread)
  · intro hdecoded
    exact ⟨ns, hw, hr.trans (congrArg Except.ok hdecoded)⟩

/-- A response with a final date of a number of tenths of a second. -/
def finalDateOf (tenths : ℕ) : Body :=
  .res (.QuerySmRes {
    messageId := [0x41]
    finalDate := some (.relative {
      years := 0
      months := 0
      days := 0
      hours := 0
      minutes := 0
      seconds := tenthsOf tenths })
    messageState := .ENROUTE
    errorCode := 0 })

theorem finalDateOf_fits {tenths : ℕ} (h : tenths < 600) : (finalDateOf tenths).Fits := by
  have hzero : TwoDigits 0 := by decide
  have hid : NulFree [0x41] := by decide
  have hbyte : FitsByte 0 := by decide
  refine QuerySmRes.Fits.mk hid ?_ hbyte
  rintro time ⟨⟩
  exact ⟨hzero, hzero, hzero, hzero, hzero, tenths, h, rfl⟩

/-- Half a second is read back. -/
theorem body_roundTrip_five : ∃ ns, encodeBody (finalDateOf 5) = .ok ns ∧
    decodeBody (finalDateOf 5).commandId (bytesOf ns) = .ok (finalDateOf 5) := by
  apply (body_roundTrip_iff (finalDateOf_fits (by omega))).mpr
  intro time htime
  obtain rfl := List.mem_singleton.mp htime
  intro tenths htenths heq
  have hall : ∀ n ∈ inexactTenths, n < 600 ∧ n ≠ 5 := by decide
  exact (hall tenths htenths).2 (tenthsOf_injective (by omega) (hall tenths htenths).1 heq).symm

/-- Three tenths of a second are read as the next double. -/
theorem three_tenths_not_read_back : ¬ ∀ body : Body, body.Fits →
    ∃ ns, encodeBody body = .ok ns ∧ decodeBody body.commandId (bytesOf ns) = .ok body := by
  intro h
  have hfits : (finalDateOf 3).Fits := finalDateOf_fits (by omega)
  obtain ⟨ns, hw, hr⟩ := decodeBody_encodeBody hfits
  obtain ⟨ms, hms, hread⟩ := h (finalDateOf 3) hfits
  obtain rfl := Except.ok.inj (hw.symm.trans hms)
  have hdecoded := Except.ok.inj (hr.symm.trans hread)
  have hexact := (Body.decoded_eq_iff hfits).mp hdecoded _ (List.mem_singleton_self _)
  exact hexact 3 (by decide) rfl

end HatDrivers.Smpp.Transport
