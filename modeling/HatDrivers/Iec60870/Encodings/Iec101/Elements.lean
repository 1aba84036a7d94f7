import HatDrivers.Iec60870.Encodings.Iec101.Fields

namespace HatDrivers.Iec60870.Encodings.Iec101

open HatDrivers.Lib

/-!
# IEC 60870-5-101 — round trips of information elements

`encodeElement_codes`: an element within its documented ranges is read back by
the branch of its own ASDU type.  The one class without a round trip is that of
M_BO_TA, whose decoder builds the class of M_BO_NA.
-/

/-- The documented ranges of the fields of an element. -/
def IoElement.Valid : IoElement → Prop
  | .M_SP_NA _ _ | .M_SP_TA _ _ | .M_DP_NA _ _ | .M_DP_TA _ _ | .M_SP_TB _ _ | .M_DP_TB _ _
  | .M_ME_NC _ _ | .M_ME_TC _ _ | .M_ME_TF _ _ | .C_SE_NC _ _ | .C_RD_NA | .C_TS_NA => True
  | .M_ST_NA v _ | .M_ST_TA v _ | .M_ST_TB v _ => v.Valid
  | .M_BO_NA v _ | .M_BO_TA v _ | .M_BO_TB v _ | .C_BO_NA v => v.Valid
  | .M_ME_NA v _ | .M_ME_TA v _ | .M_ME_TD v _ | .M_ME_ND v | .C_SE_NA v _ => v.Valid
  | .M_ME_NB v _ | .M_ME_TB v _ | .M_ME_TE v _ | .C_SE_NB v _ => v.Valid
  | .M_IT_NA v q | .M_IT_TA v q | .M_IT_TB v q => v.Valid ∧ q.Valid
  | .M_EP_TA _ _ time | .M_EP_TD _ _ time => time ≤ 65535
  | .M_EP_TB _ _ time | .M_EP_TE _ _ time => time ≤ 65535
  | .M_EP_TC _ _ time | .M_EP_TF _ _ time => time ≤ 65535
  | .M_PS_NA v _ => v.Valid
  | .C_SC_NA _ _ qualifier | .C_DC_NA _ _ qualifier | .C_RC_NA _ _ qualifier => qualifier ≤ 31
  | .M_EI_NA _ cause => cause ≤ 127
  | .C_IC_NA qualifier | .C_RP_NA qualifier | .P_AC_NA qualifier => qualifier ≤ 255
  | .C_CI_NA request _ => request ≤ 63
  | .C_CS_NA time => time.size = .SEVEN ∧ time.Valid
  | .C_CD_NA time => time ≤ 65535
  | .P_ME_NA v qualifier => v.Valid ∧ qualifier ≤ 255
  | .P_ME_NB v qualifier => v.Valid ∧ qualifier ≤ 255
  | .P_ME_NC _ qualifier => qualifier ≤ 255
  | .F_FR_NA fileName fileLength _ => fileName ≤ 65535 ∧ fileLength ≤ 16777215
  | .F_SR_NA fileName sectionName sectionLength _ =>
    fileName ≤ 65535 ∧ sectionName ≤ 255 ∧ sectionLength ≤ 16777215
  | .F_SC_NA fileName sectionName qualifier =>
    fileName ≤ 65535 ∧ sectionName ≤ 255 ∧ qualifier ≤ 255
  | .F_LS_NA fileName sectionName lastQualifier checksum =>
    fileName ≤ 65535 ∧ sectionName ≤ 255 ∧ lastQualifier ≤ 255 ∧ checksum ≤ 255
  | .F_AF_NA fileName sectionName qualifier =>
    fileName ≤ 65535 ∧ sectionName ≤ 255 ∧ qualifier ≤ 255
  | .F_SG_NA fileName sectionName segment =>
    fileName ≤ 65535 ∧ sectionName ≤ 255 ∧ segment.length ≤ 255
  | .F_DR_TA fileName fileLength _ _ _ creationTime =>
    fileName ≤ 65535 ∧ fileLength ≤ 16777215 ∧ creationTime.size = .SEVEN ∧ creationTime.Valid

/-! ### Elements with fields at fixed offsets -/

attribute [local simp] encodeElement decodeElement

/-- A valid seven-byte time is read back from exactly its seven bytes. -/
private theorem encodeTime_seven {time : Time} (hsize : time.size = .SEVEN) (h : time.Valid) :
    ∃ ns, encodeTime time .SEVEN = .ok ns ∧ AllBytes ns ∧ ns.length = 7 ∧
      decodeTime (bytesOf ns) .SEVEN = .ok time := by
  obtain ⟨ns, hw, hb, hlen, hr⟩ := encodeTime_codes h
  rw [hsize] at hw hlen hr
  exact ⟨ns, hw, hb, hlen, by simpa using hr []⟩

private theorem codes_F_FR_NA {fileName fileLength : ℕ} (ready : Bool) (hn : fileName ≤ 65535)
    (hl : fileLength ≤ 16777215) :
    Codes (encodeElement (.F_FR_NA fileName fileLength ready)) (decodeElement .F_FR_NA)
      (.F_FR_NA fileName fileLength ready) := by
  have hn' : fileName < 256 ^ 2 := by omega
  have hl' : fileLength < 256 ^ 3 := by omega
  obtain ⟨hb, hbit⟩ := readyByte_spec ready
  refine ⟨leDigits 2 fileName ++ leDigits 3 fileLength ++ [if ready then 0x80 else 0x00], ?_,
    by simp [hb], fun rest => ?_⟩
  · simp [encodeElement, intToBytes_of_lt hn', intToBytes_of_lt hl']
  · simp only [bytesOf_append, List.append_assoc, decodeElement, intFromBytes_take hn']
    simp [slice_skip, slice_zero, byteAt_skip, drop_skip, byteAt_bytesOf_zero hb, hbit,
      intFromBytes, ofLE_leDigits_of_lt hl']

private theorem codes_F_SR_NA {fileName sectionName sectionLength : ℕ} (ready : Bool)
    (hn : fileName ≤ 65535) (hs : sectionName ≤ 255) (hl : sectionLength ≤ 16777215) :
    Codes (encodeElement (.F_SR_NA fileName sectionName sectionLength ready))
      (decodeElement .F_SR_NA) (.F_SR_NA fileName sectionName sectionLength ready) := by
  have hn' : fileName < 256 ^ 2 := by omega
  have hs' : sectionName < 256 := by omega
  have hl' : sectionLength < 256 ^ 3 := by omega
  obtain ⟨hb, hbit⟩ := readyByte_spec ready
  refine ⟨leDigits 2 fileName ++ [sectionName] ++ leDigits 3 sectionLength ++
    [if ready then 0x80 else 0x00], ?_, by simp [hb, hs'], fun rest => ?_⟩
  · simp [encodeElement, intToBytes_of_lt hn', intToBytes_of_lt hl', and_0xFF_of_le hs]
  · simp only [bytesOf_append, List.append_assoc, decodeElement, intFromBytes_take hn']
    simp [slice_skip, slice_zero, byteAt_skip, drop_skip, byteAt_bytesOf_zero hb,
      byteAt_bytesOf_zero hs', hbit, intFromBytes, ofLE_leDigits_of_lt hl']

private theorem codes_F_SC_NA {fileName sectionName qualifier : ℕ} (hn : fileName ≤ 65535)
    (hs : sectionName ≤ 255) (hq : qualifier ≤ 255) :
    Codes (encodeElement (.F_SC_NA fileName sectionName qualifier)) (decodeElement .F_SC_NA)
      (.F_SC_NA fileName sectionName qualifier) := by
  have hn' : fileName < 256 ^ 2 := by omega
  have hs' : sectionName < 256 := by omega
  have hq' : qualifier < 256 := by omega
  refine ⟨leDigits 2 fileName ++ [sectionName, qualifier], ?_, by simp [hs', hq'], fun rest => ?_⟩
  · simp [encodeElement, intToBytes_of_lt hn', and_0xFF_of_le hs, and_0xFF_of_le hq]
  · simp only [bytesOf_append, List.append_assoc, decodeElement, intFromBytes_take hn']
    simp [byteAt_skip, drop_skip, byteAt_bytesOf_zero, hs', hq']

private theorem codes_F_LS_NA {fileName sectionName lastQualifier checksum : ℕ}
    (hn : fileName ≤ 65535) (hs : sectionName ≤ 255) (hq : lastQualifier ≤ 255)
    (hc : checksum ≤ 255) :
    Codes (encodeElement (.F_LS_NA fileName sectionName lastQualifier checksum))
      (decodeElement .F_LS_NA) (.F_LS_NA fileName sectionName lastQualifier checksum) := by
  have hn' : fileName < 256 ^ 2 := by omega
  have hs' : sectionName < 256 := by omega
  have hq' : lastQualifier < 256 := by omega
  have hc' : checksum < 256 := by omega
  refine ⟨leDigits 2 fileName ++ [sectionName, lastQualifier, checksum], ?_,
    by simp [hs', hq', hc'], fun rest => ?_⟩
  · simp [encodeElement, intToBytes_of_lt hn', and_0xFF_of_le hs, and_0xFF_of_le hq,
      and_0xFF_of_le hc]
  · simp only [bytesOf_append, List.append_assoc, decodeElement, intFromBytes_take hn']
    simp [byteAt_skip, drop_skip, byteAt_bytesOf_zero, hs', hq', hc']

private theorem codes_F_AF_NA {fileName sectionName qualifier : ℕ} (hn : fileName ≤ 65535)
    (hs : sectionName ≤ 255) (hq : qualifier ≤ 255) :
    Codes (encodeElement (.F_AF_NA fileName sectionName qualifier)) (decodeElement .F_AF_NA)
      (.F_AF_NA fileName sectionName qualifier) := by
  have hn' : fileName < 256 ^ 2 := by omega
  have hs' : sectionName < 256 := by omega
  have hq' : qualifier < 256 := by omega
  refine ⟨leDigits 2 fileName ++ [sectionName, qualifier], ?_, by simp [hs', hq'], fun rest => ?_⟩
  · simp [encodeElement, intToBytes_of_lt hn', and_0xFF_of_le hs, and_0xFF_of_le hq]
  · simp only [bytesOf_append, List.append_assoc, decodeElement, intFromBytes_take hn']
    simp [byteAt_skip, drop_skip, byteAt_bytesOf_zero, hs', hq']

/-- The length byte of a segment says where it ends. -/
private theorem codes_F_SG_NA {fileName sectionName : ℕ} {segment : Bytes} (hn : fileName ≤ 65535)
    (hs : sectionName ≤ 255) (hl : segment.length ≤ 255) :
    Codes (encodeElement (.F_SG_NA fileName sectionName segment)) (decodeElement .F_SG_NA)
      (.F_SG_NA fileName sectionName segment) := by
  have hn' : fileName < 256 ^ 2 := by omega
  have hs' : sectionName < 256 := by omega
  have hl' : segment.length < 256 := by omega
  refine ⟨leDigits 2 fileName ++ [sectionName, segment.length] ++ segment.map UInt8.toNat, ?_,
    by simp [hs', hl', allBytes_map_toNat], fun rest => ?_⟩
  · simp [encodeElement, intToBytes_of_lt hn', and_0xFF_of_le hs]
  · have hsub : 4 + segment.length - 2 - 2 = segment.length := by omega
    have hslice : slice (segment ++ rest) 0 segment.length = segment := by simp [slice]
    have hdrop : (bytesOf (leDigits 2 fileName) ++ (bytesOf [sectionName, segment.length] ++
        (segment ++ rest))).drop (4 + segment.length) = rest := by
      rw [drop_skip (by simp; omega), drop_skip (by simp; omega)]
      simp [hsub]
    simp only [bytesOf_append, List.append_assoc, decodeElement, intFromBytes_take hn']
    simp [slice_skip, byteAt_skip, byteAt_bytesOf_zero, hs', hl', hsub, hslice, hdrop]

private theorem codes_F_DR_TA {fileName fileLength : ℕ}
    (moreFollows isDirectory transferActive : Bool) {creationTime : Time} (hn : fileName ≤ 65535)
    (hl : fileLength ≤ 16777215)
    (hsize : creationTime.size = .SEVEN) (ht : creationTime.Valid) :
    Codes (encodeElement
        (.F_DR_TA fileName fileLength moreFollows isDirectory transferActive creationTime))
      (decodeElement .F_DR_TA)
      (.F_DR_TA fileName fileLength moreFollows isDirectory transferActive creationTime) := by
  have hn' : fileName < 256 ^ 2 := by omega
  have hl' : fileLength < 256 ^ 3 := by omega
  obtain ⟨b, hb, hflags, h1, h2, h3⟩ := directoryByte_spec moreFollows isDirectory transferActive
  obtain ⟨ns, hw, hbytes, hlen, hr⟩ := encodeTime_seven hsize ht
  refine ⟨leDigits 2 fileName ++ leDigits 3 fileLength ++ [b] ++ ns, ?_, by simp [hb, hbytes],
    fun rest => ?_⟩
  · simp [encodeElement, intToBytes_of_lt hn', intToBytes_of_lt hl', hflags, hw]
  · simp only [bytesOf_append, List.append_assoc, decodeElement, intFromBytes_take hn']
    simp [slice_skip, slice_zero, byteAt_skip, drop_skip, byteAt_bytesOf_zero hb, h1, h2, h3, hlen,
      hr, intFromBytes, ofLE_leDigits_of_lt hl']

private theorem codes_C_CS_NA {time : Time} (hsize : time.size = .SEVEN) (ht : time.Valid) :
    Codes (encodeElement (.C_CS_NA time)) (decodeElement .C_CS_NA) (.C_CS_NA time) := by
  obtain ⟨ns, hw, hbytes, hlen, hr⟩ := encodeTime_seven hsize ht
  refine ⟨ns, hw, hbytes, fun rest => ?_⟩
  simp [decodeElement, take_bytesOf_append hlen, drop_bytesOf_append hlen, hr]

private theorem codes_C_CI_NA {request : ℕ} (freeze : FreezeCode) (h : request ≤ 63) :
    Codes (encodeElement (.C_CI_NA request freeze)) (decodeElement .C_CI_NA)
      (.C_CI_NA request freeze) := by
  obtain ⟨hb, hr, hf⟩ := freezeByte_spec request (by omega) freeze.value
    (by cases freeze <;> decide)
  have hv : Enumeration.ofValue freeze.value = .ok freeze := Enumeration.ofValue_value freeze
  refine ⟨_, rfl, by simpa using hb, fun rest => ?_⟩
  simp [decodeElement, byteAt_bytesOf_zero hb, hr, hf, hv]

private theorem codes_M_EI_NA (paramChange : Bool) {cause : ℕ} (h : cause ≤ 127) :
    Codes (encodeElement (.M_EI_NA paramChange cause)) (decodeElement .M_EI_NA)
      (.M_EI_NA paramChange cause) := by
  obtain ⟨hb, hp, hc⟩ := initByte_spec paramChange cause (by omega)
  refine ⟨_, rfl, by simpa using hb, fun rest => ?_⟩
  simp [decodeElement, byteAt_bytesOf_zero hb, hp, hc]

/-! ### All elements -/

private theorem measurement_codes (q : MeasurementQuality) :
    Codes (encodeQuality .MEASUREMENT q) (decodeQuality .MEASUREMENT) q :=
  encodeQuality_codes (t := .MEASUREMENT) trivial

private theorem counter_codes {q : CounterQuality} (h : q.Valid) :
    Codes (encodeQuality .COUNTER q) (decodeQuality .COUNTER) q :=
  encodeQuality_codes (t := .COUNTER) h

private theorem protection_codes (q : ProtectionQuality) :
    Codes (encodeQuality .PROTECTION q) (decodeQuality .PROTECTION) q :=
  encodeQuality_codes (t := .PROTECTION) trivial

/-- **An element within its documented ranges is written, and read back from its
bytes**, by the branch of its own ASDU type; M_BO_TA is the exception. -/
theorem encodeElement_codes {element : IoElement} (h : element.Valid)
    (hne : element.asduType ≠ .M_BO_TA) :
    Codes (encodeElement element) (decodeElement element.asduType) element := by
  cases element with
  | M_SP_NA value q =>
    exact (singleValue_codes value q).map fun p => IoElement.M_SP_NA p.1 p.2
  | M_SP_TA value q =>
    exact (singleValue_codes value q).map fun p => IoElement.M_SP_TA p.1 p.2
  | M_DP_NA value q =>
    exact (doubleValue_codes value q).map fun p => IoElement.M_DP_NA p.1 p.2
  | M_DP_TA value q =>
    exact (doubleValue_codes value q).map fun p => IoElement.M_DP_TA p.1 p.2
  | M_ST_NA value q =>
    exact ((encodeStepPositionValue_codes h).pair (measurement_codes q)).map
      fun p => IoElement.M_ST_NA p.1 p.2
  | M_ST_TA value q =>
    exact ((encodeStepPositionValue_codes h).pair (measurement_codes q)).map
      fun p => IoElement.M_ST_TA p.1 p.2
  | M_BO_NA value q =>
    exact ((encodeBitstringValue_codes h).pair (measurement_codes q)).map
      fun p => IoElement.M_BO_NA p.1 p.2
  | M_BO_TA value q => exact absurd rfl hne
  | M_ME_NA value q =>
    exact ((encodeNormalizedValue_codes h).pair (measurement_codes q)).map
      fun p => IoElement.M_ME_NA p.1 p.2
  | M_ME_TA value q =>
    exact ((encodeNormalizedValue_codes h).pair (measurement_codes q)).map
      fun p => IoElement.M_ME_TA p.1 p.2
  | M_ME_NB value q =>
    exact ((encodeScaledValue_codes h).pair (measurement_codes q)).map
      fun p => IoElement.M_ME_NB p.1 p.2
  | M_ME_TB value q =>
    exact ((encodeScaledValue_codes h).pair (measurement_codes q)).map
      fun p => IoElement.M_ME_TB p.1 p.2
  | M_ME_NC value q =>
    exact ((encodeFloatingValue_codes value).pair (measurement_codes q)).map
      fun p => IoElement.M_ME_NC p.1 p.2
  | M_ME_TC value q =>
    exact ((encodeFloatingValue_codes value).pair (measurement_codes q)).map
      fun p => IoElement.M_ME_TC p.1 p.2
  | M_IT_NA value q =>
    exact ((encodeBinaryCounterValue_codes h.1).pair (counter_codes h.2)).map
      fun p => IoElement.M_IT_NA p.1 p.2
  | M_IT_TA value q =>
    exact ((encodeBinaryCounterValue_codes h.1).pair (counter_codes h.2)).map
      fun p => IoElement.M_IT_TA p.1 p.2
  | M_EP_TA value q time =>
    exact ((protectionValue_codes value q).pair (encodeInt2_codes h)).map fun p =>
      IoElement.M_EP_TA p.1.1 p.1.2 p.2
  | M_EP_TB value q time =>
    exact (((encodeProtectionStartValue_codes value).pair (protection_codes q)).pair
      (encodeInt2_codes h)).map fun p => IoElement.M_EP_TB p.1.1 p.1.2 p.2
  | M_EP_TC value q time =>
    exact (((encodeProtectionCommandValue_codes value).pair (protection_codes q)).pair
      (encodeInt2_codes h)).map fun p => IoElement.M_EP_TC p.1.1 p.1.2 p.2
  | M_PS_NA value q =>
    exact ((encodeStatusValue_codes h).pair (measurement_codes q)).map
      fun p => IoElement.M_PS_NA p.1 p.2
  | M_ME_ND value => exact (encodeNormalizedValue_codes h).map IoElement.M_ME_ND
  | M_SP_TB value q =>
    exact (singleValue_codes value q).map fun p => IoElement.M_SP_TB p.1 p.2
  | M_DP_TB value q =>
    exact (doubleValue_codes value q).map fun p => IoElement.M_DP_TB p.1 p.2
  | M_ST_TB value q =>
    exact ((encodeStepPositionValue_codes h).pair (measurement_codes q)).map
      fun p => IoElement.M_ST_TB p.1 p.2
  | M_BO_TB value q =>
    exact ((encodeBitstringValue_codes h).pair (measurement_codes q)).map
      fun p => IoElement.M_BO_TB p.1 p.2
  | M_ME_TD value q =>
    exact ((encodeNormalizedValue_codes h).pair (measurement_codes q)).map
      fun p => IoElement.M_ME_TD p.1 p.2
  | M_ME_TE value q =>
    exact ((encodeScaledValue_codes h).pair (measurement_codes q)).map
      fun p => IoElement.M_ME_TE p.1 p.2
  | M_ME_TF value q =>
    exact ((encodeFloatingValue_codes value).pair (measurement_codes q)).map
      fun p => IoElement.M_ME_TF p.1 p.2
  | M_IT_TB value q =>
    exact ((encodeBinaryCounterValue_codes h.1).pair (counter_codes h.2)).map
      fun p => IoElement.M_IT_TB p.1 p.2
  | M_EP_TD value q time =>
    exact ((protectionValue_codes value q).pair (encodeInt2_codes h)).map fun p =>
      IoElement.M_EP_TD p.1.1 p.1.2 p.2
  | M_EP_TE value q time =>
    exact (((encodeProtectionStartValue_codes value).pair (protection_codes q)).pair
      (encodeInt2_codes h)).map fun p => IoElement.M_EP_TE p.1.1 p.1.2 p.2
  | M_EP_TF value q time =>
    exact (((encodeProtectionCommandValue_codes value).pair (protection_codes q)).pair
      (encodeInt2_codes h)).map fun p => IoElement.M_EP_TF p.1.1 p.1.2 p.2
  | C_SC_NA value select qualifier =>
    exact (encodeCommand_codes (by cases value <;> decide)
      (.inr ⟨rfl, by cases value <;> decide⟩) h).map fun p => IoElement.C_SC_NA p.1 p.2.1 p.2.2
  | C_DC_NA value select qualifier =>
    exact (encodeCommand_codes (by cases value <;> decide) (.inl rfl) h).map
      fun p => IoElement.C_DC_NA p.1 p.2.1 p.2.2
  | C_RC_NA value select qualifier =>
    exact (encodeCommand_codes (by cases value <;> decide) (.inl rfl) h).map
      fun p => IoElement.C_RC_NA p.1 p.2.1 p.2.2
  | C_SE_NA value select =>
    exact ((encodeNormalizedValue_codes h).pair (encodeSelect_codes select)).map
      fun p => IoElement.C_SE_NA p.1 p.2
  | C_SE_NB value select =>
    exact ((encodeScaledValue_codes h).pair (encodeSelect_codes select)).map
      fun p => IoElement.C_SE_NB p.1 p.2
  | C_SE_NC value select =>
    exact ((encodeFloatingValue_codes value).pair (encodeSelect_codes select)).map
      fun p => IoElement.C_SE_NC p.1 p.2
  | C_BO_NA value => exact (encodeBitstringValue_codes h).map IoElement.C_BO_NA
  | M_EI_NA paramChange cause => exact codes_M_EI_NA paramChange h
  | C_IC_NA qualifier => exact (encodeQualifier_codes h).map IoElement.C_IC_NA
  | C_CI_NA request freeze => exact codes_C_CI_NA freeze h
  | C_RD_NA => exact ⟨[], rfl, allBytes_nil, fun rest => rfl⟩
  | C_CS_NA time => exact codes_C_CS_NA h.1 h.2
  | C_TS_NA => exact ⟨[0xAA, 0x55], rfl, by decide, fun rest => rfl⟩
  | C_RP_NA qualifier => exact (encodeQualifier_codes h).map IoElement.C_RP_NA
  | C_CD_NA time => exact (encodeInt2_codes h).map IoElement.C_CD_NA
  | P_ME_NA value qualifier =>
    exact ((encodeNormalizedValue_codes h.1).pair (encodeQualifier_codes h.2)).map
      fun p => IoElement.P_ME_NA p.1 p.2
  | P_ME_NB value qualifier =>
    exact ((encodeScaledValue_codes h.1).pair (encodeQualifier_codes h.2)).map
      fun p => IoElement.P_ME_NB p.1 p.2
  | P_ME_NC value qualifier =>
    exact ((encodeFloatingValue_codes value).pair (encodeQualifier_codes h)).map
      fun p => IoElement.P_ME_NC p.1 p.2
  | P_AC_NA qualifier => exact (encodeQualifier_codes h).map IoElement.P_AC_NA
  | F_FR_NA fileName fileLength ready => exact codes_F_FR_NA ready h.1 h.2
  | F_SR_NA fileName sectionName sectionLength ready =>
    exact codes_F_SR_NA ready h.1 h.2.1 h.2.2
  | F_SC_NA fileName sectionName qualifier => exact codes_F_SC_NA h.1 h.2.1 h.2.2
  | F_LS_NA fileName sectionName lastQualifier checksum =>
    exact codes_F_LS_NA h.1 h.2.1 h.2.2.1 h.2.2.2
  | F_AF_NA fileName sectionName qualifier => exact codes_F_AF_NA h.1 h.2.1 h.2.2
  | F_SG_NA fileName sectionName segment => exact codes_F_SG_NA h.1 h.2.1 h.2.2
  | F_DR_TA fileName fileLength moreFollows isDirectory transferActive creationTime =>
    exact codes_F_DR_TA moreFollows isDirectory transferActive h.1 h.2.1 h.2.2.1 h.2.2.2

end HatDrivers.Iec60870.Encodings.Iec101
