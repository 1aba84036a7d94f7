import HatDrivers.Iec60870.Encodings.Iec103.Fields

namespace HatDrivers.Iec60870.Encodings.Iec103

open HatDrivers.Lib

/-!
# IEC 60870-5-103 — round trips of information elements

`encodeElement_codes`: an element of a fixed format, within its documented ranges, is read back
by the branch of its ASDU type.
-/

/-- A fixed-point number of the disturbance values. -/
def IsDisturbanceValue (value : ℚ) : Prop := (-1 ≤ value ∧ value < 1) ∧ OnGrid 15 value

/-- The documented ranges of an element, of the ASDU types other than the two of generic data. -/
def IoElement.FixedFormat : IoElement → Prop
  | .TIME_TAGGED_MESSAGE value => value.InRange
  | .TIME_TAGGED_MESSAGE_WITH_RELATIVE_TIME value => value.InRange
  | .MEASURANDS_1 value | .MEASURANDS_2 value => value.InRange ∧ OnGrid 12 value.value
  | .TIME_TAGGED_MEASURANDS_WITH_RELATIVE_TIME value => value.InRange
  | .IDENTIFICATION compatibility value software =>
    compatibility ≤ 255 ∧ value.length = 8 ∧ software.length = 4
  | .TIME_SYNCHRONIZATION time => TimeOf .SEVEN time
  | .GENERAL_INTERROGATION scanNumber => scanNumber ≤ 255
  | .GENERAL_INTERROGATION_TERMINATION scanNumber => scanNumber ≤ 255
  | .GENERIC_DATA .. | .GENERIC_IDENTIFICATION .. => False
  | .GENERAL_COMMAND _ returnIdentifier => returnIdentifier ≤ 255
  | .GENERIC_COMMAND returnIdentifier data =>
    returnIdentifier ≤ 255 ∧ data.length ≤ 255 ∧ ∀ d ∈ data, d.1.InRange
  | .LIST_OF_RECORDED_DISTURBANCES faultNumber _ _ _ _ time =>
    faultNumber ≤ 65535 ∧ TimeOf .SEVEN time
  | .ORDER_FOR_DISTURBANCE_DATA_TRANSMISSION _ faultNumber _ => faultNumber ≤ 65535
  | .ACKNOWLEDGEMENT_FOR_DISTURBANCE_DATA_TRANSMISSION _ faultNumber _ => faultNumber ≤ 65535
  | .READY_FOR_TRANSMISSION_OF_DISTURBANCE_DATA faultNumber numberOfFaults numberOfChannels
      numberOfElements interval time =>
    faultNumber ≤ 65535 ∧ numberOfFaults ≤ 65535 ∧ numberOfChannels ≤ 255 ∧
      numberOfElements ≤ 65535 ∧ interval ≤ 65535 ∧ TimeOf .FOUR time
  | .READY_FOR_TRANSMISSION_OF_A_CHANNEL faultNumber _ _ _ _ => faultNumber ≤ 65535
  | .READY_FOR_TRANSMISSION_OF_TAGS faultNumber => faultNumber ≤ 65535
  | .TRANSMISSION_OF_TAGS faultNumber tagPosition values =>
    faultNumber ≤ 65535 ∧ tagPosition ≤ 65535 ∧ values.length ≤ 255 ∧ ∀ v ∈ values, v.1.InRange
  | .TRANSMISSION_OF_DISTURBANCE_VALUES faultNumber _ elementNumber values =>
    faultNumber ≤ 65535 ∧ elementNumber ≤ 65535 ∧ values.length ≤ 255 ∧
      ∀ v ∈ values, IsDisturbanceValue v
  | .END_OF_TRANSMISSION _ faultNumber _ => faultNumber ≤ 65535

/-! ### Members of lists -/

theorem Description.value_lt (v : Description) : v.value < 256 := by cases v <;> decide

theorem OrderType.value_lt (v : OrderType) : v.value < 256 := by cases v <;> decide

theorem Channel.value_lt (v : Channel) : v.value < 256 := by cases v <;> decide

theorem encodeGenericCommand_codes {data : Identification × Description} (h : data.1.InRange) :
    Codes (encodeGenericCommand data) decodeGenericCommand data := by
  obtain ⟨identification, description⟩ := data
  obtain ⟨ns, hw, hb, hlen, hr⟩ := encodeIdentification_codes h
  have hd := description.value_lt
  have hvalue : Enumeration.ofValue description.value = .ok description :=
    Enumeration.ofValue_value description
  refine ⟨ns ++ [description.value], by simp [encodeGenericCommand, hw], by simp [hb, hd],
    fun rest => ?_⟩
  simp only [bytesOf_append, List.append_assoc, decodeGenericCommand,
    hr (bytesOf [description.value] ++ rest), byteAt_bytesOf_zero hd, ok_bind, hvalue,
    drop_bytesOf_succ]
  rfl

theorem encodeTag_codes {tag : IoAddress × DoubleValue} (h : tag.1.InRange) :
    Codes (encodeTag tag) decodeTag tag := by
  obtain ⟨address, value⟩ := tag
  obtain ⟨ns, hw, hb, hlen, hr⟩ := encodeIoAddress_codes h
  obtain ⟨ms, hw', hb', hlen', hr'⟩ := encodeDouble_codes value
  refine ⟨ns ++ ms, by simp [encodeTag, hw, hw'], by simp [hb, hb'], fun rest => ?_⟩
  simp [decodeTag, hr (bytesOf ms ++ rest), hr' rest]

theorem encodeDisturbanceValue_codes {value : ℚ} (h : IsDisturbanceValue value) :
    Codes (encodeDisturbanceValue value) decodeDisturbanceValue value := by
  obtain ⟨hrange, hgrid⟩ := h
  obtain ⟨ns, hw, hb, hlen, hr⟩ := encodeFixed_two hrange
  have hread := hr []
  rw [List.append_nil, truncate_div_eq_iff.mpr hgrid] at hread
  refine ⟨ns, hw, hb, fun rest => ?_⟩
  simp [decodeDisturbanceValue, take_bytesOf_append hlen, drop_bytesOf_append hlen, hread]

/-! ### Elements of one field, and orders -/

theorem encodeMeasurand_codes {v : MeasurandValue} (h : v.InRange ∧ OnGrid 12 v.value) :
    Codes (encodeValue (.MeasurandValue v) none) decodeMeasurand v := by
  obtain ⟨hrange, hgrid⟩ := h
  obtain ⟨ns, hw, hb, _, hr⟩ := encodeMeasurand_two hrange
  rw [truncate_div_eq_iff.mpr hgrid] at hr
  exact ⟨ns, hw, hb, hr⟩

theorem encodeOrder_codes (orderType : OrderType) {faultNumber : ℕ} (channel : Channel)
    (h : faultNumber ≤ 65535) :
    Codes (encodeOrder orderType faultNumber channel) decodeOrder
      (orderType, faultNumber, channel) := by
  have ho := orderType.value_lt
  have hc := channel.value_lt
  have hf : faultNumber < 256 ^ 2 := Nat.lt_succ_of_le h
  have horder : Enumeration.ofValue orderType.value = .ok orderType :=
    Enumeration.ofValue_value orderType
  have hchannel : Enumeration.ofValue channel.value = .ok channel :=
    Enumeration.ofValue_value channel
  refine ⟨[orderType.value, 0x01] ++ leDigits 2 faultNumber ++ [channel.value],
    by simp [encodeOrder, intToBytes_of_lt hf], by simp [ho, hc], fun rest => ?_⟩
  simp only [bytesOf_append, List.append_assoc, decodeOrder, byteAt_bytesOf_zero ho, ok_bind,
    horder]
  simp [slice_skip, slice_zero, byteAt_skip, drop_skip, byteAt_bytesOf_zero hc, hchannel,
    intFromBytes, ofLE_leDigits_of_lt hf]

/-- A byte alone. -/
theorem codes_byte {α : Type} {b : ℕ} {f : ℕ → α} (h : b ≤ 255) :
    Codes (Except.ok [b]) (fun bs => do return (f (← byteAt bs 0), bs.drop 1)) (f b) := by
  have hb : b < 256 := Nat.lt_succ_of_le h
  refine ⟨[b], rfl, by simpa using hb, fun rest => ?_⟩
  simp [byteAt_bytesOf_zero hb]

/-! ### Elements with fields at fixed offsets -/

attribute [local simp] encodeElement decodeElement

private theorem codes_IDENTIFICATION {compatibility : ℕ} {value software : Bytes}
    (hc : compatibility ≤ 255) (hv : value.length = 8) (hs : software.length = 4) :
    Codes (encodeElement (.IDENTIFICATION compatibility value software))
      (decodeElement .IDENTIFICATION) (.IDENTIFICATION compatibility value software) := by
  have hc' : compatibility < 256 := Nat.lt_succ_of_le hc
  have htv : value.take 8 = value := List.take_of_length_le (by omega)
  have hts : software.take 4 = software := List.take_of_length_le (by omega)
  have hsv : ∀ bs, slice (value ++ bs) 0 8 = value := by
    intro bs
    rw [slice, ← hv, List.take_left, List.drop_zero]
  refine ⟨[compatibility] ++ value.map UInt8.toNat ++ software.map UInt8.toNat, ?_,
    by simp [hc', allBytes_map_toNat], fun rest => ?_⟩
  · simp [zeros, htv, hts, hv, hs]
  · have hslice : slice (value ++ (software ++ rest)) 8 12 = software := by
      rw [slice, List.take_append, List.take_of_length_le (by omega), hv, List.drop_append, hv,
        List.drop_of_length_le (by omega), List.nil_append, List.drop_zero,
        List.take_append_of_le_length (by omega), List.take_of_length_le (by omega)]
    have hdrop : (value ++ (software ++ rest)).drop 12 = rest := by
      rw [List.drop_append, hv, List.drop_of_length_le (by omega), List.nil_append,
        List.drop_append, hs, List.drop_of_length_le (by omega), List.nil_append, List.drop_zero]
    simp only [bytesOf_append, List.append_assoc, decodeElement, byteAt_bytesOf_zero hc', ok_bind,
      bytesOf_map_toNat]
    simp [slice_skip, hsv, hslice, hdrop]

private theorem codes_TIME_SYNCHRONIZATION {time : Time} (h : TimeOf .SEVEN time) :
    Codes (encodeElement (.TIME_SYNCHRONIZATION time)) (decodeElement .TIME_SYNCHRONIZATION)
      (.TIME_SYNCHRONIZATION time) := by
  obtain ⟨ns, hw, hb, hlen, hr⟩ := encodeTime_of h
  change ns.length = 7 at hlen
  refine ⟨ns, hw, hb, fun rest => ?_⟩
  simp [take_bytesOf_append hlen, drop_bytesOf_append hlen, hr]

private theorem codes_GENERAL_COMMAND (value : DoubleValue) {returnIdentifier : ℕ}
    (h : returnIdentifier ≤ 255) :
    Codes (encodeElement (.GENERAL_COMMAND value returnIdentifier))
      (decodeElement .GENERAL_COMMAND) (.GENERAL_COMMAND value returnIdentifier) := by
  have hr : returnIdentifier < 256 := Nat.lt_succ_of_le h
  have hv := value.value_lt
  have hw : encodeValue (.DoubleValue value) none = .ok [value.value] := by
    simp [encodeValue, encodedSize, getValueMinSize, zeros]
  have hvalue : Enumeration.ofValue value.value = .ok value := Enumeration.ofValue_value value
  refine ⟨[value.value, returnIdentifier], by simp [hw], by simp [hv, hr], fun rest => ?_⟩
  simp [decodeEnum, byteAt_bytesOf_zero, hv, hr, hvalue]

private theorem codes_GENERIC_COMMAND {returnIdentifier : ℕ}
    {data : List (Identification × Description)} (hr : returnIdentifier ≤ 255)
    (hlen : data.length ≤ 255) (hdata : ∀ d ∈ data, d.1.InRange) :
    Codes (encodeElement (.GENERIC_COMMAND returnIdentifier data))
      (decodeElement .GENERIC_COMMAND) (.GENERIC_COMMAND returnIdentifier data) := by
  have hr' : returnIdentifier < 256 := Nat.lt_succ_of_le hr
  have hlen' : data.length < 256 := Nat.lt_succ_of_le hlen
  obtain ⟨ns, hw, hb, hread⟩ := Codes.writeAll fun d hd => encodeGenericCommand_codes (hdata d hd)
  refine ⟨[returnIdentifier, data.length] ++ ns, by simp [hw], by simp [hr', hlen', hb],
    fun rest => ?_⟩
  simp only [bytesOf_append, List.append_assoc, decodeElement, byteAt_bytesOf_zero hr', ok_bind]
  simp [byteAt_bytesOf_zero hlen', hread rest]

private theorem disturbanceFlags_spec : ∀ trip transmitted test other : Bool,
    ∃ b < 256, (if other then 0x08 else 0x00) ||| (if test then 0x04 else 0x00) |||
        (if transmitted then 0x02 else 0x00) ||| (if trip then 0x01 else 0x00) = b ∧
      bit b 0x01 = trip ∧ bit b 0x02 = transmitted ∧ bit b 0x04 = test ∧ bit b 0x08 = other := by
  intro trip transmitted test other
  refine ⟨_, ?_, rfl, ?_⟩ <;> revert trip transmitted test other <;> decide

private theorem codes_LIST_OF_RECORDED_DISTURBANCES {faultNumber : ℕ}
    (trip transmitted test other : Bool) {time : Time} (hf : faultNumber ≤ 65535)
    (ht : TimeOf .SEVEN time) :
    Codes (encodeElement
        (.LIST_OF_RECORDED_DISTURBANCES faultNumber trip transmitted test other time))
      (decodeElement .LIST_OF_RECORDED_DISTURBANCES)
      (.LIST_OF_RECORDED_DISTURBANCES faultNumber trip transmitted test other time) := by
  have hf' : faultNumber < 256 ^ 2 := Nat.lt_succ_of_le hf
  obtain ⟨b, hb, hflags, h1, h2, h3, h4⟩ := disturbanceFlags_spec trip transmitted test other
  obtain ⟨ns, hw, hbytes, hlen, hr⟩ := encodeTime_of ht
  change ns.length = 7 at hlen
  refine ⟨leDigits 2 faultNumber ++ [b] ++ ns, by simp [intToBytes_of_lt hf', hflags, hw],
    by simp [hb, hbytes], fun rest => ?_⟩
  simp only [bytesOf_append, List.append_assoc, decodeElement, intFromBytes_take hf']
  simp [slice_skip, slice_zero, byteAt_skip, drop_skip, byteAt_bytesOf_zero hb, h1, h2, h3, h4,
    hlen, hr]

private theorem codes_READY_FOR_TRANSMISSION_OF_DISTURBANCE_DATA {faultNumber numberOfFaults
    numberOfChannels numberOfElements interval : ℕ} {time : Time} (hf : faultNumber ≤ 65535)
    (hnf : numberOfFaults ≤ 65535) (hnc : numberOfChannels ≤ 255) (hne : numberOfElements ≤ 65535)
    (hi : interval ≤ 65535) (ht : TimeOf .FOUR time) :
    Codes (encodeElement (.READY_FOR_TRANSMISSION_OF_DISTURBANCE_DATA faultNumber numberOfFaults
        numberOfChannels numberOfElements interval time))
      (decodeElement .READY_FOR_TRANSMISSION_OF_DISTURBANCE_DATA)
      (.READY_FOR_TRANSMISSION_OF_DISTURBANCE_DATA faultNumber numberOfFaults numberOfChannels
        numberOfElements interval time) := by
  have hf' : faultNumber < 256 ^ 2 := Nat.lt_succ_of_le hf
  have hnf' : numberOfFaults < 256 ^ 2 := Nat.lt_succ_of_le hnf
  have hnc' : numberOfChannels < 256 := Nat.lt_succ_of_le hnc
  have hne' : numberOfElements < 256 ^ 2 := Nat.lt_succ_of_le hne
  have hi' : interval < 256 ^ 2 := Nat.lt_succ_of_le hi
  obtain ⟨ns, hw, hbytes, hlen, hr⟩ := encodeTime_of ht
  change ns.length = 4 at hlen
  refine ⟨[0x01] ++ leDigits 2 faultNumber ++ leDigits 2 numberOfFaults ++ [numberOfChannels] ++
    leDigits 2 numberOfElements ++ leDigits 2 interval ++ ns, ?_, by simp [hnc', hbytes],
    fun rest => ?_⟩
  · simp [intToBytes_of_lt hf', intToBytes_of_lt hnf', intToBytes_of_lt hne', intToBytes_of_lt hi',
      hw]
  · simp only [bytesOf_append, List.append_assoc, decodeElement]
    simp [slice_skip, slice_zero, byteAt_skip, drop_skip, byteAt_bytesOf_zero hnc', hlen, hr,
      intFromBytes, ofLE_leDigits_of_lt hf', ofLE_leDigits_of_lt hnf', ofLE_leDigits_of_lt hne',
      ofLE_leDigits_of_lt hi']

private theorem codes_READY_FOR_TRANSMISSION_OF_A_CHANNEL {faultNumber : ℕ} (channel : Channel)
    (primary secondary reference : Real32Value) (hf : faultNumber ≤ 65535) :
    Codes (encodeElement (.READY_FOR_TRANSMISSION_OF_A_CHANNEL faultNumber channel primary
        secondary reference))
      (decodeElement .READY_FOR_TRANSMISSION_OF_A_CHANNEL)
      (.READY_FOR_TRANSMISSION_OF_A_CHANNEL faultNumber channel primary secondary reference) := by
  have hf' : faultNumber < 256 ^ 2 := Nat.lt_succ_of_le hf
  have hc := channel.value_lt
  have hchannel : Enumeration.ofValue channel.value = .ok channel :=
    Enumeration.ofValue_value channel
  obtain ⟨ps, hwp, hbp, _, hrp⟩ := encodeReal32_codes primary
  obtain ⟨ss, hws, hbs, _, hrs⟩ := encodeReal32_codes secondary
  obtain ⟨rs, hwr, hbr, _, hrr⟩ := encodeReal32_codes reference
  refine ⟨[0x01] ++ leDigits 2 faultNumber ++ [channel.value] ++ ps ++ ss ++ rs, ?_,
    by simp [hc, hbp, hbs, hbr], fun rest => ?_⟩
  · simp [intToBytes_of_lt hf', hwp, hws, hwr]
  · simp only [bytesOf_append, List.append_assoc, decodeElement]
    simp [slice_skip, slice_zero, byteAt_skip, drop_skip, byteAt_bytesOf_zero hc, hchannel,
      intFromBytes, ofLE_leDigits_of_lt hf', hrp (bytesOf ss ++ (bytesOf rs ++ rest)),
      hrs (bytesOf rs ++ rest), hrr rest]

private theorem codes_READY_FOR_TRANSMISSION_OF_TAGS {faultNumber : ℕ} (hf : faultNumber ≤ 65535) :
    Codes (encodeElement (.READY_FOR_TRANSMISSION_OF_TAGS faultNumber))
      (decodeElement .READY_FOR_TRANSMISSION_OF_TAGS)
      (.READY_FOR_TRANSMISSION_OF_TAGS faultNumber) := by
  have hf' : faultNumber < 256 ^ 2 := Nat.lt_succ_of_le hf
  refine ⟨[0x00, 0x00] ++ leDigits 2 faultNumber, by simp [intToBytes_of_lt hf'], by simp,
    fun rest => ?_⟩
  simp only [bytesOf_append, List.append_assoc, decodeElement]
  simp [slice_skip, slice_zero, drop_skip, intFromBytes, ofLE_leDigits_of_lt hf']

private theorem codes_TRANSMISSION_OF_TAGS {faultNumber tagPosition : ℕ}
    {values : List (IoAddress × DoubleValue)} (hf : faultNumber ≤ 65535)
    (ht : tagPosition ≤ 65535) (hlen : values.length ≤ 255) (hvalues : ∀ v ∈ values, v.1.InRange) :
    Codes (encodeElement (.TRANSMISSION_OF_TAGS faultNumber tagPosition values))
      (decodeElement .TRANSMISSION_OF_TAGS)
      (.TRANSMISSION_OF_TAGS faultNumber tagPosition values) := by
  have hf' : faultNumber < 256 ^ 2 := Nat.lt_succ_of_le hf
  have ht' : tagPosition < 256 ^ 2 := Nat.lt_succ_of_le ht
  have hlen' : values.length < 256 := Nat.lt_succ_of_le hlen
  obtain ⟨ns, hw, hb, hread⟩ := Codes.writeAll fun v hv => encodeTag_codes (hvalues v hv)
  refine ⟨leDigits 2 faultNumber ++ [values.length] ++ leDigits 2 tagPosition ++ ns, ?_,
    by simp [hlen', hb], fun rest => ?_⟩
  · simp [intToBytes_of_lt hf', intToBytes_of_lt ht', hw]
  · simp only [bytesOf_append, List.append_assoc, decodeElement, intFromBytes_take hf']
    simp [slice_skip, slice_zero, byteAt_skip, drop_skip, byteAt_bytesOf_zero hlen', intFromBytes,
      ofLE_leDigits_of_lt ht', hread rest]

private theorem codes_TRANSMISSION_OF_DISTURBANCE_VALUES {faultNumber : ℕ} (channel : Channel)
    {elementNumber : ℕ} {values : List ℚ} (hf : faultNumber ≤ 65535)
    (he : elementNumber ≤ 65535) (hlen : values.length ≤ 255)
    (hvalues : ∀ v ∈ values, IsDisturbanceValue v) :
    Codes (encodeElement
        (.TRANSMISSION_OF_DISTURBANCE_VALUES faultNumber channel elementNumber values))
      (decodeElement .TRANSMISSION_OF_DISTURBANCE_VALUES)
      (.TRANSMISSION_OF_DISTURBANCE_VALUES faultNumber channel elementNumber values) := by
  have hf' : faultNumber < 256 ^ 2 := Nat.lt_succ_of_le hf
  have he' : elementNumber < 256 ^ 2 := Nat.lt_succ_of_le he
  have hlen' : values.length < 256 := Nat.lt_succ_of_le hlen
  have hc := channel.value_lt
  have hchannel : Enumeration.ofValue channel.value = .ok channel :=
    Enumeration.ofValue_value channel
  obtain ⟨ns, hw, hb, hread⟩ :=
    Codes.writeAll fun v hv => encodeDisturbanceValue_codes (hvalues v hv)
  refine ⟨[0x01] ++ leDigits 2 faultNumber ++ [channel.value, values.length] ++
    leDigits 2 elementNumber ++ ns, ?_, by simp [hc, hlen', hb], fun rest => ?_⟩
  · simp [intToBytes_of_lt hf', intToBytes_of_lt he', hw]
  · simp only [bytesOf_append, List.append_assoc, decodeElement]
    simp [slice_skip, slice_zero, byteAt_skip, drop_skip, byteAt_bytesOf_zero, hc, hlen', hchannel,
      intFromBytes, ofLE_leDigits_of_lt hf', ofLE_leDigits_of_lt he', hread rest]

/-! ### All elements -/

/-- **An element of a fixed format is written and read back** under the type of its class. -/
theorem encodeElement_codes {element : IoElement} (h : element.FixedFormat) :
    Codes (encodeElement element) (decodeElement element.asduType) element := by
  cases element with
  | TIME_TAGGED_MESSAGE value =>
    exact (encodeDoubleWithTime_codes h).codes.map IoElement.TIME_TAGGED_MESSAGE
  | TIME_TAGGED_MESSAGE_WITH_RELATIVE_TIME value =>
    exact (encodeDoubleWithRelativeTime_codes h).codes.map
      IoElement.TIME_TAGGED_MESSAGE_WITH_RELATIVE_TIME
  | MEASURANDS_1 value => exact (encodeMeasurand_codes h).map IoElement.MEASURANDS_1
  | TIME_TAGGED_MEASURANDS_WITH_RELATIVE_TIME value =>
    exact (encodeMeasurandWithRelativeTime_codes h).codes.map
      IoElement.TIME_TAGGED_MEASURANDS_WITH_RELATIVE_TIME
  | IDENTIFICATION compatibility value software => exact codes_IDENTIFICATION h.1 h.2.1 h.2.2
  | TIME_SYNCHRONIZATION time => exact codes_TIME_SYNCHRONIZATION h
  | GENERAL_INTERROGATION scanNumber => exact codes_byte (f := IoElement.GENERAL_INTERROGATION) h
  | GENERAL_INTERROGATION_TERMINATION scanNumber =>
    exact codes_byte (f := IoElement.GENERAL_INTERROGATION_TERMINATION) h
  | MEASURANDS_2 value => exact (encodeMeasurand_codes h).map IoElement.MEASURANDS_2
  | GENERIC_DATA returnIdentifier counter moreFollows data => exact h.elim
  | GENERIC_IDENTIFICATION returnIdentifier identification counter moreFollows data => exact h.elim
  | GENERAL_COMMAND value returnIdentifier => exact codes_GENERAL_COMMAND value h
  | GENERIC_COMMAND returnIdentifier data => exact codes_GENERIC_COMMAND h.1 h.2.1 h.2.2
  | LIST_OF_RECORDED_DISTURBANCES faultNumber trip transmitted test other time =>
    exact codes_LIST_OF_RECORDED_DISTURBANCES trip transmitted test other h.1 h.2
  | ORDER_FOR_DISTURBANCE_DATA_TRANSMISSION orderType faultNumber channel =>
    exact (encodeOrder_codes orderType channel h).map fun order =>
      IoElement.ORDER_FOR_DISTURBANCE_DATA_TRANSMISSION order.1 order.2.1 order.2.2
  | ACKNOWLEDGEMENT_FOR_DISTURBANCE_DATA_TRANSMISSION orderType faultNumber channel =>
    exact (encodeOrder_codes orderType channel h).map fun order =>
      IoElement.ACKNOWLEDGEMENT_FOR_DISTURBANCE_DATA_TRANSMISSION order.1 order.2.1 order.2.2
  | READY_FOR_TRANSMISSION_OF_DISTURBANCE_DATA faultNumber numberOfFaults numberOfChannels
      numberOfElements interval time =>
    obtain ⟨hf, hnf, hnc, hne, hi, ht⟩ := h
    exact codes_READY_FOR_TRANSMISSION_OF_DISTURBANCE_DATA hf hnf hnc hne hi ht
  | READY_FOR_TRANSMISSION_OF_A_CHANNEL faultNumber channel primary secondary reference =>
    exact codes_READY_FOR_TRANSMISSION_OF_A_CHANNEL channel primary secondary reference h
  | READY_FOR_TRANSMISSION_OF_TAGS faultNumber => exact codes_READY_FOR_TRANSMISSION_OF_TAGS h
  | TRANSMISSION_OF_TAGS faultNumber tagPosition values =>
    obtain ⟨hf, ht, hlen, hvalues⟩ := h
    exact codes_TRANSMISSION_OF_TAGS hf ht hlen hvalues
  | TRANSMISSION_OF_DISTURBANCE_VALUES faultNumber channel elementNumber values =>
    obtain ⟨hf, he, hlen, hvalues⟩ := h
    exact codes_TRANSMISSION_OF_DISTURBANCE_VALUES channel hf he hlen hvalues
  | END_OF_TRANSMISSION orderType faultNumber channel =>
    exact (encodeOrder_codes orderType channel h).map fun order =>
      IoElement.END_OF_TRANSMISSION order.1 order.2.1 order.2.2

end HatDrivers.Iec60870.Encodings.Iec103
