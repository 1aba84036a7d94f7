import HatDrivers.Iec60870.Encodings.Security.Encoder

namespace HatDrivers.Iec60870.Encodings.Security

open HatDrivers.Lib

/-!
# IEC 60870-5-7 — round trips of information elements

`encodeIoElement_reads`: an element in its ranges is read back from its bytes.
Six classes end with a field that takes all the bytes there are, so they are read
back only at the end of a message; the other classes leave what follows them.
-/

/-! ### Ranges -/

/-- An ASDU of the encoder inside, in its documented ranges. -/
def InnerEncoder.InRange : (encoder : InnerEncoder) → encoder.ASDU → Prop
  | .iec101 encoder => encoder.InRange
  | .iec104 => Iec104.InRange

/-- The bytes the encoder inside writes for an ASDU. -/
def InnerEncoder.Canonical (encoder : InnerEncoder) (bs : Bytes) : Prop :=
  ∃ asdu, encoder.InRange asdu ∧ encoder.encodeAsdu asdu = .ok bs

/-- The ranges of the fields of an element; data with a length field has at most
65535 bytes, and a MAC that makes up the whole element is not empty. -/
def IoElement.InRange (encoder : InnerEncoder) : IoElement → Prop
  | .S_IT_TC associationId value => associationId < 256 ^ 2 ∧ value.Valid
  | .S_CH_NA sequence user macAlgorithm reason data =>
    sequence < 256 ^ 4 ∧ user < 256 ^ 2 ∧ macAlgorithm.toNat < 256 ^ 1 ∧ reason < 256 ^ 1 ∧
      data.length < 256 ^ 2
  | .S_RP_NA sequence user mac => sequence < 256 ^ 4 ∧ user < 256 ^ 2 ∧ mac.length < 256 ^ 2
  | .S_AR_NA asdu sequence user _ =>
    encoder.Canonical asdu ∧ sequence < 256 ^ 4 ∧ user < 256 ^ 2
  | .S_KR_NA user => user < 256 ^ 2
  | .S_KS_NA sequence user keyWrapAlgorithm keyStatus macAlgorithm data _ =>
    sequence < 256 ^ 4 ∧ user < 256 ^ 2 ∧ keyWrapAlgorithm.toNat < 256 ^ 1 ∧
      keyStatus.toNat < 256 ^ 1 ∧ macAlgorithm.toNat < 256 ^ 1 ∧ data.length < 256 ^ 2
  | .S_KC_NA sequence user wrappedKey =>
    sequence < 256 ^ 4 ∧ user < 256 ^ 2 ∧ wrappedKey.length < 256 ^ 2
  | .S_ER_NA challengeSequence keyChangeSequence user associationId code time text =>
    challengeSequence < 256 ^ 4 ∧ keyChangeSequence < 256 ^ 4 ∧ user < 256 ^ 2 ∧
      associationId < 256 ^ 2 ∧ code.toNat < 256 ^ 1 ∧ (time.size = .SEVEN ∧ time.Valid) ∧
      text.length < 256 ^ 2
  | .S_UC_NA_X keyChangeMethod data => keyChangeMethod.toNat < 256 ^ 1 ∧ data.length < 256 ^ 2
  | .S_US_NA keyChangeMethod operation sequence role roleExpiry name publicKey certification =>
    keyChangeMethod.toNat < 256 ^ 1 ∧ operation.toNat < 256 ^ 1 ∧ sequence < 256 ^ 4 ∧
      role.toNat < 256 ^ 2 ∧ roleExpiry < 256 ^ 2 ∧ name.length < 256 ^ 2 ∧
      publicKey.length < 256 ^ 2 ∧ certification.length < 256 ^ 2
  | .S_UQ_NA keyChangeMethod name data =>
    keyChangeMethod.toNat < 256 ^ 1 ∧ name.length < 256 ^ 2 ∧ data.length < 256 ^ 2
  | .S_UR_NA sequence user data => sequence < 256 ^ 4 ∧ user < 256 ^ 2 ∧ data.length < 256 ^ 2
  | .S_UK_NA sequence user encryptedUpdateKey _ =>
    sequence < 256 ^ 4 ∧ user < 256 ^ 2 ∧ encryptedUpdateKey.length < 256 ^ 2
  | .S_UA_NA sequence user encryptedUpdateKey _ =>
    sequence < 256 ^ 4 ∧ user < 256 ^ 2 ∧ encryptedUpdateKey.length < 256 ^ 2
  | .S_UC_NA mac => mac ≠ []

/-- No integer stands for a named value. -/
def IoElement.Normal : IoElement → Prop
  | .S_CH_NA _ _ macAlgorithm _ _ => macAlgorithm.Normal
  | .S_KS_NA _ _ keyWrapAlgorithm keyStatus macAlgorithm _ _ =>
    keyWrapAlgorithm.Normal ∧ keyStatus.Normal ∧ macAlgorithm.Normal
  | .S_ER_NA _ _ _ _ code _ _ => code.Normal
  | .S_UC_NA_X keyChangeMethod _ => keyChangeMethod.Normal
  | .S_US_NA keyChangeMethod operation _ role _ _ _ _ =>
    keyChangeMethod.Normal ∧ operation.Normal ∧ role.Normal
  | .S_UQ_NA keyChangeMethod _ _ => keyChangeMethod.Normal
  | _ => True

/-- The bytes of the element tell where it ends. -/
def IoElement.Delimited : IoElement → Bool
  | .S_AR_NA .. | .S_KS_NA .. | .S_UK_NA .. | .S_UA_NA .. | .S_UC_NA .. => false
  | _ => true

/-! ### Fields -/

@[simp] theorem bytesOf_encodeData (data : Bytes) : bytesOf (encodeData data) = data :=
  bytesOf_map_toNat data

@[simp] theorem allBytes_encodeData (data : Bytes) : AllBytes (encodeData data) :=
  allBytes_map_toNat data

@[simp] theorem length_encodeData (data : Bytes) : (encodeData data).length = data.length :=
  List.length_map _

@[simp] theorem decodeData_append (data rest : Bytes) :
    decodeData data.length (data ++ rest) = (data, rest) := by
  simp [decodeData]

/-- The ASDU inside is read to its end. -/
theorem InnerEncoder.Canonical.exists_decodeAsdu {encoder : InnerEncoder} {bs : Bytes}
    (h : encoder.Canonical bs) (rest : Bytes) :
    ∃ asdu, encoder.decodeAsdu (bs ++ rest) = .ok (asdu, rest) := by
  obtain ⟨asdu, hasdu, hbs⟩ := h
  cases encoder with
  | iec101 encoder => exact Iec101.Encoder.InRange.exists_decodeAsdu hasdu hbs rest
  | iec104 => exact Iec104.InRange.exists_decodeAsdu hasdu hbs rest

/-! ### Elements -/

/-- An element in range is written. -/
theorem encodeIoElement_writes {encoder : InnerEncoder} {element : IoElement}
    (h : element.InRange encoder) : Writes encodeIoElement element := by
  cases element with
  | S_IT_TC associationId value =>
    obtain ⟨hassoc, hvalue⟩ := h
    obtain ⟨ns, hw, hb, _⟩ := Iec101.encodeBinaryCounterValue_codes hvalue
    exact ⟨_, by simp only [encodeIoElement, intToBytes_of_lt hassoc, hw, ok_bind]; rfl,
      by simp [hb]⟩
  | S_ER_NA challengeSequence keyChangeSequence user associationId code time text =>
    obtain ⟨hcs, hks, huser, hassoc, hcode, ⟨hsize, htime⟩, htext⟩ := h
    obtain ⟨ns, hw, hb, _⟩ := encodeTime_codes htime
    rw [hsize] at hw
    exact ⟨_, by simp only [encodeIoElement, intToBytes_of_lt, hcs, hks, huser, hassoc, hcode,
      htext, hw, ok_bind]; rfl, by simp [hb]⟩
  | S_KR_NA user =>
    exact ⟨_, intToBytes_of_lt h, by simp⟩
  | S_UC_NA mac => exact ⟨_, rfl, by simp⟩
  | _ =>
    simp only [IoElement.InRange] at h
    exact ⟨_, by simp only [encodeIoElement, intToBytes_of_lt, h, ok_bind]; rfl, by simp⟩

/-- The bytes of an element are read back, to the end of the message if they do not tell
where the element ends. -/
theorem decodeIoElement_encodeIoElement {encoder : InnerEncoder} {element : IoElement}
    (h : element.InRange encoder) (hn : element.Normal) {ns : List ℕ}
    (hns : encodeIoElement element = .ok ns) (rest : Bytes)
    (hrest : element.Delimited = true ∨ rest = []) :
    decodeIoElement encoder element.asduType (bytesOf ns ++ rest) = .ok (element, rest) := by
  cases element with
  | S_IT_TC associationId value =>
    obtain ⟨hassoc, hvalue⟩ := h
    obtain ⟨ms, hw, _, hr⟩ := Iec101.encodeBinaryCounterValue_codes hvalue
    simp only [encodeIoElement, intToBytes_of_lt hassoc, hw, ok_bind] at hns
    obtain rfl := Except.ok.inj hns
    simp only [decodeIoElement, IoElement.asduType, bytesOf_append, List.append_assoc,
      decodeInt_leDigits hassoc, hr rest, ok_bind]
    rfl
  | S_AR_NA asdu sequence user mac =>
    obtain ⟨hasdu, hsequence, huser⟩ := h
    obtain rfl : rest = [] := by simpa [IoElement.Delimited] using hrest
    simp only [encodeIoElement, intToBytes_of_lt, hsequence, huser, ok_bind] at hns
    obtain rfl := Except.ok.inj hns
    simp only [bytesOf_append, bytesOf_encodeData, List.append_assoc, List.append_nil]
    obtain ⟨decoded, hread⟩ := hasdu.exists_decodeAsdu
      (bytesOf (leDigits 4 sequence) ++ (bytesOf (leDigits 2 user) ++ mac))
    -- what the inner decoder leaves tells how many bytes it took
    simp only [decodeIoElement, IoElement.asduType, hread, ok_bind, decodeInt_leDigits,
      hsequence, huser, List.length_append, Nat.add_sub_cancel, List.take_left']
    rfl
  | S_KR_NA user =>
    have huser : user < 256 ^ 2 := h
    obtain rfl := Except.ok.inj ((intToBytes_of_lt huser).symm.trans hns)
    simp only [decodeIoElement, IoElement.asduType, decodeInt_leDigits huser]
    rfl
  | S_ER_NA challengeSequence keyChangeSequence user associationId code time text =>
    obtain ⟨hcs, hks, huser, hassoc, hcode, ⟨hsize, htime⟩, htext⟩ := h
    obtain ⟨ms, hw, _, hlen, hr⟩ := encodeTime_codes htime
    rw [hsize] at hw hlen hr
    have hlen : ms.length = 7 := hlen
    simp only [encodeIoElement, intToBytes_of_lt, hcs, hks, huser, hassoc, hcode, htext, hw,
      ok_bind] at hns
    obtain rfl := Except.ok.inj hns
    simp only [decodeIoElement, IoElement.asduType, bytesOf_append, bytesOf_encodeData,
      List.append_assoc, decodeInt_leDigits, hcs, hks, huser, hassoc, hcode, htext, hr, ok_bind,
      drop_bytesOf_append hlen, decodeData_append, EnumOr.ofNat_toNat hn]
    rfl
  | S_UC_NA mac =>
    obtain rfl : rest = [] := by simpa [IoElement.Delimited] using hrest
    obtain rfl := Except.ok.inj hns
    simp [decodeIoElement, IoElement.asduType]
  | S_KS_NA sequence user keyWrapAlgorithm keyStatus macAlgorithm data mac =>
    obtain rfl : rest = [] := by simpa [IoElement.Delimited] using hrest
    simp only [IoElement.InRange] at h
    simp only [encodeIoElement, intToBytes_of_lt, h, ok_bind] at hns
    obtain rfl := Except.ok.inj hns
    simp only [decodeIoElement, IoElement.asduType, bytesOf_append, bytesOf_encodeData,
      List.append_assoc, List.append_nil, decodeInt_leDigits, h, decodeData_append,
      EnumOr.ofNat_toNat hn.1, EnumOr.ofNat_toNat hn.2.1, EnumOr.ofNat_toNat hn.2.2]
    rfl
  | S_UK_NA sequence user encryptedUpdateKey mac | S_UA_NA sequence user encryptedUpdateKey mac =>
    obtain rfl : rest = [] := by simpa [IoElement.Delimited] using hrest
    simp only [IoElement.InRange] at h
    simp only [encodeIoElement, intToBytes_of_lt, h, ok_bind] at hns
    obtain rfl := Except.ok.inj hns
    simp only [decodeIoElement, IoElement.asduType, bytesOf_append, bytesOf_encodeData,
      List.append_assoc, List.append_nil, decodeInt_leDigits, h, decodeData_append]
    rfl
  | S_US_NA keyChangeMethod operation sequence role roleExpiry name publicKey certification =>
    simp only [IoElement.InRange] at h
    simp only [encodeIoElement, intToBytes_of_lt, h, ok_bind] at hns
    obtain rfl := Except.ok.inj hns
    simp only [decodeIoElement, IoElement.asduType, bytesOf_append, bytesOf_encodeData,
      List.append_assoc, decodeInt_leDigits, h, decodeData_append, EnumOr.ofNat_toNat hn.1,
      EnumOr.ofNat_toNat hn.2.1, EnumOr.ofNat_toNat hn.2.2]
    rfl
  | S_RP_NA sequence user mac | S_KC_NA sequence user mac | S_UR_NA sequence user mac =>
    simp only [IoElement.InRange] at h
    simp only [encodeIoElement, intToBytes_of_lt, h, ok_bind] at hns
    obtain rfl := Except.ok.inj hns
    simp only [decodeIoElement, IoElement.asduType, bytesOf_append, bytesOf_encodeData,
      List.append_assoc, decodeInt_leDigits, h, decodeData_append]
    rfl
  | _ =>
    simp only [IoElement.InRange] at h
    simp only [encodeIoElement, intToBytes_of_lt, h, ok_bind] at hns
    obtain rfl := Except.ok.inj hns
    simp only [decodeIoElement, IoElement.asduType, bytesOf_append, bytesOf_encodeData,
      List.append_assoc, decodeInt_leDigits, h, decodeData_append, EnumOr.ofNat_toNat hn]
    rfl

end HatDrivers.Iec60870.Encodings.Security
