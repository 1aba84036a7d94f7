import HatDrivers.Iec101.Encoder

namespace HatDrivers.Iec101

open HatDrivers.Lib
open Iec60870.Encodings (Time TimeSize CauseSize TimeFits encodeIoTime encodeTime Available)
open Iec60870.Encodings.Iec101 (AsduType CauseType Cause IoElement asduTypeTimeSizes)

/-!
# IEC 60870-5-101 driver — round trip of messages

Data with a time of four bytes is sent under a type with three, so it comes back
without its hours (`Msg.carried`).  Every other message that is sent comes back as
it was.
-/

/-! ### Normal form -/

def Data.Valid : Data → Prop
  | .SingleData _ _ | .DoubleData _ _ | .FloatingData _ _ => True
  | .StepPositionData value _ => value.Valid
  | .BitstringData value _ => value.Valid
  | .NormalizedData value _ => value.Valid
  | .ScaledData value _ => value.Valid
  | .BinaryCounterData value quality => value.Valid ∧ quality.Valid
  | .ProtectionData _ _ elapsedTime => elapsedTime ≤ 65535
  | .ProtectionStartData _ _ durationTime => durationTime ≤ 65535
  | .ProtectionCommandData _ _ operatingTime => operatingTime ≤ 65535
  | .StatusData value _ => value.Valid

def Command.Valid : Command → Prop
  | .SingleCommand _ _ qualifier | .DoubleCommand _ _ qualifier
  | .RegulatingCommand _ _ qualifier => qualifier ≤ 31
  | .NormalizedCommand value _ => value.Valid
  | .ScaledCommand value _ => value.Valid
  | .FloatingCommand _ _ => True
  | .BitstringCommand value => value.Valid

def Parameter.Valid : Parameter → Prop
  | .NormalizedParameter value qualifier => value.Valid ∧ qualifier ≤ 255
  | .ScaledParameter value qualifier => value.Valid ∧ qualifier ≤ 255
  | .FloatingParameter _ qualifier => qualifier ≤ 255

/-- An originator address in range; a cause of one byte has none. -/
structure OriginatorValid (causeSize : CauseSize) (originatorAddress : ℕ) : Prop where
  le : originatorAddress ≤ 255
  eq_zero : causeSize = .ONE → originatorAddress = 0

/-- A cause in range, no integer standing for a member. -/
structure CauseValid {E : Type} [Enumeration E] (cause : EnumOr E) : Prop where
  normal : cause.Normal
  le : cause.toNat ≤ 63

/-- Fields in their documented ranges, and causes in normal form. -/
def Msg.Normal (causeSize : CauseSize) : Msg → Prop
  | .data msg => OriginatorValid causeSize msg.originatorAddress ∧ CauseValid msg.cause ∧
      msg.data.Valid ∧ ∀ time ∈ msg.time, time.Valid
  | .command msg => OriginatorValid causeSize msg.originatorAddress ∧ CauseValid msg.cause ∧
      msg.command.Valid
  | .initialization msg => OriginatorValid causeSize msg.originatorAddress ∧ CauseValid msg.cause
  | .interrogation msg => OriginatorValid causeSize msg.originatorAddress ∧ CauseValid msg.cause ∧
      msg.request ≤ 255
  | .counterInterrogation msg => OriginatorValid causeSize msg.originatorAddress ∧
      CauseValid msg.cause ∧ msg.request ≤ 63
  | .read msg => OriginatorValid causeSize msg.originatorAddress ∧ CauseValid msg.cause
  | .clockSync msg => OriginatorValid causeSize msg.originatorAddress ∧ CauseValid msg.cause ∧
      msg.time.Valid
  | .test msg => OriginatorValid causeSize msg.originatorAddress ∧ CauseValid msg.cause
  | .reset msg => OriginatorValid causeSize msg.originatorAddress ∧ CauseValid msg.cause ∧
      msg.qualifier ≤ 255
  | .delay msg => OriginatorValid causeSize msg.originatorAddress ∧ CauseValid msg.cause ∧
      msg.time ≤ 65535
  | .parameter msg => OriginatorValid causeSize msg.originatorAddress ∧ CauseValid msg.cause ∧
      msg.parameter.Valid
  | .parameterActivation msg => OriginatorValid causeSize msg.originatorAddress ∧
      CauseValid msg.cause ∧ msg.qualifier ≤ 255

/-! ### What a message carries -/

/-- The fields a time of three bytes has. -/
def toThree (time : Time) : Time :=
  { time with
    size := .THREE, summerTime := none, hours := none, dayOfWeek := none, dayOfMonth := none,
    months := none, years := none }

/-- What is sent of the time of data. -/
def carriedTime (time : Time) : Time := if time.size = .FOUR then toThree time else time

/-- What is sent of a message: all of it, but for the hours of a time of four bytes. -/
def Msg.carried : Msg → Msg
  | .data msg => .data { msg with time := msg.time.map carriedTime }
  | msg => msg

theorem toThree_valid {time : Time} (h : time.Valid) (hsize : time.size = .FOUR) :
    (toThree time).Valid where
  milliseconds := h.milliseconds
  invalid := by simpa [toThree, TimeSize.value, hsize] using h.invalid
  substituted := by simpa [toThree, TimeSize.value, hsize] using h.substituted
  minutes := by simpa [toThree, TimeSize.value, hsize] using h.minutes
  summerTime := by simp [toThree, Available, TimeSize.value]
  hours := by simp [toThree, Available, TimeSize.value]
  dayOfWeek := by simp [toThree, Available, TimeSize.value]
  dayOfMonth := by simp [toThree, Available, TimeSize.value]
  months := by simp [toThree, Available, TimeSize.value]
  years := by simp [toThree, Available, TimeSize.value]

/-- Three bytes hold as much of a time as of its three-byte part. -/
theorem encodeTime_toThree {time : Time} (h : time.size = .FOUR) :
    encodeTime (toThree time) .THREE = encodeTime time .THREE := by
  simp [encodeTime, toThree, TimeSize.value, h]
  rfl

/-! ### Types and elements of data -/

theorem timedAsduType_eq_ok {time : Option Time} {untimed seven three : Option AsduType}
    {t : AsduType} (h : timedAsduType time untimed seven three = .ok t) :
    (time = none ∧ untimed = some t) ∨
      (∃ tm, time = some tm ∧ tm.size = .SEVEN ∧ seven = some t) ∨
      ∃ tm, time = some tm ∧ (tm.size = .THREE ∨ tm.size = .FOUR) ∧ three = some t := by
  cases time with
  | none =>
    cases untimed with
    | none => cases h
    | some t' => exact .inl ⟨rfl, congrArg some (Except.ok.inj h)⟩
  | some tm =>
    cases hs : tm.size with
    | TWO =>
      simp only [timedAsduType, hs] at h
      cases h
    | SEVEN =>
      simp only [timedAsduType, hs] at h
      cases seven with
      | none => cases h
      | some t' => exact .inr (.inl ⟨tm, rfl, hs, congrArg some (Except.ok.inj h)⟩)
    | THREE =>
      simp only [timedAsduType, hs] at h
      cases three with
      | none => cases h
      | some t' => exact .inr (.inr ⟨tm, rfl, .inl hs, congrArg some (Except.ok.inj h)⟩)
    | FOUR =>
      simp only [timedAsduType, hs] at h
      cases three with
      | none => cases h
      | some t' => exact .inr (.inr ⟨tm, rfl, .inr hs, congrArg some (Except.ok.inj h)⟩)

/-- The class of an element the encoding builds. -/
def asDecoded : IoElement → IoElement
  | .M_BO_TA value quality => .M_BO_NA value quality
  | ioElement => ioElement

/-- The element of data is built for a type of data, in range, and gives back the data. -/
theorem getDataIoElement_spec {data : Data} {time : Option Time} {t : AsduType}
    {ioElement : IoElement} (hdata : data.Valid) (ht : getDataAsduType data time = .ok t)
    (hioe : getDataIoElement data t = .ok ioElement) :
    t ∈ dataAsduTypes ∧ (asDecoded ioElement).Of t ∧
      decodeDataIoElement (asDecoded ioElement) t = .ok data := by
  cases data with
  | NormalizedData value quality =>
    cases quality with
    | none =>
      obtain ⟨-, ⟨⟩⟩ | ⟨tm, -, -, ⟨⟩⟩ | ⟨tm, -, -, ⟨⟩⟩ := timedAsduType_eq_ok ht
      cases hioe
      exact ⟨by decide, ⟨rfl, hdata⟩, rfl⟩
    | some quality =>
      obtain ⟨-, ⟨⟩⟩ | ⟨tm, -, -, ⟨⟩⟩ | ⟨tm, -, -, ⟨⟩⟩ := timedAsduType_eq_ok ht <;> cases hioe
      all_goals exact ⟨by decide, ⟨rfl, hdata⟩, rfl⟩
  | _ =>
    obtain ⟨-, ⟨⟩⟩ | ⟨tm, -, -, ⟨⟩⟩ | ⟨tm, -, -, ⟨⟩⟩ := timedAsduType_eq_ok ht <;> cases hioe
    all_goals exact ⟨by decide, ⟨rfl, hdata⟩, rfl⟩

/-- The type of data has a time exactly when the data has, of three bytes or of seven. -/
theorem lookup_getDataAsduType {data : Data} {time : Option Time} {t : AsduType}
    (ht : getDataAsduType data time = .ok t) :
    (∀ tm ∈ time, tm.size ≠ .TWO) ∧ asduTypeTimeSizes.lookup t.value =
      time.map fun tm => if tm.size = .SEVEN then .SEVEN else .THREE := by
  cases data with
  | NormalizedData value quality =>
    cases quality with
    | none =>
      obtain ⟨rfl, ⟨⟩⟩ | ⟨tm, rfl, hs, ⟨⟩⟩ | ⟨tm, rfl, hs | hs, ⟨⟩⟩ := timedAsduType_eq_ok ht
      exact ⟨by simp, rfl⟩
    | some quality =>
      obtain ⟨rfl, ⟨⟩⟩ | ⟨tm, rfl, hs, ⟨⟩⟩ | ⟨tm, rfl, hs | hs, ⟨⟩⟩ := timedAsduType_eq_ok ht
      all_goals
        first
        | exact ⟨by simp, rfl⟩
        | exact ⟨by simp [hs], by rw [Option.map_some, hs]; rfl⟩
  | _ =>
    obtain ⟨rfl, ⟨⟩⟩ | ⟨tm, rfl, hs, ⟨⟩⟩ | ⟨tm, rfl, hs | hs, ⟨⟩⟩ := timedAsduType_eq_ok ht
    all_goals first | exact ⟨by simp, rfl⟩ | exact ⟨by simp [hs], by rw [Option.map_some, hs]; rfl⟩

/-- What is carried of the time of data fits the type of the data, and is all that is written. -/
theorem carriedTime_fits {data : Data} {time : Option Time} {t : AsduType}
    (ht : getDataAsduType data time = .ok t) (hv : ∀ tm ∈ time, tm.Valid) :
    TimeFits (asduTypeTimeSizes.lookup t.value) (time.map carriedTime) ∧
      encodeIoTime (asduTypeTimeSizes.lookup t.value) (time.map carriedTime) =
        encodeIoTime (asduTypeTimeSizes.lookup t.value) time := by
  obtain ⟨hsize, hlookup⟩ := lookup_getDataAsduType ht
  rw [hlookup]
  cases time with
  | none => exact ⟨trivial, rfl⟩
  | some tm =>
    have hv := hv tm rfl
    have hsize := hsize tm rfl
    cases hs : tm.size with
    | TWO => exact absurd hs hsize
    | THREE =>
      have hfits : TimeFits (some .THREE) (some tm) := ⟨hs, hv⟩
      simpa [hs, carriedTime] using hfits
    | SEVEN =>
      have hfits : TimeFits (some .SEVEN) (some tm) := ⟨hs, hv⟩
      simpa [hs, carriedTime] using hfits
    | FOUR =>
      have hfits : TimeFits (some .THREE) (some (toThree tm)) := ⟨rfl, toThree_valid hv hs⟩
      simpa [hs, carriedTime, encodeIoTime, encodeTime_toThree hs] using hfits

/-! ### ASDUs of messages -/

theorem encodeElement_asDecoded (ioElement : IoElement) :
    Iec60870.Encodings.Iec101.encodeElement (asDecoded ioElement) =
      Iec60870.Encodings.Iec101.encodeElement ioElement := by
  cases ioElement <;> rfl

/-- The ASDU of a message is read back with the element class of the decoder and
any time that is written with the same bytes and fits the type. -/
theorem decodeAsdu_messageAsdu {e : Iec60870.Encodings.Iec101.Encoder} {t : AsduType}
    {cause : Cause} {asduAddress ioAddress : ℕ} {ioElement : IoElement} {time time' : Option Time}
    (hcause : cause.Valid e.causeSize) (hioe : (asDecoded ioElement).Of t)
    (htime : TimeFits (asduTypeTimeSizes.lookup t.value) time' ∧
      encodeIoTime (asduTypeTimeSizes.lookup t.value) time' =
        encodeIoTime (asduTypeTimeSizes.lookup t.value) time)
    {bs : Bytes}
    (hbs : e.encodeAsdu (messageAsdu t cause asduAddress ioAddress ioElement time) = .ok bs) :
    e.decodeAsdu bs =
      .ok (messageAsdu t cause asduAddress ioAddress (asDecoded ioElement) time', []) := by
  have hio : e.encoder.encodeIo t.value ⟨ioAddress, [asDecoded ioElement], time'⟩ =
      e.encoder.encodeIo t.value ⟨ioAddress, [ioElement], time⟩ := by
    simp [Iec60870.Encodings.Encoder.encodeIo, writeAll, Iec60870.Encodings.Iec101.Encoder.encoder,
      Iec60870.Encodings.Iec101.encodeIoElement, encodeElement_asDecoded, htime.2]
  have hsame : e.encodeAsdu
      (messageAsdu t cause asduAddress ioAddress (asDecoded ioElement) time') = .ok bs := by
    rw [← hbs]
    simp only [Iec60870.Encodings.Iec101.Encoder.encodeAsdu,
      Iec60870.Encodings.Iec101.encodeTypedAsdu, messageAsdu,
      Iec60870.Encodings.Encoder.encodeAsdu_single, List.length_singleton]
    rw [show Enumeration.value t = t.value from rfl, hio]
  simpa using e.decodeAsdu_encodeAsdu hcause (.inl ⟨_, rfl, by simp, by simp⟩)
    (by simpa [messageAsdu] using htime.1) (by simpa [messageAsdu] using hioe) hsame []

/-- The element of an ASDU that is written is written. -/
theorem encodeElement_of_encodeAsdu {e : Iec60870.Encodings.Iec101.Encoder} {t : AsduType}
    {cause : Cause} {asduAddress ioAddress : ℕ} {ioElement : IoElement} {time : Option Time}
    {bs : Bytes}
    (hbs : e.encodeAsdu (messageAsdu t cause asduAddress ioAddress ioElement time) = .ok bs) :
    ∃ ns, Iec60870.Encodings.Iec101.encodeElement ioElement = .ok ns := by
  simp only [Iec60870.Encodings.Iec101.Encoder.encodeAsdu,
    Iec60870.Encodings.Iec101.encodeTypedAsdu, messageAsdu,
    Iec60870.Encodings.Encoder.encodeAsdu_single, List.length_singleton] at hbs
  obtain ⟨_, _, hbs⟩ := bind_eq_ok.mp hbs
  obtain ⟨_, _, hbs⟩ := bind_eq_ok.mp hbs
  obtain ⟨_, hio, _⟩ := bind_eq_ok.mp hbs
  obtain ⟨_, _, hio⟩ := bind_eq_ok.mp hio
  obtain ⟨_, helems, _⟩ := bind_eq_ok.mp hio
  obtain ⟨ns, _, hns, _⟩ := writeAll_cons_eq_ok.mp helems
  obtain ⟨_, _, hns⟩ := bind_eq_ok.mp hns
  exact ⟨ns, hns⟩

/-! ### Messages -/

theorem encodeCause_valid {E : Type} [Enumeration E] {cause : EnumOr E} (h : CauseValid cause)
    {causeSize : CauseSize} {originatorAddress : ℕ}
    (ho : OriginatorValid causeSize originatorAddress) (isNegativeConfirm isTest : Bool) :
    (⟨encodeCause cause, isNegativeConfirm, isTest, originatorAddress⟩ : Cause).Valid
      causeSize where
  type_le := by simpa [encodeCause, (EnumOr.normal_ofNat _).2] using h.le
  originatorAddress_le := ho.le
  originatorAddress_eq := ho.eq_zero
  normal := (EnumOr.normal_ofNat _).1

@[simp] theorem decodeCause_encodeCause {E : Type} [Enumeration E] {cause : EnumOr E}
    (h : CauseValid cause) : decodeCause (encodeCause cause) = cause := by
  rw [decodeCause, encodeCause, (EnumOr.normal_ofNat _).2, EnumOr.ofNat_toNat h.normal]

/-- A chunk is decoded by decoding the one element of its ASDU. -/
theorem decode_messageAsdu {e : Encoder} {bs : Bytes} {t : AsduType} {cause : Cause}
    {asduAddress ioAddress : ℕ} {ioElement : IoElement} {time : Option Time} {msg : Msg}
    (hread : e.encoder.decodeAsdu bs =
      .ok (messageAsdu t cause asduAddress ioAddress ioElement time, []))
    (hmsg : decodeIoElement (messageAsdu t cause asduAddress ioAddress ioElement time)
      ⟨ioAddress, [ioElement], time⟩ ioElement 0 = .ok msg) : e.decode bs = .ok [msg] := by
  simp only [Encoder.decode, hread, ok_bind, decodeAsdu]
  simp only [messageAsdu] at hmsg ⊢
  simp [List.zipIdx_cons, hmsg]

theorem decode_data {e : Encoder} {msg : DataMsg} {asdu : ASDU} {bs : Bytes}
    (h : (Msg.data msg).Normal e.encoder.causeSize) (hasdu : encodeMsg (.data msg) = .ok asdu)
    (hbs : e.encoder.encodeAsdu asdu = .ok bs) : e.decode bs = .ok [(Msg.data msg).carried] := by
  obtain ⟨ho, hc, hdata, htime⟩ := h
  obtain ⟨t, ht, hasdu⟩ := bind_eq_ok.mp hasdu
  obtain ⟨ioElement, hioe, hasdu⟩ := bind_eq_ok.mp hasdu
  obtain rfl := Except.ok.inj hasdu
  obtain ⟨hmem, hof, hdec⟩ := getDataIoElement_spec hdata ht hioe
  refine decode_messageAsdu (decodeAsdu_messageAsdu (encodeCause_valid hc ho _ _) hof
    (carriedTime_fits ht htime) hbs) ?_
  simp [decodeIoElement, messageAsdu, hmem, hdec, hc, Msg.carried]

/-- A message without a time: its element comes back as it is. -/
theorem decode_untimed {e : Encoder} {bs : Bytes} {t : AsduType} {cause : Cause}
    {asduAddress ioAddress : ℕ} {ioElement : IoElement} {msg : Msg}
    (hbs : e.encoder.encodeAsdu
      (messageAsdu t cause asduAddress ioAddress ioElement none) = .ok bs)
    (hcause : cause.Valid e.encoder.causeSize) (htype : ioElement.asduType = t)
    (hvalid : ioElement.Valid) (hclass : asDecoded ioElement = ioElement)
    (htime : asduTypeTimeSizes.lookup t.value = none)
    (hmsg : decodeIoElement (messageAsdu t cause asduAddress ioAddress ioElement none)
      ⟨ioAddress, [ioElement], none⟩ ioElement 0 = .ok msg) : e.decode bs = .ok [msg] := by
  have hof : (asDecoded ioElement).Of t := by
    subst htype
    refine ⟨?_, by rwa [hclass]⟩
    cases ioElement <;> rfl
  have hfits : TimeFits none none ∧ encodeIoTime none none = encodeIoTime none none :=
    ⟨trivial, rfl⟩
  rw [← htime] at hfits
  have hread := decodeAsdu_messageAsdu hcause hof hfits hbs
  rw [hclass] at hread
  exact decode_messageAsdu hread hmsg

theorem decode_command {e : Encoder} {msg : CommandMsg} {asdu : ASDU} {bs : Bytes}
    (h : (Msg.command msg).Normal e.encoder.causeSize)
    (hasdu : encodeMsg (.command msg) = .ok asdu) (hbs : e.encoder.encodeAsdu asdu = .ok bs) :
    e.decode bs = .ok [.command msg] := by
  obtain ⟨isTest, originatorAddress, asduAddress, ioAddress, command, isNegativeConfirm, cause⟩ :=
    msg
  obtain ⟨ho, hc, hcommand⟩ := h
  cases command
  all_goals
    obtain rfl := Except.ok.inj hasdu
    refine decode_untimed hbs (encodeCause_valid hc ho _ _) rfl hcommand rfl rfl ?_
    simp [decodeIoElement, messageAsdu, getCommandAsduType, dataAsduTypes, commandAsduTypes,
      decodeCommandIoElement, hc]

theorem decode_parameter {e : Encoder} {msg : ParameterMsg} {asdu : ASDU} {bs : Bytes}
    (h : (Msg.parameter msg).Normal e.encoder.causeSize)
    (hasdu : encodeMsg (.parameter msg) = .ok asdu) (hbs : e.encoder.encodeAsdu asdu = .ok bs) :
    e.decode bs = .ok [.parameter msg] := by
  obtain ⟨isTest, originatorAddress, asduAddress, ioAddress, parameter, cause⟩ := msg
  obtain ⟨ho, hc, hparameter⟩ := h
  cases parameter
  all_goals
    obtain rfl := Except.ok.inj hasdu
    refine decode_untimed hbs (encodeCause_valid hc ho _ _) rfl hparameter rfl rfl ?_
    simp [decodeIoElement, messageAsdu, getParameterAsduType, dataAsduTypes, commandAsduTypes,
      parameterAsduTypes, decodeParameterIoElement, hc]

/-- Only a time of seven bytes is written in seven bytes. -/
theorem size_of_encodeTime {time : Time} {ns : List ℕ} (h : encodeTime time .SEVEN = .ok ns) :
    time.size = .SEVEN := by
  by_contra hne
  cases hs : time.size <;> simp_all [encodeTime, TimeSize.value]

/-- **A message that is sent comes back with all that it carries.** -/
theorem Encoder.decode_encode {e : Encoder} {msg : Msg} {asdu : ASDU} {bs : Bytes}
    (h : msg.Normal e.encoder.causeSize) (hasdu : encodeMsg msg = .ok asdu)
    (hbs : e.encoder.encodeAsdu asdu = .ok bs) : e.decode bs = .ok [msg.carried] := by
  cases msg with
  | data msg => exact decode_data h hasdu hbs
  | command msg => exact decode_command h hasdu hbs
  | parameter msg => exact decode_parameter h hasdu hbs
  | initialization msg =>
    obtain ⟨ho, hc⟩ := h
    obtain rfl := Except.ok.inj hasdu
    have hcause : (⟨.enum .INITIALIZED, false, msg.isTest, msg.originatorAddress⟩ : Cause).Valid
        e.encoder.causeSize :=
      ⟨⟨show CauseType.INITIALIZED.value ≤ 63 by decide, ho.le, ho.eq_zero⟩, trivial⟩
    have hle : msg.cause.toNat ≤ 127 := hc.le.trans (by omega)
    refine decode_untimed hbs hcause rfl hle rfl rfl ?_
    simp [decodeIoElement, messageAsdu, dataAsduTypes, commandAsduTypes, parameterAsduTypes,
      Msg.carried, EnumOr.ofNat_toNat hc.normal]
  | clockSync msg =>
    obtain ⟨ho, hc, htime⟩ := h
    obtain rfl := Except.ok.inj hasdu
    obtain ⟨ns, hns⟩ := encodeElement_of_encodeAsdu hbs
    refine decode_untimed hbs (encodeCause_valid hc ho _ _) rfl
      ⟨size_of_encodeTime hns, htime⟩ rfl rfl ?_
    simp [decodeIoElement, messageAsdu, dataAsduTypes, commandAsduTypes, parameterAsduTypes,
      Msg.carried, hc]
  | read msg | test msg =>
    obtain ⟨ho, hc⟩ := h
    obtain rfl := Except.ok.inj hasdu
    refine decode_untimed hbs (encodeCause_valid hc ho _ _) rfl trivial rfl rfl ?_
    simp [decodeIoElement, messageAsdu, dataAsduTypes, commandAsduTypes, parameterAsduTypes,
      Msg.carried, hc]
  | interrogation msg | counterInterrogation msg | reset msg | delay msg
  | parameterActivation msg =>
    obtain ⟨ho, hc, hv⟩ := h
    obtain rfl := Except.ok.inj hasdu
    refine decode_untimed hbs (encodeCause_valid hc ho _ _) rfl hv rfl rfl ?_
    simp [decodeIoElement, messageAsdu, dataAsduTypes, commandAsduTypes, parameterAsduTypes,
      Msg.carried, hc]

/-! ### Lists of messages -/

/-- The messages of all chunks, one after the other. -/
def Encoder.decodeAll (e : Encoder) (chunks : List Bytes) : Except Exn (List Msg) := do
  return (← chunks.mapM e.decode).flatten

/-- Messages are their own carried form, unless they are data with a time of four bytes. -/
theorem Msg.carried_eq_self {msg : Msg}
    (h : ∀ data, msg = .data data → ∀ time ∈ data.time, time.size ≠ .FOUR) :
    msg.carried = msg := by
  cases msg with
  | data msg =>
    obtain ⟨isTest, originatorAddress, asduAddress, ioAddress, data, time, cause⟩ := msg
    cases time with
    | none => rfl
    | some time => simp [carried, carriedTime, h _ rfl time rfl]
  | _ => rfl

/-- **Encoding raises, or the chunks are decoded to what the messages carry**, in
order, whatever the sizes of the fields. -/
theorem encode_raises_or_decodeAll (e : Encoder) (msgs : List Msg)
    (h : ∀ msg ∈ msgs, msg.Normal e.encoder.causeSize) :
    (∃ exn, e.encode msgs = .error exn) ∨
      ∃ chunks, e.encode msgs = .ok chunks ∧
        e.decodeAll chunks = .ok (msgs.map Msg.carried) := by
  cases hencode : e.encode msgs with
  | error exn => exact .inl ⟨exn, rfl⟩
  | ok chunks =>
    refine .inr ⟨chunks, rfl, ?_⟩
    have hdecode : chunks.mapM e.decode = .ok (msgs.map fun msg => [msg.carried]) := by
      refine mapM_of_mapM_eq_ok (fun msg hmsg bs hbs => ?_) hencode
      obtain ⟨asdu, hasdu, hbs⟩ := bind_eq_ok.mp hbs
      exact Encoder.decode_encode (h msg hmsg) hasdu hbs
    simp only [Encoder.decodeAll, hdecode, ok_bind, ← List.flatMap_def, ← List.map_eq_flatMap]
    rfl

/-- The last minute of a day, as a time of four bytes. -/
def lastMinute : Time where
  size := .FOUR
  milliseconds := 59999
  invalid := some false
  substituted := some false
  minutes := some 59
  summerTime := some false
  hours := some 23
  dayOfWeek := none
  dayOfMonth := none
  months := none
  years := none

theorem lastMinute_valid : lastMinute.Valid := by constructor <;> decide

/-- A spontaneous measurement of a floating point value. -/
def measurement (time : Option Time) : Msg :=
  .data { isTest := false, originatorAddress := 0, asduAddress := 3, ioAddress := 700,
          data := .FloatingData ⟨0x3F800000⟩ ⟨false, false, false, false, false⟩, time
          cause := .enum .SPONTANEOUS }

theorem measurement_normal {causeSize : CauseSize} {time : Option Time}
    (h : ∀ tm ∈ time, tm.Valid) : (measurement time).Normal causeSize :=
  ⟨⟨Nat.zero_le _, fun _ => rfl⟩, ⟨trivial, show DataResCause.SPONTANEOUS.value ≤ 63 by decide⟩,
    trivial, h⟩

/-- The encoder with fields of two, two and three bytes. -/
def widest : Encoder := ⟨⟨.TWO, .TWO, .THREE⟩⟩

theorem encode_raises_or_decodeAll_measurements :
    (∃ exn, widest.encode [measurement none, measurement (some lastMinute)] = .error exn) ∨
      ∃ chunks, widest.encode [measurement none, measurement (some lastMinute)] = .ok chunks ∧
        widest.decodeAll chunks =
          .ok ([measurement none, measurement (some lastMinute)].map Msg.carried) :=
  encode_raises_or_decodeAll widest [measurement none, measurement (some lastMinute)] (by
    simp only [List.forall_mem_cons]
    exact ⟨measurement_normal (by simp), measurement_normal (by simpa using lastMinute_valid),
      by simp⟩)

/-- A time of four bytes is sent without raising, and comes back as one of three bytes. -/
theorem lastMinute_not_decoded : (measurement (some lastMinute)).Normal .TWO ∧
    ∃ chunks, widest.encode [measurement (some lastMinute)] = .ok chunks ∧
      widest.decodeAll chunks ≠ .ok [measurement (some lastMinute)] := by
  refine ⟨measurement_normal (by simpa using lastMinute_valid),
    [[14, 1, 3, 0, 3, 0, 188, 2, 0, 0, 0, 128, 63, 0, 95, 234, 59]], rfl, fun h => ?_⟩
  have hthree : widest.decodeAll
      [[14, 1, 3, 0, 3, 0, 188, 2, 0, 0, 0, 128, 63, 0, 95, 234, 59]] =
      .ok [measurement (some (toThree lastMinute))] := rfl
  rw [hthree] at h
  simp [measurement, toThree, lastMinute] at h

end HatDrivers.Iec101
