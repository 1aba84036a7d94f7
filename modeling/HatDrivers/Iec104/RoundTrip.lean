import HatDrivers.Iec104.Encoder

namespace HatDrivers.Iec104

open HatDrivers.Lib
open Iec60870.Encodings (Time TimeFits)
open Iec60870.Encodings.Iec101 (Cause)
open Iec60870.Encodings.Iec104 (AsduType IoElement ASDU asduTypeTimeSizes encodeAsdu WellFormed)
open Iec101 (Data Command Parameter OriginatorValid CauseValid encodeCause_valid messageAsdu)

/-!
# IEC 60870-5-104 driver — round trip of messages

A time has seven bytes here, so the type chosen for a message carries all of it:
every message in normal form is sent, and comes back as it was.
-/

/-! ### Normal form -/

/-- A time of seven bytes in range. -/
structure TimeValid (time : Time) : Prop where
  size_eq : time.size = .SEVEN
  valid : time.Valid

/-- Data that have a type with their time, or without one. -/
def TimeAllowed : Data → Option Time → Prop
  | .NormalizedData _ none, time | .StatusData .., time => time = none
  | .ProtectionData .., time | .ProtectionStartData .., time
  | .ProtectionCommandData .., time => time ≠ none
  | _, _ => True

/-- The fields every message has, in range. -/
structure HeaderValid (originatorAddress asduAddress ioAddress : ℕ) : Prop where
  originator : OriginatorValid .TWO originatorAddress
  asduAddress_le : asduAddress ≤ 65535
  ioAddress_le : ioAddress ≤ 16777215

/-- Fields in their documented ranges, causes in normal form and times their message can have. -/
def Msg.Normal : Msg → Prop
  | .data msg => HeaderValid msg.originatorAddress msg.asduAddress msg.ioAddress ∧
      CauseValid msg.cause ∧ msg.data.Valid ∧ TimeAllowed msg.data msg.time ∧
      ∀ time ∈ msg.time, TimeValid time
  | .command msg => HeaderValid msg.originatorAddress msg.asduAddress msg.ioAddress ∧
      CauseValid msg.cause ∧ msg.command.Valid ∧ ∀ time ∈ msg.time, TimeValid time
  | .initialization msg => HeaderValid msg.originatorAddress msg.asduAddress 0 ∧
      CauseValid msg.cause
  | .interrogation msg => HeaderValid msg.originatorAddress msg.asduAddress 0 ∧
      CauseValid msg.cause ∧ msg.request ≤ 255
  | .counterInterrogation msg => HeaderValid msg.originatorAddress msg.asduAddress 0 ∧
      CauseValid msg.cause ∧ msg.request ≤ 63
  | .read msg => HeaderValid msg.originatorAddress msg.asduAddress msg.ioAddress ∧
      CauseValid msg.cause
  | .clockSync msg => HeaderValid msg.originatorAddress msg.asduAddress 0 ∧
      CauseValid msg.cause ∧ TimeValid msg.time
  | .test msg => HeaderValid msg.originatorAddress msg.asduAddress 0 ∧
      CauseValid msg.cause ∧ msg.counter ≤ 65535 ∧ TimeValid msg.time
  | .reset msg => HeaderValid msg.originatorAddress msg.asduAddress 0 ∧
      CauseValid msg.cause ∧ msg.qualifier ≤ 255
  | .parameter msg => HeaderValid msg.originatorAddress msg.asduAddress msg.ioAddress ∧
      CauseValid msg.cause ∧ msg.parameter.Valid
  | .parameterActivation msg => HeaderValid msg.originatorAddress msg.asduAddress msg.ioAddress ∧
      CauseValid msg.cause ∧ msg.qualifier ≤ 255

/-! ### Types and elements -/

/-- Data that can have their time have a type with it, whose element gives them back. -/
theorem getDataIoElement_spec {data : Data} {time : Option Time} (hdata : data.Valid)
    (hallowed : TimeAllowed data time) (htime : ∀ tm ∈ time, TimeValid tm) :
    ∃ t ioElement, getDataAsduType data time = .ok t ∧ getDataIoElement data t = .ok ioElement ∧
      t ∈ dataAsduTypes ∧ ioElement.Of t ∧ decodeDataIoElement ioElement t = .ok data ∧
      TimeFits (asduTypeTimeSizes.lookup t.value) time := by
  cases time with
  | none =>
    cases data with
    | NormalizedData value quality =>
      cases quality with
      | none => exact ⟨_, _, rfl, rfl, by decide, ⟨rfl, hdata⟩, rfl, trivial⟩
      | some quality => exact ⟨_, _, rfl, rfl, by decide, ⟨rfl, hdata⟩, rfl, trivial⟩
    | ProtectionData | ProtectionStartData | ProtectionCommandData => exact absurd rfl hallowed
    | _ => exact ⟨_, _, rfl, rfl, by decide, ⟨rfl, hdata⟩, rfl, trivial⟩
  | some time =>
    obtain ⟨hsize, hvalid⟩ := htime time rfl
    cases data with
    | NormalizedData value quality =>
      cases quality with
      | none => cases hallowed
      | some quality => exact ⟨_, _, rfl, rfl, by decide, ⟨rfl, hdata⟩, rfl, hsize, hvalid⟩
    | StatusData => cases hallowed
    | _ => exact ⟨_, _, rfl, rfl, by decide, ⟨rfl, hdata⟩, rfl, hsize, hvalid⟩

theorem getCommandIoElement_spec {command : Command} {time : Option Time} (hcommand : command.Valid)
    (htime : ∀ tm ∈ time, TimeValid tm) :
    ∃ ioElement, getCommandIoElement command (getCommandAsduType command time) = .ok ioElement ∧
      getCommandAsduType command time ∈ commandAsduTypes ∧
      getCommandAsduType command time ∉ dataAsduTypes ∧
      ioElement.Of (getCommandAsduType command time) ∧
      decodeCommandIoElement ioElement (getCommandAsduType command time) = .ok command ∧
      TimeFits (asduTypeTimeSizes.lookup (getCommandAsduType command time).value) time := by
  cases time with
  | none =>
    cases command
    all_goals exact ⟨_, rfl, by simp [getCommandAsduType, commandAsduTypes],
      by simp [getCommandAsduType, dataAsduTypes], ⟨rfl, hcommand⟩, rfl, trivial⟩
  | some time =>
    obtain ⟨hsize, hvalid⟩ := htime time rfl
    cases command
    all_goals exact ⟨_, rfl, by simp [getCommandAsduType, commandAsduTypes],
      by simp [getCommandAsduType, dataAsduTypes], ⟨rfl, hcommand⟩, rfl, hsize, hvalid⟩

theorem getParameterIoElement_spec {parameter : Parameter} (h : parameter.Valid) :
    ∃ ioElement,
      getParameterIoElement parameter (getParameterAsduType parameter) = .ok ioElement ∧
      getParameterAsduType parameter ∈ parameterAsduTypes ∧
      getParameterAsduType parameter ∉ commandAsduTypes ∧
      getParameterAsduType parameter ∉ dataAsduTypes ∧
      ioElement.Of (getParameterAsduType parameter) ∧
      decodeParameterIoElement ioElement (getParameterAsduType parameter) = .ok parameter ∧
      TimeFits (asduTypeTimeSizes.lookup (getParameterAsduType parameter).value) none := by
  cases parameter
  all_goals exact ⟨_, rfl, by simp [getParameterAsduType, parameterAsduTypes],
    by simp [getParameterAsduType, commandAsduTypes],
    by simp [getParameterAsduType, dataAsduTypes], ⟨rfl, h⟩, rfl, trivial⟩

/-! ### ASDUs of messages -/

/-- The ASDU of a message is well formed if its element and its time are of its type. -/
theorem messageAsdu_wellFormed {t : AsduType} {cause : Cause} {originatorAddress asduAddress
    ioAddress : ℕ} {ioElement : IoElement} {time : Option Time}
    (h : HeaderValid originatorAddress asduAddress ioAddress) (hcause : cause.Valid .TWO)
    (hof : ioElement.Of t) (htime : TimeFits (asduTypeTimeSizes.lookup t.value) time) :
    WellFormed (messageAsdu t cause asduAddress ioAddress ioElement time) where
  inRange :=
    { cause := hcause.toInRange
      address_lt := Nat.lt_succ_of_le h.asduAddress_le
      shape := .inl ⟨_, rfl, by simp, by simp⟩
      ioAddress_lt := by
        simp only [messageAsdu, List.forall_mem_singleton]
        exact Nat.lt_succ_of_le h.ioAddress_le
      elements := by simpa [messageAsdu] using hof
      time := by
        simp only [messageAsdu, List.forall_mem_singleton]
        exact htime }
  normal := hcause.normal

/-- One element is decoded as one message. -/
theorem decodeAsdu_messageAsdu {t : AsduType} {cause : Cause} {asduAddress ioAddress : ℕ}
    {ioElement : IoElement} {time : Option Time} {msg : Msg}
    (hmsg : decodeIoElement (messageAsdu t cause asduAddress ioAddress ioElement time)
      ⟨ioAddress, [ioElement], time⟩ ioElement 0 = .ok msg) :
    decodeAsdu (messageAsdu t cause asduAddress ioAddress ioElement time) = .ok [msg] := by
  simp only [decodeAsdu]
  simp only [messageAsdu] at hmsg ⊢
  simp [List.zipIdx_cons, hmsg]

/-- **A message in normal form is a well-formed ASDU, which gives back the message.** -/
theorem encodeMsg_spec {msg : Msg} (h : msg.Normal) :
    ∃ asdu, encodeMsg msg = .ok asdu ∧ WellFormed asdu ∧ decodeAsdu asdu = .ok [msg] := by
  cases msg with
  | data msg =>
    obtain ⟨hh, hc, hdata, hallowed, htime⟩ := h
    obtain ⟨t, ioElement, ht, hioe, hmem, hof, hdec, hfits⟩ :=
      getDataIoElement_spec hdata hallowed htime
    refine ⟨_, by simp only [encodeMsg, ht, hioe, ok_bind]; rfl, messageAsdu_wellFormed hh
      (encodeCause_valid hc hh.originator _ _) hof hfits, decodeAsdu_messageAsdu ?_⟩
    simp [decodeIoElement, messageAsdu, hmem, hdec, hc]
  | command msg =>
    obtain ⟨hh, hc, hcommand, htime⟩ := h
    obtain ⟨ioElement, hioe, hmem, hdata, hof, hdec, hfits⟩ :=
      getCommandIoElement_spec hcommand htime
    refine ⟨_, by simp only [encodeMsg, hioe, ok_bind]; rfl, messageAsdu_wellFormed hh
      (encodeCause_valid hc hh.originator _ _) hof hfits, decodeAsdu_messageAsdu ?_⟩
    simp [decodeIoElement, messageAsdu, hmem, hdata, hdec, hc]
  | parameter msg =>
    obtain ⟨hh, hc, hparameter⟩ := h
    obtain ⟨ioElement, hioe, hmem, hcommand, hdata, hof, hdec, hfits⟩ :=
      getParameterIoElement_spec hparameter
    refine ⟨_, by simp only [encodeMsg, hioe, ok_bind]; rfl, messageAsdu_wellFormed hh
      (encodeCause_valid hc hh.originator _ _) hof hfits, decodeAsdu_messageAsdu ?_⟩
    simp [decodeIoElement, messageAsdu, hmem, hdata, hcommand, hdec, hc]
  | initialization msg =>
    obtain ⟨hh, hc⟩ := h
    have hcause : (⟨.enum .INITIALIZED, false, msg.isTest, msg.originatorAddress⟩ : Cause).Valid
        .TWO :=
      ⟨⟨show Iec60870.Encodings.Iec101.CauseType.INITIALIZED.value ≤ 63 by decide,
        hh.originator.le, hh.originator.eq_zero⟩, trivial⟩
    have hle : msg.cause.toNat ≤ 127 := hc.le.trans (by omega)
    refine ⟨_, rfl, messageAsdu_wellFormed hh hcause ⟨rfl, hle⟩ trivial,
      decodeAsdu_messageAsdu ?_⟩
    simp [decodeIoElement, messageAsdu, dataAsduTypes, commandAsduTypes, parameterAsduTypes,
      EnumOr.ofNat_toNat hc.normal]
  | read msg =>
    obtain ⟨hh, hc⟩ := h
    refine ⟨_, rfl, messageAsdu_wellFormed hh (encodeCause_valid hc hh.originator _ _)
      ⟨rfl, trivial⟩ trivial, decodeAsdu_messageAsdu ?_⟩
    simp [decodeIoElement, messageAsdu, dataAsduTypes, commandAsduTypes, parameterAsduTypes, hc]
  | clockSync msg =>
    obtain ⟨hh, hc, htime⟩ := h
    refine ⟨_, rfl, messageAsdu_wellFormed hh (encodeCause_valid hc hh.originator _ _)
      ⟨rfl, htime.size_eq, htime.valid⟩ trivial, decodeAsdu_messageAsdu ?_⟩
    simp [decodeIoElement, messageAsdu, dataAsduTypes, commandAsduTypes, parameterAsduTypes, hc]
  | test msg =>
    obtain ⟨hh, hc, hcounter, htime⟩ := h
    refine ⟨_, rfl, messageAsdu_wellFormed hh (encodeCause_valid hc hh.originator _ _)
      ⟨rfl, hcounter⟩ ⟨htime.size_eq, htime.valid⟩, decodeAsdu_messageAsdu ?_⟩
    simp [decodeIoElement, messageAsdu, dataAsduTypes, commandAsduTypes, parameterAsduTypes, hc]
  | interrogation msg | counterInterrogation msg | reset msg | parameterActivation msg =>
    obtain ⟨hh, hc, hv⟩ := h
    refine ⟨_, rfl, messageAsdu_wellFormed hh (encodeCause_valid hc hh.originator _ _)
      ⟨rfl, hv⟩ trivial, decodeAsdu_messageAsdu ?_⟩
    simp [decodeIoElement, messageAsdu, dataAsduTypes, commandAsduTypes, parameterAsduTypes, hc]

/-! ### Lists of messages -/

/-- The messages of all chunks, one after the other. -/
def decodeAll (chunks : List Bytes) : Except Exn (List Msg) := do
  return (← chunks.mapM decode).flatten

/-- **Messages in normal form are encoded, and all of them come back**, in order and
unchanged. -/
theorem decodeAll_encode (msgs : List Msg) (h : ∀ msg ∈ msgs, msg.Normal) :
    ∃ chunks, encode msgs = .ok chunks ∧ decodeAll chunks = .ok msgs := by
  obtain ⟨chunks, hchunks⟩ : ∃ chunks, encode msgs = .ok chunks := by
    refine exists_mapM_eq_ok fun msg hmsg => ?_
    obtain ⟨asdu, hasdu, hwell, _⟩ := encodeMsg_spec (h msg hmsg)
    obtain ⟨bs, hbs⟩ := hwell.inRange.encodes
    exact ⟨bs, by simp only [hasdu, ok_bind, hbs]⟩
  refine ⟨chunks, hchunks, ?_⟩
  have hdecode : chunks.mapM decode = .ok (msgs.map fun msg => [msg]) := by
    refine mapM_of_mapM_eq_ok (fun msg hmsg bs hbs => ?_) hchunks
    obtain ⟨asdu, hasdu, hwell, hmsg⟩ := encodeMsg_spec (h msg hmsg)
    rw [hasdu, ok_bind] at hbs
    have hread := Iec60870.Encodings.Iec104.decodeAsdu_of_encode hwell hbs []
    rw [List.append_nil] at hread
    simp only [decode, hread, ok_bind, hmsg]
  simp only [decodeAll, hdecode, ok_bind, ← List.flatMap_def, ← List.map_eq_flatMap, List.map_id']
  rfl

/-- A clock and a measurement taken by it. -/
def clockAndMeasurement : List Msg :=
  [.clockSync { isTest := false, originatorAddress := 1, asduAddress := 65535,
                time := Iec60870.Encodings.Iec104.summerNoon, isNegativeConfirm := false,
                cause := .enum (.inl .ACTIVATION) },
   .data { isTest := true, originatorAddress := 255, asduAddress := 3, ioAddress := 16777215,
           data := .ScaledData ⟨-32768⟩ ⟨true, false, true, false, true⟩
           time := some Iec60870.Encodings.Iec104.summerNoon, cause := .int 63 }]

theorem clockAndMeasurement_normal : ∀ msg ∈ clockAndMeasurement, msg.Normal := by
  have htime : TimeValid Iec60870.Encodings.Iec104.summerNoon :=
    ⟨rfl, Iec60870.Encodings.Iec104.summerNoon_valid⟩
  simp only [clockAndMeasurement, List.forall_mem_cons]
  refine ⟨⟨⟨⟨by decide, by decide⟩, by decide, by decide⟩, ⟨trivial, by decide⟩, htime⟩,
    ⟨⟨⟨by decide, by decide⟩, by decide, by decide⟩, ⟨by decide, by decide⟩,
      ⟨by decide, by decide⟩, trivial, by simpa using htime⟩, by simp⟩

theorem decodeAll_encode_clockAndMeasurement : ∃ chunks,
    encode clockAndMeasurement = .ok chunks ∧ decodeAll chunks = .ok clockAndMeasurement :=
  decodeAll_encode clockAndMeasurement clockAndMeasurement_normal

end HatDrivers.Iec104
