import HatDrivers.Snmp.Asn1

namespace HatDrivers.Snmp.V2c

open HatDrivers.Lib
open Asn1.V2c (VarBind)
open Mqtt.Transport (encodeUtf8)

/-!
# SNMP driver — messages of version 2c

`encode_msg` and `decode_msg` of `encoder/v2c.py`, and the PDUs it shares with version 3.
-/

abbrev MsgType := Asn1.V2c.MsgType

structure BasicPdu where
  requestId : ℤ
  error : Error
  data : List Data
  deriving DecidableEq

structure BulkPdu where
  requestId : ℤ
  nonRepeaters : ℤ
  maxRepetitions : ℤ
  data : List Data
  deriving DecidableEq

inductive Pdu
  | basic (pdu : BasicPdu)
  | bulk (pdu : BulkPdu)
  deriving DecidableEq

def Pdu.requestId : Pdu → ℤ
  | basic pdu => pdu.requestId
  | bulk pdu => pdu.requestId

def Pdu.data : Pdu → List Data
  | basic pdu => pdu.data
  | bulk pdu => pdu.data

/-- `isinstance(pdu, BulkPdu)`. -/
def Pdu.isBulk : Pdu → Bool
  | bulk _ => true
  | basic _ => false

structure Msg where
  type : MsgType
  community : String
  pdu : Pdu
  deriving DecidableEq

/-! ### Data -/

def encodeData : Data → Except Failure VarBind
  | .IntegerData name value => .ok ⟨name, .value (.simple (.integerValue value))⟩
  | .StringData name value => .ok ⟨name, .value (.simple (.stringValue value))⟩
  | .ObjectIdData name value => .ok ⟨name, .value (.simple (.objectIDValue value))⟩
  | .IpAddressData name value => .ok ⟨name, .value (.applicationWide (.ipAddressValue value))⟩
  | .CounterData name value => .ok ⟨name, .value (.applicationWide (.counterValue value))⟩
  | .TimeTicksData name value => .ok ⟨name, .value (.applicationWide (.timeticksValue value))⟩
  | .ArbitraryData name value => .ok ⟨name, .value (.applicationWide (.arbitraryValue value))⟩
  | .BigCounterData name value => .ok ⟨name, .value (.applicationWide (.bigCounterValue value))⟩
  | .UnsignedData name value =>
    .ok ⟨name, .value (.applicationWide (.unsignedIntegerValue value))⟩
  | .UnspecifiedData name => .ok ⟨name, .unSpecified⟩
  | .NoSuchObjectData name => .ok ⟨name, .noSuchObject⟩
  | .NoSuchInstanceData name => .ok ⟨name, .noSuchInstance⟩
  | .EndOfMibViewData name => .ok ⟨name, .endOfMibView⟩
  | .EmptyData _ => .error (.valueError "unsupported data type")

/-- `_decode_data`; what it raises for other types is for no value of `VarBind`. -/
def decodeData (data : VarBind) : Except Failure Data :=
  let name := data.name
  match data.data with
  | .value (.simple (.integerValue value)) => .ok (.IntegerData name value)
  | .value (.simple (.stringValue value)) => .ok (.StringData name value)
  | .value (.simple (.objectIDValue value)) => .ok (.ObjectIdData name value)
  | .value (.applicationWide (.ipAddressValue value)) => .ok (.IpAddressData name value)
  | .value (.applicationWide (.counterValue value)) => .ok (.CounterData name value)
  | .value (.applicationWide (.timeticksValue value)) => .ok (.TimeTicksData name value)
  | .value (.applicationWide (.arbitraryValue value)) => .ok (.ArbitraryData name value)
  | .value (.applicationWide (.bigCounterValue value)) => .ok (.BigCounterData name value)
  | .value (.applicationWide (.unsignedIntegerValue value)) => .ok (.UnsignedData name value)
  | .unSpecified => .ok (.UnspecifiedData name)
  | .noSuchObject => .ok (.NoSuchObjectData name)
  | .noSuchInstance => .ok (.NoSuchInstanceData name)
  | .endOfMibView => .ok (.EndOfMibViewData name)

theorem encodeData_eq_ok {data : Data} (h : data.Supports .V2C) :
    ∃ value, encodeData data = .ok value := by
  cases data with
  | EmptyData => exact absurd h Bool.false_ne_true
  | _ => exact ⟨_, rfl⟩

theorem decodeData_encodeData {data : Data} {value : VarBind} (h : encodeData data = .ok value) :
    decodeData value = .ok data := by
  cases data <;> cases h <;> rfl

/-- Versions 2c and 3 have the same data. -/
theorem supports_V3_iff (data : Data) : data.Supports .V3 ↔ data.Supports .V2C := by
  cases data <;> rfl

/-! ### PDUs -/

def encodePdu : Pdu → Except Failure Asn1.V2c.PDU
  | .basic pdu => do
    let bindings ← pdu.data.mapM encodeData
    return .pdu pdu.requestId (Enumeration.value pdu.error.type : ℕ) pdu.error.index bindings
  | .bulk pdu => do
    let bindings ← pdu.data.mapM encodeData
    return .bulk pdu.requestId pdu.nonRepeaters pdu.maxRepetitions bindings

def decodePdu : MsgType → Asn1.V2c.PDU → Except Failure Pdu
  | .GET_BULK_REQUEST, .bulk requestId nonRepeaters maxRepetitions bindings =>
    return .bulk ⟨requestId, nonRepeaters, maxRepetitions, ← bindings.mapM decodeData⟩
  | .GET_BULK_REQUEST, .pdu .. => .error .keyError
  | _, .pdu requestId status index bindings => do
    let error : Error := ⟨← enumOf ErrorType status, index⟩
    return .basic ⟨requestId, error, ← bindings.mapM decodeData⟩
  | _, .bulk .. => .error .keyError

theorem encodePdu_eq_ok {pdu : Pdu} (h : ∀ data ∈ pdu.data, data.Supports .V2C) :
    ∃ value, encodePdu pdu = .ok value := by
  obtain ⟨values, hvalues⟩ := exists_mapM_eq_ok fun data hdata => encodeData_eq_ok (h data hdata)
  cases pdu with
  | basic pdu =>
    refine ⟨.pdu pdu.requestId (Enumeration.value pdu.error.type : ℕ) pdu.error.index values, ?_⟩
    simp only [encodePdu, show pdu.data.mapM encodeData = .ok values from hvalues]
    rfl
  | bulk pdu =>
    refine ⟨.bulk pdu.requestId pdu.nonRepeaters pdu.maxRepetitions values, ?_⟩
    simp only [encodePdu, show pdu.data.mapM encodeData = .ok values from hvalues]
    rfl

private theorem mapM_decodeData {datas : List Data} {values : List VarBind}
    (h : datas.mapM encodeData = .ok values) : values.mapM decodeData = .ok datas := by
  have hmap := mapM_of_mapM_eq_ok (k := id)
    (fun data _ value hvalue => decodeData_encodeData hvalue) h
  rwa [List.map_id] at hmap

theorem decodePdu_encodePdu {type : MsgType} {pdu : Pdu}
    (hkind : type = .GET_BULK_REQUEST ↔ pdu.isBulk) {value : Asn1.V2c.PDU}
    (h : encodePdu pdu = .ok value) : decodePdu type value = .ok pdu := by
  cases pdu with
  | basic pdu =>
    cases hvalues : pdu.data.mapM encodeData with
    | error e => simp [encodePdu, hvalues] at h
    | ok values =>
      simp only [encodePdu, hvalues] at h
      cases h
      have hdecode := mapM_decodeData hvalues
      cases type with
      | GET_BULK_REQUEST => exact absurd (hkind.mp rfl) Bool.false_ne_true
      | _ => simp only [decodePdu, enumOf_value, hdecode]; rfl
  | bulk pdu =>
    cases hvalues : pdu.data.mapM encodeData with
    | error e => simp [encodePdu, hvalues] at h
    | ok values =>
      simp only [encodePdu, hvalues] at h
      cases h
      obtain rfl := hkind.mpr rfl
      simp only [decodePdu, mapM_decodeData hvalues]
      rfl

/-! ### Messages -/

/-- The PDU is that of the message type, and the version has its data. -/
structure WellFormed (type : MsgType) (pdu : Pdu) : Prop where
  kind : type = .GET_BULK_REQUEST ↔ pdu.isBulk
  data : ∀ data ∈ pdu.data, data.Supports .V2C

/-- The first check of both versions' `encode_msg`. -/
def unsupported (type : MsgType) (pdu : Pdu) : Bool :=
  (type = .GET_BULK_REQUEST ∧ ¬ pdu.isBulk) ∨ (type ≠ .GET_BULK_REQUEST ∧ pdu.isBulk)

theorem WellFormed.not_unsupported {type : MsgType} {pdu : Pdu} (h : WellFormed type pdu) :
    unsupported type pdu = false := by
  have hkind := h.kind
  simp only [unsupported, decide_eq_false_iff_not]
  tauto

def encodeMsg (msg : Msg) : Except Failure Asn1.V2c.Message :=
  if unsupported msg.type msg.pdu then .error (.valueError "unsupported message type / pdu")
  else do
    let data := (msg.type, ← encodePdu msg.pdu)
    return { version := (Enumeration.value Version.V2C : ℕ), community := encodeUtf8 msg.community,
             data := data }

def decodeMsg (msg : Asn1.V2c.Message) : Except Failure Msg := do
  let msgType := msg.data.1
  let pdu ← decodePdu msgType msg.data.2
  return { type := msgType, community := decodeStr msg.community, pdu := pdu }

theorem encodeMsg_eq_ok {msg : Msg} (h : WellFormed msg.type msg.pdu) :
    ∃ value, encodeMsg msg = .ok value ∧ value.version = 1 ∧ decodeMsg value = .ok msg := by
  obtain ⟨pdu, hpdu⟩ := encodePdu_eq_ok h.data
  refine ⟨⟨1, encodeUtf8 msg.community, (msg.type, pdu)⟩, ?_, rfl, ?_⟩
  · rw [encodeMsg, h.not_unsupported, if_neg Bool.false_ne_true, hpdu]
    rfl
  · simp only [decodeMsg, decodePdu_encodePdu h.kind hpdu, decodeStr_encodeUtf8]
    rfl

theorem supports_of_encodeData {data : Data} {value : VarBind} (h : encodeData data = .ok value) :
    data.Supports .V2C := by
  cases data with
  | EmptyData => cases h
  | _ => rfl

/-- Only the PDUs of a message type with data of the version are encoded. -/
theorem wellFormed_of_encodePdu {type : MsgType} {pdu : Pdu} (hkind : unsupported type pdu = false)
    {value : Asn1.V2c.PDU} (h : encodePdu pdu = .ok value) : WellFormed type pdu where
  kind := by
    simp only [unsupported, decide_eq_false_iff_not] at hkind
    tauto
  data data hdata := by
    cases pdu with
    | basic pdu =>
      obtain ⟨values, hvalues, -⟩ := bind_eq_ok.mp h
      obtain ⟨_, -, hvalue⟩ := exists_of_mapM_eq_ok hvalues hdata
      exact supports_of_encodeData hvalue
    | bulk pdu =>
      obtain ⟨values, hvalues, -⟩ := bind_eq_ok.mp h
      obtain ⟨_, -, hvalue⟩ := exists_of_mapM_eq_ok hvalues hdata
      exact supports_of_encodeData hvalue

theorem wellFormed_of_encodeMsg {msg : Msg} {value : Asn1.V2c.Message}
    (h : encodeMsg msg = .ok value) : WellFormed msg.type msg.pdu := by
  rw [encodeMsg] at h
  by_cases hkind : unsupported msg.type msg.pdu
  · rw [if_pos hkind] at h
    cases h
  · rw [if_neg hkind] at h
    obtain ⟨pdu, hpdu, -⟩ := bind_eq_ok.mp h
    exact wellFormed_of_encodePdu (by simpa using hkind) hpdu

end HatDrivers.Snmp.V2c
