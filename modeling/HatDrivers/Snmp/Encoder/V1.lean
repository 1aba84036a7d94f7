import HatDrivers.Snmp.Asn1

namespace HatDrivers.Snmp.V1

open HatDrivers.Lib
open Asn1.V1 (VarBind)
open Mqtt.Transport (encodeUtf8)

/-!
# SNMP driver — messages of version 1

`encode_msg` and `decode_msg` of `encoder/v1.py`.
-/

abbrev MsgType := Asn1.V1.MsgType

structure BasicPdu where
  requestId : ℤ
  error : Error
  data : List Data
  deriving DecidableEq

structure TrapPdu where
  enterprise : ObjectIdentifier
  addr : Bytes
  cause : Cause
  timestamp : ℤ
  data : List Data
  deriving DecidableEq

inductive Pdu
  | basic (pdu : BasicPdu)
  | trap (pdu : TrapPdu)
  deriving DecidableEq

def Pdu.data : Pdu → List Data
  | basic pdu => pdu.data
  | trap pdu => pdu.data

/-- `isinstance(pdu, TrapPdu)`. -/
def Pdu.isTrap : Pdu → Bool
  | trap _ => true
  | basic _ => false

structure Msg where
  type : MsgType
  community : String
  pdu : Pdu
  deriving DecidableEq

/-! ### Data -/

def encodeData : Data → Except Failure VarBind
  | .IntegerData name value => .ok ⟨name, .simple (.number value)⟩
  | .StringData name value => .ok ⟨name, .simple (.string value)⟩
  | .ObjectIdData name value => .ok ⟨name, .simple (.object value)⟩
  | .EmptyData name => .ok ⟨name, .simple .empty⟩
  | .IpAddressData name value => .ok ⟨name, .applicationWide (.address (.internet value))⟩
  | .CounterData name value => .ok ⟨name, .applicationWide (.counter value)⟩
  | .UnsignedData name value => .ok ⟨name, .applicationWide (.gauge value)⟩
  | .TimeTicksData name value => .ok ⟨name, .applicationWide (.ticks value)⟩
  | .ArbitraryData name value => .ok ⟨name, .applicationWide (.arbitrary value)⟩
  | _ => .error (.valueError "unsupported data type")

/-- `_decode_data`; what it raises for other types is for no value of `ObjectSyntax`. -/
def decodeData (data : VarBind) : Except Failure Data :=
  let name := data.name
  match data.value with
  | .simple (.number value) => .ok (.IntegerData name value)
  | .simple (.string value) => .ok (.StringData name value)
  | .simple (.object value) => .ok (.ObjectIdData name value)
  | .simple .empty => .ok (.EmptyData name)
  | .applicationWide (.address (.internet value)) => .ok (.IpAddressData name value)
  | .applicationWide (.counter value) => .ok (.CounterData name value)
  | .applicationWide (.gauge value) => .ok (.UnsignedData name value)
  | .applicationWide (.ticks value) => .ok (.TimeTicksData name value)
  | .applicationWide (.arbitrary value) => .ok (.ArbitraryData name value)

theorem encodeData_eq_ok {data : Data} (h : data.Supports .V1) :
    ∃ value, encodeData data = .ok value := by
  cases data with
  | BigCounterData => exact absurd h Bool.false_ne_true
  | UnspecifiedData => exact absurd h Bool.false_ne_true
  | NoSuchObjectData => exact absurd h Bool.false_ne_true
  | NoSuchInstanceData => exact absurd h Bool.false_ne_true
  | EndOfMibViewData => exact absurd h Bool.false_ne_true
  | _ => exact ⟨_, rfl⟩

theorem decodeData_encodeData {data : Data} {value : VarBind} (h : encodeData data = .ok value) :
    decodeData value = .ok data := by
  cases data <;> cases h <;> rfl

/-! ### PDUs -/

def encodePdu : Pdu → Except Failure Asn1.V1.PDU
  | .basic pdu => do
    let bindings ← pdu.data.mapM encodeData
    return .pdu pdu.requestId (Enumeration.value pdu.error.type : ℕ) pdu.error.index bindings
  | .trap pdu => do
    let bindings ← pdu.data.mapM encodeData
    return .trap pdu.enterprise (.internet pdu.addr) (Enumeration.value pdu.cause.type : ℕ)
      pdu.cause.value pdu.timestamp bindings

def decodePdu : MsgType → Asn1.V1.PDU → Except Failure Pdu
  | .GET_REQUEST, .pdu requestId status index bindings
  | .GET_NEXT_REQUEST, .pdu requestId status index bindings
  | .GET_RESPONSE, .pdu requestId status index bindings
  | .SET_REQUEST, .pdu requestId status index bindings => do
    let error : Error := ⟨← enumOf ErrorType status, index⟩
    return .basic ⟨requestId, error, ← bindings.mapM decodeData⟩
  | .TRAP, .trap enterprise (.internet addr) generic specific timeStamp bindings => do
    let cause : Cause := ⟨← enumOf CauseType generic, specific⟩
    return .trap ⟨enterprise, addr, cause, timeStamp, ← bindings.mapM decodeData⟩
  | _, _ => .error .keyError

theorem encodePdu_eq_ok {pdu : Pdu} (h : ∀ data ∈ pdu.data, data.Supports .V1) :
    ∃ value, encodePdu pdu = .ok value := by
  obtain ⟨values, hvalues⟩ := exists_mapM_eq_ok fun data hdata => encodeData_eq_ok (h data hdata)
  cases pdu with
  | basic pdu =>
    refine ⟨.pdu pdu.requestId (Enumeration.value pdu.error.type : ℕ) pdu.error.index values, ?_⟩
    simp only [encodePdu, show pdu.data.mapM encodeData = .ok values from hvalues]
    rfl
  | trap pdu =>
    refine ⟨.trap pdu.enterprise (.internet pdu.addr) (Enumeration.value pdu.cause.type : ℕ)
      pdu.cause.value pdu.timestamp values, ?_⟩
    simp only [encodePdu, show pdu.data.mapM encodeData = .ok values from hvalues]
    rfl

private theorem mapM_decodeData {datas : List Data} {values : List VarBind}
    (h : datas.mapM encodeData = .ok values) : values.mapM decodeData = .ok datas := by
  have hmap := mapM_of_mapM_eq_ok (k := id)
    (fun data _ value hvalue => decodeData_encodeData hvalue) h
  rwa [List.map_id] at hmap

theorem decodePdu_encodePdu {type : MsgType} {pdu : Pdu} (hkind : type = .TRAP ↔ pdu.isTrap)
    {value : Asn1.V1.PDU} (h : encodePdu pdu = .ok value) : decodePdu type value = .ok pdu := by
  cases pdu with
  | basic pdu =>
    cases hvalues : pdu.data.mapM encodeData with
    | error e => simp [encodePdu, hvalues] at h
    | ok values =>
      simp only [encodePdu, hvalues] at h
      cases h
      have hdecode := mapM_decodeData hvalues
      cases type with
      | TRAP => exact absurd (hkind.mp rfl) Bool.false_ne_true
      | _ => simp only [decodePdu, enumOf_value, hdecode]; rfl
  | trap pdu =>
    cases hvalues : pdu.data.mapM encodeData with
    | error e => simp [encodePdu, hvalues] at h
    | ok values =>
      simp only [encodePdu, hvalues] at h
      cases h
      obtain rfl := hkind.mpr rfl
      simp only [decodePdu, enumOf_value, mapM_decodeData hvalues]
      rfl

/-! ### Messages -/

/-- The PDU is that of the message type, and the version has its data. -/
structure Msg.WellFormed (msg : Msg) : Prop where
  kind : msg.type = .TRAP ↔ msg.pdu.isTrap
  data : ∀ data ∈ msg.pdu.data, data.Supports .V1

def encodeMsg (msg : Msg) : Except Failure Asn1.V1.Message :=
  if (msg.type = .TRAP ∧ ¬ msg.pdu.isTrap) ∨ (msg.type ≠ .TRAP ∧ msg.pdu.isTrap) then
    .error (.valueError "unsupported message type / pdu")
  else do
    let data := (msg.type, ← encodePdu msg.pdu)
    return { version := (Enumeration.value Version.V1 : ℕ), community := encodeUtf8 msg.community,
             data := data }

def decodeMsg (msg : Asn1.V1.Message) : Except Failure Msg := do
  let msgType := msg.data.1
  let pdu ← decodePdu msgType msg.data.2
  return { type := msgType, community := decodeStr msg.community, pdu := pdu }

theorem encodeMsg_eq_ok {msg : Msg} (h : msg.WellFormed) :
    ∃ value, encodeMsg msg = .ok value ∧ value.version = 0 ∧ decodeMsg value = .ok msg := by
  obtain ⟨pdu, hpdu⟩ := encodePdu_eq_ok h.data
  have hkind : ¬ ((msg.type = .TRAP ∧ ¬ msg.pdu.isTrap) ∨
      (msg.type ≠ .TRAP ∧ msg.pdu.isTrap)) := by
    have := h.kind
    tauto
  refine ⟨⟨0, encodeUtf8 msg.community, (msg.type, pdu)⟩, ?_, rfl, ?_⟩
  · rw [encodeMsg, if_neg hkind, hpdu]
    rfl
  · simp only [decodeMsg, decodePdu_encodePdu h.kind hpdu, decodeStr_encodeUtf8]
    rfl

theorem supports_of_encodeData {data : Data} {value : VarBind} (h : encodeData data = .ok value) :
    data.Supports .V1 := by
  cases data <;> first | rfl | cases h

/-- Only well-formed messages are encoded. -/
theorem wellFormed_of_encodeMsg {msg : Msg} {value : Asn1.V1.Message}
    (h : encodeMsg msg = .ok value) : msg.WellFormed := by
  rw [encodeMsg] at h
  by_cases hkind : (msg.type = .TRAP ∧ ¬ msg.pdu.isTrap) ∨ (msg.type ≠ .TRAP ∧ msg.pdu.isTrap)
  · rw [if_pos hkind] at h
    cases h
  · rw [if_neg hkind] at h
    obtain ⟨pdu, hpdu, -⟩ := bind_eq_ok.mp h
    refine ⟨by tauto, fun data hdata => ?_⟩
    cases hmsg : msg.pdu with
    | basic basic =>
      rw [hmsg] at hpdu hdata
      obtain ⟨values, hvalues, -⟩ := bind_eq_ok.mp hpdu
      obtain ⟨_, -, hvalue⟩ := exists_of_mapM_eq_ok hvalues hdata
      exact supports_of_encodeData hvalue
    | trap trap =>
      rw [hmsg] at hpdu hdata
      obtain ⟨values, hvalues, -⟩ := bind_eq_ok.mp hpdu
      obtain ⟨_, -, hvalue⟩ := exists_of_mapM_eq_ok hvalues hdata
      exact supports_of_encodeData hvalue

end HatDrivers.Snmp.V1
