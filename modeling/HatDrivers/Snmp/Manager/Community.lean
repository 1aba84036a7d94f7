import HatDrivers.Snmp.Manager

namespace HatDrivers.Snmp

open HatDrivers.Lib
open Exchange (answers_answered)
open Asn1 (Ber)

/-!
# SNMP driver — managers of versions 1 and 2c

What a datagram of a manager or of the agent does at the other end: the two fit together
(`Exchange.Matches`).
-/

variable {ber : Ber} {crypto : Crypto}

/-! ### Outcomes -/

/-- The result of a callback: an exception counts as a general error. -/
def Outcome.response : Outcome → Response
  | returns res => res
  | raises => .error ⟨.GEN_ERR, 0⟩

/-- A result that a version can carry: data of its kinds, or an error that is one. -/
def Outcome.Valid (version : Version) : Outcome → Prop
  | returns (.error error) => error.type ≠ .NO_ERROR ∧
      (version = .V1 → Enumeration.value error.type ≤ Enumeration.value ErrorType.GEN_ERR)
  | returns (.data data) => ∀ item ∈ data, item.Supports version
  | raises => True

theorem Outcome.responseOf_result {version : Version} {outcome : Outcome}
    (h : outcome.Valid version) :
    responseOf outcome.result.1 outcome.result.2 = outcome.response := by
  cases outcome with
  | raises => rfl
  | returns res =>
    cases res with
    | error error => exact if_neg h.1
    | data data => rfl

theorem Outcome.supports_result {version : Version} {outcome : Outcome}
    (h : outcome.Valid version) : ∀ item ∈ outcome.result.2, item.Supports version := by
  cases outcome with
  | raises => exact nofun
  | returns res =>
    cases res with
    | error error => exact nofun
    | data data => exact h

/-- A result that version 1 can carry is carried as it is. -/
theorem Outcome.resultV1_eq {outcome : Outcome} (h : outcome.Valid .V1) :
    outcome.resultV1 = outcome.result := by
  cases outcome with
  | raises => rfl
  | returns res =>
    cases res with
    | error error => exact if_neg (Nat.not_lt.mpr (h.2 rfl))
    | data data => rfl

/-! ### Requests -/

theorem requestData_name (data : ObjectIdentifier → Data) (hname : ∀ name, (data name).name = name)
    (names : List ObjectIdentifier) : (names.map data).map Data.name = names := by
  rw [List.map_map]
  exact (List.map_congr_left fun name _ => hname name).trans (List.map_id names)

theorem V1.requestOf_requestData {req : Request} {type : V1.MsgType}
    (h : V1.typeOf req = .ok type) :
    V1.requestOf type (requestData .EmptyData req) = .ok req := by
  cases req with
  | GetDataReq names =>
    cases h
    simp only [requestData, V1.requestOf, requestData_name Data.EmptyData fun _ => rfl]
  | GetNextDataReq names =>
    cases h
    simp only [requestData, V1.requestOf, requestData_name Data.EmptyData fun _ => rfl]
  | GetBulkDataReq names => cases h
  | SetDataReq data =>
    cases h
    rfl

theorem V2c.pduOf_data (requestId : ℕ) (req : Request) :
    (V2c.pduOf requestId req).data = requestData .UnspecifiedData req := by
  cases req <;> rfl

theorem V2c.pduOf_requestId (requestId : ℕ) (req : Request) :
    (V2c.pduOf requestId req).requestId = requestId := by
  cases req <;> rfl

theorem V2c.requestOf_pduOf (requestId : ℕ) (req : Request) :
    V2c.requestOf (V2c.typeOf req) (V2c.pduOf requestId req).data = .ok req := by
  rw [V2c.pduOf_data]
  cases req with
  | SetDataReq data => rfl
  | _ names =>
    simp only [V2c.typeOf, requestData, V2c.requestOf,
      requestData_name Data.UnspecifiedData fun _ => rfl]

/-! ### What the agent does -/

section

variable {agent : Agent} {addr : Address} {outcome : Outcome} {env : Env} {msgBytes : Bytes}

/-- The agent passes on a request of version 1 and encodes the result. -/
theorem Agent.serve_v1 (hcb : agent.v1RequestCb) {msg : V1.Msg} {requestId : ℤ} {error : Error}
    {data : List Data} (hpdu : msg.pdu = .basic ⟨requestId, error, data⟩) {req : Request}
    (hreq : V1.requestOf msg.type data = .ok req)
    (hdecode : decode ber crypto msgBytes (some agent.onAuthKey) (some agent.onPrivKey) =
      .ok (.v1 msg)) :
    agent.serve ber crypto addr msgBytes outcome env =
      (some (.v1 addr msg.community req),
        encode ber crypto env.salt (.v1
          { type := .GET_RESPONSE, community := msg.community,
            pdu := .basic ⟨requestId, outcome.resultV1.1, outcome.resultV1.2⟩ }) none none) := by
  have hreq' : V1.requestOf msg.type msg.pdu.data = .ok req := by rw [hpdu]; exact hreq
  have hprocess : agent.processV1ReqMsg msg
      { bytes := msgBytes, addr := addr, outcome := outcome, time := env.time, salt := env.salt } =
      (some (.v1 addr msg.community req), .ok
        { type := .GET_RESPONSE, community := msg.community,
          pdu := .basic ⟨requestId, outcome.resultV1.1, outcome.resultV1.2⟩ }) := by
    rw [Agent.processV1ReqMsg, if_neg (not_not.mpr hcb), hreq', hpdu]
    rfl
  simp only [Agent.serve, Agent.handle, hdecode, Agent.process, hprocess]
  rfl

/-- The agent passes on a request of version 2c and encodes the result. -/
theorem Agent.serve_v2c (hcb : agent.v2cRequestCb) {msg : V2c.Msg} {req : Request}
    (hreq : V2c.requestOf msg.type msg.pdu.data = .ok req)
    (hdecode : decode ber crypto msgBytes (some agent.onAuthKey) (some agent.onPrivKey) =
      .ok (.v2c msg)) :
    agent.serve ber crypto addr msgBytes outcome env =
      (some (.v2c addr msg.community req),
        encode ber crypto env.salt (.v2c
          { type := .RESPONSE, community := msg.community,
            pdu := .basic ⟨msg.pdu.requestId, outcome.result.1, outcome.result.2⟩ })
          none none) := by
  have hprocess : agent.processV2cReqMsg msg
      { bytes := msgBytes, addr := addr, outcome := outcome, time := env.time, salt := env.salt } =
      (some (.v2c addr msg.community req), .ok
        { type := .RESPONSE, community := msg.community,
          pdu := .basic ⟨msg.pdu.requestId, outcome.result.1, outcome.result.2⟩ }) := by
    rw [Agent.processV2cReqMsg, if_neg (not_not.mpr hcb), hreq]
  simp only [Agent.serve, Agent.handle, hdecode, Agent.process, hprocess]
  rfl

end

/-! ### Version 1 -/

namespace V1

/-- The message of a request. -/
def requestMsg (community : String) (id : ℕ) (type : MsgType) (req : Request) : Msg where
  type := type
  community := community
  pdu := .basic ⟨id, ⟨.NO_ERROR, 0⟩, requestData .EmptyData req⟩

/-- The message of a response. -/
def responseMsg (community : String) (id : ℕ) (outcome : Outcome) : Msg where
  type := .GET_RESPONSE
  community := community
  pdu := .basic ⟨id, outcome.result.1, outcome.result.2⟩

/-- A request's datagram is read as its message. -/
def IsRequest (ber : Ber) (crypto : Crypto) (community : String) (id : ℕ) (req : Request)
    (datagram : Bytes) : Prop :=
  ∃ type, typeOf req = .ok type ∧ ∀ authKeyCb privKeyCb,
    decode ber crypto datagram authKeyCb privKeyCb = .ok (.v1 (requestMsg community id type req))

/-- A response's datagram is read as its message. -/
def IsResponse (ber : Ber) (crypto : Crypto) (community : String) (id : ℕ) (outcome : Outcome)
    (datagram : Bytes) : Prop :=
  outcome.Valid .V1 ∧ ∀ authKeyCb privKeyCb,
    decode ber crypto datagram authKeyCb privKeyCb = .ok (.v1 (responseMsg community id outcome))

theorem wellFormed_responseMsg {community : String} {id : ℕ} {outcome : Outcome}
    (h : outcome.Valid .V1) : (responseMsg community id outcome).WellFormed where
  kind := ⟨nofun, nofun⟩
  data := outcome.supports_result h

theorem accept_response {community : String} {id : ℕ} {outcome : Outcome} {datagram : Bytes}
    (h : IsResponse ber crypto community id outcome datagram) {manager : Manager}
    (hmanager : manager.community = community) :
    manager.accept ber crypto datagram = some (id, outcome.response) := by
  obtain ⟨hvalid, hdecode⟩ := h
  simp only [Manager.accept, hdecode]
  rw [if_neg fun h => h rfl, if_neg fun h => h hmanager.symm]
  simp only [responseMsg, idOf, Option.map_some, outcome.responseOf_result hvalid]

/-- What the agent sends for a request is the response, encoded. -/
theorem serve_request {agent : Agent} (hcb : agent.v1RequestCb) {community : String} {id : ℕ}
    {req : Request} {datagram : Bytes} (h : IsRequest ber crypto community id req datagram)
    {outcome : Outcome} (hvalid : outcome.Valid .V1) {addr : Address} {env : Env} :
    (agent.serve ber crypto addr datagram outcome env).2 =
      encode ber crypto env.salt (.v1 (responseMsg community id outcome)) none none := by
  obtain ⟨type, htype, hdecode⟩ := h
  rw [Agent.serve_v1 hcb rfl (requestOf_requestData htype) (hdecode _ _),
    outcome.resultV1_eq hvalid]
  rfl

/-- A manager of version 1 and an agent with its callback fit together. -/
theorem matches_exchange (hber : ber.Lawful) {agent : Agent} (hcb : agent.v1RequestCb)
    (addr : Address) (community : String) :
    (exchange ber crypto agent addr).Matches (fun manager => manager.community = community)
      (fun _ _ => True) (fun id req _ => IsRequest ber crypto community id req)
      (fun id _ _ => IsResponse ber crypto community id)
      (fun req => some (.v1 addr community req)) (fun _ outcome => outcome.response)
      (Outcome.Valid .V1) (fun _ => False) (fun failure => failure = .asn1) where
  send_inv manager req env h := by
    cases htype : typeOf req <;> simpa [exchange, Manager.send, htype] using h
  send_fits _ _ _ _ _ _ := trivial
  send_next manager req env := by
    cases htype : typeOf req <;> simp [exchange, Manager.send, htype]
  send_ok manager req env p d h hsend := by
    cases htype : typeOf req with
    | error e => simp [exchange, Manager.send, htype] at hsend
    | ok type =>
      simp only [exchange, Manager.send, htype] at hsend ⊢
      refine ⟨Nat.lt_succ_self _, trivial, type, htype, fun authKeyCb privKeyCb => ?_⟩
      cases hencode : encode ber crypto env.salt (.v1 (manager.message type req)) none none with
      | error e => simp [hencode, Except.map] at hsend
      | ok bs =>
        rw [hencode] at hsend
        cases hsend
        obtain ⟨bs', hbs', hdecode⟩ | herror := encode_v1_spec crypto hber env.salt
          (wellFormed_of_encode hencode) none none authKeyCb privKeyCb
        · cases hencode.symm.trans hbs'
          rw [hdecode, Manager.message, h]
          rfl
        · exact absurd (hencode.symm.trans herror) nofun
  serve_seen id req _ d outcome env h := by
    obtain ⟨type, htype, hdecode⟩ := h
    exact congrArg Prod.fst
      (Agent.serve_v1 hcb rfl (requestOf_requestData htype) (hdecode _ _))
  serve_answers id req _ d outcome env h hvalid := by
    refine answers_answered (fun d' hserve => ?_) fun f hserve => ?_
    · refine ⟨hvalid, fun authKeyCb privKeyCb => ?_⟩
      have hserve := (serve_request hcb h hvalid).symm.trans hserve
      obtain ⟨bs, hbs, hdecode⟩ | herror := encode_v1_spec crypto hber env.salt
        (wellFormed_responseMsg hvalid) none none authKeyCb privKeyCb
      · cases hserve.symm.trans hbs
        exact hdecode
      · exact absurd (hserve.symm.trans herror) nofun
    · have hserve := (serve_request hcb h hvalid).symm.trans hserve
      obtain ⟨bs, hbs, -⟩ | herror := encode_v1_spec crypto hber env.salt
        (wellFormed_responseMsg hvalid) none none none none
      · exact absurd (hserve.symm.trans hbs) nofun
      · exact Except.error.inj (hserve.symm.trans herror)
  accept_ok manager lookup id req _ outcome d h _ hreply _ := accept_response hreply h
  accept_inv manager lookup id req _ outcome d h _ _ _ := h
  accept_fits _ _ _ _ _ _ := trivial
  accept_next _ _ _ := rfl

end V1

/-! ### Version 2c -/

namespace V2c

/-- The message of a request. -/
def requestMsg (community : String) (id : ℕ) (req : Request) : Msg where
  type := typeOf req
  community := community
  pdu := pduOf id req

/-- The message of a response. -/
def responseMsg (community : String) (id : ℕ) (outcome : Outcome) : Msg where
  type := .RESPONSE
  community := community
  pdu := .basic ⟨id, outcome.result.1, outcome.result.2⟩

/-- A request's datagram is read as its message. -/
def IsRequest (ber : Ber) (crypto : Crypto) (community : String) (id : ℕ) (req : Request)
    (datagram : Bytes) : Prop :=
  ∀ authKeyCb privKeyCb,
    decode ber crypto datagram authKeyCb privKeyCb = .ok (.v2c (requestMsg community id req))

/-- A response's datagram is read as its message. -/
def IsResponse (ber : Ber) (crypto : Crypto) (community : String) (id : ℕ) (outcome : Outcome)
    (datagram : Bytes) : Prop :=
  outcome.Valid .V2C ∧ ∀ authKeyCb privKeyCb,
    decode ber crypto datagram authKeyCb privKeyCb = .ok (.v2c (responseMsg community id outcome))

theorem wellFormed_responseMsg {community : String} {id : ℕ} {outcome : Outcome}
    (h : outcome.Valid .V2C) :
    WellFormed (responseMsg community id outcome).type (responseMsg community id outcome).pdu where
  kind := ⟨nofun, nofun⟩
  data := outcome.supports_result h

theorem accept_response {community : String} {id : ℕ} {outcome : Outcome} {datagram : Bytes}
    (h : IsResponse ber crypto community id outcome datagram) {manager : Manager}
    (hmanager : manager.community = community) :
    manager.accept ber crypto datagram = some (id, outcome.response) := by
  obtain ⟨hvalid, hdecode⟩ := h
  simp only [Manager.accept, hdecode]
  rw [if_neg fun h => h rfl, if_neg fun h => h hmanager.symm]
  simp only [responseMsg, idOf, Option.map_some, outcome.responseOf_result hvalid]

/-- What the agent sends for a request is the response, encoded. -/
theorem serve_request {agent : Agent} (hcb : agent.v2cRequestCb) {community : String} {id : ℕ}
    {req : Request} {datagram : Bytes} (h : IsRequest ber crypto community id req datagram)
    {outcome : Outcome} {addr : Address} {env : Env} :
    agent.serve ber crypto addr datagram outcome env = (some (.v2c addr community req),
      encode ber crypto env.salt (.v2c (responseMsg community id outcome)) none none) := by
  rw [Agent.serve_v2c hcb (requestOf_pduOf id req) (h _ _)]
  rw [requestMsg, pduOf_requestId]
  rfl

/-- A manager of version 2c and an agent with its callback fit together. -/
theorem matches_exchange (hber : ber.Lawful) {agent : Agent} (hcb : agent.v2cRequestCb)
    (addr : Address) (community : String) :
    (exchange ber crypto agent addr).Matches (fun manager => manager.community = community)
      (fun _ _ => True) (fun id req _ => IsRequest ber crypto community id req)
      (fun id _ _ => IsResponse ber crypto community id)
      (fun req => some (.v2c addr community req)) (fun _ outcome => outcome.response)
      (Outcome.Valid .V2C) (fun _ => False) (fun failure => failure = .asn1) where
  send_inv _ _ _ h := h
  send_fits _ _ _ _ _ _ := trivial
  send_next manager _ _ := Nat.le_succ _
  send_ok manager req env p d h hsend := by
    refine ⟨Nat.lt_succ_self _, trivial, fun authKeyCb privKeyCb => ?_⟩
    simp only [exchange, Manager.send] at hsend
    cases hencode : encode ber crypto env.salt (.v2c (manager.message req)) none none with
    | error e => simp [hencode, Except.map] at hsend
    | ok bs =>
      rw [hencode] at hsend
      cases hsend
      obtain ⟨bs', hbs', hdecode⟩ | herror := encode_v2c_spec crypto hber env.salt
        (wellFormed_of_encode hencode) none none authKeyCb privKeyCb
      · cases hencode.symm.trans hbs'
        rw [hdecode, Manager.message, h]
        rfl
      · exact absurd (hencode.symm.trans herror) nofun
  serve_seen id req _ d outcome env h := congrArg Prod.fst (serve_request hcb h)
  serve_answers id req _ d outcome env h hvalid := by
    refine answers_answered (fun d' hserve => ?_) fun f hserve => ?_
    · refine ⟨hvalid, fun authKeyCb privKeyCb => ?_⟩
      have hserve := (congrArg Prod.snd (serve_request hcb h)).symm.trans hserve
      obtain ⟨bs, hbs, hdecode⟩ | herror := encode_v2c_spec crypto hber env.salt
        (wellFormed_responseMsg hvalid) none none authKeyCb privKeyCb
      · cases hserve.symm.trans hbs
        exact hdecode
      · exact absurd (hserve.symm.trans herror) nofun
    · have hserve := (congrArg Prod.snd (serve_request hcb h)).symm.trans hserve
      obtain ⟨bs, hbs, -⟩ | herror := encode_v2c_spec crypto hber env.salt
        (wellFormed_responseMsg hvalid) none none none none
      · exact absurd (hserve.symm.trans hbs) nofun
      · exact Except.error.inj (hserve.symm.trans herror)
  accept_ok manager lookup id req _ outcome d h _ hreply _ := accept_response hreply h
  accept_inv manager lookup id req _ outcome d h _ _ _ := h
  accept_fits _ _ _ _ _ _ := trivial
  accept_next _ _ _ := rfl

end V2c

end HatDrivers.Snmp
