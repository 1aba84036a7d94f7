import HatDrivers.Snmp.Access
import HatDrivers.Snmp.Agent
import Mathlib.Data.List.Induction

namespace HatDrivers.Snmp.Agent

open HatDrivers.Lib
open Asn1 (Ber)
open V3 (ReadAs Secure IsAuthKey IsPrivKey)

/-!
# SNMP driver — access control of agents

The request callback of version 3 is called for a user's message only if the message is for the
agent's engine and as secure as the user is configured, and the response is as secure as the
request.
-/

variable {ber : Ber} {crypto : Crypto}

/-! ### Keys of users -/

/-- An agent with the dictionaries of keys of a collection of users. -/
structure Configured (crypto : Crypto) (agent : Agent) (engineId : Option EngineId)
    (users : List User) : Prop where
  engine : agent.authEngineId = engineId
  known : ∀ name authKey, agent.authKeys name = some authKey → ∃ user privKey,
    findUser users name = some user ∧ agent.privKeys name = some privKey ∧
    userKey crypto (user.authType.map authTypeToKeyType) user.authPassword engineId = .ok authKey ∧
    userKey crypto (user.privType.map privTypeToKeyType) user.privPassword engineId = .ok privKey
  found : ∀ name user, findUser users name = some user → (agent.authKeys name).isSome
  valid : ∀ user ∈ users, validateUser user = .ok ()

theorem Configured.addUser {agent agent' : Agent} {engineId : Option EngineId} {users : List User}
    (h : Configured crypto agent engineId users) {user : User}
    (hadd : Agent.addUser crypto agent user = .ok agent') :
    Configured crypto agent' engineId (users ++ [user]) := by
  obtain ⟨_, hvalid, hadd⟩ := bind_eq_ok.mp hadd
  obtain ⟨authKey, hauthKey, hadd⟩ := bind_eq_ok.mp hadd
  obtain ⟨privKey, hprivKey, hadd⟩ := bind_eq_ok.mp hadd
  cases hadd
  rw [h.engine] at hauthKey hprivKey
  refine ⟨h.engine, fun name key hkey => ?_, fun name user' huser' => ?_, fun user' huser' => ?_⟩
  · rw [findUser_concat]
    by_cases hname : user.name = name
    · subst hname
      simp only [Function.update_self, Option.some.injEq] at hkey
      subst hkey
      exact ⟨user, privKey, if_pos rfl, Function.update_self .., hauthKey, hprivKey⟩
    · rw [if_neg hname]
      simp only [Function.update_of_ne (Ne.symm hname)] at hkey ⊢
      exact h.known name key hkey
  · rw [findUser_concat] at huser'
    by_cases hname : user.name = name
    · subst hname
      simp only [Function.update_self, Option.isSome_some]
    · rw [if_neg hname] at huser'
      simp only [Function.update_of_ne (Ne.symm hname)]
      exact h.found name user' huser'
  · rcases List.mem_append.mp huser' with huser' | huser'
    · exact h.valid user' huser'
    · rw [List.mem_singleton.mp huser']
      exact hvalid

theorem configured_create {v1RequestCb v2cRequestCb v3RequestCb : Bool}
    {engineId : Option EngineId} {users : List User} {agent : Agent}
    (h : create crypto v1RequestCb v2cRequestCb v3RequestCb engineId users = .ok agent) :
    Configured crypto agent engineId users := by
  induction users using List.reverseRecOn generalizing agent with
  | nil =>
    cases h
    exact ⟨rfl, nofun, nofun, nofun⟩
  | append_singleton users user ih =>
    rw [create, List.foldlM_append] at h
    obtain ⟨agent', hagent', h⟩ := bind_eq_ok.mp h
    rw [List.foldlM_cons] at h
    obtain ⟨agent'', hagent'', h⟩ := bind_eq_ok.mp h
    cases h
    exact (ih hagent').addUser hagent''

/-- Adding users leaves the callbacks as they are. -/
theorem callbacks_create {v1RequestCb v2cRequestCb v3RequestCb : Bool}
    {engineId : Option EngineId} {users : List User} {agent : Agent}
    (h : create crypto v1RequestCb v2cRequestCb v3RequestCb engineId users = .ok agent) :
    agent.v1RequestCb = v1RequestCb ∧ agent.v2cRequestCb = v2cRequestCb ∧
      agent.v3RequestCb = v3RequestCb := by
  induction users using List.reverseRecOn generalizing agent with
  | nil =>
    cases h
    exact ⟨rfl, rfl, rfl⟩
  | append_singleton users user ih =>
    rw [create, List.foldlM_append] at h
    obtain ⟨agent', hagent', h⟩ := bind_eq_ok.mp h
    rw [List.foldlM_cons] at h
    obtain ⟨agent'', hadd, h⟩ := bind_eq_ok.mp h
    cases h
    obtain ⟨_, -, hadd⟩ := bind_eq_ok.mp hadd
    obtain ⟨_, -, hadd⟩ := bind_eq_ok.mp hadd
    obtain ⟨_, -, hadd⟩ := bind_eq_ok.mp hadd
    cases hadd
    have hcallbacks := ih hagent'
    exact hcallbacks

/-! ### Requests -/

/-- What a request of version 3 that is passed to the callback is like. -/
theorem processV3ReqMsg_call {agent : Agent} {reqMsg : V3.Msg} {dgram : Datagram}
    {call : RequestCall} (h : (agent.processV3ReqMsg reqMsg dgram).1 = some call) :
    ∃ authKey privKey req, agent.authEngineId = some reqMsg.authorativeEngine.id ∧
      agent.authKeys reqMsg.user = some authKey ∧ agent.privKeys reqMsg.user = some privKey ∧
      (authKey.isSome → reqMsg.auth) ∧ (privKey.isSome → reqMsg.priv) ∧
      V2c.requestOf reqMsg.type reqMsg.pdu.data = .ok req ∧
      call = .v3 dgram.addr reqMsg.user reqMsg.context req ∧
      (agent.processV3ReqMsg reqMsg dgram).2 = .ok (responseV3 reqMsg dgram) := by
  unfold processV3ReqMsg at h ⊢
  cases hcb : agent.v3RequestCb with
  | false => simp [hcb] at h
  | true =>
    cases hengine : agent.authEngineId with
    | none => simp [hcb, hengine] at h
    | some engineId =>
      cases hreq : V2c.requestOf reqMsg.type reqMsg.pdu.data with
      | error e => simp [hcb, hengine, hreq] at h
      | ok req =>
        simp only [hcb, hengine, hreq] at h ⊢
        by_cases hid : reqMsg.authorativeEngine.id = engineId
        swap
        · rw [if_pos hid] at h
          by_cases hreportable : reqMsg.reportable <;> simp [hreportable] at h
        rw [if_neg (not_not.mpr hid)] at h ⊢
        cases hauth : agent.authKeys reqMsg.user with
        | none => simp [hauth] at h
        | some authKey =>
          cases hpriv : agent.privKeys reqMsg.user with
          | none => simp [hauth, hpriv] at h
          | some privKey =>
            simp only [hauth, hpriv] at h ⊢
            by_cases hauthFlag : authKey.isSome ∧ ¬ reqMsg.auth
            · rw [if_pos hauthFlag] at h
              cases h
            by_cases hprivFlag : privKey.isSome ∧ ¬ reqMsg.priv
            · rw [if_neg hauthFlag, if_pos hprivFlag] at h
              cases h
            simp only [if_neg hauthFlag, if_neg hprivFlag, Option.some.injEq] at h ⊢
            refine ⟨authKey, privKey, req, by rw [hid], rfl, rfl, ?_, ?_, rfl, h.symm, trivial⟩
            · intro hsome
              by_contra hnot
              exact hauthFlag ⟨hsome, hnot⟩
            · intro hsome
              by_contra hnot
              exact hprivFlag ⟨hsome, hnot⟩

/-- Messages of other versions are for other callbacks. -/
theorem processV1ReqMsg_call (agent : Agent) (msg : V1.Msg) (dgram : Datagram) (addr : Address)
    (name : String) (context : Context) (req : Request) :
    (agent.process (.v1 msg) dgram).1 ≠ some (.v3 addr name context req) := by
  intro h
  simp only [process, Prod.map_fst, id, processV1ReqMsg] at h
  by_cases hcb : agent.v1RequestCb
  · cases hreq : V1.requestOf msg.type msg.pdu.data <;> simp [hcb, hreq] at h
  · simp [hcb] at h

theorem processV2cReqMsg_call (agent : Agent) (msg : V2c.Msg) (dgram : Datagram) (addr : Address)
    (name : String) (context : Context) (req : Request) :
    (agent.process (.v2c msg) dgram).1 ≠ some (.v3 addr name context req) := by
  intro h
  simp only [process, Prod.map_fst, id, processV2cReqMsg] at h
  by_cases hcb : agent.v2cRequestCb
  · cases hreq : V2c.requestOf msg.type msg.pdu.data <;> simp [hcb, hreq] at h
  · simp [hcb] at h

/-- A callback of the agent returns a key for its engine only. -/
theorem onAuthKey_eq_ok {agent : Agent} {engineId : EngineId} {name : String} {key : Option Key}
    (h : agent.onAuthKey engineId name = .ok key) :
    agent.authEngineId = some engineId ∧ agent.authKeys name = some key := by
  unfold onAuthKey at h
  by_cases hengine : some engineId = agent.authEngineId
  · rw [if_neg (not_not.mpr hengine)] at h
    cases hkeys : agent.authKeys name with
    | none => simp [hkeys] at h
    | some key' =>
      simp only [hkeys, Except.ok.injEq] at h
      exact ⟨hengine.symm, h ▸ rfl⟩
  · rw [if_pos hengine] at h
    cases h

theorem onPrivKey_eq_ok {agent : Agent} {engineId : EngineId} {name : String} {key : Option Key}
    (h : agent.onPrivKey engineId name = .ok key) :
    agent.authEngineId = some engineId ∧ agent.privKeys name = some key := by
  unfold onPrivKey at h
  by_cases hengine : some engineId = agent.authEngineId
  · rw [if_neg (not_not.mpr hengine)] at h
    cases hkeys : agent.privKeys name with
    | none => simp [hkeys] at h
    | some key' =>
      simp only [hkeys, Except.ok.injEq] at h
      exact ⟨hengine.symm, h ▸ rfl⟩
  · rw [if_pos hengine] at h
    cases h

/-- The keys that the callbacks return are those of the user of the name. -/
theorem Configured.keys {agent : Agent} {engineId : EngineId} {users : List User}
    (h : Configured crypto agent (some engineId) users) {name : String}
    {authKey privKey : Option Key}
    (hauth : agent.authKeys name = some authKey) (hpriv : agent.privKeys name = some privKey) :
    ∃ user, findUser users name = some user ∧
      (user.authType.isSome → authKey.isSome) ∧ (user.privType.isSome → privKey.isSome) ∧
      (∀ key, authKey = some key → IsAuthKey crypto user engineId key) ∧
      (∀ key, privKey = some key → IsPrivKey crypto user engineId key) := by
  obtain ⟨user, privKey', huser, hprivKey', hauthKey, hprivKey⟩ := h.known name authKey hauth
  cases hpriv.symm.trans hprivKey'
  refine ⟨user, huser, ?_, ?_, ?_, ?_⟩
  · intro hsome
    cases authKey with
    | some key => rfl
    | none =>
      rw [Option.map_eq_none_iff.mp (userKey_eq_ok_none hauthKey)] at hsome
      cases hsome
  · intro hsome
    cases privKey with
    | some key => rfl
    | none =>
      rw [Option.map_eq_none_iff.mp (userKey_eq_ok_none hprivKey)] at hsome
      cases hsome
  · rintro key rfl
    obtain ⟨_, htype, hkey⟩ := userKey_eq_ok_some hauthKey
    obtain ⟨t, ht, rfl⟩ := Option.map_eq_some_iff.mp htype
    exact ⟨t, ht, hkey⟩
  · rintro key rfl
    obtain ⟨_, htype, hkey⟩ := userKey_eq_ok_some hprivKey
    obtain ⟨t, ht, rfl⟩ := Option.map_eq_some_iff.mp htype
    exact ⟨t, ht, hkey⟩

/-- The call of the callback was made for a message of its user that is secure. -/
structure Authorized (ber : Ber) (crypto : Crypto) (engineId : Option EngineId)
    (users : List User) (dgram : Datagram) (call : RequestCall) (user : User) (msg : V3.Msg) :
    Prop where
  message : ∃ value params pdu, ReadAs ber dgram.bytes value params pdu msg ∧
    Secure ber crypto user value params pdu msg
  engine : engineId = some msg.authorativeEngine.id
  user : findUser users msg.user = some user
  call : ∃ req, V2c.requestOf msg.type msg.pdu.data = .ok req ∧
    call = .v3 dgram.addr msg.user msg.context req

/-- What is sent is a message with the flags of the request, under the keys of the user. -/
def Responds (ber : Ber) (crypto : Crypto) (user : User) (msg : V3.Msg) (salt : Salt)
    (sent : Bytes) :
    Prop :=
  ∃ (res : V3.Msg) (authKey privKey : Option Key), res.type = .RESPONSE ∧
    res.auth = msg.auth ∧ res.priv = msg.priv ∧
    encode ber crypto salt (.v3 res) authKey privKey = .ok sent ∧
    (msg.auth → ∃ key, authKey = some key ∧
      IsAuthKey crypto user msg.authorativeEngine.id key) ∧
    (msg.priv → ∃ key, privKey = some key ∧
      IsPrivKey crypto user msg.authorativeEngine.id key)

/-- What is sent for a request is under the keys that its flags stand for. -/
theorem encodeResponse_responseV3 {agent : Agent} {engineId : EngineId} {msg : V3.Msg}
    (hengine : msg.authorativeEngine.id = engineId) {authKey privKey : Option Key}
    (hauth : agent.authKeys msg.user = some authKey)
    (hpriv : agent.privKeys msg.user = some privKey)
    {user : User} (hauthKey : ∀ key, authKey = some key → IsAuthKey crypto user engineId key)
    (hprivKey : ∀ key, privKey = some key → IsPrivKey crypto user engineId key)
    (hkeys : (msg.auth → authKey.isSome) ∧ (msg.priv → privKey.isSome)) {dgram : Datagram}
    {sent : Bytes}
    (hsent : encodeResponse ber crypto agent (.v3 (responseV3 msg dgram)) dgram.salt = .ok sent) :
    Responds ber crypto user msg dgram.salt sent := by
  obtain ⟨authKey', hauthKey', hsent⟩ := bind_eq_ok.mp hsent
  obtain ⟨privKey', hprivKey', hsent⟩ := bind_eq_ok.mp hsent
  refine ⟨responseV3 msg dgram, authKey', privKey', rfl, rfl, rfl, hsent, ?_, ?_⟩
  · intro hflag
    rw [if_pos (show (responseV3 msg dgram).auth from hflag)] at hauthKey'
    obtain ⟨-, hkey⟩ := onAuthKey_eq_ok hauthKey'
    cases hauth.symm.trans hkey
    obtain ⟨key, rfl⟩ := Option.isSome_iff_exists.mp (hkeys.1 hflag)
    exact ⟨key, rfl, hengine ▸ hauthKey key rfl⟩
  · intro hflag
    rw [if_pos (show (responseV3 msg dgram).priv from hflag)] at hprivKey'
    obtain ⟨-, hkey⟩ := onPrivKey_eq_ok hprivKey'
    cases hpriv.symm.trans hkey
    obtain ⟨key, rfl⟩ := Option.isSome_iff_exists.mp (hkeys.2 hflag)
    exact ⟨key, rfl, hengine ▸ hprivKey key rfl⟩

variable (ber) in
/-- In every run of an agent its callback of version 3 is called for secure messages of configured
users only, and what is sent in response is as secure as the request. -/
theorem receiveLoop_authorized {v1RequestCb v2cRequestCb v3RequestCb : Bool}
    {engineId : Option EngineId} {users : List User} {agent : Agent}
    (h : create crypto v1RequestCb v2cRequestCb v3RequestCb engineId users = .ok agent)
    (dgrams : List Datagram) :
    ∀ handled ∈ agent.receiveLoop ber crypto dgrams, ∀ addr name context req,
      handled.call = some (.v3 addr name context req) →
      ∃ user msg, Authorized ber crypto engineId users handled.dgram (.v3 addr name context req)
          user msg ∧
        ∀ sent, handled.sent = .ok sent →
          Responds ber crypto user msg handled.dgram.salt sent := by
  intro handled hmem addr name context req hcall
  obtain ⟨dgram, -, rfl⟩ := List.mem_map.mp hmem
  have hconfigured := configured_create h
  simp only [handle] at hcall ⊢
  cases hdecode : decode ber crypto dgram.bytes (some agent.onAuthKey) (some agent.onPrivKey) with
  | error e => simp [hdecode] at hcall
  | ok reqMsg =>
    simp only [hdecode] at hcall ⊢
    cases reqMsg with
    | v1 msg => exact absurd hcall (processV1ReqMsg_call agent msg dgram addr name context req)
    | v2c msg => exact absurd hcall (processV2cReqMsg_call agent msg dgram addr name context req)
    | v3 msg =>
      obtain ⟨entity, rest, value, params, pdu, hentity, hvalue, hdecoding⟩ := decode_eq_v3 hdecode
      obtain ⟨authKey, privKey, req', hengine, hauth, hpriv, hauthFlag, hprivFlag, hreq, hcall',
        hres⟩ := processV3ReqMsg_call hcall
      cases hcall'
      have hengineId : engineId = some msg.authorativeEngine.id := hconfigured.engine ▸ hengine
      rw [hengineId] at hconfigured
      obtain ⟨user, huser, hauthSome, hprivSome, hauthKey, hprivKey⟩ :=
        hconfigured.keys hauth hpriv
      refine ⟨user, msg, ⟨⟨value, params, pdu, hdecoding.readAs ⟨entity, rest, hentity, hvalue⟩,
        ?_⟩, hengineId, huser, req, hreq, rfl⟩, ?_⟩
      · apply hdecoding.secure
        · exact fun hsome => hauthFlag (hauthSome hsome)
        · intro key hkey
          cases hauth.symm.trans (onAuthKey_eq_ok hkey).2
          exact hauthKey key rfl
        · exact fun hsome => hprivFlag (hprivSome hsome)
        · intro key hkey
          cases hpriv.symm.trans (onPrivKey_eq_ok hkey).2
          exact hprivKey key rfl
      · intro sent hsent
        obtain ⟨hauthHas, hprivHas⟩ := hdecoding.keys
        have hkeys : (msg.auth → authKey.isSome) ∧ (msg.priv → privKey.isSome) := by
          constructor
          · intro hflag
            obtain ⟨key, hkey⟩ := hauthHas hflag
            cases hauth.symm.trans (onAuthKey_eq_ok hkey).2
            rfl
          · intro hflag
            obtain ⟨key, hkey⟩ := hprivHas hflag
            cases hpriv.symm.trans (onPrivKey_eq_ok hkey).2
            rfl
        have hencode : encodeResponse ber crypto agent (.v3 (responseV3 msg dgram)) dgram.salt =
            .ok sent := by
          simp only [process, Prod.map_snd, hres, Except.map, Except.bind] at hsent
          exact hsent
        exact encodeResponse_responseV3 rfl hauth hpriv hauthKey hprivKey hkeys hencode

def sampleAgent : Agent where
  v1RequestCb := true
  v2cRequestCb := true
  v3RequestCb := true
  authEngineId := some sampleEngine
  authKeys := Function.update (fun _ => none) "a" (some (some sampleKey))
  privKeys := Function.update (fun _ => none) "a" (some none)

theorem create_sampleAgent :
    create sampleCrypto true true true (some sampleEngine) [sampleUser] = .ok sampleAgent := by
  have hauth : userKey sampleCrypto (some .MD5) (some "maplesyrup") (some sampleEngine) =
      .ok (some sampleKey) := by
    rw [userKey]
    exact congrArg (Except.map some) createKey_sampleUser
  rw [create, List.foldlM_cons]
  refine bind_eq_ok.mpr ⟨sampleAgent, ?_, rfl⟩
  rw [addUser, validateUser_eq_ok.mpr (by decide), ok_bind]
  exact bind_eq_ok.mpr ⟨some sampleKey, hauth, rfl⟩

/-- The request of the user, as it is received. -/
def sampleDatagram : Datagram where
  bytes := (sampleRequestValue (sampleRequestDigest.take 12)).2.bytes
  addr := ⟨"127.0.0.1", 161⟩
  outcome := .returns (.data [])
  time := 0
  salt := sampleSalt

theorem receiveLoop_authorized_sample :
    ∃ user msg, Authorized sampleBer sampleCrypto (some sampleEngine) [sampleUser] sampleDatagram
        (.v3 ⟨"127.0.0.1", 161⟩ "a" ⟨sampleEngine, ""⟩ (.GetDataReq [])) user msg ∧
      Responds sampleBer sampleCrypto user msg sampleSalt
        (sampleResponseValue (sampleResponseDigest.take 12)).2.bytes := by
  have hcall : (sampleAgent.handle sampleBer sampleCrypto sampleDatagram).call =
      some (.v3 ⟨"127.0.0.1", 161⟩ "a" ⟨sampleEngine, ""⟩ (.GetDataReq [])) := by decide +kernel
  have hsent : (sampleAgent.handle sampleBer sampleCrypto sampleDatagram).sent =
      .ok (sampleResponseValue (sampleResponseDigest.take 12)).2.bytes := by decide +kernel
  obtain ⟨user, msg, hauthorized, hresponds⟩ :=
    receiveLoop_authorized sampleBer create_sampleAgent [sampleDatagram] _
      (List.mem_singleton.mpr rfl) _ _ _ _ hcall
  exact ⟨user, msg, hauthorized, hresponds _ hsent⟩

end HatDrivers.Snmp.Agent
