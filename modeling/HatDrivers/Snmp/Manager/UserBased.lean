import HatDrivers.Snmp.Agent.Access
import HatDrivers.Snmp.Manager.Community

namespace HatDrivers.Snmp.V3

open HatDrivers.Lib
open Exchange (answers_answered)
open Asn1 (Ber)

/-!
# SNMP driver — managers of version 3

A manager and an agent that share a user fit together: the manager learns the agent's engine from
the report to its first request and makes the same keys of the user's passwords as the agent did.
-/

variable {ber : Ber} {crypto : Crypto}

/-! ### A shared user -/

/-- The keys of a user are those that the agent has. -/
structure Shared (crypto : Crypto) (agent : Agent) (engineId : EngineId) (user : User)
    (authKey privKey : Option Key) : Prop extends
    UserKeys crypto engineId user authKey privKey where
  callback : agent.v3RequestCb
  engine : agent.authEngineId = some engineId
  nonempty : engineId ≠ []
  agentAuth : agent.authKeys user.name = some authKey
  agentPriv : agent.privKeys user.name = some privKey

/-- Of a user that the agent knows there are keys. -/
theorem exists_shared (hcrypto : crypto.Lawful) {v1RequestCb v2cRequestCb : Bool}
    {engineId : EngineId} (hengine : engineId ≠ []) {users : List User} {agent : Agent}
    (h : Agent.create crypto v1RequestCb v2cRequestCb true (some engineId) users = .ok agent)
    {user : User} (huser : findUser users user.name = some user) :
    ∃ authKey privKey, Shared crypto agent engineId user authKey privKey := by
  have hconfigured := Agent.configured_create h
  obtain ⟨authKey, hauthKey⟩ :=
    Option.isSome_iff_exists.mp (hconfigured.found user.name user huser)
  obtain ⟨user', privKey, huser', hprivKey, hauth, hpriv⟩ := hconfigured.known _ _ hauthKey
  cases huser.symm.trans huser'
  have hkeys := userKeys_of_valid hcrypto (hconfigured.valid user (mem_of_findUser huser)) hauth
    hpriv
  exact ⟨authKey, privKey, hkeys, (Agent.callbacks_create h).2.2, hconfigured.engine, hengine,
    hauthKey, hprivKey⟩

/-- A message without flags needs no keys. -/
theorem keyed_of_no_flags {msg : Msg} (hauth : msg.auth = false) (hpriv : msg.priv = false)
    (authKey privKey : Option Key) : Keyed msg authKey privKey where
  auth hflag := absurd (hauth.symm.trans hflag) Bool.false_ne_true
  priv hflag := absurd (hpriv.symm.trans hflag) Bool.false_ne_true

/-! ### Messages -/

section

variable (ber crypto)
variable (agent : Agent) (engineId : EngineId) (context : Option Context) (user : User)
  (authKey privKey : Option Key)

/-- The message of a call. -/
def IsMessage (id : ℕ) (call : ManagerCall) (msg : Msg) : Prop :=
  match call with
  | .sync => msg = requestMsg id (.GetDataReq []) ⟨[], 0, 0⟩ ⟨[], ""⟩ "" false false
  | .send req => ∃ engine : AuthorativeEngine, engine.id = engineId ∧
      msg = requestMsg id req engine (context.getD ⟨engineId, ""⟩) user.name authKey.isSome
        privKey.isSome

/-- A request's datagram is read as its message. -/
def IsRequest (id : ℕ) (call : ManagerCall) (msg : Msg) (datagram : Bytes) : Prop :=
  IsMessage engineId context user authKey privKey id call msg ∧
    decode ber crypto datagram (some agent.onAuthKey) (some agent.onPrivKey) = .ok (.v3 msg)

/-- What `send` returns, `sync` being of no use. -/
def ManagerCall.result (call : ManagerCall) (outcome : Outcome) : Response :=
  match call with
  | .sync => .data []
  | .send _ => outcome.response

/-- What the callback of the agent is called with. -/
def ManagerCall.seen (addr : Address) (call : ManagerCall) : Option RequestCall :=
  match call with
  | .sync => none
  | .send req => some (.v3 addr user.name (context.getD ⟨engineId, ""⟩) req)

/-- A response's datagram is read as a response to the message with the keys of the user. -/
def IsResponse (id : ℕ) (call : ManagerCall) (msg : Msg) (outcome : Outcome) (datagram : Bytes) :
    Prop :=
  ∃ res : Msg, res.id = id ∧ (res.type = .RESPONSE ∨ res.type = .REPORT) ∧
    res.authorativeEngine.id = engineId ∧ res.auth = msg.auth ∧ res.priv = msg.priv ∧
    Manager.resultOf res msg = some (call.result outcome) ∧
    ∀ authKeyCb privKeyCb, Returns res authKey privKey authKeyCb privKeyCb →
      decode ber crypto datagram (some authKeyCb) (some privKeyCb) = .ok (.v3 res)

/-- The manager has the keys of the user once it knows the engine. -/
structure ManagerInv (manager : Manager) : Prop where
  sameUser : manager.user = user
  sameContext : manager.context = context
  unsynced : manager.authorativeEngine = none → manager.authKey = none ∧ manager.privKey = none
  synced : ∀ engine, manager.authorativeEngine = some engine →
    engine.id = engineId ∧ manager.authKey = authKey ∧ manager.privKey = privKey

/-- A message has flags only if the manager knows the engine. -/
def Fits (manager : Manager) (msg : Msg) : Prop :=
  (msg.auth → manager.authorativeEngine.isSome) ∧ (msg.priv → manager.authorativeEngine.isSome)

end

/-! ### What the agent does -/

section

variable {agent : Agent} {engineId : EngineId} {context : Option Context} {user : User}
  {authKey privKey : Option Key} {addr : Address} {outcome : Outcome} {env : Env}
  {msgBytes : Bytes} {msg : Msg} {id : ℕ} {call : ManagerCall}

theorem Shared.onAuthKey (h : Shared crypto agent engineId user authKey privKey) :
    agent.onAuthKey engineId user.name = .ok authKey := by
  rw [Agent.onAuthKey, if_neg (by rw [h.engine]; exact not_not.mpr rfl), h.agentAuth]

theorem Shared.onPrivKey (h : Shared crypto agent engineId user authKey privKey) :
    agent.onPrivKey engineId user.name = .ok privKey := by
  rw [Agent.onPrivKey, if_neg (by rw [h.engine]; exact not_not.mpr rfl), h.agentPriv]

/-- The datagram, as the agent finds it. -/
def agentDatagram (addr : Address) (msgBytes : Bytes) (outcome : Outcome) (env : Env) :
    Datagram where
  bytes := msgBytes
  addr := addr
  outcome := outcome
  time := env.time
  salt := env.salt

/-- The agent answers a message for another engine with a report of its own. -/
theorem serve_sync (h : Shared crypto agent engineId user authKey privKey)
    (hmsg : msg = requestMsg id (.GetDataReq []) ⟨[], 0, 0⟩ ⟨[], ""⟩ "" false false)
    (hdecode : decode ber crypto msgBytes (some agent.onAuthKey) (some agent.onPrivKey) =
      .ok (.v3 msg)) :
    agent.serve ber crypto addr msgBytes outcome env =
      (none, encode ber crypto env.salt
        (.v3 (Agent.report engineId msg (agentDatagram addr msgBytes outcome env))) none none) := by
  have hprocess : agent.processV3ReqMsg msg (agentDatagram addr msgBytes outcome env) =
      (none, .ok (Agent.report engineId msg (agentDatagram addr msgBytes outcome env))) := by
    subst hmsg
    simp only [Agent.processV3ReqMsg, h.callback, h.engine]
    simp only [requestMsg, V2c.typeOf, V2c.requestOf]
    rw [if_pos fun heq => h.nonempty heq.symm, if_pos trivial]
  simp only [agentDatagram] at hprocess ⊢
  simp only [Agent.serve, Agent.handle, hdecode, Agent.process, hprocess]
  rfl

/-- The agent passes on a request of the user, and its response is under the user's keys. -/
theorem serve_send (h : Shared crypto agent engineId user authKey privKey) {req : Request}
    {engine : AuthorativeEngine} (hengine : engine.id = engineId) {msgContext : Context}
    (hmsg : msg = requestMsg id req engine msgContext user.name authKey.isSome privKey.isSome)
    (hdecode : decode ber crypto msgBytes (some agent.onAuthKey) (some agent.onPrivKey) =
      .ok (.v3 msg)) :
    agent.serve ber crypto addr msgBytes outcome env =
      (some (.v3 addr user.name msgContext req), encode ber crypto env.salt
        (.v3 (Agent.responseV3 msg (agentDatagram addr msgBytes outcome env)))
          authKey privKey) := by
  have hreq : V2c.requestOf msg.type msg.pdu.data = .ok req := by
    rw [hmsg]
    exact V2c.requestOf_pduOf id req
  have hid : msg.authorativeEngine.id = engineId := by rw [hmsg]; exact hengine
  have huser : msg.user = user.name := by rw [hmsg]; rfl
  have hcontext : msg.context = msgContext := by rw [hmsg]; rfl
  have hauth : msg.auth = authKey.isSome := by rw [hmsg]; rfl
  have hpriv : msg.priv = privKey.isSome := by rw [hmsg]; rfl
  have hprocess : agent.processV3ReqMsg msg (agentDatagram addr msgBytes outcome env) =
      (some (.v3 addr user.name msgContext req),
        .ok (Agent.responseV3 msg (agentDatagram addr msgBytes outcome env))) := by
    simp only [Agent.processV3ReqMsg, h.callback, h.engine, hreq]
    rw [if_neg fun hne => hne hid]
    simp only [huser, h.agentAuth, h.agentPriv]
    rw [if_neg fun hflag => hflag.2 (hauth.trans hflag.1),
      if_neg fun hflag => hflag.2 (hpriv.trans hflag.1), hcontext]
    rfl
  have hencode : Agent.encodeResponse ber crypto agent
      (.v3 (Agent.responseV3 msg (agentDatagram addr msgBytes outcome env))) env.salt =
      encode ber crypto env.salt
        (.v3 (Agent.responseV3 msg (agentDatagram addr msgBytes outcome env)))
          authKey privKey := by
    have hauthKey : (if msg.auth then agent.onAuthKey msg.authorativeEngine.id msg.user
        else .ok none) = .ok authKey := by
      rw [hauth, hid, huser]
      cases authKey with
      | none => rfl
      | some key => exact h.onAuthKey
    have hprivKey : (if msg.priv then agent.onPrivKey msg.authorativeEngine.id msg.user
        else .ok none) = .ok privKey := by
      rw [hpriv, hid, huser]
      cases privKey with
      | none => rfl
      | some key => exact h.onPrivKey
    exact bind_eq_of_eq_ok hauthKey (bind_eq_of_eq_ok hprivKey rfl)
  simp only [agentDatagram] at hprocess hencode ⊢
  simp only [Agent.serve, Agent.handle, hdecode, Agent.process, hprocess]
  rw [← hencode]
  rfl

/-! ### What the manager sends -/

/-- What is encoded for a message with the keys of its flags is read by the agent. -/
theorem decode_request (hber : ber.Lawful) (hcrypto : crypto.Lawful) {salt : Salt}
    {authKey' privKey' : Option Key} (hkeyed : Keyed msg authKey' privKey')
    (hreturns : Returns msg authKey' privKey' agent.onAuthKey agent.onPrivKey)
    (hencode : encode ber crypto salt (.v3 msg) authKey' privKey' = .ok msgBytes) :
    decode ber crypto msgBytes (some agent.onAuthKey) (some agent.onPrivKey) = .ok (.v3 msg) := by
  obtain ⟨bs, hbs, hdecode⟩ | herror :=
    encode_v3_spec hber hcrypto salt (wellFormed_of_encode hencode) hkeyed
  · cases hencode.symm.trans hbs
    exact hdecode _ _ hreturns
  · exact absurd (hencode.symm.trans herror) nofun

theorem send_isRequest (hber : ber.Lawful) (hcrypto : crypto.Lawful)
    (h : Shared crypto agent engineId user authKey privKey) {manager : Manager}
    (hmanager : ManagerInv engineId context user authKey privKey manager)
    (hsend : (manager.send ber crypto call env).2 = .ok (msg, msgBytes)) :
    manager.nextRequestId < (manager.send ber crypto call env).1.nextRequestId ∧
      Fits (manager.send ber crypto call env).1 msg ∧
      IsRequest ber crypto agent engineId context user authKey privKey manager.nextRequestId call
        msg msgBytes := by
  cases call with
  | sync =>
    simp only [Manager.send, Manager.sendMsg, Option.isSome_none] at hsend ⊢
    cases hencode : encode ber crypto env.salt (.v3 (requestMsg manager.nextRequestId
        (.GetDataReq []) ⟨[], 0, 0⟩ ⟨[], ""⟩ "" false false)) none none with
    | error e => simp [hencode, Except.map] at hsend
    | ok bs =>
      rw [hencode] at hsend
      cases hsend
      refine ⟨Nat.lt_succ_self _, ⟨nofun, nofun⟩, rfl, ?_⟩
      exact decode_request hber hcrypto (keyed_of_no_flags rfl rfl none none) ⟨nofun, nofun⟩
        hencode
  | send req =>
    cases hengine : manager.authorativeEngine with
    | none => simp [Manager.send, hengine] at hsend
    | some engine =>
      obtain ⟨hid, hauthKey, hprivKey⟩ := hmanager.synced engine hengine
      simp only [Manager.send, hengine, Manager.sendMsg, hauthKey, hprivKey, hmanager.sameUser,
        hmanager.sameContext, hid] at hsend ⊢
      cases hencode : encode ber crypto env.salt (.v3 (requestMsg manager.nextRequestId req
          { engine with id := engineId, time := env.time } (context.getD ⟨engineId, ""⟩) user.name
          authKey.isSome privKey.isSome)) authKey privKey with
      | error e => simp [hencode, Except.map] at hsend
      | ok bs =>
        rw [hencode] at hsend
        cases hsend
        refine ⟨Nat.lt_succ_self _, ⟨fun _ => rfl, fun _ => rfl⟩, ⟨_, rfl, rfl⟩, ?_⟩
        exact decode_request hber hcrypto (h.keyed rfl rfl)
          ⟨fun _ => h.onAuthKey, fun _ => h.onPrivKey⟩ hencode

/-! ### What the agent sends -/

/-- What is encoded for a response with the keys of its flags is a response. -/
theorem isResponse_of_encode (hber : ber.Lawful) (hcrypto : crypto.Lawful) {salt : Salt}
    {res : Msg} {authKey' privKey' : Option Key} (hkeyed : Keyed res authKey' privKey')
    (hkeys : (res.auth → authKey' = authKey) ∧ (res.priv → privKey' = privKey)) (hid : res.id = id)
    (htype : res.type = .RESPONSE ∨ res.type = .REPORT)
    (hengine : res.authorativeEngine.id = engineId) (hauth : res.auth = msg.auth)
    (hpriv : res.priv = msg.priv) (hresult : Manager.resultOf res msg = some (call.result outcome))
    (hencode : encode ber crypto salt (.v3 res) authKey' privKey' = .ok msgBytes) :
    IsResponse ber crypto engineId authKey privKey id call msg outcome msgBytes := by
  refine ⟨res, hid, htype, hengine, hauth, hpriv, hresult, fun authKeyCb privKeyCb hreturns => ?_⟩
  obtain ⟨bs, hbs, hdecode⟩ | herror :=
    encode_v3_spec hber hcrypto salt (wellFormed_of_encode hencode) hkeyed
  · cases hencode.symm.trans hbs
    apply hdecode
    refine ⟨fun hflag => ?_, fun hflag => ?_⟩
    · rw [hkeys.1 hflag]
      exact hreturns.auth hflag
    · rw [hkeys.2 hflag]
      exact hreturns.priv hflag
  · exact absurd (hencode.symm.trans herror) nofun

theorem report_result {dgram : Datagram}
    (hmsg : msg = requestMsg id (.GetDataReq []) ⟨[], 0, 0⟩ ⟨[], ""⟩ "" false false) :
    Manager.resultOf (Agent.report engineId msg dgram) msg = some (.data []) := by
  rw [hmsg]
  rfl

theorem responseV3_result {dgram : Datagram} (hvalid : dgram.outcome.Valid .V3) :
    Manager.resultOf (Agent.responseV3 msg dgram) msg = some dgram.outcome.response := by
  rw [Manager.resultOf, if_neg fun h => h rfl, if_neg fun h => h rfl, if_neg fun h => h.2 rfl]
  exact congrArg some (dgram.outcome.responseOf_result hvalid)

theorem wellFormed_report {dgram : Datagram} :
    V2c.WellFormed (Agent.report engineId msg dgram).type
      (Agent.report engineId msg dgram).pdu where
  kind := ⟨nofun, nofun⟩
  data := nofun

theorem wellFormed_responseV3 {dgram : Datagram} (hvalid : dgram.outcome.Valid .V3) :
    V2c.WellFormed (Agent.responseV3 msg dgram).type (Agent.responseV3 msg dgram).pdu where
  kind := ⟨nofun, nofun⟩
  data item hitem :=
    (V2c.supports_V3_iff item).mp (dgram.outcome.supports_result hvalid item hitem)

/-- The agent's callback sees the call, and what is sent is a response to its message. -/
theorem serve_isResponse (hber : ber.Lawful) (hcrypto : crypto.Lawful)
    (h : Shared crypto agent engineId user authKey privKey)
    (hrequest : IsRequest ber crypto agent engineId context user authKey privKey id call msg
      msgBytes) (hvalid : outcome.Valid .V3) :
    (∀ reply, (agent.serve ber crypto addr msgBytes outcome env).2 = .ok reply →
        IsResponse ber crypto engineId authKey privKey id call msg outcome reply) ∧
      ∀ e, (agent.serve ber crypto addr msgBytes outcome env).2 = .error e → e = .asn1 := by
  obtain ⟨hmsg, hdecode⟩ := hrequest
  cases call with
  | sync =>
    rw [serve_sync h hmsg hdecode]
    have hkeyed : Keyed (Agent.report engineId msg (agentDatagram addr msgBytes outcome env)) none
        none := keyed_of_no_flags rfl rfl none none
    refine ⟨fun reply hreply => ?_, fun e he => ?_⟩
    · refine isResponse_of_encode hber hcrypto hkeyed ⟨nofun, nofun⟩ ?_ (.inr rfl) rfl ?_ ?_
        (report_result hmsg) hreply
      all_goals
        rw [hmsg]
        rfl
    · obtain ⟨bs, hbs, -⟩ | herror :=
        encode_v3_spec hber hcrypto env.salt wellFormed_report hkeyed
      · exact absurd (he.symm.trans hbs) nofun
      · exact Except.error.inj (he.symm.trans herror)
  | send req =>
    obtain ⟨engine, hengine, hmsg⟩ := hmsg
    rw [serve_send h hengine hmsg hdecode]
    have hkeyed : Keyed (Agent.responseV3 msg (agentDatagram addr msgBytes outcome env)) authKey
        privKey := by
      apply h.keyed
      all_goals
        rw [hmsg]
        rfl
    refine ⟨fun reply hreply => ?_, fun e he => ?_⟩
    · refine isResponse_of_encode hber hcrypto hkeyed ⟨fun _ => rfl, fun _ => rfl⟩ ?_ (.inl rfl) ?_
        rfl rfl (responseV3_result hvalid) hreply
      all_goals
        rw [hmsg]
      · rfl
      · exact hengine
    · obtain ⟨bs, hbs, -⟩ | herror :=
        encode_v3_spec hber hcrypto env.salt (wellFormed_responseV3 hvalid) hkeyed
      · exact absurd (he.symm.trans hbs) nofun
      · exact Except.error.inj (he.symm.trans herror)

/-- The agent's callback sees the call. -/
theorem serve_seen (h : Shared crypto agent engineId user authKey privKey)
    (hrequest : IsRequest ber crypto agent engineId context user authKey privKey id call msg
      msgBytes) :
    (agent.serve ber crypto addr msgBytes outcome env).1 =
      call.seen engineId context user addr := by
  obtain ⟨hmsg, hdecode⟩ := hrequest
  cases call with
  | sync => rw [serve_sync h hmsg hdecode]; rfl
  | send req =>
    obtain ⟨engine, hengine, hmsg⟩ := hmsg
    rw [serve_send h hengine hmsg hdecode]; rfl

/-! ### What the manager makes of it -/

/-- All that a manager learns is the engine and its keys. -/
theorem Manager.synchronize_eq_ok {manager manager' : Manager} {engine : AuthorativeEngine}
    (h : manager.synchronize crypto engine = .ok manager') :
    manager'.nextRequestId = manager.nextRequestId ∧ manager'.authorativeEngine = some engine := by
  unfold Manager.synchronize at h
  cases hengine : manager.authorativeEngine with
  | some engine' =>
    rw [hengine] at h
    cases h
    exact ⟨rfl, rfl⟩
  | none =>
    rw [hengine] at h
    obtain ⟨authKey, -, h⟩ := bind_eq_ok.mp h
    obtain ⟨privKey, -, h⟩ := bind_eq_ok.mp h
    cases h
    exact ⟨rfl, rfl⟩

variable (ber crypto) in
theorem Manager.accept_cases (manager : Manager) (reqMsgs : ℕ → Option Msg) (msgBytes : Bytes) :
    (manager.accept ber crypto reqMsgs msgBytes).1 = manager ∨ ∃ engine,
      manager.synchronize crypto engine = .ok (manager.accept ber crypto reqMsgs msgBytes).1 := by
  unfold Manager.accept
  split
  next resMsg _ =>
    split_ifs
    · exact .inl rfl
    · exact .inl rfl
    · split
      next => exact .inl rfl
      next manager' h => exact .inr ⟨_, h⟩
  next => exact .inl rfl

/-- The keys that a manager makes for the engine are those of the agent. -/
theorem ManagerInv.synchronize (h : Shared crypto agent engineId user authKey privKey)
    {manager : Manager} (hmanager : ManagerInv engineId context user authKey privKey manager)
    {engine : AuthorativeEngine} (hengine : engine.id = engineId) :
    ∃ manager', manager.synchronize crypto engine = .ok manager' ∧
      ManagerInv engineId context user authKey privKey manager' := by
  unfold Manager.synchronize
  cases hknown : manager.authorativeEngine with
  | some engine' =>
    refine ⟨_, rfl, hmanager.sameUser, hmanager.sameContext, nofun, fun engine'' heq => ?_⟩
    cases heq
    exact ⟨hengine, (hmanager.synced engine' hknown).2⟩
  | none =>
    simp only [hmanager.sameUser, hengine, h.userAuth, h.userPriv]
    refine ⟨_, rfl, rfl, hmanager.sameContext, nofun, fun engine'' heq => ?_⟩
    cases heq
    exact ⟨hengine, rfl, rfl⟩

/-- The manager gets the result of a response to a message that it sent. -/
theorem accept_response (h : Shared crypto agent engineId user authKey privKey)
    {manager : Manager} (hmanager : ManagerInv engineId context user authKey privKey manager)
    (hfits : Fits manager msg) {reply : Bytes}
    (hreply : IsResponse ber crypto engineId authKey privKey id call msg outcome reply)
    {reqMsgs : ℕ → Option Msg} (hreqMsg : reqMsgs id = some msg) :
    (manager.accept ber crypto reqMsgs reply).2 = some (id, call.result outcome) ∧
      ManagerInv engineId context user authKey privKey
        (manager.accept ber crypto reqMsgs reply).1 := by
  obtain ⟨res, hid, htype, hengine, hauth, hpriv, hresult, hdecode⟩ := hreply
  have hreturns : Returns res authKey privKey (fun _ _ => .ok manager.authKey)
      (fun _ _ => .ok manager.privKey) := by
    refine ⟨fun hflag => ?_, fun hflag => ?_⟩
    · obtain ⟨engine, hknown⟩ := Option.isSome_iff_exists.mp (hfits.1 (hauth ▸ hflag))
      rw [(hmanager.synced engine hknown).2.1]
    · obtain ⟨engine, hknown⟩ := Option.isSome_iff_exists.mp (hfits.2 (hpriv ▸ hflag))
      rw [(hmanager.synced engine hknown).2.2]
  have hsame : ¬ manager.authorativeEngine.any fun engine =>
      engine.id ≠ res.authorativeEngine.id := by
    cases hknown : manager.authorativeEngine with
    | none => exact Bool.false_ne_true
    | some engine => simp [hengine, (hmanager.synced engine hknown).1]
  obtain ⟨manager', hsync, hmanager'⟩ := hmanager.synchronize h hengine
  have haccept : manager.accept ber crypto reqMsgs reply =
      (manager', some (id, call.result outcome)) := by
    simp only [Manager.accept, hdecode _ _ hreturns]
    rw [if_neg fun hne => htype.elim hne.1 hne.2, if_neg hsame, hsync]
    simp only [hid, idOf, Option.bind_eq_bind, Option.bind_some, hreqMsg, hresult]
    rfl
  rw [haccept]
  exact ⟨rfl, hmanager'⟩

/-- A manager and an agent that share a user fit together. -/
theorem matches_exchange (hber : ber.Lawful) (hcrypto : crypto.Lawful)
    (h : Shared crypto agent engineId user authKey privKey) (context : Option Context)
    (addr : Address) :
    (exchange ber crypto agent addr).Matches (ManagerInv engineId context user authKey privKey)
      Fits (IsRequest ber crypto agent engineId context user authKey privKey)
      (fun id call msg => IsResponse ber crypto engineId authKey privKey id call msg)
      (fun call => call.seen engineId context user addr) ManagerCall.result
      (Outcome.Valid .V3) (fun _ => False) (fun failure => failure = .asn1) where
  send_inv manager call env hmanager := by
    cases call with
    | sync => exact ⟨hmanager.1, hmanager.2, hmanager.3, hmanager.4⟩
    | send req =>
      cases hengine : manager.authorativeEngine with
      | none =>
        simp only [exchange, Manager.send, hengine]
        exact hmanager
      | some engine =>
        simp only [exchange, Manager.send, hengine]
        exact ⟨hmanager.1, hmanager.2, hmanager.3, hmanager.4⟩
  send_fits manager call env msg _ hfits := by
    cases call with
    | sync => exact hfits
    | send req =>
      cases hengine : manager.authorativeEngine with
      | none =>
        simp only [exchange, Manager.send, hengine]
        exact hfits
      | some engine =>
        simp only [exchange, Manager.send, hengine]
        exact hfits
  send_next manager call env := by
    cases call with
    | sync => exact Nat.le_succ _
    | send req =>
      cases hengine : manager.authorativeEngine with
      | none => simp only [exchange, Manager.send, hengine, le_refl]
      | some engine =>
        simp only [exchange, Manager.send, hengine]
        exact Nat.le_succ _
  send_ok manager call env msg d hmanager hsend := send_isRequest hber hcrypto h hmanager hsend
  serve_seen id call msg d outcome env hrequest := serve_seen h hrequest
  serve_answers id call msg d outcome env hrequest hvalid :=
    answers_answered (serve_isResponse hber hcrypto h hrequest hvalid).1
      (serve_isResponse hber hcrypto h hrequest hvalid).2
  accept_ok manager lookup id call msg outcome d hmanager hfits hreply hlookup :=
    (accept_response h hmanager hfits hreply hlookup).1
  accept_inv manager lookup id call msg outcome d hmanager hfits hreply hlookup :=
    (accept_response h hmanager hfits hreply hlookup).2
  accept_fits manager lookup d msg _ hfits := by
    obtain heq | ⟨engine, hsync⟩ := manager.accept_cases ber crypto lookup d
    · show Fits (manager.accept ber crypto lookup d).1 msg
      rw [heq]
      exact hfits
    · have hsome := (Manager.synchronize_eq_ok hsync).2
      exact ⟨fun _ => by rw [exchange, hsome]; rfl, fun _ => by rw [exchange, hsome]; rfl⟩
  accept_next manager lookup d := by
    obtain heq | ⟨engine, hsync⟩ := manager.accept_cases ber crypto lookup d
    · exact congrArg Manager.nextRequestId heq
    · exact (Manager.synchronize_eq_ok hsync).1

end

end HatDrivers.Snmp.V3
