import HatDrivers.Snmp.Manager.UserBased

namespace HatDrivers.Snmp

open HatDrivers.Lib
open Exchange (Agrees Event State)
open Asn1 (Ber)

/-!
# SNMP driver — managers and agents end to end

What `send` returns is the result of the agent's callback for that very request, and the callback
is called with the community, or with the user and the context, of the manager
(`managers_agree`): in every run, for requests that wait at the same time, responses in any order
and datagrams that are lost or repeated.
-/

variable {ber : Ber} {crypto : Crypto}

/-! ### Requests of a version -/

/-- The version has the kind of a request and its data. -/
def Request.Supports (version : Version) : Request → Prop
  | .SetDataReq data => ∀ item ∈ data, item.Supports version
  | .GetBulkDataReq _ => version ≠ .V1
  | .GetDataReq _ | .GetNextDataReq _ => True

theorem V1.wellFormed_message {manager : V1.Manager} {type : V1.MsgType} {req : Request}
    (htype : V1.typeOf req = .ok type) (h : req.Supports .V1) :
    (Msg.v1 (manager.message type req)).WellFormed where
  kind := by
    cases req <;> cases htype <;> exact ⟨nofun, nofun⟩
  data item hitem := by
    cases req with
    | SetDataReq data => exact h item hitem
    | _ names =>
      obtain ⟨name, -, rfl⟩ := List.mem_map.mp hitem
      rfl

theorem V2c.wellFormed_request {id : ℕ} {req : Request} (h : req.Supports .V2C) :
    V2c.WellFormed (V2c.typeOf req) (V2c.pduOf id req) where
  kind := by
    cases req with
    | GetBulkDataReq names => exact ⟨fun _ => rfl, fun _ => rfl⟩
    | _ => exact ⟨nofun, nofun⟩
  data item hitem := by
    rw [V2c.pduOf_data] at hitem
    cases req with
    | SetDataReq data => exact h item hitem
    | _ names =>
      obtain ⟨name, -, rfl⟩ := List.mem_map.mp hitem
      rfl

/-- Versions 2c and 3 have the same requests. -/
theorem Request.supports_V3 {req : Request} (h : req.Supports .V3) : req.Supports .V2C := by
  cases req with
  | SetDataReq data => exact fun item hitem => (V2c.supports_V3_iff item).mp (h item hitem)
  | GetBulkDataReq names => exact nofun
  | GetDataReq names => trivial
  | GetNextDataReq names => trivial

/-! ### Requests are sent -/

theorem V1.send_error (hber : ber.Lawful) {manager : V1.Manager} {req : Request} {env : Env}
    {e : Failure} (hreq : req.Supports .V1) (h : (manager.send ber crypto req env).2 = .error e) :
    e = .asn1 := by
  cases htype : V1.typeOf req with
  | error e' =>
    cases req with
    | GetBulkDataReq names => exact absurd rfl hreq
    | _ => cases htype
  | ok type =>
    simp only [Manager.send, htype] at h
    have hmsg : (Msg.v1 (manager.message type req)).WellFormed := V1.wellFormed_message htype hreq
    obtain ⟨bs, hbs, -⟩ | herror := encode_v1_spec crypto hber env.salt hmsg none none none none
    · rw [hbs] at h
      cases h
    · rw [herror] at h
      cases h
      rfl

theorem V2c.send_error (hber : ber.Lawful) {manager : V2c.Manager} {req : Request} {env : Env}
    {e : Failure} (hreq : req.Supports .V2C)
    (h : (manager.send ber crypto req env).2 = .error e) : e = .asn1 := by
  simp only [Manager.send] at h
  obtain ⟨bs, hbs, -⟩ | herror := encode_v2c_spec crypto hber env.salt
    (show (Msg.v2c (manager.message req)).WellFormed from V2c.wellFormed_request hreq) none none
      none none
  · rw [hbs] at h
    cases h
  · rw [herror] at h
    cases h
    rfl

/-- A manager that knows the engine sends the requests of the version. -/
theorem V3.send_error (hber : ber.Lawful) (hcrypto : crypto.Lawful) {agent : Agent}
    {engineId : EngineId} {context : Option Context} {user : User} {authKey privKey : Option Key}
    (hshared : V3.Shared crypto agent engineId user authKey privKey) {manager : V3.Manager}
    (hmanager : V3.ManagerInv engineId context user authKey privKey manager)
    (hsynced : manager.authorativeEngine.isSome) {req : Request} {env : Env} {e : Failure}
    (hreq : req.Supports .V3) (h : (manager.send ber crypto (.send req) env).2 = .error e) :
    e = .asn1 := by
  obtain ⟨engine, hengine⟩ := Option.isSome_iff_exists.mp hsynced
  obtain ⟨-, hauthKey, hprivKey⟩ := hmanager.synced engine hengine
  simp only [Manager.send, hengine, Manager.sendMsg, hauthKey, hprivKey] at h
  generalize hmsg : V3.requestMsg manager.nextRequestId req _ _ _ _ _ = msg at h
  have hwellFormed : V2c.WellFormed msg.type msg.pdu := by
    rw [← hmsg]
    exact V2c.wellFormed_request (Request.supports_V3 hreq)
  have hkeyed : V3.Keyed msg authKey privKey := by
    apply hshared.keyed
    all_goals
      rw [← hmsg]
      rfl
  obtain ⟨bs, hbs, -⟩ | herror := encode_v3_spec hber hcrypto env.salt hwellFormed hkeyed
  · rw [hbs] at h
    cases h
  · rw [herror] at h
    cases h
    rfl

/-! ### Synchronization -/

namespace V3

@[simp] theorem Manager.send_authorativeEngine (manager : Manager) (call : ManagerCall)
    (env : Env) :
    (manager.send ber crypto call env).1.authorativeEngine = manager.authorativeEngine := by
  cases call with
  | sync => rfl
  | send req =>
    simp only [Manager.send]
    split <;> rfl

/-- A manager that knows the engine does not forget it. -/
theorem Manager.accept_isSome {manager : Manager} (h : manager.authorativeEngine.isSome)
    (reqMsgs : ℕ → Option Msg) (msgBytes : Bytes) :
    (manager.accept ber crypto reqMsgs msgBytes).1.authorativeEngine.isSome := by
  obtain heq | ⟨engine, hsync⟩ := manager.accept_cases ber crypto reqMsgs msgBytes
  · rw [heq]
    exact h
  · rw [(Manager.synchronize_eq_ok hsync).2]
    rfl

/-- There is no result without the engine. -/
theorem Manager.accept_synced {manager : Manager} {reqMsgs : ℕ → Option Msg} {msgBytes : Bytes}
    (h : (manager.accept ber crypto reqMsgs msgBytes).2.isSome) :
    (manager.accept ber crypto reqMsgs msgBytes).1.authorativeEngine.isSome := by
  unfold Manager.accept at h ⊢
  split at h
  next resMsg _ =>
    split_ifs at h ⊢
    · cases h
    · cases h
    · split at h
      next => cases h
      next manager' hsync =>
        rw [(Manager.synchronize_eq_ok hsync).2]
        rfl
  next => cases h

/-- A manager one of whose requests has a result knows the engine. -/
def Synced (s : State Manager ManagerCall Msg Outcome RequestCall Response Bytes Failure) : Prop :=
  ∀ call ∈ s.calls, call.result.isSome → s.requester.authorativeEngine.isSome

theorem Synced.step {agent : Agent} {addr : Address}
    {s s' : State Manager ManagerCall Msg Outcome RequestCall Response Bytes Failure}
    (h : Synced s) {event : Event ManagerCall Outcome Env}
    (hstep : (exchange ber crypto agent addr).step s event = some s') : Synced s' := by
  cases event with
  | send request env =>
    cases hsend : (s.requester.send ber crypto request env).2 with
    | error e =>
      simp only [Exchange.step, exchange, hsend, Option.some.injEq] at hstep
      subst hstep
      intro call hcall hresult
      rw [Manager.send_authorativeEngine]
      exact h call hcall hresult
    | ok sent =>
      simp only [Exchange.step, exchange, hsend, Option.some.injEq] at hstep
      subst hstep
      intro call hcall hresult
      rw [Manager.send_authorativeEngine]
      rcases List.mem_append.mp hcall with hcall | hcall
      · exact h call hcall hresult
      · cases List.mem_singleton.mp hcall
        cases hresult
  | serve k outcome env =>
    cases hcall : s.calls[k]? with
    | none => simp [Exchange.step, hcall] at hstep
    | some call =>
      simp only [Exchange.step, hcall, Option.some.injEq] at hstep
      subst hstep
      exact h
  | deliver j =>
    cases hserved : s.served[j]? with
    | none => simp [Exchange.step, hserved] at hstep
    | some served =>
      cases hreply : served.reply with
      | error e => simp [Exchange.step, hserved, hreply] at hstep
      | ok reply =>
        cases reply with
        | none => simp [Exchange.step, hserved, hreply] at hstep
        | some reply =>
          cases haccept : (s.requester.accept ber crypto s.lookup reply).2 with
          | none =>
            simp only [Exchange.step, exchange, hserved, hreply, haccept,
              Option.some.injEq] at hstep
            subst hstep
            exact fun call hcall hresult => Manager.accept_isSome (h call hcall hresult) _ _
          | some accepted =>
            simp only [Exchange.step, exchange, hserved, hreply, haccept,
              Option.some.injEq] at hstep
            subst hstep
            exact fun _ _ _ => Manager.accept_synced (by rw [haccept]; rfl)

end V3

/-! ### End to end -/

/-- Managers and an agent agree: in every run of requests and of datagrams that arrive in any
order, each call of a manager gets the result of the agent's callback for it, and the callback is
called with the community, or the user and the context, and the request of the call.  Requests
that the version supports and their responses fail only if the ASN.1 encoder raises, with version
3 after synchronization. -/
theorem managers_agree (hber : ber.Lawful) (hcrypto : crypto.Lawful) (addr : Address) :
    (∀ agent community events s, agent.v1RequestCb →
      (∀ event ∈ events, event.Valid (Outcome.Valid .V1)) →
      run (V1.exchange ber crypto agent addr).step (State.init (V1.Manager.init community)) events =
        some s →
      Agrees (fun req => some (.v1 addr community req)) (fun _ outcome => outcome.response)
          (fun _ => False) (fun e => e = .asn1) s ∧
        ∀ req env e, Request.Supports .V1 req →
          (s.requester.send ber crypto req env).2 = .error e → e = .asn1) ∧
    (∀ agent community events s, agent.v2cRequestCb →
      (∀ event ∈ events, event.Valid (Outcome.Valid .V2C)) →
      run (V2c.exchange ber crypto agent addr).step (State.init (V2c.Manager.init community))
        events = some s →
      Agrees (fun req => some (.v2c addr community req)) (fun _ outcome => outcome.response)
          (fun _ => False) (fun e => e = .asn1) s ∧
        ∀ req env e, Request.Supports .V2C req →
          (s.requester.send ber crypto req env).2 = .error e → e = .asn1) ∧
    ∀ v1RequestCb v2cRequestCb engineId users agent context user manager events s,
      engineId ≠ [] → findUser users user.name = some user →
      Agent.create crypto v1RequestCb v2cRequestCb true (some engineId) users = .ok agent →
      V3.Manager.create context user = .ok manager →
      (∀ event ∈ events, event.Valid (Outcome.Valid .V3)) →
      run (V3.exchange ber crypto agent addr).step (State.init manager) events = some s →
      Agrees (fun call => call.seen engineId context user addr) V3.ManagerCall.result
          (fun _ => False) (fun e => e = .asn1) s ∧
        ((∃ call ∈ s.calls, call.result.isSome) → ∀ req env e, Request.Supports .V3 req →
          (s.requester.send ber crypto (.send req) env).2 = .error e → e = .asn1) := by
  refine ⟨?_, ?_, ?_⟩
  · intro agent community events s hcb hvalid hrun
    obtain ⟨hagrees, -⟩ :=
      Exchange.run_agrees (V1.matches_exchange hber hcb addr community) rfl hvalid hrun
    exact ⟨hagrees, fun req env e hreq h => V1.send_error hber hreq h⟩
  · intro agent community events s hcb hvalid hrun
    obtain ⟨hagrees, -⟩ :=
      Exchange.run_agrees (V2c.matches_exchange hber hcb addr community) rfl hvalid hrun
    exact ⟨hagrees, fun req env e hreq h => V2c.send_error hber hreq h⟩
  · intro v1RequestCb v2cRequestCb engineId users agent context user manager events s hengine huser
      hagent hmanager hvalid hrun
    obtain ⟨authKey, privKey, hshared⟩ := V3.exists_shared hcrypto hengine hagent huser
    obtain ⟨-, -, hmanager⟩ := bind_eq_ok.mp hmanager
    cases hmanager
    have hinv : V3.ManagerInv engineId context user authKey privKey
        ⟨context, user, 1, none, none, none⟩ := ⟨rfl, rfl, fun _ => ⟨rfl, rfl⟩, nofun⟩
    obtain ⟨hagrees, hinv⟩ := Exchange.run_agrees
      (V3.matches_exchange hber hcrypto hshared context addr) hinv hvalid hrun
    have hsynced : V3.Synced s :=
      run_invariant_of_step (fun s e s' h hstep => V3.Synced.step h hstep)
        (fun _ hcall => absurd hcall List.not_mem_nil) hrun
    refine ⟨hagrees, fun ⟨call, hcall, hresult⟩ req env e hreq h => ?_⟩
    exact V3.send_error hber hcrypto hshared hinv (hsynced call hcall hresult) hreq h

/-! A run of version 2c with a request for nothing. -/

def communityAgent : Agent := ⟨false, true, false, none, fun _ => none, fun _ => none⟩

/-- A request that is served once, and the callback raises. -/
def communityEvents : List (Event Request Outcome Env) :=
  [.send (.GetDataReq []) ⟨0, sampleSalt⟩, .serve 0 .raises ⟨0, sampleSalt⟩, .deliver 0]

theorem managers_agree_sample : ∃ s,
    run (V2c.exchange communityBer sampleCrypto communityAgent ⟨"127.0.0.1", 161⟩).step
      (State.init (V2c.Manager.init "a")) communityEvents = some s ∧
    s.calls.map (fun call => call.result) = [some (.error ⟨.GEN_ERR, 0⟩)] ∧
    Agrees (fun req => some (.v2c ⟨"127.0.0.1", 161⟩ "a" req))
      (fun _ outcome => outcome.response) (fun _ => False) (fun e => e = .asn1) s := by
  have hresults : (run (V2c.exchange communityBer sampleCrypto communityAgent
      ⟨"127.0.0.1", 161⟩).step (State.init (V2c.Manager.init "a")) communityEvents).map
      (fun s => s.calls.map fun call => call.result) = some [some (.error ⟨.GEN_ERR, 0⟩)] := by
    decide +kernel
  obtain ⟨s, hs, hresults⟩ := Option.map_eq_some_iff.mp hresults
  have hvalid : ∀ event ∈ communityEvents, event.Valid (Outcome.Valid .V2C) := by
    simp [communityEvents, Event.Valid, Outcome.Valid]
  exact ⟨s, hs, hresults, ((managers_agree communityBer_lawful sampleCrypto_lawful
    ⟨"127.0.0.1", 161⟩).2.1 communityAgent "a" communityEvents s rfl hvalid hs).1⟩

end HatDrivers.Snmp
