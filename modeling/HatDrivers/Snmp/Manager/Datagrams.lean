import HatDrivers.Doubles
import HatDrivers.Lib.Transition
import HatDrivers.Snmp.Manager.UserBased

namespace HatDrivers.Snmp.V3

open HatDrivers.Lib
open Asn1 (Ber)

/-!
# SNMP driver — datagrams of a manager of version 3

A manager of version 3 with its futures and its clock, in every order of calls, cancellations and
datagrams.  The receive loop takes over the engine of a message before it looks for the request, so
a datagram that is dropped by a later check has set the engine, and the time from which that of the
engine is counted.

* `receive_spec` — what the receive loop does with a datagram once the engine is known;
* `receive_accept` — it is what `Manager.accept` does to the manager;
* `dropped_unchanged_iff` — datagrams that are dropped leave the manager as it was, just if none of
  them comes that far.
-/

inductive Future
  | pending
  | result (res : Response)
  | connectionError
  | cancelled
  deriving DecidableEq

/-- `V3Manager`, with its endpoint. -/
structure Session where
  manager : Manager
  /-- `_authorative_engine_set_time` -/
  engineSetTime : ℚ
  /-- `_req_msg_futures` -/
  reqMsgFutures : List (ℕ × Msg × Future)
  isOpen : Bool
  /-- is the receive loop not over? -/
  receiving : Bool

/-- What happens, with what `time.monotonic()` returns then. -/
inductive SessionEvent
  /-- `sync` and `send`, up to where they wait -/
  | send (call : ManagerCall) (now : ℚ) (salt : Salt)
  /-- a call goes on after `await future` -/
  | resume (id : ℕ)
  /-- the task of a call is cancelled -/
  | cancel (id : ℕ)
  | receive (msgBytes : Bytes) (now : ℚ)
  | close
  /-- the receive loop ends -/
  | endReceiveLoop

namespace Session

/-- `V3Manager.__init__` -/
def create (context : Option Context) (user : User) (now : ℚ) : Except Failure Session := do
  return { manager := ← Manager.create context user, engineSetTime := now, reqMsgFutures := [],
           isOpen := true, receiving := true }

variable (ber : Ber) (crypto : Crypto) (s : Session)

/-! ### Calls -/

/-- The time of the engine by now. -/
def engineTime (now : ℚ) : ℤ :=
  match s.manager.authorativeEngine with
  | some engine => roundHalfEven (toDouble (engine.time + toDouble (now - s.engineSetTime)))
  | none => 0

/-- `sync` and `send`, up to where they wait. -/
def send (call : ManagerCall) (now : ℚ) (salt : Salt) : Session × Except Failure Bytes :=
  if ¬ s.isOpen then (s, .error .connectionError)
  else
    match s.manager.send ber crypto call ⟨s.engineTime now, salt⟩ with
    | (manager, .error e) => ({ s with manager := manager }, .error e)
    | (manager, .ok (reqMsg, reqMsgBytes)) =>
      ({ s with
         manager := manager
         reqMsgFutures := s.reqMsgFutures ++ [(s.manager.nextRequestId, reqMsg, .pending)] },
        .ok reqMsgBytes)

/-- The request and the future with an id. -/
def lookup (id : ℕ) : Option (Msg × Future) :=
  (s.reqMsgFutures.find? fun entry => entry.1 = id).map (·.2)

/-- The request with an id. -/
def reqMsgs (id : ℕ) : Option Msg := (s.lookup id).map fun found => found.1

/-- Sets the futures with an id that are not done. -/
def settle (id : ℕ) (future : Future) : Session :=
  { s with reqMsgFutures := s.reqMsgFutures.map fun entry =>
      if entry.1 = id ∧ entry.2.2 = .pending then (entry.1, entry.2.1, future) else entry }

/-- The `finally` block of `_receive_loop`. -/
def endReceiveLoop : Session :=
  { s with
    isOpen := false
    receiving := false
    reqMsgFutures := s.reqMsgFutures.map fun entry =>
      if entry.2.2 = .pending then (entry.1, entry.2.1, .connectionError) else entry }

/-! ### Datagrams -/

def decodeRes (msgBytes : Bytes) : Except Failure Snmp.Msg :=
  decode ber crypto msgBytes (some fun _ _ => .ok s.manager.authKey)
    (some fun _ _ => .ok s.manager.privKey)

/-- The keys for an engine, if none is known.  The first key stays when the second one raises. -/
def learnKeys (engine : AuthorativeEngine) : Session × Except Failure Unit :=
  if s.manager.authorativeEngine.isSome then (s, .ok ())
  else
    match userKey crypto (s.manager.user.authType.map authTypeToKeyType)
        s.manager.user.authPassword (some engine.id) with
    | .error e => (s, .error e)
    | .ok authKey =>
      let s := { s with manager := { s.manager with authKey := authKey } }
      match userKey crypto (s.manager.user.privType.map privTypeToKeyType)
          s.manager.user.privPassword (some engine.id) with
      | .error e => (s, .error e)
      | .ok privKey => ({ s with manager := { s.manager with privKey := privKey } }, .ok ())

def setEngine (engine : AuthorativeEngine) (now : ℚ) : Session :=
  { s with
    manager := { s.manager with authorativeEngine := some engine }
    engineSetTime := now }

/-- The end of a round of `_receive_loop`: the future of the request gets its result. -/
def answer (resMsg : Msg) : Session × Except Failure Unit :=
  match (idOf resMsg.id).bind fun id => (s.reqMsgs id).map fun reqMsg => (id, reqMsg) with
  | none => (s, .error .keyError)
  | some (id, reqMsg) =>
    if resMsg.auth ≠ reqMsg.auth then (s, .error (.exception "invalid auth flag"))
    else if resMsg.priv ≠ reqMsg.priv then (s, .error (.exception "invalid priv flag"))
    else if resMsg.type = .RESPONSE ∧ resMsg.context ≠ reqMsg.context then
      (s, .error (.exception "invalid context"))
    else
      match resMsg.pdu with
      | .basic pdu => (s.settle id (.result (responseOf pdu.error pdu.data)), .ok ())
      | .bulk _ => (s, .error .attributeError)

/-- A round of `_receive_loop`; a datagram whose handling raises is dropped. -/
def receive (msgBytes : Bytes) (now : ℚ) : Session × Except Failure Unit :=
  match s.decodeRes ber crypto msgBytes with
  | .error e => (s, .error e)
  | .ok (.v3 resMsg) =>
    if resMsg.type ≠ .RESPONSE ∧ resMsg.type ≠ .REPORT then
      (s, .error (.exception "invalid response message type"))
    else if s.manager.authorativeEngine.any fun engine =>
        engine.id ≠ resMsg.authorativeEngine.id then
      (s, .error (.exception "authorative engine id changed"))
    else
      match s.learnKeys crypto resMsg.authorativeEngine with
      | (s, .error e) => (s, .error e)
      | (s, .ok ()) => (s.setEngine resMsg.authorativeEngine now).answer resMsg
  | .ok _ => (s, .error (.exception "invalid version"))

/-! ### Steps -/

def step (s : Session) : SessionEvent → Option Session
  | .send call now salt => some (s.send ber crypto call now salt).1
  | .resume id =>
    match s.lookup id with
    | some (_, .pending) | none => none
    | some _ =>
      some { s with reqMsgFutures := s.reqMsgFutures.filter fun entry => entry.1 ≠ id }
  | .cancel id => some (s.settle id .cancelled)
  | .receive msgBytes now =>
    if s.receiving then some (s.receive ber crypto msgBytes now).1 else none
  | .close => some { s with isOpen := false }
  | .endReceiveLoop => if s.receiving then some s.endReceiveLoop else none

/-! ### Dropped datagrams -/

variable {ber : Ber} {crypto : Crypto}

/-- The message answers a request that is waited for. -/
def Expected (s : Session) (resMsg : Msg) : Prop :=
  ∃ id reqMsg, idOf resMsg.id = some id ∧ s.reqMsgs id = some reqMsg ∧
    resMsg.auth = reqMsg.auth ∧ resMsg.priv = reqMsg.priv ∧
    (resMsg.type = .RESPONSE → resMsg.context = reqMsg.context) ∧
    ∃ pdu, resMsg.pdu = .basic pdu

variable (ber crypto) in
/-- A datagram passes the checks up to that of its engine. -/
def Passes (s : Session) (msgBytes : Bytes) (resMsg : Msg) : Prop :=
  s.decodeRes ber crypto msgBytes = .ok (.v3 resMsg) ∧
    (resMsg.type = .RESPONSE ∨ resMsg.type = .REPORT) ∧
    ∀ engine, s.manager.authorativeEngine = some engine → engine.id = resMsg.authorativeEngine.id

theorem Passes.unique {s : Session} {msgBytes : Bytes} {resMsg resMsg' : Msg}
    (h : s.Passes ber crypto msgBytes resMsg) (h' : s.Passes ber crypto msgBytes resMsg') :
    resMsg = resMsg' := by
  have hdecode := h.1.symm.trans h'.1
  cases hdecode
  rfl

/-- A message that is not expected does nothing any more. -/
theorem answer_spec (s : Session) (resMsg : Msg) :
    s.Expected resMsg ∧ (s.answer resMsg).1.manager = s.manager ∧
        (s.answer resMsg).2 = .ok () ∨
      ¬ s.Expected resMsg ∧ (s.answer resMsg).1 = s ∧ ∃ e, (s.answer resMsg).2 = .error e := by
  unfold answer
  split
  next hnone =>
    refine .inr ⟨?_, rfl, _, rfl⟩
    rintro ⟨id, reqMsg, hid, hreqMsg, -⟩
    simp [hid, hreqMsg] at hnone
  next id reqMsg hsome =>
    obtain ⟨id', hid, hfound⟩ := Option.bind_eq_some_iff.mp hsome
    obtain ⟨reqMsg', hreqMsg, hpair⟩ := Option.map_eq_some_iff.mp hfound
    obtain ⟨rfl, rfl⟩ := Prod.mk.inj hpair
    have hunique : s.Expected resMsg → resMsg.auth = reqMsg'.auth ∧ resMsg.priv = reqMsg'.priv ∧
        (resMsg.type = .RESPONSE → resMsg.context = reqMsg'.context) ∧
        ∃ pdu, resMsg.pdu = .basic pdu := by
      rintro ⟨id, reqMsg, hid', hreqMsg', hmatches⟩
      obtain rfl := Option.some.inj (hid.symm.trans hid')
      obtain rfl := Option.some.inj (hreqMsg.symm.trans hreqMsg')
      exact hmatches
    split_ifs with hauth hpriv hcontext
    · exact .inr ⟨fun h => hauth (hunique h).1, rfl, _, rfl⟩
    · exact .inr ⟨fun h => hpriv (hunique h).2.1, rfl, _, rfl⟩
    · exact .inr ⟨fun h => hcontext.2 ((hunique h).2.2.1 hcontext.1), rfl, _, rfl⟩
    · cases hpdu : resMsg.pdu with
      | basic pdu =>
        refine .inl ⟨⟨_, _, hid, hreqMsg, not_not.mp hauth, not_not.mp hpriv, ?_, pdu, hpdu⟩,
          rfl, rfl⟩
        intro htype
        by_contra hne
        exact hcontext ⟨htype, hne⟩
      | bulk pdu =>
        refine .inr ⟨fun h => ?_, rfl, _, rfl⟩
        obtain ⟨pdu', hpdu'⟩ := (hunique h).2.2.2
        rw [hpdu] at hpdu'
        cases hpdu'

/-- Once the engine is known, a datagram either fails a check before and changes nothing, or it
sets the engine and the time first. -/
theorem receive_spec {s : Session} (hsynced : s.manager.authorativeEngine.isSome)
    (msgBytes : Bytes) (now : ℚ) :
    (∃ resMsg, s.Passes ber crypto msgBytes resMsg ∧ s.receive ber crypto msgBytes now =
        (s.setEngine resMsg.authorativeEngine now).answer resMsg) ∨
      (∀ resMsg, ¬ s.Passes ber crypto msgBytes resMsg) ∧
        ∃ e, s.receive ber crypto msgBytes now = (s, .error e) := by
  unfold receive
  split
  next e hdecode =>
    refine .inr ⟨?_, e, rfl⟩
    rintro resMsg ⟨hdecode', -⟩
    rw [hdecode] at hdecode'
    cases hdecode'
  next resMsg hdecode =>
    have hunique : ∀ resMsg', s.Passes ber crypto msgBytes resMsg' → resMsg' = resMsg := by
      rintro resMsg' ⟨hdecode', -⟩
      rw [hdecode] at hdecode'
      cases hdecode'
      rfl
    split_ifs with htype hengine
    · refine .inr ⟨?_, _, rfl⟩
      intro resMsg' hpasses
      obtain rfl := hunique resMsg' hpasses
      exact hpasses.2.1.elim htype.1 htype.2
    · refine .inr ⟨?_, _, rfl⟩
      intro resMsg' hpasses
      obtain rfl := hunique resMsg' hpasses
      obtain ⟨engine, hknown⟩ := Option.isSome_iff_exists.mp hsynced
      rw [hknown] at hengine
      simp [hpasses.2.2 engine hknown] at hengine
    · refine .inl ⟨resMsg, ⟨hdecode, ?_, ?_⟩, ?_⟩
      · by_contra hneither
        exact htype (not_or.mp hneither)
      · intro engine hknown
        rw [hknown] at hengine
        simpa using hengine
      · rw [learnKeys, if_pos hsynced]
  next other hother hdecode =>
    refine .inr ⟨?_, _, rfl⟩
    rintro resMsg ⟨hdecode', -⟩
    rw [hdecode] at hdecode'
    cases hdecode'
    exact hother _ rfl

/-- The result of a message that is received. -/
def resultFor (s : Session) (resMsg : Msg) : Option (ℕ × Response) := do
  let id ← idOf resMsg.id
  let reqMsg ← s.reqMsgs id
  let res ← Manager.resultOf resMsg reqMsg
  return (id, res)

/-- There is a result just if the message is expected. -/
theorem isSome_resultFor {s : Session} {resMsg : Msg} :
    (s.resultFor resMsg).isSome ↔ s.Expected resMsg := by
  simp only [resultFor, Option.bind_eq_bind, Option.pure_def]
  constructor
  · intro h
    obtain ⟨found, hfound⟩ := Option.isSome_iff_exists.mp h
    obtain ⟨id, hid, hfound⟩ := Option.bind_eq_some_iff.mp hfound
    obtain ⟨reqMsg, hreqMsg, hfound⟩ := Option.bind_eq_some_iff.mp hfound
    obtain ⟨res, hres, -⟩ := Option.bind_eq_some_iff.mp hfound
    unfold Manager.resultOf at hres
    split_ifs at hres with hauth hpriv hcontext
    cases hpdu : resMsg.pdu with
    | basic pdu =>
      refine ⟨id, reqMsg, hid, hreqMsg, not_not.mp hauth, not_not.mp hpriv, ?_, pdu, hpdu⟩
      intro htype
      by_contra hne
      exact hcontext ⟨htype, hne⟩
    | bulk pdu =>
      rw [hpdu] at hres
      cases hres
  · rintro ⟨id, reqMsg, hid, hreqMsg, hauth, hpriv, hcontext, pdu, hpdu⟩
    have hcontext' : ¬ (resMsg.type = .RESPONSE ∧ resMsg.context ≠ reqMsg.context) :=
      fun h => h.2 (hcontext h.1)
    rw [hid, Option.bind_some, hreqMsg, Option.bind_some, Manager.resultOf,
      if_neg (not_not.mpr hauth), if_neg (not_not.mpr hpriv), if_neg hcontext', hpdu]
    rfl

/-- `accept` takes over the engine of a message that passes, too. -/
theorem accept_of_passes {s : Session} (hsynced : s.manager.authorativeEngine.isSome)
    {msgBytes : Bytes} {resMsg : Msg} (h : s.Passes ber crypto msgBytes resMsg) :
    s.manager.accept ber crypto s.reqMsgs msgBytes =
      ({ s.manager with authorativeEngine := some resMsg.authorativeEngine },
        s.resultFor resMsg) := by
  obtain ⟨hdecode, htype, hengine⟩ := h
  obtain ⟨engine, hknown⟩ := Option.isSome_iff_exists.mp hsynced
  have hsame : ¬ s.manager.authorativeEngine.any fun engine =>
      engine.id ≠ resMsg.authorativeEngine.id := by
    simp [hknown, hengine engine hknown]
  unfold decodeRes at hdecode
  simp only [Manager.accept, hdecode]
  rw [if_neg fun hne => htype.elim hne.1 hne.2, if_neg hsame, Manager.synchronize, hknown]
  rfl

theorem accept_of_not_passes {s : Session} {msgBytes : Bytes}
    (h : ∀ resMsg, ¬ s.Passes ber crypto msgBytes resMsg) :
    s.manager.accept ber crypto s.reqMsgs msgBytes = (s.manager, none) := by
  unfold Manager.accept
  split
  next resMsg hdecode =>
    split_ifs with htype hengine
    · rfl
    · rfl
    · refine absurd ⟨hdecode, ?_, ?_⟩ (h resMsg)
      · by_contra hneither
        exact htype (not_or.mp hneither)
      · intro engine hknown
        rw [hknown] at hengine
        simpa using hengine
  next => rfl

/-- What the loop does to the manager, and whether a call gets a result, is as `accept` says. -/
theorem receive_accept {s : Session} (hsynced : s.manager.authorativeEngine.isSome)
    (msgBytes : Bytes) (now : ℚ) :
    (s.receive ber crypto msgBytes now).1.manager =
        (s.manager.accept ber crypto s.reqMsgs msgBytes).1 ∧
      ((s.receive ber crypto msgBytes now).2 = .ok () ↔
        (s.manager.accept ber crypto s.reqMsgs msgBytes).2.isSome) := by
  rcases receive_spec hsynced msgBytes now with ⟨resMsg, hpasses, hreceive⟩ | ⟨hpasses, e, hreceive⟩
  · rw [hreceive, accept_of_passes hsynced hpasses, isSome_resultFor]
    rcases answer_spec (s.setEngine resMsg.authorativeEngine now) resMsg with
      ⟨hexpected, hmanager, hok⟩ | ⟨hexpected, hself, e, herror⟩
    · exact ⟨hmanager, iff_of_true hok hexpected⟩
    · rw [hself, herror]
      exact ⟨rfl, iff_of_false nofun hexpected⟩
  · rw [hreceive, accept_of_not_passes hpasses]
    exact ⟨rfl, iff_of_false nofun nofun⟩

variable (ber crypto) in
/-- A datagram that is dropped leaves a manager that knows the engine as it was. -/
def DropKeeps (s : Session) : SessionEvent → Session → Prop
  | .receive msgBytes now, s' =>
    s.manager.authorativeEngine.isSome →
      (∃ e, (s.receive ber crypto msgBytes now).2 = .error e) → s' = s
  | _, _ => True

variable (ber crypto) in
/-- No datagram passes the checks up to that of the engine without being expected, unless it has
just what the manager knows. -/
def Harmless (s : Session) : SessionEvent → Prop
  | .receive msgBytes now =>
    s.receiving → ∀ engine resMsg, s.manager.authorativeEngine = some engine →
      s.Passes ber crypto msgBytes resMsg →
        s.Expected resMsg ∨ resMsg.authorativeEngine = engine ∧ now = s.engineSetTime
  | _ => True

theorem setEngine_eq_self {s : Session} {engine engine' : AuthorativeEngine} {now : ℚ}
    (h : s.manager.authorativeEngine = some engine) :
    s.setEngine engine' now = s ↔ engine' = engine ∧ now = s.engineSetTime := by
  constructor
  · intro hself
    have hengine := congrArg (fun s => s.manager.authorativeEngine) hself
    rw [h] at hengine
    exact ⟨Option.some.inj hengine, congrArg engineSetTime hself⟩
  · rintro ⟨rfl, rfl⟩
    rw [setEngine, ← h]

theorem dropKeeps_iff_harmless {s s' : Session} {e : SessionEvent}
    (h : step ber crypto s e = some s') : s.DropKeeps ber crypto e s' ↔ s.Harmless ber crypto e := by
  cases e with
  | receive msgBytes now =>
    simp only [step, Option.ite_none_right_eq_some, Option.some.injEq] at h
    obtain ⟨hreceiving, rfl⟩ := h
    cases hknown : s.manager.authorativeEngine with
    | none =>
      refine iff_of_true ?_ ?_
      · intro hsynced
        rw [hknown] at hsynced
        cases hsynced
      · intro _ engine _ hengine
        rw [hknown] at hengine
        cases hengine
    | some engine =>
      have hsynced : s.manager.authorativeEngine.isSome := by rw [hknown]; rfl
      rcases receive_spec hsynced msgBytes now with ⟨resMsg, hpasses, hreceive⟩ |
        ⟨hpasses, e, hreceive⟩
      · have hharmless : s.Harmless ber crypto (.receive msgBytes now) ↔
            s.Expected resMsg ∨ resMsg.authorativeEngine = engine ∧ now = s.engineSetTime := by
          constructor
          · exact fun h => h hreceiving engine resMsg hknown hpasses
          · intro h _ engine' resMsg' hknown' hpasses'
            obtain rfl := Option.some.inj (hknown.symm.trans hknown')
            obtain rfl := Passes.unique hpasses hpasses'
            exact h
        rw [hharmless]
        simp only [DropKeeps, hreceive, hsynced, forall_const]
        rcases answer_spec (s.setEngine resMsg.authorativeEngine now) resMsg with
          ⟨hexpected, -, hok⟩ | ⟨hexpected, hself, e, herror⟩
        · refine iff_of_true ?_ (.inl hexpected)
          rintro ⟨e, he⟩
          rw [hok] at he
          cases he
        · have hnot : ¬ s.Expected resMsg := hexpected
          rw [hself, setEngine_eq_self hknown]
          constructor
          · exact fun h => .inr (h ⟨e, herror⟩)
          · exact fun h _ => h.resolve_left hnot
      · refine iff_of_true ?_ fun _ _ resMsg _ h => absurd h (hpasses resMsg)
        intro _ _
        rw [hreceive]
  | _ => exact Iff.rfl

/-- **Dropped datagrams.**  In every run, all datagrams that are dropped once the manager knows
the engine leave it as it was, its requests included, if and only if those that come as far as the
engine are expected or tell nothing new. -/
theorem dropped_unchanged_iff (s : Session) (events : List SessionEvent) :
    (∀ es' e s₁ s₂, es' ++ [e] <+: events → run (step ber crypto) s es' = some s₁ →
        step ber crypto s₁ e = some s₂ → s₁.DropKeeps ber crypto e s₂) ↔
      Along (step ber crypto) (Harmless ber crypto) s events := by
  apply forall_steps_iff_along_of_inv (I := fun _ => True)
  · exact fun _ _ _ _ _ => trivial
  · exact fun s e s' _ hstep => dropKeeps_iff_harmless hstep
  · intro s e _ hnone
    cases e with
    | receive msgBytes now =>
      intro hreceiving
      rw [step, if_pos hreceiving] at hnone
      cases hnone
    | _ => trivial
  · trivial

/-! A manager that has synchronized gets the same report once more. -/

def syncParams : Asn1.V3.UsmSecurityParameters × Asn1.Entity :=
  ({ msgAuthoritativeEngineID := []
     msgAuthoritativeEngineBoots := 0
     msgAuthoritativeEngineTime := 0
     msgUserName := []
     msgAuthenticationParameters := []
     msgPrivacyParameters := [] },
   .constructed .UNIVERSAL 16 [.primitive .UNIVERSAL 4 [], .primitive .UNIVERSAL 2 [0],
     .primitive .UNIVERSAL 2 [0], .primitive .UNIVERSAL 4 [], .primitive .UNIVERSAL 4 [],
     .primitive .UNIVERSAL 4 []])

/-- The request of `sync`, and its entity. -/
def syncValue : Asn1.V3.SNMPv3Message × Asn1.Entity :=
  ({ msgVersion := 3
     msgGlobalData := ⟨1, 2147483647, [4], 3⟩
     msgSecurityParameters := syncParams.2.bytes
     msgData := .plaintext ⟨[], [], (.GET_REQUEST, .pdu 1 0 0 [])⟩ },
   .constructed .UNIVERSAL 16 [.primitive .UNIVERSAL 2 [3],
     .constructed .UNIVERSAL 16 [.primitive .UNIVERSAL 2 [1],
       .primitive .UNIVERSAL 2 [127, 255, 255, 255], .primitive .UNIVERSAL 4 [4],
       .primitive .UNIVERSAL 2 [3]],
     .primitive .UNIVERSAL 4 syncParams.2.bytes,
     .constructed .UNIVERSAL 16 [.primitive .UNIVERSAL 4 [], .primitive .UNIVERSAL 4 [],
       .constructed .CONTEXT_SPECIFIC 0 [.primitive .UNIVERSAL 2 [1],
         .primitive .UNIVERSAL 2 [0], .primitive .UNIVERSAL 2 [0],
         .constructed .UNIVERSAL 16 []]]])

def reportValue : Asn1.V3.SNMPv3Message × Asn1.Entity := sampleValue 0 .REPORT 8 []

def syncBer : Ber := .ofTables [] [syncValue, reportValue] [syncParams, sampleParams []]

/-- A manager of a user without a password. -/
def publicSession : Session where
  manager := ⟨none, ⟨"public", none, none, none, none⟩, 1, none, none, none⟩
  engineSetTime := 0
  reqMsgFutures := []
  isOpen := true
  receiving := true

def syncEvents : List SessionEvent :=
  [.send .sync 0 sampleSalt, .receive reportValue.2.bytes 1, .resume 1]

/-- The report is dropped, and sets the time of the engine. -/
theorem report_setsTime :
    Session.create none ⟨"public", none, none, none, none⟩ 0 = .ok publicSession ∧
      ¬ ∀ events e s₁ s₂, run (step syncBer sampleCrypto) publicSession events = some s₁ →
        step syncBer sampleCrypto s₁ e = some s₂ → s₁.DropKeeps syncBer sampleCrypto e s₂ := by
  refine ⟨rfl, fun h => ?_⟩
  have hrun : (run (step syncBer sampleCrypto) publicSession syncEvents).map (fun s =>
      (s.manager.authorativeEngine.isSome, s.receiving, s.engineSetTime,
        (s.receive syncBer sampleCrypto reportValue.2.bytes 2).2.toOption,
        (s.receive syncBer sampleCrypto reportValue.2.bytes 2).1.engineSetTime)) =
      some (true, true, 1, none, 2) := by decide +kernel
  obtain ⟨s₁, hs₁, hrun⟩ := Option.map_eq_some_iff.mp hrun
  obtain ⟨hsynced, hrun⟩ := Prod.mk.inj hrun
  obtain ⟨hreceiving, hrun⟩ := Prod.mk.inj hrun
  obtain ⟨hbefore, hrun⟩ := Prod.mk.inj hrun
  obtain ⟨hdropped, hafter⟩ := Prod.mk.inj hrun
  have hstep : step syncBer sampleCrypto s₁ (.receive reportValue.2.bytes 2) =
      some (s₁.receive syncBer sampleCrypto reportValue.2.bytes 2).1 := if_pos hreceiving
  have herror : ∃ e, (s₁.receive syncBer sampleCrypto reportValue.2.bytes 2).2 = .error e := by
    cases hresult : (s₁.receive syncBer sampleCrypto reportValue.2.bytes 2).2 with
    | error e => exact ⟨e, rfl⟩
    | ok u =>
      rw [hresult] at hdropped
      cases hdropped
  have hsame := h syncEvents _ s₁ _ hs₁ hstep hsynced herror
  rw [hsame, hbefore] at hafter
  exact absurd hafter (by decide)

end Session

end HatDrivers.Snmp.V3
