import HatDrivers.Snmp.Trap.Access
import HatDrivers.Snmp.Trap.Sender

namespace HatDrivers.Snmp

open HatDrivers.Lib
open Exchange (Agrees Answers Event State)
open Asn1 (Ber)

/-!
# SNMP driver — traps and informs end to end

The callbacks of a listener are called with what a sender was told to send, and `send_inform`
returns the error of the inform callback (`senders_agree_iff`).  A sender of version 3 without a
context of its own sends nothing: it reads its engine's identifier from an attribute that it does
not have.
-/

variable {ber : Ber} {crypto : Crypto}

/-! ### Calls -/

/-- The error that an inform callback returned. -/
def NotifyOutcome.error : NotifyOutcome → Option Error
  | returns error => error.filter fun error => error.type ≠ .NO_ERROR
  | raises => none

/-- The callback returns. -/
def NotifyOutcome.Valid : NotifyOutcome → Prop
  | returns _ => True
  | raises => False

theorem informResult_getD (error : Option Error) :
    informResult (error.getD ⟨.NO_ERROR, 0⟩) = (NotifyOutcome.returns error).error := by
  cases error with
  | none => rfl
  | some error =>
    by_cases h : error.type = .NO_ERROR <;>
      simp [informResult, NotifyOutcome.error, Option.filter, h]

namespace SenderCall

/-- The version has the data that a call is given. -/
def Supports (version : Version) : SenderCall → Prop
  | trap t => ∀ item ∈ t.data, item.Supports version
  | inform i => ∀ item ∈ i.data, item.Supports version

/-- Nothing waits for a trap. -/
def Silent (call : SenderCall) : Prop := call.isInform = false

/-- The error of the callback, which is of no use for a trap. -/
def result : SenderCall → NotifyOutcome → Option Error := fun _ outcome => outcome.error

/-- The call of a callback of version 2c. -/
def seenV2c (addr : Address) (community : String) : SenderCall → NotifyCall
  | trap t => .v2cTrap addr community { t with cause := none }
  | inform i => .v2cInform addr community i

/-- The call of a callback of version 3. -/
def seenV3 (addr : Address) (user : String) (context : Context) : SenderCall → NotifyCall
  | trap t => .v3Trap addr user context { t with cause := none }
  | inform i => .v3Inform addr user context i

/-- What a listener reads of the data of a trap is the trap. -/
theorem trapOf_data (t : Trap) :
    TrapListener.trapOf (trap t).data = .ok { t with cause := none } := rfl

theorem supports_data {call : SenderCall} (h : call.Supports .V2C) :
    ∀ item ∈ call.data, item.Supports .V2C := by
  cases call with
  | inform i => exact h
  | trap t =>
    intro item hitem
    rcases List.mem_cons.mp hitem with rfl | hitem
    · rfl
    · rcases List.mem_cons.mp hitem with rfl | hitem
      · rfl
      · exact h item hitem

theorem supports_of_data {call : SenderCall} (h : ∀ item ∈ call.data, item.Supports .V2C) :
    call.Supports .V2C := by
  cases call with
  | trap t => exact fun item hitem => h item (List.mem_cons_of_mem _ (List.mem_cons_of_mem _ hitem))
  | inform i => exact h

theorem supports_of_V3 {call : SenderCall} (h : call.Supports .V3) : call.Supports .V2C := by
  cases call with
  | trap t => exact fun item hitem => (V2c.supports_V3_iff item).mp (h item hitem)
  | inform i => exact fun item hitem => (V2c.supports_V3_iff item).mp (h item hitem)

/-- The PDU of a call is that of its message type. -/
theorem kind_pdu (call : SenderCall) (id : ℕ) :
    call.type = .GET_BULK_REQUEST ↔ (call.pdu id).isBulk := by
  cases call <;> exact ⟨nofun, nofun⟩

theorem wellFormed_pdu {call : SenderCall} (h : call.Supports .V2C) (id : ℕ) :
    V2c.WellFormed call.type (call.pdu id) where
  kind := call.kind_pdu id
  data := supports_data h

end SenderCall

/-! ### What the listener does -/

namespace TrapListener

variable {listener : TrapListener} {addr : Address} {outcome : NotifyOutcome} {env : Env}
  {msgBytes : Bytes} {call : SenderCall}

/-- The datagram, as the listener finds it. -/
def senderDatagram (addr : Address) (msgBytes : Bytes) (outcome : NotifyOutcome) (env : Env) :
    Notification where
  bytes := msgBytes
  addr := addr
  outcome := outcome
  salt := env.salt

/-- What is sent for a message that was processed. -/
def sentOf (ber : Ber) (crypto : Crypto) (listener : TrapListener) (salt : Salt)
    (response : Option Msg) : Except Failure (Option Bytes) :=
  match response with
  | none => .ok none
  | some resMsg => (listener.encodeResponse ber crypto resMsg salt).map some

theorem serve_eq {msg : Msg} {processed : Processed Msg}
    (hdecode : decode ber crypto msgBytes (some (listener.onAuthKey crypto))
      (some (listener.onPrivKey crypto)) = .ok msg)
    (hprocess : listener.process msg (senderDatagram addr msgBytes outcome env) = processed) :
    listener.serve ber crypto addr msgBytes outcome env =
      (processed.1, processed.2.bind (listener.sentOf ber crypto env.salt)) := by
  simp only [senderDatagram] at hprocess
  simp only [serve, handle, decodeDgram, hdecode, hprocess]
  congr 2

end TrapListener

/-! ### Version 2c -/

namespace V2c

/-- The message of a call. -/
def noticeMsg (community : String) (id : ℕ) (call : SenderCall) : Msg where
  type := call.type
  community := community
  pdu := call.pdu id

/-- The message of a response to an inform. -/
def replyMsg (community : String) (id : ℕ) (error : Option Error) (data : List Data) : Msg where
  type := .RESPONSE
  community := community
  pdu := .basic ⟨id, error.getD ⟨.NO_ERROR, 0⟩, data⟩

/-- The datagram of a call is read as its message. -/
structure IsNotice (ber : Ber) (crypto : Crypto) (community : String) (id : ℕ) (call : SenderCall)
    (waits : Bool) (datagram : Bytes) : Prop where
  waits : waits = call.isInform
  decode : ∀ authKeyCb privKeyCb,
    decode ber crypto datagram authKeyCb privKeyCb = .ok (.v2c (noticeMsg community id call))
  supports : call.Supports .V2C

/-- The datagram of a response is read as its message, with the error of the callback. -/
structure IsReply (ber : Ber) (crypto : Crypto) (community : String) (id : ℕ) (waits : Bool)
    (outcome : NotifyOutcome) (datagram : Bytes) : Prop where
  waits : waits = true
  decode : ∃ error data, outcome = .returns error ∧ ∀ authKeyCb privKeyCb,
    decode ber crypto datagram authKeyCb privKeyCb = .ok (.v2c (replyMsg community id error data))

variable {listener : TrapListener} {addr : Address} {outcome : NotifyOutcome} {env : Env}
  {community : String} {id : ℕ} {waits : Bool} {datagram : Bytes} {t : Trap} {i : Inform}

open TrapListener (senderDatagram serve_eq Processed)

variable (addr outcome env) in
theorem serve_trap (hcb : listener.v2cTrapCb)
    (h : IsNotice ber crypto community id (.trap t) waits datagram) :
    (listener.serve ber crypto addr datagram outcome env).1 =
        some (SenderCall.seenV2c addr community (.trap t)) ∧
      (outcome.Valid → (listener.serve ber crypto addr datagram outcome env).2 = .ok none) := by
  have hprocess : listener.process (.v2c (noticeMsg community id (.trap t)))
      (senderDatagram addr datagram outcome env) =
      (Processed.trap (SenderCall.seenV2c addr community (.trap t)) outcome).map (fun call => call)
        (Except.map (Option.map .v2c)) := by
    simp only [TrapListener.process, TrapListener.processV2cReqMsg, noticeMsg, SenderCall.type, hcb,
      not_true, if_false]
    rfl
  rw [serve_eq (h.decode _ _) hprocess]
  cases outcome with
  | returns error => exact ⟨rfl, fun _ => rfl⟩
  | raises => exact ⟨rfl, fun hvalid => by cases hvalid⟩

variable (addr outcome env) in
theorem serve_inform (hcb : listener.v2cInformCb)
    (h : IsNotice ber crypto community id (.inform i) waits datagram) :
    (listener.serve ber crypto addr datagram outcome env).1 =
        some (SenderCall.seenV2c addr community (.inform i)) ∧
      ∀ error, outcome = .returns error →
        (listener.serve ber crypto addr datagram outcome env).2 =
          (encode ber crypto env.salt (.v2c (replyMsg community id error i.data)) none none).map
            some := by
  have hprocess : listener.process (.v2c (noticeMsg community id (.inform i)))
      (senderDatagram addr datagram outcome env) =
      (Processed.inform (SenderCall.seenV2c addr community (.inform i)) outcome fun error =>
        replyMsg community id (some error) i.data).map (fun call => call)
        (Except.map (Option.map .v2c)) := by
    simp only [TrapListener.process, TrapListener.processV2cReqMsg, noticeMsg, SenderCall.type, hcb,
      not_true, if_false]
    rfl
  rw [serve_eq (h.decode _ _) hprocess]
  cases outcome with
  | returns error =>
    refine ⟨rfl, ?_⟩
    rintro _ ⟨⟩
    rfl
  | raises => exact ⟨rfl, fun _ heq => by cases heq⟩

theorem wellFormed_replyMsg {error : Option Error} {data : List Data}
    (h : ∀ item ∈ data, item.Supports .V2C) :
    (Msg.v2c (replyMsg community id error data)).WellFormed where
  kind := ⟨nofun, nofun⟩
  data := h

theorem accept_reply {sender : TrapSender} (hsender : sender.community = community)
    (h : IsReply ber crypto community id waits outcome datagram) {lookup : ℕ → Option Bool}
    (hlookup : lookup id = some waits) :
    sender.accept ber crypto lookup datagram = some (id, outcome.error) := by
  obtain ⟨rfl, error, data, rfl, hdecode⟩ := h
  simp only [TrapSender.accept, hdecode]
  rw [if_neg fun h => h rfl, if_neg fun h => h hsender.symm]
  simp only [replyMsg, idOf, Option.bind_eq_bind, Option.bind_some, hlookup, guard_true,
    informResult_getD]
  rfl

/-- What the listener does with the datagram of a call. -/
theorem serve_notice (hber : ber.Lawful) (htrap : listener.v2cTrapCb)
    (hinform : listener.v2cInformCb) {call : SenderCall}
    (h : IsNotice ber crypto community id call waits datagram) :
    (listener.serve ber crypto addr datagram outcome env).1 = some (call.seenV2c addr community) ∧
      (outcome.Valid → Answers (IsReply ber crypto community id waits outcome) call.Silent
        (fun failure => failure = .asn1)
        (listener.serve ber crypto addr datagram outcome env).2) := by
  cases call with
  | trap t =>
    obtain ⟨hseen, hnone⟩ := serve_trap addr outcome env htrap h
    refine ⟨hseen, fun hvalid => ?_⟩
    rw [hnone hvalid]
    exact .silent rfl
  | inform i =>
    obtain ⟨hseen, hreply⟩ := serve_inform addr outcome env hinform h
    refine ⟨hseen, fun hvalid => ?_⟩
    cases outcome with
    | raises => exact hvalid.elim
    | returns error =>
      rw [hreply error rfl]
      cases hencode : encode ber crypto env.salt (.v2c (replyMsg community id error i.data)) none
          none with
      | ok reply =>
        refine .reply ⟨h.waits, error, i.data, rfl, fun authKeyCb privKeyCb => ?_⟩
        obtain ⟨bs, hbs, hdecode⟩ | herror := encode_v2c_spec crypto hber env.salt
          (wellFormed_of_encode hencode) none none authKeyCb privKeyCb
        · cases hencode.symm.trans hbs
          exact hdecode
        · exact absurd (hencode.symm.trans herror) nofun
      | error e =>
        obtain ⟨bs, hbs, -⟩ | herror := encode_v2c_spec crypto hber env.salt
          (wellFormed_replyMsg h.supports) none none none none
        · exact absurd (hencode.symm.trans hbs) nofun
        · cases hencode.symm.trans herror
          exact .refused rfl

theorem send_isNotice (hber : ber.Lawful) {sender : TrapSender}
    (hsender : sender.community = community) {call : SenderCall}
    (hsend : (sender.send ber crypto call env).2 = .ok (waits, datagram)) :
    IsNotice ber crypto community sender.nextRequestId call waits datagram := by
  simp only [TrapSender.send] at hsend
  cases hencode : encode ber crypto env.salt (.v2c (sender.message call)) none none with
  | error e => simp [hencode, Except.map] at hsend
  | ok bs =>
    rw [hencode] at hsend
    cases hsend
    have hmsg := wellFormed_of_encode hencode
    refine ⟨rfl, fun authKeyCb privKeyCb => ?_, SenderCall.supports_of_data hmsg.data⟩
    obtain ⟨bs', hbs', hdecode⟩ | herror :=
      encode_v2c_spec crypto hber env.salt hmsg none none authKeyCb privKeyCb
    · cases hencode.symm.trans hbs'
      rw [hdecode, TrapSender.message, hsender]
      rfl
    · exact absurd (hencode.symm.trans herror) nofun

/-- A sender of version 2c and a listener with its callbacks fit together. -/
theorem matches_notification (hber : ber.Lawful) (htrap : listener.v2cTrapCb)
    (hinform : listener.v2cInformCb) (addr : Address) (community : String) :
    (notification ber crypto listener addr).Matches (fun sender => sender.community = community)
      (fun _ _ => True) (IsNotice ber crypto community)
      (fun id _ => IsReply ber crypto community id)
      (fun call => some (call.seenV2c addr community)) SenderCall.result NotifyOutcome.Valid
      SenderCall.Silent (fun failure => failure = .asn1) where
  send_inv _ _ _ h := h
  send_fits _ _ _ _ _ _ := trivial
  send_next _ _ _ := Nat.le_succ _
  send_ok _ _ _ _ _ h hsend :=
    ⟨Nat.lt_succ_self _, trivial, send_isNotice hber h hsend⟩
  serve_seen _ _ _ _ _ _ h := (serve_notice hber htrap hinform h).1
  serve_answers _ _ _ _ _ _ h hvalid :=
    (serve_notice hber htrap hinform h).2 hvalid
  accept_ok _ _ _ _ _ _ _ h _ hreply hlookup :=
    accept_reply h hreply hlookup
  accept_inv _ _ _ _ _ _ _ h _ _ _ := h
  accept_fits _ _ _ _ _ _ := trivial
  accept_next _ _ _ := rfl

end V2c

/-! ### Version 3 -/

namespace V3

/-- The keys of a user are those that the listener makes. -/
structure Known (crypto : Crypto) (listener : TrapListener) (engineId : EngineId) (user : User)
    (authKey privKey : Option Key) : Prop extends
    UserKeys crypto engineId user authKey privKey where
  trapCb : listener.v3TrapCb
  informCb : listener.v3InformCb
  known : listener.users user.name = some user

section

variable (ber : Ber) (crypto : Crypto)
variable (engineId : EngineId) (context : Context) (user : User) (authKey privKey : Option Key)

/-- The message of a call. -/
def noticeMsg (time : ℤ) (id : ℕ) (call : SenderCall) : Msg where
  type := call.type
  id := id
  reportable := false
  auth := authKey.isSome
  priv := privKey.isSome
  authorativeEngine := { id := engineId, boots := 0, time := time }
  user := user.name
  context := context
  pdu := call.pdu id

/-- The datagram of a call is read as its message, which is kept if there is to be a response. -/
structure IsNotice (listener : TrapListener) (id : ℕ) (call : SenderCall) (saved : Option Msg)
    (datagram : Bytes) : Prop where
  message : ∃ time, saved = (if call.isInform then
      some (noticeMsg engineId context user authKey privKey time id call) else none) ∧
    decode ber crypto datagram (some (listener.onAuthKey crypto))
      (some (listener.onPrivKey crypto)) =
      .ok (.v3 (noticeMsg engineId context user authKey privKey time id call))
  supports : call.Supports .V2C

/-- The datagram of a response is read as its message, with the error of the callback. -/
structure IsReply (id : ℕ) (saved : Option Msg) (outcome : NotifyOutcome) (datagram : Bytes) :
    Prop where
  message : ∃ time i error, outcome = .returns error ∧
    saved = some (noticeMsg engineId context user authKey privKey time id (.inform i)) ∧
    ∀ authKeyCb privKeyCb,
      Returns (noticeMsg engineId context user authKey privKey time id (.inform i)) authKey privKey
        authKeyCb privKeyCb →
      decode ber crypto datagram (some authKeyCb) (some privKeyCb) =
        .ok (.v3 (TrapListener.responseV3
          (noticeMsg engineId context user authKey privKey time id (.inform i))
          (error.getD ⟨.NO_ERROR, 0⟩)))

/-- The sender has the keys of the user and a context. -/
structure SenderInv (sender : TrapSender) : Prop where
  sameEngine : sender.authoritativeEngineId = engineId
  sameContext : sender.context = some context
  sameUser : sender.user = user
  sameAuth : sender.authKey = authKey
  samePriv : sender.privKey = privKey

end

variable {listener : TrapListener} {engineId : EngineId} {context : Context} {user : User}
  {authKey privKey : Option Key} {addr : Address} {outcome : NotifyOutcome} {env : Env}
  {id : ℕ} {call : SenderCall} {saved : Option Msg} {datagram : Bytes} {sender : TrapSender}

open TrapListener (senderDatagram serve_eq Processed responseV3)

theorem Known.onAuthKey (h : Known crypto listener engineId user authKey privKey) :
    listener.onAuthKey crypto engineId user.name = .ok authKey := by
  rw [TrapListener.onAuthKey, h.known]
  exact h.userAuth

theorem Known.onPrivKey (h : Known crypto listener engineId user authKey privKey) :
    listener.onPrivKey crypto engineId user.name = .ok privKey := by
  rw [TrapListener.onPrivKey, h.known]
  exact h.userPriv

/-- The listener encodes a response with the keys of the user. -/
theorem encodeResponse_responseV3 (h : Known crypto listener engineId user authKey privKey)
    (time : ℤ) (error : Error) (salt : Salt) :
    listener.encodeResponse ber crypto
      (.v3 (responseV3 (noticeMsg engineId context user authKey privKey time id call) error)) salt =
      encode ber crypto salt
        (.v3 (responseV3 (noticeMsg engineId context user authKey privKey time id call) error))
        authKey privKey := by
  have hauth : (if authKey.isSome then listener.onAuthKey crypto engineId user.name
      else .ok none) = .ok authKey := by
    cases authKey with
    | none => rfl
    | some key => exact h.onAuthKey
  have hpriv : (if privKey.isSome then listener.onPrivKey crypto engineId user.name
      else .ok none) = .ok privKey := by
    cases privKey with
    | none => rfl
    | some key => exact h.onPrivKey
  exact bind_eq_of_eq_ok hauth (bind_eq_of_eq_ok hpriv rfl)

/-- What the listener does with the datagram of a call. -/
theorem serve_notice (hber : ber.Lawful) (hcrypto : crypto.Lawful)
    (hknown : Known crypto listener engineId user authKey privKey)
    (h : IsNotice ber crypto engineId context user authKey privKey listener id call saved
      datagram) :
    (listener.serve ber crypto addr datagram outcome env).1 =
        some (call.seenV3 addr user.name context) ∧
      (outcome.Valid →
        Answers (IsReply ber crypto engineId context user authKey privKey id saved outcome)
          call.Silent (fun failure => failure = .asn1)
          (listener.serve ber crypto addr datagram outcome env).2) := by
  obtain ⟨⟨time, hsaved, hdecode⟩, hsupports⟩ := h
  cases call with
  | trap t =>
    have hprocess : listener.process
        (.v3 (noticeMsg engineId context user authKey privKey time id (.trap t)))
        (senderDatagram addr datagram outcome env) =
        (Processed.trap (SenderCall.seenV3 addr user.name context (.trap t)) outcome).map
          (fun call => call) (Except.map (Option.map .v3)) := by
      simp only [TrapListener.process, TrapListener.processV3ReqMsg, noticeMsg, SenderCall.type,
        hknown.trapCb, not_true, if_false]
      rfl
    rw [serve_eq hdecode hprocess]
    cases outcome with
    | returns error => exact ⟨rfl, fun _ => .silent rfl⟩
    | raises => exact ⟨rfl, fun hvalid => by cases hvalid⟩
  | inform i =>
    have hprocess : listener.process
        (.v3 (noticeMsg engineId context user authKey privKey time id (.inform i)))
        (senderDatagram addr datagram outcome env) =
        (Processed.inform (SenderCall.seenV3 addr user.name context (.inform i)) outcome
          (responseV3 (noticeMsg engineId context user authKey privKey time id (.inform i)))).map
          (fun call => call) (Except.map (Option.map .v3)) := by
      simp only [TrapListener.process, TrapListener.processV3ReqMsg, noticeMsg, SenderCall.type,
        hknown.informCb, not_true, if_false]
      rfl
    rw [serve_eq hdecode hprocess]
    cases outcome with
    | raises => exact ⟨rfl, fun hvalid => by cases hvalid⟩
    | returns error =>
      refine ⟨rfl, fun _ => ?_⟩
      show Answers _ _ _ ((listener.encodeResponse ber crypto (.v3 (responseV3
        (noticeMsg engineId context user authKey privKey time id (.inform i))
        (error.getD ⟨.NO_ERROR, 0⟩))) env.salt).map some)
      rw [encodeResponse_responseV3 hknown]
      have hkeyed : Keyed (responseV3
          (noticeMsg engineId context user authKey privKey time id (.inform i))
          (error.getD ⟨.NO_ERROR, 0⟩)) authKey privKey := hknown.keyed rfl rfl
      have hwellFormed : V2c.WellFormed Asn1.V2c.MsgType.RESPONSE
          (.basic ⟨id, error.getD ⟨.NO_ERROR, 0⟩, i.data⟩) :=
        ⟨⟨fun htype => (by cases htype), fun hdata => (by cases hdata)⟩, hsupports⟩
      obtain ⟨bs, hbs, hdecode'⟩ | herror :=
        encode_v3_spec hber hcrypto env.salt hwellFormed hkeyed
      · rw [hbs]
        exact .reply ⟨time, i, error, rfl, hsaved, fun authKeyCb privKeyCb hreturns =>
          hdecode' _ _ ⟨hreturns.auth, hreturns.priv⟩⟩
      · rw [herror]
        exact .refused rfl

theorem SenderInv.onAuthKey (h : SenderInv engineId context user authKey privKey sender) :
    sender.onAuthKey engineId user.name = .ok authKey := by
  rw [TrapSender.onAuthKey, h.sameEngine, h.sameUser, h.sameAuth, if_neg (by simp)]

theorem SenderInv.onPrivKey (h : SenderInv engineId context user authKey privKey sender) :
    sender.onPrivKey engineId user.name = .ok privKey := by
  rw [TrapSender.onPrivKey, h.sameEngine, h.sameUser, h.samePriv, if_neg (by simp)]

theorem resultOf_responseV3 (msg : Msg) (error : Error) :
    TrapSender.resultOf (responseV3 msg error) msg = some (informResult error) := by
  rw [TrapSender.resultOf, if_neg fun h => h rfl, if_neg fun h => h rfl, if_neg fun h => h rfl]
  rfl

theorem accept_reply (hsender : SenderInv engineId context user authKey privKey sender)
    (h : IsReply ber crypto engineId context user authKey privKey id saved outcome datagram)
    {lookup : ℕ → Option (Option Msg)} (hlookup : lookup id = some saved) :
    sender.accept ber crypto lookup datagram = some (id, outcome.error) := by
  obtain ⟨time, i, error, rfl, rfl, hdecode⟩ := h
  simp only [TrapSender.accept,
    hdecode _ _ ⟨fun _ => hsender.onAuthKey, fun _ => hsender.onPrivKey⟩]
  rw [if_neg fun h => h rfl]
  have hid : (responseV3 (noticeMsg engineId context user authKey privKey time id (.inform i))
      (error.getD ⟨.NO_ERROR, 0⟩)).id = (id : ℤ) := rfl
  simp only [hid, idOf, Option.bind_eq_bind, Option.bind_some, hlookup, Option.join_some,
    resultOf_responseV3, informResult_getD]
  rfl

theorem send_isNotice (hber : ber.Lawful) (hcrypto : crypto.Lawful)
    (hknown : Known crypto listener engineId user authKey privKey)
    (hsender : SenderInv engineId context user authKey privKey sender)
    (hsend : (sender.send ber crypto call env).2 = .ok (saved, datagram)) :
    IsNotice ber crypto engineId context user authKey privKey listener sender.nextRequestId call
      saved datagram := by
  simp only [TrapSender.send, hsender.sameContext, TrapSender.message, hsender.sameEngine,
    hsender.sameUser, hsender.sameAuth, hsender.samePriv] at hsend
  cases hencode : encode ber crypto env.salt (.v3 (noticeMsg engineId context user authKey privKey
      env.time sender.nextRequestId call)) authKey privKey with
  | error e =>
    rw [noticeMsg] at hencode
    rw [hencode] at hsend
    cases hsend
  | ok bs =>
    have hmsg := wellFormed_of_encode hencode
    have hkeyed : Keyed (noticeMsg engineId context user authKey privKey env.time
        sender.nextRequestId call) authKey privKey := hknown.keyed rfl rfl
    have hdecode : decode ber crypto bs (some (listener.onAuthKey crypto))
        (some (listener.onPrivKey crypto)) = .ok (.v3 (noticeMsg engineId context user authKey
          privKey env.time sender.nextRequestId call)) := by
      obtain ⟨bs', hbs', hdecode⟩ | herror := encode_v3_spec hber hcrypto env.salt hmsg hkeyed
      · cases hencode.symm.trans hbs'
        exact hdecode _ _ ⟨fun _ => hknown.onAuthKey, fun _ => hknown.onPrivKey⟩
      · exact absurd (hencode.symm.trans herror) nofun
    rw [noticeMsg] at hencode
    rw [hencode] at hsend
    cases hsend
    exact ⟨⟨env.time, rfl, hdecode⟩, SenderCall.supports_of_data hmsg.data⟩

/-- A sender and a listener that know the same user fit together. -/
theorem matches_notification (hber : ber.Lawful) (hcrypto : crypto.Lawful)
    (hknown : Known crypto listener engineId user authKey privKey) (context : Context)
    (addr : Address) :
    (notification ber crypto listener addr).Matches
      (SenderInv engineId context user authKey privKey) (fun _ _ => True)
      (IsNotice ber crypto engineId context user authKey privKey listener)
      (fun id _ => IsReply ber crypto engineId context user authKey privKey id)
      (fun call => some (call.seenV3 addr user.name context)) SenderCall.result
      NotifyOutcome.Valid SenderCall.Silent (fun failure => failure = .asn1) where
  send_inv _ _ _ h := ⟨h.1, h.2, h.3, h.4, h.5⟩
  send_fits _ _ _ _ _ _ := trivial
  send_next _ _ _ := Nat.le_succ _
  send_ok _ _ _ _ _ h hsend :=
    ⟨Nat.lt_succ_self _, trivial, send_isNotice hber hcrypto hknown h hsend⟩
  serve_seen _ _ _ _ _ _ h := (serve_notice hber hcrypto hknown h).1
  serve_answers _ _ _ _ _ _ h hvalid := (serve_notice hber hcrypto hknown h).2 hvalid
  accept_ok _ _ _ _ _ _ _ h _ hreply hlookup := accept_reply h hreply hlookup
  accept_inv _ _ _ _ _ _ _ h _ _ _ := h
  accept_fits _ _ _ _ _ _ := trivial
  accept_next _ _ _ := rfl

end V3

/-! ### Calls of a version are sent -/

theorem V2c.TrapSender.send_error (hber : ber.Lawful) {sender : V2c.TrapSender}
    {call : SenderCall} {env : Env} {e : Failure} (hcall : call.Supports .V2C)
    (h : (sender.send ber crypto call env).2 = .error e) : e = .asn1 := by
  simp only [send] at h
  obtain ⟨bs, hbs, -⟩ | herror := encode_v2c_spec crypto hber env.salt
    (show (Msg.v2c (sender.message call)).WellFormed from
      SenderCall.wellFormed_pdu hcall sender.nextRequestId) none none none none
  · rw [hbs] at h
    cases h
  · rw [herror] at h
    cases h
    rfl

/-- A sender with a context sends the calls of the version. -/
theorem V3.TrapSender.send_error (hber : ber.Lawful) (hcrypto : crypto.Lawful)
    {engineId : EngineId} {context : Context} {user : User} {authKey privKey : Option Key}
    (hkeys : V3.UserKeys crypto engineId user authKey privKey) {sender : V3.TrapSender}
    (hsender : V3.SenderInv engineId context user authKey privKey sender) {call : SenderCall}
    {env : Env} {e : Failure} (hcall : call.Supports .V3)
    (h : (sender.send ber crypto call env).2 = .error e) : e = .asn1 := by
  simp only [send, hsender.sameContext] at h
  have hkeyed : V3.Keyed (sender.message call context env.time) sender.authKey sender.privKey := by
    rw [hsender.sameAuth, hsender.samePriv]
    apply hkeys.keyed
    · exact congrArg Option.isSome hsender.sameAuth
    · exact congrArg Option.isSome hsender.samePriv
  obtain ⟨bs, hbs, -⟩ | herror := encode_v3_spec hber hcrypto env.salt
    (show V2c.WellFormed (sender.message call context env.time).type
      (sender.message call context env.time).pdu from
      SenderCall.wellFormed_pdu (SenderCall.supports_of_V3 hcall) sender.nextRequestId) hkeyed
  · rw [hbs] at h
    cases h
  · rw [herror] at h
    cases h
    rfl

/-- A sender without a context sends nothing. -/
theorem V3.TrapSender.send_defaultContext {sender : V3.TrapSender} (h : sender.context = none)
    (call : SenderCall) (env : Env) :
    (sender.send ber crypto call env).2 = .error .attributeError := by
  rw [send, h]

/-- In a run the sender keeps its context. -/
theorem V3.context_run {listener : TrapListener} {addr : Address} {sender : V3.TrapSender}
    {events : List (Event SenderCall NotifyOutcome Env)}
    {s : State V3.TrapSender SenderCall (Option V3.Msg) NotifyOutcome NotifyCall (Option Error)
      Bytes Failure}
    (h : run (V3.notification ber crypto listener addr).step (State.init sender) events = some s) :
    s.requester.context = sender.context :=
  Exchange.requester_run (fun sender' => sender'.context = sender.context)
    (fun _ _ _ hsender => hsender) (fun _ _ _ hsender => hsender) rfl h

/-! ### End to end -/

variable (ber) in
/-- Senders and a listener agree: in every run the callbacks of the listener are called with the
trap or the inform that the sender was told to send, with the community, or the user and the
context, and `send_inform` returns the error that the callback returned; data of the version are
sent unless the ASN.1 encoder raises.  For version 3 that is so iff the sender was given a context.
-/
theorem senders_agree_iff (hber : ber.Lawful) (hcrypto : crypto.Lawful) (addr : Address) :
    (∀ listener community events s, listener.v2cTrapCb → listener.v2cInformCb →
      (∀ event ∈ events, event.Valid NotifyOutcome.Valid) →
      run (V2c.notification ber crypto listener addr).step
        (State.init (V2c.TrapSender.init community)) events = some s →
      Agrees (fun call => some (call.seenV2c addr community)) SenderCall.result SenderCall.Silent
          (fun e => e = .asn1) s ∧
        ∀ call env e, SenderCall.Supports .V2C call →
          (s.requester.send ber crypto call env).2 = .error e → e = .asn1) ∧
    ∀ v1TrapCb v2cTrapCb v2cInformCb users listener engineId context user sender events s,
      findUser users user.name = some user →
      TrapListener.create v1TrapCb v2cTrapCb v2cInformCb true true users = .ok listener →
      V3.TrapSender.create crypto engineId context user = .ok sender →
      (∀ event ∈ events, event.Valid NotifyOutcome.Valid) →
      run (V3.notification ber crypto listener addr).step (State.init sender) events = some s →
      ((Agrees (fun call => some (call.seenV3 addr user.name (context.getD ⟨engineId, ""⟩)))
          SenderCall.result SenderCall.Silent (fun e => e = .asn1) s ∧
        ∀ call env e, SenderCall.Supports .V3 call →
          (s.requester.send ber crypto call env).2 = .error e → e = .asn1) ↔ context.isSome) := by
  refine ⟨?_, ?_⟩
  · intro listener community events s htrap hinform hvalid hrun
    obtain ⟨hagrees, -⟩ := Exchange.run_agrees
      (V2c.matches_notification hber htrap hinform addr community) rfl hvalid hrun
    exact ⟨hagrees, fun call env e hcall h => V2c.TrapSender.send_error hber hcall h⟩
  · intro v1TrapCb v2cTrapCb v2cInformCb users listener engineId context user sender events s huser
      hlistener hsender hvalid hrun
    obtain ⟨_, huserValid, hsender⟩ := bind_eq_ok.mp hsender
    obtain ⟨authKey, hauth, hsender⟩ := bind_eq_ok.mp hsender
    obtain ⟨privKey, hpriv, hsender⟩ := bind_eq_ok.mp hsender
    cases hsender
    have hkeys := V3.userKeys_of_valid hcrypto huserValid hauth hpriv
    have hknown : V3.Known crypto listener engineId user authKey privKey := by
      obtain ⟨htrap, hinform⟩ := TrapListener.callbacks_create hlistener
      exact ⟨hkeys, htrap, hinform, (TrapListener.users_create hlistener _).trans huser⟩
    cases context with
    | none =>
      have hcontext := V3.context_run hrun
      refine ⟨fun hagrees => ?_, nofun⟩
      have he := hagrees.2 (.inform ⟨[]⟩) ⟨0, ⟨List.replicate 8 0, rfl⟩⟩ .attributeError
        (fun _ hitem => absurd hitem List.not_mem_nil)
        (V3.TrapSender.send_defaultContext hcontext _ _)
      cases he
    | some context =>
      have hinv : V3.SenderInv engineId context user authKey privKey
          ⟨engineId, some context, user, 1, authKey, privKey⟩ := ⟨rfl, rfl, rfl, rfl, rfl⟩
      obtain ⟨hagrees, hinv⟩ := Exchange.run_agrees
        (V3.matches_notification hber hcrypto hknown context addr) hinv hvalid hrun
      exact ⟨fun _ => rfl, fun _ => ⟨hagrees, fun call env e hcall h =>
        V3.TrapSender.send_error hber hcrypto hkeys hinv hcall h⟩⟩

/-! ### A sender with the default context, and an inform -/

def publicUser : User := ⟨"public", none, none, none, none⟩

/-- A sender with the default context and user does not send a trap. -/
theorem send_defaultContext_sample : ∃ sender listener,
    V3.TrapSender.create sampleCrypto sampleEngine none publicUser = .ok sender ∧
    TrapListener.create false false false true true [publicUser] = .ok listener ∧
    findUser [publicUser] publicUser.name = some publicUser ∧
    SenderCall.Supports .V3 (.trap ⟨none, [1, 3, 6, 1], 0, []⟩) ∧
    (sender.send sampleBer sampleCrypto (.trap ⟨none, [1, 3, 6, 1], 0, []⟩) ⟨0, sampleSalt⟩).2 =
      .error .attributeError := by
  refine ⟨⟨sampleEngine, none, publicUser, 1, none, none⟩, _, rfl, rfl, rfl, ?_, rfl⟩
  exact fun _ hitem => absurd hitem List.not_mem_nil

def communityListener : TrapListener := ⟨false, true, true, false, false, fun _ => none⟩

/-- An inform for which the callback returns. -/
def informEvents : List (Event SenderCall NotifyOutcome Env) :=
  [.send (.inform ⟨[]⟩) ⟨0, sampleSalt⟩, .serve 0 (.returns none) ⟨0, sampleSalt⟩, .deliver 0]

theorem senders_agree_iff_sample : ∃ s,
    run (V2c.notification communityBer sampleCrypto communityListener ⟨"127.0.0.1", 162⟩).step
      (State.init (V2c.TrapSender.init "a")) informEvents = some s ∧
    s.calls.map (fun call => call.result) = [some none] ∧
    Agrees (fun call => some (call.seenV2c ⟨"127.0.0.1", 162⟩ "a")) SenderCall.result
      SenderCall.Silent (fun e => e = .asn1) s := by
  have hresults : (run (V2c.notification communityBer sampleCrypto communityListener
      ⟨"127.0.0.1", 162⟩).step (State.init (V2c.TrapSender.init "a")) informEvents).map
      (fun s => s.calls.map fun call => call.result) = some [some none] := by
    decide +kernel
  obtain ⟨s, hs, hresults⟩ := Option.map_eq_some_iff.mp hresults
  have hvalid : ∀ event ∈ informEvents, event.Valid NotifyOutcome.Valid := by
    simp [informEvents, Event.Valid, NotifyOutcome.Valid]
  exact ⟨s, hs, hresults, ((senders_agree_iff communityBer communityBer_lawful
    sampleCrypto_lawful ⟨"127.0.0.1", 162⟩).1 communityListener "a" informEvents s rfl rfl hvalid
    hs).1⟩

end HatDrivers.Snmp
