import HatDrivers.Snmp.Access
import HatDrivers.Snmp.Trap.Listener
import Mathlib.Data.List.Induction

namespace HatDrivers.Snmp.TrapListener

open HatDrivers.Lib
open Asn1 (Ber)
open Asn1.V3 (ScopedPDU SNMPv3Message UsmSecurityParameters)
open V3 (ReadAs Secure IsAuthKey IsPrivKey)

/-!
# SNMP driver — access control of trap listeners

A message with flags went through the checks that the flags stand for.  The listener does not
compare the flags with those of the user it is from, nor does it look the user up: a message
without flags is passed to a callback whoever it names.
-/

variable {ber : Ber} {crypto : Crypto}

/-! ### Users -/

theorem users_create {v1TrapCb v2cTrapCb v2cInformCb v3TrapCb v3InformCb : Bool}
    {users : List User} {listener : TrapListener}
    (h : create v1TrapCb v2cTrapCb v2cInformCb v3TrapCb v3InformCb users = .ok listener) :
    ∀ name, listener.users name = findUser users name := by
  induction users using List.reverseRecOn generalizing listener with
  | nil =>
    cases h
    exact fun _ => rfl
  | append_singleton users user ih =>
    rw [create, List.foldlM_append] at h
    obtain ⟨listener', hlistener', h⟩ := bind_eq_ok.mp h
    rw [List.foldlM_cons] at h
    obtain ⟨listener'', hlistener'', h⟩ := bind_eq_ok.mp h
    cases h
    obtain ⟨_, -, hadd⟩ := bind_eq_ok.mp hlistener''
    cases hadd
    intro name
    rw [findUser_concat]
    by_cases hname : user.name = name
    · subst hname
      rw [if_pos rfl]
      exact Function.update_self ..
    · rw [if_neg hname, ← ih hlistener' name]
      exact Function.update_of_ne (Ne.symm hname) ..

theorem callbacks_create {v1TrapCb v2cTrapCb v2cInformCb v3TrapCb v3InformCb : Bool}
    {users : List User} {listener : TrapListener}
    (h : create v1TrapCb v2cTrapCb v2cInformCb v3TrapCb v3InformCb users = .ok listener) :
    listener.v3TrapCb = v3TrapCb ∧ listener.v3InformCb = v3InformCb := by
  induction users using List.reverseRecOn generalizing listener with
  | nil =>
    cases h
    exact ⟨rfl, rfl⟩
  | append_singleton users user ih =>
    rw [create, List.foldlM_append] at h
    obtain ⟨listener', hlistener', h⟩ := bind_eq_ok.mp h
    rw [List.foldlM_cons] at h
    obtain ⟨listener'', hlistener'', h⟩ := bind_eq_ok.mp h
    cases h
    obtain ⟨_, -, hadd⟩ := bind_eq_ok.mp hlistener''
    cases hadd
    have hcallbacks := ih hlistener'
    exact hcallbacks

/-- The keys that the callbacks return are those of the user of the name. -/
theorem onAuthKey_eq_ok {listener : TrapListener} {engineId : EngineId} {name : String} {key : Key}
    (h : listener.onAuthKey crypto engineId name = .ok (some key)) :
    ∃ user, listener.users name = some user ∧ IsAuthKey crypto user engineId key := by
  unfold onAuthKey at h
  cases huser : listener.users name with
  | none => simp [huser] at h
  | some user =>
    simp only [huser] at h
    obtain ⟨_, htype, hkey⟩ := userKey_eq_ok_some h
    obtain ⟨t, ht, rfl⟩ := Option.map_eq_some_iff.mp htype
    exact ⟨user, rfl, t, ht, hkey⟩

theorem onPrivKey_eq_ok {listener : TrapListener} {engineId : EngineId} {name : String} {key : Key}
    (h : listener.onPrivKey crypto engineId name = .ok (some key)) :
    ∃ user, listener.users name = some user ∧ IsPrivKey crypto user engineId key := by
  unfold onPrivKey at h
  cases huser : listener.users name with
  | none => simp [huser] at h
  | some user =>
    simp only [huser] at h
    obtain ⟨_, htype, hkey⟩ := userKey_eq_ok_some h
    obtain ⟨t, ht, rfl⟩ := Option.map_eq_some_iff.mp htype
    exact ⟨user, rfl, t, ht, hkey⟩

/-! ### Calls -/

/-- A call of a callback of version 3. -/
def isV3 : NotifyCall → Bool
  | .v3Trap .. | .v3Inform .. => true
  | _ => false

/-- The call for a message of version 3. -/
def IsCall (msg : V3.Msg) (addr : Address) (call : NotifyCall) : Prop :=
  (∃ trap, trapOf msg.pdu.data = .ok trap ∧ call = .v3Trap addr msg.user msg.context trap) ∨
    call = .v3Inform addr msg.user msg.context ⟨msg.pdu.data⟩

/-- A callback is there for the message. -/
def Notifies (listener : TrapListener) (msg : V3.Msg) : Prop :=
  (msg.type = .SNMPV2_TRAP ∧ listener.v3TrapCb ∧ ∃ trap, trapOf msg.pdu.data = .ok trap) ∨
    (msg.type = .INFORM_REQUEST ∧ listener.v3InformCb)

/-- The callbacks of version 3 are called for messages that there is a callback for. -/
theorem processV3ReqMsg_call {listener : TrapListener} {msg : V3.Msg} {dgram : Notification}
    {call : NotifyCall} (h : (listener.processV3ReqMsg msg dgram).1 = some call) :
    listener.Notifies msg ∧ IsCall msg dgram.addr call := by
  unfold processV3ReqMsg at h
  cases htype : msg.type with
  | SNMPV2_TRAP =>
    simp only [htype] at h
    by_cases hcb : listener.v3TrapCb
    · rw [if_neg (not_not.mpr hcb)] at h
      cases htrap : trapOf msg.pdu.data with
      | error e => simp [htrap, Processed.raise] at h
      | ok trap =>
        simp only [htrap, Processed.trap, Option.some.injEq] at h
        exact ⟨.inl ⟨htype, hcb, trap, htrap⟩, .inl ⟨trap, htrap, h.symm⟩⟩
    · rw [if_pos hcb] at h
      cases h
  | INFORM_REQUEST =>
    simp only [htype] at h
    by_cases hcb : listener.v3InformCb
    · rw [if_neg (not_not.mpr hcb)] at h
      simp only [Processed.inform, Option.some.injEq] at h
      exact ⟨.inr ⟨htype, hcb⟩, .inr h.symm⟩
    · rw [if_pos hcb] at h
      cases h
  | _ => simp [htype, Processed.raise] at h

/-- For a message that there is a callback for, it is called. -/
theorem exists_call {listener : TrapListener} {msg : V3.Msg} (h : listener.Notifies msg)
    (dgram : Notification) :
    ∃ call, (listener.processV3ReqMsg msg dgram).1 = some call ∧ isV3 call := by
  rcases h with ⟨htype, hcb, trap, htrap⟩ | ⟨htype, hcb⟩
  · refine ⟨.v3Trap dgram.addr msg.user msg.context trap, ?_, rfl⟩
    simp [processV3ReqMsg, htype, hcb, htrap, Processed.trap]
  · refine ⟨.v3Inform dgram.addr msg.user msg.context ⟨msg.pdu.data⟩, ?_, rfl⟩
    simp [processV3ReqMsg, htype, hcb, Processed.inform]

/-- Messages of other versions are for other callbacks. -/
theorem isV3_process {listener : TrapListener} {msg : Msg} {dgram : Notification}
    {call : NotifyCall} (h : (listener.process msg dgram).1 = some call) (hcall : isV3 call) :
    ∃ msg', msg = .v3 msg' ∧ (listener.processV3ReqMsg msg' dgram).1 = some call := by
  cases msg with
  | v1 msg =>
    exfalso
    simp only [process, Prod.map_fst, id, processV1ReqMsg] at h
    cases htype : msg.type <;> cases hpdu : msg.pdu <;> by_cases hcb : listener.v1TrapCb <;>
      simp [htype, hpdu, hcb, Processed.raise, Processed.trap] at h
    subst h
    cases hcall
  | v2c msg =>
    exfalso
    simp only [process, Prod.map_fst, id, processV2cReqMsg] at h
    cases htype : msg.type with
    | SNMPV2_TRAP =>
      by_cases hcb : listener.v2cTrapCb <;> cases htrap : trapOf msg.pdu.data <;>
        simp [htype, hcb, htrap, Processed.raise, Processed.trap] at h
      subst h
      cases hcall
    | INFORM_REQUEST =>
      by_cases hcb : listener.v2cInformCb <;>
        simp [htype, hcb, Processed.raise, Processed.inform] at h
      subst h
      cases hcall
    | _ => simp [htype, Processed.raise] at h
  | v3 msg => exact ⟨msg, rfl, h⟩

/-! ### Authorization -/

/-- The call was made for a message of its user that is secure. -/
structure Authorized (ber : Ber) (crypto : Crypto) (users : List User) (dgram : Notification)
    (call : NotifyCall) (user : User) (msg : V3.Msg) : Prop where
  message : ∃ value params pdu, ReadAs ber dgram.bytes value params pdu msg ∧
    Secure ber crypto user value params pdu msg
  user : findUser users msg.user = some user
  call : IsCall msg dgram.addr call

/-- The message is from a configured user and has the flags of the user. -/
def Meets (users : List User) (msg : V3.Msg) : Prop :=
  ∃ user, findUser users msg.user = some user ∧
    (user.authType.isSome → msg.auth) ∧ (user.privType.isSome → msg.priv)

/-- The datagram is a trap or an inform that there is a callback for, and that is from nobody
known or has fewer flags than its user. -/
def Weak (ber : Ber) (crypto : Crypto) (listener : TrapListener) (users : List User)
    (dgram : Notification) : Prop :=
  ∃ msg, listener.decodeDgram ber crypto dgram = .ok (.v3 msg) ∧ listener.Notifies msg ∧
    ¬ Meets users msg

/-- What the bytes of a datagram say of the user and the flags. -/
theorem meets_of_readAs {users : List User} {bytes : Bytes} {value value' : SNMPv3Message}
    {params params' : UsmSecurityParameters} {pdu pdu' : ScopedPDU} {msg msg' : V3.Msg}
    (h : ReadAs ber bytes value params pdu msg) (h' : ReadAs ber bytes value' params' pdu' msg')
    (hmeets : Meets users msg) : Meets users msg' := by
  obtain ⟨entity, rest, hentity, hvalue⟩ := h.entity
  obtain ⟨entity', rest', hentity', hvalue'⟩ := h'.entity
  cases hentity.symm.trans hentity'
  cases hvalue.symm.trans hvalue'
  obtain ⟨rest, hparams⟩ := h.security
  obtain ⟨rest', hparams'⟩ := h'.security
  cases hparams.symm.trans hparams'
  have huser : msg.user = msg'.user := by rw [h.user, h'.user]
  have hauth : msg.auth = msg'.auth := Except.ok.inj (h.auth.symm.trans h'.auth)
  have hpriv : msg.priv = msg'.priv := Except.ok.inj (h.priv.symm.trans h'.priv)
  rwa [Meets, huser, hauth, hpriv] at hmeets

variable (ber) in
/-- In a run of a listener its callbacks of version 3 are called for secure messages of configured
users only, if and only if it receives no weak one. -/
theorem receiveLoop_authorized_iff {v1TrapCb v2cTrapCb v2cInformCb v3TrapCb v3InformCb : Bool}
    {users : List User} {listener : TrapListener}
    (h : create v1TrapCb v2cTrapCb v2cInformCb v3TrapCb v3InformCb users = .ok listener)
    (dgrams : List Notification) :
    (∀ handled ∈ listener.receiveLoop ber crypto dgrams, ∀ call, handled.call = some call →
      isV3 call → ∃ user msg, Authorized ber crypto users handled.dgram call user msg) ↔
      ∀ dgram ∈ dgrams, ¬ Weak ber crypto listener users dgram := by
  have husers := users_create h
  constructor
  · rintro hrun dgram hmem ⟨msg, hdecode, hnotifies, hweak⟩
    obtain ⟨call, hcall, hisV3⟩ := exists_call hnotifies dgram
    have hhandled : (listener.handle ber crypto dgram).call = some call := by
      simp only [handle, hdecode]
      exact hcall
    obtain ⟨user, msg', ⟨value', params', pdu', hread', hsecure⟩, huser, -⟩ :=
      hrun _ (List.mem_map_of_mem hmem) call hhandled hisV3
    obtain ⟨entity, rest, value, params, pdu, hentity, hvalue, hdecoding⟩ := decode_eq_v3 hdecode
    apply hweak
    exact meets_of_readAs hread' (hdecoding.readAs ⟨entity, rest, hentity, hvalue⟩)
      ⟨user, huser, fun hsome => (hsecure.auth hsome).1, fun hsome => (hsecure.priv hsome).1⟩
  · intro hstrong handled hmem call hcall hisV3
    obtain ⟨dgram, hdgram, rfl⟩ := List.mem_map.mp hmem
    cases hdecode : listener.decodeDgram ber crypto dgram with
    | error e => simp [handle, hdecode, Processed.raise] at hcall
    | ok reqMsg =>
      simp only [handle, hdecode] at hcall
      obtain ⟨msg, rfl, hcall⟩ := isV3_process hcall hisV3
      obtain ⟨hnotifies, hisCall⟩ := processV3ReqMsg_call hcall
      have hmeets : Meets users msg := by
        by_contra hnot
        exact hstrong dgram hdgram ⟨msg, hdecode, hnotifies, hnot⟩
      obtain ⟨user, huser, hauth, hpriv⟩ := hmeets
      obtain ⟨entity, rest, value, params, pdu, hentity, hvalue, hdecoding⟩ := decode_eq_v3 hdecode
      refine ⟨user, msg, ⟨value, params, pdu, hdecoding.readAs ⟨entity, rest, hentity, hvalue⟩,
        hdecoding.secure hauth ?_ hpriv ?_⟩, huser, hisCall⟩
      · intro key hkey
        obtain ⟨user', huser', hisKey⟩ := onAuthKey_eq_ok hkey
        rw [husers, huser] at huser'
        cases huser'
        exact hisKey
      · intro key hkey
        obtain ⟨user', huser', hisKey⟩ := onPrivKey_eq_ok hkey
        rw [husers, huser] at huser'
        cases huser'
        exact hisKey

/-! ### A user who is to be authenticated -/

def sampleListener : TrapListener where
  v1TrapCb := true
  v2cTrapCb := true
  v2cInformCb := true
  v3TrapCb := true
  v3InformCb := true
  users := Function.update (fun _ => none) "a" (some sampleUser)

theorem create_sampleListener : create true true true true true [sampleUser] =
    .ok sampleListener := by
  rw [create, List.foldlM_cons]
  refine bind_eq_ok.mpr ⟨sampleListener, ?_, rfl⟩
  rw [addUser, validateUser_eq_ok.mpr (by decide), ok_bind]
  rfl

/-- An inform, as it is received. -/
def notification (bytes : Bytes) : Notification where
  bytes := bytes
  addr := ⟨"127.0.0.1", 162⟩
  outcome := .returns none
  salt := sampleSalt

/-- The inform that names the user and has no flags. -/
def forgedInform : V3.Msg where
  type := .INFORM_REQUEST
  id := 1
  reportable := false
  auth := false
  priv := false
  authorativeEngine := ⟨sampleEngine, 0, 0⟩
  user := "a"
  context := ⟨sampleEngine, ""⟩
  pdu := .basic ⟨1, ⟨.NO_ERROR, 0⟩, []⟩

theorem not_meets_forgedInform : ¬ Meets [sampleUser] forgedInform := by
  rintro ⟨user, huser, hauth, -⟩
  cases huser
  exact absurd (hauth rfl) (by decide)

/-- The listener calls its inform callback for the user of a message without authentication. -/
theorem receiveLoop_forgedInform :
    ∃ handled ∈ sampleListener.receiveLoop sampleBer sampleCrypto
        [notification forgedInformValue.2.bytes],
      handled.call = some (.v3Inform ⟨"127.0.0.1", 162⟩ "a" ⟨sampleEngine, ""⟩ ⟨[]⟩) ∧
      ∀ call user msg,
        ¬ Authorized sampleBer sampleCrypto [sampleUser] handled.dgram call user msg := by
  refine ⟨_, List.mem_singleton.mpr rfl, by decide +kernel, ?_⟩
  rintro call user msg ⟨⟨value, params, pdu, hread, hsecure⟩, huser, -⟩
  have hdecode : sampleListener.decodeDgram sampleBer sampleCrypto
      (notification forgedInformValue.2.bytes) = .ok (.v3 forgedInform) := by decide +kernel
  obtain ⟨entity, rest, value', params', pdu', hentity, hvalue, hdecoding⟩ := decode_eq_v3 hdecode
  apply not_meets_forgedInform
  exact meets_of_readAs hread (hdecoding.readAs ⟨entity, rest, hentity, hvalue⟩)
    ⟨user, huser, fun hsome => (hsecure.auth hsome).1, fun hsome => (hsecure.priv hsome).1⟩

theorem receiveLoop_authorized_iff_sample :
    (sampleListener.receiveLoop sampleBer sampleCrypto
        [notification (sampleInformValue (sampleInformDigest.take 12)).2.bytes]).length = 1 ∧
      ∀ handled ∈ sampleListener.receiveLoop sampleBer sampleCrypto
        [notification (sampleInformValue (sampleInformDigest.take 12)).2.bytes],
      ∀ call, handled.call = some call → isV3 call →
        ∃ user msg, Authorized sampleBer sampleCrypto [sampleUser] handled.dgram call user msg := by
  refine ⟨rfl, (receiveLoop_authorized_iff sampleBer create_sampleListener _).mpr ?_⟩
  intro dgram hdgram
  rw [List.mem_singleton] at hdgram
  subst hdgram
  rintro ⟨msg, hdecode, -, hnot⟩
  obtain ⟨entity, rest, value, params, pdu, hentity, hvalue, hdecoding⟩ := decode_eq_v3 hdecode
  obtain ⟨rest', hparams⟩ := hdecoding.security
  have hread : ((sampleBer.decodeEntity (notification
      (sampleInformValue (sampleInformDigest.take 12)).2.bytes).bytes).bind fun read =>
        sampleBer.decodeV3 read.1) = some (sampleInformValue (sampleInformDigest.take 12)).1 := by
    decide +kernel
  rw [hentity, Option.bind_some, hvalue, Option.some.injEq] at hread
  subst hread
  have hread : (sampleBer.decodeSecurity
      (sampleInformValue (sampleInformDigest.take 12)).1.msgSecurityParameters).map Prod.fst =
        some (sampleParams (sampleInformDigest.take 12)).1 := by decide +kernel
  rw [hparams, Option.map_some, Option.some.injEq] at hread
  have hflags : V3.hasFlag (sampleInformValue
      (sampleInformDigest.take 12)).1.msgGlobalData.msgFlags 1 = .ok true := by decide
  have hauth : true = msg.auth := Except.ok.inj (hflags.symm.trans hdecoding.auth)
  have huser : msg.user = "a" := by
    rw [hdecoding.user, show params = _ from hread]
    decide +kernel
  apply hnot
  exact ⟨sampleUser, by rw [huser]; rfl, fun _ => hauth.symm, nofun⟩

end HatDrivers.Snmp.TrapListener
