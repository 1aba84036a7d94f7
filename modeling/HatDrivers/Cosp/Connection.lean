import HatDrivers.Cosp.RoundTrip
import HatDrivers.Lib.Prefixes

namespace HatDrivers.Cosp

open HatDrivers.Lib

/-!
# COSP — connections

A client sends a CN SPDU and a server answers it with an AC SPDU; after that, data goes in DT
SPDUs.  The transport layer below keeps messages whole and in order, and of a server that fails
the client sees that the connection is closed (`lost`).

* `connect_eq_ok` — the client has a connection just if the server has its mirror;
* `receiveLoop_sent` — data is received as it was sent.
-/

/-- What a peer that fails is to its client. -/
def lost {α : Type} (x : Except Exn α) : Except Exn α := x.mapError fun _ => .connectionError

theorem lost_eq_ok {α : Type} {x : Except Exn α} {a : α} : lost x = .ok a ↔ x = .ok a := by
  cases x <;> simp [lost, Except.mapError]

/-- What the handshake gives to a connection. -/
structure Connection where
  connReqUserData : Option Bytes
  connResUserData : Option Bytes
  localSsel : Option ℕ
  remoteSsel : Option ℕ
  deriving DecidableEq

/-- The connection of the other end. -/
def Connection.mirror (conn : Connection) : Connection :=
  { conn with localSsel := conn.remoteSsel, remoteSsel := conn.localSsel }

@[simp] theorem Connection.mirror_mirror (conn : Connection) : conn.mirror.mirror = conn := rfl

/-! ### The handshake -/

def paramsRequirements : Bytes := [0, 2]

def paramsVersion : ℕ := 2

/-- `cn_spdu` -/
def cnSpdu (localSsel remoteSsel : Option ℕ) (userData : Option Bytes) : Spdu :=
  { Parameters.empty with
    type := .CN
    data := []
    extendedSpdus := some false
    versionNumber := some paramsVersion
    requirements := some paramsRequirements
    callingSsel := localSsel
    calledSsel := remoteSsel
    userData := userData }

/-- `ac_spdu` -/
def acSpdu (cnSpdu : Spdu) (resUserData : Option Bytes) : Spdu :=
  { Parameters.empty with
    type := .AC
    data := []
    extendedSpdus := some false
    versionNumber := some paramsVersion
    requirements := some paramsRequirements
    callingSsel := cnSpdu.callingSsel
    calledSsel := cnSpdu.calledSsel
    userData := resUserData }

/-- `_get_ssels` -/
def getSsels (cnSpdu acSpdu : Spdu) : Option ℕ × Option ℕ :=
  (cnSpdu.callingSsel.or acSpdu.callingSsel, cnSpdu.calledSsel.or acSpdu.calledSsel)

/-- `_validate_connect_request` -/
def validateConnectRequest (cnSpdu : Spdu) : Except Exn Unit :=
  if cnSpdu.type ≠ .CN then .error (.exception "received message is not of type CN") else .ok ()

/-- A selector of the response differs from that of the request. -/
def unexpectedSsel (received expecting : ℕ) (text : String) : Exn :=
  .exception (text ++ toString received ++ " (expecting " ++ toString expecting ++ ")")

/-- `_validate_connect_response` -/
def validateConnectResponse (cnSpdu acSpdu : Spdu) : Except Exn Unit :=
  if acSpdu.type ≠ .AC then .error (.exception "received message is not of type AC")
  else
    match cnSpdu.callingSsel, acSpdu.callingSsel with
    | some expecting, some received =>
      if expecting ≠ received then
        .error (unexpectedSsel received expecting "received calling ssel  ")
      else called
    | _, _ => called
where
  called : Except Exn Unit :=
    match cnSpdu.calledSsel, acSpdu.calledSsel with
    | some expecting, some received =>
      if expecting ≠ received then
        .error (unexpectedSsel received expecting "received calling ssel ")
      else .ok ()
    | _, _ => .ok ()

/-- `connect`, where `peer` is the answer to the request. -/
def connect (peer : Bytes → Except Exn Bytes) (userData : Option Bytes)
    (localSsel remoteSsel : Option ℕ) : Except Exn Connection := do
  let cnSpdu := cnSpdu localSsel remoteSsel userData
  let cnSpduBytes ← encode cnSpdu
  let acSpduBytes ← peer cnSpduBytes
  let acSpdu ← decode acSpduBytes
  validateConnectResponse cnSpdu acSpdu
  let (callingSsel, calledSsel) := getSsels cnSpdu acSpdu
  return ⟨cnSpdu.userData, acSpdu.userData, callingSsel, calledSsel⟩

/-- `Server._on_connection` up to its connection, with the response that it sends. -/
def onConnection (validateCb : Option Bytes → Except Exn (Option Bytes)) (cnSpduBytes : Bytes) :
    Except Exn (Bytes × Connection) := do
  let cnSpdu ← decode cnSpduBytes
  validateConnectRequest cnSpdu
  let resUserData ← validateCb cnSpdu.userData
  let acSpdu := acSpdu cnSpdu resUserData
  let acSpduBytes ← encode acSpdu
  let (callingSsel, calledSsel) := getSsels cnSpdu acSpdu
  return (acSpduBytes, ⟨cnSpdu.userData, acSpdu.userData, calledSsel, callingSsel⟩)

variable {validateCb : Option Bytes → Except Exn (Option Bytes)}
variable {localSsel remoteSsel : Option ℕ} {userData : Option Bytes} {cnBytes acBytes : Bytes}
variable {client server : Connection}

theorem decode_cnSpdu (h : encode (cnSpdu localSsel remoteSsel userData) = .ok cnBytes) :
    decode cnBytes = .ok (cnSpdu localSsel remoteSsel userData) :=
  decode_encode (by simp [cnSpdu]) h

theorem decode_acSpdu {cn : Spdu} {resUserData : Option Bytes}
    (h : encode (acSpdu cn resUserData) = .ok acBytes) :
    decode acBytes = .ok (acSpdu cn resUserData) :=
  decode_encode (by simp [acSpdu]) h

/-- Selectors are sent back as they were received. -/
theorem getSsels_acSpdu (cn : Spdu) (resUserData : Option Bytes) :
    getSsels cn (acSpdu cn resUserData) = (cn.callingSsel, cn.calledSsel) := by
  simp [getSsels, acSpdu]

/-- The client accepts the response of a server. -/
theorem validate_acSpdu (cn : Spdu) (resUserData : Option Bytes) :
    validateConnectResponse cn (acSpdu cn resUserData) = .ok () := by
  unfold validateConnectResponse validateConnectResponse.called acSpdu
  cases cn.callingSsel <;> cases cn.calledSsel <;> simp

/-- What a server makes of the request of a client. -/
theorem onConnection_eq_ok (h : encode (cnSpdu localSsel remoteSsel userData) = .ok cnBytes) :
    onConnection validateCb cnBytes = .ok (acBytes, server) ↔
      ∃ resUserData, validateCb userData = .ok resUserData ∧
        encode (acSpdu (cnSpdu localSsel remoteSsel userData) resUserData) = .ok acBytes ∧
        server = ⟨userData, resUserData, remoteSsel, localSsel⟩ := by
  have hdecode := decode_cnSpdu h
  have hvalidate : validateConnectRequest (cnSpdu localSsel remoteSsel userData) = .ok () := rfl
  simp only [onConnection, hdecode, hvalidate, ok_bind, getSsels_acSpdu, bind_eq_ok, pure_eq_ok,
    Except.ok.injEq, Prod.mk.injEq]
  constructor
  · rintro ⟨resUserData, hres, bytes, hencode, rfl, rfl⟩
    exact ⟨resUserData, hres, hencode, rfl⟩
  · rintro ⟨resUserData, hres, hencode, rfl⟩
    exact ⟨resUserData, hres, acBytes, hencode, rfl, rfl⟩

/-- **Session.**  The client has a connection just if the server has its mirror. -/
theorem connect_eq_ok :
    connect (fun cn => lost ((onConnection validateCb cn).map Prod.fst)) userData localSsel
        remoteSsel = .ok client ↔
      ∃ cnBytes acBytes, encode (cnSpdu localSsel remoteSsel userData) = .ok cnBytes ∧
        onConnection validateCb cnBytes = .ok (acBytes, client.mirror) := by
  simp only [connect, bind_eq_ok, lost_eq_ok]
  constructor
  · rintro ⟨cnBytes, hcn, acBytes, hac, h⟩
    obtain ⟨⟨acBytes', server⟩, hserver, rfl⟩ := map_eq_ok.mp hac
    refine ⟨cnBytes, acBytes', hcn, ?_⟩
    obtain ⟨resUserData, -, hencode, rfl⟩ := (onConnection_eq_ok hcn).mp hserver
    obtain ⟨ac, hac', -, -, hclient⟩ := h
    obtain rfl := Except.ok.inj ((decode_acSpdu hencode).symm.trans hac')
    rw [getSsels_acSpdu] at hclient
    obtain rfl := Except.ok.inj hclient
    exact hserver
  · rintro ⟨cnBytes, acBytes, hcn, hserver⟩
    refine ⟨cnBytes, hcn, acBytes, map_eq_ok.mpr ⟨_, hserver, rfl⟩, ?_⟩
    obtain ⟨resUserData, -, hencode, hmirror⟩ := (onConnection_eq_ok hcn).mp hserver
    refine ⟨_, decode_acSpdu hencode, (), validate_acSpdu _ _, ?_⟩
    rw [getSsels_acSpdu, ← Connection.mirror_mirror client, hmirror]
    rfl

/-- What the user of a client knows of its connection. -/
theorem connect_info (h : connect (fun cn => lost ((onConnection validateCb cn).map Prod.fst))
    userData localSsel remoteSsel = .ok client) :
    ∃ resUserData, validateCb userData = .ok resUserData ∧
      client = ⟨userData, resUserData, localSsel, remoteSsel⟩ := by
  obtain ⟨cnBytes, acBytes, hcn, hserver⟩ := connect_eq_ok.mp h
  obtain ⟨resUserData, hres, -, hmirror⟩ := (onConnection_eq_ok hcn).mp hserver
  exact ⟨resUserData, hres, by rw [← Connection.mirror_mirror client, hmirror]; rfl⟩

/-! ### Data -/

/-- What `_send_loop` sends of data. -/
def sendData (data : Bytes) : Except Exn Bytes := do
  let spduBytes ← encode { Parameters.empty with type := .DT, data := data }
  return giveTokensSpduBytes ++ spduBytes

def abSpdu : Spdu :=
  { Parameters.empty with type := .AB, data := [], transportDisconnect := some true }

def dnSpdu : Spdu := { Parameters.empty with type := .DN, data := [] }

/-- Where `_receive_loop` is after messages. -/
inductive ReceiveLoop
  | waiting
  /-- over, with the SPDU that is sent as the connection closes -/
  | closed (closeSpdu : Option Spdu)
  | failed (e : Exn)

/-- The data that `_receive_loop` puts in its queue, with `data` that is not complete yet. -/
def receiveLoop (data : Bytes) : List Bytes → List Bytes × ReceiveLoop
  | [] => ([], .waiting)
  | spduBytes :: rest =>
    match decode spduBytes with
    | .error e => ([], .failed e)
    | .ok spdu =>
      match spdu.type with
      | .DT =>
        let data := data ++ spdu.data
        if spdu.end_ = none ∨ spdu.end_ = some true then
          let (received, loop) := receiveLoop [] rest
          (data :: received, loop)
        else receiveLoop data rest
      | .FN => ([], .closed (some dnSpdu))
      | .AB => ([], .closed none)
      | _ => ([], .closed (some abSpdu))

/-- **Data is received as it was sent.** -/
theorem receiveLoop_sent {messages sent : List Bytes} (h : messages.mapM sendData = .ok sent) :
    receiveLoop [] sent = (messages, .waiting) := by
  induction messages generalizing sent with
  | nil =>
    obtain rfl := Except.ok.inj h
    rfl
  | cons data messages ih =>
    rw [List.mapM_cons] at h
    obtain ⟨msg, hmsg, h⟩ := bind_eq_ok.mp h
    obtain ⟨rest, hrest, h⟩ := bind_eq_ok.mp h
    obtain rfl := Except.ok.inj h
    obtain ⟨spduBytes, hencode, hdecode⟩ := decode_giveTokens data
    have hsend : sendData data = .ok (giveTokensSpduBytes ++ spduBytes) := by
      rw [sendData, hencode]
      rfl
    obtain rfl := Except.ok.inj (hmsg.symm.trans hsend)
    simp only [receiveLoop, hdecode, ih hrest]
    rfl

end HatDrivers.Cosp
