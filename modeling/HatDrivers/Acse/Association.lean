import HatDrivers.Acse.Connection
import HatDrivers.Copp.Connection
import Mathlib.Data.List.TakeWhile

namespace HatDrivers.Acse

open HatDrivers.Lib

/-!
# ACSE — association

A client asks for an association by an AARQ APDU, and a server grants it by an AARE APDU.  They
are the user data of the presentation connection, whose PPDUs are that of the session connection,
and each layer passes names of the client and of the server on.

* `Agreed` — what a client and its server have in common;
* `association_agreement` — the client has an association just if the server has its mirror, and
  then they have agreed.
-/

/-! ### APDUs -/

/-- `AP-title`, of which a name of form 1 is not used. -/
inductive ApTitle
  | form1
  | form2 (oid : ObjectIdentifier)
  deriving DecidableEq

/-- `AE-qualifier`, of which a name of form 1 is not used. -/
inductive AeQualifier
  | form1
  | form2 (qualifier : ℤ)
  deriving DecidableEq

/-- `asn1.External` -/
structure External (Entity : Type) where
  directRef : Option ObjectIdentifier
  indirectRef : Option ℕ
  data : Entity
  deriving DecidableEq

structure Aarq (Entity : Type) where
  applicationContextName : ObjectIdentifier
  callingApTitle : Option ApTitle
  calledApTitle : Option ApTitle
  callingAeQualifier : Option AeQualifier
  calledAeQualifier : Option AeQualifier
  calledApInvocationIdentifier : Option ℤ
  calledAeInvocationIdentifier : Option ℤ
  userInformation : Option (List (External Entity))
  deriving DecidableEq

structure Aare (Entity : Type) where
  applicationContextName : ObjectIdentifier
  result : ℤ
  /-- `'acse-service-user'` -/
  resultSourceDiagnostic : ℤ
  respondingApTitle : Option ApTitle
  respondingAeQualifier : Option AeQualifier
  respondingApInvocationIdentifier : Option ℤ
  respondingAeInvocationIdentifier : Option ℤ
  userInformation : Option (List (External Entity))
  deriving DecidableEq

/-- `ACSE-apdu`, of an association that is opened. -/
inductive AssociationApdu (Entity : Type)
  | aarq (aarq : Aarq Entity)
  | aare (aare : Aare Entity)
  | other
  deriving DecidableEq

/-- What is used of `hat.asn1`. -/
structure AssociationBer (Entity : Type) where
  copp : Copp.Ber Entity
  /-- `_encoder.syntax_name` -/
  syntaxName : ObjectIdentifier
  encode : AssociationApdu Entity → Except Exn Entity
  decode : Entity → Except Exn (AssociationApdu Entity)

variable {Entity : Type}

/-- What is encoded is decoded as it was. -/
structure AssociationBer.Inverse (ber : AssociationBer Entity) : Prop where
  copp : ber.copp.Inverse
  apdu : ∀ apdu entity, ber.encode apdu = .ok entity → ber.decode entity = .ok apdu

/-- The names of the ends. -/
structure Names where
  localApTitle : Option ObjectIdentifier
  remoteApTitle : Option ObjectIdentifier
  localAeQualifier : Option ℤ
  remoteAeQualifier : Option ℤ
  deriving DecidableEq

/-- The names of the other end. -/
def Names.mirror (names : Names) : Names :=
  ⟨names.remoteApTitle, names.localApTitle, names.remoteAeQualifier, names.localAeQualifier⟩

/-- `_get_ap_titles`, of one title -/
def getApTitle : Option ApTitle → Option ObjectIdentifier
  | some (.form2 oid) => some oid
  | _ => none

/-- `_get_ae_qualifiers`, of one qualifier -/
def getAeQualifier : Option AeQualifier → Option ℤ
  | some (.form2 qualifier) => some qualifier
  | _ => none

/-- `_get_ap_titles` and `_get_ae_qualifiers`, of the calling end. -/
def Aarq.names (aarq : Aarq Entity) : Names :=
  ⟨getApTitle aarq.callingApTitle, getApTitle aarq.calledApTitle,
    getAeQualifier aarq.callingAeQualifier, getAeQualifier aarq.calledAeQualifier⟩

/-- User data, as the only external. -/
def userInformation (ber : AssociationBer Entity) (syntaxNames : Copp.SyntaxNames)
    (userData : Copp.IdentifiedEntity Entity) : Except Exn (List (External Entity)) := do
  let id ← syntaxNames.getId userData.1
  return [⟨some ber.syntaxName, some id, userData.2⟩]

/-- `_aarq_apdu` -/
def aarqApdu (ber : AssociationBer Entity) (syntaxNames : Copp.SyntaxNames)
    (appContextName : ObjectIdentifier) (names : Names) :
    Option (Copp.IdentifiedEntity Entity) → Except Exn (Aarq Entity)
  | none => .ok (aarq none)
  | some userData => do return aarq (some (← userInformation ber syntaxNames userData))
where
  aarq (userInformation : Option (List (External Entity))) : Aarq Entity :=
    { applicationContextName := appContextName
      callingApTitle := names.localApTitle.map .form2
      calledApTitle := names.remoteApTitle.map .form2
      callingAeQualifier := names.localAeQualifier.map .form2
      calledAeQualifier := names.remoteAeQualifier.map .form2
      calledApInvocationIdentifier := none
      calledAeInvocationIdentifier := none
      userInformation := userInformation }

/-- `_aare_apdu`, which takes the name of the syntax of the data for that of the context. -/
def aareApdu (ber : AssociationBer Entity) (syntaxNames : Copp.SyntaxNames)
    (userData : Option (Copp.IdentifiedEntity Entity)) (aarq : Aarq Entity) :
    Except Exn (Aare Entity) :=
  match userData with
  | none => .error .typeError
  | some userData => do
    let userInformation ← userInformation ber syntaxNames userData
    return {
      applicationContextName := userData.1
      result := 0
      resultSourceDiagnostic := 0
      respondingApTitle := (getApTitle aarq.calledApTitle).map .form2
      respondingAeQualifier := (getAeQualifier aarq.calledAeQualifier).map .form2
      respondingApInvocationIdentifier := aarq.calledApInvocationIdentifier
      respondingAeInvocationIdentifier := aarq.calledAeInvocationIdentifier
      userInformation := some userInformation }

/-- `apdu['user-information'][0]` -/
def getExternal : Option (List (External Entity)) → Except Exn (External Entity)
  | none => .error .keyError
  | some [] => .error .indexError
  | some (external :: _) => .ok external

/-- The data of an external, with the name of its syntax. -/
def External.userData (external : External Entity) (syntaxNames : Copp.SyntaxNames) :
    Except Exn (Copp.IdentifiedEntity Entity) :=
  match external.indirectRef with
  | none => .error .keyError
  | some id => do return (← syntaxNames.getName id, external.data)

/-! ### Associations -/

/-- What the handshake gives to a `Connection`. -/
structure Association (Entity : Type) where
  conn : Copp.Connection Entity
  connReqUserData : Copp.IdentifiedEntity Entity
  connResUserData : Copp.IdentifiedEntity Entity
  names : Names

/-- The association of the other end. -/
def Association.mirror (association : Association Entity) : Association Entity :=
  { association with conn := association.conn.mirror, names := association.names.mirror }

@[simp] theorem Association.mirror_mirror (association : Association Entity) :
    association.mirror.mirror = association := rfl

/-- `Connection.__init__` -/
def Association.new (conn : Copp.Connection Entity) (aarq : Aarq Entity) (aare : Aare Entity)
    (names : Names) : Except Exn (Association Entity) := do
  let aarqExternal ← getExternal aarq.userInformation
  let aareExternal ← getExternal aare.userInformation
  let connReqUserData ← aarqExternal.userData conn.syntaxNames
  let connResUserData ← aareExternal.userData conn.syntaxNames
  return ⟨conn, connReqUserData, connResUserData, names⟩

/-- What the user of a client asks for. -/
structure Options where
  syntaxNameList : List ObjectIdentifier
  appContextName : ObjectIdentifier
  names : Names
  sels : Copp.Selectors
  deriving DecidableEq

def Options.syntaxNames (options : Options) : Copp.SyntaxNames :=
  .new (acseSyntaxName :: options.syntaxNameList)

/-- A client that was answered. -/
def finish (ber : AssociationBer Entity) (aarq : Aarq Entity) (conn : Copp.Connection Entity) :
    Except Exn (Association Entity) :=
  if conn.connResUserData.1 ≠ acseSyntaxName then .error (.exception "invalid syntax name")
  else do
    match ← ber.decode conn.connResUserData.2 with
    | .aare aare =>
      if aare.result ≠ 0 then .error (.exception "invalid apdu")
      else Association.new conn aarq aare aarq.names
    | _ => .error (.exception "invalid apdu")

/-- `connect` -/
def connect (ber : AssociationBer Entity) (peer : Bytes → Except Exn Bytes) (options : Options)
    (userData : Option (Copp.IdentifiedEntity Entity)) : Except Exn (Association Entity) := do
  let aarq ← aarqApdu ber options.syntaxNames options.appContextName options.names userData
  let entity ← ber.encode (.aarq aarq)
  let conn ← Copp.connect ber.copp peer options.syntaxNames (some (acseSyntaxName, entity))
    options.sels
  finish ber aarq conn

/-- `Server._on_validate` -/
def onValidate (ber : AssociationBer Entity) (validateCb : Copp.ValidateCb Entity) :
    Copp.ValidateCb Entity := fun syntaxNames userData =>
  if userData.1 ≠ acseSyntaxName then .error (.exception "invalid acse syntax name")
  else do
    match ← ber.decode userData.2 with
    | .aarq aarq => do
      let external ← getExternal aarq.userInformation
      if external.directRef.any (· ≠ ber.syntaxName) then
        .error (.exception "invalid encoder identifier")
      else do
        let aarqUserData ← external.userData syntaxNames
        let result ← validateCb syntaxNames aarqUserData
        let aare ← aareApdu ber syntaxNames result aarq
        let entity ← ber.encode (.aare aare)
        return some (acseSyntaxName, entity)
    | _ => .error (.exception "not aarq message")

/-- `Server._on_connection` up to its connection. -/
def onConnection (ber : AssociationBer Entity) (conn : Copp.Connection Entity) :
    Except Exn (Association Entity) := do
  match ← ber.decode conn.connReqUserData.2, ← ber.decode conn.connResUserData.2 with
  | .aarq aarq, .aare aare => Association.new conn aarq aare aarq.names.mirror
  | _, _ => .error .keyError

/-- What a server answers, and its association. -/
def accept (ber : AssociationBer Entity) (validateCb : Copp.ValidateCb Entity) (cnBytes : Bytes) :
    Except Exn (Bytes × Except Exn (Association Entity)) := do
  let (acBytes, conn) ← Copp.accept ber.copp (onValidate ber validateCb) cnBytes
  return (acBytes, conn >>= onConnection ber)

/-- What a client gets of a server. -/
def answer (ber : AssociationBer Entity) (validateCb : Copp.ValidateCb Entity) (cnBytes : Bytes) :
    Except Exn Bytes :=
  Cosp.lost ((accept ber validateCb cnBytes).map Prod.fst)

/-- The CN SPDU that `connect` sends. -/
def request (ber : AssociationBer Entity) (options : Options)
    (userData : Option (Copp.IdentifiedEntity Entity)) : Except Exn Bytes := do
  let aarq ← aarqApdu ber options.syntaxNames options.appContextName options.names userData
  let entity ← ber.encode (.aarq aarq)
  Copp.request ber.copp options.syntaxNames (some (acseSyntaxName, entity)) options.sels

/-! ### Agreement -/

variable {ber : AssociationBer Entity} {validateCb : Copp.ValidateCb Entity} {options : Options}
variable {data : Option (Copp.IdentifiedEntity Entity)} {aarq : Aarq Entity} {entity : Entity}
variable {syntaxNames : Copp.SyntaxNames} {client : Association Entity}

/-- An external is read back. -/
theorem userInformation_eq_ok {data : Copp.IdentifiedEntity Entity}
    {written : List (External Entity)} (h : userInformation ber syntaxNames data = .ok written) :
    ∃ external, getExternal (some written) = .ok external ∧
      external.directRef = some ber.syntaxName ∧ external.userData syntaxNames = .ok data := by
  obtain ⟨id, hid, h⟩ := bind_eq_ok.mp h
  obtain rfl := Except.ok.inj h
  refine ⟨_, rfl, rfl, ?_⟩
  simp only [External.userData, Copp.SyntaxNames.getName_getId hid, ok_bind, pure_eq_ok]

theorem getApTitle_map (title : Option ObjectIdentifier) :
    getApTitle (title.map .form2) = title := by
  cases title <;> rfl

theorem getAeQualifier_map (qualifier : Option ℤ) :
    getAeQualifier (qualifier.map .form2) = qualifier := by
  cases qualifier <;> rfl

theorem names_aarq (appContextName : ObjectIdentifier) (names : Names)
    (written : Option (List (External Entity))) :
    (aarqApdu.aarq appContextName names written).names = names := by
  unfold aarqApdu.aarq Aarq.names
  simp only [getApTitle_map, getAeQualifier_map]

/-- The names and the user data of an AARQ are read back. -/
theorem aarqApdu_eq_ok {appContextName : ObjectIdentifier} {names : Names}
    (h : aarqApdu ber syntaxNames appContextName names data = .ok aarq) :
    aarq.names = names ∧ ∀ external, getExternal aarq.userInformation = .ok external →
      external.directRef = some ber.syntaxName ∧
      ∃ req, data = some req ∧ external.userData syntaxNames = .ok req := by
  cases data with
  | none =>
    obtain rfl := Except.ok.inj h
    refine ⟨names_aarq .., ?_⟩
    intro external hexternal
    cases hexternal
  | some req =>
    obtain ⟨written, hwritten, h⟩ := bind_eq_ok.mp h
    obtain rfl := Except.ok.inj h
    obtain ⟨external, hexternal, hdirect, hreq⟩ := userInformation_eq_ok hwritten
    refine ⟨names_aarq .., ?_⟩
    intro external' hexternal'
    obtain rfl := Except.ok.inj (hexternal.symm.trans hexternal')
    exact ⟨hdirect, req, rfl, hreq⟩

/-- What a server validates of the request of a client. -/
theorem onValidate_eq_ok (hber : ber.Inverse) {names : Names} {appContextName : ObjectIdentifier}
    (haarq : aarqApdu ber syntaxNames appContextName names data = .ok aarq)
    (hentity : ber.encode (.aarq aarq) = .ok entity)
    {res : Option (Copp.IdentifiedEntity Entity)}
    (h : onValidate ber validateCb syntaxNames (acseSyntaxName, entity) = .ok res) :
    ∃ req result aare aareEntity, data = some req ∧
      validateCb syntaxNames req = .ok (some result) ∧
      (∃ external, getExternal aarq.userInformation = .ok external ∧
        external.userData syntaxNames = .ok req) ∧
      aareApdu ber syntaxNames (some result) aarq = .ok aare ∧
      ber.encode (.aare aare) = .ok aareEntity ∧ res = some (acseSyntaxName, aareEntity) := by
  simp only [onValidate, ne_eq, not_true_eq_false, if_false, hber.apdu _ _ hentity, ok_bind] at h
  obtain ⟨external, hexternal, h⟩ := bind_eq_ok.mp h
  obtain ⟨hdirect, req, rfl, hreq⟩ := (aarqApdu_eq_ok haarq).2 external hexternal
  have hknown : (external.directRef.any (· ≠ ber.syntaxName)) = false := by simp [hdirect]
  simp only [hknown, Bool.false_eq_true, if_false, hreq, ok_bind] at h
  obtain ⟨result, hresult, h⟩ := bind_eq_ok.mp h
  obtain ⟨aare, haare, h⟩ := bind_eq_ok.mp h
  obtain ⟨aareEntity, haareEntity, hres⟩ := bind_eq_ok.mp h
  cases result with
  | none => cases haare
  | some result =>
    exact ⟨req, result, aare, aareEntity, rfl, hresult, ⟨external, hexternal, hreq⟩, haare,
      haareEntity, (Except.ok.inj hres).symm⟩

/-- The ends of a presentation connection finish alike. -/
theorem finish_eq_ok (hber : ber.Inverse) {names : Names} {appContextName : ObjectIdentifier}
    {conn : Copp.Connection Entity} {res : Copp.IdentifiedEntity Entity}
    (haarq : aarqApdu ber conn.syntaxNames appContextName names data = .ok aarq)
    (hentity : ber.encode (.aarq aarq) = .ok entity)
    (hreq : conn.connReqUserData = (acseSyntaxName, entity)) (hres : conn.connResUserData = res)
    (hvalidate : onValidate ber validateCb conn.syntaxNames (acseSyntaxName, entity) =
      .ok (some res)) :
    ∃ req result, data = some req ∧ validateCb conn.syntaxNames req = .ok (some result) ∧
      finish ber aarq conn = .ok ⟨conn, req, result, names⟩ ∧
      onConnection ber conn.mirror = .ok ⟨conn.mirror, req, result, names.mirror⟩ := by
  obtain ⟨req, result, aare, aareEntity, rfl, hresult, ⟨external, hexternal, hexternalReq⟩, haare,
    haareEntity, hresEq⟩ := onValidate_eq_ok hber haarq hentity hvalidate
  obtain rfl := Option.some.inj hresEq
  obtain ⟨written, hwritten, haare⟩ := bind_eq_ok.mp haare
  obtain rfl := Except.ok.inj haare
  obtain ⟨aareExternal, haareExternal, -, haareRes⟩ := userInformation_eq_ok hwritten
  obtain ⟨hnames, -⟩ := aarqApdu_eq_ok haarq
  refine ⟨req, result, rfl, hresult, ?_, ?_⟩
  · simp only [finish, hres, ne_eq, not_true_eq_false, if_false, hber.apdu _ _ haareEntity, ok_bind,
      Association.new, hexternal, haareExternal, hexternalReq, haareRes, hnames, pure_eq_ok]
  · have hreqMirror : conn.mirror.connReqUserData = (acseSyntaxName, entity) := hreq
    have hresMirror : conn.mirror.connResUserData = (acseSyntaxName, aareEntity) := hres
    have hnamesMirror : conn.mirror.syntaxNames = conn.syntaxNames := rfl
    simp only [onConnection, hreqMirror, hresMirror, hber.apdu _ _ hentity,
      hber.apdu _ _ haareEntity, ok_bind, Association.new, hexternal, haareExternal, hnamesMirror,
      hexternalReq, haareRes, hnames, pure_eq_ok]

theorem answer_eq (ber : AssociationBer Entity) (validateCb : Copp.ValidateCb Entity) :
    answer ber validateCb = Copp.answer ber.copp (onValidate ber validateCb) := by
  funext cn
  unfold answer accept Copp.answer
  cases Copp.accept ber.copp (onValidate ber validateCb) cn <;> rfl

/-- What a client and its server have, if both have a presentation connection. -/
theorem associated (hber : ber.Inverse) {conn : Copp.Connection Entity}
    (haarq : aarqApdu ber options.syntaxNames options.appContextName options.names data = .ok aarq)
    (hentity : ber.encode (.aarq aarq) = .ok entity)
    (hconn : Copp.connect ber.copp (Copp.answer ber.copp (onValidate ber validateCb))
      options.syntaxNames (some (acseSyntaxName, entity)) options.sels = .ok conn) :
    conn.syntaxNames = options.syntaxNames ∧ conn.selectors = options.sels ∧ ∃ req result,
      data = some req ∧ validateCb options.syntaxNames req = .ok (some result) ∧
      finish ber aarq conn = .ok ⟨conn, req, result, options.names⟩ ∧
      onConnection ber conn.mirror = .ok ⟨conn.mirror, req, result, options.names.mirror⟩ := by
  obtain ⟨req, res, hreq, hvalidate, hnames, hconnReq, hconnRes, hsels⟩ :=
    Copp.connect_info hber.copp hconn
  obtain rfl := Option.some.inj hreq
  rw [← hnames] at haarq hvalidate
  have hfinish := finish_eq_ok hber haarq hentity hconnReq hconnRes hvalidate
  rw [hnames] at hfinish
  exact ⟨hnames, hsels, hfinish⟩

/-- **Association.**  The client has an association just if the server has its mirror. -/
theorem connect_eq_ok (hber : ber.Inverse) :
    connect ber (answer ber validateCb) options data = .ok client ↔
      ∃ cnBytes acBytes, request ber options data = .ok cnBytes ∧
        accept ber validateCb cnBytes = .ok (acBytes, .ok client.mirror) := by
  rw [answer_eq]
  constructor
  · intro h
    obtain ⟨aarq, haarq, h⟩ := bind_eq_ok.mp h
    obtain ⟨entity, hentity, h⟩ := bind_eq_ok.mp h
    obtain ⟨conn, hconn, hclient⟩ := bind_eq_ok.mp h
    obtain ⟨-, -, req, result, rfl, -, hfinish, hserver⟩ := associated hber haarq hentity hconn
    obtain rfl := Except.ok.inj (hfinish.symm.trans hclient)
    obtain ⟨cnBytes, acBytes, hrequest, haccept⟩ := (Copp.connect_eq_ok hber.copp).mp hconn
    refine ⟨cnBytes, acBytes, ?_, ?_⟩
    · rw [request, haarq, ok_bind, hentity, ok_bind, hrequest]
    · rw [accept, haccept, ok_bind]
      show Except.ok (acBytes, onConnection ber conn.mirror) = _
      rw [hserver]
      rfl
  · rintro ⟨cnBytes, acBytes, hrequest, haccept⟩
    obtain ⟨aarq, haarq, hrequest⟩ := bind_eq_ok.mp hrequest
    obtain ⟨entity, hentity, hrequest⟩ := bind_eq_ok.mp hrequest
    obtain ⟨⟨acBytes', conn⟩, hcopp, haccept⟩ := bind_eq_ok.mp haccept
    obtain ⟨rfl, hserver⟩ := Prod.mk.inj (Except.ok.inj haccept)
    obtain ⟨server, rfl, hserver⟩ := bind_eq_ok.mp hserver
    have hconn : Copp.connect ber.copp (Copp.answer ber.copp (onValidate ber validateCb))
        options.syntaxNames (some (acseSyntaxName, entity)) options.sels = .ok server.mirror :=
      (Copp.connect_eq_ok hber.copp).mpr ⟨cnBytes, acBytes', hrequest, hcopp⟩
    obtain ⟨-, -, req, result, rfl, -, hfinish, hmirror⟩ := associated hber haarq hentity hconn
    rw [Copp.Connection.mirror_mirror] at hmirror
    rw [connect, haarq, ok_bind, hentity, ok_bind, hconn, ok_bind, hfinish]
    have hclient := Except.ok.inj (hmirror.symm.trans hserver)
    rw [← Association.mirror_mirror client, ← hclient]
    rfl

/-- **What the ends know.**  An association has the names, the selectors and the request that the
client was given, the response that the validation callback returned, and the table of the
client. -/
theorem connect_info (hber : ber.Inverse)
    (h : connect ber (answer ber validateCb) options data = .ok client) :
    ∃ req result, data = some req ∧ validateCb options.syntaxNames req = .ok (some result) ∧
      client.connReqUserData = req ∧ client.connResUserData = result ∧
      client.names = options.names ∧ client.conn.selectors = options.sels ∧
      client.conn.syntaxNames = options.syntaxNames := by
  rw [answer_eq] at h
  obtain ⟨aarq, haarq, h⟩ := bind_eq_ok.mp h
  obtain ⟨entity, hentity, h⟩ := bind_eq_ok.mp h
  obtain ⟨conn, hconn, hclient⟩ := bind_eq_ok.mp h
  obtain ⟨hnames, hsels, req, result, rfl, hvalidate, hfinish, -⟩ :=
    associated hber haarq hentity hconn
  obtain rfl := Except.ok.inj (hfinish.symm.trans hclient)
  exact ⟨req, result, rfl, hvalidate, rfl, rfl, rfl, hsels, hnames⟩

/-! ### Data -/

/-- What the receive loops put in the queue of an association: an ACSE APDU ends the last one. -/
def received (ber : AssociationBer Entity) (association : Association Entity)
    (messages : List Bytes) : List (Copp.IdentifiedEntity Entity) :=
  (Copp.received ber.copp association.conn.syntaxNames messages).takeWhile fun data =>
    data.1 ≠ acseSyntaxName

/-- What the send loops make of data. -/
def send (ber : AssociationBer Entity) (association : Association Entity)
    (messages : List (Copp.IdentifiedEntity Entity)) : Except Exn (List Bytes) :=
  messages.mapM (Copp.sendData ber.copp association.conn.syntaxNames)

/-- Have a client and its server agreed, if there is an association? -/
structure Agreed (ber : AssociationBer Entity) (validateCb : Copp.ValidateCb Entity)
    (options : Options) (data : Option (Copp.IdentifiedEntity Entity))
    (client : Association Entity) : Prop where
  /-- the server has the mirror of the association -/
  mirror : ∃ cnBytes acBytes, request ber options data = .ok cnBytes ∧
    accept ber validateCb cnBytes = .ok (acBytes, .ok client.mirror)
  /-- both know what they were given -/
  known : ∃ req result, data = some req ∧ validateCb options.syntaxNames req = .ok (some result) ∧
    client.connReqUserData = req ∧ client.connResUserData = result ∧
    client.names = options.names ∧ client.conn.selectors = options.sels
  forward : ∀ messages sent, (∀ message ∈ messages, message.1 ≠ acseSyntaxName) →
    send ber client messages = .ok sent → received ber client.mirror sent = messages
  backward : ∀ messages sent, (∀ message ∈ messages, message.1 ≠ acseSyntaxName) →
    send ber client.mirror messages = .ok sent → received ber client sent = messages

/-- What an end sends is received by one with the same table, if it has no APDU among it. -/
theorem received_sent (hber : ber.Inverse) {x y : Association Entity}
    (hnames : y.conn.syntaxNames = x.conn.syntaxNames)
    {messages : List (Copp.IdentifiedEntity Entity)} {sent : List Bytes}
    (hmessages : ∀ message ∈ messages, message.1 ≠ acseSyntaxName)
    (hsent : send ber x messages = .ok sent) : received ber y sent = messages := by
  have hreceived : Copp.received ber.copp x.conn.syntaxNames sent = messages :=
    Copp.received_sent hber.copp hsent
  rw [received, hnames, hreceived, List.takeWhile_eq_self_iff]
  exact fun message hmem => decide_eq_true (hmessages message hmem)

/-- **Agreement.**  The client has an association just if the server has its mirror; then both know
what they were given, and what one end sends is received by the other one as it was sent. -/
theorem association_agreement (hber : ber.Inverse) :
    ((∃ cnBytes acBytes, request ber options data = .ok cnBytes ∧
      accept ber validateCb cnBytes = .ok (acBytes, .ok client.mirror)) ↔
      connect ber (answer ber validateCb) options data = .ok client) ∧
    (connect ber (answer ber validateCb) options data = .ok client →
      Agreed ber validateCb options data client) := by
  refine ⟨(connect_eq_ok hber).symm, fun h => ?_⟩
  obtain ⟨req, result, hdata, hvalidate, hreq, hres, hnames, hsels, -⟩ := connect_info hber h
  exact {
    mirror := (connect_eq_ok hber).mp h
    known := ⟨req, result, hdata, hvalidate, hreq, hres, hnames, hsels⟩
    forward := fun _ _ => received_sent hber rfl
    backward := fun _ _ => received_sent hber rfl }

/-! ### Example -/

/-- A BER encoding of one value. -/
def encodeOne {α β : Type} [DecidableEq α] (a : α) (b : β) (x : α) : Except Exn β :=
  if x = a then .ok b else .error (.valueError "value not supported")

theorem decodeOne {α β : Type} [DecidableEq α] [DecidableEq β] {a x : α} {b y : β}
    (h : encodeOne a b x = .ok y) : encodeOne b a y = .ok x := by
  unfold encodeOne at h
  split at h
  · rename_i hx
    obtain rfl := Except.ok.inj h
    rw [encodeOne, if_pos rfl, hx]
  · cases h

/-- Data in the syntax of MMS. -/
def exampleData : Copp.IdentifiedEntity Bytes := ([1, 0, 9506, 2, 1], [5, 0])

def exampleOptions : Options where
  syntaxNameList := [[1, 0, 9506, 2, 1]]
  appContextName := [1, 0, 9506, 2, 3]
  names := ⟨some [1, 1, 999, 1], some [1, 1, 999, 2], some 12, none⟩
  sels := ⟨some 1, some 2, none, some 3⟩

def exampleAarq : Aarq Bytes :=
  ⟨[1, 0, 9506, 2, 3], some (.form2 [1, 1, 999, 1]), some (.form2 [1, 1, 999, 2]),
    some (.form2 12), none, none, none, some [⟨some [2, 1, 1], some 3, [5, 0]⟩]⟩

def exampleAare : Aare Bytes :=
  ⟨[1, 0, 9506, 2, 1], 0, 0, some (.form2 [1, 1, 999, 2]), none, none, none,
    some [⟨some [2, 1, 1], some 3, [5, 0]⟩]⟩

def exampleAarqBytes : Bytes :=
  [96, 45, 161, 7, 6, 5, 40, 202, 34, 2, 3, 162, 6, 6, 4, 41, 135, 103, 2, 166, 6, 6, 4, 41, 135,
    103, 1, 167, 3, 2, 1, 12, 190, 13, 40, 11, 6, 2, 81, 1, 2, 1, 3, 160, 2, 5, 0]

def exampleAareBytes : Bytes :=
  [97, 44, 161, 7, 6, 5, 40, 202, 34, 2, 1, 162, 3, 2, 1, 0, 163, 5, 161, 3, 2, 1, 0, 164, 6, 6, 4,
    41, 135, 103, 2, 190, 13, 40, 11, 6, 2, 81, 1, 2, 1, 3, 160, 2, 5, 0]

def exampleCp : Copp.CpPpdu Bytes :=
  ⟨1, [⟨1, acseSyntaxName, [[2, 1, 1]]⟩, ⟨3, [1, 0, 9506, 2, 1], [[2, 1, 1]]⟩],
    some [0, 0, 0, 1], some [0, 0, 0, 2], some [⟨1, exampleAarqBytes⟩]⟩

def exampleCpa : Copp.CpaPpdu Bytes :=
  ⟨1, [⟨0, [2, 1, 1]⟩, ⟨0, [2, 1, 1]⟩], some [0, 0, 0, 2], some [⟨1, exampleAareBytes⟩]⟩

def exampleCpBytes : Bytes :=
  [49, 112, 160, 3, 128, 1, 1, 162, 105, 129, 4, 0, 0, 0, 1, 130, 4, 0, 0, 0, 2, 164, 35, 48, 15,
    2, 1, 1, 6, 4, 82, 1, 0, 1, 48, 4, 6, 2, 81, 1, 48, 16, 2, 1, 3, 6, 5, 40, 202, 34, 2, 1, 48, 4,
    6, 2, 81, 1, 97, 54, 48, 52, 2, 1, 1, 160, 47] ++ exampleAarqBytes

def exampleCpaBytes : Bytes :=
  [49, 88, 160, 3, 128, 1, 1, 162, 81, 131, 4, 0, 0, 0, 2, 165, 18, 48, 7, 128, 1, 0, 129, 2, 81,
    1, 48, 7, 128, 1, 0, 129, 2, 81, 1, 97, 53, 48, 51, 2, 1, 1, 160, 46] ++ exampleAareBytes

/-- BER, of the PPDUs and APDUs of an association. -/
def exampleBer : AssociationBer Bytes where
  copp := {
    syntaxName := [2, 1, 1]
    encodeCp := encodeOne exampleCp exampleCpBytes
    decodeCp := encodeOne exampleCpBytes exampleCp
    encodeCpa := encodeOne exampleCpa exampleCpaBytes
    decodeCpa := encodeOne exampleCpaBytes exampleCpa
    encodeUserData := encodeOne [⟨3, [5, 0]⟩] [97, 9, 48, 7, 2, 1, 3, 160, 2, 5, 0]
    decodeUserData := encodeOne [97, 9, 48, 7, 2, 1, 3, 160, 2, 5, 0] [⟨3, [5, 0]⟩] }
  syntaxName := [2, 1, 1]
  encode apdu :=
    if apdu = .aarq exampleAarq then .ok exampleAarqBytes
    else encodeOne (.aare exampleAare) exampleAareBytes apdu
  decode entity :=
    if entity = exampleAarqBytes then .ok (.aarq exampleAarq)
    else encodeOne exampleAareBytes (.aare exampleAare) entity

theorem exampleBer_inverse : exampleBer.Inverse := by
  refine ⟨⟨fun _ _ => decodeOne, fun _ _ => decodeOne, fun _ _ => decodeOne⟩, ?_⟩
  intro apdu entity h
  simp only [exampleBer] at h ⊢
  split at h
  · rename_i haarq
    obtain rfl := Except.ok.inj h
    rw [if_pos rfl, haarq]
  · have hentity : entity = exampleAareBytes := by
      unfold encodeOne at h
      split at h
      · exact (Except.ok.inj h).symm
      · cases h
    rw [if_neg (by rw [hentity]; decide)]
    exact decodeOne h

set_option maxRecDepth 8000 in
/-- A client and its server agree, and data goes both ways. -/
theorem association_agreement_example : ∃ client,
    connect exampleBer (answer exampleBer fun _ _ => .ok (some exampleData)) exampleOptions
      (some exampleData) = .ok client ∧
    (send exampleBer client [exampleData]).isOk ∧
    Agreed exampleBer (fun _ _ => .ok (some exampleData)) exampleOptions (some exampleData)
      client :=
  ⟨_, rfl, rfl, (association_agreement exampleBer_inverse).2 rfl⟩

end HatDrivers.Acse
