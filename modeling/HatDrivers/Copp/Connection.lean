import HatDrivers.Cosp.Connection
import HatDrivers.Lib.Dict

namespace HatDrivers.Copp

open HatDrivers.Lib Cosp

/-!
# COPP — connections

Syntax names have identifiers in a presentation connection, which the client chooses and tells in
its CP PPDU.  The server makes a table of its own of them, and answers with a CPA PPDU.

* `SyntaxNames.getName_getId` — data is told by the identifier of its syntax;
* `connect_eq_ok` — the client has a connection just if the server has its mirror, with the same
  table;
* `receiveLoop_sent` — data is received as it was sent.
-/

abbrev ObjectIdentifier := List ℕ

/-- Data, with the name of its syntax. -/
abbrev IdentifiedEntity (Entity : Type) := ObjectIdentifier × Entity

/-! ### Syntax names -/

/-- `_syntax_id_names`, a dict.  `_syntax_name_ids` is made of it. -/
structure SyntaxNames where
  syntaxIdNames : List (ℕ × ObjectIdentifier)
  nodup : (syntaxIdNames.map Prod.fst).Nodup
  deriving DecidableEq

namespace SyntaxNames

variable {names : SyntaxNames} {id : ℕ} {name : ObjectIdentifier}

/-- The table of items, of which a later one replaces an earlier one. -/
def ofItems (items : List (ℕ × ObjectIdentifier)) : SyntaxNames :=
  ⟨dictOf items, nodup_dictOf items⟩

/-- `SyntaxNames(syntax_names)` -/
def new (syntaxNames : List ObjectIdentifier) : SyntaxNames :=
  ofItems (syntaxNames.mapIdx fun i name => (i * 2 + 1, name))

def syntaxNameIds (names : SyntaxNames) : List (ObjectIdentifier × ℕ) :=
  dictOf (names.syntaxIdNames.map Prod.swap)

def getName (names : SyntaxNames) (syntaxId : ℕ) : Except Exn ObjectIdentifier :=
  match names.syntaxIdNames.lookup syntaxId with
  | some name => .ok name
  | none => .error .keyError

def getId (names : SyntaxNames) (syntaxName : ObjectIdentifier) : Except Exn ℕ :=
  match names.syntaxNameIds.lookup syntaxName with
  | some id => .ok id
  | none => .error .keyError

theorem ofItems_syntaxIdNames (names : SyntaxNames) : ofItems names.syntaxIdNames = names := by
  obtain ⟨items, hnodup⟩ := names
  unfold ofItems
  simp only [dictOf_of_nodup hnodup]

/-- The name of the identifier of a name is the name. -/
theorem getName_getId (h : names.getId name = .ok id) : names.getName id = .ok name := by
  unfold getId at h
  split at h
  · rename_i id' hlookup
    obtain rfl := Except.ok.inj h
    obtain ⟨item, hmem, hswap⟩ := List.mem_map.mp (mem_of_dictOf hlookup)
    obtain rfl : item = (id', name) := by rw [← Prod.swap_swap item, hswap]; rfl
    rw [getName, lookup_of_mem names.nodup hmem]
  · cases h
where
  mem_of_dictOf {id : ℕ} (h : names.syntaxNameIds.lookup name = some id) :
      (name, id) ∈ names.syntaxIdNames.map Prod.swap :=
    mem_dictOf (mem_of_lookup h)

end SyntaxNames

/-! ### PPDUs -/

variable {Entity : Type}

/-- An entry of `fully-encoded-data`. -/
structure Pdv (Entity : Type) where
  presentationContextIdentifier : ℕ
  presentationDataValues : Entity
  deriving DecidableEq

/-- `User-data`, which is `fully-encoded-data`. -/
abbrev UserData (Entity : Type) := List (Pdv Entity)

structure ContextDefinition where
  presentationContextIdentifier : ℕ
  abstractSyntaxName : ObjectIdentifier
  transferSyntaxNameList : List ObjectIdentifier
  deriving DecidableEq

/-- `CP-type` -/
structure CpPpdu (Entity : Type) where
  modeValue : ℕ
  presentationContextDefinitionList : List ContextDefinition
  callingPresentationSelector : Option Bytes
  calledPresentationSelector : Option Bytes
  userData : Option (UserData Entity)
  deriving DecidableEq

structure ContextResult where
  result : ℕ
  transferSyntaxName : ObjectIdentifier
  deriving DecidableEq

/-- `CPA-PPDU` -/
structure CpaPpdu (Entity : Type) where
  modeValue : ℕ
  presentationContextDefinitionResultList : List ContextResult
  respondingPresentationSelector : Option Bytes
  userData : Option (UserData Entity)
  deriving DecidableEq

/-- What is used of `hat.asn1`. -/
structure Ber (Entity : Type) where
  /-- `_encoder.syntax_name` -/
  syntaxName : ObjectIdentifier
  encodeCp : CpPpdu Entity → Except Exn Bytes
  decodeCp : Bytes → Except Exn (CpPpdu Entity)
  encodeCpa : CpaPpdu Entity → Except Exn Bytes
  decodeCpa : Bytes → Except Exn (CpaPpdu Entity)
  encodeUserData : UserData Entity → Except Exn Bytes
  decodeUserData : Bytes → Except Exn (UserData Entity)

/-- What is encoded is decoded as it was. -/
structure Ber.Inverse (ber : Ber Entity) : Prop where
  cp : ∀ cp data, ber.encodeCp cp = .ok data → ber.decodeCp data = .ok cp
  cpa : ∀ cpa data, ber.encodeCpa cpa = .ok data → ber.decodeCpa data = .ok cpa
  userData : ∀ userData data, ber.encodeUserData userData = .ok data →
    ber.decodeUserData data = .ok userData

/-- `_user_data` -/
def userData (syntaxNames : SyntaxNames) (userData : IdentifiedEntity Entity) :
    Except Exn (UserData Entity) := do
  let id ← syntaxNames.getId userData.1
  return [⟨id, userData.2⟩]

/-- `_user_data` of data that may be missing. -/
def optionalUserData (syntaxNames : SyntaxNames) :
    Option (IdentifiedEntity Entity) → Except Exn (Option (UserData Entity))
  | none => .ok none
  | some data => do return some (← userData syntaxNames data)

/-- `user_data[1][0]` of `params['user-data']`, with the name of its syntax. -/
def getUserData (syntaxNames : SyntaxNames) :
    Option (UserData Entity) → Except Exn (IdentifiedEntity Entity)
  | none => .error .keyError
  | some [] => .error .indexError
  | some (pdv :: _) => do
    let name ← syntaxNames.getName pdv.presentationContextIdentifier
    return (name, pdv.presentationDataValues)

/-- `psel.to_bytes(4, 'big')` -/
def pselBytes : Option ℕ → Except Exn (Option Bytes)
  | none => .ok none
  | some psel =>
    if psel < 256 ^ 4 then .ok (some (bytesOf (beDigits 4 psel))) else .error .overflowError

/-- `int.from_bytes(data, 'big')` of data that is not missing or empty. -/
def pselOf (data : Option Bytes) : Option ℕ :=
  data.bind fun data => if data = [] then none else some (ofBE data)

/-- `_cp_ppdu` -/
def cpPpdu (ber : Ber Entity) (syntaxNames : SyntaxNames) (callingPsel calledPsel : Option ℕ)
    (userData : Option (IdentifiedEntity Entity)) : Except Exn (CpPpdu Entity) := do
  let callingPresentationSelector ← pselBytes callingPsel
  let calledPresentationSelector ← pselBytes calledPsel
  let userData ← optionalUserData syntaxNames userData
  return {
    modeValue := 1
    presentationContextDefinitionList := syntaxNames.syntaxIdNames.map fun item =>
      ⟨item.1, item.2, [ber.syntaxName]⟩
    callingPresentationSelector := callingPresentationSelector
    calledPresentationSelector := calledPresentationSelector
    userData := userData }

/-- `_cpa_ppdu` -/
def cpaPpdu (ber : Ber Entity) (syntaxNames : SyntaxNames) (respondingPsel : Option ℕ)
    (userData : Option (IdentifiedEntity Entity)) : Except Exn (CpaPpdu Entity) := do
  let respondingPresentationSelector ← pselBytes respondingPsel
  let userData ← optionalUserData syntaxNames userData
  return {
    modeValue := 1
    presentationContextDefinitionResultList := syntaxNames.syntaxIdNames.map fun _ =>
      ⟨0, ber.syntaxName⟩
    respondingPresentationSelector := respondingPresentationSelector
    userData := userData }

/-- `_sytax_names_from_cp_ppdu` -/
def syntaxNamesFromCpPpdu (cp : CpPpdu Entity) : SyntaxNames :=
  .ofItems (cp.presentationContextDefinitionList.map fun definition =>
    (definition.presentationContextIdentifier, definition.abstractSyntaxName))

/-- `_get_psels` -/
def getPsels (cp : CpPpdu Entity) : Option ℕ × Option ℕ :=
  (pselOf cp.callingPresentationSelector, pselOf cp.calledPresentationSelector)

/-- `_validate_connect_response` -/
def validateConnectResponse (cp : CpPpdu Entity) (cpa : CpaPpdu Entity) : Except Exn Unit :=
  match pselOf cp.calledPresentationSelector, pselOf cpa.respondingPresentationSelector with
  | some calledPsel, some respondingPsel =>
    if calledPsel ≠ respondingPsel then
      .error (.exception "presentation selectors not matching")
    else results
  | _, _ => results
where
  results : Except Exn Unit :=
    if ∃ result ∈ cpa.presentationContextDefinitionResultList, result.result ≠ 0 then
      .error (.exception "presentation context not accepted")
    else .ok ()

/-! ### Connections -/

structure Connection (Entity : Type) where
  conn : Cosp.Connection
  syntaxNames : SyntaxNames
  connReqUserData : IdentifiedEntity Entity
  connResUserData : IdentifiedEntity Entity
  localPsel : Option ℕ
  remotePsel : Option ℕ

/-- The connection of the other end. -/
def Connection.mirror (conn : Connection Entity) : Connection Entity :=
  { conn with
    conn := conn.conn.mirror, localPsel := conn.remotePsel, remotePsel := conn.localPsel }

@[simp] theorem Connection.mirror_mirror (conn : Connection Entity) : conn.mirror.mirror = conn :=
  rfl

/-- `Connection.__init__` -/
def Connection.new (conn : Cosp.Connection) (syntaxNames : SyntaxNames) (cp : CpPpdu Entity)
    (cpa : CpaPpdu Entity) (localPsel remotePsel : Option ℕ) :
    Except Exn (Connection Entity) := do
  let connReqUserData ← getUserData syntaxNames cp.userData
  let connResUserData ← getUserData syntaxNames cpa.userData
  return ⟨conn, syntaxNames, connReqUserData, connResUserData, localPsel, remotePsel⟩

/-- `_decode(name, data)` of data that may be missing. -/
def decodeOptional {α : Type} (decode : Bytes → Except Exn α) : Option Bytes → Except Exn α
  | none => .error .typeError
  | some data => decode data

/-- The selectors of both layers. -/
structure Selectors where
  localPsel : Option ℕ
  remotePsel : Option ℕ
  localSsel : Option ℕ
  remoteSsel : Option ℕ
  deriving DecidableEq

/-- The selectors of the other end. -/
def Selectors.mirror (sels : Selectors) : Selectors :=
  ⟨sels.remotePsel, sels.localPsel, sels.remoteSsel, sels.localSsel⟩

/-- `connect` -/
def connect (ber : Ber Entity) (peer : Bytes → Except Exn Bytes) (syntaxNames : SyntaxNames)
    (userData : Option (IdentifiedEntity Entity)) (sels : Selectors) :
    Except Exn (Connection Entity) := do
  let cp ← cpPpdu ber syntaxNames sels.localPsel sels.remotePsel userData
  let cpData ← ber.encodeCp cp
  let conn ← Cosp.connect peer (some cpData) sels.localSsel sels.remoteSsel
  let cpa ← decodeOptional ber.decodeCpa conn.connResUserData
  validateConnectResponse cp cpa
  let (callingPsel, calledPsel) := getPsels cp
  Connection.new conn syntaxNames cp cpa callingPsel calledPsel

/-- The callback that validates the request of a client. -/
abbrev ValidateCb (Entity : Type) :=
  SyntaxNames → IdentifiedEntity Entity → Except Exn (Option (IdentifiedEntity Entity))

/-- `Server._on_validate` -/
def onValidate (ber : Ber Entity) (validateCb : ValidateCb Entity) (data : Option Bytes) :
    Except Exn (Option Bytes) := do
  let cp ← decodeOptional ber.decodeCp data
  let calledPsel := (getPsels cp).2
  let syntaxNames := syntaxNamesFromCpPpdu cp
  let cpUserData ← getUserData syntaxNames cp.userData
  let cpaUserData ← validateCb syntaxNames cpUserData
  let cpa ← cpaPpdu ber syntaxNames calledPsel cpaUserData
  let cpaData ← ber.encodeCpa cpa
  return some cpaData

/-- `Server._on_connection` up to its connection. -/
def onConnection (ber : Ber Entity) (conn : Cosp.Connection) : Except Exn (Connection Entity) := do
  let cp ← decodeOptional ber.decodeCp conn.connReqUserData
  let cpa ← decodeOptional ber.decodeCpa conn.connResUserData
  let (callingPsel, calledPsel) := getPsels cp
  Connection.new conn (syntaxNamesFromCpPpdu cp) cp cpa calledPsel callingPsel

/-- What a server answers, and its connection. -/
def accept (ber : Ber Entity) (validateCb : ValidateCb Entity) (cnBytes : Bytes) :
    Except Exn (Bytes × Except Exn (Connection Entity)) := do
  let (acBytes, conn) ← Cosp.onConnection (onValidate ber validateCb) cnBytes
  return (acBytes, onConnection ber conn)

/-- What a client gets of a server. -/
def answer (ber : Ber Entity) (validateCb : ValidateCb Entity) (cnBytes : Bytes) :
    Except Exn Bytes :=
  lost ((accept ber validateCb cnBytes).map Prod.fst)

/-! ### Agreement -/

variable {ber : Ber Entity} {validateCb : ValidateCb Entity} {syntaxNames : SyntaxNames}
variable {data : Option (IdentifiedEntity Entity)} {sels : Selectors} {cp : CpPpdu Entity}
variable {cpa : CpaPpdu Entity} {client : Connection Entity}

/-- A selector is read back. -/
theorem pselOf_pselBytes {psel : Option ℕ} {bytes : Option Bytes} (h : pselBytes psel = .ok bytes) :
    pselOf bytes = psel := by
  cases psel with
  | none =>
    obtain rfl := Except.ok.inj h
    rfl
  | some psel =>
    simp only [pselBytes] at h
    split at h
    · rename_i hlt
      obtain rfl := Except.ok.inj h
      have hne : bytesOf (beDigits 4 psel) ≠ [] := by
        intro hnil
        have hlength := length_bytesOf (beDigits 4 psel)
        rw [hnil, length_beDigits] at hlength
        cases hlength
      show (if bytesOf (beDigits 4 psel) = [] then none else some _) = some psel
      rw [if_neg hne, ofBE_beDigits_of_lt hlt]
    · cases h

/-- The fields of a CP PPDU. -/
theorem cpPpdu_eq_ok {callingPsel calledPsel : Option ℕ}
    (h : cpPpdu ber syntaxNames callingPsel calledPsel data = .ok cp) :
    syntaxNamesFromCpPpdu cp = syntaxNames ∧ getPsels cp = (callingPsel, calledPsel) ∧
      optionalUserData syntaxNames data = .ok cp.userData := by
  obtain ⟨calling, hcalling, h⟩ := bind_eq_ok.mp h
  obtain ⟨called, hcalled, h⟩ := bind_eq_ok.mp h
  obtain ⟨userData, huserData, h⟩ := bind_eq_ok.mp h
  obtain rfl := Except.ok.inj h
  refine ⟨?_, ?_, huserData⟩
  · show SyntaxNames.ofItems (List.map _ (List.map _ syntaxNames.syntaxIdNames)) = syntaxNames
    rw [List.map_map]
    exact (congrArg _ (List.map_id _)).trans (SyntaxNames.ofItems_syntaxIdNames syntaxNames)
  · rw [getPsels, pselOf_pselBytes hcalling, pselOf_pselBytes hcalled]

/-- The client accepts the response of a server. -/
theorem validate_cpaPpdu (h : cpaPpdu ber syntaxNames (getPsels cp).2 data = .ok cpa) :
    validateConnectResponse cp cpa = .ok () := by
  obtain ⟨responding, hresponding, h⟩ := bind_eq_ok.mp h
  obtain ⟨userData, -, h⟩ := bind_eq_ok.mp h
  obtain rfl := Except.ok.inj h
  have hpsel : pselOf responding = pselOf cp.calledPresentationSelector :=
    pselOf_pselBytes hresponding
  have hresults : ∀ result ∈ syntaxNames.syntaxIdNames.map fun _ =>
      (⟨0, ber.syntaxName⟩ : ContextResult), result.result = 0 := by
    intro result hmem
    obtain ⟨_, _, rfl⟩ := List.mem_map.mp hmem
    rfl
  unfold validateConnectResponse validateConnectResponse.results
  simp only [hpsel]
  cases pselOf cp.calledPresentationSelector <;> simp

/-- The data that is written is the data that is read. -/
theorem getUserData_optional {data : IdentifiedEntity Entity} {written : Option (UserData Entity)}
    (h : optionalUserData syntaxNames (some data) = .ok written) :
    getUserData syntaxNames written = .ok data := by
  obtain ⟨userData, huserData, h⟩ := bind_eq_ok.mp h
  obtain rfl := Except.ok.inj h
  obtain ⟨id, hid, huserData⟩ := bind_eq_ok.mp huserData
  obtain rfl := Except.ok.inj huserData
  show (do let name ← syntaxNames.getName id; return (name, data.2)) = .ok data
  rw [SyntaxNames.getName_getId hid]
  rfl

/-- What is read is what was written. -/
theorem eq_of_getUserData {written : Option (UserData Entity)} {read : IdentifiedEntity Entity}
    (h : optionalUserData syntaxNames data = .ok written)
    (hread : getUserData syntaxNames written = .ok read) : data = some read := by
  cases data with
  | none =>
    obtain rfl := Except.ok.inj h
    cases hread
  | some data => rw [Except.ok.inj ((getUserData_optional h).symm.trans hread)]

/-- The CN SPDU that `connect` sends. -/
def request (ber : Ber Entity) (syntaxNames : SyntaxNames)
    (userData : Option (IdentifiedEntity Entity)) (sels : Selectors) : Except Exn Bytes := do
  let cp ← cpPpdu ber syntaxNames sels.localPsel sels.remotePsel userData
  let cpData ← ber.encodeCp cp
  encode (cnSpdu sels.localSsel sels.remoteSsel (some cpData))

theorem answer_eq (ber : Ber Entity) (validateCb : ValidateCb Entity) :
    answer ber validateCb =
      fun cn => lost ((Cosp.onConnection (onValidate ber validateCb) cn).map Prod.fst) := by
  funext cn
  unfold answer accept
  cases Cosp.onConnection (onValidate ber validateCb) cn <;> rfl

theorem new_mirror {conn : Cosp.Connection} {localPsel remotePsel : Option ℕ} :
    Connection.new conn.mirror syntaxNames cp cpa remotePsel localPsel = .ok client.mirror ↔
      Connection.new conn syntaxNames cp cpa localPsel remotePsel = .ok client := by
  simp only [Connection.new, bind_eq_ok, pure_eq_ok, Except.ok.injEq]
  refine exists_congr fun req => and_congr_right fun _ => exists_congr fun res =>
    and_congr_right fun _ => ?_
  constructor
  · intro h
    rw [← Connection.mirror_mirror client, ← h]
    rfl
  · intro h
    rw [← h]
    rfl

/-- What a server validates of the request of a client. -/
theorem onValidate_eq_ok (hber : ber.Inverse) {cpData : Bytes} {resData : Option Bytes}
    (hcp : cpPpdu ber syntaxNames sels.localPsel sels.remotePsel data = .ok cp)
    (hdata : ber.encodeCp cp = .ok cpData)
    (h : onValidate ber validateCb (some cpData) = .ok resData) :
    ∃ req res cpa cpaData, data = some req ∧ validateCb syntaxNames req = .ok res ∧
      cpaPpdu ber syntaxNames (getPsels cp).2 res = .ok cpa ∧ ber.encodeCpa cpa = .ok cpaData ∧
      resData = some cpaData := by
  obtain ⟨hnames, -, huserData⟩ := cpPpdu_eq_ok hcp
  obtain ⟨cp', hcp', h⟩ := bind_eq_ok.mp h
  obtain rfl := Except.ok.inj ((hber.cp _ _ hdata).symm.trans hcp')
  obtain ⟨req, hreq, h⟩ := bind_eq_ok.mp h
  obtain ⟨res, hres, h⟩ := bind_eq_ok.mp h
  obtain ⟨cpa, hcpa, h⟩ := bind_eq_ok.mp h
  obtain ⟨cpaData, hcpaData, h⟩ := bind_eq_ok.mp h
  rw [hnames] at hreq hres hcpa
  exact ⟨req, res, cpa, cpaData, eq_of_getUserData huserData hreq, hres, hcpa, hcpaData,
    (Except.ok.inj h).symm⟩

/-- The ends finish alike. -/
theorem onConnection_mirror (hber : ber.Inverse) {cpData : Bytes} {conn : Cosp.Connection}
    (hcp : cpPpdu ber syntaxNames sels.localPsel sels.remotePsel data = .ok cp)
    (hdata : ber.encodeCp cp = .ok cpData) (hreq : conn.connReqUserData = some cpData)
    (hres : onValidate ber validateCb (some cpData) = .ok conn.connResUserData) :
    onConnection ber conn.mirror = .ok client.mirror ↔
      (do
        let cpa ← decodeOptional ber.decodeCpa conn.connResUserData
        validateConnectResponse cp cpa
        let (callingPsel, calledPsel) := getPsels cp
        Connection.new conn syntaxNames cp cpa callingPsel calledPsel) = .ok client := by
  obtain ⟨req, res, cpa, cpaData, -, -, hcpa, hcpaData, hresData⟩ :=
    onValidate_eq_ok hber hcp hdata hres
  have hdecode : decodeOptional ber.decodeCp conn.mirror.connReqUserData = .ok cp := by
    show decodeOptional ber.decodeCp conn.connReqUserData = .ok cp
    rw [hreq]
    exact hber.cp _ _ hdata
  have hdecodeRes : decodeOptional ber.decodeCpa conn.connResUserData = .ok cpa := by
    rw [hresData]
    exact hber.cpa _ _ hcpaData
  have hmirrorRes : decodeOptional ber.decodeCpa conn.mirror.connResUserData = .ok cpa := hdecodeRes
  rw [onConnection, hdecode, ok_bind, hmirrorRes, ok_bind, hdecodeRes, ok_bind,
    validate_cpaPpdu hcpa, (cpPpdu_eq_ok hcp).1]
  exact new_mirror

/-- **Presentation.**  The client has a connection just if the server has its mirror. -/
theorem connect_eq_ok (hber : ber.Inverse) :
    connect ber (answer ber validateCb) syntaxNames data sels = .ok client ↔
      ∃ cnBytes acBytes, request ber syntaxNames data sels = .ok cnBytes ∧
        accept ber validateCb cnBytes = .ok (acBytes, .ok client.mirror) := by
  rw [answer_eq]
  constructor
  · intro h
    obtain ⟨cp, hcp, h⟩ := bind_eq_ok.mp h
    obtain ⟨cpData, hdata, h⟩ := bind_eq_ok.mp h
    obtain ⟨conn, hconn, h⟩ := bind_eq_ok.mp h
    obtain ⟨cnBytes, acBytes, hcn, hserver⟩ := Cosp.connect_eq_ok.mp hconn
    obtain ⟨resData, hres, rfl⟩ := connect_info hconn
    refine ⟨cnBytes, acBytes, ?_, ?_⟩
    · rw [request, hcp, ok_bind, hdata, ok_bind, hcn]
    · rw [accept, hserver, ok_bind]
      show Except.ok (acBytes, onConnection ber _) = _
      rw [(onConnection_mirror hber hcp hdata rfl hres).mpr h]
  · rintro ⟨cnBytes, acBytes, hrequest, haccept⟩
    obtain ⟨cp, hcp, hrequest⟩ := bind_eq_ok.mp hrequest
    obtain ⟨cpData, hdata, hcn⟩ := bind_eq_ok.mp hrequest
    obtain ⟨⟨acBytes', server⟩, hserver, haccept⟩ := bind_eq_ok.mp haccept
    obtain ⟨rfl, hfinish⟩ := Prod.mk.inj (Except.ok.inj haccept)
    obtain ⟨resData, hres, -, rfl⟩ := (onConnection_eq_ok hcn).mp hserver
    let conn : Cosp.Connection := ⟨some cpData, resData, sels.localSsel, sels.remoteSsel⟩
    have hconn : Cosp.connect _ (some cpData) sels.localSsel sels.remoteSsel = .ok conn :=
      Cosp.connect_eq_ok.mpr ⟨cnBytes, acBytes', hcn, hserver⟩
    have hmirror : onConnection ber conn.mirror = .ok client.mirror := hfinish
    rw [connect, hcp, ok_bind, hdata, ok_bind, hconn, ok_bind]
    exact (onConnection_mirror hber hcp hdata rfl hres).mp hmirror

def Connection.selectors (conn : Connection Entity) : Selectors :=
  ⟨conn.localPsel, conn.remotePsel, conn.conn.localSsel, conn.conn.remoteSsel⟩

/-- What the user of a client knows of its connection. -/
theorem connect_info (hber : ber.Inverse)
    (h : connect ber (answer ber validateCb) syntaxNames data sels = .ok client) :
    ∃ req res, data = some req ∧ validateCb syntaxNames req = .ok (some res) ∧
      client.syntaxNames = syntaxNames ∧ client.connReqUserData = req ∧
      client.connResUserData = res ∧ client.selectors = sels := by
  rw [answer_eq] at h
  obtain ⟨cp, hcp, h⟩ := bind_eq_ok.mp h
  obtain ⟨cpData, hdata, h⟩ := bind_eq_ok.mp h
  obtain ⟨conn, hconn, h⟩ := bind_eq_ok.mp h
  obtain ⟨resData, hres, rfl⟩ := Cosp.connect_info hconn
  obtain ⟨hnames, hpsels, huserData⟩ := cpPpdu_eq_ok hcp
  obtain ⟨req, res, cpa, cpaData, rfl, hvalidate, hcpa, hcpaData, rfl⟩ :=
    onValidate_eq_ok hber hcp hdata hres
  obtain ⟨cpa', hcpa', h⟩ := bind_eq_ok.mp h
  obtain rfl := Except.ok.inj ((hber.cpa _ _ hcpaData).symm.trans hcpa')
  rw [validate_cpaPpdu hcpa, ok_bind, hpsels] at h
  obtain ⟨req', hreq', h⟩ := bind_eq_ok.mp h
  obtain ⟨res', hres', h⟩ := bind_eq_ok.mp h
  obtain rfl := Except.ok.inj h
  obtain rfl := Option.some.inj (eq_of_getUserData huserData hreq')
  have hwritten : optionalUserData syntaxNames res = .ok cpa.userData := by
    obtain ⟨_, -, hcpa⟩ := bind_eq_ok.mp hcpa
    obtain ⟨written, hwritten, hcpa⟩ := bind_eq_ok.mp hcpa
    obtain rfl := Except.ok.inj hcpa
    exact hwritten
  obtain rfl := eq_of_getUserData hwritten hres'
  exact ⟨req, res', rfl, hvalidate, rfl, rfl, rfl, rfl⟩

/-! ### Data -/

/-- What `_send_loop` sends of data, on both layers. -/
def sendData (ber : Ber Entity) (syntaxNames : SyntaxNames) (data : IdentifiedEntity Entity) :
    Except Exn Bytes := do
  let userData ← userData syntaxNames data
  let ppduData ← ber.encodeUserData userData
  Cosp.sendData ppduData

/-- What `_receive_loop` puts in its queue, and the exception that it ends with, if any. -/
def receiveLoop (ber : Ber Entity) (syntaxNames : SyntaxNames) :
    List Bytes → List (IdentifiedEntity Entity) × Option Exn
  | [] => ([], none)
  | cospData :: rest =>
    match (do
      let userData ← ber.decodeUserData cospData
      getUserData syntaxNames (some userData)) with
    | .error e => ([], some e)
    | .ok data =>
      let (received, e) := receiveLoop ber syntaxNames rest
      (data :: received, e)

/-- What is received of messages, on both layers. -/
def received (ber : Ber Entity) (syntaxNames : SyntaxNames) (messages : List Bytes) :
    List (IdentifiedEntity Entity) :=
  (receiveLoop ber syntaxNames (Cosp.receiveLoop [] messages).1).1

/-- Data is told by the identifier of its syntax. -/
theorem getUserData_userData {data : IdentifiedEntity Entity} {written : UserData Entity}
    (h : userData syntaxNames data = .ok written) :
    getUserData syntaxNames (some written) = .ok data := by
  apply getUserData_optional
  rw [optionalUserData, h]
  rfl

/-- **Data is received as it was sent**, by an end with the same table. -/
theorem received_sent (hber : ber.Inverse) {messages : List (IdentifiedEntity Entity)}
    {sent : List Bytes} (h : messages.mapM (sendData ber syntaxNames) = .ok sent) :
    received ber syntaxNames sent = messages := by
  have hppdus : ∃ ppdus, ppdus.mapM Cosp.sendData = .ok sent ∧
      receiveLoop ber syntaxNames ppdus = (messages, none) := by
    induction messages generalizing sent with
    | nil =>
      obtain rfl := Except.ok.inj h
      exact ⟨[], rfl, rfl⟩
    | cons data messages ih =>
      rw [List.mapM_cons] at h
      obtain ⟨msg, hmsg, h⟩ := bind_eq_ok.mp h
      obtain ⟨rest, hrest, h⟩ := bind_eq_ok.mp h
      obtain rfl := Except.ok.inj h
      obtain ⟨written, hwritten, hmsg⟩ := bind_eq_ok.mp hmsg
      obtain ⟨ppdu, hppdu, hmsg⟩ := bind_eq_ok.mp hmsg
      obtain ⟨ppdus, hppdus, hreceive⟩ := ih hrest
      refine ⟨ppdu :: ppdus, ?_, ?_⟩
      · rw [List.mapM_cons, hmsg, ok_bind, hppdus]
        rfl
      · simp only [receiveLoop, hber.userData _ _ hppdu, ok_bind, getUserData_userData hwritten,
          hreceive]
  obtain ⟨ppdus, hppdus, hreceive⟩ := hppdus
  rw [received, Cosp.receiveLoop_sent hppdus, hreceive]

end HatDrivers.Copp
