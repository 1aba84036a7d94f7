import HatDrivers.Smpp.Transport.Connection
import HatDrivers.Smpp.Transport.Encodable

namespace HatDrivers.Smpp.Transport

open HatDrivers.Lib

/-!
# SMPP — serving of requests

A request is answered by one PDU with its sequence number and the response bit in its command,
whatever its body is and whatever the callback does, as long as a response that the callback
returns for the command can be encoded (`requests_answered_iff`).  The answer is encoded outside
of what catches the exceptions of the decoder and the callback, so that the receive loop ends
with a response that cannot be.
-/

/-! ### Written PDUs -/

/-- A PDU as long as its header says. -/
def WellFramed (pdu : Bytes) : Prop :=
  ∃ header, decodeHeader (pdu.take headerLength) = .ok header ∧ header.commandLength = pdu.length

/-- The command and the sequence number of a PDU with the response bit. -/
def answerOf (pdu : Bytes) : Option (ℕ × ℕ) :=
  match decodeHeader (pdu.take headerLength) with
  | .ok header =>
    if bit header.commandId.value 0x80000000 then
      some (header.commandId.value, header.sequenceNumber)
    else none
  | .error _ => none

/-- What is written of a header and a body. -/
theorem encodePdu_eq_ok {commandId : CommandId} {commandStatus : CommandStatus}
    {sequenceNumber : ℕ} {body : Option Body} {pdu : Bytes}
    (h : encodePdu commandId commandStatus sequenceNumber body = .ok pdu) :
    WellFramed pdu ∧ answerOf pdu = if bit commandId.value 0x80000000 then
      some (commandId.value, sequenceNumber) else none := by
  obtain ⟨bodyBytes, _, h⟩ := bind_eq_ok.mp h
  obtain ⟨headerBytes, hheader, h⟩ := bind_eq_ok.mp h
  obtain rfl := Except.ok.inj h
  obtain ⟨hlength, hdecode⟩ := decodeHeader_encodeHeader hheader (Nat.le_add_right _ _)
  have htake : (bytesOf (headerBytes ++ bodyBytes)).take headerLength = bytesOf headerBytes := by
    rw [bytesOf_append]
    exact take_bytesOf_append hlength _
  constructor
  · refine ⟨_, by rw [htake]; exact hdecode, ?_⟩
    rw [length_bytesOf, List.length_append, hlength]
  · rw [answerOf, htake, hdecode]

/-- When there is a PDU for a body. -/
theorem exists_encodePdu {commandId : CommandId} {commandStatus : CommandStatus}
    {sequenceNumber : ℕ} {body : Option Body} {p : Prop} {size : ℕ}
    (hbody : WritesIff p size (encodeOptionalBody body)) (hnumber : sequenceNumber < 256 ^ 4) :
    (∃ pdu, encodePdu commandId commandStatus sequenceNumber body = .ok pdu) ↔
      p ∧ headerLength + size < 256 ^ 4 := by
  constructor
  · rintro ⟨pdu, h⟩
    obtain ⟨bodyBytes, hbodyBytes, h⟩ := bind_eq_ok.mp h
    obtain ⟨headerBytes, hheader, _⟩ := bind_eq_ok.mp h
    have hlt := (encodeHeader_writesIff _).ok_iff.mp ⟨headerBytes, hheader⟩
    rw [hbody.length_eq bodyBytes hbodyBytes] at hlt
    exact ⟨hbody.ok_iff.mp ⟨bodyBytes, hbodyBytes⟩, hlt.1⟩
  · rintro ⟨hp, hlt⟩
    obtain ⟨bodyBytes, hbodyBytes⟩ := hbody.ok_iff.mpr hp
    rw [← hbody.length_eq bodyBytes hbodyBytes] at hlt
    obtain ⟨headerBytes, hheader⟩ := (encodeHeader_writesIff
      ⟨headerLength + bodyBytes.length, commandId, commandStatus, sequenceNumber⟩).ok_iff.mpr
      ⟨hlt, hnumber⟩
    exact ⟨_, bind_eq_ok.mpr ⟨bodyBytes, hbodyBytes, bind_eq_ok.mpr ⟨headerBytes, hheader, rfl⟩⟩⟩

/-! ### Answers -/

variable {header : Header} {pdu : Bytes}

/-- The command and the sequence number that an answer to a request has. -/
def answer (header : Header) : ℕ × ℕ := (responseValue header.commandId, header.sequenceNumber)

theorem exists_responseCommandId {commandId : CommandId} (h : commandId ∈ requestCommandIds) :
    ∃ resCommandId : CommandId, enumOf (responseValue commandId) = .ok resCommandId ∧
      resCommandId.value = responseValue commandId ∧
      bit resCommandId.value 0x80000000 = true := by
  revert h
  cases commandId <;> intro h <;> first
    | exact absurd h (by decide)
    | exact ⟨_, rfl, rfl, rfl⟩

/-- An answer carries the number of the request, and the response bit. -/
theorem encodeAnswer_eq_ok (hrequest : header.commandId ∈ requestCommandIds)
    {reply : CommandStatus × Option Response} (h : encodeAnswer header reply = .ok pdu) :
    WellFramed pdu ∧ answerOf pdu = some (answer header) := by
  obtain ⟨resCommandId, hid, hvalue, hbit⟩ := exists_responseCommandId hrequest
  have hpdu : ∀ {commandStatus : CommandStatus} {body : Option Body},
      encodePdu resCommandId commandStatus header.sequenceNumber body = .ok pdu →
      WellFramed pdu ∧ answerOf pdu = some (answer header) := by
    intro commandStatus body hpdu
    obtain ⟨hframed, hanswer⟩ := encodePdu_eq_ok hpdu
    rw [hbit, if_pos rfl, hvalue] at hanswer
    exact ⟨hframed, hanswer⟩
  obtain ⟨resCommandId', hid', h⟩ := bind_eq_ok.mp h
  obtain rfl := Except.ok.inj (hid.symm.trans hid')
  obtain ⟨commandStatus, _ | res⟩ := reply
  · exact hpdu h
  · simp only at h
    split at h
    · exact hpdu h
    · exact hpdu h

/-- An answer without a response can always be written. -/
theorem exists_encodeAnswer_none (hrequest : header.commandId ∈ requestCommandIds)
    (hnumber : header.sequenceNumber < 256 ^ 4) (commandStatus : CommandStatus) :
    ∃ pdu, encodeAnswer header (commandStatus, none) = .ok pdu := by
  obtain ⟨resCommandId, hid, _, _⟩ := exists_responseCommandId hrequest
  have hnone : WritesIff True 0 (encodeOptionalBody none) := WritesIff.ok []
  obtain ⟨pdu, hpdu⟩ := (exists_encodePdu hnone hnumber).mpr ⟨trivial, by norm_num [headerLength]⟩
  exact ⟨pdu, bind_eq_ok.mpr ⟨resCommandId, hid, hpdu⟩⟩

/-- **An answer with a response of the right command needs one that can be sent.** -/
theorem exists_encodeAnswer_res (hrequest : header.commandId ∈ requestCommandIds)
    (hnumber : header.sequenceNumber < 256 ^ 4) (commandStatus : CommandStatus) (res : Response) :
    (∃ pdu, encodeAnswer header (commandStatus, some res) = .ok pdu) ↔
      ((getResponseCommandId res).value = responseValue header.commandId → res.Sendable) := by
  obtain ⟨resCommandId, hid, hvalue, _⟩ := exists_responseCommandId hrequest
  have hbind : encodeAnswer header (commandStatus, some res) =
      if getResponseCommandId res ≠ resCommandId then
        encodePdu resCommandId .ESME_RSYSERR header.sequenceNumber none
      else encodePdu resCommandId commandStatus header.sequenceNumber (some (.res res)) := by
    rw [encodeAnswer, hid]
    rfl
  rw [hbind, ← hvalue]
  by_cases heq : getResponseCommandId res = resCommandId
  · have hres : WritesIff res.Encodable res.bodyLength (encodeOptionalBody (some (.res res))) :=
      encodeResponse_writesIff res
    rw [if_neg (not_not_intro heq), exists_encodePdu hres hnumber, heq]
    exact ⟨fun hsendable _ => hsendable, fun hsendable => hsendable rfl⟩
  · have hne : (getResponseCommandId res).value ≠ resCommandId.value :=
      fun hval => heq (Enumeration.value_injective hval)
    have hnone : WritesIff True 0 (encodeOptionalBody none) := WritesIff.ok []
    rw [if_pos heq, exists_encodePdu hnone hnumber]
    exact iff_of_true ⟨trivial, by norm_num [headerLength]⟩ fun hval => absurd hval hne

/-! ### The connection -/

/-- Events of a connection that nobody closes, the peer of which sends well-framed PDUs. -/
def Event.Serves : Event → Prop
  | .header headerBytes => ∃ header, decodeHeader headerBytes = .ok header
  | .lost | .close => False
  | _ => True

namespace Connection

variable {s s' : Connection}

/-- The requests that were received. -/
def requests (s : Connection) : List Header :=
  (s.received.map Prod.fst).filter (·.commandId ∈ requestCommandIds)

/-- The request that the callback is called with. -/
def inProgress (s : Connection) : List Header :=
  match s.receiveLoop with
  | .calling header _ => [header]
  | _ => []

/-- Every request but the one in the callback was answered once, in their order, and the loop is
there for the next one. -/
structure Answered (s : Connection) : Prop where
  alive : s.receiveLoop ≠ .ended
  framed : ∀ pdu ∈ s.written, WellFramed pdu
  answers_eq : s.written.filterMap answerOf ++ s.inProgress.map answer = s.requests.map answer

/-- A response that the callback returns for the command of the request can be sent. -/
def Sends (s : Connection) (e : Event) : Prop :=
  ∀ header req res, s.receiveLoop = .calling header req → e = .returned (.ok (.res res)) →
    (getResponseCommandId res).value = responseValue header.commandId → res.Sendable

/-- What a connection keeps to as long as it serves. -/
structure Serving (s : Connection) : Prop extends Answered s where
  isOpen_eq : s.isOpen = true
  header_lt : ∀ header, s.receiveLoop = .body header → header.sequenceNumber < 256 ^ 4
  calling : ∀ header req, s.receiveLoop = .calling header req →
    header.commandId ∈ requestCommandIds ∧ header.sequenceNumber < 256 ^ 4

/-- What serving looks at. -/
theorem Serving.congr (h : Serving s) (hopen : s'.isOpen = s.isOpen)
    (hloop : s'.receiveLoop = s.receiveLoop) (hreceived : s'.received = s.received)
    (hwritten : s'.written = s.written) : Serving s' where
  alive := by
    rw [hloop]
    exact h.alive
  framed := by
    rw [hwritten]
    exact h.framed
  answers_eq := by
    rw [hwritten, inProgress, hloop, requests, hreceived]
    exact h.answers_eq
  isOpen_eq := hopen.trans h.isOpen_eq
  header_lt := by
    rw [hloop]
    exact h.header_lt
  calling := by
    rw [hloop]
    exact h.calling

/-- A PDU without the response bit is written. -/
theorem Serving.append (h : Serving s) {pdu : Bytes} (hframed : WellFramed pdu)
    (hanswer : answerOf pdu = none) : Serving { s with written := s.written ++ [pdu] } where
  alive := h.alive
  framed := by
    intro pdu' hpdu'
    rcases List.mem_append.mp hpdu' with hpdu' | hpdu'
    · exact h.framed pdu' hpdu'
    · rw [List.mem_singleton.mp hpdu']
      exact hframed
  answers_eq := by
    have heq := h.answers_eq
    simp only [List.filterMap_append, List.filterMap_cons, hanswer, List.filterMap_nil,
      List.append_nil]
    exact heq
  isOpen_eq := h.isOpen_eq
  header_lt := h.header_lt
  calling := h.calling

/-- Between two PDUs, and in the callback for a notification, all requests are answered. -/
theorem Serving.of_idle (hloop : s.receiveLoop = .header ∨ s.receiveLoop = .notifying)
    (hopen : s.isOpen = true) (hframed : ∀ pdu ∈ s.written, WellFramed pdu)
    (hanswers : s.written.filterMap answerOf = s.requests.map answer) : Serving s where
  alive := by
    rcases hloop with hloop | hloop <;> exact hloop ▸ nofun
  framed := hframed
  answers_eq := by
    rcases hloop with hloop | hloop <;> simpa only [inProgress, hloop, List.map_nil,
      List.append_nil] using hanswers
  isOpen_eq := hopen
  header_lt := by
    intro header hbody
    rcases hloop with hloop | hloop <;> cases hloop.symm.trans hbody
  calling := by
    intro header req hcalling
    rcases hloop with hloop | hloop <;> cases hloop.symm.trans hcalling

/-- The last request is answered. -/
theorem Serving.of_write {header : Header} (hopen : s.isOpen = true)
    (hframed : ∀ pdu ∈ s.written, WellFramed pdu)
    (hanswers : s.written.filterMap answerOf ++ [answer header] = s.requests.map answer)
    (hrequest : header.commandId ∈ requestCommandIds) {reply : CommandStatus × Option Response}
    (hok : ∃ pdu, encodeAnswer header reply = .ok pdu) :
    Serving (s.write (encodeAnswer header reply)) := by
  obtain ⟨pdu, hpdu⟩ := hok
  obtain ⟨hpduFramed, hanswer⟩ := encodeAnswer_eq_ok hrequest hpdu
  have hwrite : s.write (.ok pdu) =
      { s with written := s.written ++ [pdu], receiveLoop := .header } := if_pos hopen
  rw [hpdu, hwrite]
  refine Serving.of_idle (.inl rfl) ?_ ?_ ?_
  · exact hopen
  · intro pdu' hpdu'
    rcases List.mem_append.mp hpdu' with hpdu' | hpdu'
    · exact hframed pdu' hpdu'
    · rw [List.mem_singleton.mp hpdu']
      exact hpduFramed
  · rw [List.filterMap_append, List.filterMap_cons, hanswer]
    exact hanswers

theorem requests_append (s : Connection) (header : Header) (bodyBytes : Bytes) :
    ({ s with received := s.received ++ [(header, bodyBytes)] } : Connection).requests =
      s.requests ++ [header].filter (·.commandId ∈ requestCommandIds) := by
  rw [requests, requests, List.map_append, List.filter_append]
  rfl

theorem mem_commandIds (commandId : CommandId) : commandId ∈ requestCommandIds ∨
    commandId ∈ responseCommandIds ∨ commandId ∈ notificationCommandIds := by
  cases commandId <;> decide

/-- Outside of the callback for a request, all of them are answered. -/
theorem Serving.answers (h : Serving s) (hloop : s.inProgress = []) :
    s.written.filterMap answerOf = s.requests.map answer := by
  have heq := h.answers_eq
  rwa [hloop, List.map_nil, List.append_nil] at heq

theorem Serving.receiveHeader (h : Serving s) (hloop : s.receiveLoop = .header)
    {headerBytes : Bytes} {header : Header} (hdecode : decodeHeader headerBytes = .ok header) :
    Serving (s.receiveHeader headerBytes) := by
  have hanswers := h.answers (by rw [inProgress, hloop])
  simp only [Connection.receiveHeader, hdecode]
  exact {
    alive := nofun
    framed := h.framed
    answers_eq := (List.append_nil _).trans hanswers
    isOpen_eq := h.isOpen_eq
    header_lt := by
      intro header' hbody
      cases hbody
      exact sequenceNumber_lt hdecode
    calling := fun _ _ hcalling => (by cases hcalling) }

theorem Serving.receivePdu (h : Serving s) {header : Header} (hloop : s.receiveLoop = .body header)
    (bodyBytes : Bytes) : Serving (s.receivePdu header bodyBytes) := by
  have hanswers := h.answers (by rw [inProgress, hloop])
  have hlt := h.header_lt header hloop
  have happend := requests_append s header bodyBytes
  by_cases hrequest : header.commandId ∈ requestCommandIds
  · have hrequests : s.written.filterMap answerOf ++ [answer header] =
        ({ s with received := s.received ++ [(header, bodyBytes)] } : Connection).requests.map
          answer := by
      rw [happend, hanswers, List.filter_singleton]
      simp [hrequest]
    simp only [Connection.receivePdu, if_pos hrequest, processRequest]
    cases hbody : requestBody s.requestCb header bodyBytes with
    | error commandStatus =>
      refine Serving.of_write ?_ ?_ hrequests hrequest
        (exists_encodeAnswer_none hrequest hlt commandStatus)
      · exact h.isOpen_eq
      · exact h.framed
    | ok req =>
      -- the callback is called, and the request is in progress
      exact {
        alive := nofun
        framed := h.framed
        answers_eq := hrequests
        isOpen_eq := h.isOpen_eq
        header_lt := fun _ hbody => (by cases hbody)
        calling := by
          intro header' req' hcalling
          cases hcalling
          exact ⟨hrequest, hlt⟩ }
  · have hrequests : s.written.filterMap answerOf =
        ({ s with received := s.received ++ [(header, bodyBytes)] } : Connection).requests.map
          answer := by
      rw [happend, hanswers, List.filter_singleton]
      simp [hrequest]
    simp only [Connection.receivePdu, if_neg hrequest]
    split
    · exact Serving.of_idle (.inl rfl) h.isOpen_eq h.framed hrequests
    · split
      · unfold processNotification
        split
        · exact Serving.of_idle (.inl rfl) h.isOpen_eq h.framed hrequests
        · cases decodeBody header.commandId bodyBytes with
          | ok notification => exact Serving.of_idle (.inr rfl) h.isOpen_eq h.framed hrequests
          | error e => exact Serving.of_idle (.inl rfl) h.isOpen_eq h.framed hrequests
      · rename_i hresponse hnotification
        rcases mem_commandIds header.commandId with hid | hid | hid
        · exact absurd hid hrequest
        · exact absurd hid hresponse
        · exact absurd hid hnotification

theorem Serving.returned (h : Serving s) {header : Header} {req : Body}
    (hloop : s.receiveLoop = .calling header req) {res : Except Exn Reply}
    (hsends : ∀ r, res = .ok (.res r) →
      (getResponseCommandId r).value = responseValue header.commandId → r.Sendable) :
    Serving (s.write (encodeAnswer header (callbackReply res))) := by
  obtain ⟨hrequest, hlt⟩ := h.calling header req hloop
  have hanswers : s.written.filterMap answerOf ++ [answer header] = s.requests.map answer := by
    have heq := h.answers_eq
    rwa [inProgress, hloop] at heq
  apply Serving.of_write h.isOpen_eq h.framed hanswers hrequest
  cases res with
  | error e => exact exists_encodeAnswer_none hrequest hlt _
  | ok reply =>
    cases reply with
    | status commandStatus => exact exists_encodeAnswer_none hrequest hlt _
    | res r => exact (exists_encodeAnswer_res hrequest hlt _ r).mpr (hsends r rfl)

theorem getRequestCommandId_mem (request : Request) :
    getRequestCommandId request ∈ requestCommandIds := by
  cases request with
  | BindReq req =>
    cases hbind : req.bindType <;> simp [getRequestCommandId, requestCommandIds, hbind]
  | _ => simp [getRequestCommandId, requestCommandIds]

theorem getNotificationCommandId_mem (notification : Notification) :
    getNotificationCommandId notification ∈ notificationCommandIds := by
  cases notification <;> simp [getNotificationCommandId, notificationCommandIds]

/-- What is sent on one's own has no response bit. -/
theorem bit_commandId : ∀ commandId ∈ requestCommandIds ++ notificationCommandIds,
    bit commandId.value 0x80000000 = false := by
  decide

theorem Serving.send (h : Serving s) (request : Request) : Serving (s.send request) := by
  unfold Connection.send
  split
  · exact h
  · simp only
    split
    · exact h.congr rfl rfl rfl rfl
    · cases hpdu : encodePdu (getRequestCommandId request) .ESME_ROK (sequenceNumberOf s.count)
          (some (.req request)) with
      | error e => exact h.congr rfl rfl rfl rfl
      | ok pdu =>
        obtain ⟨hframed, hanswer⟩ := encodePdu_eq_ok hpdu
        rw [bit_commandId _ (List.mem_append_left _ (getRequestCommandId_mem request))] at hanswer
        exact (h.append hframed hanswer).congr rfl rfl rfl rfl

theorem Serving.notify (h : Serving s) (notification : Notification) :
    Serving (s.notify notification) := by
  unfold Connection.notify
  split
  · exact h
  · simp only
    split
    · exact h.congr rfl rfl rfl rfl
    · cases hpdu : encodePdu (getNotificationCommandId notification) .ESME_ROK
          (sequenceNumberOf s.count) (some (.notification notification)) with
      | error e => exact h.congr rfl rfl rfl rfl
      | ok pdu =>
        obtain ⟨hframed, hanswer⟩ := encodePdu_eq_ok hpdu
        rw [bit_commandId _ (List.mem_append_right _
          (getNotificationCommandId_mem notification))] at hanswer
        exact (h.append hframed hanswer).congr rfl rfl rfl rfl

theorem Serving.sent (h : Serving s) (send : Send) : Serving (s.sent send) := by
  unfold Connection.sent
  cases send.future.outcome with
  | none => exact h.congr rfl rfl rfl rfl
  | some outcome => exact h.congr rfl rfl rfl rfl

theorem Serving.step (h : Serving s) {e : Event} (hserves : e.Serves) (hsends : Sends s e)
    (hs : s.step e = some s') : Serving s' := by
  cases e with
  | header headerBytes =>
    obtain ⟨header, hdecode⟩ := hserves
    simp only [Connection.step] at hs
    split at hs
    · rename_i hloop
      obtain rfl := Option.some.inj hs
      exact h.receiveHeader hloop.1 hdecode
    · cases hs
  | body bodyBytes =>
    cases hloop : s.receiveLoop with
    | body header =>
      simp only [Connection.step, hloop] at hs
      split at hs
      · obtain rfl := Option.some.inj hs
        exact h.receivePdu hloop bodyBytes
      · cases hs
    | _ => simp [Connection.step, hloop] at hs
  | returned res =>
    cases hloop : s.receiveLoop with
    | calling header req =>
      simp only [Connection.step, hloop] at hs
      obtain rfl := Option.some.inj hs
      exact h.returned hloop fun r hr => hsends header req r hloop (congrArg _ hr)
    | _ => simp [Connection.step, hloop] at hs
  | notified =>
    simp only [Connection.step] at hs
    split at hs
    · rename_i hloop
      obtain rfl := Option.some.inj hs
      refine Serving.of_idle (.inl rfl) ?_ ?_ ?_
      · exact h.isOpen_eq
      · exact h.framed
      · exact h.answers (by rw [inProgress, hloop])
    · cases hs
  | lost => exact hserves.elim
  | close => exact hserves.elim
  | send request =>
    obtain rfl := Option.some.inj hs
    exact h.send request
  | notify notification =>
    obtain rfl := Option.some.inj hs
    exact h.notify notification
  | sent number =>
    obtain ⟨call, _, hs⟩ := Option.bind_eq_some_iff.mp hs
    split at hs
    · obtain rfl := Option.some.inj hs
      exact h.sent call
    · cases hs
  | unsent number =>
    obtain ⟨call, _, hs⟩ := Option.bind_eq_some_iff.mp hs
    split at hs
    · obtain rfl := Option.some.inj hs
      exact h.congr rfl rfl rfl rfl
    · cases hs
  | cancel number =>
    obtain ⟨call, _, rfl⟩ := Option.map_eq_some_iff.mp hs
    exact h.congr rfl rfl rfl rfl
  | resume number =>
    obtain ⟨call, _, hs⟩ := Option.bind_eq_some_iff.mp hs
    split at hs
    · cases hs
    · obtain ⟨outcome, _, rfl⟩ := Option.map_eq_some_iff.mp hs
      exact h.congr rfl rfl rfl rfl

/-- The loop ends with a response that cannot be sent. -/
theorem Serving.leaves (h : Serving s) {e : Event} (hsends : ¬ Sends s e) :
    ∃ s', s.step e = some s' ∧ ¬ Answered s' := by
  simp only [Sends, not_forall] at hsends
  obtain ⟨header, req, res, hloop, rfl, hid, hres⟩ := hsends
  obtain ⟨hrequest, hlt⟩ := h.calling header req hloop
  have hnone : ¬ ∃ pdu, encodeAnswer header (.ESME_ROK, some res) = .ok pdu := by
    rw [exists_encodeAnswer_res hrequest hlt]
    exact fun hsendable => hres (hsendable hid)
  have hstep : s.step (.returned (.ok (.res res))) =
      some (s.write (encodeAnswer header (.ESME_ROK, some res))) := by
    simp only [Connection.step, hloop, callbackReply]
  refine ⟨_, hstep, fun hanswered => hanswered.alive ?_⟩
  cases hanswer : encodeAnswer header (.ESME_ROK, some res) with
  | ok pdu => exact absurd ⟨pdu, hanswer⟩ hnone
  | error e => simp only [write, endLoop]

theorem serving_init (requestCb notificationCb : Bool) : Serving (init requestCb notificationCb) :=
  .of_idle (.inl rfl) rfl nofun rfl

/-- **Requests are answered as long as the responses of the callback can be sent.** -/
theorem requests_answered_iff (requestCb notificationCb : Bool) {es : List Event}
    (hes : ∀ e ∈ es, e.Serves) :
    (∀ es' s', es' <+: es → run step (init requestCb notificationCb) es' = some s' →
      Answered s') ↔ Along step Sends (init requestCb notificationCb) es :=
  forall_safe_iff_along_of (fun _ _ _ h hserves hsends hs => h.step hserves hsends hs)
    (fun _ h => h.toAnswered) (fun _ _ h _ hsends => h.leaves hsends) hes
    (serving_init requestCb notificationCb)

theorem serves_of_decode {headerBytes bodyBytes : Bytes} {header : Header}
    (h : decodeHeader headerBytes = .ok header) (res : Except Exn Reply) :
    ∀ e ∈ [Event.header headerBytes, .body bodyBytes, .returned res], e.Serves := by
  simp only [List.forall_mem_cons]
  exact ⟨⟨header, h⟩, trivial, trivial, fun _ he => (by cases he)⟩

/-- A link is enquired, and the callback responds. -/
def enquireLink : List Event :=
  [.header (bytesOf [0, 0, 0, 16, 0, 0, 0, 0x15, 0, 0, 0, 0, 0, 0, 0, 1]), .body [],
   .returned (.ok (.res .EnquireLinkRes))]

theorem requests_answered_enquireLink :
    (run step (init true false) enquireLink).map (·.written) =
        some [bytesOf [0, 0, 0, 16, 0x80, 0, 0, 0x15, 0, 0, 0, 0, 0, 0, 0, 1]] ∧
      ∀ es' s', es' <+: enquireLink → run step (init true false) es' = some s' → Answered s' := by
  have hdecode : decodeHeader (bytesOf [0, 0, 0, 16, 0, 0, 0, 0x15, 0, 0, 0, 0, 0, 0, 0, 1]) =
      .ok ⟨16, .ENQUIRE_LINK_REQ, .ESME_ROK, 1⟩ := by decide
  have hserves : ∀ e ∈ enquireLink, e.Serves := serves_of_decode hdecode _
  refine ⟨by decide, (requests_answered_iff true false hserves).mpr ?_⟩
  refine ⟨fun _ _ _ _ he => (by cases he), fun _ _ => ⟨fun _ _ _ _ he => (by cases he), ?_⟩⟩
  intro _ _
  refine ⟨fun _ _ _ _ he _ => ?_, fun _ _ => trivial⟩
  cases he
  exact ⟨trivial, by norm_num [headerLength, Response.bodyLength]⟩

/-- A submission to many, to which the callback responds as the types allow. -/
def submitMulti : List Event :=
  [.header (bytesOf [0, 0, 0, 16, 0, 0, 0, 0x21, 0, 0, 0, 0, 0, 0, 0, 1]), .body [],
   .returned (.ok (.res .SubmitMultiRes))]

/-- The response cannot be encoded, and the loop ends without an answer. -/
theorem submitMulti_not_answered : (∀ e ∈ submitMulti, e.Serves) ∧
    ∃ s', run step (init true false) submitMulti = some s' ∧ s'.written = [] ∧
      ¬ Answered s' := by
  have hrun : (run step (init true false) submitMulti).map
      (fun s => (s.receiveLoop, s.written)) = some (.ended, []) := by decide
  obtain ⟨s', hs', heq⟩ := Option.map_eq_some_iff.mp hrun
  rw [Prod.mk.injEq] at heq
  have hdecode : decodeHeader (bytesOf [0, 0, 0, 16, 0, 0, 0, 0x21, 0, 0, 0, 0, 0, 0, 0, 1]) =
      .ok ⟨16, .SUBMIT_MULTI_REQ, .ESME_ROK, 1⟩ := by decide
  exact ⟨serves_of_decode hdecode _, s', hs', heq.2, fun hanswered => hanswered.alive heq.1⟩

end Connection

end HatDrivers.Smpp.Transport
