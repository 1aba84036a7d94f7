import HatDrivers.Basic
import HatDrivers.Lib.Transition

namespace HatDrivers.Acse

open HatDrivers.Lib

/-!
# ACSE — release of a connection

The receive loop, the send loop, the task that waits for the lower connection and the users of a
connection may all close it, and the first of them chooses the APDU that it sends then.

* `Connection.step` — the loops and the tasks, in any order, up to their next `await`;
* `Effect`, `step_release`, `step_messages` — what a step does to the APDU and to the messages;
* `released_iff` — messages go to the receive queue up to the first ACSE APDU or close, and the
  APDU that is sent is that of the cause, just if the cause is none of those that the code does not
  tell apart.
-/

abbrev ObjectIdentifier := List ℕ

/-- `_acse_syntax_name` -/
def acseSyntaxName : ObjectIdentifier := [2, 2, 1, 0, 1]

/-- `ACSE-apdu`, with the field that is written when a connection closes. -/
inductive Apdu
  | aarq
  | aare
  | rlrq
  | rlre
  | abrt (abortSource : ℕ)
  deriving DecidableEq

def abrtApdu (source : ℕ) : Apdu := .abrt source

def rlreApdu : Apdu := .rlre

/-- What is used of `hat.asn1`. -/
structure Ber (Entity : Type) where
  /-- `_decode(entity)` -/
  decode : Entity → Except Exn Apdu
  /-- `entity[0] == name` -/
  headIs : Entity → String → Except Exn Bool

/-- An entity is not decoded yet: the name of an alternative is not found at its head. -/
def Ber.Undecoded {Entity : Type} (ber : Ber Entity) : Prop :=
  ∀ entity name, ber.headIs entity name ≠ .ok true

/-- A message of the presentation layer: the name of its syntax, and its data. -/
abbrev Message (Entity : Type) := ObjectIdentifier × Entity

structure Config where
  receiveQueueSize : ℕ
  sendQueueSize : ℕ

/-- Where `_receive_loop` is. -/
inductive ReceiveLoop (Entity : Type)
  /-- at `self._conn.receive()` -/
  | waiting
  /-- at `self._receive_queue.put((syntax_name, entity))` -/
  | putting (message : Message Entity)
  /-- over, with the receive queue closed -/
  | ended

/-- Where `_send_loop` is. -/
inductive SendLoop
  /-- at `self._send_queue.get()` -/
  | waiting
  /-- over, with the send queue closed -/
  | ended

structure Connection (Entity : Type) where
  isOpen : Bool
  closeApdu : Option Apdu
  receiveQueue : List (Message Entity)
  /-- data to be sent, or `None` for a call of `drain` -/
  sendQueue : List (Option (Message Entity))
  receiveLoop : ReceiveLoop Entity
  sendLoop : SendLoop
  /-- is `_conn` open? -/
  connOpen : Bool
  /-- what `_on_close` sends, once it has run -/
  sentApdu : Option (Option Apdu)
  /-- history: the data passed to `self._conn.send` -/
  sent : List (Message Entity)
  /-- history: what calls of `receive` returned -/
  received : List (Message Entity)

inductive Event (Entity : Type)
  /-- `self._conn.receive()` returns a message -/
  | receiveMessage (message : Message Entity)
  /-- `self._conn.receive()` raises `ConnectionError` -/
  | receiveFails
  /-- `self._receive_queue.put` returns -/
  | putMessage
  /-- a call of `receive` returns -/
  | receive
  /-- a call of `send` or `drain` puts its entry in the send queue -/
  | send (data : Option (Message Entity))
  /-- `self._conn.send` or `self._conn.drain` returns -/
  | sendData
  /-- `self._conn.send` or `self._conn.drain` raises `ConnectionError` -/
  | sendFails
  /-- `_conn` closes -/
  | connLost
  /-- `aio.call_on_done(conn.wait_closing(), self.close)` calls `close` -/
  | callOnDone
  /-- a local call of `close` -/
  | close
  /-- the receive loop is cancelled -/
  | cancelReceiveLoop
  /-- the send loop is cancelled -/
  | cancelSendLoop
  /-- `_on_close` -/
  | onClose

namespace Connection

variable {Entity : Type}

def init : Connection Entity where
  isOpen := true
  closeApdu := some (abrtApdu 0)
  receiveQueue := []
  sendQueue := []
  receiveLoop := .waiting
  sendLoop := .waiting
  connOpen := true
  sentApdu := none
  sent := []
  received := []

/-! ### Steps -/

section
variable (ber : Ber Entity) (cfg : Config) (s : Connection Entity)

/-- `_close` -/
def closeWith (apdu : Option Apdu) : Connection Entity :=
  if ¬ s.isOpen then s else { s with isOpen := false, closeApdu := apdu }

/-- The `finally` block of `_receive_loop`. -/
def endReceiveLoop : Connection Entity :=
  { s.closeWith (some (abrtApdu 1)) with receiveLoop := .ended }

/-- The `finally` block of `_send_loop`. -/
def endSendLoop : Connection Entity :=
  { s.closeWith (some (abrtApdu 1)) with sendLoop := .ended, sendQueue := [] }

/-- The APDU that an ACSE APDU is answered with. -/
def answer (entity : Entity) : Except Exn (Option Apdu) := do
  if ← ber.headIs entity "abrt" then
    return none
  else if ← ber.headIs entity "rlrq" then
    return some rlreApdu
  else
    return some (abrtApdu 1)

/-- `_receive_loop` goes on with a message. -/
def receiveMessage (message : Message Entity) : Connection Entity :=
  if message.1 = acseSyntaxName then
    match answer ber message.2 with
    | .ok closeApdu => (s.closeWith closeApdu).endReceiveLoop
    -- it is logged
    | .error _ => s.endReceiveLoop
  else { s with receiveLoop := .putting message }

def step : Event Entity → Option (Connection Entity)
  | .receiveMessage message =>
    match s.receiveLoop with
    | .waiting => some (s.receiveMessage ber message)
    | _ => none
  | .receiveFails =>
    match s.receiveLoop, s.connOpen with
    | .waiting, false => some s.endReceiveLoop
    | _, _ => none
  | .putMessage =>
    match s.receiveLoop with
    | .putting message =>
      if hasRoom cfg.receiveQueueSize s.receiveQueue then
        some { s with receiveQueue := s.receiveQueue ++ [message], receiveLoop := .waiting }
      else none
    | _ => none
  | .receive =>
    match s.receiveQueue with
    | message :: queue =>
      some { s with receiveQueue := queue, received := s.received ++ [message] }
    | [] => none
  | .send data =>
    match s.sendLoop with
    | .waiting =>
      if hasRoom cfg.sendQueueSize s.sendQueue then
        some { s with sendQueue := s.sendQueue ++ [data] }
      else none
    | .ended => none
  | .sendData =>
    match s.sendLoop, s.sendQueue with
    | .waiting, data :: queue =>
      some { s with sendQueue := queue, sent := s.sent ++ data.toList }
    | _, _ => none
  | .sendFails =>
    match s.sendLoop, s.sendQueue, s.connOpen with
    | .waiting, _ :: _, false => some s.endSendLoop
    | _, _, _ => none
  | .connLost => some { s with connOpen := false }
  | .callOnDone => if s.connOpen then none else some { s with isOpen := false }
  | .close => some { s with isOpen := false }
  | .cancelReceiveLoop =>
    match s.receiveLoop, s.isOpen with
    | .ended, _ | _, true => none
    | _, false => some s.endReceiveLoop
  | .cancelSendLoop =>
    match s.sendLoop, s.isOpen with
    | .waiting, false => some s.endSendLoop
    | _, _ => none
  | .onClose =>
    match s.isOpen, s.sentApdu with
    | false, none => some { s with sentApdu := some s.closeApdu, connOpen := false }
    | _, _ => none

end

end Connection

/-! ### What closes a connection -/

namespace Event

variable {Entity : Type}

/-- Does the event close an open connection? -/
def closes : Event Entity → Bool
  | .receiveMessage message => message.1 = acseSyntaxName
  | .receiveFails | .sendFails | .callOnDone | .close => true
  | _ => false

/-- The message that is received, if it is not for ACSE itself. -/
def message? : Event Entity → Option (Message Entity)
  | .receiveMessage message => if message.1 = acseSyntaxName then none else some message
  | _ => none

end Event

variable {Entity : Type}

/-- The messages that are received, but for those of ACSE. -/
def messages (events : List (Event Entity)) : List (Message Entity) :=
  events.filterMap Event.message?

/-- The event that closes the connection. -/
def closedBy (events : List (Event Entity)) : Option (Event Entity) := events.find? Event.closes

/-- The APDU of the cause: none after an ABRT, RLRE after an RLRQ, ABRT of the provider after any
other APDU or a lost connection, and ABRT of the user after a local close. -/
def causedApdu (ber : Ber Entity) : Event Entity → Option Apdu
  | .receiveMessage message =>
    match ber.decode message.2 with
    | .ok (.abrt _) => none
    | .ok .rlrq => some rlreApdu
    | _ => some (abrtApdu 1)
  | .receiveFails | .sendFails | .callOnDone => some (abrtApdu 1)
  | _ => some (abrtApdu 0)

/-- The messages in the receive queue, with those that were taken from it. -/
def Connection.puts (s : Connection Entity) : List (Message Entity) := s.received ++ s.receiveQueue

/-- After the events of a run, the messages are in the queue and the APDU is that of the cause. -/
structure Released (ber : Ber Entity) (events : List (Event Entity)) (s : Connection Entity) :
    Prop where
  /-- Up to an ACSE APDU all messages are in the queue, and none of those after it. -/
  untilAcse : ∀ before message after, events = before ++ .receiveMessage message :: after →
    message.1 = acseSyntaxName → s.puts = messages before
  /-- Until the connection closes they are put in the queue, where the last one may have waited for
  room in it. -/
  untilClose : ∀ before after, events = before ++ after → closedBy before = none →
    ∃ put waiting, messages before = put ++ waiting ∧ waiting.length ≤ 1 ∧ put <+: s.puts
  inOrder : s.puts <+: messages events
  closeApdu : ∀ cause, closedBy events = some cause → s.closeApdu = causedApdu ber cause
  sentApdu : ∀ apdu, s.sentApdu = some apdu →
    ∃ cause, closedBy events = some cause ∧ apdu = s.closeApdu

/-! ### Closing -/

namespace Connection

variable {ber : Ber Entity} {cfg : Config} {s s' : Connection Entity}

/-- The APDU that the code chooses, whatever the ACSE APDU is. -/
def chosenApdu : Event Entity → Option Apdu
  | .callOnDone | .close => some (abrtApdu 0)
  | _ => some (abrtApdu 1)

@[simp] theorem closeWith_receiveLoop (apdu : Option Apdu) :
    (s.closeWith apdu).receiveLoop = s.receiveLoop := by
  unfold closeWith
  split <;> rfl

@[simp] theorem closeWith_sentApdu (apdu : Option Apdu) :
    (s.closeWith apdu).sentApdu = s.sentApdu := by
  unfold closeWith
  split <;> rfl

@[simp] theorem closeWith_puts (apdu : Option Apdu) : (s.closeWith apdu).puts = s.puts := by
  unfold closeWith puts
  split <;> rfl

@[simp] theorem closeWith_isOpen (apdu : Option Apdu) : (s.closeWith apdu).isOpen = false := by
  unfold closeWith
  split <;> simp_all

theorem closeWith_of_closed (h : s.isOpen = false) (apdu : Option Apdu) :
    s.closeWith apdu = s := by
  rw [closeWith, if_pos (by simp [h])]

/-- Only the first close counts. -/
theorem closeWith_closeApdu (apdu : Option Apdu) :
    (s.closeWith apdu).closeApdu = if s.isOpen then apdu else s.closeApdu := by
  unfold closeWith
  cases s.isOpen <;> rfl

theorem answer_of_undecoded (hber : ber.Undecoded) (entity : Entity) :
    (∃ e, answer ber entity = .error e) ∨ answer ber entity = .ok (some (abrtApdu 1)) := by
  unfold answer
  rcases habrt : ber.headIs entity "abrt" with e | found
  · exact .inl ⟨e, rfl⟩
  · cases found with
    | true => exact absurd habrt (hber entity "abrt")
    | false =>
      rcases hrlrq : ber.headIs entity "rlrq" with e | found
      · exact .inl ⟨e, rfl⟩
      · cases found with
        | true => exact absurd hrlrq (hber entity "rlrq")
        | false => exact .inr rfl

/-- An ACSE APDU ends the receive loop, and closes the connection as an unknown one. -/
theorem receiveMessage_acse (hber : ber.Undecoded) {message : Message Entity}
    (h : message.1 = acseSyntaxName) : s.receiveMessage ber message = s.endReceiveLoop := by
  rw [receiveMessage, if_pos h]
  rcases answer_of_undecoded hber message.2 with ⟨e, he⟩ | hanswer
  · rw [he]
  · rw [hanswer]
    show (s.closeWith (some (abrtApdu 1))).endReceiveLoop = s.endReceiveLoop
    rw [endReceiveLoop, endReceiveLoop, closeWith_of_closed (closeWith_isOpen _) _]

/-- What each event does. -/
inductive Effect (ber : Ber Entity) (s : Connection Entity) :
    Event Entity → Connection Entity → Prop
  | receiveMessage (message : Message Entity) (hloop : s.receiveLoop = .waiting) :
    Effect ber s (.receiveMessage message) (s.receiveMessage ber message)
  | receiveFails : Effect ber s .receiveFails s.endReceiveLoop
  | putMessage (message : Message Entity) (hloop : s.receiveLoop = .putting message) :
    Effect ber s .putMessage
      { s with receiveQueue := s.receiveQueue ++ [message], receiveLoop := .waiting }
  | receive (message : Message Entity) (queue : List (Message Entity))
      (hqueue : s.receiveQueue = message :: queue) :
    Effect ber s .receive { s with receiveQueue := queue, received := s.received ++ [message] }
  | send (data : Option (Message Entity)) :
    Effect ber s (.send data) { s with sendQueue := s.sendQueue ++ [data] }
  | sendData (data : Option (Message Entity)) (queue : List (Option (Message Entity))) :
    Effect ber s .sendData { s with sendQueue := queue, sent := s.sent ++ data.toList }
  | sendFails : Effect ber s .sendFails s.endSendLoop
  | connLost : Effect ber s .connLost { s with connOpen := false }
  | callOnDone : Effect ber s .callOnDone { s with isOpen := false }
  | close : Effect ber s .close { s with isOpen := false }
  | cancelReceiveLoop (hclosed : s.isOpen = false) :
    Effect ber s .cancelReceiveLoop s.endReceiveLoop
  | cancelSendLoop (hclosed : s.isOpen = false) : Effect ber s .cancelSendLoop s.endSendLoop
  | onClose (hclosed : s.isOpen = false) :
    Effect ber s .onClose { s with sentApdu := some s.closeApdu, connOpen := false }

theorem step_effect {e : Event Entity} (h : s.step ber cfg e = some s') : Effect ber s e s' := by
  cases e with
  | receiveMessage message =>
    simp only [step] at h
    split at h <;> cases h
    exact .receiveMessage message ‹_›
  | receiveFails =>
    simp only [step] at h
    split at h <;> cases h
    exact .receiveFails
  | putMessage =>
    simp only [step] at h
    split at h
    · split at h <;> cases h
      exact .putMessage _ ‹_›
    · cases h
  | receive =>
    simp only [step] at h
    split at h <;> cases h
    exact .receive _ _ ‹_›
  | send data =>
    simp only [step] at h
    split at h
    · split at h <;> cases h
      exact .send data
    · cases h
  | sendData =>
    simp only [step] at h
    split at h <;> cases h
    exact .sendData _ _
  | sendFails =>
    simp only [step] at h
    split at h <;> cases h
    exact .sendFails
  | connLost =>
    obtain rfl := Option.some.inj h
    exact .connLost
  | callOnDone =>
    simp only [step] at h
    split at h <;> cases h
    exact .callOnDone
  | close =>
    obtain rfl := Option.some.inj h
    exact .close
  | cancelReceiveLoop =>
    simp only [step] at h
    split at h <;> cases h
    exact .cancelReceiveLoop ‹_›
  | cancelSendLoop =>
    simp only [step] at h
    split at h <;> cases h
    exact .cancelSendLoop ‹_›
  | onClose =>
    simp only [step] at h
    split at h <;> cases h
    exact .onClose ‹_›

/-- What a step does to the connection: the first event that closes it chooses the APDU, and this
is the one that is sent. -/
structure ReleaseStep (s : Connection Entity) (e : Event Entity) (s' : Connection Entity) :
    Prop where
  isOpen : s'.isOpen = (s.isOpen && !e.closes)
  keeps : s.isOpen = false ∨ e.closes = false → s'.closeApdu = s.closeApdu
  chooses : s.isOpen = true → s.closeApdu = some (abrtApdu 0) → e.closes = true →
    s'.closeApdu = chosenApdu e
  sends : s'.sentApdu = s.sentApdu ∨ s.isOpen = false ∧ s'.sentApdu = some s.closeApdu

/-- Both loops end with the same APDU. -/
theorem releaseStep_closeWith {e : Event Entity} (hisOpen : s'.isOpen = false)
    (hcloseApdu : s'.closeApdu = if s.isOpen then some (abrtApdu 1) else s.closeApdu)
    (hsentApdu : s'.sentApdu = s.sentApdu) (hcloses : s.isOpen = true → e.closes = true)
    (hchosen : s.isOpen = true → chosenApdu e = some (abrtApdu 1)) : ReleaseStep s e s' where
  isOpen := by
    rw [hisOpen]
    cases hopen : s.isOpen with
    | false => rfl
    | true => rw [hcloses hopen]; rfl
  keeps := by
    intro h
    rw [hcloseApdu, if_neg]
    intro hopen
    rcases h with h | h
    · rw [h] at hopen
      cases hopen
    · rw [hcloses hopen] at h
      cases h
  chooses := by
    intro hopen _ _
    rw [hcloseApdu, if_pos hopen, hchosen hopen]
  sends := .inl hsentApdu

theorem step_release (hber : ber.Undecoded) {e : Event Entity} (h : s.step ber cfg e = some s') :
    ReleaseStep s e s' := by
  cases step_effect h with
  | receiveMessage message hloop =>
    by_cases hacse : message.1 = acseSyntaxName
    · rw [receiveMessage_acse hber hacse]
      exact releaseStep_closeWith (closeWith_isOpen _) (closeWith_closeApdu _)
        (closeWith_sentApdu _) (fun _ => decide_eq_true hacse) fun _ => rfl
    · have hcloses : (Event.receiveMessage message).closes = false := decide_eq_false hacse
      rw [receiveMessage, if_neg hacse]
      exact ⟨by rw [hcloses]; simp, fun _ => rfl, fun _ _ h => by simp [hcloses] at h, .inl rfl⟩
  | receiveFails =>
    exact releaseStep_closeWith (closeWith_isOpen _) (closeWith_closeApdu _)
      (closeWith_sentApdu _) (fun _ => rfl) fun _ => rfl
  | sendFails =>
    exact releaseStep_closeWith (closeWith_isOpen _) (closeWith_closeApdu _)
      (closeWith_sentApdu _) (fun _ => rfl) fun _ => rfl
  | cancelReceiveLoop hclosed =>
    exact releaseStep_closeWith (closeWith_isOpen _) (closeWith_closeApdu _)
      (closeWith_sentApdu _) (by simp [hclosed]) fun _ => rfl
  | cancelSendLoop hclosed =>
    exact releaseStep_closeWith (closeWith_isOpen _) (closeWith_closeApdu _)
      (closeWith_sentApdu _) (by simp [hclosed]) fun _ => rfl
  | callOnDone => exact ⟨by simp [Event.closes], fun _ => rfl, fun _ h _ => h, .inl rfl⟩
  | close => exact ⟨by simp [Event.closes], fun _ => rfl, fun _ h _ => h, .inl rfl⟩
  | onClose hclosed => exact ⟨by simp [Event.closes], fun _ => rfl, nofun, .inr ⟨hclosed, rfl⟩⟩
  | _ => exact ⟨by simp [Event.closes], fun _ => rfl, nofun, .inl rfl⟩

/-! ### Messages -/

/-- What a step does to the messages. -/
inductive MessageStep (s : Connection Entity) (e : Event Entity) (s' : Connection Entity) : Prop
  | takes (message : Message Entity) (he : e.message? = some message)
      (hloop : s.receiveLoop = .waiting) (hloop' : s'.receiveLoop = .putting message)
      (hputs : s'.puts = s.puts)
  | puts (message : Message Entity) (he : e.message? = none)
      (hloop : s.receiveLoop = .putting message) (hloop' : s'.receiveLoop = .waiting)
      (hputs : s'.puts = s.puts ++ [message])
  | keeps (he : e.message? = none) (hloop' : s'.receiveLoop = s.receiveLoop)
      (hputs : s'.puts = s.puts)
  | ends (he : e.message? = none) (hloop' : s'.receiveLoop = .ended) (hclosed : s'.isOpen = false)
      (hputs : s'.puts = s.puts)

theorem step_messages (hber : ber.Undecoded) {e : Event Entity} (h : s.step ber cfg e = some s') :
    MessageStep s e s' := by
  cases step_effect h with
  | receiveMessage message hloop =>
    by_cases hacse : message.1 = acseSyntaxName
    · rw [receiveMessage_acse hber hacse]
      exact .ends (if_pos hacse) rfl (closeWith_isOpen _) (closeWith_puts _)
    · rw [receiveMessage, if_neg hacse]
      exact .takes message (if_neg hacse) hloop rfl rfl
  | putMessage message hloop =>
    refine .puts message rfl hloop rfl ?_
    show s.received ++ (s.receiveQueue ++ [message]) = s.received ++ s.receiveQueue ++ [message]
    rw [List.append_assoc]
  | receive message queue hqueue =>
    refine .keeps rfl rfl ?_
    show s.received ++ [message] ++ queue = s.received ++ s.receiveQueue
    rw [hqueue, List.append_assoc]
    rfl
  | receiveFails => exact .ends rfl rfl (closeWith_isOpen _) (closeWith_puts _)
  | cancelReceiveLoop => exact .ends rfl rfl (closeWith_isOpen _) (closeWith_puts _)
  | sendFails => exact .keeps rfl (closeWith_receiveLoop _) (closeWith_puts _)
  | cancelSendLoop => exact .keeps rfl (closeWith_receiveLoop _) (closeWith_puts _)
  | _ => exact .keeps rfl rfl rfl

/-- An ACSE APDU ends the receive loop, with all messages before it in the queue. -/
theorem step_receiveMessage_acse (hber : ber.Undecoded) {message : Message Entity}
    (hacse : message.1 = acseSyntaxName)
    (h : s.step ber cfg (.receiveMessage message) = some s') :
    s.receiveLoop = .waiting ∧ s'.receiveLoop = .ended ∧ s'.puts = s.puts := by
  cases step_effect h with
  | receiveMessage _ hloop =>
    rw [receiveMessage_acse hber hacse]
    exact ⟨hloop, rfl, closeWith_puts _⟩

/-! ### Runs -/

theorem closedBy_append (past : List (Event Entity)) (e : Event Entity) :
    closedBy (past ++ [e]) = (closedBy past).or (if e.closes then some e else none) := by
  unfold closedBy
  rw [List.find?_append]
  cases h : e.closes <;> simp [h]

theorem messages_append (past : List (Event Entity)) (e : Event Entity) :
    messages (past ++ [e]) = messages past ++ e.message?.toList := by
  unfold messages
  rw [List.filterMap_append]
  cases h : e.message? <;> simp [h]

/-- What closed the connection chose its APDU. -/
structure ReleaseHistory (past : List (Event Entity)) (s : Connection Entity) : Prop where
  isOpen : s.isOpen = (closedBy past).isNone
  initApdu : closedBy past = none → s.closeApdu = some (abrtApdu 0)
  closeApdu : ∀ cause, closedBy past = some cause → s.closeApdu = chosenApdu cause
  sentApdu : ∀ apdu, s.sentApdu = some apdu → s.isOpen = false ∧ apdu = s.closeApdu

theorem releaseHistory_init : ReleaseHistory [] (init : Connection Entity) :=
  ⟨rfl, fun _ => rfl, nofun, nofun⟩

theorem ReleaseHistory.step {past : List (Event Entity)} {e : Event Entity}
    (H : ReleaseHistory past s) (h : ReleaseStep s e s') : ReleaseHistory (past ++ [e]) s' := by
  have hclosed : s.isOpen = false → s'.isOpen = false := by
    intro hopen
    rw [h.isOpen, hopen, Bool.false_and]
  refine ⟨?_, ?_, ?_, ?_⟩
  · rw [closedBy_append, h.isOpen, H.isOpen]
    cases closedBy past <;> cases e.closes <;> rfl
  · intro hnone
    rw [closedBy_append, Option.or_eq_none_iff] at hnone
    have hcloses : e.closes = false := by simpa using hnone.2
    rw [h.keeps (.inr hcloses), H.initApdu hnone.1]
  · intro cause hsome
    have hopen := H.isOpen
    rw [closedBy_append] at hsome
    cases hpast : closedBy past with
    | some cause' =>
      rw [hpast] at hsome hopen
      obtain rfl := Option.some.inj hsome
      rw [h.keeps (.inl hopen), H.closeApdu cause' hpast]
    | none =>
      rw [hpast] at hsome hopen
      rw [Option.none_or, Option.ite_none_right_eq_some, Option.some.injEq] at hsome
      rw [← hsome.2]
      exact h.chooses hopen (H.initApdu hpast) hsome.1
  · intro apdu hapdu
    rcases h.sends with hsame | ⟨hopen, hsent⟩
    · rw [hsame] at hapdu
      obtain ⟨hopen, rfl⟩ := H.sentApdu apdu hapdu
      exact ⟨hclosed hopen, (h.keeps (.inl hopen)).symm⟩
    · rw [hsent, Option.some.injEq] at hapdu
      exact ⟨hclosed hopen, by rw [h.keeps (.inl hopen), hapdu]⟩

/-- While the receive loop runs, all messages before are in the queue but the one it is about to
put there. -/
structure MessageHistory (past : List (Event Entity)) (s : Connection Entity) : Prop where
  waiting : s.receiveLoop = .waiting → s.puts = messages past
  putting : ∀ message, s.receiveLoop = .putting message → s.puts ++ [message] = messages past
  ended : s.receiveLoop = .ended → s.isOpen = false
  inOrder : s.puts <+: messages past

theorem messageHistory_init : MessageHistory [] (init : Connection Entity) :=
  ⟨fun _ => rfl, nofun, nofun, List.nil_prefix⟩

theorem MessageHistory.step {past : List (Event Entity)} {e : Event Entity}
    (H : MessageHistory past s) (h : MessageStep s e s')
    (hclosed : s.isOpen = false → s'.isOpen = false) : MessageHistory (past ++ [e]) s' := by
  cases h with
  | takes message he hloop hloop' hputs =>
    have hmessages : s'.puts ++ [message] = messages (past ++ [e]) := by
      rw [messages_append, he, hputs, H.waiting hloop]
      rfl
    refine ⟨by simp [hloop'], ?_, by simp [hloop'], ⟨[message], hmessages⟩⟩
    intro message' hmessage'
    rw [hloop', ReceiveLoop.putting.injEq] at hmessage'
    rw [← hmessage', hmessages]
  | puts message he hloop hloop' hputs =>
    have hmessages : s'.puts = messages (past ++ [e]) := by
      rw [messages_append, he, hputs, H.putting message hloop]
      exact (List.append_nil _).symm
    exact ⟨fun _ => hmessages, by simp [hloop'], by simp [hloop'], by simp [hmessages]⟩
  | keeps he hloop' hputs =>
    have hmessages : messages (past ++ [e]) = messages past := by
      rw [messages_append, he]
      exact List.append_nil _
    refine ⟨?_, ?_, ?_, ?_⟩
    · intro hloop
      rw [hputs, hmessages, H.waiting (hloop' ▸ hloop)]
    · intro message hloop
      rw [hputs, hmessages, H.putting message (hloop' ▸ hloop)]
    · intro hloop
      exact hclosed (H.ended (hloop' ▸ hloop))
    · rw [hputs, hmessages]
      exact H.inOrder
  | ends he hloop' hclosed' hputs =>
    have hmessages : messages (past ++ [e]) = messages past := by
      rw [messages_append, he]
      exact List.append_nil _
    refine ⟨by simp [hloop'], by simp [hloop'], fun _ => hclosed', ?_⟩
    rw [hmessages, hputs]
    exact H.inOrder

/-- What is put in the queue stays there or is taken by `receive`. -/
theorem puts_prefix_of_run (hber : ber.Undecoded) {events : List (Event Entity)}
    (hrun : run (step ber cfg) s events = some s') : s.puts <+: s'.puts := by
  apply run_invariant_of_step (I := fun s' => s.puts <+: s'.puts) _ List.prefix_rfl hrun
  intro s₁ e s₂ hprefix hstep
  cases step_messages hber hstep with
  | takes _ _ _ _ hputs | keeps _ _ hputs | ends _ _ _ hputs => rwa [hputs]
  | puts message _ _ _ hputs =>
    rw [hputs]
    exact hprefix.trans (List.prefix_append _ _)

/-- After the receive loop nothing is put in the queue. -/
theorem puts_of_ended (hber : ber.Undecoded) {events : List (Event Entity)}
    (hended : s.receiveLoop = .ended) (hrun : run (step ber cfg) s events = some s') :
    s'.puts = s.puts := by
  refine (run_invariant_of_step (I := fun s' => s'.receiveLoop = .ended ∧ s'.puts = s.puts) ?_
    ⟨hended, rfl⟩ hrun).2
  intro s₁ e s₂ ⟨hloop₁, hputs₁⟩ hstep
  cases step_messages hber hstep with
  | takes _ _ hloop | puts _ _ hloop =>
    rw [hloop₁] at hloop
    cases hloop
  | keeps _ hloop' hputs => exact ⟨hloop'.trans hloop₁, hputs.trans hputs₁⟩
  | ends _ hloop' _ hputs => exact ⟨hloop', hputs.trans hputs₁⟩

theorem history_of_run (hber : ber.Undecoded) {events : List (Event Entity)}
    (hrun : run (step ber cfg) init events = some s) :
    ReleaseHistory events s ∧ MessageHistory events s := by
  refine run_history (I := fun past s => ReleaseHistory past s ∧ MessageHistory past s) ?_
    ⟨releaseHistory_init, messageHistory_init⟩ hrun
  intro past s e s' ⟨hrelease, hmessages⟩ hstep
  have hstep' := step_release hber hstep
  refine ⟨hrelease.step hstep', hmessages.step (step_messages hber hstep) ?_⟩
  intro hopen
  rw [hstep'.isOpen, hopen, Bool.false_and]

end Connection

/-! ### The cause of a close -/

/-- Is the cause one that the code tells?  It takes an ABRT or RLRQ for any other APDU, and the
task that waits for the lower connection does not say that this was lost. -/
def Event.Told (ber : Ber Entity) : Event Entity → Prop
  | .receiveMessage message =>
    (∀ source, ber.decode message.2 ≠ .ok (.abrt source)) ∧ ber.decode message.2 ≠ .ok .rlrq
  | .callOnDone => False
  | _ => True

theorem chosenApdu_eq_causedApdu {ber : Ber Entity} {cause : Event Entity}
    (hcloses : cause.closes = true) :
    Connection.chosenApdu cause = causedApdu ber cause ↔ cause.Told ber := by
  cases cause with
  | receiveMessage message =>
    simp only [Connection.chosenApdu, causedApdu, Event.Told]
    split
    · simp_all
    · simp_all [abrtApdu, rlreApdu]
    · simp_all
  | receiveFails | sendFails | close => exact iff_of_true rfl trivial
  | callOnDone => exact iff_of_false (by simp [Connection.chosenApdu, causedApdu, abrtApdu]) id
  | _ => cases hcloses

/-- **Release.**  After every run, the messages are in the receive queue up to the first ACSE APDU
or close, and the APDU is that of the cause of the close, if and only if that cause is told. -/
theorem released_iff {ber : Ber Entity} (hber : ber.Undecoded) {cfg : Config}
    {events : List (Event Entity)} {s : Connection Entity}
    (hrun : run (Connection.step ber cfg) .init events = some s) :
    Released ber events s ↔ ∀ cause, closedBy events = some cause → cause.Told ber := by
  obtain ⟨hrelease, hmessages⟩ := Connection.history_of_run hber hrun
  have hcloses : ∀ cause, closedBy events = some cause → cause.closes = true :=
    fun cause hcause => List.find?_some hcause
  constructor
  · intro h cause hcause
    rw [← chosenApdu_eq_causedApdu (hcloses cause hcause), ← hrelease.closeApdu cause hcause,
      h.closeApdu cause hcause]
  · intro h
    refine ⟨?_, ?_, hmessages.inOrder, ?_, ?_⟩
    · rintro before message after rfl hacse
      rw [run_append] at hrun
      obtain ⟨s₁, hs₁, hrun⟩ := Option.bind_eq_some_iff.mp hrun
      obtain ⟨s₂, hs₂, hrun⟩ := run_cons_eq_some.mp hrun
      obtain ⟨hwaiting, hended, hputs⟩ := Connection.step_receiveMessage_acse hber hacse hs₂
      rw [Connection.puts_of_ended hber hended hrun, hputs]
      exact (Connection.history_of_run hber hs₁).2.waiting hwaiting
    · rintro before after rfl hnone
      rw [run_append] at hrun
      obtain ⟨s₁, hs₁, hrun⟩ := Option.bind_eq_some_iff.mp hrun
      have hprefix := Connection.puts_prefix_of_run hber hrun
      obtain ⟨hrelease₁, hmessages₁⟩ := Connection.history_of_run hber hs₁
      have hopen := hrelease₁.isOpen
      rw [hnone] at hopen
      cases hloop : s₁.receiveLoop with
      | waiting => exact ⟨s₁.puts, [], by rw [hmessages₁.waiting hloop, List.append_nil],
          Nat.zero_le 1, hprefix⟩
      | putting message =>
        exact ⟨s₁.puts, [message], (hmessages₁.putting message hloop).symm, Nat.le_refl 1, hprefix⟩
      | ended =>
        rw [hmessages₁.ended hloop] at hopen
        cases hopen
    · intro cause hcause
      rw [hrelease.closeApdu cause hcause]
      exact (chosenApdu_eq_causedApdu (hcloses cause hcause)).mpr (h cause hcause)
    · intro apdu hapdu
      obtain ⟨hclosed, rfl⟩ := hrelease.sentApdu apdu hapdu
      have hopen := hrelease.isOpen
      rw [hclosed] at hopen
      cases hcause : closedBy events with
      | none =>
        rw [hcause] at hopen
        cases hopen
      | some cause => exact ⟨cause, rfl, rfl⟩

/-- Entities by their tags, with one number of content. -/
def taggedBer : Ber (ℕ × ℕ) where
  decode
    | (0, _) => .ok .aarq
    | (1, _) => .ok .aare
    | (2, _) => .ok .rlrq
    | (3, _) => .ok .rlre
    | (4, source) => .ok (.abrt source)
    | _ => .error (.valueError "invalid tag")
  headIs _ _ := .ok false

theorem taggedBer_undecoded : taggedBer.Undecoded := nofun

/-- A message is received, an AARQ aborts the connection, and the abort is sent. -/
theorem released_iff_unexpected :
    ∃ s, run (Connection.step taggedBer ⟨1, 1⟩) .init [.receiveMessage ([1, 0], 5, 6), .putMessage,
        .receiveMessage (acseSyntaxName, 0, 0), .onClose] = some s ∧
      Released taggedBer [.receiveMessage ([1, 0], 5, 6), .putMessage,
        .receiveMessage (acseSyntaxName, 0, 0), .onClose] s := by
  refine ⟨_, rfl, (released_iff taggedBer_undecoded
    (show run (Connection.step taggedBer ⟨1, 1⟩) .init _ = some _ from rfl)).mpr ?_⟩
  intro cause hcause
  obtain rfl := Option.some.inj hcause
  exact ⟨nofun, nofun⟩

/-- An ABRT of the peer is answered with an ABRT. -/
theorem abort_aborted :
    ¬ ∀ events s, run (Connection.step taggedBer ⟨1, 1⟩) .init events = some s →
      Released taggedBer events s := by
  intro h
  have hreleased := h [.receiveMessage (acseSyntaxName, 4, 0)] _ rfl
  have habrt := hreleased.closeApdu _ rfl
  cases habrt

end HatDrivers.Acse
