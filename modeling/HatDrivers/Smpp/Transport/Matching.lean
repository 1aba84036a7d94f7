import Mathlib.Data.List.Nodup
import HatDrivers.Smpp.Transport.Connection

namespace HatDrivers.Smpp.Transport

open HatDrivers.Lib

/-!
# SMPP — matching of responses

A call of `send` takes the PDU that comes for its sequence number, and the sequence numbers of
calls that go on are different, however often they have wrapped around.  Nothing looks at the
command of the PDU, though, and at the end of the receive loop futures are cancelled instead of
getting a `ConnectionError`.  `responses_matched_iff` says in which runs this makes no difference.
-/

variable {header : Header} {a b : Send}

/-- A PDU for a call: of its sequence number, and either an error, or of the command that answers
its request. -/
def Answers (header : Header) (send : Send) : Prop :=
  header.sequenceNumber = send.sequenceNumber ∧
    (header.commandStatus ≠ .ESME_ROK ∨ header.commandId = .GENERIC_NACK ∨
      header.commandId.value = responseValue (getRequestCommandId send.request))

/-- The futures of two calls did not get the same PDU. -/
def Apart (a b : Send) : Prop :=
  ∀ reply reply' pdu, a.future = .result reply pdu → b.future ≠ .result reply' pdu

theorem Apart.symm (h : Apart a b) : Apart b a :=
  fun reply reply' pdu hb ha => h reply' reply pdu ha hb

theorem apart_of_not_result (h : ∀ reply pdu, a.future ≠ .result reply pdu) : Apart a b :=
  fun reply _ pdu ha => absurd ha (h reply pdu)

/-! ### What is done to calls -/

theorem Send.cancel_future (send : Send) :
    send.cancel.future = if send.future = .pending then .cancelled else send.future := by
  unfold Send.cancel
  split <;> rfl

@[simp] theorem Send.cancel_number (send : Send) : send.cancel.number = send.number := by
  unfold Send.cancel
  split <;> rfl

@[simp] theorem Send.cancel_request (send : Send) : send.cancel.request = send.request := by
  unfold Send.cancel
  split <;> rfl

@[simp] theorem Send.cancel_sequenceNumber (send : Send) :
    send.cancel.sequenceNumber = send.sequenceNumber := by
  unfold Send.cancel
  split <;> rfl

@[simp] theorem Send.cancel_writing (send : Send) : send.cancel.writing = send.writing := by
  unfold Send.cancel
  split <;> rfl

section SetResult

variable (sequenceNumber : ℕ) (reply : Reply) (pdu : ℕ) (send : Send)

theorem Send.setResult_future : (send.setResult sequenceNumber reply pdu).future =
    if send.sequenceNumber = sequenceNumber ∧ send.future = .pending then .result reply pdu
    else send.future := by
  unfold Send.setResult
  split <;> rfl

@[simp] theorem Send.setResult_number :
    (send.setResult sequenceNumber reply pdu).number = send.number := by
  unfold Send.setResult
  split <;> rfl

@[simp] theorem Send.setResult_request :
    (send.setResult sequenceNumber reply pdu).request = send.request := by
  unfold Send.setResult
  split <;> rfl

@[simp] theorem Send.setResult_sequenceNumber :
    (send.setResult sequenceNumber reply pdu).sequenceNumber = send.sequenceNumber := by
  unfold Send.setResult
  split <;> rfl

@[simp] theorem Send.setResult_writing :
    (send.setResult sequenceNumber reply pdu).writing = send.writing := by
  unfold Send.setResult
  split <;> rfl

end SetResult

/-! ### Matching -/

namespace Connection

variable {s s' : Connection}

/-- The calls of `send` that got their futures. -/
def calls (s : Connection) : List Send := s.futures ++ s.ended.map Prod.fst

/-- Responses complete the calls they are for, and the end of the loop those that wait. -/
structure Matched (s : Connection) : Prop where
  /-- the future of a call has what a PDU for the call says -/
  given : ∀ send ∈ s.calls, ∀ reply pdu, send.future = .result reply pdu →
    ∃ header bodyBytes, s.received[pdu]? = some (header, bodyBytes) ∧ Answers header send ∧
      reply = responseReply header bodyBytes
  /-- a call that ends with a response has it from its future -/
  completed : ∀ call ∈ s.ended, ∀ reply pdu, call.2 = .reply reply pdu →
    call.1.future = .result reply pdu
  /-- no PDU completes two calls -/
  once : s.ended.Pairwise fun call call' => ∀ reply reply' pdu,
    call.2 = .reply reply pdu → call'.2 ≠ .reply reply' pdu
  /-- no call is left without a result when the loop ends -/
  closed : s.receiveLoop = .ended → ∀ send ∈ s.futures, send.future ≠ .pending
  /-- a call that has no response when the loop ends ends with `ConnectionError`, unless its
  caller cancels it; as long as it goes on, it is its write that can fail so -/
  cancelled : (∀ send ∈ s.futures, send.future = .cancelled → send.writing = true) ∧
    ∀ call ∈ s.ended, call.1.future = .cancelled →
      call.2 = .connectionError ∨ call.2 = .cancelledError true

/-- A step that does not need what the connection lacks. -/
structure Expected (s : Connection) (e : Event) : Prop where
  /-- a PDU with the number of a call that waits is of the kind of its request, or an error -/
  kind : ∀ header bodyBytes, s.receiveLoop = .body header → e = .body bodyBytes →
    bodyBytes.length = header.commandLength - headerLength →
    header.commandId ∈ responseCommandIds → ∀ send ∈ s.futures,
      send.sequenceNumber = header.sequenceNumber → send.future = .pending → Answers header send
  /-- the loop does not end while a call waits for its response alone -/
  closing : ∀ s', s.step e = some s' → s'.receiveLoop = .ended → ∀ send ∈ s.futures,
    send.future = .pending → send.writing = true
  /-- a write that goes on at the end of the loop is not done after it -/
  unsent : ∀ number send, e = .sent number → s.call number = some send → send.writing = true →
    send.future ≠ .cancelled

structure Inv (s : Connection) : Prop where
  given : ∀ send ∈ s.calls, ∀ reply pdu, send.future = .result reply pdu →
    ∃ header bodyBytes, s.received[pdu]? = some (header, bodyBytes) ∧ Answers header send ∧
      reply = responseReply header bodyBytes
  completed : ∀ call ∈ s.ended, ∀ reply pdu, call.2 = .reply reply pdu →
    call.1.future = .result reply pdu
  apart : s.calls.Pairwise Apart
  number_nodup : (s.futures.map Send.number).Nodup
  number_lt : ∀ send ∈ s.futures, send.number < s.count
  sequenceNumber_nodup : (s.futures.map Send.sequenceNumber).Nodup
  closed : s.receiveLoop = .ended → s.isOpen = false ∧ ∀ send ∈ s.futures, send.future ≠ .pending
  writing : ∀ send ∈ s.futures, send.future = .cancelled → send.writing = true
  cancelled : ∀ call ∈ s.ended, call.1.future = .cancelled →
    call.2 = .connectionError ∨ call.2 = .cancelledError true

theorem Inv.matched (h : Inv s) : Matched s where
  given := h.given
  completed := h.completed
  once := by
    have hended : s.ended.Pairwise fun call call' => Apart call.1 call'.1 := by
      rw [← List.pairwise_map]
      exact (List.pairwise_append.mp h.apart).2.1
    apply hended.imp_of_mem
    intro call call' hcall hcall' hapart reply reply' pdu hreply hreply'
    exact hapart reply reply' pdu (h.completed call hcall reply pdu hreply)
      (h.completed call' hcall' reply' pdu hreply')
  closed := fun hloop => (h.closed hloop).2
  cancelled := ⟨h.writing, h.cancelled⟩

/-- A PDU that completed a call is one of those received. -/
theorem Inv.pdu_lt (h : Inv s) {send : Send} (hsend : send ∈ s.calls) {reply : Reply} {pdu : ℕ}
    (hfuture : send.future = .result reply pdu) : pdu < s.received.length := by
  obtain ⟨header, bodyBytes, hreceived, _⟩ := h.given send hsend reply pdu hfuture
  exact (List.getElem?_eq_some_iff.mp hreceived).1

/-- What is done to the futures of all calls that go on. -/
theorem Inv.map (h : Inv s) {f : Send → Send} (hfutures : s'.futures = s.futures.map f)
    (hended : s'.ended = s.ended) (hcount : s.count ≤ s'.count)
    (hreceived : s.received <+: s'.received)
    (hnumber : ∀ send, (f send).number = send.number)
    (hsequenceNumber : ∀ send, (f send).sequenceNumber = send.sequenceNumber)
    (hgiven : ∀ send ∈ s.futures, ∀ reply pdu, (f send).future = .result reply pdu →
      (send.future = .result reply pdu ∧ (f send).request = send.request) ∨
        ∃ header bodyBytes, s'.received[pdu]? = some (header, bodyBytes) ∧
          Answers header (f send) ∧ reply = responseReply header bodyBytes)
    (hapart : ∀ a ∈ s.futures, ∀ b ∈ s.futures, a.sequenceNumber ≠ b.sequenceNumber →
      Apart a b → Apart (f a) (f b))
    (hended_apart : ∀ a ∈ s.futures, ∀ b ∈ s.ended.map Prod.fst, Apart a b → Apart (f a) b)
    (hclosed : s'.receiveLoop = .ended →
      s'.isOpen = false ∧ ∀ send ∈ s.futures, (f send).future ≠ .pending)
    (hwriting : ∀ send ∈ s.futures, (f send).future = .cancelled → (f send).writing = true) :
    Inv s' where
  given := by
    have hkept : ∀ send ∈ s.calls, ∀ reply pdu, send.future = .result reply pdu →
        ∃ header bodyBytes, s'.received[pdu]? = some (header, bodyBytes) ∧ Answers header send ∧
          reply = responseReply header bodyBytes := by
      intro send hsend reply pdu hfuture
      obtain ⟨header, bodyBytes, hget, hanswers⟩ := h.given send hsend reply pdu hfuture
      refine ⟨header, bodyBytes, ?_, hanswers⟩
      obtain ⟨pdus, hpdus⟩ := hreceived
      rw [← hpdus, List.getElem?_append_left (h.pdu_lt hsend hfuture)]
      exact hget
    intro send hsend reply pdu hfuture
    rw [calls, hfutures, hended] at hsend
    rcases List.mem_append.mp hsend with hsend | hsend
    · obtain ⟨other, hother, rfl⟩ := List.mem_map.mp hsend
      rcases hgiven other hother reply pdu hfuture with ⟨hold, hrequest⟩ | hnew
      · obtain ⟨header, bodyBytes, hget, hanswers, hreply⟩ :=
          hkept other (List.mem_append_left _ hother) reply pdu hold
        refine ⟨header, bodyBytes, hget, ?_, hreply⟩
        unfold Answers
        rw [hsequenceNumber, hrequest]
        exact hanswers
      · exact hnew
    · exact hkept send (List.mem_append_right _ hsend) reply pdu hfuture
  completed := by
    rw [hended]
    exact h.completed
  apart := by
    obtain ⟨hfirst, hlast, hacross⟩ := List.pairwise_append.mp h.apart
    rw [calls, hfutures, hended]
    refine List.pairwise_append.mpr ⟨?_, hlast, ?_⟩
    · apply List.pairwise_map.mpr
      apply (hfirst.and (List.pairwise_map.mp h.sequenceNumber_nodup)).imp_of_mem
      intro a b ha hb hab
      exact hapart a ha b hb hab.2 hab.1
    · intro a ha b hb
      obtain ⟨other, hother, rfl⟩ := List.mem_map.mp ha
      exact hended_apart other hother b hb (hacross other hother b hb)
  number_nodup := by
    rw [hfutures, List.map_map, Function.comp_def]
    simp only [hnumber]
    exact h.number_nodup
  number_lt := by
    rw [hfutures, List.forall_mem_map]
    intro send hsend
    rw [hnumber]
    exact Nat.lt_of_lt_of_le (h.number_lt send hsend) hcount
  sequenceNumber_nodup := by
    rw [hfutures, List.map_map, Function.comp_def]
    simp only [hsequenceNumber]
    exact h.sequenceNumber_nodup
  closed := by
    intro hloop
    rw [hfutures, List.forall_mem_map]
    exact hclosed hloop
  writing := by
    rw [hfutures, List.forall_mem_map]
    exact hwriting
  cancelled := by
    rw [hended]
    exact h.cancelled

/-- What is done to futures without giving results. -/
theorem Inv.map_of_no_result (h : Inv s) {f : Send → Send}
    (hfutures : s'.futures = s.futures.map f)
    (hended : s'.ended = s.ended) (hcount : s.count ≤ s'.count)
    (hreceived : s.received <+: s'.received)
    (hnumber : ∀ send, (f send).number = send.number)
    (hsequenceNumber : ∀ send, (f send).sequenceNumber = send.sequenceNumber)
    (hrequest : ∀ send, (f send).request = send.request)
    (hresult : ∀ send reply pdu, (f send).future = .result reply pdu →
      send.future = .result reply pdu)
    (hclosed : s'.receiveLoop = .ended →
      s'.isOpen = false ∧ ∀ send ∈ s.futures, (f send).future ≠ .pending)
    (hwriting : ∀ send ∈ s.futures, (f send).future = .cancelled → (f send).writing = true) :
    Inv s' := by
  refine h.map hfutures hended hcount hreceived hnumber hsequenceNumber ?_ ?_ ?_ hclosed hwriting
  · intro send _ reply pdu hfuture
    exact Or.inl ⟨hresult send reply pdu hfuture, hrequest send⟩
  · intro a _ b _ _ hab reply reply' pdu ha hb
    exact hab reply reply' pdu (hresult a reply pdu ha) (hresult b reply' pdu hb)
  · intro a _ b _ hab reply reply' pdu ha hb
    exact hab reply reply' pdu (hresult a reply pdu ha) hb

/-- Steps that leave the calls as they are. -/
theorem Inv.quiet (h : Inv s) (hfutures : s'.futures = s.futures) (hended : s'.ended = s.ended)
    (hcount : s.count ≤ s'.count) (hreceived : s.received <+: s'.received)
    (hloop : s'.receiveLoop = .ended → s.receiveLoop = .ended ∧ s'.isOpen = false) : Inv s' := by
  refine h.map_of_no_result (f := id) ?_ hended hcount hreceived (fun _ => rfl) (fun _ => rfl)
    (fun _ => rfl) (fun _ _ _ hfuture => hfuture) ?_ h.writing
  · rw [List.map_id]
    exact hfutures
  · intro hended'
    obtain ⟨hs, hopen⟩ := hloop hended'
    exact ⟨hopen, (h.closed hs).2⟩

/-! ### The receive loop -/

/-- Calls whose writes go on are all that waits. -/
def Writing (s : Connection) : Prop :=
  ∀ send ∈ s.futures, send.future = .pending → send.writing = true

theorem Inv.endLoop (h : Inv s) (hwriting : s.Writing) : Inv s.endLoop := by
  refine h.map_of_no_result (f := Send.cancel) rfl rfl (le_refl _) (List.prefix_refl _)
    Send.cancel_number Send.cancel_sequenceNumber Send.cancel_request ?_ ?_ ?_
  · intro send reply pdu hfuture
    rw [Send.cancel_future] at hfuture
    split at hfuture
    · cases hfuture
    · exact hfuture
  · refine fun _ => ⟨rfl, ?_⟩
    intro send _
    rw [Send.cancel_future]
    split
    · exact fun hfuture => (by cases hfuture)
    · assumption
  · intro send hsend hfuture
    rw [Send.cancel_writing]
    rw [Send.cancel_future] at hfuture
    split at hfuture
    · exact hwriting send hsend ‹_›
    · exact h.writing send hsend hfuture

theorem Writing.endLoop (s : Connection) : s.endLoop.Writing := by
  intro send hsend hfuture
  obtain ⟨other, _, rfl⟩ := List.mem_map.mp hsend
  rw [Send.cancel_future] at hfuture
  split at hfuture
  · cases hfuture
  · contradiction

/-- A write of the loop goes on with the loop, or ends it. -/
theorem write_cases (s : Connection) (pdu : Except Error Bytes) :
    (∃ pdus, s.write pdu = { s with written := pdus, receiveLoop := .header }) ∨
      s.write pdu = s.endLoop := by
  unfold write
  cases pdu with
  | error e => exact Or.inr rfl
  | ok pdu =>
    show (∃ pdus, (if s.isOpen then _ else _) = _) ∨ _
    split
    · exact Or.inl ⟨_, rfl⟩
    · exact Or.inr rfl

theorem Inv.write (h : Inv s) {pdu : Except Error Bytes}
    (hwriting : (s.write pdu).receiveLoop = .ended → s.Writing) : Inv (s.write pdu) := by
  rcases s.write_cases pdu with ⟨pdus, hwrite⟩ | hwrite
  · rw [hwrite]
    refine h.quiet rfl rfl (le_refl _) (List.prefix_refl _) ?_
    exact fun hloop => (by cases hloop)
  · rw [hwrite] at hwriting ⊢
    exact h.endLoop (hwriting rfl)

theorem Writing.write (hwriting : s.Writing) (pdu : Except Error Bytes) :
    (s.write pdu).Writing := by
  rcases s.write_cases pdu with ⟨pdus, hwrite⟩ | hwrite
  · rw [hwrite]
    exact hwriting
  · rw [hwrite]
    exact Writing.endLoop s

theorem Inv.receiveHeader (h : Inv s) {headerBytes : Bytes}
    (hwriting : (s.receiveHeader headerBytes).receiveLoop = .ended → s.Writing) :
    Inv (s.receiveHeader headerBytes) := by
  unfold Connection.receiveHeader at hwriting ⊢
  cases hdecode : decodeHeader headerBytes with
  | ok header =>
    refine h.quiet rfl rfl (le_refl _) (List.prefix_refl _) ?_
    exact fun hloop => (by cases hloop)
  | error e =>
    rw [hdecode] at hwriting
    cases e with
    | commandStatusError commandStatus =>
      have hs := hwriting rfl
      exact (h.write fun _ => hs).endLoop (hs.write _)
    | _ => exact h.endLoop (hwriting rfl)

theorem Inv.processRequest (h : Inv s) {header : Header} {bodyBytes : Bytes}
    (hwriting : (s.processRequest header bodyBytes).receiveLoop = .ended → s.Writing) :
    Inv (s.processRequest header bodyBytes) := by
  unfold Connection.processRequest at hwriting ⊢
  cases hbody : requestBody s.requestCb header bodyBytes with
  | ok req =>
    refine h.quiet rfl rfl (le_refl _) (List.prefix_refl _) ?_
    exact fun hloop => (by cases hloop)
  | error resCommandStatus =>
    rw [hbody] at hwriting
    exact h.write hwriting

/-- A response completes at most one call, since no two of them have its sequence number. -/
theorem Inv.processResponse (h : Inv s) {header : Header} {bodyBytes : Bytes} {pdu : ℕ}
    (hreceived : s.received[pdu]? = some (header, bodyBytes))
    (hfresh : ∀ send ∈ s.calls, ∀ reply, send.future ≠ .result reply pdu)
    (hkind : ∀ send ∈ s.futures, send.sequenceNumber = header.sequenceNumber →
      send.future = .pending → Answers header send) :
    Inv (s.processResponse header bodyBytes pdu) := by
  have hresult : ∀ send : Send, ∀ reply number, (send.setResult header.sequenceNumber
      (responseReply header bodyBytes) pdu).future = .result reply number →
      send.future = .result reply number ∨
        send.sequenceNumber = header.sequenceNumber ∧ send.future = .pending ∧
          reply = responseReply header bodyBytes ∧ number = pdu := by
    intro send reply number hfuture
    rw [Send.setResult_future] at hfuture
    split at hfuture
    · cases hfuture
      exact Or.inr ⟨‹_ ∧ _›.1, ‹_ ∧ _›.2, rfl, rfl⟩
    · exact Or.inl hfuture
  refine h.map (f := Send.setResult header.sequenceNumber (responseReply header bodyBytes) pdu)
    rfl rfl (le_refl _) (List.prefix_refl _) (Send.setResult_number _ _ _)
    (Send.setResult_sequenceNumber _ _ _) ?_ ?_ ?_ (fun hloop => (by cases hloop)) ?_
  · intro send hsend reply number hfuture
    rcases hresult send reply number hfuture with hold | ⟨hsequence, hpending, rfl, rfl⟩
    · exact Or.inl ⟨hold, Send.setResult_request _ _ _ send⟩
    · refine Or.inr ⟨header, bodyBytes, hreceived, ?_, rfl⟩
      unfold Answers
      rw [Send.setResult_sequenceNumber, Send.setResult_request]
      exact hkind send hsend hsequence hpending
  · intro a ha b hb hab hapart reply reply' number hfa hfb
    rcases hresult a reply number hfa with hold | ⟨hsequence, _, _, rfl⟩
    · rcases hresult b reply' number hfb with hold' | ⟨_, _, _, rfl⟩
      · exact hapart reply reply' number hold hold'
      · exact hfresh a (List.mem_append_left _ ha) reply hold
    · rcases hresult b reply' number hfb with hold' | ⟨hsequence', _, _, _⟩
      · exact hfresh b (List.mem_append_left _ hb) reply' hold'
      · exact hab (hsequence.trans hsequence'.symm)
  · intro a ha b hb hapart reply reply' number hfa hfb
    rcases hresult a reply number hfa with hold | ⟨_, _, _, rfl⟩
    · exact hapart reply reply' number hold hfb
    · exact hfresh b (List.mem_append_right _ hb) reply' hfb
  · intro send hsend hfuture
    rw [Send.setResult_writing]
    rw [Send.setResult_future] at hfuture
    split at hfuture
    · cases hfuture
    · exact h.writing send hsend hfuture

theorem Inv.processNotification (h : Inv s) (header : Header) (bodyBytes : Bytes) :
    Inv (s.processNotification header bodyBytes) := by
  have hheader : Inv { s with receiveLoop := .header } := by
    refine h.quiet rfl rfl (le_refl _) (List.prefix_refl _) ?_
    exact fun hloop => (by cases hloop)
  unfold Connection.processNotification
  split
  · exact hheader
  · cases decodeBody header.commandId bodyBytes with
    | error e => exact hheader
    | ok body =>
      refine h.quiet rfl rfl (le_refl _) (List.prefix_refl _) ?_
      exact fun hloop => (by cases hloop)

theorem Inv.receivePdu (h : Inv s) {header : Header} {bodyBytes : Bytes}
    (hkind : header.commandId ∈ responseCommandIds → ∀ send ∈ s.futures,
      send.sequenceNumber = header.sequenceNumber → send.future = .pending →
        Answers header send)
    (hwriting : (s.receivePdu header bodyBytes).receiveLoop = .ended → s.Writing) :
    Inv (s.receivePdu header bodyBytes) := by
  have hinv : Inv { s with received := s.received ++ [(header, bodyBytes)] } := by
    refine h.quiet rfl rfl (le_refl _) (List.prefix_append _ _) ?_
    exact fun hloop => ⟨hloop, (h.closed hloop).1⟩
  unfold Connection.receivePdu at hwriting ⊢
  simp only at hwriting ⊢
  split at hwriting
  · rw [if_pos ‹_›]
    exact hinv.processRequest hwriting
  · rw [if_neg ‹_›]
    split at hwriting
    · rw [if_pos ‹_›]
      apply hinv.processResponse
      · exact List.getElem?_concat_length
      · intro send hsend reply hfuture
        exact Nat.lt_irrefl _ (h.pdu_lt hsend hfuture)
      · exact hkind ‹_›
    · rw [if_neg ‹_›]
      split at hwriting
      · rw [if_pos ‹_›]
        exact hinv.processNotification header bodyBytes
      · rw [if_neg ‹_›]
        exact hinv.endLoop (hwriting rfl)

/-! ### Calls -/

theorem mem_of_call {number : ℕ} {send : Send} (hcall : s.call number = some send) :
    send ∈ s.futures :=
  List.mem_of_find?_eq_some hcall

/-- A call that ends is the only one of its number, and the others go on. -/
theorem Inv.perm_finish (h : Inv s) {send : Send} (hsend : send ∈ s.futures) :
    s.futures.Perm (send :: s.futures.filter (·.number ≠ send.number)) := by
  have hfilter : s.futures.filter (·.number ≠ send.number) = s.futures.erase send := by
    rw [(List.Nodup.of_map _ h.number_nodup).erase_eq_filter]
    apply List.filter_congr
    intro other hother
    have hiff : other.number = send.number ↔ other = send :=
      ⟨List.inj_on_of_nodup_map h.number_nodup hother hsend, fun heq => heq ▸ rfl⟩
    rw [Bool.eq_iff_iff, decide_eq_true_iff, bne_iff_ne, not_iff_not]
    exact hiff
  rw [hfilter]
  exact List.perm_cons_erase hsend

theorem Inv.perm_calls (h : Inv s) {send : Send} {outcome : Outcome} (hsend : send ∈ s.futures) :
    s.calls.Perm (s.finish send outcome).calls := by
  unfold calls Connection.finish
  rw [List.map_append]
  have hout := (h.perm_finish hsend).append_right (s.ended.map Prod.fst)
  have hin : (send :: s.ended.map Prod.fst).Perm (s.ended.map Prod.fst ++ [send]) :=
    (List.perm_append_singleton _ _).symm
  exact hout.trans (List.perm_middle.symm.trans (hin.append_left _))

theorem Inv.finish (h : Inv s) {send : Send} {outcome : Outcome} (hsend : send ∈ s.futures)
    (hreply : ∀ reply pdu, outcome = .reply reply pdu → send.future = .result reply pdu)
    (hcancelled : send.future = .cancelled →
      outcome = .connectionError ∨ outcome = .cancelledError true) :
    Inv (s.finish send outcome) where
  given := by
    intro other hother
    exact h.given other ((h.perm_calls hsend).mem_iff.mpr hother)
  completed := by
    intro call hcall reply pdu hfuture
    rcases List.mem_append.mp hcall with hcall | hcall
    · exact h.completed call hcall reply pdu hfuture
    · obtain rfl := List.mem_singleton.mp hcall
      exact hreply reply pdu hfuture
  apart := ((h.perm_calls hsend).pairwise_iff Apart.symm).mp h.apart
  number_nodup := h.number_nodup.sublist (List.filter_sublist.map _)
  number_lt := fun other hother => h.number_lt other (List.mem_of_mem_filter hother)
  sequenceNumber_nodup := h.sequenceNumber_nodup.sublist (List.filter_sublist.map _)
  closed := by
    intro hloop
    refine ⟨(h.closed hloop).1, ?_⟩
    exact fun other hother => (h.closed hloop).2 other (List.mem_of_mem_filter hother)
  writing := fun other hother => h.writing other (List.mem_of_mem_filter hother)
  cancelled := by
    intro call hcall hfuture
    rcases List.mem_append.mp hcall with hcall | hcall
    · exact h.cancelled call hcall hfuture
    · obtain rfl := List.mem_singleton.mp hcall
      exact hcancelled hfuture

/-- A call that waits, with a number of its own. -/
theorem Inv.start (h : Inv s) {send : Send} {pdus : List Bytes} (hpending : send.future = .pending)
    (hnumber : send.number = s.count)
    (hsequenceNumber : ∀ other ∈ s.futures, other.sequenceNumber ≠ send.sequenceNumber)
    (hopen : s.isOpen = true) :
    Inv { s with count := s.count + 1, futures := s.futures ++ [send], written := pdus } where
  given := by
    intro other hother reply pdu hfuture
    rcases List.mem_append.mp hother with hother | hother
    · rcases List.mem_append.mp hother with hother | hother
      · exact h.given other (List.mem_append_left _ hother) reply pdu hfuture
      · obtain rfl := List.mem_singleton.mp hother
        rw [hpending] at hfuture
        cases hfuture
    · exact h.given other (List.mem_append_right _ hother) reply pdu hfuture
  completed := h.completed
  apart := by
    show ((s.futures ++ [send]) ++ s.ended.map Prod.fst).Pairwise Apart
    rw [List.append_assoc]
    refine (List.perm_middle.pairwise_iff Apart.symm).mpr (List.Pairwise.cons ?_ h.apart)
    intro other _
    apply apart_of_not_result
    rw [hpending]
    exact fun _ _ hfuture => (by cases hfuture)
  number_nodup := by
    rw [List.map_append]
    apply List.Nodup.append h.number_nodup (List.nodup_singleton _)
    intro number hmem hmem'
    obtain ⟨other, hother, rfl⟩ := List.mem_map.mp hmem
    have hlt := h.number_lt other hother
    have heq : other.number = s.count := (List.mem_singleton.mp hmem').trans hnumber
    omega
  number_lt := by
    intro other hother
    rcases List.mem_append.mp hother with hother | hother
    · exact Nat.lt_succ_of_lt (h.number_lt other hother)
    · obtain rfl := List.mem_singleton.mp hother
      exact hnumber ▸ Nat.lt_succ_self _
  sequenceNumber_nodup := by
    rw [List.map_append]
    apply List.Nodup.append h.sequenceNumber_nodup (List.nodup_singleton _)
    intro number hmem hmem'
    obtain ⟨other, hother, rfl⟩ := List.mem_map.mp hmem
    exact hsequenceNumber other hother (List.mem_singleton.mp hmem')
  closed := by
    intro hloop
    have hclosed := (h.closed hloop).1
    rw [hopen] at hclosed
    cases hclosed
  writing := by
    intro other hother hfuture
    rcases List.mem_append.mp hother with hother | hother
    · exact h.writing other hother hfuture
    · obtain rfl := List.mem_singleton.mp hother
      rw [hpending] at hfuture
      cases hfuture
  cancelled := h.cancelled

/-- A call that ends before it waits. -/
theorem Inv.refuse (h : Inv s) {send : Send} {outcome : Outcome} (hpending : send.future = .pending)
    (hreply : ∀ reply pdu, outcome ≠ .reply reply pdu) :
    Inv { s with count := s.count + 1, ended := s.ended ++ [(send, outcome)] } where
  given := by
    intro other hother reply pdu hfuture
    rw [calls, List.map_append, ← List.append_assoc] at hother
    rcases List.mem_append.mp hother with hother | hother
    · exact h.given other hother reply pdu hfuture
    · obtain rfl := List.mem_singleton.mp hother
      rw [hpending] at hfuture
      cases hfuture
  completed := by
    intro call hcall reply pdu hfuture
    rcases List.mem_append.mp hcall with hcall | hcall
    · exact h.completed call hcall reply pdu hfuture
    · obtain rfl := List.mem_singleton.mp hcall
      exact absurd hfuture (hreply reply pdu)
  apart := by
    rw [calls, List.map_append, ← List.append_assoc]
    refine ((List.perm_append_singleton send _).pairwise_iff Apart.symm).mpr
      (List.Pairwise.cons ?_ h.apart)
    intro other _
    apply apart_of_not_result
    rw [hpending]
    exact fun _ _ hfuture => (by cases hfuture)
  number_nodup := h.number_nodup
  number_lt := fun other hother => Nat.lt_succ_of_lt (h.number_lt other hother)
  sequenceNumber_nodup := h.sequenceNumber_nodup
  closed := h.closed
  writing := h.writing
  cancelled := by
    intro call hcall hfuture
    rcases List.mem_append.mp hcall with hcall | hcall
    · exact h.cancelled call hcall hfuture
    · obtain rfl := List.mem_singleton.mp hcall
      rw [hpending] at hfuture
      cases hfuture

theorem Inv.count (h : Inv s) (pdus : List Bytes) :
    Inv { s with count := s.count + 1, written := pdus } := by
  refine h.quiet rfl rfl (Nat.le_succ _) (List.prefix_refl _) ?_
  exact fun hloop => ⟨hloop, (h.closed hloop).1⟩

theorem Inv.send (h : Inv s) (request : Request) : Inv (s.send request) := by
  unfold Connection.send
  split
  · exact h
  · simp only
    split
    · exact h.count s.written
    · cases encodePdu (getRequestCommandId request) .ESME_ROK (sequenceNumberOf s.count)
        (some (.req request)) with
      | ok pdu =>
        refine h.start rfl rfl ?_ (by simp_all)
        intro other hother hsequence
        apply ‹¬ s.inUse _ = true›
        exact List.any_eq_true.mpr ⟨other, hother, decide_eq_true hsequence⟩
      | error e => exact h.refuse rfl (fun _ _ hreply => (by cases hreply))

theorem Inv.notify (h : Inv s) (notification : Notification) : Inv (s.notify notification) := by
  unfold Connection.notify
  split
  · exact h
  · simp only
    split
    · exact h.count s.written
    · cases encodePdu (getNotificationCommandId notification) .ESME_ROK
        (sequenceNumberOf s.count) (some (.notification notification)) with
      | ok pdu => exact h.count _
      | error e => exact h.count s.written

theorem Inv.sent (h : Inv s) {send : Send} (hsend : send ∈ s.futures)
    (hcancelled : send.future ≠ .cancelled) : Inv (s.sent send) := by
  unfold Connection.sent
  cases hfuture : send.future with
  | pending =>
    refine h.map_of_no_result
      (f := fun other =>
        if other.number = send.number then { other with writing := false } else other)
      rfl rfl (le_refl _) (List.prefix_refl _) (fun other => ?_) (fun other => ?_)
      (fun other => ?_) (fun other reply pdu => ?_) ?_ ?_
    · split <;> rfl
    · split <;> rfl
    · split <;> rfl
    · split <;> exact fun hresult => hresult
    · intro hloop
      refine ⟨(h.closed hloop).1, fun other hother => ?_⟩
      split <;> exact (h.closed hloop).2 other hother
    · intro other hother hother_future
      split
      · -- the call of this number is the one whose write is done, and it waits
        have heq : other = send :=
          List.inj_on_of_nodup_map h.number_nodup hother hsend ‹other.number = send.number›
        rw [if_pos ‹_›, heq] at hother_future
        exact absurd (hfuture.symm.trans hother_future) (fun heq => (by cases heq))
      · rw [if_neg ‹_›] at hother_future
        exact h.writing other hother hother_future
  | result reply pdu =>
    apply h.finish hsend
    · intro reply' pdu' heq
      cases heq
      exact hfuture
    · exact fun hcancelled' => absurd hcancelled' hcancelled
  | cancelled => exact absurd hfuture hcancelled

/-! ### Steps -/

theorem Inv.step {e : Event} (h : Inv s) (hexpected : Expected s e)
    (hstep : Connection.step s e = some s') : Inv s' := by
  have hwriting : s.receiveLoop ≠ .ended → s'.receiveLoop = .ended → s.Writing :=
    fun _ hloop => hexpected.closing s' hstep hloop
  cases e with
  | header headerBytes =>
    obtain ⟨⟨hloop, _⟩, heq⟩ := Option.ite_none_right_eq_some.mp hstep
    obtain rfl := Option.some.inj heq
    exact h.receiveHeader (hwriting (by rw [hloop]; exact fun heq => (by cases heq)))
  | body bodyBytes =>
    cases hloop : s.receiveLoop with
    | body header =>
      simp only [Connection.step, hloop, Option.ite_none_right_eq_some] at hstep
      obtain ⟨hlength, heq⟩ := hstep
      obtain rfl := Option.some.inj heq
      apply h.receivePdu
      · exact hexpected.kind header bodyBytes hloop rfl hlength
      · exact hwriting (by rw [hloop]; exact fun heq => (by cases heq))
    | _ => simp only [Connection.step, hloop, reduceCtorEq] at hstep
  | returned res =>
    cases hloop : s.receiveLoop with
    | calling header req =>
      simp only [Connection.step, hloop] at hstep
      obtain rfl := Option.some.inj hstep
      exact h.write (hwriting (by rw [hloop]; exact fun heq => (by cases heq)))
    | _ => simp only [Connection.step, hloop, reduceCtorEq] at hstep
  | notified =>
    obtain ⟨hloop, heq⟩ := Option.ite_none_right_eq_some.mp hstep
    obtain rfl := Option.some.inj heq
    refine h.quiet rfl rfl (le_refl _) (List.prefix_refl _) ?_
    exact fun hended => (by cases hended)
  | lost =>
    have hend : s' = s.endLoop ∧ s.receiveLoop ≠ .ended := by
      cases hloop : s.receiveLoop with
      | ended => simp only [Connection.step, hloop, reduceCtorEq] at hstep
      | header | body =>
        simp only [Connection.step, hloop] at hstep
        exact ⟨(Option.some.inj hstep).symm, fun heq => (by cases heq)⟩
      | calling | notifying =>
        simp only [Connection.step, hloop, Option.ite_none_left_eq_some] at hstep
        exact ⟨(Option.some.inj hstep.2).symm, fun heq => (by cases heq)⟩
    obtain ⟨rfl, hloop⟩ := hend
    exact h.endLoop (hwriting hloop rfl)
  | close =>
    obtain rfl := Option.some.inj hstep
    refine h.quiet rfl rfl (le_refl _) (List.prefix_refl _) ?_
    exact fun hloop => ⟨hloop, rfl⟩
  | send request =>
    obtain rfl := Option.some.inj hstep
    exact h.send request
  | notify notification =>
    obtain rfl := Option.some.inj hstep
    exact h.notify notification
  | sent number =>
    obtain ⟨send, hcall, hstep⟩ := Option.bind_eq_some_iff.mp hstep
    obtain ⟨hsend, heq⟩ := Option.ite_none_right_eq_some.mp hstep
    obtain rfl := Option.some.inj heq
    exact h.sent (mem_of_call hcall) (hexpected.unsent number send rfl hcall hsend)
  | unsent number =>
    obtain ⟨send, hcall, hstep⟩ := Option.bind_eq_some_iff.mp hstep
    obtain ⟨_, heq⟩ := Option.ite_none_right_eq_some.mp hstep
    obtain rfl := Option.some.inj heq
    exact h.finish (mem_of_call hcall) (fun _ _ heq => (by cases heq)) (fun _ => Or.inl rfl)
  | cancel number =>
    obtain ⟨send, hcall, rfl⟩ := Option.map_eq_some_iff.mp hstep
    exact h.finish (mem_of_call hcall) (fun _ _ heq => (by cases heq)) (fun _ => Or.inr rfl)
  | resume number =>
    obtain ⟨send, hcall, hstep⟩ := Option.bind_eq_some_iff.mp hstep
    obtain ⟨hsend, heq⟩ := Option.ite_none_left_eq_some.mp hstep
    obtain ⟨outcome, houtcome, rfl⟩ := Option.map_eq_some_iff.mp heq
    apply h.finish (mem_of_call hcall)
    · intro reply pdu hreply
      cases hfuture : send.future with
      | result reply' pdu' =>
        rw [hfuture, hreply] at houtcome
        cases houtcome
        rfl
      | _ =>
        rw [hfuture, hreply] at houtcome
        cases houtcome
    · intro hcancelled
      exact absurd (h.writing send (mem_of_call hcall) hcancelled) hsend

/-! ### Steps that the connection does not expect -/

/-- A loop that ends cancels the futures of all calls that go on. -/
def Cancels (s s' : Connection) : Prop :=
  s'.receiveLoop = .ended → s'.futures = s.futures.map Send.cancel

theorem cancels_write (s : Connection) (pdu : Except Error Bytes) : s.Cancels (s.write pdu) := by
  intro hloop
  rcases s.write_cases pdu with ⟨pdus, hwrite⟩ | hwrite
  · rw [hwrite] at hloop
    cases hloop
  · rw [hwrite]
    rfl

theorem cancels_receiveHeader (s : Connection) (headerBytes : Bytes) :
    s.Cancels (s.receiveHeader headerBytes) := by
  unfold Connection.receiveHeader
  cases decodeHeader headerBytes with
  | ok header => exact fun hloop => (by cases hloop)
  | error e =>
    cases e with
    | commandStatusError commandStatus =>
      intro _
      rcases s.write_cases (encodePdu .GENERIC_NACK commandStatus
        (decodeSequenceNumber headerBytes) none) with ⟨pdus, hwrite⟩ | hwrite
      · simp only [hwrite]
        rfl
      · simp only [hwrite]
        show (s.futures.map Send.cancel).map Send.cancel = _
        rw [List.map_map]
        apply List.map_congr_left
        intro send _
        show send.cancel.cancel = send.cancel
        unfold Send.cancel
        split
        · exact if_neg (fun heq => (by cases heq))
        · rfl
    | _ => exact fun _ => rfl

theorem cancels_receivePdu (s : Connection) (header : Header) (bodyBytes : Bytes) :
    s.Cancels (s.receivePdu header bodyBytes) := by
  unfold Connection.receivePdu
  simp only
  split
  · unfold Connection.processRequest
    cases requestBody _ header bodyBytes with
    | ok req => exact fun hloop => (by cases hloop)
    | error resCommandStatus => exact cancels_write _ _
  · split
    · exact fun hloop => (by cases hloop)
    · split
      · unfold Connection.processNotification
        split
        · exact fun hloop => (by cases hloop)
        · cases decodeBody header.commandId bodyBytes with
          | ok body => exact fun hloop => (by cases hloop)
          | error e => exact fun hloop => (by cases hloop)
      · exact fun _ => rfl

/-- A step ends the loop in one way. -/
theorem cancels_of_step {e : Event} (hstep : s.step e = some s')
    (hloop : s.receiveLoop ≠ .ended) : s.Cancels s' := by
  have hsame : s'.receiveLoop = s.receiveLoop → s.Cancels s' :=
    fun heq hended => absurd (heq ▸ hended) hloop
  cases e with
  | header headerBytes =>
    obtain ⟨_, heq⟩ := Option.ite_none_right_eq_some.mp hstep
    obtain rfl := Option.some.inj heq
    exact s.cancels_receiveHeader headerBytes
  | body bodyBytes =>
    cases hbody : s.receiveLoop with
    | body header =>
      simp only [Connection.step, hbody, Option.ite_none_right_eq_some] at hstep
      obtain rfl := Option.some.inj hstep.2
      exact s.cancels_receivePdu header bodyBytes
    | _ => simp only [Connection.step, hbody, reduceCtorEq] at hstep
  | returned res =>
    cases hcalling : s.receiveLoop with
    | calling header req =>
      simp only [Connection.step, hcalling] at hstep
      obtain rfl := Option.some.inj hstep
      exact s.cancels_write _
    | _ => simp only [Connection.step, hcalling, reduceCtorEq] at hstep
  | notified =>
    obtain ⟨_, heq⟩ := Option.ite_none_right_eq_some.mp hstep
    obtain rfl := Option.some.inj heq
    exact fun hended => (by cases hended)
  | lost =>
    cases hlost : s.receiveLoop with
    | ended => exact absurd hlost hloop
    | header | body =>
      simp only [Connection.step, hlost] at hstep
      obtain rfl := Option.some.inj hstep
      exact fun _ => rfl
    | calling | notifying =>
      simp only [Connection.step, hlost, Option.ite_none_left_eq_some] at hstep
      obtain rfl := Option.some.inj hstep.2
      exact fun _ => rfl
  | close =>
    obtain rfl := Option.some.inj hstep
    exact hsame rfl
  | send request =>
    obtain rfl := Option.some.inj hstep
    apply hsame
    unfold Connection.send
    split
    · rfl
    · simp only
      split
      · rfl
      · cases encodePdu (getRequestCommandId request) .ESME_ROK (sequenceNumberOf s.count)
          (some (.req request)) with
        | ok pdu => rfl
        | error e => rfl
  | notify notification =>
    obtain rfl := Option.some.inj hstep
    apply hsame
    unfold Connection.notify
    split
    · rfl
    · simp only
      split
      · rfl
      · cases encodePdu (getNotificationCommandId notification) .ESME_ROK
          (sequenceNumberOf s.count) (some (.notification notification)) with
        | ok pdu => rfl
        | error e => rfl
  | sent number =>
    obtain ⟨send, _, hstep⟩ := Option.bind_eq_some_iff.mp hstep
    obtain ⟨_, heq⟩ := Option.ite_none_right_eq_some.mp hstep
    obtain rfl := Option.some.inj heq
    apply hsame
    unfold Connection.sent
    cases send.future.outcome with
    | none => rfl
    | some outcome => rfl
  | unsent number =>
    obtain ⟨send, _, hstep⟩ := Option.bind_eq_some_iff.mp hstep
    obtain ⟨_, heq⟩ := Option.ite_none_right_eq_some.mp hstep
    obtain rfl := Option.some.inj heq
    exact hsame rfl
  | cancel number =>
    obtain ⟨send, _, rfl⟩ := Option.map_eq_some_iff.mp hstep
    exact hsame rfl
  | resume number =>
    obtain ⟨send, _, hstep⟩ := Option.bind_eq_some_iff.mp hstep
    obtain ⟨_, heq⟩ := Option.ite_none_left_eq_some.mp hstep
    obtain ⟨outcome, _, rfl⟩ := Option.map_eq_some_iff.mp heq
    exact hsame rfl

/-- A response of another kind completes the call. -/
theorem not_matched_of_kind {header : Header} {bodyBytes : Bytes} {send : Send}
    (hresponse : header.commandId ∈ responseCommandIds) (hsend : send ∈ s.futures)
    (hsequence : send.sequenceNumber = header.sequenceNumber) (hpending : send.future = .pending)
    (hanswers : ¬ Answers header send) : ¬ Matched (s.receivePdu header bodyBytes) := by
  intro hmatched
  have hrequest : header.commandId ∉ requestCommandIds := by
    intro hmem
    revert hresponse hmem
    cases header.commandId <;> decide
  have hpdu : s.receivePdu header bodyBytes =
      Connection.processResponse { s with received := s.received ++ [(header, bodyBytes)] }
        header bodyBytes s.received.length := by
    unfold Connection.receivePdu
    simp only [hrequest, hresponse, if_false, if_true]
  rw [hpdu] at hmatched
  have hset : (send.setResult header.sequenceNumber (responseReply header bodyBytes)
      s.received.length).future =
        .result (responseReply header bodyBytes) s.received.length := by
    rw [Send.setResult_future, if_pos ⟨hsequence, hpending⟩]
  obtain ⟨header', bodyBytes', hget, hgot, _⟩ := hmatched.given _
    (List.mem_append_left _ (List.mem_map_of_mem hsend)) _ _ hset
  have hconcat : (s.received ++ [(header, bodyBytes)])[s.received.length]? =
      some (header, bodyBytes) := List.getElem?_concat_length
  obtain ⟨rfl, rfl⟩ := Prod.mk.inj (Option.some.inj (hconcat.symm.trans hget))
  unfold Answers at hgot
  rw [Send.setResult_sequenceNumber, Send.setResult_request] at hgot
  exact hanswers hgot

theorem leaves {e : Event} (h : Inv s) (hexpected : ¬ Expected s e) :
    ∃ s', s.step e = some s' ∧ ¬ Matched s' := by
  by_contra hmatched
  push Not at hmatched
  apply hexpected
  constructor
  · intro header bodyBytes hloop he hlength hresponse send hsend hsequence hpending
    by_contra hanswers
    have hstep : s.step e = some (s.receivePdu header bodyBytes) := by
      subst he
      simp only [Connection.step, hloop, hlength, if_true]
    exact not_matched_of_kind hresponse hsend hsequence hpending hanswers
      (hmatched _ hstep)
  · intro s' hstep hended send hsend hpending
    have hloop : s.receiveLoop ≠ .ended :=
      fun hloop => (h.closed hloop).2 send hsend hpending
    have hfutures := cancels_of_step hstep hloop hended
    have hmem : send.cancel ∈ s'.futures := by
      rw [hfutures]
      exact List.mem_map_of_mem hsend
    have hcancelled : send.cancel.future = .cancelled := by
      rw [Send.cancel_future, if_pos hpending]
    rw [← Send.cancel_writing]
    exact (hmatched s' hstep).cancelled.1 _ hmem hcancelled
  · intro number send he hcall hwriting hcancelled
    have hstep : s.step e = some (s.finish send (.cancelledError false)) := by
      subst he
      simp only [Connection.step, hcall, Option.bind_some, hwriting, if_true]
      unfold Connection.sent
      rw [hcancelled]
      rfl
    have hmem : (send, Outcome.cancelledError false) ∈
        (s.finish send (.cancelledError false)).ended :=
      List.mem_append_right _ (List.mem_singleton_self _)
    rcases (hmatched _ hstep).cancelled.2 _ hmem hcancelled with heq | heq
    · cases heq
    · cases heq

/-! ### Runs -/

theorem inv_init (requestCb notificationCb : Bool) : Inv (init requestCb notificationCb) where
  given := fun _ hsend => (by cases hsend)
  completed := fun _ hcall => (by cases hcall)
  apart := List.Pairwise.nil
  number_nodup := List.nodup_nil
  number_lt := fun _ hsend => (by cases hsend)
  sequenceNumber_nodup := List.nodup_nil
  closed := fun hloop => (by cases hloop)
  writing := fun _ hsend => (by cases hsend)
  cancelled := fun _ hcall => (by cases hcall)

/-- **Matching of responses.**  Whatever calls there are and whatever the peer sends: calls
complete with responses for them, each with one of its own, and those that wait when the
connection closes end with `ConnectionError`, iff no PDU of another command comes for a call that
waits, and no call waits for its response when the loop ends or after that. -/
theorem responses_matched_iff (requestCb notificationCb : Bool) (es : List Event) :
    (∀ es' s', es' <+: es → run step (init requestCb notificationCb) es' = some s' →
      Matched s') ↔ Along step Expected (init requestCb notificationCb) es := by
  have hstep : ∀ s e s', Inv s → Expected s e → step s e = some s' → Inv s' :=
    fun _ _ _ hinv hexpected hs' => hinv.step hexpected hs'
  exact forall_safe_iff_along hstep (fun _ hinv => hinv.matched) (fun _ _ hinv => leaves hinv)
    (inv_init requestCb notificationCb)

/-- `enquire_link` is completed by the response to a `cancel_sm`. -/
theorem cancelSm_completes_enquireLink :
    ¬ ∀ requestCb notificationCb es s',
      run step (init requestCb notificationCb) es = some s' → Matched s' := by
  intro hmatched
  let es : List Event :=
    [.send .EnquireLinkReq, .sent 0,
      .header [0, 0, 0, 16, 0x80, 0, 0, 8, 0, 0, 0, 0, 0, 0, 0, 1], .body [], .resume 0]
  let header : Header :=
    { commandLength := 16, commandId := .CANCEL_SM_RESP, commandStatus := .ESME_ROK,
      sequenceNumber := 1 }
  let send : Send :=
    { number := 0, request := .EnquireLinkReq, sequenceNumber := 1,
      future := .result (.res .CancelSmRes) 0, writing := false }
  have hrun : (run step (init false false) es).map (fun s => (s.received, s.ended)) =
      some ([(header, [])], [(send, .reply (.res .CancelSmRes) 0)]) := by
    decide
  obtain ⟨s', hs', heq⟩ := Option.map_eq_some_iff.mp hrun
  obtain ⟨hreceived, hended⟩ := Prod.mk.inj heq
  have hsend : send ∈ s'.calls := by
    apply List.mem_append_right
    rw [hended]
    exact List.mem_singleton_self _
  obtain ⟨header', bodyBytes, hget, hanswers, _⟩ :=
    (hmatched false false es s' hs').given send hsend _ _ rfl
  rw [hreceived] at hget
  obtain ⟨rfl, rfl⟩ := Prod.mk.inj (Option.some.inj hget)
  revert hanswers
  unfold Answers
  decide

end Connection

end HatDrivers.Smpp.Transport
