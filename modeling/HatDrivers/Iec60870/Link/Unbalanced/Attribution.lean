import HatDrivers.Iec60870.Link.Unbalanced.Master

namespace HatDrivers.Iec60870.Link.Unbalanced

open HatDrivers.Lib

/-!
# Unbalanced master link — attribution of responses

What a connection is credited with is the data in its receive queue and the success of its
requests, each on account of a response.  The responses travel through the future of the link
and the futures of the calls; at each place it is known for which connection they are taken
(`MasterLink.Inv`).
-/

/-- A response to a request of connection `k`. -/
def Genuine (written : List (ℕ × ReqFrame)) (k : ℕ) (res : Response) : Prop :=
  ∃ req, res.answers.bind (written[·]?) = some (k, req)

theorem genuine_iff {written : List (ℕ × ReqFrame)} {k : ℕ} {res : Response} :
    ((res.answers.bind (written[·]?)).any fun p => p.1 = k) ↔ Genuine written k res := by
  unfold Genuine
  rcases res.answers.bind (written[·]?) with _ | ⟨k', req⟩
  · simp
  · simp

instance (written : List (ℕ × ReqFrame)) (k : ℕ) (res : Response) :
    Decidable (Genuine written k res) := decidable_of_iff _ genuine_iff

/-- A connection is credited with nothing but responses to its own requests. -/
structure MasterConnection.Attributed (written : List (ℕ × ReqFrame)) (k : ℕ)
    (conn : MasterConnection) : Prop where
  received : ∀ p ∈ conn.received, Genuine written k p.2
  requests : ∀ request ∈ conn.requests, ∀ res, request.future = .result res →
    Genuine written k res

namespace MasterLink

/-- Every connection is credited with nothing but responses to its own requests. -/
def Attributed (s : MasterLink) : Prop :=
  ∀ k (conn : MasterConnection), s.conns[k]? = some conn → conn.Attributed s.written k

/-- A frame that arrives while the link waits for a response to a connection, answers a request
of that connection. -/
def Prompt (s : MasterLink) : Event → Prop
  | .receive res => s.resFuture = .pending →
    ∀ call ∈ s.sendLoop.call.bind (s.calls[·]?), Genuine s.written call.connection res
  | _ => True

instance (s : MasterLink) (e : Event) : Decidable (s.Prompt e) := by
  cases e <;> unfold Prompt <;> infer_instance

end MasterLink

/-! ### The invariant -/

/-- The call that a connection awaits is its own. -/
def MasterConnection.Awaits (calls : List Call) (k : ℕ) (conn : MasterConnection) : Prop :=
  ∀ i, conn.loop.call = some i → ∃ call, calls[i]? = some call ∧ call.connection = k

def Call.Genuine (written : List (ℕ × ReqFrame)) (call : Call) : Prop :=
  ∀ res, call.future = .result (some res) → Unbalanced.Genuine written call.connection res

/-- The call that the loop of the link is at. -/
def LinkLoop.current : LinkLoop → Option ℕ
  | .sleeping i => some i
  | loop => loop.call

structure MasterLink.Inv (s : MasterLink) : Prop where
  current : ∀ i, s.sendLoop.current = some i → i < s.calls.length
  conns : ∀ k (conn : MasterConnection), s.conns[k]? = some conn →
    conn.Attributed s.written k ∧ conn.Awaits s.calls k
  calls : ∀ (i : ℕ) (call : Call), s.calls[i]? = some call → call.Genuine s.written
  resFuture : ∀ res, s.resFuture = .result res → ∀ i, s.sendLoop.call = some i →
    ∀ call, s.calls[i]? = some call → Genuine s.written call.connection res

variable {written : List (ℕ × ReqFrame)} {calls : List Call} {k : ℕ} {res : Response}
  {conn conn' : MasterConnection}

theorem LinkLoop.current_of_call {loop : LinkLoop} {i : ℕ} (h : loop.call = some i) :
    loop.current = some i := by
  cases loop <;> first | exact h | cases h

theorem Genuine.append (h : Genuine written k res) (ws : List (ℕ × ReqFrame)) :
    Genuine (written ++ ws) k res := by
  obtain ⟨req, h⟩ := h
  obtain ⟨i, hi, hreq⟩ := Option.bind_eq_some_iff.mp h
  refine ⟨req, Option.bind_eq_some_iff.mpr ⟨i, hi, ?_⟩⟩
  rw [List.getElem?_append_left (List.getElem?_eq_some_iff.mp hreq).1]
  exact hreq

/-! ### Steps of a connection -/

namespace MasterConnection

theorem Attributed.append (h : conn.Attributed written k) (ws : List (ℕ × ReqFrame)) :
    conn.Attributed (written ++ ws) k where
  received p hp := (h.received p hp).append ws
  requests request hrequest res hres := (h.requests request hrequest res hres).append ws

/-- What a connection is credited with does not depend on the rest of its state. -/
theorem Attributed.of_eq (h : conn.Attributed written k)
    (hreceived : conn'.received = conn.received)
    (hrequests : conn'.requests = conn.requests) : conn'.Attributed written k where
  received := by
    rw [hreceived]
    exact h.received
  requests := by
    rw [hrequests]
    exact h.requests

/-- A future that is set, is set on account of a genuine response. -/
theorem Attributed.setFuture {i : ℕ} {future : RequestFuture} (h : conn.Attributed written k)
    (hfuture : ∀ res, future = .result res → Genuine written k res) :
    (conn.setFuture i future).Attributed written k where
  received := h.received
  requests request hrequest res hres := by
    rcases mem_modify hrequest with hrequest | ⟨request', hrequest', rfl⟩
    · exact h.requests request hrequest res hres
    · split at hres
      · exact hfuture res hres
      · exact h.requests request' hrequest' res hres

theorem Attributed.finish (h : conn.Attributed written k) : conn.finish.Attributed written k where
  received := h.received
  requests request hrequest res hres := by
    obtain ⟨request', hrequest', rfl⟩ := List.mem_map.mp hrequest
    split at hres
    · cases hres
    · exact h.requests request' hrequest' res hres

/-- The loop goes on with the next request, or ends. -/
structure Quiet (written : List (ℕ × ReqFrame)) (k : ℕ) (conn : MasterConnection) : Prop where
  attributed : conn.Attributed written k
  call_eq : conn.loop.call = none

theorem Quiet.setFuture {i : ℕ} {future : RequestFuture} (h : conn.Quiet written k)
    (hfuture : ∀ res, future = .result res → Genuine written k res) :
    (conn.setFuture i future).Quiet written k :=
  ⟨h.attributed.setFuture hfuture, h.call_eq⟩

theorem Attributed.quiet_finish (h : conn.Attributed written k) : conn.finish.Quiet written k :=
  ⟨h.finish, rfl⟩

theorem Quiet.credit {i : ℕ} {res : Option Response} (h : conn.Quiet written k)
    (hres : ∀ r, res = some r → Genuine written k r) : (conn.credit i res).Quiet written k := by
  have hset : ∀ r, res = some r → (conn.setFuture i (.result r)).Quiet written k := by
    intro r hr
    refine h.setFuture fun r' hr' => ?_
    obtain rfl := RequestFuture.result.inj hr'
    exact hres r hr
  have hexception : ∀ e, (conn.setFuture i (.exception e)).Quiet written k := by
    intro e
    exact h.setFuture fun r' hr' => by cases hr'
  cases res with
  | none => exact hexception _
  | some r =>
    obtain ⟨frame, answers⟩ := r
    cases frame with
    | ShortFrame => exact hset _ rfl
    | ReqFrame frame => exact hexception _
    | ResFrame frame =>
      cases hfunction : frame.function with
      | ACK =>
        simp only [MasterConnection.credit, hfunction]
        exact hset _ rfl
      | RES_NACK =>
        simp only [MasterConnection.credit, hfunction]
        exact hset _ rfl
      | NACK =>
        simp only [MasterConnection.credit, hfunction]
        exact hexception _
      | RES_STATUS =>
        simp only [MasterConnection.credit, hfunction]
        exact hexception _
      | NOT_FUNCTIONING =>
        simp only [MasterConnection.credit, hfunction]
        exact hexception _
      | NOT_IMPLEMENTED =>
        simp only [MasterConnection.credit, hfunction]
        exact hexception _
      | RES_DATA =>
        simp only [MasterConnection.credit, hfunction]
        by_cases hdata : frame.data = []
        · rw [if_pos hdata]
          exact hset _ rfl
        · rw [if_neg hdata]
          cases hroom : hasRoom conn.receiveQueueSize conn.receiveQueue with
          | false => exact h.attributed.quiet_finish
          | true =>
            -- the data is put in the receive queue
            refine Quiet.setFuture ⟨⟨fun p hp => ?_, h.attributed.requests⟩, h.call_eq⟩
              fun r' hr' => ?_
            · rcases List.mem_append.mp hp with hp | hp
              · exact h.attributed.received p hp
              · obtain rfl := List.mem_singleton.mp hp
                exact hres _ rfl
            · obtain rfl := RequestFuture.result.inj hr'
              exact hres _ rfl

theorem Attributed.respond {i : ℕ} {res : Option Response} (h : conn.Attributed written k)
    (hres : ∀ r, res = some r → Genuine written k r) : (conn.respond i res).Quiet written k := by
  have hquiet : Quiet written k
      { conn with dataFlowControl := dataFlowControlOf res, loop := .next } :=
    ⟨h.of_eq rfl rfl, rfl⟩
  unfold MasterConnection.respond
  dsimp only
  split
  · exact hquiet.credit hres
  · exact hquiet

/-- The future of its call is all that a connection looks at. -/
theorem Attributed.resume {future : CallFuture} (h : conn.Attributed written k)
    (hfuture : ∀ res, future = .result (some res) → Genuine written k res)
    (hresume : conn.resume future = some conn') : conn'.Quiet written k := by
  cases hloop : conn.loop with
  | awaitingReset call =>
    cases future with
    | result res =>
      simp only [MasterConnection.resume, hloop, Option.some.injEq] at hresume
      obtain rfl := hresume
      refine ⟨h.of_eq rfl rfl, ?_⟩
      cases hreset : resetBy res <;> rfl
    | timeoutError =>
      simp only [MasterConnection.resume, hloop, Option.some.injEq] at hresume
      obtain rfl := hresume
      exact ⟨h.of_eq rfl rfl, rfl⟩
    | connectionError =>
      simp only [MasterConnection.resume, hloop, Option.some.injEq] at hresume
      obtain rfl := hresume
      exact h.quiet_finish
    | pending => simp [MasterConnection.resume, hloop] at hresume
    | cancelled => simp [MasterConnection.resume, hloop] at hresume
  | awaiting i req retryCounter call =>
    cases future with
    | result res =>
      simp only [MasterConnection.resume, hloop, Option.some.injEq] at hresume
      obtain rfl := hresume
      refine h.respond fun r hr => hfuture r ?_
      rw [hr]
    | timeoutError =>
      simp only [MasterConnection.resume, hloop, Option.some.injEq] at hresume
      obtain rfl := hresume
      split
      · exact h.quiet_finish
      · exact ⟨h.of_eq rfl rfl, rfl⟩
    | connectionError =>
      simp only [MasterConnection.resume, hloop, Option.some.injEq] at hresume
      obtain rfl := hresume
      exact h.quiet_finish
    | pending => simp [MasterConnection.resume, hloop] at hresume
    | cancelled => simp [MasterConnection.resume, hloop] at hresume
  | resetting => simp [MasterConnection.resume, hloop] at hresume
  | next => simp [MasterConnection.resume, hloop] at hresume
  | requesting i req retryCounter => simp [MasterConnection.resume, hloop] at hresume
  | ended => simp [MasterConnection.resume, hloop] at hresume

/-- A new request is credited with nothing. -/
theorem Attributed.request {function : ReqFunction} {data : Bytes} (h : conn.Attributed written k)
    (hrequest : conn.request function data = some conn') :
    conn'.Attributed written k ∧ conn'.loop = conn.loop := by
  unfold MasterConnection.request at hrequest
  split at hrequest
  · obtain rfl := Option.some.inj hrequest
    refine ⟨⟨h.received, fun request' hmem res hres => ?_⟩, rfl⟩
    rcases List.mem_append.mp hmem with hmem | hmem
    · exact h.requests request' hmem res hres
    · obtain rfl := List.mem_singleton.mp hmem
      cases hres
  · cases hrequest

theorem Attributed.receiveData (h : conn.Attributed written k)
    (hreceive : conn.receiveData = some conn') :
    conn'.Attributed written k ∧ conn'.loop = conn.loop := by
  cases hqueue : conn.receiveQueue with
  | nil => simp [MasterConnection.receiveData, hqueue] at hreceive
  | cons data queue =>
    simp only [MasterConnection.receiveData, hqueue, Option.some.injEq] at hreceive
    obtain rfl := hreceive
    exact ⟨h.of_eq rfl rfl, rfl⟩

theorem Quiet.handle {i : ℕ} {request : Request} (h : conn.Quiet written k) :
    (conn.handle i request).Quiet written k := by
  unfold MasterConnection.handle
  split
  · exact ⟨h.attributed.of_eq rfl rfl, h.call_eq⟩
  · exact ⟨h.attributed.of_eq rfl rfl, rfl⟩

theorem Attributed.nextRequest (h : conn.Attributed written k)
    (hnext : conn.nextRequest = some conn') : conn'.Quiet written k := by
  unfold MasterConnection.nextRequest at hnext
  split at hnext
  · cases hnext
  · rename_i hloop
    have hcall : conn.loop.call = none := by rw [not_not.mp hloop]; rfl
    have hquiet : ∀ sendQueue dataFlowQueue, Quiet written k { conn with
        sendQueue := sendQueue, dataFlowQueue := dataFlowQueue } :=
      fun _ _ => ⟨h.of_eq rfl rfl, hcall⟩
    cases hdeferred : (if conn.dataFlowControl then [] else conn.dataFlowQueue) with
    | cons i queue =>
      simp only [hdeferred, Option.map_eq_some_iff] at hnext
      obtain ⟨request, _, rfl⟩ := hnext
      exact (hquiet _ _).handle
    | nil =>
      cases hqueue : conn.sendQueue with
      | cons i queue =>
        simp only [hdeferred, hqueue, Option.map_eq_some_iff] at hnext
        obtain ⟨request, _, rfl⟩ := hnext
        exact (hquiet _ _).handle
      | nil => simp [hdeferred, hqueue] at hnext

end MasterConnection

/-! ### Steps of the link -/

namespace MasterLink

variable {s s' : MasterLink}

/-- A connection goes on. -/
theorem Inv.setConn (h : s.Inv) (hattributed : conn'.Attributed s.written k)
    (hawaits : conn'.Awaits s.calls k) : Inv { s with conns := s.conns.set k conn' } where
  current := h.current
  conns j conn hconn := by
    rcases getElem?_set_eq_some.mp hconn with ⟨_, hconn⟩ | ⟨rfl, _, rfl⟩
    · exact h.conns j conn hconn
    · exact ⟨hattributed, hawaits⟩
  calls := h.calls
  resFuture := h.resFuture

/-- A step of a connection that keeps its loop where it is, or lets it go on. -/
theorem Inv.onConn {f : MasterConnection → Option MasterConnection} (h : s.Inv)
    (hf : ∀ conn conn', s.conns[k]? = some conn → conn.Attributed s.written k →
      f conn = some conn' →
      conn'.Attributed s.written k ∧ (conn'.loop = conn.loop ∨ conn'.loop.call = none))
    (hstep : s.onConn k f = some s') : s'.Inv := by
  obtain ⟨conn', hconn', rfl⟩ := Option.map_eq_some_iff.mp hstep
  obtain ⟨conn, hconn, hconn'⟩ := Option.bind_eq_some_iff.mp hconn'
  obtain ⟨hattributed, hawaits⟩ := h.conns k conn hconn
  obtain ⟨hattributed', hloop⟩ := hf conn conn' hconn hattributed hconn'
  refine h.setConn hattributed' fun i hi => ?_
  rcases hloop with hloop | hcall
  · rw [hloop] at hi
    exact hawaits i hi
  · rw [hcall] at hi
    cases hi

theorem exists_setCallFuture {i j : ℕ} {call : Call} {future : CallFuture}
    (hcall : s.calls[j]? = some call) :
    ∃ call', (s.setCallFuture i future).calls[j]? = some call' ∧
      call'.connection = call.connection := by
  by_cases hij : i = j
  · subst hij
    refine ⟨_, getElem?_modify_eq_some.mpr (.inr ⟨rfl, call, hcall, rfl⟩), ?_⟩
    split <;> rfl
  · exact ⟨call, getElem?_modify_eq_some.mpr (.inl ⟨hij, hcall⟩), rfl⟩

/-- The future of a call is set, with a genuine response if with any. -/
theorem Inv.setCallFuture {i : ℕ} {future : CallFuture} (h : s.Inv)
    (hfuture : ∀ call, s.calls[i]? = some call → ∀ res, future = .result (some res) →
      Genuine s.written call.connection res) : (s.setCallFuture i future).Inv := by
  have hcalls : ∀ (j : ℕ) (call : Call), (s.setCallFuture i future).calls[j]? = some call →
      ∃ call', s.calls[j]? = some call' ∧ call'.connection = call.connection := by
    intro j call hcall
    rcases getElem?_modify_eq_some.mp hcall with ⟨_, hcall⟩ | ⟨rfl, call', hcall', rfl⟩
    · exact ⟨call, hcall, rfl⟩
    · refine ⟨call', hcall', ?_⟩
      split <;> rfl
  constructor
  · intro j hj
    show j < (s.calls.modify i _).length
    rw [List.length_modify]
    exact h.current j hj
  · intro k conn hconn
    obtain ⟨hattributed, hawaits⟩ := h.conns k conn hconn
    refine ⟨hattributed, fun j hj => ?_⟩
    obtain ⟨call, hcall, rfl⟩ := hawaits j hj
    exact exists_setCallFuture hcall
  · intro j call hcall res hres
    rcases getElem?_modify_eq_some.mp hcall with ⟨_, hcall⟩ | ⟨rfl, call', hcall', rfl⟩
    · exact h.calls j call hcall res hres
    · split at hres
      · rw [if_pos ‹_›]
        exact hfuture call' hcall' res hres
      · rw [if_neg ‹_›]
        exact h.calls i call' hcall' res hres
  · intro res hres j hj call hcall
    obtain ⟨call', hcall', hconnection⟩ := hcalls j call hcall
    rw [← hconnection]
    exact h.resFuture res hres j hj call' hcall'

/-- The loop of the link goes on with the next call. -/
theorem Inv.finishCall {i : ℕ} {future : CallFuture} (h : s.Inv)
    (hfuture : ∀ call, s.calls[i]? = some call → ∀ res, future = .result (some res) →
      Genuine s.written call.connection res) : (s.finishCall i future).Inv := by
  have hwaiting : Inv { s with sendLoop := .waiting, resFuture := .none } :=
    ⟨fun j hj => (by cases hj), h.conns, h.calls, fun res hres => (by cases hres)⟩
  exact hwaiting.setCallFuture hfuture

/-- Where the loop of the link waits for no response, nothing is said of one. -/
theorem Inv.of_resFuture {sendQueue : List ℕ} {sendLoop : LinkLoop} {resFuture : ResFuture}
    (h : s.Inv) (hcurrent : ∀ i, sendLoop.current = some i → i < s.calls.length)
    (hres : (∀ res, resFuture ≠ .result res) ∨ sendLoop.call = none) :
    Inv { s with sendQueue := sendQueue, sendLoop := sendLoop, resFuture := resFuture } := by
  refine ⟨hcurrent, h.conns, h.calls, fun res hres' i hi => ?_⟩
  rcases hres with hres | hcall
  · exact absurd hres' (hres res)
  · dsimp only at hi
    rw [hcall] at hi
    cases hi

/-- The entries of a list whose entries were all changed. -/
theorem getElem?_map_eq_some {α β : Type} {f : α → β} {as : List α} {i : ℕ} {b : β} :
    (as.map f)[i]? = some b ↔ ∃ a, as[i]? = some a ∧ f a = b := by
  rw [List.getElem?_map, Option.map_eq_some_iff]

theorem Inv.close (h : s.Inv) : s.close.Inv := by
  constructor
  · exact fun i hi => by cases hi
  · intro k conn hconn
    obtain ⟨conn', hconn', rfl⟩ := getElem?_map_eq_some.mp hconn
    exact ⟨(h.conns k conn' hconn').1.finish, fun i hi => by cases hi⟩
  · intro i call hcall res hres
    obtain ⟨call', hcall', rfl⟩ := getElem?_map_eq_some.mp hcall
    split at hres
    · cases hres
    · rw [if_neg ‹_›]
      exact h.calls i call' hcall' res hres
  · exact fun res hres => by cases hres

theorem Inv.append (h : s.Inv) (ws : List (ℕ × ReqFrame)) :
    Inv { s with written := s.written ++ ws } where
  current := h.current
  conns k conn hconn := ⟨(h.conns k conn hconn).1.append ws, (h.conns k conn hconn).2⟩
  calls i call hcall res hres := (h.calls i call hcall res hres).append ws
  resFuture res hres i hi call hcall := (h.resFuture res hres i hi call hcall).append ws

theorem submitted_call (conn : MasterConnection) (i : ℕ) :
    (conn.submitted i).loop.call = some i := by
  unfold MasterConnection.submitted
  cases conn.loop <;> rfl

theorem submitted_attributed (h : conn.Attributed written k) (i : ℕ) :
    (conn.submitted i).Attributed written k := by
  unfold MasterConnection.submitted
  cases conn.loop <;> exact h.of_eq rfl rfl

/-- A new call belongs to the connection that awaits it. -/
theorem Inv.submit {req : ReqFrame} (h : s.Inv) (hconn : s.conns[k]? = some conn) :
    (s.submit k conn req).Inv := by
  have hgrow : ∀ i (call : Call), s.calls[i]? = some call →
      (s.calls ++ [⟨k, req, .pending⟩])[i]? = some call :=
    fun i call hcall => getElem?_concat_eq_some.mpr (.inl hcall)
  constructor
  · intro i hi
    show i < (s.calls ++ [_]).length
    rw [List.length_append]
    exact Nat.lt_add_right _ (h.current i hi)
  · intro j conn' hconn'
    rcases getElem?_set_eq_some.mp hconn' with ⟨_, hconn'⟩ | ⟨rfl, _, rfl⟩
    · obtain ⟨hattributed, hawaits⟩ := h.conns j conn' hconn'
      refine ⟨hattributed, fun i hi => ?_⟩
      obtain ⟨call, hcall, hconnection⟩ := hawaits i hi
      exact ⟨call, hgrow i call hcall, hconnection⟩
    · refine ⟨submitted_attributed (h.conns k conn hconn).1 _, fun i hi => ?_⟩
      rw [submitted_call] at hi
      obtain rfl := Option.some.inj hi
      exact ⟨_, getElem?_concat_eq_some.mpr (.inr ⟨rfl, rfl⟩), rfl⟩
  · intro i call hcall res hres
    rcases getElem?_concat_eq_some.mp hcall with hcall | ⟨_, rfl⟩
    · exact h.calls i call hcall res hres
    · cases hres
  · intro res hres i hi call hcall
    rcases getElem?_concat_eq_some.mp hcall with hcall | ⟨rfl, rfl⟩
    · exact h.resFuture res hres i hi call hcall
    · -- the loop waits for an older call
      exact absurd (h.current _ (LinkLoop.current_of_call hi)) (Nat.lt_irrefl _)

theorem Inv.closeConn (h : s.Inv) (hconn : s.conns[k]? = some conn) : (s.closeConn k conn).Inv := by
  have hfinish : Inv { s with conns := s.conns.set k conn.finish } :=
    h.setConn (h.conns k conn hconn).1.finish fun i hi => by cases hi
  unfold MasterLink.closeConn
  cases hcall : conn.loop.call with
  | none => exact hfinish
  | some i => exact hfinish.setCallFuture fun _ _ _ hres => by cases hres

theorem Inv.writeCall {i : ℕ} {call : Call} (h : s.Inv) (hloop : s.sendLoop = .writing i) :
    (s.writeCall i call).Inv := by
  have hwritten := h.append [(call.connection, call.req)]
  unfold MasterLink.writeCall
  cases hencode : s.encoder.encode (.ReqFrame call.req) with
  | error e => exact h.close
  | ok bytes =>
    dsimp only
    split
    · exact hwritten.finishCall fun _ _ _ hres => by cases hres
    · refine ⟨fun j hj => ?_, hwritten.conns, hwritten.calls, fun res hres j hj => ?_⟩
      · refine hwritten.current j ?_
        dsimp only
        rw [hloop]
        exact hj
      · refine hwritten.resFuture res hres j ?_
        dsimp only
        rw [hloop]
        exact hj

/-- **Every step keeps the invariant** if the frame that arrives meets the condition. -/
theorem Inv.step {e : Event} (h : s.Inv) (hprompt : s.Prompt e) (hstep : s.step e = some s') :
    s'.Inv := by
  cases e with
  | openConnection address sendRetryCount sendQueueSize receiveQueueSize =>
    simp only [MasterLink.step] at hstep
    split at hstep
    · cases hstep
    · obtain rfl := Option.some.inj hstep
      refine ⟨h.current, fun j conn hconn => ?_, h.calls, h.resFuture⟩
      rcases getElem?_concat_eq_some.mp hconn with hconn | ⟨_, rfl⟩
      · exact h.conns j conn hconn
      · exact ⟨⟨fun p hp => (by cases hp), fun request hr => (by cases hr)⟩,
          fun i hi => (by cases hi)⟩
  | request k function data =>
    refine h.onConn (fun conn conn' _ hattributed hf => ?_) hstep
    obtain ⟨hattributed', hloop⟩ := hattributed.request hf
    exact ⟨hattributed', .inl hloop⟩
  | cancel k i =>
    refine h.onConn (fun conn conn' _ hattributed hf => ?_) hstep
    obtain rfl := Option.some.inj hf
    exact ⟨hattributed.setFuture fun res hres => (by cases hres), .inl rfl⟩
  | receiveData k =>
    refine h.onConn (fun conn conn' _ hattributed hf => ?_) hstep
    obtain ⟨hattributed', hloop⟩ := hattributed.receiveData hf
    exact ⟨hattributed', .inl hloop⟩
  | nextRequest k =>
    refine h.onConn (fun conn conn' _ hattributed hf => ?_) hstep
    have hquiet := hattributed.nextRequest hf
    exact ⟨hquiet.attributed, .inr hquiet.call_eq⟩
  | resume k =>
    refine h.onConn (fun conn conn' hconn hattributed hf => ?_) hstep
    obtain ⟨call, hcall, hresume⟩ := Option.bind_eq_some_iff.mp hf
    obtain ⟨i, hi, hcall⟩ := Option.bind_eq_some_iff.mp hcall
    -- the call that a connection awaits is its own
    obtain ⟨call', hcall', rfl⟩ := (h.conns k conn hconn).2 i hi
    obtain rfl := Option.some.inj (hcall.symm.trans hcall')
    have hquiet := hattributed.resume (h.calls i call hcall) hresume
    exact ⟨hquiet.attributed, .inr hquiet.call_eq⟩
  | close k =>
    obtain ⟨conn, hconn, rfl⟩ := Option.map_eq_some_iff.mp hstep
    exact h.closeConn hconn
  | closeLink =>
    obtain rfl := Option.some.inj hstep
    exact h.close
  | submit k =>
    obtain ⟨conn, hconn, hstep⟩ := Option.bind_eq_some_iff.mp hstep
    obtain ⟨req, _, hstep⟩ := Option.bind_eq_some_iff.mp hstep
    split at hstep
    · obtain rfl := Option.some.inj hstep
      exact h.submit hconn
    · cases hstep
  | nextCall =>
    cases hloop : s.sendLoop with
    | waiting =>
      cases hqueue : s.sendQueue with
      | nil => simp [MasterLink.step, hloop, hqueue] at hstep
      | cons i sendQueue =>
        simp only [MasterLink.step, hloop, hqueue, Option.map_eq_some_iff] at hstep
        obtain ⟨call, hcall, rfl⟩ := hstep
        have hlt := (List.getElem?_eq_some_iff.mp hcall).1
        by_cases hpending : call.future = .pending
        · rw [if_pos hpending]
          refine h.of_resFuture (fun j hj => ?_) (.inr rfl)
          obtain rfl := Option.some.inj hj
          exact hlt
        · rw [if_neg hpending]
          exact h.of_resFuture (fun j hj => by cases hj) (.inr rfl)
    | sleeping i => simp [MasterLink.step, hloop] at hstep
    | writing i => simp [MasterLink.step, hloop] at hstep
    | awaiting i => simp [MasterLink.step, hloop] at hstep
  | wake =>
    cases hloop : s.sendLoop with
    | sleeping i =>
      simp only [MasterLink.step, hloop, Option.some.injEq] at hstep
      obtain rfl := hstep
      refine h.of_resFuture (fun j hj => h.current j ?_) (.inl fun res hres => by cases hres)
      rw [hloop]
      exact hj
    | waiting => simp [MasterLink.step, hloop] at hstep
    | writing i => simp [MasterLink.step, hloop] at hstep
    | awaiting i => simp [MasterLink.step, hloop] at hstep
  | write =>
    cases hloop : s.sendLoop with
    | writing i =>
      simp only [MasterLink.step, hloop, Option.map_eq_some_iff] at hstep
      obtain ⟨call, _, rfl⟩ := hstep
      exact h.writeCall hloop
    | waiting => simp [MasterLink.step, hloop] at hstep
    | sleeping i => simp [MasterLink.step, hloop] at hstep
    | awaiting i => simp [MasterLink.step, hloop] at hstep
  | timeout =>
    cases hloop : s.sendLoop with
    | awaiting i =>
      cases hfuture : s.resFuture with
      | pending =>
        simp only [MasterLink.step, hloop, hfuture, Option.some.injEq] at hstep
        obtain rfl := hstep
        exact h.finishCall fun _ _ _ hres => by cases hres
      | none => simp [MasterLink.step, hloop, hfuture] at hstep
      | result res => simp [MasterLink.step, hloop, hfuture] at hstep
    | waiting => simp [MasterLink.step, hloop] at hstep
    | sleeping i => simp [MasterLink.step, hloop] at hstep
    | writing i => simp [MasterLink.step, hloop] at hstep
  | resumeLink =>
    cases hloop : s.sendLoop with
    | awaiting i =>
      cases hfuture : s.resFuture with
      | result res =>
        simp only [MasterLink.step, hloop, hfuture, Option.some.injEq] at hstep
        obtain rfl := hstep
        refine h.finishCall fun call hcall res' hres' => ?_
        obtain rfl := Option.some.inj (CallFuture.result.inj hres')
        exact h.resFuture res hfuture i (by rw [hloop]; rfl) call hcall
      | none => simp [MasterLink.step, hloop, hfuture] at hstep
      | pending => simp [MasterLink.step, hloop, hfuture] at hstep
    | waiting => simp [MasterLink.step, hloop] at hstep
    | sleeping i => simp [MasterLink.step, hloop] at hstep
    | writing i => simp [MasterLink.step, hloop] at hstep
  | receive res =>
    simp only [MasterLink.step] at hstep
    split_ifs at hstep with hpossible hpending
    · obtain rfl := Option.some.inj hstep
      refine ⟨h.current, h.conns, h.calls, fun res' hres' i hi call hcall => ?_⟩
      obtain rfl := ResFuture.result.inj hres'
      exact hprompt hpending call (Option.bind_eq_some_iff.mpr ⟨i, hi, hcall⟩)
    · obtain rfl := Option.some.inj hstep
      exact h

theorem inv_init (addressSize : AddressSize) (broadcastAddress sendQueueSize : ℕ) :
    (init addressSize broadcastAddress sendQueueSize).Inv where
  current i hi := by cases hi
  conns k conn hconn := by simp [init] at hconn
  calls i call hcall := by simp [init] at hcall
  resFuture res hres := by cases hres

/-- **Connections are credited with their own responses**, in every state of a run in which no
frame arrives late. -/
theorem attributed_of_prompt {addressSize : AddressSize} {broadcastAddress sendQueueSize : ℕ}
    {es : List Event}
    (hprompt : Along step Prompt (init addressSize broadcastAddress sendQueueSize) es)
    (hrun : run step (init addressSize broadcastAddress sendQueueSize) es = some s) :
    s.Attributed := by
  have hinv : s.Inv := run_invariant Inv (fun s e s' h hc hs => h.step hc hs)
    (inv_init addressSize broadcastAddress sendQueueSize) hprompt hrun
  exact fun k conn hconn => (hinv.conns k conn hconn).1

/-- What a link does to reset connection `k`, up to the answer of its station. -/
def resetEvents (k : ℕ) : List Event :=
  [.submit k, .nextCall, .wake, .write, .receive ⟨.ShortFrame, some k⟩, .resumeLink, .resume k]

/-- Two connections are opened, to stations 1 and 2. -/
def openEvents : List Event :=
  .openConnection 1 3 0 0 :: .openConnection 2 3 0 0 :: (resetEvents 0 ++ resetEvents 1)

/-- Connection `k` polls its station, up to the written request. -/
def pollEvents (k : ℕ) : List Event :=
  [.request k .REQ_DATA_2 [], .nextRequest k, .submit k, .nextCall, .wake, .write]

/-- A response with data of the station with an address. -/
def dataFrame (address : ℕ) (data : Bytes) : Frame :=
  .ResFrame ⟨none, false, false, .RES_DATA, address, data⟩

/-- Both stations answer in time. -/
def promptEvents : List Event :=
  openEvents ++ pollEvents 0 ++ [.receive ⟨dataFrame 1 [5], some 2⟩, .resumeLink, .resume 0] ++
    pollEvents 1 ++ [.receive ⟨dataFrame 2 [6], some 3⟩, .resumeLink, .resume 1]

/-- Station 1 answers after the response timeout, when connection 1 waits for station 2. -/
def lateEvents : List Event :=
  openEvents ++ pollEvents 0 ++ [.timeout] ++ pollEvents 1 ++
    [.receive ⟨dataFrame 1 [5], some 2⟩, .resumeLink, .resume 1]

theorem attributed_of_promptEvents :
    ∃ s, run step (init .ONE 0xFF 0) promptEvents = some s ∧ s.Attributed :=
  ⟨_, rfl, @attributed_of_prompt _ .ONE 0xFF 0 promptEvents (by decide) rfl⟩

/-- **A late response is credited to another connection**: its data is in the receive queue of
connection 1. -/
theorem lateEvents_not_attributed :
    ∃ s, run step (init .ONE 0xFF 0) lateEvents = some s ∧ ¬ s.Attributed := by
  refine ⟨_, rfl, fun h => ?_⟩
  have hreceived := (h 1 _ rfl).received ([5], ⟨dataFrame 1 [5], some 2⟩) (by decide)
  exact absurd hreceived (by decide)

end MasterLink

end HatDrivers.Iec60870.Link.Unbalanced
