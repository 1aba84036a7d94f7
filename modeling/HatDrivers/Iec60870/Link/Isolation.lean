import HatDrivers.Iec60870.Link.Balanced
import HatDrivers.Iec60870.Link.Unbalanced.Isolation

namespace HatDrivers.Iec60870.Link

open HatDrivers.Lib

/-!
# Link layer — isolation of connections

A balanced link is a dispatcher as well, whose requests are each for one connection at most.
With that, closing a connection does no harm to the others, of a slave link or of a balanced
link, iff no receive queue is closed, or left for good, while the receive loop waits to put data
in it (`isolated_iff_harmless`).
-/

/-- A connection as a member of the link. -/
def BalancedConnection.member (conn : BalancedConnection) : Member ReqFrame where
  isFor req := req.direction.map invertDirection = some conn.direction ∧
    req.address = conn.address
  isOpen := conn.isOpen
  closeRequested := conn.closeRequested
  hasLeft := conn.cleanedUp
  since := conn.since
  requests := conn.requests

/-- The key of a connection in `_conns`, while it is there. -/
def BalancedConnection.key (conn : BalancedConnection) : Option (Direction × ℕ) :=
  if conn.cleanedUp then none else some (conn.direction, conn.address)

namespace BalancedLink

/-- The link as a dispatcher. -/
def dispatcher (s : BalancedLink) : Dispatcher ReqFrame where
  members := s.conns.map BalancedConnection.member
  taken := s.frames
  pending := none
  waitsFor := s.loop.waitsFor
  alive := s.loop.alive
  failed := s.loop.failed

/-- The tasks of no connection end while the loop waits to put data in its queue. -/
def Harmless (s : BalancedLink) : BalancedEvent → Prop
  | .cleanUp k => s.loop.waitsFor = some k → ∀ conn ∈ s.conns[k]?, conn.isClosing = false
  | _ => True

instance (s : BalancedLink) (e : BalancedEvent) : Decidable (s.Harmless e) := by
  cases e <;> unfold Harmless <;> infer_instance

structure Tables (conns : List BalancedConnection) : Prop where
  /-- only the tasks of a connection close its queue -/
  queues : ∀ conn ∈ conns, conn.receiveQueue.closed → conn.cleanedUp
  /-- the keys of `_conns` are distinct -/
  keys : ∀ (i j : ℕ) (key : Direction × ℕ),
    (conns.map BalancedConnection.key)[i]? = some (some key) →
    (conns.map BalancedConnection.key)[j]? = some (some key) → i = j

structure Inv (s : BalancedLink) : Prop where
  dispatcher : s.dispatcher.Inv
  tables : Tables s.conns

end BalancedLink

variable {s s' : BalancedLink} {conn conn' : BalancedConnection} {req : ReqFrame} {k : ℕ}
  {e : BalancedEvent}

/-! ### What the steps of a connection change -/

namespace BalancedConnection

theorem processNew_eq (conn : BalancedConnection) (req : ReqFrame) :
    ∃ frameCountBit res, (conn.processNew req).1 =
      { conn with frameCountBit := frameCountBit, res := res } := by
  have hreset : ∃ frameCountBit res,
      ((if req.frameCountValid then conn else { conn with frameCountBit := some false } :
        BalancedConnection).respond .ACK).1 =
      { conn with frameCountBit := frameCountBit, res := res } := by
    split
    · exact ⟨_, _, rfl⟩
    · exact ⟨_, _, rfl⟩
  have hput : ∃ frameCountBit res,
      (if req.data ≠ [] then (conn, BalancedProcessing.puts req.data) else
        conn.respond .ACK).1 = { conn with frameCountBit := frameCountBit, res := res } := by
    split
    · exact ⟨_, _, rfl⟩
    · exact ⟨_, _, rfl⟩
  have hrespond : ∀ function, ∃ frameCountBit res, (conn.respond function).1 =
      { conn with frameCountBit := frameCountBit, res := res } :=
    fun function => ⟨_, _, rfl⟩
  cases hfunction : req.function with
  | RESET_LINK => simpa only [processNew, hfunction] using hreset
  | RESET_PROCESS => simpa only [processNew, hfunction] using hreset
  | DATA => simpa only [processNew, hfunction] using hput
  | DATA_NO_RES => simpa only [processNew, hfunction] using hput
  | TEST => simpa only [processNew, hfunction] using hrespond _
  | REQ_STATUS => simpa only [processNew, hfunction] using hrespond _
  | REQ_ACCESS_DEMAND => simpa only [processNew, hfunction] using hrespond _
  | REQ_DATA_1 => simpa only [processNew, hfunction] using hrespond _
  | REQ_DATA_2 => simpa only [processNew, hfunction] using hrespond _

/-- A connection that processes a request keeps all but its frame count bit and its response. -/
theorem process_eq (conn : BalancedConnection) (req : ReqFrame) :
    ∃ frameCountBit res, (conn.process req).1 =
      { conn with
        frameCountBit := frameCountBit, res := res, requests := conn.requests ++ [req] } := by
  simp only [process]
  split
  · split
    · exact ⟨_, _, rfl⟩
    · obtain ⟨bit, res, h⟩ := processNew_eq { conn with
        frameCountBit := some req.frameCountBit, requests := conn.requests ++ [req] } req
      exact ⟨bit, res, h⟩
  · obtain ⟨bit, res, h⟩ := processNew_eq { conn with requests := conn.requests ++ [req] } req
    exact ⟨bit, res, h⟩

end BalancedConnection

namespace BalancedLink

/-! ### The tables of the link -/

namespace Tables

variable {conns : List BalancedConnection}

theorem set (h : Tables conns) (hk : conns[k]? = some conn)
    (hqueue : conn'.receiveQueue.closed → conn'.cleanedUp) (hkey : conn'.key = conn.key) :
    Tables (conns.set k conn') where
  queues := forall_mem_set h.queues hqueue
  keys := by
    rw [map_set_of_eq hk hkey]
    exact h.keys

/-- A connection leaves `_conns`. -/
theorem remove (h : Tables conns) (hkey : conn.key = none) (hqueue : conn.cleanedUp) :
    Tables (conns.set k conn) where
  queues := forall_mem_set h.queues fun _ => hqueue
  keys i j key hi hj := by
    rw [List.map_set, hkey] at hi hj
    rcases getElem?_set_eq_some.mp hi with ⟨-, hi⟩ | ⟨-, -, hi⟩
    · rcases getElem?_set_eq_some.mp hj with ⟨-, hj⟩ | ⟨-, -, hj⟩
      · exact h.keys i j key hi hj
      · cases hj
    · cases hi

theorem add (h : Tables conns) (hqueue : conn.receiveQueue.closed = false)
    (hkey : ∀ conn' ∈ conns, conn'.key ≠ conn.key) : Tables (conns ++ [conn]) where
  queues conn' hconn' hclosed := by
    rcases List.mem_append.mp hconn' with hconn' | hconn'
    · exact h.queues conn' hconn' hclosed
    · obtain rfl := List.mem_singleton.mp hconn'
      exact Bool.noConfusion (hqueue.symm.trans hclosed)
  keys i j key hi hj := by
    have hnew : ∀ i : ℕ, (conns.map BalancedConnection.key)[i]? = some (some key) →
        conn.key ≠ some key := by
      intro i hi hconn
      obtain ⟨conn', hconn', hkey'⟩ := List.mem_map.mp (List.mem_of_getElem? hi)
      exact hkey conn' hconn' (hkey'.trans hconn.symm)
    rw [List.map_append, List.map_singleton] at hi hj
    rcases getElem?_concat_eq_some.mp hi with hi | ⟨rfl, hconn⟩
    · rcases getElem?_concat_eq_some.mp hj with hj | ⟨-, hconn⟩
      · exact h.keys i j key hi hj
      · exact absurd hconn (hnew i hi)
    · rcases getElem?_concat_eq_some.mp hj with hj | ⟨rfl, -⟩
      · exact absurd hconn (hnew j hj)
      · rfl

theorem finish (h : Tables s.conns) (reason : Reason) : Tables (s.finish reason).conns where
  queues conn hconn := by
    obtain ⟨conn', hconn', rfl⟩ := List.mem_map.mp hconn
    exact h.queues conn' hconn'
  keys := by
    have hkeys : (s.finish reason).conns.map BalancedConnection.key =
        s.conns.map BalancedConnection.key := by
      show (s.conns.map _).map _ = _
      rw [List.map_map]
      rfl
    rw [hkeys]
    exact h.keys

theorem answer_conns (s : BalancedLink) (req : ReqFrame) (res : Option Frame) :
    (s.answer req res).conns = s.conns := by
  unfold answer
  split
  · rfl
  · rfl

theorem goOnPut {queue : ReceiveQueue} (h : Tables s.conns) (hk : s.conns[k]? = some conn')
    (hqueue : queue.closed → conn.cleanedUp) (hkey : conn.key = conn'.key) :
    Tables (s.goOnPut req k conn queue).conns := by
  unfold BalancedLink.goOnPut
  rw [answer_conns]
  exact h.set hk hqueue hkey

theorem goOn (h : Tables s.conns) (hk : s.conns[k]? = some conn')
    (hqueue : conn.receiveQueue.closed → conn.cleanedUp) (hkey : conn.key = conn'.key)
    (processing : BalancedProcessing) : Tables (s.goOn req k conn processing).conns := by
  have hset : Tables ({ s with conns := s.conns.set k conn } : BalancedLink).conns :=
    h.set hk hqueue hkey
  cases processing with
  | responds res =>
    simp only [BalancedLink.goOn, answer_conns]
    exact hset
  | puts data =>
    cases hput : conn.receiveQueue.tryPut data with
    | fails =>
      simp only [BalancedLink.goOn, hput]
      exact hset.finish _
    | waits =>
      simp only [BalancedLink.goOn, hput]
      exact hset
    | done queue =>
      simp only [BalancedLink.goOn, hput]
      refine h.goOnPut hk ?_ hkey
      rw [ReceiveQueue.closed_of_done hput]
      exact hqueue

theorem process (h : Tables s.conns) (req : ReqFrame) : Tables (s.process req).conns := by
  cases hdirection : req.direction with
  | none =>
    simp only [BalancedLink.process, hdirection]
    exact h.finish _
  | some direction =>
    simp only [BalancedLink.process, hdirection]
    cases hlookup : (s.lookup (invertDirection direction) req.address).bind
        fun k => s.conns[k]?.map fun conn => (k, conn) with
    | none => exact h
    | some p =>
      obtain ⟨k, conn⟩ := p
      obtain ⟨_, -, hk⟩ := Option.bind_eq_some_iff.mp hlookup
      obtain ⟨_, hk, hp⟩ := Option.map_eq_some_iff.mp hk
      cases hp
      simp only [visit]
      split
      · obtain ⟨bit, res, hprocess⟩ := conn.process_eq req
        have htaken : Tables ({ s with frames := s.frames ++ [req] } : BalancedLink).conns := h
        refine htaken.goOn hk ?_ ?_ _
        · rw [hprocess]
          exact h.queues conn (List.mem_of_getElem? hk)
        · rw [hprocess]
          rfl
      · exact h

end Tables

theorem onConn_eq_some {f : BalancedConnection → Option BalancedConnection} :
    s.onConn k f = some s' ↔ ∃ conn conn', s.conns[k]? = some conn ∧ f conn = some conn' ∧
      s' = { s with conns := s.conns.set k conn' } := by
  simp only [onConn, Option.map_eq_some_iff, Option.bind_eq_some_iff]
  constructor
  · rintro ⟨conn', ⟨conn, hk, hf⟩, rfl⟩
    exact ⟨conn, conn', hk, hf, rfl⟩
  · rintro ⟨conn, conn', hk, hf, rfl⟩
    exact ⟨conn', ⟨conn, hk, hf⟩, rfl⟩

theorem lookup_eq_some {direction : Direction} {address : ℕ}
    (h : s.lookup direction address = some k) :
    ∃ conn, s.conns[k]? = some conn ∧ conn.key = some (direction, address) := by
  obtain ⟨hlt, hconn, -⟩ := List.findIdx?_eq_some_iff_getElem.mp h
  simp only [decide_eq_true_eq] at hconn
  obtain ⟨hleft, hdirection, haddress⟩ := hconn
  refine ⟨s.conns[k], List.getElem?_eq_getElem hlt, ?_⟩
  unfold BalancedConnection.key
  rw [if_neg hleft, hdirection, haddress]

theorem key_ne_of_lookup {direction : Direction} {address : ℕ}
    (h : s.lookup direction address = none) (hconn : conn ∈ s.conns) :
    conn.key ≠ some (direction, address) := by
  intro hkey
  have hnot := List.findIdx?_eq_none_iff.mp h conn hconn
  unfold BalancedConnection.key at hkey
  split at hkey
  · cases hkey
  · rename_i hleft
    cases hkey
    simp [hleft] at hnot

theorem Tables.onConn {f : BalancedConnection → Option BalancedConnection} (h : Tables s.conns)
    (hf : ∀ conn conn' : BalancedConnection, f conn = some conn' →
      conn'.key = conn.key ∧ conn'.cleanedUp = conn.cleanedUp ∧
        conn'.receiveQueue.closed = conn.receiveQueue.closed)
    (hstep : s.onConn k f = some s') : Tables s'.conns := by
  obtain ⟨conn, conn', hk, hconn, rfl⟩ := onConn_eq_some.mp hstep
  obtain ⟨hkey, hleft, hclosed⟩ := hf conn conn' hconn
  refine h.set hk ?_ hkey
  rw [hleft, hclosed]
  exact h.queues conn (List.mem_of_getElem? hk)

/-! ### What the send loop does -/

/-- An event of the send loop or its callers, or a response. -/
def ofSendLoop : BalancedEvent → Bool
  | .call _ _ | .cancel _ | .sendNext | .drained | .answered | .timeout => true
  | .receive (.ResFrame _) | .receive .ShortFrame => true
  | _ => false

/-- Neither the receive loop nor a connection takes part. -/
structure Quiet (s s' : BalancedLink) : Prop where
  conns : s'.conns = s.conns
  loop : s'.loop = s.loop
  frames : s'.frames = s.frames

structure Finished (s : BalancedLink) (reason : Reason) (s' : BalancedLink) : Prop where
  conns : s'.conns = (s.finish reason).conns
  loop : s'.loop = .ended reason
  frames : s'.frames = s.frames

theorem Quiet.write {s₁ : BalancedLink} (h : Quiet s s₁) (i : ℕ) (call : SendCall) :
    Quiet s (s₁.write i call) ∨ ∃ e, Finished s (.error e) (s₁.write i call) := by
  unfold BalancedLink.write
  split
  · exact .inl h
  · cases s₁.encoder.encode (.ReqFrame call.req) with
    | error e =>
      refine .inr ⟨e, ?_, rfl, h.frames⟩
      show s₁.conns.map _ = s.conns.map _
      rw [h.conns]
    | ok bytes => exact .inl ⟨h.conns, h.loop, h.frames⟩

theorem quiet_or_finished (he : ofSendLoop e) (hstep : s.step e = some s') :
    Quiet s s' ∨ ∃ e, Finished s (.error e) s' := by
  cases e with
  | call k req =>
    simp only [step] at hstep
    split at hstep
    · obtain rfl := Option.some.inj hstep
      exact .inl ⟨rfl, rfl, rfl⟩
    · cases hstep
  | cancel i =>
    obtain rfl := Option.some.inj hstep
    exact .inl ⟨rfl, rfl, rfl⟩
  | receive frame =>
    simp only [step] at hstep
    split at hstep
    · obtain rfl := Option.some.inj hstep
      have hres : Quiet s (if s.resFuture = .pending then { s with resFuture := .result frame }
          else s) := by
        split
        · exact ⟨rfl, rfl, rfl⟩
        · exact ⟨rfl, rfl, rfl⟩
      cases frame with
      | ReqFrame req => cases he
      | ResFrame frame => exact .inl hres
      | ShortFrame => exact .inl hres
    · cases hstep
  | sendNext =>
    cases hloop : s.sendLoop <;> cases hqueue : s.sendQueue <;>
      simp only [step, hloop, hqueue, reduceCtorEq] at hstep
    obtain ⟨call, -, rfl⟩ := Option.map_eq_some_iff.mp hstep
    apply Quiet.write
    exact ⟨rfl, rfl, rfl⟩
  | drained =>
    cases hloop : s.sendLoop <;> simp only [step, hloop, reduceCtorEq] at hstep
    obtain ⟨call, -, rfl⟩ := Option.map_eq_some_iff.mp hstep
    split
    · exact .inl ⟨rfl, rfl, rfl⟩
    · exact .inl ⟨rfl, rfl, rfl⟩
  | answered =>
    cases hloop : s.sendLoop <;> cases hfuture : s.resFuture <;>
      simp only [step, hloop, hfuture, reduceCtorEq] at hstep
    obtain rfl := Option.some.inj hstep
    exact .inl ⟨rfl, rfl, rfl⟩
  | timeout =>
    cases hloop : s.sendLoop <;> cases hfuture : s.resFuture <;>
      simp only [step, hloop, hfuture, reduceCtorEq] at hstep
    obtain rfl := Option.some.inj hstep
    exact .inl ⟨rfl, rfl, rfl⟩
  | _ => cases he

theorem Tables.step (h : Tables s.conns) (hstep : s.step e = some s') : Tables s'.conns := by
  by_cases he : ofSendLoop e
  · rcases quiet_or_finished he hstep with hquiet | ⟨reason, hfinished⟩
    · rw [hquiet.conns]
      exact h
    · rw [hfinished.conns]
      exact h.finish _
  cases e with
  | openConnection direction address receiveQueueSize =>
    simp only [BalancedLink.step] at hstep
    split at hstep
    · rename_i hopen
      obtain rfl := Option.some.inj hstep
      exact h.add rfl fun conn' hconn' => key_ne_of_lookup hopen.2.2 hconn'
    · cases hstep
  | opened k i =>
    refine h.onConn (fun conn conn' hopened => ?_) hstep
    split at hopened
    · obtain rfl := Option.some.inj hopened
      exact ⟨rfl, rfl, rfl⟩
    · cases hopened
  | receiveData k =>
    refine h.onConn (fun conn conn' hreceive => ?_) hstep
    unfold BalancedConnection.receiveData at hreceive
    split at hreceive
    · obtain ⟨queue, hqueue, rfl⟩ := Option.map_eq_some_iff.mp hreceive
      exact ⟨rfl, rfl, ReceiveQueue.closed_of_take hqueue⟩
    · cases hreceive
  | close k =>
    refine h.onConn (fun conn conn' hclose => ?_) hstep
    unfold BalancedConnection.close at hclose
    split at hclose
    · obtain rfl := Option.some.inj hclose
      exact ⟨rfl, rfl, rfl⟩
    · cases hclose
  | cleanUp k =>
    obtain ⟨conn, conn', hk, hconn, rfl⟩ := onConn_eq_some.mp hstep
    unfold BalancedConnection.cleanUp at hconn
    split at hconn
    · obtain rfl := Option.some.inj hconn
      exact h.remove rfl rfl
    · cases hconn
  | closeLink =>
    simp only [BalancedLink.step] at hstep
    split at hstep
    · obtain rfl := Option.some.inj hstep
      exact h.finish _
    · cases hstep
  | receive frame =>
    simp only [BalancedLink.step] at hstep
    split at hstep
    · obtain rfl := Option.some.inj hstep
      cases frame with
      | ReqFrame req => exact h.process req
      | _ => exact absurd rfl he
    · cases hstep
  | resumePut =>
    cases hloop : s.loop <;> simp only [BalancedLink.step, hloop, reduceCtorEq] at hstep
    rename_i req k
    obtain ⟨conn, hk, hstep⟩ := Option.bind_eq_some_iff.mp hstep
    unfold resumePut at hstep
    cases hput : conn.receiveQueue.tryPut req.data with
    | fails =>
      simp only [hput, Option.some.injEq] at hstep
      subst hstep
      exact h.finish _
    | waits => simp only [hput, reduceCtorEq] at hstep
    | done queue =>
      simp only [hput, Option.some.injEq] at hstep
      subst hstep
      refine h.goOnPut hk ?_ rfl
      rw [ReceiveQueue.closed_of_done hput]
      exact h.queues conn (List.mem_of_getElem? hk)
  | sent =>
    cases hloop : s.loop <;> simp only [BalancedLink.step, hloop, reduceCtorEq] at hstep
    rename_i res
    obtain rfl := Option.some.inj hstep
    cases res with
    | none => exact h.finish _
    | some res =>
      cases hencode : s.encoder.encode res with
      | error e =>
        simp only [BalancedLink.send, hencode]
        exact h.finish _
      | ok bytes =>
        simp only [BalancedLink.send, hencode]
        exact h
  | _ => exact absurd rfl he

/-! ### What the steps of the link do as steps of the dispatcher -/

/-- The dispatcher, where the place of the loop is known. -/
theorem dispatcher_eq {loop : LinkReceiveLoop} (hloop : s.loop = loop) :
    s.dispatcher = ⟨s.conns.map BalancedConnection.member, s.frames, none, loop.waitsFor,
      loop.alive, loop.failed⟩ := by
  subst hloop
  rfl

theorem getElem?_members (hk : s.conns[k]? = some conn) :
    s.dispatcher.members[k]? = some conn.member := by
  show (s.conns.map _)[k]? = _
  rw [List.getElem?_map, hk]
  rfl

/-- A change of a connection is a change of the member. -/
theorem dispatcher_set (s : BalancedLink) (k : ℕ) (conn : BalancedConnection) :
    ({ s with conns := s.conns.set k conn } : BalancedLink).dispatcher =
      { s.dispatcher with members := s.dispatcher.members.set k conn.member } := by
  simp only [dispatcher, List.map_set]

/-- A change of a connection that is none of the member. -/
theorem dispatcher_set_same (hk : s.conns[k]? = some conn) (hmember : conn'.member = conn.member) :
    ({ s with conns := s.conns.set k conn' } : BalancedLink).dispatcher = s.dispatcher := by
  simp only [dispatcher, map_set_of_eq hk hmember]

theorem answer_dispatcher (s : BalancedLink) (req : ReqFrame) (res : Option Frame) :
    (s.answer req res).dispatcher =
      { s.dispatcher with waitsFor := none, alive := true, failed := false } := by
  unfold answer
  split
  · rfl
  · rfl

theorem Finished.steps {reason : Reason} (h : Finished s reason s')
    (hreason : reason ≠ .queueClosedError) (hrunning : s.dispatcher.failed = false) :
    Relation.ReflTransGen Dispatcher.Step s.dispatcher s'.dispatcher := by
  have hmembers : s'.dispatcher.members = s.dispatcher.finish.members := by
    show s'.conns.map _ = (s.conns.map _).map _
    rw [h.conns]
    show (s.conns.map _).map _ = _
    rw [List.map_map, List.map_map]
    rfl
  have hfailed : (LinkReceiveLoop.ended reason).failed = s.dispatcher.failed := by
    rw [hrunning]
    cases reason with
    | queueClosedError => exact absurd rfl hreason
    | connectionError => rfl
    | error e => rfl
  have hfinish : s'.dispatcher = s.dispatcher.finish := by
    rw [dispatcher_eq h.loop, hfailed, h.frames]
    show Dispatcher.mk s'.dispatcher.members _ _ _ _ _ = _
    rw [hmembers]
    rfl
  rw [hfinish]
  exact .single .finish

theorem finish_steps (hinv : s.Inv) {reason : Reason} (hreason : reason ≠ .queueClosedError) :
    Relation.ReflTransGen Dispatcher.Step s.dispatcher (s.finish reason).dispatcher := by
  have hfinished : Finished s reason (s.finish reason) := ⟨rfl, rfl, rfl⟩
  exact hfinished.steps hreason hinv.dispatcher.running

theorem Quiet.dispatcher (h : Quiet s s') : s'.dispatcher = s.dispatcher := by
  rw [dispatcher_eq h.loop, h.conns, h.frames]
  rfl

/-- What the loop does with a connection that processed the request, and whose queue is open. -/
theorem goOn_dispatcher (s : BalancedLink) (req : ReqFrame) (k : ℕ)
    {processing : BalancedProcessing}
    (hqueue : ∀ data, processing = .puts data → conn.receiveQueue.tryPut data ≠ .fails) :
    ∃ w, (w = none ∨ w = some k) ∧ (s.goOn req k conn processing).dispatcher =
      { s.dispatcher with
        members := s.dispatcher.members.set k conn.member
        waitsFor := w
        alive := true
        failed := false } := by
  cases processing with
  | responds res =>
    refine ⟨none, .inl rfl, ?_⟩
    simp only [goOn]
    rw [answer_dispatcher, dispatcher_set]
  | puts data =>
    cases hput : conn.receiveQueue.tryPut data with
    | fails => exact absurd hput (hqueue data rfl)
    | waits =>
      refine ⟨some k, .inr rfl, ?_⟩
      simp only [goOn, hput, dispatcher, List.map_set]
      rfl
    | done queue =>
      refine ⟨none, .inl rfl, ?_⟩
      simp only [goOn, hput, goOnPut]
      rw [answer_dispatcher, dispatcher_set]
      rfl

theorem cleanedUp_of_isOpen (hinv : s.Inv) (hconn : conn ∈ s.conns) (hopen : conn.isOpen) :
    conn.cleanedUp = false := by
  cases hleft : conn.cleanedUp with
  | false => rfl
  | true =>
    have hclosed := hinv.dispatcher.left conn.member (List.mem_map_of_mem hconn) hleft
    exact Bool.noConfusion (hopen.symm.trans hclosed)

/-- The connection that is looked up is the member that the request is for. -/
theorem lookup_iff (hinv : s.Inv) {direction : Direction}
    (hdirection : req.direction = some direction) (k : ℕ) (m : Member ReqFrame)
    (hk : s.dispatcher.members[k]? = some m) (hopen : m.isOpen) :
    k ∈ (s.lookup (invertDirection direction) req.address).toList ↔ m.isFor req := by
  rw [dispatcher, List.getElem?_map, Option.map_eq_some_iff] at hk
  obtain ⟨conn, hk, rfl⟩ := hk
  have hmem := List.mem_of_getElem? hk
  have hleft := cleanedUp_of_isOpen hinv hmem hopen
  have hkey : conn.key = some (conn.direction, conn.address) := by
    rw [BalancedConnection.key, hleft]
    rfl
  rw [Option.mem_toList]
  simp only [BalancedConnection.member, hdirection, Option.map_some, Option.some.injEq,
    decide_eq_true_eq]
  constructor
  · intro hlookup
    obtain ⟨conn', hk', hkey'⟩ := lookup_eq_some hlookup
    obtain rfl := Option.some.inj (hk.symm.trans hk')
    rw [hkey, Option.some.injEq, Prod.mk.injEq] at hkey'
    exact ⟨hkey'.1.symm, hkey'.2.symm⟩
  · rintro ⟨hinvert, haddress⟩
    rw [hinvert, haddress]
    cases hlookup : s.lookup conn.direction conn.address with
    | none => exact absurd hkey (key_ne_of_lookup hlookup hmem)
    | some k' =>
      obtain ⟨conn', hk', hkey'⟩ := lookup_eq_some hlookup
      have hkeys : ∀ {i : ℕ} {c : BalancedConnection}, s.conns[i]? = some c →
          c.key = some (conn.direction, conn.address) →
          (s.conns.map BalancedConnection.key)[i]? =
            some (some (conn.direction, conn.address)) := by
        intro i c hi hc
        rw [List.getElem?_map, hi, Option.map_some, hc]
      rw [hinv.tables.keys k' k _ (hkeys hk' hkey') (hkeys hk hkey)]

/-- What the loop does with a request. -/
theorem process_steps (hinv : s.Inv) (hloop : s.loop = .receiving) (req : ReqFrame) :
    Relation.ReflTransGen Dispatcher.Step s.dispatcher (s.process req).dispatcher := by
  cases hdirection : req.direction with
  | none =>
    simp only [process, hdirection]
    exact finish_steps hinv fun h => by cases h
  | some direction =>
    have hd := dispatcher_eq hloop
    -- the request is taken, for the connection that is looked up
    have htake : Dispatcher.Step s.dispatcher { s.dispatcher with
        taken := s.dispatcher.taken ++ [req]
        pending := some (req, (s.lookup (invertDirection direction) req.address).toList) } := by
      refine .take rfl ?_ ?_ (lookup_iff hinv hdirection)
      · cases s.lookup (invertDirection direction) req.address with
        | none => exact List.nodup_nil
        | some k => exact List.nodup_cons.mpr ⟨List.not_mem_nil, List.nodup_nil⟩
      · intro k hk
        obtain ⟨conn, hk, -⟩ := lookup_eq_some (Option.mem_toList.mp hk)
        rw [hd, List.length_map]
        exact (List.getElem?_eq_some_iff.mp hk).1
    simp only [process, hdirection]
    cases hlookup : s.lookup (invertDirection direction) req.address with
    | none =>
      rw [hlookup] at htake
      have hdone := Dispatcher.Step.done (d := { s.dispatcher with
        taken := s.dispatcher.taken ++ [req], pending := some (req, []) }) rfl
      exact .tail (.single htake) hdone
    | some k =>
      obtain ⟨conn, hk, -⟩ := lookup_eq_some hlookup
      rw [hlookup] at htake
      have hmember := getElem?_members hk
      simp only [Option.bind_some, hk, Option.map_some, visit]
      by_cases hopen : conn.isOpen
      · rw [if_pos hopen]
        obtain ⟨bit, res, hprocess⟩ := conn.process_eq req
        have hqueue : ∀ data, (conn.process req).2 = .puts data →
            (conn.process req).1.receiveQueue.tryPut data ≠ .fails := by
          intro data _ hfails
          rw [hprocess] at hfails
          have hmem := List.mem_of_getElem? hk
          have hleft := hinv.tables.queues conn hmem (ReceiveQueue.closed_of_fails hfails)
          rw [cleanedUp_of_isOpen hinv hmem hopen] at hleft
          cases hleft
        obtain ⟨w, hw, hgoOn⟩ :=
          goOn_dispatcher { s with frames := s.frames ++ [req] } req k hqueue
        rw [hgoOn, hprocess]
        have hstep := Dispatcher.Step.process (d := { s.dispatcher with
          taken := s.dispatcher.taken ++ [req], pending := some (req, [k]) }) rfl hmember hopen hw
        have hdone := Dispatcher.Step.done (d := { s.dispatcher with
          members := s.dispatcher.members.set k
            { conn.member with requests := conn.member.requests ++ [req] }
          taken := s.dispatcher.taken ++ [req]
          pending := some (req, [])
          waitsFor := w }) rfl
        rw [hd] at htake hstep hdone ⊢
        exact .tail (.tail (.single htake) hstep) hdone
      · rw [if_neg hopen]
        have hstep := Dispatcher.Step.skip (d := { s.dispatcher with
          taken := s.dispatcher.taken ++ [req], pending := some (req, [k]) }) rfl hmember
          (Bool.eq_false_of_not_eq_true hopen)
        have hdone := Dispatcher.Step.done (d := { s.dispatcher with
          taken := s.dispatcher.taken ++ [req], pending := some (req, []) }) rfl
        exact .tail (.tail (.single htake) hstep) hdone

/-- The loop goes on from `put`. -/
theorem resumePut_steps (hinv : s.Inv) (hloop : s.loop = .putting req k)
    (hk : s.conns[k]? = some conn) (hstep : s.resumePut req k conn = some s') :
    Relation.ReflTransGen Dispatcher.Step s.dispatcher s'.dispatcher := by
  unfold resumePut at hstep
  cases hput : conn.receiveQueue.tryPut req.data with
  | fails =>
    -- the queue of a connection that the loop waits for is open
    have hleft := hinv.tables.queues conn (List.mem_of_getElem? hk)
      (ReceiveQueue.closed_of_fails hput)
    have hwaits : s.dispatcher.waitsFor = some k := by
      rw [dispatcher_eq hloop]
      rfl
    have hnot := hinv.dispatcher.flowing k _ hwaits (getElem?_members hk)
    exact Bool.noConfusion (hleft.symm.trans hnot)
  | waits => simp only [hput, reduceCtorEq] at hstep
  | done queue =>
    simp only [hput, Option.some.injEq] at hstep
    have hmember : (({ conn with receiveQueue := queue } : BalancedConnection).response
        .ACK).1.member = conn.member := rfl
    rw [← hstep, goOnPut, answer_dispatcher, dispatcher_set_same hk hmember, dispatcher_eq hloop]
    exact .single .goOn

theorem send_steps (hinv : s.Inv) {res : Option Frame} (hloop : s.loop = .sending res) :
    Relation.ReflTransGen Dispatcher.Step s.dispatcher (s.send res).dispatcher := by
  cases res with
  | none => exact finish_steps hinv (by decide)
  | some res =>
    cases hencode : s.encoder.encode res with
    | error e =>
      simp only [send, hencode]
      exact finish_steps hinv (fun h => by cases h)
    | ok bytes =>
      simp only [send, hencode]
      rw [dispatcher_eq hloop]
      exact .refl

/-- A step of a connection that is none of the member. -/
theorem onConn_steps {f : BalancedConnection → Option BalancedConnection}
    (hf : ∀ conn conn' : BalancedConnection, f conn = some conn' → conn'.member = conn.member)
    (hstep : s.onConn k f = some s') :
    Relation.ReflTransGen Dispatcher.Step s.dispatcher s'.dispatcher := by
  obtain ⟨conn, conn', hk, hconn, rfl⟩ := onConn_eq_some.mp hstep
  rw [dispatcher_set_same hk (hf conn conn' hconn)]

theorem close_steps (hstep : s.onConn k BalancedConnection.close = some s') :
    Relation.ReflTransGen Dispatcher.Step s.dispatcher s'.dispatcher := by
  obtain ⟨conn, conn', hk, hconn, rfl⟩ := onConn_eq_some.mp hstep
  unfold BalancedConnection.close at hconn
  split at hconn
  · obtain rfl := Option.some.inj hconn
    rw [dispatcher_set]
    exact .single (.close (getElem?_members hk))
  · cases hconn

theorem cleanUp_steps (hc : s.Harmless (.cleanUp k))
    (hstep : s.onConn k BalancedConnection.cleanUp = some s') :
    Relation.ReflTransGen Dispatcher.Step s.dispatcher s'.dispatcher := by
  obtain ⟨conn, conn', hk, hconn, rfl⟩ := onConn_eq_some.mp hstep
  unfold BalancedConnection.cleanUp at hconn
  split at hconn
  · rename_i hclosing
    obtain rfl := Option.some.inj hconn
    rw [dispatcher_set]
    have hclosed : conn.member.isOpen = false := by
      simp only [BalancedConnection.isClosing, decide_eq_true_eq] at hclosing
      exact Bool.eq_false_of_not_eq_true hclosing.1
    have hwaits : s.dispatcher.waitsFor ≠ some k := by
      intro hwaits
      have := hc hwaits conn hk
      rw [hclosing] at this
      cases this
    exact .single (.leave (getElem?_members hk) hclosed hwaits)
  · cases hconn

/-- **The link refines a dispatcher**, in every harmless step. -/
theorem step_steps (hinv : s.Inv) (hc : s.Harmless e) (hstep : s.step e = some s') :
    Relation.ReflTransGen Dispatcher.Step s.dispatcher s'.dispatcher := by
  by_cases he : ofSendLoop e
  · rcases quiet_or_finished he hstep with hquiet | ⟨reason, hfinished⟩
    · rw [hquiet.dispatcher]
    · exact hfinished.steps (fun h => by cases h) hinv.dispatcher.running
  cases e with
  | openConnection direction address receiveQueueSize =>
    simp only [step] at hstep
    split at hstep
    · obtain rfl := Option.some.inj hstep
      simp only [dispatcher, List.map_append]
      exact .single (.join rfl rfl rfl rfl)
    · cases hstep
  | opened k i =>
    refine onConn_steps (fun conn conn' hopened => ?_) hstep
    split at hopened
    · obtain rfl := Option.some.inj hopened
      rfl
    · cases hopened
  | receiveData k =>
    refine onConn_steps (fun conn conn' hreceive => ?_) hstep
    unfold BalancedConnection.receiveData at hreceive
    split at hreceive
    · obtain ⟨queue, -, rfl⟩ := Option.map_eq_some_iff.mp hreceive
      rfl
    · cases hreceive
  | close k => exact close_steps hstep
  | cleanUp k => exact cleanUp_steps hc hstep
  | closeLink =>
    simp only [step] at hstep
    split at hstep
    · obtain rfl := Option.some.inj hstep
      exact finish_steps hinv (by decide)
    · cases hstep
  | receive frame =>
    simp only [step] at hstep
    split at hstep
    · rename_i hloop
      obtain rfl := Option.some.inj hstep
      cases frame with
      | ReqFrame req => exact process_steps hinv hloop req
      | _ => exact absurd rfl he
    · cases hstep
  | resumePut =>
    cases hloop : s.loop <;> simp only [step, hloop, reduceCtorEq] at hstep
    obtain ⟨conn, hk, hstep⟩ := Option.bind_eq_some_iff.mp hstep
    exact resumePut_steps hinv hloop hk hstep
  | sent =>
    cases hloop : s.loop <;> simp only [step, hloop, reduceCtorEq] at hstep
    obtain rfl := Option.some.inj hstep
    exact send_steps hinv hloop
  | _ => exact absurd rfl he

/-! ### Runs -/

theorem Inv.init (addressSize : AddressSize) (sendQueueSize : ℕ) :
    (init addressSize sendQueueSize).Inv where
  dispatcher := .of_init rfl rfl rfl
  tables := ⟨fun _ hconn => (by cases hconn), fun i _ _ hi => (by cases i <;> cases hi)⟩

theorem Inv.step (h : s.Inv) (hc : s.Harmless e) (hstep : s.step e = some s') : s'.Inv :=
  ⟨h.dispatcher.steps (step_steps h hc hstep), h.tables.step hstep⟩

/-- A step that is not harmless is the end of isolation. -/
theorem not_isolated_of_not_harmless (hc : ¬ s.Harmless e) :
    ∃ s', s.step e = some s' ∧ ¬ s'.dispatcher.Isolated := by
  cases e with
  | cleanUp k =>
    simp only [Harmless] at hc
    push Not at hc
    obtain ⟨hwaits, conn, hk, hclosing⟩ := hc
    have hcleanUp : conn.cleanUp = some { conn with
        cleanedUp := true
        receiveQueue := if conn.opened then conn.receiveQueue.close else conn.receiveQueue } := by
      apply if_pos
      simpa using hclosing
    refine ⟨_, onConn_eq_some.mpr ⟨conn, _, hk, hcleanUp, rfl⟩, ?_⟩
    rw [dispatcher_set]
    exact Dispatcher.not_isolated_of_leave (getElem?_members hk) hwaits
  | _ => exact absurd trivial hc

/-- The connections of a link are isolated from each other throughout a run iff the steps of
the run are harmless. -/
theorem isolated_iff_harmless (addressSize : AddressSize) (sendQueueSize : ℕ)
    (es : List BalancedEvent) :
    (∀ es' s', es' <+: es → run step (init addressSize sendQueueSize) es' = some s' →
      s'.dispatcher.Isolated) ↔ Along step Harmless (init addressSize sendQueueSize) es :=
  forall_safe_iff_along (fun _ _ _ h hc hstep => h.step hc hstep)
    (fun _ h => h.dispatcher.toIsolated) (fun _ _ _ hc => not_isolated_of_not_harmless hc)
    (Inv.init addressSize sendQueueSize)

end BalancedLink

open Unbalanced in
/-- **Isolation of connections**, of slave links and of balanced links. -/
theorem connections_isolated_iff (addressSize : AddressSize) :
    (∀ (broadcastAddress : ℕ) (es : List SlaveEvent),
      (∀ es' s', es' <+: es →
        run SlaveLink.step (.init addressSize broadcastAddress) es' = some s' →
        s'.dispatcher.Isolated) ↔
      Along SlaveLink.step SlaveLink.Harmless (.init addressSize broadcastAddress) es) ∧
    ∀ (sendQueueSize : ℕ) (es : List BalancedEvent),
      (∀ es' s', es' <+: es →
        run BalancedLink.step (.init addressSize sendQueueSize) es' = some s' →
        s'.dispatcher.Isolated) ↔
      Along BalancedLink.step BalancedLink.Harmless (.init addressSize sendQueueSize) es :=
  ⟨SlaveLink.isolated_iff_harmless addressSize, BalancedLink.isolated_iff_harmless addressSize⟩

/-! ### A connection closed while the receive loop waits -/

/-- A request that has a connection with address 1 put data in its queue. -/
def dataReq (direction : Option Direction) : ReqFrame := ⟨direction, false, false, .DATA, 1, [7]⟩

open Unbalanced in
/-- Of two connections, the one whose queue has room for one item only gets two, and is closed. -/
def slaveClosingEvents : List SlaveEvent :=
  [.openConnection 1 false 1 8, .openConnection 2 false 8 8,
    .receive (.ReqFrame (dataReq none)), .next, .sent, .next,
    .receive (.ReqFrame (dataReq none)), .next,
    .close 0, .cleanUp 0, .resumePut]

def balancedClosingEvents : List BalancedEvent :=
  [.openConnection .B_TO_A 1 1, .openConnection .B_TO_A 2 8,
    .call 0 ⟨some .B_TO_A, false, false, .RESET_LINK, 1, []⟩, .sendNext, .drained,
    .receive .ShortFrame, .answered, .opened 0 0,
    .receive (.ReqFrame (dataReq (some .A_TO_B))), .sent,
    .receive (.ReqFrame (dataReq (some .A_TO_B))),
    .close 0, .cleanUp 0, .resumePut]

open Unbalanced in
/-- The loop of the link ends, and the other connection is closed with it. -/
theorem closingEvents_not_isolated :
    ((run SlaveLink.step (.init .ONE 0xFF) slaveClosingEvents).map fun s =>
        (s.loop, s.conns.map fun conn => (conn.isOpen, conn.closeRequested))) =
      some (.ended .queueClosedError, [(false, true), (false, false)]) ∧
    ((run BalancedLink.step (.init .ONE 8) balancedClosingEvents).map fun s =>
        (s.loop, s.conns.map fun conn => (conn.isOpen, conn.closeRequested))) =
      some (.ended .queueClosedError, [(false, true), (false, false)]) ∧
    ¬ (∀ es s, run SlaveLink.step (.init .ONE 0xFF) es = some s → s.dispatcher.Isolated) ∧
    ¬ ∀ es s, run BalancedLink.step (.init .ONE 8) es = some s → s.dispatcher.Isolated := by
  have hslave : ((run SlaveLink.step (.init .ONE 0xFF) slaveClosingEvents).map fun s =>
      (s.loop, s.conns.map fun conn => (conn.isOpen, conn.closeRequested))) =
      some (.ended .queueClosedError, [(false, true), (false, false)]) := by decide
  have hbalanced : ((run BalancedLink.step (.init .ONE 8) balancedClosingEvents).map fun s =>
      (s.loop, s.conns.map fun conn => (conn.isOpen, conn.closeRequested))) =
      some (.ended .queueClosedError, [(false, true), (false, false)]) := by decide
  refine ⟨hslave, hbalanced, fun h => ?_, fun h => ?_⟩
  · obtain ⟨s, hrun, hs⟩ := Option.map_eq_some_iff.mp hslave
    have hrunning := (h _ s hrun).running
    rw [SlaveLink.dispatcher_eq (Prod.mk.inj hs).1] at hrunning
    cases hrunning
  · obtain ⟨s, hrun, hs⟩ := Option.map_eq_some_iff.mp hbalanced
    have hrunning := (h _ s hrun).running
    rw [BalancedLink.dispatcher_eq (Prod.mk.inj hs).1] at hrunning
    cases hrunning

end HatDrivers.Iec60870.Link
