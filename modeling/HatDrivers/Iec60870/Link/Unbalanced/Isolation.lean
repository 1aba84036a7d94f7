import HatDrivers.Iec60870.Link.Unbalanced.Slave
import HatDrivers.Lib.Dispatch

namespace HatDrivers.Iec60870.Link.Unbalanced

open HatDrivers.Lib

/-!
# Unbalanced slave link — isolation of its connections

The link is a dispatcher with its connections as members, as long as no connection has its queue
closed while the receive loop waits to put data in it.
-/

/-- A connection as a member of the link. -/
def SlaveConnection.member (broadcastAddress : ℕ) (conn : SlaveConnection) : Member ReqFrame where
  isFor req := req.address = broadcastAddress ∨ req.address = conn.address
  isOpen := conn.isOpen
  closeRequested := conn.closeRequested
  hasLeft := conn.cleanedUp
  since := conn.since
  requests := conn.requests

namespace SlaveLink

/-- The link as a dispatcher. -/
def dispatcher (s : SlaveLink) : Dispatcher ReqFrame where
  members := s.conns.map (SlaveConnection.member s.broadcastAddress)
  taken := s.frames
  pending := s.loop.pending
  waitsFor := s.loop.waitsFor
  alive := s.loop.alive
  failed := s.loop.failed

/-- No queue of a connection is closed while the loop waits to put data in it. -/
def Harmless (s : SlaveLink) : SlaveEvent → Prop
  | .cleanUp k => s.loop.waitsFor = some k → ∀ conn ∈ s.conns[k]?, conn.isClosing = false
  | _ => True

instance (s : SlaveLink) (e : SlaveEvent) : Decidable (s.Harmless e) := by
  cases e <;> unfold Harmless <;> infer_instance

/-- Only the tasks of a connection close its queue. -/
def Queues (conns : List SlaveConnection) : Prop :=
  ∀ conn ∈ conns, conn.receiveQueue.closed → conn.cleanedUp

structure Inv (s : SlaveLink) : Prop where
  dispatcher : s.dispatcher.Inv
  queues : Queues s.conns

end SlaveLink

variable {s s' : SlaveLink} {conn conn' : SlaveConnection} {req : ReqFrame} {rest : List ℕ}
  {k : ℕ} {e : SlaveEvent}

/-! ### What the steps of a connection change -/

namespace SlaveConnection

theorem respond_eq (conn : SlaveConnection) (function : ResFunction) (data : Bytes)
    (sentCb : Bool) : ∃ res, (conn.respond function data sentCb).1 = { conn with res := res } :=
  ⟨_, rfl⟩

theorem respondQueued_eq (conn : SlaveConnection) :
    ∃ res sendQueue, conn.respondQueued.1 = { conn with res := res, sendQueue := sendQueue } := by
  obtain ⟨_, _, _, _, _, _, _, _, sendQueue, _, _, _⟩ := conn
  cases sendQueue with
  | nil => exact ⟨_, _, rfl⟩
  | cons p queue => exact ⟨_, _, rfl⟩

theorem processNew_eq (conn : SlaveConnection) (req : ReqFrame) :
    ∃ frameCountBit res sendQueue, (conn.processNew req).1 =
      { conn with frameCountBit := frameCountBit, res := res, sendQueue := sendQueue } := by
  have hqueued : ∃ frameCountBit res sendQueue, conn.respondQueued.1 =
      { conn with frameCountBit := frameCountBit, res := res, sendQueue := sendQueue } := by
    obtain ⟨res, sendQueue, h⟩ := conn.respondQueued_eq
    exact ⟨_, res, sendQueue, h⟩
  have hreset : ∃ frameCountBit res sendQueue,
      ((if req.frameCountValid then conn else { conn with frameCountBit := some false } :
        SlaveConnection).respond .ACK [] false).1 =
      { conn with frameCountBit := frameCountBit, res := res, sendQueue := sendQueue } := by
    split
    · exact ⟨_, _, _, rfl⟩
    · exact ⟨_, _, _, rfl⟩
  have hput : ∃ frameCountBit res sendQueue,
      (if req.data ≠ [] then (conn, Processing.puts req.data) else conn.respond .ACK [] false).1 =
      { conn with frameCountBit := frameCountBit, res := res, sendQueue := sendQueue } := by
    split
    · exact ⟨_, _, _, rfl⟩
    · exact ⟨_, _, _, rfl⟩
  cases hfunction : req.function with
  | RESET_LINK => simpa only [processNew, hfunction] using hreset
  | RESET_PROCESS => simpa only [processNew, hfunction] using hreset
  | DATA => simpa only [processNew, hfunction] using hput
  | DATA_NO_RES => simpa only [processNew, hfunction] using hput
  | REQ_DATA_1 => simpa only [processNew, hfunction] using hqueued
  | REQ_DATA_2 =>
    simp only [processNew, hfunction]
    split
    · exact ⟨_, _, _, rfl⟩
    · exact hqueued
  | REQ_ACCESS_DEMAND =>
    simp only [processNew, hfunction]
    exact ⟨_, _, _, rfl⟩
  | REQ_STATUS =>
    simp only [processNew, hfunction]
    exact ⟨_, _, _, rfl⟩
  | TEST =>
    simp only [processNew, hfunction]
    exact ⟨_, _, _, rfl⟩

/-- A connection that processes a request keeps all but its frame count bit, its response and
its send queue. -/
theorem process_eq (conn : SlaveConnection) (req : ReqFrame) :
    ∃ frameCountBit res sendQueue, (conn.process req).1 =
      { conn with
        frameCountBit := frameCountBit
        res := res
        sendQueue := sendQueue
        requests := conn.requests ++ [req] } := by
  simp only [process]
  split
  · split
    · exact ⟨_, _, _, rfl⟩
    · obtain ⟨bit, res, sendQueue, h⟩ := processNew_eq { conn with
        frameCountBit := some req.frameCountBit, requests := conn.requests ++ [req] } req
      exact ⟨bit, res, sendQueue, h⟩
  · obtain ⟨bit, res, sendQueue, h⟩ :=
      processNew_eq { conn with requests := conn.requests ++ [req] } req
    exact ⟨bit, res, sendQueue, h⟩

theorem polled_eq (conn : SlaveConnection) (data : Option Bytes) :
    ∃ res sendQueue, (conn.polled data).1 = { conn with res := res, sendQueue := sendQueue } := by
  cases data with
  | some data => exact ⟨_, _, rfl⟩
  | none => exact conn.respondQueued_eq

/-- After the callback there is a response. -/
theorem polled_responds (conn : SlaveConnection) (data : Option Bytes) :
    ∃ res sentCb, (conn.polled data).2 = .responds res sentCb := by
  cases data with
  | some data => exact ⟨_, _, rfl⟩
  | none =>
    obtain ⟨_, _, _, _, _, _, _, _, sendQueue, _, _, _⟩ := conn
    cases sendQueue with
    | nil => exact ⟨_, _, rfl⟩
    | cons p queue => exact ⟨_, _, rfl⟩

end SlaveConnection

/-! ### What the steps of the link do as steps of the dispatcher -/

namespace SlaveLink

/-- The dispatcher, where the place of the loop is known. -/
theorem dispatcher_eq {loop : SlaveLoop} (hloop : s.loop = loop) :
    s.dispatcher = ⟨s.conns.map (SlaveConnection.member s.broadcastAddress), s.frames,
      loop.pending, loop.waitsFor, loop.alive, loop.failed⟩ := by
  subst hloop
  rfl

theorem getElem?_members (hk : s.conns[k]? = some conn) :
    s.dispatcher.members[k]? = some (conn.member s.broadcastAddress) := by
  show (s.conns.map _)[k]? = _
  rw [List.getElem?_map, hk]
  rfl

/-- A change of a connection is a change of the member. -/
theorem dispatcher_set (s : SlaveLink) (k : ℕ) (conn : SlaveConnection) :
    ({ s with conns := s.conns.set k conn } : SlaveLink).dispatcher =
      { s.dispatcher with
        members := s.dispatcher.members.set k (conn.member s.broadcastAddress) } := by
  simp only [dispatcher, List.map_set]

/-- A change of a connection that is none of the member. -/
theorem dispatcher_set_same (hk : s.conns[k]? = some conn)
    (hmember : conn'.member s.broadcastAddress = conn.member s.broadcastAddress) :
    ({ s with conns := s.conns.set k conn' } : SlaveLink).dispatcher = s.dispatcher := by
  simp only [dispatcher, map_set_of_eq hk hmember]

theorem answer_dispatcher (s : SlaveLink) (req : ReqFrame) (rest : List ℕ) (res : Option Frame)
    (sentCb : Bool) : (s.answer req rest res sentCb).dispatcher =
      { s.dispatcher with
        pending := some (req, rest)
        waitsFor := none
        alive := true
        failed := false } := by
  unfold answer
  split
  · rfl
  · rfl

theorem finish_dispatcher {reason : Reason} (hreason : reason ≠ .queueClosedError)
    (hrunning : s.dispatcher.failed = false) :
    (s.finish reason).dispatcher = s.dispatcher.finish := by
  have hfailed : (SlaveLoop.ended reason).failed = s.dispatcher.failed := by
    rw [hrunning]
    cases reason with
    | queueClosedError => exact absurd rfl hreason
    | connectionError => rfl
    | error e => rfl
  have hmembers : (s.finish reason).dispatcher.members = s.dispatcher.finish.members := by
    show ((s.conns.map _).map _) = ((s.conns.map _).map _)
    rw [List.map_map, List.map_map]
    rfl
  show Dispatcher.mk (s.finish reason).dispatcher.members _ _ _ _
    (SlaveLoop.ended reason).failed = _
  rw [hmembers, hfailed]
  rfl

/-- What the loop does with a connection that processed the request, and whose queue is open. -/
theorem goOn_dispatcher (s : SlaveLink) (req : ReqFrame) (rest : List ℕ) (k : ℕ)
    {processing : Processing}
    (hqueue : ∀ data, processing = .puts data → conn.receiveQueue.tryPut data ≠ .fails) :
    ∃ w, (w = none ∨ w = some k) ∧ (s.goOn req rest k conn processing).dispatcher =
      { s.dispatcher with
        members := s.dispatcher.members.set k (conn.member s.broadcastAddress)
        pending := some (req, rest)
        waitsFor := w
        alive := true
        failed := false } := by
  cases processing with
  | responds res sentCb =>
    refine ⟨none, .inl rfl, ?_⟩
    simp only [goOn]
    rw [answer_dispatcher, dispatcher_set]
  | polls =>
    refine ⟨none, .inl rfl, ?_⟩
    simp only [goOn, dispatcher, List.map_set]
    rfl
  | puts data =>
    cases hput : conn.receiveQueue.tryPut data with
    | fails => exact absurd hput (hqueue data rfl)
    | waits =>
      refine ⟨some k, .inr rfl, ?_⟩
      simp only [goOn, hput, dispatcher, List.map_set]
      rfl
    | done queue =>
      refine ⟨none, .inl rfl, ?_⟩
      simp only [goOn, hput, goOnPut]
      rw [answer_dispatcher, dispatcher_set]
      rfl

/-- The loop comes to a connection. -/
theorem visit_steps (hinv : s.Inv) (hloop : s.loop = .processing req (k :: rest))
    (hk : s.conns[k]? = some conn) :
    Relation.ReflTransGen Dispatcher.Step s.dispatcher (s.visit req rest k conn).dispatcher := by
  have hd := dispatcher_eq hloop
  have hpending : s.dispatcher.pending = some (req, k :: rest) := by
    rw [hd]
    rfl
  have hmember := getElem?_members hk
  have hstate : s.dispatcher.alive = true ∧ s.dispatcher.failed = false ∧
      s.dispatcher.waitsFor = none := by
    rw [hd]
    exact ⟨rfl, rfl, rfl⟩
  obtain ⟨halive, hfailed, hwaits⟩ := hstate
  unfold visit
  by_cases hopen : conn.isOpen
  · rw [if_pos hopen]
    obtain ⟨bit, res, sendQueue, hprocess⟩ := conn.process_eq req
    have hqueue : ∀ data, (conn.process req).2 = .puts data →
        (conn.process req).1.receiveQueue.tryPut data ≠ .fails := by
      intro data _ hfails
      rw [hprocess] at hfails
      have hleft := hinv.queues conn (List.mem_of_getElem? hk) (ReceiveQueue.closed_of_fails hfails)
      have hclosed := hinv.dispatcher.left _ (List.mem_of_getElem? hmember) hleft
      exact Bool.noConfusion (hopen.symm.trans hclosed)
    obtain ⟨w, hw, hgoOn⟩ := goOn_dispatcher s req rest k hqueue
    rw [hgoOn, hprocess]
    have hstep := Dispatcher.Step.process hpending hmember hopen hw
    rw [halive, hfailed] at hstep
    exact .single hstep
  · rw [if_neg hopen]
    have hclosed : (conn.member s.broadcastAddress).isOpen = false :=
      Bool.eq_false_of_not_eq_true hopen
    have hstep := Dispatcher.Step.skip hpending hmember hclosed
    rw [halive, hfailed, hwaits] at hstep
    exact .single hstep

theorem onConn_eq_some {f : SlaveConnection → Option SlaveConnection} :
    s.onConn k f = some s' ↔ ∃ conn conn', s.conns[k]? = some conn ∧ f conn = some conn' ∧
      s' = { s with conns := s.conns.set k conn' } := by
  simp only [onConn, Option.map_eq_some_iff, Option.bind_eq_some_iff]
  constructor
  · rintro ⟨conn', ⟨conn, hk, hf⟩, rfl⟩
    exact ⟨conn, conn', hk, hf, rfl⟩
  · rintro ⟨conn, conn', hk, hf, rfl⟩
    exact ⟨conn', ⟨conn, hk, hf⟩, rfl⟩

/-- A step of a connection that is none of the member. -/
theorem onConn_steps {f : SlaveConnection → Option SlaveConnection}
    (hf : ∀ b (conn conn' : SlaveConnection), f conn = some conn' →
      conn'.member b = conn.member b)
    (hstep : s.onConn k f = some s') :
    Relation.ReflTransGen Dispatcher.Step s.dispatcher s'.dispatcher := by
  obtain ⟨conn, conn', hk, hconn, rfl⟩ := onConn_eq_some.mp hstep
  rw [dispatcher_set_same hk (hf _ conn conn' hconn)]

theorem close_steps (hstep : s.onConn k SlaveConnection.close = some s') :
    Relation.ReflTransGen Dispatcher.Step s.dispatcher s'.dispatcher := by
  obtain ⟨conn, conn', hk, hconn, rfl⟩ := onConn_eq_some.mp hstep
  unfold SlaveConnection.close at hconn
  split at hconn
  · obtain rfl := Option.some.inj hconn
    rw [dispatcher_set]
    exact .single (.close (getElem?_members hk))
  · cases hconn

theorem cleanUp_steps (hc : s.Harmless (.cleanUp k))
    (hstep : s.onConn k SlaveConnection.cleanUp = some s') :
    Relation.ReflTransGen Dispatcher.Step s.dispatcher s'.dispatcher := by
  obtain ⟨conn, conn', hk, hconn, rfl⟩ := onConn_eq_some.mp hstep
  unfold SlaveConnection.cleanUp at hconn
  split at hconn
  · rename_i hclosing
    obtain rfl := Option.some.inj hconn
    rw [dispatcher_set]
    have hclosed : (conn.member s.broadcastAddress).isOpen = false := by
      simp only [SlaveConnection.isClosing, decide_eq_true_eq] at hclosing
      exact Bool.eq_false_of_not_eq_true hclosing.1
    have hwaits : s.dispatcher.waitsFor ≠ some k := by
      intro hwaits
      have := hc hwaits conn hk
      rw [hclosing] at this
      cases this
    exact .single (.leave (getElem?_members hk) hclosed hwaits)
  · cases hconn

/-- The connections that are to process a request are the members that it is for. -/
theorem mem_receivers_iff (hinv : s.Inv) (req : ReqFrame) (k : ℕ) (m : Member ReqFrame)
    (hk : s.dispatcher.members[k]? = some m) (hopen : m.isOpen) :
    k ∈ s.receivers req ↔ m.isFor req := by
  have hmem := List.mem_of_getElem? hk
  rw [dispatcher, List.getElem?_map, Option.map_eq_some_iff] at hk
  obtain ⟨conn, hk, rfl⟩ := hk
  obtain ⟨hlt, hget⟩ := List.getElem?_eq_some_iff.mp hk
  have hleft : conn.cleanedUp = false := by
    cases hconn : conn.cleanedUp with
    | false => rfl
    | true =>
      have hclosed := hinv.dispatcher.left _ hmem hconn
      exact Bool.noConfusion (hopen.symm.trans hclosed)
  simp [receivers, hlt, hget, hleft, SlaveConnection.member, Addressed]

theorem receive_steps (hinv : s.Inv) (hloop : s.loop = .receiving) (req : ReqFrame) :
    Relation.ReflTransGen Dispatcher.Step s.dispatcher
      ({ s with frames := s.frames ++ [req], loop := .processing req (s.receivers req) } :
        SlaveLink).dispatcher := by
  have hd := dispatcher_eq hloop
  have hpending : s.dispatcher.pending = none := by
    rw [hd]
    rfl
  have hnodup : (s.receivers req).Nodup := List.nodup_range.filter _
  have hlt : ∀ k ∈ s.receivers req, k < s.dispatcher.members.length := by
    intro k hk
    rw [dispatcher, List.length_map]
    exact List.mem_range.mp (List.mem_filter.mp hk).1
  have hstep := Dispatcher.Step.take hpending hnodup hlt (mem_receivers_iff hinv req)
  have hafter : { s.dispatcher with
      taken := s.dispatcher.taken ++ [req], pending := some (req, s.receivers req) } =
      ({ s with frames := s.frames ++ [req], loop := .processing req (s.receivers req) } :
        SlaveLink).dispatcher := by
    rw [hd]
    rfl
  rw [← hafter]
  exact .single hstep

/-- The loop goes on from `put`. -/
theorem resumePut_steps (hinv : s.Inv) (hloop : s.loop = .putting req rest k)
    (hk : s.conns[k]? = some conn) (hstep : s.resumePut req rest k conn = some s') :
    Relation.ReflTransGen Dispatcher.Step s.dispatcher s'.dispatcher := by
  unfold resumePut at hstep
  cases hput : conn.receiveQueue.tryPut req.data with
  | fails =>
    -- the queue of a connection that the loop waits for is open
    have hleft := hinv.queues conn (List.mem_of_getElem? hk) (ReceiveQueue.closed_of_fails hput)
    have hwaits : s.dispatcher.waitsFor = some k := by
      rw [dispatcher_eq hloop]
      rfl
    have hnot := hinv.dispatcher.flowing k _ hwaits (getElem?_members hk)
    exact Bool.noConfusion (hleft.symm.trans hnot)
  | waits => simp only [hput, reduceCtorEq] at hstep
  | done queue =>
    simp only [hput, Option.some.injEq] at hstep
    have hmember : (({ conn with receiveQueue := queue } : SlaveConnection).response
        .ACK []).1.member s.broadcastAddress = conn.member s.broadcastAddress := rfl
    rw [← hstep, goOnPut, answer_dispatcher, dispatcher_set_same hk hmember, dispatcher_eq hloop]
    exact .single .goOn

theorem polled_steps (hloop : s.loop = .polling req rest k) (hk : s.conns[k]? = some conn)
    (data : Option Bytes) :
    Relation.ReflTransGen Dispatcher.Step s.dispatcher
      (s.goOn req rest k (conn.polled data).1 (conn.polled data).2).dispatcher := by
  obtain ⟨res, sentCb, hresponds⟩ := conn.polled_responds data
  obtain ⟨kept, sendQueue, hpolled⟩ := conn.polled_eq data
  have hmember : (conn.polled data).1.member s.broadcastAddress =
      conn.member s.broadcastAddress := by
    rw [hpolled]
    rfl
  rw [hresponds, goOn, answer_dispatcher, dispatcher_set_same hk hmember, dispatcher_eq hloop]
  exact .single .goOn

theorem finish_steps (hinv : s.Inv) {reason : Reason} (hreason : reason ≠ .queueClosedError) :
    Relation.ReflTransGen Dispatcher.Step s.dispatcher (s.finish reason).dispatcher := by
  rw [finish_dispatcher hreason hinv.dispatcher.running]
  exact .single .finish

theorem send_steps (hinv : s.Inv) {res : Option Frame} {sentCb : Bool}
    (hloop : s.loop = .sending req rest res sentCb) :
    Relation.ReflTransGen Dispatcher.Step s.dispatcher (s.send req rest sentCb res).dispatcher := by
  cases res with
  | none => exact finish_steps hinv (by decide)
  | some res =>
    cases hencode : s.encoder.encode res with
    | error e =>
      simp only [send, hencode]
      exact finish_steps hinv (fun h => by cases h)
    | ok bytes =>
      simp only [send, hencode]
      cases sentCb with
      | true =>
        rw [dispatcher_eq hloop]
        exact .refl
      | false =>
        rw [dispatcher_eq hloop]
        exact .refl

/-- **The link refines a dispatcher**, in every harmless step. -/
theorem step_steps (hinv : s.Inv) (hc : s.Harmless e) (hstep : s.step e = some s') :
    Relation.ReflTransGen Dispatcher.Step s.dispatcher s'.dispatcher := by
  cases e with
  | openConnection address polls receiveQueueSize sendQueueSize =>
    simp only [step] at hstep
    split at hstep
    · obtain rfl := Option.some.inj hstep
      simp only [dispatcher, List.map_append]
      exact .single (.join rfl rfl rfl rfl)
    · cases hstep
  | send k data sentCb =>
    refine onConn_steps (fun b conn conn' hconn => ?_) hstep
    unfold SlaveConnection.send at hconn
    split at hconn
    · obtain rfl := Option.some.inj hconn
      rfl
    · cases hconn
  | receiveData k =>
    refine onConn_steps (fun b conn conn' hconn => ?_) hstep
    unfold SlaveConnection.receiveData at hconn
    split at hconn
    · obtain ⟨queue, -, rfl⟩ := Option.map_eq_some_iff.mp hconn
      rfl
    · cases hconn
  | close k => exact close_steps hstep
  | cleanUp k => exact cleanUp_steps hc hstep
  | closeLink =>
    simp only [step] at hstep
    split at hstep
    · obtain rfl := Option.some.inj hstep
      exact finish_steps hinv (by decide)
    · cases hstep
  | receive frame =>
    cases hloop : s.loop <;> simp only [step, hloop, reduceCtorEq] at hstep
    cases frame with
    | ReqFrame req =>
      obtain rfl := Option.some.inj hstep
      exact receive_steps hinv hloop req
    | ResFrame frame =>
      obtain rfl := Option.some.inj hstep
      exact .refl
    | ShortFrame =>
      obtain rfl := Option.some.inj hstep
      exact .refl
  | next =>
    cases hloop : s.loop <;> simp only [step, hloop, reduceCtorEq] at hstep
    rename_i req rest
    cases rest with
    | nil =>
      obtain rfl := Option.some.inj hstep
      rw [dispatcher_eq hloop]
      exact .single (.done rfl)
    | cons k rest =>
      obtain ⟨conn, hk, rfl⟩ := Option.map_eq_some_iff.mp hstep
      exact visit_steps hinv hloop hk
  | resumePut =>
    cases hloop : s.loop <;> simp only [step, hloop, reduceCtorEq] at hstep
    obtain ⟨conn, hk, hstep⟩ := Option.bind_eq_some_iff.mp hstep
    exact resumePut_steps hinv hloop hk hstep
  | polled result =>
    cases hloop : s.loop <;> simp only [step, hloop, reduceCtorEq] at hstep
    cases result with
    | error e =>
      obtain rfl := Option.some.inj hstep
      exact finish_steps hinv (fun h => by cases h)
    | ok data =>
      obtain ⟨conn, hk, rfl⟩ := Option.map_eq_some_iff.mp hstep
      exact polled_steps hloop hk data
  | sent =>
    cases hloop : s.loop <;> simp only [step, hloop, reduceCtorEq] at hstep
    obtain rfl := Option.some.inj hstep
    exact send_steps hinv hloop
  | called result =>
    cases hloop : s.loop <;> simp only [step, hloop, reduceCtorEq] at hstep
    cases result with
    | error e =>
      obtain rfl := Option.some.inj hstep
      exact finish_steps hinv (fun h => by cases h)
    | ok _ =>
      obtain rfl := Option.some.inj hstep
      rw [dispatcher_eq hloop]
      exact .refl

/-! ### The queues of the connections -/

theorem Queues.finish (h : Queues s.conns) (reason : Reason) :
    Queues (s.finish reason).conns := by
  intro conn hconn
  obtain ⟨conn', hconn', rfl⟩ := List.mem_map.mp hconn
  exact h conn' hconn'

theorem answer_conns (s : SlaveLink) (req : ReqFrame) (rest : List ℕ) (res : Option Frame)
    (sentCb : Bool) : (s.answer req rest res sentCb).conns = s.conns := by
  unfold answer
  split
  · rfl
  · rfl

theorem Queues.goOnPut {queue : ReceiveQueue} (h : Queues s.conns)
    (hqueue : queue.closed → conn.cleanedUp) : Queues (s.goOnPut req rest k conn queue).conns := by
  unfold SlaveLink.goOnPut
  rw [answer_conns]
  exact forall_mem_set h hqueue

theorem Queues.goOn (h : Queues s.conns) (hconn : conn.receiveQueue.closed → conn.cleanedUp)
    (processing : Processing) : Queues (s.goOn req rest k conn processing).conns := by
  cases processing with
  | responds res sentCb =>
    simp only [SlaveLink.goOn, answer_conns]
    exact forall_mem_set h hconn
  | polls => exact forall_mem_set h hconn
  | puts data =>
    cases hput : conn.receiveQueue.tryPut data with
    | fails =>
      simp only [SlaveLink.goOn, hput]
      have hset : Queues ({ s with conns := s.conns.set k conn } : SlaveLink).conns :=
        forall_mem_set h hconn
      exact hset.finish _
    | waits =>
      simp only [SlaveLink.goOn, hput]
      exact forall_mem_set h hconn
    | done queue =>
      simp only [SlaveLink.goOn, hput]
      apply h.goOnPut
      rw [ReceiveQueue.closed_of_done hput]
      exact hconn

theorem Queues.onConn {f : SlaveConnection → Option SlaveConnection} (h : Queues s.conns)
    (hf : ∀ conn conn' : SlaveConnection, (conn.receiveQueue.closed → conn.cleanedUp) →
      f conn = some conn' → conn'.receiveQueue.closed → conn'.cleanedUp)
    (hstep : s.onConn k f = some s') : Queues s'.conns := by
  obtain ⟨conn, conn', hk, hconn, rfl⟩ := onConn_eq_some.mp hstep
  exact forall_mem_set h (hf conn conn' (h conn (List.mem_of_getElem? hk)) hconn)

theorem Queues.step (h : Queues s.conns) (hstep : s.step e = some s') : Queues s'.conns := by
  cases e with
  | openConnection address polls receiveQueueSize sendQueueSize =>
    simp only [SlaveLink.step] at hstep
    split at hstep
    · obtain rfl := Option.some.inj hstep
      intro conn hconn
      rcases List.mem_append.mp hconn with hconn | hconn
      · exact h conn hconn
      · obtain rfl := List.mem_singleton.mp hconn
        intro hclosed
        cases hclosed
    · cases hstep
  | send k data sentCb =>
    refine h.onConn (fun conn conn' hconn hsend => ?_) hstep
    unfold SlaveConnection.send at hsend
    split at hsend
    · obtain rfl := Option.some.inj hsend
      exact hconn
    · cases hsend
  | receiveData k =>
    refine h.onConn (fun conn conn' hconn hreceive => ?_) hstep
    unfold SlaveConnection.receiveData at hreceive
    split at hreceive
    · obtain ⟨queue, hqueue, rfl⟩ := Option.map_eq_some_iff.mp hreceive
      rw [ReceiveQueue.closed_of_take hqueue]
      exact hconn
    · cases hreceive
  | close k =>
    refine h.onConn (fun conn conn' hconn hclose => ?_) hstep
    unfold SlaveConnection.close at hclose
    split at hclose
    · obtain rfl := Option.some.inj hclose
      exact hconn
    · cases hclose
  | cleanUp k =>
    refine h.onConn (fun conn conn' hconn hcleanUp => ?_) hstep
    unfold SlaveConnection.cleanUp at hcleanUp
    split at hcleanUp
    · obtain rfl := Option.some.inj hcleanUp
      exact fun _ => rfl
    · cases hcleanUp
  | closeLink =>
    simp only [SlaveLink.step] at hstep
    split at hstep
    · obtain rfl := Option.some.inj hstep
      exact h.finish _
    · cases hstep
  | receive frame =>
    cases hloop : s.loop <;> simp only [SlaveLink.step, hloop, reduceCtorEq] at hstep
    cases frame with
    | ReqFrame req =>
      obtain rfl := Option.some.inj hstep
      exact h
    | ResFrame frame =>
      obtain rfl := Option.some.inj hstep
      exact h
    | ShortFrame =>
      obtain rfl := Option.some.inj hstep
      exact h
  | next =>
    cases hloop : s.loop <;> simp only [SlaveLink.step, hloop, reduceCtorEq] at hstep
    rename_i req rest
    cases rest with
    | nil =>
      obtain rfl := Option.some.inj hstep
      exact h
    | cons k rest =>
      obtain ⟨conn, hk, rfl⟩ := Option.map_eq_some_iff.mp hstep
      unfold visit
      split
      · apply h.goOn
        obtain ⟨bit, res, sendQueue, hprocess⟩ := conn.process_eq req
        rw [hprocess]
        exact h conn (List.mem_of_getElem? hk)
      · exact h
  | resumePut =>
    cases hloop : s.loop <;> simp only [SlaveLink.step, hloop, reduceCtorEq] at hstep
    rename_i req rest k
    obtain ⟨conn, hk, hstep⟩ := Option.bind_eq_some_iff.mp hstep
    unfold resumePut at hstep
    cases hput : conn.receiveQueue.tryPut req.data with
    | fails =>
      simp only [hput, Option.some.injEq] at hstep
      subst hstep
      exact h.finish _
    | waits => simp only [hput, reduceCtorEq] at hstep
    | done queue =>
      simp only [hput, Option.some.injEq] at hstep
      subst hstep
      apply h.goOnPut
      rw [ReceiveQueue.closed_of_done hput]
      exact h conn (List.mem_of_getElem? hk)
  | polled result =>
    cases hloop : s.loop <;> simp only [SlaveLink.step, hloop, reduceCtorEq] at hstep
    cases result with
    | error e =>
      obtain rfl := Option.some.inj hstep
      exact h.finish _
    | ok data =>
      obtain ⟨conn, hk, rfl⟩ := Option.map_eq_some_iff.mp hstep
      apply h.goOn
      obtain ⟨res, sendQueue, hpolled⟩ := conn.polled_eq data
      rw [hpolled]
      exact h conn (List.mem_of_getElem? hk)
  | sent =>
    cases hloop : s.loop <;> simp only [SlaveLink.step, hloop, reduceCtorEq] at hstep
    rename_i req rest res sentCb
    obtain rfl := Option.some.inj hstep
    cases res with
    | none => exact h.finish _
    | some res =>
      cases hencode : s.encoder.encode res with
      | error e =>
        simp only [SlaveLink.send, hencode]
        exact h.finish _
      | ok bytes =>
        simp only [SlaveLink.send, hencode]
        exact h
  | called result =>
    cases hloop : s.loop <;> simp only [SlaveLink.step, hloop, reduceCtorEq] at hstep
    cases result with
    | error e =>
      obtain rfl := Option.some.inj hstep
      exact h.finish _
    | ok _ =>
      obtain rfl := Option.some.inj hstep
      exact h

/-! ### Runs -/

theorem Inv.init (addressSize : AddressSize) (broadcastAddress : ℕ) :
    (init addressSize broadcastAddress).Inv where
  dispatcher := .of_init rfl rfl rfl
  queues _ hconn := by cases hconn

theorem Inv.step (h : s.Inv) (hc : s.Harmless e) (hstep : s.step e = some s') : s'.Inv :=
  ⟨h.dispatcher.steps (step_steps h hc hstep), h.queues.step hstep⟩

/-- A step that is not harmless is the end of isolation. -/
theorem not_isolated_of_not_harmless (hc : ¬ s.Harmless e) :
    ∃ s', s.step e = some s' ∧ ¬ s'.dispatcher.Isolated := by
  cases e with
  | cleanUp k =>
    simp only [Harmless] at hc
    push Not at hc
    obtain ⟨hwaits, conn, hk, hclosing⟩ := hc
    have hcleanUp : conn.cleanUp = some { conn with
        cleanedUp := true, receiveQueue := conn.receiveQueue.close } := by
      apply if_pos
      simpa using hclosing
    refine ⟨_, onConn_eq_some.mpr ⟨conn, _, hk, hcleanUp, rfl⟩, ?_⟩
    rw [dispatcher_set]
    exact Dispatcher.not_isolated_of_leave (getElem?_members hk) hwaits
  | _ => exact absurd trivial hc

/-- The connections of a link are isolated from each other throughout a run iff the steps of
the run are harmless. -/
theorem isolated_iff_harmless (addressSize : AddressSize) (broadcastAddress : ℕ)
    (es : List SlaveEvent) :
    (∀ es' s', es' <+: es → run step (init addressSize broadcastAddress) es' = some s' →
      s'.dispatcher.Isolated) ↔ Along step Harmless (init addressSize broadcastAddress) es :=
  forall_safe_iff_along (fun _ _ _ h hc hstep => h.step hc hstep)
    (fun _ h => h.dispatcher.toIsolated) (fun _ _ _ hc => not_isolated_of_not_harmless hc)
    (Inv.init addressSize broadcastAddress)

end SlaveLink

end HatDrivers.Iec60870.Link.Unbalanced
