import HatDrivers.Lib.Entries
import HatDrivers.Lib.Transition
import HatDrivers.Modbus.EndToEnd

namespace HatDrivers.Modbus

open HatDrivers.Lib

/-!
# Modbus — the send loop of a master

Requests of all callers wait in a queue, and the loop takes them one after the other: it encodes
and writes a request, and waits for the response, for the timeout, or for the caller to give up.

Only requests in range can be encoded (`encodeAdu_isOk_iff`), and nothing checks them before they
are queued.  A request fails alone as long as the loop does not come to one that cannot be encoded
(`confined_iff`); that one ends the loop, and with it all requests.
-/

/-! ### What can be encoded -/

/-- The fields are in range. -/
def Request.Encodable : Request → Prop
  | .ReadCoilsReq address quantity | .ReadDiscreteInputsReq address quantity
  | .ReadHoldingRegistersReq address quantity | .ReadInputRegistersReq address quantity =>
    IsRegister address ∧ IsRegister quantity
  | .WriteSingleCoilReq address _ => IsRegister address
  | .WriteSingleRegisterReq address value => IsRegister address ∧ IsRegister value
  | .WriteMultipleCoilsReq address values => IsRegister address ∧ values.length ≤ 2040
  | .WriteMultipleRegistersReq address values => IsRegister address ∧ values.length ≤ 127
  | .MaskWriteRegisterReq address andMask orMask =>
    IsRegister address ∧ IsRegister andMask ∧ IsRegister orMask
  | .ReadFifoQueueReq address => IsRegister address

/-- **A request in range is encoded.** -/
theorem Request.Encodable.encodes {req : Request} (h : req.Encodable) :
    Encodes (encodeReq req) := by
  cases req with
  | ReadCoilsReq address quantity => exact encodeTwo_encodes _ h.1 h.2
  | ReadDiscreteInputsReq address quantity => exact encodeTwo_encodes _ h.1 h.2
  | ReadHoldingRegistersReq address quantity => exact encodeTwo_encodes _ h.1 h.2
  | ReadInputRegistersReq address quantity => exact encodeTwo_encodes _ h.1 h.2
  | WriteSingleCoilReq address value =>
    exact encodeTwo_encodes _ h (Master.singleCoil_register value)
  | WriteSingleRegisterReq address value => exact encodeTwo_encodes _ h.1 h.2
  | WriteMultipleCoilsReq address values =>
    obtain ⟨haddress, hlength⟩ := h
    exact encodeMultiple_encodes _ haddress (by omega) (length_coilBytes_lt hlength)
      (allBytes_coilBytes values)
  | WriteMultipleRegistersReq address values =>
    obtain ⟨haddress, hlength⟩ := h
    exact encodeMultiple_encodes _ haddress (by omega) (length_registerBytes_lt hlength)
      (allBytes_registerBytes values)
  | MaskWriteRegisterReq address andMask orMask => exact encodeThree_encodes _ h.1 h.2.1 h.2.2
  | ReadFifoQueueReq address => exact Master.encodeFifo_encodes h

theorem isRegister_of_packUInt {value : ℤ} {ns : List ℕ} (h : packUInt 2 value = .ok ns) :
    IsRegister value := by
  obtain ⟨⟨hlo, hhi⟩, -⟩ := packUInt_eq_ok.mp h
  exact ⟨hlo, by omega⟩

theorem isRegister_of_encodeTwo {fc : FunctionCode} {x y : ℤ} {ns : List ℕ}
    (h : encodeTwo fc x y = .ok ns) : IsRegister x ∧ IsRegister y := by
  obtain ⟨xs, hx, h⟩ := bind_eq_ok.mp h
  obtain ⟨ys, hy, -⟩ := bind_eq_ok.mp h
  exact ⟨isRegister_of_packUInt hx, isRegister_of_packUInt hy⟩

/-- The byte count is a byte. -/
theorem lt_of_encodeMultiple {fc : FunctionCode} {address : ℤ} {quantity : ℕ} {bytes ns : List ℕ}
    (h : encodeMultiple fc address quantity bytes = .ok ns) :
    IsRegister address ∧ bytes.length < 256 := by
  obtain ⟨as, haddress, h⟩ := bind_eq_ok.mp h
  obtain ⟨qs, -, h⟩ := bind_eq_ok.mp h
  obtain ⟨cs, hcount, -⟩ := bind_eq_ok.mp h
  obtain ⟨⟨-, hcount⟩, -⟩ := packUInt_eq_ok.mp hcount
  exact ⟨isRegister_of_packUInt haddress, by omega⟩

theorem encodable_of_encodeReq {req : Request} {ns : List ℕ} (h : encodeReq req = .ok ns) :
    req.Encodable := by
  cases req with
  | ReadCoilsReq address quantity => exact isRegister_of_encodeTwo h
  | ReadDiscreteInputsReq address quantity => exact isRegister_of_encodeTwo h
  | ReadHoldingRegistersReq address quantity => exact isRegister_of_encodeTwo h
  | ReadInputRegistersReq address quantity => exact isRegister_of_encodeTwo h
  | WriteSingleCoilReq address value => exact (isRegister_of_encodeTwo h).1
  | WriteSingleRegisterReq address value => exact isRegister_of_encodeTwo h
  | WriteMultipleCoilsReq address values =>
    obtain ⟨haddress, hlength⟩ := lt_of_encodeMultiple h
    have hspec := coilByteCount_spec values.length
    rw [length_coilBytes] at hlength
    exact ⟨haddress, by omega⟩
  | WriteMultipleRegistersReq address values =>
    obtain ⟨haddress, hlength⟩ := lt_of_encodeMultiple h
    rw [length_registerBytes] at hlength
    exact ⟨haddress, by omega⟩
  | MaskWriteRegisterReq address andMask orMask =>
    obtain ⟨xs, hx, h⟩ := bind_eq_ok.mp h
    obtain ⟨ys, hy, h⟩ := bind_eq_ok.mp h
    obtain ⟨zs, hz, -⟩ := bind_eq_ok.mp h
    exact ⟨isRegister_of_packUInt hx, isRegister_of_packUInt hy, isRegister_of_packUInt hz⟩
  | ReadFifoQueueReq address =>
    obtain ⟨as, haddress, -⟩ := bind_eq_ok.mp h
    exact isRegister_of_packUInt haddress

/-- The device id and the PDU of an ADU that is encoded are in range. -/
theorem parts_of_encodeAdu {modbusType : ModbusType} {transactionId deviceId : ℤ} {pdu : Pdu}
    {data : Bytes}
    (h : encodeAdu (Master.makeAdu modbusType transactionId deviceId pdu) = .ok data) :
    IsByte deviceId ∧ ∃ ns, encodePdu pdu = .ok ns := by
  have hmessage : ∀ ns, messageBytes deviceId pdu = .ok ns →
      IsByte deviceId ∧ ∃ ns, encodePdu pdu = .ok ns := by
    intro ns h
    obtain ⟨id, hid, h⟩ := bind_eq_ok.mp h
    obtain ⟨ns, hns, -⟩ := bind_eq_ok.mp h
    rw [appendDeviceId] at hid
    split at hid
    · rename_i hbyte
      exact ⟨hbyte, ns, hns⟩
    · cases hid
  cases modbusType with
  | TCP =>
    obtain ⟨ns, hns, h⟩ := bind_eq_ok.mp h
    obtain ⟨_, -, h⟩ := bind_eq_ok.mp h
    obtain ⟨_, -, h⟩ := bind_eq_ok.mp h
    obtain ⟨_, -, h⟩ := bind_eq_ok.mp h
    obtain ⟨_, -, h⟩ := bind_eq_ok.mp h
    obtain ⟨_, hid, -⟩ := bind_eq_ok.mp h
    obtain ⟨⟨hlo, hhi⟩, -⟩ := packUInt_eq_ok.mp hid
    exact ⟨⟨hlo, by omega⟩, ns, hns⟩
  | RTU =>
    obtain ⟨ns, hns, -⟩ := bind_eq_ok.mp h
    exact hmessage ns hns
  | ASCII =>
    obtain ⟨ns, hns, -⟩ := bind_eq_ok.mp h
    exact hmessage ns hns

/-- **What can be encoded**: requests in range, for a device id that is a byte. -/
theorem encodeAdu_isOk_iff (modbusType : ModbusType) {transactionId : ℤ} (deviceId : ℤ)
    (req : Request) (htransaction : IsRegister transactionId) :
    (∃ data, encodeAdu (Master.makeAdu modbusType transactionId deviceId (.req req)) = .ok data) ↔
      IsByte deviceId ∧ req.Encodable := by
  constructor
  · rintro ⟨data, h⟩
    obtain ⟨hdevice, ns, hns⟩ := parts_of_encodeAdu h
    exact ⟨hdevice, encodable_of_encodeReq hns⟩
  · rintro ⟨hdevice, hencodable⟩
    exact Master.exists_encodeAdu htransaction hdevice hencodable.encodes

/-! ### State -/

/-- The future of a request. -/
inductive ReqFuture
  | pending
  | result (resAdu : Adu)
  | timeoutError
  | connectionError
  | cancelled
  deriving DecidableEq

/-- A request that was given to the master, with the ADU that was made of it. -/
structure Submitted where
  transactionId : ℤ
  deviceId : ℤ
  pdu : Request
  future : ReqFuture
  deriving DecidableEq

/-- Where `_send_loop` is. -/
inductive SendLoop
  /-- at `self._send_queue.get()`, while incoming data is discarded -/
  | discarding
  /-- with a request, on the way to its encoding -/
  | clearing (i : ℕ)
  /-- at `self._conn.drain()` -/
  | draining (i : ℕ)
  /-- at `asyncio.wait` -/
  | receiving (i : ℕ)
  | ended
  deriving DecidableEq

/-- The request that the loop is at. -/
def SendLoop.current : SendLoop → List ℕ
  | .clearing i | .draining i | .receiving i => [i]
  | .discarding | .ended => []

/-- A master, with the requests so far, by which futures are named. -/
structure MasterState where
  modbusType : ModbusType
  isOpen : Bool
  /-- how often `_next_transaction_ids` was asked (counted for every type, used by TCP) -/
  transactionCount : ℕ
  requests : List Submitted
  sendQueue : List ℕ
  queueClosed : Bool
  loop : SendLoop
  /-- history: what was written, and for which request -/
  written : List (ℕ × Bytes)
  /-- history: the requests whose encoding raised an exception -/
  raised : List ℕ
  /-- history: was the master closed, or a response not to be read? -/
  stopped : Bool

inductive MasterEvent
  /-- a caller sends a request -/
  | send (deviceId : ℤ) (pdu : Request)
  /-- the task of a caller is cancelled, and with it the future it waits for -/
  | cancel (i : ℕ)
  /-- the loop takes an entry of the queue -/
  | takeRequest
  /-- the input buffer is clear: the loop encodes and writes its request -/
  | sendRequest
  | drained
  /-- `_receive` ends, with an ADU that answers the request or with an exception -/
  | received (res : Except Exn Adu)
  | timeout
  /-- the future of the request is done before the response is there -/
  | futureDone
  /-- `close` is called, or the connection is lost -/
  | close
  /-- the loop is cancelled -/
  | endLoop

namespace MasterState

def init (modbusType : ModbusType) : MasterState where
  modbusType := modbusType
  isOpen := true
  transactionCount := 0
  requests := []
  sendQueue := []
  queueClosed := false
  loop := .discarding
  written := []
  raised := []
  stopped := false

variable (s : MasterState)

/-- `next(self._next_transaction_ids)`. -/
def nextTransactionId : ℤ := (s.transactionCount + 1 : ℕ) % 0x10000

def adu (r : Submitted) : Adu :=
  Master.makeAdu s.modbusType r.transactionId r.deviceId (.req r.pdu)

/-- `future.done()`. -/
def done (i : ℕ) : Bool := s.requests[i]?.any fun r => r.future ≠ .pending

/-- Sets a future that is not done. -/
def setFuture (i : ℕ) (future : ReqFuture) : MasterState :=
  { s with requests := s.requests.modify i fun r =>
      if r.future = .pending then { r with future := future } else r }

/-- `self.close()`, for another reason than a request. -/
def close : MasterState := { s with isOpen := false, stopped := true }

/-- The end of the loop: all requests fail that it has not answered. -/
def finish : MasterState :=
  let s := (s.loop.current ++ s.sendQueue).foldl
    (fun s i => s.setFuture i .connectionError) s
  { s with isOpen := false, queueClosed := true, sendQueue := [], loop := .ended }

def submit (deviceId : ℤ) (pdu : Request) : MasterState :=
  let r : Submitted := ⟨s.nextTransactionId, deviceId, pdu,
    if s.queueClosed then .connectionError else .pending⟩
  { s with
    transactionCount := s.transactionCount + 1
    requests := s.requests ++ [r]
    sendQueue := if s.queueClosed then s.sendQueue else s.sendQueue ++ [s.requests.length] }

/-- `self._conn.send(req_adu)`. -/
def sendAdu (i : ℕ) (r : Submitted) : MasterState :=
  match encodeAdu (s.adu r) with
  | .error _ => ({ s with raised := s.raised ++ [i] } : MasterState).finish
  | .ok data => { s with loop := .draining i, written := s.written ++ [(i, data)] }

/-- The loop goes on after `_receive`. -/
def setResult (i : ℕ) : Except Exn Adu → MasterState
  | .ok resAdu => { s.setFuture i (.result resAdu) with loop := .discarding }
  | .error _ => s.close.finish

def step : MasterEvent → Option MasterState
  | .send deviceId pdu => some (s.submit deviceId pdu)
  | .cancel i =>
    s.requests[i]?.bind fun r =>
      if r.future = .pending then some (s.setFuture i .cancelled) else none
  | .takeRequest =>
    match s.isOpen, s.loop, s.sendQueue with
    | true, .discarding, i :: queue =>
      some { s with sendQueue := queue, loop := if s.done i then .discarding else .clearing i }
    | _, _, _ => none
  | .sendRequest =>
    match s.isOpen, s.loop with
    | true, .clearing i => s.requests[i]?.map fun r => s.sendAdu i r
    | _, _ => none
  | .drained =>
    match s.isOpen, s.loop with
    | true, .draining i => some { s with loop := .receiving i }
    | _, _ => none
  | .received res =>
    match s.isOpen, s.loop with
    | true, .receiving i =>
      s.requests[i]?.bind fun r =>
        if res.toOption.all fun resAdu => Master.answers (s.adu r) resAdu then
          some (if s.done i then { s with loop := .discarding } else s.setResult i res)
        else none
    | _, _ => none
  | .timeout =>
    match s.isOpen, s.loop with
    | true, .receiving i => some { s.setFuture i .timeoutError with loop := .discarding }
    | _, _ => none
  | .futureDone =>
    match s.isOpen, s.loop with
    | true, .receiving i => if s.done i then some { s with loop := .discarding } else none
    | _, _ => none
  | .close => some s.close
  | .endLoop => if s.isOpen ∨ s.loop = .ended then none else some s.finish

/-! ### Requests that fail alone -/

/-- A request whose encoding raised an exception has failed alone. -/
structure Confined : Prop where
  /-- nothing is written for it -/
  written : ∀ i ∈ s.raised, ∀ data, (i, data) ∉ s.written
  /-- the master stays open -/
  isOpen : s.raised ≠ [] → s.isOpen ∨ s.stopped
  /-- no other request ends with an error for it -/
  others : ∀ i ∈ s.raised, ∀ (j : ℕ) r, j ≠ i → s.requests[j]? = some r →
    r.future = .connectionError → s.stopped

/-- If the loop is to encode a request, it can. -/
def TakesEncodable (e : MasterEvent) : Prop :=
  e = .sendRequest → s.isOpen → ∀ (i : ℕ) r, s.loop = .clearing i → s.requests[i]? = some r →
    IsByte r.deviceId ∧ r.pdu.Encodable

/-- A state of a run in which every request that the loop came to was encoded. -/
structure Inv : Prop where
  raised : s.raised = []
  stopped : s.isOpen → s.stopped = false
  transactionId : ∀ r ∈ s.requests, IsRegister r.transactionId

variable {s} {s' : MasterState} {e : MasterEvent}

theorem inv_init (modbusType : ModbusType) : (init modbusType).Inv where
  raised := rfl
  stopped := fun _ => rfl
  transactionId := fun _ hr => absurd hr List.not_mem_nil

theorem Inv.confined (h : s.Inv) : s.Confined where
  written := by
    rw [h.raised]
    exact nofun
  isOpen := fun hne => absurd h.raised hne
  others := by
    rw [h.raised]
    exact nofun

theorem isRegister_nextTransactionId (s : MasterState) : IsRegister s.nextTransactionId := by
  rw [nextTransactionId]
  constructor <;> omega

theorem Inv.setFuture {i : ℕ} {future : ReqFuture} (h : s.Inv) : (s.setFuture i future).Inv where
  raised := h.raised
  stopped := h.stopped
  transactionId := by
    intro r hr
    obtain hr | ⟨r', hr', rfl⟩ := mem_modify hr
    · exact h.transactionId r hr
    · -- only the future of the request changes
      split
      · exact h.transactionId r' hr'
      · exact h.transactionId r' hr'

theorem Inv.foldl_setFuture {future : ReqFuture} (is : List ℕ) (h : s.Inv) :
    (is.foldl (fun s i => s.setFuture i future) s).Inv := by
  induction is generalizing s with
  | nil => exact h
  | cons i is ih => exact ih h.setFuture

theorem Inv.finish (h : s.Inv) : s.finish.Inv where
  raised := (h.foldl_setFuture _).raised
  stopped := nofun
  transactionId := (h.foldl_setFuture _).transactionId

theorem Inv.submit {deviceId : ℤ} {pdu : Request} (h : s.Inv) : (s.submit deviceId pdu).Inv where
  raised := h.raised
  stopped := h.stopped
  transactionId := by
    intro r hr
    obtain hr | hr := List.mem_append.mp hr
    · exact h.transactionId r hr
    · obtain rfl := List.mem_singleton.mp hr
      exact isRegister_nextTransactionId s

/-- A request in range is written. -/
theorem Inv.sendAdu {i : ℕ} {r : Submitted} (h : s.Inv) (hr : r ∈ s.requests)
    (hencodable : IsByte r.deviceId ∧ r.pdu.Encodable) : (s.sendAdu i r).Inv := by
  obtain ⟨data, hdata⟩ := (encodeAdu_isOk_iff s.modbusType r.deviceId r.pdu
    (h.transactionId r hr)).mpr hencodable
  have hadu : encodeAdu (s.adu r) = .ok data := hdata
  rw [MasterState.sendAdu, hadu]
  exact ⟨h.raised, h.stopped, h.transactionId⟩

theorem Inv.close (h : s.Inv) : s.close.Inv where
  raised := h.raised
  stopped := nofun
  transactionId := h.transactionId

theorem Inv.setResult {i : ℕ} (h : s.Inv) (res : Except Exn Adu) : (s.setResult i res).Inv := by
  cases res with
  | error _ => exact h.close.finish
  | ok resAdu =>
    have hset : (s.setFuture i (.result resAdu)).Inv := h.setFuture
    exact ⟨hset.raised, hset.stopped, hset.transactionId⟩

/-- **A step that comes to no request out of range keeps the invariant.** -/
theorem Inv.step (h : s.Inv) (hcond : s.TakesEncodable e) (hstep : s.step e = some s') :
    s'.Inv := by
  cases e with
  | send deviceId pdu =>
    obtain rfl := Option.some.inj hstep
    exact h.submit
  | cancel i =>
    obtain ⟨r, -, hstep⟩ := Option.bind_eq_some_iff.mp hstep
    split at hstep
    · obtain rfl := Option.some.inj hstep
      exact h.setFuture
    · cases hstep
  | takeRequest =>
    simp only [MasterState.step] at hstep
    split at hstep
    · obtain rfl := Option.some.inj hstep
      exact ⟨h.raised, h.stopped, h.transactionId⟩
    · cases hstep
  | sendRequest =>
    simp only [MasterState.step] at hstep
    split at hstep
    · rename_i i hopen hloop
      obtain ⟨r, hr, rfl⟩ := Option.map_eq_some_iff.mp hstep
      exact h.sendAdu (List.mem_of_getElem? hr) (hcond rfl hopen i r hloop hr)
    · cases hstep
  | drained =>
    simp only [MasterState.step] at hstep
    split at hstep
    · obtain rfl := Option.some.inj hstep
      exact ⟨h.raised, h.stopped, h.transactionId⟩
    · cases hstep
  | received res =>
    simp only [MasterState.step] at hstep
    split at hstep
    · obtain ⟨r, -, hstep⟩ := Option.bind_eq_some_iff.mp hstep
      split at hstep
      · obtain rfl := Option.some.inj hstep
        split
        · exact ⟨h.raised, h.stopped, h.transactionId⟩
        · exact h.setResult res
      · cases hstep
    · cases hstep
  | timeout =>
    simp only [MasterState.step] at hstep
    split at hstep
    · rename_i i _ _
      obtain rfl := Option.some.inj hstep
      have hset : (s.setFuture i .timeoutError).Inv := h.setFuture
      exact ⟨hset.raised, hset.stopped, hset.transactionId⟩
    · cases hstep
  | futureDone =>
    simp only [MasterState.step] at hstep
    split at hstep
    · split at hstep
      · obtain rfl := Option.some.inj hstep
        exact ⟨h.raised, h.stopped, h.transactionId⟩
      · cases hstep
    · cases hstep
  | close =>
    obtain rfl := Option.some.inj hstep
    exact h.close
  | endLoop =>
    simp only [MasterState.step] at hstep
    split at hstep
    · cases hstep
    · obtain rfl := Option.some.inj hstep
      exact h.finish

/-! ### A request that does not fail alone -/

@[simp] theorem foldl_setFuture_raised (is : List ℕ) (s : MasterState) (future : ReqFuture) :
    (is.foldl (fun s i => s.setFuture i future) s).raised = s.raised := by
  induction is generalizing s with
  | nil => rfl
  | cons i is ih => exact ih (s.setFuture i future)

@[simp] theorem foldl_setFuture_stopped (is : List ℕ) (s : MasterState) (future : ReqFuture) :
    (is.foldl (fun s i => s.setFuture i future) s).stopped = s.stopped := by
  induction is generalizing s with
  | nil => rfl
  | cons i is ih => exact ih (s.setFuture i future)

/-- A request out of range closes the master. -/
theorem Inv.sendAdu_not_confined {i : ℕ} {r : Submitted} (h : s.Inv) (hopen : s.isOpen)
    (hr : r ∈ s.requests) (hencodable : ¬ (IsByte r.deviceId ∧ r.pdu.Encodable)) :
    ¬ (s.sendAdu i r).Confined := by
  obtain ⟨err, herr⟩ : ∃ err, encodeAdu (s.adu r) = .error err := by
    cases hadu : encodeAdu (s.adu r) with
    | error err => exact ⟨err, rfl⟩
    | ok data =>
      exact absurd ((encodeAdu_isOk_iff s.modbusType r.deviceId r.pdu
        (h.transactionId r hr)).mp ⟨data, hadu⟩) hencodable
  intro hconfined
  rw [MasterState.sendAdu, herr] at hconfined
  have hraised : (({ s with raised := s.raised ++ [i] } : MasterState).finish).raised ≠ [] := by
    simp [MasterState.finish]
  obtain hopen' | hstopped := hconfined.isOpen hraised
  · cases hopen'
  · have hsame : (({ s with raised := s.raised ++ [i] } : MasterState).finish).stopped =
        s.stopped := by
      simp [MasterState.finish]
    rw [hsame, h.stopped hopen] at hstopped
    cases hstopped

/-- A step that comes to a request out of range leaves the good states. -/
theorem Inv.leaves (h : s.Inv) (hcond : ¬ s.TakesEncodable e) :
    ∃ s', s.step e = some s' ∧ ¬ s'.Confined := by
  simp only [TakesEncodable, not_forall] at hcond
  obtain ⟨rfl, hopen, i, r, hloop, hr, hencodable⟩ := hcond
  have hstep : s.step .sendRequest = some (s.sendAdu i r) := by
    simp only [MasterState.step, hopen, hloop, hr, Option.map_some]
  exact ⟨_, hstep, h.sendAdu_not_confined hopen (List.mem_of_getElem? hr) hencodable⟩

/-- **A request fails alone as long as the loop comes to none out of range.** -/
theorem confined_iff (modbusType : ModbusType) (es : List MasterEvent) :
    (∀ es' s, es' <+: es → run MasterState.step (init modbusType) es' = some s → s.Confined) ↔
      Along MasterState.step TakesEncodable (init modbusType) es :=
  forall_safe_iff_along (fun _ _ _ h hcond hstep => h.step hcond hstep) (fun _ h => h.confined)
    (fun _ _ h hcond => h.leaves hcond) (inv_init modbusType)

/-- An address out of range, and a request behind it: both fail, and the master closes. -/
theorem not_confined_register : ∃ s,
    run MasterState.step (init .TCP)
      [.send 1 (.ReadHoldingRegistersReq 70000 1), .send 1 (.ReadHoldingRegistersReq 0 1),
        .takeRequest, .sendRequest] = some s ∧
    s.raised = [0] ∧ s.isOpen = false ∧ s.stopped = false ∧
    s.requests.map Submitted.future = [.connectionError, .connectionError] ∧ ¬ s.Confined := by
  refine ⟨_, rfl, by decide, by decide, by decide, by decide, ?_⟩
  intro hconfined
  obtain h | h := hconfined.isOpen (by decide)
  · revert h
    decide
  · revert h
    decide

end MasterState

end HatDrivers.Modbus
