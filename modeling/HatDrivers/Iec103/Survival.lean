import HatDrivers.Iec103.Processing

namespace HatDrivers.Iec103

open HatDrivers.Lib
open Iec60870.Encodings.Iec103 (AsduType IoAddress DoubleValue IoElement ASDU decodeAsdu)

/-!
# IEC 60870-5-103 driver — the receive loop in runs

`receiveLoop_survives`: ASDUs of the types that the master processes do not end the loop, and all
their data is handed to the callbacks.  An ASDU of another type ends it.  In any run, a call gets a
result from an answer that has its identifier.
-/

/-! ### Identifiers of calls -/

/-- The identifier that an element of a request has. -/
def elementIdentifier : IoElement → Option ℕ
  | .GENERAL_INTERROGATION scanNumber => some scanNumber
  | .GENERAL_COMMAND _ returnIdentifier => some returnIdentifier
  | .GENERIC_COMMAND returnIdentifier _ => some returnIdentifier
  | _ => none

/-- The identifier of a request. -/
def requestIdentifier (asdu : ASDU) : Option ℕ :=
  (asdu.ios.flatMap (·.elements)).head?.bind elementIdentifier

/-- The attributes of a kind of calls are those of the call that holds the lock. -/
structure Slot.Linked (slot : Slot) : Prop where
  free : slot.caller = none → slot = .free
  identifier : ∀ caller, slot.caller = some caller →
    ∃ reqId, slot.reqId = some reqId ∧ requestIdentifier caller.request = some reqId

theorem Slot.linked_free : Slot.free.Linked where
  free := fun _ => rfl
  identifier := nofun

/-- What is done to a future that waits. -/
theorem Slot.Linked.set_future {slot : Slot} (h : slot.Linked) {future : Future}
    (hpending : slot.future = some .pending) :
    Slot.Linked { slot with future := some future } where
  free := by
    intro hcaller
    have hfree := h.free hcaller
    rw [hfree] at hpending
    cases hpending
  identifier := h.identifier

theorem Slot.Linked.trySetResult {slot : Slot} (h : slot.Linked) (value : Option Bool) :
    (slot.trySetResult value).Linked := by
  unfold Slot.trySetResult
  split
  · rename_i hpending
    exact h.set_future hpending
  · exact h

theorem Slot.Linked.trySetException {slot : Slot} (h : slot.Linked) :
    slot.trySetException.Linked := by
  unfold Slot.trySetException
  split
  · rename_i hpending
    exact h.set_future hpending
  · exact h

namespace Master

variable {s s' : Master}

def Linked (s : Master) : Prop := ∀ kind, (s.slots kind).Linked

theorem linked_init (dataCb genericDataCb : Bool) : (init dataCb genericDataCb).Linked :=
  fun _ => Slot.linked_free

theorem setSlot_slots (s : Master) (kind : Kind) (slot : Slot) (kind' : Kind) :
    (s.setSlot kind slot).slots kind' = if kind' = kind then slot else s.slots kind' :=
  Function.update_apply ..

theorem Linked.setSlot (h : s.Linked) {kind : Kind} {slot : Slot} (hslot : slot.Linked) :
    (s.setSlot kind slot).Linked := by
  intro kind'
  rw [setSlot_slots]
  split
  · exact hslot
  · exact h kind'

theorem Linked.endLoop (h : s.Linked) : s.endLoop.Linked := fun kind => (h kind).trySetException

theorem Linked.answers (h : s.Linked) {item : Item} (hanswers : s.Answers item s') :
    s'.Linked := by
  intro kind
  rcases hanswers kind with heq | ⟨identifier, value, _, _, heq⟩
  · rw [heq]
    exact h kind
  · rw [heq]
    exact (h kind).trySetResult value

theorem Linked.process (h : s.Linked) (item : Item) (items : List Item) :
    (s.process item items).Linked := by
  unfold Master.process
  cases hitem : s.processItem item with
  | error e => exact h.endLoop
  | ok p =>
    obtain ⟨s₁, items'⟩ := p
    have hlinked : s₁.Linked := h.answers (processItem_answers hitem)
    exact fun kind => hlinked kind

theorem Linked.receive (h : s.Linked) (data : Bytes) : (s.receive data).Linked := by
  unfold Master.receive
  cases decodeAsdu data with
  | ok p => exact fun kind => h kind
  | error e =>
    cases e with
    | asduTypeError asduType => exact h
    | _ => exact h.endLoop

end Master

/-! ### Steps -/

/-- What the tasks of the calls of a kind can do to its attributes. -/
inductive Slot.Changes (slot : Slot) : Slot → Prop
  | kept : Changes slot slot
  | started (reqId : ℕ) (request : ASDU) (h : requestIdentifier request = some reqId) :
    Changes slot { reqId := some reqId, future := some .pending,
                   caller := some { request, sending := true } }
  | sent (request : ASDU) (h : slot.caller = some ⟨request, true⟩) :
    Changes slot { slot with caller := some ⟨request, false⟩ }
  | cancelled (h : slot.future = some .pending) :
    Changes slot { slot with future := some .cancelled }
  | freed : Changes slot .free

theorem Slot.Changes.linked {slot slot' : Slot} (h : slot.Changes slot') (hlinked : slot.Linked) :
    slot'.Linked := by
  cases h with
  | kept => exact hlinked
  | started reqId request h =>
    exact
      { free := nofun
        identifier := by
          intro caller hcaller
          obtain rfl := Option.some.inj hcaller
          exact ⟨reqId, rfl, h⟩ }
  | sent request h =>
    exact
      { free := nofun
        identifier := by
          intro caller hcaller
          obtain rfl := Option.some.inj hcaller
          exact hlinked.identifier ⟨request, true⟩ h }
  | cancelled h => exact hlinked.set_future h
  | freed => exact Slot.linked_free

/-- They give a future no result, and no exception. -/
theorem Slot.Changes.future {slot slot' : Slot} (h : slot.Changes slot') {future : Future}
    (hfuture : slot'.future = some future) :
    slot.future = some future ∨ future = .pending ∨ future = .cancelled := by
  cases h with
  | kept => exact .inl hfuture
  | started reqId request h => exact .inr (.inl (Option.some.inj hfuture).symm)
  | sent request h => exact .inl hfuture
  | cancelled h => exact .inr (.inr (Option.some.inj hfuture).symm)
  | freed => cases hfuture

namespace Master

variable {s s' : Master}

/-- A step of a call: the loop is left alone. -/
structure Calls (s s' : Master) : Prop where
  dataCb : s'.dataCb = s.dataCb
  genericDataCb : s'.genericDataCb = s.genericDataCb
  receiveLoop : s'.receiveLoop = s.receiveLoop
  received : s'.received = s.received
  calls : s'.calls = s.calls
  slots : ∀ kind, (s.slots kind).Changes (s'.slots kind)

theorem calls_setSlot {kind : Kind} {slot : Slot} (h : (s.slots kind).Changes slot) :
    s.Calls (s.setSlot kind slot) where
  dataCb := rfl
  genericDataCb := rfl
  receiveLoop := rfl
  received := rfl
  calls := rfl
  slots := by
    intro kind'
    rw [setSlot_slots]
    split
    · rename_i hkind
      subst hkind
      exact h
    · exact .kept

theorem calls_of_slots_eq (h : s' = { s with isOpen := s'.isOpen, count := s'.count }) :
    s.Calls s' where
  dataCb := by rw [h]
  genericDataCb := by rw [h]
  receiveLoop := by rw [h]
  received := by rw [h]
  calls := by rw [h]
  slots := by
    rw [h]
    exact fun kind => .kept

/-- A call, whose request has the identifier that it is given. -/
theorem calls_of_call {kind : Kind} {request : ℕ → ASDU}
    (hrequest : ∀ reqId, requestIdentifier (request reqId) = some reqId)
    (hs : s.call kind request = some s') : s.Calls s' := by
  unfold Master.call at hs
  cases hcaller : (s.slots kind).caller with
  | some caller =>
    rw [hcaller] at hs
    cases hs
  | none =>
    rw [hcaller] at hs
    simp only at hs
    split at hs
    · obtain rfl := Option.some.inj hs
      exact calls_of_slots_eq rfl
    · cases hencode : Iec60870.Encodings.Iec103.encodeAsdu (request (s.count % 0x100)) with
      | error e =>
        rw [hencode] at hs
        obtain rfl := Option.some.inj hs
        exact calls_of_slots_eq rfl
      | ok bytes =>
        rw [hencode] at hs
        obtain rfl := Option.some.inj hs
        have hchanges : (s.slots kind).Changes
            { reqId := some (s.count % 0x100), future := some .pending,
              caller := some ⟨request (s.count % 0x100), true⟩ } :=
          .started (s.count % 0x100) (request (s.count % 0x100)) (hrequest _)
        have hcalls := calls_setSlot (s := { s with count := s.count + 1 }) hchanges
        exact ⟨rfl, rfl, rfl, rfl, rfl, hcalls.slots⟩

private theorem sent_eq_some {kind : Kind} (hs : s.step (.sent kind) = some s') :
    ∃ request, (s.slots kind).caller = some ⟨request, true⟩ ∧
      s' = s.setSlot kind { s.slots kind with caller := some ⟨request, false⟩ } := by
  cases hcaller : (s.slots kind).caller with
  | none =>
    simp only [step, hcaller] at hs
    cases hs
  | some caller =>
    obtain ⟨request, sending⟩ := caller
    cases sending with
    | false =>
      simp only [step, hcaller] at hs
      cases hs
    | true =>
      simp only [step, hcaller, Option.some.injEq] at hs
      exact ⟨request, rfl, hs.symm⟩

private theorem unsent_eq_some {kind : Kind} (hs : s.step (.unsent kind) = some s') :
    s' = s.setSlot kind .free := by
  cases hcaller : (s.slots kind).caller with
  | none =>
    simp only [step, hcaller] at hs
    cases hs
  | some caller =>
    obtain ⟨request, sending⟩ := caller
    cases sending with
    | false =>
      simp only [step, hcaller] at hs
      cases hs
    | true =>
      simp only [step, hcaller, Option.some.injEq] at hs
      exact hs.symm

private theorem calls_of_cancel {kind : Kind} (hs : s.step (.cancel kind) = some s') :
    s.Calls s' := by
  cases hcaller : (s.slots kind).caller with
  | none =>
    simp only [step, hcaller] at hs
    cases hs
  | some caller =>
    obtain ⟨request, sending⟩ := caller
    cases sending with
    | true =>
      simp only [step, hcaller] at hs
      cases hs
    | false =>
      simp only [step, hcaller] at hs
      split at hs
      · rename_i hpending
        obtain rfl := Option.some.inj hs
        have hcalls := calls_setSlot (.cancelled hpending)
        rw [hcaller] at hcalls
        exact hcalls
      · obtain rfl := Option.some.inj hs
        exact calls_of_slots_eq rfl

private theorem resume_eq_some {kind : Kind} (hs : s.step (.resume kind) = some s') :
    s' = s.setSlot kind .free := by
  cases hcaller : (s.slots kind).caller with
  | none =>
    simp only [step, hcaller] at hs
    cases hs
  | some caller =>
    obtain ⟨request, sending⟩ := caller
    cases sending with
    | true =>
      simp only [step, hcaller] at hs
      cases hs
    | false =>
      simp only [step, hcaller, Option.ite_none_left_eq_some, Option.some.injEq] at hs
      exact hs.2.symm

/-- What a step can be. -/
theorem step_cases {e : Event} (hs : s.step e = some s') :
    s.Calls s' ∨
      (∃ data, e = .receive data ∧ s.receiveLoop = .running [] ∧ s' = s.receive data) ∨
      (∃ item items, s.receiveLoop = .running (item :: items) ∧
        (e = .process ∧ s' = s.process item items ∨
          e = .raise ∧ s' = (s.process item items).endLoop)) ∨
      e = .lost ∧ s' = s.endLoop := by
  cases e with
  | interrogate asduAddress => exact .inl (calls_of_call (fun _ => rfl) hs)
  | sendCommand asduAddress ioAddress value => exact .inl (calls_of_call (fun _ => rfl) hs)
  | interrogateGeneric asduAddress => exact .inl (calls_of_call (fun _ => rfl) hs)
  | sent kind =>
    obtain ⟨request, hcaller, rfl⟩ := sent_eq_some hs
    exact .inl (calls_setSlot (.sent request hcaller))
  | unsent kind =>
    obtain rfl := unsent_eq_some hs
    exact .inl (calls_setSlot .freed)
  | cancel kind => exact .inl (calls_of_cancel hs)
  | resume kind =>
    obtain rfl := resume_eq_some hs
    exact .inl (calls_setSlot .freed)
  | receive data =>
    cases hloop : s.receiveLoop with
    | ended =>
      simp only [step, hloop] at hs
      cases hs
    | running items =>
      cases items with
      | nil =>
        simp only [step, hloop, Option.some.injEq] at hs
        exact .inr (.inl ⟨data, rfl, rfl, hs.symm⟩)
      | cons item items =>
        simp only [step, hloop] at hs
        cases hs
  | process =>
    cases hloop : s.receiveLoop with
    | ended =>
      simp only [step, hloop] at hs
      cases hs
    | running items =>
      cases items with
      | nil =>
        simp only [step, hloop] at hs
        cases hs
      | cons item items =>
        simp only [step, hloop, Option.some.injEq] at hs
        exact .inr (.inr (.inl ⟨item, items, rfl, .inl ⟨rfl, hs.symm⟩⟩))
  | raise =>
    cases hloop : s.receiveLoop with
    | ended =>
      simp only [step, hloop] at hs
      cases hs
    | running items =>
      cases items with
      | nil =>
        simp only [step, hloop] at hs
        cases hs
      | cons item items =>
        simp only [step, hloop, Option.ite_none_right_eq_some, Option.some.injEq] at hs
        exact .inr (.inr (.inl ⟨item, items, rfl, .inr ⟨rfl, hs.2.symm⟩⟩))
  | lost =>
    cases hloop : s.receiveLoop with
    | ended =>
      simp only [step, hloop] at hs
      cases hs
    | running items =>
      simp only [step, hloop, Option.some.injEq] at hs
      exact .inr (.inr (.inr ⟨rfl, hs.symm⟩))
  | close =>
    obtain rfl := Option.some.inj hs
    exact .inl (calls_of_slots_eq rfl)

theorem Linked.step (h : s.Linked) {e : Event} (hs : s.step e = some s') : s'.Linked := by
  rcases step_cases hs with hcalls | ⟨data, _, _, rfl⟩ |
    ⟨item, items, _, ⟨_, rfl⟩ | ⟨_, rfl⟩⟩ | ⟨_, rfl⟩
  · exact fun kind => (hcalls.slots kind).linked (h kind)
  · exact h.receive data
  · exact h.process item items
  · exact (h.process item items).endLoop
  · exact h.endLoop

/-! ### Answers in runs -/

/-- A future gets a result from an answer with the identifier of its call. -/
def Answered (s s' : Master) : Prop :=
  ∀ kind value, (s'.slots kind).future = some (.result value) →
    (s.slots kind).future = some (.result value) ∨
      ∃ item items identifier caller, s.receiveLoop = .running (item :: items) ∧
        Acknowledges item kind identifier value ∧ (s.slots kind).caller = some caller ∧
        requestIdentifier caller.request = some identifier

theorem trySetException_result {slot : Slot} {value : Option Bool}
    (h : slot.trySetException.future = some (.result value)) :
    slot.future = some (.result value) := by
  unfold Slot.trySetException at h
  split at h
  · cases h
  · exact h

theorem Answered.endLoop (h : s.Answered s') : s.Answered s'.endLoop :=
  fun kind value hvalue => h kind value (trySetException_result hvalue)

theorem answered_endLoop (s : Master) : s.Answered s.endLoop :=
  fun _ _ hvalue => .inl (trySetException_result hvalue)

/-- The identifier that a kind of calls waits for is that of its call. -/
theorem Linked.caller (h : s.Linked) {kind : Kind} {identifier : ℕ}
    (hreqId : (s.slots kind).reqId = some identifier) :
    ∃ caller, (s.slots kind).caller = some caller ∧
      requestIdentifier caller.request = some identifier := by
  cases hcaller : (s.slots kind).caller with
  | none =>
    rw [(h kind).free hcaller] at hreqId
    cases hreqId
  | some caller =>
    obtain ⟨reqId, heq, hrequest⟩ := (h kind).identifier caller hcaller
    rw [hreqId] at heq
    obtain rfl := Option.some.inj heq
    exact ⟨caller, rfl, hrequest⟩

theorem answered_process (h : s.Linked) {item : Item} {items : List Item}
    (hloop : s.receiveLoop = .running (item :: items)) :
    s.Answered (s.process item items) := by
  unfold Master.process
  cases hitem : s.processItem item with
  | error e => exact answered_endLoop s
  | ok p =>
    obtain ⟨s₁, items'⟩ := p
    intro kind value hvalue
    change (s₁.slots kind).future = some (.result value) at hvalue
    rcases processItem_answers hitem kind with heq | ⟨identifier, value', hack, hreqId, heq⟩
    · rw [heq] at hvalue
      exact .inl hvalue
    · rw [heq, Slot.trySetResult] at hvalue
      split at hvalue
      · obtain rfl := Future.result.inj (Option.some.inj hvalue)
        obtain ⟨caller, hcaller, hrequest⟩ := h.caller hreqId
        exact .inr ⟨item, items, identifier, caller, hloop, hack, hcaller, hrequest⟩
      · exact .inl hvalue

theorem answered_of_step (h : s.Linked) {e : Event} (hs : s.step e = some s') :
    s.Answered s' := by
  rcases step_cases hs with hcalls | ⟨data, _, _, rfl⟩ |
    ⟨item, items, hloop, ⟨_, rfl⟩ | ⟨_, rfl⟩⟩ | ⟨_, rfl⟩
  · intro kind value hvalue
    rcases (hcalls.slots kind).future hvalue with heq | heq | heq
    · exact .inl heq
    · cases heq
    · cases heq
  · unfold Master.receive
    cases decodeAsdu data with
    | ok p => exact fun _ _ hvalue => .inl hvalue
    | error e =>
      cases e with
      | asduTypeError asduType => exact fun _ _ hvalue => .inl hvalue
      | _ => exact answered_endLoop s
  · exact answered_process h hloop
  · exact (answered_process h hloop).endLoop
  · exact answered_endLoop s

/-! ### Runs of ASDUs that are processed -/

/-- The objects of an ASDU are processed. -/
def asduProcessed (asdu : ASDU) : Prop := ∀ io ∈ asdu.ios, Processed asdu.type io.elements

/-- The bytes that are received are ASDUs that are processed, no callback raises, and the
connection is not lost. -/
def EventProcessed : Event → Prop
  | .receive data => ∃ asdu rest, decodeAsdu data = .ok (asdu, rest) ∧ asduProcessed asdu
  | .raise | .lost => False
  | _ => True

/-- The loop goes on, with all data handed to the callbacks but that of the items it has yet to
process, and no call has failed. -/
structure Survives (s : Master) : Prop where
  running : ∃ items, s.receiveLoop = .running items ∧ (∀ item ∈ items, item.Processed) ∧
    s.calls ++ s.dataOf items = (s.received.flatMap asduData).filter s.passes
  future : ∀ kind, (s.slots kind).future ≠ some .connectionError

theorem survives_init (dataCb genericDataCb : Bool) : (init dataCb genericDataCb).Survives where
  running := ⟨[], rfl, by simp, rfl⟩
  future := nofun

theorem Survives.calls (h : s.Survives) (hs : s.Calls s') : s'.Survives where
  running := by
    obtain ⟨items, hloop, hitems, hcalls⟩ := h.running
    have hpasses : s'.passes = s.passes := by
      funext callback
      cases callback with
      | data data => exact hs.dataCb
      | genericData data => exact hs.genericDataCb
    refine ⟨items, by rw [hs.receiveLoop, hloop], hitems, ?_⟩
    rw [hs.calls, hs.received, dataOf, hpasses]
    exact hcalls
  future := by
    intro kind hfuture
    rcases (hs.slots kind).future hfuture with heq | heq | heq
    · exact h.future kind heq
    · cases heq
    · cases heq

theorem Survives.receive (h : s.Survives) (hloop : s.receiveLoop = .running []) {data rest : Bytes}
    {asdu : ASDU} (hdata : decodeAsdu data = .ok (asdu, rest)) (hasdu : asduProcessed asdu) :
    (s.receive data).Survives := by
  obtain ⟨items, hloop', _, hcalls⟩ := h.running
  obtain rfl : [] = items := by
    rw [hloop] at hloop'
    exact ReceiveLoop.running.inj hloop'
  rw [Master.receive, hdata]
  constructor
  · refine ⟨asduItems asdu, rfl, ?_, ?_⟩
    · intro item hitem
      obtain ⟨io, hio, rfl⟩ := List.mem_map.mp hitem
      exact ⟨hasdu io hio, fun element helement => asduType_of_decodeAsdu hdata hio helement⟩
    · have hdataOf : (asduItems asdu).flatMap itemData = asduData asdu := by
        rw [asduItems, List.flatMap_map]
        rfl
      simp only [dataOf, List.flatMap_nil, List.filter_nil, List.append_nil] at hcalls
      simp only [dataOf, hdataOf, List.flatMap_append, List.flatMap_singleton, List.filter_append]
      rw [hcalls]
      rfl
  · exact h.future

theorem Survives.process (h : s.Survives) {item : Item} {items : List Item}
    (hloop : s.receiveLoop = .running (item :: items)) : (s.process item items).Survives := by
  obtain ⟨items', hloop', hitems, hcalls⟩ := h.running
  obtain rfl : item :: items = items' := by
    rw [hloop] at hloop'
    exact ReceiveLoop.running.inj hloop'
  obtain ⟨s₁, left, hitem, hpasses⟩ := processItem_passes (s := s) (hitems item (by simp))
  have hanswers := processItem_answers hitem
  rw [Master.process, hitem]
  constructor
  · refine ⟨left ++ items, rfl, ?_, ?_⟩
    · intro item' hitem'
      rcases List.mem_append.mp hitem' with hmem | hmem
      · exact hpasses.processed item' hmem
      · exact hitems item' (by simp [hmem])
    · have hcb : s₁.passes = s.passes := by
        funext callback
        cases callback with
        | data data => exact hpasses.dataCb
        | genericData data => exact hpasses.genericDataCb
      have hstep := hpasses.calls
      show s₁.calls ++ ((left ++ items).flatMap itemData).filter s₁.passes =
        (s₁.received.flatMap asduData).filter s₁.passes
      rw [hcb, hpasses.received, ← hcalls]
      simp only [dataOf, List.flatMap_cons, List.flatMap_nil, List.append_nil,
        List.flatMap_append, List.filter_append, ← List.append_assoc] at hstep ⊢
      rw [hstep]
  · intro kind hfuture
    rcases hanswers kind with heq | ⟨identifier, value, _, _, heq⟩
    · exact h.future kind (heq ▸ hfuture)
    · change (s₁.slots kind).future = _ at hfuture
      rw [heq, Slot.trySetResult] at hfuture
      split at hfuture
      · cases hfuture
      · exact h.future kind hfuture

theorem Survives.step (h : s.Survives) {e : Event} (he : EventProcessed e)
    (hs : s.step e = some s') : s'.Survives := by
  rcases step_cases hs with hcalls | ⟨data, rfl, hloop, rfl⟩ |
    ⟨item, items, hloop, ⟨rfl, rfl⟩ | ⟨rfl, rfl⟩⟩ | ⟨rfl, rfl⟩
  · exact h.calls hcalls
  · obtain ⟨asdu, rest, hdata, hasdu⟩ := he
    exact h.receive hloop hdata hasdu
  · exact h.process hloop
  · exact he.elim
  · exact he.elim

/-- The end of the loop fails the calls that wait. -/
theorem endLoop_pending {kind : Kind} (h : (s.slots kind).future = some .pending) :
    (s.endLoop.slots kind).future = some .connectionError := by
  show (s.slots kind).trySetException.future = _
  rw [Slot.trySetException, if_pos h]

/-- An ASDU with an object of a type that the master does not process ends the loop. -/
theorem run_unsupported {data rest : Bytes} {asdu : ASDU} (hloop : s.receiveLoop = .running [])
    (hdata : decodeAsdu data = .ok (asdu, rest)) (hios : asdu.ios ≠ [])
    (hsingle : asdu.type ∉ singleElementTypes) (hmultiple : asdu.type ∉ multipleElementsTypes) :
    ∃ s', run step s [.receive data, .process] = some s' ∧ s'.receiveLoop = .ended ∧
      ∀ kind, (s.slots kind).future = some .pending →
        (s'.slots kind).future = some .connectionError := by
  obtain ⟨io, ios, hcons⟩ := List.exists_cons_of_ne_nil hios
  have hreceive : s.step (.receive data) = some { s with
      received := s.received ++ [asdu]
      receiveLoop := .running (asduItems asdu) } := by
    simp only [step, hloop, Master.receive, hdata]
  have hitems : asduItems asdu = .io asdu.type asdu.cause asdu.address io ::
      ios.map (.io asdu.type asdu.cause asdu.address) := by
    rw [asduItems, hcons, List.map_cons]
  rw [hitems] at hreceive
  refine ⟨_, run_cons_eq_some.mpr ⟨_, hreceive, run_cons_eq_some.mpr ⟨_, rfl, rfl⟩⟩, ?_, ?_⟩
  · rw [Master.process, processItem_unsupported hsingle hmultiple]
    rfl
  · intro kind hpending
    rw [Master.process, processItem_unsupported hsingle hmultiple]
    exact endLoop_pending hpending

/-- **The receive loop in runs.**  If the ASDUs that are received are of the types that the master
processes, and have no measurands without names, the loop goes on, no call has failed, and the
callbacks were called for all the data of the ASDUs, but for what the loop has yet to process.  In
any run, a call gets its result from a termination or an acknowledgement that has its identifier,
and an ASDU with an object of another type ends the loop, which fails the calls that wait. -/
theorem receiveLoop_survives {dataCb genericDataCb : Bool} {es : List Event}
    (hrun : run step (init dataCb genericDataCb) es = some s) :
    ((∀ e ∈ es, EventProcessed e) →
      (∃ items, s.receiveLoop = .running items ∧
        s.calls ++ s.dataOf items = (s.received.flatMap asduData).filter s.passes) ∧
      ∀ kind, (s.slots kind).future ≠ some .connectionError) ∧
    (∀ e s', s.step e = some s' → s.Answered s') ∧
    (∀ data asdu rest, s.receiveLoop = .running [] → decodeAsdu data = .ok (asdu, rest) →
      asdu.ios ≠ [] → asdu.type ∉ singleElementTypes → asdu.type ∉ multipleElementsTypes →
      ∃ s', run step s [.receive data, .process] = some s' ∧ s'.receiveLoop = .ended ∧
        ∀ kind, (s.slots kind).future = some .pending →
          (s'.slots kind).future = some .connectionError) := by
  refine ⟨fun hes => ?_, fun e s' hs => ?_, fun data asdu rest => run_unsupported⟩
  · have hsurvives : s.Survives :=
      run_invariant Survives (fun s e s' h hc hs => h.step hc.1 hs)
        (survives_init dataCb genericDataCb) ((along_true es).and hes) hrun
    obtain ⟨items, hloop, _, hcalls⟩ := hsurvives.running
    exact ⟨⟨items, hloop, hcalls⟩, hsurvives.future⟩
  · have hlinked : s.Linked :=
      run_invariant_of_step (fun s e s' h hs => h.step hs) (linked_init dataCb genericDataCb) hrun
    exact answered_of_step hlinked hs

/-- An interrogation that is terminated. -/
def terminatedInterrogation : List Event :=
  [.interrogate 1, .sent .interrogate, .receive [8, 0x81, 10, 1, 255, 0, 0], .process, .process]

theorem receiveLoop_survives_interrogation :
    ∃ s, run step (init true true) terminatedInterrogation = some s ∧
      (s.slots .interrogate).future = some (.result none) ∧
      ∃ items, s.receiveLoop = .running items := by
  have hfuture : (run step (init true true) terminatedInterrogation).map
      (fun s => (s.slots .interrogate).future) = some (some (.result none)) := by decide
  obtain ⟨s, hs, hresult⟩ := Option.map_eq_some_iff.mp hfuture
  have hprocessed : ∀ e ∈ terminatedInterrogation, EventProcessed e := by
    simp only [terminatedInterrogation, List.forall_mem_cons]
    refine ⟨trivial, trivial, ⟨_, _, rfl, ?_⟩, trivial, trivial, by simp⟩
    intro io _
    exact .inl (by decide)
  obtain ⟨⟨items, hloop, _⟩, _⟩ := (receiveLoop_survives hs).1 hprocessed
  exact ⟨s, hs, hresult, items, hloop⟩

/-- An interrogation during which an interrogation is received. -/
def receivedInterrogation : List Event :=
  [.interrogate 1, .sent .interrogate, .receive [7, 0x81, 9, 1, 255, 0, 0], .process]

/-- It ends the loop. -/
theorem receivedInterrogation_ends :
    ∃ asdu s, decodeAsdu [7, 0x81, 9, 1, 255, 0, 0] = .ok (asdu, []) ∧
      run step (init true true) receivedInterrogation = some s ∧ s.receiveLoop = .ended ∧
      (s.slots .interrogate).future = some .connectionError :=
  ⟨_, _, rfl, rfl, rfl, rfl⟩

end Master

end HatDrivers.Iec103
