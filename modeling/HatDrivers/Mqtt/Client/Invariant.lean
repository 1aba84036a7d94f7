import HatDrivers.Mqtt.Client.Handshake

namespace HatDrivers.Mqtt

open HatDrivers.Lib HatDrivers.Mqtt.Transport

/-!
# MQTT — what holds of the operations of a client

An invariant of the runs of a client: how far every call is in its handshake, and which
calls the futures of an identifier belong to.  In runs in which calls take only unused
identifiers, no identifier is held twice and every acknowledgement still to come belongs
to the call that holds its identifier.
-/

namespace Client

/-- Nothing but the handshake was exchanged. -/
structure Followed (maximumQos : QoS) (op : Operation) : Prop where
  steps : op.exchange.map stepOf <+: handshake maximumQos op.identifier op.request
  identified : op.exchange ≠ [] → (op.identifier.isSome ↔ op.request.Identified)

structure Ending (maximumQos : QoS) (op : Operation) (outcome : Outcome) : Prop where
  followed : Followed maximumQos op
  complete : ∀ reasons, outcome = .returned reasons →
    op.exchange.map stepOf = handshake maximumQos op.identifier op.request
  unsent : ∀ failure, outcome = .raised failure → op.exchange = [] →
    Unsent maximumQos op.request op.identifier failure

/-- How far a call is, in each of its phases. -/
def PhaseOk (maximumQos : QoS) (op : Operation) : Phase → Prop
  | .calling | .putting | .waiting | .failing =>
    op.identifier = none ∧ op.exchange = [] ∧ op.request.Identified
  | .handed identifier =>
    (1 ≤ identifier ∧ identifier ≤ 0xffff) ∧ op.identifier = none ∧ op.exchange = [] ∧
      op.request.Identified
  | .sending packet => Stage maximumQos op.request op.identifier packet op.exchange
  | .awaiting packet => ∃ before, op.exchange = before ++ [packet] ∧
      Stage maximumQos op.request op.identifier packet before
  | .ended outcome => Ending maximumQos op outcome

structure OperationOk (maximumQos : QoS) (op : Operation) : Prop where
  inRange : ∀ identifier ∈ op.identifier, 1 ≤ identifier ∧ identifier ≤ 0xffff
  result : ∀ res, op.future = some (.result res) →
    ∃ identifier, acknowledgedIdentifier res = some identifier ∧ op.identifier = some identifier
  phase : PhaseOk maximumQos op op.phase

def Ended (op : Operation) : Prop := ∃ outcome, op.phase = .ended outcome

/-- The call has the identifier and has not released it. -/
def Holds (s : Client) (k identifier : ℕ) : Prop :=
  ∃ op, s.operations[k]? = some op ∧ op.identifier = some identifier ∧ ¬ Ended op

/-- What holds while calls take only fresh identifiers. -/
structure Exclusive (s : Client) : Prop where
  held : ∀ k identifier, s.Holds k identifier → identifier ∈ s.registry.identifierFutures
  unique : ∀ j k identifier, s.Holds j identifier → s.Holds k identifier → j = k
  /-- an acknowledgement to come is for the call that holds its identifier, if one does -/
  unanswered : ∀ sent ∈ s.unanswered, ∀ identifier,
    expectedIdentifier sent.packet = some identifier →
    ∀ k, s.Holds k identifier → sent.operation = k
  matched : ∀ m ∈ s.matched, m.1 = m.2

/-- The part of the invariant that is not about single calls; `fresh` says whether calls
take only fresh identifiers. -/
structure Base (fresh : Prop) (s : Client) : Prop where
  next_pos : 1 ≤ s.registry.nextIdentifier
  next_le : s.registry.nextIdentifier ≤ 0xffff
  /-- the futures of an identifier belong to calls that hold it -/
  queued : ∀ identifier ks, s.registry.identifierFutures.lookup identifier = some ks →
    ∀ k ∈ ks, s.Holds k identifier
  exclusive : fresh → s.Exclusive

structure Ok (fresh : Prop) (s : Client) : Prop extends Base fresh s where
  operations : ∀ (k : ℕ) op, s.operations[k]? = some op → OperationOk s.maximumQos op

/-- The invariant, but for the call `k`. -/
structure OkBut (fresh : Prop) (s : Client) (k : ℕ) (op : Operation) : Prop extends
    Base fresh s where
  here : s.operations[k]? = some op
  others : ∀ (j : ℕ) op, j ≠ k → s.operations[j]? = some op → OperationOk s.maximumQos op

variable {fresh : Prop} {s s' : Client} {k : ℕ} {op : Operation}

/-- A call that is about to send a packet. -/
theorem Followed.of_stage {maximumQos : QoS} {sent : Packet}
    (h : Stage maximumQos op.request op.identifier sent op.exchange) : Followed maximumQos op where
  steps := by
    have hfollowed := h.followed
    rw [List.map_append] at hfollowed
    exact (List.prefix_append _ _).trans hfollowed
  identified := fun _ => h.identified

/-- A call that sent a packet. -/
theorem Followed.of_sent {maximumQos : QoS} {sent : Packet} {before : List Packet}
    (h : Stage maximumQos op.request op.identifier sent before)
    (hexchange : op.exchange = before ++ [sent]) : Followed maximumQos op where
  steps := by
    rw [hexchange]
    exact h.followed
  identified := fun _ => h.identified

theorem Followed.of_nil {maximumQos : QoS} (h : op.exchange = []) : Followed maximumQos op where
  steps := by
    rw [h]
    exact List.nil_prefix
  identified := fun hne => absurd h hne

theorem Ok.but (h : Ok fresh s) (hk : s.operations[k]? = some op) : OkBut fresh s k op where
  toBase := h.toBase
  here := hk
  others := fun j op' _ hj => h.operations j op' hj

theorem OkBut.ok (h : OkBut fresh s k op) (hop : OperationOk s.maximumQos op) : Ok fresh s where
  toBase := h.toBase
  operations := by
    intro j op' hj
    by_cases hjk : j = k
    · subst hjk
      obtain rfl := Option.some.inj (h.here.symm.trans hj)
      exact hop
    · exact h.others j op' hjk hj

/-- A state with the same holders. -/
theorem Base.of_holds (h : Base fresh s) (hregistry : s'.registry.identifierFutures =
      s.registry.identifierFutures) (hnext : s'.registry.nextIdentifier = s.registry.nextIdentifier)
    (hholds : ∀ k identifier, s'.Holds k identifier ↔ s.Holds k identifier)
    (hunanswered : s'.unanswered ⊆ s.unanswered) (hmatched : s'.matched = s.matched) :
    Base fresh s' where
  next_pos := by rw [hnext]; exact h.next_pos
  next_le := by rw [hnext]; exact h.next_le
  queued := by
    intro identifier ks hks k hk
    rw [hregistry] at hks
    exact (hholds k identifier).mpr (h.queued identifier ks hks k hk)
  exclusive := by
    intro hfresh
    have he := h.exclusive hfresh
    refine ⟨?_, ?_, ?_, ?_⟩
    · intro k identifier hk
      rw [hregistry]
      exact he.held k identifier ((hholds k identifier).mp hk)
    · intro j k identifier hj hk
      exact he.unique j k identifier ((hholds j identifier).mp hj) ((hholds k identifier).mp hk)
    · intro sent hsent identifier hidentifier k hk
      exact he.unanswered sent (hunanswered hsent) identifier hidentifier k
        ((hholds k identifier).mp hk)
    · rw [hmatched]
      exact he.matched

/-! ### Changes of one call -/

/-- The invariant of a call is not about its future, but for a result. -/
theorem PhaseOk.congr {maximumQos : QoS} {op op' : Operation} {phase : Phase}
    (h : PhaseOk maximumQos op phase) (hrequest : op'.request = op.request)
    (hidentifier : op'.identifier = op.identifier) (hexchange : op'.exchange = op.exchange) :
    PhaseOk maximumQos op' phase := by
  obtain ⟨request, identifier, phase', future, exchange⟩ := op
  obtain ⟨request', identifier', phase'', future', exchange'⟩ := op'
  obtain rfl : request' = request := hrequest
  obtain rfl : identifier' = identifier := hidentifier
  obtain rfl : exchange' = exchange := hexchange
  cases phase with
  | ended outcome => exact ⟨⟨h.followed.steps, h.followed.identified⟩, h.complete, h.unsent⟩
  | calling => exact h
  | putting => exact h
  | waiting => exact h
  | handed identifier => exact h
  | failing => exact h
  | sending packet => exact h
  | awaiting packet => exact h

theorem holds_modify {f : Operation → Operation} (hk : s.operations[k]? = some op)
    (hidentifier : (f op).identifier = op.identifier)
    (hended : op.identifier ≠ none → (Ended (f op) ↔ Ended op)) (j identifier : ℕ) :
    (s.modify k f).Holds j identifier ↔ s.Holds j identifier := by
  constructor
  · rintro ⟨op', hj, hop', hlive⟩
    rcases getElem?_modify_eq_some.mp hj with ⟨-, hj⟩ | ⟨rfl, op'', hop'', rfl⟩
    · exact ⟨op', hj, hop', hlive⟩
    · obtain rfl := Option.some.inj (hk.symm.trans hop'')
      rw [hidentifier] at hop'
      exact ⟨op, hk, hop', fun h => hlive ((hended (by simp [hop'])).mpr h)⟩
  · rintro ⟨op', hj, hop', hlive⟩
    by_cases hjk : k = j
    · subst hjk
      obtain rfl := Option.some.inj (hk.symm.trans hj)
      refine ⟨f op, getElem?_modify_eq_some.mpr (.inr ⟨rfl, op, hk, rfl⟩), hidentifier.trans hop',
        ?_⟩
      exact fun h => hlive ((hended (by simp [hop'])).mp h)
    · exact ⟨op', getElem?_modify_eq_some.mpr (.inl ⟨hjk, hj⟩), hop', hlive⟩

/-- A change of the call `k` that keeps its identifier, and that ends it only if it has none. -/
theorem OkBut.modify (h : OkBut fresh s k op) (f : Operation → Operation)
    (hidentifier : (f op).identifier = op.identifier)
    (hended : op.identifier ≠ none → (Ended (f op) ↔ Ended op)) :
    OkBut fresh (s.modify k f) k (f op) where
  toBase := h.toBase.of_holds rfl rfl (holds_modify h.here hidentifier hended)
    (List.Subset.refl _) rfl
  here := getElem?_modify_eq_some.mpr (.inr ⟨rfl, op, h.here, rfl⟩)
  others := by
    intro j op' hjk hj
    rcases getElem?_modify_eq_some.mp hj with ⟨-, hj⟩ | ⟨rfl, -⟩
    · exact h.others j op' hjk hj
    · exact absurd rfl hjk

theorem getElem?_failFutures {ks : List ℕ} {j : ℕ} {op' : Operation} :
    (s.failFutures ks).operations[j]? = some op' ↔
      ∃ op, s.operations[j]? = some op ∧ op' = if j ∈ ks then op.fail else op := by
  show (s.operations.mapIdx _)[j]? = some op' ↔ _
  rw [List.getElem?_mapIdx, Option.map_eq_some_iff]
  simp only [eq_comm]

/-- A future that fails changes nothing else. -/
theorem fail_eq (op : Operation) : ∃ future, op.fail = { op with future := future } ∧
    (future = op.future ∨ future = some .exception) := by
  unfold Operation.fail
  by_cases h : op.future = some .pending
  · exact ⟨some .exception, by rw [if_pos h], .inr rfl⟩
  · exact ⟨op.future, by rw [if_neg h], .inl rfl⟩

theorem OperationOk.fail {maximumQos : QoS} (h : OperationOk maximumQos op) :
    OperationOk maximumQos op.fail := by
  obtain ⟨future, heq, hfuture⟩ := fail_eq op
  rw [heq]
  refine ⟨h.inRange, ?_, h.phase.congr rfl rfl rfl⟩
  intro res hres
  rcases hfuture with rfl | rfl
  · exact h.result res hres
  · cases hres

/-- What is not the future of a call stays as it is when futures fail. -/
theorem exists_of_failFutures {ks : List ℕ} {j : ℕ} {op' : Operation}
    (h : (s.failFutures ks).operations[j]? = some op') :
    ∃ op future, s.operations[j]? = some op ∧ op' = { op with future := future } ∧
      (OperationOk s.maximumQos op → OperationOk s.maximumQos op') := by
  obtain ⟨op, hop, rfl⟩ := getElem?_failFutures.mp h
  by_cases hj : j ∈ ks
  · obtain ⟨future, heq, -⟩ := fail_eq op
    rw [if_pos hj]
    exact ⟨op, future, hop, heq, OperationOk.fail⟩
  · rw [if_neg hj]
    exact ⟨op, op.future, hop, rfl, fun h => h⟩

theorem exists_failFutures {ks : List ℕ} {j : ℕ} (h : s.operations[j]? = some op) :
    ∃ op', (s.failFutures ks).operations[j]? = some op' ∧ op'.phase = op.phase := by
  refine ⟨_, getElem?_failFutures.mpr ⟨op, h, rfl⟩, ?_⟩
  obtain ⟨future, heq, -⟩ := fail_eq op
  by_cases hj : j ∈ ks
  · rw [if_pos hj, heq]
  · rw [if_neg hj]

theorem waiterDone_eq_false :
    s.waiterDone k = false ↔ ∃ op, s.operations[k]? = some op ∧ op.phase = .waiting := by
  unfold waiterDone
  cases s.operations[k]? with
  | none => simp
  | some op => simp

theorem holds_failFutures {ks : List ℕ} (j identifier : ℕ) :
    (s.failFutures ks).Holds j identifier ↔ s.Holds j identifier := by
  constructor
  · rintro ⟨op', hj, hidentifier, hlive⟩
    obtain ⟨op, future, hop, rfl, -⟩ := exists_of_failFutures hj
    exact ⟨op, hop, hidentifier, hlive⟩
  · rintro ⟨op, hop, hidentifier, hlive⟩
    refine ⟨_, getElem?_failFutures.mpr ⟨op, hop, rfl⟩, ?_⟩
    obtain ⟨future, heq, -⟩ := fail_eq op
    by_cases hj : j ∈ ks
    · rw [if_pos hj, heq]
      exact ⟨hidentifier, hlive⟩
    · rw [if_neg hj]
      exact ⟨hidentifier, hlive⟩

theorem Ok.failFutures (h : Ok fresh s) (ks : List ℕ) : Ok fresh (s.failFutures ks) where
  toBase := h.toBase.of_holds rfl rfl holds_failFutures (List.Subset.refl _) rfl
  operations := by
    intro j op' hj
    obtain ⟨op, future, hop, -, hok⟩ := exists_of_failFutures hj
    exact hok (h.operations j op hop)

/-- A waiting call is handed an identifier. -/
theorem Ok.hand (h : Ok fresh s) (hk : s.operations[k]? = some op) (hop : op.phase = .waiting)
    {identifier : ℕ} (hrange : 1 ≤ identifier ∧ identifier ≤ 0xffff) :
    Ok fresh (s.setPhase k (.handed identifier)) := by
  have hok := h.operations k op hk
  have hphase := hok.phase
  rw [hop] at hphase
  have hnone : op.identifier = none := hphase.1
  apply OkBut.ok ((h.but hk).modify (fun op => { op with phase := .handed identifier }) rfl
    fun hne => absurd hnone hne)
  exact ⟨hok.inRange, hok.result, hrange, hphase⟩

/-! ### Ends of calls -/

/-- `Base` after the call that holds an identifier ended and the identifier was released. -/
theorem OkBut.release_base (h : OkBut fresh s k op) {identifier : ℕ}
    (hidentifier : op.identifier = some identifier) (hlive : ¬ Ended op) (outcome : Outcome)
    (createFutures : List ℕ) :
    Base fresh { s.setPhase k (.ended outcome) with registry := { s.registry with
      identifierFutures := s.registry.identifierFutures.erase identifier
      createFutures := createFutures } } := by
  have hholds : ∀ j n, Holds { s.setPhase k (.ended outcome) with registry := { s.registry with
      identifierFutures := s.registry.identifierFutures.erase identifier
      createFutures := createFutures } } j n ↔ j ≠ k ∧ s.Holds j n := by
    intro j n
    constructor
    · rintro ⟨op', hj, hop', hlive'⟩
      rcases getElem?_modify_eq_some.mp hj with ⟨hkj, hj⟩ | ⟨rfl, op'', -, rfl⟩
      · exact ⟨Ne.symm hkj, op', hj, hop', hlive'⟩
      · exact absurd ⟨outcome, rfl⟩ hlive'
    · rintro ⟨hjk, op', hj, hop'⟩
      exact ⟨op', getElem?_modify_eq_some.mpr (.inl ⟨Ne.symm hjk, hj⟩), hop'⟩
  have hk : s.Holds k identifier := ⟨op, h.here, hidentifier, hlive⟩
  refine ⟨h.next_pos, h.next_le, ?_, fun hfresh => ?_⟩
  · intro n ks hks j hj
    have hne : n ≠ identifier := by
      rintro rfl
      rw [AList.lookup_erase] at hks
      cases hks
    rw [AList.lookup_erase_ne hne] at hks
    have hholdsj := h.queued n ks hks j hj
    refine (hholds j n).mpr ⟨?_, hholdsj⟩
    rintro rfl
    obtain ⟨op', hop', hn, -⟩ := hholdsj
    obtain rfl := Option.some.inj (h.here.symm.trans hop')
    exact hne (Option.some.inj (hn.symm.trans hidentifier))
  · have he := h.exclusive hfresh
    refine ⟨?_, ?_, ?_, he.matched⟩
    · intro j n hj
      obtain ⟨hjk, hheld⟩ := (hholds j n).mp hj
      refine AList.mem_erase.mpr ⟨?_, he.held j n hheld⟩
      rintro rfl
      exact hjk (he.unique j k n hheld hk)
    · intro i j n hi hj
      exact he.unique i j n ((hholds i n).mp hi).2 ((hholds j n).mp hj).2
    · intro sent hsent n hn j hj
      exact he.unanswered sent hsent n hn j ((hholds j n).mp hj).2

/-- A released identifier goes to a call that waits, if there is one. -/
theorem Ok.release (s : Client) {identifier : ℕ} (hrange : 1 ≤ identifier ∧ identifier ≤ 0xffff)
    (h : ∀ createFutures, Ok fresh { s with registry := { s.registry with
      identifierFutures := s.registry.identifierFutures.erase identifier
      createFutures := createFutures } }) : Ok fresh (s.release identifier) := by
  simp only [Client.release, IdentifierRegistry.releaseIdentifier]
  have hpending : ∀ j, (nextPending s.waiterDone s.registry.createFutures).1 = some j →
      s.waiterDone j = false := fun j hj => (nextPending_eq_some hj).2
  generalize nextPending s.waiterDone s.registry.createFutures = pending at hpending
  obtain ⟨call, createFutures⟩ := pending
  have hfailed := (h createFutures).failFutures
    ((s.registry.identifierFutures.lookup identifier).getD [])
  cases call with
  | none => exact hfailed
  | some j =>
    obtain ⟨waiter, hwaiter, hwaiting⟩ := waiterDone_eq_false.mp (hpending j rfl)
    obtain ⟨waiter', hwaiter', hphase⟩ := exists_failFutures hwaiter
    exact hfailed.hand hwaiter' (hphase.trans hwaiting) hrange

/-- A call ends and releases the identifier it has. -/
theorem OkBut.finish (h : OkBut fresh s k op) (hlive : ¬ Ended op) {outcome : Outcome}
    (hop : OperationOk s.maximumQos { op with phase := .ended outcome }) :
    Ok fresh (s.finish k outcome) := by
  have hhere : (s.setPhase k (.ended outcome)).operations[k]? =
      some { op with phase := .ended outcome } :=
    getElem?_modify_eq_some.mpr (.inr ⟨rfl, op, h.here, rfl⟩)
  have hothers : ∀ (j : ℕ) op', (s.setPhase k (.ended outcome)).operations[j]? = some op' →
      OperationOk s.maximumQos op' := by
    intro j op' hj
    rcases getElem?_modify_eq_some.mp hj with ⟨hkj, hj⟩ | ⟨rfl, op'', hop'', rfl⟩
    · exact h.others j op' (Ne.symm hkj) hj
    · obtain rfl := Option.some.inj (h.here.symm.trans hop'')
      exact hop
  simp only [Client.finish]
  rw [hhere, Option.bind_some]
  cases hidentifier : op.identifier with
  | none =>
    exact (h.modify (fun op => { op with phase := .ended outcome }) rfl
      fun hne => absurd hidentifier hne).ok hop
  | some identifier =>
    exact Ok.release (s.setPhase k (.ended outcome)) (hop.inRange identifier hidentifier)
      fun createFutures => ⟨h.release_base hidentifier hlive outcome createFutures, hothers⟩

end Client

end HatDrivers.Mqtt
