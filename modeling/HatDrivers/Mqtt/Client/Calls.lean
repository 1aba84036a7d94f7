import HatDrivers.Mqtt.Client.Invariant

namespace HatDrivers.Mqtt

open HatDrivers.Lib HatDrivers.Mqtt.Transport

/-!
# MQTT — the calls of a client

From the start of a call to the packet it sends: its identifier, its future and `send` keep
the invariant.
-/

namespace Client

variable {fresh : Prop} {s s' : Client} {k : ℕ} {op : Operation} {maximumQos : QoS}
  {identifier : ℕ} {sent res : Packet} {before : List Packet}

/-! ### Steps of a call -/

/-- The parts of the invariant of a call that its phase does not change. -/
structure Sound (op : Operation) : Prop where
  inRange : ∀ identifier ∈ op.identifier, 1 ≤ identifier ∧ identifier ≤ 0xffff
  result : ∀ res, op.future = some (.result res) →
    ∃ identifier, acknowledgedIdentifier res = some identifier ∧ op.identifier = some identifier
  live : ¬ Ended op

theorem OperationOk.sound (h : OperationOk maximumQos op) (hlive : ¬ Ended op) : Sound op :=
  ⟨h.inRange, h.result, hlive⟩

/-- A call goes over to a phase in which it has not ended. -/
theorem OkBut.setPhase (h : OkBut fresh s k op) (hop : Sound op) {phase : Phase}
    (hphase : PhaseOk s.maximumQos { op with phase := phase } phase)
    (hlive : ∀ outcome, phase ≠ .ended outcome) : Ok fresh (s.setPhase k phase) := by
  apply (h.modify (fun op => { op with phase := phase }) rfl fun _ => ?_).ok
  · exact ⟨hop.inRange, hop.result, hphase⟩
  · constructor
    · rintro ⟨outcome, houtcome⟩
      exact absurd houtcome (hlive outcome)
    · exact fun hended => absurd hended hop.live

/-- A call raises an exception in the middle of its handshake. -/
theorem OkBut.raise (h : OkBut fresh s k op) (hop : Sound op) {failure : Failure}
    (hfollowed : Followed s.maximumQos op)
    (hunsent : op.exchange = [] → Unsent s.maximumQos op.request op.identifier failure) :
    Ok fresh (s.finish k (.raised failure)) := by
  refine h.finish hop.live ⟨hop.inRange, hop.result,
    ⟨⟨hfollowed.steps, hfollowed.identified⟩, nofun, ?_⟩⟩
  intro failure' hfailure hexchange
  obtain rfl := Outcome.raised.inj hfailure
  exact hunsent hexchange

theorem OkBut.send (h : OkBut fresh s k op) (hop : Sound op)
    (hstage : Stage s.maximumQos op.request op.identifier sent op.exchange) :
    Ok fresh (s.send k sent) := by
  unfold Client.send
  cases hencoded : encodePacket sent with
  | ok bs => exact h.setPhase hop hstage nofun
  | error e =>
    apply h.raise hop (.of_stage hstage)
    intro hexchange
    rw [hexchange] at hstage
    obtain ⟨rfl, hidentified⟩ := hstage.of_nil
    exact .encoding e hidentified hencoded

/-- The future of a call joins those of its identifier. -/
theorem OkBut.createFuture (h : OkBut fresh s k op) (hlive : ¬ Ended op)
    (hidentifier : op.identifier = some identifier) {registry : IdentifierRegistry}
    (hregistry : s.registry.createFuture identifier k = some registry) :
    OkBut fresh { s with registry := registry } k op := by
  obtain ⟨ks, hks, rfl⟩ := Option.map_eq_some_iff.mp hregistry
  have hk : s.Holds k identifier := ⟨op, h.here, hidentifier, hlive⟩
  refine ⟨⟨h.next_pos, h.next_le, ?_, fun hfresh => ?_⟩, h.here, h.others⟩
  · intro n ks' hks' j hj
    show s.Holds j n
    by_cases hn : n = identifier
    · subst hn
      rw [AList.lookup_insert] at hks'
      obtain rfl := Option.some.inj hks'
      rcases List.mem_append.mp hj with hj | hj
      · exact h.queued n ks hks j hj
      · obtain rfl := List.mem_singleton.mp hj
        exact hk
    · rw [AList.lookup_insert_ne hn] at hks'
      exact h.queued n ks' hks' j hj
  · have he := h.exclusive hfresh
    exact ⟨fun j n hj => (AList.mem_insert _).mpr (.inr (he.held j n hj)), he.unique,
      he.unanswered, he.matched⟩

theorem OkBut.request (h : OkBut fresh s k op) (hop : Sound op)
    (hidentifier : op.identifier = some identifier)
    (hstage : Stage s.maximumQos op.request op.identifier sent op.exchange)
    (hmem : op.exchange = [] → identifier ∈ s.registry.identifierFutures) :
    Ok fresh (s.request k identifier sent) := by
  have hfollowed := Followed.of_stage hstage
  unfold Client.request
  by_cases hopen : s.registry.isOpen
  · rw [if_neg (by simpa using hopen)]
    cases hregistry : s.registry.createFuture identifier k with
    | none =>
      apply h.raise hop hfollowed
      intro hexchange
      have hnone := Option.map_eq_none_iff.mp hregistry
      exact absurd (hmem hexchange) (AList.lookup_eq_none.mp hnone)
    | some registry =>
      have hcreated := (h.createFuture hop.live hidentifier hregistry).modify
        (fun op => { op with future := some .pending }) rfl fun _ => Iff.rfl
      refine hcreated.send ⟨hop.inRange, ?_, hop.live⟩ hstage
      intro res hres
      cases hres
  · rw [if_pos hopen]
    exact h.raise hop hfollowed fun _ => .closed

/-- An identifier that no call holds and under which no acknowledgement is to come. -/
def Unused (s : Client) (identifier : ℕ) : Prop :=
  identifier ∉ s.registry.identifierFutures ∧
    ∀ sent ∈ s.unanswered, expectedIdentifier sent.packet ≠ some identifier

/-- A call without an identifier takes one. -/
theorem OkBut.register (h : OkBut fresh s k op) (hlive : ¬ Ended op) (hnone : op.identifier = none)
    {next : ℕ} (hnext : 1 ≤ next ∧ next ≤ 0xffff) (hunused : fresh → s.Unused identifier) :
    OkBut fresh
      ({ s with registry := { s.registry with nextIdentifier := next }.register identifier }.modify
        k fun op => { op with identifier := some identifier })
      k { op with identifier := some identifier } := by
  have hholds : ∀ j n,
      Holds ({ s with registry := { s.registry with nextIdentifier := next }.register identifier
        }.modify k fun op => { op with identifier := some identifier }) j n ↔
      s.Holds j n ∨ j = k ∧ n = identifier := by
    intro j n
    constructor
    · rintro ⟨op', hj, hop', hlive'⟩
      rcases getElem?_modify_eq_some.mp hj with ⟨-, hj⟩ | ⟨rfl, op'', -, rfl⟩
      · exact .inl ⟨op', hj, hop', hlive'⟩
      · exact .inr ⟨rfl, (Option.some.inj hop').symm⟩
    · rintro (⟨op', hj, hop', hlive'⟩ | ⟨rfl, rfl⟩)
      · refine ⟨op', getElem?_modify_eq_some.mpr (.inl ⟨?_, hj⟩), hop', hlive'⟩
        rintro rfl
        obtain rfl := Option.some.inj (h.here.symm.trans hj)
        rw [hnone] at hop'
        cases hop'
      · exact ⟨_, getElem?_modify_eq_some.mpr (.inr ⟨rfl, op, h.here, rfl⟩), rfl, hlive⟩
  refine ⟨⟨hnext.1, hnext.2, ?_, fun hfresh => ?_⟩,
    getElem?_modify_eq_some.mpr (.inr ⟨rfl, op, h.here, rfl⟩), ?_⟩
  · intro n ks hks j hj
    by_cases hn : n = identifier
    · subst hn
      have hempty := hks.symm.trans (AList.lookup_insert s.registry.identifierFutures)
      obtain rfl := Option.some.inj hempty
      cases hj
    · have hold := (AList.lookup_insert_ne hn).symm.trans hks
      exact (hholds j n).mpr (.inl (h.queued n ks hold j hj))
  · have he := h.exclusive hfresh
    obtain ⟨hfree, hunanswered⟩ := hunused hfresh
    have hnew : ∀ j, ¬ s.Holds j identifier := fun j hj => hfree (he.held j identifier hj)
    refine ⟨?_, ?_, ?_, he.matched⟩
    · intro j n hj
      rcases (hholds j n).mp hj with hj | ⟨-, rfl⟩
      · exact (AList.mem_insert _).mpr (.inr (he.held j n hj))
      · exact (AList.mem_insert _).mpr (.inl rfl)
    · intro i j n hi hj
      rcases (hholds i n).mp hi with hold | ⟨rfl, rfl⟩
      · rcases (hholds j n).mp hj with hold' | ⟨-, rfl⟩
        · exact he.unique i j n hold hold'
        · exact absurd hold (hnew i)
      · rcases (hholds j n).mp hj with hold' | ⟨rfl, -⟩
        · exact absurd hold' (hnew j)
        · rfl
    · intro sent hsent n hn j hj
      rcases (hholds j n).mp hj with hj | ⟨-, rfl⟩
      · exact he.unanswered sent hsent n hn j hj
      · exact absurd hn (hunanswered sent hsent)
  · intro j op' hjk hj
    rcases getElem?_modify_eq_some.mp hj with ⟨-, hj⟩ | ⟨rfl, -⟩
    · exact h.others j op' hjk hj
    · exact absurd rfl hjk

/-- A call before it has an identifier. -/
structure Early (op : Operation) : Prop where
  identifier : op.identifier = none
  exchange : op.exchange = []
  result : ∀ res, op.future ≠ some (.result res)
  identified : op.request.Identified
  live : ¬ Ended op

theorem Early.sound (h : Early op) : Sound op where
  inRange := by simp [h.identifier]
  result := fun res hres => absurd hres (h.result res)
  live := h.live

/-- A call that has no identifier ends. -/
theorem OkBut.stop (h : OkBut fresh s k op) (hnone : op.identifier = none)
    (hexchange : op.exchange = []) (hresult : ∀ res, op.future ≠ some (.result res))
    {outcome : Outcome} (hreturned : ∀ reasons, outcome ≠ .returned reasons)
    (hunsent : ∀ failure, outcome = .raised failure →
      Unsent s.maximumQos op.request op.identifier failure) :
    Ok fresh (s.setPhase k (.ended outcome)) := by
  apply (h.modify (fun op => { op with phase := .ended outcome }) rfl
    fun hne => absurd hnone hne).ok
  refine ⟨by simp [hnone], fun res hres => absurd hres (hresult res), .of_nil hexchange, ?_, ?_⟩
  · exact fun reasons hreasons => absurd hreasons (hreturned reasons)
  · exact fun failure hfailure _ => hunsent failure hfailure

/-- A call that has no identifier yet finds the registry closed. -/
theorem OkBut.fail (h : OkBut fresh s k op) (hop : Early op) :
    Ok fresh (s.fail k .connectionError) := by
  apply h.stop hop.identifier hop.exchange hop.result
  · intro reasons hreasons
    cases hreasons
  · intro failure hfailure
    obtain rfl := Outcome.raised.inj hfailure
    exact .closed

theorem OkBut.start (h : OkBut fresh s k op) (hop : Early op)
    (hrange : 1 ≤ identifier ∧ identifier ≤ 0xffff) {next : ℕ} (hnext : 1 ≤ next ∧ next ≤ 0xffff)
    (hunused : fresh → s.Unused identifier) :
    Ok fresh ({ s with registry := { s.registry with nextIdentifier := next }.register identifier
      }.start k identifier op.request) := by
  have hregistered := h.register hop.live hop.identifier hnext hunused
  have hsound : Sound { op with identifier := some identifier } := by
    refine ⟨?_, fun res hres => absurd hres (hop.result res), hop.live⟩
    intro n hn
    obtain rfl := Option.some.inj hn
    exact hrange
  have hstage : Stage s.maximumQos op.request (some identifier)
      (requestPacket s.maximumQos (some identifier) op.request) op.exchange := by
    rw [hop.exchange]
    exact .first _ _ (iff_of_true rfl hop.identified)
  exact hregistered.request hsound rfl hstage fun _ => (AList.mem_insert _).mpr (.inl rfl)

/-- A call is suspended before it has an identifier; only its queue changes in the registry. -/
theorem OkBut.suspend (h : OkBut fresh s k op) (hop : Early op) {phase : Phase}
    (hphase : phase = .putting ∨ phase = .waiting) (createFutures : List ℕ) :
    Ok fresh ({ s with registry := { s.registry with createFutures := createFutures }
      }.setPhase k phase) := by
  have hqueued : OkBut fresh { s with registry := { s.registry with
      createFutures := createFutures } } k op :=
    ⟨h.toBase.of_holds rfl rfl (fun _ _ => Iff.rfl) (List.Subset.refl _) rfl, h.here, h.others⟩
  apply hqueued.setPhase hop.sound
  · rcases hphase with rfl | rfl
    · exact ⟨hop.identifier, hop.exchange, hop.identified⟩
    · exact ⟨hop.identifier, hop.exchange, hop.identified⟩
  · intro outcome
    rcases hphase with rfl | rfl <;> intro hended <;> cases hended

theorem OkBut.allocate (h : OkBut fresh s k op) (hop : Early op)
    (hunused : fresh → ∀ identifier registry,
      s.registry.allocateIdentifier = .identifier identifier registry → s.Unused identifier) :
    Ok fresh (s.allocate k op.request) := by
  unfold Client.allocate
  cases hallocate : s.registry.allocateIdentifier with
  | connectionError => exact h.fail hop
  | unavailable =>
    exact absurd hallocate
      (IdentifierRegistry.allocateIdentifier_ne_unavailable h.next_pos h.next_le)
  | identifier identifier registry =>
    obtain ⟨hfree, rfl⟩ := IdentifierRegistry.allocateIdentifier_eq_identifier hallocate
    have hrange := (IdentifierRegistry.getFreeIdentifier_eq_some h.next_pos h.next_le hfree).2
    exact h.start hop hrange hrange fun hfresh => hunused hfresh identifier _ hallocate
  | waits =>
    cases hput : s.registry.put k with
    | closed => exact h.fail hop
    | full => exact h.suspend hop (.inl rfl) s.registry.createFutures
    | done registry =>
      obtain rfl := IdentifierRegistry.put_eq_done hput
      exact h.suspend hop (.inr rfl) _

/-- A new call, before it does anything. -/
theorem Ok.newCall (h : Ok fresh s) (request : Request) :
    OkBut fresh { s with operations := s.operations ++ [.new request] }
      s.operations.length (.new request) where
  toBase := by
    refine h.toBase.of_holds rfl rfl ?_ (List.Subset.refl _) rfl
    intro k identifier
    constructor
    · rintro ⟨op, hop, hidentifier, hlive⟩
      rcases getElem?_concat_eq_some.mp hop with hop | ⟨-, rfl⟩
      · exact ⟨op, hop, hidentifier, hlive⟩
      · cases hidentifier
    · rintro ⟨op, hop, hidentifier, hlive⟩
      exact ⟨op, getElem?_concat_eq_some.mpr (.inl hop), hidentifier, hlive⟩
  here := getElem?_concat_eq_some.mpr (.inr ⟨rfl, rfl⟩)
  others := by
    intro j op hj hop
    rcases getElem?_concat_eq_some.mp hop with hop | ⟨rfl, -⟩
    · exact h.operations j op hop
    · exact absurd rfl hj

/-- A new call has sent nothing and waits for nothing. -/
theorem Sound.new (request : Request) : Sound (.new request) where
  inRange := nofun
  result := by
    intro res hres
    cases hres
  live := by
    rintro ⟨outcome, houtcome⟩
    cases houtcome

theorem Early.new {request : Request} (h : request.Identified) : Early (.new request) where
  identifier := rfl
  exchange := rfl
  result := by
    intro res hres
    cases hres
  identified := h
  live := (Sound.new request).live

theorem Ok.call (h : Ok fresh s) (request : Request)
    (hunused : fresh → request.Allocates s.maximumQos → ∀ identifier registry,
      s.registry.allocateIdentifier = .identifier identifier registry → s.Unused identifier) :
    Ok fresh (s.call request) := by
  have hnew := h.newCall request
  cases request with
  | publish msg =>
    simp only [Client.call]
    by_cases hmaximum : msg.qos.value > s.maximumQos.value
    · rw [if_pos hmaximum]
      apply hnew.stop rfl rfl
      · intro res hres
        cases hres
      · intro reasons hreasons
        cases hreasons
      · intro failure _
        exact .refused msg failure rfl hmaximum
    · rw [if_neg hmaximum]
      by_cases hqos : msg.qos = .AT_MOST_ONCE
      · rw [if_pos hqos]
        apply hnew.send (Sound.new _)
        exact .first _ _ (iff_of_false nofun fun hidentified => hidentified hqos)
      · rw [if_neg hqos]
        have hallocates : (Request.publish msg).Allocates s.maximumQos :=
          ⟨hqos, Nat.le_of_not_lt hmaximum⟩
        exact hnew.allocate (Early.new hqos) fun hfresh => hunused hfresh hallocates
  | subscribe subscriptions =>
    exact hnew.allocate (Early.new trivial) fun hfresh => hunused hfresh trivial
  | unsubscribe topicFilters =>
    exact hnew.allocate (Early.new trivial) fun hfresh => hunused hfresh trivial

end Client

end HatDrivers.Mqtt
