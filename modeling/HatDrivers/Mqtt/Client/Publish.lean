import HatDrivers.Mqtt.Client.Matching
import HatDrivers.Mqtt.Transport.Publish

namespace HatDrivers.Mqtt

open HatDrivers.Lib HatDrivers.Mqtt.Transport

/-!
# MQTT — the handshake of a message

A call of `publish` allocates an identifier and takes acknowledgements by the quality of
service of the message, but its PUBLISH packet is sent with the maximum that the server
supports.  The two agree only for messages of that maximum.
-/

/-- The documented ranges of the fields, in a message that the fixed header can hold. -/
structure Msg.WellFormed (msg : Msg) : Prop where
  topic : ValidString msg.topic
  messageExpiryInterval : ∀ n ∈ msg.messageExpiryInterval, ValidUint 0xffff_ffff n
  responseTopic : ∀ s ∈ msg.responseTopic, ValidString s
  correlationData : ∀ bs ∈ msg.correlationData, ValidBinary bs
  userProperties : ValidPairs msg.userProperties
  contentType : ∀ s ∈ msg.contentType, ValidString s
  size : (publishPacket msg.qos msg none).size ≤ 0x0fff_ffff

/-- Nothing but the handshake of `msg` was exchanged, under `identifier`, and all of it if the
call returned.  A call that raised without having sent the PUBLISH packet lost its connection. -/
structure PublishedAs (msg : Msg) (identifier : Option ℕ) (op : Operation) : Prop where
  identified : identifier.isSome ↔ msg.qos ≠ .AT_MOST_ONCE
  steps : op.exchange.map stepOf <+: publishHandshake msg.qos msg.qos identifier
  complete : ∀ reasons, op.phase = .ended (.returned reasons) →
    op.exchange.map stepOf = publishHandshake msg.qos msg.qos identifier
  unsent : ∀ failure, op.phase = .ended (.raised failure) → op.exchange = [] →
    failure = .connectionError

variable {maximumQos : QoS} {msg : Msg}

/-! ### Messages of the maximum quality of service -/

theorem publishPacket_wellFormed (h : msg.WellFormed) {identifier : Option ℕ}
    (hidentified : identifier.isSome ↔ msg.qos ≠ .AT_MOST_ONCE)
    (hrange : ∀ n ∈ identifier, 1 ≤ n ∧ n ≤ 0xffff) :
    (publishPacket msg.qos msg identifier).WellFormed where
  topicName := h.topic
  identified := hidentified
  packetIdentifier := fun n hn => (hrange n hn).2
  messageExpiryInterval := h.messageExpiryInterval
  topicAlias := nofun
  responseTopic := h.responseTopic
  correlationData := h.correlationData
  userProperties := h.userProperties
  subscriptionIdentifiers := nofun
  contentType := h.contentType

/-- The packet of a message can be encoded. -/
theorem exists_encodePacket (h : msg.WellFormed) {identifier : Option ℕ}
    (hidentified : identifier.isSome ↔ msg.qos ≠ .AT_MOST_ONCE)
    (hrange : ∀ n ∈ identifier, 1 ≤ n ∧ n ≤ 0xffff) :
    ∃ bs, encodePacket (requestPacket msg.qos identifier (.publish msg)) = .ok bs := by
  have hwellFormed := publishPacket_wellFormed h hidentified hrange
  obtain ⟨bs, hbs, -⟩ := (publish_roundTrips_iff hwellFormed h.size).mpr rfl
  exact ⟨bs, hbs⟩

namespace Client

variable {s : Client} {k : ℕ} {op : Operation}

/-- After every run, whatever the other calls, a call that publishes `msg` is in its handshake. -/
def AlwaysPublished (maximumQos : QoS) (msg : Msg) : Prop :=
  ∀ (es : List Event) (s : Client) (k : ℕ) (op : Operation),
    run step (init maximumQos) es = some s → s.operations[k]? = some op →
      op.request = .publish msg → ∃ identifier, PublishedAs msg identifier op

theorem run_maximumQos {es : List Event} (hrun : run step (init maximumQos) es = some s) :
    s.maximumQos = maximumQos := by
  have hstep : ∀ (s : Client) e s', s.maximumQos = maximumQos → True → step s e = some s' →
      s'.maximumQos = maximumQos := fun _ _ _ h _ hs => (step_maximumQos hs).trans h
  exact run_invariant (fun s => s.maximumQos = maximumQos) hstep rfl (along_true es) hrun

/-- How far a call is, whatever its phase. -/
theorem OperationOk.followed (h : OperationOk maximumQos op) : Followed maximumQos op := by
  have hphase := h.phase
  cases hop : op.phase with
  | calling => rw [hop] at hphase; exact .of_nil hphase.2.1
  | putting => rw [hop] at hphase; exact .of_nil hphase.2.1
  | waiting => rw [hop] at hphase; exact .of_nil hphase.2.1
  | failing => rw [hop] at hphase; exact .of_nil hphase.2.1
  | handed identifier => rw [hop] at hphase; exact .of_nil hphase.2.2.1
  | sending packet => rw [hop] at hphase; exact .of_stage hphase
  | awaiting packet =>
    rw [hop] at hphase
    obtain ⟨before, hexchange, hstage⟩ := hphase
    exact .of_sent hstage hexchange
  | ended outcome =>
    rw [hop] at hphase
    exact Ending.followed hphase

theorem OperationOk.ending (h : OperationOk maximumQos op) {outcome : Outcome}
    (hop : op.phase = .ended outcome) : Ending maximumQos op outcome := by
  have hphase := h.phase
  rw [hop] at hphase
  exact hphase

/-- A call that ended without having sent a packet lost its connection. -/
theorem OperationOk.connectionError (h : OperationOk msg.qos op) (hmsg : msg.WellFormed)
    (hrequest : op.request = .publish msg) {failure : Failure}
    (hop : op.phase = .ended (.raised failure)) (hexchange : op.exchange = []) :
    failure = .connectionError := by
  have hunsent := (h.ending hop).unsent failure rfl hexchange
  rw [hrequest] at hunsent
  cases hunsent with
  | closed => rfl
  | refused msg' failure hmsg' hqos =>
    obtain rfl := Request.publish.inj hmsg'
    exact absurd hqos (Nat.lt_irrefl _)
  | encoding e hidentified he =>
    obtain ⟨bs, hbs⟩ := exists_encodePacket hmsg hidentified h.inRange
    rw [hbs] at he
    cases he

theorem OperationOk.publishedAs (h : OperationOk msg.qos op) (hmsg : msg.WellFormed)
    (hrequest : op.request = .publish msg) : ∃ identifier, PublishedAs msg identifier op := by
  have hunsent : ∀ failure, op.phase = .ended (.raised failure) → op.exchange = [] →
      failure = .connectionError := fun failure => h.connectionError hmsg hrequest
  by_cases hexchange : op.exchange = []
  · -- no packet was sent, and the handshake may be under any identifier
    refine ⟨if msg.qos = .AT_MOST_ONCE then none else some 1, ?_, ?_, ?_, hunsent⟩
    · by_cases hqos : msg.qos = .AT_MOST_ONCE <;> simp [hqos]
    · rw [hexchange]
      exact List.nil_prefix
    · intro reasons hop
      have hcomplete := (h.ending hop).complete reasons rfl
      rw [hexchange, hrequest] at hcomplete
      cases hqos : msg.qos <;> simp [handshake, publishHandshake, hqos] at hcomplete
  · have hidentified := h.followed.identified hexchange
    have hsteps := h.followed.steps
    rw [hrequest] at hidentified hsteps
    refine ⟨op.identifier, hidentified, hsteps, ?_, hunsent⟩
    intro reasons hop
    have hcomplete := (h.ending hop).complete reasons rfl
    rw [hrequest] at hcomplete
    exact hcomplete

/-! ### Other messages -/

theorem failFutures_here (hk : s.operations[k]? = some op) (ks : List ℕ) :
    ∃ future, (s.failFutures ks).operations[k]? = some { op with future := future } := by
  by_cases hks : k ∈ ks
  · obtain ⟨future, heq, -⟩ := fail_eq op
    refine ⟨future, getElem?_failFutures.mpr ⟨op, hk, ?_⟩⟩
    rw [if_pos hks, heq]
  · refine ⟨op.future, getElem?_failFutures.mpr ⟨op, hk, ?_⟩⟩
    rw [if_neg hks]

/-- An identifier that is released goes to a call that waits, and to no other. -/
theorem release_here (hk : s.operations[k]? = some op) (hop : op.phase ≠ .waiting)
    (identifier : ℕ) :
    ∃ future, (s.release identifier).operations[k]? = some { op with future := future } := by
  simp only [release, IdentifierRegistry.releaseIdentifier]
  have hpending : ∀ j, (nextPending s.waiterDone s.registry.createFutures).1 = some j →
      s.waiterDone j = false := fun j hj => (nextPending_eq_some hj).2
  generalize nextPending s.waiterDone s.registry.createFutures = pending at hpending
  obtain ⟨call, createFutures⟩ := pending
  have hfailed := fun ks registry => failFutures_here (s := { s with registry := registry }) hk ks
  cases call with
  | none => exact hfailed _ _
  | some j =>
    obtain ⟨future, hfuture⟩ := hfailed
      ((s.registry.identifierFutures.lookup identifier).getD []) _
    refine ⟨future, getElem?_modify_eq_some.mpr (.inl ⟨?_, hfuture⟩)⟩
    rintro rfl
    obtain ⟨op', hop', hwaiting⟩ := waiterDone_eq_false.mp (hpending j rfl)
    obtain rfl := Option.some.inj (hk.symm.trans hop')
    exact hop hwaiting

theorem finish_eq (s : Client) (k : ℕ) (outcome : Outcome) :
    s.finish k outcome = s.setPhase k (.ended outcome) ∨
      ∃ identifier, s.finish k outcome = (s.setPhase k (.ended outcome)).release identifier := by
  simp only [finish]
  cases (s.setPhase k (.ended outcome)).operations[k]?.bind (·.identifier) with
  | none => exact .inl rfl
  | some identifier => exact .inr ⟨identifier, rfl⟩

theorem finish_here (hk : s.operations[k]? = some op) (outcome : Outcome) :
    ∃ future, (s.finish k outcome).operations[k]? =
      some { op with phase := .ended outcome, future := future } := by
  have hhere : (s.setPhase k (.ended outcome)).operations[k]? =
      some { op with phase := .ended outcome } :=
    getElem?_modify_eq_some.mpr (.inr ⟨rfl, op, hk, rfl⟩)
  rcases finish_eq s k outcome with hfinish | ⟨identifier, hfinish⟩
  · rw [hfinish]
    exact ⟨op.future, hhere⟩
  · rw [hfinish]
    exact release_here hhere nofun identifier

/-- The packet of a call is written, if it can be encoded. -/
theorem send_here (hk : s.operations[k]? = some op) (packet : Packet) :
    (∃ e future, (s.send k packet).operations[k]? =
      some { op with phase := .ended (.raised (.encoding e)), future := future }) ∨
    ∃ s', (s.send k packet).step (.written k) = some s' ∧ s'.operations[k]? =
      some { op with phase := .awaiting packet, exchange := op.exchange ++ [packet] } := by
  unfold send
  cases encodePacket packet with
  | error e =>
    obtain ⟨future, hfuture⟩ := finish_here hk (.raised (.encoding e))
    exact .inl ⟨e, future, hfuture⟩
  | ok bs =>
    have hsending : (s.setPhase k (.sending packet)).operations[k]? =
        some { op with phase := .sending packet } :=
      getElem?_modify_eq_some.mpr (.inr ⟨rfl, op, hk, rfl⟩)
    refine .inr ⟨(s.setPhase k (.sending packet)).write k packet, ?_, ?_⟩
    · show ((s.setPhase k (.sending packet)).operations[k]?).bind _ = _
      rw [hsending]
      rfl
    · have hwritten := getElem?_modify_eq_some (f := fun op : Operation =>
        { op with phase := .awaiting packet, exchange := op.exchange ++ [packet] })
        |>.mpr (.inr ⟨rfl, _, hsending, rfl⟩)
      simp only [write]
      split
      · exact hwritten
      · exact hwritten

/-- The first call of a client need not wait for an identifier. -/
theorem first_call (hqos : msg.qos.value ≤ maximumQos.value) :
    ∃ (s : Client) (identifier : Option ℕ) (op : Operation),
      step (init maximumQos) (.call (.publish msg)) =
        some (s.send 0 (requestPacket maximumQos identifier (.publish msg))) ∧
      s.operations[0]? = some op ∧ op.request = .publish msg ∧ op.exchange = [] := by
  simp only [step, call]
  rw [if_neg (show ¬ msg.qos.value > (init maximumQos).maximumQos.value from Nat.not_lt.mpr hqos)]
  by_cases hmost : msg.qos = .AT_MOST_ONCE
  · rw [if_pos hmost]
    exact ⟨_, none, .new (.publish msg), rfl, rfl, rfl, rfl⟩
  · rw [if_neg hmost]
    exact ⟨_, some 1, _, rfl, rfl, rfl, rfl⟩

/-- **A message is published by its handshake** in every run, whatever the other calls, iff its
quality of service is the maximum of the server. -/
theorem published_iff (hmsg : msg.WellFormed) (hqos : msg.qos.value ≤ maximumQos.value) :
    AlwaysPublished maximumQos msg ↔ msg.qos = maximumQos := by
  constructor
  · intro h
    obtain ⟨s, identifier, op, hcall, hop, hrequest, hexchange⟩ := first_call hqos
    rcases send_here hop (requestPacket maximumQos identifier (.publish msg)) with
      ⟨e, future, hended⟩ | ⟨s', hwritten, hawaiting⟩
    · -- the packet of another quality of service cannot be encoded
      obtain ⟨identifier', hpublished⟩ := h [.call (.publish msg)] _ 0 _
        (run_cons_eq_some.mpr ⟨_, hcall, rfl⟩) hended hrequest
      cases hpublished.unsent _ rfl hexchange
    · -- it was written
      obtain ⟨identifier', hpublished⟩ := h [.call (.publish msg), .written 0] s' 0 _
        (run_cons_eq_some.mpr ⟨_, hcall, run_cons_eq_some.mpr ⟨_, hwritten, rfl⟩⟩) hawaiting
        hrequest
      have hsteps := hpublished.steps
      rw [hexchange] at hsteps
      have hhead : ∃ rest, publishHandshake msg.qos msg.qos identifier' =
          .publish msg.qos identifier' :: rest := by
        cases msg.qos <;> exact ⟨_, rfl⟩
      obtain ⟨rest, hrest⟩ := hhead
      rw [hrest] at hsteps
      have hstep := (List.cons_prefix_cons.mp hsteps).1
      exact (Step.publish.inj hstep).1.symm
  · rintro rfl es s k op hrun hop hrequest
    have hok := (ok_of_run hrun).operations k op hop
    rw [run_maximumQos hrun] at hok
    exact hok.publishedAs hmsg hrequest

theorem sampleMsg_published :
    AlwaysPublished .EXACLTY_ONCE (sampleMsg .EXACLTY_ONCE) ↔ QoS.EXACLTY_ONCE = .EXACLTY_ONCE :=
  published_iff ⟨by decide, nofun, nofun, nofun, by decide, nofun, by decide⟩ (by decide)

/-- A message of the lowest quality of service to a server that supports the highest: the call
raises and no packet is sent.  A message of the middle one: PUBLISH asks for PUBREC, and the
call takes it for an invalid answer and closes the client. -/
theorem higherMaximum_not_published :
    (∃ s op, run step (init .EXACLTY_ONCE) [.call (.publish (sampleMsg .AT_MOST_ONCE))] = some s ∧
      s.operations = [op] ∧ op.exchange = [] ∧
      op.phase = .ended (.raised (.encoding (.exn (.exception "invalid packet identifier")))) ∧
      ∀ identifier, ¬ PublishedAs (sampleMsg .AT_MOST_ONCE) identifier op) ∧
    ∃ s op, run step (init .EXACLTY_ONCE) [.call (.publish (sampleMsg .AT_LEAST_ONCE)), .written 0,
        .acknowledge 0 (.pubrec ⟨1, .SUCCESS, none, []⟩), .resume 0] = some s ∧
      s.operations = [op] ∧ op.exchange.map stepOf = [.publish .EXACLTY_ONCE (some 1)] ∧
      op.phase = .ended (.raised .connectionError) ∧ s.registry.isOpen = false ∧
      ∀ identifier, ¬ PublishedAs (sampleMsg .AT_LEAST_ONCE) identifier op := by
  refine ⟨⟨_, _, rfl, rfl, rfl, rfl, ?_⟩, _, _, rfl, rfl, rfl, rfl, rfl, ?_⟩
  · intro identifier h
    cases h.unsent _ rfl rfl
  · intro identifier h
    cases (List.cons_prefix_cons.mp h.steps).1

end Client

end HatDrivers.Mqtt
