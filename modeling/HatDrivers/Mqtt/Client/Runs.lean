import HatDrivers.Mqtt.Client.Calls

namespace HatDrivers.Mqtt

open HatDrivers.Lib HatDrivers.Mqtt.Transport

/-!
# MQTT — runs of a client

Suspended calls that go on or are cancelled, acknowledgements and the closing of the client
keep the invariant, so that it holds after every run.
-/

namespace Client

variable {fresh : Prop} {s s' : Client} {k : ℕ} {op : Operation} {maximumQos : QoS}
  {identifier : ℕ} {sent res : Packet} {before : List Packet}

/-! ### Steps of a suspended call -/

theorem OperationOk.early (h : OperationOk maximumQos op)
    (hearly : op.identifier = none ∧ op.exchange = [] ∧ op.request.Identified)
    (hlive : ¬ Ended op) : Early op where
  identifier := hearly.1
  exchange := hearly.2.1
  result := by
    intro res hres
    obtain ⟨identifier, -, hidentifier⟩ := h.result res hres
    rw [hearly.1] at hidentifier
    cases hidentifier
  identified := hearly.2.2
  live := hlive

theorem not_ended {phase : Phase} (hphase : op.phase = phase)
    (hne : ∀ outcome, phase ≠ .ended outcome) : ¬ Ended op := by
  rintro ⟨outcome, houtcome⟩
  exact hne outcome (hphase.symm.trans houtcome)

/-- A call is cancelled in the middle of its handshake. -/
theorem OkBut.cancelled (h : OkBut fresh s k op) (hop : Sound op)
    (hfollowed : Followed s.maximumQos op) : Ok fresh (s.finish k .cancelled) :=
  h.finish hop.live ⟨hop.inRange, hop.result, ⟨hfollowed.steps, hfollowed.identified⟩, nofun,
    nofun⟩

/-- The registry is closed. -/
theorem OkBut.close (h : OkBut fresh s k op) : OkBut fresh s.close k op where
  toBase := h.toBase.of_holds rfl rfl (fun _ _ => Iff.rfl) (List.Subset.refl _) rfl
  here := h.here
  others := h.others

theorem Ok.put (h : Ok fresh s) (hk : s.operations[k]? = some op) (hstep : s.put k op = some s') :
    Ok fresh s' := by
  have hok := h.operations k op hk
  have hphase := hok.phase
  unfold Client.put at hstep
  cases hop : op.phase with
  | putting =>
    rw [hop] at hstep hphase
    have hearly := hok.early hphase (not_ended hop nofun)
    cases hput : s.registry.put k with
    | closed =>
      rw [hput] at hstep
      obtain rfl := Option.some.inj hstep
      exact (h.but hk).fail hearly
    | full =>
      rw [hput] at hstep
      cases hstep
    | done registry =>
      rw [hput] at hstep
      obtain rfl := Option.some.inj hstep
      obtain rfl := IdentifierRegistry.put_eq_done hput
      exact (h.but hk).suspend hearly (.inr rfl) _
  | _ =>
    rw [hop] at hstep
    cases hstep

/-- A call takes the acknowledgement of the packet it sent last. -/
theorem Ok.take (h : Ok fresh s) (hk : s.operations[k]? = some op)
    (hop : op.phase = .awaiting sent) (hidentifier : op.identifier = some identifier)
    (hresult : op.future = some (.result res)) : Ok fresh (s.take k identifier op sent res) := by
  have hok := h.operations k op hk
  have hphase := hok.phase
  rw [hop] at hphase
  obtain ⟨before, hexchange, hstage⟩ := hphase
  obtain ⟨n, hres, hn⟩ := hok.result res hresult
  obtain rfl := Option.some.inj (hidentifier.symm.trans hn)
  have hlive : ¬ Ended op := not_ended hop nofun
  rw [hidentifier] at hstage
  have hidentified := hstage.identified
  rw [← hidentifier] at hidentified
  have hreact := react_ok hstage hres
  rw [← hexchange] at hreact
  -- the acknowledgement is taken
  have htaken := (h.but hk).modify (fun op => { op with exchange := op.exchange ++ [res] }) rfl
    fun _ => Iff.rfl
  have hsound : Sound { op with exchange := op.exchange ++ [res] } :=
    ⟨hok.inRange, hok.result, hlive⟩
  have hnonempty : op.exchange ++ [res] ≠ [] := by simp
  unfold Client.take
  generalize react op.request sent res = reaction at hreact
  cases reaction with
  | returns reasons =>
    refine htaken.finish hlive ⟨hok.inRange, hok.result, ⟨?_, fun _ => hidentified⟩, ?_, ?_⟩
    · show (op.exchange ++ [res]).map stepOf <+: handshake s.maximumQos op.identifier op.request
      rw [hidentifier]
      have heq : (op.exchange ++ [res]).map stepOf =
          handshake s.maximumQos (some identifier) op.request := hreact
      exact ⟨[], by rw [heq, List.append_nil]⟩
    · intro _ _
      show (op.exchange ++ [res]).map stepOf = handshake s.maximumQos op.identifier op.request
      rw [hidentifier]
      exact hreact
    · intro failure hfailure
      cases hfailure
  | raises reason description =>
    refine htaken.raise hsound ⟨?_, fun _ => hidentified⟩ fun hempty => absurd hempty hnonempty
    show (op.exchange ++ [res]).map stepOf <+: handshake s.maximumQos op.identifier op.request
    rw [hidentifier]
    exact hreact
  | invalid =>
    rw [← hidentifier] at hstage
    exact (h.but hk).close.raise ⟨hok.inRange, hok.result, hlive⟩ (.of_sent hstage hexchange)
      fun _ => .closed
  | releases =>
    apply htaken.request hsound hidentifier
    · show Stage s.maximumQos op.request op.identifier _ (op.exchange ++ [res])
      rw [hidentifier]
      exact hreact
    · exact fun hempty => absurd hempty hnonempty

/-- The identifier of a call that goes on is unused, in runs with fresh identifiers. -/
theorem Ok.resume (h : Ok fresh s) (hk : s.operations[k]? = some op)
    (hunused : fresh → ∀ identifier, op.phase = .handed identifier → s.Unused identifier)
    (hstep : s.resume k op = some s') : Ok fresh s' := by
  have hok := h.operations k op hk
  have hphase := hok.phase
  unfold Client.resume at hstep
  cases hop : op.phase with
  | handed identifier =>
    rw [hop] at hstep hphase
    have hearly := hok.early hphase.2 (not_ended hop nofun)
    dsimp only at hstep
    cases hresume : s.registry.resume identifier with
    | none =>
      rw [hresume] at hstep
      obtain rfl := Option.some.inj hstep
      exact (h.but hk).fail hearly
    | some registry =>
      rw [hresume] at hstep
      obtain rfl := Option.some.inj hstep
      obtain rfl := IdentifierRegistry.resume_eq_some hresume
      exact (h.but hk).start hearly hphase.1 ⟨h.next_pos, h.next_le⟩
        fun hfresh => hunused hfresh identifier hop
  | failing =>
    rw [hop] at hstep hphase
    obtain rfl := Option.some.inj hstep
    exact (h.but hk).fail (hok.early hphase (not_ended hop nofun))
  | awaiting sent =>
    have hlive : ¬ Ended op := not_ended hop nofun
    rw [hop] at hstep hphase
    obtain ⟨before, hexchange, hstage⟩ := hphase
    have hfollowed : Followed s.maximumQos op := .of_sent hstage hexchange
    cases hidentifier : op.identifier with
    | none =>
      rw [hidentifier] at hstep hstage
      obtain rfl := Option.some.inj hstep
      have hcomplete := hstage.of_none
      rw [← hexchange, ← hidentifier] at hcomplete
      exact (h.but hk).finish hlive ⟨hok.inRange, hok.result,
        ⟨⟨hfollowed.steps, hfollowed.identified⟩, fun _ _ => hcomplete, nofun⟩⟩
    | some identifier =>
      rw [hidentifier] at hstep
      cases hfuture : op.future with
      | none => rw [hfuture] at hstep; cases hstep
      | some future =>
        rw [hfuture] at hstep
        cases future with
        | pending => cases hstep
        | result res =>
          obtain rfl := Option.some.inj hstep
          exact h.take hk hop hidentifier hfuture
        | exception =>
          obtain rfl := Option.some.inj hstep
          exact (h.but hk).raise ⟨hok.inRange, hok.result, hlive⟩ hfollowed fun _ => .closed
  | _ =>
    rw [hop] at hstep
    cases hstep

/-- A packet that the server has not answered is that of a call with its identifier. -/
theorem Ok.unanswered (h : Ok fresh s) (hk : s.operations[k]? = some op) (hlive : ¬ Ended op)
    (hexpected : ∀ identifier, expectedIdentifier sent = some identifier →
      op.identifier = some identifier) :
    Ok fresh { s with unanswered := s.unanswered ++ [⟨k, sent⟩] } where
  next_pos := h.next_pos
  next_le := h.next_le
  queued := h.queued
  exclusive := by
    intro hfresh
    have he := h.exclusive hfresh
    refine ⟨he.held, he.unique, ?_, he.matched⟩
    intro sent' hsent' identifier hidentifier j hj
    rcases List.mem_append.mp hsent' with hsent' | hsent'
    · exact he.unanswered sent' hsent' identifier hidentifier j hj
    · obtain rfl := List.mem_singleton.mp hsent'
      exact he.unique k j identifier ⟨op, hk, hexpected identifier hidentifier, hlive⟩ hj
  operations := h.operations

theorem Ok.written (h : Ok fresh s) (hk : s.operations[k]? = some op)
    (hstep : s.written k op = some s') : Ok fresh s' := by
  have hok := h.operations k op hk
  have hphase := hok.phase
  unfold Client.written at hstep
  cases hop : op.phase with
  | sending packet =>
    have hlive : ¬ Ended op := not_ended hop nofun
    rw [hop] at hstep hphase
    obtain rfl := Option.some.inj hstep
    let op' : Operation := { op with
      phase := .awaiting packet, exchange := op.exchange ++ [packet] }
    have hlive' : ¬ Ended op' := by
      rintro ⟨outcome, houtcome⟩
      cases houtcome
    have hwritten := (h.but hk).modify (fun op => { op with
      phase := .awaiting packet, exchange := op.exchange ++ [packet] }) rfl
      fun _ => iff_of_false hlive' hlive
    have hsent := hwritten.ok ⟨hok.inRange, hok.result, op.exchange, rfl, hphase⟩
    simp only [write]
    split
    · exact hsent
    · exact hsent.unanswered hwritten.here hlive' fun identifier hidentifier =>
        Stage.expected hphase hidentifier
  | _ =>
    rw [hop] at hstep
    cases hstep

theorem Ok.writeFails (h : Ok fresh s) (hk : s.operations[k]? = some op)
    (hstep : s.writeFails k op = some s') : Ok fresh s' := by
  have hok := h.operations k op hk
  have hphase := hok.phase
  unfold Client.writeFails at hstep
  cases hop : op.phase with
  | sending packet =>
    rw [hop] at hstep hphase
    obtain rfl := Option.some.inj hstep
    exact (h.but hk).raise ⟨hok.inRange, hok.result, not_ended hop nofun⟩ (.of_stage hphase)
      fun _ => .closed
  | _ =>
    rw [hop] at hstep
    cases hstep

theorem Ok.timeout (h : Ok fresh s) (hk : s.operations[k]? = some op)
    (hstep : s.timeout k op = some s') : Ok fresh s' := by
  have hok := h.operations k op hk
  have hphase := hok.phase
  unfold Client.timeout at hstep
  cases hop : op.phase with
  | awaiting packet =>
    rw [hop] at hstep hphase
    obtain ⟨before, hexchange, hstage⟩ := hphase
    split at hstep
    · obtain rfl := Option.some.inj hstep
      exact (h.but hk).close.raise ⟨hok.inRange, hok.result, not_ended hop nofun⟩
        (.of_sent hstage hexchange) fun _ => .closed
    · cases hstep
  | _ =>
    rw [hop] at hstep
    cases hstep

theorem Ok.cancel (h : Ok fresh s) (hk : s.operations[k]? = some op)
    (hstep : s.cancel k op = some s') : Ok fresh s' := by
  have hok := h.operations k op hk
  have hphase := hok.phase
  have hearly : (op.identifier = none ∧ op.exchange = [] ∧ op.request.Identified) → ¬ Ended op →
      Ok fresh (s.setPhase k (.ended .cancelled)) := by
    intro hearly hlive
    have hop := hok.early hearly hlive
    exact (h.but hk).stop hop.identifier hop.exchange hop.result nofun nofun
  have hlate : Followed s.maximumQos op → ¬ Ended op → Ok fresh (s.finish k .cancelled) :=
    fun hfollowed hlive =>
    (h.but hk).cancelled ⟨hok.inRange, hok.result, hlive⟩ hfollowed
  unfold Client.cancel at hstep
  cases hop : op.phase with
  | calling => rw [hop] at hstep; cases hstep
  | ended outcome => rw [hop] at hstep; cases hstep
  | putting =>
    rw [hop] at hstep hphase
    obtain rfl := Option.some.inj hstep
    exact hearly hphase (not_ended hop nofun)
  | waiting =>
    rw [hop] at hstep hphase
    obtain rfl := Option.some.inj hstep
    exact hearly hphase (not_ended hop nofun)
  | failing =>
    rw [hop] at hstep hphase
    obtain rfl := Option.some.inj hstep
    exact hearly hphase (not_ended hop nofun)
  | handed identifier =>
    rw [hop] at hstep hphase
    obtain rfl := Option.some.inj hstep
    exact hearly hphase.2 (not_ended hop nofun)
  | sending packet =>
    rw [hop] at hstep hphase
    obtain rfl := Option.some.inj hstep
    exact hlate (.of_stage hphase) (not_ended hop nofun)
  | awaiting packet =>
    rw [hop] at hstep hphase
    obtain rfl := Option.some.inj hstep
    obtain ⟨before, hexchange, hstage⟩ := hphase
    exact hlate (.of_sent hstage hexchange) (not_ended hop nofun)

/-! ### Steps of the client -/

theorem Ok.close (h : Ok fresh s) : Ok fresh s.close where
  toBase := h.toBase.of_holds rfl rfl (fun _ _ => Iff.rfl) (List.Subset.refl _) rfl
  operations := h.operations

/-- An acknowledgement is that of the packet it answers. -/
theorem expected_of_answers {packet ack : Packet} (h : Answers packet ack)
    (hidentifier : acknowledgedIdentifier ack = some identifier) :
    expectedIdentifier packet = some identifier := by
  unfold Answers at h
  split at h
  · rw [expectedIdentifier, if_neg (by simp [h.1])]
    exact h.2.trans hidentifier
  · rw [expectedIdentifier, if_neg (by simp [h.1])]
    exact h.2.trans hidentifier
  · rw [expectedIdentifier, h]
    exact hidentifier
  · rw [expectedIdentifier, h.1]
    exact hidentifier
  · rw [expectedIdentifier, h.1]
    exact hidentifier
  · exact h.elim

/-- Some of the futures of an identifier leave its queue. -/
theorem Ok.dequeue (h : Ok fresh s) {ks ks' : List ℕ}
    (hks : s.registry.identifierFutures.lookup identifier = some ks) (hsubset : ks' ⊆ ks) :
    Ok fresh { s with registry := { s.registry with
      identifierFutures := s.registry.identifierFutures.insert identifier ks' } } where
  next_pos := h.next_pos
  next_le := h.next_le
  queued := by
    intro n ks'' hks'' k hk
    by_cases hn : n = identifier
    · subst hn
      obtain rfl := Option.some.inj (hks''.symm.trans (AList.lookup_insert _))
      exact h.queued n ks hks k (hsubset hk)
    · exact h.queued n ks'' ((AList.lookup_insert_ne hn).symm.trans hks'') k hk
  exclusive := by
    intro hfresh
    have he := h.exclusive hfresh
    exact ⟨fun k n hk => (AList.mem_insert _).mpr (.inr (he.held k n hk)), he.unique,
      he.unanswered, he.matched⟩
  operations := h.operations

/-- The future of a call gets an acknowledgement of the packet `sent`. -/
theorem Ok.deliver (h : Ok fresh s) (hk : s.Holds k identifier) (n : ℕ) (hn : fresh → n = k)
    (hack : acknowledgedIdentifier res = some identifier) :
    Ok fresh ({ s with matched := s.matched ++ [(n, k)] }.modify k fun op =>
      { op with future := some (.result res) }) := by
  have hmatched : Ok fresh { s with matched := s.matched ++ [(n, k)] } := by
    refine ⟨⟨h.next_pos, h.next_le, h.queued, fun hfresh => ?_⟩, h.operations⟩
    have he := h.exclusive hfresh
    refine ⟨he.held, he.unique, he.unanswered, ?_⟩
    intro m hm
    rcases List.mem_append.mp hm with hm | hm
    · exact he.matched m hm
    · obtain rfl := List.mem_singleton.mp hm
      exact hn hfresh
  obtain ⟨op, hop, hidentifier, -⟩ := hk
  have hok := h.operations k op hop
  apply ((hmatched.but hop).modify (fun op => { op with future := some (.result res) }) rfl
    fun _ => Iff.rfl).ok
  refine ⟨hok.inRange, ?_, hok.phase.congr rfl rfl rfl⟩
  intro res' hres'
  obtain rfl := Future.result.inj (Option.some.inj hres')
  exact ⟨identifier, hack, hidentifier⟩

/-- An acknowledgement goes to the call that sent the packet, in runs with fresh identifiers. -/
theorem Ok.acknowledge (h : Ok fresh s) {unanswered : List Unanswered} {sent : Unanswered}
    {ack : Packet} (hunanswered : unanswered ⊆ s.unanswered) (hsent : sent ∈ s.unanswered)
    (hanswers : Answers sent.packet ack) (hack : acknowledgedIdentifier ack = some identifier) :
    Ok fresh ({ s with unanswered := unanswered }.acknowledge sent identifier ack) := by
  have hrest : Ok fresh { s with unanswered := unanswered } :=
    ⟨h.toBase.of_holds rfl rfl (fun _ _ => Iff.rfl) hunanswered rfl, h.operations⟩
  simp only [Client.acknowledge]
  by_cases hopen : s.registry.isOpen
  · rw [if_neg (by simpa using hopen)]
    generalize hregister : s.registry.registerPacket _ identifier = registered
    obtain ⟨registry, future⟩ := registered
    rcases IdentifierRegistry.registerPacket_eq hregister with
      ⟨rfl, rfl⟩ | ⟨ks, ks', hks, hsubset, hfuture, rfl⟩
    · exact hrest
    · have hdequeued := hrest.dequeue hks hsubset
      cases future with
      | none => exact hdequeued
      | some k =>
        have hk := h.queued identifier ks hks k (hfuture k rfl)
        apply hdequeued.deliver hk sent.operation _ hack
        intro hfresh
        exact (h.exclusive hfresh).unanswered sent hsent identifier
          (expected_of_answers hanswers hack) k hk
  · rw [if_pos hopen]
    exact hrest

/-- A call that waits for an identifier fails. -/
theorem exists_of_failWaiting {j : ℕ} {op' : Operation}
    (h : (s.operations.map fun op =>
      if op.phase = .waiting then { op with phase := .failing } else op)[j]? = some op') :
    ∃ op, s.operations[j]? = some op ∧ op'.identifier = op.identifier ∧ (Ended op' ↔ Ended op) ∧
      ∀ maximumQos, OperationOk maximumQos op → OperationOk maximumQos op' := by
  rw [List.getElem?_map, Option.map_eq_some_iff] at h
  obtain ⟨op, hop, rfl⟩ := h
  by_cases hwaiting : op.phase = .waiting
  · rw [if_pos hwaiting]
    refine ⟨op, hop, rfl, ?_, ?_⟩
    · constructor
      · rintro ⟨outcome, houtcome⟩
        cases houtcome
      · rintro ⟨outcome, houtcome⟩
        rw [hwaiting] at houtcome
        cases houtcome
    · intro maximumQos hok
      have hphase := hok.phase
      rw [hwaiting] at hphase
      exact ⟨hok.inRange, hok.result, hphase⟩
  · rw [if_neg hwaiting]
    exact ⟨op, hop, rfl, Iff.rfl, fun _ hok => hok⟩

theorem Ok.onClose (h : Ok fresh s) : Ok fresh s.onClose := by
  simp only [Client.onClose, IdentifierRegistry.onClose]
  apply Ok.failFutures
  refine ⟨h.toBase.of_holds rfl rfl ?_ (List.Subset.refl _) rfl, ?_⟩
  · intro k identifier
    constructor
    · rintro ⟨op', hop', hidentifier, hlive⟩
      obtain ⟨op, hop, hsame, hended, -⟩ := exists_of_failWaiting hop'
      exact ⟨op, hop, hsame.symm.trans hidentifier, fun h => hlive (hended.mpr h)⟩
    · rintro ⟨op, hop, hidentifier, hlive⟩
      obtain ⟨op', hop'⟩ : ∃ op', (s.operations.map fun op =>
          if op.phase = .waiting then { op with phase := .failing } else op)[k]? = some op' := by
        rw [List.getElem?_map, hop]
        exact ⟨_, rfl⟩
      obtain ⟨op'', hop'', hsame, hended, -⟩ := exists_of_failWaiting hop'
      obtain rfl := Option.some.inj (hop.symm.trans hop'')
      exact ⟨op', hop', hsame.trans hidentifier, fun h => hlive (hended.mp h)⟩
  · intro k op' hop'
    obtain ⟨op, hop, -, -, hok⟩ := exists_of_failWaiting hop'
    exact hok s.maximumQos (h.operations k op hop)

/-! ### Runs -/

theorem ok_init (fresh : Prop) (maximumQos : QoS) : Ok fresh (init maximumQos) where
  next_pos := Nat.le_refl 1
  next_le := show 1 ≤ 0xffff by decide
  queued := by
    intro identifier ks hks
    cases hks
  exclusive := by
    intro _
    have hnone : ∀ k identifier, ¬ (init maximumQos).Holds k identifier := by
      rintro k identifier ⟨op, hop, -⟩
      simp [init] at hop
    exact ⟨fun k identifier hk => absurd hk (hnone k identifier),
      fun j _ identifier hj => absurd hj (hnone j identifier), by simp [init], by simp [init]⟩
  operations := by simp [init]

/-- The identifier that a call takes if it need not wait. -/
def taken (s : Client) : Option ℕ :=
  match s.registry.allocateIdentifier with
  | .identifier identifier _ => some identifier
  | _ => none

/-- The identifier that a call was handed while it waited. -/
def handedTo (s : Client) (k : ℕ) : Option ℕ :=
  s.operations[k]?.bind fun op =>
    match op.phase with
    | .handed identifier => some identifier
    | _ => none

/-- The call of the step takes no identifier that is still in use, by a call or by an
acknowledgement to come. -/
def TakesUnused (s : Client) : Event → Prop
  | .call request =>
    request.Allocates s.maximumQos → ∀ identifier ∈ s.taken, s.Unused identifier
  | .resume k => ∀ identifier ∈ s.handedTo k, s.Unused identifier
  | _ => True

theorem Ok.step (h : Ok fresh s) {e : Event} (hfresh : fresh → s.TakesUnused e)
    (hstep : s.step e = some s') : Ok fresh s' := by
  cases e with
  | call request =>
    obtain rfl := Option.some.inj hstep
    refine h.call request fun hf hallocates identifier registry hallocate => ?_
    exact hfresh hf hallocates identifier (by rw [taken, hallocate]; rfl)
  | put k =>
    obtain ⟨op, hop, hstep⟩ := Option.bind_eq_some_iff.mp hstep
    exact h.put hop hstep
  | resume k =>
    obtain ⟨op, hop, hstep⟩ := Option.bind_eq_some_iff.mp hstep
    refine h.resume hop (fun hf identifier hphase => ?_) hstep
    exact hfresh hf identifier (by rw [handedTo, hop, Option.bind_some, hphase]; rfl)
  | written k =>
    obtain ⟨op, hop, hstep⟩ := Option.bind_eq_some_iff.mp hstep
    exact h.written hop hstep
  | writeFails k =>
    obtain ⟨op, hop, hstep⟩ := Option.bind_eq_some_iff.mp hstep
    exact h.writeFails hop hstep
  | timeout k =>
    obtain ⟨op, hop, hstep⟩ := Option.bind_eq_some_iff.mp hstep
    exact h.timeout hop hstep
  | cancel k =>
    obtain ⟨op, hop, hstep⟩ := Option.bind_eq_some_iff.mp hstep
    exact h.cancel hop hstep
  | acknowledge n ack =>
    rw [Client.step] at hstep
    cases hsent : s.unanswered[n]? with
    | none =>
      rw [hsent] at hstep
      cases hstep
    | some sent =>
      cases hack : acknowledgedIdentifier ack with
      | none =>
        rw [hsent, hack] at hstep
        cases hstep
      | some identifier =>
        rw [hsent, hack] at hstep
        dsimp only at hstep
        by_cases hanswers : Answers sent.packet ack
        · rw [if_pos hanswers] at hstep
          obtain rfl := Option.some.inj hstep
          exact h.acknowledge (List.eraseIdx_subset ..) (List.mem_of_getElem? hsent) hanswers hack
        · rw [if_neg hanswers] at hstep
          cases hstep
  | close =>
    obtain rfl := Option.some.inj hstep
    exact h.close
  | onClose =>
    rw [Client.step] at hstep
    by_cases hopen : s.registry.isOpen
    · rw [if_pos hopen] at hstep
      cases hstep
    · rw [if_neg hopen] at hstep
      obtain rfl := Option.some.inj hstep
      exact h.onClose

/-! ### The maximum quality of service -/

theorem release_maximumQos (s : Client) (identifier : ℕ) :
    (s.release identifier).maximumQos = s.maximumQos := by
  simp only [release]
  split <;> rfl

theorem finish_maximumQos (s : Client) (k : ℕ) (outcome : Outcome) :
    (s.finish k outcome).maximumQos = s.maximumQos := by
  simp only [finish]
  split
  · rfl
  · exact release_maximumQos _ _

theorem send_maximumQos (s : Client) (k : ℕ) (packet : Packet) :
    (s.send k packet).maximumQos = s.maximumQos := by
  unfold send
  split
  · exact finish_maximumQos _ _ _
  · rfl

theorem request_maximumQos (s : Client) (k identifier : ℕ) (packet : Packet) :
    (s.request k identifier packet).maximumQos = s.maximumQos := by
  unfold request
  split
  · exact finish_maximumQos _ _ _
  · split
    · exact finish_maximumQos _ _ _
    · exact send_maximumQos _ _ _

theorem allocate_maximumQos (s : Client) (k : ℕ) (request : Request) :
    (s.allocate k request).maximumQos = s.maximumQos := by
  unfold allocate
  split
  · rfl
  · rfl
  · exact request_maximumQos _ _ _ _
  · split <;> rfl

theorem call_maximumQos (s : Client) (request : Request) :
    (s.call request).maximumQos = s.maximumQos := by
  simp only [call]
  split
  · split
    · rfl
    · split
      · exact send_maximumQos _ _ _
      · exact allocate_maximumQos _ _ _
  · exact allocate_maximumQos _ _ _
  · exact allocate_maximumQos _ _ _

theorem take_maximumQos (s : Client) (k identifier : ℕ) (op : Operation) (sent res : Packet) :
    (s.take k identifier op sent res).maximumQos = s.maximumQos := by
  simp only [take]
  split
  · exact finish_maximumQos _ _ _
  · exact finish_maximumQos _ _ _
  · exact finish_maximumQos _ _ _
  · exact request_maximumQos _ _ _ _

theorem resume_maximumQos (h : s.resume k op = some s') : s'.maximumQos = s.maximumQos := by
  unfold resume at h
  split at h
  · split at h
    · obtain rfl := Option.some.inj h
      rfl
    · obtain rfl := Option.some.inj h
      exact request_maximumQos _ _ _ _
  · obtain rfl := Option.some.inj h
    rfl
  · split at h
    · obtain rfl := Option.some.inj h
      exact finish_maximumQos _ _ _
    · obtain rfl := Option.some.inj h
      exact take_maximumQos _ _ _ _ _ _
    · obtain rfl := Option.some.inj h
      exact finish_maximumQos _ _ _
    · cases h
  · cases h

theorem step_maximumQos {e : Event} (h : s.step e = some s') : s'.maximumQos = s.maximumQos := by
  cases e with
  | call request =>
    obtain rfl := Option.some.inj h
    exact call_maximumQos s request
  | put k =>
    obtain ⟨op, -, h⟩ := Option.bind_eq_some_iff.mp h
    unfold put at h
    split at h
    · obtain rfl := Option.some.inj h
      rfl
    · obtain rfl := Option.some.inj h
      rfl
    · cases h
  | resume k =>
    obtain ⟨op, -, h⟩ := Option.bind_eq_some_iff.mp h
    exact resume_maximumQos h
  | written k =>
    obtain ⟨op, -, h⟩ := Option.bind_eq_some_iff.mp h
    unfold written at h
    split at h
    · obtain rfl := Option.some.inj h
      simp only [write]
      split <;> rfl
    · cases h
  | writeFails k =>
    obtain ⟨op, -, h⟩ := Option.bind_eq_some_iff.mp h
    unfold writeFails at h
    split at h
    · obtain rfl := Option.some.inj h
      exact finish_maximumQos _ _ _
    · cases h
  | timeout k =>
    obtain ⟨op, -, h⟩ := Option.bind_eq_some_iff.mp h
    unfold timeout at h
    split at h
    · obtain rfl := Option.some.inj h
      exact finish_maximumQos _ _ _
    · cases h
  | cancel k =>
    obtain ⟨op, -, h⟩ := Option.bind_eq_some_iff.mp h
    unfold cancel at h
    split at h
    · obtain rfl := Option.some.inj h
      rfl
    · obtain rfl := Option.some.inj h
      rfl
    · obtain rfl := Option.some.inj h
      rfl
    · obtain rfl := Option.some.inj h
      rfl
    · obtain rfl := Option.some.inj h
      exact finish_maximumQos _ _ _
    · obtain rfl := Option.some.inj h
      exact finish_maximumQos _ _ _
    · cases h
    · cases h
  | acknowledge n ack =>
    rw [step] at h
    split at h
    · split at h
      · obtain rfl := Option.some.inj h
        simp only [acknowledge]
        split
        · rfl
        · split <;> rfl
      · cases h
    · cases h
  | close =>
    obtain rfl := Option.some.inj h
    rfl
  | onClose =>
    rw [step] at h
    split at h
    · cases h
    · obtain rfl := Option.some.inj h
      rfl

/-! ### Runs -/

/-- The invariant holds after every run. -/
theorem ok_of_run {es : List Event} (hrun : run Client.step (init maximumQos) es = some s) :
    Ok False s :=
  run_invariant_of_step (fun _ _ _ h hstep => h.step nofun hstep) (ok_init False maximumQos) hrun

/-- No identifier is held twice after a run whose calls take only unused identifiers. -/
theorem exclusive_of_run {es : List Event} (hrun : run Client.step (init maximumQos) es = some s)
    (hunused : Along Client.step TakesUnused (init maximumQos) es) : Exclusive s :=
  (run_invariant (Ok True) (fun _ _ _ h hc hstep => h.step (fun _ => hc) hstep)
    (ok_init True maximumQos) hunused hrun).exclusive trivial

end Client

end HatDrivers.Mqtt
