import HatDrivers.Mms.Connection

namespace HatDrivers.Mms

open HatDrivers.Lib

/-!
# MMS — requests and answers

* `Call.Ok`, `Registered` — what holds of each call and of the registered futures;
* `registered_of_run` — they hold after every run;
* `matched_of_run` — calls get the first answers with their own invoke ids, are not disturbed by
  each other, and none stays pending once the receive loop is over.
-/

variable {Req Res : Type}

/-! ### Futures -/

theorem Call.settle_eq (call : Call Req Res) (future : Future Res) :
    call.settle future = { call with future := (call.settle future).future } := by
  unfold Call.settle
  split <;> rfl

@[simp] theorem Call.settle_pending {call : Call Req Res} {future : Future Res}
    (h : call.future = some .pending) : call.settle future = { call with future := some future } := by
  simp only [Call.settle, h]

theorem Call.settle_of_ne {call : Call Req Res} {future : Future Res}
    (h : call.future ≠ some .pending) : call.settle future = call := by
  unfold Call.settle
  split
  · contradiction
  · rfl

theorem Call.settle_settle (call : Call Req Res) {future : Future Res} (h : future ≠ .pending) :
    (call.settle future).settle future = call.settle future := by
  by_cases hp : call.future = some .pending
  · rw [call.settle_pending hp]
    exact Call.settle_of_ne fun he => h (Option.some.inj he)
  · rw [Call.settle_of_ne hp, Call.settle_of_ne hp]

/-- Futures that are all settled alike. -/
theorem getElem?_foldl_settle {future : Future Res} (h : future ≠ .pending)
    (entries : List (ℕ × ℕ)) (calls : List (Call Req Res)) (i : ℕ) :
    (entries.foldl (fun calls entry => calls.modify entry.2 fun call => call.settle future)
      calls)[i]? =
      if i ∈ entries.map (·.2) then calls[i]?.map fun call => call.settle future
      else calls[i]? := by
  induction entries generalizing calls with
  | nil => simp
  | cons entry entries ih =>
    rw [List.foldl_cons, ih, List.getElem?_modify]
    by_cases hi : i ∈ entries.map (·.2) <;> by_cases he : entry.2 = i
    · simp [hi, he, Function.comp_def, Call.settle_settle _ h]
    · simp [hi, he]
    · simp [he]
      exact fun x hx => absurd (List.mem_map_of_mem (f := (·.2)) hx) hi
    · simp [hi, he, Ne.symm he]

/-! ### Answers -/

/-- The answers that go before do not count for a call that begins to wait. -/
theorem Call.answer_eq_none {call : Call Req Res} {answers : List (ℕ × Res)}
    (h : call.since = answers.length) : call.answer answers = none := by
  simp [Call.answer, h]

/-- What a further answer is to a call. -/
theorem Call.answer_append {call : Call Req Res} {answers : List (ℕ × Res)}
    (h : call.since ≤ answers.length) (invokeId : ℕ) (res : Res) :
    call.answer (answers ++ [(invokeId, res)]) =
      (call.answer answers).or (if some invokeId = call.invokeId then some res else none) := by
  rw [Call.answer, Call.answer, List.drop_append_of_le_length h, List.find?_append]
  cases (answers.drop call.since).find? fun answer => some answer.1 = call.invokeId with
  | some answer => rfl
  | none =>
    by_cases hid : some invokeId = call.invokeId
    · simp [hid]
    · simp [hid]

/-! ### Calls -/

/-- What the future of a call that nobody cancelled is by now. -/
def Connection.expected (s : Connection Req Res) (call : Call Req Res) : Future Res :=
  match call.answer s.answers with
  | some res => .result res
  | none => if s.receiving then .pending else .connectionError

theorem Connection.expected_of_some {s : Connection Req Res} {call : Call Req Res} {res : Res}
    (h : call.answer s.answers = some res) : s.expected call = .result res := by
  rw [Connection.expected, h]

theorem Connection.expected_of_none {s : Connection Req Res} {call : Call Req Res}
    (h : call.answer s.answers = none) :
    s.expected call = if s.receiving then .pending else .connectionError := by
  rw [Connection.expected, h]

/-- What holds of the call `i`. -/
structure Call.Ok (encodes : Req → Bool) (s : Connection Req Res) (i : ℕ) (call : Call Req Res) :
    Prop where
  since : call.since ≤ s.answers.length
  sending : call.task = .sending → call.future = none ∧ ∃ id, call.invokeId = some id
  waiting : call.task = .waiting →
    ∃ id, call.invokeId = some id ∧ (id, i) ∈ s.responseFutures
  future : call.task = .waiting → ∃ future, call.future = some future ∧
    if call.cancelled then future ≠ .pending else future = s.expected call
  returned : ∀ res, call.task = .returned res →
    call.cancelled = false ∧ call.answer s.answers = some res
  failed : call.task = .failed → s.isOpen = false ∨ s.connOpen = false
  raised : call.task = .raised → encodes call.request = false
  cancelled : call.task = .cancelled → call.cancelled = true

/-- The registered futures are those of the calls that wait, and invoke ids are not used again. -/
structure Registered (encodes : Req → Bool) (s : Connection Req Res) : Prop where
  isOpen : s.isOpen = true → s.receiving = true
  lt : ∀ (i : ℕ) (call : Call Req Res) id, s.calls[i]? = some call → call.invokeId = some id →
    id < s.invokeIds
  apart : ∀ (i j : ℕ) (c d : Call Req Res) id, s.calls[i]? = some c → s.calls[j]? = some d →
    c.invokeId = some id → d.invokeId = some id → i = j
  entry : ∀ id i, (id, i) ∈ s.responseFutures →
    ∃ call, s.calls[i]? = some call ∧ call.invokeId = some id ∧ call.task = .waiting
  ok : ∀ (i : ℕ) (call : Call Req Res), s.calls[i]? = some call → call.Ok encodes s i

variable {encodes : Req → Bool} {s s' : Connection Req Res} {call : Call Req Res} {i : ℕ}

/-- A call stays as it is while others go on. -/
theorem Call.Ok.mono (h : call.Ok encodes s i) (hanswers : s'.answers = s.answers)
    (hreceiving : s'.receiving = s.receiving) (hopen : s'.isOpen = true → s.isOpen = true)
    (hconn : s'.connOpen = true → s.connOpen = true)
    (hentry : call.task = .waiting → ∀ id, call.invokeId = some id →
      (id, i) ∈ s.responseFutures → (id, i) ∈ s'.responseFutures) :
    call.Ok encodes s' i := by
  have hexpected : s'.expected call = s.expected call := by
    rw [Connection.expected, Connection.expected, hanswers, hreceiving]
  refine ⟨?_, h.sending, ?_, ?_, ?_, ?_, h.raised, h.cancelled⟩
  · rw [hanswers]
    exact h.since
  · intro htask
    obtain ⟨id, hid, hmem⟩ := h.waiting htask
    exact ⟨id, hid, hentry htask id hid hmem⟩
  · rw [hexpected]
    exact h.future
  · rw [hanswers]
    exact h.returned
  · intro htask
    rcases h.failed htask with hclosed | hclosed
    · exact .inl (by grind)
    · exact .inr (by grind)

/-- A call that is over, by what it ends with. -/
theorem Call.Ok.of_over (hsince : call.since ≤ s.answers.length)
    (hsending : call.task ≠ .sending) (hwaiting : call.task ≠ .waiting)
    (hreturned : ∀ res, call.task = .returned res →
      call.cancelled = false ∧ call.answer s.answers = some res)
    (hfailed : call.task = .failed → s.isOpen = false ∨ s.connOpen = false)
    (hraised : call.task = .raised → encodes call.request = false)
    (hcancelled : call.task = .cancelled → call.cancelled = true) : call.Ok encodes s i :=
  ⟨hsince, fun h => absurd h hsending, fun h => absurd h hwaiting, fun h => absurd h hwaiting,
    hreturned, hfailed, hraised, hcancelled⟩

/-! ### Steps of a call -/

theorem Registered.init : Registered encodes (Connection.init : Connection Req Res) where
  isOpen _ := rfl
  lt i call id h := by simp [Connection.init] at h
  apart i j c d id h := by simp [Connection.init] at h
  entry id i h := by simp [Connection.init] at h
  ok i call h := by simp [Connection.init] at h

/-- What goes on with one call, by itself. -/
theorem Registered.set (h : Registered encodes s) (hcall : s.calls[i]? = some call)
    {call' : Call Req Res} (hcalls : s'.calls = s.calls.set i call')
    (hid : call'.invokeId = call.invokeId) (hids : s'.invokeIds = s.invokeIds)
    (hanswers : s'.answers = s.answers) (hreceiving : s'.receiving = s.receiving)
    (hopen : s'.isOpen = s.isOpen) (hconn : s'.connOpen = s.connOpen)
    (hothers : ∀ id j, j ≠ i → ((id, j) ∈ s'.responseFutures ↔ (id, j) ∈ s.responseFutures))
    (hown : ∀ id, (id, i) ∈ s'.responseFutures →
      call'.invokeId = some id ∧ call'.task = .waiting)
    (hok : call'.Ok encodes s' i) : Registered encodes s' := by
  have hlt : i < s.calls.length := (List.getElem?_eq_some_iff.mp hcall).1
  have hget : ∀ {j : ℕ} {c : Call Req Res}, s'.calls[j]? = some c →
      i ≠ j ∧ s.calls[j]? = some c ∨ i = j ∧ c = call' := by
    intro j c hc
    rw [hcalls] at hc
    rcases getElem?_set_eq_some.mp hc with hc | ⟨rfl, -, rfl⟩
    · exact .inl hc
    · exact .inr ⟨rfl, rfl⟩
  have hbefore : ∀ {j : ℕ} {c : Call Req Res}, s'.calls[j]? = some c →
      ∃ c', s.calls[j]? = some c' ∧ c'.invokeId = c.invokeId := by
    intro j c hc
    rcases hget hc with ⟨-, hc⟩ | ⟨rfl, rfl⟩
    · exact ⟨c, hc, rfl⟩
    · exact ⟨call, hcall, hid.symm⟩
  constructor
  · rw [hopen, hreceiving]
    exact h.isOpen
  · intro j c id hc hcid
    obtain ⟨c', hc', hcid'⟩ := hbefore hc
    rw [hids]
    exact h.lt j c' id hc' (hcid'.trans hcid)
  · intro j k c d id hc hd hcid hdid
    obtain ⟨c', hc', hcid'⟩ := hbefore hc
    obtain ⟨d', hd', hdid'⟩ := hbefore hd
    exact h.apart j k c' d' id hc' hd' (hcid'.trans hcid) (hdid'.trans hdid)
  · intro id j hmem
    by_cases hj : j = i
    · subst hj
      have hself : s'.calls[j]? = some call' := by
        rw [hcalls]
        exact getElem?_set_eq_some.mpr (.inr ⟨rfl, hlt, rfl⟩)
      exact ⟨call', hself, hown id hmem⟩
    · obtain ⟨c, hc, hwaits⟩ := h.entry id j ((hothers id j hj).mp hmem)
      refine ⟨c, ?_, hwaits⟩
      rw [hcalls]
      exact getElem?_set_eq_some.mpr (.inl ⟨Ne.symm hj, hc⟩)
  · intro j c hc
    rcases hget hc with ⟨hij, hc⟩ | ⟨rfl, rfl⟩
    · apply (h.ok j c hc).mono hanswers hreceiving
      · rw [hopen]
        exact id
      · rw [hconn]
        exact id
      · exact fun _ id _ hmem => (hothers id j (Ne.symm hij)).mpr hmem
    · exact hok

/-- No future of a call is registered that does not wait. -/
theorem Registered.not_mem (h : Registered encodes s) (hcall : s.calls[i]? = some call)
    (htask : call.task ≠ .waiting) (id : ℕ) : (id, i) ∉ s.responseFutures := by
  intro hmem
  obtain ⟨c, hc, -, hwaiting⟩ := h.entry id i hmem
  rw [hcall] at hc
  exact htask (Option.some.inj hc ▸ hwaiting)

theorem Registered.sendConfirmed (h : Registered encodes s) (request : Req) :
    Registered encodes (s.sendConfirmed encodes request) := by
  have hkeep : ∀ {s' : Connection Req Res} {j : ℕ} {c : Call Req Res}, c.Ok encodes s j →
      s'.answers = s.answers → s'.receiving = s.receiving → s'.isOpen = s.isOpen →
      s'.connOpen = s.connOpen → s'.responseFutures = s.responseFutures → c.Ok encodes s' j := by
    intro s' j c hok hanswers hreceiving hopen hconn hfutures
    apply hok.mono hanswers hreceiving (hopen ▸ id) (hconn ▸ id)
    intro _ id _ hmem
    rw [hfutures]
    exact hmem
  have hentry : ∀ (c' : Call Req Res) id j, (id, j) ∈ s.responseFutures →
      ∃ c, (s.calls ++ [c'])[j]? = some c ∧ c.invokeId = some id ∧ c.task = .waiting := by
    intro c' id j hmem
    obtain ⟨c, hc, hwaits⟩ := h.entry id j hmem
    exact ⟨c, getElem?_concat_eq_some.mpr (.inl hc), hwaits⟩
  unfold Connection.sendConfirmed
  by_cases hopen : s.isOpen = true
  · simp only [if_pos hopen]
    have hfresh : ∀ (j : ℕ) (c : Call Req Res), s.calls[j]? = some c →
        c.invokeId ≠ some s.invokeIds := by
      intro j c hc hid
      exact Nat.lt_irrefl _ (h.lt j c _ hc hid)
    constructor
    · exact h.isOpen
    · intro j c id hc hid
      rcases getElem?_concat_eq_some.mp hc with hc | ⟨-, rfl⟩
      · exact Nat.lt_succ_of_lt (h.lt j c id hc hid)
      · obtain rfl := Option.some.inj hid
        exact Nat.lt_succ_self _
    · intro j k c d id hc hd hcid hdid
      rcases getElem?_concat_eq_some.mp hc with hc | ⟨rfl, rfl⟩ <;>
        rcases getElem?_concat_eq_some.mp hd with hd | ⟨rfl, rfl⟩
      · exact h.apart j k c d id hc hd hcid hdid
      · exact absurd (hcid.trans hdid.symm) (hfresh j c hc)
      · exact absurd (hdid.trans hcid.symm) (hfresh k d hd)
      · rfl
    · exact hentry _
    · intro j c hc
      rcases getElem?_concat_eq_some.mp hc with hc | ⟨-, rfl⟩
      · exact hkeep (h.ok j c hc) rfl rfl rfl rfl rfl
      · cases hencodes : encodes request with
        | true => exact ⟨Nat.le_refl _, fun _ => ⟨rfl, _, rfl⟩, nofun, nofun, nofun, nofun, nofun,
            nofun⟩
        | false => exact .of_over (Nat.le_refl _) nofun nofun nofun nofun (fun _ => hencodes) nofun
  · simp only [if_neg hopen]
    constructor
    · exact h.isOpen
    · intro j c id hc hid
      rcases getElem?_concat_eq_some.mp hc with hc | ⟨-, rfl⟩
      · exact h.lt j c id hc hid
      · cases hid
    · intro j k c d id hc hd hcid hdid
      rcases getElem?_concat_eq_some.mp hc with hc | ⟨rfl, rfl⟩
      · rcases getElem?_concat_eq_some.mp hd with hd | ⟨rfl, rfl⟩
        · exact h.apart j k c d id hc hd hcid hdid
        · cases hdid
      · cases hcid
    · exact hentry _
    · intro j c hc
      rcases getElem?_concat_eq_some.mp hc with hc | ⟨-, rfl⟩
      · exact hkeep (h.ok j c hc) rfl rfl rfl rfl rfl
      · exact .of_over (Nat.le_refl _) nofun nofun nofun
          (fun _ => .inl (Bool.eq_false_iff.mpr hopen)) nofun nofun

theorem Registered.sent (h : Registered encodes s) (hcall : s.calls[i]? = some call)
    (htask : call.task = .sending) : Registered encodes (s.sent i call) := by
  have hok := h.ok i call hcall
  have hnone : ∀ id, (id, i) ∉ s.responseFutures := h.not_mem hcall (by rw [htask]; nofun)
  obtain ⟨-, id, hid⟩ := hok.sending htask
  unfold Connection.sent
  by_cases hcancelled : call.cancelled = true
  · rw [if_pos hcancelled]
    exact h.set hcall rfl rfl rfl rfl rfl rfl rfl (fun _ _ _ => Iff.rfl)
      (fun id hmem => absurd hmem (hnone id))
      (.of_over hok.since nofun nofun nofun nofun nofun fun _ => hcancelled)
  · rw [if_neg hcancelled]
    by_cases hopen : s.connOpen = true ∧ s.isOpen = true
    · rw [if_pos hopen]
      have hentries : ∀ id' j, (id', j) ∈ s.responseFutures ++ [(id, i)] ↔
          (id', j) ∈ s.responseFutures ∨ id' = id ∧ j = i := by
        intro id' j
        simp
      simp only [hid, Option.toList_some, List.map_cons, List.map_nil]
      refine h.set hcall rfl hid.symm rfl rfl rfl rfl rfl ?_ ?_ ?_
      · intro id' j hj
        simp only [hentries, hj, and_false, or_false]
      · intro id' hmem
        rcases (hentries id' i).mp hmem with hmem | ⟨rfl, -⟩
        · exact absurd hmem (hnone id')
        · exact ⟨rfl, rfl⟩
      · refine ⟨Nat.le_refl _, nofun, fun _ => ⟨id, rfl, by simp⟩, fun _ => ⟨.pending, rfl, ?_⟩,
          nofun, nofun, nofun, nofun⟩
        rw [if_neg hcancelled, Connection.expected_of_none (Call.answer_eq_none rfl),
          if_pos (h.isOpen hopen.2)]
    · rw [if_neg hopen]
      refine h.set hcall rfl rfl rfl rfl rfl rfl rfl (fun _ _ _ => Iff.rfl)
        (fun id hmem => absurd hmem (hnone id))
        (.of_over hok.since nofun nofun nofun (fun _ => ?_) nofun nofun)
      by_cases hconn : s.connOpen = true
      · exact .inl (Bool.eq_false_iff.mpr fun ho => hopen ⟨hconn, ho⟩)
      · exact .inr (Bool.eq_false_iff.mpr hconn)

theorem Registered.resume (h : Registered encodes s) (hcall : s.calls[i]? = some call)
    (htask : call.task = .waiting) {future : Future Res} (hfuture : call.future = some future)
    (hdone : future ≠ .pending) : Registered encodes (s.resume i call future) := by
  have hok := h.ok i call hcall
  obtain ⟨id, hid, hmem⟩ := hok.waiting htask
  have hexpected : call.cancelled = false → future = s.expected call := by
    intro hcancelled
    obtain ⟨future', hfuture', heq⟩ := hok.future htask
    obtain rfl := Option.some.inj (hfuture.symm.trans hfuture')
    rw [if_neg (by rw [hcancelled]; nofun)] at heq
    exact heq
  have hentries : ∀ id' j, (id', j) ∈ (s.resume i call future).responseFutures ↔
      (id', j) ∈ s.responseFutures ∧ id' ≠ id := by
    intro id' j
    simp [Connection.resume, hid]
  have hown : ∀ id' j, (id', j) ∈ s.responseFutures → (id' = id ↔ j = i) := by
    intro id' j hmem'
    obtain ⟨c, hc, hcid, -⟩ := h.entry id' j hmem'
    constructor
    · rintro rfl
      exact h.apart j i c call id' hc hcall hcid hid
    · rintro rfl
      rw [hc] at hcall
      obtain rfl := Option.some.inj hcall
      exact Option.some.inj (hcid.symm.trans hid)
  refine h.set hcall rfl rfl rfl rfl rfl rfl rfl ?_ ?_ ?_
  · intro id' j hj
    rw [hentries]
    exact ⟨fun hmem' => hmem'.1, fun hmem' => ⟨hmem', fun he => hj ((hown id' j hmem').mp he)⟩⟩
  · intro id' hmem'
    obtain ⟨hmem', hne⟩ := (hentries id' i).mp hmem'
    exact absurd ((hown id' i hmem').mpr rfl) hne
  · -- what the call ends with is what its future has to be by now
    cases hcancelled : call.cancelled with
    | true =>
      have hend : call.end future = .cancelled := by
        cases future <;> simp [Call.end, hcancelled]
      simp only [Connection.resume, hend]
      exact .of_over hok.since nofun nofun nofun nofun nofun fun _ => rfl
    | false =>
      have heq := hexpected hcancelled
      cases hanswer : call.answer s.answers with
      | some res =>
        rw [Connection.expected_of_some hanswer] at heq
        subst heq
        have hend : call.end (.result res) = .returned res := by simp [Call.end, hcancelled]
        simp only [Connection.resume, hend]
        refine .of_over hok.since nofun nofun (fun res' hres => ?_) nofun nofun nofun
        obtain rfl := Task.returned.inj hres
        exact ⟨rfl, hanswer⟩
      | none =>
        rw [Connection.expected_of_none hanswer] at heq
        by_cases hreceiving : s.receiving = true
        · rw [if_pos hreceiving] at heq
          exact absurd heq hdone
        · rw [if_neg hreceiving] at heq
          subst heq
          have hend : call.end .connectionError = .failed := by simp [Call.end, hcancelled]
          simp only [Connection.resume, hend]
          refine .of_over hok.since nofun nofun nofun (fun _ => .inl ?_) nofun nofun
          exact Bool.eq_false_iff.mpr fun ho => hreceiving (h.isOpen ho)

theorem Registered.cancel (h : Registered encodes s) (hcall : s.calls[i]? = some call)
    (htask : call.task = .sending ∨ call.task = .waiting) :
    Registered encodes { s with
      calls := s.calls.set i { call.settle .cancelled with cancelled := true } } := by
  have hok := h.ok i call hcall
  have htask' : (call.settle .cancelled).task = call.task := by rw [Call.settle_eq]
  have hid' : (call.settle .cancelled).invokeId = call.invokeId := by rw [Call.settle_eq]
  have hsince' : (call.settle .cancelled).since = call.since := by rw [Call.settle_eq]
  refine h.set hcall rfl hid' rfl rfl rfl rfl rfl (fun _ _ _ => Iff.rfl) ?_ ?_
  · intro id hmem
    obtain ⟨c, hc, hwaits⟩ := h.entry id i hmem
    rw [hcall] at hc
    obtain rfl := Option.some.inj hc
    exact ⟨hid'.trans hwaits.1, htask'.trans hwaits.2⟩
  · constructor
    · exact hsince' ▸ hok.since
    · intro hsending
      obtain ⟨hfuture, hid⟩ := hok.sending (htask'.symm.trans hsending)
      have hsame : call.settle .cancelled = call :=
        Call.settle_of_ne (by rw [hfuture]; nofun)
      exact ⟨by rw [hsame]; exact hfuture, by rw [hsame]; exact hid⟩
    · intro hwaiting
      obtain ⟨id, hid, hmem⟩ := hok.waiting (htask'.symm.trans hwaiting)
      exact ⟨id, hid'.trans hid, hmem⟩
    · intro hwaiting
      obtain ⟨future, hfuture, -⟩ := hok.future (htask'.symm.trans hwaiting)
      by_cases hpending : future = .pending
      · subst hpending
        exact ⟨.cancelled, by rw [Call.settle_pending hfuture], by simp⟩
      · have hne : call.future ≠ some .pending := fun he =>
          hpending (Option.some.inj (hfuture.symm.trans he))
        exact ⟨future, by rw [Call.settle_of_ne hne]; exact hfuture, by simp [hpending]⟩
    · intro res hreturned
      have := htask'.symm.trans hreturned
      rcases htask with htask | htask <;> rw [htask] at this <;> cases this
    · intro hfailed
      have := htask'.symm.trans hfailed
      rcases htask with htask | htask <;> rw [htask] at this <;> cases this
    · intro hraised
      have := htask'.symm.trans hraised
      rcases htask with htask | htask <;> rw [htask] at this <;> cases this
    · exact fun _ => rfl

/-! ### Steps of the receive loop -/

/-- Futures that are set, where calls do not go on. -/
theorem Registered.map (h : Registered encodes s) {f : ℕ → Call Req Res → Call Req Res}
    (hcalls : ∀ j : ℕ, s'.calls[j]? = s.calls[j]?.map (f j))
    (hf : ∀ j (c : Call Req Res), (f j c).invokeId = c.invokeId ∧ (f j c).task = c.task)
    (hids : s'.invokeIds = s.invokeIds) (hopen : s'.isOpen = true → s'.receiving = true)
    (hfutures : s'.responseFutures = s.responseFutures)
    (hok : ∀ (j : ℕ) (c : Call Req Res), s.calls[j]? = some c → (f j c).Ok encodes s' j) :
    Registered encodes s' := by
  have hbefore : ∀ {j : ℕ} {c : Call Req Res}, s'.calls[j]? = some c →
      ∃ c', s.calls[j]? = some c' ∧ f j c' = c := by
    intro j c hc
    rw [hcalls] at hc
    exact Option.map_eq_some_iff.mp hc
  constructor
  · exact hopen
  · intro j c id hc hcid
    obtain ⟨c', hc', rfl⟩ := hbefore hc
    rw [hids]
    exact h.lt j c' id hc' ((hf j c').1.symm.trans hcid)
  · intro j k c d id hc hd hcid hdid
    obtain ⟨c', hc', rfl⟩ := hbefore hc
    obtain ⟨d', hd', rfl⟩ := hbefore hd
    exact h.apart j k c' d' id hc' hd' ((hf j c').1.symm.trans hcid) ((hf k d').1.symm.trans hdid)
  · intro id j hmem
    rw [hfutures] at hmem
    obtain ⟨c, hc, hid, htask⟩ := h.entry id j hmem
    exact ⟨f j c, by rw [hcalls, hc]; rfl, (hf j c).1.trans hid, (hf j c).2.trans htask⟩
  · intro j c hc
    obtain ⟨c', hc', rfl⟩ := hbefore hc
    exact hok j c' hc'

/-- The future of a call is found by its invoke id. -/
theorem Registered.find?_eq (h : Registered encodes s) (hcall : s.calls[i]? = some call)
    (htask : call.task = .waiting) {id : ℕ} (hid : call.invokeId = some id) :
    (s.responseFutures.find? fun entry => entry.1 = id) = some (id, i) := by
  obtain ⟨id', hid', hmem⟩ := (h.ok i call hcall).waiting htask
  obtain rfl := Option.some.inj (hid.symm.trans hid')
  cases hfind : s.responseFutures.find? fun entry => entry.1 = id with
  | none => exact absurd (List.find?_eq_none.mp hfind _ hmem) (by simp)
  | some entry =>
    have hentry : entry.1 = id := by simpa using List.find?_some hfind
    obtain ⟨c, hc, hcid, -⟩ := h.entry entry.1 entry.2 (List.mem_of_find?_eq_some hfind)
    have hi : entry.2 = i := h.apart entry.2 i c call id hc hcall (hentry ▸ hcid) hid
    rw [← hentry, ← hi]

/-- The call whose future an answer sets. -/
theorem Registered.of_find? (h : Registered encodes s) {id j : ℕ} {id' : ℕ}
    (hfind : (s.responseFutures.find? fun entry => entry.1 = id) = some (id', j)) :
    ∃ c, s.calls[j]? = some c ∧ c.invokeId = some id ∧ c.task = .waiting := by
  have hid : id' = id := by simpa using List.find?_some hfind
  exact hid ▸ h.entry id' j (List.mem_of_find?_eq_some hfind)

theorem Registered.answer (h : Registered encodes s) (hreceiving : s.receiving = true)
    (invokeId : ℕ) (res : Res) : Registered encodes (s.answer invokeId res) := by
  let f : ℕ → Call Req Res → Call Req Res := fun j c =>
    if (s.responseFutures.find? fun entry => entry.1 = invokeId).map (·.2) = some j then
      c.settle (.result res) else c
  refine h.map (f := f) ?_ ?_ rfl h.isOpen rfl ?_
  · intro j
    simp only [f, Connection.answer]
    cases s.responseFutures.find? fun entry => entry.1 = invokeId with
    | none => simp
    | some entry => simp [List.getElem?_modify]
  · intro j c
    simp only [f]
    split
    · rw [Call.settle_eq]
      exact ⟨rfl, rfl⟩
    · exact ⟨rfl, rfl⟩
  intro j c hc
  have hok := h.ok j c hc
  have hsince : c.since ≤ (s.answers ++ [(invokeId, res)]).length := by
    rw [List.length_append]
    exact Nat.le_add_right_of_le hok.since
  have hanswer := Call.answer_append hok.since invokeId res
  by_cases hj : (s.responseFutures.find? fun entry => entry.1 = invokeId).map (·.2) = some j
  · -- the answer is to this call, which waits
    simp only [f, if_pos hj]
    obtain ⟨⟨id', j'⟩, hfind, rfl⟩ := Option.map_eq_some_iff.mp hj
    obtain ⟨c', hc', hid, htask⟩ := h.of_find? hfind
    obtain rfl := Option.some.inj (hc.symm.trans hc')
    obtain ⟨future, hfuture, hnow⟩ := hok.future htask
    obtain ⟨id, hid', hmem⟩ := hok.waiting htask
    have hover : ∀ task, c.task = task → task ≠ .waiting → False :=
      fun task ht hne => hne (ht.symm.trans htask)
    by_cases hpending : future = .pending
    · subst hpending
      rw [Call.settle_pending hfuture]
      refine ⟨hsince, fun ht => (hover _ ht nofun).elim, fun _ => ⟨id, hid', hmem⟩,
        fun _ => ⟨.result res, rfl, ?_⟩, fun _ ht => (hover _ ht nofun).elim,
        fun ht => (hover _ ht nofun).elim, fun ht => (hover _ ht nofun).elim,
        fun ht => (hover _ ht nofun).elim⟩
      by_cases hcancelled : c.cancelled = true
      · rw [if_pos hcancelled]
        nofun
      · rw [if_neg hcancelled] at hnow
        rw [if_neg hcancelled]
        have hnone : c.answer s.answers = none := by
          cases hc : c.answer s.answers with
          | none => rfl
          | some res' =>
            rw [Connection.expected_of_some hc] at hnow
            cases hnow
        have hnew : c.answer (s.answers ++ [(invokeId, res)]) = some res := by
          rw [hanswer, hnone, if_pos hid.symm]
          rfl
        exact (Connection.expected_of_some hnew).symm
    · rw [Call.settle_of_ne fun he => hpending (Option.some.inj (hfuture.symm.trans he))]
      refine ⟨hsince, fun ht => (hover _ ht nofun).elim, fun _ => ⟨id, hid', hmem⟩,
        fun _ => ⟨future, hfuture, ?_⟩, fun _ ht => (hover _ ht nofun).elim,
        fun ht => (hover _ ht nofun).elim, fun ht => (hover _ ht nofun).elim,
        fun ht => (hover _ ht nofun).elim⟩
      by_cases hcancelled : c.cancelled = true
      · rw [if_pos hcancelled]
        exact hpending
      · rw [if_neg hcancelled] at hnow
        rw [if_neg hcancelled, hnow]
        cases hsome : c.answer s.answers with
        | none =>
          rw [Connection.expected_of_none hsome, if_pos hreceiving] at hnow
          exact absurd hnow hpending
        | some res' =>
          rw [hsome, Option.some_or] at hanswer
          rw [Connection.expected_of_some hsome]
          exact (Connection.expected_of_some hanswer).symm
  · simp only [f, if_neg hj]
    refine ⟨hsince, hok.sending, hok.waiting, fun htask => ?_, fun res' hres => ?_, hok.failed,
      hok.raised, hok.cancelled⟩
    · obtain ⟨future, hfuture, hnow⟩ := hok.future htask
      refine ⟨future, hfuture, ?_⟩
      have hid : some invokeId ≠ c.invokeId := by
        intro hid
        apply hj
        rw [h.find?_eq hc htask hid.symm]
        rfl
      rw [if_neg hid, Option.or_none] at hanswer
      have hexpected : (s.answer invokeId res).expected c = s.expected c := by
        show Connection.expected _ c = Connection.expected _ c
        rw [Connection.expected, Connection.expected, ← hanswer]
        rfl
      rw [hexpected]
      exact hnow
    · obtain ⟨hcancelled, hsome⟩ := hok.returned res' hres
      refine ⟨hcancelled, ?_⟩
      show c.answer (s.answers ++ [(invokeId, res)]) = some res'
      rw [hanswer, hsome, Option.some_or]

theorem Registered.endReceiveLoop (h : Registered encodes s) (hreceiving : s.receiving = true) :
    Registered encodes s.endReceiveLoop := by
  let f : ℕ → Call Req Res → Call Req Res := fun j c =>
    if j ∈ s.responseFutures.map (·.2) then c.settle .connectionError else c
  have hne : (.connectionError : Future Res) ≠ .pending := nofun
  refine h.map (f := f) ?_ ?_ rfl nofun rfl ?_
  · intro j
    simp only [f, Connection.endReceiveLoop, getElem?_foldl_settle hne]
    by_cases hj : j ∈ s.responseFutures.map (·.2)
    · simp only [if_pos hj]
    · simp only [if_neg hj, Option.map_id']
  · intro j c
    simp only [f]
    split
    · rw [Call.settle_eq]
      exact ⟨rfl, rfl⟩
    · exact ⟨rfl, rfl⟩
  intro j c hc
  have hok := h.ok j c hc
  by_cases htask : c.task = .waiting
  · have hover : ∀ task, c.task = task → task ≠ .waiting → False :=
      fun task ht hne => hne (ht.symm.trans htask)
    obtain ⟨id, hid, hmem⟩ := hok.waiting htask
    obtain ⟨future, hfuture, hnow⟩ := hok.future htask
    have hj : j ∈ s.responseFutures.map (·.2) := List.mem_map.mpr ⟨_, hmem, rfl⟩
    simp only [f, if_pos hj]
    by_cases hpending : future = .pending
    · subst hpending
      rw [Call.settle_pending hfuture]
      refine ⟨hok.since, fun ht => (hover _ ht nofun).elim, fun _ => ⟨id, hid, hmem⟩,
        fun _ => ⟨.connectionError, rfl, ?_⟩, fun _ ht => (hover _ ht nofun).elim,
        fun ht => (hover _ ht nofun).elim, fun ht => (hover _ ht nofun).elim,
        fun ht => (hover _ ht nofun).elim⟩
      by_cases hcancelled : c.cancelled = true
      · rw [if_pos hcancelled]
        nofun
      · rw [if_neg hcancelled] at hnow
        rw [if_neg hcancelled]
        cases hanswer : c.answer s.answers with
        | none => exact (Connection.expected_of_none (s := s.endReceiveLoop) hanswer).symm
        | some res =>
          rw [Connection.expected_of_some hanswer] at hnow
          cases hnow
    · rw [Call.settle_of_ne fun he => hpending (Option.some.inj (hfuture.symm.trans he))]
      refine ⟨hok.since, fun ht => (hover _ ht nofun).elim, fun _ => ⟨id, hid, hmem⟩,
        fun _ => ⟨future, hfuture, ?_⟩, fun _ ht => (hover _ ht nofun).elim,
        fun ht => (hover _ ht nofun).elim, fun ht => (hover _ ht nofun).elim,
        fun ht => (hover _ ht nofun).elim⟩
      by_cases hcancelled : c.cancelled = true
      · rw [if_pos hcancelled]
        exact hpending
      · rw [if_neg hcancelled] at hnow
        rw [if_neg hcancelled, hnow]
        cases hanswer : c.answer s.answers with
        | none =>
          rw [Connection.expected_of_none hanswer, if_pos hreceiving] at hnow
          exact absurd hnow hpending
        | some res =>
          rw [Connection.expected_of_some hanswer]
          exact (Connection.expected_of_some (s := s.endReceiveLoop) hanswer).symm
  · have hj : j ∉ s.responseFutures.map (·.2) := by
      intro hj
      obtain ⟨⟨id, j'⟩, hmem, rfl⟩ := List.mem_map.mp hj
      exact h.not_mem hc htask id hmem
    simp only [f, if_neg hj]
    exact ⟨hok.since, hok.sending, fun ht => absurd ht htask, fun ht => absurd ht htask,
      hok.returned, fun _ => .inl rfl, hok.raised, hok.cancelled⟩

/-! ### Runs -/

/-- What a step does, by its event. -/
theorem Connection.step_cases {e : Event Req Res} (h : s.step encodes e = some s') :
    (∃ request, e = .sendConfirmed request ∧ s' = s.sendConfirmed encodes request) ∨
    (∃ i call, e = .sent i ∧ s.calls[i]? = some call ∧ call.task = .sending ∧
      s' = s.sent i call) ∨
    (∃ i call future, e = .resume i ∧ s.calls[i]? = some call ∧ call.task = .waiting ∧
      call.future = some future ∧ future ≠ .pending ∧ s' = s.resume i call future) ∨
    (∃ i call, e = .cancel i ∧ s.calls[i]? = some call ∧
      (call.task = .sending ∨ call.task = .waiting) ∧
      s' = { s with
        calls := s.calls.set i { call.settle .cancelled with cancelled := true } }) ∨
    (∃ invokeId res, e = .answer invokeId res ∧ s.receiving = true ∧
      s' = s.answer invokeId res) ∨
    (e = .close ∧ s' = { s with isOpen := false }) ∨
    (e = .connClosed ∧ s' = { s with connOpen := false }) ∨
    (e = .endReceiveLoop ∧ s.receiving = true ∧ s' = s.endReceiveLoop) := by
  cases e with
  | sendConfirmed request => exact .inl ⟨request, rfl, (Option.some.inj h).symm⟩
  | sent i =>
    obtain ⟨call, hcall, h⟩ := Option.bind_eq_some_iff.mp h
    cases htask : call.task <;> simp only [htask] at h <;> try cases h
    exact .inr (.inl ⟨i, call, rfl, hcall, htask, rfl⟩)
  | resume i =>
    obtain ⟨call, hcall, h⟩ := Option.bind_eq_some_iff.mp h
    cases htask : call.task <;> simp only [htask] at h <;> try cases h
    cases hfuture : call.future with
    | none =>
      rw [hfuture] at h
      cases h
    | some future =>
      by_cases hpending : future = .pending
      · rw [hfuture, hpending] at h
        cases h
      · have hs' : s' = s.resume i call future := by
          rw [hfuture] at h
          cases future <;> first | contradiction | exact (Option.some.inj h).symm
        exact .inr (.inr (.inl ⟨i, call, future, rfl, hcall, htask, hfuture, hpending, hs'⟩))
  | cancel i =>
    obtain ⟨call, hcall, h⟩ := Option.bind_eq_some_iff.mp h
    refine .inr (.inr (.inr (.inl ⟨i, call, rfl, hcall, ?_⟩)))
    cases htask : call.task <;> simp only [htask] at h <;> try cases h
    · exact ⟨.inl rfl, rfl⟩
    · exact ⟨.inr rfl, rfl⟩
  | answer invokeId res =>
    obtain ⟨hreceiving, h⟩ := Option.ite_none_right_eq_some.mp h
    exact .inr (.inr (.inr (.inr (.inl ⟨invokeId, res, rfl, hreceiving,
      (Option.some.inj h).symm⟩))))
  | close => exact .inr (.inr (.inr (.inr (.inr (.inl ⟨rfl, (Option.some.inj h).symm⟩)))))
  | connClosed =>
    exact .inr (.inr (.inr (.inr (.inr (.inr (.inl ⟨rfl, (Option.some.inj h).symm⟩))))))
  | endReceiveLoop =>
    obtain ⟨hreceiving, h⟩ := Option.ite_none_right_eq_some.mp h
    exact .inr (.inr (.inr (.inr (.inr (.inr (.inr ⟨rfl, hreceiving,
      (Option.some.inj h).symm⟩))))))

/-- Closing changes no call. -/
theorem Registered.closed (h : Registered encodes s) (hcalls : s'.calls = s.calls)
    (hids : s'.invokeIds = s.invokeIds) (hanswers : s'.answers = s.answers)
    (hreceiving : s'.receiving = s.receiving) (hfutures : s'.responseFutures = s.responseFutures)
    (hopen : s'.isOpen = true → s.isOpen = true)
    (hconn : s'.connOpen = true → s.connOpen = true) : Registered encodes s' := by
  refine h.map (f := fun _ c => c) ?_ (fun _ _ => ⟨rfl, rfl⟩) hids ?_ hfutures ?_
  · intro j
    rw [hcalls, Option.map_id']
  · intro ho
    rw [hreceiving]
    exact h.isOpen (hopen ho)
  · intro j c hc
    apply (h.ok j c hc).mono hanswers hreceiving hopen hconn
    intro _ id _ hmem
    rw [hfutures]
    exact hmem

theorem Registered.step {e : Event Req Res} (h : Registered encodes s)
    (hs : s.step encodes e = some s') : Registered encodes s' := by
  obtain ⟨request, -, rfl⟩ | ⟨i, call, -, hcall, htask, rfl⟩ |
    ⟨i, call, future, -, hcall, htask, hfuture, hdone, rfl⟩ | ⟨i, call, -, hcall, htask, rfl⟩ |
    ⟨invokeId, res, -, hreceiving, rfl⟩ | ⟨-, rfl⟩ | ⟨-, rfl⟩ | ⟨-, hreceiving, rfl⟩ :=
    Connection.step_cases hs
  · exact h.sendConfirmed request
  · exact h.sent hcall htask
  · exact h.resume hcall htask hfuture hdone
  · exact h.cancel hcall htask
  · exact h.answer hreceiving invokeId res
  · exact h.closed rfl rfl rfl rfl rfl nofun id
  · exact h.closed rfl rfl rfl rfl rfl id nofun
  · exact h.endReceiveLoop hreceiving

theorem registered_of_run {es : List (Event Req Res)}
    (hrun : run (Connection.step encodes) .init es = some s) : Registered encodes s :=
  run_invariant_of_step (fun _ _ _ h hs => h.step hs) Registered.init hrun

/-! ### Requests and answers -/

/-- The call that an event is a step of. -/
def Event.call? : Event Req Res → Option ℕ
  | .sent i | .resume i | .cancel i => some i
  | _ => none

/-- The call has ended. -/
def Task.over : Task Res → Prop
  | .sending | .waiting => False
  | _ => True

/-- What a call that has not ended ends with, once the receive loop is over. -/
def Connection.ending (s : Connection Req Res) (call : Call Req Res) : Task Res :=
  if call.cancelled then .cancelled
  else
    match call.task with
    | .sending => .failed
    | _ => (call.answer s.answers).elim .failed .returned

/-- Requests are matched with answers, and calls with nothing else. -/
structure Connection.Matched (encodes : Req → Bool) (s : Connection Req Res) : Prop where
  /-- A call returns the first answer with its own invoke id. -/
  own : ∀ (i : ℕ) (call : Call Req Res) res, s.calls[i]? = some call →
    call.task = .returned res → call.answer s.answers = some res
  /-- Calls have invoke ids of their own, and so answers of their own. -/
  apart : ∀ (i j : ℕ) (c d : Call Req Res) id, s.calls[i]? = some c → s.calls[j]? = some d →
    c.invokeId = some id → d.invokeId = some id → i = j
  /-- A call ends otherwise only if it was cancelled, the connection closed or the request could
  not be encoded. -/
  otherwise : ∀ (i : ℕ) (call : Call Req Res), s.calls[i]? = some call →
    (call.task = .cancelled → call.cancelled = true) ∧
    (call.task = .failed → s.isOpen = false ∨ s.connOpen = false) ∧
    (call.task = .raised → encodes call.request = false)
  /-- The steps of a call, and its cancellation, change nothing for the others. -/
  undisturbed : ∀ e i s', Event.call? e = some i → s.step encodes e = some s' →
    s'.isOpen = s.isOpen ∧ s'.connOpen = s.connOpen ∧ s'.receiving = s.receiving ∧
    s'.answers = s.answers ∧ ∀ j : ℕ, j ≠ i → s'.calls[j]? = s.calls[j]? ∧
      ∀ id, (id, j) ∈ s'.responseFutures ↔ (id, j) ∈ s.responseFutures
  /-- A call that was answered goes on, and returns if it was not cancelled. -/
  answered : ∀ (i : ℕ) (call : Call Req Res) res, s.calls[i]? = some call →
    call.task = .waiting → call.answer s.answers = some res →
    ∃ s' call', s.step encodes (.resume i) = some s' ∧ s'.calls[i]? = some call' ∧
      call'.task = if call.cancelled then .cancelled else .returned res
  /-- Once the receive loop is over, a call goes on if it has not ended, and then it ends, by
  `ConnectionError` if it was not answered. -/
  closed : s.receiving = false → ∀ (i : ℕ) (call : Call Req Res), s.calls[i]? = some call →
    call.task.over ∨ ∃ e s' call', Event.call? e = some i ∧ s.step encodes e = some s' ∧
      s'.calls[i]? = some call' ∧ call'.task = s.ending call

/-- A call that waits and whose future is done goes on. -/
theorem Registered.step_resume (h : Registered encodes s) (hcall : s.calls[i]? = some call)
    (htask : call.task = .waiting)
    (hdone : call.cancelled = false → s.expected call ≠ .pending) :
    ∃ s' call', s.step encodes (.resume i) = some s' ∧ s'.calls[i]? = some call' ∧
      call'.task = if call.cancelled then .cancelled else call.end (s.expected call) := by
  obtain ⟨future, hfuture, hnow⟩ := (h.ok i call hcall).future htask
  have hlt : i < s.calls.length := (List.getElem?_eq_some_iff.mp hcall).1
  have hpending : future ≠ .pending := by
    cases hcancelled : call.cancelled with
    | true =>
      rw [if_pos hcancelled] at hnow
      exact hnow
    | false =>
      rw [if_neg (by rw [hcancelled]; nofun)] at hnow
      rw [hnow]
      exact hdone hcancelled
  have hstep : s.step encodes (.resume i) = some (s.resume i call future) := by
    simp only [Connection.step, hcall, Option.bind_some, htask, hfuture]
  refine ⟨_, _, hstep, getElem?_set_eq_some.mpr (.inr ⟨rfl, hlt, rfl⟩), ?_⟩
  show call.end future = _
  cases hcancelled : call.cancelled with
  | true => cases future <;> simp [Call.end, hcancelled]
  | false =>
    rw [if_neg (by rw [hcancelled]; nofun)] at hnow
    rw [if_neg (by nofun), hnow]

theorem Registered.undisturbed (h : Registered encodes s) {e : Event Req Res}
    (he : e.call? = some i) (hs : s.step encodes e = some s') :
    s'.isOpen = s.isOpen ∧ s'.connOpen = s.connOpen ∧ s'.receiving = s.receiving ∧
    s'.answers = s.answers ∧ ∀ j : ℕ, j ≠ i → s'.calls[j]? = s.calls[j]? ∧
      ∀ id, (id, j) ∈ s'.responseFutures ↔ (id, j) ∈ s.responseFutures := by
  have hset : ∀ (call' : Call Req Res) {j : ℕ}, j ≠ i → (s.calls.set i call')[j]? = s.calls[j]? :=
    fun call' j hj => List.getElem?_set_ne (Ne.symm hj)
  obtain ⟨request, rfl, rfl⟩ | ⟨k, call, rfl, hcall, htask, rfl⟩ |
    ⟨k, call, future, rfl, hcall, htask, hfuture, hdone, rfl⟩ | ⟨k, call, rfl, hcall, htask, rfl⟩ |
    ⟨invokeId, res, rfl, hreceiving, rfl⟩ | ⟨rfl, rfl⟩ | ⟨rfl, rfl⟩ | ⟨rfl, hreceiving, rfl⟩ :=
    Connection.step_cases hs <;> try cases he
  · unfold Connection.sent
    by_cases hcancelled : call.cancelled = true
    · rw [if_pos hcancelled]
      exact ⟨rfl, rfl, rfl, rfl, fun j hj => ⟨hset _ hj, fun _ => Iff.rfl⟩⟩
    · rw [if_neg hcancelled]
      by_cases hopen : s.connOpen = true ∧ s.isOpen = true
      · rw [if_pos hopen]
        refine ⟨rfl, rfl, rfl, rfl, fun j hj => ⟨hset _ hj, fun id => ?_⟩⟩
        simp [Ne.symm hj]
      · rw [if_neg hopen]
        exact ⟨rfl, rfl, rfl, rfl, fun j hj => ⟨hset _ hj, fun _ => Iff.rfl⟩⟩
  · refine ⟨rfl, rfl, rfl, rfl, fun j hj => ⟨hset _ hj, fun id => ?_⟩⟩
    simp only [Connection.resume, List.mem_filter, decide_eq_true_eq]
    refine ⟨fun hmem => hmem.1, fun hmem => ⟨hmem, fun hid => hj ?_⟩⟩
    obtain ⟨c, hc, hcid, -⟩ := h.entry id j hmem
    exact h.apart j i c call id hc hcall hcid hid.symm
  · exact ⟨rfl, rfl, rfl, rfl, fun j hj => ⟨hset _ hj, fun _ => Iff.rfl⟩⟩

/-- Nothing stays pending once the receive loop is over. -/
theorem Registered.ends (h : Registered encodes s) (hover : s.receiving = false)
    (hcall : s.calls[i]? = some call) :
    call.task.over ∨ ∃ e s' call', Event.call? e = some i ∧ s.step encodes e = some s' ∧
      s'.calls[i]? = some call' ∧ call'.task = s.ending call := by
  have hlt : i < s.calls.length := (List.getElem?_eq_some_iff.mp hcall).1
  have hclosed : ¬(s.connOpen = true ∧ s.isOpen = true) := by
    rintro ⟨-, ho⟩
    rw [h.isOpen ho] at hover
    cases hover
  cases htask : call.task with
  | sending =>
    right
    have hstep : s.step encodes (.sent i) = some (s.sent i call) := by
      simp only [Connection.step, hcall, Option.bind_some, htask]
    refine ⟨.sent i, _, { call with task := s.ending call }, rfl, hstep, ?_, rfl⟩
    unfold Connection.sent Connection.ending
    by_cases hcancelled : call.cancelled = true
    · rw [if_pos hcancelled, if_pos hcancelled]
      exact getElem?_set_eq_some.mpr (.inr ⟨rfl, hlt, rfl⟩)
    · rw [if_neg hcancelled, if_neg hcancelled, if_neg hclosed, htask]
      exact getElem?_set_eq_some.mpr (.inr ⟨rfl, hlt, rfl⟩)
  | waiting =>
    right
    have hend : call.cancelled = false → s.expected call ≠ .pending ∧
        call.end (s.expected call) = (call.answer s.answers).elim .failed .returned := by
      intro hcancelled
      cases hanswer : call.answer s.answers with
      | none =>
        rw [Connection.expected_of_none hanswer, if_neg (by rw [hover]; nofun)]
        exact ⟨nofun, by simp [Call.end, hcancelled]⟩
      | some res =>
        rw [Connection.expected_of_some hanswer]
        exact ⟨nofun, by simp [Call.end, hcancelled]⟩
    obtain ⟨s', call', hs', hcall', htask'⟩ :=
      h.step_resume hcall htask fun hcancelled => (hend hcancelled).1
    refine ⟨.resume i, s', call', rfl, hs', hcall', ?_⟩
    rw [htask', Connection.ending, htask]
    cases hcancelled : call.cancelled with
    | true => rfl
    | false => exact (hend hcancelled).2
  | returned | failed | raised | cancelled => exact .inl trivial

/-- **Requests and responses.**  Whatever calls, cancellations, answers and closings there are. -/
theorem matched_of_run {es : List (Event Req Res)}
    (hrun : run (Connection.step encodes) .init es = some s) : s.Matched encodes := by
  have h := registered_of_run hrun
  constructor
  · intro i call res hcall htask
    exact ((h.ok i call hcall).returned res htask).2
  · exact h.apart
  · intro i call hcall
    have hok := h.ok i call hcall
    exact ⟨hok.cancelled, hok.failed, hok.raised⟩
  · intro e i s' he hs
    exact h.undisturbed he hs
  · intro i call res hcall htask hanswer
    have hexpected := Connection.expected_of_some hanswer
    obtain ⟨s', call', hs', hcall', htask'⟩ :=
      h.step_resume hcall htask fun _ => by rw [hexpected]; nofun
    refine ⟨s', call', hs', hcall', ?_⟩
    rw [htask', hexpected]
    cases hcancelled : call.cancelled with
    | true => rfl
    | false => simp [Call.end, hcancelled]
  · intro hover i call hcall
    exact h.ends hover hcall

/-- Two requests, answered the other way round and the second one twice; the first call is
cancelled and the connection closed. -/
theorem matched_of_run_sample :
    (((run (Connection.step fun _ : ℕ => true) .init
      [.sendConfirmed 5, .sendConfirmed 6, .sent 0, .sent 1, .answer 1 'b', .answer 1 'c',
        .cancel 0, .answer 0 'a', .answer 7 'd', .resume 1, .close, .endReceiveLoop,
        .resume 0]).map fun s => s.calls.map (·.task)) = some [.cancelled, .returned 'b']) ∧
    ∀ s, run (Connection.step fun _ : ℕ => true) .init
      [.sendConfirmed 5, .sendConfirmed 6, .sent 0, .sent 1, .answer 1 'b', .answer 1 'c',
        .cancel 0, .answer 0 'a', .answer 7 'd', .resume 1, .close, .endReceiveLoop,
        .resume 0] = some s → s.Matched fun _ => true :=
  ⟨by decide, fun _ hrun => matched_of_run hrun⟩

end HatDrivers.Mms
