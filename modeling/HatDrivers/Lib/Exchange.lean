import HatDrivers.Lib.Transition
import Mathlib.Data.List.Nodup

namespace HatDrivers.Lib

/-!
# Requests and responses over datagrams

A requester sends requests under fresh identifiers and keeps what it has to know of each until
the response is there; a responder handles one datagram at a time.  The network may lose, repeat
and reorder datagrams: what was sent is delivered at any time, any number of times or never.

`Exchange.Matches` says what one datagram does at either end, and `run_agrees` is what follows
for every run: the responder sees the request of each call, and a call gets the result of the
first of the responses to it that is delivered.  Some requests are silent: they get no response.
-/

/-- Requester and responder: requests `R` are sent as datagrams `D`, and the requester (`M`) keeps
`P` of each; the responder passes `S` to its user, who does `O`, and the requester returns `A`.
What else they use is of `E`, and they fail with `F`. -/
structure Exchange (M R P O S A E D F : Type) where
  /-- the identifier of the next request -/
  next : M → ℕ
  send : M → R → E → M × Except F (P × D)
  serve : D → O → E → Option S × Except F (Option D)
  /-- a result is for the request of an identifier; the requests are looked up by theirs -/
  accept : M → (ℕ → Option P) → D → M × Option (ℕ × A)

namespace Exchange

variable {M R P O S A E D F : Type}

/-! ### Answers -/

/-- What a responder may return for a datagram. -/
inductive Answers (Reply : D → Prop) (silent : Prop) (Refused : F → Prop) :
    Except F (Option D) → Prop
  | reply {d : D} (h : Reply d) : Answers Reply silent Refused (.ok (some d))
  | silent (h : silent) : Answers Reply silent Refused (.ok none)
  | refused {f : F} (h : Refused f) : Answers Reply silent Refused (.error f)

section

variable {Reply : D → Prop} {silent : Prop} {Refused : F → Prop} {answer : Except F (Option D)}

theorem Answers.of_some (h : Answers Reply silent Refused answer) {d : D}
    (hd : answer = .ok (some d)) : Reply d := by
  cases h with
  | reply h =>
    cases hd
    exact h
  | silent => cases hd
  | refused => cases hd

theorem Answers.of_none (h : Answers Reply silent Refused answer) (hnone : answer = .ok none) :
    silent := by
  cases h with
  | reply => cases hnone
  | silent h => exact h
  | refused => cases hnone

theorem Answers.of_error (h : Answers Reply silent Refused answer) {f : F}
    (hf : answer = .error f) : Refused f := by
  cases h with
  | reply => cases hf
  | silent => cases hf
  | refused h =>
    cases hf
    exact h

end

/-- What a responder returns that responds to every request. -/
def answered (answer : Option S × Except F D) : Option S × Except F (Option D) :=
  (answer.1, answer.2.map some)

theorem answers_answered {Reply : D → Prop} {Refused : F → Prop} {answer : Option S × Except F D}
    (hok : ∀ d, answer.2 = .ok d → Reply d) (herror : ∀ f, answer.2 = .error f → Refused f) :
    Answers Reply False Refused (answered answer).2 := by
  obtain ⟨seen, answer⟩ := answer
  cases answer with
  | ok d => exact .reply (hok d rfl)
  | error f => exact .refused (herror f rfl)

/-! ### Runs -/

structure Call (R P A D : Type) where
  id : ℕ
  request : R
  saved : P
  datagram : D
  result : Option A

/-- What the responder did with the datagram of a call. -/
structure Served (O S D F : Type) where
  call : ℕ
  outcome : O
  seen : Option S
  reply : Except F (Option D)

structure State (M R P O S A D F : Type) where
  requester : M
  calls : List (Call R P A D)
  served : List (Served O S D F)
  /-- the responses that were delivered -/
  delivered : List (Served O S D F)

inductive Event (R O E : Type)
  | send (request : R) (env : E)
  /-- the datagram of a call is delivered, and the responder's user does what is told -/
  | serve (call : ℕ) (outcome : O) (env : E)
  /-- a response is delivered -/
  | deliver (served : ℕ)

def State.init (m : M) : State M R P O S A D F where
  requester := m
  calls := []
  served := []
  delivered := []

def State.lookup (s : State M R P O S A D F) (id : ℕ) : Option P :=
  (s.calls.find? fun call => call.id = id).map Call.saved

def Call.complete (id : ℕ) (result : A) (call : Call R P A D) : Call R P A D :=
  if call.id = id ∧ call.result.isNone then { call with result := some result } else call

def step (X : Exchange M R P O S A E D F) (s : State M R P O S A D F) :
    Event R O E → Option (State M R P O S A D F)
  | .send request env =>
    let sent := X.send s.requester request env
    match sent.2 with
    | .error _ => some { s with requester := sent.1 }
    | .ok (saved, datagram) =>
      let call :=
        { id := X.next s.requester, request := request, saved := saved, datagram := datagram
          result := none }
      some { s with requester := sent.1, calls := s.calls ++ [call] }
  | .serve k outcome env =>
    match s.calls[k]? with
    | none => none
    | some call =>
      let answer := X.serve call.datagram outcome env
      let served := { call := k, outcome := outcome, seen := answer.1, reply := answer.2 }
      some { s with served := s.served ++ [served] }
  | .deliver j =>
    match s.served[j]? with
    | none => none
    | some served =>
      match served.reply with
      | .error _ | .ok none => none
      | .ok (some datagram) =>
        let accepted := X.accept s.requester s.lookup datagram
        let calls :=
          match accepted.2 with
          | none => s.calls
          | some (id, result) => s.calls.map (Call.complete id result)
        some { s with
          requester := accepted.1, calls := calls, delivered := s.delivered ++ [served] }

/-- What sending and accepting keep of the requester, a step keeps. -/
theorem requester_step {X : Exchange M R P O S A E D F} {Keeps : M → Prop}
    (hsend : ∀ m r e, Keeps m → Keeps (X.send m r e).1)
    (haccept : ∀ m lookup d, Keeps m → Keeps (X.accept m lookup d).1)
    {s s' : State M R P O S A D F} (h : Keeps s.requester) {event : Event R O E}
    (hstep : X.step s event = some s') : Keeps s'.requester := by
  cases event with
  | send request env =>
    cases hsent : (X.send s.requester request env).2 <;>
      simp only [step, hsent, Option.some.injEq] at hstep
    all_goals
      subst hstep
      exact hsend _ _ _ h
  | serve k outcome env =>
    cases hcall : s.calls[k]? with
    | none => simp [step, hcall] at hstep
    | some call =>
      simp only [step, hcall, Option.some.injEq] at hstep
      subst hstep
      exact h
  | deliver j =>
    cases hserved : s.served[j]? with
    | none => simp [step, hserved] at hstep
    | some served =>
      cases hreply : served.reply with
      | error f => simp [step, hserved, hreply] at hstep
      | ok reply =>
        cases reply with
        | none => simp [step, hserved, hreply] at hstep
        | some d =>
          simp only [step, hserved, hreply, Option.some.injEq] at hstep
          subst hstep
          exact haccept _ _ _ h

/-- What sending and accepting keep of the requester, a run keeps. -/
theorem requester_run {X : Exchange M R P O S A E D F} (Keeps : M → Prop)
    (hsend : ∀ m r e, Keeps m → Keeps (X.send m r e).1)
    (haccept : ∀ m lookup d, Keeps m → Keeps (X.accept m lookup d).1) {m : M} (hm : Keeps m)
    {events : List (Event R O E)} {s : State M R P O S A D F}
    (hrun : run X.step (State.init m) events = some s) : Keeps s.requester := by
  have hinit : Keeps (State.init m : State M R P O S A D F).requester := hm
  generalize State.init m = s₀ at hinit hrun
  induction events generalizing s₀ with
  | nil =>
    cases hrun
    exact hinit
  | cons event events ih =>
    obtain ⟨s₁, hs₁, hrun⟩ := run_cons_eq_some.mp hrun
    exact ih s₁ (requester_step hsend haccept hinit hs₁) hrun

/-! ### What a datagram does -/

/-- The two ends fit together.  `Inv` holds of the requester, `Fits` of it and what it keeps of a
request, `Sent` and `Replied` of the datagrams; `seen` and `result` are what is to come out. -/
structure Matches (X : Exchange M R P O S A E D F) (Inv : M → Prop) (Fits : M → P → Prop)
    (Sent : ℕ → R → P → D → Prop) (Replied : ℕ → R → P → O → D → Prop) (seen : R → Option S)
    (result : R → O → A) (Valid : O → Prop) (Silent : R → Prop) (Refused : F → Prop) : Prop where
  send_inv : ∀ m r e, Inv m → Inv (X.send m r e).1
  send_fits : ∀ m r e p, Inv m → Fits m p → Fits (X.send m r e).1 p
  send_next : ∀ m r e, X.next m ≤ X.next (X.send m r e).1
  send_ok : ∀ m r e p d, Inv m → (X.send m r e).2 = .ok (p, d) →
    X.next m < X.next (X.send m r e).1 ∧ Fits (X.send m r e).1 p ∧ Sent (X.next m) r p d
  serve_seen : ∀ id r p d o e, Sent id r p d → (X.serve d o e).1 = seen r
  serve_answers : ∀ id r p d o e, Sent id r p d → Valid o →
    Answers (Replied id r p o) (Silent r) Refused (X.serve d o e).2
  accept_ok : ∀ m lookup id r p o d, Inv m → Fits m p → Replied id r p o d → lookup id = some p →
    (X.accept m lookup d).2 = some (id, result r o)
  accept_inv : ∀ m lookup id r p o d, Inv m → Fits m p → Replied id r p o d →
    lookup id = some p → Inv (X.accept m lookup d).1
  accept_fits : ∀ m lookup d p, Inv m → Fits m p → Fits (X.accept m lookup d).1 p
  accept_next : ∀ m lookup d, X.next (X.accept m lookup d).1 = X.next m

/-- The responder saw the request of each call it served and responded unless the request is
silent, and a call got the result of the first response to it that was delivered. -/
structure Agrees (seen : R → Option S) (result : R → O → A) (Silent : R → Prop)
    (Refused : F → Prop) (s : State M R P O S A D F) : Prop where
  served : ∀ served ∈ s.served, ∃ call, s.calls[served.call]? = some call ∧
    served.seen = seen call.request ∧ (served.reply = .ok none → Silent call.request) ∧
    ∀ f, served.reply = .error f → Refused f
  delivered : ∀ served ∈ s.delivered, served ∈ s.served
  results : ∀ k call, s.calls[k]? = some call →
    call.result = (s.delivered.find? fun served => served.call = k).map fun served =>
      result call.request served.outcome

/-- The user of the responder does something valid. -/
def Event.Valid (Valid : O → Prop) : Event R O E → Prop
  | .serve _ outcome _ => Valid outcome
  | .send .. | .deliver _ => True

variable {X : Exchange M R P O S A E D F} {Inv : M → Prop} {Fits : M → P → Prop}
  {Sent : ℕ → R → P → D → Prop} {Replied : ℕ → R → P → O → D → Prop} {seen : R → Option S}
  {result : R → O → A} {Valid : O → Prop} {Silent : R → Prop} {Refused : F → Prop}
  {s s' : State M R P O S A D F}

/-- What holds after every step of a run. -/
structure Invariant (X : Exchange M R P O S A E D F) (Inv : M → Prop) (Fits : M → P → Prop)
    (Sent : ℕ → R → P → D → Prop) (Replied : ℕ → R → P → O → D → Prop) (seen : R → Option S)
    (result : R → O → A) (Silent : R → Prop) (Refused : F → Prop) (s : State M R P O S A D F) :
    Prop where
  agrees : Agrees seen result Silent Refused s
  inv : Inv s.requester
  calls : ∀ call ∈ s.calls, call.id < X.next s.requester ∧ Fits s.requester call.saved ∧
    Sent call.id call.request call.saved call.datagram
  ids : (s.calls.map Call.id).Nodup
  replies : ∀ served ∈ s.served, ∀ call, s.calls[served.call]? = some call →
    ∀ d, served.reply = .ok (some d) → Replied call.id call.request call.saved served.outcome d

theorem invariant_init {m : M} (h : Inv m) :
    Invariant X Inv Fits Sent Replied seen result Silent Refused (State.init m) where
  agrees := ⟨by simp [State.init], by simp [State.init], by simp [State.init]⟩
  inv := h
  calls := by simp [State.init]
  ids := List.nodup_nil
  replies := by simp [State.init]

@[simp] theorem Call.complete_id (id : ℕ) (a : A) (call : Call R P A D) :
    (call.complete id a).id = call.id := by
  unfold Call.complete
  split <;> rfl

@[simp] theorem Call.complete_request (id : ℕ) (a : A) (call : Call R P A D) :
    (call.complete id a).request = call.request := by
  unfold Call.complete
  split <;> rfl

@[simp] theorem Call.complete_saved (id : ℕ) (a : A) (call : Call R P A D) :
    (call.complete id a).saved = call.saved := by
  unfold Call.complete
  split <;> rfl

@[simp] theorem Call.complete_datagram (id : ℕ) (a : A) (call : Call R P A D) :
    (call.complete id a).datagram = call.datagram := by
  unfold Call.complete
  split <;> rfl

/-- A call with the first results there are keeps them. -/
theorem Call.complete_result (id : ℕ) (a : A) (call : Call R P A D) :
    (call.complete id a).result =
      if call.id = id then call.result.or (some a) else call.result := by
  unfold Call.complete
  by_cases h : call.id = id <;> cases hr : call.result <;> simp [h, hr]

/-- A call is looked up by its identifier. -/
theorem Invariant.lookup (h : Invariant X Inv Fits Sent Replied seen result Silent Refused s)
    {call : Call R P A D} (hcall : call ∈ s.calls) : s.lookup call.id = some call.saved := by
  have hfind : (s.calls.find? fun c => c.id = call.id) = some call := by
    obtain ⟨c, hc⟩ := Option.isSome_iff_exists.mp
      (List.find?_isSome.mpr ⟨call, hcall, by simp⟩ :
        (s.calls.find? fun c => c.id = call.id).isSome)
    have hid : c.id = call.id := by simpa using List.find?_some hc
    rw [hc, List.inj_on_of_nodup_map h.ids (List.mem_of_find?_eq_some hc) hcall hid]
  rw [State.lookup, hfind, Option.map_some]

/-- A served datagram is that of a call there is. -/
theorem Agrees.call_lt (h : Agrees seen result Silent Refused s) {served : Served O S D F}
    (hserved : served ∈ s.served) : served.call < s.calls.length := by
  obtain ⟨call, hcall, -⟩ := h.served served hserved
  exact (List.getElem?_eq_some_iff.mp hcall).1

/-- Calls that were there are there when one is added. -/
theorem getElem?_concat_of_some {α : Type} {l : List α} {k : ℕ} {a : α} (h : l[k]? = some a)
    (b : α) : (l ++ [b])[k]? = some a := by
  rw [List.getElem?_append_left (List.getElem?_eq_some_iff.mp h).1, h]

theorem Agrees.concat (h : Agrees seen result Silent Refused s) (m : M) {call : Call R P A D}
    (hcall : call.result = none) :
    Agrees seen result Silent Refused { s with requester := m, calls := s.calls ++ [call] } where
  served served hserved := by
    obtain ⟨call', hcall', hseen⟩ := h.served served hserved
    exact ⟨call', getElem?_concat_of_some hcall' call, hseen⟩
  delivered := h.delivered
  results k call' hcall' := by
    rcases Nat.lt_or_ge k s.calls.length with hk | hk
    · rw [List.getElem?_append_left hk] at hcall'
      exact h.results k call' hcall'
    · rw [List.getElem?_append_right hk, List.getElem?_singleton] at hcall'
      split at hcall'
      · cases hcall'
        have hnone : s.delivered.find? (fun served => served.call = k) = none := by
          rw [List.find?_eq_none]
          intro served hserved hk'
          have hlt := h.call_lt (h.delivered served hserved)
          have : served.call = k := by simpa using hk'
          omega
        rw [hnone, hcall]
        rfl
      · cases hcall'

theorem Invariant.send (hX : Matches X Inv Fits Sent Replied seen result Valid Silent Refused)
    (h : Invariant X Inv Fits Sent Replied seen result Silent Refused s) {r : R} {e : E}
    (hstep : X.step s (.send r e) = some s') :
    Invariant X Inv Fits Sent Replied seen result Silent Refused s' := by
  have hinv := hX.send_inv s.requester r e h.inv
  have hnext := hX.send_next s.requester r e
  have hold : ∀ call ∈ s.calls, call.id < X.next (X.send s.requester r e).1 ∧
      Fits (X.send s.requester r e).1 call.saved ∧
      Sent call.id call.request call.saved call.datagram := by
    intro call hcall
    obtain ⟨hid, hfits, hsent⟩ := h.calls call hcall
    exact ⟨by omega, hX.send_fits _ r e _ h.inv hfits, hsent⟩
  cases hsend : (X.send s.requester r e).2 with
  | error f =>
    simp only [step, hsend, Option.some.injEq] at hstep
    subst hstep
    exact ⟨⟨h.agrees.served, h.agrees.delivered, h.agrees.results⟩, hinv, hold, h.ids, h.replies⟩
  | ok sent =>
    obtain ⟨p, d⟩ := sent
    simp only [step, hsend, Option.some.injEq] at hstep
    subst hstep
    obtain ⟨hlt, hfits, hsent⟩ := hX.send_ok s.requester r e p d h.inv hsend
    refine ⟨h.agrees.concat _ rfl, hinv, ?_, ?_, ?_⟩
    · intro call hcall
      rcases List.mem_append.mp hcall with hcall | hcall
      · exact hold call hcall
      · rw [List.mem_singleton] at hcall
        subst hcall
        exact ⟨hlt, hfits, hsent⟩
    · rw [List.map_append, List.nodup_append]
      refine ⟨h.ids, List.nodup_singleton _, ?_⟩
      intro id hid id' hid' heq
      obtain ⟨call, hcall, rfl⟩ := List.mem_map.mp hid
      obtain rfl : id' = X.next s.requester := by simpa using hid'
      have := (h.calls call hcall).1
      omega
    · intro served hserved call hcall d' hd'
      rw [List.getElem?_append_left (h.agrees.call_lt hserved)] at hcall
      exact h.replies served hserved call hcall d' hd'

theorem Invariant.serve (hX : Matches X Inv Fits Sent Replied seen result Valid Silent Refused)
    (h : Invariant X Inv Fits Sent Replied seen result Silent Refused s) {k : ℕ} {o : O} {e : E}
    (hvalid : Valid o) (hstep : X.step s (.serve k o e) = some s') :
    Invariant X Inv Fits Sent Replied seen result Silent Refused s' := by
  cases hcall : s.calls[k]? with
  | none => simp [step, hcall] at hstep
  | some call =>
    simp only [step, hcall, Option.some.injEq] at hstep
    subst hstep
    obtain ⟨-, -, hsent⟩ := h.calls call (List.mem_of_getElem? hcall)
    have hanswers := hX.serve_answers _ _ _ _ o e hsent hvalid
    refine ⟨⟨?_, fun served hserved => List.mem_append_left _ (h.agrees.delivered served hserved),
      h.agrees.results⟩, h.inv, h.calls, h.ids, ?_⟩
    · intro served hserved
      rcases List.mem_append.mp hserved with hserved | hserved
      · exact h.agrees.served served hserved
      · rw [List.mem_singleton] at hserved
        subst hserved
        exact ⟨call, hcall, hX.serve_seen _ _ _ _ o e hsent,
          fun hnone => hanswers.of_none hnone, fun f hf => hanswers.of_error hf⟩
    · intro served hserved call' hcall' d hd
      rcases List.mem_append.mp hserved with hserved | hserved
      · exact h.replies served hserved call' hcall' d hd
      · rw [List.mem_singleton] at hserved
        subst hserved
        cases hcall.symm.trans hcall'
        exact hanswers.of_some hd

/-- The result of a response is for the call whose datagram was served. -/
theorem Agrees.deliver (h : Agrees seen result Silent Refused s) (m : M)
    (hids : (s.calls.map Call.id).Nodup)
    {served : Served O S D F} (hserved : served ∈ s.served) {call : Call R P A D}
    (hcall : s.calls[served.call]? = some call) :
    Agrees seen result Silent Refused { s with
      requester := m
      calls := s.calls.map (Call.complete call.id (result call.request served.outcome))
      delivered := s.delivered ++ [served] } where
  served served' hserved' := by
    obtain ⟨call', hcall', hseen⟩ := h.served served' hserved'
    refine ⟨call'.complete call.id (result call.request served.outcome), ?_, ?_⟩
    · rw [List.getElem?_map, hcall', Option.map_some]
    · rw [Call.complete_request]
      exact hseen
  delivered served' hserved' := by
    rcases List.mem_append.mp hserved' with hserved' | hserved'
    · exact h.delivered served' hserved'
    · rw [List.mem_singleton] at hserved'
      rwa [hserved']
  results k call' hcall' := by
    rw [List.getElem?_map] at hcall'
    obtain ⟨call₀, hcall₀, rfl⟩ := Option.map_eq_some_iff.mp hcall'
    rw [Call.complete_result, Call.complete_request, h.results k call₀ hcall₀, List.find?_append]
    by_cases hk : served.call = k
    · subst hk
      cases hcall.symm.trans hcall₀
      rw [if_pos rfl]
      cases s.delivered.find? (fun d => d.call = served.call) <;> simp
    · have hne : call₀.id ≠ call.id := by
        intro hid
        apply hk
        refine (List.getElem?_inj (?_ : served.call < (s.calls.map Call.id).length) hids).mp ?_
        · rw [List.length_map]
          exact (List.getElem?_eq_some_iff.mp hcall).1
        · rw [List.getElem?_map, List.getElem?_map, hcall, hcall₀, Option.map_some,
            Option.map_some, hid]
      rw [if_neg hne]
      cases s.delivered.find? (fun d => d.call = k) <;> simp [hk]

theorem Invariant.deliver (hX : Matches X Inv Fits Sent Replied seen result Valid Silent Refused)
    (h : Invariant X Inv Fits Sent Replied seen result Silent Refused s) {j : ℕ}
    (hstep : X.step s (.deliver j) = some s') :
    Invariant X Inv Fits Sent Replied seen result Silent Refused s' := by
  cases hserved : s.served[j]? with
  | none => simp [step, hserved] at hstep
  | some served =>
    cases hreply : served.reply with
    | error f => simp [step, hserved, hreply] at hstep
    | ok reply =>
      cases reply with
      | none => simp [step, hserved, hreply] at hstep
      | some d =>
        have hmem := List.mem_of_getElem? hserved
        obtain ⟨call, hcall, -⟩ := h.agrees.served served hmem
        have hcallMem := List.mem_of_getElem? hcall
        obtain ⟨-, hfits, -⟩ := h.calls call hcallMem
        have hreplied := h.replies served hmem call hcall d hreply
        have hlookup := h.lookup hcallMem
        have haccept := hX.accept_ok _ _ _ _ _ _ _ h.inv hfits hreplied hlookup
        simp only [step, hserved, hreply, haccept, Option.some.injEq] at hstep
        subst hstep
        refine ⟨h.agrees.deliver _ h.ids hmem hcall,
          hX.accept_inv _ _ _ _ _ _ _ h.inv hfits hreplied hlookup, ?_, ?_, ?_⟩
        · intro call' hcall'
          obtain ⟨call₀, hcall₀, rfl⟩ := List.mem_map.mp hcall'
          obtain ⟨hid, hfits₀, hsent⟩ := h.calls call₀ hcall₀
          rw [Call.complete_id, Call.complete_saved, Call.complete_request, Call.complete_datagram,
            hX.accept_next]
          exact ⟨hid, hX.accept_fits _ _ _ _ h.inv hfits₀, hsent⟩
        · have hids : (s.calls.map (Call.complete call.id (result call.request served.outcome))).map
              Call.id = s.calls.map Call.id := by
            rw [List.map_map]
            exact List.map_congr_left fun call' _ => Call.complete_id _ _ call'
          rw [hids]
          exact h.ids
        · intro served' hserved' call' hcall' d' hd'
          rw [List.getElem?_map] at hcall'
          obtain ⟨call₀, hcall₀, rfl⟩ := Option.map_eq_some_iff.mp hcall'
          rw [Call.complete_id, Call.complete_request, Call.complete_saved]
          exact h.replies served' hserved' call₀ hcall₀ d' hd'

/-- **Agreement.**  In every run the responder sees the requests of the calls it serves, and each
call gets the result of the first response to it that is delivered. -/
theorem run_agrees (hX : Matches X Inv Fits Sent Replied seen result Valid Silent Refused) {m : M}
    (hm : Inv m) {events : List (Event R O E)} (hvalid : ∀ event ∈ events, event.Valid Valid)
    (hrun : run X.step (State.init m) events = some s) :
    Agrees seen result Silent Refused s ∧ Inv s.requester := by
  have hinit : Invariant X Inv Fits Sent Replied seen result Silent Refused (State.init m) :=
    invariant_init hm
  generalize State.init m = s₀ at hinit hrun
  induction events generalizing s₀ with
  | nil =>
    cases hrun
    exact ⟨hinit.agrees, hinit.inv⟩
  | cons event events ih =>
    obtain ⟨s₁, hs₁, hrun⟩ := run_cons_eq_some.mp hrun
    refine ih (fun e he => hvalid e (List.mem_cons_of_mem _ he)) s₁ ?_ hrun
    cases event with
    | send r e => exact hinit.send hX hs₁
    | serve k o e => exact hinit.serve hX (hvalid _ List.mem_cons_self) hs₁
    | deliver j => exact hinit.deliver hX hs₁

end Exchange

end HatDrivers.Lib
