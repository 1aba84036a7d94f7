import HatDrivers.Iec61850.Common
import HatDrivers.Lib.Entries
import HatDrivers.Lib.Transition
import Mathlib.Data.List.Nodup

namespace HatDrivers.Iec61850

open HatDrivers.Lib

/-!
# IEC 61850 client — commands and their last application errors

`select`, `operate` and `cancel` register the name and the control number of the command in a
table, send it and take from the table what was reported for it in the meantime.

A response is there before the task of the command goes on with it, and what is reported in
between is taken for an error of the command, too.  Commands get the errors that were reported
before their responses iff this never makes a difference (`correlated_iff`).
-/

/-- What a command is written to. -/
inductive Attr
  | SBOw | Oper | Cancel
  deriving DecidableEq

def Attr.name : Attr → String
  | .SBOw => "SBOw"
  | .Oper => "Oper"
  | .Cancel => "Cancel"

/-- The item id that `data_ref_to_object_name` makes for a command. -/
def commandItemId (ref : CommandRef) (attr : Attr) : String :=
  ref.logicalNode ++ "$CO" ++ ("$" ++ ref.name ++ ("$" ++ attr.name))

/-- Name and control number. -/
abbrev Key := String × ℤ

def commandKey (ref : CommandRef) (attr : Attr) (controlNumber : ℤ) : Key :=
  (ref.logicalDevice ++ "/" ++ commandItemId ref attr, controlNumber)

def LastApplError.key (e : LastApplError) : Key := (e.name, e.controlNumber)

/-- What the answer to a write request is to a command. -/
inductive Reply
  | error
  | writeResponse (results : List (Option Mms.DataAccessError))
  | unsupported
  deriving DecidableEq

/-- Where the task of a command is. -/
inductive Task
  /-- at `await self._send(req)` -/
  | sending
  /-- there, and the answer has been received -/
  | answered (res : Reply)
  | returned (result : Option CommandError)
  | raised
  deriving DecidableEq

/-- A call of `_command_with_last_appl_error`. -/
structure CommandCall where
  key : Key
  task : Task
  /-- history: how many errors had been reported when it was registered -/
  since : ℕ
  /-- history: how many had been when its answer was received -/
  till : ℕ
  deriving DecidableEq

structure Client where
  lastApplErrors : List (Key × Option LastApplError)
  commands : List CommandCall
  /-- history: the last application errors that were received -/
  reported : List LastApplError
  deriving DecidableEq

inductive Event
  /-- a command whose request can be made -/
  | command (ref : CommandRef) (attr : Attr) (controlNumber : ℤ)
  | lastApplError (e : LastApplError)
  /-- the answer to a command is received -/
  | answer (i : ℕ) (res : Reply)
  /-- the task of a command goes on with the answer -/
  | resume (i : ℕ)
  /-- `_send` raises: the task is cancelled or the connection closed -/
  | fail (i : ℕ)

/-! ### Steps -/

def createCommandError (serviceError : Option ServiceError)
    (lastApplError : Option LastApplError) : CommandError where
  serviceError := serviceError
  additionalCause := lastApplError.map (·.additionalCause)
  testError := lastApplError.map (·.error)

/-- What a command ends with. -/
def commandResult (res : Reply) (lastApplError : Option LastApplError) : Task :=
  match res with
  | .error =>
    .returned (some (createCommandError (some .FAILED_DUE_TO_COMMUNICATIONS_CONSTRAINT)
      lastApplError))
  | .writeResponse [some _] => .returned (some (createCommandError none lastApplError))
  | .writeResponse [none] => .returned none
  | .writeResponse _ => .raised
  | .unsupported => .raised

namespace Client

def init : Client := ⟨[], [], []⟩

variable (s : Client)

/-- `self._last_appl_errors[key]` -/
def entry (key : Key) : Option (Key × Option LastApplError) :=
  s.lastApplErrors.find? fun entry => entry.1 = key

def command (key : Key) : Client :=
  let call : CommandCall := ⟨key, .sending, s.reported.length, s.reported.length⟩
  if (s.entry key).isSome then { s with commands := s.commands ++ [{ call with task := .raised }] }
  else
    { s with
      lastApplErrors := s.lastApplErrors ++ [(key, none)]
      commands := s.commands ++ [call] }

/-- `_process_last_appl_error` -/
def processLastApplError (e : LastApplError) : Client :=
  { s with
    lastApplErrors := s.lastApplErrors.map fun entry =>
      if entry.1 = e.key then (entry.1, some e) else entry
    reported := s.reported ++ [e] }

/-- The command ends, by what is popped from the table. -/
def finish (i : ℕ) (call : CommandCall) (task : Option LastApplError → Task) : Client :=
  { s with
    lastApplErrors := s.lastApplErrors.filter fun entry => entry.1 ≠ call.key
    commands := s.commands.set i { call with task := task ((s.entry call.key).bind (·.2)) } }

def step : Event → Option Client
  | .command ref attr controlNumber => some (s.command (commandKey ref attr controlNumber))
  | .lastApplError e => some (s.processLastApplError e)
  | .answer i res =>
    s.commands[i]?.bind fun call =>
      match call.task with
      | .sending =>
        some { s with
          commands := s.commands.set i
            { call with task := .answered res, till := s.reported.length } }
      | _ => none
  | .resume i =>
    s.commands[i]?.bind fun call =>
      match call.task with
      | .answered res => some (s.finish i call (commandResult res))
      | _ => none
  | .fail i =>
    s.commands[i]?.bind fun call =>
      match call.task with
      | .sending | .answered _ => some (s.finish i call fun _ => .raised)
      | _ => none

end Client

/-! ### Correlation -/

def CommandCall.Active (call : CommandCall) : Prop :=
  match call.task with
  | .sending | .answered _ => True
  | _ => False

/-- The last error that was reported for a command since it was registered. -/
def CommandCall.last (call : CommandCall) (reported : List LastApplError) :
    Option LastApplError :=
  ((reported.drop call.since).filter fun e => e.key = call.key).getLast?

/-- Of these errors, the last one that was reported before the answer to the command. -/
def CommandCall.lastInTime (call : CommandCall) (reported : List LastApplError) :
    Option LastApplError :=
  call.last (reported.take call.till)

/-- Command errors have the test errors and the causes of the last errors that were reported for
their commands before the answers. -/
def Client.Own (s : Client) : Prop :=
  ∀ call ∈ s.commands, ∀ error, call.task = .returned (some error) →
    error.additionalCause = (call.lastInTime s.reported).map (·.additionalCause) ∧
    error.testError = (call.lastInTime s.reported).map (·.error)

/-- Commands get the errors that were reported for them, and no others. -/
structure Client.Correlated (s : Client) : Prop where
  own : s.Own
  /-- Active commands have entries of their own. -/
  apart : ∀ (i j : ℕ) (c d : CommandCall), s.commands[i]? = some c → s.commands[j]? = some d →
    c.Active → d.Active → c.key = d.key → i = j
  /-- A duplicate of an active command is rejected, and nothing else happens. -/
  rejected : ∀ ref attr controlNumber, ∀ call ∈ s.commands, call.Active →
    call.key = commandKey ref attr controlNumber →
    ∃ d : CommandCall, d.task = .raised ∧ s.step (.command ref attr controlNumber) =
      some { s with commands := s.commands ++ [d] }
  /-- The table is empty when no command is active. -/
  empty : (∀ call ∈ s.commands, ¬ call.Active) → s.lastApplErrors = []

/-- Does a command fail by this answer? -/
def Reply.fails : Reply → Bool
  | .error | .writeResponse [some _] => true
  | _ => false

/-- What a failed command goes on with makes no difference to what was reported in time. -/
def Client.ReportsInTime (s : Client) (event : Event) : Prop :=
  ∀ i call res, event = .resume i → s.commands[i]? = some call → call.task = .answered res →
    res.fails = true →
    ((call.last s.reported).map fun e => (e.additionalCause, e.error)) =
      (call.lastInTime s.reported).map fun e => (e.additionalCause, e.error)

/-! ### The table -/

/-- The table has an entry for each active command: what was last reported for it. -/
structure Client.Registered (s : Client) : Prop where
  nodup : (s.lastApplErrors.map (·.1)).Nodup
  entry : ∀ entry ∈ s.lastApplErrors, ∃ call ∈ s.commands, call.Active ∧ call.key = entry.1
  active : ∀ call ∈ s.commands, call.Active →
    (call.key, call.last s.reported) ∈ s.lastApplErrors
  apart : ∀ (i j : ℕ) (c d : CommandCall), s.commands[i]? = some c → s.commands[j]? = some d →
    c.Active → d.Active → c.key = d.key → i = j
  times : ∀ call ∈ s.commands, call.since ≤ s.reported.length ∧ call.till ≤ s.reported.length

variable {s s' : Client} {call : CommandCall} {i : ℕ} {key : Key}

theorem CommandCall.last_eq_none {reported : List LastApplError}
    (h : call.since = reported.length) : call.last reported = none := by
  simp [CommandCall.last, h]

theorem CommandCall.last_append {reported : List LastApplError}
    (h : call.since ≤ reported.length) (e : LastApplError) :
    call.last (reported ++ [e]) = if call.key = e.key then some e else call.last reported := by
  rw [CommandCall.last, CommandCall.last, List.drop_append_of_le_length h, List.filter_append]
  by_cases hkey : e.key = call.key
  · simp [hkey]
  · simp [hkey, Ne.symm hkey]

theorem CommandCall.lastInTime_append {reported : List LastApplError}
    (h : call.till ≤ reported.length) (e : LastApplError) :
    call.lastInTime (reported ++ [e]) = call.lastInTime reported := by
  rw [CommandCall.lastInTime, CommandCall.lastInTime, List.take_append_of_le_length h]

/-- The entry of a command is found by its key. -/
theorem Client.Registered.entry_eq (h : s.Registered) (hmem : call ∈ s.commands)
    (hactive : call.Active) : s.entry call.key = some (call.key, call.last s.reported) := by
  have hentry := h.active call hmem hactive
  cases hfind : s.entry call.key with
  | none => exact absurd (List.find?_eq_none.mp hfind _ hentry) (by simp)
  | some entry =>
    have hkey : entry.1 = call.key := by simpa using List.find?_some hfind
    rw [List.inj_on_of_nodup_map h.nodup (List.mem_of_find?_eq_some hfind) hentry hkey]

theorem Client.Registered.entry_eq_none (h : s.Registered)
    (hnone : ∀ call ∈ s.commands, call.Active → call.key ≠ key) : s.entry key = none := by
  apply List.find?_eq_none.mpr
  intro entry hentry
  obtain ⟨call, hmem, hactive, hkey⟩ := h.entry entry hentry
  simp [← hkey, hnone call hmem hactive]

theorem Client.Registered.correlated (h : s.Registered) (hown : s.Own) : s.Correlated where
  own := hown
  apart := h.apart
  rejected ref attr controlNumber call hmem hactive hkey := by
    have hsome : (s.entry (commandKey ref attr controlNumber)).isSome := by
      rw [← hkey, h.entry_eq hmem hactive]
      rfl
    exact ⟨_, rfl, by rw [Client.step, Client.command, if_pos hsome]⟩
  empty hnone := by
    apply List.eq_nil_iff_forall_not_mem.mpr
    intro entry hentry
    obtain ⟨call, hmem, hactive, -⟩ := h.entry entry hentry
    exact hnone call hmem hactive

/-! ### Steps -/

theorem Client.Registered.init : Client.init.Registered where
  nodup := List.nodup_nil
  entry entry h := by simp [Client.init] at h
  active call h := by simp [Client.init] at h
  apart i j c d h := by simp [Client.init] at h
  times call h := by simp [Client.init] at h

theorem Client.Registered.command (h : s.Registered) (key : Key) : (s.command key).Registered := by
  unfold Client.command
  by_cases hsome : (s.entry key).isSome = true
  · simp only [if_pos hsome]
    constructor
    · exact h.nodup
    · intro entry hentry
      obtain ⟨call, hmem, hcall⟩ := h.entry entry hentry
      exact ⟨call, List.mem_append_left _ hmem, hcall⟩
    · intro call hmem hactive
      rcases List.mem_append.mp hmem with hmem | hmem
      · exact h.active call hmem hactive
      · obtain rfl := List.mem_singleton.mp hmem
        exact hactive.elim
    · intro i j c d hc hd hca hda hkey
      rcases getElem?_concat_eq_some.mp hc with hc | ⟨rfl, rfl⟩
      · rcases getElem?_concat_eq_some.mp hd with hd | ⟨rfl, rfl⟩
        · exact h.apart i j c d hc hd hca hda hkey
        · exact hda.elim
      · exact hca.elim
    · intro call hmem
      rcases List.mem_append.mp hmem with hmem | hmem
      · exact h.times call hmem
      · obtain rfl := List.mem_singleton.mp hmem
        exact ⟨Nat.le_refl _, Nat.le_refl _⟩
  · simp only [if_neg hsome]
    have hnone : s.entry key = none := by simpa using hsome
    have hfresh : ∀ call ∈ s.commands, call.Active → call.key ≠ key := by
      intro call hmem hactive hkey
      rw [← hkey, h.entry_eq hmem hactive] at hnone
      cases hnone
    constructor
    · rw [List.map_append]
      apply List.Nodup.append h.nodup (List.nodup_singleton _)
      rw [List.disjoint_singleton]
      intro hkey
      obtain ⟨entry, hentry, rfl⟩ := List.mem_map.mp hkey
      exact absurd (List.find?_eq_none.mp hnone _ hentry) (by simp)
    · intro entry hentry
      rcases List.mem_append.mp hentry with hentry | hentry
      · obtain ⟨call, hmem, hcall⟩ := h.entry entry hentry
        exact ⟨call, List.mem_append_left _ hmem, hcall⟩
      · obtain rfl := List.mem_singleton.mp hentry
        exact ⟨_, List.mem_append_right _ (List.mem_singleton_self _), trivial, rfl⟩
    · intro call hmem hactive
      rcases List.mem_append.mp hmem with hmem | hmem
      · exact List.mem_append_left _ (h.active call hmem hactive)
      · obtain rfl := List.mem_singleton.mp hmem
        rw [CommandCall.last_eq_none rfl]
        exact List.mem_append_right _ (List.mem_singleton_self _)
    · intro i j c d hc hd hca hda hkey
      rcases getElem?_concat_eq_some.mp hc with hc | ⟨rfl, rfl⟩ <;>
        rcases getElem?_concat_eq_some.mp hd with hd | ⟨rfl, rfl⟩
      · exact h.apart i j c d hc hd hca hda hkey
      · exact absurd hkey (hfresh c (List.mem_of_getElem? hc) hca)
      · exact absurd hkey.symm (hfresh d (List.mem_of_getElem? hd) hda)
      · rfl
    · intro call hmem
      rcases List.mem_append.mp hmem with hmem | hmem
      · exact h.times call hmem
      · obtain rfl := List.mem_singleton.mp hmem
        exact ⟨Nat.le_refl _, Nat.le_refl _⟩

theorem Client.Registered.processLastApplError (h : s.Registered) (e : LastApplError) :
    (s.processLastApplError e).Registered := by
  have hkeys : ((s.lastApplErrors.map fun entry =>
      if entry.1 = e.key then (entry.1, some e) else entry).map (·.1)) =
      s.lastApplErrors.map (·.1) := by
    rw [List.map_map]
    apply List.map_congr_left
    intro entry _
    by_cases hkey : entry.1 = e.key <;> simp [hkey]
  constructor
  · show (List.map _ (List.map _ _)).Nodup
    rw [hkeys]
    exact h.nodup
  · intro entry hentry
    obtain ⟨entry', hentry', rfl⟩ := List.mem_map.mp hentry
    obtain ⟨call, hmem, hactive, hkey⟩ := h.entry entry' hentry'
    refine ⟨call, hmem, hactive, hkey.trans ?_⟩
    by_cases he : entry'.1 = e.key <;> simp [he]
  · intro call hmem hactive
    show (call.key, call.last (s.reported ++ [e])) ∈ _
    rw [CommandCall.last_append (h.times call hmem).1]
    refine List.mem_map.mpr ⟨_, h.active call hmem hactive, ?_⟩
    by_cases hkey : call.key = e.key <;> simp [hkey]
  · exact h.apart
  · intro call hmem
    obtain ⟨hsince, htill⟩ := h.times call hmem
    show _ ≤ (s.reported ++ [e]).length ∧ _ ≤ (s.reported ++ [e]).length
    rw [List.length_append]
    exact ⟨Nat.le_add_right_of_le hsince, Nat.le_add_right_of_le htill⟩

theorem Client.Registered.answer (h : s.Registered) (hcall : s.commands[i]? = some call)
    (htask : call.task = .sending) (res : Reply) :
    Client.Registered { s with
      commands := s.commands.set i
        { call with task := .answered res, till := s.reported.length } } := by
  have hmem := List.mem_of_getElem? hcall
  have hactive : call.Active := by rw [CommandCall.Active, htask]; trivial
  have hlt : i < s.commands.length := (List.getElem?_eq_some_iff.mp hcall).1
  constructor
  · exact h.nodup
  · intro entry hentry
    obtain ⟨c, hc, hca, hkey⟩ := h.entry entry hentry
    obtain ⟨j, hj⟩ := List.getElem?_of_mem hc
    by_cases hij : i = j
    · subst hij
      obtain rfl := Option.some.inj (hcall.symm.trans hj)
      exact ⟨_, List.mem_set hlt _, trivial, hkey⟩
    · exact ⟨c, List.mem_of_getElem? (getElem?_set_eq_some.mpr (.inl ⟨hij, hj⟩)), hca, hkey⟩
  · exact forall_mem_set h.active fun _ => h.active call hmem hactive
  · intro j k c d hc hd hca hda hkey
    rcases getElem?_set_eq_some.mp hc with ⟨-, hc⟩ | ⟨rfl, -, rfl⟩ <;>
      rcases getElem?_set_eq_some.mp hd with ⟨-, hd⟩ | ⟨rfl, -, rfl⟩
    · exact h.apart j k c d hc hd hca hda hkey
    · exact h.apart j i c call hc hcall hca hactive hkey
    · exact h.apart i k call d hcall hd hactive hda hkey
    · rfl
  · exact forall_mem_set h.times ⟨(h.times call hmem).1, Nat.le_refl _⟩

/-- A command that ends takes its entry with it. -/
theorem Client.Registered.finish (h : s.Registered) (hcall : s.commands[i]? = some call)
    (hactive : call.Active) {task : Option LastApplError → Task}
    (hover : ∀ last, ¬ CommandCall.Active { call with task := task last }) :
    (s.finish i call task).Registered := by
  have hmem := List.mem_of_getElem? hcall
  constructor
  · exact h.nodup.sublist (List.filter_sublist.map _)
  · intro entry hentry
    obtain ⟨hentry, hkey⟩ := List.mem_filter.mp hentry
    obtain ⟨c, hc, hca, hck⟩ := h.entry entry hentry
    obtain ⟨j, hj⟩ := List.getElem?_of_mem hc
    have hij : i ≠ j := by
      rintro rfl
      obtain rfl := Option.some.inj (hcall.symm.trans hj)
      simp [hck] at hkey
    exact ⟨c, List.mem_of_getElem? (getElem?_set_eq_some.mpr (.inl ⟨hij, hj⟩)), hca, hck⟩
  · intro c hc hca
    obtain ⟨j, hj⟩ := List.getElem?_of_mem hc
    rcases getElem?_set_eq_some.mp hj with ⟨hij, hj⟩ | ⟨rfl, -, rfl⟩
    · apply List.mem_filter.mpr
      refine ⟨h.active c (List.mem_of_getElem? hj) hca, ?_⟩
      have hne : c.key ≠ call.key := fun hkey =>
        hij (h.apart i j call c hcall hj hactive hca hkey.symm)
      simpa using hne
    · exact absurd hca (hover _)
  · intro j k c d hc hd hca hda hkey
    rcases getElem?_set_eq_some.mp hc with ⟨-, hc⟩ | ⟨-, -, rfl⟩
    · rcases getElem?_set_eq_some.mp hd with ⟨-, hd⟩ | ⟨-, -, rfl⟩
      · exact h.apart j k c d hc hd hca hda hkey
      · exact absurd hda (hover _)
    · exact absurd hca (hover _)
  · exact forall_mem_set h.times (h.times call hmem)

/-- What a command that ends pops from the table. -/
theorem Client.Registered.finish_eq (h : s.Registered) (hcall : s.commands[i]? = some call)
    (hactive : call.Active) (task : Option LastApplError → Task) :
    (s.finish i call task).commands =
      s.commands.set i { call with task := task (call.last s.reported) } := by
  rw [Client.finish, h.entry_eq (List.mem_of_getElem? hcall) hactive]
  rfl

/-- A command error is that of a failure, with the error that was found. -/
theorem commandResult_eq {res : Reply} {last : Option LastApplError} {error : CommandError}
    (h : commandResult res last = .returned (some error)) :
    res.fails = true ∧ error.additionalCause = last.map (·.additionalCause) ∧
      error.testError = last.map (·.error) := by
  rcases res with _ | ⟨_ | ⟨_ | _, _ | _⟩⟩ | _ <;> cases h <;> exact ⟨rfl, rfl, rfl⟩

theorem exists_commandResult {res : Reply} (h : res.fails = true) (last : Option LastApplError) :
    ∃ error : CommandError, commandResult res last = .returned (some error) ∧
      error.additionalCause = last.map (·.additionalCause) ∧
      error.testError = last.map (·.error) := by
  rcases res with _ | ⟨_ | ⟨_ | _, _ | _⟩⟩ | _ <;> cases h <;> exact ⟨_, rfl, rfl, rfl⟩

theorem commandResult_over (res : Reply) (last : Option LastApplError) :
    ¬ CommandCall.Active { call with task := commandResult res last } := by
  rcases res with _ | ⟨_ | ⟨_ | _, _ | _⟩⟩ | _ <;> exact not_false

theorem Client.step_cases {event : Event} (hs : s.step event = some s') :
    (∃ ref attr controlNumber, event = .command ref attr controlNumber ∧
      s' = s.command (commandKey ref attr controlNumber)) ∨
    (∃ e, event = .lastApplError e ∧ s' = s.processLastApplError e) ∨
    (∃ i call res, event = .answer i res ∧ s.commands[i]? = some call ∧ call.task = .sending ∧
      s' = { s with
        commands := s.commands.set i
          { call with task := .answered res, till := s.reported.length } }) ∨
    (∃ i call res, event = .resume i ∧ s.commands[i]? = some call ∧ call.task = .answered res ∧
      s' = s.finish i call (commandResult res)) ∨
    (∃ i call, event = .fail i ∧ s.commands[i]? = some call ∧ call.Active ∧
      s' = s.finish i call fun _ => .raised) := by
  cases event with
  | command ref attr controlNumber =>
    exact .inl ⟨ref, attr, controlNumber, rfl, (Option.some.inj hs).symm⟩
  | lastApplError e => exact .inr (.inl ⟨e, rfl, (Option.some.inj hs).symm⟩)
  | answer i res =>
    obtain ⟨call, hcall, hs⟩ := Option.bind_eq_some_iff.mp hs
    cases htask : call.task <;> simp only [htask] at hs <;> try cases hs
    exact .inr (.inr (.inl ⟨i, call, res, rfl, hcall, htask, rfl⟩))
  | resume i =>
    obtain ⟨call, hcall, hs⟩ := Option.bind_eq_some_iff.mp hs
    cases htask : call.task <;> simp only [htask] at hs <;> try cases hs
    exact .inr (.inr (.inr (.inl ⟨i, call, _, rfl, hcall, htask, rfl⟩)))
  | fail i =>
    obtain ⟨call, hcall, hs⟩ := Option.bind_eq_some_iff.mp hs
    refine .inr (.inr (.inr (.inr ⟨i, call, rfl, hcall, ?_⟩)))
    cases htask : call.task <;> simp only [htask] at hs <;> cases hs <;>
      exact ⟨by rw [CommandCall.Active, htask]; trivial, rfl⟩

theorem CommandCall.active_of_answered {res : Reply} (h : call.task = .answered res) :
    call.Active := by
  rw [CommandCall.Active, h]
  trivial

theorem Client.Registered.step {event : Event} (h : s.Registered)
    (hs : s.step event = some s') : s'.Registered := by
  obtain ⟨ref, attr, controlNumber, -, rfl⟩ | ⟨e, -, rfl⟩ | ⟨i, call, res, -, hcall, htask, rfl⟩ |
    ⟨i, call, res, -, hcall, htask, rfl⟩ | ⟨i, call, -, hcall, hactive, rfl⟩ :=
    Client.step_cases hs
  · exact h.command _
  · exact h.processLastApplError e
  · exact h.answer hcall htask res
  · exact h.finish hcall (CommandCall.active_of_answered htask) (commandResult_over res)
  · exact h.finish hcall hactive fun _ => not_false

theorem Client.Own.step {event : Event} (hown : s.Own) (h : s.Registered)
    (htime : s.ReportsInTime event) (hs : s.step event = some s') : s'.Own := by
  obtain ⟨ref, attr, controlNumber, rfl, rfl⟩ | ⟨e, rfl, rfl⟩ |
    ⟨i, call, res, rfl, hcall, htask, rfl⟩ | ⟨i, call, res, rfl, hcall, htask, rfl⟩ |
    ⟨i, call, rfl, hcall, hactive, rfl⟩ := Client.step_cases hs
  · have hcommands : ∃ c : CommandCall, (c.task = .sending ∨ c.task = .raised) ∧
        (s.command (commandKey ref attr controlNumber)).commands = s.commands ++ [c] ∧
        (s.command (commandKey ref attr controlNumber)).reported = s.reported := by
      unfold Client.command
      split
      · exact ⟨_, .inr rfl, rfl, rfl⟩
      · exact ⟨_, .inl rfl, rfl, rfl⟩
    obtain ⟨c, hc, hcommands, hreported⟩ := hcommands
    intro call hmem error herror
    rw [hcommands] at hmem
    rw [hreported]
    rcases List.mem_append.mp hmem with hmem | hmem
    · exact hown call hmem error herror
    · obtain rfl := List.mem_singleton.mp hmem
      rcases hc with hc | hc <;> rw [hc] at herror <;> cases herror
  · intro call hmem error herror
    have htimely : call.lastInTime (s.processLastApplError e).reported =
        call.lastInTime s.reported := CommandCall.lastInTime_append (h.times call hmem).2 e
    rw [htimely]
    exact hown call hmem error herror
  · refine forall_mem_set hown ?_
    intro error herror
    cases herror
  · intro c hmem error herror
    rw [h.finish_eq hcall (CommandCall.active_of_answered htask)] at hmem
    revert error
    refine forall_mem_set hown ?_ c hmem
    intro error herror
    obtain ⟨hfails, hcause, htest⟩ := commandResult_eq herror
    have hagree := htime i call res rfl hcall htask hfails
    have hcauses := congrArg (Option.map Prod.fst) hagree
    have htests := congrArg (Option.map Prod.snd) hagree
    rw [Option.map_map, Option.map_map] at hcauses htests
    exact ⟨hcause.trans hcauses, htest.trans htests⟩
  · refine forall_mem_set hown ?_
    intro error herror
    cases herror

/-- What is reported too late is taken for an error of the command. -/
theorem Client.Registered.leaves {event : Event} (h : s.Registered)
    (htime : ¬ s.ReportsInTime event) : ∃ s', s.step event = some s' ∧ ¬ s'.Own := by
  simp only [Client.ReportsInTime, not_forall] at htime
  obtain ⟨i, call, res, rfl, hcall, htask, hfails, hdiffer⟩ := htime
  have hlt : i < s.commands.length := (List.getElem?_eq_some_iff.mp hcall).1
  refine ⟨s.finish i call (commandResult res), ?_, fun hown => hdiffer ?_⟩
  · simp only [Client.step, hcall, Option.bind_some, htask]
  · obtain ⟨error, herror, hcause, htest⟩ := exists_commandResult hfails (call.last s.reported)
    have hmem : { call with task := .returned (some error) } ∈
        (s.finish i call (commandResult res)).commands := by
      rw [h.finish_eq hcall (CommandCall.active_of_answered htask), herror]
      exact List.mem_set hlt _
    obtain ⟨hcause', htest'⟩ := hown _ hmem error rfl
    have hcauses := hcause.symm.trans hcause'
    have htests := htest.symm.trans htest'
    show Option.map _ (call.last s.reported) = Option.map _ (call.lastInTime s.reported)
    change _ = (call.lastInTime s.reported).map _ at hcauses htests
    cases hlast : call.last s.reported <;> cases htimely : call.lastInTime s.reported <;>
      rw [hlast, htimely] at hcauses htests <;> grind

/-! ### Runs -/

/-- The invariant of the runs whose reports are in time. -/
def Client.Inv (s : Client) : Prop := s.Registered ∧ s.Own

theorem Client.Inv.init : Client.init.Inv :=
  ⟨Client.Registered.init, fun _ h => by simp [Client.init] at h⟩

/-- **Causes of failed commands.**  In a run of a client its commands are correlated with what is
reported for them, in every state, if and only if no command that failed goes on with an error
that was reported after the answer and says something else. -/
theorem correlated_iff (events : List Event) :
    (∀ events' s, events' <+: events → run Client.step .init events' = some s → s.Correlated) ↔
      Along Client.step Client.ReportsInTime .init events := by
  refine forall_safe_iff_along ?_ ?_ ?_ Client.Inv.init
  · rintro s event s' ⟨h, hown⟩ htime hs
    exact ⟨h.step hs, hown.step h htime hs⟩
  · rintro s ⟨h, hown⟩
    exact h.correlated hown
  · rintro s event ⟨h, -⟩ htime
    obtain ⟨s', hs', hnot⟩ := h.leaves htime
    exact ⟨s', hs', fun hcorrelated => hnot hcorrelated.own⟩

/-- An operate that is denied; why another one is blocked is reported before its task goes on. -/
def lateReport : List Event :=
  [.command ⟨"IED", "GGIO1", "SPCSO1"⟩ .Oper 7,
    .answer 0 (.writeResponse [some .OBJECT_ACCESS_DENIED]),
    .lastApplError ⟨"IED/GGIO1$CO$SPCSO1$Oper", .NO_ERROR, 7, .BLOCKED_BY_INTERLOCKING⟩,
    .resume 0]

theorem lateReport_not_correlated :
    ∃ s, run Client.step .init lateReport = some s ∧ ¬ s.Correlated := by
  have hrun : (run Client.step .init lateReport).map (·.commands) =
      some [⟨("IED/GGIO1$CO$SPCSO1$Oper", 7), .returned (some ⟨none,
        some .BLOCKED_BY_INTERLOCKING, some .NO_ERROR⟩), 0, 0⟩] := by decide +kernel
  obtain ⟨s, hs, hcommands⟩ := Option.map_eq_some_iff.mp hrun
  refine ⟨s, hs, fun h => ?_⟩
  obtain ⟨hcause, -⟩ := h.own _ (by rw [hcommands]; exact List.mem_singleton_self _) _ rfl
  have hnone : CommandCall.lastInTime ⟨("IED/GGIO1$CO$SPCSO1$Oper", 7), .returned (some ⟨none,
      some .BLOCKED_BY_INTERLOCKING, some .NO_ERROR⟩), 0, 0⟩ s.reported = none := rfl
  rw [hnone] at hcause
  cases hcause

end HatDrivers.Iec61850
