import Mathlib.Data.List.AList
import Mathlib.Data.List.Perm.Subperm
import Mathlib.Data.Nat.Notation

namespace HatDrivers.Mqtt

/-!
# MQTT — identifier registry

Packet identifiers of the operations of a client, each with the futures of the
acknowledgements it waits for.  When all are in use, calls wait in a queue for the
next one that is released.

Futures are named by what waits for them, and whether a future is done is a parameter
of the operations that skip those which are.
-/

/-- `_IdentifierRegistry`. -/
structure IdentifierRegistry where
  isOpen : Bool
  nextIdentifier : ℕ
  identifierFutures : AList fun _ : ℕ => List ℕ
  createFutures : List ℕ
  /-- `_create_futures.close()` was called -/
  createClosed : Bool

/-- The result of `allocate_identifier`, up to where it waits. -/
inductive Allocation
  | connectionError
  /-- `Exception('free identifier unavailable')` -/
  | unavailable
  | waits
  | identifier (identifier : ℕ) (registry : IdentifierRegistry)

/-- The result of a `put` into the queue, up to where it waits. -/
inductive Put
  | closed
  | full
  | done (registry : IdentifierRegistry)

/-- The first future of a queue that is not done, and the queue after it. -/
def nextPending (done : ℕ → Bool) : List ℕ → Option ℕ × List ℕ
  | [] => (none, [])
  | future :: futures => if done future then nextPending done futures else (some future, futures)

theorem nextPending_eq_some {done : ℕ → Bool} {futures : List ℕ} {future : ℕ}
    (h : (nextPending done futures).1 = some future) :
    future ∈ futures ∧ done future = false := by
  induction futures with
  | nil => cases h
  | cons first futures ih =>
    rw [nextPending] at h
    by_cases hdone : done first
    · rw [if_pos hdone] at h
      obtain ⟨hmem, hfuture⟩ := ih h
      exact ⟨List.mem_cons_of_mem _ hmem, hfuture⟩
    · rw [if_neg hdone] at h
      obtain rfl := Option.some.inj h
      exact ⟨List.mem_cons_self, by simpa using hdone⟩

theorem nextPending_subset (done : ℕ → Bool) (futures : List ℕ) :
    (nextPending done futures).2 ⊆ futures := by
  induction futures with
  | nil => exact List.Subset.refl _
  | cons first futures ih =>
    rw [nextPending]
    by_cases hdone : done first
    · rw [if_pos hdone]
      exact List.Subset.trans ih (List.subset_cons_self first futures)
    · rw [if_neg hdone]
      exact List.subset_cons_self first futures

namespace IdentifierRegistry

def queueSize : ℕ := 1024

def init : IdentifierRegistry where
  isOpen := true
  nextIdentifier := 1
  identifierFutures := ∅
  createFutures := []
  createClosed := false

/-- The order in which identifiers are tried. -/
def candidates (nextIdentifier : ℕ) : List ℕ :=
  List.range' nextIdentifier (0x10000 - nextIdentifier) ++ List.range' 1 (nextIdentifier - 1)

/-- The identifier that becomes `_next_identifier`. -/
def getFreeIdentifier (r : IdentifierRegistry) : Option ℕ :=
  (candidates r.nextIdentifier).find? (· ∉ r.identifierFutures)

/-- `_identifier_futures[identifier] = deque()`. -/
def register (r : IdentifierRegistry) (identifier : ℕ) : IdentifierRegistry :=
  { r with identifierFutures := r.identifierFutures.insert identifier [] }

def allocateIdentifier (r : IdentifierRegistry) : Allocation :=
  if ¬ r.isOpen then .connectionError
  else if r.identifierFutures.keys.length ≥ 0xffff - 1 then .waits
  else
    match r.getFreeIdentifier with
    | none => .unavailable
    | some identifier =>
      .identifier identifier ({ r with nextIdentifier := identifier }.register identifier)

/-- The call `call` puts its future into the queue. -/
def put (r : IdentifierRegistry) (call : ℕ) : Put :=
  if r.createClosed then .closed
  else if r.createFutures.length ≥ queueSize then .full
  else .done { r with createFutures := r.createFutures ++ [call] }

/-- The rest of `allocate_identifier` once its future has the result `identifier`, unless
the registry is closed. -/
def resume (r : IdentifierRegistry) (identifier : ℕ) : Option IdentifierRegistry :=
  if ¬ r.isOpen then none else some (r.register identifier)

/-- The call that gets the identifier, if one waits, and the futures that are left to fail. -/
def releaseIdentifier (r : IdentifierRegistry) (done : ℕ → Bool) (identifier : ℕ) :
    IdentifierRegistry × Option ℕ × List ℕ :=
  let futures := (r.identifierFutures.lookup identifier).getD []
  let (call, createFutures) := nextPending done r.createFutures
  ({ r with
      identifierFutures := r.identifierFutures.erase identifier
      createFutures := createFutures }, call, futures)

/-- `none` if the identifier is not in use, which raises `KeyError`. -/
def createFuture (r : IdentifierRegistry) (identifier future : ℕ) : Option IdentifierRegistry :=
  (r.identifierFutures.lookup identifier).map fun futures =>
    { r with identifierFutures := r.identifierFutures.insert identifier (futures ++ [future]) }

/-- The future that gets the packet, if one waits for it. -/
def registerPacket (r : IdentifierRegistry) (done : ℕ → Bool) (packetIdentifier : ℕ) :
    IdentifierRegistry × Option ℕ :=
  match r.identifierFutures.lookup packetIdentifier with
  | none => (r, none)
  | some futures =>
    let (future, futures) := nextPending done futures
    ({ r with identifierFutures := r.identifierFutures.insert packetIdentifier futures }, future)

/-- `_on_close`, with the futures of calls and of acknowledgements that fail. -/
def onClose (r : IdentifierRegistry) : IdentifierRegistry × List ℕ × List ℕ :=
  ({ r with createClosed := true, createFutures := [] }, r.createFutures,
    r.identifierFutures.entries.flatMap (·.2))

/-! ### Free identifiers -/

variable {r : IdentifierRegistry} {identifier : ℕ}

theorem mem_candidates (hpos : 1 ≤ r.nextIdentifier) (hnext : r.nextIdentifier ≤ 0xffff) :
    identifier ∈ candidates r.nextIdentifier ↔ 1 ≤ identifier ∧ identifier ≤ 0xffff := by
  rw [candidates, List.mem_append, List.mem_range'_1, List.mem_range'_1]
  omega

/-- An identifier that is found is in range and not in use. -/
theorem getFreeIdentifier_eq_some (hpos : 1 ≤ r.nextIdentifier) (hnext : r.nextIdentifier ≤ 0xffff)
    (h : r.getFreeIdentifier = some identifier) :
    identifier ∉ r.identifierFutures ∧ 1 ≤ identifier ∧ identifier ≤ 0xffff := by
  have hfree := List.find?_some h
  have hmem := List.mem_of_find?_eq_some h
  exact ⟨by simpa using hfree, (mem_candidates hpos hnext).mp hmem⟩

/-- Fewer keys than identifiers leave one free. -/
theorem exists_free (h : r.identifierFutures.keys.length < 0xffff) :
    ∃ identifier, identifier ∉ r.identifierFutures ∧ 1 ≤ identifier ∧ identifier ≤ 0xffff := by
  by_contra hnone
  push Not at hnone
  have hsubset : List.range' 1 0xffff ⊆ r.identifierFutures.keys := by
    intro identifier hidentifier
    rw [List.mem_range'_1] at hidentifier
    rw [← AList.mem_keys]
    by_contra hfree
    have := hnone identifier hfree hidentifier.1
    omega
  have hnodup : (List.range' 1 0xffff).Nodup := List.nodup_range' 1
  have hlength := (hnodup.subperm hsubset).length_le
  rw [List.length_range'] at hlength
  omega

/-- `_get_free_identifier` raises no exception where it is called. -/
theorem exists_getFreeIdentifier (hpos : 1 ≤ r.nextIdentifier) (hnext : r.nextIdentifier ≤ 0xffff)
    (h : r.identifierFutures.keys.length < 0xffff) :
    ∃ identifier, r.getFreeIdentifier = some identifier := by
  obtain ⟨identifier, hfree, hrange⟩ := exists_free h
  rw [← Option.isSome_iff_exists, getFreeIdentifier, List.find?_isSome]
  exact ⟨identifier, (mem_candidates hpos hnext).mpr hrange, by simpa using hfree⟩

/-! ### Calls -/

theorem allocateIdentifier_ne_unavailable (hpos : 1 ≤ r.nextIdentifier)
    (hnext : r.nextIdentifier ≤ 0xffff) : r.allocateIdentifier ≠ .unavailable := by
  unfold allocateIdentifier
  by_cases hopen : r.isOpen
  · rw [if_neg (by simpa using hopen)]
    by_cases hlength : r.identifierFutures.keys.length ≥ 0xffff - 1
    · rw [if_pos hlength]
      exact nofun
    · obtain ⟨identifier, hidentifier⟩ := exists_getFreeIdentifier hpos hnext
        (show r.identifierFutures.keys.length < 0xffff by omega)
      rw [if_neg hlength, hidentifier]
      exact nofun
  · rw [if_pos hopen]
    exact nofun

/-- An identifier that a call takes at once. -/
theorem allocateIdentifier_eq_identifier {r' : IdentifierRegistry}
    (h : r.allocateIdentifier = .identifier identifier r') :
    r.getFreeIdentifier = some identifier ∧
      r' = { r with nextIdentifier := identifier }.register identifier := by
  unfold allocateIdentifier at h
  split at h
  · cases h
  · split at h
    · cases h
    · cases hfree : r.getFreeIdentifier with
      | none =>
        rw [hfree] at h
        cases h
      | some n =>
        rw [hfree] at h
        obtain ⟨rfl, rfl⟩ := Allocation.identifier.inj h
        exact ⟨rfl, rfl⟩

theorem resume_eq_some {r' : IdentifierRegistry} (h : r.resume identifier = some r') :
    r' = r.register identifier := by
  unfold resume at h
  split at h
  · cases h
  · exact (Option.some.inj h).symm

/-- The rest of a queue from which a packet took a future. -/
theorem registerPacket_eq {r' : IdentifierRegistry} {done : ℕ → Bool} {future : Option ℕ}
    (h : r.registerPacket done identifier = (r', future)) :
    (r' = r ∧ future = none) ∨ ∃ ks ks', r.identifierFutures.lookup identifier = some ks ∧
      ks' ⊆ ks ∧ (∀ k ∈ future, k ∈ ks) ∧
      r' = { r with identifierFutures := r.identifierFutures.insert identifier ks' } := by
  unfold registerPacket at h
  cases hks : r.identifierFutures.lookup identifier with
  | none =>
    rw [hks] at h
    obtain ⟨rfl, rfl⟩ := Prod.mk.inj h
    exact .inl ⟨rfl, rfl⟩
  | some ks =>
    rw [hks] at h
    obtain ⟨rfl, rfl⟩ := Prod.mk.inj h
    exact .inr ⟨ks, _, rfl, nextPending_subset done ks, fun k hk => (nextPending_eq_some hk).1, rfl⟩

theorem put_eq_done {call : ℕ} {r' : IdentifierRegistry} (h : r.put call = .done r') :
    r' = { r with createFutures := r.createFutures ++ [call] } := by
  unfold put at h
  split at h
  · cases h
  · split at h
    · cases h
    · exact (Put.done.inj h).symm

end IdentifierRegistry

end HatDrivers.Mqtt
