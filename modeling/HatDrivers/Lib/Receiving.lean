import HatDrivers.Lib.Framing
import HatDrivers.Lib.Transition

namespace HatDrivers.Lib

/-!
# Reading frames as their bytes arrive

A reader takes frame after frame off a connection whose bytes arrive in chunks of any size.  It
asks, for the bytes of the frame that it has, how many bytes the frame has, and waits until the
missing ones are there.

A stream of framed values is read as these values (`Receiving.Complete`), for every chunking, and
never are bytes asked for that are behind the frame that is read.
-/

variable {ε α : Type}

/-- A reader, with the bytes on their way to it. -/
structure Receiving (ε α : Type) where
  /-- sent, and not arrived yet -/
  stream : Bytes
  /-- arrived, and not read yet -/
  inputBuffer : Bytes
  /-- read of the current frame -/
  data : Bytes
  returned : List α
  failed : Option ε

namespace Receiving

inductive Event
  /-- a chunk of `n` bytes arrives -/
  | deliver (n : ℕ)
  /-- the reader goes on, to the next time it waits for bytes, or to the end of a frame -/
  | read
  deriving DecidableEq

def init (stream : Bytes) : Receiving ε α := ⟨stream, [], [], [], none⟩

/-- The frame is decoded, and the next one is begun. -/
def finish (decode : Bytes → Except ε α) (s : Receiving ε α) : Receiving ε α :=
  match decode s.data with
  | .error e => { s with failed := some e }
  | .ok a => { s with data := [], returned := s.returned ++ [a] }

/-- The missing bytes are read, when they are there. -/
def extend (s : Receiving ε α) (missing : ℕ) : Option (Receiving ε α) :=
  if missing ≤ s.inputBuffer.length then
    some { s with
      data := s.data ++ s.inputBuffer.take missing
      inputBuffer := s.inputBuffer.drop missing }
  else none

/-- An iteration of the loop that reads a frame. -/
def readMore (next : NextSize ε) (decode : Bytes → Except ε α) (s : Receiving ε α) :
    Option (Receiving ε α) :=
  match next s.data with
  | .error e => some { s with failed := some e }
  | .ok size =>
    if size ≤ s.data.length then some (s.finish decode) else s.extend (size - s.data.length)

def step (next : NextSize ε) (decode : Bytes → Except ε α) (s : Receiving ε α) :
    Event → Option (Receiving ε α)
  | .deliver n =>
    if 1 ≤ n ∧ n ≤ s.stream.length then
      some { s with
        inputBuffer := s.inputBuffer ++ s.stream.take n
        stream := s.stream.drop n }
    else none
  | .read => if s.failed.isSome then none else s.readMore next decode

variable {next : NextSize ε} {decode : Bytes → Except ε α} {s s' : Receiving ε α}
variable {frames : List Bytes} {as : List α} {frame : Bytes} {a : α}

theorem step_deliver {n : ℕ} :
    step next decode s (.deliver n) = some s' ↔ (1 ≤ n ∧ n ≤ s.stream.length) ∧
      s' = { s with
        inputBuffer := s.inputBuffer ++ s.stream.take n
        stream := s.stream.drop n } := by
  by_cases hn : 1 ≤ n ∧ n ≤ s.stream.length
  · rw [step, if_pos hn, and_iff_right hn, Option.some.injEq, eq_comm]
  · rw [step, if_neg hn]
    exact iff_of_false nofun fun h => hn h.1

theorem extend_eq_some {missing : ℕ} :
    s.extend missing = some s' ↔ missing ≤ s.inputBuffer.length ∧
      s' = { s with
        data := s.data ++ s.inputBuffer.take missing
        inputBuffer := s.inputBuffer.drop missing } := by
  by_cases hn : missing ≤ s.inputBuffer.length
  · rw [extend, if_pos hn, and_iff_right hn, Option.some.injEq, eq_comm]
  · rw [extend, if_neg hn]
    exact iff_of_false nofun fun h => hn h.1

/-! ### Where the reader stands -/

/-- A part of the frame, as long as the reader holds one. -/
def Part (next : NextSize ε) (frame data : Bytes) : Prop :=
  ∃ I k, FramedBy next frame I ∧ k ≤ frame.length ∧ data = frame.take k ∧ I k

theorem Part.start (h : Framed next frame) : Part next frame [] := by
  obtain ⟨I, h⟩ := h
  exact ⟨I, 0, h, Nat.zero_le _, rfl, h.zero⟩

/-- Either the frame is whole, or a size is asked for that is longer and within the frame. -/
theorem Part.asks {data : Bytes} (h : Part next frame data) : ∃ size, next data = .ok size ∧
    size ≤ frame.length ∧ data = frame.take data.length ∧
      (size ≤ data.length → data = frame) ∧ (data.length < size → Part next frame (frame.take size)) := by
  obtain ⟨I, k, hframed, hk, rfl, hI⟩ := h
  have hlen : (frame.take k).length = k := by rw [List.length_take]; omega
  rw [hlen]
  rcases Nat.lt_or_ge k frame.length with hlt | hge
  · obtain ⟨size, hsize, hks, hle, hI'⟩ := hframed.step k hlt hI
    exact ⟨size, hsize, hle, rfl, fun h => absurd h (by omega),
      fun _ => ⟨I, size, hframed, hle, rfl, hI'⟩⟩
  · obtain ⟨size, hsize, hle⟩ := hframed.final
    rw [List.take_of_length_le hge]
    exact ⟨size, hsize, hle, rfl, fun _ => rfl, fun h => absurd h (by omega)⟩

/-- What is still to be returned: the values of the frames that are not read yet. -/
structure Pending (next : NextSize ε) (decode : Bytes → Except ε α) (s : Receiving ε α)
    (frames : List Bytes) (as : List α) : Prop where
  failed : s.failed = none
  bytes : s.data ++ (s.inputBuffer ++ s.stream) = frames.flatten
  framed : ∀ frame ∈ frames, Framed next frame
  decodes : List.Forall₂ (fun frame a => decode frame = .ok a) frames as
  part : ∀ frame ∈ frames.head?, Part next frame s.data

/-- Some of the values are returned, and the others are still to be returned. -/
def Inv (next : NextSize ε) (decode : Bytes → Except ε α) (frames : List Bytes) (as : List α)
    (s : Receiving ε α) : Prop :=
  s.returned = as.take s.returned.length ∧
    s.Pending next decode (frames.drop s.returned.length) (as.drop s.returned.length)

theorem inv_init (hframed : ∀ frame ∈ frames, Framed next frame)
    (hdecodes : List.Forall₂ (fun frame a => decode frame = .ok a) frames as) :
    (init frames.flatten).Inv next decode frames as := by
  refine ⟨rfl, rfl, rfl, hframed, hdecodes, fun frame hframe => ?_⟩
  exact .start (hframed frame (List.mem_of_mem_head? hframe))

theorem Pending.deliver {n : ℕ} (h : s.Pending next decode frames as) :
    Pending next decode { s with
      inputBuffer := s.inputBuffer ++ s.stream.take n
      stream := s.stream.drop n } frames as where
  failed := h.failed
  bytes := by
    show s.data ++ (s.inputBuffer ++ s.stream.take n ++ s.stream.drop n) = _
    rw [List.append_assoc, List.take_append_drop]
    exact h.bytes
  framed := h.framed
  decodes := h.decodes
  part := h.part

/-- Nothing is left when no frame is left. -/
theorem Pending.eq_nil (h : s.Pending next decode [] as) :
    s.data = [] ∧ s.inputBuffer = [] ∧ s.stream = [] ∧ as = [] := by
  have hbytes := h.bytes
  rw [List.flatten_nil, List.append_eq_nil_iff, List.append_eq_nil_iff] at hbytes
  refine ⟨hbytes.1, hbytes.2.1, hbytes.2.2, ?_⟩
  cases h.decodes
  rfl

/-- The missing bytes of a frame are read. -/
theorem Pending.extend {size : ℕ} (h : s.Pending next decode (frame :: frames) as)
    (hle : size ≤ frame.length) (hdata : s.data = frame.take s.data.length)
    (hlt : s.data.length < size) (hpart : Part next frame (frame.take size))
    (hmissing : size - s.data.length ≤ s.inputBuffer.length) :
    Pending next decode { s with
      data := s.data ++ s.inputBuffer.take (size - s.data.length)
      inputBuffer := s.inputBuffer.drop (size - s.data.length) } (frame :: frames) as := by
  have hbytes := h.bytes
  have hrest : s.inputBuffer ++ s.stream = frame.drop s.data.length ++ frames.flatten := by
    rw [List.flatten_cons] at hbytes
    nth_rewrite 1 [hdata] at hbytes
    nth_rewrite 2 [← List.take_append_drop s.data.length frame] at hbytes
    rw [List.append_assoc] at hbytes
    exact List.append_cancel_left hbytes
  have hread : s.data ++ s.inputBuffer.take (size - s.data.length) = frame.take size := by
    have htake := @List.take_append_of_le_length _ s.inputBuffer s.stream _ hmissing
    rw [← htake, hrest]
    nth_rewrite 1 [hdata]
    exact (take_read (Nat.le_of_lt hlt) hle _).1
  refine ⟨h.failed, ?_, h.framed, h.decodes, fun frame' hframe => ?_⟩
  · show s.data ++ s.inputBuffer.take _ ++ (s.inputBuffer.drop _ ++ s.stream) = _
    rw [List.append_assoc, ← List.append_assoc (s.inputBuffer.take _), List.take_append_drop]
    exact hbytes
  · obtain rfl := Option.some.inj hframe
    dsimp only
    rwa [hread]

/-- A whole frame is decoded. -/
theorem Pending.finish (h : s.Pending next decode (frame :: frames) (a :: as))
    (hdata : s.data = frame) :
    Pending next decode { s with data := [], returned := s.returned ++ [a] } frames as := by
  obtain ⟨-, hdecodes⟩ := List.forall₂_cons.mp h.decodes
  refine ⟨h.failed, ?_, fun f hf => h.framed f (List.mem_cons_of_mem _ hf), hdecodes, ?_⟩
  · have hbytes := h.bytes
    rw [hdata, List.flatten_cons] at hbytes
    exact List.append_cancel_left hbytes
  · intro f hf
    exact .start (h.framed f (List.mem_cons_of_mem _ (List.mem_of_mem_head? hf)))

/-- What the reader does when it goes on: a frame is finished, or missing bytes are read. -/
theorem Pending.read_cases (hstart : ∃ size, next [] = .ok size ∧ 0 < size)
    (h : s.Pending next decode frames as) (hread : s.readMore next decode = some s') :
    (∃ a as', as = a :: as' ∧ s.data ≠ [] ∧
        s' = { s with data := [], returned := s.returned ++ [a] } ∧
        s'.Pending next decode frames.tail as') ∨
      ∃ missing, (1 ≤ missing ∧ missing ≤ s.inputBuffer.length) ∧
        s' = { s with
          data := s.data ++ s.inputBuffer.take missing
          inputBuffer := s.inputBuffer.drop missing } ∧
        s'.Pending next decode frames as := by
  obtain ⟨first, hfirst, hpos⟩ := hstart
  cases h.decodes with
  | nil =>
    -- the reader waits for the first bytes of a frame that does not come
    obtain ⟨hdata, hinput, -, -⟩ := h.eq_nil
    have hlong : ¬ first ≤ 0 := by omega
    simp only [readMore, hdata, hfirst, List.length_nil, if_neg hlong] at hread
    obtain ⟨hle, -⟩ := extend_eq_some.mp hread
    rw [hinput, List.length_nil] at hle
    omega
  | @cons frame a frames as hdecode hrest =>
    obtain ⟨size, hsize, hle, hdata, hwhole, hmore⟩ := (h.part frame rfl).asks
    simp only [readMore, hsize] at hread
    by_cases hdone : size ≤ s.data.length
    · rw [if_pos hdone, Receiving.finish, hwhole hdone, hdecode] at hread
      obtain rfl := Option.some.inj hread
      refine .inl ⟨a, as, rfl, ?_, rfl, h.finish (hwhole hdone)⟩
      intro hnil
      rw [hnil, hfirst] at hsize
      obtain rfl := Except.ok.inj hsize
      rw [hnil, List.length_nil] at hdone
      omega
    · rw [if_neg hdone] at hread
      obtain ⟨hmissing, rfl⟩ := extend_eq_some.mp hread
      exact .inr ⟨_, ⟨by omega, hmissing⟩, rfl,
        h.extend hle hdata (by omega) (hmore (by omega)) hmissing⟩

theorem Inv.readMore_eq {s : Receiving ε α} (h : s.Inv next decode frames as)
    (hstep : step next decode s .read = some s') : s.readMore next decode = some s' := by
  rw [step, h.2.failed] at hstep
  exact hstep

/-- **Every step keeps the invariant.** -/
theorem Inv.step {e : Event} (hstart : ∃ size, next [] = .ok size ∧ 0 < size)
    (h : s.Inv next decode frames as) (hstep : step next decode s e = some s') :
    s'.Inv next decode frames as := by
  cases e with
  | deliver n =>
    obtain ⟨-, rfl⟩ := step_deliver.mp hstep
    exact ⟨h.1, h.2.deliver⟩
  | read =>
    obtain ⟨a, as', has, -, rfl, hpending⟩ | ⟨missing, -, rfl, hpending⟩ :=
      h.2.read_cases hstart (h.readMore_eq hstep)
    · have hlen : (s.returned ++ [a]).length = s.returned.length + 1 := by simp
      refine ⟨?_, ?_⟩
      · show s.returned ++ [a] = as.take (s.returned ++ [a]).length
        rw [hlen, List.take_add, has, ← h.1]
        rfl
      · show Pending next decode _ (frames.drop (s.returned ++ [a]).length)
          (as.drop (s.returned ++ [a]).length)
        rw [hlen, ← List.tail_drop, ← List.tail_drop, has]
        exact hpending
    · exact ⟨h.1, hpending⟩

/-! ### Runs -/

/-- Nothing can arrive, and the reader waits. -/
def Idle (next : NextSize ε) (decode : Bytes → Except ε α) (s : Receiving ε α) : Prop :=
  ∀ e, step next decode s e = none

/-- When nothing can go on, every value is returned. -/
theorem Inv.returned_of_idle (h : s.Inv next decode frames as) (hidle : s.Idle next decode) :
    s.returned = as := by
  obtain ⟨hreturned, hpending⟩ := h
  have hstream : s.stream = [] := by
    by_contra hne
    have hpos : 1 ≤ s.stream.length := List.length_pos_iff.mpr hne
    have hstep := (@step_deliver _ _ next decode s _ 1).mpr ⟨⟨Nat.le_refl 1, hpos⟩, rfl⟩
    rw [hidle] at hstep
    cases hstep
  cases hframes : frames.drop s.returned.length with
  | nil =>
    rw [hframes] at hpending
    have has := hpending.eq_nil.2.2.2
    rw [hreturned]
    exact List.take_of_length_le (List.drop_eq_nil_iff.mp has)
  | cons frame rest =>
    rw [hframes] at hpending
    obtain ⟨size, hsize, hle, hdata, -, -⟩ := (hpending.part frame rfl).asks
    have hread := hidle .read
    rw [Receiving.step, hpending.failed, if_neg (by simp), readMore, hsize] at hread
    dsimp only at hread
    by_cases hdone : size ≤ s.data.length
    · rw [if_pos hdone] at hread
      cases hread
    · have hbytes := congrArg List.length hpending.bytes
      rw [hstream] at hbytes
      simp only [List.append_nil, List.length_append, List.flatten_cons] at hbytes
      rw [if_neg hdone, Receiving.extend, if_pos (by omega)] at hread
      cases hread

/-- The weight of the bytes that are still to be read. -/
def work (s : Receiving ε α) : ℕ :=
  3 * s.stream.length + 2 * s.inputBuffer.length + s.data.length

theorem work_lt {e : Event} (hstart : ∃ size, next [] = .ok size ∧ 0 < size)
    (h : s.Inv next decode frames as) (hstep : step next decode s e = some s') :
    s'.work < s.work := by
  cases e with
  | deliver n =>
    obtain ⟨⟨hpos, hle⟩, rfl⟩ := step_deliver.mp hstep
    simp only [work, List.length_append, List.length_take, List.length_drop]
    omega
  | read =>
    obtain ⟨a, as', -, hdata, rfl, -⟩ | ⟨missing, ⟨hpos, hle⟩, rfl, -⟩ :=
      h.2.read_cases hstart (h.readMore_eq hstep)
    · have hpos : 0 < s.data.length := List.length_pos_iff.mpr hdata
      simp only [work, List.length_nil]
      omega
    · simp only [work, List.length_append, List.length_take, List.length_drop]
      omega

theorem length_le_work {es : List Event} (hstart : ∃ size, next [] = .ok size ∧ 0 < size)
    (h : s.Inv next decode frames as) (hrun : run (step next decode) s es = some s') :
    es.length + s'.work ≤ s.work := by
  induction es generalizing s with
  | nil =>
    obtain rfl := Option.some.inj hrun
    exact Nat.le_of_eq (Nat.zero_add _)
  | cons e es ih =>
    obtain ⟨s₁, hs₁, hrun⟩ := run_cons_eq_some.mp hrun
    have hfirst := work_lt hstart h hs₁
    have hrest := ih (h.step hstart hs₁) hrun
    rw [List.length_cons]
    omega

/-- What a reader does with a stream of frames of the values. -/
structure Complete (next : NextSize ε) (decode : Bytes → Except ε α) (frames : List Bytes)
    (as : List α) (s : Receiving ε α) : Prop where
  failed : s.failed = none
  /-- values are returned in order, without a loss or a change -/
  returned_prefix : s.returned <+: as
  /-- all are returned when nothing can go on -/
  returned_eq : s.Idle next decode → s.returned = as
  /-- which is so after finitely many steps -/
  finite : ∃ n, ∀ es s', run (step next decode) s es = some s' → es.length ≤ n
  /-- no bytes are asked for that are behind the current frame, of which a part is there -/
  size_le : ∀ frame, frames[s.returned.length]? = some frame →
    s.data <+: frame ∧ ∃ size, next s.data = .ok size ∧ size ≤ frame.length

theorem Inv.complete (hstart : ∃ size, next [] = .ok size ∧ 0 < size)
    (h : s.Inv next decode frames as) : s.Complete next decode frames as := by
  refine ⟨h.2.failed, ?_, h.returned_of_idle, ⟨s.work, fun es s' hrun => ?_⟩, fun frame hframe => ?_⟩
  · rw [h.1]
    exact List.take_prefix _ _
  · have hle := length_le_work hstart h hrun
    omega
  · rw [← List.head?_drop] at hframe
    obtain ⟨size, hsize, hle, hdata, -, -⟩ := (h.2.part frame hframe).asks
    refine ⟨?_, size, hsize, hle⟩
    rw [hdata]
    exact List.take_prefix _ _

/-- **A stream of frames is read as their values**, for every chunking. -/
theorem complete {es : List Event} (hstart : ∃ size, next [] = .ok size ∧ 0 < size)
    (hframed : ∀ frame ∈ frames, Framed next frame)
    (hdecodes : List.Forall₂ (fun frame a => decode frame = .ok a) frames as)
    (hrun : run (step next decode) (init frames.flatten) es = some s) :
    s.Complete next decode frames as := by
  have hinv : s.Inv next decode frames as := by
    refine run_invariant_of_step (fun s e s' h hs => ?_) (inv_init hframed hdecodes) hrun
    exact h.step hstart hs
  exact hinv.complete hstart

end Receiving

end HatDrivers.Lib
