import HatDrivers.Lib.Reads

namespace HatDrivers.Lib

/-!
# Incremental framing

A frame is read off a stream by asking, for the bytes read so far, how many bytes
the frame has, and reading the missing ones, until none is missing.  The size may
be a guess that grows with the buffer: `Framed next frame` says that no guess on
the way to `frame` is longer than `frame`, and then the loop reads exactly `frame`
(`Framed.readFrame`).
-/

variable {ε α : Type}

/-- The sizes asked for, as a function of the bytes read so far. -/
abbrev NextSize (ε : Type) := Bytes → Except ε ℕ

/-! ### The loop -/

/-- `readFrame` with a bound on the number of reads. -/
def readFrameFuel (next : NextSize ε) (eof : ε) : ℕ → Bytes → Bytes → Except ε (Bytes × Bytes)
  | 0, _, _ => .error eof
  | fuel + 1, buff, stream => do
    let size ← next buff
    if size ≤ buff.length then return (buff, stream)
    let missing := size - buff.length
    if stream.length < missing then throw eof
    readFrameFuel next eof fuel (buff ++ stream.take missing) (stream.drop missing)

/-- Reads a frame off a stream, in reads of the size that is still missing; `eof`
if the stream ends before.  Every read takes a byte, so there are at most as many
as the stream has bytes. -/
def readFrame (next : NextSize ε) (eof : ε) (stream : Bytes) : Except ε (Bytes × Bytes) :=
  readFrameFuel next eof (stream.length + 1) [] stream

/-- The buffers the loop asks a size for. -/
inductive Reached (next : NextSize ε) (stream : Bytes) : Bytes → Prop
  | start : Reached next stream []
  | read {buff : Bytes} {size : ℕ} (h : Reached next stream buff) (hsize : next buff = .ok size)
      (hlt : buff.length < size) (hle : size ≤ stream.length) :
      Reached next stream (stream.take size)

/-! ### Frames -/

/-- An invariant of the lengths of the buffers, under which every size asked for on
the way to `frame` is longer than the buffer and not longer than `frame`. -/
structure FramedBy (next : NextSize ε) (frame : Bytes) (I : ℕ → Prop) : Prop where
  zero : I 0
  step : ∀ k < frame.length, I k → ∃ size, next (frame.take k) = .ok size ∧ k < size ∧
    size ≤ frame.length ∧ I size
  final : ∃ size, next frame = .ok size ∧ size ≤ frame.length

/-- The loop reads exactly `frame`. -/
def Framed (next : NextSize ε) (frame : Bytes) : Prop := ∃ I, FramedBy next frame I

variable {next : NextSize ε} {eof : ε} {frame : Bytes}

/-- One read extends the buffer along the frame. -/
theorem take_read {k size : ℕ} (hks : k ≤ size) (hle : size ≤ frame.length) (rest : Bytes) :
    frame.take k ++ (frame.drop k ++ rest).take (size - k) = frame.take size ∧
      (frame.drop k ++ rest).drop (size - k) = frame.drop size ++ rest := by
  have hlen : size - k ≤ (frame.drop k).length := by rw [List.length_drop]; omega
  have hsum : k + (size - k) = size := by omega
  constructor
  · rw [List.take_append_of_le_length hlen, ← List.take_add, hsum]
  · rw [List.drop_append_of_le_length hlen, List.drop_drop, hsum]

/-- From any buffer on the way to the frame, the loop reads the rest of the frame. -/
theorem FramedBy.readFrameFuel {I : ℕ → Prop} (h : FramedBy next frame I) (rest : Bytes)
    {fuel k : ℕ} (hfuel : frame.length < fuel + k) (hk : k ≤ frame.length) (hI : I k) :
    readFrameFuel next eof fuel (frame.take k) (frame.drop k ++ rest) = .ok (frame, rest) := by
  induction fuel generalizing k with
  | zero => omega
  | succ fuel ih =>
    rw [Lib.readFrameFuel]
    rcases Nat.lt_or_ge k frame.length with hlt | hge
    · obtain ⟨size, hsize, hks, hle, hI'⟩ := h.step k hlt hI
      obtain ⟨htake, hdrop⟩ := take_read (Nat.le_of_lt hks) hle rest
      have hlen : (frame.take k).length = k := by rw [List.length_take]; omega
      have henough : ¬ (frame.drop k ++ rest).length < size - k := by
        rw [List.length_append, List.length_drop]
        omega
      have hmore : ¬ size ≤ k := by omega
      simp only [hsize, ok_bind, hlen, if_neg hmore, if_neg henough, htake, hdrop]
      exact ih (by omega) hle hI'
    · obtain rfl : k = frame.length := by omega
      obtain ⟨size, hsize, hle⟩ := h.final
      simp [hsize, hle]

/-- **A framed byte string is read off any stream that starts with it**, and nothing after it. -/
theorem Framed.readFrame (h : Framed next frame) (rest : Bytes) :
    readFrame next eof (frame ++ rest) = .ok (frame, rest) := by
  obtain ⟨I, h⟩ := h
  have hfuel : frame.length < (frame ++ rest).length + 1 + 0 := by
    rw [List.length_append]
    omega
  exact h.readFrameFuel rest hfuel (Nat.zero_le _) h.zero

/-- The loop only ever holds a part of the frame. -/
theorem FramedBy.reached {I : ℕ → Prop} (h : FramedBy next frame I) {rest buff : Bytes}
    (hb : Reached next (frame ++ rest) buff) :
    ∃ k ≤ frame.length, buff = frame.take k ∧ I k := by
  induction hb with
  | start => exact ⟨0, Nat.zero_le _, rfl, h.zero⟩
  | read hb hsize hlt hle ih =>
    obtain ⟨k, hk, rfl, hI⟩ := ih
    rw [List.length_take, Nat.min_eq_left hk] at hlt
    rcases Nat.lt_or_ge k frame.length with hkl | hge
    · obtain ⟨size, hsize', hks, hle', hI'⟩ := h.step k hkl hI
      obtain rfl := Except.ok.inj (hsize.symm.trans hsize')
      exact ⟨_, hle', List.take_append_of_le_length hle', hI'⟩
    · obtain rfl : k = frame.length := by omega
      obtain ⟨size, hsize', hle'⟩ := h.final
      rw [List.take_length] at hsize
      obtain rfl := Except.ok.inj (hsize.symm.trans hsize')
      omega

/-- **On the way to a frame, no size is asked for that is longer than the frame.** -/
theorem Framed.size_le (h : Framed next frame) {rest buff : Bytes}
    (hb : Reached next (frame ++ rest) buff) :
    ∃ size, next buff = .ok size ∧ size ≤ frame.length := by
  obtain ⟨I, h⟩ := h
  obtain ⟨k, hk, rfl, hI⟩ := h.reached hb
  rcases Nat.lt_or_ge k frame.length with hlt | hge
  · obtain ⟨size, hsize, _, hle, _⟩ := h.step k hlt hI
    exact ⟨size, hsize, hle⟩
  · rw [List.take_of_length_le hge]
    exact h.final

/-- It is enough that every proper prefix asks for more than it has, within the frame. -/
theorem Framed.of_prefixes
    (h : ∀ k ≤ frame.length, ∃ size, next (frame.take k) = .ok size ∧ size ≤ frame.length ∧
      (k < frame.length → k < size)) : Framed next frame := by
  refine ⟨fun _ => True, trivial, fun k hk _ => ?_, ?_⟩
  · obtain ⟨size, hsize, hle, hlt⟩ := h k (Nat.le_of_lt hk)
    exact ⟨size, hsize, hlt hk, hle, trivial⟩
  · obtain ⟨size, hsize, hle, _⟩ := h frame.length (Nat.le_refl _)
    rw [List.take_length] at hsize
    exact ⟨size, hsize, hle⟩

/-! ### Where the stream stands -/

/-- `takeFrame` with a bound on the number of reads. -/
def takeFrameFuel (next : NextSize ε) : ℕ → Bytes → Bytes → Option (Except ε Bytes × Bytes)
  | 0, _, _ => none
  | fuel + 1, buff, stream =>
    match next buff with
    | .error e => some (.error e, stream)
    | .ok size =>
      if size ≤ buff.length then some (.ok buff, stream)
      else if stream.length < size - buff.length then none
      else takeFrameFuel next fuel (buff ++ stream.take (size - buff.length))
        (stream.drop (size - buff.length))

/-- `readFrame`, with the stream that is left also where a size cannot be told.  What was read
till then is lost.  There is no result if the stream ends before. -/
def takeFrame (next : NextSize ε) (stream : Bytes) : Option (Except ε Bytes × Bytes) :=
  takeFrameFuel next (stream.length + 1) [] stream

theorem readFrameFuel_eq (next : NextSize ε) (eof : ε) (fuel : ℕ) (buff stream : Bytes) :
    readFrameFuel next eof fuel buff stream = (takeFrameFuel next fuel buff stream).elim
      (.error eof) fun p => p.1.map fun frame => (frame, p.2) := by
  induction fuel generalizing buff stream with
  | zero => rfl
  | succ fuel ih =>
    rw [readFrameFuel, takeFrameFuel]
    cases next buff with
    | error e => rfl
    | ok size =>
      simp only [ok_bind, pure_eq_ok, throw_eq_error]
      by_cases hsize : size ≤ buff.length
      · rw [if_pos hsize, if_pos hsize]
        rfl
      · rw [if_neg hsize, if_neg hsize]
        by_cases hlt : stream.length < size - buff.length
        · rw [if_pos hlt, if_pos hlt]
          rfl
        · rw [if_neg hlt, if_neg hlt]
          exact ih _ _

theorem takeFrame_of_readFrame {stream rest : Bytes}
    (h : readFrame next eof stream = .ok (frame, rest)) :
    takeFrame next stream = some (.ok frame, rest) := by
  rw [readFrame, readFrameFuel_eq] at h
  rw [takeFrame]
  cases htake : takeFrameFuel next (stream.length + 1) [] stream with
  | none =>
    rw [htake] at h
    cases h
  | some p =>
    rw [htake] at h
    obtain ⟨result, rest'⟩ := p
    cases result with
    | error e => cases h
    | ok frame' =>
      cases h
      rfl

/-- Nothing is taken as long as a part of the frame is missing. -/
theorem FramedBy.takeFrameFuel_eq_none {I : ℕ → Prop} (h : FramedBy next frame I) {j : ℕ}
    (hj : j < frame.length) {fuel k : ℕ} (hk : k ≤ j) (hI : I k) :
    takeFrameFuel next fuel (frame.take k) ((frame.take j).drop k) = none := by
  induction fuel generalizing k with
  | zero => rfl
  | succ fuel ih =>
    obtain ⟨size, hsize, hlt, hle, hI'⟩ := h.step k (Nat.lt_of_le_of_lt hk hj) hI
    have hbuff : (frame.take k).length = k := by rw [List.length_take]; omega
    have hstream : ((frame.take j).drop k).length = j - k := by
      rw [List.length_drop, List.length_take]
      omega
    have hmore : ¬ size ≤ k := by omega
    simp only [takeFrameFuel, hsize, hbuff, hstream, if_neg hmore]
    by_cases hmissing : j - k < size - k
    · exact if_pos hmissing
    · rw [if_neg hmissing]
      have hsplit : (frame.take j).take k ++ (frame.take j).drop k = frame.take j ++ [] := by
        rw [List.take_append_drop, List.append_nil]
      have hprefix : frame.take k = (frame.take j).take k := by
        rw [List.take_take, Nat.min_eq_left hk]
      have hread := @take_read (frame.take j) k size (by omega)
        (by rw [List.length_take]; omega) []
      rw [List.append_nil, List.append_nil, List.take_take, List.take_take,
        Nat.min_eq_left hk, Nat.min_eq_left (by omega)] at hread
      rw [hread.1, hread.2]
      exact ih (by omega) hI'

theorem Framed.takeFrame_eq_none (h : Framed next frame) {stream rest : Bytes}
    (hframe : stream ++ rest = frame) (hrest : rest ≠ []) : takeFrame next stream = none := by
  obtain ⟨I, h⟩ := h
  have hlt : stream.length < frame.length := by
    rw [← hframe, List.length_append]
    have := List.length_pos_iff.mpr hrest
    omega
  have htake : frame.take stream.length = stream := by rw [← hframe, List.take_left]
  have hnone : takeFrameFuel next (stream.length + 1) (frame.take 0)
      ((frame.take stream.length).drop 0) = none :=
    h.takeFrameFuel_eq_none hlt (Nat.zero_le _) h.zero
  rw [htake, List.drop_zero] at hnone
  exact hnone

/-! ### Decoded frames -/

/-- Reads a frame and decodes it; what the decoder leaves of the frame is dropped. -/
def receiveFrame (next : NextSize ε) (eof : ε) (decode : ByteReader ε α) : ByteReader ε α :=
  fun stream => do
    let (frame, stream) ← readFrame next eof stream
    let (a, _) ← decode frame
    return (a, stream)

/-- `receiveFrame`, with the stream that is left also where the decoder fails. -/
def takeMessage (next : NextSize ε) (decode : ByteReader ε α) (stream : Bytes) :
    Option (Except ε α × Bytes) :=
  (takeFrame next stream).map fun p => ((do return (← decode (← p.1)).1), p.2)

/-- A frame is taken as a whole, whether it can be decoded or not. -/
theorem Framed.takeMessage (h : Framed next frame) (eof : ε) (decode : ByteReader ε α)
    (rest : Bytes) :
    takeMessage next decode (frame ++ rest) = some ((do return (← decode frame).1), rest) := by
  have hread : Lib.readFrame next eof (frame ++ rest) = .ok (frame, rest) := h.readFrame rest
  have htake := takeFrame_of_readFrame hread
  rw [Lib.takeMessage, htake]
  rfl

/-- A framed byte string that decodes to a value is received as that value. -/
theorem Framed.reads {decode : ByteReader ε α} {a : α} {rest : Bytes} (h : Framed next frame)
    (hd : decode frame = .ok (a, rest)) : Reads (receiveFrame next eof decode) frame a := by
  intro stream
  have hread : Lib.readFrame next eof (frame ++ stream) = .ok (frame, stream) :=
    h.readFrame stream
  simp [receiveFrame, hread, hd]

/-- Values that are read one by one are read one after the other. -/
theorem readN_flatten {r : ByteReader ε α} {frames : List Bytes} {as : List α}
    (h : List.Forall₂ (Reads r) frames as) :
    Reads (readN r as.length) frames.flatten as := by
  induction h with
  | nil => exact fun rest => rfl
  | cons hhead _ ih =>
    intro rest
    rw [List.flatten_cons, List.append_assoc, List.length_cons, readN_succ, hhead]
    simp only [ok_bind, ih rest, pure_eq_ok]

end HatDrivers.Lib
