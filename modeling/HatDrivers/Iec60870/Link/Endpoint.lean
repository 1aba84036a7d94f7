import HatDrivers.Iec60870.Link.Encoder

namespace HatDrivers.Iec60870.Link

open HatDrivers.Lib

/-!
# Link layer — endpoint

`Endpoint.receive` keeps the bytes it read and did not use.  It asks the encoder for the size of
the frame that they start, reads what is missing, drops a byte if they start no frame, and drops
a frame that is not decoded.

Frames between bytes that start no frame are received as they are, and nothing else is
(`receiveAll_interleaved`).
-/

namespace Encoder

variable (e : Encoder)

/-- `receive` with a bound on its iterations, from the bytes in hand and those that are to
come: the frame, and what is left of both.  `none` says that the serial `read` never returns. -/
def receiveFuel : ℕ → Bytes → Bytes → Option (Frame × Bytes × Bytes)
  | 0, _, _ => none
  | fuel + 1, data, stream =>
    match e.getNextFrameSize data with
    | .error _ => receiveFuel fuel (data.drop 1) stream
    | .ok size =>
      if data.length < size then
        if stream.length < size - data.length then none
        else receiveFuel fuel (data ++ stream.take (size - data.length))
          (stream.drop (size - data.length))
      else
        match e.decode (data.take size) with
        | .ok msg => some (msg, data.drop size, stream)
        | .error _ => receiveFuel fuel (data.drop size) stream

/-- How long `receive` can go on: every iteration moves or drops a byte. -/
def iterations (data stream : Bytes) : ℕ := data.length + 2 * stream.length + 1

def receive (data stream : Bytes) : Option (Frame × Bytes × Bytes) :=
  e.receiveFuel (iterations data stream) data stream

/-- A sequence of calls of `receive`. -/
def receiveAll : ℕ → Bytes → Bytes → Option (List Frame × Bytes × Bytes)
  | 0, data, stream => some ([], data, stream)
  | n + 1, data, stream => do
    let (frame, data, stream) ← e.receive data stream
    let (frames, data, stream) ← receiveAll n data stream
    return (frame :: frames, data, stream)

/-- Bytes that start no frame. -/
def Noise (bs : Bytes) : Prop := ∀ b ∈ bs, b ≠ 0x10 ∧ b ≠ 0x68 ∧ b ≠ 0xE5

instance (bs : Bytes) : Decidable (Noise bs) := inferInstanceAs (Decidable (∀ b ∈ bs, _))

/-- A stream of encoded frames, with noise around them. -/
inductive Interleaved : List Frame → Bytes → Prop
  | nil {noise : Bytes} (h : Noise noise) : Interleaved [] noise
  | cons {noise bytes stream : Bytes} {frame : Frame} {frames : List Frame} (h : Noise noise)
      (hframe : e.encode frame = .ok bytes) (tail : Interleaved frames stream) :
      Interleaved (frame :: frames) (noise ++ (bytes ++ stream))

/-! ### The bound -/

variable {e} {data stream : Bytes} {frame : Frame} {frames : List Frame}

theorem pos_of_getNextFrameSize {size : ℕ} (h : e.getNextFrameSize data = .ok size) :
    0 < size := by
  unfold getNextFrameSize at h
  split at h
  · obtain rfl := Except.ok.inj h
    omega
  · obtain ⟨start, _, h⟩ := bind_eq_ok.mp h
    split_ifs at h
    · obtain rfl := Except.ok.inj h
      omega
    · obtain rfl := Except.ok.inj h
      omega
    · obtain rfl := Except.ok.inj h
      omega
    · obtain ⟨first, _, h⟩ := bind_eq_ok.mp h
      obtain ⟨second, _, h⟩ := bind_eq_ok.mp h
      split_ifs at h
      · cases h
      · obtain ⟨start, _, h⟩ := bind_eq_ok.mp h
        split_ifs at h
        · cases h
        · obtain ⟨length, _, h⟩ := bind_eq_ok.mp h
          obtain rfl := Except.ok.inj h
          omega

theorem ne_nil_of_getNextFrameSize {exn : Exn} (h : e.getNextFrameSize data = .error exn) :
    data ≠ [] := by
  rintro rfl
  cases h

/-- Within the bound, the bound does not matter. -/
theorem receiveFuel_congr {fuel fuel' : ℕ} (h : iterations data stream ≤ fuel)
    (h' : iterations data stream ≤ fuel') :
    e.receiveFuel fuel data stream = e.receiveFuel fuel' data stream := by
  induction fuel generalizing data stream fuel' with
  | zero => exact absurd h (by simp [iterations])
  | succ fuel ih =>
    obtain ⟨fuel', rfl⟩ : ∃ n, fuel' = n + 1 := ⟨fuel' - 1, by rw [iterations] at h'; omega⟩
    simp only [iterations] at h h' ih
    cases hsize : e.getNextFrameSize data with
    | error exn =>
      have hpos : 0 < data.length := List.length_pos_iff.mpr (ne_nil_of_getNextFrameSize hsize)
      simp only [receiveFuel, hsize]
      apply ih <;> (rw [List.length_drop]; omega)
    | ok size =>
      have hpos := pos_of_getNextFrameSize hsize
      simp only [receiveFuel, hsize]
      by_cases hlt : data.length < size
      · rw [if_pos hlt, if_pos hlt]
        by_cases hshort : stream.length < size - data.length
        · rw [if_pos hshort, if_pos hshort]
        · rw [if_neg hshort, if_neg hshort]
          have htake : (stream.take (size - data.length)).length = size - data.length := by
            rw [List.length_take]
            omega
          apply ih <;> (rw [List.length_append, htake, List.length_drop]; omega)
      · rw [if_neg hlt, if_neg hlt]
        cases e.decode (data.take size) with
        | ok msg => rfl
        | error exn =>
          apply ih <;> (rw [List.length_drop]; omega)

/-- The bound does not cut `receive` off. -/
theorem receiveFuel_eq_receive {fuel : ℕ} (h : iterations data stream ≤ fuel) :
    e.receiveFuel fuel data stream = e.receive data stream :=
  receiveFuel_congr h (Nat.le_refl _)

/-! ### Noise and frames -/

/-- A byte that starts no frame is dropped. -/
theorem receive_noise {b : UInt8} (hb : b ≠ 0x10 ∧ b ≠ 0x68 ∧ b ≠ 0xE5) (rest : Bytes) :
    e.receive [] (b :: rest) = e.receive [] rest := by
  have hstart : byteAt [b] 0 = .ok b.toNat := rfl
  have hne : ∀ c : UInt8, b ≠ c → ¬ b.toNat = c.toNat := fun c hc h => hc (UInt8.toNat_inj.mp h)
  have hsize : e.getNextFrameSize [b] = .error (.exception "invalid start identifier") := by
    have h₁ : ¬ [b] = [] := nofun
    have h₂ : ¬ b.toNat = 0xE5 := hne 0xE5 hb.2.2
    have h₃ : ¬ b.toNat = 0x10 := hne 0x10 hb.1
    have h₄ : ¬ b.toNat = 0x68 := hne 0x68 hb.2.1
    simp only [getNextFrameSize, if_neg h₁, hstart, ok_bind, if_neg h₂, if_neg h₃, if_neg h₄]
    rfl
  have hfuel : iterations [] (b :: rest) = iterations [] rest + 2 := by
    rw [iterations, iterations, List.length_cons]
    omega
  have hfirst : e.getNextFrameSize [] = .ok 1 := rfl
  have hlt : ([] : Bytes).length < 1 := by decide
  have henough : ¬ (b :: rest).length < 1 - ([] : Bytes).length := by simp
  rw [receive, hfuel, receiveFuel]
  simp only [hfirst, if_pos hlt, if_neg henough]
  -- the byte is read, and then dropped
  show e.receiveFuel (iterations [] rest + 1) [b] rest = _
  rw [receiveFuel]
  simp only [hsize]
  rfl

theorem receive_noise_append {noise : Bytes} (h : Noise noise) (rest : Bytes) :
    e.receive [] (noise ++ rest) = e.receive [] rest := by
  induction noise with
  | nil => rfl
  | cons b noise ih =>
    rw [List.cons_append, receive_noise (h b (by simp))]
    exact ih fun b' hb' => h b' (by simp [hb'])

/-- After noise `receive` waits. -/
theorem receive_noise_end {noise : Bytes} (h : Noise noise) : e.receive [] noise = none := by
  have hnoise := receive_noise_append (e := e) h []
  rw [List.append_nil] at hnoise
  rw [hnoise]
  rfl

/-- From any part of a frame, `receive` reads the rest of it. -/
theorem receiveFuel_of_sized {bytes : Bytes} {msg : Frame}
    (h : SizedOnTheWay e.getNextFrameSize bytes) (hdecode : e.decode bytes = .ok msg)
    (rest : Bytes) {fuel k : ℕ} (hfuel : bytes.length < fuel + k) (hk : k ≤ bytes.length) :
    e.receiveFuel fuel (bytes.take k) (bytes.drop k ++ rest) = some (msg, [], rest) := by
  induction fuel generalizing k with
  | zero => omega
  | succ fuel ih =>
    have hlen : (bytes.take k).length = k := by
      rw [List.length_take]
      omega
    rcases Nat.lt_or_ge k bytes.length with hlt | hge
    · obtain ⟨size, hsize, hle, _, hks⟩ := h k hk
      have hks := hks hlt
      obtain ⟨htake, hdrop⟩ := take_read (Nat.le_of_lt hks) hle rest
      have henough : ¬ (bytes.drop k ++ rest).length < size - k := by
        rw [List.length_append, List.length_drop]
        omega
      simp only [receiveFuel, hsize, hlen, if_pos hks, if_neg henough, htake, hdrop]
      exact ih (by omega) hle
    · obtain rfl : k = bytes.length := by omega
      have hsize := h.size_eq
      have hno : ¬ bytes.length < bytes.length := Nat.lt_irrefl _
      rw [List.take_length, List.drop_length, List.nil_append]
      simp only [receiveFuel, hsize, if_neg hno, List.take_length, hdecode, List.drop_length]

/-- **A frame is received off a stream that starts with it**, and nothing after it is touched. -/
theorem receive_encode {bytes : Bytes} (hfits : e.Fits frame)
    (hframe : e.encode frame = .ok bytes) (rest : Bytes) :
    e.receive [] (bytes ++ rest) = some (e.canonical frame, [], rest) := by
  obtain ⟨bytes', hbytes', hsizes, hdecode⟩ := exists_encode hfits
  obtain rfl : bytes = bytes' := Except.ok.inj (hframe.symm.trans hbytes')
  apply receiveFuel_of_sized (k := 0) hsizes hdecode rest
  · rw [iterations, List.length_append]
    omega
  · exact Nat.zero_le _

/-- **The frames of a stream are received in order**, without a direction if the endpoint uses
none, and `receive` waits for more. -/
theorem receiveAll_interleaved (hfits : ∀ frame ∈ frames, e.Fits frame)
    (h : Interleaved e frames stream) :
    ∃ rest, e.receiveAll frames.length [] stream = some (frames.map e.canonical, [], rest) ∧
      e.receive [] rest = none := by
  induction h with
  | @nil noise h => exact ⟨noise, rfl, receive_noise_end h⟩
  | @cons noise bytes stream frame frames hnoise hframe _ ih =>
    obtain ⟨rest, hrest, hend⟩ := ih fun frame' h' => hfits frame' (by simp [h'])
    refine ⟨rest, ?_, hend⟩
    have hfirst : e.receive [] (noise ++ (bytes ++ stream)) =
        some (e.canonical frame, [], stream) := by
      rw [receive_noise_append hnoise]
      exact receive_encode (hfits frame (by simp)) hframe stream
    rw [List.length_cons, receiveAll, hfirst]
    simp only [Option.bind_eq_bind, Option.bind_some, hrest]
    rfl

set_option maxRecDepth 4000 in
/-- Two frames around noise, of an endpoint with addresses of one byte. -/
theorem receiveAll_two_frames :
    ∃ rest, (⟨.ONE, false⟩ : Encoder).receiveAll 2 []
        ([0x00] ++ ([0x10, 0x40, 0x01, 0x41, 0x16] ++ ([0x16] ++ ([0xE5] ++ [])))) =
      some ([.ReqFrame ⟨none, false, false, .RESET_LINK, 1, []⟩, .ShortFrame], [], rest) ∧
      (⟨.ONE, false⟩ : Encoder).receive [] rest = none :=
  @receiveAll_interleaved ⟨.ONE, false⟩ _
    [.ReqFrame ⟨none, false, false, .RESET_LINK, 1, []⟩, .ShortFrame] (by decide)
    (.cons (by decide) (by decide) (.cons (by decide) (by decide) (.nil (by decide))))

/-- A frame with a direction, at an endpoint that uses none, is received without it. -/
theorem receive_without_direction :
    ∃ bytes, (⟨.ONE, false⟩ : Encoder).encode
        (.ReqFrame ⟨some .A_TO_B, false, false, .RESET_LINK, 1, []⟩) = .ok bytes ∧
      (⟨.ONE, false⟩ : Encoder).receive [] bytes ≠
        some (.ReqFrame ⟨some .A_TO_B, false, false, .RESET_LINK, 1, []⟩, [], []) :=
  ⟨[0x10, 0x40, 0x01, 0x41, 0x16], by decide, by decide⟩

end Encoder

end HatDrivers.Iec60870.Link
