import HatDrivers.Iec60870.Apci.Encoder
import HatDrivers.Lib.Receiving

namespace HatDrivers.Iec60870.Apci

open HatDrivers.Lib

/-!
# APCI — transport

Reading APDUs off a connection, as their bytes arrive.  A list of APDUs that fit is read as it is
written (`Transport.apdus_roundTrip`).
-/

/-- The reading side of a transport whose `read` is called again and again. -/
abbrev Transport := Receiving Exn Apdu

namespace Transport

/-- A chunk arrives, or `read` goes on: the loop that asks for sizes, and `decode` behind it. -/
abbrev step : Transport → Receiving.Event → Option Transport :=
  Receiving.step getNextApduSize decode

/-- All bytes are on their way. -/
abbrev init (stream : Bytes) : Transport := Receiving.init stream

/-- Whatever fits is encoded as a frame, which is decoded to it. -/
theorem exists_frame {apdu : Apdu} (h : apdu.Fits) : ∃ frame, encode apdu = .ok frame ∧
    Framed getNextApduSize frame ∧ decode frame = .ok apdu := by
  obtain ⟨h4, hlt⟩ := length_fields h
  exact ⟨_, encode_eq_ok.mpr ⟨h, rfl⟩, framed_frame h4 hlt, decode_fields h⟩

theorem exists_frames {apdus : List Apdu} (h : ∀ apdu ∈ apdus, apdu.Fits) : ∃ frames,
    List.Forall₂ (fun apdu frame => encode apdu = .ok frame) apdus frames ∧
      (∀ frame ∈ frames, Framed getNextApduSize frame) ∧
      List.Forall₂ (fun frame apdu => decode frame = .ok apdu) frames apdus := by
  induction apdus with
  | nil => exact ⟨[], .nil, nofun, .nil⟩
  | cons apdu apdus ih =>
    obtain ⟨frame, hencode, hframed, hdecode⟩ := exists_frame (h apdu (by simp))
    obtain ⟨frames, hencodes, hframeds, hdecodes⟩ := ih fun apdu hmem => h apdu (by simp [hmem])
    refine ⟨frame :: frames, .cons hencode hencodes, ?_, .cons hdecode hdecodes⟩
    intro frame' hmem
    rcases List.mem_cons.mp hmem with rfl | hmem
    · exact hframed
    · exact hframeds frame' hmem

/-- **APDUs are read as they are written**, for every chunking of the stream, and no bytes behind
the current frame are asked for. -/
theorem apdus_roundTrip {apdus : List Apdu} (h : ∀ apdu ∈ apdus, apdu.Fits) : ∃ frames,
    List.Forall₂ (fun apdu frame => encode apdu = .ok frame) apdus frames ∧
      ∀ es s, run step (init frames.flatten) es = some s →
        s.Complete getNextApduSize decode frames apdus := by
  obtain ⟨frames, hencodes, hframed, hdecodes⟩ := exists_frames h
  refine ⟨frames, hencodes, fun es s hrun => ?_⟩
  exact Receiving.complete ⟨2, rfl, by omega⟩ hframed hdecodes hrun

/-- An APDU of each format. -/
theorem roundTrip_formats : ∃ frames,
    List.Forall₂ (fun apdu frame => encode apdu = .ok frame)
      [.APDUI 0x7FFF 1 [0x68, 4], .APDUS 0x4000, .APDUU .STARTDT_ACT] frames ∧
      ∀ es s, run step (init frames.flatten) es = some s → s.Complete getNextApduSize decode frames
        [.APDUI 0x7FFF 1 [0x68, 4], .APDUS 0x4000, .APDUU .STARTDT_ACT] := by
  refine apdus_roundTrip fun apdu hmem => ?_
  simp only [List.mem_cons, List.not_mem_nil, or_false] at hmem
  rcases hmem with rfl | rfl | rfl
  · exact ⟨by decide, by decide, by decide⟩
  · exact (by decide : 0x4000 < modulus)
  · trivial

end Transport

end HatDrivers.Iec60870.Apci
