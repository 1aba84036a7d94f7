import HatDrivers.Cotp.Connection
import HatDrivers.Cotp.Handshake

namespace HatDrivers.Cotp

open HatDrivers.Lib

/-!
# COTP — fragmentation

The send loop cuts data into DT TPDUs that are three bytes longer than what they carry.  It comes
to an end iff the size that was received in the handshake, if there was one, is larger than that
(`terminates_iff`): nothing refuses sizes of one and two bytes, and with them slices count from the
end of the data.
-/

/-- The CR TPDU that `connect` sends. -/
def connectRequest (src : ℕ) (localTsel remoteTsel : Option ℕ) : CR :=
  ⟨src, 0, localTsel, remoteTsel, some 2048, none⟩

/-- What a new connection keeps, and the TPDU of the peer that it was established from. -/
inductive Establishes (peer : Tpdu) (negotiated : Negotiated) : Prop
  | listen {src : ℕ} {crTpduBytes ccTpduBytes : Bytes} (hpeer : decode crTpduBytes = .ok peer)
      (h : acceptRequest src crTpduBytes = .ok (ccTpduBytes, negotiated))
  | connect {src : ℕ} {localTsel remoteTsel : Option ℕ} {ccTpduBytes : Bytes}
      (hpeer : decode ccTpduBytes = .ok peer)
      (h : acceptResponse (connectRequest src localTsel remoteTsel) ccTpduBytes = .ok negotiated)

def Tpdu.maxTpdu : Tpdu → Option ℕ
  | .CR tpdu => tpdu.maxTpdu
  | .CC tpdu => tpdu.maxTpdu
  | .DT _ | .DR _ | .ER _ => none

/-! ### The size of a connection -/

variable {peer : Tpdu} {negotiated : Negotiated}

theorem size_of_decode_CC {cc : CC} {data : Bytes} (h : decode data = .ok (.CC cc)) :
    ∀ size, cc.maxTpdu = some size → ∃ k, size = 2 ^ k := by
  obtain ⟨lengthIndicator, -, h⟩ := bind_eq_ok.mp h
  split at h
  · cases h
  · obtain ⟨second, -, h⟩ := bind_eq_ok.mp h
    obtain ⟨tpduType, -, h⟩ := bind_eq_ok.mp h
    cases tpduType with
    | CC =>
      obtain ⟨src, -, h⟩ := bind_eq_ok.mp h
      obtain ⟨dst, -, h⟩ := bind_eq_ok.mp h
      obtain ⟨cls, -, h⟩ := bind_eq_ok.mp h
      obtain ⟨p, hp, h⟩ := bind_eq_ok.mp h
      obtain rfl := Tpdu.CC.inj (Except.ok.inj h)
      exact (legal_of_decodeParameters hp).1
    | DT =>
      obtain ⟨flags, -, h⟩ := bind_eq_ok.mp h
      cases h
    | CR =>
      obtain ⟨src, -, h⟩ := bind_eq_ok.mp h
      obtain ⟨cls, -, h⟩ := bind_eq_ok.mp h
      obtain ⟨p, -, h⟩ := bind_eq_ok.mp h
      cases h
    | DR =>
      obtain ⟨src, -, h⟩ := bind_eq_ok.mp h
      obtain ⟨dst, -, h⟩ := bind_eq_ok.mp h
      obtain ⟨reason, -, h⟩ := bind_eq_ok.mp h
      cases h
    | ER =>
      obtain ⟨dst, -, h⟩ := bind_eq_ok.mp h
      obtain ⟨cause, -, h⟩ := bind_eq_ok.mp h
      cases h

theorem peer_of_validateConnectResponse {cr : CR} {cc : CC}
    (h : validateConnectResponse cr peer = .ok cc) : peer = .CC cc := by
  cases peer with
  | CC tpdu => rw [validateConnectResponse_eq_ok h]
  | DT tpdu => cases h
  | CR tpdu => cases h
  | DR tpdu => cases h
  | ER tpdu => cases h

/-- The size of a peer is a power of two, which a connection takes over; without one, a connection
has at least the default. -/
theorem Establishes.maxTpdu_eq (h : Establishes peer negotiated) :
    (∀ size, peer.maxTpdu = some size → negotiated.maxTpdu = size ∧ ∃ k, size = 2 ^ k) ∧
      (peer.maxTpdu = none → 128 ≤ negotiated.maxTpdu) := by
  cases h with
  | @listen src crTpduBytes ccTpduBytes hpeer h =>
    obtain ⟨cr, rfl⟩ : ∃ cr, peer = .CR cr := by
      obtain ⟨tpdu, htpdu, h⟩ := bind_eq_ok.mp h
      obtain rfl := Except.ok.inj (hpeer.symm.trans htpdu)
      obtain ⟨cr, hvalidate, -⟩ := bind_eq_ok.mp h
      exact ⟨cr, validateConnectRequest_eq_ok hvalidate⟩
    obtain ⟨-, rfl⟩ := acceptRequest_eq_ok hpeer h
    obtain ⟨hmax, hpref⟩ := sizes_of_decode_CR hpeer
    obtain ⟨crSrc, cls, callingTsel, calledTsel, maxTpdu, prefMaxTpdu⟩ := cr
    simp only [Tpdu.maxTpdu, calculateCcMaxTpdu] at hmax hpref ⊢
    constructor
    · rintro size rfl
      obtain ⟨k, rfl⟩ := hmax size rfl
      rw [given_of_pos (Nat.two_pow_pos k).ne']
      exact ⟨rfl, k, rfl⟩
    · rintro rfl
      rw [given_none]
      cases prefMaxTpdu with
      | none => exact Nat.le_refl 128
      | some size =>
        obtain ⟨n, rfl⟩ := hpref size rfl
        rcases Nat.eq_zero_or_pos n with rfl | hn
        · exact Nat.le_refl 128
        · rw [given_of_pos (by omega)]
          show 128 ≤ 128 * n
          omega
  | @connect src localTsel remoteTsel ccTpduBytes hpeer h =>
    obtain ⟨cc, rfl, hmax⟩ : ∃ cc, peer = .CC cc ∧ negotiated.maxTpdu =
        calculateMaxTpdu (connectRequest src localTsel remoteTsel) cc := by
      obtain ⟨tpdu, htpdu, h⟩ := bind_eq_ok.mp h
      obtain rfl := Except.ok.inj (hpeer.symm.trans htpdu)
      obtain ⟨cc, hvalidate, h⟩ := bind_eq_ok.mp h
      obtain rfl := Except.ok.inj h
      exact ⟨cc, peer_of_validateConnectResponse hvalidate, rfl⟩
    rw [hmax]
    constructor
    · intro size hsize
      obtain ⟨k, rfl⟩ := size_of_decode_CC hpeer size hsize
      exact ⟨calculateMaxTpdu_of_cc hsize (Nat.two_pow_pos k).ne', k, rfl⟩
    · intro hnone
      have hcc : cc.maxTpdu = none := hnone
      rw [calculateMaxTpdu, hcc]
      show 128 ≤ 2048
      omega

/-! ### The inner loop -/

namespace Transfer

variable {cfg : Config} {s s' : Transfer} {data : Bytes}

/-- The next DT TPDU of the data, and what it leaves. -/
def fragment (cfg : Config) (data : Bytes) : DT :=
  ⟨(sliceFrom data (cfg.maxTpdu - 3)).isEmpty, sliceTo data (cfg.maxTpdu - 3)⟩

/-- The inner loop of `_send_loop` ends, and the TPDUs that it sends until then carry data. -/
structure Terminates (cfg : Config) (s : Transfer) : Prop where
  ends : ∃ n, run (step cfg) s (List.replicate n .sendTpdu) = none
  carries : ∀ n s', run (step cfg) s (List.replicate n .sendTpdu) = some s' →
    ∀ p ∈ s'.packets.drop s.packets.length, p.1.data ≠ []

theorem encode_fragment (tpdu : DT) : ∃ tpduBytes, encode (.DT tpdu) = .ok tpduBytes ∧
    tpduBytes.length = tpdu.data.length + 3 := by
  refine ⟨_, encode_DT tpdu, ?_⟩
  rw [List.length_append, length_bytesOf]
  exact Nat.add_comm ..

/-- A TPDU that a packet can take is sent. -/
theorem sendTpdu_of_le (hlen : (fragment cfg data).data.length ≤ 65528) :
    ∃ packet, s.sendTpdu cfg data = { s with
      sendLoop := .sending (sliceFrom data (cfg.maxTpdu - 3)), stream := s.stream ++ packet,
      packets := s.packets ++ [(fragment cfg data, packet)] } := by
  obtain ⟨tpduBytes, hencode, hbytes⟩ := encode_fragment (fragment cfg data)
  obtain ⟨packet, hpacket⟩ : ∃ packet, Tpkt.packet tpduBytes = .ok packet :=
    ⟨_, Tpkt.packet_eq_ok.mpr ⟨⟨by omega, by omega⟩, rfl⟩⟩
  rw [fragment] at hencode
  refine ⟨packet, ?_⟩
  simp only [sendTpdu, hencode, ok_bind, hpacket]
  rfl

/-- The loop fails with a TPDU that is too long. -/
theorem sendTpdu_of_lt (hlen : 65528 < (fragment cfg data).data.length) :
    ∃ e, s.sendTpdu cfg data = { s with sendLoop := .failed e } := by
  obtain ⟨tpduBytes, hencode, hbytes⟩ := encode_fragment (fragment cfg data)
  have hpacket : Tpkt.packet tpduBytes = .error (.valueError "data length greater than 0xFFFB") := by
    rw [Tpkt.packet, if_pos (by omega)]
    rfl
  rw [fragment] at hencode
  refine ⟨.valueError "data length greater than 0xFFFB", ?_⟩
  simp only [sendTpdu, hencode, ok_bind, hpacket]

/-! ### Sizes that leave a byte -/

/-- The steps that the loop has left at most. -/
def loopWork : SendLoop → ℕ
  | .sending data => data.length + 1
  | _ => 0

/-- A step shortens the data, and sends some of it if it sends a TPDU. -/
theorem sendTpdu_shortens (h4 : 4 ≤ cfg.maxTpdu) (hstep : step cfg s .sendTpdu = some s') :
    loopWork s'.sendLoop < loopWork s.sendLoop ∧
      ∃ packets, s'.packets = s.packets ++ packets ∧ ∀ p ∈ packets, p.1.data ≠ [] := by
  obtain ⟨data, hloop, ⟨rfl, rfl⟩ | ⟨hne, rfl⟩⟩ := step_sendTpdu.mp hstep
  · rw [hloop]
    exact ⟨Nat.zero_lt_succ _, [], (List.append_nil _).symm, nofun⟩
  · have hpos : 0 < data.length := List.length_pos_iff.mpr hne
    have hsize : ¬ ((cfg.maxTpdu : ℤ) - 3 < 0) := by omega
    have hnat : ((cfg.maxTpdu : ℤ) - 3).toNat = cfg.maxTpdu - 3 := by omega
    rw [hloop]
    by_cases hlen : (fragment cfg data).data.length ≤ 65528
    · obtain ⟨packet, heq⟩ := sendTpdu_of_le (s := s) hlen
      rw [heq]
      refine ⟨?_, [(fragment cfg data, packet)], rfl, ?_⟩
      · simp only [loopWork, sliceFrom, if_neg hsize, hnat, List.length_drop]
        omega
      · intro p hp
        obtain rfl := List.mem_singleton.mp hp
        simp only [fragment, sliceTo, if_neg hsize, hnat]
        intro hnil
        have hlength := congrArg List.length hnil
        rw [List.length_take, List.length_nil] at hlength
        omega
    · obtain ⟨e, heq⟩ := sendTpdu_of_lt (s := s) (Nat.lt_of_not_le hlen)
      rw [heq]
      exact ⟨Nat.zero_lt_succ _, [], (List.append_nil _).symm, nofun⟩

theorem run_shortens (h4 : 4 ≤ cfg.maxTpdu) {n : ℕ}
    (hrun : run (step cfg) s (List.replicate n .sendTpdu) = some s') :
    n + loopWork s'.sendLoop ≤ loopWork s.sendLoop ∧
      ∃ packets, s'.packets = s.packets ++ packets ∧ ∀ p ∈ packets, p.1.data ≠ [] := by
  induction n generalizing s with
  | zero =>
    obtain rfl := Option.some.inj hrun
    exact ⟨Nat.le_of_eq (Nat.zero_add _), [], (List.append_nil _).symm, nofun⟩
  | succ n ih =>
    rw [List.replicate_succ] at hrun
    obtain ⟨s₁, hs₁, hrun⟩ := run_cons_eq_some.mp hrun
    obtain ⟨hfirst, packets, hpackets, hdata⟩ := sendTpdu_shortens h4 hs₁
    obtain ⟨hrest, packets', hpackets', hdata'⟩ := ih hrun
    refine ⟨by omega, packets ++ packets', ?_, ?_⟩
    · rw [hpackets', hpackets, List.append_assoc]
    · intro p hp
      rcases List.mem_append.mp hp with hp | hp
      · exact hdata p hp
      · exact hdata' p hp

theorem terminates_of_le (h4 : 4 ≤ cfg.maxTpdu) (s : Transfer) : s.Terminates cfg where
  ends := by
    refine ⟨loopWork s.sendLoop + 1, ?_⟩
    by_contra hne
    obtain ⟨s', hrun⟩ := Option.ne_none_iff_exists'.mp hne
    have hle := (run_shortens h4 hrun).1
    omega
  carries := by
    intro n s' hrun
    obtain ⟨-, packets, hpackets, hdata⟩ := run_shortens h4 hrun
    rwa [hpackets, List.drop_left]

/-! ### Sizes that do not -/

/-- Slices count from the end of the data, and leave the last bytes of it. -/
theorem slices_of_lt (hmax : cfg.maxTpdu < 3) (data : Bytes) :
    (fragment cfg data).data.length = data.length - (3 - cfg.maxTpdu) ∧
      (sliceFrom data (cfg.maxTpdu - 3)).length = min data.length (3 - cfg.maxTpdu) := by
  have hsize : (cfg.maxTpdu : ℤ) - 3 < 0 := by omega
  simp only [fragment, sliceTo, sliceFrom, if_pos hsize, List.length_take, List.length_drop]
  omega

/-- What a first TPDU leaves, the others leave again. -/
theorem exists_run_of_lt (hmax : cfg.maxTpdu < 3) (n : ℕ) {data : Bytes}
    (hloop : s.sendLoop = .sending data) (hne : data ≠ [])
    (hlen : data.length + cfg.maxTpdu ≤ 65531) :
    ∃ s', run (step cfg) s (List.replicate n .sendTpdu) = some s' := by
  induction n generalizing s data with
  | zero => exact ⟨s, rfl⟩
  | succ n ih =>
    obtain ⟨hdata, hrest⟩ := slices_of_lt hmax data
    have hpos : 0 < data.length := List.length_pos_iff.mpr hne
    have hlen' : (fragment cfg data).data.length ≤ 65528 := by omega
    obtain ⟨packet, heq⟩ := sendTpdu_of_le (s := s) hlen'
    have hstep : step cfg s .sendTpdu = some (s.sendTpdu cfg data) :=
      step_sendTpdu.mpr ⟨data, hloop, .inr ⟨hne, rfl⟩⟩
    rw [heq] at hstep
    obtain ⟨s', hrun⟩ := ih (s := { s with
      sendLoop := .sending (sliceFrom data (cfg.maxTpdu - 3)), stream := s.stream ++ packet,
      packets := s.packets ++ [(fragment cfg data, packet)] }) rfl
      (List.ne_nil_of_length_pos (by omega)) (by omega)
    refine ⟨s', ?_⟩
    rw [List.replicate_succ]
    exact run_cons_eq_some.mpr ⟨_, hstep, hrun⟩

/-- A first TPDU that is too long is the end of the loop. -/
theorem terminates_of_lt (hmax : cfg.maxTpdu < 3) (hloop : s.sendLoop = .sending data)
    (hlen : 65531 < data.length + cfg.maxTpdu) : s.Terminates cfg := by
  obtain ⟨hdata, -⟩ := slices_of_lt hmax data
  have hne : data ≠ [] := List.ne_nil_of_length_pos (by omega)
  obtain ⟨e, heq⟩ := sendTpdu_of_lt (s := s) (show 65528 < (fragment cfg data).data.length by omega)
  have hfirst : ∀ s', step cfg s .sendTpdu = some s' ↔ s' = { s with sendLoop := .failed e } := by
    intro s'
    rw [step_sendTpdu, hloop]
    simp [hne, heq]
  have hsecond : ∀ s', step cfg { s with sendLoop := .failed e } .sendTpdu ≠ some s' := by
    intro s' hs'
    obtain ⟨data', hloop', -⟩ := step_sendTpdu.mp hs'
    cases hloop'
  have hrun : ∀ n s', run (step cfg) s (List.replicate n .sendTpdu) = some s' →
      n < 2 ∧ s'.packets = s.packets := by
    intro n s' hrun
    rcases n with _ | _ | n
    · obtain rfl := Option.some.inj hrun
      exact ⟨by omega, rfl⟩
    · obtain ⟨s₁, hs₁, hrun⟩ := run_cons_eq_some.mp hrun
      obtain rfl := (hfirst _).mp hs₁
      obtain rfl := Option.some.inj hrun
      exact ⟨by omega, rfl⟩
    · obtain ⟨s₁, hs₁, hrun⟩ := run_cons_eq_some.mp hrun
      obtain rfl := (hfirst _).mp hs₁
      obtain ⟨s₂, hs₂, -⟩ := run_cons_eq_some.mp hrun
      exact absurd hs₂ (hsecond s₂)
  constructor
  · refine ⟨2, ?_⟩
    by_contra hne
    obtain ⟨s', hs'⟩ := Option.ne_none_iff_exists'.mp hne
    have hlt := (hrun 2 s' hs').1
    omega
  · intro n s' hs' p hp
    rw [(hrun n s' hs').2, List.drop_length] at hp
    cases hp

/-- **When fragmentation comes to an end**: if the peer gave no size, or one that leaves a byte, or
if the first TPDU is too long to be sent. -/
theorem terminates_iff (hestablished : Establishes peer negotiated)
    (hmax : cfg.maxTpdu = negotiated.maxTpdu) (hloop : s.sendLoop = .sending data)
    (hne : data ≠ []) :
    s.Terminates cfg ↔
      ∀ size, peer.maxTpdu = some size → 4 ≤ size ∨ 65531 < data.length + size := by
  obtain ⟨hsome, hnone⟩ := hestablished.maxTpdu_eq
  rw [← hmax] at hsome hnone
  cases hsize : peer.maxTpdu with
  | none =>
    have h128 := hnone hsize
    exact iff_of_true (terminates_of_le (by omega) s) nofun
  | some size =>
    obtain ⟨hcfg, k, hk⟩ := hsome size hsize
    have hnot3 : size ≠ 3 := by
      rintro rfl
      rcases k with _ | _ | k
      · omega
      · omega
      · rw [Nat.pow_succ, Nat.pow_succ] at hk
        omega
    simp only [Option.some.injEq, forall_eq']
    by_cases h4 : 4 ≤ size
    · exact iff_of_true (terminates_of_le (by omega) s) (.inl h4)
    · by_cases hlong : 65531 < data.length + size
      · exact iff_of_true (terminates_of_lt (by omega) hloop (by omega)) (.inr hlong)
      · refine iff_of_false (fun h => ?_) (by omega)
        obtain ⟨n, hn⟩ := h.ends
        obtain ⟨s', hs'⟩ := exists_run_of_lt (show cfg.maxTpdu < 3 by omega) n hloop hne (by omega)
        rw [hn] at hs'
        cases hs'

/-- A CR TPDU with a size of 128 bytes. -/
theorem terminates_iff_128 :
    Terminates ⟨128, 1, 1, 1⟩ { init with sendLoop := .sending [1, 2] } ↔
      ∀ size, (Tpdu.CR ⟨1, 0, none, none, some 128, none⟩).maxTpdu = some size →
        4 ≤ size ∨ 65531 < [1, 2].length + size :=
  @terminates_iff _ ⟨128, none, none⟩ ⟨128, 1, 1, 1⟩ _ [1, 2]
    (@Establishes.listen _ _ 7 [9, 0xE0, 0, 0, 0, 1, 0, 0xC0, 1, 7]
      [9, 0xD0, 0, 1, 0, 7, 0, 0xC0, 1, 7] (by decide) (by decide))
    rfl rfl (by decide)

/-- With a size of one byte, a byte is cut into empty TPDUs, without end. -/
theorem not_terminates_one :
    Establishes (.CR ⟨1, 0, none, none, some 1, none⟩) ⟨1, none, none⟩ ∧
      ¬ Terminates ⟨1, 1, 1, 1⟩ { init with sendLoop := .sending [5] } := by
  have hestablished : Establishes (.CR ⟨1, 0, none, none, some 1, none⟩) ⟨1, none, none⟩ :=
    @Establishes.listen _ _ 7 [9, 0xE0, 0, 0, 0, 1, 0, 0xC0, 1, 0]
      [9, 0xD0, 0, 1, 0, 7, 0, 0xC0, 1, 0] (by decide) (by decide)
  refine ⟨hestablished, fun h => ?_⟩
  obtain ⟨n, hn⟩ := h.ends
  obtain ⟨s', hs'⟩ := @exists_run_of_lt ⟨1, 1, 1, 1⟩ { init with sendLoop := .sending [5] }
    (by decide) n [5] rfl (by decide) (by decide)
  rw [hn] at hs'
  cases hs'

end Transfer

end HatDrivers.Cotp
