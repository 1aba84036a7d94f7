import HatDrivers.Cotp.Encoder
import HatDrivers.Tpkt

namespace HatDrivers.Cotp

open HatDrivers.Lib

/-!
# COTP — handshake

The server answers a CR TPDU with a CC TPDU, and each end computes from the two of them the
maximum TPDU size and the selectors that it goes on with.  The client knows the CC TPDU only
as its bytes.

Both ends agree unless the client proposes only a preferred size that is not `128` times a power
of two (`agreed_iff`): the server goes on with that size, and the encoder writes the power of
two below it.
-/

/-- What an end keeps of the handshake. -/
structure Negotiated where
  maxTpdu : ℕ
  localTsel : Option ℕ
  remoteTsel : Option ℕ
  deriving DecidableEq

/-! ### The handshake -/

/-- A size is given if it is neither `None` nor zero. -/
def given (size : Option ℕ) : Option ℕ := size.filter (· ≠ 0)

/-- Is a selector given and not confirmed? -/
def mismatch (requested confirmed : Option ℕ) : Bool :=
  requested ≠ none ∧ confirmed ≠ none ∧ requested ≠ confirmed

def showTsel : Option ℕ → String
  | none => "None"
  | some tsel => toString tsel

/-- Returns the CR TPDU that it is given, if it is one. -/
def validateConnectRequest : Tpdu → Except Exn CR
  | .CR cr =>
    if cr.cls ≠ 0 then
      .error (.exception ("received class " ++ toString cr.cls ++ " (only class 0 is supported)"))
    else .ok cr
  | _ => .error (.exception "received message is not of type CR")

/-- Returns the CC TPDU that it is given, if it is one. -/
def validateConnectResponse (cr : CR) : Tpdu → Except Exn CC
  | .CC cc =>
    if mismatch cr.callingTsel cc.callingTsel then
      .error (.exception ("received calling tsel " ++ showTsel cc.callingTsel ++
        " instead of " ++ showTsel cr.callingTsel))
    else if mismatch cr.calledTsel cc.calledTsel then
      .error (.exception ("received calling tsel " ++ showTsel cc.calledTsel ++
        " instead of " ++ showTsel cr.calledTsel))
    else if cc.dst ≠ cr.src then
      .error (.exception "received message with invalid sequence number")
    else if cc.cls ≠ 0 then
      .error (.exception ("received class " ++ toString cc.cls ++ " (only class 0 is supported)"))
    else .ok cc
  | _ => .error (.exception "received message is not of type CC")

def calculateMaxTpdu (cr : CR) (cc : CC) : ℕ :=
  match given cr.maxTpdu, given cc.maxTpdu with
  | none, none => 128
  | some maxTpdu, none => maxTpdu
  | _, some maxTpdu => maxTpdu

def calculateCcMaxTpdu (cr : CR) : ℕ :=
  match given cr.maxTpdu, given cr.prefMaxTpdu with
  | some maxTpdu, _ => maxTpdu
  | none, some prefMaxTpdu => prefMaxTpdu
  | none, none => 128

/-- The calling and the called selector. -/
def getTsels (cr : CR) (cc : CC) : Option ℕ × Option ℕ :=
  (cr.callingTsel <|> cc.callingTsel, cr.calledTsel <|> cc.calledTsel)

/-- The answer to a CR TPDU. -/
def confirm (src : ℕ) (cr : CR) : CC where
  dst := cr.src
  src := src
  cls := 0
  callingTsel := cr.callingTsel
  calledTsel := cr.calledTsel
  maxTpdu := some (calculateCcMaxTpdu cr)
  prefMaxTpdu := none

/-- `Server._on_connection` up to the new connection: the bytes of the CC TPDU that are sent,
and what the server keeps.  The connection reference is `src`. -/
def acceptRequest (src : ℕ) (crTpduBytes : Bytes) : Except Exn (Bytes × Negotiated) := do
  let cr ← validateConnectRequest (← decode crTpduBytes)
  let cc := confirm src cr
  let ccTpduBytes ← encode (.CC cc)
  let _ ← Tpkt.packet ccTpduBytes
  let (callingTsel, calledTsel) := getTsels cr cc
  return (ccTpduBytes, ⟨calculateMaxTpdu cr cc, calledTsel, callingTsel⟩)

/-- `connect` from the answer to its CR TPDU on: what the client keeps. -/
def acceptResponse (cr : CR) (ccTpduBytes : Bytes) : Except Exn Negotiated := do
  let cc ← validateConnectResponse cr (← decode ccTpduBytes)
  let (callingTsel, calledTsel) := getTsels cr cc
  return ⟨calculateMaxTpdu cr cc, callingTsel, calledTsel⟩

/-! ### Agreement -/

/-- The size that a client proposes: the maximum, or else the preferred size, or else the size
that holds by default. -/
def CR.proposed (cr : CR) : ℕ := (cr.maxTpdu <|> cr.prefMaxTpdu).getD 128

/-- Both ends agree, on a size within what the client proposed. -/
structure Agreed (cr : CR) (client server : Negotiated) : Prop where
  maxTpdu : client.maxTpdu = server.maxTpdu
  client_le : client.maxTpdu ≤ cr.proposed
  server_le : server.maxTpdu ≤ cr.proposed
  callingTsel : client.localTsel = server.remoteTsel
  calledTsel : client.remoteTsel = server.localTsel

/-- The size of a CR TPDU outlives the CC TPDU: a size is proposed as a maximum, or no size is,
or the preferred one is `128` times a power of two. -/
def CR.Representable (cr : CR) : Prop :=
  cr.maxTpdu ≠ none ∨ cr.prefMaxTpdu = none ∨ ∃ k, cr.prefMaxTpdu = some (128 * 2 ^ k)

variable {cr : CR} {cc : CC} {src : ℕ} {crTpduBytes ccTpduBytes : Bytes}
  {server client : Negotiated}

theorem given_eq_none {size : Option ℕ} : given size = none ↔ size = none ∨ size = some 0 := by
  rcases size with _ | _ | n <;> simp [given]

@[simp] theorem given_none : given none = none := rfl

theorem given_of_pos {n : ℕ} (h : n ≠ 0) : given (some n) = some n := by simp [given, h]

/-- The size that the server offers, it goes on with. -/
theorem calculateMaxTpdu_of_cc {n : ℕ} (h : cc.maxTpdu = some n) (hn : n ≠ 0) :
    calculateMaxTpdu cr cc = n := by
  rw [calculateMaxTpdu, h, given_of_pos hn]
  cases given cr.maxTpdu <;> rfl

theorem calculateCcMaxTpdu_pos (cr : CR) : calculateCcMaxTpdu cr ≠ 0 := by
  have hpos : ∀ {size : Option ℕ} {n : ℕ}, given size = some n → n ≠ 0 := by
    intro size n h
    exact of_decide_eq_true (Option.filter_eq_some_iff.mp h).2
  unfold calculateCcMaxTpdu
  cases hmax : given cr.maxTpdu with
  | some n => exact hpos hmax
  | none =>
    cases hpref : given cr.prefMaxTpdu with
    | some n => exact hpos hpref
    | none => decide

theorem validateConnectRequest_eq_ok {tpdu : Tpdu} (h : validateConnectRequest tpdu = .ok cr) :
    tpdu = .CR cr := by
  cases tpdu with
  | CR tpdu =>
    rw [validateConnectRequest] at h
    split at h
    · cases h
    · rw [Except.ok.inj h]
  | DT tpdu => cases h
  | CC tpdu => cases h
  | DR tpdu => cases h
  | ER tpdu => cases h

theorem validateConnectResponse_eq_ok {cc' : CC}
    (h : validateConnectResponse cr (.CC cc) = .ok cc') : cc = cc' := by
  rw [validateConnectResponse] at h
  split_ifs at h
  exact Except.ok.inj h

theorem orElse_self (tsel : Option ℕ) : (tsel <|> tsel) = tsel := by
  cases tsel <;> rfl

/-- What the server goes on with. -/
theorem acceptRequest_eq_ok (hcr : decode crTpduBytes = .ok (.CR cr))
    (h : acceptRequest src crTpduBytes = .ok (ccTpduBytes, server)) :
    encode (.CC (confirm src cr)) = .ok ccTpduBytes ∧
      server = ⟨calculateCcMaxTpdu cr, cr.calledTsel, cr.callingTsel⟩ := by
  obtain ⟨tpdu, htpdu, h⟩ := bind_eq_ok.mp h
  obtain rfl : .CR cr = tpdu := Except.ok.inj (hcr.symm.trans htpdu)
  obtain ⟨cr', hvalidate, h⟩ := bind_eq_ok.mp h
  obtain rfl := Tpdu.CR.inj (validateConnectRequest_eq_ok hvalidate)
  obtain ⟨bytes, hbytes, h⟩ := bind_eq_ok.mp h
  obtain ⟨packet, _, h⟩ := bind_eq_ok.mp h
  have hsize : calculateMaxTpdu cr (confirm src cr) = calculateCcMaxTpdu cr :=
    calculateMaxTpdu_of_cc rfl (calculateCcMaxTpdu_pos cr)
  simp only [hsize] at h
  simp only [getTsels, confirm, orElse_self, pure_eq_ok] at h
  obtain ⟨rfl, rfl⟩ := Prod.mk.inj (Except.ok.inj h)
  exact ⟨hbytes, rfl⟩

/-- What the client goes on with: the size of the CC TPDU as it was written. -/
theorem acceptResponse_eq_ok (hcc : encode (.CC (confirm src cr)) = .ok ccTpduBytes)
    (h : acceptResponse cr ccTpduBytes = .ok client) :
    client = ⟨2 ^ (calculateCcMaxTpdu cr).log2, cr.callingTsel, cr.calledTsel⟩ := by
  have hdecode := decode_encode_CC rfl hcc
  obtain ⟨tpdu, htpdu, h⟩ := bind_eq_ok.mp h
  rw [hdecode] at htpdu
  obtain rfl := Except.ok.inj htpdu
  obtain ⟨cc', hvalidate, h⟩ := bind_eq_ok.mp h
  obtain rfl := validateConnectResponse_eq_ok hvalidate
  have hsize : calculateMaxTpdu cr { confirm src cr with
      maxTpdu := (confirm src cr).maxTpdu.map fun size => 2 ^ size.log2 } =
      2 ^ (calculateCcMaxTpdu cr).log2 := calculateMaxTpdu_of_cc rfl (Nat.two_pow_pos _).ne'
  simp only [hsize] at h
  simp only [getTsels, confirm, orElse_self, pure_eq_ok] at h
  exact (Except.ok.inj h).symm

/-- The preferred sizes that are powers of two. -/
theorem log2_eq_iff {n : ℕ} (hn : n ≠ 0) :
    2 ^ (128 * n).log2 = 128 * n ↔ ∃ k, n = 2 ^ k := by
  constructor
  · intro h
    have hlarge : 2 ^ 7 ≤ 2 ^ (128 * n).log2 := by omega
    have hexp : 7 ≤ (128 * n).log2 := (Nat.pow_le_pow_iff_right (by omega)).mp hlarge
    refine ⟨(128 * n).log2 - 7, ?_⟩
    have hsplit : 2 ^ (128 * n).log2 = 2 ^ 7 * 2 ^ ((128 * n).log2 - 7) := by
      rw [← Nat.pow_add, Nat.add_sub_cancel' hexp]
    omega
  · rintro ⟨k, rfl⟩
    have hpow : 128 * 2 ^ k = 2 ^ (7 + k) := by rw [Nat.pow_add]
    rw [hpow, Nat.log2_two_pow]

/-- The size that the server offers is the power of two that is written of it iff the size is
representable; and then it is within what the client proposed. -/
theorem offered_iff (hcr : decode crTpduBytes = .ok (.CR cr)) :
    (2 ^ (calculateCcMaxTpdu cr).log2 = calculateCcMaxTpdu cr ∧
      calculateCcMaxTpdu cr ≤ cr.proposed) ↔ cr.Representable := by
  obtain ⟨hmax, hpref⟩ := sizes_of_decode_CR hcr
  obtain ⟨crSrc, cls, callingTsel, calledTsel, maxTpdu, prefMaxTpdu⟩ := cr
  simp only [CR.Representable, CR.proposed, calculateCcMaxTpdu] at hmax hpref ⊢
  cases maxTpdu with
  | some size =>
    obtain ⟨k, rfl⟩ := hmax size rfl
    rw [given_of_pos (Nat.two_pow_pos k).ne']
    refine iff_of_true ⟨?_, Nat.le_refl _⟩ (.inl (by simp))
    rw [Nat.log2_two_pow]
  | none =>
    cases prefMaxTpdu with
    | none => exact iff_of_true ⟨by decide, Nat.le_refl _⟩ (.inr (.inl rfl))
    | some size =>
      obtain ⟨n, rfl⟩ := hpref size rfl
      have hiff : (∃ k, some (128 * n) = some (128 * 2 ^ k)) ↔ ∃ k, n = 2 ^ k := by
        simp only [Option.some.injEq]
        exact exists_congr fun k => Nat.mul_right_inj (by omega)
      simp only [ne_eq, not_true_eq_false, reduceCtorEq, false_or, hiff]
      by_cases hn : n = 0
      · -- a preferred size of zero is taken for none, and the default is more
        subst hn
        refine iff_of_false (fun h => absurd h.2 (by decide)) ?_
        rintro ⟨k, hk⟩
        exact (Nat.two_pow_pos k).ne hk
      · rw [given_none, given_of_pos (by omega : 128 * n ≠ 0)]
        rw [← log2_eq_iff hn]
        exact and_iff_left (Nat.le_refl _)

/-- **Handshake agreement.**  After every handshake that both ends complete, they agree iff the
client proposed a size that the CC TPDU can represent. -/
theorem agreed_iff (hcr : decode crTpduBytes = .ok (.CR cr))
    (hserver : acceptRequest src crTpduBytes = .ok (ccTpduBytes, server))
    (hclient : acceptResponse cr ccTpduBytes = .ok client) :
    Agreed cr client server ↔ cr.Representable := by
  obtain ⟨hcc, rfl⟩ := acceptRequest_eq_ok hcr hserver
  obtain rfl := acceptResponse_eq_ok hcc hclient
  rw [← offered_iff hcr]
  constructor
  · intro h
    exact ⟨h.maxTpdu, h.server_le⟩
  · rintro ⟨hsize, hle⟩
    exact ⟨hsize, by rwa [hsize], hle, rfl, rfl⟩

/-- A CR TPDU with a preferred size of 256 and two selectors. -/
theorem agreed_iff_256 :
    Agreed ⟨1, 0, some 5, some 6, none, some 256⟩ ⟨256, some 5, some 6⟩ ⟨256, some 6, some 5⟩ ↔
      CR.Representable ⟨1, 0, some 5, some 6, none, some 256⟩ :=
  @agreed_iff _ 7 [17, 0xE0, 0, 0, 0, 1, 0, 0xC1, 2, 0, 5, 0xC2, 2, 0, 6, 0xF0, 1, 2]
    [17, 0xD0, 0, 1, 0, 7, 0, 0xC1, 2, 0, 5, 0xC2, 2, 0, 6, 0xC0, 1, 8] _ _
    (by decide) (by decide) (by decide)

/-- A preferred size of 384: the server goes on with it, and the client with 256. -/
theorem not_agreed_384 :
    ∃ cr crTpduBytes ccTpduBytes server client, decode crTpduBytes = .ok (.CR cr) ∧
      acceptRequest 7 crTpduBytes = .ok (ccTpduBytes, server) ∧
      acceptResponse cr ccTpduBytes = .ok client ∧ ¬ Agreed cr client server := by
  refine ⟨⟨1, 0, none, none, none, some 384⟩, [9, 0xE0, 0, 0, 0, 1, 0, 0xF0, 1, 3],
    [9, 0xD0, 0, 1, 0, 7, 0, 0xC0, 1, 8], ⟨384, none, none⟩, ⟨256, none, none⟩, by decide,
    by decide, by decide, ?_⟩
  intro h
  exact absurd h.maxTpdu (by decide)

end HatDrivers.Cotp
