import HatDrivers.Icmp.Encoder
import HatDrivers.Lib.OnesComplement
import Mathlib.Algebra.Order.BigOperators.Group.List

namespace HatDrivers.Icmp

open HatDrivers.Lib
open HatDrivers.Lib.OnesComplement (residue sum_eq_residue foldOnce foldOnce_eq_residue_iff
  residue_le)

/-!
# ICMP — the checksum

The checksum of `encode_msg` and `decode_msg` beside the internet checksum: when the two agree, what
that means for messages of other hosts, and which changes of a message are noticed.
-/

/-- The internet checksum: the ones' complement of the ones' complement sum of all words, with the
checksum taken as zero. -/
def internetChecksum (msgBytes : Bytes) : ℕ :=
  65535 - OnesComplement.sum 65535 (words ((msgBytes.set 2 0).set 3 0))

/-- The word of the type and the code. -/
def typeWord (msgBytes : Bytes) : ℕ :=
  256 * (msgBytes.getD 0 0).toNat + (msgBytes.getD 1 0).toNat

/-- The type and the code make up for the carries that are left when those of the sum of the other
words have been added to its low word, and that does not leave zero. -/
def CarriesCancel (msgBytes : Bytes) : Prop :=
  let sum := wordsSum msgBytes
  let folded := sum / 65536 + sum % 65536
  65535 ∣ typeWord msgBytes + folded / 65536 ∧ (65536 ∣ folded → typeWord msgBytes + sum = 0)

instance (msgBytes : Bytes) : Decidable (CarriesCancel msgBytes) :=
  inferInstanceAs (Decidable (_ ∧ _))

/-- The message fields that an ICMP header has room for. -/
def EchoMsg.InRange (msg : EchoMsg) : Prop :=
  (0 ≤ msg.identifier ∧ msg.identifier ≤ 0xffff) ∧
  0 ≤ msg.sequenceNumber ∧ msg.sequenceNumber ≤ 0xffff

/-! ### The internet checksum -/

theorem internetChecksum_eq {msgBytes : Bytes} (h : 8 ≤ msgBytes.length) :
    internetChecksum msgBytes =
      65535 - residue 65535 (typeWord msgBytes + wordsSum msgBytes) := by
  match msgBytes with
  | t :: c :: c2 :: c3 :: rest =>
    have hwords : words (((t :: c :: c2 :: c3 :: rest).set 2 0).set 3 0) =
        (256 * t.toNat + c.toNat) :: 0 :: words rest := rfl
    rw [internetChecksum, sum_eq_residue (by omega) words_le, hwords, List.sum_cons, List.sum_cons,
      Nat.zero_add]
    rfl

/-- Where the checksum of the code is the internet checksum. -/
theorem calculateChecksum_eq_internetChecksum_iff {msgBytes : Bytes} (h : 8 ≤ msgBytes.length) :
    calculateChecksum msgBytes = .ok (internetChecksum msgBytes) ↔ CarriesCancel msgBytes := by
  have hfolded := foldedSum_lt (wordsSum msgBytes)
  have hresidue := residue_le (m := 65535) (by omega) (typeWord msgBytes + wordsSum msgBytes)
  have hiff := foldOnce_eq_residue_iff (m := 65535) (by omega) (typeWord msgBytes)
    (wordsSum msgBytes)
  have hword : foldedSum (wordsSum msgBytes) = residue 65535 (typeWord msgBytes +
      wordsSum msgBytes) ↔ CarriesCancel msgBytes := by
    rw [CarriesCancel, Nat.dvd_iff_mod_eq_zero (m := 65536)]
    exact hiff
  rw [calculateChecksum_eq h, internetChecksum_eq h, Except.ok.injEq, ← hword]
  omega

/-- Messages that fit into a packet: requests are never summed right, and replies just when one
folding leaves no carry. -/
theorem carriesCancel_iff_of_length_le {msgBytes : Bytes} (hlength : msgBytes.length ≤ 65535)
    (htype : msgBytes.getD 0 0 = 0 ∨ msgBytes.getD 0 0 = 8) (hcode : msgBytes.getD 1 0 = 0) :
    CarriesCancel msgBytes ↔ msgBytes.getD 0 0 = 0 ∧
      wordsSum msgBytes / 65536 + wordsSum msgBytes % 65536 < 65536 := by
  have hsum : wordsSum msgBytes ≤ 65535 * 65535 := by
    have hcard := List.sum_le_card_nsmul (words (msgBytes.drop 4)) 65535 words_le
    have hwords := length_words_le (msgBytes.drop 4)
    rw [List.length_drop] at hwords
    exact hcard.trans (Nat.mul_le_mul_right _ (by omega))
  set folded := wordsSum msgBytes / 65536 + wordsSum msgBytes % 65536 with hfolded
  -- at most one carry is left
  obtain ⟨carry, hcarry, hle⟩ : ∃ carry, folded / 65536 = carry ∧ carry ≤ 1 :=
    ⟨_, rfl, by omega⟩
  show 65535 ∣ typeWord msgBytes + folded / 65536 ∧
    (65536 ∣ folded → typeWord msgBytes + wordsSum msgBytes = 0) ↔ _
  rw [hcarry, typeWord, hcode]
  rcases htype with htype | htype
  · rw [htype]
    simp only [UInt8.toNat_zero, true_and]
    constructor
    · intro h
      omega
    · intro h
      obtain rfl : carry = 0 := by omega
      exact ⟨by decide, by omega⟩
  · rw [htype, show (8 : UInt8).toNat = 8 from rfl, UInt8.toNat_zero]
    constructor
    · intro h
      omega
    · intro h
      exact absurd h.1 (by decide)

/-! ### Sent messages -/

/-- The message that is written, the checksum in its field. -/
theorem encodeMsg_eq {msg : EchoMsg} (h : msg.InRange) :
    ∃ t c2 c3 h0 h1 h2 h3 : UInt8,
      encodeMsg msg = .ok (t :: 0 :: c2 :: c3 :: h0 :: h1 :: h2 :: h3 :: msg.data) ∧
      t = (if msg.isReply then 0 else 8) ∧
      256 * c2.toNat + c3.toNat =
        65535 - foldedSum (wordsSum (t :: 0 :: c2 :: c3 :: h0 :: h1 :: h2 :: h3 :: msg.data)) ∧
      ((256 * h0.toNat + h1.toNat : ℕ) : ℤ) = msg.identifier ∧
      ((256 * h2.toNat + h3.toNat : ℕ) : ℤ) = msg.sequenceNumber := by
  obtain ⟨⟨hid, hid'⟩, hseq, hseq'⟩ := h
  -- the two bytes of a field below 65536
  have hbytes (n : ℕ) (hn : n < 65536) :
      256 * (UInt8.ofNat (n >>> 8)).toNat + (UInt8.ofNat (n &&& 0xff)).toNat = n := by
    rw [Nat.shiftRight_eq_div_pow, show n &&& 0xff = n % 256 from Nat.and_two_pow_sub_one_eq_mod n 8,
      toNat_ofNat_of_lt (by omega), toNat_ofNat_of_lt (by omega)]
    omega
  have hheader : encodeEchoHeaderData msg = .ok [msg.identifier.toNat >>> 8,
      msg.identifier.toNat &&& 0xff, msg.sequenceNumber.toNat >>> 8,
      msg.sequenceNumber.toNat &&& 0xff] := by
    unfold encodeEchoHeaderData
    rw [if_neg (by omega), if_neg (by omega)]
  set checksum := 65535 - foldedSum (words (bytesOf [msg.identifier.toNat >>> 8,
      msg.identifier.toNat &&& 0xff, msg.sequenceNumber.toNat >>> 8,
      msg.sequenceNumber.toNat &&& 0xff] ++ msg.data)).sum with hchecksum
  refine ⟨if msg.isReply then 0 else 8, UInt8.ofNat (checksum >>> 8),
    UInt8.ofNat (checksum &&& 0xff), UInt8.ofNat (msg.identifier.toNat >>> 8),
    UInt8.ofNat (msg.identifier.toNat &&& 0xff), UInt8.ofNat (msg.sequenceNumber.toNat >>> 8),
    UInt8.ofNat (msg.sequenceNumber.toNat &&& 0xff), ?_, rfl, ?_, ?_, ?_⟩
  · unfold encodeMsg
    rw [hheader]
    simp only [bind, Except.bind, pure, Except.pure]
    rw [calculateChecksum_eq (by simp)]
    cases msg.isReply with
    | true => rfl
    | false => rfl
  · rw [hbytes checksum (by omega)]
    rfl
  · rw [hbytes _ (by omega)]
    omega
  · rw [hbytes _ (by omega)]
    omega

/-- Every message is read back as it was written. -/
theorem decodeMsg_encodeMsg {msg : EchoMsg} (h : msg.InRange) :
    ∃ msgBytes, encodeMsg msg = .ok msgBytes ∧ decodeMsg msgBytes = .ok msg := by
  obtain ⟨t, c2, c3, h0, h1, h2, h3, hencode, htype, hsum, hid, hseq⟩ := encodeMsg_eq h
  obtain ⟨isReply, identifier, sequenceNumber, data⟩ := msg
  refine ⟨_, hencode, ?_⟩
  rw [decodeMsg_cons, if_neg (not_not.mpr hsum.symm), hid, hseq, htype]
  cases isReply with
  | true =>
    rw [if_pos rfl, if_neg (by decide), if_neg (by decide)]
    rfl
  | false =>
    rw [if_neg Bool.false_ne_true, if_neg (by decide), if_neg (by decide)]
    rfl

/-! ### Changed messages -/

/-- The low word that is left of a sum tells sums apart that differ by less than a word. -/
theorem foldedSum_add_ne (n : ℕ) {d : ℕ} (hd : 0 < d) (hle : d ≤ 65280) :
    foldedSum (n + d) ≠ foldedSum n := by
  unfold foldedSum
  intro h
  -- adding `d` carries at most once
  obtain hq | hq : (n + d) / 65536 = n / 65536 ∨ (n + d) / 65536 = n / 65536 + 1 := by omega
  · have hmod : (n + d) % 65536 = n % 65536 + d := by omega
    rw [hq, hmod, ← Nat.add_assoc] at h
    omega
  · have hmod : (n + d) % 65536 + 65536 = n % 65536 + d := by omega
    rw [hq] at h
    omega

theorem foldedSum_ne {n n' : ℕ} (hne : n ≠ n') (hle : n ≤ n' + 65280) (hle' : n' ≤ n + 65280) :
    foldedSum n ≠ foldedSum n' := by
  rcases Nat.lt_or_gt_of_ne hne with hlt | hlt
  · rw [show n' = n + (n' - n) by omega]
    exact (foldedSum_add_ne n (by omega) (by omega)).symm
  · rw [show n = n' + (n - n') by omega]
    exact foldedSum_add_ne n' (by omega) (by omega)

theorem wordsSum_set {msgBytes : Bytes} {i : ℕ} (h4 : 4 ≤ i) (hi : i < msgBytes.length)
    (b : UInt8) :
    wordsSum (msgBytes.set i b) + (if i % 2 = 0 then 256 else 1) * msgBytes[i].toNat =
      wordsSum msgBytes + (if i % 2 = 0 then 256 else 1) * b.toNat := by
  have hlt : i - 4 < (msgBytes.drop 4).length := by
    rw [List.length_drop]
    omega
  have hset := sum_words_set hlt b
  rw [List.getElem_drop] at hset
  simp only [show 4 + (i - 4) = i by omega, show (i - 4) % 2 = i % 2 by omega] at hset
  rw [wordsSum, List.drop_set, if_neg (by omega)]
  exact hset

/-- A changed byte of a message that is accepted goes unnoticed only where the type becomes the
other type of echo messages. -/
theorem decodeMsg_set_iff {msgBytes : Bytes} (h : 8 ≤ msgBytes.length) {msg : EchoMsg}
    (haccepts : decodeMsg msgBytes = .ok msg) {i : ℕ} (hi : i < msgBytes.length) {b : UInt8}
    (hb : b ≠ msgBytes[i]) :
    (∃ msg, decodeMsg (msgBytes.set i b) = .ok msg) ↔ i = 0 ∧ (b = 0 ∨ b = 8) := by
  obtain ⟨hfield, htype, hcode⟩ := (decodeMsg_accepts_iff h).mp ⟨msg, haccepts⟩
  have hfolded := foldedSum_lt (wordsSum msgBytes)
  rw [decodeMsg_accepts_iff (by rwa [List.length_set])]
  match msgBytes, i with
  | t :: c :: c2 :: c3 :: rest, 0 =>
    have hsame : checksumField (b :: c :: c2 :: c3 :: rest) =
        65535 - foldedSum (wordsSum (b :: c :: c2 :: c3 :: rest)) := hfield
    simp only [List.set_cons_zero, List.getD_cons_zero, true_and]
    exact ⟨fun h => h.2.1, fun h => ⟨hsame, h, hcode⟩⟩
  | t :: c :: c2 :: c3 :: rest, 1 =>
    refine iff_of_false ?_ (by omega)
    rintro ⟨_, _, hb'⟩
    exact hb (hb'.trans hcode.symm)
  | t :: c :: c2 :: c3 :: rest, 2 =>
    refine iff_of_false ?_ (by omega)
    rintro ⟨hfield', _⟩
    have hsame : 256 * b.toNat + c3.toNat = 256 * c2.toNat + c3.toNat := hfield'.trans hfield.symm
    exact hb (UInt8.toNat_inj.mp (by simpa using hsame))
  | t :: c :: c2 :: c3 :: rest, 3 =>
    refine iff_of_false ?_ (by omega)
    rintro ⟨hfield', _⟩
    have hsame : 256 * c2.toNat + b.toNat = 256 * c2.toNat + c3.toNat := hfield'.trans hfield.symm
    exact hb (UInt8.toNat_inj.mp (by simpa using hsame))
  | t :: c :: c2 :: c3 :: rest, i + 4 =>
    refine iff_of_false ?_ (by omega)
    rintro ⟨hfield', _⟩
    have hsum := wordsSum_set (Nat.le_add_left 4 i) hi b
    have hne : b.toNat ≠ ((t :: c :: c2 :: c3 :: rest)[i + 4]).toNat := mt UInt8.toNat_inj.mp hb
    have hlt := b.toNat_lt
    have hlt' := ((t :: c :: c2 :: c3 :: rest)[i + 4]).toNat_lt
    have hfolded' := foldedSum_lt (wordsSum ((t :: c :: c2 :: c3 :: rest).set (i + 4) b))
    have hsame : checksumField ((t :: c :: c2 :: c3 :: rest).set (i + 4) b) =
        checksumField (t :: c :: c2 :: c3 :: rest) := rfl
    have hfolded : foldedSum (wordsSum ((t :: c :: c2 :: c3 :: rest).set (i + 4) b)) ≠
        foldedSum (wordsSum (t :: c :: c2 :: c3 :: rest)) := by
      apply foldedSum_ne <;> split at hsum <;> omega
    omega

/-- For every message of at least eight bytes, the checksum is the internet checksum just when the
type and the code make up for the carries that are left, and just then an echo message that its
sender summed right is accepted.  Every message that can be sent is read back as it was, and a change
of one of its bytes is noticed unless it turns the type into that of the other echo messages. -/
theorem checksum_iff (msgBytes : Bytes) (hlength : 8 ≤ msgBytes.length) (msg : EchoMsg)
    (hmsg : msg.InRange) :
    (calculateChecksum msgBytes = .ok (internetChecksum msgBytes) ↔ CarriesCancel msgBytes) ∧
    ((msgBytes.getD 0 0 = 0 ∨ msgBytes.getD 0 0 = 8) → msgBytes.getD 1 0 = 0 →
      checksumField msgBytes = internetChecksum msgBytes →
      ((∃ msg, decodeMsg msgBytes = .ok msg) ↔ CarriesCancel msgBytes)) ∧
    ∃ sent, encodeMsg msg = .ok sent ∧ decodeMsg sent = .ok msg ∧
      ∀ (i : ℕ) (hi : i < sent.length) (b : UInt8), b ≠ sent[i] →
        ((∃ e, decodeMsg (sent.set i b) = .error e) ↔ ¬ (i = 0 ∧ (b = 0 ∨ b = 8))) := by
  refine ⟨calculateChecksum_eq_internetChecksum_iff hlength, ?_, ?_⟩
  · intro htype hcode hfield
    rw [decodeMsg_accepts_iff hlength, hfield,
      ← calculateChecksum_eq_internetChecksum_iff hlength, calculateChecksum_eq hlength,
      Except.ok.injEq]
    exact ⟨fun h => h.1.symm, fun h => ⟨h.symm, htype, hcode⟩⟩
  · obtain ⟨sent, hencode, hdecode⟩ := decodeMsg_encodeMsg hmsg
    refine ⟨sent, hencode, hdecode, fun i hi b hb => ?_⟩
    have hsent : 8 ≤ sent.length := by
      obtain ⟨t, c2, c3, h0, h1, h2, h3, hencode', -⟩ := encodeMsg_eq hmsg
      rw [hencode'] at hencode
      obtain rfl := Except.ok.inj hencode
      simp
    rw [← decodeMsg_set_iff hsent hdecode hi hb]
    cases decodeMsg (sent.set i b) with
    | ok msg => simp
    | error e => simp

/-- An echo request. -/
theorem checksum_iff_request :
    (calculateChecksum [8, 0, 0, 0, 0, 1, 0, 2] =
      .ok (internetChecksum [8, 0, 0, 0, 0, 1, 0, 2]) ↔ CarriesCancel [8, 0, 0, 0, 0, 1, 0, 2]) ∧
    ∃ sent, encodeMsg ⟨false, 1, 2, []⟩ = .ok sent ∧ decodeMsg sent = .ok ⟨false, 1, 2, []⟩ := by
  obtain ⟨hsum, -, sent, hencode, hdecode, -⟩ := checksum_iff [8, 0, 0, 0, 0, 1, 0, 2] (by decide)
    ⟨false, 1, 2, []⟩ (by unfold EchoMsg.InRange; decide)
  exact ⟨hsum, sent, hencode, hdecode⟩

/-- The type of a request is not part of its checksum: the one of a correct sender is another one,
its message is rejected, and a request whose type is changed is taken for a reply. -/
theorem request_checksum :
    calculateChecksum [8, 0, 0, 0, 0, 1, 0, 2] ≠
      .ok (internetChecksum [8, 0, 0, 0, 0, 1, 0, 2]) ∧
    checksumField [8, 0, 0xf7, 0xfc, 0, 1, 0, 2] =
      internetChecksum [8, 0, 0xf7, 0xfc, 0, 1, 0, 2] ∧
    decodeMsg [8, 0, 0xf7, 0xfc, 0, 1, 0, 2] = .error (.exception "invalid checksum") ∧
    encodeMsg ⟨false, 1, 2, []⟩ = .ok [8, 0, 0xff, 0xfc, 0, 1, 0, 2] ∧
    decodeMsg [0, 0, 0xff, 0xfc, 0, 1, 0, 2] = .ok ⟨true, 1, 2, []⟩ := by
  decide +kernel

end HatDrivers.Icmp
