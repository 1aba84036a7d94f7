import HatDrivers.Basic
import Mathlib.Data.Int.Bitwise

namespace HatDrivers.Icmp

open HatDrivers.Lib

/-!
# ICMP — messages

`encode_msg` and `decode_msg` of echo messages, and the checksum both of them compute.
-/

structure EchoMsg where
  isReply : Bool
  identifier : ℤ
  sequenceNumber : ℤ
  data : Bytes
  deriving DecidableEq

/-! ### The code -/

/-- The loop of `_calculate_checksum` over the bytes from position `i` on. -/
def sumBytes (acc i : ℕ) : Bytes → ℕ
  | [] => acc
  | b :: bs => sumBytes (acc + if i % 2 ≠ 0 then b.toNat else b.toNat <<< 8) (i + 1) bs

/-- `_calculate_checksum` -/
def calculateChecksum (msgBytes : Bytes) : Except Exn ℕ := do
  let b0 ← byteAt msgBytes 0
  let b1 ← byteAt msgBytes 1
  let acc := sumBytes ((b0 <<< 8) &&& b1) 4 (msgBytes.drop 4)
  return ((~~~((acc >>> 16 + (acc &&& 0xffff) : ℕ) : ℤ)).land 0xffff).toNat

/-- `_encode_echo_header_data` -/
def encodeEchoHeaderData (msg : EchoMsg) : Except Exn (List ℕ) :=
  if msg.identifier < 0 ∨ msg.identifier > 0xffff then
    .error (.valueError "invalid identifier")
  else if msg.sequenceNumber < 0 ∨ msg.sequenceNumber > 0xffff then
    .error (.valueError "invalid sequence number")
  else
    let identifier := msg.identifier.toNat
    let sequenceNumber := msg.sequenceNumber.toNat
    .ok [identifier >>> 8, identifier &&& 0xff, sequenceNumber >>> 8, sequenceNumber &&& 0xff]

/-- `encode_msg` -/
def encodeMsg (msg : EchoMsg) : Except Exn Bytes := do
  let msgType := if msg.isReply then 0 else 8
  let code := 0
  let headerData ← encodeEchoHeaderData msg
  let msgBytes := bytesOf ([msgType, code, 0, 0] ++ headerData) ++ msg.data
  let checksum ← calculateChecksum msgBytes
  return (msgBytes.set 2 (UInt8.ofNat (checksum >>> 8))).set 3 (UInt8.ofNat (checksum &&& 0xff))

/-- `_decode_echo_msg` -/
def decodeEchoMsg (isReply : Bool) (code : ℕ) (headerData msgData : Bytes) :
    Except Exn EchoMsg := do
  if code ≠ 0 then
    throw (.exception "invalid code")
  let h0 ← byteAt headerData 0
  let h1 ← byteAt headerData 1
  let h2 ← byteAt headerData 2
  let h3 ← byteAt headerData 3
  let identifier := (h0 <<< 8) ||| h1
  let sequenceNumber := (h2 <<< 8) ||| h3
  return ⟨isReply, identifier, sequenceNumber, msgData⟩

/-- `decode_msg` -/
def decodeMsg (msgBytes : Bytes) : Except Exn EchoMsg := do
  if msgBytes.length < 8 then
    throw (.exception "invalid message size")
  let checksum ← calculateChecksum msgBytes
  let b2 ← byteAt msgBytes 2
  let b3 ← byteAt msgBytes 3
  if checksum ≠ (b2 <<< 8) ||| b3 then
    throw (.exception "invalid checksum")
  let msgType ← byteAt msgBytes 0
  let code ← byteAt msgBytes 1
  let headerData := slice msgBytes 4 8
  let msgData := msgBytes.drop 8
  if msgType = 0 then
    decodeEchoMsg true code headerData msgData
  else if msgType = 8 then
    decodeEchoMsg false code headerData msgData
  else
    throw (.exception "unsupported message type")

/-! ### Words -/

/-- The 16-bit big-endian words of a byte string, an odd last byte padded with zero. -/
def words : Bytes → List ℕ
  | [] => []
  | [b] => [256 * b.toNat]
  | hi :: lo :: rest => (256 * hi.toNat + lo.toNat) :: words rest

theorem words_le {bs : Bytes} : ∀ w ∈ words bs, w ≤ 65535 := by
  induction bs using words.induct with
  | case1 => exact fun _ h => absurd h List.not_mem_nil
  | case2 b =>
    have := b.toNat_lt
    simp only [words, List.mem_singleton, forall_eq]
    omega
  | case3 hi lo rest ih =>
    have := hi.toNat_lt
    have := lo.toNat_lt
    exact List.forall_mem_cons.mpr ⟨by omega, ih⟩

theorem length_words_le (bs : Bytes) : (words bs).length ≤ bs.length := by
  induction bs using words.induct with
  | case1 => exact le_rfl
  | case2 b => exact le_rfl
  | case3 hi lo rest ih =>
    rw [words, List.length_cons, List.length_cons, List.length_cons]
    omega

/-- The loop adds the words up, when it starts at an even position. -/
theorem sumBytes_eq (bs : Bytes) {i : ℕ} (hi : i % 2 = 0) (acc : ℕ) :
    sumBytes acc i bs = acc + (words bs).sum := by
  induction bs using words.induct generalizing acc i with
  | case1 => rfl
  | case2 b =>
    rw [sumBytes, sumBytes, if_neg (by omega), words, List.sum_singleton, Nat.shiftLeft_eq]
    omega
  | case3 high low rest ih =>
    rw [sumBytes, sumBytes, if_neg (by omega), if_pos (by omega), ih (by omega), words,
      List.sum_cons, Nat.shiftLeft_eq]
    omega

/-- A changed byte changes the sum of the words by its weight. -/
theorem sum_words_set {bs : Bytes} {i : ℕ} (hi : i < bs.length) (b : UInt8) :
    (words (bs.set i b)).sum + (if i % 2 = 0 then 256 else 1) * bs[i].toNat =
      (words bs).sum + (if i % 2 = 0 then 256 else 1) * b.toNat := by
  induction bs using words.induct generalizing i with
  | case1 => exact absurd hi (Nat.not_lt_zero i)
  | case2 a =>
    obtain rfl : i = 0 := by simpa using hi
    simp [words, Nat.add_comm]
  | case3 high low rest ih =>
    match i with
    | 0 =>
      rw [if_pos rfl]
      simp only [List.set_cons_zero, words, List.sum_cons, List.getElem_cons_zero]
      omega
    | 1 =>
      rw [if_neg (by omega)]
      simp only [List.set_cons_succ, List.set_cons_zero, words, List.sum_cons,
        List.getElem_cons_succ, List.getElem_cons_zero]
      omega
    | i + 2 =>
      have hrest := ih (i := i) (by simpa using hi)
      simp only [List.set_cons_succ, words, List.sum_cons, List.getElem_cons_succ,
        show (i + 2) % 2 = i % 2 by omega]
      omega

/-! ### What the code computes -/

/-- The sum of the words that follow the checksum. -/
def wordsSum (msgBytes : Bytes) : ℕ := (words (msgBytes.drop 4)).sum

/-- The carries of the sum added to its low word once, and the low word of that. -/
def foldedSum (n : ℕ) : ℕ := (n / 65536 + n % 65536) % 65536

theorem foldedSum_lt (n : ℕ) : foldedSum n < 65536 := Nat.mod_lt _ (by omega)

/-- `(~x) & 0xffff` -/
theorem not_land_eq (x : ℕ) : ((~~~(x : ℤ)).land 0xffff).toNat = 65535 - x % 65536 := by
  have hldiff (n : ℕ) : ((~~~(x : ℤ)).land n).toNat = Nat.ldiff n x := rfl
  have hmod : x % 65536 < 2 ^ 16 := Nat.mod_lt _ (by omega)
  rw [show (0xffff : ℤ) = ((65535 : ℕ) : ℤ) from rfl, hldiff]
  apply Nat.eq_of_testBit_eq
  intro i
  rw [Nat.testBit_ldiff, show 65535 = 2 ^ 16 - 1 from rfl, Nat.testBit_two_pow_sub_one,
    show 2 ^ 16 - 1 - x % 65536 = 2 ^ 16 - (x % 65536 + 1) by omega,
    Nat.testBit_two_pow_sub_succ hmod, show 65536 = 2 ^ 16 from rfl, Nat.testBit_mod_two_pow]
  by_cases h : i < 16
  · simp [h]
  · simp [h]

/-- The checksum, whatever its field holds: the type and the code do not count. -/
theorem calculateChecksum_eq {msgBytes : Bytes} (h : 8 ≤ msgBytes.length) :
    calculateChecksum msgBytes = .ok (65535 - foldedSum (wordsSum msgBytes)) := by
  obtain ⟨b0, b1, rest, rfl⟩ : ∃ b0 b1 rest, msgBytes = b0 :: b1 :: rest := by
    match msgBytes with
    | b0 :: b1 :: rest => exact ⟨b0, b1, rest, rfl⟩
  -- no bit is set both in a multiple of 256 and in a byte
  have hfirst : (b0.toNat <<< 8) &&& b1.toNat = 0 := by
    apply Nat.eq_of_testBit_eq
    intro i
    rw [Nat.testBit_and, Nat.testBit_shiftLeft, Nat.zero_testBit]
    by_cases hi : i < 8
    · simp [show ¬ i ≥ 8 by omega]
    · rw [Nat.testBit_lt_two_pow (lt_of_lt_of_le b1.toNat_lt
        (Nat.pow_le_pow_right (by omega) (by omega))), Bool.and_false]
  have hsum : sumBytes ((b0.toNat <<< 8) &&& b1.toNat) 4 ((b0 :: b1 :: rest).drop 4) =
      wordsSum (b0 :: b1 :: rest) := by
    rw [hfirst, sumBytes_eq _ (by omega), Nat.zero_add, wordsSum]
  have hlow (n : ℕ) : n &&& 65535 = n % 65536 := Nat.and_two_pow_sub_one_eq_mod n 16
  have hhigh (n : ℕ) : n >>> 16 = n / 65536 := Nat.shiftRight_eq_div_pow n 16
  show Except.ok _ = _
  rw [hsum, not_land_eq, hlow, hhigh]
  rfl

/-! ### Received messages -/

/-- The field a received checksum is compared with. -/
def checksumField (msgBytes : Bytes) : ℕ :=
  256 * (msgBytes.getD 2 0).toNat + (msgBytes.getD 3 0).toNat

/-- What is made of a message of at least eight bytes. -/
theorem decodeMsg_cons (t c c2 c3 h0 h1 h2 h3 : UInt8) (msgData : Bytes) :
    decodeMsg (t :: c :: c2 :: c3 :: h0 :: h1 :: h2 :: h3 :: msgData) =
      if 65535 - foldedSum (wordsSum (t :: c :: c2 :: c3 :: h0 :: h1 :: h2 :: h3 :: msgData)) ≠
          256 * c2.toNat + c3.toNat then
        .error (.exception "invalid checksum")
      else if t ≠ 0 ∧ t ≠ 8 then
        .error (.exception "unsupported message type")
      else if c ≠ 0 then
        .error (.exception "invalid code")
      else
        .ok ⟨t = 0, (256 * h0.toNat + h1.toNat : ℕ), (256 * h2.toNat + h3.toNat : ℕ), msgData⟩ := by
  have hword (a b : UInt8) : (a.toNat <<< 8) ||| b.toNat = 256 * a.toNat + b.toNat := by
    rw [shiftLeft_or_eq_add b.toNat_lt]
    omega
  have hbyte (a : UInt8) (n : ℕ) (hn : n < 256) : a.toNat = n ↔ a = UInt8.ofNat n := by
    rw [← UInt8.toNat_inj, toNat_ofNat_of_lt hn]
  unfold decodeMsg
  rw [if_neg (by simp), calculateChecksum_eq (by simp)]
  simp only [bind, Except.bind, pure, Except.pure, byteAt_cons_zero, byteAt_cons_succ, hword,
    decodeEchoMsg, slice, List.take_succ_cons, List.drop_succ_cons, List.drop_zero,
    List.take_zero, hbyte t 0 (by omega), hbyte t 8 (by omega), ne_eq, hbyte c 0 (by omega)]
  by_cases hsum : 65535 - foldedSum (wordsSum (t :: c :: c2 :: c3 :: h0 :: h1 :: h2 :: h3 ::
      msgData)) = 256 * c2.toNat + c3.toNat
  · by_cases hreply : t = 0
    · subst hreply
      by_cases hcode : c = 0
      · simp [hcode]
      · simp [hsum, hcode, throw, throwThe, MonadExceptOf.throw]
    · by_cases hrequest : t = 8
      · subst hrequest
        by_cases hcode : c = 0
        · simp [hcode]
        · simp [hsum, hcode, throw, throwThe, MonadExceptOf.throw]
      · simp [hsum, hreply, hrequest, throw, throwThe, MonadExceptOf.throw]
  · simp [hsum, throw, throwThe, MonadExceptOf.throw]

/-- A message is accepted just when its checksum is the one the code computes and it is an echo
message. -/
theorem decodeMsg_accepts_iff {msgBytes : Bytes} (h : 8 ≤ msgBytes.length) :
    (∃ msg, decodeMsg msgBytes = .ok msg) ↔
      checksumField msgBytes = 65535 - foldedSum (wordsSum msgBytes) ∧
      (msgBytes.getD 0 0 = 0 ∨ msgBytes.getD 0 0 = 8) ∧ msgBytes.getD 1 0 = 0 := by
  match msgBytes with
  | t :: c :: c2 :: c3 :: h0 :: h1 :: h2 :: h3 :: msgData =>
    have hfield : checksumField (t :: c :: c2 :: c3 :: h0 :: h1 :: h2 :: h3 :: msgData) =
        256 * c2.toNat + c3.toNat := rfl
    rw [decodeMsg_cons, hfield, List.getD_cons_zero, List.getD_cons_succ, List.getD_cons_zero]
    split
    · next hsum => simp [Ne.symm hsum]
    · next hsum =>
      split
      · next htype => simp [htype.1, htype.2]
      · next htype =>
        have hecho : t = 0 ∨ t = 8 := by
          by_contra hne
          exact htype (not_or.mp hne)
        split
        · next hcode => simp [hcode]
        · next hcode => exact iff_of_true ⟨_, rfl⟩ ⟨(not_not.mp hsum).symm, hecho, not_not.mp hcode⟩

end HatDrivers.Icmp
