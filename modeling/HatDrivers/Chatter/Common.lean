import HatDrivers.Basic
import Mathlib.Data.Nat.Size

namespace HatDrivers.Chatter

open HatDrivers.Lib

/-!
# Chatter — messages

The messages of a connection, as its users see them and as `HatChatter.Msg` records, and the
frames they travel in.  SBS is not part of the repository: `Sbs` is what a connection uses
of it, with decoding as the inverse of encoding.
-/

structure Data where
  type : String
  data : Bytes
  deriving DecidableEq

structure Conversation where
  owner : Bool
  firstId : ℤ
  deriving DecidableEq

/-- The conversation as the other end names it. -/
def Conversation.mirror (conv : Conversation) : Conversation :=
  { conv with owner := !conv.owner }

@[simp] theorem Conversation.mirror_mirror (conv : Conversation) : conv.mirror.mirror = conv := by
  simp [mirror]

structure Msg where
  data : Data
  conv : Conversation
  first : Bool
  last : Bool
  token : Bool
  deriving DecidableEq

/-- `HatChatter.Msg`. -/
structure Record where
  id : ℤ
  first : ℤ
  owner : Bool
  token : Bool
  last : Bool
  data : Data
  deriving DecidableEq

/-- What `_read_loop` makes of a record. -/
def Record.toMsg (record : Record) : Msg where
  data := record.data
  conv := { owner := !record.owner, firstId := record.first }
  first := record.owner && record.first == record.id
  last := record.last
  token := record.token

/-- `_sbs_repo.encode('HatChatter.Msg', …)` and `_sbs_repo.decode('HatChatter.Msg', …)`. -/
structure Sbs where
  encode : Record → Except Exn Bytes
  decode : Bytes → Except Exn Record
  decode_encode : ∀ record bs, encode record = .ok bs → decode bs = .ok record

/-! ### Frames -/

def uintToBebytes (x : ℕ) : Bytes := bytesOf (beDigits (max ((x.size + 7) / 8) 1) x)

def bebytesToUint (b : Bytes) : ℕ := ofBE b

theorem bebytesToUint_uintToBebytes (x : ℕ) : bebytesToUint (uintToBebytes x) = x := by
  apply ofBE_beDigits_of_lt
  calc x < 2 ^ x.size := Nat.lt_size_self x
    _ ≤ 2 ^ (8 * max ((x.size + 7) / 8) 1) := Nat.pow_le_pow_right (by omega) (by omega)
    _ = 256 ^ max ((x.size + 7) / 8) 1 := by rw [Nat.pow_mul]

/-- The bytes that `_write` writes. -/
def frame (sbs : Sbs) (msg : Record) : Except Exn Bytes := do
  let msgBytes ← sbs.encode msg
  let msgLenBytes := uintToBebytes msgBytes.length
  let msgLenLenBytes ← toBytes [msgLenBytes.length]
  return msgLenLenBytes ++ msgLenBytes ++ msgBytes

/-- `readexactly` of bytes that have come, or have not. -/
def readexactly (n : ℕ) (stream : Bytes) : Option (Bytes × Bytes) :=
  if stream.length < n then none else some (stream.take n, stream.drop n)

/-- `_read`, and what is left of the stream, once all bytes of a message have come. -/
def read (sbs : Sbs) (stream : Bytes) : Option (Except Exn Record × Bytes) := do
  let (msgLenLenBytes, stream) ← readexactly 1 stream
  let (msgLenBytes, stream) ← readexactly (bebytesToUint msgLenLenBytes) stream
  let (msgBytes, stream) ← readexactly (bebytesToUint msgLenBytes) stream
  return (sbs.decode msgBytes, stream)

theorem readexactly_append {n : ℕ} {bs : Bytes} (h : bs.length = n) (rest : Bytes) :
    readexactly n (bs ++ rest) = some (bs, rest) := by
  subst h
  rw [readexactly, if_neg (by simp), List.take_left, List.drop_left]

/-- **A frame is read back**, whatever follows it. -/
theorem read_frame {sbs : Sbs} {msg : Record} {bs : Bytes} (h : frame sbs msg = .ok bs)
    (rest : Bytes) : read sbs (bs ++ rest) = some (.ok msg, rest) := by
  obtain ⟨msgBytes, hencode, h⟩ := bind_eq_ok.mp h
  obtain ⟨lenBytes, hlen, h⟩ := bind_eq_ok.mp h
  obtain rfl := Except.ok.inj h
  obtain ⟨hall, rfl⟩ := toBytes_eq_ok.mp hlen
  have hlt : (uintToBebytes msgBytes.length).length < 256 := hall _ (List.mem_singleton_self _)
  have hone : bebytesToUint (bytesOf [(uintToBebytes msgBytes.length).length]) =
      (uintToBebytes msgBytes.length).length := by
    show ofBE (bytesOf [_]) = _
    simp only [ofBE, bytesOf_cons, bytesOf_nil, List.reverse_singleton, ofLE_cons, ofLE_nil,
      toNat_ofNat_of_lt hlt, Nat.mul_zero, Nat.add_zero]
  have hsize : bebytesToUint (uintToBebytes msgBytes.length) = msgBytes.length :=
    bebytesToUint_uintToBebytes _
  rw [List.append_assoc, List.append_assoc, read, readexactly_append (by simp)]
  simp only [Option.bind_eq_bind, Option.bind_some, hone, readexactly_append rfl,
    readexactly_append hsize.symm, sbs.decode_encode msg msgBytes hencode, Option.pure_def]

end HatDrivers.Chatter
