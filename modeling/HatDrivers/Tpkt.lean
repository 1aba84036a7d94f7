import HatDrivers.Basic

namespace HatDrivers.Tpkt

open HatDrivers.Lib

/-!
# TPKT — packets on a TCP stream

A packet is a header of four bytes, with the version and the length, and its data.  The read
loop alternates between the two reads and hands each piece of data to the receive queue.

`ReadLoop.Expects` says which data a loop will still take off the bytes that are to come; it is
kept by every write and every read, and a loop that waits for bytes that will not come has
taken all (`ReadLoop.Expects.of_waiting`).
-/

/-- The packet that `Connection.send` writes. -/
def packet (data : Bytes) : Except Exn Bytes := do
  if data.length > 0xFFFB then throw (.valueError "data length greater than 0xFFFB")
  if data.length < 3 then throw (.valueError "data length less than 3")
  let packetLength := data.length + 4
  toBytes ([3, 0, packetLength >>> 8, packetLength &&& 0xFF] ++ data.map UInt8.toNat)

/-- The length of the data that a header announces. -/
def dataLength (header : Bytes) : Except Exn ℕ := do
  let version ← byteAt header 0
  if version ≠ 3 then
    throw (.exception ("invalid vrsn number (received " ++ toString version ++ ")"))
  let packetLength := ((← byteAt header 2) <<< 8) ||| (← byteAt header 3)
  if packetLength < 7 then
    throw (.exception ("invalid packet length (received " ++ toString packetLength ++ ")"))
  return packetLength - 4

/-- Where `_read_loop` is suspended. -/
inductive ReadLoop
  | header
  | data (n : ℕ)
  /-- at `self._receive_queue.put(data)` -/
  | putting (data : Bytes)
  | failed (e : Exn)
  deriving DecidableEq

namespace ReadLoop

/-- The number of bytes that the loop awaits from `readexactly`. -/
def awaits : ReadLoop → Option ℕ
  | .header => some 4
  | .data n => some n
  | _ => none

/-- The loop goes on with the bytes it read. -/
def read (bytes : Bytes) : ReadLoop → ReadLoop
  | .header =>
    match dataLength bytes with
    | .ok n => .data n
    | .error e => .failed e
  | .data _ => .putting bytes
  | r => r

end ReadLoop

/-! ### Packets -/

/-- **What is sent**: data of allowed length, behind its header. -/
theorem packet_eq_ok {data bytes : Bytes} : packet data = .ok bytes ↔
    (3 ≤ data.length ∧ data.length ≤ 0xFFFB) ∧
      bytes = bytesOf [3, 0, (data.length + 4) / 256, (data.length + 4) % 256] ++ data := by
  have hlow : (data.length + 4) &&& 0xFF = (data.length + 4) % 256 :=
    Nat.and_two_pow_sub_one_eq_mod _ 8
  have hhigh : (data.length + 4) >>> 8 = (data.length + 4) / 256 := Nat.shiftRight_eq_div_pow ..
  unfold packet
  simp only [hlow, hhigh]
  by_cases hlong : data.length > 0xFFFB
  · rw [if_pos hlong]
    exact iff_of_false nofun (by omega)
  · by_cases hshort : data.length < 3
    · rw [if_neg hlong, if_pos hshort]
      exact iff_of_false nofun (by omega)
    · rw [if_neg hlong, if_neg hshort]
      have hall : AllBytes ([3, 0, (data.length + 4) / 256, (data.length + 4) % 256] ++
          data.map UInt8.toNat) := by
        rw [allBytes_append]
        refine ⟨?_, allBytes_map_toNat data⟩
        simp only [allBytes_cons, allBytes_nil, and_true]
        omega
      show toBytes _ = _ ↔ _
      rw [toBytes_eq_ok, bytesOf_append, bytesOf_map_toNat]
      exact and_congr_left fun _ => iff_of_true hall (by omega)

theorem length_packet {data bytes : Bytes} (h : packet data = .ok bytes) :
    bytes.length = data.length + 4 ∧ 3 ≤ data.length := by
  obtain ⟨hlen, rfl⟩ := packet_eq_ok.mp h
  simp only [List.length_append, length_bytesOf, List.length_cons, List.length_nil]
  omega

/-- A packet is a header that announces the data, and the data. -/
theorem packet_eq_append {data bytes : Bytes} (h : packet data = .ok bytes) :
    ∃ header, bytes = header ++ data ∧ header.length = 4 ∧
      dataLength header = .ok data.length := by
  obtain ⟨⟨hshort, hlong⟩, rfl⟩ := packet_eq_ok.mp h
  refine ⟨_, rfl, by simp, ?_⟩
  have hhigh : (data.length + 4) / 256 < 256 := by omega
  have hlow : (data.length + 4) % 256 < 2 ^ 8 := Nat.mod_lt _ (by omega)
  have hjoin : ((data.length + 4) / 256) <<< 8 ||| (data.length + 4) % 256 = data.length + 4 := by
    rw [shiftLeft_or_eq_add hlow]
    omega
  have h0 : byteAt (bytesOf [3, 0, (data.length + 4) / 256, (data.length + 4) % 256]) 0 =
      .ok 3 := rfl
  have h2 : byteAt (bytesOf [3, 0, (data.length + 4) / 256, (data.length + 4) % 256]) 2 =
      .ok ((data.length + 4) / 256) := by
    simp [byteAt, bytesOf_cons, Nat.mod_eq_of_lt hhigh]
  have h3 : byteAt (bytesOf [3, 0, (data.length + 4) / 256, (data.length + 4) % 256]) 3 =
      .ok ((data.length + 4) % 256) := by
    simp [byteAt, bytesOf_cons]
  have hlong' : ¬ data.length + 4 < 7 := by omega
  simp only [dataLength, h0, h2, h3, ok_bind, ne_eq, not_true_eq_false, if_false, hjoin,
    if_neg hlong']
  simp

/-- Data is read in pieces of at least three bytes. -/
theorem three_le_of_dataLength {header : Bytes} {n : ℕ} (h : dataLength header = .ok n) :
    3 ≤ n := by
  obtain ⟨version, _, h⟩ := bind_eq_ok.mp h
  split at h
  · cases h
  · obtain ⟨hi, _, h⟩ := bind_eq_ok.mp h
    obtain ⟨lo, _, h⟩ := bind_eq_ok.mp h
    dsimp only at h
    split at h
    · cases h
    · obtain rfl := Except.ok.inj h
      omega

/-! ### What is still to be read -/

/-- A stream of packets, and the data they carry. -/
inductive Packets : Bytes → List Bytes → Prop
  | nil : Packets [] []
  | cons {data bytes stream : Bytes} {datas : List Bytes} (h : packet data = .ok bytes)
      (tail : Packets stream datas) : Packets (bytes ++ stream) (data :: datas)

/-- The data that a loop will still put, off the bytes that are to come. -/
inductive ReadLoop.Expects : ReadLoop → Bytes → List Bytes → Prop
  | header {stream : Bytes} {datas : List Bytes} (h : Packets stream datas) :
      Expects .header stream datas
  | data {data stream : Bytes} {datas : List Bytes} (h : Packets stream datas) :
      Expects (.data data.length) (data ++ stream) (data :: datas)
  | putting {data stream : Bytes} {datas : List Bytes} (h : Packets stream datas) :
      Expects (.putting data) stream (data :: datas)

variable {stream bytes data : Bytes} {datas : List Bytes} {r : ReadLoop}

theorem Packets.concat (h : Packets stream datas) (hp : packet data = .ok bytes) :
    Packets (stream ++ bytes) (datas ++ [data]) := by
  induction h with
  | nil => simpa using Packets.cons hp .nil
  | cons h _ ih =>
    rw [List.append_assoc]
    exact .cons h ih

namespace ReadLoop

/-- Another packet at the end of the stream. -/
theorem Expects.write (h : Expects r stream datas) (hp : packet data = .ok bytes) :
    Expects r (stream ++ bytes) (datas ++ [data]) := by
  cases h with
  | header h => exact .header (h.concat hp)
  | data h =>
    rw [List.append_assoc]
    exact .data (h.concat hp)
  | putting h => exact .putting (h.concat hp)

/-- A read of the awaited bytes. -/
theorem Expects.read {n : ℕ} (h : Expects r stream datas) (hn : r.awaits = some n)
    (hle : n ≤ stream.length) :
    Expects (r.read (stream.take n)) (stream.drop n) datas := by
  cases h with
  | header h =>
    obtain rfl := Option.some.inj hn
    cases h with
    | nil => exact absurd hle (by simp)
    | cons hp htail =>
      obtain ⟨header, rfl, hlen, hdata⟩ := packet_eq_append hp
      rw [List.append_assoc, List.take_left' hlen, List.drop_left' hlen, ReadLoop.read, hdata]
      exact .data htail
  | data h =>
    obtain rfl := Option.some.inj hn
    rw [List.take_left' rfl, List.drop_left' rfl]
    exact .putting h
  | putting h => cases hn

/-- **A loop that waits for bytes that are not to come has taken all packets.** -/
theorem Expects.of_waiting {n : ℕ} (h : Expects r stream datas) (hn : r.awaits = some n)
    (hlt : stream.length < n) : stream = [] ∧ datas = [] := by
  cases h with
  | header h =>
    obtain rfl := Option.some.inj hn
    cases h with
    | nil => exact ⟨rfl, rfl⟩
    | cons hp _ =>
      obtain ⟨hlen, hshort⟩ := length_packet hp
      rw [List.length_append] at hlt
      omega
  | data h =>
    obtain rfl := Option.some.inj hn
    rw [List.length_append] at hlt
    omega
  | putting h => cases hn

/-- A loop that does not read hands over data. -/
theorem Expects.putting_of_not_awaits (h : Expects r stream datas) (hr : r.awaits = none) :
    ∃ data, r = .putting data := by
  cases h with
  | header h => cases hr
  | data h => cases hr
  | putting h => exact ⟨_, rfl⟩

/-- A loop that hands over data goes on with the next header. -/
theorem Expects.put (h : Expects (.putting data) stream datas) :
    ∃ datas', datas = data :: datas' ∧ Expects .header stream datas' := by
  cases h with
  | putting h => exact ⟨_, rfl, .header h⟩

end ReadLoop

end HatDrivers.Tpkt
