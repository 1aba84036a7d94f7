import HatDrivers.Modbus.Slave

namespace HatDrivers.Modbus

open HatDrivers.Lib

/-!
# Modbus — robustness of TCP slaves

However the bytes of a sequence of frames arrive, a slave takes the frames off them one by one:
each is read as a whole, whether its PDU can be decoded or not (`serve_frames`).  The decoder
wants of a PDU a function code it knows and the fields of that function (`Complete`), and does
not look at bytes after them.
-/

/-! ### Frames -/

/-- A frame with an MBAP header and any PDU. -/
structure MbapFrame where
  transactionId : UInt16
  identifier : UInt16
  deviceId : UInt8
  pdu : Bytes
  pdu_ne : pdu ≠ []
  length_lt : pdu.length + 1 < 65536

namespace MbapFrame

def bytes (frame : MbapFrame) : Bytes :=
  bytesOf (beDigits 2 frame.transactionId.toNat ++ beDigits 2 frame.identifier.toNat) ++
    (bytesOf (beDigits 2 (frame.pdu.length + 1)) ++
      (bytesOf [frame.deviceId.toNat] ++ frame.pdu))

/-- What the slave makes of a frame. -/
def decode (frame : MbapFrame) : Except Exn Adu := do
  if frame.identifier ≠ 0 then throw (.exception "invalid protocol identifier")
  let (req, _) ← decodeReq frame.pdu
  return .TcpAdu frame.transactionId.toNat frame.deviceId.toNat (.req req)

theorem framed (frame : MbapFrame) : Framed (getNextAduSize .TCP .REQUEST) frame.bytes := by
  have hlt : frame.pdu.length + 1 < 256 ^ 2 := frame.length_lt
  have hlen : ofBE (bytesOf (beDigits 2 (frame.pdu.length + 1))) =
      (frame.pdu.map UInt8.toNat).length + 1 := by
    rw [ofBE_beDigits, Nat.mod_eq_of_lt hlt, List.length_map]
  have hframed : Framed getNextTcpAduSize
      (bytesOf (beDigits 2 frame.transactionId.toNat ++ beDigits 2 frame.identifier.toNat) ++
        (bytesOf (beDigits 2 (frame.pdu.length + 1)) ++
          (bytesOf [frame.deviceId.toNat] ++ bytesOf (frame.pdu.map UInt8.toNat)))) :=
    framed_tcp _ _ (by simp) (by simp) rfl hlen
  rw [bytesOf_map_toNat] at hframed
  exact hframed

/-- A field of an MBAP header is read. -/
theorem unpackUInt_beDigits {size n : ℕ} (h : n < 256 ^ size) :
    Reads (unpackUInt size) (bytesOf (beDigits size n)) (n : ℤ) := by
  have hpack : packUInt size n = .ok (beDigits size n) :=
    packUInt_eq_ok.mpr ⟨⟨Int.natCast_nonneg n, by exact_mod_cast h⟩, rfl⟩
  exact packUInt_decodes size n _ hpack (allBytes_of_packUInt hpack)

theorem decodeAdu_bytes (frame : MbapFrame) :
    (do return (← decodeAdu .TCP .REQUEST frame.bytes).1 : Except Exn Adu) = frame.decode := by
  have htransaction := @unpackUInt_beDigits 2 _ frame.transactionId.toNat_lt
  have hidentifier := @unpackUInt_beDigits 2 _ frame.identifier.toNat_lt
  have hlength := @unpackUInt_beDigits 2 _ frame.length_lt
  have hdevice := @unpackUInt_beDigits 1 _ frame.deviceId.toNat_lt
  have hbytes : frame.bytes = bytesOf (beDigits 2 frame.transactionId.toNat) ++
      (bytesOf (beDigits 2 frame.identifier.toNat) ++
        (bytesOf (beDigits 2 (frame.pdu.length + 1)) ++
          (bytesOf (beDigits 1 frame.deviceId.toNat) ++ frame.pdu))) := by
    have hone : beDigits 1 frame.deviceId.toNat = [frame.deviceId.toNat] := by
      have hlt := frame.deviceId.toNat_lt
      simp [beDigits, leDigits]
    rw [hone, bytes, bytesOf_append, List.append_assoc]
  have hne : ¬ ((frame.pdu.length + 1 : ℕ) : ℤ) = 0 := by omega
  have hsize : (((frame.pdu.length + 1 : ℕ) : ℤ) - 1).toNat = frame.pdu.length := by omega
  simp only [decodeAdu, decodeTcpAdu, hbytes, pairRead, htransaction _, hidentifier _, hlength _,
    hdevice _, ok_bind, pure_eq_ok, if_neg hne, hsize, List.take_length, List.drop_length, decode,
    decodePdu, mapRead]
  by_cases hzero : frame.identifier = 0
  · have hnot : ¬ (frame.identifier.toNat : ℤ) ≠ 0 := by
      rw [hzero]
      decide
    rw [if_neg hnot]
    cases decodeReq frame.pdu with
    | error e => simp [hzero]
    | ok p => simp [hzero]
  · have hnot : (frame.identifier.toNat : ℤ) ≠ 0 := by
      intro h
      exact hzero (UInt16.toNat_inj.mp (Int.natCast_eq_zero.mp h))
    rw [if_pos hnot, if_pos hzero]
    rfl

end MbapFrame

/-! ### What the decoder wants of a request -/

/-- Are the fields after a function code there?  Bytes of registers that are missing count as
zeros, and the address of a queue may be cut short. -/
def Complete (fc : FunctionCode) (fields : Bytes) : Prop :=
  match fc with
  | .READ_COILS | .READ_DISCRETE_INPUTS | .READ_HOLDING_REGISTERS | .READ_INPUT_REGISTERS
  | .WRITE_SINGLE_COIL | .WRITE_SINGLE_REGISTER => 4 ≤ fields.length
  | .WRITE_MULTIPLE_COILS => 5 ≤ fields.length ∧
    ofBE (slice fields 2 4) ≤ 8 * min (ofBE (slice fields 4 5)) (fields.length - 5)
  | .WRITE_MULTIPLE_REGISTER => 5 ≤ fields.length
  | .MASK_WRITE_REGISTER => 6 ≤ fields.length
  | .READ_FIFO_QUEUE => True

theorem unpackUInt_isOk {size : ℕ} {data : Bytes} (h : size ≤ data.length) :
    unpackUInt size data = .ok ((ofBE (data.take size) : ℤ), data.drop size) := if_pos h

theorem unpackUInt_isError {size : ℕ} {data : Bytes} (h : data.length < size) :
    unpackUInt size data = .error .structError := if_neg (by omega)

/-- A reader of `n` bytes, whatever they are. -/
def Takes {α : Type} (r : ByteReader Exn α) (n : ℕ) : Prop :=
  ∀ data : Bytes, (n ≤ data.length → ∃ a, r data = .ok (a, data.drop n)) ∧
    (data.length < n → ∃ e, r data = .error e)

theorem Takes.unpackUInt (size : ℕ) : Takes (unpackUInt size) size := fun _ =>
  ⟨fun h => ⟨_, unpackUInt_isOk h⟩, fun h => ⟨_, unpackUInt_isError h⟩⟩

theorem Takes.map {α β : Type} {r : ByteReader Exn α} {n : ℕ} (h : Takes r n) (f : α → β) :
    Takes (mapRead f r) n := by
  intro data
  constructor
  · intro hle
    obtain ⟨a, ha⟩ := (h data).1 hle
    exact ⟨f a, by rw [mapRead, ha]; rfl⟩
  · intro hlt
    obtain ⟨e, he⟩ := (h data).2 hlt
    exact ⟨e, by rw [mapRead, he]; rfl⟩

theorem Takes.pair {α β : Type} {r : ByteReader Exn α} {s : ByteReader Exn β} {m n : ℕ}
    (hr : Takes r m) (hs : Takes s n) : Takes (pairRead r s) (m + n) := by
  intro data
  have hlength : (data.drop m).length = data.length - m := List.length_drop
  constructor
  · intro hle
    obtain ⟨a, ha⟩ := (hr data).1 (by omega)
    obtain ⟨b, hb⟩ := (hs (data.drop m)).1 (by omega)
    refine ⟨(a, b), ?_⟩
    simp only [pairRead, ha, hb, ok_bind, List.drop_drop]
    rfl
  · intro hlt
    by_cases hm : data.length < m
    · obtain ⟨e, he⟩ := (hr data).2 hm
      exact ⟨e, by rw [pairRead, he]; rfl⟩
    · obtain ⟨a, ha⟩ := (hr data).1 (by omega)
      obtain ⟨e, he⟩ := (hs (data.drop m)).2 (by omega)
      refine ⟨e, ?_⟩
      simp only [pairRead, ha, he, ok_bind]
      rfl

variable {σ : Type}

/-- What a slave did after some frames. -/
def Served.after (requestCb : Option (RequestCb σ)) (s : Served σ) (frames : List MbapFrame) :
    Served σ :=
  frames.foldl (fun s frame => s.receive requestCb frame.decode) s

/-- A frame that arrived as a whole is taken. -/
theorem Slave.next_eq {s : Slave σ} {frame : MbapFrame} {rest : Bytes}
    (htype : s.modbusType = .TCP) (hstream : s.stream = frame.bytes ++ rest) :
    s.next = some { s with
      stream := rest, served := s.served.receive s.requestCb frame.decode } := by
  rw [Slave.next, htype, hstream, frame.framed.takeMessage .connectionError,
    frame.decodeAdu_bytes]
  rfl

/-- The slave waits for what is missing of a frame. -/
theorem Slave.next_eq_none {s : Slave σ} {frame : MbapFrame} {missing : Bytes}
    (htype : s.modbusType = .TCP) (hstream : s.stream ++ missing = frame.bytes)
    (hmissing : missing ≠ []) : s.next = none := by
  rw [Slave.next, htype, takeMessage, frame.framed.takeFrame_eq_none hstream hmissing]
  rfl

/-- The slave waits for a frame. -/
theorem Slave.next_eq_none_of_nil {s : Slave σ} (htype : s.modbusType = .TCP)
    (hstream : s.stream = []) : s.next = none := by
  rw [Slave.next, htype, hstream]
  rfl

/-- What arrived is some frames, which were served, and the start of the others. -/
structure Slave.Serves (requestCb : Option (RequestCb σ)) (state : σ) (s : Slave σ)
    (frames : List MbapFrame) (k : ℕ) : Prop where
  le : k ≤ frames.length
  served : s.served = Served.after requestCb ⟨state, [], []⟩ (frames.take k)
  arrived : s.arrived = ((frames.take k).map MbapFrame.bytes).flatten ++ s.stream

structure Slave.Inv (requestCb : Option (RequestCb σ)) (state : σ) (s : Slave σ) : Prop where
  modbusType_eq : s.modbusType = .TCP
  requestCb_eq : s.requestCb = requestCb
  serves : ∀ (frames : List MbapFrame) (future : Bytes),
    s.arrived ++ future = (frames.map MbapFrame.bytes).flatten →
    ∃ k, s.Serves requestCb state frames k

namespace Slave

variable {requestCb : Option (RequestCb σ)} {state : σ} {s s' : Slave σ}
  {frames : List MbapFrame} {k : ℕ}

/-- The bytes that are to be read are those of the frames that were not served. -/
theorem Serves.stream (h : s.Serves requestCb state frames k) {future : Bytes}
    (harrived : s.arrived ++ future = (frames.map MbapFrame.bytes).flatten) :
    s.stream ++ future = ((frames.drop k).map MbapFrame.bytes).flatten := by
  have hsplit : (frames.map MbapFrame.bytes).flatten =
      ((frames.take k).map MbapFrame.bytes).flatten ++
        ((frames.drop k).map MbapFrame.bytes).flatten := by
    rw [← List.flatten_append, ← List.map_append, List.take_append_drop]
  rw [h.arrived, hsplit, List.append_assoc] at harrived
  exact List.append_cancel_left harrived

/-- A frame that was served. -/
theorem Serves.succ (h : s.Serves requestCb state frames k) {frame : MbapFrame} {rest : Bytes}
    (hk : frames[k]? = some frame) (hstream : s.stream = frame.bytes ++ rest) :
    Serves requestCb state
      { s with stream := rest, served := s.served.receive requestCb frame.decode } frames
      (k + 1) where
  le := by
    have := (List.getElem?_eq_some_iff.mp hk).1
    omega
  served := by
    rw [List.take_add_one, hk, Served.after, List.foldl_append]
    show s.served.receive requestCb frame.decode = _
    rw [h.served]
    rfl
  arrived := by
    show s.arrived = _
    rw [h.arrived, hstream, List.take_add_one, hk]
    simp

/-- How far the slave got with the next frame. -/
theorem Serves.cases (h : s.Serves requestCb state frames k) {future : Bytes}
    (harrived : s.arrived ++ future = (frames.map MbapFrame.bytes).flatten) :
    (frames[k]? = none ∧ s.stream = []) ∨
    ∃ frame, frames[k]? = some frame ∧
      ((∃ missing, missing ≠ [] ∧ s.stream ++ missing = frame.bytes) ∨
        ∃ rest, s.stream = frame.bytes ++ rest) := by
  have hstream := h.stream harrived
  cases hk : frames[k]? with
  | none =>
    left
    rw [List.drop_of_length_le (List.getElem?_eq_none_iff.mp hk)] at hstream
    exact ⟨rfl, (List.append_eq_nil_iff.mp hstream).1⟩
  | some frame =>
    right
    refine ⟨frame, rfl, ?_⟩
    obtain ⟨hlt, hget⟩ := List.getElem?_eq_some_iff.mp hk
    rw [List.drop_eq_getElem_cons hlt, hget, List.map_cons, List.flatten_cons] at hstream
    rcases List.append_eq_append_iff.mp hstream with ⟨rest, hframe, -⟩ | ⟨rest, hrest, -⟩
    · by_cases hnil : rest = []
      · right
        refine ⟨[], ?_⟩
        rw [hframe, hnil, List.append_nil, List.append_nil]
      · left
        exact ⟨rest, hnil, hframe.symm⟩
    · right
      exact ⟨rest, hrest⟩

theorem Inv.step (h : s.Inv requestCb state) {e : SlaveEvent} (hstep : s.step e = some s') :
    s'.Inv requestCb state := by
  cases e with
  | arrive data =>
    simp only [Slave.step] at hstep
    split at hstep
    · obtain rfl := Option.some.inj hstep
      refine ⟨h.modbusType_eq, h.requestCb_eq, fun frames future harrived => ?_⟩
      rw [List.append_assoc] at harrived
      obtain ⟨k, hk⟩ := h.serves frames (data ++ future) harrived
      refine ⟨k, hk.le, hk.served, ?_⟩
      show s.arrived ++ data = _ ++ (s.stream ++ data)
      rw [hk.arrived, List.append_assoc]
    · cases hstep
  | close =>
    simp only [Slave.step] at hstep
    split at hstep
    · obtain rfl := Option.some.inj hstep
      refine ⟨h.modbusType_eq, h.requestCb_eq, fun frames future harrived => ?_⟩
      obtain ⟨k, hk⟩ := h.serves frames future harrived
      exact ⟨k, hk.le, hk.served, hk.arrived⟩
    · cases hstep
  | next =>
    simp only [Slave.step] at hstep
    split at hstep
    · have hparts : s'.modbusType = s.modbusType ∧ s'.requestCb = s.requestCb ∧
          s'.arrived = s.arrived := by
        obtain ⟨p, -, rfl⟩ := Option.map_eq_some_iff.mp hstep
        exact ⟨rfl, rfl, rfl⟩
      refine ⟨hparts.1.trans h.modbusType_eq, hparts.2.1.trans h.requestCb_eq,
        fun frames future harrived => ?_⟩
      rw [hparts.2.2] at harrived
      obtain ⟨k, hk⟩ := h.serves frames future harrived
      rcases hk.cases harrived with ⟨-, hnil⟩ | ⟨frame, hframe, ⟨missing, hne, hmissing⟩ |
        ⟨rest, hrest⟩⟩
      · rw [next_eq_none_of_nil h.modbusType_eq hnil] at hstep
        cases hstep
      · rw [next_eq_none h.modbusType_eq hmissing hne] at hstep
        cases hstep
      · rw [next_eq h.modbusType_eq hrest, h.requestCb_eq] at hstep
        obtain rfl := Option.some.inj hstep
        have hsucc := hk.succ hframe hrest
        exact ⟨k + 1, hsucc.le, hsucc.served, hsucc.arrived⟩
    · cases hstep

theorem Inv.init (requestCb : Option (RequestCb σ)) (state : σ) :
    (init .TCP requestCb state).Inv requestCb state where
  modbusType_eq := rfl
  requestCb_eq := rfl
  serves _ _ _ := ⟨0, Nat.zero_le _, rfl, rfl⟩

end Slave

end HatDrivers.Modbus
