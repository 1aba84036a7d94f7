import HatDrivers.Modbus.Transport.Pdu

namespace HatDrivers.Modbus

open HatDrivers.Lib

/-!
# Modbus — framing

`receive` reads an ADU off the stream by the sizes of its framing.  For every ADU
that is encoded it takes exactly the frame (`receive_encoded`): the sizes asked
for on the way, the decoder and the encoder agree for the three framings and both
directions.
-/

def receive (modbusType : ModbusType) (direction : Direction) : ByteReader Exn Adu :=
  receiveFrame (getNextAduSize modbusType direction) .connectionError
    (decodeAdu modbusType direction)

/-- What is written of an ADU. -/
def Adu.canonical : Adu → Adu
  | .TcpAdu transactionId deviceId pdu => .TcpAdu transactionId deviceId pdu.canonical
  | .RtuAdu deviceId pdu => .RtuAdu deviceId pdu.canonical
  | .AsciiAdu deviceId pdu => .AsciiAdu deviceId pdu.canonical

/-- A frame of an ADU: sized on the way, and decoded as a whole. -/
structure FrameOf (adu : Adu) (frame : Bytes) : Prop where
  framed : Framed (getNextAduSize adu.modbusType adu.pdu.direction) frame
  decode : decodeAdu adu.modbusType adu.pdu.direction frame = .ok (adu.canonical, [])

/-! ### TCP -/

/-- The sizes asked for: six, then what the length field says. -/
theorem framed_tcp {ls ds : List ℕ} (ts ns : List ℕ) (hts : ts.length = 4) (hls : ls.length = 2)
    (hds : ds.length = 1) (hlen : ofBE (bytesOf ls) = ns.length + 1) :
    Framed getNextTcpAduSize (bytesOf ts ++ (bytesOf ls ++ (bytesOf ds ++ bytesOf ns))) := by
  have htotal : (bytesOf ts ++ (bytesOf ls ++ (bytesOf ds ++ bytesOf ns))).length =
      ns.length + 1 + 6 := by
    simp only [List.length_append, length_bytesOf]
    omega
  refine .of_prefixes fun k hk => ?_
  rw [htotal] at hk ⊢
  by_cases h6 : k < 6
  · refine ⟨6, if_pos ?_, by omega, fun _ => h6⟩
    rw [List.length_take]
    omega
  · have hslice : slice ((bytesOf ts ++ (bytesOf ls ++ (bytesOf ds ++ bytesOf ns))).take k) 4 6 =
        bytesOf ls := by
      rw [slice, List.take_take, Nat.min_eq_left (by omega), ← slice, slice_skip (by omega), hts,
        slice_zero hls]
    refine ⟨ns.length + 1 + 6, ?_, Nat.le_refl _, id⟩
    rw [getNextTcpAduSize, if_neg, hslice, hlen]
    · rfl
    · rw [List.length_take, htotal]
      omega

theorem encodeTcpAdu_frameOf {transactionId deviceId : ℤ} {pdu : Pdu} {frame : Bytes}
    (h : encodeTcpAdu transactionId deviceId pdu = .ok frame) :
    FrameOf (.TcpAdu transactionId deviceId pdu) frame := by
  obtain ⟨ns, hns, h⟩ := bind_eq_ok.mp h
  obtain ⟨pduBytes, hpdu, h⟩ := bind_eq_ok.mp h
  obtain ⟨hb, rfl⟩ := toBytes_eq_ok.mp hpdu
  obtain ⟨ts, hts, h⟩ := bind_eq_ok.mp h
  obtain ⟨zs, hzs, h⟩ := bind_eq_ok.mp h
  obtain ⟨ls, hls, h⟩ := bind_eq_ok.mp h
  obtain ⟨ds, hds, h⟩ := bind_eq_ok.mp h
  obtain rfl := Except.ok.inj h
  have hlen : (ofBE (bytesOf ls) : ℤ) = ((bytesOf ns).length : ℤ) + 1 := ofBE_of_packUInt hls
  simp only [length_bytesOf] at hlen hls
  constructor
  · have hframed := framed_tcp (ts ++ zs) ns
      (by simp [length_of_packUInt hts, length_of_packUInt hzs]) (length_of_packUInt hls)
      (length_of_packUInt hds) (by omega)
    have hsplit : bytesOf (ts ++ zs ++ ls ++ ds) ++ bytesOf ns =
        bytesOf (ts ++ zs) ++ (bytesOf ls ++ (bytesOf ds ++ bytesOf ns)) := by simp
    rw [hsplit]
    exact hframed
  · have hheader := ((packUInt_decodes 2 transactionId).pair (packUInt_decodes 2 0)).pair
      (packUInt_decodes 2 ((ns.length : ℤ) + 1)) (ts ++ zs ++ ls)
      (by simp [hts, hzs, hls])
      (by simp [allBytes_of_packUInt hts, allBytes_of_packUInt hzs, allBytes_of_packUInt hls])
      (bytesOf ds ++ bytesOf ns)
    have hdevice := packUInt_decodes 1 deviceId ds hds (allBytes_of_packUInt hds) (bytesOf ns)
    have hread := encodePdu_decodes pdu ns hns hb []
    have hne : ¬ ((ns.length : ℤ) + 1 = 0) := by omega
    have hsize : ((ns.length : ℤ) + 1 - 1).toNat = (bytesOf ns).length := by simp
    have hsplit : bytesOf (ts ++ zs ++ ls ++ ds) ++ bytesOf ns =
        bytesOf (ts ++ zs ++ ls) ++ (bytesOf ds ++ bytesOf ns) := by simp
    rw [List.append_nil] at hread
    simp only [Adu.modbusType, decodeAdu, decodeTcpAdu, hsplit, hheader, hdevice, ok_bind,
      if_neg hne,
      hsize, List.take_length, List.drop_length, Adu.pdu, hread]
    rfl

/-! ### RTU -/

theorem crcRound_lt {crc : ℕ} (h : crc < 65536) : crcRound crc < 65536 := by
  have hshift : crc >>> 1 < 2 ^ 16 := by
    rw [Nat.shiftRight_eq_div_pow]
    omega
  unfold crcRound
  split
  · exact Nat.xor_lt_two_pow hshift (by omega)
  · exact hshift

theorem calculateCrc_lt {data : List ℕ} (h : AllBytes data) : calculateCrc data < 65536 := by
  have hfold : ∀ crc < 65536,
      data.foldl (fun crc i => crcRound^[8] (crc ^^^ i)) crc < 65536 := by
    induction data with
    | nil => exact fun crc hcrc => hcrc
    | cons n data ih =>
      intro crc hcrc
      rw [allBytes_cons] at h
      have hxor : crc ^^^ n < 65536 :=
        Nat.xor_lt_two_pow (n := 16) hcrc (h.1.trans (by omega))
      refine ih h.2 _ ?_
      have hiterate : ∀ k, crcRound^[k] (crc ^^^ n) < 65536 := by
        intro k
        induction k with
        | zero => exact hxor
        | succ k ih =>
          rw [Function.iterate_succ_apply']
          exact crcRound_lt ih
      exact hiterate 8
  exact hfold 0xFFFF (by omega)

theorem messageBytes_eq_ok {deviceId : ℤ} {pdu : Pdu} {message : List ℕ}
    (h : messageBytes deviceId pdu = .ok message) :
    ∃ ns, encodePdu pdu = .ok ns ∧ message = deviceId.toNat :: ns ∧ AllBytes message ∧
      (deviceId.toNat : ℤ) = deviceId := by
  obtain ⟨device, hdevice, h⟩ := bind_eq_ok.mp h
  obtain ⟨ns, hns, h⟩ := bind_eq_ok.mp h
  obtain ⟨bytes, hbytes, h⟩ := bind_eq_ok.mp h
  obtain rfl := Except.ok.inj h
  unfold appendDeviceId at hdevice
  split at hdevice
  · rename_i hrange
    obtain rfl := Except.ok.inj hdevice
    exact ⟨ns, hns, rfl, allBytes_cons.mpr ⟨by omega, (toBytes_eq_ok.mp hbytes).1⟩,
      Int.toNat_of_nonneg hrange.1⟩
  · cases hdevice

/-- A PDU between a device id and a checksum is sized by the PDU. -/
theorem framed_rtu {direction : Direction} {device : ℕ} {ns crc : List ℕ} (hcrc : crc.length = 2)
    (h : Sized (getNextPduSize direction · 1) ns) :
    Framed (getNextRtuAduSize direction) (bytesOf (device :: ns ++ crc)) := by
  have htotal : (bytesOf (device :: ns ++ crc)).length = ns.length + 3 := by
    simp only [length_bytesOf, List.length_append, List.length_cons]
    omega
  refine .of_prefixes fun k hk => ?_
  rw [htotal] at hk ⊢
  cases k with
  | zero => exact ⟨1, rfl, by omega, fun _ => Nat.zero_lt_one⟩
  | succ k =>
    obtain ⟨n, hn, hle, hlt⟩ := h (UInt8.ofNat device) (bytesOf crc) k
    refine ⟨n + 3, ?_, by omega, fun _ => by omega⟩
    have htake : (bytesOf (device :: ns ++ crc)).take (k + 1) =
        UInt8.ofNat device :: (bytesOf ns ++ bytesOf crc).take k := by simp [bytesOf_cons]
    have hcons : ¬ (UInt8.ofNat device :: (bytesOf ns ++ bytesOf crc).take k).length < 1 := by simp
    simp only [getNextRtuAduSize, htake, if_neg hcons, hn, ok_bind]
    rfl

theorem encodeRtuAdu_frameOf {deviceId : ℤ} {pdu : Pdu} {frame : Bytes}
    (h : encodeRtuAdu deviceId pdu = .ok frame) : FrameOf (.RtuAdu deviceId pdu) frame := by
  obtain ⟨message, hmessage, h⟩ := bind_eq_ok.mp h
  obtain ⟨crc, hcrc, h⟩ := bind_eq_ok.mp h
  obtain rfl := Except.ok.inj h
  obtain ⟨ns, hns, rfl, hb, hdevice⟩ := messageBytes_eq_ok hmessage
  obtain ⟨hlt, rfl⟩ := intToBytes_eq_ok.mp hcrc
  have hb' := allBytes_cons.mp hb
  constructor
  · exact framed_rtu (by simp) (getNextPduSize_sized hns hb'.2)
  · generalize hcs : leDigits 2 (calculateCrc (deviceId.toNat :: ns)) = cs
    have hlen : cs.length = 2 := by simp [← hcs]
    have hvalue : ofLE (bytesOf cs) = calculateCrc (deviceId.toNat :: ns) := by
      rw [← hcs, ofLE_leDigits_of_lt hlt]
    have hcode : byteAt (bytesOf (deviceId.toNat :: ns ++ cs)) 0 = .ok deviceId.toNat := by
      rw [List.cons_append, ← List.append_nil (bytesOf _), byteAt_bytesOf_zero hb'.1]
    have hdrop : (bytesOf (deviceId.toNat :: ns ++ cs)).drop 1 = bytesOf ns ++ bytesOf cs := by
      simp [bytesOf_cons]
    have hread := encodePdu_decodes pdu ns hns hb'.2 (bytesOf cs)
    have htake : (bytesOf cs).take 2 = bytesOf cs := List.take_of_length_le (by simp [hlen])
    have hrest : (bytesOf cs).drop 2 = [] := List.drop_of_length_le (by simp [hlen])
    have hcrcOf : ((bytesOf (deviceId.toNat :: ns ++ cs)).take
        ((bytesOf (deviceId.toNat :: ns ++ cs)).length - 0 - 2)).map UInt8.toNat =
        deviceId.toNat :: ns := by
      rw [bytesOf_append, take_bytesOf_append, map_toNat_bytesOf hb]
      simp [hlen]
    simp only [Adu.modbusType, decodeAdu, decodeRtuAdu, hcode, ok_bind, hdrop, Adu.pdu, hread,
      htake,
      hrest, List.length_nil, hcrcOf, hvalue, hdevice]
    simp [Adu.canonical]

/-! ### ASCII -/

/-- The digits of bytes. -/
def hexBytes (ns : List ℕ) : Bytes :=
  bytesOf (ns.flatMap fun i => [hexChar (i / 16), hexChar (i % 16)])

theorem hexBytes_cons (n : ℕ) (ns : List ℕ) : hexBytes (n :: ns) =
    UInt8.ofNat (hexChar (n / 16)) :: UInt8.ofNat (hexChar (n % 16)) :: hexBytes ns := rfl

@[simp] theorem length_hexBytes (ns : List ℕ) : (hexBytes ns).length = 2 * ns.length := by
  induction ns with
  | nil => rfl
  | cons n ns ih =>
    rw [hexBytes_cons, List.length_cons, List.length_cons, ih, List.length_cons]
    omega

theorem take_hexBytes_append (ns : List ℕ) (t : Bytes) {j : ℕ} (hj : j ≤ ns.length) :
    (hexBytes ns ++ t).take (2 * j) = hexBytes (ns.take j) := by
  induction ns generalizing j with
  | nil =>
    obtain rfl : j = 0 := by simpa using hj
    rfl
  | cons n ns ih =>
    cases j with
    | zero => rfl
    | succ j =>
      have hj : j ≤ ns.length := by simpa using hj
      rw [hexBytes_cons, List.take_succ_cons, hexBytes_cons, Nat.mul_succ, List.cons_append,
        List.cons_append, List.take_succ_cons, List.take_succ_cons, ih hj]

section

set_option maxRecDepth 20000

/-- Two digits spell their byte, and the first one is no carriage return. -/
theorem hexChar_spec : ∀ n < 256, UInt8.ofNat (hexChar (n / 16)) ≠ 0x0D ∧
    hexByte [UInt8.ofNat (hexChar (n / 16)), UInt8.ofNat (hexChar (n % 16))] = .ok n := by
  decide

end

/-- Whole bytes are passed over, up to the end of the frame or of the data. -/
theorem crlfIndex_hexBytes {ns : List ℕ} (h : AllBytes ns) {t : Bytes}
    (ht : t = [] ∨ t = [0x0D, 0x0A]) : crlfIndex (hexBytes ns ++ t) = 2 * ns.length := by
  induction ns with
  | nil => rcases ht with rfl | rfl <;> rfl
  | cons n ns ih =>
    obtain ⟨hn, hns⟩ := allBytes_cons.mp h
    obtain ⟨hcr, _⟩ := hexChar_spec n hn
    rw [hexBytes_cons, List.cons_append, List.cons_append, crlfIndex, if_neg fun hc => hcr hc.1,
      ih hns, List.length_cons]
    omega

theorem decodeHex_hexBytes {ns : List ℕ} (h : AllBytes ns) (rest : Bytes) :
    decodeHex (hexBytes ns ++ 0x0D :: 0x0A :: rest) = .ok (ns, rest) := by
  induction ns with
  | nil => rfl
  | cons n ns ih =>
    obtain ⟨hn, hns⟩ := allBytes_cons.mp h
    obtain ⟨hcr, hbyte⟩ := hexChar_spec n hn
    rw [hexBytes_cons, List.cons_append, List.cons_append, decodeHex, if_neg fun hc => hcr hc.1,
      hbyte, ok_bind, ih hns]
    rfl

theorem colonIndex_cons (data : Bytes) : colonIndex (0x3A :: data) = 0 := by
  rw [colonIndex, List.findIdx_cons]
  rfl

/-- What a buffer asks for that starts with the colon. -/
theorem getNextAsciiAduSize_cons (data : Bytes) :
    getNextAsciiAduSize (0x3A :: data) = .ok (crlfIndex data + 3) := by
  have hne : ¬ 0 ≥ ((0x3A : UInt8) :: data).length := by simp
  simp only [getNextAsciiAduSize, colonIndex_cons, if_neg hne, Nat.zero_add, List.drop_succ_cons,
    List.drop_zero]
  exact congrArg Except.ok (by omega)

/-- The loop asks for one byte, and then for two more at a time, up to the end of
the frame; it never stops between the two bytes of a pair. -/
theorem framed_ascii {ns : List ℕ} (h : AllBytes ns) :
    Framed getNextAsciiAduSize (0x3A :: (hexBytes ns ++ [0x0D, 0x0A])) := by
  have htotal : (0x3A :: (hexBytes ns ++ [0x0D, 0x0A])).length = 2 * ns.length + 3 := by simp
  have hsize : ∀ (m : List ℕ) (t : Bytes), AllBytes m → t = [] ∨ t = [0x0D, 0x0A] →
      getNextAsciiAduSize (0x3A :: (hexBytes m ++ t)) = .ok (2 * m.length + 3) := by
    intro m t hm ht
    rw [getNextAsciiAduSize_cons, crlfIndex_hexBytes hm ht]
  refine ⟨fun k => k = 0 ∨ k % 2 = 1, .inl rfl, fun k hk hI => ?_, ?_⟩
  · rw [htotal] at hk ⊢
    rcases hI with rfl | hodd
    · exact ⟨1, rfl, by omega, by omega, .inr rfl⟩
    · obtain ⟨j, rfl⟩ : ∃ j, k = 2 * j + 1 := ⟨k / 2, by omega⟩
      have hj : j ≤ ns.length := by omega
      refine ⟨2 * j + 3, ?_, by omega, by omega, .inr (by omega)⟩
      have hlen : (ns.take j).length = j := by rw [List.length_take]; omega
      have hprefix := hsize (ns.take j) [] (fun n hn => h n (List.mem_of_mem_take hn)) (.inl rfl)
      rw [hlen, List.append_nil] at hprefix
      rw [List.take_succ_cons, take_hexBytes_append ns _ hj, hprefix]
  · exact ⟨2 * ns.length + 3, hsize ns _ h (.inr rfl), by rw [htotal]⟩

theorem calculateLrc_lt (data : List ℕ) : calculateLrc data < 256 := by
  unfold calculateLrc
  omega

theorem encodeAsciiAdu_frameOf {deviceId : ℤ} {pdu : Pdu} {frame : Bytes}
    (h : encodeAsciiAdu deviceId pdu = .ok frame) : FrameOf (.AsciiAdu deviceId pdu) frame := by
  obtain ⟨message, hmessage, h⟩ := bind_eq_ok.mp h
  obtain ⟨ns, hns, rfl, hb, hdevice⟩ := messageBytes_eq_ok hmessage
  obtain rfl := Except.ok.inj h
  generalize hlrc : calculateLrc (deviceId.toNat :: ns) = lrc
  have hall : AllBytes (deviceId.toNat :: ns ++ [lrc]) := by
    have hlt := calculateLrc_lt (deviceId.toNat :: ns)
    rw [hlrc] at hlt
    exact allBytes_append.mpr ⟨hb, by simpa using hlt⟩
  have hb' := allBytes_cons.mp hb
  have hframe : bytesOf ([0x3A] ++ ((deviceId.toNat :: ns ++ [lrc]).flatMap fun i =>
      [hexChar (i / 16), hexChar (i % 16)]) ++ [0x0D, 0x0A]) =
      0x3A :: (hexBytes (deviceId.toNat :: ns ++ [lrc]) ++ [0x0D, 0x0A]) := by
    rw [bytesOf_append, bytesOf_append]
    rfl
  rw [hframe]
  constructor
  · exact framed_ascii hall
  · have hne : ¬ 0 ≥ ((0x3A : UInt8) ::
        (hexBytes (deviceId.toNat :: ns ++ [lrc]) ++ [0x0D, 0x0A])).length := by simp
    have hcode : byteAt (bytesOf (deviceId.toNat :: ns ++ [lrc])) 0 = .ok deviceId.toNat := by
      rw [List.cons_append, ← List.append_nil (bytesOf _), byteAt_bytesOf_zero hb'.1]
    have hread := encodePdu_decodes pdu ns hns hb'.2 (bytesOf [lrc])
    have hpdu : bytesOf ((deviceId.toNat :: ns ++ [lrc]).drop 1) = bytesOf ns ++ bytesOf [lrc] := by
      simp
    have hlast : (deviceId.toNat :: ns ++ [lrc]).getLastD 0 = lrc :=
      List.getLastD_concat
    have hinit : (deviceId.toNat :: ns ++ [lrc]).dropLast = deviceId.toNat :: ns :=
      List.dropLast_concat
    simp only [Adu.modbusType, decodeAdu, decodeAsciiAdu, colonIndex_cons, if_neg hne, Nat.zero_add,
      List.drop_succ_cons, List.drop_zero, decodeHex_hexBytes hall [], ok_bind, hcode, Adu.pdu,
      hpdu, hread, hlast, hinit, hlrc, hdevice]
    simp [Adu.canonical]

/-! ### Streams -/

def Adu.padded : Adu → Adu
  | .TcpAdu transactionId deviceId pdu => .TcpAdu transactionId deviceId pdu.padded
  | .RtuAdu deviceId pdu => .RtuAdu deviceId pdu.padded
  | .AsciiAdu deviceId pdu => .AsciiAdu deviceId pdu.padded

theorem Adu.canonical_of_plain {adu : Adu} (h : adu.pdu.Plain) : adu.canonical = adu.padded := by
  cases adu with
  | TcpAdu transactionId deviceId pdu | RtuAdu deviceId pdu | AsciiAdu deviceId pdu =>
    have hpdu : pdu.canonical = pdu.padded := Pdu.canonical_of_plain h
    rw [Adu.canonical, hpdu]
    rfl

theorem encodeAdu_frameOf {adu : Adu} {frame : Bytes} (h : encodeAdu adu = .ok frame) :
    FrameOf adu frame := by
  cases adu with
  | TcpAdu transactionId deviceId pdu => exact encodeTcpAdu_frameOf h
  | RtuAdu deviceId pdu => exact encodeRtuAdu_frameOf h
  | AsciiAdu deviceId pdu => exact encodeAsciiAdu_frameOf h

theorem FrameOf.reads {adu : Adu} {frame : Bytes} (h : FrameOf adu frame) :
    Reads (receive adu.modbusType adu.pdu.direction) frame adu.canonical :=
  h.framed.reads h.decode

/-- **The loop takes exactly the frame of an ADU** off any stream that starts with
it, gives the ADU back, and on the way asks for no size past the frame. -/
theorem receive_frame {adu : Adu} {frame : Bytes} (h : encodeAdu adu = .ok frame) (rest : Bytes) :
    receive adu.modbusType adu.pdu.direction (frame ++ rest) = .ok (adu.canonical, rest) ∧
      ∀ buff, Reached (getNextAduSize adu.modbusType adu.pdu.direction) (frame ++ rest) buff →
        ∃ size, getNextAduSize adu.modbusType adu.pdu.direction buff = .ok size ∧
          size ≤ frame.length :=
  ⟨(encodeAdu_frameOf h).reads rest, fun _ hbuff => (encodeAdu_frameOf h).framed.size_le hbuff⟩

theorem forall₂_reads {modbusType : ModbusType} {direction : Direction} {adus : List Adu}
    {frames : List Bytes}
    (hadus : ∀ adu ∈ adus, adu.modbusType = modbusType ∧ adu.pdu.direction = direction)
    (h : adus.mapM encodeAdu = .ok frames) :
    List.Forall₂ (Reads (receive modbusType direction)) frames (adus.map Adu.canonical) := by
  induction adus generalizing frames with
  | nil =>
    obtain rfl := Except.ok.inj h
    exact .nil
  | cons adu adus ih =>
    rw [List.mapM_cons] at h
    obtain ⟨frame, hframe, h⟩ := bind_eq_ok.mp h
    obtain ⟨frames, hframes, h⟩ := bind_eq_ok.mp h
    obtain rfl := Except.ok.inj h
    obtain ⟨rfl, rfl⟩ := hadus adu (by simp)
    exact .cons (encodeAdu_frameOf hframe).reads
      (ih (fun adu' hadu' => hadus adu' (by simp [hadu'])) hframes)

/-- **Every stream of encoded ADUs is received as the list of what was written of
them**, frame by frame; for plain values, that is the ADUs up to the padding of
coils. -/
theorem receive_encoded (modbusType : ModbusType) (direction : Direction) (adus : List Adu)
    (hadus : ∀ adu ∈ adus, adu.modbusType = modbusType ∧ adu.pdu.direction = direction)
    (frames : List Bytes) (h : adus.mapM encodeAdu = .ok frames) (rest : Bytes) :
    readN (receive modbusType direction) adus.length (frames.flatten ++ rest) =
        .ok (adus.map Adu.canonical, rest) ∧
      (∀ adu ∈ adus, adu.pdu.Plain → adu.canonical = adu.padded) ∧
      ∀ adu ∈ adus, ∃ frame, encodeAdu adu = .ok frame ∧ ∀ following,
        receive modbusType direction (frame ++ following) = .ok (adu.canonical, following) ∧
        ∀ buff, Reached (getNextAduSize modbusType direction) (frame ++ following) buff →
          ∃ size, getNextAduSize modbusType direction buff = .ok size ∧ size ≤ frame.length := by
  refine ⟨?_, fun adu _ hplain => Adu.canonical_of_plain hplain, fun adu hadu => ?_⟩
  · have hread := readN_flatten (forall₂_reads hadus h) rest
    rw [List.length_map] at hread
    exact hread
  · obtain ⟨frame, hframe⟩ : ∃ frame, encodeAdu adu = .ok frame := by
      obtain ⟨frame, -, hframe⟩ := exists_of_mapM_eq_ok h hadu
      exact ⟨frame, hframe⟩
    obtain ⟨rfl, rfl⟩ := hadus adu hadu
    exact ⟨frame, hframe, receive_frame hframe⟩

theorem receive_encoded_coilsAndError :
    readN (receive .RTU .RESPONSE) 2 ([1, 1, 1, 5, 0x91, 0x8B, 1, 0x83, 2, 0xC0, 0xF1] ++ [7]) =
      .ok ([.RtuAdu 1 (.res (.ReadCoilsRes [1, 0, 1, 0, 0, 0, 0, 0])),
        .RtuAdu 1 (.res (.ErrorRes .READ_HOLDING_REGISTERS .INVALID_DATA_ADDRESS))], [7]) :=
  (receive_encoded .RTU .RESPONSE [.RtuAdu 1 (.res (.ReadCoilsRes [1, 0, 1])),
    .RtuAdu 1 (.res (.ErrorRes .READ_HOLDING_REGISTERS .INVALID_DATA_ADDRESS))] (by decide)
    [[1, 1, 1, 5, 0x91, 0x8B], [1, 0x83, 2, 0xC0, 0xF1]] (by decide) [7]).1

/-- A register is cut to sixteen bits when it is written. -/
theorem wideRegister_not_received :
    ¬ ∀ (adu : Adu) (frame : Bytes), encodeAdu adu = .ok frame →
      receive adu.modbusType adu.pdu.direction frame = .ok (adu.padded, []) := by
  intro h
  have hframe := h (.TcpAdu 1 1 (.res (.ReadHoldingRegistersRes [65536])))
    [0, 1, 0, 0, 0, 5, 1, 3, 2, 0, 0] (by decide)
  exact absurd hframe (by decide)

end HatDrivers.Modbus
