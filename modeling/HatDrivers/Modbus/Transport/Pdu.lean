import HatDrivers.Modbus.Transport.Encoder

namespace HatDrivers.Modbus

open HatDrivers.Lib

/-!
# Modbus — round trip of PDUs

The encoder keeps a bit of every coil and sixteen bits of every register, and pads
the coils of a response to whole bytes (`Pdu.canonical`); what it keeps is decoded
back, and the sizes asked for on the way are never longer than the PDU
(`getNextPduSize_le`).
-/

/-! ### Coils -/

theorem foldl_or_testBit (f : ℕ → Prop) [DecidablePred f] (n j : ℕ) :
    ((List.range n).foldl (fun b j => if f j then b ||| (1 <<< j) else b) 0).testBit j =
      (decide (j < n) && decide (f j)) := by
  induction n with
  | zero => simp
  | succ n ih =>
    rw [List.range_succ, List.foldl_append, List.foldl_cons, List.foldl_nil]
    by_cases hf : f n
    · rw [if_pos hf, Nat.testBit_or, ih, Nat.one_shiftLeft, Nat.testBit_two_pow]
      by_cases hj : n = j
      · subst hj
        simp [hf]
      · simp [hj, show j < n ↔ j < n + 1 by omega]
    · rw [if_neg hf, ih]
      by_cases hj : n = j
      · subst hj
        simp [hf]
      · simp [show j < n ↔ j < n + 1 by omega]

/-- Bit `j` of a byte of coils is the coil at that place, if there is one. -/
theorem coilByte_testBit (values : List ℤ) (i : ℕ) {j : ℕ} (hj : j < 8) :
    (coilByte values i).testBit j = decide (values.getD (i * 8 + j) 0 ≠ 0) := by
  rw [coilByte, foldl_or_testBit]
  by_cases hlen : values.length > i * 8 + j
  · simp [hj, hlen]
  · simp [hlen]

theorem coilByte_lt (values : List ℤ) (i : ℕ) : coilByte values i < 256 := by
  refine Nat.lt_pow_two_of_testBit (n := 8) _ fun j hj => ?_
  rw [coilByte, foldl_or_testBit]
  simp [show ¬ j < 8 by omega]

@[simp] theorem length_coilBytes (values : List ℤ) :
    (coilBytes values).length = coilByteCount values.length := by
  simp [coilBytes]

theorem allBytes_coilBytes (values : List ℤ) : AllBytes (coilBytes values) := by
  intro n hn
  obtain ⟨i, _, rfl⟩ := List.mem_map.mp hn
  exact coilByte_lt values i

/-- The coils of a response, padded with zeros to whole bytes. -/
def paddedCoils (values : List ℤ) : List ℤ :=
  values.map coil ++ List.replicate (8 * coilByteCount values.length - values.length) 0

theorem coilByteCount_spec (n : ℕ) : n ≤ 8 * coilByteCount n ∧ 8 * coilByteCount n < n + 8 := by
  unfold coilByteCount
  split <;> omega

theorem bit_one_shiftLeft (x j : ℕ) : bit x (1 <<< j) = x.testBit j := by
  rw [bit, Nat.one_shiftLeft, Nat.and_two_pow]
  cases x.testBit j <;> simp

/-- The coils of a list, by place; there are none past its end. -/
theorem map_range_coil (values : List ℤ) :
    (List.range values.length).map (fun n => coil (values.getD n 0)) = values.map coil := by
  refine List.ext_getElem (by simp) fun n h _ => ?_
  have hn : n < values.length := by simpa using h
  simp [hn]

theorem map_range_paddedCoils (values : List ℤ) :
    (List.range (8 * coilByteCount values.length)).map (fun n => coil (values.getD n 0)) =
      paddedCoils values := by
  obtain ⟨hle, -⟩ := coilByteCount_spec values.length
  rw [paddedCoils, ← map_range_coil,
    show 8 * coilByteCount values.length =
      values.length + (8 * coilByteCount values.length - values.length) by omega,
    List.range_add, List.map_append, Nat.add_sub_cancel_left, List.map_map]
  congr 1
  refine List.ext_getElem (by simp) fun n h _ => ?_
  simp [coil]

/-- The bit of a coil, out of its byte. -/
theorem testBit_eq_coil (values : List ℤ) (n : ℕ) :
    (if (coilByte values (n / 8)).testBit (n % 8) then (1 : ℤ) else 0) =
      coil (values.getD n 0) := by
  rw [coilByte_testBit values (n / 8) (Nat.mod_lt n (by omega)),
    show n / 8 * 8 + n % 8 = n by omega]
  simp [coil]

theorem requestCoils_coilBytes (values : List ℤ) :
    requestCoils (bytesOf (coilBytes values)) values.length = .ok (values.map coil) := by
  rw [← map_range_coil]
  refine mapM_eq_ok_map fun n hn => ?_
  have hn : n < values.length := List.mem_range.mp hn
  obtain ⟨hle, -⟩ := coilByteCount_spec values.length
  have hbyte : byteAt (bytesOf (coilBytes values)) (n / 8) = .ok (coilByte values (n / 8)) := by
    have hlt : n / 8 < coilByteCount values.length := by omega
    have hb := coilByte_lt values (n / 8)
    simp [byteAt, bytesOf, coilBytes, hlt, Nat.mod_eq_of_lt hb]
  rw [hbyte, ok_bind, bit_one_shiftLeft, testBit_eq_coil]
  rfl

/-- Places `w` by `w`, run after run, are all places. -/
theorem flatMap_range_mul {α : Type} (g : ℕ → α) (w count : ℕ) :
    (List.range count).flatMap (fun i => (List.range w).map fun j => g (i * w + j)) =
      (List.range (w * count)).map g := by
  induction count with
  | zero => rfl
  | succ count ih =>
    rw [List.range_succ, List.flatMap_append, ih, Nat.mul_succ, List.range_add, List.map_append,
      List.map_map]
    simp [Nat.mul_comm]

theorem shiftRight_and_one (x j : ℕ) : (x >>> j) &&& 1 = if x.testBit j then 1 else 0 := by
  rw [Nat.and_one_is_mod, Nat.shiftRight_eq_div_pow, Nat.testBit_eq_decide_div_mod_eq]
  simp only [decide_eq_true_eq]
  split <;> omega

theorem responseCoils_coilBytes (values : List ℤ) :
    responseCoils (bytesOf (coilBytes values)) = paddedCoils values := by
  have hbyte : ∀ i, ∀ j ∈ List.range 8,
      ((((UInt8.ofNat (coilByte values i)).toNat >>> j) &&& 1 : ℕ) : ℤ) =
        coil (values.getD (i * 8 + j) 0) := by
    intro i j hj
    have hj : j < 8 := List.mem_range.mp hj
    rw [toNat_ofNat_of_lt (coilByte_lt values i), ← testBit_eq_coil,
      show (i * 8 + j) / 8 = i by omega, show (i * 8 + j) % 8 = j by omega, shiftRight_and_one]
    split <;> rfl
  rw [← map_range_paddedCoils, ← flatMap_range_mul, responseCoils, bytesOf, coilBytes,
    List.map_map, List.flatMap_map]
  simp only [Function.comp_apply]
  congr 1
  funext i
  exact List.map_congr_left (hbyte i)

/-! ### Registers -/

/-- What is written of a register. -/
def register (value : ℤ) : ℤ := value % 65536

@[simp] theorem length_registerBytes (values : List ℤ) :
    (registerBytes values).length = values.length * 2 := by
  induction values with
  | nil => rfl
  | cons value values ih =>
    simp only [registerBytes, List.flatMap_cons, List.length_append, List.length_cons] at ih ⊢
    simp only [ih, List.length_nil]
    omega

theorem allBytes_registerBytes (values : List ℤ) : AllBytes (registerBytes values) := by
  intro n hn
  obtain ⟨value, _, hn⟩ := List.mem_flatMap.mp hn
  simp only [List.mem_cons, List.not_mem_nil, or_false] at hn
  rcases hn with rfl | rfl <;> omega

theorem registers_cons (a b : UInt8) (bytes : Bytes) (n : ℕ) :
    registers (a :: b :: bytes) (n + 1) = (ofBE [a, b] : ℤ) :: registers bytes n := by
  rw [registers, List.range_succ_eq_map, List.map_cons, List.map_map]
  congr 1
  refine List.map_congr_left fun i _ => ?_
  simp [slice, Nat.succ_mul]

theorem registers_registerBytes (values : List ℤ) :
    registers (bytesOf (registerBytes values)) values.length = values.map register := by
  induction values with
  | nil => rfl
  | cons value values ih =>
    have hsplit : bytesOf (registerBytes (value :: values)) =
        UInt8.ofNat (value / 256 % 256).toNat :: UInt8.ofNat (value % 256).toNat ::
          bytesOf (registerBytes values) := by simp [registerBytes, bytesOf]
    have hhi : (value / 256 % 256).toNat < 256 := by omega
    have hlo : (value % 256).toNat < 256 := by omega
    rw [hsplit, List.length_cons, registers_cons, ih, List.map_cons]
    congr 1
    simp only [ofBE, List.reverse_cons, List.reverse_nil, List.nil_append, List.cons_append,
      ofLE_cons, ofLE_nil, toNat_ofNat_of_lt hhi, toNat_ofNat_of_lt hlo, register]
    omega

/-! ### Canonical PDUs -/

/-- What is written of a request. -/
def Request.canonical : Request → Request
  | .WriteSingleCoilReq address value => .WriteSingleCoilReq address (coil value)
  | .WriteMultipleCoilsReq address values => .WriteMultipleCoilsReq address (values.map coil)
  | .WriteMultipleRegistersReq address values =>
    .WriteMultipleRegistersReq address (values.map register)
  | req => req

/-- What is written of a response. -/
def Response.canonical : Response → Response
  | .ReadCoilsRes values => .ReadCoilsRes (paddedCoils values)
  | .ReadDiscreteInputsRes values => .ReadDiscreteInputsRes (paddedCoils values)
  | .ReadHoldingRegistersRes values => .ReadHoldingRegistersRes (values.map register)
  | .ReadInputRegistersRes values => .ReadInputRegistersRes (values.map register)
  | .WriteSingleCoilRes address value => .WriteSingleCoilRes address (coil value)
  | .ReadFifoQueueRes values => .ReadFifoQueueRes (values.map register)
  | res => res

/-- What is written of a PDU. -/
def Pdu.canonical : Pdu → Pdu
  | .req request => .req request.canonical
  | .res response => .res response.canonical

@[simp] theorem Pdu.direction_canonical (pdu : Pdu) : pdu.canonical.direction = pdu.direction := by
  cases pdu <;> rfl

/-- The values a coil is meant to have. -/
def IsCoil (value : ℤ) : Prop := value = 0 ∨ value = 1

/-- The values a register is meant to have. -/
def IsRegister (value : ℤ) : Prop := 0 ≤ value ∧ value < 65536

/-- A request whose coils and registers have the values they are meant to have. -/
def Request.Plain : Request → Prop
  | .WriteSingleCoilReq _ value => IsCoil value
  | .WriteMultipleCoilsReq _ values => ∀ value ∈ values, IsCoil value
  | .WriteMultipleRegistersReq _ values => ∀ value ∈ values, IsRegister value
  | _ => True

/-- A response whose coils and registers have the values they are meant to have. -/
def Response.Plain : Response → Prop
  | .ReadCoilsRes values | .ReadDiscreteInputsRes values => ∀ value ∈ values, IsCoil value
  | .ReadHoldingRegistersRes values | .ReadInputRegistersRes values | .ReadFifoQueueRes values =>
    ∀ value ∈ values, IsRegister value
  | .WriteSingleCoilRes _ value => IsCoil value
  | _ => True

def Pdu.Plain : Pdu → Prop
  | .req request => request.Plain
  | .res response => response.Plain

/-- Zeros up to a multiple of eight. -/
def padCoils (values : List ℤ) : List ℤ :=
  values ++ List.replicate (8 * coilByteCount values.length - values.length) 0

/-- A PDU with the coils of a response padded to whole bytes. -/
def Pdu.padded : Pdu → Pdu
  | .res (.ReadCoilsRes values) => .res (.ReadCoilsRes (padCoils values))
  | .res (.ReadDiscreteInputsRes values) => .res (.ReadDiscreteInputsRes (padCoils values))
  | pdu => pdu

theorem IsCoil.coil {value : ℤ} (h : IsCoil value) : coil value = value := by
  rcases h with rfl | rfl <;> rfl

theorem IsRegister.register {value : ℤ} (h : IsRegister value) : register value = value :=
  Int.emod_eq_of_lt h.1 h.2

theorem map_coil {values : List ℤ} (h : ∀ value ∈ values, IsCoil value) :
    values.map coil = values := by
  conv_rhs => rw [← List.map_id values]
  exact List.map_congr_left fun value hv => (h value hv).coil

theorem map_register {values : List ℤ} (h : ∀ value ∈ values, IsRegister value) :
    values.map register = values := by
  conv_rhs => rw [← List.map_id values]
  exact List.map_congr_left fun value hv => (h value hv).register

theorem Request.canonical_of_plain {req : Request} (h : req.Plain) : req.canonical = req := by
  cases req with
  | WriteSingleCoilReq address value => rw [Request.canonical, IsCoil.coil h]
  | WriteMultipleCoilsReq address values => rw [Request.canonical, map_coil h]
  | WriteMultipleRegistersReq address values => rw [Request.canonical, map_register h]
  | _ => rfl

/-- **What is written of a PDU with plain values is the PDU**, up to the padding of coils. -/
theorem Pdu.canonical_of_plain {pdu : Pdu} (h : pdu.Plain) : pdu.canonical = pdu.padded := by
  cases pdu with
  | req req => exact congrArg Pdu.req (Request.canonical_of_plain h)
  | res res =>
    cases res with
    | ReadCoilsRes values | ReadDiscreteInputsRes values =>
      rw [Pdu.canonical, Response.canonical, paddedCoils, map_coil h]
      rfl
    | ReadHoldingRegistersRes values | ReadInputRegistersRes values | ReadFifoQueueRes values =>
      rw [Pdu.canonical, Response.canonical, map_register h]
      rfl
    | WriteSingleCoilRes address value =>
      rw [Pdu.canonical, Response.canonical, IsCoil.coil h]
      rfl
    | _ => rfl

/-! ### Round trips -/

theorem coil_singleCoil (value : ℤ) : coil (singleCoil value) = coil value := by
  unfold coil singleCoil
  split <;> simp

/-- A request is read by the branch of its function code. -/
theorem decodeReq_reads {fc : FunctionCode} {ns : List ℕ} {req : Request}
    (h : Reads (decodeReqFields fc) (bytesOf ns) req) :
    Reads decodeReq (bytesOf (fc.value :: ns)) req := by
  intro rest
  have hlt : fc.value < 256 := by cases fc <;> decide
  have hfc : Enumeration.ofValue fc.value = .ok fc := Enumeration.ofValue_value fc
  simp only [decodeReq, byteAt_bytesOf_zero hlt, ok_bind, hfc, drop_bytesOf_succ, List.drop_zero]
  exact h rest

/-- A response without an error is read by the branch of its function code. -/
theorem decodeRes_reads {fc : FunctionCode} {ns : List ℕ} {res : Response}
    (h : Reads (decodeResFields fc) (bytesOf ns) res) :
    Reads decodeRes (bytesOf (fc.value :: ns)) res := by
  intro rest
  have hlt : fc.value < 256 := by cases fc <;> decide
  have hmask : fc.value &&& 0x7F = fc.value := by cases fc <;> rfl
  have hbit : bit fc.value 0x80 = false := by cases fc <;> rfl
  have hfc : Enumeration.ofValue fc.value = .ok fc := Enumeration.ofValue_value fc
  simp only [decodeRes, byteAt_bytesOf_zero hlt, ok_bind, hmask, hfc, hbit, drop_bytesOf_succ,
    List.drop_zero]
  exact h rest

/-! ### Requests -/

theorem encodeTwo_req {fc : FunctionCode} {x y : ℤ} (f : ℤ × ℤ → Request)
    (hf : decodeReqFields fc = mapRead f (pairRead (unpackUInt 2) (unpackUInt 2))) :
    Decodes (encodeTwo fc x y) decodeReq (f (x, y)) := by
  have hfields := ((packUInt_decodes 2 x).pair (packUInt_decodes 2 y)).map f
  rw [← hf] at hfields
  simpa [encodeTwo] using hfields.cons fun ns => decodeReq_reads

theorem encodeTwo_res {fc : FunctionCode} {x y : ℤ} (f : ℤ × ℤ → Response)
    (hf : decodeResFields fc = mapRead f (pairRead (takeUInt 2) (takeUInt 2))) :
    Decodes (encodeTwo fc x y) decodeRes (f (x, y)) := by
  have hfields := ((packUInt_decodes_take 2 x).pair (packUInt_decodes_take 2 y)).map f
  rw [← hf] at hfields
  simpa [encodeTwo] using hfields.cons fun ns => decodeRes_reads

/-- Three fields of two bytes are read back. -/
theorem pack_three_decodes (x y z : ℤ) :
    Decodes (do return (← packUInt 2 x) ++ (← packUInt 2 y) ++ (← packUInt 2 z))
      (pairRead (pairRead (unpackUInt 2) (unpackUInt 2)) (unpackUInt 2)) ((x, y), z) := by
  simpa using ((packUInt_decodes 2 x).pair (packUInt_decodes 2 y)).pair (packUInt_decodes 2 z)

/-- Bytes are written after their address, quantity and count, which fit. -/
theorem encodeMultiple_eq_ok {fc : FunctionCode} {address : ℤ} {quantity : ℕ} {bytes ns : List ℕ}
    (h : encodeMultiple fc address quantity bytes = .ok ns) :
    bytes.length < 256 ∧ ∃ fields, fields.length = 4 ∧
      ns = fc.value :: (fields ++ [bytes.length] ++ bytes) ∧
      (AllBytes ns → ∀ rest, pairRead (pairRead (unpackUInt 2) (unpackUInt 2)) (unpackUInt 1)
        (bytesOf (fields ++ [bytes.length]) ++ rest) =
          .ok (((address, (quantity : ℤ)), (bytes.length : ℤ)), rest)) := by
  obtain ⟨as, has, h⟩ := bind_eq_ok.mp h
  obtain ⟨qs, hqs, h⟩ := bind_eq_ok.mp h
  obtain ⟨cs, hcs, h⟩ := bind_eq_ok.mp h
  obtain rfl := Except.ok.inj h
  obtain ⟨⟨_, hlt⟩, hdigit⟩ := packUInt_eq_ok.mp hcs
  have hcount : cs = [bytes.length] := by
    rw [hdigit, Int.toNat_natCast]
    simp [beDigits, leDigits, show bytes.length % 256 = bytes.length by omega]
  refine ⟨by omega, as ++ qs, ?_, by simp [hcount], fun hb rest => ?_⟩
  · rw [List.length_append, length_of_packUInt has, length_of_packUInt hqs]
  · have hread := ((packUInt_decodes 2 address).pair (packUInt_decodes 2 quantity)).pair
      (packUInt_decodes 1 bytes.length)
    refine hread (as ++ qs ++ [bytes.length]) ?_ ?_ rest
    · simp [has, hqs, hcs, hcount]
    · simp only [hcount, allBytes_cons, allBytes_append] at hb ⊢
      exact hb.2.1

/-- **A request that is written is read back** in its canonical form. -/
theorem encodeReq_decodes (req : Request) : Decodes (encodeReq req) decodeReq req.canonical := by
  cases req with
  | ReadCoilsReq address quantity =>
    exact encodeTwo_req (fun p => .ReadCoilsReq p.1 p.2) rfl
  | ReadDiscreteInputsReq address quantity =>
    exact encodeTwo_req (fun p => .ReadDiscreteInputsReq p.1 p.2) rfl
  | ReadHoldingRegistersReq address quantity =>
    exact encodeTwo_req (fun p => .ReadHoldingRegistersReq p.1 p.2) rfl
  | ReadInputRegistersReq address quantity =>
    exact encodeTwo_req (fun p => .ReadInputRegistersReq p.1 p.2) rfl
  | WriteSingleCoilReq address value =>
    rw [Request.canonical, ← coil_singleCoil]
    exact encodeTwo_req (fun p => .WriteSingleCoilReq p.1 (coil p.2)) rfl
  | WriteSingleRegisterReq address value =>
    exact encodeTwo_req (fun p => .WriteSingleRegisterReq p.1 p.2) rfl
  | WriteMultipleCoilsReq address values =>
    intro ns hns hb
    obtain ⟨_, fields, _, rfl, hfields⟩ := encodeMultiple_eq_ok hns
    refine decodeReq_reads fun rest => ?_
    rw [bytesOf_append, List.append_assoc]
    simp only [decodeReqFields, hfields hb, ok_bind, takeBytes, Int.toNat_natCast,
      take_bytesOf_append rfl, drop_bytesOf_append rfl, requestCoils_coilBytes]
    rfl
  | WriteMultipleRegistersReq address values =>
    intro ns hns hb
    obtain ⟨_, fields, _, rfl, hfields⟩ := encodeMultiple_eq_ok hns
    refine decodeReq_reads fun rest => ?_
    rw [bytesOf_append, List.append_assoc]
    simp only [decodeReqFields, hfields hb, ok_bind, takeBytes, Int.toNat_natCast,
      take_bytesOf_append rfl, drop_bytesOf_append rfl, registers_registerBytes]
    rfl
  | MaskWriteRegisterReq address andMask orMask =>
    have h := ((pack_three_decodes address andMask orMask).map fun p =>
      Request.MaskWriteRegisterReq p.1.1 p.1.2 p.2).cons fun ns =>
        @decodeReq_reads .MASK_WRITE_REGISTER _ _
    simpa [encodeReq, encodeThree, Request.canonical] using h
  | ReadFifoQueueReq address =>
    exact ((packUInt_decodes_take 2 address).map Request.ReadFifoQueueReq).cons
      fun _ => @decodeReq_reads .READ_FIFO_QUEUE _ _

/-! ### Responses -/

/-- Bytes with their count are read back. -/
theorem encodeCounted_decodes {fc : FunctionCode} {bytes : List ℕ} {res : Response}
    (h : bytes.length < 256 → Reads (decodeResFields fc) (bytesOf (bytes.length :: bytes)) res) :
    Decodes (.ok (encodeCounted fc bytes)) decodeRes res := by
  intro ns hns hb
  obtain rfl := Except.ok.inj hns
  simp only [encodeCounted, allBytes_cons] at hb
  exact decodeRes_reads (h hb.2.1)

theorem decodeCounted_reads {bytes : List ℕ} (h : bytes.length < 256) :
    Reads decodeCounted (bytesOf (bytes.length :: bytes)) (bytesOf bytes) := by
  intro rest
  simp only [decodeCounted, byteAt_bytesOf_zero h, ok_bind, drop_bytesOf_succ, List.drop_zero,
    takeBytes, take_bytesOf_append rfl, drop_bytesOf_append rfl]

theorem decodeRegisters_reads {values : List ℤ} (h : (registerBytes values).length < 256) :
    Reads decodeRegisters (bytesOf ((registerBytes values).length :: registerBytes values))
      (values.map register) := by
  intro rest
  have heven : ¬ (registerBytes values).length % 2 ≠ 0 := by simp
  have hhalf : (registerBytes values).length / 2 = values.length := by simp
  simp only [decodeRegisters, byteAt_bytesOf_zero h, ok_bind, if_neg heven, drop_bytesOf_succ,
    List.drop_zero, takeBytes, take_bytesOf_append rfl, drop_bytesOf_append rfl, hhalf,
    registers_registerBytes]
  rfl

/-- **A response that is written is read back** in its canonical form. -/
theorem encodeRes_decodes (res : Response) : Decodes (encodeRes res) decodeRes res.canonical := by
  cases res with
  | ErrorRes fc error =>
    intro ns hns _ rest
    obtain rfl := Except.ok.inj hns
    cases fc <;> cases error <;> rfl
  | ReadCoilsRes values =>
    refine encodeCounted_decodes fun hlt rest => ?_
    simp only [decodeResFields, mapRead, decodeCounted_reads hlt rest, ok_bind,
      responseCoils_coilBytes]
    rfl
  | ReadDiscreteInputsRes values =>
    refine encodeCounted_decodes fun hlt rest => ?_
    simp only [decodeResFields, mapRead, decodeCounted_reads hlt rest, ok_bind,
      responseCoils_coilBytes]
    rfl
  | ReadHoldingRegistersRes values =>
    refine encodeCounted_decodes fun hlt rest => ?_
    simp only [decodeResFields, mapRead, decodeRegisters_reads hlt rest, ok_bind]
    rfl
  | ReadInputRegistersRes values =>
    refine encodeCounted_decodes fun hlt rest => ?_
    simp only [decodeResFields, mapRead, decodeRegisters_reads hlt rest, ok_bind]
    rfl
  | WriteSingleCoilRes address value =>
    rw [Response.canonical, ← coil_singleCoil]
    exact encodeTwo_res (fun p => .WriteSingleCoilRes p.1 (coil p.2)) rfl
  | WriteSingleRegisterRes address value =>
    exact encodeTwo_res (fun p => .WriteSingleRegisterRes p.1 p.2) rfl
  | WriteMultipleCoilsRes address quantity =>
    exact encodeTwo_res (fun p => .WriteMultipleCoilsRes p.1 p.2) rfl
  | WriteMultipleRegistersRes address quantity =>
    exact encodeTwo_res (fun p => .WriteMultipleRegistersRes p.1 p.2) rfl
  | MaskWriteRegisterRes address andMask orMask =>
    have h := ((pack_three_decodes address andMask orMask).map fun p =>
      Response.MaskWriteRegisterRes p.1.1 p.1.2 p.2).cons fun ns =>
        @decodeRes_reads .MASK_WRITE_REGISTER _ _
    simpa [encodeRes, encodeThree, Response.canonical] using h
  | ReadFifoQueueRes values =>
    refine encodeCounted_decodes fun hlt rest => ?_
    simp only [decodeResFields, mapRead, decodeRegisters_reads hlt rest, ok_bind]
    rfl

/-- **A PDU that is written is read back** in its direction. -/
theorem encodePdu_decodes (pdu : Pdu) :
    Decodes (encodePdu pdu) (decodePdu pdu.direction) pdu.canonical := by
  cases pdu with
  | req request => exact (encodeReq_decodes request).map Pdu.req
  | res response => exact (encodeRes_decodes response).map Pdu.res

/-! ### Sizes -/

/-- The sizes asked for on the way to a PDU: never longer than the PDU, and longer
than what is there until it is the whole PDU. -/
def Sized (size : Bytes → Except Exn ℕ) (ns : List ℕ) : Prop :=
  ∀ (b : UInt8) (tail : Bytes) (k : ℕ), ∃ n, size (b :: (bytesOf ns ++ tail).take k) = .ok n ∧
    n ≤ ns.length ∧ (k < n ∨ n = ns.length)

/-- A PDU whose size is known from its first byte. -/
theorem Sized.of_fixed {size : Bytes → Except Exn ℕ} {c : ℕ} {ns : List ℕ}
    (hnil : ∀ b, size [b] = .ok 1)
    (hcons : ∀ b data, size (b :: UInt8.ofNat c :: data) = .ok (ns.length + 1)) :
    Sized size (c :: ns) := by
  intro b tail k
  cases k with
  | zero => exact ⟨1, by simp [hnil], by simp, .inl Nat.zero_lt_one⟩
  | succ k => exact ⟨ns.length + 1, by simp [bytesOf_cons, hcons], by simp, .inr (by simp)⟩

/-- A PDU whose size is known from a count byte after `m` fields. -/
theorem Sized.of_counted {size : Bytes → Except Exn ℕ} {c : ℕ} (fields : List ℕ) {bytes : List ℕ}
    (hlt : bytes.length < 256) (hnil : ∀ b, size [b] = .ok 1)
    (hshort : ∀ b data, data.length < fields.length + 1 →
      size (b :: UInt8.ofNat c :: data) = .ok (fields.length + 2))
    (hcons : ∀ b data n, fields.length + 1 ≤ data.length → byteAt data fields.length = .ok n →
      size (b :: UInt8.ofNat c :: data) = .ok (n + (fields.length + 2))) :
    Sized size (c :: (fields ++ [bytes.length] ++ bytes)) := by
  intro b tail k
  have hlen : (c :: (fields ++ [bytes.length] ++ bytes)).length =
      bytes.length + (fields.length + 2) := by
    simp only [List.length_cons, List.length_append, List.length_nil]
    omega
  rw [hlen]
  cases k with
  | zero => exact ⟨1, by simp [hnil], by omega, .inl Nat.zero_lt_one⟩
  | succ k =>
    rw [bytesOf_cons, List.cons_append, List.take_succ_cons]
    by_cases hk : k < fields.length + 1
    · refine ⟨fields.length + 2, hshort b _ ?_, by omega, .inl (by omega)⟩
      rw [List.length_take]
      omega
    · refine ⟨bytes.length + (fields.length + 2), hcons b _ _ ?_ ?_, by omega, .inr rfl⟩
      · simp only [List.length_take, List.length_append, length_bytesOf, List.length_cons,
          List.length_nil]
        omega
      · rw [byteAt, List.getElem?_take_of_lt (by omega)]
        simp [bytesOf, Nat.mod_eq_of_lt hlt]

theorem encodeTwo_eq_ok {fc : FunctionCode} {x y : ℤ} {ns : List ℕ}
    (h : encodeTwo fc x y = .ok ns) : ∃ fields, fields.length = 4 ∧ ns = fc.value :: fields := by
  obtain ⟨xs, hxs, h⟩ := bind_eq_ok.mp h
  obtain ⟨ys, hys, h⟩ := bind_eq_ok.mp h
  obtain rfl := Except.ok.inj h
  exact ⟨xs ++ ys, by simp [length_of_packUInt hxs, length_of_packUInt hys], rfl⟩

theorem encodeThree_eq_ok {fc : FunctionCode} {x y z : ℤ} {ns : List ℕ}
    (h : encodeThree fc x y z = .ok ns) :
    ∃ fields, fields.length = 6 ∧ ns = fc.value :: fields := by
  obtain ⟨xs, hxs, h⟩ := bind_eq_ok.mp h
  obtain ⟨ys, hys, h⟩ := bind_eq_ok.mp h
  obtain ⟨zs, hzs, h⟩ := bind_eq_ok.mp h
  obtain rfl := Except.ok.inj h
  exact ⟨xs ++ ys ++ zs,
    by simp [length_of_packUInt hxs, length_of_packUInt hys, length_of_packUInt hzs], rfl⟩

/-- A request that is not empty is sized by its function code. -/
theorem getNextReqSize_cons (fc : FunctionCode) (b : UInt8) (data : Bytes) :
    getNextReqSize (b :: UInt8.ofNat fc.value :: data) 1 =
      match fc with
      | .READ_COILS | .READ_DISCRETE_INPUTS | .READ_HOLDING_REGISTERS | .READ_INPUT_REGISTERS
      | .WRITE_SINGLE_COIL | .WRITE_SINGLE_REGISTER => .ok 5
      | .WRITE_MULTIPLE_COILS | .WRITE_MULTIPLE_REGISTER =>
        if data.length < 5 then .ok 6 else do return (← byteAt data 4) + 6
      | .MASK_WRITE_REGISTER => .ok 7
      | .READ_FIFO_QUEUE => .ok 3 := by
  have hlt : fc.value < 256 := by cases fc <;> decide
  have hcode : byteAt (b :: UInt8.ofNat fc.value :: data) 1 = .ok fc.value := by
    rw [byteAt_cons_succ, byteAt_cons_zero, toNat_ofNat_of_lt hlt]
  have hcount : byteAt (b :: UInt8.ofNat fc.value :: data) (1 + 5) = byteAt data 4 := by simp
  have hfc : Enumeration.ofValue fc.value = .ok fc := Enumeration.ofValue_value fc
  have hcons : ¬ data.length + 1 + 1 < 1 + 1 := by omega
  have hshort : data.length + 1 + 1 < 1 + 6 ↔ data.length < 5 := by omega
  simp only [getNextReqSize, hcode, hcount, hfc, ok_bind, List.length_cons, if_neg hcons, hshort]
  cases fc <;> rfl

theorem getNextReqSize_sized {req : Request} {ns : List ℕ} (h : encodeReq req = .ok ns) :
    Sized (getNextReqSize · 1) ns := by
  cases req with
  | ReadCoilsReq | ReadDiscreteInputsReq | ReadHoldingRegistersReq | ReadInputRegistersReq
  | WriteSingleCoilReq | WriteSingleRegisterReq =>
    obtain ⟨fields, hlen, rfl⟩ := encodeTwo_eq_ok h
    exact .of_fixed (fun _ => rfl) fun b data => by rw [getNextReqSize_cons, hlen]
  | WriteMultipleCoilsReq | WriteMultipleRegistersReq =>
    obtain ⟨hlt, fields, hlen, rfl, _⟩ := encodeMultiple_eq_ok h
    refine .of_counted fields hlt (fun _ => rfl) (fun b data hd => ?_) fun b data n hd hn => ?_
    · rw [hlen] at hd ⊢
      simp [getNextReqSize_cons, hd]
    · rw [hlen] at hd hn ⊢
      simp [getNextReqSize_cons, show ¬ data.length < 5 by omega, hn]
  | MaskWriteRegisterReq =>
    obtain ⟨fields, hlen, rfl⟩ := encodeThree_eq_ok h
    exact .of_fixed (fun _ => rfl) fun b data => by rw [getNextReqSize_cons, hlen]
  | ReadFifoQueueReq =>
    obtain ⟨fields, hfields, h⟩ := bind_eq_ok.mp h
    obtain rfl := Except.ok.inj h
    exact .of_fixed (fun _ => rfl) fun b data => by
      rw [getNextReqSize_cons, length_of_packUInt hfields]

/-- A response without an error is sized by its function code. -/
theorem getNextResSize_cons (fc : FunctionCode) (b : UInt8) (data : Bytes) :
    getNextResSize (b :: UInt8.ofNat fc.value :: data) 1 =
      match fc with
      | .READ_COILS | .READ_DISCRETE_INPUTS | .READ_HOLDING_REGISTERS | .READ_INPUT_REGISTERS
      | .READ_FIFO_QUEUE => if data.length < 1 then .ok 2 else do return (← byteAt data 0) + 2
      | .WRITE_SINGLE_COIL | .WRITE_SINGLE_REGISTER | .WRITE_MULTIPLE_COILS
      | .WRITE_MULTIPLE_REGISTER => .ok 5
      | .MASK_WRITE_REGISTER => .ok 7 := by
  have hlt : fc.value < 256 := by cases fc <;> decide
  have hbit : bit fc.value 0x80 = false := by cases fc <;> rfl
  have hcode : byteAt (b :: UInt8.ofNat fc.value :: data) 1 = .ok fc.value := by
    rw [byteAt_cons_succ, byteAt_cons_zero, toNat_ofNat_of_lt hlt]
  have hcount : byteAt (b :: UInt8.ofNat fc.value :: data) (1 + 1) = byteAt data 0 := by simp
  have hfc : Enumeration.ofValue fc.value = .ok fc := Enumeration.ofValue_value fc
  have hcons : ¬ data.length + 1 + 1 < 1 + 1 := by omega
  have hshort : data.length + 1 + 1 < 1 + 2 ↔ data.length < 1 := by omega
  simp only [getNextResSize, hcode, hcount, hbit, hfc, ok_bind, List.length_cons, if_neg hcons,
    hshort]
  cases fc <;> rfl

theorem getNextResSize_sized {res : Response} {ns : List ℕ} (h : encodeRes res = .ok ns)
    (hb : AllBytes ns) : Sized (getNextResSize · 1) ns := by
  cases res with
  | ErrorRes fc error =>
    obtain rfl := Except.ok.inj h
    refine .of_fixed (fun _ => rfl) fun b data => ?_
    have hlt : fc.value ||| 0x80 < 256 := by cases fc <;> decide
    have hbit : bit (fc.value ||| 0x80) 0x80 = true := by cases fc <;> rfl
    have hcode : byteAt (b :: UInt8.ofNat (fc.value ||| 0x80) :: data) 1 =
        .ok (fc.value ||| 0x80) := by
      rw [byteAt_cons_succ, byteAt_cons_zero, toNat_ofNat_of_lt hlt]
    have hcons : ¬ data.length + 1 + 1 < 1 + 1 := by omega
    simp only [getNextResSize, hcode, hbit, ok_bind, List.length_cons, if_neg hcons]
    rfl
  | ReadCoilsRes | ReadDiscreteInputsRes | ReadHoldingRegistersRes | ReadInputRegistersRes
  | ReadFifoQueueRes =>
    obtain rfl := Except.ok.inj h
    simp only [encodeCounted, allBytes_cons] at hb
    refine .of_counted [] hb.2.1 (fun _ => rfl) (fun b data hd => ?_)
      fun b data n hd hn => ?_
    · rw [getNextResSize_cons]
      exact if_pos hd
    · rw [List.length_nil] at hd hn
      have hlong : ¬ data.length < 1 := by omega
      simp only [getNextResSize_cons, if_neg hlong, hn]
      rfl
  | WriteSingleCoilRes | WriteSingleRegisterRes | WriteMultipleCoilsRes
  | WriteMultipleRegistersRes =>
    obtain ⟨fields, hlen, rfl⟩ := encodeTwo_eq_ok h
    exact .of_fixed (fun _ => rfl) fun b data => by rw [getNextResSize_cons, hlen]
  | MaskWriteRegisterRes =>
    obtain ⟨fields, hlen, rfl⟩ := encodeThree_eq_ok h
    exact .of_fixed (fun _ => rfl) fun b data => by rw [getNextResSize_cons, hlen]

/-- **No size asked for on the way to a PDU is longer than the PDU.** -/
theorem getNextPduSize_sized {pdu : Pdu} {ns : List ℕ} (h : encodePdu pdu = .ok ns)
    (hb : AllBytes ns) : Sized (getNextPduSize pdu.direction · 1) ns := by
  cases pdu with
  | req request => exact getNextReqSize_sized h
  | res response => exact getNextResSize_sized h hb

end HatDrivers.Modbus
