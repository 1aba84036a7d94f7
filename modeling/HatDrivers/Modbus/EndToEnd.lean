import HatDrivers.Modbus.Master

namespace HatDrivers.Modbus

open HatDrivers.Lib

/-!
# Modbus — a master and a slave

A master sends one request after the other to a slave, over a link that loses nothing and adds
nothing.  What it gets is what the callback of the slave returned, and the callback is called
with what the master sent (`session_agrees`): on the way from the one to the other a request and
a response are PDUs, which are written, framed, read back and checked.
-/

/-! ### What a master may send, and a slave return -/

def IsByte (value : ℤ) : Prop := 0 ≤ value ∧ value < 256

/-- A request whose fields fit. -/
def Common.Request.Valid : Common.Request → Prop
  | .ReadReq deviceId dataType startAddress quantity =>
    IsByte deviceId ∧ IsRegister startAddress ∧ (dataType ≠ .QUEUE → IsRegister quantity)
  | .WriteReq deviceId .COIL startAddress values =>
    IsByte deviceId ∧ IsRegister startAddress ∧ values.length ≤ 2040 ∧
      ∀ value ∈ values, IsCoil value
  | .WriteReq deviceId .HOLDING_REGISTER startAddress values =>
    IsByte deviceId ∧ IsRegister startAddress ∧ values.length ≤ 127 ∧
      ∀ value ∈ values, IsRegister value
  | .WriteReq _ _ _ _ => False
  | .WriteMaskReq deviceId address andMask orMask =>
    IsByte deviceId ∧ IsRegister address ∧ IsRegister andMask ∧ IsRegister orMask

/-- A response of the kind that a request asks for. -/
def Common.Response.Fits (req : Common.Request) : Common.Response → Prop
  | .Error _ => True
  | .Success =>
    match req with
    | .ReadReq _ _ _ _ => False
    | .WriteReq _ _ _ _ | .WriteMaskReq _ _ _ _ => True
  | .Values values =>
    match req with
    | .ReadReq _ .COIL _ quantity | .ReadReq _ .DISCRETE_INPUT _ quantity =>
      values.length = quantity ∧ values.length ≤ 2040 ∧ ∀ value ∈ values, IsCoil value
    | .ReadReq _ .HOLDING_REGISTER _ quantity | .ReadReq _ .INPUT_REGISTER _ quantity =>
      values.length = quantity ∧ values.length ≤ 127 ∧ ∀ value ∈ values, IsRegister value
    | .ReadReq _ .QUEUE _ _ => values.length ≤ 127 ∧ ∀ value ∈ values, IsRegister value
    | .WriteReq _ _ _ _ | .WriteMaskReq _ _ _ _ => False

/-- A request as the slave receives it: the quantity of a read of a queue is not sent. -/
def Common.Request.received : Common.Request → Common.Request
  | .ReadReq deviceId .QUEUE startAddress _ => .ReadReq deviceId .QUEUE startAddress 0
  | req => req

/-! ### Sessions -/

/-- How a call of `send` ends. -/
inductive Outcome
  | returns (res : Common.Response)
  | raises (e : Exn)
  /-- no response arrives -/
  | waits
  deriving DecidableEq

variable {σ : Type}

/-- A slave that the bytes of a request were sent to. -/
def Slave.deliver (slave : Slave σ) (data : Bytes) : Slave σ :=
  (run Slave.step slave [.arrive data, .next]).getD slave

namespace Master

/-- The end of `send`, with what the slave wrote. -/
def complete (req : Common.Request) (reqAdu : Adu) (data : Bytes) : Outcome :=
  match receive reqAdu data with
  | .error .connectionError => .waits
  -- the send loop ends
  | .error _ => .raises .connectionError
  | .ok (resAdu, _) =>
    match resAdu.pdu with
    | .req _ => .raises (.valueError "unsupported response pdu")
    | .res resPdu =>
      match response req resPdu with
      | .ok res => .returns res
      | .error e => .raises e

/-- `send`, with the next transaction id. -/
def send (transactionId : ℕ) (slave : Slave σ) (req : Common.Request) : Outcome × Slave σ :=
  match requestPdu req with
  | .error e => (.raises e, slave)
  | .ok pdu =>
    let reqAdu := makeAdu slave.modbusType transactionId req.deviceId (.req pdu)
    match encodeAdu reqAdu with
    -- the send loop ends
    | .error _ => (.raises .connectionError, slave)
    | .ok data =>
      let slave' := slave.deliver data
      (complete req reqAdu (slave'.served.written.drop slave.served.written.length).flatten, slave')

/-- Calls of `send`, one after the other, with `i % 0x10000` for `i` from `count` on. -/
def session (count : ℕ) (slave : Slave σ) : List Common.Request → List Outcome × Slave σ
  | [] => ([], slave)
  | req :: reqs =>
    let (outcome, slave) := send (count % 0x10000) slave req
    let (outcomes, slave) := session (count + 1) slave reqs
    (outcome :: outcomes, slave)

end Master

/-! ### What can be written -/

/-- A PDU that can be written, and is short. -/
def Encodes (w : Except Exn (List ℕ)) : Prop := ∃ ns, w = .ok ns ∧ AllBytes ns ∧ ns.length < 300

theorem packUInt_register {value : ℤ} (h : IsRegister value) :
    packUInt 2 value = .ok (beDigits 2 value.toNat) := by
  rw [packUInt_eq_ok]
  exact ⟨⟨h.1, by have := h.2; omega⟩, rfl⟩

theorem encodeTwo_encodes (fc : FunctionCode) {x y : ℤ} (hx : IsRegister x) (hy : IsRegister y) :
    Encodes (encodeTwo fc x y) := by
  have hfc : fc.value < 256 := by cases fc <;> decide
  refine ⟨fc.value :: (beDigits 2 x.toNat ++ beDigits 2 y.toNat), ?_, ?_, by simp⟩
  · simp [encodeTwo, packUInt_register hx, packUInt_register hy]
  · rw [allBytes_cons, allBytes_append]
    exact ⟨hfc, allBytes_beDigits _ _, allBytes_beDigits _ _⟩

theorem encodeThree_encodes (fc : FunctionCode) {x y z : ℤ} (hx : IsRegister x)
    (hy : IsRegister y) (hz : IsRegister z) : Encodes (encodeThree fc x y z) := by
  have hfc : fc.value < 256 := by cases fc <;> decide
  refine ⟨fc.value :: (beDigits 2 x.toNat ++ beDigits 2 y.toNat ++ beDigits 2 z.toNat), ?_, ?_,
    by simp⟩
  · simp [encodeThree, packUInt_register hx, packUInt_register hy, packUInt_register hz]
  · rw [allBytes_cons, allBytes_append, allBytes_append]
    exact ⟨hfc, ⟨allBytes_beDigits _ _, allBytes_beDigits _ _⟩, allBytes_beDigits _ _⟩

theorem encodeMultiple_encodes (fc : FunctionCode) {address : ℤ} {quantity : ℕ} {bytes : List ℕ}
    (haddress : IsRegister address) (hquantity : quantity < 65536) (hlength : bytes.length < 256)
    (hbytes : AllBytes bytes) : Encodes (encodeMultiple fc address quantity bytes) := by
  have hfc : fc.value < 256 := by cases fc <;> decide
  have hcount : packUInt 1 bytes.length = .ok (beDigits 1 bytes.length) := by
    rw [packUInt_eq_ok]
    exact ⟨⟨by omega, by omega⟩, by rw [Int.toNat_natCast]⟩
  have hfits : IsRegister quantity := ⟨by omega, by omega⟩
  refine ⟨fc.value :: (beDigits 2 address.toNat ++ beDigits 2 (quantity : ℤ).toNat ++
    beDigits 1 bytes.length ++ bytes), ?_, ?_, ?_⟩
  · simp [encodeMultiple, packUInt_register haddress, packUInt_register hfits, hcount]
  · rw [allBytes_cons, allBytes_append, allBytes_append, allBytes_append]
    exact ⟨hfc, ⟨⟨allBytes_beDigits _ _, allBytes_beDigits _ _⟩, allBytes_beDigits _ _⟩, hbytes⟩
  · simp
    omega

theorem encodeCounted_encodes (fc : FunctionCode) {bytes : List ℕ} (hlength : bytes.length < 256)
    (hbytes : AllBytes bytes) : Encodes (.ok (encodeCounted fc bytes)) := by
  have hfc : fc.value < 256 := by cases fc <;> decide
  refine ⟨_, rfl, ?_, ?_⟩
  · rw [encodeCounted, allBytes_cons, allBytes_cons]
    exact ⟨hfc, hlength, hbytes⟩
  · simp only [encodeCounted, List.length_cons]
    omega

theorem length_coilBytes_lt {values : List ℤ} (h : values.length ≤ 2040) :
    (coilBytes values).length < 256 := by
  rw [length_coilBytes]
  have := coilByteCount_spec values.length
  omega

theorem length_registerBytes_lt {values : List ℤ} (h : values.length ≤ 127) :
    (registerBytes values).length < 256 := by
  rw [length_registerBytes]
  omega

namespace Master

variable {modbusType : ModbusType} {transactionId deviceId : ℤ} {pdu : Pdu}

@[simp] theorem makeAdu_pdu (modbusType : ModbusType) (transactionId deviceId : ℤ) (pdu : Pdu) :
    (makeAdu modbusType transactionId deviceId pdu).pdu = pdu := by
  cases modbusType <;> rfl

@[simp] theorem makeAdu_deviceId (modbusType : ModbusType) (transactionId deviceId : ℤ)
    (pdu : Pdu) : (makeAdu modbusType transactionId deviceId pdu).deviceId = deviceId := by
  cases modbusType <;> rfl

@[simp] theorem makeAdu_modbusType (modbusType : ModbusType) (transactionId deviceId : ℤ)
    (pdu : Pdu) : (makeAdu modbusType transactionId deviceId pdu).modbusType = modbusType := by
  cases modbusType <;> rfl

@[simp] theorem makeAdu_canonical (modbusType : ModbusType) (transactionId deviceId : ℤ)
    (pdu : Pdu) : (makeAdu modbusType transactionId deviceId pdu).canonical =
      makeAdu modbusType transactionId deviceId pdu.canonical := by
  cases modbusType <;> rfl

@[simp] theorem makeAdu_reply (modbusType : ModbusType) (transactionId deviceId : ℤ)
    (pdu pdu' : Pdu) : (makeAdu modbusType transactionId deviceId pdu).reply pdu' =
      makeAdu modbusType transactionId deviceId pdu' := by
  cases modbusType <;> rfl

theorem makeAdu_answers (modbusType : ModbusType) (transactionId deviceId : ℤ) {pdu pdu' : Pdu}
    (h : getPduFunctionCode pdu = getPduFunctionCode pdu') :
    answers (makeAdu modbusType transactionId deviceId pdu)
      (makeAdu modbusType transactionId deviceId pdu') = true := by
  cases modbusType <;> simp [answers, makeAdu, Adu.transactionId, Adu.deviceId, Adu.pdu, h]

theorem exists_encodeAdu (htransaction : IsRegister transactionId) (hdevice : IsByte deviceId)
    (hpdu : Encodes (encodePdu pdu)) :
    ∃ data, encodeAdu (makeAdu modbusType transactionId deviceId pdu) = .ok data := by
  obtain ⟨ns, hns, hb, hlength⟩ := hpdu
  have hbytes : toBytes ns = .ok (bytesOf ns) := toBytes_eq_ok.mpr ⟨hb, rfl⟩
  have happend : appendDeviceId deviceId = .ok deviceId.toNat := if_pos hdevice
  cases modbusType with
  | TCP =>
    have hzero : IsRegister 0 := ⟨by omega, by omega⟩
    have hsize : IsRegister (((bytesOf ns).length : ℤ) + 1) := by
      rw [length_bytesOf]
      exact ⟨by omega, by omega⟩
    have hid : packUInt 1 deviceId = .ok (beDigits 1 deviceId.toNat) := by
      rw [packUInt_eq_ok]
      exact ⟨⟨hdevice.1, by have := hdevice.2; omega⟩, rfl⟩
    exact ⟨_, bind_eq_ok.mpr ⟨_, hns, bind_eq_ok.mpr ⟨_, hbytes, bind_eq_ok.mpr
      ⟨_, packUInt_register htransaction, bind_eq_ok.mpr ⟨_, packUInt_register hzero,
        bind_eq_ok.mpr ⟨_, packUInt_register hsize, bind_eq_ok.mpr ⟨_, hid, rfl⟩⟩⟩⟩⟩⟩⟩
  | RTU =>
    have hmessage : AllBytes (deviceId.toNat :: ns) := by
      rw [allBytes_cons]
      exact ⟨by have := hdevice.2; omega, hb⟩
    have hlt : calculateCrc (deviceId.toNat :: ns) < 256 ^ 2 := by
      have := calculateCrc_lt hmessage
      omega
    have hcrc := intToBytes_of_lt hlt
    simp only [makeAdu, encodeAdu, encodeRtuAdu, messageBytes, happend, hns, ok_bind, hbytes,
      pure_eq_ok, hcrc]
    exact ⟨_, rfl⟩
  | ASCII =>
    simp only [makeAdu, encodeAdu, encodeAsciiAdu, messageBytes, happend, hns, ok_bind, hbytes,
      pure_eq_ok]
    exact ⟨_, rfl⟩

/-! ### From a request to its response -/

/-- What the callback returned comes back as the response to a request. -/
structure Returned (req : Common.Request) (pdu : Request) (res : Common.Response) : Prop where
  encodes : Encodes (encodeRes (pdu.response res))
  response : response req (pdu.response res).canonical = .ok res
  functionCode : getPduFunctionCode (.req pdu) =
    getPduFunctionCode (.res (pdu.response res).canonical)

/-- A PDU carries a request to the slave, and what the callback returns back. -/
structure Carries (req : Common.Request) (pdu : Request) : Prop where
  plain : pdu.Plain
  toCommon : pdu.toCommon req.deviceId = req.received
  encodes : Encodes (encodeReq pdu)
  returned : ∀ res, Common.Response.Fits req res → Returned req pdu res

theorem Returned.error (req : Common.Request) (pdu : Request) (error : Error) :
    Returned req pdu (.Error error) where
  encodes := by
    refine ⟨_, rfl, ?_, by simp⟩
    generalize getPduFunctionCode (.req pdu) = fc
    cases fc <;> cases error <;> decide
  response := by
    cases req <;> rfl
  functionCode := rfl

theorem takeQuantity_append (values rest : List ℤ) :
    takeQuantity (values ++ rest) values.length = values := by
  have hnot : ¬ (values.length : ℤ) < 0 := by omega
  rw [takeQuantity, if_neg hnot, Int.toNat_natCast, List.take_left]

theorem takeQuantity_paddedCoils {values : List ℤ} (h : ∀ value ∈ values, IsCoil value) :
    takeQuantity (paddedCoils values) values.length = values := by
  rw [paddedCoils, map_coil h, takeQuantity_append]

theorem takeQuantity_registers {values : List ℤ} (h : ∀ value ∈ values, IsRegister value) :
    takeQuantity (values.map register) values.length = values := by
  rw [map_register h]
  have htake := takeQuantity_append values []
  rw [List.append_nil] at htake
  exact htake

variable {deviceId address quantity : ℤ} {values : List ℤ}

/-! ### Reads -/

theorem Returned.readCoils (hlength : values.length = quantity) (hle : values.length ≤ 2040)
    (hvalues : ∀ value ∈ values, IsCoil value) :
    Returned (.ReadReq deviceId .COIL address quantity) (.ReadCoilsReq address quantity)
      (.Values values) where
  encodes := encodeCounted_encodes .READ_COILS (length_coilBytes_lt hle) (allBytes_coilBytes values)
  response := by
    show Except.ok (Common.Response.Values (takeQuantity (paddedCoils values) quantity)) = _
    rw [← hlength, takeQuantity_paddedCoils hvalues]
  functionCode := rfl

theorem Returned.readDiscreteInputs (hlength : values.length = quantity)
    (hle : values.length ≤ 2040) (hvalues : ∀ value ∈ values, IsCoil value) :
    Returned (.ReadReq deviceId .DISCRETE_INPUT address quantity)
      (.ReadDiscreteInputsReq address quantity) (.Values values) where
  encodes := encodeCounted_encodes .READ_DISCRETE_INPUTS (length_coilBytes_lt hle)
    (allBytes_coilBytes values)
  response := by
    show Except.ok (Common.Response.Values (takeQuantity (paddedCoils values) quantity)) = _
    rw [← hlength, takeQuantity_paddedCoils hvalues]
  functionCode := rfl

theorem Returned.readHoldingRegisters (hlength : values.length = quantity)
    (hle : values.length ≤ 127) (hvalues : ∀ value ∈ values, IsRegister value) :
    Returned (.ReadReq deviceId .HOLDING_REGISTER address quantity)
      (.ReadHoldingRegistersReq address quantity) (.Values values) where
  encodes := encodeCounted_encodes .READ_HOLDING_REGISTERS (length_registerBytes_lt hle)
    (allBytes_registerBytes values)
  response := by
    show Except.ok (Common.Response.Values (takeQuantity (values.map register) quantity)) = _
    rw [← hlength, takeQuantity_registers hvalues]
  functionCode := rfl

theorem Returned.readInputRegisters (hlength : values.length = quantity)
    (hle : values.length ≤ 127) (hvalues : ∀ value ∈ values, IsRegister value) :
    Returned (.ReadReq deviceId .INPUT_REGISTER address quantity)
      (.ReadInputRegistersReq address quantity) (.Values values) where
  encodes := encodeCounted_encodes .READ_INPUT_REGISTERS (length_registerBytes_lt hle)
    (allBytes_registerBytes values)
  response := by
    show Except.ok (Common.Response.Values (takeQuantity (values.map register) quantity)) = _
    rw [← hlength, takeQuantity_registers hvalues]
  functionCode := rfl

theorem Returned.readFifoQueue (hle : values.length ≤ 127)
    (hvalues : ∀ value ∈ values, IsRegister value) :
    Returned (.ReadReq deviceId .QUEUE address quantity) (.ReadFifoQueueReq address)
      (.Values values) where
  encodes := encodeCounted_encodes .READ_FIFO_QUEUE (length_registerBytes_lt hle)
    (allBytes_registerBytes values)
  response := by
    show Except.ok (Common.Response.Values (values.map register)) = _
    rw [map_register hvalues]
  functionCode := rfl

theorem encodeFifo_encodes (h : IsRegister address) :
    Encodes (encodeReq (.ReadFifoQueueReq address)) := by
  refine ⟨FunctionCode.READ_FIFO_QUEUE.value :: beDigits 2 address.toNat, ?_, ?_, by simp⟩
  · simp [encodeReq, packUInt_register h]
  · rw [allBytes_cons]
    exact ⟨by decide, allBytes_beDigits _ _⟩

theorem carries_read {dataType : Common.DataType}
    (h : (Common.Request.ReadReq deviceId dataType address quantity).Valid) :
    ∃ pdu, requestPdu (.ReadReq deviceId dataType address quantity) = .ok pdu ∧
      Carries (.ReadReq deviceId dataType address quantity) pdu := by
  obtain ⟨-, haddress, hquantity⟩ := h
  cases dataType with
  | COIL =>
    refine ⟨_, rfl, trivial, rfl, encodeTwo_encodes _ haddress (hquantity (by decide)), ?_⟩
    intro res hres
    cases res with
    | Values values => exact .readCoils hres.1 hres.2.1 hres.2.2
    | Success => cases hres
    | Error error => exact .error _ _ error
  | DISCRETE_INPUT =>
    refine ⟨_, rfl, trivial, rfl, encodeTwo_encodes _ haddress (hquantity (by decide)), ?_⟩
    intro res hres
    cases res with
    | Values values => exact .readDiscreteInputs hres.1 hres.2.1 hres.2.2
    | Success => cases hres
    | Error error => exact .error _ _ error
  | HOLDING_REGISTER =>
    refine ⟨_, rfl, trivial, rfl, encodeTwo_encodes _ haddress (hquantity (by decide)), ?_⟩
    intro res hres
    cases res with
    | Values values => exact .readHoldingRegisters hres.1 hres.2.1 hres.2.2
    | Success => cases hres
    | Error error => exact .error _ _ error
  | INPUT_REGISTER =>
    refine ⟨_, rfl, trivial, rfl, encodeTwo_encodes _ haddress (hquantity (by decide)), ?_⟩
    intro res hres
    cases res with
    | Values values => exact .readInputRegisters hres.1 hres.2.1 hres.2.2
    | Success => cases hres
    | Error error => exact .error _ _ error
  | QUEUE =>
    refine ⟨_, rfl, trivial, rfl, encodeFifo_encodes haddress, ?_⟩
    intro res hres
    cases res with
    | Values values => exact .readFifoQueue hres.1 hres.2
    | Success => cases hres
    | Error error => exact .error _ _ error

/-! ### Writes -/

theorem singleCoil_register (value : ℤ) : IsRegister (singleCoil value) := by
  unfold singleCoil
  split
  · exact ⟨by omega, by omega⟩
  · exact ⟨by omega, by omega⟩

theorem isRegister_length {n : ℕ} (h : n ≤ 2040) : IsRegister n := ⟨by omega, by omega⟩

theorem carries_writeCoils (h : (Common.Request.WriteReq deviceId .COIL address values).Valid) :
    ∃ pdu, requestPdu (.WriteReq deviceId .COIL address values) = .ok pdu ∧
      Carries (.WriteReq deviceId .COIL address values) pdu := by
  obtain ⟨-, haddress, hlength, hvalues⟩ := h
  have hmultiple : Carries (.WriteReq deviceId .COIL address values)
      (.WriteMultipleCoilsReq address values) := by
    refine ⟨hvalues, rfl, encodeMultiple_encodes _ haddress (by omega)
      (length_coilBytes_lt hlength) (allBytes_coilBytes values), fun res hres => ?_⟩
    cases res with
    | Values values => cases hres
    | Success =>
      refine ⟨encodeTwo_encodes _ haddress (isRegister_length hlength), ?_, rfl⟩
      simp [Request.response, Response.canonical, response]
    | Error error => exact .error _ _ error
  cases values with
  | nil => exact ⟨_, rfl, hmultiple⟩
  | cons value rest =>
    cases rest with
    | cons value' rest => exact ⟨_, rfl, hmultiple⟩
    | nil =>
      -- a single value has a request of its own
      have hvalue : IsCoil value := hvalues value (List.mem_singleton.mpr rfl)
      refine ⟨_, rfl, hvalue, rfl, encodeTwo_encodes _ haddress (singleCoil_register value),
        fun res hres => ?_⟩
      cases res with
      | Values values => cases hres
      | Success =>
        refine ⟨encodeTwo_encodes _ haddress (singleCoil_register value), ?_, rfl⟩
        simp [Request.response, Response.canonical, response, hvalue.coil]
      | Error error => exact .error _ _ error

theorem carries_writeRegisters
    (h : (Common.Request.WriteReq deviceId .HOLDING_REGISTER address values).Valid) :
    ∃ pdu, requestPdu (.WriteReq deviceId .HOLDING_REGISTER address values) = .ok pdu ∧
      Carries (.WriteReq deviceId .HOLDING_REGISTER address values) pdu := by
  obtain ⟨-, haddress, hlength, hvalues⟩ := h
  have hmultiple : Carries (.WriteReq deviceId .HOLDING_REGISTER address values)
      (.WriteMultipleRegistersReq address values) := by
    refine ⟨hvalues, rfl, encodeMultiple_encodes _ haddress (by omega)
      (length_registerBytes_lt hlength) (allBytes_registerBytes values), fun res hres => ?_⟩
    cases res with
    | Values values => cases hres
    | Success =>
      refine ⟨encodeTwo_encodes _ haddress (isRegister_length (by omega)), ?_, rfl⟩
      simp [Request.response, Response.canonical, response]
    | Error error => exact .error _ _ error
  cases values with
  | nil => exact ⟨_, rfl, hmultiple⟩
  | cons value rest =>
    cases rest with
    | cons value' rest => exact ⟨_, rfl, hmultiple⟩
    | nil =>
      have hvalue : IsRegister value := hvalues value (List.mem_singleton.mpr rfl)
      refine ⟨_, rfl, trivial, rfl, encodeTwo_encodes _ haddress hvalue, fun res hres => ?_⟩
      cases res with
      | Values values => cases hres
      | Success =>
        refine ⟨encodeTwo_encodes _ haddress hvalue, ?_, rfl⟩
        simp [Request.response, Response.canonical, response]
      | Error error => exact .error _ _ error

theorem carries_writeMask {andMask orMask : ℤ}
    (h : (Common.Request.WriteMaskReq deviceId address andMask orMask).Valid) :
    Carries (.WriteMaskReq deviceId address andMask orMask)
      (.MaskWriteRegisterReq address andMask orMask) := by
  obtain ⟨-, haddress, hand, hor⟩ := h
  refine ⟨trivial, rfl, encodeThree_encodes _ haddress hand hor, fun res hres => ?_⟩
  cases res with
  | Values values => cases hres
  | Success =>
    refine ⟨encodeThree_encodes _ haddress hand hor, ?_, rfl⟩
    simp [Request.response, Response.canonical, response]
  | Error error => exact .error _ _ error

theorem exists_carries {req : Common.Request} (h : req.Valid) :
    ∃ pdu, requestPdu req = .ok pdu ∧ Carries req pdu := by
  cases req with
  | ReadReq deviceId dataType startAddress quantity => exact carries_read h
  | WriteReq deviceId dataType startAddress values =>
    cases dataType with
    | COIL => exact carries_writeCoils h
    | HOLDING_REGISTER => exact carries_writeRegisters h
    | DISCRETE_INPUT => cases h
    | INPUT_REGISTER => cases h
    | QUEUE => cases h
  | WriteMaskReq deviceId address andMask orMask => exact ⟨_, rfl, carries_writeMask h⟩

theorem deviceId_of_valid {req : Common.Request} (h : req.Valid) : IsByte req.deviceId := by
  cases req with
  | ReadReq deviceId dataType startAddress quantity => exact h.1
  | WriteReq deviceId dataType startAddress values =>
    cases dataType with
    | COIL => exact h.1
    | HOLDING_REGISTER => exact h.1
    | DISCRETE_INPUT => cases h
    | INPUT_REGISTER => cases h
    | QUEUE => cases h
  | WriteMaskReq deviceId address andMask orMask => exact h.1

/-! ### One request -/

/-- A slave that waits for a request. -/
structure Ready (requestCb : RequestCb σ) (slave : Slave σ) : Prop where
  isOpen : slave.isOpen = true
  stream : slave.stream = []
  requestCb : slave.requestCb = some requestCb

/-- A frame that arrives is taken by a slave that waits for one. -/
theorem deliver_eq {requestCb : RequestCb σ} {slave : Slave σ} (h : Ready requestCb slave)
    {adu : Adu} {data : Bytes} (hdata : encodeAdu adu = .ok data)
    (htype : adu.modbusType = slave.modbusType) (hdirection : adu.pdu.direction = .REQUEST) :
    slave.deliver data = { slave with
      arrived := slave.arrived ++ data
      served := slave.served.answer (some requestCb) adu.canonical } := by
  have hframe := encodeAdu_frameOf hdata
  have hframed := hframe.framed
  have hdecode := hframe.decode
  rw [htype, hdirection] at hframed hdecode
  have htake := hframed.takeMessage .connectionError (decodeAdu slave.modbusType .REQUEST) []
  rw [hdecode, List.append_nil] at htake
  have harrive : slave.step (.arrive data) =
      some { slave with arrived := slave.arrived ++ data, stream := data } := by
    rw [Slave.step, if_pos h.isOpen, h.stream, List.nil_append]
  have hnext : ({ slave with arrived := slave.arrived ++ data, stream := data } : Slave σ).step
      .next = some { slave with
        arrived := slave.arrived ++ data
        served := slave.served.answer (some requestCb) adu.canonical } := by
    rw [Slave.step, if_pos h.isOpen]
    show Option.map _ (takeMessage _ (decodeAdu slave.modbusType .REQUEST) data) = _
    rw [htake, h.requestCb, h.stream]
    rfl
  rw [Slave.deliver, run_cons, harrive, Option.bind_some, run_cons, hnext]
  rfl

/-- The first ADU that answers the request is taken. -/
theorem receive_of_reads {modbusType : ModbusType} {reqAdu resAdu : Adu} {data : Bytes}
    (htype : reqAdu.modbusType = modbusType)
    (hread : Modbus.receive modbusType .RESPONSE data = .ok (resAdu, []))
    (hanswers : answers reqAdu resAdu = true) : receive reqAdu data = .ok (resAdu, []) := by
  rw [receive, receiveFuel]
  simp only [htype, hread, ok_bind, hanswers]
  rfl

/-- **What `send` returns is what the callback returned**, and the callback was called with what
was sent. -/
theorem send_eq {requestCb : RequestCb σ} {slave : Slave σ} (h : Ready requestCb slave)
    {transactionId : ℕ} (htransaction : transactionId < 0x10000) {req : Common.Request}
    (hreq : req.Valid) {res : Common.Response} {state : σ}
    (hcb : requestCb slave.served.state req.received = (.ok (some res), state))
    (hfits : Common.Response.Fits req res) :
    ∃ slave', send transactionId slave req = (.returns res, slave') ∧ Ready requestCb slave' ∧
      slave'.served.state = state ∧
      slave'.served.requests = slave.served.requests ++ [req.received] := by
  obtain ⟨pdu, hpdu, hcarries⟩ := exists_carries hreq
  have hreturned := hcarries.returned res hfits
  have hid : IsRegister (transactionId : ℤ) := ⟨by omega, by omega⟩
  -- the request is written, and read by the slave
  obtain ⟨data, hdata⟩ := @exists_encodeAdu slave.modbusType _ _ (.req pdu) hid
    (deviceId_of_valid hreq) hcarries.encodes
  have hdeliver := deliver_eq h hdata (makeAdu_modbusType _ _ _ _) (by rw [makeAdu_pdu]; rfl)
  have hcanonical : (Pdu.req pdu).canonical = .req pdu :=
    congrArg Pdu.req (Request.canonical_of_plain hcarries.plain)
  rw [makeAdu_canonical, hcanonical,
    Served.answer_eq requestCb slave.served (makeAdu_pdu _ _ _ _), makeAdu_deviceId,
    hcarries.toCommon, hcb] at hdeliver
  -- the response is written, and read by the master
  obtain ⟨reply, hreply⟩ := @exists_encodeAdu slave.modbusType _ _ (.res (pdu.response res)) hid
    (deviceId_of_valid hreq) hreturned.encodes
  have hreplies : (makeAdu slave.modbusType transactionId req.deviceId (.req pdu)).replies pdu
      (.ok (some res)) = [reply] := by
    simp only [Adu.replies, makeAdu_reply, hreply]
    rfl
  rw [hreplies] at hdeliver
  have hread := (receive_frame hreply []).1
  rw [makeAdu_modbusType, makeAdu_pdu, makeAdu_canonical, List.append_nil] at hread
  have hreceive := receive_of_reads (makeAdu_modbusType _ _ _ _) hread
    (makeAdu_answers slave.modbusType transactionId req.deviceId hreturned.functionCode)
  have hcomplete : complete req (makeAdu slave.modbusType transactionId req.deviceId (.req pdu))
      reply = .returns res := by
    simp only [complete, hreceive, makeAdu_pdu, Pdu.canonical, hreturned.response]
  have hwritten : ((slave.deliver data).served.written.drop
      slave.served.written.length).flatten = reply := by
    rw [hdeliver]
    simp
  refine ⟨slave.deliver data, ?_, ?_, ?_, ?_⟩
  · simp only [send, hpdu, hdata, hwritten, hcomplete]
  · rw [hdeliver]
    exact ⟨h.isOpen, h.stream, h.requestCb⟩
  · rw [hdeliver]
  · rw [hdeliver]

/-! ### Sessions -/

/-- The callback answers requests, one after the other, with responses that fit. -/
def Serves (requestCb : RequestCb σ) (state : σ) : List Common.Request → Prop
  | [] => True
  | req :: reqs =>
    (∃ res, (requestCb state req.received).1 = .ok (some res) ∧ Common.Response.Fits req res) ∧
      Serves requestCb (requestCb state req.received).2 reqs

/-- What the callback returns, one request after the other. -/
def results (requestCb : RequestCb σ) (state : σ) : List Common.Request →
    List (Except Exn (Option Common.Response))
  | [] => []
  | req :: reqs => (requestCb state req.received).1 ::
    results requestCb (requestCb state req.received).2 reqs

/-- **A master and a slave agree** on each of the framings: every call of `send` returns what
the callback returned, and the callback is called with the requests that were sent. -/
theorem session_agrees (requestCb : RequestCb σ) (count : ℕ) (slave : Slave σ)
    (hready : Ready requestCb slave) (reqs : List Common.Request)
    (hvalid : ∀ req ∈ reqs, req.Valid)
    (hserves : Serves requestCb slave.served.state reqs) :
    List.Forall₂ (fun outcome result => ∃ res, outcome = Outcome.returns res ∧
        result = .ok (some res)) (session count slave reqs).1
      (results requestCb slave.served.state reqs) ∧
    (session count slave reqs).2.served.requests =
      slave.served.requests ++ reqs.map Common.Request.received := by
  induction reqs generalizing count slave with
  | nil => exact ⟨.nil, by simp [session]⟩
  | cons req reqs ih =>
    obtain ⟨⟨res, hres, hfits⟩, hserves⟩ := hserves
    have hcb : requestCb slave.served.state req.received =
        (.ok (some res), (requestCb slave.served.state req.received).2) := by rw [← hres]
    obtain ⟨slave', hsend, hready', hstate, hrequests⟩ := send_eq hready
      (Nat.mod_lt count (by decide)) (hvalid req (by simp)) hcb hfits
    rw [← hstate] at hserves
    obtain ⟨houtcomes, hreceived⟩ := ih (count + 1) slave' hready'
      (fun req' hreq' => hvalid req' (by simp [hreq'])) hserves
    simp only [session, hsend, results, hres]
    refine ⟨.cons ⟨res, rfl, rfl⟩ ?_, ?_⟩
    · rw [← hstate]
      exact houtcomes
    · rw [hreceived, hrequests]
      simp

/-! ### A session -/

/-- A device with five values of each kind, that grants all writes but those of masks. -/
def deviceCb : RequestCb Unit := fun _ req =>
  match req with
  | .ReadReq _ .QUEUE _ _ => (.ok (some (.Values [1, 2, 3, 4, 5])), ())
  | .ReadReq _ _ _ quantity => (.ok (some (.Values (List.replicate quantity.toNat 1))), ())
  | .WriteReq _ _ _ _ => (.ok (some .Success), ())
  | .WriteMaskReq _ _ _ _ => (.ok (some (.Error .INVALID_DATA_ADDRESS)), ())

theorem session_agrees_three :
    (session 1 (.init .RTU (some deviceCb) ()) [.ReadReq 1 .COIL 16 3, .WriteReq 1 .COIL 16 [1],
        .WriteMaskReq 1 4 0xFF 0]).2.served.requests =
      [.ReadReq 1 .COIL 16 3, .WriteReq 1 .COIL 16 [1], .WriteMaskReq 1 4 0xFF 0] :=
  (session_agrees deviceCb 1 (.init .RTU (some deviceCb) ()) ⟨rfl, rfl, rfl⟩
    [.ReadReq 1 .COIL 16 3, .WriteReq 1 .COIL 16 [1], .WriteMaskReq 1 4 0xFF 0]
    (by
      intro req hreq
      simp only [List.mem_cons, List.not_mem_nil, or_false] at hreq
      rcases hreq with rfl | rfl | rfl <;>
        simp [Common.Request.Valid, IsByte, IsRegister, IsCoil])
    ⟨⟨_, rfl, by simp [Common.Response.Fits, IsCoil]⟩, ⟨_, rfl, trivial⟩, ⟨_, rfl, trivial⟩,
      trivial⟩).2

/-- The quantity of a read of a queue does not reach the callback. -/
theorem queueRead_received :
    (session 1 (.init .TCP (some deviceCb) ()) [.ReadReq 1 .QUEUE 7 5]).1 =
      [.returns (.Values [1, 2, 3, 4, 5])] ∧
    (session 1 (.init .TCP (some deviceCb) ()) [.ReadReq 1 .QUEUE 7 5]).2.served.requests ≠
      [.ReadReq 1 .QUEUE 7 5] := by
  decide

end Master

end HatDrivers.Modbus
