import HatDrivers.Mqtt.Transport.RoundTrip

namespace HatDrivers.Mqtt.Transport

open HatDrivers.Lib

/-!
# MQTT — abbreviated acknowledgements

The protocol lets the sender of an acknowledgement leave out the length of its properties if it
has none, and its reason too if that is success.  The readers do neither: each of them asks for a
reason and for properties, and raises an `MqttError` where there are none.
-/

/-- The packets that may be abbreviated. -/
inductive AckType
  | PUBACK | PUBREC | PUBREL | PUBCOMP | DISCONNECT | AUTH
  deriving DecidableEq

namespace AckType

def packetType : AckType → PacketType
  | PUBACK => .PUBACK
  | PUBREC => .PUBREC
  | PUBREL => .PUBREL
  | PUBCOMP => .PUBCOMP
  | DISCONNECT => .DISCONNECT
  | AUTH => .AUTH

def qos : AckType → QoS
  | PUBREL => .AT_LEAST_ONCE
  | _ => .AT_MOST_ONCE

/-- The fields before the reason, of which the last two types have none. -/
def identifier (t : AckType) (packetIdentifier : ℕ) : List ℕ :=
  if t = DISCONNECT ∨ t = AUTH then []
  else [(packetIdentifier >>> 8) &&& 0xff, packetIdentifier &&& 0xff]

/-- A packet of the type with these fields. -/
def encode (t : AckType) (fields : List ℕ) : Bytes :=
  bytesOf (headerByte t.packetType false t.qos false :: fields.length :: fields)

/-- A packet that ends with its reason, or before a reason that is success. -/
def abbreviated (t : AckType) (packetIdentifier : ℕ) (reason : Option Reason) : Bytes :=
  t.encode (t.identifier packetIdentifier ++ (reason.map Reason.value).toList)

/-- The same packet with all its fields. -/
def unabbreviated (t : AckType) (packetIdentifier : ℕ) (reason : Option Reason) : Bytes :=
  t.encode (t.identifier packetIdentifier ++ [(reason.getD .SUCCESS).value, 0])

/-- What a packet is decoded as that has a reason and no properties. -/
def packet (packetIdentifier : ℕ) (reason : Reason) : AckType → Except Error Packet
  | PUBACK => .ok (.puback ⟨packetIdentifier, reason, none, []⟩)
  | PUBREC => .ok (.pubrec ⟨packetIdentifier, reason, none, []⟩)
  | PUBREL => .ok (.pubrel ⟨packetIdentifier, reason, none, []⟩)
  | PUBCOMP => .ok (.pubcomp ⟨packetIdentifier, reason, none, []⟩)
  | DISCONNECT => .ok (.disconnect ⟨reason, none, none, [], none⟩)
  | AUTH => .error (.protocol "missing authentication method")

end AckType

variable (t : AckType) {packetIdentifier : ℕ}

theorem length_identifier (packetIdentifier : ℕ) : (t.identifier packetIdentifier).length ≤ 2 := by
  unfold AckType.identifier
  split <;> simp

/-- A packet is decoded as its fields are. -/
theorem decodePacket_encode {fields : List ℕ} (hlen : fields.length < 128) :
    decodePacket (t.encode fields) = (do
      let (packet, data) ← decodePacketData t.packetType false t.qos false (bytesOf fields)
      if data ≠ [] then throw (.malformed "excess packet data")
      return packet) := by
  obtain ⟨hbyte, htype, hduplicate, hretain, hqos⟩ := headerByte_bits t.packetType false t.qos false
  obtain ⟨vs, hvs, _, _, hread⟩ := encodeUintvar_codes (show fields.length ≤ 0x0fff_ffff by omega)
  have hvarint : vs = [fields.length] := by
    rw [encodeUintvar, if_neg (by omega), varint_succ, if_pos hlen] at hvs
    exact (Except.ok.inj hvs).symm
  have hdata : t.encode fields = UInt8.ofNat (headerByte t.packetType false t.qos false) ::
      (bytesOf vs ++ bytesOf fields) := by
    rw [hvarint]
    rfl
  have hlong : ¬ (t.encode fields).length < 2 := by
    rw [hdata, hvarint]
    simp
  have hmember : enumOf .MALFORMED_PACKET t.packetType.value = .ok t.packetType := enumOf_value _ _
  rw [decodePacket, if_neg hlong, hdata, byteAt_cons_zero, toNat_ofNat_of_lt hbyte, List.drop_one,
    List.tail_cons]
  simp only [Except.mapError, ok_bind, htype, hmember, hduplicate, hretain, hqos,
    ← QoS.enumeration_value, enumOf_value, hread (bytesOf fields), length_bytesOf, ne_eq,
    not_true_eq_false, if_false]

/-! ### The fields after the identifier -/

theorem decodeUint16_identifier (hidentifier : packetIdentifier ≤ 0xffff) (rest : Bytes) :
    decodeUint16 (bytesOf [(packetIdentifier >>> 8) &&& 0xff, packetIdentifier &&& 0xff] ++ rest) =
      .ok (packetIdentifier, rest) := by
  obtain ⟨ns, hns, _, _, hread⟩ := encodeUint16_codes hidentifier
  rw [encodeUint16, if_neg (by omega)] at hns
  obtain rfl := Except.ok.inj hns
  exact hread rest

/-- A packet without a reason, or whose reason is not followed by properties. -/
theorem decodePacketData_error (hidentifier : packetIdentifier ≤ 0xffff) {rest : Bytes} {e : Error}
    (h : (decodeReason rest >>= fun q => decodeUintvar q.2) = .error e) :
    decodePacketData t.packetType false t.qos false
      (bytesOf (t.identifier packetIdentifier) ++ rest) = .error e := by
  have hread := decodeUint16_identifier hidentifier rest
  cases hreason : decodeReason rest with
  | error e' =>
    rw [hreason] at h
    obtain rfl := Except.error.inj h
    cases t <;> simp [AckType.packetType, AckType.qos, AckType.identifier, decodePacketData,
      decodeFixed, mapRead, decodePubackPacket, decodePubrecPacket, decodePubrelPacket,
      decodePubcompPacket, decodeReasonPacket, decodeDisconnectPacket, decodeAuthPacket, hread,
      hreason]
  | ok q =>
    rw [hreason] at h
    have hprops : ∀ types, decodeProps types q.2 = .error e := by
      intro types
      rw [decodeProps, show decodeUintvar q.2 = .error e from h]
      rfl
    cases t <;> simp [AckType.packetType, AckType.qos, AckType.identifier, decodePacketData,
      decodeFixed, mapRead, decodePubackPacket, decodePubrecPacket, decodePubrelPacket,
      decodePubcompPacket, decodeReasonPacket, decodeDisconnectPacket, decodeAuthPacket, hread,
      hreason, hprops]

theorem decodePacketData_full (hidentifier : packetIdentifier ≤ 0xffff) (reason : Reason) :
    decodePacketData t.packetType false t.qos false
        (bytesOf (t.identifier packetIdentifier ++ [reason.value, 0])) =
      (t.packet packetIdentifier reason).map fun packet => (packet, []) := by
  have hread := decodeUint16_identifier hidentifier (bytesOf [reason.value, 0])
  obtain ⟨ns, hns, _, _, hreason⟩ := encodeReason_codes reason
  obtain rfl := Except.ok.inj hns
  have hreason' : decodeReason (bytesOf [reason.value, 0]) = .ok (reason, [0]) := hreason [0]
  have hprops : ∀ types, decodeProps types [0] = .ok ([], []) := fun types => rfl
  rw [bytesOf_append]
  cases t <;> simp [AckType.packetType, AckType.qos, AckType.identifier, decodePacketData,
    decodeFixed, mapRead, decodePubackPacket, decodePubrecPacket, decodePubrelPacket,
    decodePubcompPacket, decodeReasonPacket, decodeDisconnectPacket, decodeAuthPacket, hread,
    hreason', hprops, AckType.packet, Except.map, Props.get]
  all_goals rfl

/-! ### Packets -/

theorem decodePacket_abbreviated (hidentifier : packetIdentifier ≤ 0xffff)
    (reason : Option Reason) :
    decodePacket (t.abbreviated packetIdentifier reason) =
      .error (.malformed "invalid data length") := by
  have hlen := length_identifier t packetIdentifier
  have hfew : (t.identifier packetIdentifier ++ (reason.map Reason.value).toList).length < 128 := by
    have hone : (reason.map Reason.value).toList.length ≤ 1 := by cases reason <;> simp
    rw [List.length_append]
    omega
  have hrest : (decodeReason (bytesOf (reason.map Reason.value).toList) >>= fun q =>
      decodeUintvar q.2) = .error (.malformed "invalid data length") := by
    cases reason with
    | none => rfl
    | some reason =>
      obtain ⟨ns, hns, _, _, hreason⟩ := encodeReason_codes reason
      obtain rfl := Except.ok.inj hns
      rw [Option.map_some, Option.toList_some, hreason.all]
      rfl
  rw [AckType.abbreviated, decodePacket_encode t hfew, bytesOf_append,
    decodePacketData_error t hidentifier hrest]
  rfl

theorem decodePacket_unabbreviated (hidentifier : packetIdentifier ≤ 0xffff)
    (reason : Option Reason) :
    decodePacket (t.unabbreviated packetIdentifier reason) =
      t.packet packetIdentifier (reason.getD .SUCCESS) := by
  have hlen := length_identifier t packetIdentifier
  have hfew : (t.identifier packetIdentifier ++
      [(reason.getD Reason.SUCCESS).value, 0]).length < 128 := by
    rw [List.length_append]
    simp only [List.length_cons, List.length_nil]
    omega
  rw [AckType.unabbreviated, decodePacket_encode t hfew, decodePacketData_full t hidentifier]
  cases t <;> rfl

/-- **Nothing of an acknowledgement can be left out.**  Abbreviated, it is malformed; with all its
fields it is decoded, but for an AUTH packet without an authentication method. -/
theorem acknowledgement_unabbreviated_only (t : AckType) {packetIdentifier : ℕ}
    (hidentifier : packetIdentifier ≤ 0xffff) (reason : Option Reason) :
    decodePacket (t.abbreviated packetIdentifier reason) =
        .error (.malformed "invalid data length") ∧
      decodePacket (t.unabbreviated packetIdentifier reason) =
        t.packet packetIdentifier (reason.getD .SUCCESS) :=
  ⟨decodePacket_abbreviated t hidentifier reason, decodePacket_unabbreviated t hidentifier reason⟩

theorem acknowledgement_unabbreviated_only_pubrel :
    decodePacket (AckType.PUBREL.abbreviated 300 none) =
        .error (.malformed "invalid data length") ∧
      decodePacket (AckType.PUBREL.unabbreviated 300 none) =
        .ok (.pubrel ⟨300, .SUCCESS, none, []⟩) :=
  acknowledgement_unabbreviated_only .PUBREL (by decide) none

/-- The two spellings of a successful PUBACK. -/
theorem abbreviated_puback_rejected :
    AckType.PUBACK.abbreviated 1 none = [0x40, 2, 0, 1] ∧
      AckType.PUBACK.unabbreviated 1 none = [0x40, 4, 0, 1, 0, 0] ∧
      decodePacket [0x40, 4, 0, 1, 0, 0] = .ok (.puback ⟨1, .SUCCESS, none, []⟩) ∧
      decodePacket [0x40, 2, 0, 1] ≠ decodePacket [0x40, 4, 0, 1, 0, 0] := by
  refine ⟨rfl, rfl, rfl, ?_⟩
  rw [show decodePacket [0x40, 4, 0, 1, 0, 0] = .ok (.puback ⟨1, .SUCCESS, none, []⟩) from rfl,
    show decodePacket [0x40, 2, 0, 1] = .error (.malformed "invalid data length") from rfl]
  exact nofun

end HatDrivers.Mqtt.Transport
