import HatDrivers.Lib.Prefixes
import HatDrivers.Lib.Raises
import HatDrivers.Mqtt.Transport.RoundTrip

namespace HatDrivers.Mqtt.Transport

open HatDrivers.Lib

/-!
# MQTT — data that is not a packet

Every reader checks what it reads, so that the data that the decoder does not take for a packet
is answered with an `MqttError` (`decodePacket_raises`).  Each reader of a loop takes at least one
byte, so that the loops end with their data.  Of a packet that was written, nothing but all of it
is taken for a packet: the fixed header tells its size.
-/

/-- An `MqttError`. -/
def IsMqttError (e : Error) : Prop := ∃ reason description, e = .mqttError reason description

theorem isMqttError_mqttError (reason : Reason) (description : String) :
    IsMqttError (.mqttError reason description) :=
  ⟨reason, description, rfl⟩

theorem isMqttError_malformed (description : String) : IsMqttError (.malformed description) :=
  isMqttError_mqttError _ _

theorem isMqttError_protocol (description : String) : IsMqttError (.protocol description) :=
  isMqttError_mqttError _ _

/-- A computation that raises nothing but `MqttError`. -/
abbrev Answered {α : Type} (x : Except Error α) : Prop := Raises IsMqttError x

/-- A reader of at least `n` bytes that raises nothing but `MqttError`. -/
abbrev Guarded {α : Type} (n : ℕ) (r : ByteReader Error α) : Prop := Takes IsMqttError n r

variable {n : ℕ} {t : PropertyType}

theorem enumOf_answered {E : Type} [Enumeration E] (reason : Reason) (n : ℕ) :
    Answered (enumOf reason n : Except Error E) := by
  rw [enumOf]
  split
  · exact raises_ok _
  · exact raises_error (isMqttError_mqttError _ _)

/-! ### Fields -/

theorem decodeUint8_guarded : Guarded 1 decodeUint8 := by
  intro data
  cases data with
  | nil => exact taken_error (isMqttError_malformed _)
  | cons b data => exact taken_ok _ (List.suffix_cons b data) (by simp)

theorem decodeUint16_guarded : Guarded 2 decodeUint16 := by
  intro data
  rcases data with _ | ⟨b₀, _ | ⟨b₁, data⟩⟩
  · exact taken_error (isMqttError_malformed _)
  · exact taken_error (isMqttError_malformed _)
  · exact taken_ok _ (List.suffix_append [b₀, b₁] data) (by simp)

theorem decodeUint32_guarded : Guarded 4 decodeUint32 := by
  intro data
  rcases data with _ | ⟨b₀, _ | ⟨b₁, _ | ⟨b₂, _ | ⟨b₃, data⟩⟩⟩⟩
  · exact taken_error (isMqttError_malformed _)
  · exact taken_error (isMqttError_malformed _)
  · exact taken_error (isMqttError_malformed _)
  · exact taken_error (isMqttError_malformed _)
  · exact taken_ok _ (List.suffix_append [b₀, b₁, b₂, b₃] data) (by simp)

theorem decodeUintvar_guarded : Guarded 1 decodeUintvar :=
  readVarint_takes (isMqttError_malformed _) (isMqttError_malformed _) 4 0 0

theorem decodeString_guarded : Guarded 2 decodeString := by
  intro data
  refine (decodeUint16_guarded data).bind (fun valueLen data _ => ?_) (Nat.le_add_right 2 0)
  refine taken_ite (fun _ => taken_error (isMqttError_malformed _)) fun _ => ?_
  split
  · exact taken_drop _ valueLen
  · exact taken_error (isMqttError_malformed _)

theorem decodeBinary_guarded : Guarded 2 decodeBinary := by
  intro data
  refine (decodeUint16_guarded data).bind (fun valueLen data _ => ?_) (Nat.le_add_right 2 0)
  exact taken_ite (fun _ => taken_error (isMqttError_malformed _)) fun _ => taken_drop _ valueLen

theorem decodeReason_guarded : Guarded 1 decodeReason := by
  intro data
  cases data with
  | nil => exact taken_error (isMqttError_malformed _)
  | cons b data =>
    refine (enumOf_answered _ _).taken fun reason _ => ?_
    exact taken_ok _ (List.suffix_cons b data) (by simp)

/-! ### Properties -/

theorem decodeFlag_guarded : Guarded 0 (decodeFlag t) := by
  intro data
  refine (decodeUint8_guarded data).bind (fun prop data _ => ?_) (Nat.zero_le (1 + 0))
  exact taken_ite (fun _ => taken_error (isMqttError_protocol _)) fun _ => taken_self prop

theorem decodeNonzero_guarded {r : ByteReader Error ℕ} (h : Guarded n r) :
    Guarded n (decodeNonzero t r) := by
  intro data
  refine (h data).bind (fun prop data _ => ?_) (Nat.le_add_right n 0)
  exact taken_ite (fun _ => taken_error (isMqttError_protocol _)) fun _ => taken_self prop

theorem decodeMaximumQos_guarded : Guarded 0 (decodeMaximumQos t) := by
  intro data
  refine (decodeUint8_guarded data).bind (fun prop data _ => ?_) (Nat.zero_le (1 + 0))
  refine (enumOf_answered _ _).taken fun qos _ => ?_
  exact taken_ite (fun _ => taken_error (isMqttError_protocol _)) fun _ => taken_self qos

theorem decodePropValue_guarded (t : PropertyType) : Guarded 0 (decodePropValue t) := by
  have huint16 : Guarded 0 decodeUint16 := decodeUint16_guarded.mono (Nat.zero_le 2)
  have huint32 : Guarded 0 decodeUint32 := decodeUint32_guarded.mono (Nat.zero_le 4)
  have hstring : Guarded 0 decodeString := decodeString_guarded.mono (Nat.zero_le 2)
  have hbinary : Guarded 0 decodeBinary := decodeBinary_guarded.mono (Nat.zero_le 2)
  have huintvar : Guarded 0 decodeUintvar := decodeUintvar_guarded.mono (Nat.zero_le 1)
  cases t with
  | PAYLOAD_FORMAT_INDICATOR | REQUEST_PROBLEM_INFORMATION | REQUEST_RESPONSE_INFORMATION
  | RETAIN_AVAILABLE | WILDCARD_SUBSCRIPTION_AVAILABLE | SUBSCRIPTION_IDENTIFIER_AVAILABLE
  | SHARED_SUBSCRIPTION_AVAILABLE => exact decodeFlag_guarded
  | MESSAGE_EXPIRY_INTERVAL | SESSION_EXPIRY_INTERVAL | WILL_DELAY_INTERVAL => exact huint32
  | SERVER_KEEP_ALIVE | TOPIC_ALIAS_MAXIMUM | TOPIC_ALIAS => exact huint16
  | CONTENT_TYPE | RESPONSE_TOPIC | ASSIGNED_CLIENT_IDENTIFIER | AUTHENTICATION_METHOD
  | RESPONSE_INFORMATION | SERVER_REFERENCE | REASON_STRING => exact hstring
  | CORRELATION_DATA | AUTHENTICATION_DATA => exact hbinary
  | RECEIVE_MAXIMUM => exact decodeNonzero_guarded huint16
  | MAXIMUM_PACKET_SIZE => exact decodeNonzero_guarded huint32
  | SUBSCRIPTION_IDENTIFIER => exact (decodeNonzero_guarded huintvar).map fun i => [i]
  | MAXIMUM_QOS => exact decodeMaximumQos_guarded
  | USER_PROPERTY => exact (hstring.pair hstring).map fun pair => [pair]

theorem decodeProp_guarded (validPropTypes : List PropertyType) (props : Props) :
    Guarded 1 (decodeProp validPropTypes props) := by
  intro data
  refine (decodeUintvar_guarded data).bind (fun value data _ => ?_) (Nat.le_add_right 1 0)
  refine (enumOf_answered _ _).taken fun propType _ => ?_
  refine taken_ite (fun _ => taken_error (isMqttError_protocol _)) fun _ => ?_
  refine taken_ite (fun _ => taken_error (isMqttError_protocol _)) fun _ => ?_
  exact (decodePropValue_guarded propType data).bind (fun prop data _ => taken_self _)
    (le_refl (0 + 0))

theorem decodeProps_guarded (validPropTypes : List PropertyType) :
    Guarded 1 (decodeProps validPropTypes) := by
  intro data
  refine (decodeUintvar_guarded data).bind (fun propsDataLen data _ => ?_) (Nat.le_add_right 1 0)
  refine taken_ite (fun _ => taken_error (isMqttError_malformed _)) fun _ => ?_
  refine (Takes.readWhile (decodeProp_guarded validPropTypes) [] _).taken fun props _ => ?_
  exact taken_drop props propsDataLen

/-! ### Packets -/

theorem decodePayload_guarded (text : Bool) : Guarded 2 (decodePayload text) := by
  cases text with
  | false => exact decodeBinary_guarded.map Payload.bytes
  | true => exact decodeString_guarded.map Payload.str

theorem decodeOptional_guarded {α : Type} {r : ByteReader Error α} (h : Guarded 0 r)
    (flag : Bool) : Guarded 0 (decodeOptional flag r) := by
  cases flag with
  | false => exact fun data => taken_self none
  | true => exact h.map some

theorem decodeWill_guarded (qos : QoS) (retain : Bool) : Guarded 0 (decodeWill qos retain) := by
  intro data
  refine (decodeProps_guarded _ data).bind (fun props data _ => ?_) (Nat.zero_le (1 + 0))
  refine (decodeString_guarded data).bind (fun topic data _ => ?_) (Nat.zero_le (2 + 0))
  exact (decodePayload_guarded _ data).bind (fun payload data _ => taken_self _)
    (Nat.zero_le (2 + 0))

theorem decodeConnectPacket_guarded : Guarded 0 decodeConnectPacket := by
  intro data
  refine (decodeString_guarded data).bind (fun protocolName data _ => ?_) (Nat.zero_le (2 + 0))
  refine taken_ite (fun _ => taken_error (isMqttError_mqttError _ _)) fun _ => ?_
  refine (decodeUint8_guarded data).bind (fun protocolVersion data _ => ?_) (Nat.zero_le (1 + 0))
  refine taken_ite (fun _ => taken_error (isMqttError_mqttError _ _)) fun _ => ?_
  refine (decodeUint8_guarded data).bind (fun flags data _ => ?_) (Nat.zero_le (1 + 0))
  refine (enumOf_answered _ _).taken fun willQos _ => ?_
  refine (decodeUint16_guarded data).bind (fun keepAlive data _ => ?_) (Nat.zero_le (2 + 0))
  refine (decodeProps_guarded _ data).bind (fun props data _ => ?_) (Nat.zero_le (1 + 0))
  refine taken_ite (fun _ => taken_error (isMqttError_protocol _)) fun _ => ?_
  refine (decodeString_guarded data).bind (fun clientIdentifier data _ => ?_) (Nat.zero_le (2 + 0))
  have hwill := decodeOptional_guarded (decodeWill_guarded willQos (bit flags 0x20))
  have hstring := decodeOptional_guarded (decodeString_guarded.mono (Nat.zero_le 2))
  have hbinary := decodeOptional_guarded (decodeBinary_guarded.mono (Nat.zero_le 2))
  refine (hwill _ data).bind (fun will data _ => ?_) (Nat.zero_le (0 + 0))
  refine (hstring _ data).bind (fun userName data _ => ?_) (Nat.zero_le (0 + 0))
  exact (hbinary _ data).bind (fun password data _ => taken_self _) (Nat.zero_le (0 + 0))

theorem decodeConnackPacket_guarded : Guarded 0 decodeConnackPacket := by
  intro data
  refine (decodeUint8_guarded data).bind (fun flags data _ => ?_) (Nat.zero_le (1 + 0))
  refine (decodeReason_guarded data).bind (fun reason data _ => ?_) (Nat.zero_le (1 + 0))
  exact (decodeProps_guarded _ data).bind (fun props data _ => taken_self _) (Nat.zero_le (1 + 0))

theorem decodePayloadData_answered (text : Bool) (data : Bytes) :
    Answered (decodePayloadData text data) := by
  refine raises_ite (fun _ => ?_) fun _ => raises_ok _
  split
  · exact raises_ok _
  · exact raises_error (isMqttError_malformed _)

theorem decodePublishPacket_guarded (duplicate : Bool) (qos : QoS) (retain : Bool) :
    Guarded 0 (decodePublishPacket duplicate qos retain) := by
  intro data
  have hidentifier := decodeOptional_guarded (decodeUint16_guarded.mono (Nat.zero_le 2))
  refine (decodeString_guarded data).bind (fun topicName data _ => ?_) (Nat.zero_le (2 + 0))
  refine (hidentifier _ data).bind (fun packetIdentifier data _ => ?_) (Nat.zero_le (0 + 0))
  refine (decodeProps_guarded _ data).bind (fun props data _ => ?_) (Nat.zero_le (1 + 0))
  refine (decodePayloadData_answered _ data).taken fun payload _ => ?_
  exact taken_ok _ (List.nil_suffix) (Nat.zero_le _)

theorem decodeReasonPacket_guarded : Guarded 0 decodeReasonPacket := by
  intro data
  refine (decodeUint16_guarded data).bind (fun packetIdentifier data _ => ?_) (Nat.zero_le (2 + 0))
  refine (decodeReason_guarded data).bind (fun reason data _ => ?_) (Nat.zero_le (1 + 0))
  exact (decodeProps_guarded _ data).bind (fun props data _ => taken_self _) (Nat.zero_le (1 + 0))

theorem decodeSubscription_guarded : Guarded 1 decodeSubscription := by
  intro data
  refine (decodeString_guarded data).bind (fun topicFilter data _ => ?_)
    (show 1 ≤ 2 + 0 by decide)
  refine (decodeUint8_guarded data).bind (fun options data _ => ?_) (Nat.zero_le (1 + 0))
  refine (enumOf_answered _ _).taken fun maximumQos _ => ?_
  exact (enumOf_answered _ _).taken fun retainHandling _ => taken_self _

theorem decodeSubscribePacket_guarded : Guarded 0 decodeSubscribePacket := by
  intro data
  refine (decodeUint16_guarded data).bind (fun packetIdentifier data _ => ?_) (Nat.zero_le (2 + 0))
  refine (decodeProps_guarded _ data).bind (fun props data _ => ?_) (Nat.zero_le (1 + 0))
  refine taken_ite (fun _ => taken_error (isMqttError_protocol _)) fun _ => ?_
  refine (Takes.readAll decodeSubscription_guarded data).taken fun subscriptions _ => ?_
  refine taken_ite (fun _ => taken_error (isMqttError_protocol _)) fun _ => ?_
  exact taken_ok _ (List.nil_suffix) (Nat.zero_le _)

theorem decodeReasonsPacket_guarded : Guarded 0 decodeReasonsPacket := by
  intro data
  refine (decodeUint16_guarded data).bind (fun packetIdentifier data _ => ?_) (Nat.zero_le (2 + 0))
  refine (decodeProps_guarded _ data).bind (fun props data _ => ?_) (Nat.zero_le (1 + 0))
  refine (Takes.readAll decodeReason_guarded data).taken fun reasons _ => ?_
  refine taken_ite (fun _ => taken_error (isMqttError_protocol _)) fun _ => ?_
  exact taken_ok _ (List.nil_suffix) (Nat.zero_le _)

theorem decodeUnsubscribePacket_guarded : Guarded 0 decodeUnsubscribePacket := by
  intro data
  have hstring : Guarded 1 decodeString := decodeString_guarded.mono (Nat.le_succ 1)
  refine (decodeUint16_guarded data).bind (fun packetIdentifier data _ => ?_) (Nat.zero_le (2 + 0))
  refine (decodeProps_guarded _ data).bind (fun props data _ => ?_) (Nat.zero_le (1 + 0))
  refine (Takes.readAll hstring data).taken fun topicFilters _ => ?_
  refine taken_ite (fun _ => taken_error (isMqttError_protocol _)) fun _ => ?_
  exact taken_ok _ (List.nil_suffix) (Nat.zero_le _)

theorem decodeDisconnectPacket_guarded : Guarded 0 decodeDisconnectPacket := by
  intro data
  refine (decodeReason_guarded data).bind (fun reason data _ => ?_) (Nat.zero_le (1 + 0))
  exact (decodeProps_guarded _ data).bind (fun props data _ => taken_self _) (Nat.zero_le (1 + 0))

theorem decodeAuthPacket_guarded : Guarded 0 decodeAuthPacket := by
  intro data
  refine (decodeReason_guarded data).bind (fun reason data _ => ?_) (Nat.zero_le (1 + 0))
  refine (decodeProps_guarded _ data).bind (fun props data _ => ?_) (Nat.zero_le (1 + 0))
  dsimp only
  split
  · exact taken_error (isMqttError_protocol _)
  · exact taken_self _

theorem decodeFixed_guarded {α : Type} {r : ByteReader Error α} (h : Guarded 0 r)
    (f : α → Packet) (expected : QoS) (duplicate : Bool) (qos : QoS) (retain : Bool) :
    Guarded 0 (decodeFixed expected duplicate qos retain (mapRead f r)) := fun data =>
  taken_ite (fun _ => taken_error (isMqttError_malformed _)) fun _ => h.map f data

theorem decodePacketData_guarded (packetType : PacketType) (duplicate : Bool) (qos : QoS)
    (retain : Bool) : Guarded 0 (decodePacketData packetType duplicate qos retain) := by
  have hping (packet : Packet) : Guarded 0 (decodeFixed .AT_MOST_ONCE duplicate qos retain
      fun data => .ok (packet, data)) := fun data =>
    taken_ite (fun _ => taken_error (isMqttError_malformed _)) fun _ => taken_self packet
  intro data
  cases packetType with
  | CONNECT => exact decodeFixed_guarded decodeConnectPacket_guarded _ _ _ _ _ data
  | CONNACK => exact decodeFixed_guarded decodeConnackPacket_guarded _ _ _ _ _ data
  | PUBLISH => exact (decodePublishPacket_guarded duplicate qos retain).map Packet.publish data
  | PUBACK | PUBREC | PUBREL | PUBCOMP =>
    exact decodeFixed_guarded decodeReasonPacket_guarded _ _ _ _ _ data
  | SUBSCRIBE => exact decodeFixed_guarded decodeSubscribePacket_guarded _ _ _ _ _ data
  | SUBACK | UNSUBACK => exact decodeFixed_guarded decodeReasonsPacket_guarded _ _ _ _ _ data
  | UNSUBSCRIBE => exact decodeFixed_guarded decodeUnsubscribePacket_guarded _ _ _ _ _ data
  | PINGREQ | PINGRESP => exact hping _ data
  | DISCONNECT => exact decodeFixed_guarded decodeDisconnectPacket_guarded _ _ _ _ _ data
  | AUTH => exact decodeFixed_guarded decodeAuthPacket_guarded _ _ _ _ _ data

/-- Any data is a packet, or is answered. -/
theorem decodePacket_answered (data : Bytes) : Answered (decodePacket data) := by
  refine raises_ite (fun _ => raises_error (isMqttError_malformed _)) fun hlen => ?_
  rcases data with _ | ⟨b, data⟩
  · exact absurd (Nat.zero_lt_two) hlen
  · refine (enumOf_answered _ _).bind fun packetType _ => ?_
    refine (enumOf_answered _ _).bind fun qos _ => ?_
    refine (decodeUintvar_guarded data).raises.bind fun counted _ => ?_
    refine raises_ite (fun _ => raises_error (isMqttError_malformed _)) fun _ => ?_
    refine (decodePacketData_guarded ..).raises.bind fun read _ => ?_
    exact raises_ite (fun _ => raises_error (isMqttError_malformed _)) fun _ => raises_ok _

/-- A packet is read off its data, of which as much is there as the fixed header says, to the
end. -/
structure Consumed (data : Bytes) (packet : Packet) (body : Bytes) : Prop where
  remaining : decodeUintvar (data.drop 1) = .ok (body.length, body)
  read : ∃ packetType duplicate qos retain,
    decodePacketData packetType duplicate qos retain body = .ok (packet, [])

theorem consumed_of_decodePacket {data : Bytes} {packet : Packet}
    (h : decodePacket data = .ok packet) : ∃ body, Consumed data packet body := by
  unfold decodePacket at h
  split at h
  · cases h
  · obtain ⟨header, _, h⟩ := bind_eq_ok.mp h
    obtain ⟨packetType, _, h⟩ := bind_eq_ok.mp h
    obtain ⟨qos, _, h⟩ := bind_eq_ok.mp h
    obtain ⟨⟨remainingLen, body⟩, hcounted, h⟩ := bind_eq_ok.mp h
    dsimp only at h
    split at h
    · cases h
    · next hlen =>
      obtain ⟨⟨packet', rest⟩, hread, h⟩ := bind_eq_ok.mp h
      dsimp only at h
      split at h
      · cases h
      · next hrest =>
        obtain rfl := Except.ok.inj h
        obtain rfl := not_not.mp hlen
        obtain rfl := not_not.mp hrest
        exact ⟨body, hcounted, packetType, _, qos, _, hread⟩

/-! ### Prefixes -/

/-- What is written starts with its size. -/
theorem encodePacket_eq_ok {packet : Packet} {bs : Bytes} (h : encodePacket packet = .ok bs) :
    ∃ header body, body.length ≤ 0x0fff_ffff ∧
      bs = header :: (bytesOf (varint 4 body.length) ++ body) := by
  unfold encodePacket at h
  generalize packetHeader packet = flags at h
  obtain ⟨packetType, duplicate, qos, retain⟩ := flags
  obtain ⟨ds, _, h⟩ := bind_eq_ok.mp h
  obtain ⟨vs, hvs, h⟩ := bind_eq_ok.mp h
  unfold encodeUintvar at hvs
  split at hvs
  · cases hvs
  · next hle =>
    obtain rfl := Except.ok.inj hvs
    cases hbytes : toBytes (headerByte packetType duplicate qos retain ::
        (varint 4 ds.length ++ ds)) with
    | error e =>
      rw [List.cons_append, hbytes] at h
      cases h
    | ok bs' =>
      rw [List.cons_append, hbytes] at h
      obtain rfl := Except.ok.inj h
      obtain ⟨_, rfl⟩ := toBytes_eq_ok.mp hbytes
      refine ⟨UInt8.ofNat (headerByte packetType duplicate qos retain), bytesOf ds,
        by rw [length_bytesOf]; omega, ?_⟩
      rw [length_bytesOf, ← bytesOf_append]
      rfl

/-- Nothing but all of what is written is a packet. -/
theorem decodePacket_prefix {packet : Packet} {bs p : Bytes} (h : encodePacket packet = .ok bs)
    (hp : p <+: bs) (hne : p ≠ bs) : ∃ e, IsMqttError e ∧ decodePacket p = .error e := by
  cases hdecode : decodePacket p with
  | error e => exact ⟨e, decodePacket_answered p e hdecode, rfl⟩
  | ok packet' =>
    exfalso
    obtain ⟨read, hread, _⟩ := consumed_of_decodePacket hdecode
    obtain ⟨header, body, hsize, rfl⟩ := encodePacket_eq_ok h
    cases p with
    | nil => cases hread
    | cons b p =>
      rw [List.cons_prefix_cons] at hp
      rw [hp.1] at hne
      rw [List.drop_one, List.tail_cons] at hread
      rcases prefix_append_cases hp.2 fun heq => hne (congrArg _ heq) with
        ⟨hp, hne⟩ | ⟨q, rfl, hq, hqne⟩
      · obtain ⟨e, he⟩ := readVarint_guards 4 0 0 body.length p hp hne
        rw [decodeUintvar, he] at hread
        cases hread
      · rw [decodeUintvar, readVarint_varint (by omega) (by omega) (by omega)] at hread
        obtain ⟨hlen, rfl⟩ := Prod.mk.inj (Except.ok.inj hread)
        exact hqne (hq.eq_of_length (by omega))

/-- **The decoder answers what it does not read.**  Any data is either read to the end as a packet,
or an `MqttError` is raised; of what is written of a packet, any part is of the second kind. -/
theorem decodePacket_total :
    (∀ data, (∃ packet body, decodePacket data = .ok packet ∧ Consumed data packet body) ∨
      ∃ e, IsMqttError e ∧ decodePacket data = .error e) ∧
    (∀ packet bs p, packet.WellFormed → encodePacket packet = .ok bs → p <+: bs → p ≠ bs →
      ∃ e, IsMqttError e ∧ decodePacket p = .error e) := by
  constructor
  · intro data
    cases hdecode : decodePacket data with
    | error e => exact .inr ⟨e, decodePacket_answered data e hdecode, rfl⟩
    | ok packet =>
      obtain ⟨body, hconsumed⟩ := consumed_of_decodePacket hdecode
      exact .inl ⟨packet, body, rfl, hconsumed⟩
  · intro packet bs p _ hbs hp hne
    exact decodePacket_prefix hbs hp hne

theorem decodePacket_total_pingreq : ∃ e, IsMqttError e ∧ decodePacket [0xC0] = .error e :=
  decodePacket_total.2 .pingreq [0xC0, 0] [0xC0] ⟨trivial, by decide⟩ rfl ⟨[0], rfl⟩ (by decide)

end HatDrivers.Mqtt.Transport
