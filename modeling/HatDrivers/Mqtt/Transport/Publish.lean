import HatDrivers.Mqtt.Transport.RoundTrip

namespace HatDrivers.Mqtt.Transport

open HatDrivers.Lib

/-!
# MQTT — PUBLISH and SUBSCRIBE

Two kinds of packets are not always decoded from what is written of them.  A PUBLISH
packet with subscription identifiers is not written at all; the option byte of a
subscription is written with other bits than it is read with.  Both are read back
exactly if they use neither (`packet_roundTrips_iff`).
-/

/-! ### PUBLISH -/

theorem encodePacketIdentifier_codes {packet : PublishPacket} (h : packet.WellFormed) :
    CodesIn (if packet.qos ≠ .AT_MOST_ONCE then 2 else 0)
      (encodePacketIdentifier packet.qos packet.packetIdentifier)
      (decodeOptional (packet.qos ≠ .AT_MOST_ONCE) decodeUint16) packet.packetIdentifier := by
  by_cases hqos : packet.qos ≠ .AT_MOST_ONCE
  · obtain ⟨n, hn⟩ := Option.isSome_iff_exists.mp (h.identified.mpr hqos)
    obtain ⟨ns, hw, hb, hl, hr⟩ := encodeUint16_codes (h.packetIdentifier n hn)
    rw [hn, if_pos hqos, decide_eq_true hqos]
    unfold encodePacketIdentifier
    rw [if_pos hqos]
    exact ⟨ns, hw, hb, hl, hr.map some⟩
  · have hnone : packet.packetIdentifier = none := by
      rw [← Option.not_isSome_iff_eq_none, h.identified]
      exact hqos
    rw [hnone, if_neg hqos, decide_eq_false hqos]
    unfold encodePacketIdentifier
    rw [if_neg hqos]
    exact ⟨[], rfl, allBytes_nil, rfl, fun rest => rfl⟩

theorem decodePayloadData_encode (payload : Payload) :
    decodePayloadData (boolOf payload.format 0) payload.encode = .ok payload := by
  cases payload with
  | str s =>
    have hformat : boolOf (Payload.str s).format 0 = true := rfl
    rw [hformat, decodePayloadData, if_pos rfl, Payload.encode, decodeUtf8_encodeUtf8]
  | bytes bs => rfl

theorem publishProps_valid {packet : PublishPacket} (h : packet.WellFormed) :
    Template.Valid (publishProps packet) := by
  simp only [publishProps, Template.Valid, List.forall_mem_cons]
  exact ⟨valid_format packet.payload, h.messageExpiryInterval, h.topicAlias, h.responseTopic,
    h.correlationData, valid_if fun hne => ⟨hne, h.userProperties⟩, h.contentType,
    fun _ he => absurd he List.not_mem_nil⟩

theorem length_encode (payload : Payload) : payload.encode.length = payload.length := by
  cases payload with
  | str s => exact length_encodeUtf8 s
  | bytes bs => rfl

/-- Without subscription identifiers, what is written of a PUBLISH packet is read back. -/
theorem encodePublishPacket_codes {packet : PublishPacket} (h : packet.WellFormed)
    (hsize : packet.size ≤ 0x0fff_ffff) (hids : packet.subscriptionIdentifiers = []) :
    CodesWhole packet.size (encodePublishPacket packet)
      (decodePublishPacket packet.duplicate packet.qos packet.retain) packet := by
  have hkeys : (publishProps packet).map Sigma.fst =
      [.PAYLOAD_FORMAT_INDICATOR, .MESSAGE_EXPIRY_INTERVAL, .TOPIC_ALIAS, .RESPONSE_TOPIC,
        .CORRELATION_DATA, .USER_PROPERTY, .CONTENT_TYPE] := rfl
  have hall : templateSize (publishAllProps packet) =
      propsSize (present (publishProps packet)) := by
    rw [templateSize, publishAllProps, hids, present, List.filterMap_append]
    exact congrArg propsSize (List.append_nil _)
  have hprops : propsLength (present (publishProps packet)) ≤ 0x0fff_ffff := by
    rw [PublishPacket.size, hall, propsSize] at hsize
    omega
  obtain ⟨ts, hts, htsb, htsl, htsr⟩ := encodeString_codes h.topicName
  obtain ⟨is, his, hisb, hisl, hisr⟩ := encodePacketIdentifier_codes h
  obtain ⟨ps, hps, hpsb, hpsl, hpsr⟩ := present_codes hkeys (by decide)
    (show ∀ t ∈ _, t ∈ publishPropTypes by decide) (publishProps_valid h) hprops
  have hget := get_present hkeys (by decide)
  have hformat : (present (publishProps packet)).get .PAYLOAD_FORMAT_INDICATOR =
      packet.payload.format := hget _
  refine ⟨ts ++ is ++ ps ++ packet.payload.encode.map UInt8.toNat,
    by simp [encodePublishPacket, hts, his, hids, hps],
    by simp [htsb, hisb, hpsb, allBytes_map_toNat], ?_, ?_⟩
  · simp only [List.length_append, List.length_map, htsl, hisl, hpsl, length_encode,
      PublishPacket.size, hall]
  · rw [bytesOf_append, bytesOf_append, bytesOf_append, bytesOf_map_toNat, List.append_assoc,
      List.append_assoc, decodePublishPacket]
    simp only [htsr _, ok_bind, hisr _, hpsr _, hformat, decodePayloadData_encode, hget]
    refine congrArg (fun packet => Except.ok (packet, [])) ?_
    exact PublishPacket.ext rfl rfl rfl rfl rfl rfl rfl rfl rfl (getD_ite _ _) hids.symm rfl rfl

/-- With subscription identifiers, nothing is written of a PUBLISH packet. -/
theorem encodePublishPacket_attributeError {packet : PublishPacket} (h : packet.WellFormed)
    (hids : packet.subscriptionIdentifiers ≠ []) :
    encodePublishPacket packet = .error (.exn .attributeError) := by
  obtain ⟨ts, hts, _⟩ := encodeString_codes h.topicName
  obtain ⟨is, his, _⟩ := encodePacketIdentifier_codes h
  simp [encodePublishPacket, hts, his, hids]

/-! ### SUBSCRIBE -/

/-- What a subscription is read back as. -/
def readBack (subscription : Subscription) : Except Error Subscription :=
  if subscription.noLocal then
    .error (.protocol (toString 3 ++ " is not a valid " ++ Enumeration.name QoS))
  else .ok { subscription with
    noLocal := subscription.retainAsPublished
    retainAsPublished := false }

theorem readBack_eq_ok_self_iff (subscription : Subscription) :
    readBack subscription = .ok subscription ↔
      subscription.noLocal = false ∧ subscription.retainAsPublished = false := by
  obtain ⟨topicFilter, maximumQos, noLocal, retainAsPublished, retainHandling⟩ := subscription
  cases noLocal <;> cases retainAsPublished <;> simp [readBack]

theorem subscriptionOptions_bits (subscription : Subscription) :
    let options := subscriptionOptions subscription
    options < 256 ∧ bit options 0x04 = subscription.retainAsPublished ∧
      bit options 0x08 = false ∧ (options >>> 4) &&& 0x03 = subscription.retainHandling.value ∧
      options &&& 0x03 = if subscription.noLocal then 3 else subscription.maximumQos.value := by
  obtain ⟨topicFilter, maximumQos, noLocal, retainAsPublished, retainHandling⟩ := subscription
  cases maximumQos <;> cases noLocal <;> cases retainAsPublished <;> cases retainHandling <;>
    simp [subscriptionOptions, bit, QoS.value, RetainHandling.value]

/-- The reader of a written subscription, whatever its options are. -/
theorem decodeSubscription_encode {subscription : Subscription}
    (h : ValidString subscription.topicFilter) :
    ∃ ns, encodeSubscription subscription = .ok ns ∧ AllBytes ns ∧
      ns.length = subscriptionSize subscription ∧ ns ≠ [] ∧
      ∀ rest, decodeSubscription (bytesOf ns ++ rest) =
        (do return (← readBack subscription, rest)) := by
  obtain ⟨ts, hts, htsb, htsl, htsr⟩ := encodeString_codes h
  obtain ⟨hbyte, hrap, hnone, hhandling, hqos⟩ := subscriptionOptions_bits subscription
  refine ⟨ts ++ [subscriptionOptions subscription], by simp [encodeSubscription, hts],
    by simp [htsb, hbyte], by simp [htsl, subscriptionSize], by simp, fun rest => ?_⟩
  have hread : decodeUint8 (UInt8.ofNat (subscriptionOptions subscription) :: rest) =
      .ok (subscriptionOptions subscription, rest) := by
    rw [decodeUint8, toNat_ofNat_of_lt hbyte]
  have hhandlingOf : enumOf .PROTOCOL_ERROR subscription.retainHandling.value =
      .ok subscription.retainHandling := enumOf_value _ _
  rw [bytesOf_append, bytesOf_cons, bytesOf_nil, List.append_assoc, List.cons_append,
    List.nil_append, decodeSubscription]
  simp only [htsr _, ok_bind, hread, hrap, hnone, hqos, hhandling]
  cases hlocal : subscription.noLocal with
  | true =>
    have hinvalid : (enumOf .PROTOCOL_ERROR 3 : Except Error QoS) =
        .error (.protocol (toString 3 ++ " is not a valid " ++ Enumeration.name QoS)) := rfl
    rw [if_pos rfl, hinvalid, readBack, if_pos hlocal]
    rfl
  | false =>
    have hqosOf : enumOf .PROTOCOL_ERROR subscription.maximumQos.value =
        .ok subscription.maximumQos := enumOf_value _ _
    rw [if_neg (by simp), hqosOf, readBack, if_neg (by simp [hlocal])]
    simp only [ok_bind, hhandlingOf]

theorem subscribeProps_valid {packet : SubscribePacket} (h : packet.WellFormed) :
    Template.Valid (subscribeProps packet) := by
  have hids : ∀ is ∈ packet.subscriptionIdentifier.map fun i => [i],
      ValidEntries (ValidNonzero 0x0fff_ffff) is := by
    intro is his
    obtain ⟨i, hi, rfl⟩ := Option.map_eq_some_iff.mp his
    exact ⟨by simp, by simpa using h.subscriptionIdentifier i hi⟩
  simp only [subscribeProps, Template.Valid, List.forall_mem_cons]
  exact ⟨hids, valid_if fun hne => ⟨hne, h.userProperties⟩, fun _ he => absurd he List.not_mem_nil⟩

/-- A SUBSCRIBE packet is written, and read back with its subscriptions read back. -/
theorem decodeSubscribePacket_encode {packet : SubscribePacket} (h : packet.WellFormed)
    (hsize : packet.size ≤ 0x0fff_ffff) :
    ∃ ns, encodeSubscribePacket packet = .ok ns ∧ AllBytes ns ∧ ns.length = packet.size ∧
      decodeSubscribePacket (bytesOf ns) = (do
        let subscriptions ← packet.subscriptions.mapM readBack
        if subscriptions = [] then throw (.protocol "invalid subscriptions length")
        return ({ packet with subscriptions := subscriptions }, [])) := by
  have hkeys : (subscribeProps packet).map Sigma.fst = subscribePropTypes := rfl
  have hnodup : subscribePropTypes.Nodup := by decide
  have hprops : propsLength (present (subscribeProps packet)) ≤ 0x0fff_ffff := by
    rw [SubscribePacket.size, templateSize, propsSize] at hsize
    omega
  have hwrite : ∃ ns, writeAll encodeSubscription packet.subscriptions = .ok ns ∧ AllBytes ns ∧
      ns.length = (packet.subscriptions.map subscriptionSize).sum :=
    exists_writeAll fun subscription hmem => by
      obtain ⟨ns, hns, hnsb, hnsl, _⟩ := decodeSubscription_encode (h.topicFilters _ hmem)
      exact ⟨ns, hns, hnsb, hnsl⟩
  obtain ⟨ss, hss, hssb, hssl⟩ := hwrite
  obtain ⟨is, his, hisb, hisl, hisr⟩ := encodeUint16_codes h.packetIdentifier
  obtain ⟨ps, hps, hpsb, hpsl, hpsr⟩ :=
    present_codes hkeys hnodup (fun _ ht => ht) (subscribeProps_valid h) hprops
  have hread : readAll decodeSubscription (bytesOf ss) = packet.subscriptions.mapM readBack :=
    readAll_mapM (fun subscription hmem => by
      obtain ⟨ns, hns, _, _, hne, hr⟩ := decodeSubscription_encode (h.topicFilters _ hmem)
      exact ⟨ns, hns, hne, hr⟩) hss
  have hget := get_present hkeys hnodup
  have hids : (present (subscribeProps packet)).get .SUBSCRIPTION_IDENTIFIER =
      packet.subscriptionIdentifier.map fun i => [i] := hget _
  have hpairs : ((present (subscribeProps packet)).get .USER_PROPERTY).getD List.nil =
      packet.userProperties := by
    rw [hget]
    exact getD_ite packet.userProperties []
  refine ⟨is ++ ps ++ ss, by simp [encodeSubscribePacket, his, hps, h.subscriptions, hss],
    by simp [hisb, hpsb, hssb], ?_, ?_⟩
  · simp [hisl, hpsl, hssl, SubscribePacket.size, templateSize]
    omega
  rw [bytesOf_append, bytesOf_append, List.append_assoc, decodeSubscribePacket]
  simp only [hisr _, ok_bind, hpsr _, hids, hread, hpairs]
  cases packet.subscriptionIdentifier with
  | none => rfl
  | some i => rfl

/-! ### Round trip -/

/-- A packet is decoded from what is written of it. -/
def RoundTripsPacket (packet : Packet) : Prop :=
  ∃ bs, encodePacket packet = .ok bs ∧ decodePacket bs = .ok packet

/-- Neither subscription identifiers nor the two options of a subscription that are
written with other bits than they are read with. -/
def Packet.Plain : Packet → Prop
  | .publish packet => packet.subscriptionIdentifiers = []
  | .subscribe packet => ∀ subscription ∈ packet.subscriptions,
      subscription.noLocal = false ∧ subscription.retainAsPublished = false
  | _ => True

theorem publish_roundTrips_iff {packet : PublishPacket} (h : packet.WellFormed)
    (hsize : packet.size ≤ 0x0fff_ffff) :
    RoundTripsPacket (.publish packet) ↔ packet.subscriptionIdentifiers = [] := by
  constructor
  · rintro ⟨bs, henc, _⟩
    by_contra hids
    have herror : encodePacketData (.publish packet) = .error (.exn .attributeError) :=
      encodePublishPacket_attributeError h hids
    simp [encodePacket, herror] at henc
  · intro hids
    obtain ⟨ns, hns, hnsb, hnsl, hnsr⟩ := encodePublishPacket_codes h hsize hids
    obtain ⟨bs, hbs⟩ := exists_encoded (.publish packet) rfl hsize
      ⟨ns, hns, hnsb, hnsl, by simp [decodePacketData, mapRead, hnsr]⟩
    exact ⟨bs, hbs.encoded, hbs.decoded⟩

theorem subscribe_roundTrips_iff {packet : SubscribePacket} (h : packet.WellFormed)
    (hsize : packet.size ≤ 0x0fff_ffff) :
    RoundTripsPacket (.subscribe packet) ↔ packet.subscriptions.mapM readBack =
      .ok packet.subscriptions := by
  obtain ⟨ns, hns, hnsb, hnsl, hnsr⟩ := decodeSubscribePacket_encode h hsize
  obtain ⟨bs, hbs⟩ := exists_written (.subscribe packet) rfl hsize hns hnsb hnsl
  have hdecode : decodePacket bs = (do
      let subscriptions ← packet.subscriptions.mapM readBack
      if subscriptions = [] then throw (.protocol "invalid subscriptions length")
      return .subscribe { packet with subscriptions := subscriptions }) := by
    rw [hbs.decoded, decodePacketData, decodeFixed, mapRead, hnsr]
    cases packet.subscriptions.mapM readBack with
    | error e => rfl
    | ok subscriptions => by_cases hempty : subscriptions = [] <;> simp [hempty]
  constructor
  · rintro ⟨bs', henc, hdec⟩
    obtain rfl : bs = bs' := by
      rw [hbs.encoded] at henc
      exact Except.ok.inj henc
    rw [hdecode] at hdec
    obtain ⟨subscriptions, hsubs, hdec⟩ := bind_eq_ok.mp hdec
    by_cases hempty : subscriptions = []
    · simp [hempty] at hdec
    · simp only [hempty, if_false, pure_eq_ok, Except.ok.injEq, Packet.subscribe.injEq] at hdec
      rw [hsubs, ← hdec]
  · intro hsubs
    refine ⟨bs, hbs.encoded, ?_⟩
    rw [hdecode, hsubs]
    simp [h.subscriptions]

/-- **A well-formed packet is decoded from what is written of it iff it is plain.** -/
theorem packet_roundTrips_iff {packet : Packet} (h : packet.WellFormed) :
    RoundTripsPacket packet ↔ packet.Plain := by
  by_cases hpublish : ∃ p, packet = .publish p
  · obtain ⟨p, rfl⟩ := hpublish
    exact publish_roundTrips_iff h.1 h.2
  by_cases hsubscribe : ∃ p, packet = .subscribe p
  · obtain ⟨p, rfl⟩ := hsubscribe
    rw [subscribe_roundTrips_iff h.1 h.2, mapM_eq_ok_self_iff]
    exact forall₂_congr fun subscription _ => readBack_eq_ok_self_iff subscription
  obtain ⟨bs, hbs⟩ := encoded_of_wellFormed h (fun p heq => hpublish ⟨p, heq⟩)
    fun p heq => hsubscribe ⟨p, heq⟩
  have hplain : packet.Plain := by
    cases packet with
    | publish p => exact absurd ⟨p, rfl⟩ hpublish
    | subscribe p => exact absurd ⟨p, rfl⟩ hsubscribe
    | _ => trivial
  exact ⟨fun _ => hplain, fun _ => ⟨bs, hbs.encoded, hbs.decoded⟩⟩

/-- A plain SUBSCRIBE packet. -/
def plainSubscribe : Packet :=
  .subscribe ⟨7, some 3, [("k", "v")], [⟨"a/b", .EXACLTY_ONCE, false, false, .DONT_SEND⟩]⟩

theorem plainSubscribe_roundTrips : RoundTripsPacket plainSubscribe ↔ plainSubscribe.Plain := by
  have hfields : plainSubscribe.FieldsWellFormed :=
    ⟨by decide, by decide, by decide, by decide, by decide⟩
  exact packet_roundTrips_iff ⟨hfields, by decide⟩

/-- A PUBLISH packet with a subscription identifier. -/
def identifiedPublish : Packet :=
  .publish ⟨false, .AT_MOST_ONCE, false, "a", none, none, none, none, none, [], [1], none,
    .bytes []⟩

/-- A SUBSCRIBE packet of a subscription without local messages. -/
def noLocalSubscribe : Packet :=
  .subscribe ⟨1, none, [], [⟨"a", .AT_MOST_ONCE, true, false, .SEND_ON_SUBSCRIBE⟩]⟩

/-- The first is not written, the second is written with a quality of service of 3. -/
theorem identified_and_noLocal_not_roundTrip :
    (identifiedPublish.WellFormed ∧ encodePacket identifiedPublish = .error (.exn .attributeError) ∧
      ¬ RoundTripsPacket identifiedPublish) ∧
    (noLocalSubscribe.WellFormed ∧
      encodePacket noLocalSubscribe = .ok [0x82, 7, 0, 1, 0, 0, 1, 97, 3] ∧
      decodePacket [0x82, 7, 0, 1, 0, 0, 1, 97, 3] = .error (.protocol "3 is not a valid QoS") ∧
      ¬ RoundTripsPacket noLocalSubscribe) := by
  have hpublish : encodePacket identifiedPublish = .error (.exn .attributeError) := by rfl
  have hsubscribe : encodePacket noLocalSubscribe = .ok [0x82, 7, 0, 1, 0, 0, 1, 97, 3] := by rfl
  have hdecode : decodePacket [0x82, 7, 0, 1, 0, 0, 1, 97, 3] =
      .error (.protocol "3 is not a valid QoS") := by rfl
  refine ⟨⟨⟨⟨by decide, by decide, by decide, by decide, by decide, by decide, by decide,
    by decide, by decide, by decide⟩, by decide⟩, hpublish, ?_⟩,
    ⟨⟨by decide, by decide, by decide, by decide, by decide⟩, by decide⟩, hsubscribe, hdecode, ?_⟩
  · rintro ⟨bs, henc, _⟩
    rw [hpublish] at henc
    cases henc
  · rintro ⟨bs, henc, hdec⟩
    rw [hsubscribe] at henc
    obtain rfl := Except.ok.inj henc
    rw [hdecode] at hdec
    cases hdec

end HatDrivers.Mqtt.Transport
