import HatDrivers.Mqtt.Transport.WellFormed

namespace HatDrivers.Mqtt.Transport

open HatDrivers.Lib

/-!
# MQTT — round trip

A well-formed packet is encoded in the bytes its size says and decoded from them.
The keys the encoder sets are a sublist of those of its template, each set once, and
what the decoder looks up is what the template has under the key (`get_present`).
-/

variable {t : PropertyType} {template : Template} {validPropTypes keys : List PropertyType}

/-! ### Templates -/

/-- Every key that is set has a valid value. -/
def Template.Valid (template : Template) : Prop := ∀ e ∈ template, ∀ prop ∈ e.2, e.1.Valid prop

theorem valid_if {c : Prop} [Decidable c] {prop : t.Value} (h : c → t.Valid prop) :
    ∀ prop' ∈ (if c then some prop else none), t.Valid prop' := by
  intro prop' hmem
  split at hmem
  · obtain rfl := Option.some.inj hmem
    exact h ‹_›
  · cases hmem

theorem keys_present_sublist (template : Template) :
    List.Sublist (present template).keys (template.map Sigma.fst) := by
  induction template with
  | nil => exact .slnil
  | cons e template ih =>
    obtain ⟨t, prop⟩ := e
    cases prop with
    | none => exact .cons _ ih
    | some prop => exact .cons_cons _ ih

theorem valid_of_mem_present (h : template.Valid) :
    ∀ p ∈ present template, p.1.Valid p.2 := by
  intro p hp
  obtain ⟨e, he, hprop⟩ := List.mem_filterMap.mp hp
  obtain ⟨prop, hmem, rfl⟩ := Option.map_eq_some_iff.mp hprop
  exact h e he prop hmem

/-- The properties of a template are read back. -/
theorem present_codes (hkeys : template.map Sigma.fst = keys) (hnodup : keys.Nodup)
    (hsub : ∀ t ∈ keys, t ∈ validPropTypes) (h : template.Valid)
    (hsize : propsLength (present template) ≤ 0x0fff_ffff) :
    CodesIn (propsSize (present template)) (encodeProps (present template))
      (decodeProps validPropTypes) (present template) := by
  have hlist := keys_present_sublist template
  rw [hkeys] at hlist
  exact encodeProps_codes (fun t ht => hsub t (hlist.subset ht)) (hlist.nodup hnodup)
    (valid_of_mem_present h) hsize

/-- A key is looked up in the template. -/
theorem get_present (hkeys : template.map Sigma.fst = keys) (hnodup : keys.Nodup)
    (t : PropertyType) : (present template).get t = (template.dlookup t).join := by
  subst hkeys
  induction template with
  | nil => rfl
  | cons e template ih =>
    obtain ⟨u, prop⟩ := e
    obtain ⟨hnew, htail⟩ := List.nodup_cons.mp hnodup
    by_cases h : t = u
    · obtain rfl := h
      cases prop with
      | none =>
        have hnone : template.dlookup t = none := by
          rw [List.dlookup_eq_none]
          exact hnew
        rw [List.dlookup_cons_eq]
        exact (ih htail).trans (by rw [hnone]; rfl)
      | some prop =>
        rw [List.dlookup_cons_eq]
        exact List.dlookup_cons_eq ..
    · rw [List.dlookup_cons_ne _ _ h, ← ih htail]
      cases prop with
      | none => rfl
      | some prop => exact List.dlookup_cons_ne _ ⟨u, prop⟩ h

/-! ### Values left out -/

theorem getD_ite {α : Type} [DecidableEq α] (x d : α) :
    (if x ≠ d then some x else none).getD d = x := by
  by_cases h : x = d <;> simp [h]

theorem boolOf_set (b : Bool) : boolOf (if b then some 1 else none) 0 = b := by
  cases b <;> rfl

theorem boolOf_cleared (b : Bool) : boolOf (if ¬ b then some 0 else none) 1 = b := by
  cases b <;> rfl

/-! ### Templates of the packets -/

private theorem valid_zero : ValidUint 1 0 := Nat.zero_le 1

private theorem valid_one : ValidUint 1 1 := Nat.le_refl 1

private theorem valid_nil {e : Σ t : PropertyType, Option t.Value} (h : e ∈ ([] : Template)) :
    ∀ prop ∈ e.2, e.1.Valid prop :=
  absurd h List.not_mem_nil

theorem valid_format (payload : Payload) : ∀ n ∈ payload.format, ValidUint 1 n := by
  intro n hn
  cases payload with
  | str s =>
    obtain rfl := Option.some.inj hn
    exact valid_one
  | bytes bs => cases hn

theorem willProps_valid {will : Will} (h : will.WellFormed) : Template.Valid (willProps will) := by
  simp only [willProps, Template.Valid, List.forall_mem_cons]
  exact ⟨valid_if fun _ => h.delayInterval, valid_format will.payload, h.messageExpiryInterval,
    h.contentType, h.responseTopic, h.correlationData, valid_if fun hne => ⟨hne, h.userProperties⟩,
    fun _ he => valid_nil he⟩

theorem connectProps_valid {packet : ConnectPacket} (h : packet.WellFormed) :
    Template.Valid (connectProps packet) := by
  simp only [connectProps, Template.Valid, List.forall_mem_cons]
  exact ⟨valid_if fun _ => h.sessionExpiryInterval, valid_if fun _ => h.receiveMaximum,
    h.maximumPacketSize, valid_if fun _ => h.topicAliasMaximum, valid_if fun _ => valid_one,
    valid_if fun _ => valid_zero, valid_if fun hne => ⟨hne, h.userProperties⟩,
    h.authenticationMethod, h.authenticationData, fun _ he => valid_nil he⟩

theorem connackProps_valid {packet : ConnAckPacket} (h : packet.WellFormed) :
    Template.Valid (connackProps packet) := by
  simp only [connackProps, Template.Valid, List.forall_mem_cons]
  exact ⟨h.sessionExpiryInterval, valid_if fun _ => h.receiveMaximum, valid_if fun hne => hne,
    valid_if fun _ => valid_zero, h.maximumPacketSize, h.assignedClientIdentifier,
    valid_if fun _ => h.topicAliasMaximum, h.reasonString,
    valid_if fun hne => ⟨hne, h.userProperties⟩, valid_if fun _ => valid_zero,
    valid_if fun _ => valid_zero, valid_if fun _ => valid_zero, h.serverKeepAlive,
    h.responseInformation, h.serverReference, h.authenticationMethod, h.authenticationData,
    fun _ he => valid_nil he⟩

theorem reasonProps_valid {reasonString : Option String} {userProperties : UserProperties}
    (hs : ∀ s ∈ reasonString, ValidString s) (hp : ValidPairs userProperties) :
    Template.Valid (reasonProps reasonString userProperties) := by
  simp only [reasonProps, Template.Valid, List.forall_mem_cons]
  exact ⟨hs, valid_if fun hne => ⟨hne, hp⟩, fun _ he => valid_nil he⟩

theorem unsubscribeProps_valid {packet : UnsubscribePacket} (h : packet.WellFormed) :
    Template.Valid (unsubscribeProps packet) := by
  simp only [unsubscribeProps, Template.Valid, List.forall_mem_cons]
  exact ⟨valid_if fun hne => ⟨hne, h.userProperties⟩, fun _ he => valid_nil he⟩

theorem disconnectProps_valid {packet : DisconnectPacket} (h : packet.WellFormed) :
    Template.Valid (disconnectProps packet) := by
  simp only [disconnectProps, Template.Valid, List.forall_mem_cons]
  exact ⟨h.sessionExpiryInterval, h.reasonString, valid_if fun hne => ⟨hne, h.userProperties⟩,
    h.serverReference, fun _ he => valid_nil he⟩

theorem authProps_valid {packet : AuthPacket} (h : packet.WellFormed) :
    Template.Valid (authProps packet) := by
  have hmethod : ∀ s ∈ some packet.authenticationMethod, ValidString s := by
    intro s hs
    obtain rfl := Option.some.inj hs
    exact h.authenticationMethod
  simp only [authProps, Template.Valid, List.forall_mem_cons]
  exact ⟨hmethod, h.authenticationData, h.reasonString,
    valid_if fun hne => ⟨hne, h.userProperties⟩, fun _ he => valid_nil he⟩

/-! ### Packets -/

/-- A packet written in `size` bytes, all of which its reader takes. -/
def CodesWhole {α : Type} (size : ℕ) (w : Except Error (List ℕ)) (r : ByteReader Error α) (a : α) :
    Prop :=
  ∃ ns, w = .ok ns ∧ AllBytes ns ∧ ns.length = size ∧ r (bytesOf ns) = .ok (a, [])

theorem whole_of_codesIn {α : Type} {size : ℕ} {w : Except Error (List ℕ)}
    {r : ByteReader Error α} {a : α} (h : CodesIn size w r a) : CodesWhole size w r a := by
  obtain ⟨ns, hw, hb, hl, hr⟩ := h
  have hread := hr []
  rw [List.append_nil] at hread
  exact ⟨ns, hw, hb, hl, hread⟩

theorem encodePayload_codes {payload : Payload} (h : payload.Valid) :
    CodesIn payload.size (encodePayload payload) (decodePayload (boolOf payload.format 0))
      payload := by
  cases payload with
  | str s =>
    obtain ⟨ns, hw, hb, hl, hr⟩ := encodeString_codes h
    exact ⟨ns, hw, hb, hl, hr.map Payload.str⟩
  | bytes bs =>
    obtain ⟨ns, hw, hb, hl, hr⟩ := encodeBinary_codes h
    exact ⟨ns, hw, hb, hl, hr.map Payload.bytes⟩

theorem encodeOptional_codes {α : Type} {w : ByteWriter Error α} {r : ByteReader Error α}
    {o : Option α} (size : α → ℕ) (h : ∀ a ∈ o, CodesIn (size a) (w a) r a) :
    CodesIn (optionalSize size o) (encodeOptional w o) (decodeOptional o.isSome r) o := by
  cases o with
  | none => exact ⟨[], rfl, allBytes_nil, rfl, fun rest => rfl⟩
  | some a =>
    obtain ⟨ns, hw, hb, hl, hr⟩ := h a rfl
    exact ⟨ns, hw, hb, hl, hr.map some⟩

theorem encodeWill_codes {will : Will} (h : will.WellFormed) (hsize : will.size ≤ 0x0fff_ffff) :
    CodesIn will.size (encodeWill will) (decodeWill will.qos will.retain) will := by
  have hkeys : (willProps will).map Sigma.fst = willPropTypes := rfl
  have hnodup : willPropTypes.Nodup := by decide
  have hprops : propsLength (present (willProps will)) ≤ 0x0fff_ffff := by
    rw [Will.size, templateSize, propsSize] at hsize
    omega
  obtain ⟨ps, hps, hpsb, hpsl, hpsr⟩ :=
    present_codes hkeys hnodup (fun _ ht => ht) (willProps_valid h) hprops
  obtain ⟨ts, hts, htsb, htsl, htsr⟩ := encodeString_codes h.topic
  obtain ⟨ls, hls, hlsb, hlsl, hlsr⟩ := encodePayload_codes h.payload
  have hget := get_present hkeys hnodup
  have hformat : (present (willProps will)).get .PAYLOAD_FORMAT_INDICATOR = will.payload.format :=
    hget _
  refine ⟨ps ++ ts ++ ls, by simp [encodeWill, hps, hts, hls], by simp [hpsb, htsb, hlsb],
    by simp [hpsl, htsl, hlsl, Will.size, templateSize, Nat.add_assoc], fun rest => ?_⟩
  rw [bytesOf_append, bytesOf_append, List.append_assoc, List.append_assoc, decodeWill]
  simp only [hpsr (bytesOf ts ++ (bytesOf ls ++ rest)), ok_bind, htsr (bytesOf ls ++ rest),
    hformat, hlsr rest, hget]
  refine congrArg (fun will => Except.ok (will, rest)) ?_
  exact Will.ext rfl rfl (getD_ite _ _) rfl rfl rfl rfl (getD_ite _ _) rfl rfl

/-- The flags of CONNECT are the bits of one byte. -/
theorem connectFlags_bits (packet : ConnectPacket) :
    connectFlags packet < 256 ∧
      bit (connectFlags packet) 0x02 = packet.cleanStart ∧
      bit (connectFlags packet) 0x04 = packet.will.isSome ∧
      bit (connectFlags packet) 0x20 = packet.will.any Will.retain ∧
      bit (connectFlags packet) 0x80 = packet.userName.isSome ∧
      bit (connectFlags packet) 0x40 = packet.password.isSome ∧
      (connectFlags packet >>> 3) &&& 0x03 =
        ((packet.will.map Will.qos).getD QoS.AT_MOST_ONCE).value := by
  have hfinite : ∀ clean some retain user password : Bool, ∀ qos : QoS,
      (some = true ∨ retain = false ∧ qos = .AT_MOST_ONCE) →
      let flags := (if clean then 0x02 else 0x00) ||| (if some then 0x04 else 0x00) |||
        (qos.value <<< 3) ||| (if retain then 0x20 else 0x00) ||| (if user then 0x80 else 0x00) |||
        (if password then 0x40 else 0x00)
      flags < 256 ∧ bit flags 0x02 = clean ∧ bit flags 0x04 = some ∧ bit flags 0x20 = retain ∧
        bit flags 0x80 = user ∧ bit flags 0x40 = password ∧ (flags >>> 3) &&& 0x03 = qos.value := by
    intro clean some retain user password qos
    cases qos <;> revert clean some retain user password <;> decide
  cases hwill : packet.will with
  | none =>
    have h := hfinite packet.cleanStart false false packet.userName.isSome
      packet.password.isSome .AT_MOST_ONCE (.inr ⟨rfl, rfl⟩)
    rw [connectFlags, hwill]
    exact h
  | some will =>
    have h := hfinite packet.cleanStart true will.retain packet.userName.isSome
      packet.password.isSome will.qos (.inl rfl)
    rw [connectFlags, hwill]
    exact h

theorem encodeConnectPacket_codes {packet : ConnectPacket} (h : packet.WellFormed)
    (hsize : packet.size ≤ 0x0fff_ffff) :
    CodesIn packet.size (encodeConnectPacket packet) decodeConnectPacket packet := by
  have hkeys : (connectProps packet).map Sigma.fst = connectPropTypes := rfl
  have hnodup : connectPropTypes.Nodup := by decide
  have hprops : propsLength (present (connectProps packet)) ≤ 0x0fff_ffff := by
    rw [ConnectPacket.size, templateSize, propsSize] at hsize
    omega
  have hwill : ∀ will ∈ packet.will, will.size ≤ 0x0fff_ffff := by
    intro will hmem
    rw [ConnectPacket.size, Option.mem_def.mp hmem, optionalSize] at hsize
    omega
  obtain ⟨flagsByte, hclean, hwillFlag, hretain, huserFlag, hpasswordFlag, hqos⟩ :=
    connectFlags_bits packet
  obtain ⟨ns, hns, hnsb, hnsl, hnsr⟩ := encodeString_codes (show ValidString "MQTT" by decide)
  obtain ⟨ks, hks, hksb, hksl, hksr⟩ := encodeUint16_codes h.keepAlive
  obtain ⟨ps, hps, hpsb, hpsl, hpsr⟩ :=
    present_codes hkeys hnodup (fun _ ht => ht) (connectProps_valid h) hprops
  obtain ⟨is, his, hisb, hisl, hisr⟩ := encodeString_codes h.clientIdentifier
  obtain ⟨ws, hws, hwsb, hwsl, hwsr⟩ := encodeOptional_codes (o := packet.will)
    (w := encodeWill)
    (r := decodeWill ((packet.will.map Will.qos).getD .AT_MOST_ONCE) (packet.will.any Will.retain))
    Will.size fun will hmem => by
      have hcodes := encodeWill_codes (h.will will hmem) (hwill will hmem)
      rw [Option.mem_def.mp hmem]
      exact hcodes
  obtain ⟨us, hus, husb, husl, husr⟩ := encodeOptional_codes (o := packet.userName)
    stringSize fun s hs => encodeString_codes (h.userName s hs)
  obtain ⟨ss, hss, hssb, hssl, hssr⟩ := encodeOptional_codes (o := packet.password)
    binarySize fun bs hbs => encodeBinary_codes (h.password bs hbs)
  have hget := get_present hkeys hnodup
  have hmethod : (present (connectProps packet)).get .AUTHENTICATION_METHOD =
      packet.authenticationMethod := hget _
  have hdata : (present (connectProps packet)).get .AUTHENTICATION_DATA =
      packet.authenticationData := hget _
  have hauth : ¬ (packet.authenticationMethod.isNone ∧ packet.authenticationData.isSome) := by
    rintro ⟨hnone, hsome⟩
    have := h.authentication hsome
    rw [Option.isNone_iff_eq_none.mp hnone] at this
    cases this
  refine ⟨ns ++ [5, connectFlags packet] ++ ks ++ ps ++ is ++ ws ++ us ++ ss,
    by simp [encodeConnectPacket, hns, hks, hps, his, hws, hus, hss],
    by simp [hnsb, hksb, hpsb, hisb, hwsb, husb, hssb, flagsByte], ?_, fun rest => ?_⟩
  · have hname : stringSize "MQTT" = 6 := by decide
    simp only [List.length_append, List.length_cons, List.length_nil, hnsl, hksl, hpsl, hisl, hwsl,
      husl, hssl, hname, ConnectPacket.size, templateSize]
  · have hversion : (UInt8.ofNat 5).toNat = 5 := rfl
    simp only [bytesOf_append, bytesOf_cons, List.append_assoc, List.cons_append, List.nil_append]
    rw [decodeConnectPacket]
    simp only [hnsr _, ok_bind, decodeUint8, hversion, ne_eq, not_true_eq_false, if_false,
      toNat_ofNat_of_lt flagsByte, hclean, hwillFlag, hretain, huserFlag, hpasswordFlag, hqos,
      hksr _, hpsr _, hmethod, hdata, hisr _, hwsr _, husr _, hssr rest, hget,
      ← QoS.enumeration_value, enumOf_value]
    refine (if_neg hauth).trans ?_
    refine congrArg (fun packet => Except.ok (packet, rest)) ?_
    exact ConnectPacket.ext rfl rfl (getD_ite _ _) (getD_ite _ _) rfl (getD_ite _ _)
      (boolOf_set _) (boolOf_cleared _) (getD_ite _ _) rfl rfl rfl rfl rfl rfl

theorem encodeConnackPacket_codes {packet : ConnAckPacket} (h : packet.WellFormed)
    (hsize : packet.size ≤ 0x0fff_ffff) :
    CodesIn packet.size (encodeConnackPacket packet) decodeConnackPacket packet := by
  have hkeys : (connackProps packet).map Sigma.fst = connackPropTypes := rfl
  have hnodup : connackPropTypes.Nodup := by decide
  have hprops : propsLength (present (connackProps packet)) ≤ 0x0fff_ffff := by
    rw [ConnAckPacket.size, templateSize, propsSize] at hsize
    omega
  obtain ⟨rs, hrs, hrsb, hrsl, hrsr⟩ := encodeReason_codes packet.reason
  obtain ⟨ps, hps, hpsb, hpsl, hpsr⟩ :=
    present_codes hkeys hnodup (fun _ ht => ht) (connackProps_valid h) hprops
  have hget := get_present hkeys hnodup
  have hflag : (if packet.sessionPresent then 1 else 0) < 256 ∧
      bit (if packet.sessionPresent then 1 else 0) 0x01 = packet.sessionPresent := by
    cases packet.sessionPresent <;> decide
  refine ⟨[if packet.sessionPresent then 1 else 0] ++ rs ++ ps,
    by simp [encodeConnackPacket, hrs, hps], by simp [hrsb, hpsb, hflag.1], ?_, fun rest => ?_⟩
  · simp [hrsl, hpsl, ConnAckPacket.size, templateSize]
    omega
  · rw [bytesOf_append, bytesOf_append, List.append_assoc, List.append_assoc, bytesOf_cons,
      List.cons_append, decodeConnackPacket]
    simp only [decodeUint8, ok_bind, bytesOf_nil, List.nil_append, hrsr (bytesOf ps ++ rest),
      hpsr rest, toNat_ofNat_of_lt hflag.1, hflag.2, hget]
    refine congrArg (fun packet => Except.ok (packet, rest)) ?_
    exact ConnAckPacket.ext rfl rfl rfl (getD_ite _ _) (getD_ite _ _) (boolOf_cleared _) rfl rfl
      (getD_ite _ _) rfl (getD_ite _ _) (boolOf_cleared _) (boolOf_cleared _) (boolOf_cleared _)
      rfl rfl rfl rfl rfl

/-- PUBACK, PUBREC, PUBREL and PUBCOMP. -/
theorem encodeReasonPacket_codes {packet : ReasonPacket} (h : packet.WellFormed)
    (hsize : packet.size ≤ 0x0fff_ffff) :
    CodesIn packet.size (encodeReasonPacket packet) decodeReasonPacket packet := by
  have hkeys : (reasonProps packet.reasonString packet.userProperties).map Sigma.fst =
      reasonPropTypes := rfl
  have hnodup : reasonPropTypes.Nodup := by decide
  have hprops : propsLength (present (reasonProps packet.reasonString packet.userProperties)) ≤
      0x0fff_ffff := by
    rw [ReasonPacket.size, templateSize, propsSize] at hsize
    omega
  obtain ⟨is, his, hisb, hisl, hisr⟩ := encodeUint16_codes h.packetIdentifier
  obtain ⟨rs, hrs, hrsb, hrsl, hrsr⟩ := encodeReason_codes packet.reason
  obtain ⟨ps, hps, hpsb, hpsl, hpsr⟩ := present_codes hkeys hnodup (fun _ ht => ht)
    (reasonProps_valid h.reasonString h.userProperties) hprops
  have hget := get_present hkeys hnodup
  refine ⟨is ++ rs ++ ps, by simp [encodeReasonPacket, his, hrs, hps],
    by simp [hisb, hrsb, hpsb], ?_, fun rest => ?_⟩
  · simp [hisl, hrsl, hpsl, ReasonPacket.size, templateSize]
    omega
  · rw [bytesOf_append, bytesOf_append, List.append_assoc, List.append_assoc, decodeReasonPacket]
    simp only [hisr (bytesOf rs ++ (bytesOf ps ++ rest)), ok_bind, hrsr (bytesOf ps ++ rest),
      hpsr rest, hget]
    refine congrArg (fun packet => Except.ok (packet, rest)) ?_
    exact ReasonPacket.ext rfl rfl rfl (getD_ite _ _)

/-- SUBACK and UNSUBACK. -/
theorem encodeReasonsPacket_codes {packet : ReasonsPacket} (h : packet.WellFormed)
    (hsize : packet.size ≤ 0x0fff_ffff) :
    CodesWhole packet.size (encodeReasonsPacket packet) decodeReasonsPacket packet := by
  have hkeys : (reasonProps packet.reasonString packet.userProperties).map Sigma.fst =
      reasonPropTypes := rfl
  have hnodup : reasonPropTypes.Nodup := by decide
  have hprops : propsLength (present (reasonProps packet.reasonString packet.userProperties)) ≤
      0x0fff_ffff := by
    rw [ReasonsPacket.size, templateSize, propsSize] at hsize
    omega
  obtain ⟨is, his, hisb, hisl, hisr⟩ := encodeUint16_codes h.packetIdentifier
  obtain ⟨ps, hps, hpsb, hpsl, hpsr⟩ := present_codes hkeys hnodup (fun _ ht => ht)
    (reasonProps_valid h.reasonString h.userProperties) hprops
  obtain ⟨rs, hrs, hrsb, hrsl, hrsr⟩ := readAll_codes (fun _ => 1)
    fun reason (_ : reason ∈ packet.reasons) => ⟨encodeReason_codes reason, Nat.one_pos⟩
  have hget := get_present hkeys hnodup
  refine ⟨is ++ ps ++ rs, by simp [encodeReasonsPacket, his, hrs, hps, h.reasons],
    by simp [hisb, hrsb, hpsb], ?_, ?_⟩
  · simp [hisl, hrsl, hpsl, ReasonsPacket.size, templateSize]
    omega
  · rw [bytesOf_append, bytesOf_append, List.append_assoc, decodeReasonsPacket]
    simp only [hisr (bytesOf ps ++ bytesOf rs), ok_bind, hpsr (bytesOf rs), hrsr, h.reasons,
      if_false, hget]
    refine congrArg (fun packet => Except.ok (packet, [])) ?_
    exact ReasonsPacket.ext rfl rfl (getD_ite _ _) rfl

theorem encodeUnsubscribePacket_codes {packet : UnsubscribePacket} (h : packet.WellFormed)
    (hsize : packet.size ≤ 0x0fff_ffff) :
    CodesWhole packet.size (encodeUnsubscribePacket packet) decodeUnsubscribePacket packet := by
  have hkeys : (unsubscribeProps packet).map Sigma.fst = unsubscribePropTypes := rfl
  have hnodup : unsubscribePropTypes.Nodup := by decide
  have hprops : propsLength (present (unsubscribeProps packet)) ≤ 0x0fff_ffff := by
    rw [UnsubscribePacket.size, templateSize, propsSize] at hsize
    omega
  obtain ⟨is, his, hisb, hisl, hisr⟩ := encodeUint16_codes h.packetIdentifier
  obtain ⟨ps, hps, hpsb, hpsl, hpsr⟩ :=
    present_codes hkeys hnodup (fun _ ht => ht) (unsubscribeProps_valid h) hprops
  obtain ⟨fs, hfs, hfsb, hfsl, hfsr⟩ := readAll_codes stringSize
    fun s (hs : s ∈ packet.topicFilters) => ⟨encodeString_codes (h.topicFilters s hs), by
      rw [stringSize]
      omega⟩
  have hget := get_present hkeys hnodup
  refine ⟨is ++ ps ++ fs, by simp [encodeUnsubscribePacket, his, hfs, hps, h.nonempty],
    by simp [hisb, hfsb, hpsb], ?_, ?_⟩
  · simp [hisl, hfsl, hpsl, UnsubscribePacket.size, templateSize]
    omega
  · rw [bytesOf_append, bytesOf_append, List.append_assoc, decodeUnsubscribePacket]
    simp only [hisr (bytesOf ps ++ bytesOf fs), ok_bind, hpsr (bytesOf fs), hfsr, h.nonempty,
      if_false, hget]
    refine congrArg (fun packet => Except.ok (packet, [])) ?_
    exact UnsubscribePacket.ext rfl (getD_ite _ _) rfl

theorem encodeDisconnectPacket_codes {packet : DisconnectPacket} (h : packet.WellFormed)
    (hsize : packet.size ≤ 0x0fff_ffff) :
    CodesIn packet.size (encodeDisconnectPacket packet) decodeDisconnectPacket packet := by
  have hkeys : (disconnectProps packet).map Sigma.fst = disconnectPropTypes := rfl
  have hnodup : disconnectPropTypes.Nodup := by decide
  have hprops : propsLength (present (disconnectProps packet)) ≤ 0x0fff_ffff := by
    rw [DisconnectPacket.size, templateSize, propsSize] at hsize
    omega
  obtain ⟨rs, hrs, hrsb, hrsl, hrsr⟩ := encodeReason_codes packet.reason
  obtain ⟨ps, hps, hpsb, hpsl, hpsr⟩ :=
    present_codes hkeys hnodup (fun _ ht => ht) (disconnectProps_valid h) hprops
  have hget := get_present hkeys hnodup
  refine ⟨rs ++ ps, by simp [encodeDisconnectPacket, hrs, hps], by simp [hrsb, hpsb],
    by simp [hrsl, hpsl, DisconnectPacket.size, templateSize], fun rest => ?_⟩
  rw [bytesOf_append, List.append_assoc, decodeDisconnectPacket]
  simp only [hrsr (bytesOf ps ++ rest), ok_bind, hpsr rest, hget]
  refine congrArg (fun packet => Except.ok (packet, rest)) ?_
  exact DisconnectPacket.ext rfl rfl rfl (getD_ite _ _) rfl

theorem encodeAuthPacket_codes {packet : AuthPacket} (h : packet.WellFormed)
    (hsize : packet.size ≤ 0x0fff_ffff) :
    CodesIn packet.size (encodeAuthPacket packet) decodeAuthPacket packet := by
  have hkeys : (authProps packet).map Sigma.fst = authPropTypes := rfl
  have hnodup : authPropTypes.Nodup := by decide
  have hprops : propsLength (present (authProps packet)) ≤ 0x0fff_ffff := by
    rw [AuthPacket.size, templateSize, propsSize] at hsize
    omega
  obtain ⟨rs, hrs, hrsb, hrsl, hrsr⟩ := encodeReason_codes packet.reason
  obtain ⟨ps, hps, hpsb, hpsl, hpsr⟩ :=
    present_codes hkeys hnodup (fun _ ht => ht) (authProps_valid h) hprops
  have hget := get_present hkeys hnodup
  have hmethod : (present (authProps packet)).get .AUTHENTICATION_METHOD =
      some packet.authenticationMethod := hget _
  refine ⟨rs ++ ps, by simp [encodeAuthPacket, hrs, hps], by simp [hrsb, hpsb],
    by simp [hrsl, hpsl, AuthPacket.size, templateSize], fun rest => ?_⟩
  rw [bytesOf_append, List.append_assoc, decodeAuthPacket]
  simp only [hrsr (bytesOf ps ++ rest), ok_bind, hpsr rest, hmethod, hget]
  refine congrArg (fun packet => Except.ok (packet, rest)) ?_
  exact AuthPacket.ext rfl rfl rfl rfl (getD_ite _ _)

/-! ### Fixed headers -/

theorem headerByte_bits (packetType : PacketType) (duplicate : Bool) (qos : QoS) (retain : Bool) :
    let header := headerByte packetType duplicate qos retain
    header < 256 ∧ header >>> 4 = packetType.value ∧ bit header 0x08 = duplicate ∧
      bit header 0x01 = retain ∧ (header >>> 1) &&& 0x03 = qos.value := by
  cases packetType <;> cases qos <;> revert duplicate retain <;> decide

/-- The size is found as soon as the last group of the remaining length is there. -/
theorem getNextPacketSizeLoop_varint {fuel i n : ℕ} (hn : n < 2 ^ (fuel * 7)) (hfuel : 0 < fuel)
    (data tail : Bytes) :
    getNextPacketSizeLoop data fuel i (bytesOf (varint fuel n) ++ tail) = (do
      let (remainingLen, _) ← decodeUintvar (data.drop 1)
      return 1 + i + (varint fuel n).length + remainingLen) := by
  induction fuel generalizing n i with
  | zero => omega
  | succ fuel ih =>
    rw [varint_succ]
    by_cases h : n < 128
    · have hlast : ¬ (UInt8.ofNat n).toNat &&& 0x80 ≠ 0 := by
        rw [toNat_ofNat_of_lt (by omega), (group_bits (show n < 256 by omega)).2]
        omega
      rw [if_pos h, bytesOf_cons, List.cons_append, getNextPacketSizeLoop, if_neg hlast]
      simp only [List.length_cons, List.length_nil]
      rw [show 2 + i = 1 + i + (0 + 1) by omega]
    · have hmarked : (UInt8.ofNat (n % 128 + 128)).toNat &&& 0x80 ≠ 0 := by
        rw [toNat_ofNat_of_lt (by omega), (group_bits (show n % 128 + 128 < 256 by omega)).2]
        omega
      have hpow : 2 ^ ((fuel + 1) * 7) = 2 ^ (fuel * 7) * 128 := by
        rw [Nat.add_mul, Nat.pow_add]
      have hfuel' : 0 < fuel := by
        by_contra h0
        obtain rfl : fuel = 0 := by omega
        omega
      rw [if_neg h, bytesOf_cons, List.cons_append, getNextPacketSizeLoop, if_pos hmarked,
        ih (by omega) hfuel', List.length_cons,
        show 1 + (i + 1) + (varint fuel (n / 128)).length =
          1 + i + ((varint fuel (n / 128)).length + 1) by omega]

/-- What is written of a packet with the data `ds`: the packet is decoded as its data is. -/
structure Written (packet : Packet) (packetType : PacketType) (duplicate : Bool) (qos : QoS)
    (retain : Bool) (ds : List ℕ) (bs : Bytes) : Prop where
  encoded : encodePacket packet = .ok bs
  length : bs.length = 1 + uintvarSize packet.size + packet.size
  nextSize : ∀ data, bs.take (1 + uintvarSize packet.size) <+: data →
    getNextPacketSize data = .ok bs.length
  decoded : decodePacket bs = (do
    let (packet, data) ← decodePacketData packetType duplicate qos retain (bytesOf ds)
    if data ≠ [] then throw (.malformed "excess packet data")
    return packet)

theorem exists_written (packet : Packet) {packetType : PacketType} {duplicate retain : Bool}
    {qos : QoS} {ds : List ℕ} (hheader : packetHeader packet = (packetType, duplicate, qos, retain))
    (hsize : packet.size ≤ 0x0fff_ffff) (hds : encodePacketData packet = .ok ds)
    (hdsb : AllBytes ds) (hdsl : ds.length = packet.size) :
    ∃ bs, Written packet packetType duplicate qos retain ds bs := by
  obtain ⟨vs, hvs, hvsb, hvsl, hvsr⟩ := encodeUintvar_codes hsize
  obtain ⟨hbyte, htype, hduplicate, hretain, hqos⟩ :=
    headerByte_bits packetType duplicate qos retain
  have hpos : 0 < uintvarSize packet.size := length_varint_pos 3 packet.size
  have hvarint : vs = varint 4 packet.size := by
    rw [encodeUintvar, if_neg (by omega)] at hvs
    exact (Except.ok.inj hvs).symm
  let hs := headerByte packetType duplicate qos retain :: vs
  have hns : AllBytes (hs ++ ds) := by simp [hs, hbyte, hvsb, hdsb]
  have hlen : hs.length = 1 + uintvarSize packet.size := by
    simp [hs, hvsl]
    omega
  have hdrop : ∀ tail, (bytesOf hs ++ tail).drop 1 = bytesOf vs ++ tail := fun tail => rfl
  refine ⟨bytesOf (hs ++ ds), ?_, by simp [hlen, hdsl], ?_, ?_⟩
  · simp only [encodePacket, hheader, hds, ok_bind, hdsl, hvs]
    rw [toBytes_eq_ok.mpr ⟨hns, rfl⟩]
    rfl
  · rintro data ⟨tail, rfl⟩
    rw [bytesOf_append, take_bytesOf_append hlen]
    have hlong : ¬ (bytesOf hs ++ tail).length < 2 := by
      simp [hlen]
      omega
    rw [getNextPacketSize, if_neg hlong, hdrop, hvarint,
      getNextPacketSizeLoop_varint (by omega) (by omega), ← hvarint, hdrop, hvsr tail]
    simp [hlen, hvsl, hdsl]
  · have hlong : ¬ (bytesOf (hs ++ ds)).length < 2 := by
      simp [hlen]
      omega
    have hfirst : byteAt (bytesOf (hs ++ ds)) 0 =
        .ok (headerByte packetType duplicate qos retain) := by
      rw [show bytesOf (hs ++ ds) = UInt8.ofNat (headerByte packetType duplicate qos retain) ::
        bytesOf (vs ++ ds) from rfl, byteAt_cons_zero, toNat_ofNat_of_lt hbyte]
    have hmember : enumOf .MALFORMED_PACKET packetType.value = .ok packetType := enumOf_value _ _
    rw [decodePacket, if_neg hlong, hfirst, bytesOf_append, hdrop]
    simp only [Except.mapError, ok_bind, htype, hmember, hduplicate, hretain, hqos,
      ← QoS.enumeration_value, enumOf_value, hvsr (bytesOf ds), length_bytesOf, hdsl,
      ne_eq, not_true_eq_false, if_false]

/-- A packet that is decoded from what is written of it. -/
structure Encoded (packet : Packet) (bs : Bytes) : Prop where
  encoded : encodePacket packet = .ok bs
  /-- the size is known from the fixed header on, whatever follows it -/
  nextSize : ∀ data, bs.take (1 + uintvarSize packet.size) <+: data →
    getNextPacketSize data = .ok bs.length
  decoded : decodePacket bs = .ok packet

theorem exists_encoded (packet : Packet) {packetType : PacketType} {duplicate retain : Bool}
    {qos : QoS} (hheader : packetHeader packet = (packetType, duplicate, qos, retain))
    (hsize : packet.size ≤ 0x0fff_ffff)
    (hcodes : CodesWhole packet.size (encodePacketData packet)
      (decodePacketData packetType duplicate qos retain) packet) :
    ∃ bs, Encoded packet bs := by
  obtain ⟨ds, hds, hdsb, hdsl, hdsr⟩ := hcodes
  obtain ⟨bs, hbs⟩ := exists_written packet hheader hsize hds hdsb hdsl
  refine ⟨bs, hbs.encoded, hbs.nextSize, ?_⟩
  rw [hbs.decoded, hdsr]
  rfl

/-- The data of a packet whose flags are fixed. -/
theorem codesWhole_fixed {α : Type} {size : ℕ} {w : Except Error (List ℕ)} {r : ByteReader Error α}
    {a : α} (qos : QoS) (f : α → Packet) (h : CodesWhole size w r a) :
    CodesWhole size w (decodeFixed qos false qos false (mapRead f r)) (f a) := by
  obtain ⟨ns, hw, hb, hl, hr⟩ := h
  exact ⟨ns, hw, hb, hl, by simp [decodeFixed, mapRead, hr]⟩

/-- **Every well-formed packet but PUBLISH and SUBSCRIBE is decoded from what is written
of it**, and its length is known from the fixed header on. -/
theorem encoded_of_wellFormed {packet : Packet} (h : packet.WellFormed)
    (hpublish : ∀ p, packet ≠ .publish p) (hsubscribe : ∀ p, packet ≠ .subscribe p) :
    ∃ bs, Encoded packet bs := by
  obtain ⟨hfields, hsize⟩ := h
  cases packet with
  | connect packet =>
    have hcodes := whole_of_codesIn (encodeConnectPacket_codes hfields hsize)
    exact exists_encoded _ rfl hsize (codesWhole_fixed .AT_MOST_ONCE .connect hcodes)
  | connack packet =>
    have hcodes := whole_of_codesIn (encodeConnackPacket_codes hfields hsize)
    exact exists_encoded _ rfl hsize (codesWhole_fixed .AT_MOST_ONCE .connack hcodes)
  | publish packet => exact absurd rfl (hpublish packet)
  | puback packet =>
    have hcodes := whole_of_codesIn (encodeReasonPacket_codes hfields hsize)
    exact exists_encoded _ rfl hsize (codesWhole_fixed .AT_MOST_ONCE .puback hcodes)
  | pubrec packet =>
    have hcodes := whole_of_codesIn (encodeReasonPacket_codes hfields hsize)
    exact exists_encoded _ rfl hsize (codesWhole_fixed .AT_MOST_ONCE .pubrec hcodes)
  | pubrel packet =>
    have hcodes := whole_of_codesIn (encodeReasonPacket_codes hfields hsize)
    exact exists_encoded _ rfl hsize (codesWhole_fixed .AT_LEAST_ONCE .pubrel hcodes)
  | pubcomp packet =>
    have hcodes := whole_of_codesIn (encodeReasonPacket_codes hfields hsize)
    exact exists_encoded _ rfl hsize (codesWhole_fixed .AT_MOST_ONCE .pubcomp hcodes)
  | subscribe packet => exact absurd rfl (hsubscribe packet)
  | suback packet =>
    have hcodes := encodeReasonsPacket_codes hfields hsize
    exact exists_encoded _ rfl hsize (codesWhole_fixed .AT_MOST_ONCE .suback hcodes)
  | unsubscribe packet =>
    have hcodes := encodeUnsubscribePacket_codes hfields hsize
    exact exists_encoded _ rfl hsize (codesWhole_fixed .AT_LEAST_ONCE .unsubscribe hcodes)
  | unsuback packet =>
    have hcodes := encodeReasonsPacket_codes hfields hsize
    exact exists_encoded _ rfl hsize (codesWhole_fixed .AT_MOST_ONCE .unsuback hcodes)
  | pingreq => exact exists_encoded _ rfl hsize ⟨[], rfl, allBytes_nil, rfl, rfl⟩
  | pingresp => exact exists_encoded _ rfl hsize ⟨[], rfl, allBytes_nil, rfl, rfl⟩
  | disconnect packet =>
    have hcodes := whole_of_codesIn (encodeDisconnectPacket_codes hfields hsize)
    exact exists_encoded _ rfl hsize (codesWhole_fixed .AT_MOST_ONCE .disconnect hcodes)
  | auth packet =>
    have hcodes := whole_of_codesIn (encodeAuthPacket_codes hfields hsize)
    exact exists_encoded _ rfl hsize (codesWhole_fixed .AT_MOST_ONCE .auth hcodes)

/-- A CONNECT packet with a will, credentials and repeated properties. -/
theorem encoded_connect :
    ∃ bs, Encoded (.connect ⟨true, 60, 30, 10, some 4096, 0, true, false, [("a", "1"), ("a", "2")],
      none, none, "client", some ⟨.EXACLTY_ONCE, true, 5, none, some "text", none, some [1, 2], [],
        "topic", .str "gone"⟩, some "user", some [0, 255]⟩) bs :=
  encoded_of_wellFormed
    ⟨{ keepAlive := by decide
       sessionExpiryInterval := by decide
       receiveMaximum := by decide
       maximumPacketSize := by decide
       topicAliasMaximum := by decide
       userProperties := by decide
       authenticationMethod := by decide
       authenticationData := by decide
       authentication := by decide
       clientIdentifier := by decide
       will := by
         intro will hwill
         obtain rfl := Option.some.inj hwill
         exact ⟨by decide, by decide, by decide, by decide, by decide, by decide, by decide,
           by decide⟩
       userName := by decide
       password := by decide }, by decide⟩
    (by simp) (by simp)

end HatDrivers.Mqtt.Transport
