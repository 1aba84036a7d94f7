import HatDrivers.Mqtt.Client
import HatDrivers.Mqtt.Transport.Publish

namespace HatDrivers.Mqtt

open HatDrivers.Lib HatDrivers.Mqtt.Transport

/-!
# MQTT — the receive loop of a client

The loop takes the packets of the server one at a time: it passes messages to the callback,
answers them, and hands acknowledgements to the registry.  An exception ends it, and with it
the client.

Beside it stands what a server relies on: every message of quality of service 1 or 2 and
every PUBREL is answered, and a message of quality of service 2 is passed on once, however
often its PUBLISH comes before the PUBREL.
-/

/-- Why the receive loop ended. -/
inductive Stop
  /-- the server closed the connection with DISCONNECT -/
  | disconnected
  | connectionError
  | mqttError (reason : Reason) (description : String)
  | exception (e : Exn)
  /-- the `UnboundLocalError` of a variable without a value -/
  | unboundLocalError
  deriving DecidableEq

/-- The handler of the loop that takes the exception. -/
def Stop.ofError : Error → Stop
  | .exn .connectionError => .connectionError
  | .mqttError reason description => .mqttError reason description
  | .exn e => .exception e

/-- A packet of the server, with the registry at that time and what the callback raises for
it, if it raises. -/
structure Received where
  packet : Packet
  registry : IdentifierRegistry
  raised : Option Error

structure Receiver where
  /-- is there a callback? -/
  msgCb : Bool
  messages : List Msg
  sent : List Packet
  stop : Option Stop
  deriving DecidableEq

/-- The message that is passed to the callback. -/
def messageOf (packet : PublishPacket) : Msg where
  topic := packet.topicName
  payload := packet.payload
  qos := packet.qos
  retain := packet.retain
  messageExpiryInterval := packet.messageExpiryInterval
  responseTopic := packet.responseTopic
  correlationData := packet.correlationData
  userProperties := packet.userProperties
  contentType := packet.contentType

/-- An acknowledgement with `Reason.SUCCESS`. -/
def successPacket (packetIdentifier : ℕ) : ReasonPacket := ⟨packetIdentifier, .SUCCESS, none, []⟩

namespace Receiver

def init (msgCb : Bool) : Receiver := ⟨msgCb, [], [], none⟩

def raise (s : Receiver) (stop : Stop) : Receiver := { s with stop := some stop }

def send (s : Receiver) (packet : Packet) : Receiver :=
  match encodePacket packet with
  | .error e => s.raise (.ofError e)
  | .ok _ => { s with sent := s.sent ++ [packet] }

/-- A packet without an identifier cannot be encoded. -/
def sendIdentified (s : Receiver) (packet : ReasonPacket → Packet) : Option ℕ → Receiver
  | none => s.raise (.exception .typeError)
  | some packetIdentifier => s.send (packet (successPacket packetIdentifier))

/-- `_process_publish_packet` after the callback returned. -/
def answerMsg (s : Receiver) (msg : Msg) (packetIdentifier : Option ℕ) : Receiver :=
  match msg.qos with
  | .AT_MOST_ONCE => s
  | .AT_LEAST_ONCE => s.sendIdentified .puback packetIdentifier
  | .EXACLTY_ONCE => s.sendIdentified .pubrec packetIdentifier

/-- Without a callback, `msg` has no value where its quality of service is looked at. -/
def processPublishPacket (s : Receiver) (packet : PublishPacket) (raised : Option Error) :
    Receiver :=
  if s.msgCb then
    let s := { s with messages := s.messages ++ [messageOf packet] }
    match raised with
    | some e => s.raise (.ofError e)
    | none => s.answerMsg (messageOf packet) packet.packetIdentifier
  else s.raise .unboundLocalError

def processPublishReleasePacket (s : Receiver) (packet : PubRelPacket) : Receiver :=
  if isErrorReason packet.reason then s
  else s.send (.pubcomp (successPacket packet.packetIdentifier))

/-- Whether a future takes the packet is logged only. -/
def registerPacket (s : Receiver) (registry : IdentifierRegistry) : Receiver :=
  if ¬ registry.isOpen then s.raise .connectionError else s

def process (s : Receiver) (r : Received) : Receiver :=
  match r.packet with
  | .publish packet => s.processPublishPacket packet r.raised
  | .pubrel packet => s.processPublishReleasePacket packet
  | .puback _ => s.registerPacket r.registry
  | .pubrec _ => s.registerPacket r.registry
  | .pubcomp _ => s.registerPacket r.registry
  | .suback _ => s.registerPacket r.registry
  | .unsuback _ => s.registerPacket r.registry
  -- the ping loop waits for it
  | .pingresp => s
  | .disconnect _ => s.raise .disconnected
  | .auth _ => s.raise (.mqttError .IMPLEMENTATION_SPECIFIC_ERROR "auth packet not supported")
  | _ => s.raise (.mqttError .PROTOCOL_ERROR "unexpected packet")

def receive (s : Receiver) (r : Received) : Receiver :=
  if s.stop.isSome then s else s.process r

end Receiver

/-- `_receive_loop`, as long as the server sends the packets `rs`. -/
def receiveLoop (msgCb : Bool) (rs : List Received) : Receiver :=
  rs.foldl Receiver.receive (.init msgCb)

/-! ### What a server relies on -/

def IsPublish : Packet → Prop
  | .publish _ => True
  | _ => False

def answerTo : Packet → Option Packet
  | .publish packet =>
    match packet.qos with
    | .AT_MOST_ONCE => none
    | .AT_LEAST_ONCE => packet.packetIdentifier.map fun n => .puback (successPacket n)
    | .EXACLTY_ONCE => packet.packetIdentifier.map fun n => .pubrec (successPacket n)
  | .pubrel packet => some (.pubcomp (successPacket packet.packetIdentifier))
  | _ => none

/-- The identifiers of the messages of quality of service 2 that no PUBREL has closed. -/
def openAfter (opened : List ℕ) : Packet → List ℕ
  | .publish packet =>
    if packet.qos = .EXACLTY_ONCE then packet.packetIdentifier.toList ++ opened else opened
  | .pubrel packet => opened.filter (· ≠ packet.packetIdentifier)
  | _ => opened

/-- PUBLISH is repeated before its PUBREL. -/
def Repeats (opened : List ℕ) : Packet → Prop
  | .publish packet => packet.qos = .EXACLTY_ONCE ∧ ∃ n ∈ packet.packetIdentifier, n ∈ opened
  | _ => False

instance (opened : List ℕ) : (packet : Packet) → Decidable (Repeats opened packet)
  | .publish _ => inferInstanceAs (Decidable (_ ∧ _))
  | .pubrel _ | .puback _ | .pubrec _ | .pubcomp _ | .suback _ | .unsuback _ | .pingresp
  | .disconnect _ | .auth _ | .connect _ | .connack _ | .subscribe _ | .unsubscribe _
  | .pingreq => inferInstanceAs (Decidable False)

/-- The message of a packet, if it has one. -/
def message : Packet → Option Msg
  | .publish packet => some (messageOf packet)
  | _ => none

/-- The messages of the packets, those of one exchange once. -/
def delivered (opened : List ℕ) : List Packet → List Msg
  | [] => []
  | packet :: packets =>
    (if Repeats opened packet then [] else (message packet).toList) ++
      delivered (openAfter opened packet) packets

/-- DISCONNECT ends the session. -/
def sessionEnd : Packet → Option Stop
  | .disconnect _ => some .disconnected
  | _ => none

/-- The loop has done what the server relies on. -/
structure Served (msgCb : Bool) (packets : List Packet) (s : Receiver) : Prop where
  stop : s.stop = packets.findSome? sessionEnd
  sent : s.sent = packets.filterMap answerTo
  messages : s.messages = if msgCb then delivered [] packets else []

/-- A packet that a server sends to a client which it accepted without authentication. -/
def FromServer : Packet → Prop
  | .publish packet =>
    (packet.packetIdentifier.isSome ↔ packet.qos ≠ .AT_MOST_ONCE) ∧
      ∀ n ∈ packet.packetIdentifier, ValidUint 0xffff n
  | .pubrel packet => isErrorReason packet.reason = false ∧ ValidUint 0xffff packet.packetIdentifier
  | .puback _ | .pubrec _ | .pubcomp _ | .suback _ | .unsuback _ | .pingresp | .disconnect _ => True
  | .connect _ | .connack _ | .subscribe _ | .unsubscribe _ | .pingreq | .auth _ => False

/-- The packets of a server that sends nothing after DISCONNECT, to a client that is open and
whose callback does not raise. -/
def Conforming : List Received → Prop
  | [] => True
  | r :: rs =>
    FromServer r.packet ∧ r.registry.isOpen = true ∧ r.raised = none ∧
      (sessionEnd r.packet ≠ none → rs = []) ∧ Conforming rs

namespace Receiver

variable {s : Receiver} {r : Received} {rs : List Received} {msgCb : Bool}

/-! ### Steps of the loop -/

theorem filterMap_cons_toList {α β : Type} (f : α → Option β) (a : α) (as : List α) :
    (a :: as).filterMap f = (f a).toList ++ as.filterMap f := by
  rw [List.filterMap_eq_flatMap_toList, List.flatMap_cons, List.filterMap_eq_flatMap_toList]

/-- An acknowledgement can be encoded under every identifier. -/
theorem send_eq {packet : ReasonPacket → Packet} {n : ℕ} (hn : ValidUint 0xffff n)
    (hpacket : packet = .puback ∨ packet = .pubrec ∨ packet = .pubcomp) :
    s.send (packet (successPacket n)) =
      { s with sent := s.sent ++ [packet (successPacket n)] } := by
  have hfields : (successPacket n).WellFormed := ⟨hn, nofun, nofun⟩
  have hsize : (successPacket n).size ≤ 0x0fff_ffff := by
    show (successPacket 0).size ≤ _
    decide
  have hroundTrips : RoundTripsPacket (packet (successPacket n)) := by
    rcases hpacket with rfl | rfl | rfl
    · exact (packet_roundTrips_iff (show (Packet.puback _).WellFormed from
        ⟨hfields, hsize⟩)).mpr trivial
    · exact (packet_roundTrips_iff (show (Packet.pubrec _).WellFormed from
        ⟨hfields, hsize⟩)).mpr trivial
    · exact (packet_roundTrips_iff (show (Packet.pubcomp _).WellFormed from
        ⟨hfields, hsize⟩)).mpr trivial
  obtain ⟨bs, hbs, -⟩ := hroundTrips
  unfold send
  rw [hbs]

theorem answerMsg_eq {packet : PublishPacket} (h : FromServer (.publish packet)) :
    s.answerMsg (messageOf packet) packet.packetIdentifier =
      { s with sent := s.sent ++ (answerTo (.publish packet)).toList } := by
  obtain ⟨hidentified, hrange⟩ := h
  unfold answerMsg
  rw [show (messageOf packet).qos = packet.qos from rfl, answerTo]
  cases hqos : packet.qos with
  | AT_MOST_ONCE => simp
  | AT_LEAST_ONCE =>
    obtain ⟨n, hn⟩ := Option.isSome_iff_exists.mp (hidentified.mpr (by rw [hqos]; exact nofun))
    rw [hn]
    exact send_eq (hrange n hn) (.inl rfl)
  | EXACLTY_ONCE =>
    obtain ⟨n, hn⟩ := Option.isSome_iff_exists.mp (hidentified.mpr (by rw [hqos]; exact nofun))
    rw [hn]
    exact send_eq (hrange n hn) (.inr (.inl rfl))

/-- **Step.**  A packet is answered and its message passed on, unless it is a message and there
is no callback. -/
theorem receive_eq (hpacket : FromServer r.packet) (hopen : r.registry.isOpen = true)
    (hraised : r.raised = none) (hstop : s.stop = none)
    (hcb : s.msgCb = true ∨ ¬ IsPublish r.packet) :
    s.receive r = { s with
      messages := s.messages ++ (message r.packet).toList
      sent := s.sent ++ (answerTo r.packet).toList
      stop := sessionEnd r.packet } := by
  have hregistered : s.registerPacket r.registry = s := if_neg (not_not.mpr hopen)
  have hunchanged : s = { s with
      messages := s.messages ++ [], sent := s.sent ++ [], stop := none } := by
    rw [List.append_nil, List.append_nil, ← hstop]
  rw [receive, hstop, if_neg (by simp), process]
  cases hr : r.packet with
  | publish packet =>
    rw [hr] at hpacket hcb
    have hmsgCb : s.msgCb = true := hcb.resolve_right fun hnot => hnot trivial
    simp only [processPublishPacket]
    rw [if_pos hmsgCb, hraised]
    simp only [answerMsg_eq hpacket, message, sessionEnd, hstop, Option.toList_some]
  | pubrel packet =>
    rw [hr] at hpacket
    simp only [processPublishReleasePacket]
    rw [if_neg (by simp [hpacket.1]), send_eq hpacket.2 (.inr (.inr rfl))]
    simp only [message, answerTo, sessionEnd, hstop, Option.toList_some, Option.toList_none,
      List.append_nil]
  | puback packet => exact hregistered.trans hunchanged
  | pubrec packet => exact hregistered.trans hunchanged
  | pubcomp packet => exact hregistered.trans hunchanged
  | suback packet => exact hregistered.trans hunchanged
  | unsuback packet => exact hregistered.trans hunchanged
  | pingresp => exact hunchanged
  | disconnect packet =>
    simp only [raise, message, answerTo, sessionEnd, Option.toList_none, List.append_nil]
  | connect packet => rw [hr] at hpacket; exact hpacket.elim
  | connack packet => rw [hr] at hpacket; exact hpacket.elim
  | subscribe packet => rw [hr] at hpacket; exact hpacket.elim
  | unsubscribe packet => rw [hr] at hpacket; exact hpacket.elim
  | pingreq => rw [hr] at hpacket; exact hpacket.elim
  | auth packet => rw [hr] at hpacket; exact hpacket.elim

/-- Nothing is received after the loop ended. -/
theorem foldl_receive_of_stop (hstop : s.stop ≠ none) (rs : List Received) :
    rs.foldl receive s = s := by
  induction rs with
  | nil => rfl
  | cons r rs ih =>
    rw [List.foldl_cons, receive, if_pos (Option.isSome_iff_ne_none.mpr hstop)]
    exact ih

/-- **Run.**  Packets are answered in turn, and their messages passed on. -/
theorem foldl_receive (h : Conforming rs) (hstop : s.stop = none)
    (hcb : s.msgCb = true ∨ ∀ packet ∈ rs.map (·.packet), ¬ IsPublish packet) :
    rs.foldl receive s = { s with
      messages := s.messages ++ (rs.map (·.packet)).filterMap message
      sent := s.sent ++ (rs.map (·.packet)).filterMap answerTo
      stop := (rs.map (·.packet)).findSome? sessionEnd } := by
  induction rs generalizing s with
  | nil =>
    simp only [List.map_nil, List.filterMap_nil, List.append_nil, List.findSome?_nil, ← hstop]
    rfl
  | cons r rs ih =>
    obtain ⟨hpacket, hopen, hraised, hend, hrest⟩ := h
    have hcbr : s.msgCb = true ∨ ¬ IsPublish r.packet :=
      hcb.imp_right fun hall => hall r.packet List.mem_cons_self
    have hcbs : s.msgCb = true ∨ ∀ packet ∈ rs.map (·.packet), ¬ IsPublish packet :=
      hcb.imp_right fun hall packet hmem => hall packet (List.mem_cons_of_mem _ hmem)
    have hstep := receive_eq hpacket hopen hraised hstop hcbr
    rw [List.foldl_cons]
    by_cases hsession : sessionEnd r.packet = none
    · have hnext : (s.receive r).stop = none := by
        rw [hstep]
        exact hsession
      have hmsgCb : (s.receive r).msgCb = s.msgCb := by rw [hstep]
      rw [ih hrest hnext (by rwa [hmsgCb]), hstep]
      simp only [List.map_cons, filterMap_cons_toList, List.findSome?_cons, hsession,
        List.append_assoc]
    · obtain rfl := hend hsession
      rw [List.foldl_nil, hstep]
      obtain ⟨stop, hstop⟩ := Option.ne_none_iff_exists'.mp hsession
      simp only [List.map_cons, List.map_nil, filterMap_cons_toList, List.filterMap_nil,
        List.findSome?_cons, hstop, List.append_nil]

/-- Without a callback, the first message ends the loop. -/
theorem stop_of_isPublish (h : Conforming rs) (hstop : s.stop = none) (hcb : s.msgCb = false)
    (hpublish : ∃ packet ∈ rs.map (·.packet), IsPublish packet) :
    (rs.foldl receive s).stop = some .unboundLocalError := by
  induction rs generalizing s with
  | nil =>
    obtain ⟨packet, hmem, -⟩ := hpublish
    cases hmem
  | cons r rs ih =>
    obtain ⟨hpacket, hopen, hraised, hend, hrest⟩ := h
    rw [List.foldl_cons]
    by_cases hr : IsPublish r.packet
    · have hraise : s.receive r = s.raise .unboundLocalError := by
        unfold IsPublish at hr
        split at hr
        · next packet hpublished =>
          rw [receive, hstop, if_neg (by simp), process, hpublished]
          simp [processPublishPacket, hcb]
        · exact hr.elim
      rw [hraise, foldl_receive_of_stop (Option.some_ne_none _)]
      rfl
    · obtain ⟨packet, hmem, hp⟩ := hpublish
      have hmem' : packet ∈ rs.map (·.packet) := by
        rcases List.mem_cons.mp hmem with rfl | hmem
        · exact absurd hp hr
        · exact hmem
      have hsession : sessionEnd r.packet = none := by
        by_contra hsession
        rw [hend hsession] at hmem'
        cases hmem'
      rw [receive_eq hpacket hopen hraised hstop (.inr hr)]
      exact ih hrest hsession hcb ⟨packet, hmem', hp⟩

end Receiver

/-! ### Messages of one exchange -/

/-- The exchanges that are open, packet after packet. -/
def opens (opened : List ℕ) (packet : Packet) : Option (List ℕ) := some (openAfter opened packet)

/-- No PUBLISH is repeated before its PUBREL. -/
def Once (packets : List Packet) : Prop :=
  Along opens (fun opened packet => ¬ Repeats opened packet) [] packets

instance (packets : List Packet) : Decidable (Once packets) := decidableAlong ..

theorem delivered_length_le (opened : List ℕ) (packets : List Packet) :
    (delivered opened packets).length ≤ (packets.filterMap message).length := by
  induction packets generalizing opened with
  | nil => exact Nat.le_refl 0
  | cons packet packets ih =>
    have hrest := ih (openAfter opened packet)
    rw [delivered, Receiver.filterMap_cons_toList, List.length_append, List.length_append]
    by_cases hrepeats : Repeats opened packet
    · rw [if_pos hrepeats, List.length_nil]
      omega
    · rw [if_neg hrepeats]
      omega

theorem filterMap_message_eq_nil {packets : List Packet}
    (h : ∀ packet ∈ packets, ¬ IsPublish packet) : packets.filterMap message = [] := by
  apply List.filterMap_eq_nil_iff.mpr
  intro packet hmem
  have hpacket := h packet hmem
  unfold message
  split
  · exact absurd trivial hpacket
  · rfl

/-- Every message is passed on iff none is repeated. -/
theorem delivered_eq_iff (opened : List ℕ) (packets : List Packet) :
    packets.filterMap message = delivered opened packets ↔
      Along opens (fun opened packet => ¬ Repeats opened packet) opened packets := by
  induction packets generalizing opened with
  | nil => exact iff_of_true rfl trivial
  | cons packet packets ih =>
    rw [delivered, Receiver.filterMap_cons_toList]
    by_cases hrepeats : Repeats opened packet
    · refine iff_of_false ?_ fun halong => halong.1 hrepeats
      intro heq
      rw [if_pos hrepeats, List.nil_append] at heq
      have hlength := congrArg List.length heq
      rw [List.length_append] at hlength
      have hle := delivered_length_le (openAfter opened packet) packets
      have hmessage : (message packet).toList.length = 1 := by
        unfold Repeats at hrepeats
        split at hrepeats
        · rfl
        · exact hrepeats.elim
      omega
    · rw [if_neg hrepeats, List.append_cancel_left_eq, ih]
      constructor
      · intro halong
        refine ⟨hrepeats, ?_⟩
        rintro opened' hopened'
        obtain rfl := Option.some.inj hopened'
        exact halong
      · intro halong
        exact halong.2 _ rfl

/-! ### What the loop does of it -/

variable {msgCb : Bool} {rs : List Received}

/-- **The server is served** iff there is a callback or no message, and no PUBLISH of quality of
service 2 is repeated before its PUBREL. -/
theorem served_iff (h : Conforming rs) :
    Served msgCb (rs.map (·.packet)) (receiveLoop msgCb rs) ↔
      (msgCb = true ∨ ∀ packet ∈ rs.map (·.packet), ¬ IsPublish packet) ∧
        Once (rs.map (·.packet)) := by
  constructor
  · intro hserved
    have hcb : msgCb = true ∨ ∀ packet ∈ rs.map (·.packet), ¬ IsPublish packet := by
      by_contra hcb
      obtain ⟨hmsgCb, hnot⟩ := not_or.mp hcb
      have hpublish : ∃ packet ∈ rs.map (·.packet), IsPublish packet := by
        by_contra hnone
        exact hnot fun packet hmem hp => hnone ⟨packet, hmem, hp⟩
      have hstop := Receiver.stop_of_isPublish (s := .init msgCb) h rfl
        (Bool.eq_false_iff.mpr hmsgCb) hpublish
      obtain ⟨packet, -, hsession⟩ :=
        List.exists_of_findSome?_eq_some (hserved.stop.symm.trans hstop)
      unfold sessionEnd at hsession
      split at hsession <;> cases hsession
    refine ⟨hcb, (delivered_eq_iff [] _).mp ?_⟩
    have hmessages := hserved.messages
    rw [receiveLoop, Receiver.foldl_receive h rfl hcb] at hmessages
    rcases hcb with rfl | hcb
    · exact hmessages
    · have hle := delivered_length_le [] (rs.map (·.packet))
      rw [filterMap_message_eq_nil hcb] at hle ⊢
      exact (List.eq_nil_of_length_eq_zero (Nat.le_zero.mp hle)).symm
  · rintro ⟨hcb, honce⟩
    rw [receiveLoop, Receiver.foldl_receive h rfl hcb]
    refine ⟨rfl, rfl, ?_⟩
    rcases hcb with rfl | hcb
    · exact (delivered_eq_iff [] _).mpr honce
    · show [] ++ _ = if msgCb then _ else []
      rw [← (delivered_eq_iff [] _).mpr honce, filterMap_message_eq_nil hcb]
      exact (ite_self _).symm

/-- A packet that comes while no acknowledgement is waited for. -/
def received (packet : Packet) : Received := ⟨packet, .init, none⟩

def samplePublish (qos : QoS) (packetIdentifier : Option ℕ) (duplicate : Bool) : Packet :=
  .publish ⟨duplicate, qos, false, "a", packetIdentifier, none, none, none, none, [], [], none,
    .bytes [1]⟩

def samplePubrel : Packet := .pubrel (successPacket 5)

/-- Two exchanges of quality of service 2 under one identifier. -/
def inTurnPackets : List Packet :=
  [samplePublish .EXACLTY_ONCE (some 5) false, samplePubrel,
    samplePublish .EXACLTY_ONCE (some 5) false, samplePubrel]

theorem inTurnPackets_served :
    Served true ((inTurnPackets.map received).map (·.packet))
        (receiveLoop true (inTurnPackets.map received)) ↔
      (true = true ∨ ∀ packet ∈ (inTurnPackets.map received).map (·.packet), ¬ IsPublish packet) ∧
        Once ((inTurnPackets.map received).map (·.packet)) := by
  have hpublish : FromServer (samplePublish .EXACLTY_ONCE (some 5) false) :=
    ⟨by decide, by decide⟩
  have hpubrel : FromServer samplePubrel := ⟨by decide, by decide⟩
  exact served_iff ⟨hpublish, rfl, rfl, nofun, hpubrel, rfl, rfl, nofun, hpublish, rfl, rfl, nofun,
    hpubrel, rfl, rfl, nofun, trivial⟩

/-- A message of quality of service 1 without a callback, which ends the loop, and a repeated
one of quality of service 2, which is passed on twice. -/
theorem message_not_served :
    (Conforming [received (samplePublish .AT_LEAST_ONCE (some 5) false)] ∧
      receiveLoop false [received (samplePublish .AT_LEAST_ONCE (some 5) false)] =
        ⟨false, [], [], some .unboundLocalError⟩ ∧
      ¬ Served false [samplePublish .AT_LEAST_ONCE (some 5) false]
        (receiveLoop false [received (samplePublish .AT_LEAST_ONCE (some 5) false)])) ∧
    Conforming [received (samplePublish .EXACLTY_ONCE (some 5) false),
        received (samplePublish .EXACLTY_ONCE (some 5) true), received samplePubrel] ∧
      (receiveLoop true [received (samplePublish .EXACLTY_ONCE (some 5) false),
        received (samplePublish .EXACLTY_ONCE (some 5) true), received samplePubrel]).messages =
          [⟨"a", .bytes [1], .EXACLTY_ONCE, false, none, none, none, [], none⟩,
            ⟨"a", .bytes [1], .EXACLTY_ONCE, false, none, none, none, [], none⟩] ∧
      ¬ Served true [samplePublish .EXACLTY_ONCE (some 5) false,
          samplePublish .EXACLTY_ONCE (some 5) true, samplePubrel]
        (receiveLoop true [received (samplePublish .EXACLTY_ONCE (some 5) false),
          received (samplePublish .EXACLTY_ONCE (some 5) true), received samplePubrel]) := by
  refine ⟨⟨?_, rfl, fun h => ?_⟩, ?_, rfl, fun h => ?_⟩
  · exact ⟨⟨by decide, by decide⟩, rfl, rfl, nofun, trivial⟩
  · cases h.stop
  · exact ⟨⟨by decide, by decide⟩, rfl, rfl, nofun, ⟨by decide, by decide⟩, rfl, rfl, nofun,
      ⟨by decide, by decide⟩, rfl, rfl, nofun, trivial⟩
  · cases congrArg List.length h.messages

end HatDrivers.Mqtt
