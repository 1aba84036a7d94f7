import HatDrivers.Mqtt.Client

namespace HatDrivers.Mqtt

open HatDrivers.Lib HatDrivers.Mqtt.Transport

/-!
# MQTT — handshakes

The packets that a call of a client exchanges with the server, from its request to the last
acknowledgement: how far the call is when it sends a packet, and what an acknowledgement
makes of it.
-/

/-- A packet of a handshake. -/
inductive Step
  | publish (qos : QoS) (identifier : Option ℕ)
  | other (packetType : PacketType) (identifier : Option ℕ)
  deriving DecidableEq

def stepOf : Packet → Step
  | .publish packet => .publish packet.qos packet.packetIdentifier
  | .pubrel packet => .other .PUBREL (some packet.packetIdentifier)
  | .subscribe packet => .other .SUBSCRIBE (some packet.packetIdentifier)
  | .unsubscribe packet => .other .UNSUBSCRIBE (some packet.packetIdentifier)
  | packet => .other (packetHeader packet).1 (acknowledgedIdentifier packet)

/-- The handshake of a message, its PUBLISH being sent with a quality of service `sent`. -/
def publishHandshake (sent qos : QoS) (identifier : Option ℕ) : List Step :=
  match qos with
  | .AT_MOST_ONCE => [.publish sent identifier]
  | .AT_LEAST_ONCE => [.publish sent identifier, .other .PUBACK identifier]
  | .EXACLTY_ONCE =>
    [.publish sent identifier, .other .PUBREC identifier, .other .PUBREL identifier,
      .other .PUBCOMP identifier]

def handshake (maximumQos : QoS) (identifier : Option ℕ) : Request → List Step
  | .publish msg => publishHandshake maximumQos msg.qos identifier
  | .subscribe _ => [.other .SUBSCRIBE identifier, .other .SUBACK identifier]
  | .unsubscribe _ => [.other .UNSUBSCRIBE identifier, .other .UNSUBACK identifier]

/-- All calls but those that publish with the lowest quality of service. -/
def Request.Identified : Request → Prop
  | .publish msg => msg.qos ≠ .AT_MOST_ONCE
  | .subscribe _ => True
  | .unsubscribe _ => True

/-- The calls that take an identifier: a message is refused if its quality of service is too
high. -/
def Request.Allocates (maximumQos : QoS) : Request → Prop
  | .publish msg => msg.qos ≠ .AT_MOST_ONCE ∧ msg.qos.value ≤ maximumQos.value
  | .subscribe _ => True
  | .unsubscribe _ => True

/-- A packet that a call sends, and the packets of its exchange before it. -/
inductive Stage (maximumQos : QoS) : Request → Option ℕ → Packet → List Packet → Prop
  | first (request : Request) (identifier : Option ℕ)
      (hidentified : identifier.isSome ↔ request.Identified) :
      Stage maximumQos request identifier (requestPacket maximumQos identifier request) []
  | release (msg : Msg) (ack : PubRecPacket) (hqos : msg.qos = .EXACLTY_ONCE) :
      Stage maximumQos (.publish msg) (some ack.packetIdentifier)
        (pubrelPacket ack.packetIdentifier)
        [requestPacket maximumQos (some ack.packetIdentifier) (.publish msg), .pubrec ack]

/-- Why a call may end without having sent a packet. -/
inductive Unsent (maximumQos : QoS) (request : Request) (identifier : Option ℕ) : Failure → Prop
  | closed : Unsent maximumQos request identifier .connectionError
  | refused (msg : Msg) (failure : Failure) (hrequest : request = .publish msg)
      (hqos : maximumQos.value < msg.qos.value) : Unsent maximumQos request identifier failure
  | encoding (e : Error) (hidentified : identifier.isSome ↔ request.Identified)
      (he : encodePacket (requestPacket maximumQos identifier request) = .error e) :
      Unsent maximumQos request identifier (.encoding e)

variable {maximumQos : QoS} {identifier : ℕ} {sent res : Packet} {before : List Packet}

theorem Stage.identified {request : Request} {identifier : Option ℕ}
    (h : Stage maximumQos request identifier sent before) :
    identifier.isSome ↔ request.Identified := by
  cases h with
  | first _ _ hidentified => exact hidentified
  | release msg ack hqos =>
    refine iff_of_true rfl ?_
    show msg.qos ≠ .AT_MOST_ONCE
    rw [hqos]
    exact nofun

/-- What a call sent, the next packet included, is a part of the handshake. -/
theorem Stage.followed {request : Request} {identifier : Option ℕ}
    (h : Stage maximumQos request identifier sent before) :
    (before ++ [sent]).map stepOf <+: handshake maximumQos identifier request := by
  cases h with
  | first _ _ hidentified =>
    cases request with
    | publish msg =>
      cases hqos : msg.qos <;> simp [requestPacket, stepOf, publishPacket, handshake,
        publishHandshake, hqos]
    | subscribe subscriptions =>
      obtain ⟨n, rfl⟩ := Option.isSome_iff_exists.mp (hidentified.mpr trivial)
      simp [requestPacket, stepOf, handshake]
    | unsubscribe topicFilters =>
      obtain ⟨n, rfl⟩ := Option.isSome_iff_exists.mp (hidentified.mpr trivial)
      simp [requestPacket, stepOf, handshake]
  | release msg ack hqos =>
    simp [requestPacket, stepOf, publishPacket, pubrelPacket, handshake, publishHandshake, hqos,
      packetHeader, acknowledgedIdentifier]

/-- The packet that a call sends first. -/
theorem Stage.of_nil {request : Request} {identifier : Option ℕ}
    (h : Stage maximumQos request identifier sent []) :
    sent = requestPacket maximumQos identifier request ∧
      (identifier.isSome ↔ request.Identified) := by
  cases h with
  | first _ _ hidentified => exact ⟨rfl, hidentified⟩

/-- A packet is acknowledged under the identifier of its call. -/
theorem Stage.expected {request : Request} {identifier : Option ℕ} {n : ℕ}
    (h : Stage maximumQos request identifier sent before)
    (hn : expectedIdentifier sent = some n) : identifier = some n := by
  cases h with
  | first _ _ hidentified =>
    cases request with
    | publish msg =>
      simp only [requestPacket, expectedIdentifier, publishPacket] at hn
      split at hn
      · cases hn
      · exact hn
    | subscribe subscriptions =>
      obtain ⟨m, rfl⟩ := Option.isSome_iff_exists.mp (hidentified.mpr trivial)
      exact hn
    | unsubscribe topicFilters =>
      obtain ⟨m, rfl⟩ := Option.isSome_iff_exists.mp (hidentified.mpr trivial)
      exact hn
  | release msg ack hqos => exact hn

/-- A call without an identifier sends its PUBLISH packet, and that is all. -/
theorem Stage.of_none {request : Request}
    (h : Stage maximumQos request none sent before) :
    (before ++ [sent]).map stepOf = handshake maximumQos none request := by
  cases h with
  | first _ _ hidentified =>
    cases request with
    | publish msg =>
      have hqos : msg.qos = .AT_MOST_ONCE := by
        by_contra hqos
        cases hidentified.mpr hqos
      simp [requestPacket, stepOf, publishPacket, handshake, publishHandshake, hqos]
    | subscribe subscriptions => cases hidentified.mpr trivial
    | unsubscribe topicFilters => cases hidentified.mpr trivial

/-- What the reaction to its last packet says of an exchange. -/
def ReactionOk (maximumQos : QoS) (request : Request) (identifier : ℕ) (exchange : List Packet) :
    Reaction → Prop
  | .returns _ => exchange.map stepOf = handshake maximumQos (some identifier) request
  | .raises _ _ => exchange.map stepOf <+: handshake maximumQos (some identifier) request
  | .invalid => True
  | .releases =>
    Stage maximumQos request (some identifier) (pubrelPacket identifier) exchange

theorem react_ok {request : Request} (h : Stage maximumQos request (some identifier) sent before)
    (hres : acknowledgedIdentifier res = some identifier) :
    ReactionOk maximumQos request identifier (before ++ [sent] ++ [res])
      (react request sent res) := by
  cases h with
  | first _ _ hidentified =>
    cases request with
    | publish msg =>
      have hqos : msg.qos ≠ .AT_MOST_ONCE := hidentified.mp rfl
      cases res with
      | puback ack =>
        obtain rfl := Option.some.inj hres
        by_cases hleast : msg.qos = .AT_LEAST_ONCE
        · by_cases herror : isErrorReason ack.reason <;>
            simp [ReactionOk, react, requestPacket, hleast, checkReason, herror, stepOf,
              publishPacket, handshake, publishHandshake, packetHeader, acknowledgedIdentifier]
        · simp [ReactionOk, react, requestPacket, hleast]
      | pubrec ack =>
        obtain rfl := Option.some.inj hres
        by_cases hleast : msg.qos = .AT_LEAST_ONCE
        · simp [ReactionOk, react, requestPacket, hleast]
        · have hexactly : msg.qos = .EXACLTY_ONCE := by
            cases hcases : msg.qos with
            | AT_MOST_ONCE => exact absurd hcases hqos
            | AT_LEAST_ONCE => exact absurd hcases hleast
            | EXACLTY_ONCE => rfl
          by_cases herror : isErrorReason ack.reason
          · simp [ReactionOk, react, requestPacket, hexactly, checkReason, herror, stepOf,
              publishPacket, handshake, publishHandshake, packetHeader, acknowledgedIdentifier]
          · rw [show react (.publish msg) _ (.pubrec ack) = .releases by
              simp [react, requestPacket, hleast, checkReason, herror]]
            exact .release msg ack hexactly
      | _ => simp [ReactionOk, react, requestPacket]
    | subscribe subscriptions =>
      cases res with
      | suback ack =>
        obtain rfl := Option.some.inj hres
        simp [ReactionOk, react, requestPacket, stepOf, handshake, packetHeader,
          acknowledgedIdentifier]
      | _ => simp [ReactionOk, react]
    | unsubscribe topicFilters =>
      cases res with
      | unsuback ack =>
        obtain rfl := Option.some.inj hres
        simp [ReactionOk, react, requestPacket, stepOf, handshake, packetHeader,
          acknowledgedIdentifier]
      | _ => simp [ReactionOk, react]
  | release msg ack hqos =>
    cases res with
    | pubcomp ack' =>
      have hack : ack'.packetIdentifier = ack.packetIdentifier := Option.some.inj hres
      by_cases herror : isErrorReason ack'.reason <;>
        simp [ReactionOk, react, pubrelPacket, checkReason, herror, stepOf, requestPacket,
          publishPacket, handshake, publishHandshake, hqos, packetHeader, acknowledgedIdentifier,
          hack]
    | _ => simp [ReactionOk, react, pubrelPacket]

end HatDrivers.Mqtt
