import HatDrivers.Mqtt.Client.Runs

namespace HatDrivers.Mqtt

open HatDrivers.Lib HatDrivers.Mqtt.Transport

/-!
# MQTT — acknowledgements and the calls they belong to

An acknowledgement is matched to a call by the identifier alone.  A cancelled call releases
its identifier while the acknowledgement of its packet may be on its way, and the next call
takes the same identifier: the acknowledgement then completes the wrong call.
-/

namespace Client

variable {s : Client} {maximumQos : QoS} {es : List Event}

/-- **Acknowledgements go to the calls that sent the packets**, in every run in which no call
takes an identifier that a call holds or under which an acknowledgement is still to come. -/
theorem matched_of_takesUnused (hrun : run step (init maximumQos) es = some s)
    (hunused : Along step TakesUnused (init maximumQos) es) : ∀ m ∈ s.matched, m.1 = m.2 :=
  (exclusive_of_run hrun hunused).matched

instance (maximumQos : QoS) : (request : Request) → Decidable (request.Allocates maximumQos)
  | .publish _ => inferInstanceAs (Decidable (_ ∧ _))
  | .subscribe _ => inferInstanceAs (Decidable True)
  | .unsubscribe _ => inferInstanceAs (Decidable True)

instance (s : Client) (identifier : ℕ) : Decidable (s.Unused identifier) :=
  inferInstanceAs (Decidable (_ ∧ ∀ sent ∈ s.unanswered, _))

instance (s : Client) : (e : Event) → Decidable (s.TakesUnused e)
  | .call _ => inferInstanceAs (Decidable (_ → ∀ identifier ∈ s.taken, s.Unused identifier))
  | .resume k => inferInstanceAs (Decidable (∀ identifier ∈ s.handedTo k, s.Unused identifier))
  | .put _ | .written _ | .writeFails _ | .timeout _ | .cancel _ | .acknowledge _ _ | .close
  | .onClose => inferInstanceAs (Decidable True)

/-- A message with a small payload. -/
def sampleMsg (qos : QoS) : Msg where
  topic := "a"
  payload := .bytes [1]
  qos := qos
  retain := true
  messageExpiryInterval := none
  responseTopic := none
  correlationData := none
  userProperties := []
  contentType := none

def samplePuback : Packet := .puback ⟨1, .SUCCESS, none, []⟩

/-- Two messages under the same identifier, the second after the first was acknowledged. -/
def inTurn : List Event :=
  [.call (.publish (sampleMsg .AT_LEAST_ONCE)), .written 0, .acknowledge 0 samplePuback, .resume 0,
    .call (.publish (sampleMsg .AT_LEAST_ONCE)), .written 1, .acknowledge 0 samplePuback]

theorem inTurn_matched :
    ∃ s, run step (init .AT_LEAST_ONCE) inTurn = some s ∧ s.matched = [(0, 0), (1, 1)] ∧
      ∀ m ∈ s.matched, m.1 = m.2 :=
  ⟨_, rfl, rfl, matched_of_takesUnused
    (show run step (init .AT_LEAST_ONCE) inTurn = some _ from rfl) (by decide)⟩

/-- The first message is cancelled, the second one takes its identifier, and the server
acknowledges the first. -/
def staleAcknowledgement : List Event :=
  [.call (.publish (sampleMsg .AT_LEAST_ONCE)), .written 0, .cancel 0,
    .call (.publish (sampleMsg .AT_LEAST_ONCE)), .written 1, .acknowledge 0 samplePuback, .resume 1]

theorem staleAcknowledgement_mismatched :
    ∃ s, run step (init .AT_LEAST_ONCE) staleAcknowledgement = some s ∧ (0, 1) ∈ s.matched ∧
      s.operations.map (·.phase) = [.ended .cancelled, .ended (.returned none)] ∧
      s.unanswered.map (·.operation) = [1] :=
  ⟨_, rfl, by decide, rfl, rfl⟩

end Client

end HatDrivers.Mqtt
