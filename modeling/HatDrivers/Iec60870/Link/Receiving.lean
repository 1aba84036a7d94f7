import HatDrivers.Iec60870.Link.Encoder
import HatDrivers.Lib.Entries
import HatDrivers.Lib.Transition

namespace HatDrivers.Iec60870.Link

open HatDrivers.Lib

/-!
# Link layer — receive queues

What the receive loops of a slave link and of a balanced link share: the receive queues of their
connections, and the reasons why a loop ends.
-/

/-- Why a receive loop ended. -/
inductive Reason
  /-- data was put in a closed queue -/
  | queueClosedError
  /-- the link was closed -/
  | connectionError
  | error (e : Exn)
  deriving DecidableEq

/-- An `aio.Queue` of received data, and all the data that was ever put in it. -/
structure ReceiveQueue where
  size : ℕ
  closed : Bool
  items : List Bytes
  /-- history -/
  received : List Bytes
  deriving DecidableEq

namespace ReceiveQueue

def empty (size : ℕ) : ReceiveQueue := ⟨size, false, [], []⟩

/-- `put`, of a queue with room. -/
def put (q : ReceiveQueue) (data : Bytes) : ReceiveQueue :=
  { q with items := q.items ++ [data], received := q.received ++ [data] }

def take (q : ReceiveQueue) : Option ReceiveQueue :=
  match q.items with
  | _ :: items => some { q with items := items }
  | [] => none

def close (q : ReceiveQueue) : ReceiveQueue := { q with closed := true }

/-- What `await put(…)` does next. -/
inductive Put
  | fails
  | waits
  | done (q : ReceiveQueue)

/-- A closed queue refuses data, a full one lets it wait. -/
def tryPut (q : ReceiveQueue) (data : Bytes) : Put :=
  if q.closed then .fails
  else if hasRoom q.size q.items then .done (q.put data)
  else .waits

variable {queue queue' : ReceiveQueue} {data : Bytes}

theorem closed_of_fails (h : queue.tryPut data = .fails) : queue.closed := by
  unfold tryPut at h
  split at h
  · assumption
  · split at h <;> cases h

theorem closed_of_done (h : queue.tryPut data = .done queue') : queue'.closed = queue.closed := by
  unfold tryPut at h
  split at h
  · cases h
  · split at h
    · cases h
      rfl
    · cases h

theorem closed_of_take (h : queue.take = some queue') : queue'.closed = queue.closed := by
  obtain ⟨size, closed, items, received⟩ := queue
  cases items with
  | nil => cases h
  | cons data items =>
    cases h
    rfl

end ReceiveQueue

end HatDrivers.Iec60870.Link
