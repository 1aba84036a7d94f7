import HatDrivers.Basic

namespace HatDrivers.Iec60870.Encodings

/-!
# IEC 60870-5 encodings — common structures

Field sizes, the binary time (`Time`, in four sizes), and the ASDU / information
object records the generic encoder works on.
-/

inductive CauseSize | ONE | TWO
  deriving DecidableEq

def CauseSize.value : CauseSize → ℕ
  | .ONE => 1
  | .TWO => 2

inductive AsduAddressSize | ONE | TWO
  deriving DecidableEq

def AsduAddressSize.value : AsduAddressSize → ℕ
  | .ONE => 1
  | .TWO => 2

inductive IoAddressSize | ONE | TWO | THREE
  deriving DecidableEq

def IoAddressSize.value : IoAddressSize → ℕ
  | .ONE => 1
  | .TWO => 2
  | .THREE => 3

inductive TimeSize | TWO | THREE | FOUR | SEVEN
  deriving DecidableEq

def TimeSize.value : TimeSize → ℕ
  | .TWO => 2
  | .THREE => 3
  | .FOUR => 4
  | .SEVEN => 7

structure Time where
  size : TimeSize
  milliseconds : ℕ
  invalid : Option Bool
  substituted : Option Bool
  minutes : Option ℕ
  summerTime : Option Bool
  hours : Option ℕ
  dayOfWeek : Option ℕ
  dayOfMonth : Option ℕ
  months : Option ℕ
  years : Option ℕ
  deriving DecidableEq

/-- An optional field is there exactly when its time size has it, and then in range. -/
def Available {α : Type} (present : Prop) (inRange : α → Prop) : Option α → Prop
  | some a => present ∧ inRange a
  | none => ¬ present

instance {α : Type} (present : Prop) (inRange : α → Prop)
    [Decidable present] [DecidablePred inRange]
    (x : Option α) : Decidable (Available present inRange x) := by
  cases x <;> unfold Available <;> infer_instance

/-- The documented availability and range of every field of a time. -/
structure Time.Valid (t : Time) : Prop where
  milliseconds : t.milliseconds ≤ 59999
  invalid : Available (t.size.value > 2) (fun _ => True) t.invalid
  substituted : Available (t.size.value > 2) (fun _ => True) t.substituted
  minutes : Available (t.size.value > 2) (· ≤ 59) t.minutes
  summerTime : Available (t.size.value > 3) (fun _ => True) t.summerTime
  hours : Available (t.size.value > 3) (· ≤ 23) t.hours
  dayOfWeek : Available (t.size.value > 4) (fun d => 1 ≤ d ∧ d ≤ 7) t.dayOfWeek
  dayOfMonth : Available (t.size.value > 4) (fun d => 1 ≤ d ∧ d ≤ 31) t.dayOfMonth
  months : Available (t.size.value > 4) (fun m => 1 ≤ m ∧ m ≤ 12) t.months
  years : Available (t.size.value > 4) (· ≤ 99) t.years

/-- Information object: elements of one address, with the time of their ASDU type. -/
structure Io (η : Type) where
  address : ℕ
  elements : List η
  time : Option Time
  deriving DecidableEq

structure ASDU (η : Type) where
  type : ℕ
  cause : ℕ
  address : ℕ
  ios : List (Io η)
  deriving DecidableEq

end HatDrivers.Iec60870.Encodings
