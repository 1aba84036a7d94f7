import HatDrivers.Basic

namespace HatDrivers.Smpp

open HatDrivers.Lib

/-!
# SMPP — common types
-/

/-- A message id is bytes, where it should be a string: peers do not keep to ASCII. -/
abbrev MessageId := Bytes

inductive Priority | BULK | NORMAL | URGENT | VERY_URGENT
  deriving DecidableEq

def Priority.value : Priority → ℕ
  | .BULK => 0 | .NORMAL => 1 | .URGENT => 2 | .VERY_URGENT => 3

instance : Enumeration Priority where
  name := "Priority"
  value := Priority.value
  members := [.BULK, .NORMAL, .URGENT, .VERY_URGENT]
  find_value e := by cases e <;> rfl

inductive TypeOfNumber
  | UNKNOWN | INTERNATIONAL | NATIONAL | NETWORK_SPECIFIC | SUBSCRIBER_NUMBER | ALPHANUMERIC
  | ABBREVIATED
  deriving DecidableEq

def TypeOfNumber.value : TypeOfNumber → ℕ
  | .UNKNOWN => 0 | .INTERNATIONAL => 1 | .NATIONAL => 2 | .NETWORK_SPECIFIC => 3
  | .SUBSCRIBER_NUMBER => 4 | .ALPHANUMERIC => 5 | .ABBREVIATED => 6

instance : Enumeration TypeOfNumber where
  name := "TypeOfNumber"
  value := TypeOfNumber.value
  members :=
    [.UNKNOWN, .INTERNATIONAL, .NATIONAL, .NETWORK_SPECIFIC, .SUBSCRIBER_NUMBER, .ALPHANUMERIC,
     .ABBREVIATED]
  find_value e := by cases e <;> rfl

inductive DataCoding
  | DEFAULT | ASCII | UNSPECIFIED_1 | LATIN_1 | UNSPECIFIED_2 | JIS | CYRLLIC | LATIN_HEBREW
  | UCS2 | PICTOGRAM | MUSIC | EXTENDED_KANJI | KS
  deriving DecidableEq

def DataCoding.value : DataCoding → ℕ
  | .DEFAULT => 0
  | .ASCII => 1
  | .UNSPECIFIED_1 => 2
  | .LATIN_1 => 3
  | .UNSPECIFIED_2 => 4
  | .JIS => 5
  | .CYRLLIC => 6
  | .LATIN_HEBREW => 7
  | .UCS2 => 8
  | .PICTOGRAM => 9
  | .MUSIC => 10
  | .EXTENDED_KANJI => 13
  | .KS => 14

instance : Enumeration DataCoding where
  name := "DataCoding"
  value := DataCoding.value
  members :=
    [.DEFAULT, .ASCII, .UNSPECIFIED_1, .LATIN_1, .UNSPECIFIED_2, .JIS, .CYRLLIC, .LATIN_HEBREW,
     .UCS2, .PICTOGRAM, .MUSIC, .EXTENDED_KANJI, .KS]
  find_value e := by cases e <;> rfl

end HatDrivers.Smpp
