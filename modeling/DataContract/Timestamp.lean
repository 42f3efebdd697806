import DataContract.Readers
/-!
# Timestamps

A timestamp is written as date, time and offset from universal time, as in
`2024-02-29T12:30:00.5+01:00`.  The text is read byte by byte.  The sixtieth second of a
minute is the second before it with a second's worth of nanoseconds added.
-/

namespace DataContract

namespace Timestamp

/-- Why a text is no timestamp. -/
inductive Fault where
  | premature
  | invalid
  | outOfRange
  | trailing
deriving DecidableEq, Repr

namespace Fault

/-- The words for a fault. -/
def message : Fault → String
  | .premature => "premature end of input"
  | .invalid => "input contains invalid characters"
  | .outOfRange => "input is out of range"
  | .trailing => "trailing input"

end Fault

/-- Whether a year has a leap day. -/
def isLeapYear (year : Nat) : Bool :=
  year % 4 == 0 && (year % 100 != 0 || year % 400 == 0)

/-- The number of days of a month; none for a number that is no month. -/
def daysOfMonth (year month : Nat) : Nat :=
  if month = 2 then (if isLeapYear year then 29 else 28)
  else if [1, 3, 5, 7, 8, 10, 12].contains month then 31
  else if [4, 6, 9, 11].contains month then 30
  else 0

/-- Whether there is such a date. -/
def isDate (year month day : Nat) : Bool := 1 ≤ day && day ≤ daysOfMonth year month

/-- The days before a year, counted from the year zero. -/
def daysBeforeYear (year : Nat) : Nat :=
  365 * year + (year + 3) / 4 - (year + 99) / 100 + (year + 399) / 400

/-- The days of the months before a month. -/
def daysBeforeMonth (year month : Nat) : Nat :=
  (List.range month).foldl (fun days m => days + daysOfMonth year m) 0

/-- The days from the beginning of 1970 to a date. -/
def dayNumber (year month day : Nat) : Int :=
  (daysBeforeYear year + daysBeforeMonth year month + day - 1 : Nat) - daysBeforeYear 1970

/-- A reader takes bytes from the front of those that are left. -/
abbrev Reader := StateT (List UInt8) (Except Fault)

/-- Whether a byte is a digit. -/
def isDigit (byte : UInt8) : Bool := 48 ≤ byte && byte ≤ 57

/-- The value of a digit. -/
def digitValue (byte : UInt8) : Nat := byte.toNat - 48

/-- The next byte. -/
def next : Reader UInt8 := do
  match ← get with
  | [] => throw .premature
  | byte :: bytes =>
      set bytes
      return byte

/-- A number of a given count of digits that continues `n`. -/
def digitsFrom (n : Nat) : Nat → Reader Nat
  | 0 => return n
  | count + 1 => do
      let byte ← next
      if isDigit byte then digitsFrom (10 * n + digitValue byte) count else throw .invalid

/-- A number of a given count of digits. -/
def digits (count : Nat) : Reader Nat := digitsFrom 0 count

/-- One of some bytes. -/
def oneOf (marks : List UInt8) : Reader Unit := do
  let byte ← next
  if marks.contains byte then return () else throw .invalid

/-- The first nine digits of a fraction, in nanoseconds. -/
def nanosOf (ds : List UInt8) : Nat :=
  ((ds.map digitValue ++ List.replicate 9 0).take 9).foldl (fun n d => 10 * n + d) 0

/-- The fraction of a second, if there is a point. -/
def fraction : Reader Nat := do
  match ← get with
  | 46 :: bytes =>
      let ds := bytes.takeWhile isDigit
      let rest := bytes.dropWhile isDigit
      if ds.isEmpty then throw (if rest.isEmpty then .premature else .invalid)
      set rest
      return nanosOf ds
  | _ => return 0

/-- The sign of an offset: plus, hyphen or minus. -/
def sign : Reader Bool := do
  match ← get with
  | [] => throw .premature
  | 43 :: bytes =>
      set bytes
      return false
  | 45 :: bytes =>
      set bytes
      return true
  | 0xE2 :: 0x88 :: 0x92 :: bytes =>
      set bytes
      return true
  | _ => throw .invalid

/-- Two digits of an offset; both bytes must be there before they are looked at. -/
def offsetDigits : Reader (Nat × Nat) := do
  match ← get with
  | tens :: ones :: bytes =>
      if isDigit tens && isDigit ones then
        set bytes
        return (digitValue tens, digitValue ones)
      else throw .invalid
  | _ => throw .premature

/-- The offset in seconds to the east. -/
def offset : Reader Int := do
  match ← get with
  | 90 :: bytes =>
      set bytes
      return 0
  | 122 :: bytes =>
      set bytes
      return 0
  | _ =>
      let negative ← sign
      let hours ← offsetDigits
      oneOf [58]
      let minutes ← offsetDigits
      if 6 ≤ minutes.1 then throw .outOfRange
      let seconds : Int :=
        3600 * (10 * hours.1 + hours.2 : Nat) + 60 * (10 * minutes.1 + minutes.2 : Nat)
      return if negative then -seconds else seconds

/-- A date, as days from the beginning of 1970. -/
def date : Reader Int := do
  let year ← digits 4
  oneOf [45]
  let month ← digits 2
  oneOf [45]
  let day ← digits 2
  if isDate year month day then return dayNumber year month day else throw .outOfRange

/-- A time, as seconds and nanoseconds of a day. -/
def time : Reader (Nat × Nat) := do
  let hour ← digits 2
  oneOf [58]
  let minute ← digits 2
  oneOf [58]
  let second ← digits 2
  let nanos ← fraction
  let (second, nanos) := if second = 60 then (59, nanos + 1000000000) else (second, nanos)
  if hour < 24 ∧ minute < 60 ∧ second < 60 then
    return (3600 * hour + 60 * minute + second, nanos)
  else throw .outOfRange

/-- The fewest bytes of a date and a time. -/
def minLength : Nat := 19

/-- A timestamp, to the last byte. -/
def timestamp : Reader ZonedMoment := do
  if (← get).length < minLength then throw .premature
  let day ← date
  oneOf [84, 116, 32]
  let (seconds, nanos) ← time
  let east ← offset
  if !(← get).isEmpty then throw .trailing
  if 86400 ≤ east.natAbs then throw .outOfRange
  return ⟨⟨86400 * day + seconds - east, nanos⟩, east⟩

/-- The timestamp that a text stands for. -/
def read (text : String) : Except Fault ZonedMoment :=
  (timestamp.run text.toUTF8.toList).map Prod.fst

end Timestamp
end DataContract
