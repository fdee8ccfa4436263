import FeatureFlags.Text.Scan

/-!
# Timestamps

A point in time is a number of seconds since 1970 and a number of nanoseconds. A leap second is the last
second of its minute with `10 ^ 9` nanoseconds or more.

`Timestamp.ofText?` reads the date and time of RFC 3339: date and time are separated by a `T`, a `t` or a
blank, the fraction of a second may have any number of digits (nine count), and the offset from UTC is
`Z`, `z` or a sign with hours and minutes.
-/

namespace FeatureFlags

open Text

-- sums start from the zero of the core library, whatever else is imported
attribute [local instance (high)] Zero.ofOfNat0

/-- A point in time. -/
structure Timestamp where
  seconds : Int
  nanoseconds : Nat
  deriving DecidableEq, Repr

namespace Timestamp

/-- Whether one time is before another. -/
def before (a b : Timestamp) : Bool :=
  a.seconds < b.seconds || (a.seconds == b.seconds && a.nanoseconds < b.nanoseconds)

/-- The least number of milliseconds that is a time. -/
def leastMillis : Int := -8334601228800000

/-- The greatest number of milliseconds that is a time. -/
def greatestMillis : Int := 8210266876799999

/-- The time a number of milliseconds after the start of 1970. -/
def ofMillis? (millis : Int) : Option Timestamp :=
  if leastMillis ≤ millis ∧ millis ≤ greatestMillis then
    some ⟨millis / 1000, (millis % 1000).toNat * 1000000⟩
  else none

/-! ## The calendar -/

/-- Whether a year has a leap day. -/
def isLeapYear (year : Nat) : Bool := year % 4 == 0 && (year % 100 != 0 || year % 400 == 0)

/-- The number of days of a month. -/
def daysInMonth (year month : Nat) : Nat :=
  match month with
  | 2 => if isLeapYear year then 29 else 28
  | 4 | 6 | 9 | 11 => 30
  | _ => 31

/-- The number of days of a year before a month. -/
def daysBeforeMonth (year month : Nat) : Nat :=
  ((List.range (month - 1)).map fun m => daysInMonth year (m + 1)).sum

/-- The number of days before a year, counted from the start of year 0. -/
def daysBeforeYear (year : Nat) : Nat :=
  if year = 0 then 0
  else
    let last := year - 1
    365 * year + (last / 4 - last / 100 + last / 400 + 1)

/-- The number of days from the start of 1970 to a date. -/
def dayNumber (year month day : Nat) : Int :=
  (daysBeforeYear year + daysBeforeMonth year month + (day - 1) : Nat) - 719528

/-! ## Text -/

/-- Reads exactly `count` digits. -/
def readDigits? (count : Nat) (text : List Char) : Option (Nat × List Char) :=
  let digits := text.take count
  if digits.length = count ∧ digits.all isDigit then
    some (naturalOfDigits digits, text.drop count)
  else none

/-- Reads exactly `count` digits that denote a number between two bounds. -/
def readField? (count least greatest : Nat) (text : List Char) : Option (Nat × List Char) := do
  let (n, rest) ← readDigits? count text
  if least ≤ n ∧ n ≤ greatest then some (n, rest) else none

/-- Reads the separator of date and time. -/
def readSeparator? : List Char → Option (List Char)
  | 'T' :: rest | 't' :: rest | ' ' :: rest => some rest
  | _ => none

/-- Reads the fraction of a second as nanoseconds, if there is one. -/
def readFraction? : List Char → Option (Nat × List Char)
  | '.' :: text =>
    match text.takeWhile isDigit with
    | [] => none
    | digits =>
      let nine := (digits ++ List.replicate 9 '0').take 9
      some (naturalOfDigits nine, text.dropWhile isDigit)
  | text => some (0, text)

/-- Reads hours and minutes of an offset as seconds; it has to be less than a day. -/
def readOffsetTime? (text : List Char) : Option (Nat × List Char) := do
  let (hours, text) ← readField? 2 0 23 text
  let text ← expect? ':' text
  let (minutes, text) ← readField? 2 0 59 text
  return (hours * 3600 + minutes * 60, text)

/-- Reads the offset from UTC in seconds. The sign may also be the minus sign of typography. -/
def readOffset? : List Char → Option (Int × List Char)
  | 'Z' :: rest | 'z' :: rest => some (0, rest)
  | '+' :: rest => (readOffsetTime? rest).map fun (s, rest) => ((s : Int), rest)
  | '-' :: rest | '−' :: rest => (readOffsetTime? rest).map fun (s, rest) => (-(s : Int), rest)
  | _ => none

/-- The time a text denotes. -/
def ofChars? (text : List Char) : Option Timestamp := do
  let (year, text) ← readDigits? 4 text
  let text ← expect? '-' text
  let (month, text) ← readField? 2 1 12 text
  let text ← expect? '-' text
  let (day, text) ← readField? 2 1 (daysInMonth year month) text
  let text ← readSeparator? text
  let (hour, text) ← readField? 2 0 23 text
  let text ← expect? ':' text
  let (minute, text) ← readField? 2 0 59 text
  let text ← expect? ':' text
  let (second, text) ← readField? 2 0 60 text
  let (fraction, text) ← readFraction? text
  let (offset, text) ← readOffset? text
  if text.isEmpty then
    let inDay : Int := (hour * 3600 + minute * 60 + min second 59 : Nat)
    some
      { seconds := dayNumber year month day * 86400 + inDay - offset
        nanoseconds := if second = 60 then fraction + 1000000000 else fraction }
  else none

/-- The time a text denotes. -/
def ofText? (text : String) : Option Timestamp := ofChars? text.toList

end Timestamp
end FeatureFlags
