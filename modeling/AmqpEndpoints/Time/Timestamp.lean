import AmqpEndpoints.Number.Unsigned
import AmqpEndpoints.Text.Classes
import AmqpEndpoints.Time.Calendar

/-!
# Timestamps

A timestamp counts seconds since the first of January 1970. It is written as a UTC date and time
`2023-11-14T22:13:20+0000`. It is read from plain seconds, from that form with any offset and with
leniencies (fewer digits, blanks before a number), or from the internet form
`2023-11-14T22:13:20.5Z`.
-/

set_option autoImplicit false

namespace AmqpEndpoints.Time

/-- The last year with timestamps. -/
def lastYear : Nat := 262142

/-- The number of the first day that timestamps count from. -/
def epochDays : Nat := daysBeforeYear 1970

/-- A date and a time of day. -/
structure Moment where
  date : Date
  hour : Nat
  minute : Nat
  second : Nat
  deriving DecidableEq, Repr

namespace Moment

/-- Whether the date is one of the calendar and the time one of a day. -/
def Valid (moment : Moment) : Prop :=
  moment.date.Valid ∧ moment.hour < 24 ∧ moment.minute < 60 ∧ moment.second < 60

/-- The seconds from the start of the year 0 to a moment. -/
def toSeconds (moment : Moment) : Nat :=
  moment.date.toDays * 86400 + moment.hour * 3600 + moment.minute * 60 + moment.second

/-- The moment a number of seconds after the start of 1970. -/
def ofTimestamp (seconds : Nat) : Moment :=
  let rest := seconds % 86400
  ⟨Date.ofDays (epochDays + seconds / 86400), rest / 3600, rest % 3600 / 60, rest % 60⟩

end Moment

/-!
## Writing
-/

/-- The decimal digits of a number, at least as many as a width. -/
def padded (width number : Nat) : List Char :=
  (Nat.toDigits 10 number).leftpad width '0'

/-- The digits of a year; a year of more than four digits has a sign. -/
def yearText (year : Nat) : List Char :=
  if year < 10000 then padded 4 year else '+' :: padded 4 year

def Moment.text (moment : Moment) : List Char :=
  yearText moment.date.year ++ '-' :: padded 2 moment.date.month ++ '-' ::
    padded 2 moment.date.day ++ 'T' :: padded 2 moment.hour ++ ':' :: padded 2 moment.minute ++
    ':' :: padded 2 moment.second ++ ['+', '0', '0', '0', '0']

/-- The written form of a timestamp, if its year is at most the last one. -/
def formatTimestamp (seconds : Nat) : Option String :=
  let moment := Moment.ofTimestamp seconds
  if moment.date.year ≤ lastYear then some (String.ofList moment.text) else none

/-!
## Reading

A reader takes what it reads from the start of a text and gives the rest.
-/

def expect (c : Char) : List Char → Option (List Char)
  | [] => none
  | d :: rest => if c = d then some rest else none

/-- The number of up to `most` digits at the start of a text, of which at least one is needed. -/
def number (most : Nat) (text : List Char) : Option (Nat × List Char) :=
  let digits := (text.take most).takeWhile Char.isDigit
  if digits.isEmpty then none
  else some (Nat.ofDigitChars 10 digits 0, text.drop digits.length)

/-- The number of exactly `count` digits at the start of a text. -/
def fixedNumber (count : Nat) (text : List Char) : Option (Nat × List Char) :=
  let digits := (text.take count).takeWhile Char.isDigit
  if digits.length = count then some (Nat.ofDigitChars 10 digits 0, text.drop count) else none

/-- A number of up to two digits, behind blanks. -/
def loosePair (text : List Char) : Option (Nat × List Char) :=
  number 2 (Text.dropBlanks text)

/-- A year, behind blanks: up to four digits, or any number of digits behind a sign. There is no
timestamp in a year before the year 0. -/
def looseYear (text : List Char) : Option (Nat × List Char) :=
  match Text.dropBlanks text with
  | '+' :: rest => number rest.length rest
  | rest => number 4 rest

/-- The sign of an offset: whether it is behind UTC. -/
def offsetSign : List Char → Option (Bool × List Char)
  | '+' :: rest => some (false, rest)
  | '-' :: rest => some (true, rest)
  | '−' :: rest => some (true, rest)
  | _ => none

/-- The offset of given hours and minutes, in seconds, if it is less than a day. -/
def offsetSeconds (behind : Bool) (hours minutes : Nat) : Option Int :=
  if minutes < 60 ∧ hours < 24 then
    let seconds : Int := hours * 3600 + minutes * 60
    some (if behind then -seconds else seconds)
  else none

/-- The number of seconds since 1970 of a local moment at an offset from UTC. A second 60 is the
second before it. -/
def Moment.toTimestamp? (moment : Moment) (offset : Int) : Option Nat :=
  if moment.date.isValid && moment.hour < 24 && moment.minute < 60 && moment.second ≤ 60 &&
      moment.date.year ≤ lastYear then
    let seconds : Int :=
      ({ moment with second := min moment.second 59 }.toSeconds : Int) - offset
    let start : Int := epochDays * 86400
    if start ≤ seconds ∧ seconds < daysBeforeYear (lastYear + 1) * 86400 then
      some (seconds - start).toNat
    else none
  else none

/-- A timestamp from the form that is written, with its leniencies. -/
def readWritten (text : List Char) : Option Nat := do
  let (year, text) ← looseYear text
  let (month, text) ← loosePair (← expect '-' text)
  let (day, text) ← loosePair (← expect '-' text)
  let (hour, text) ← loosePair (← expect 'T' text)
  let (minute, text) ← loosePair (← expect ':' text)
  let (second, text) ← loosePair (← expect ':' text)
  let (behind, text) ← offsetSign (Text.dropBlanks text)
  let (hours, text) ← fixedNumber 2 text
  let (minutes, text) ← fixedNumber 2 (text.dropWhile fun c => c == ':' || Text.isBlank c)
  let offset ← offsetSeconds behind hours minutes
  guard text.isEmpty
  Moment.toTimestamp? ⟨⟨year, month, day⟩, hour, minute, second⟩ offset

/-- What follows a fraction of a second, which is a point and digits, or nothing. -/
def afterFraction : List Char → Option (List Char)
  | '.' :: rest =>
    if (rest.takeWhile Char.isDigit).isEmpty then none else some (rest.dropWhile Char.isDigit)
  | text => some text

/-- The offset of the internet form: `Z`, or hours and minutes with a colon. -/
def internetOffset (text : List Char) : Option (Int × List Char) :=
  match text with
  | 'Z' :: rest => some (0, rest)
  | 'z' :: rest => some (0, rest)
  | _ => do
    let (behind, text) ← offsetSign text
    let (hours, text) ← fixedNumber 2 text
    let (minutes, text) ← fixedNumber 2 (← expect ':' text)
    return (← offsetSeconds behind hours minutes, text)

/-- What follows the character between date and time in the internet form. -/
def afterSeparator : List Char → Option (List Char)
  | 'T' :: rest => some rest
  | 't' :: rest => some rest
  | ' ' :: rest => some rest
  | _ => none

/-- A timestamp from the internet form. -/
def readInternet (text : List Char) : Option Nat := do
  let (year, text) ← fixedNumber 4 text
  let (month, text) ← fixedNumber 2 (← expect '-' text)
  let (day, text) ← fixedNumber 2 (← expect '-' text)
  let (hour, text) ← fixedNumber 2 (← afterSeparator text)
  let (minute, text) ← fixedNumber 2 (← expect ':' text)
  let (second, text) ← fixedNumber 2 (← expect ':' text)
  let (offset, text) ← internetOffset (← afterFraction text)
  guard text.isEmpty
  Moment.toTimestamp? ⟨⟨year, month, day⟩, hour, minute, second⟩ offset

/-- The timestamp that a text writes, in the first of the three forms that it has. -/
def parseTimestamp (text : String) : Option Nat :=
  let trimmed := Text.trimBlanks text.toList
  match Number.read Number.limit64 trimmed with
  | .ok seconds => some seconds
  | .error _ => (readWritten trimmed).or (readInternet trimmed)

end AmqpEndpoints.Time
