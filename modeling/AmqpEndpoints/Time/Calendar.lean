/-!
# Calendar

Dates of the proleptic Gregorian calendar from the year 0 on, numbered by the days since the first
of January of the year 0.
-/

set_option autoImplicit false

namespace AmqpEndpoints.Time

/-- Whether a year has a 29th of February. -/
def isLeap (year : Nat) : Bool :=
  (year % 4 == 0 && year % 100 != 0) || year % 400 == 0

def daysBeforeYear (year : Nat) : Nat :=
  365 * year + (year + 3) / 4 - (year + 99) / 100 + (year + 399) / 400

def monthLengths (year : Nat) : List Nat :=
  [31, if isLeap year then 29 else 28, 31, 30, 31, 30, 31, 31, 30, 31, 30, 31]

/-- A day of the calendar. -/
structure Date where
  year : Nat
  /-- The month, from 1. -/
  month : Nat
  /-- The day of the month, from 1. -/
  day : Nat
  deriving DecidableEq, Repr

namespace Date

def Valid (date : Date) : Prop :=
  1 ≤ date.month ∧ 1 ≤ date.day ∧
    ∃ length ∈ (monthLengths date.year)[date.month - 1]?, date.day ≤ length

/-- Whether the calendar has a date, as a test. -/
def isValid (date : Date) : Bool :=
  match (monthLengths date.year)[date.month - 1]? with
  | none => false
  | some length => 1 ≤ date.month && 1 ≤ date.day && date.day ≤ length

theorem isValid_iff (date : Date) : date.isValid = true ↔ date.Valid := by
  unfold isValid Valid
  cases (monthLengths date.year)[date.month - 1]? <;> simp [and_assoc]

def toDays (date : Date) : Nat :=
  daysBeforeYear date.year +
    ((monthLengths date.year).take (date.month - 1)).foldr (· + ·) 0 + (date.day - 1)

end Date

/-- The year of a numbered day. The quotient by the mean length of a year is off by at most one. -/
def yearOfDays (days : Nat) : Nat :=
  let guess := days * 400 / 146097
  if days < daysBeforeYear guess then guess - 1
  else if daysBeforeYear (guess + 1) ≤ days then guess + 1
  else guess

/-- The month, counted from a first one, in which a numbered day falls, and the day of that month
from 1. -/
def monthOfDays (month days : Nat) : List Nat → Nat × Nat
  | [] => (month, days + 1)
  | length :: rest =>
    if days < length then (month, days + 1) else monthOfDays (month + 1) (days - length) rest

def Date.ofDays (days : Nat) : Date :=
  let year := yearOfDays days
  let found := monthOfDays 1 (days - daysBeforeYear year) (monthLengths year)
  ⟨year, found.1, found.2⟩

end AmqpEndpoints.Time
