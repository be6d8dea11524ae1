/-!
# Unsigned decimal numbers

A number is written as ASCII digits, with an optional `+` in front, and must not exceed a limit.
-/

set_option autoImplicit false

namespace AmqpEndpoints.Number

/-- Why a text is not a number within a limit. -/
inductive Fault where
  | empty
  | notADigit
  | tooLarge
  deriving DecidableEq, Repr

/-- What is told about a text that is not a number. -/
def Fault.message : Fault → String
  | .empty => "cannot parse integer from empty string"
  | .notADigit => "invalid digit found in string"
  | .tooLarge => "number too large to fit in target type"

def digit? (c : Char) : Option Nat :=
  if '0' ≤ c && c ≤ '9' then some (c.toNat - '0'.toNat) else none

/-- The number that digits add to the number read so far; the first character that is no digit or
passes the limit decides the fault. -/
def readDigits (limit value : Nat) : List Char → Except Fault Nat
  | [] => .ok value
  | c :: rest =>
    match digit? c with
    | none => .error .notADigit
    | some d =>
      if value * 10 + d ≤ limit then readDigits limit (value * 10 + d) rest else .error .tooLarge

def read (limit : Nat) : List Char → Except Fault Nat
  | [] => .error .empty
  | ['+'] => .error .notADigit
  | '+' :: rest => readDigits limit 0 rest
  | text => readDigits limit 0 text

/-- The number a text writes, if it is at most the limit. -/
def unsigned (limit : Nat) (text : String) : Except Fault Nat :=
  read limit text.toList

/-- The greatest numbers of 8, 16, 32 and 64 bits. -/
def limit8 : Nat := 0xFF

@[inherit_doc limit8] def limit16 : Nat := 0xFFFF

@[inherit_doc limit8] def limit32 : Nat := 0xFFFFFFFF

@[inherit_doc limit8] def limit64 : Nat := 0xFFFFFFFFFFFFFFFF

end AmqpEndpoints.Number
