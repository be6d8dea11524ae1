/-!
# Punycode

A text of any characters may be coded as one of letters, digits and hyphens. Its characters below
U+0080 come first. Behind the last hyphen, numbers tell how many places are to be passed before the
next of the other characters is put in, where the places of the whole text are passed once for each
number of a character. The digits of a number have a base that changes from digit to digit, and with
the numbers that came before.
-/

set_option autoImplicit false

namespace AmqpEndpoints.Text.Punycode

def digit? (c : Char) : Option Nat :=
  if 'a' ≤ c && c ≤ 'z' then some (c.toNat - 'a'.toNat)
  else if 'A' ≤ c && c ≤ 'Z' then some (c.toNat - 'A'.toNat)
  else if '0' ≤ c && c ≤ '9' then some (c.toNat - '0'.toNat + 26)
  else none

/-- The least value at a position that is not the last digit of its number. -/
def threshold (bias position : Nat) : Nat :=
  max 1 (min 26 (position - bias))

/-- A number reduced until it is at most 455, and a bias for it that starts at the given one. -/
def reduce (number bias : Nat) : Nat :=
  if 455 < number then reduce (number / 35) (bias + 36)
  else bias + 36 * number / (number + 38)
termination_by number
decreasing_by omega

/-- The bias that follows a number, when so many characters are known after it. -/
def adapt (number count : Nat) (isFirst : Bool) : Nat :=
  let damped := if isFirst then number / 700 else number / 2
  reduce (damped + damped / count) 0

/-- What is known of a coded text while its numbers are read. -/
structure Reading where
  /-- The characters that are in their order. -/
  text : List Char
  /-- The number of the character that was put in last. -/
  code : Nat
  bias : Nat
  /-- The place from which the number that is being read counts. -/
  start : Nat
  /-- The place that the digits read so far lead to. -/
  place : Nat
  /-- What the next digit is multiplied by. -/
  weight : Nat
  /-- The position of the next digit. -/
  position : Nat
  deriving DecidableEq, Repr

namespace Reading

/-- The reading of a text of which the characters below U+0080 are known. -/
def ofKnown (text : List Char) : Reading :=
  ⟨text, 0x80, 72, 0, 0, 1, 36⟩

/-- A number that fits into 32 bits. -/
def fitting? (number : Nat) : Option Nat :=
  if number ≤ 0xFFFFFFFF then some number else none

def char? (code : Nat) : Option Char :=
  if code.isValidChar then some (Char.ofNat code) else none

def insert? (reading : Reading) (place : Nat) : Option Reading := do
  let count := reading.text.length + 1
  let code ← fitting? (reading.code + place / count)
  let c ← char? code
  let next := place % count + 1
  some ⟨reading.text.insertIdx (place % count) c, code,
    adapt (place - reading.start) count (reading.start == 0), next, next, 1, 36⟩

def step? (reading : Reading) (c : Char) : Option Reading := do
  let digit ← digit? c
  let distance ← fitting? (digit * reading.weight)
  let place ← fitting? (reading.place + distance)
  let least := threshold reading.bias reading.position
  if digit < least then reading.insert? place
  else
    let weight ← fitting? (reading.weight * (36 - least))
    some { reading with place, weight, position := reading.position + 36 }

/-- The text that was read, unless a number is unfinished. -/
def finish? (reading : Reading) : Option (List Char) :=
  if reading.weight = 1 then some reading.text else none

end Reading

/-- A coded text as the characters before its last hyphen and those behind it. A hyphen at the start
divides nothing. -/
def divide (coded : List Char) : List Char × List Char :=
  let tail := (coded.reverse.takeWhile (· != '-')).reverse
  let known := coded.take (coded.length - tail.length)
  if 1 < known.length then (known.dropLast, tail) else ([], coded)

def decode? (coded : List Char) : Option (List Char) := do
  let (known, digits) := divide coded
  (← digits.foldlM Reading.step? (.ofKnown known)).finish?

end AmqpEndpoints.Text.Punycode
