/-!
# Shortest decimals of binary floating-point numbers

A finite number is `mantissa * 2 ^ exponent`. The reals that round to it form an interval, whose
ends belong to it when the mantissa is even. Its shortest decimal is the point of the coarsest
decimal grid in that interval; of two such points the nearer one is taken, and of two equally near
ones the upper.
-/

set_option autoImplicit false

namespace AmqpEndpoints.Number

/-- A binary interchange format. -/
structure BinaryFormat where
  fractionBits : Nat
  exponentBits : Nat
  deriving DecidableEq, Repr

/-- The format of 32 bits. -/
def binary32 : BinaryFormat := ⟨23, 8⟩

/-- The format of 64 bits. -/
def binary64 : BinaryFormat := ⟨52, 11⟩

/-- A positive number `mantissa * 2 ^ exponent`. -/
structure Positive where
  mantissa : Nat
  exponent : Int
  /-- Whether the number below is half as far away as the number above. -/
  closeBelow : Bool
  deriving DecidableEq, Repr

/-- What the bits of a format stand for, apart from the sign. -/
inductive Magnitude where
  | zero
  | positive (number : Positive)
  | infinite
  | notANumber
  deriving DecidableEq, Repr

namespace BinaryFormat

def isNegative (format : BinaryFormat) (bits : Nat) : Bool :=
  bits.testBit (format.fractionBits + format.exponentBits)

def fractions (format : BinaryFormat) : Nat :=
  1 <<< format.fractionBits

/-- How many exponents there are, with the ones that mark special numbers. -/
def exponents (format : BinaryFormat) : Nat :=
  1 <<< format.exponentBits

def leastExponent (format : BinaryFormat) : Int :=
  2 - (format.exponents / 2 : Nat) - format.fractionBits

/-- The number that bits stand for, apart from the sign. -/
def magnitude (format : BinaryFormat) (bits : Nat) : Magnitude :=
  let fraction := bits % format.fractions
  let biased := bits / format.fractions % format.exponents
  if biased + 1 = format.exponents then
    if fraction = 0 then .infinite else .notANumber
  else if biased = 0 then
    if fraction = 0 then .zero else .positive ⟨fraction, format.leastExponent, false⟩
  else
    .positive ⟨fraction + format.fractions, format.leastExponent + (biased - 1 : Nat),
      fraction = 0 ∧ 1 < biased⟩

end BinaryFormat

/-- A decimal `digits * 10 ^ exponent`. -/
structure Decimal where
  digits : Nat
  exponent : Int
  deriving DecidableEq, Repr

namespace Positive

/-- The interval that rounds to a number, with the number: `low / scale`, `middle / scale` and
`high / scale`, and whether the ends belong to it. -/
structure Interval where
  low : Nat
  middle : Nat
  high : Nat
  scale : Nat
  closed : Bool
  deriving DecidableEq, Repr

def interval (number : Positive) : Interval :=
  let up := 1 <<< (number.exponent - 2).toNat
  let lower := if number.closeBelow then 1 else 2
  ⟨(4 * number.mantissa - lower) * up, 4 * number.mantissa * up, (4 * number.mantissa + 2) * up,
    1 <<< (2 - number.exponent).toNat, number.mantissa % 2 = 0⟩

/-- Whether `point * grid` lies in an interval, for numerator and denominator of the grid. -/
def Interval.contains (range : Interval) (numerator denominator point : Nat) : Bool :=
  let place := point * numerator * range.scale
  0 < point &&
    if range.closed then
      range.low * denominator ≤ place && place ≤ range.high * denominator
    else range.low * denominator < place && place < range.high * denominator

/-- The point of the grid `10 ^ exponent` in an interval that is nearest to the middle. -/
def Interval.pointOn (range : Interval) (exponent : Int) : Option Nat :=
  let numerator := Nat.pow 10 exponent.toNat
  let denominator := Nat.pow 10 (-exponent).toNat
  let below := range.middle * denominator / (range.scale * numerator)
  let belowIn := range.contains numerator denominator below
  let aboveIn := range.contains numerator denominator (below + 1)
  if belowIn && aboveIn then
    if 2 * range.middle * denominator < (2 * below + 1) * numerator * range.scale then some below
    else some (below + 1)
  else if belowIn then some below
  else if aboveIn then some (below + 1)
  else none

/-- The first grid with a point in an interval, from an exponent downwards. -/
def Interval.firstPoint (range : Interval) : Nat → Int → Decimal
  | 0, exponent => ⟨0, exponent⟩
  | steps + 1, exponent =>
    match range.pointOn exponent with
    | some point => ⟨point, exponent⟩
    | none => range.firstPoint steps (exponent - 1)

/-- An exponent whose grid is too coarse for an interval. -/
def Interval.coarse (range : Interval) : Int :=
  if range.scale ≤ range.middle then
    ((Nat.toDigits 10 (range.middle / range.scale)).length : Int) + 1
  else 2 - ((Nat.toDigits 10 (range.scale / range.middle)).length : Int)

/-- The shortest decimal of a number of a format. A number of `n` fraction bits has fewer than
`n + 4` digits, and the search starts at most three digits above them. -/
def shortest (format : BinaryFormat) (number : Positive) : Decimal :=
  number.interval.firstPoint (format.fractionBits + 7) number.interval.coarse

end Positive

/-!
## Texts
-/

/-- How numbers are written. -/
structure FloatStyle where
  /-- Whether a number without fraction is written with `.0`. -/
  fraction : Bool
  /-- Whether a number whose first digit stands at a power of ten is written without exponent. -/
  positional : Int → Bool

namespace Decimal

/-- The power of ten of the first digit. -/
def leading (decimal : Decimal) : Int :=
  decimal.exponent + ((Nat.toDigits 10 decimal.digits).length - 1 : Nat)

def positionalText (decimal : Decimal) (fraction : Bool) : List Char :=
  let digits := Nat.toDigits 10 decimal.digits
  if 0 ≤ decimal.exponent then
    digits ++ List.replicate decimal.exponent.toNat '0' ++ (if fraction then ['.', '0'] else [])
  else
    let places := (-decimal.exponent).toNat
    if places < digits.length then
      digits.take (digits.length - places) ++ '.' :: digits.drop (digits.length - places)
    else '0' :: '.' :: List.replicate (places - digits.length) '0' ++ digits

def exponentText (decimal : Decimal) : List Char :=
  let mantissa :=
    match Nat.toDigits 10 decimal.digits with
    | first :: second :: rest => first :: '.' :: second :: rest
    | digits => digits
  let sign := if decimal.leading < 0 then ['-'] else []
  mantissa ++ 'e' :: sign ++ Nat.toDigits 10 decimal.leading.natAbs

end Decimal

def FloatStyle.text (style : FloatStyle) (format : BinaryFormat) (bits : Nat) : String :=
  let sign := if format.isNegative bits then "-" else ""
  match format.magnitude bits with
  | .notANumber => "NaN"
  | .infinite => sign ++ "inf"
  | .zero => sign ++ if style.fraction then "0.0" else "0"
  | .positive number =>
    let decimal := number.shortest format
    sign ++ String.ofList (
      if style.positional decimal.leading then decimal.positionalText style.fraction
      else decimal.exponentText)

end AmqpEndpoints.Number
