/-!
# Base64

Three bytes are written as four symbols of six bits each; `=` fills up the last group. Decoding
accepts exactly the canonical form: the padding is there and the bits that no byte uses are zero.
The first fault is told with its offset.
-/

set_option autoImplicit false

namespace AmqpEndpoints.Text.Base64

def pad : UInt8 := 61

def symbol (value : Nat) : UInt8 :=
  if value < 26 then UInt8.ofNat (65 + value)
  else if value < 52 then UInt8.ofNat (97 + (value - 26))
  else if value < 62 then UInt8.ofNat (48 + (value - 52))
  else if value = 62 then 43
  else 47

def value? (byte : UInt8) : Option Nat :=
  let code := byte.toNat
  if 65 ≤ code ∧ code ≤ 90 then some (code - 65)
  else if 97 ≤ code ∧ code ≤ 122 then some (code - 97 + 26)
  else if 48 ≤ code ∧ code ≤ 57 then some (code - 48 + 52)
  else if code = 43 then some 62
  else if code = 47 then some 63
  else none

def encode : List UInt8 → List UInt8
  | a :: b :: c :: rest =>
    symbol (a.toNat / 4) :: symbol (a.toNat % 4 * 16 + b.toNat / 16) ::
      symbol (b.toNat % 16 * 4 + c.toNat / 64) :: symbol (c.toNat % 64) :: encode rest
  | [a, b] =>
    [symbol (a.toNat / 4), symbol (a.toNat % 4 * 16 + b.toNat / 16), symbol (b.toNat % 16 * 4), pad]
  | [a] => [symbol (a.toNat / 4), symbol (a.toNat % 4 * 16), pad, pad]
  | [] => []

/-- Why symbols are not the canonical form of any bytes. -/
inductive Fault where
  /-- A byte that may not stand at an offset. -/
  | invalidSymbol (byte : UInt8) (offset : Nat)
  /-- The last group has too few symbols; the number counts all symbols. -/
  | invalidLength (count : Nat)
  /-- A last symbol with bits that no byte uses. -/
  | invalidLastSymbol (byte : UInt8) (offset : Nat)
  /-- The last group is not filled up as it should be. -/
  | invalidPadding
  deriving DecidableEq, Repr

/-- What is told about symbols that are not canonical. -/
def Fault.message : Fault → String
  | .invalidSymbol byte offset =>
    "Invalid symbol " ++ toString byte.toNat ++ ", offset " ++ toString offset ++ "."
  | .invalidLength count => "Invalid input length: " ++ toString count
  | .invalidLastSymbol byte offset =>
    "Invalid last symbol " ++ toString byte.toNat ++ ", offset " ++ toString offset ++ "."
  | .invalidPadding => "Invalid padding"

def values (offset : Nat) : List UInt8 → Except Fault (List Nat)
  | [] => .ok []
  | byte :: rest =>
    match value? byte with
    | none => .error (.invalidSymbol byte offset)
    | some value => (values (offset + 1) rest).map (value :: ·)

/-- The bytes of six-bit numbers, and the value of the bits left over. -/
def gather : List Nat → List UInt8 × Nat
  | a :: b :: c :: d :: _ =>
    ([UInt8.ofNat (a * 4 + b / 16), UInt8.ofNat (b % 16 * 16 + c / 4),
      UInt8.ofNat (c % 4 * 64 + d)], 0)
  | [a, b, c] => ([UInt8.ofNat (a * 4 + b / 16), UInt8.ofNat (b % 16 * 16 + c / 4)], c % 4)
  | [a, b] => ([UInt8.ofNat (a * 4 + b / 16)], b % 16)
  | _ => ([], 0)

/-- The bytes of the last group, which has at most four symbols and starts at an offset. -/
def decodeLast (offset : Nat) (group : List UInt8) : Except Fault (List UInt8) :=
  let symbols := group.takeWhile (· != pad)
  let padding := group.dropWhile (· != pad)
  match values offset symbols with
  | .error fault => .error fault
  | .ok numbers =>
    if padding ≠ [] ∧ (symbols.length < 2 ∨ padding.any (· != pad)) then
      .error (.invalidSymbol pad (offset + symbols.length))
    else if (offset ≠ 0 ∨ group ≠ []) ∧ symbols.length < 2 then
      .error (.invalidLength (offset + symbols.length))
    else if group.length % 4 ≠ 0 then .error .invalidPadding
    else
      let (bytes, unused) := gather numbers
      match symbols.getLast? with
      | some last =>
        if unused ≠ 0 then .error (.invalidLastSymbol last (offset + symbols.length - 1))
        else .ok bytes
      | none => .ok bytes

/-- The bytes of symbols that start at an offset: every group of four that something follows is
full, and the rest is the last group. -/
def decodeFrom (offset : Nat) : List UInt8 → Except Fault (List UInt8)
  | a :: b :: c :: d :: e :: rest =>
    match values offset [a, b, c, d] with
    | .error fault => .error fault
    | .ok numbers =>
      (decodeFrom (offset + 4) (e :: rest)).map fun bytes => (gather numbers).1 ++ bytes
  | group => decodeLast offset group

/-- A byte left over behind full groups that is neither a symbol nor padding. -/
def stray? (symbols : List UInt8) : Option UInt8 :=
  if symbols.length % 4 = 1 then
    symbols.getLast?.filter fun last => last != pad && (value? last).isNone
  else none

/-- The bytes that symbols write. A stray byte at the end is told before any other fault. -/
def decode (symbols : List UInt8) : Except Fault (List UInt8) :=
  match stray? symbols with
  | some byte => .error (.invalidSymbol byte (symbols.length - 1))
  | none => decodeFrom 0 symbols

end AmqpEndpoints.Text.Base64
