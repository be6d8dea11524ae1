/-!
# UTF-8

Bytes are cut into pieces: well-formed characters, the longest beginnings of characters that a
byte breaks off, and a beginning that the end of the bytes cuts off. Strict decoding refuses the
first piece that is no character and says where it stands; lossy decoding writes U+FFFD for it.

In percent form a byte is written as `%` and two hexadecimal digits. A `%` without two such digits
stands for itself.
-/

set_option autoImplicit false

namespace AmqpEndpoints.Text.Utf8

def encodeList (text : List Char) : List UInt8 :=
  text.flatMap String.utf8EncodeChar

def encode (text : String) : List UInt8 :=
  encodeList text.toList

/-- A stretch of bytes as a decoder sees it. -/
inductive Piece where
  /-- The bytes of one character. -/
  | character (c : Char)
  /-- The longest beginning of a character, followed by a byte that does not continue it. -/
  | malformed (size : Nat)
  /-- The beginning of a character at the end of the bytes. -/
  | truncated (size : Nat)
  deriving DecidableEq, Repr

def Piece.size : Piece → Nat
  | .character c => c.utf8Size
  | .malformed size => size
  | .truncated size => size

def within (low high byte : UInt8) : Bool :=
  low ≤ byte && byte ≤ high

def continues (byte : UInt8) : Bool :=
  within 0x80 0xBF byte

/-- What a first byte says about the bytes after it: how many there are, and the range of the
second, which leaves out overlong forms, surrogates and numbers above U+10FFFF. -/
inductive Lead where
  | one
  | two
  | three (low high : UInt8)
  | four (low high : UInt8)
  | none
  deriving DecidableEq, Repr

/-- The kind of a first byte. -/
def Lead.ofByte (byte : UInt8) : Lead :=
  if byte < 0x80 then .one
  else if within 0xC2 0xDF byte then .two
  else if byte == 0xE0 then .three 0xA0 0xBF
  else if byte == 0xED then .three 0x80 0x9F
  else if within 0xE1 0xEF byte then .three 0x80 0xBF
  else if byte == 0xF0 then .four 0x90 0xBF
  else if within 0xF1 0xF3 byte then .four 0x80 0xBF
  else if byte == 0xF4 then .four 0x80 0x8F
  else .none

/-- The character whose number has the low bits `lead` of its first byte and six bits of each byte
that follows. -/
def compose (lead : Nat) (following : List UInt8) : Char :=
  Char.ofNat (following.foldl (fun number byte => number * 64 + byte.toNat % 64) lead)

def pieces : List UInt8 → List Piece
  | [] => []
  | first :: rest =>
    match Lead.ofByte first with
    | .none => .malformed 1 :: pieces rest
    | .one => .character (compose first.toNat []) :: pieces rest
    | .two =>
      match rest with
      | [] => [.truncated 1]
      | second :: rest₂ =>
        if continues second then
          .character (compose (first.toNat % 32) [second]) :: pieces rest₂
        else .malformed 1 :: pieces (second :: rest₂)
    | .three low high =>
      match rest with
      | [] => [.truncated 1]
      | second :: rest₂ =>
        if within low high second then
          match rest₂ with
          | [] => [.truncated 2]
          | third :: rest₃ =>
            if continues third then
              .character (compose (first.toNat % 16) [second, third]) :: pieces rest₃
            else .malformed 2 :: pieces (third :: rest₃)
        else .malformed 1 :: pieces (second :: rest₂)
    | .four low high =>
      match rest with
      | [] => [.truncated 1]
      | second :: rest₂ =>
        if within low high second then
          match rest₂ with
          | [] => [.truncated 2]
          | third :: rest₃ =>
            if continues third then
              match rest₃ with
              | [] => [.truncated 3]
              | fourth :: rest₄ =>
                if continues fourth then
                  .character (compose (first.toNat % 8) [second, third, fourth]) :: pieces rest₄
                else .malformed 3 :: pieces (fourth :: rest₄)
            else .malformed 2 :: pieces (third :: rest₃)
        else .malformed 1 :: pieces (second :: rest₂)

/-- Where and how bytes fail to be UTF-8. -/
inductive Fault where
  /-- The bytes at an index are no beginning that can go on. -/
  | malformed (size index : Nat)
  /-- The bytes end inside the character that starts at an index. -/
  | truncated (index : Nat)
  deriving DecidableEq, Repr

/-- What is told about bytes that are not UTF-8. -/
def Fault.message : Fault → String
  | .malformed size index =>
    "invalid utf-8 sequence of " ++ toString size ++ " bytes from index " ++ toString index
  | .truncated index => "incomplete utf-8 byte sequence from index " ++ toString index

/-- The characters of a list of pieces that starts at an index, if all of them are characters. -/
def characters (index : Nat) : List Piece → Except Fault (List Char)
  | [] => .ok []
  | .character c :: rest => (characters (index + c.utf8Size) rest).map (c :: ·)
  | .malformed size :: _ => .error (.malformed size index)
  | .truncated _ :: _ => .error (.truncated index)

/-- The text of bytes that are UTF-8. -/
def decode (bytes : List UInt8) : Except Fault String :=
  (characters 0 (pieces bytes)).map String.ofList

/-- The text of bytes, with U+FFFD for each piece that is no character. -/
def decodeLossy (bytes : List UInt8) : String :=
  String.ofList <| (pieces bytes).map fun
    | .character c => c
    | .malformed _ => '\uFFFD'
    | .truncated _ => '\uFFFD'

end AmqpEndpoints.Text.Utf8

namespace AmqpEndpoints.Text

def hexValue? (c : Char) : Option Nat :=
  if '0' ≤ c && c ≤ '9' then some (c.toNat - '0'.toNat)
  else if 'a' ≤ c && c ≤ 'f' then some (c.toNat - 'a'.toNat + 10)
  else if 'A' ≤ c && c ≤ 'F' then some (c.toNat - 'A'.toNat + 10)
  else none

namespace Percent

/-- The byte that a percent form at the start of a text stands for. -/
def byte? (high low : Char) : Option UInt8 :=
  match hexValue? high, hexValue? low with
  | some first, some second => some (UInt8.ofNat (first * 16 + second))
  | _, _ => none

/-- The bytes of a text whose percent forms are replaced by the bytes they stand for. -/
def decode : List Char → List UInt8
  | '%' :: high :: low :: rest =>
    match byte? high low with
    | some byte => byte :: decode rest
    | none => String.utf8EncodeChar '%' ++ decode (high :: low :: rest)
  | c :: rest => String.utf8EncodeChar c ++ decode rest
  | [] => []

end Percent

end AmqpEndpoints.Text
