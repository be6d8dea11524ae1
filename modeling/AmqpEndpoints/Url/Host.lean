import AmqpEndpoints.Text.Search
import AmqpEndpoints.Text.Utf8
import AmqpEndpoints.Url.Domain.Label

/-!
# Hosts of urls

Which texts may stand for the host of a url. Urls of the web have stricter hosts than others: a host
of theirs is a domain or an address, while other urls take almost any text.

A domain of the web may be written with characters of any script. Each character stands for itself
or for others, and what they stand for is composed; the labels that come of this have to be well
formed, each for itself, and as to the directions of the whole domain.
-/

set_option autoImplicit false

namespace AmqpEndpoints.Url

/-- Why a text is not a url. -/
inductive Fault where
  | relative
  | emptyHost
  | invalidPort
  | invalidIpv6
  | invalidIpv4
  | invalidDomainCharacter
  | invalidDomain
  deriving DecidableEq, Repr

/-- What is told about a text that is not a url. -/
def Fault.message : Fault → String
  | .relative => "relative URL without a base"
  | .emptyHost => "empty host"
  | .invalidPort => "invalid port number"
  | .invalidIpv6 => "invalid IPv6 address"
  | .invalidIpv4 => "invalid IPv4 address"
  | .invalidDomainCharacter => "invalid domain character"
  | .invalidDomain => "invalid international domain name"

/-- Whether a character may not stand in a host as it is. -/
def isForbiddenInHost (c : Char) : Bool :=
  ['\x00', '\t', '\n', '\r', ' ', '#', '/', ':', '<', '>', '?', '@', '[', '\\', ']', '^',
    '|'].contains c

/-- Whether a character may not stand in a domain of the web. -/
def isForbiddenInDomain (c : Char) : Bool :=
  isForbiddenInHost c || c.toNat < 0x20 || c == '\x7F' || c == '%'

/-!
## Domains
-/

namespace Domain

/-- What the characters of a domain stand for, in composed form. -/
def image? (domain : List Char) : Option (List Char) := do
  let images ← domain.mapM charImage?
  some (composed images.flatten)

/-- Whether labels fit together as to their directions. -/
def directionsFitTogether (labels : List (List Char)) : Bool :=
  let directions := labels.map fun label => label.map direction
  !directions.flatten.any Direction.isRightward || directions.all directionsFit

/-- The domain that a text writes, with labels in code left as they are. -/
def read? (text : List Char) : Option (List Char) := do
  let domain ← image? text
  if domain.any isForbiddenInDomain then none
  else
    let labels ← (domain.splitOn '.').mapM decode?
    if labels.all isLabel && directionsFitTogether labels then some domain else none

end Domain

/-!
## Addresses
-/

/-- Whether a text is one of the groups between the colons of an address of version 6. -/
def isHexGroup (text : List Char) : Bool :=
  !text.isEmpty && text.length ≤ 4 && text.all fun c => (Text.hexValue? c).isSome

/-- Whether a text is a number up to 255 without leading zero. -/
def isOctet (text : List Char) : Bool :=
  !text.isEmpty && text.length ≤ 3 && text.all Char.isDigit &&
    Nat.ofDigitChars 10 text 0 ≤ 255 && (text.length == 1 || text.head? != some '0')

/-- Whether a text is an address of version 4 as it may end one of version 6. -/
def isDottedQuad (text : List Char) : Bool :=
  let parts := text.splitOn '.'
  parts.length == 4 && parts.all isOctet

/-- How many groups of sixteen bits a list of groups stands for; the last may be dotted. -/
def groupCount (dotted : Bool) : List (List Char) → Option Nat
  | [] => some 0
  | [last] =>
    if isHexGroup last then some 1
    else if dotted && isDottedQuad last then some 2
    else none
  | group :: rest => if isHexGroup group then (groupCount dotted rest).map (· + 1) else none

def groupsOf (text : List Char) : List (List Char) :=
  if text.isEmpty then [] else text.splitOn ':'

/-- Whether a text is an address of version 6: eight groups, or fewer around one double colon. -/
def isIpv6 (text : List Char) : Bool :=
  match Text.cutAt? [':', ':'] text with
  | none => groupCount true (groupsOf text) == some 8
  | some (left, right) =>
    match groupCount false (groupsOf left), groupCount true (groupsOf right) with
    | some before, some after => before + after ≤ 7
    | _, _ => false

/-- The value of a part of an address of version 4, where a base is marked by `0x` or `0`. A part
that is no number has none. -/
def ipv4Part? (text : List Char) : Option Nat :=
  let digits (base : Nat) (rest : List Char) : Option Nat :=
    rest.foldlM (fun value c => do
      let digit ← Text.hexValue? c
      if digit < base then some (value * base + digit) else none) 0
  match text with
  | [] => none
  | '0' :: 'x' :: rest => digits 16 rest
  | '0' :: 'X' :: rest => digits 16 rest
  | '0' :: second :: rest => digits 8 (second :: rest)
  | rest => digits 10 rest

/-- The labels of a domain, without an empty one at its end. -/
def labels (domain : List Char) : List (List Char) :=
  let all := domain.splitOn '.'
  if 1 < all.length && all.getLast? == some [] then all.dropLast else all

/-- Whether a domain has to be an address of version 4, because its last label is a number. -/
def endsInNumber (domain : List Char) : Bool :=
  match (labels domain).getLast? with
  | none => false
  | some last => !last.isEmpty && (last.all Char.isDigit || (ipv4Part? last).isSome)

/-- Whether a domain is an address of version 4. -/
def isIpv4 (domain : List Char) : Bool :=
  let parts := (labels domain).map ipv4Part?
  parts.length ≤ 4 &&
    match parts.getLast? with
    | some (some last) =>
      last < Nat.pow 256 (5 - parts.length) &&
        parts.dropLast.all fun part => part.any (· ≤ 255)
    | _ => false

/-!
## Hosts
-/

/-- The host of a url. -/
inductive Host where
  /-- A name, as it is written. -/
  | domain (text : List Char)
  /-- An address of version 6. -/
  | ipv6
  deriving DecidableEq, Repr

/-- The text between the brackets of an address of version 6. -/
def bracketed? : List Char → Option (Except Fault (List Char))
  | '[' :: rest =>
    some (if rest.getLast? = some ']' then .ok rest.dropLast else .error .invalidIpv6)
  | _ => none

/-- The address between brackets. -/
def readIpv6 (inner : Except Fault (List Char)) : Except Fault Host := do
  if isIpv6 (← inner) then .ok .ipv6 else .error .invalidIpv6

def Host.read (text : List Char) : Except Fault Host :=
  match bracketed? text with
  | some inner => readIpv6 inner
  | none =>
    if text.any isForbiddenInHost then .error .invalidDomainCharacter else .ok (.domain text)

def Host.checkWeb (text : List Char) : Except Fault Unit :=
  match bracketed? text with
  | some inner => (readIpv6 inner).map fun _ => ()
  | none =>
    match Text.Utf8.decode (Text.Percent.decode text) with
    | .error _ => .error .invalidDomain
    | .ok name =>
      match Domain.read? name.toList with
      | none => .error .invalidDomain
      | some [] => .error .emptyHost
      | some image =>
        if endsInNumber image && !isIpv4 image then .error .invalidIpv4 else .ok ()

end AmqpEndpoints.Url
