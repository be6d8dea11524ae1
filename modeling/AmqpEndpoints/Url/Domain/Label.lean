import AmqpEndpoints.Text.Punycode
import AmqpEndpoints.Url.Domain.Composition
import AmqpEndpoints.Url.Domain.Direction
import AmqpEndpoints.Url.Domain.Joining
import AmqpEndpoints.Url.Domain.Replacement

/-!
# Labels of domains

Which texts may stand between the full stops of a domain, and which of them are codes for others.
-/

set_option autoImplicit false

namespace AmqpEndpoints.Url.Domain

/-!
## Codes
-/

/-- Whether a character has a number below U+0080. -/
def isAscii (c : Char) : Bool :=
  c.toNat < 0x80

/-- What a label says, where one that starts with `xn--` is a code for others. -/
def decode? : List Char → Option (List Char)
  | 'x' :: 'n' :: '-' :: '-' :: coded =>
    if coded.length ≤ 2000 && coded.all isAscii && (coded.getLast?.any (· != '-')) then
      match Text.Punycode.decode? coded with
      | some label => if label.all isPlain && composed label == label then some label else none
      | none => none
    else none
  | label => some label

/-!
## Marks and joiners
-/

/-- Whether letters on both sides of a place join each other across it, given what stands before the
place, last one first, and what stands behind it. -/
def joinsAcross (before after : List Char) : Bool :=
  let next? (text : List Char) : Option Char := text.find? fun c => joining c ≠ .transparent
  (next? before).any (fun c => (joining c).reachesNext) &&
    (next? after).any fun c => (joining c).reachesPrevious

/-- Whether a character that is a joiner may stand between others. A virama may have one behind it,
and one that keeps letters apart may stand between letters that would join. -/
def joinerFits (before : List Char) (c : Char) (after : List Char) : Bool :=
  if c = '\u200c' || c = '\u200d' then
    match before with
    | [] => false
    | previous :: _ =>
      combiningClass previous == viramaClass || (c = '\u200c' && joinsAcross before after)
  else true

/-- Whether all joiners of a text may stand there, given what stands before it, last one first. -/
def joinersFit (before : List Char) : List Char → Bool
  | [] => true
  | c :: after => joinerFits before c after && joinersFit (c :: before) after

/-- Whether a label that says a text is well formed, apart from its directions. -/
def isLabel (label : List Char) : Bool :=
  !label.head?.any isMark && joinersFit [] label &&
    (label.all isAscii || label.length ≤ 1000)

/-!
## Directions
-/

/-- Whether a direction makes a whole domain one that is also written from right to left. -/
def Direction.isRightward : Direction → Bool
  | .right | .arabicLetter | .arabicNumber => true
  | _ => false

/-- Directions that may stand anywhere behind the first character of a label. -/
def Direction.isNeutral : Direction → Bool
  | .europeanNumber | .europeanSeparator | .europeanTerminator | .commonSeparator
  | .otherNeutral | .boundaryNeutral | .nonspacingMark => true
  | _ => false

/-- Whether directions behind the first one fit to a label that is written from left to right: it
ends in a letter or a number, after which only marks stand. -/
def tailFitsLeft (directions : List Direction) : Bool :=
  match directions.reverse.dropWhile (· = .nonspacingMark) with
  | [] => true
  | last :: before =>
    (last = .left || last = .europeanNumber) &&
      before.all fun direction => direction = .left || direction.isNeutral

/-- Whether directions behind the first one fit to a label that is written from right to left: it
ends in a letter or a number, after which only marks stand, and its numbers are of one kind. -/
def tailFitsRight (directions : List Direction) : Bool :=
  match directions.reverse.dropWhile (· = .nonspacingMark) with
  | [] => true
  | last :: before =>
    (last.isRightward || last = .europeanNumber) &&
      before.all (fun direction => direction.isRightward || direction.isNeutral) &&
      !((last :: before).contains .europeanNumber && (last :: before).contains .arabicNumber)

/-- Whether the directions of a label fit to a domain that is also written from right to left. -/
def directionsFit : List Direction → Bool
  | [] => true
  | .left :: tail => tailFitsLeft tail
  | .right :: tail => tailFitsRight tail
  | .arabicLetter :: tail => tailFitsRight tail
  | _ => false

end AmqpEndpoints.Url.Domain
