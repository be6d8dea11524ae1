import AmqpEndpoints.Text.Utf8

/-!
# Paths and queries of urls

A path is a list of segments. A segment of one dot stands for the place it is at, and one of two
dots for the place above; they vanish when a path is read. Going up stops at a segment that names a
drive.

A query is a list of pairs, with `&` between pairs and `=` between name and value. A plus sign
stands for a space, and bytes are written in percent form.
-/

set_option autoImplicit false

namespace AmqpEndpoints.Url

/-!
## Paths
-/

def plainDots : List Char → List Char
  | '%' :: '2' :: 'e' :: rest => '.' :: plainDots rest
  | '%' :: '2' :: 'E' :: rest => '.' :: plainDots rest
  | c :: rest => c :: plainDots rest
  | [] => []

def isSingleDot (segment : List Char) : Bool :=
  plainDots segment == ['.']

def isDoubleDot (segment : List Char) : Bool :=
  plainDots segment == ['.', '.']

/-- Whether a text names a drive. -/
def isDrive : List Char → Bool
  | [letter, mark] => letter.isAlpha && (mark == ':' || mark == '|')
  | _ => false

/-- Whether a segment names a drive, and perhaps a place on it behind a backslash. -/
def startsAtDrive (segment : List Char) : Bool :=
  isDrive (segment.takeWhile (· != '\\'))

/-- The segments above the last one, which comes first; one that starts at a drive stays. -/
def above : List (List Char) → List (List Char)
  | [] => []
  | last :: rest => if startsAtDrive last then last :: rest else rest

/-- The segments of a path without dots, the last one first, when those before it are given. -/
def collapse (before : List (List Char)) : List (List Char) → List (List Char)
  | [] => before
  | [last] =>
    if isDoubleDot last then [] :: above before
    else if isSingleDot last then [] :: before
    else last :: before
  | segment :: rest =>
    if isDoubleDot segment then collapse (above before) rest
    else if isSingleDot segment then collapse before rest
    else collapse (segment :: before) rest

/-- What follows the first slash of a path, without dots. -/
def normalPath (text : List Char) : List Char :=
  ['/'].intercalate (collapse [] (text.splitOn '/')).reverse

/-!
## Queries
-/

def queryText (written : List Char) : String :=
  Text.Utf8.decodeLossy (Text.Percent.decode (written.map fun c => if c = '+' then ' ' else c))

def queryPair (part : List Char) : String × String :=
  (queryText (part.takeWhile (· != '=')), queryText ((part.dropWhile (· != '=')).drop 1))

def queryPairs (query : List Char) : List (String × String) :=
  ((query.splitOn '&').filter fun part => !part.isEmpty).map queryPair

/-- The first value of a name in a query. -/
def queryValue? (query : List Char) (name : String) : Option String :=
  ((queryPairs query).find? fun pair => pair.1 == name).map (·.2)

end AmqpEndpoints.Url
