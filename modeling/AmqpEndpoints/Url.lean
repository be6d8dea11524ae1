import AmqpEndpoints.Url.Host
import AmqpEndpoints.Url.PathAndQuery

/-!
# Urls

Cutting a text into the parts of an absolute url. The schemes of the web and of files have rules of
their own; of their urls it is only checked that they are urls.
-/

set_option autoImplicit false

namespace AmqpEndpoints

/-- The parts of a url whose path starts with a slash or is empty. Texts are as they are written. -/
structure UrlParts where
  username : List Char
  password : List Char
  host : Url.Host
  port : Option UInt16
  /-- What follows the first slash of the path, where there is a path. -/
  path : Option (List Char)
  query : List Char
  deriving DecidableEq, Repr

/-- A url. -/
inductive Url where
  /-- A url whose path is a text without structure. -/
  | unstructured (scheme : String)
  /-- A url of the web or of a file. -/
  | web (scheme : String)
  | general (scheme : String) (parts : UrlParts)
  deriving DecidableEq, Repr

namespace Url

/-- Whether a character belongs to no url: a tab or a line break. -/
def isIgnored (c : Char) : Bool :=
  c == '\t' || c == '\n' || c == '\r'

/-- A text without what urls ignore: controls and spaces at its ends, tabs and line breaks. -/
def significant (text : List Char) : List Char :=
  let outer (c : Char) : Bool := c.toNat ≤ 0x20
  (((text.dropWhile outer).reverse.dropWhile outer).reverse).filter fun c => !isIgnored c

/-- Whether a character may stand in a scheme behind its first one. -/
def isSchemeCharacter (c : Char) : Bool :=
  c.isAlphanum || c == '+' || c == '-' || c == '.'

/-- The scheme of a text, in lower case, and what follows its colon. -/
def scheme? (text : List Char) : Option (String × List Char) :=
  match text.takeWhile isSchemeCharacter, text.dropWhile isSchemeCharacter with
  | first :: rest, ':' :: after =>
    if first.isAlpha then some (String.ofList ((first :: rest).map Char.toLower), after) else none
  | _, _ => none

/-- Whether a character ends the authority of a url; in urls of the web a backslash does too. -/
def endsAuthority (web : Bool) (c : Char) : Bool :=
  c == '/' || c == '?' || c == '#' || (web && c == '\\')

/-- The user information before the last `@` of an authority, and the rest. -/
def cutUserInfo (authority : List Char) : Option (List Char) × List Char :=
  if authority.contains '@' then
    let rest := (authority.reverse.takeWhile (· != '@')).reverse
    (some (authority.take (authority.length - rest.length - 1)), rest)
  else (none, authority)

/-- The host at the start of an authority, which ends at a colon outside brackets. -/
def takeHost (inside : Bool) : List Char → List Char
  | [] => []
  | c :: rest =>
    if c == ':' && !inside then []
    else c :: takeHost (if c == '[' then true else if c == ']' then false else inside) rest

/-- The port that digits write, if they write one, and what follows them. -/
def readPort (text : List Char) : Except Fault (Option UInt16 × List Char) :=
  let digits := text.takeWhile Char.isDigit
  let rest := text.dropWhile Char.isDigit
  let number := Nat.ofDigitChars 10 digits 0
  if 65535 < number then .error .invalidPort
  else
    match rest with
    | [] => .ok (if digits.isEmpty then none else some (UInt16.ofNat number), rest)
    | c :: _ =>
      if endsAuthority true c then
        .ok (if digits.isEmpty then none else some (UInt16.ofNat number), rest)
      else .error .invalidPort

/-- What an authority holds: user name, password, the text of the host, whether a port follows it,
the port, and what follows the authority. -/
structure Authority where
  username : List Char
  password : List Char
  hostText : List Char
  port : Option UInt16
  rest : List Char
  deriving DecidableEq, Repr

/-- Reads what follows the two slashes of a url. The host is checked before the port is read. -/
def readAuthority {α : Type} (web : Bool) (checkHost : List Char → Except Fault α)
    (text : List Char) : Except Fault (Authority × α) := do
  let authority := text.takeWhile fun c => !endsAuthority web c
  let after := text.drop authority.length
  let (info, hostAndPort) := cutUserInfo authority
  if info = some [] ∧ hostAndPort = [] ∧ after ≠ [] then throw .emptyHost
  let userInfo := info.getD []
  let username := userInfo.takeWhile (· != ':')
  let password := (userInfo.dropWhile (· != ':')).drop 1
  let hostText := takeHost false hostAndPort
  let afterHost := hostAndPort.drop hostText.length ++ after
  if web && hostText.isEmpty then throw .emptyHost
  let host ← checkHost hostText
  match afterHost with
  | ':' :: portText =>
    if hostText.isEmpty then throw .emptyHost
    let (port, rest) ← readPort portText
    return (⟨username, password, hostText, port, rest⟩, host)
  | rest =>
    if hostText.isEmpty ∧ (username ≠ [] ∨ password ≠ []) then throw .emptyHost
    return (⟨username, password, hostText, none, rest⟩, host)

/-- The path, behind its first slash, and the query of what follows an authority. -/
def readPathAndQuery (text : List Char) : Option (List Char) × List Char :=
  let path := text.takeWhile fun c => c != '?' && c != '#'
  let query := ((text.drop path.length).takeWhile (· != '#')).drop 1
  match path with
  | [] => (none, query)
  | '/' :: rest => (some (normalPath rest), query)
  | rest => (some (normalPath rest), query)

def webSchemes : List String := ["http", "https", "ws", "wss", "ftp"]

def isSlash (c : Char) : Bool :=
  c == '/' || c == '\\'

/-- Checks what follows the scheme of a file. A host that names a drive is part of the path. -/
def checkFile : List Char → Except Fault Unit
  | first :: second :: rest =>
    let host := rest.takeWhile fun c => !endsAuthority true c
    if isSlash first && isSlash second && !host.isEmpty && !isDrive host then Host.checkWeb host
    else .ok ()
  | _ => .ok ()

def parse (text : List Char) : Except Fault Url := do
  match scheme? (significant text) with
  | none => throw .relative
  | some (scheme, rest) =>
    if scheme = "file" then
      checkFile rest
      return .web scheme
    else if webSchemes.contains scheme then
      let _ ← readAuthority true Host.checkWeb (rest.dropWhile isSlash)
      return .web scheme
    else
      match rest with
      | '/' :: '/' :: after =>
        let (authority, host) ← readAuthority false Host.read after
        let (path, query) := readPathAndQuery authority.rest
        return .general scheme
          ⟨authority.username, authority.password, host, authority.port, path, query⟩
      | '/' :: _ =>
        let (path, query) := readPathAndQuery rest
        return .general scheme ⟨[], [], .domain [], none, path, query⟩
      | _ => return .unstructured scheme

end Url

end AmqpEndpoints
