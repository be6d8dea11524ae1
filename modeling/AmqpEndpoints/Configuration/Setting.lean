/-!
# Configured values

Configuration comes as a tree of values. A `Record` says how the members of an object become a
value: which members it reads, which of them it needs and what stands for those it can do without.
Members that no record reads are passed over. A member of the wrong type is told before a missing
one.

The members of a record may also be listed without their names, in the order in which the record
reads them. Members at the end of the list that have a default may then be left out.
-/

set_option autoImplicit false

namespace AmqpEndpoints.Configuration

/-- A tree of configured values. The members of an object are in order of their names. -/
inductive Setting where
  | null
  | flag (value : Bool)
  /-- A whole number without sign, of at most 64 bits. -/
  | natural (value : Nat)
  /-- Any other number. -/
  | number
  | text (value : String)
  | list (items : List Setting)
  | object (members : List (String × Setting))
  deriving Repr, Inhabited

/-- Why a setting does not describe what it should. -/
inductive Fault where
  | invalidType
  | invalidValue
  | invalidLength (length : Nat)
  | missingField (name : String)
  | unknownVariant (name : String)
  deriving DecidableEq, Repr

def Fault.message : Fault → String
  | .invalidType => "invalid type"
  | .invalidValue => "invalid value"
  | .invalidLength length => "invalid length " ++ toString length
  | .missingField name => "missing field `" ++ name ++ "`"
  | .unknownVariant name => "unknown variant `" ++ name ++ "`"

/-- Where a setting stands. Inside a setting with a tag there are more ways to write a variant. -/
inductive Place where
  | outside
  | inside
  deriving DecidableEq, Repr

abbrev Reader (α : Type) := Place → Setting → Except Fault α

abbrev Members := List (String × Setting)

def member? (members : Members) (name : String) : Option Setting :=
  (members.find? fun member => member.1 == name).map (·.2)

def readText : Reader String
  | _, .text value => .ok value
  | _, _ => .error .invalidType

def readFlag : Reader Bool
  | _, .flag value => .ok value
  | _, _ => .error .invalidType

def readOptional {α : Type} (read : Reader α) : Reader (Option α)
  | _, .null => .ok none
  | place, setting => (read place setting).map some

def readList {α : Type} (read : Reader α) : Reader (List α)
  | place, .list items => items.mapM (read place)
  | _, _ => .error .invalidType

/-- Variants with their names, in order. -/
abbrev Variants (α : Type) := List (String × α)

def named {α : Type} (variants : Variants α) (name : String) : Except Fault α :=
  match variants.find? fun variant => variant.1 == name with
  | some variant => .ok variant.2
  | none => .error (.unknownVariant name)

def readNothing : Reader Unit
  | _, .null => .ok ()
  | .inside, .object [] => .ok ()
  | _, _ => .error .invalidType

/-- Reads the name of one of several variants, which may stand over an empty content. -/
def readName {α : Type} (variants : Variants α) : Reader α
  | _, .text name => named variants name
  | place, .object [(name, content)] => do
    let value ← named variants name
    readNothing place content
    return value
  | _, .object _ => .error .invalidValue
  | _, _ => .error .invalidType

/-- Reads the tag that tells one of several variants: its name, or inside another tagged setting
also its number in their order. -/
def readTag {α : Type} (variants : Variants α) : Reader α
  | _, .text name => named variants name
  | .inside, .natural index =>
    match variants[index]? with
    | some variant => .ok variant.2
    | none => .error .invalidValue
  | _, _ => .error .invalidType

/-- How the members of an object become a value. -/
structure Record (α : Type) where
  /-- Checks one member. -/
  check : Place → String → Setting → Except Fault Unit
  /-- Makes the value of members that were checked. -/
  build : Place → Members → Except Fault α
  /-- How many members there are. -/
  width : Nat
  /-- Takes the value from the start of a list of members. The number tells how many members were
  taken before. -/
  take : Place → Nat → List Setting → Except Fault (α × List Setting)

namespace Record

def constant {α : Type} (value : α) : Record α where
  check _ _ _ := .ok ()
  build _ _ := .ok value
  width := 0
  take _ _ items := .ok (value, items)

def both {α β γ : Type} (combine : α → β → γ) (left : Record α) (right : Record β) : Record γ where
  check place name setting := do
    left.check place name setting
    right.check place name setting
  build place members := do
    let first ← left.build place members
    let second ← right.build place members
    return combine first second
  width := left.width + right.width
  take place before items := do
    let (first, rest) ← left.take place before items
    let (second, rest) ← right.take place (before + left.width) rest
    return (combine first second, rest)

instance : Functor Record where
  map change record := both (fun _ value => change value) (constant ()) record

instance : Seq Record where
  seq function argument := both (fun change value => change value) function (argument ())

/-- A record of one member. `missing` stands for it where an object has no such member, and `left`
where a list ends before it. -/
def single {α : Type} (name : String) (read : Reader α) (missing : Except Fault α)
    (left : Nat → Except Fault α) : Record α where
  check place other setting :=
    if other = name then (read place setting).map fun _ => () else .ok ()
  build place members :=
    match member? members name with
    | some setting => read place setting
    | none => missing
  width := 1
  take place before
    | [] => (left before).map fun value => (value, [])
    | item :: rest => (read place item).map fun value => (value, rest)

def required {α : Type} (name : String) (read : Reader α) : Record α :=
  single name read (.error (.missingField name)) fun before => .error (.invalidLength before)

/-- A member that has a default where it is missing. -/
def defaulted {α : Type} (name : String) (read : Reader α) (default : α) : Record α :=
  single name read (.ok default) fun _ => .ok default

def optional {α : Type} (name : String) (read : Reader α) : Record (Option α) :=
  defaulted name (readOptional read) none

/-- A member that may be null, and that may be missing where members have names. -/
def nullable {α : Type} (name : String) (read : Reader α) : Record (Option α) :=
  single name (readOptional read) (.ok none) fun before => .error (.invalidLength before)

def readMembers {α : Type} (record : Record α) (place : Place) (members : Members) :
    Except Fault α := do
  members.forM fun member => record.check place member.1 member.2
  record.build place members

/-- The value of members without names, of which there may not be too many. -/
def readItems {α : Type} (record : Record α) (place : Place) (items : List Setting) :
    Except Fault α := do
  let (value, rest) ← record.take place 0 items
  if rest.isEmpty then return value
  else throw (.invalidLength items.length)

def read {α : Type} (record : Record α) : Reader α
  | place, .object members => record.readMembers place members
  | place, .list items => record.readItems place items
  | _, _ => .error .invalidType

end Record

/-- The name of the member that tells which variant an object describes. In a list it comes
first. -/
def tagName : String := "type"

/-- Reads an object whose tag names one of several variants. -/
def readTagged {α : Type} (variants : Variants (Record α)) : Reader α
  | place, .object members =>
    match member? members tagName with
    | none => .error (.missingField tagName)
    | some tag => do
      let record ← readTag variants place tag
      record.readMembers .inside (members.filter fun member => member.1 != tagName)
  | _, .list [] => .error (.missingField tagName)
  | place, .list (tag :: items) => do
    let record ← readTag variants place tag
    record.readItems .inside items
  | _, _ => .error .invalidType

end AmqpEndpoints.Configuration
