import AmqpEndpoints.Text.Search

/-!
# Templates

A template is a text with holes. A hole is a marker, a key without closing brace, and a closing
brace. `Template.parse` cuts a text at the leftmost markers, and `Template.fill` puts the value of
each key in the place of its hole; a value is copied as it is and never searched for holes.
-/

set_option autoImplicit false

namespace AmqpEndpoints.Text

/-- A text cut at its holes. -/
inductive Template where
  /-- A text without marker. -/
  | plain (text : List Char)
  /-- A text with one marker that no closing brace follows. -/
  | unterminated (text tail : List Char)
  /-- A text without marker, a hole, and what follows it. -/
  | hole (text key : List Char) (rest : Template)
  deriving DecidableEq, Repr

namespace Template

/-- The character that ends a hole. -/
def close : Char := '\x7d'

def parse (marker text : List Char) : Template :=
  match _found : cutAt? marker text with
  | none => .plain text
  | some (before, after) =>
    match _ended : after.dropWhile (· != close) with
    | [] => .unterminated before after
    | _ :: rest => .hole before (after.takeWhile (· != close)) (parse marker rest)
termination_by text.length
decreasing_by
  have bound := length_of_cutAt? _found
  have shorter : (after.dropWhile (· != close)).length ≤ after.length :=
    (List.dropWhile_sublist _).length_le
  rw [_ended, List.length_cons] at shorter
  omega

def isOpen : Template → Bool
  | plain _ => false
  | unterminated .. => true
  | hole .. => true

/-- Why a template has no filled text. -/
inductive Gap where
  /-- A key without value. -/
  | unknown (key : String)
  /-- A marker that no closing brace follows. -/
  | unterminated
  deriving DecidableEq, Repr

/-- The text of a template with the values of its keys; the leftmost key without value comes before
a marker that is not ended. -/
def fill (value? : String → Option String) : Template → Except Gap (List Char)
  | plain text => .ok text
  | unterminated _ _ => .error .unterminated
  | hole text key rest =>
    match value? (String.ofList key) with
    | none => .error (.unknown (String.ofList key))
    | some value => (fill value? rest).map fun filled => text ++ value.toList ++ filled

end Template

/-- A text whose holes are filled with values. -/
def fillHoles (marker : String) (value? : String → Option String) (text : String) :
    Except Template.Gap String :=
  ((Template.parse marker.toList text.toList).fill value?).map String.ofList

end AmqpEndpoints.Text
