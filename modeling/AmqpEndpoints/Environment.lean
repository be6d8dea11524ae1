import AmqpEndpoints.Failure
import AmqpEndpoints.Table
import AmqpEndpoints.Text.Template

/-!
# Environment

The named values outside the program. A configured text refers to one as `%env{NAME}`.
-/

set_option autoImplicit false

namespace AmqpEndpoints

/-- The variables of an environment. -/
structure Environment where
  values : Table String
  deriving Inhabited

namespace Environment

/-- The value of a name. A variable and its value are one entry `VARIABLE=VALUE`, and the value of a
name is what follows the name and `=` in such an entry; the empty name has none. -/
def value? (environment : Environment) (name : String) : Option String :=
  let before := name.toList.takeWhile (· != '=')
  match name.toList.dropWhile (· != '=') with
  | [] => if name.isEmpty then none else environment.values.get? name
  | _ :: after =>
    if before.isEmpty then none
    else do
      let value ← environment.values.get? (String.ofList before)
      let rest ← Text.afterStart? (after ++ ['=']) value.toList
      return String.ofList rest

/-- The marker of a reference. -/
def marker : String := "%env\x7b"

/-- A text whose references are replaced by the values they name. -/
def resolve (environment : Environment) (text : String) : Except Failure String :=
  match Text.fillHoles marker environment.value? text with
  | .ok resolved => .ok resolved
  | .error (.unknown name) =>
    .error (.configuration ("environment variable `" ++ name ++ "` is not set"))
  | .error .unterminated => .error (.configuration ("unterminated %env in `" ++ text ++ "`"))

end Environment

end AmqpEndpoints
