import AmqpEndpoints.Failure
import AmqpEndpoints.Text.Base64
import AmqpEndpoints.Text.Classes
import AmqpEndpoints.Text.Search
import AmqpEndpoints.Text.Utf8

/-!
# Passwords

A configured password is written as it is, or obfuscated: `PW:` and the base64 form of its UTF-8
bytes.
-/

set_option autoImplicit false

namespace AmqpEndpoints.Password

def mark : String := "PW:"

def encode (password : String) : String :=
  mark ++ String.ofList ((Text.Base64.encode (Text.Utf8.encode password)).map
    fun byte => Char.ofNat byte.toNat)

def decode (configured : String) : Except Failure String :=
  match Text.afterStart? mark.toList configured.toList with
  | none => .ok configured
  | some obfuscated =>
    match Text.Base64.decode (Text.Utf8.encodeList (Text.trimBlanks obfuscated)) with
    | .error fault => .error (.credential fault.message)
    | .ok bytes =>
      match Text.Utf8.decode bytes with
      | .error fault => .error (.credential fault.message)
      | .ok password => .ok password

end AmqpEndpoints.Password
