import AmqpEndpoints.Failure
import AmqpEndpoints.Metadata
import AmqpEndpoints.Text.Template
import AmqpEndpoints.Text.Utf8

/-!
# Messages

A message is a payload with metadata. A text may refer to metadata as `%message{key}`; such an
expression has a meaning for each message.
-/

set_option autoImplicit false

namespace AmqpEndpoints

/-- A payload with metadata. -/
structure Message where
  payload : List UInt8
  metadata : Metadata
  deriving DecidableEq, Repr, Inhabited

namespace Message

/-- The message of a payload, without metadata. -/
def ofPayload (payload : List UInt8) : Message :=
  ⟨payload, .empty⟩

def set (message : Message) (key value : String) : Message :=
  { message with metadata := message.metadata.insert key value }

/-- A message with metadata set in order. -/
def setAll (message : Message) (pairs : List (String × String)) : Message :=
  { message with metadata := message.metadata.insertAll pairs }

def content (message : Message) : String :=
  Text.Utf8.decodeLossy message.payload

/-- The marker of a reference to metadata. -/
def marker : String := "%message\x7b"

/-- A text whose references are replaced by the metadata of a message. -/
def resolve (message : Message) (text : String) : Except Failure String :=
  match Text.fillHoles marker message.metadata.get? text with
  | .ok resolved => .ok resolved
  | .error (.unknown key) =>
    .error (.configuration
      ("metadata `" ++ key ++ "` not found while resolving `" ++ text ++ "`"))
  | .error .unterminated =>
    .error (.configuration ("unterminated expression in `" ++ text ++ "`"))

end Message

/-- Whether a text holds a reference to metadata. -/
def isExpression (text : String) : Bool :=
  (Text.Template.parse Message.marker.toList text.toList).isOpen

end AmqpEndpoints
