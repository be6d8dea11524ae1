/-!
# Failures

Why an operation of this library is refused. Each constructor is one cause, and `Failure.message`
holds the wording of all of them.
-/

set_option autoImplicit false

namespace AmqpEndpoints

/-- The causes for which configuring, connecting, declaring, publishing or consuming is refused. -/
inductive Failure where
  /-- A setting is missing or invalid. -/
  | configuration (reason : String)
  /-- A configured password cannot be decoded. -/
  | credential (reason : String)
  /-- The connection to the broker was not established. -/
  | connection (reason : String)
  /-- There is no open connection. -/
  | notConnected
  /-- A channel was not created or not closed. -/
  | channel (reason : String)
  /-- The named exchange was not declared. -/
  | exchangeDeclaration (name : String)
  /-- The named queue was not declared. -/
  | queueDeclaration (name : String)
  /-- A message was not published. -/
  | publishing (reason : String)
  /-- A message was not consumed. -/
  | consuming (reason : String)
  deriving DecidableEq, Repr, Inhabited

namespace Failure

def message : Failure → String
  | configuration reason => "configuration error: " ++ reason
  | credential reason => "failure to decode credentials: " ++ reason
  | connection reason => "failure to connect: " ++ reason
  | notConnected => "rabbit-connection is not connected"
  | channel reason => "failure to create a channel: " ++ reason
  | exchangeDeclaration name => "failure to declare an exchange `" ++ name ++ "`"
  | queueDeclaration name => "failure to declare a queue `" ++ name ++ "`"
  | publishing reason => "failure to publish: " ++ reason
  | consuming reason => "failure to consume message `" ++ reason ++ "`"

/-- A failed attempt to connect: a connection failure as it is, any other failure as the reason of
one. -/
def whileConnecting : Failure → Failure
  | connection reason => connection reason
  | other => connection other.message

end Failure

end AmqpEndpoints
