import AmqpEndpoints.Program
import AmqpEndpoints.Text.Classes

/-!
# Declarations

Declaring exchanges and queues on a channel, and closing channels and connections whose end nobody
waits for.
-/

set_option autoImplicit false

namespace AmqpEndpoints

open Program

/-- Declares an exchange. The standard one is always there; a named one needs a name that is not
blank. -/
def Exchange.declare (channel : ChannelId) : Exchange → Attempt Unit
  | standard => pure ()
  | explicit name kind durable =>
    if Text.blank name then throw (.configuration "exchange name may not be blank")
    else attempt (.declareExchange channel name kind (durable.getD true))

def QueueDeclaration.declare (channel : ChannelId) (name : String)
    (declaration : QueueDeclaration) : Attempt Unit :=
  attempt (.declareQueue channel name declaration.flags)

/-- Closes a channel, whatever comes of it. -/
def closeChannel (channel : ChannelId) : Program Unit := do
  let _ ← call (.closeChannel channel)

/-- Closes a connection, whatever comes of it. -/
def closeConnection (connection : ConnectionId) : Program Unit := do
  let _ ← call (.closeConnection connection)

end AmqpEndpoints
