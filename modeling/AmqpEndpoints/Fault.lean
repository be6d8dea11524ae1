import AmqpEndpoints.Connection

/-!
# Faults

Faults are handed to a handler, and the handler restarts the connection it is bound to. Registering a
handler with a connection binds it and installs it on the factory builder of that connection. What
is built of a builder takes along the handler that is installed then, and keeps it; here is told
what a builder has installed, and what a handler does about a fault that it gets.
-/

set_option autoImplicit false

namespace AmqpEndpoints

/-- Where a fault comes from. -/
inductive FaultCategory where
  | unexpectedConnectionDriver
  | returnListener
  | confirmListener
  | blockedListener
  | consumer
  | connectionRecovery
  | channelRecovery
  | topologyRecovery
  /-- The fault was not raised by the transport. -/
  | connectionException
  deriving DecidableEq, Repr

namespace FaultCategory

def all : List FaultCategory :=
  [unexpectedConnectionDriver, returnListener, confirmListener, blockedListener, consumer,
    connectionRecovery, channelRecovery, topologyRecovery, connectionException]

/-- What a category is called where faults are told. -/
def label : FaultCategory → String
  | unexpectedConnectionDriver => "UnexpectedConnectionDriverException"
  | returnListener => "ReturnListenerException"
  | confirmListener => "ConfirmListenerException"
  | blockedListener => "BlockedListenerException"
  | consumer => "ConsumerException"
  | connectionRecovery => "ConnectionRecoveryException"
  | channelRecovery => "ChannelRecoveryException"
  | topologyRecovery => "TopologyRecoveryException"
  | connectionException => "ConnectionException"

end FaultCategory

/-- Something that went wrong. What a handler does is the same for all faults. -/
structure Fault where
  category : FaultCategory
  cause : String
  deriving DecidableEq, Repr

/-- The number of a connection among those that handlers are registered with. -/
abbrev ConnectionKey := Nat

abbrev HandlerKey := Nat

/-- The number of a factory builder. -/
abbrev BuilderKey := Nat

/-- A handler that restarts a connection. -/
structure Handler where
  /-- The connection that the handler restarts. -/
  target : Option ConnectionKey := none
  /-- Whether the handler knows where restarts can run. -/
  canRun : Bool := false
  deriving DecidableEq, Repr, Inhabited

/-- The handlers, and the one that is installed on each factory builder. -/
structure Registry where
  handlers : HandlerKey → Handler := fun _ => {}
  installed : BuilderKey → Option HandlerKey := fun _ => none
  /-- The builder that each connection was made with. Connections may share one. -/
  builder : ConnectionKey → BuilderKey := id

namespace Registry

/-- A registry in which one handler is new. -/
def create (registry : Registry) (handler : HandlerKey) (canRun : Bool) : Registry :=
  { registry with
    handlers := fun key =>
      if key = handler then { target := none, canRun := canRun } else registry.handlers key }

/-- A registry in which a handler is bound to a connection and installed on its builder. `canRun`
says whether restarts can run where this is done. -/
def register (registry : Registry) (handler : HandlerKey) (connection : ConnectionKey)
    (canRun : Bool) : Registry :=
  { registry with
    handlers := fun key =>
      if key = handler then
        { target := some connection, canRun := (registry.handlers handler).canRun || canRun }
      else registry.handlers key
    installed := fun key =>
      if key = registry.builder connection then some handler else registry.installed key }

/-- The handler that the builder of a connection has installed. A transport that was built before
keeps the handler that was installed then. -/
def handlerOf (registry : Registry) (connection : ConnectionKey) : Option HandlerKey :=
  registry.installed (registry.builder connection)

/-- The connection that a handler restarts because of a fault, if it restarts one. It is one that is
still owned by somebody, and there is a place for the restart to run: here or where the handler was
registered. -/
def schedule (registry : Registry) (owned : ConnectionKey → Bool) (handler : HandlerKey)
    (runsHere : Bool) (_fault : Fault) : Option ConnectionKey :=
  match (registry.handlers handler).target with
  | none => none
  | some connection =>
    if owned connection && (runsHere || (registry.handlers handler).canRun) then some connection
    else none

/-- The connection that is restarted because of a fault that is handed to the handler which the
builder of a connection has installed. -/
def scheduleFrom (registry : Registry) (owned : ConnectionKey → Bool) (connection : ConnectionKey)
    (runsHere : Bool) (fault : Fault) : Option ConnectionKey :=
  match registry.handlerOf connection with
  | none => none
  | some handler => registry.schedule owned handler runsHere fault

end Registry

open Program in
/-- The restart that a handler runs: its outcome is noted when it is over. -/
def Fault.restart (name : String) : Program (Except Failure Unit) := do
  let outcome ← Connection.restart name
  act (.note outcome)
  return outcome

end AmqpEndpoints
