import AmqpEndpoints.Lifecycle

/-!
# Connections

A connection is opened by `Connection.init`, which puts it in the place of the one before, and
closed by `Connection.close`. `Connection.restart` stops what is attached, connects anew and starts
it again; one restart runs at a time.
-/

set_option autoImplicit false

namespace AmqpEndpoints.Connection

open Program

/-- Opens a connection of a name. The one before it is closed afterwards; where no connection could
be opened, it stays. -/
def init (name : String) : Program (Except Failure Unit) := do
  match ← call .build with
  | .error failure => return .error failure
  | .ok _ =>
    match ← call (.connect name) with
    | .error failure => return .error failure.whileConnecting
    | .ok connection =>
      match ← act (.replaceHandle connection) with
      | none => pure ()
      | some previous => closeConnection previous
      return .ok ()

/-- Closes the open connection, if there is one. -/
def close : Program Unit := do
  match ← act .takeHandle with
  | none => pure ()
  | some connection => closeConnection connection

def connected : Program (Except Failure Unit) :=
  (do let _ ← openConnection : Attempt Unit).run

/-- Stops components in order. -/
def stopAll : List (ComponentId × Role) → Program Unit
  | [] => pure ()
  | (component, _) :: rest => do
    Component.stop component
    stopAll rest

/-- Starts components in order, going on after one that fails; the first failure counts. -/
def startAll : List (ComponentId × Role) → Program (Except Failure Unit)
  | [] => pure (.ok ())
  | (component, role) :: rest => do
    let first ← Component.start component role
    let others ← startAll rest
    return match first with
      | .ok _ => others
      | .error failure => .error failure

/-- Stops the attached components, connects anew and starts them again. Where no connection could be
opened, they stay stopped. -/
def restart (name : String) : Program (Except Failure Unit) := do
  act .lockRestart
  let components ← act .snapshot
  stopAll components
  close
  let outcome ←
    match ← init name with
    | .error failure => pure (.error failure)
    | .ok _ => startAll components
  act .unlockRestart
  return outcome

end AmqpEndpoints.Connection
