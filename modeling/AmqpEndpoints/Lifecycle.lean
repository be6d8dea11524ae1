import AmqpEndpoints.Consumer
import AmqpEndpoints.Producer

/-!
# Life of a component

A component gets a channel when it is started and gives it back when it is stopped or started again.
A start that fails on the way leaves nothing behind.
-/

set_option autoImplicit false

namespace AmqpEndpoints

open Program

/-- The open connection; without one there is a failure. -/
def openConnection : Attempt ConnectionId := do
  match ← (act .readHandle : Program (Option ConnectionId)) with
  | none => throw .notConnected
  | some connection => return connection

def Role.name : Role → String
  | producer settings => "producer:" ++ settings.queue
  | consumer reader => "consumer:" ++ reader.queue

/-- Whether a component can be started at all. -/
def Role.prepare (role : Role) : Except Failure Unit :=
  if Text.blank role.queue then .error (.configuration "queue may not be blank") else .ok ()

def Role.setUp (channel : ChannelId) : Role → Attempt Held
  | producer settings => do
    Producer.setUp settings channel
    return ⟨channel, none⟩
  | consumer reader => do
    let stream ← reader.setUp channel
    return ⟨channel, some stream⟩

/-- Gives back a channel: its dispatcher stops, then it is closed. -/
def Held.giveBack (held : Held) : Program Unit := do
  match held.stream with
  | none => pure ()
  | some stream => act (.cancel stream)
  closeChannel held.channel

/-- Gives back a channel, if there is one. -/
def giveBack : Option Held → Program Unit
  | none => pure ()
  | some held => held.giveBack

/-- A new channel on the open connection, set up for a component. If that fails, the channel is
closed. -/
def Role.acquire (role : Role) : Attempt Held := do
  let connection ← openConnection
  let channel ← attempt (.createChannel connection)
  tryCatch (role.setUp channel) fun failure => do
    let _ ← (closeChannel channel : Program Unit)
    throw failure

namespace Component

def start (component : ComponentId) (role : Role) : Program (Except Failure Unit) := do
  act (.lock component)
  giveBack (← act (.takeHeld component))
  let outcome ←
    match ← role.acquire.run with
    | .error failure => pure (.error failure)
    | .ok held => do
      act (.hold component held)
      pure (.ok ())
  act (.unlock component)
  return outcome

def stop (component : ComponentId) : Program Unit := do
  act (.lock component)
  giveBack (← act (.takeHeld component))
  act (.unlock component)

end Component

end AmqpEndpoints
