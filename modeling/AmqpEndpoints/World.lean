import AmqpEndpoints.Broker
import AmqpEndpoints.Settings

/-!
# World

All that the parts of one connection share: the broker, the handle of the connection, the components
that were made on it with the channels they hold, the locks, and the outcome of the last restart. An
`Action` is one indivisible step on it.
-/

set_option autoImplicit false

namespace AmqpEndpoints

/-- The number of a component, in the order in which components were made. -/
abbrev ComponentId := Nat

/-- What a component does. -/
inductive Role where
  | producer (settings : ProducerSettings)
  | consumer (reader : Consumer)

def Role.queue : Role → String
  | producer settings => settings.queue
  | consumer reader => reader.queue

/-- A channel that a component holds, and the stream it reads from if it is a consumer. -/
structure Held where
  channel : ChannelId
  stream : Option StreamId
  deriving DecidableEq, Repr

/-- A producer or consumer. -/
structure Component where
  role : Role
  held : Option Held := none
  locked : Bool := false
  /-- Whether its owner let go of it. -/
  released : Bool := false

/-- What turns the deliveries of a stream into messages for the listener of a consumer. -/
structure Dispatcher where
  consumer : Consumer
  /-- The tag under which the stream is read. -/
  tag : String

/-- What the parts of a connection share. -/
structure World where
  broker : Broker := {}
  /-- The open connection, if there is one. -/
  handle : Option ConnectionId := none
  /-- The components to restart, in the order in which they were attached. -/
  attachments : List ComponentId := []
  components : List Component := []
  /-- The dispatcher of each stream; none once nobody reads from the stream. -/
  dispatchers : List (Option Dispatcher) := []
  restartLocked : Bool := false
  /-- The failure of the last restart, none if it succeeded. -/
  lastFailure : Option Failure := none

/-- An indivisible step. -/
inductive Action where
  /-- Makes a call. -/
  | issue (call : Call)
  /-- Takes the answer to a call that was made. -/
  | await (call : Call)
  | readHandle
  /-- Puts a connection into the handle and takes out what was there. -/
  | replaceHandle (connection : ConnectionId)
  | takeHandle
  | lockRestart
  | unlockRestart
  | attach (component : ComponentId)
  /-- Lets go of a component. -/
  | release (component : ComponentId)
  /-- Lists the attached components that somebody still owns, and forgets the others. -/
  | snapshot
  | lock (component : ComponentId)
  | unlock (component : ComponentId)
  | held (component : ComponentId)
  | takeHeld (component : ComponentId)
  | hold (component : ComponentId) (held : Held)
  | drawTag
  /-- Starts a dispatcher on a stream. -/
  | spawn (stream : StreamId) (dispatcher : Dispatcher)
  /-- Stops the dispatcher of a stream. -/
  | cancel (stream : StreamId)
  | listen (listener : String) (message : Message) (context : Trace.Context)
  | endSpan (span : Trace.Span)
  /-- Notes the outcome of a restart. -/
  | note (outcome : Except Failure Unit)

abbrev Action.Reply : Action → Type
  | issue _ => Unit
  | await call => call.Reply
  | readHandle => Option ConnectionId
  | replaceHandle _ => Option ConnectionId
  | takeHandle => Option ConnectionId
  | lockRestart => Unit
  | unlockRestart => Unit
  | attach _ => Unit
  | release _ => Unit
  | snapshot => List (ComponentId × Role)
  | lock _ => Unit
  | unlock _ => Unit
  | held _ => Option Held
  | takeHeld _ => Option Held
  | hold .. => Unit
  | drawTag => String
  | spawn .. => Unit
  | cancel _ => Unit
  | listen .. => Except Failure Unit
  | endSpan _ => Unit
  | note _ => Unit

namespace World

def update (world : World) (component : ComponentId) (change : Component → Component) : World :=
  { world with components := world.components.modify component change }

def heldBy (world : World) (component : ComponentId) : Option Held :=
  world.components[component]?.bind (·.held)

/-- The attached components that somebody still owns, with their roles. -/
def liveAttachments (world : World) : List (ComponentId × Role) :=
  world.attachments.filterMap fun id =>
    (world.components[id]?.filter fun component => !component.released).map fun component =>
      (id, component.role)

/-- A world with the dispatcher of a stream set. Streams are numbered without gaps. -/
def setDispatcher (world : World) (stream : StreamId) (dispatcher : Option Dispatcher) : World :=
  if stream < world.dispatchers.length then
    { world with dispatchers := world.dispatchers.set stream dispatcher }
  else
    { world with
      dispatchers :=
        world.dispatchers ++ List.replicate (stream - world.dispatchers.length) none ++
          [dispatcher] }

def record (world : World) (event : Event) : World :=
  { world with broker := world.broker.record event }

/-- What an action gives, and the world after it. -/
def perform (world : World) : (action : Action) → action.Reply × World
  | .issue call => ((), world.record (.called call))
  | .await call =>
    let (reply, broker) := world.broker.respond call
    (reply, { world with broker := broker })
  | .readHandle => (world.handle, world)
  | .replaceHandle connection => (world.handle, { world with handle := some connection })
  | .takeHandle => (world.handle, { world with handle := none })
  | .lockRestart => ((), { world with restartLocked := true })
  | .unlockRestart => ((), { world with restartLocked := false })
  | .attach component => ((), { world with attachments := world.attachments ++ [component] })
  | .release component => ((), world.update component ({ · with released := true }))
  | .snapshot =>
    let live := world.liveAttachments
    (live, { world with attachments := live.map (·.1) })
  | .lock component => ((), world.update component ({ · with locked := true }))
  | .unlock component => ((), world.update component ({ · with locked := false }))
  | .held component => (world.heldBy component, world)
  | .takeHeld component =>
    (world.heldBy component, world.update component ({ · with held := none }))
  | .hold component held => ((), world.update component ({ · with held := some held }))
  | .drawTag =>
    let (tag, broker) := world.broker.drawTag
    (tag, { world with broker := broker })
  | .spawn stream dispatcher => ((), world.setDispatcher stream (some dispatcher))
  | .cancel stream => ((), world.setDispatcher stream none)
  | .listen listener message context =>
    let (reply, broker) := world.broker.listen listener message context
    (reply, { world with broker := broker })
  | .endSpan span => ((), world.record (.span span))
  | .note outcome =>
    ((), { world with
      lastFailure := match outcome with
        | .ok _ => none
        | .error failure => some failure })

/-- Whether an action can be done now. A lock can be taken only while nobody has it. -/
def Enabled (world : World) : Action → Prop
  | .lockRestart => world.restartLocked = false
  | .lock component => ∀ found ∈ world.components[component]?, found.locked = false
  | _ => True

/-- A world with one more component, and the number of that component. -/
def addComponent (world : World) (role : Role) : ComponentId × World :=
  (world.components.length, { world with components := world.components ++ [{ role := role }] })

end World

end AmqpEndpoints
