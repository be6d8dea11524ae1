import AmqpEndpoints.Configuration.Setting
import AmqpEndpoints.Fault

/-!
# Sessions

One connection with its items, producers and consumers that have names, and one handler for faults.
A session takes commands; each of them runs to its end before the next one.
-/

set_option autoImplicit false

namespace AmqpEndpoints

/-- A message to publish, with the pairs of its trace context. -/
structure Publication where
  message : Message
  context : List (String × String)
  deriving Repr

/-- What can be asked of a session. -/
inductive Command where
  /-- Adds outcomes to the script of the broker. -/
  | script (outcomes : Script)
  | init
  | restart
  | close
  | connected
  /-- Lets go of the connection; items keep theirs. -/
  | dropConnection
  /-- Makes a producer and attaches it. -/
  | producer (name : String) (settings : ProducerSettings)
  /-- Makes a consumer and attaches it. Its messages go to a listener of the same name. -/
  | consumer (name : String) (settings : ConsumerSettings)
  /-- Makes a producer for the standard exchange that tells failures in the metadata. -/
  | standardProducer (name queue : String) (properties : PropertiesBuilder)
  /-- Makes a consumer of given parts. -/
  | builtConsumer (name : String) (consumer : Consumer)
  | attach (name : String)
  | drop (name : String)
  | prepare (name : String)
  | start (name : String)
  | stop (name : String)
  | status (name : String)
  | produce (name : String) (publication : Publication)
  | produceAll (name : String) (publications : List Publication)
  /-- Puts an item into a stream. -/
  | deliver (stream : StreamId) (item : Except Failure Delivery)
  | endStream (stream : StreamId)
  /-- Installs what reads the contexts of deliveries from then on. -/
  | installPropagator (propagator : Trace.Propagator)
  | registerHandler
  /-- Hands a fault to the handler; `outside` says that no restart can run where this is done. -/
  | fault (fault : Fault) (outside : Bool)
  /-- Hands several faults to the handler before any restart runs. -/
  | faults (faults : List Fault)
  /-- Hands the handler a fault that the transport did not raise, and waits for nothing but the
  restart. -/
  | hostFault (cause : String)
  /-- Hands a fault to the handler that is installed on the connection. -/
  | report (fault : Fault)
  | lastFailure
  /-- A command whose configuration describes nothing. -/
  | misconfigured (fault : Configuration.Fault)

/-- What publishing a message gave. -/
structure Produced where
  outcome : Except Failure Unit
  metadata : Metadata

/-- What a session answers. -/
inductive Answer where
  | done
  | outcome (outcome : Except Failure Unit)
  | connected (name : String) (outcome : Except Failure Unit)
  /-- Whether the item runs is told of consumers only. -/
  | status (name queue : String) (running : Option Bool)
  | produced (produced : Produced)
  | producedAll (produced : List Produced)
  | accepted (accepted : Bool)
  | noStream
  /-- The outcome of a restart, if one was scheduled. -/
  | scheduled (outcome : Option (Except Failure Unit))
  | allScheduled (outcomes : List (Option (Except Failure Unit)))
  | reported (installed : Bool)
  | lastFailure (failure : Option Failure)
  /-- There is no such item. -/
  | unknownItem
  | misconfigured (fault : Configuration.Fault)

/-- The state of a session. -/
structure Session where
  /-- The name of the connection. -/
  name : String
  world : World
  /-- The items that somebody owns. -/
  items : Table ComponentId := .empty
  /-- Whether the session itself owns the connection. -/
  ownsConnection : Bool := true
  registry : Registry := {}
  propagator : Trace.Propagator := .idle

namespace Session

def connectionKey : ConnectionKey := 0

def handlerKey : HandlerKey := 0

/-- A session on a connection that is not open. `endpoint` is what making the endpoint gives. -/
def create (name : String) (endpoint : Except Failure Unit) : Session where
  name := name
  world := { broker := { endpoint := endpoint } }
  registry := Registry.create {} handlerKey true

def ownsAny (session : Session) (connection : ConnectionKey) : Bool :=
  connection == connectionKey && (session.ownsConnection || !session.items.isEmpty)

/-- What a program gives, and the session after it. -/
def run {α : Type} (session : Session) (program : Program α) : α × Session :=
  let (result, world) := program.run session.world
  (result, { session with world := world })

/-- A session after a program whose result does not matter. -/
def exec {α : Type} (session : Session) (program : Program α) : Session :=
  (session.run program).2

def find? (session : Session) (name : String) : Option (ComponentId × Component) := do
  let id ← session.items.get? name
  let component ← session.world.components[id]?
  return (id, component)

def dropItem (session : Session) (name : String) : Session :=
  match session.items.get? name with
  | none => session
  | some id =>
    { session.exec (Program.act (.release id)) with
      items := session.items.filterKeys fun key => key != name }

/-- A session with a new item, in the place of an item of the same name. -/
def addItem (session : Session) (name : String) (role : Role) (attached : Bool) : Session :=
  let (id, world) := session.world.addComponent role
  let made := { session with world := world }
  let joined := if attached then made.exec (Program.act (.attach id)) else made
  let replaced := joined.dropItem name
  { replaced with items := replaced.items.insert name id }

def produce (session : Session) (component : ComponentId) (settings : ProducerSettings)
    (publication : Publication) : Produced × Session :=
  let ((outcome, message), next) :=
    session.run (Producer.produce component settings publication.context publication.message)
  (⟨outcome, message.metadata⟩, next)

/-- What publishing messages in order gives. -/
def produceAll (session : Session) (component : ComponentId) (settings : ProducerSettings) :
    List Publication → List Produced × Session
  | [] => ([], session)
  | publication :: rest =>
    let (first, next) := session.produce component settings publication
    let (others, last) := next.produceAll component settings rest
    (first :: others, last)

def isRunning (session : Session) (component : Component) : Bool :=
  match component.held.bind (·.stream) with
  | none => false
  | some stream => (session.world.dispatchers[stream]?.join).isSome

def handle (session : Session) (fault : Fault) (runsHere : Bool) :
    Option (Except Failure Unit) × Session :=
  match session.registry.schedule session.ownsAny handlerKey runsHere fault with
  | none => (none, session)
  | some _ =>
    let (outcome, next) := session.run (Fault.restart session.name)
    (some outcome, next)

/-- What faults give that are handed to the handler before any of their restarts runs. -/
def handleAll (session : Session) : List Fault → List (Option (Except Failure Unit)) × Session
  | [] => ([], session)
  | fault :: rest =>
    let (first, next) := session.handle fault true
    let (others, last) := next.handleAll rest
    (first :: others, last)

/-- The answer to a command about an item, if there is one of that name. -/
def withItem (session : Session) (name : String)
    (act : ComponentId → Component → Answer × Session) : Answer × Session :=
  match session.find? name with
  | none => (.unknownItem, session)
  | some (id, component) => act id component

/-- The answer to a command about a producer, if there is one of that name. -/
def withProducer (session : Session) (name : String)
    (act : ComponentId → ProducerSettings → Answer × Session) : Answer × Session :=
  session.withItem name fun id component =>
    match component.role with
    | .producer settings => act id settings
    | .consumer .. => (.unknownItem, session)

/-- The answer to a command, and the session after it. -/
def step (session : Session) : Command → Answer × Session
  | .script outcomes =>
    let broker := session.world.broker
    (.done, { session with
      world :=
        { session.world with broker := { broker with script := broker.script ++ outcomes } } })
  | .init =>
    let (outcome, next) := session.run (Connection.init session.name)
    (.outcome outcome, next)
  | .restart =>
    let (outcome, next) := session.run (Connection.restart session.name)
    (.outcome outcome, next)
  | .close => (.done, session.exec Connection.close)
  | .connected =>
    let (outcome, next) := session.run Connection.connected
    (.connected session.name outcome, next)
  | .dropConnection => (.done, { session with ownsConnection := false })
  | .producer name settings => (.done, session.addItem name (.producer settings) true)
  | .consumer name settings => (.done, session.addItem name (.consumer (settings.consumer name)) true)
  | .standardProducer name queue properties =>
    (.done, session.addItem name
      (.producer { queue := queue, properties := properties, behaviour := .noException }) false)
  | .builtConsumer name consumer => (.done, session.addItem name (.consumer consumer) false)
  | .attach name =>
    session.withItem name fun id _ => (.done, session.exec (Program.act (.attach id)))
  | .drop name => (.done, session.dropItem name)
  | .prepare name =>
    session.withItem name fun _ component => (.outcome component.role.prepare, session)
  | .start name =>
    session.withItem name fun id component =>
      let (outcome, next) := session.run (Component.start id component.role)
      (.outcome outcome, next)
  | .stop name => session.withItem name fun id _ => (.done, session.exec (Component.stop id))
  | .status name =>
    session.withItem name fun _ component =>
      let running :=
        match component.role with
        | .producer _ => none
        | .consumer .. => some (session.isRunning component)
      (.status component.role.name component.role.queue running, session)
  | .produce name publication =>
    session.withProducer name fun id settings =>
      let (produced, next) := session.produce id settings publication
      (.produced produced, next)
  | .produceAll name publications =>
    session.withProducer name fun id settings =>
      let (produced, next) := session.produceAll id settings publications
      (.producedAll produced, next)
  | .deliver stream item =>
    if stream < session.world.broker.streams then
      match session.world.dispatchers[stream]?.join with
      | none => (.accepted false, session)
      | some dispatcher => (.accepted true, session.exec (dispatcher.receive session.propagator item))
    else (.noStream, session)
  | .endStream stream =>
    if stream < session.world.broker.streams then
      (.done, session.exec (Program.act (.cancel stream)))
    else (.noStream, session)
  | .installPropagator propagator => (.done, { session with propagator := propagator })
  | .registerHandler =>
    (.done, { session with
      registry := session.registry.register handlerKey connectionKey true })
  | .fault fault outside =>
    let (outcome, next) := session.handle fault (!outside)
    (.scheduled outcome, next)
  | .faults faults =>
    let (outcomes, next) := session.handleAll faults
    (.allScheduled outcomes, next)
  | .hostFault cause => (.done, (session.handle ⟨.connectionException, cause⟩ true).2)
  | .report fault =>
    match session.registry.handlerOf connectionKey with
    | none => (.reported false, session)
    | some _ =>
      match session.registry.scheduleFrom session.ownsAny connectionKey true fault with
      | none => (.reported true, session)
      | some _ => (.reported true, session.exec (Fault.restart session.name))
  | .lastFailure => (.lastFailure session.world.lastFailure, session)
  | .misconfigured fault => (.misconfigured fault, session)

/-- The answer to a command with the events that were seen meanwhile. -/
def stepWithEvents (session : Session) (command : Command) : (Answer × List Event) × Session :=
  let seen := session.world.broker.log.length
  let (answer, next) := session.step command
  ((answer, next.world.broker.log.drop seen), next)

/-- The answers to commands with the events that were seen meanwhile. -/
def answers (session : Session) : List Command → List (Answer × List Event)
  | [] => []
  | command :: rest =>
    let (answer, next) := session.stepWithEvents command
    answer :: next.answers rest

end Session

end AmqpEndpoints
