import AmqpEndpoints.Declaration

/-!
# Producers

What a producer does on its channel. A queue that depends on the message is declared for each
message that is published; any other queue is declared once, when the channel is set up.
-/

set_option autoImplicit false

namespace AmqpEndpoints.Producer

open Program

def setUp (settings : ProducerSettings) (channel : ChannelId) : Attempt Unit := do
  if settings.behaviour = .noException then
    attempt (.selectConfirms channel)
  settings.exchange.declare channel
  if isExpression settings.queue then pure ()
  else settings.queueDeclaration.declare channel settings.queue

/-- The properties that a message is published with. They carry the trace context; where a message
has no properties, it carries no context. -/
def propertiesFor (settings : ProducerSettings) (pairs : List (String × String))
    (message : Message) : Except Failure (Option Properties) :=
  (settings.properties.build message).map fun built => built.map (Trace.inject pairs)

def publishOn (settings : ProducerSettings) (channel : ChannelId)
    (pairs : List (String × String)) (message : Message) : Attempt Unit := do
  let destination ← liftExcept (message.resolve settings.queue)
  if isExpression settings.queue then
    settings.queueDeclaration.declare channel destination
  let properties ← liftExcept (propertiesFor settings pairs message)
  let confirmation ←
    attempt (.publish channel settings.exchange.name destination message.payload properties)
  if confirmation = .nack then
    throw (.publishing ("message to `" ++ destination ++ "` was nacked"))
where
  /-- A result that needs no action. -/
  liftExcept {α : Type} (result : Except Failure α) : Attempt α :=
    ExceptT.mk (pure result)

/-- Publishes a message while no one else uses the channel of the producer. -/
def publish (component : ComponentId) (settings : ProducerSettings)
    (pairs : List (String × String)) (message : Message) : Program (Except Failure Unit) := do
  act (.lock component)
  let outcome ←
    match ← act (.held component) with
    | none => pure (.error (.publishing "producer is not started"))
    | some held => (publishOn settings held.channel pairs message).run
  act (.unlock component)
  return outcome

/-- What the metadata says about a message that was published. -/
def success : String := "success"

/-- What a caller is told about publishing a message, and the message after it. -/
def report (behaviour : PublishBehaviour) (message : Message) (outcome : Except Failure Unit) :
    Except Failure Unit × Message :=
  match behaviour, outcome with
  | .traditional, outcome => (outcome, message)
  | .noException, .ok _ => (.ok (), message.set Metadata.Key.publishStatus success)
  | .noException, .error failure =>
    (.ok (), message.set Metadata.Key.publishStatus failure.message)

/-- Publishes a message with a trace context and tells the outcome. -/
def produce (component : ComponentId) (settings : ProducerSettings)
    (pairs : List (String × String)) (message : Message) :
    Program (Except Failure Unit × Message) := do
  let outcome ← publish component settings pairs message
  return report settings.behaviour message outcome

end AmqpEndpoints.Producer
