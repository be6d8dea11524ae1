import AmqpEndpoints.Delivery
import AmqpEndpoints.Factory
import AmqpEndpoints.Properties.Builder
import AmqpEndpoints.Topology

/-!
# Settings

What is configured of a connection, a producer and a consumer.
-/

set_option autoImplicit false

namespace AmqpEndpoints

/-- How a producer tells that a message was not published. -/
inductive PublishBehaviour where
  /-- By failing. -/
  | traditional
  /-- By an entry in the metadata of the message; the broker confirms messages. -/
  | noException
  deriving DecidableEq, Repr, Inhabited

/-- The configuration of a producer. -/
structure ProducerSettings where
  /-- The queue to publish to, which may depend on the message. -/
  queue : String
  properties : PropertiesBuilder := .never
  exchange : Exchange := .standard
  queueDeclaration : QueueDeclaration := .standard
  behaviour : PublishBehaviour := .traditional
  deriving DecidableEq, Repr

/-- What can be configured to become of the properties of deliveries. -/
inductive PropertiesHandling where
  | ignore
  | toMetadata (front : String)
  deriving DecidableEq, Repr

def PropertiesHandling.handler : PropertiesHandling → PropertiesHandler
  | ignore => .ignore
  | toMetadata front => .toMetadata front

/-- What can be configured to become of the envelopes of deliveries. -/
inductive EnvelopeHandling where
  | ignore
  | toMetadata
  deriving DecidableEq, Repr

def EnvelopeHandling.handler : EnvelopeHandling → EnvelopeHandler
  | ignore => .ignore
  | toMetadata => .toMetadata

/-- The configuration of a consumer. -/
structure ConsumerSettings where
  queue : String
  forProperties : PropertiesHandling := .ignore
  forEnvelope : EnvelopeHandling := .ignore
  deriving DecidableEq, Repr

/-- A consumer with all that it was given, which need not come from a configuration. -/
structure Consumer where
  queue : String
  /-- The name of the listener that gets the messages. -/
  listener : String
  forProperties : PropertiesHandler := .ignore
  forEnvelope : EnvelopeHandler := .ignore
  factory : MessageFactory := .plain

def ConsumerSettings.consumer (settings : ConsumerSettings) (listener : String) : Consumer where
  queue := settings.queue
  listener := listener
  forProperties := settings.forProperties.handler
  forEnvelope := settings.forEnvelope.handler

/-- The configuration of a connection. -/
structure ConnectionSettings where
  /-- The name of the connection; a random one where it is not given. -/
  uniqueId : Option String
  factory : Factory
  deriving DecidableEq, Repr

/-- The length of a random name: 32 hexadecimal digits in five groups with hyphens between them. -/
def ConnectionSettings.generatedLength : Nat := 32 + 4

end AmqpEndpoints
