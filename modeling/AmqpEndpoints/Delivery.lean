import AmqpEndpoints.Message
import AmqpEndpoints.Properties

/-!
# Deliveries

What the broker hands to a consumer, and the message made of it. A factory makes a message of the
body, then a handler each for the properties and the envelope changes it as it likes. Handlers are
asked only about parts that the delivery has.
-/

set_option autoImplicit false

namespace AmqpEndpoints

/-- How a message was routed to a consumer. -/
structure Envelope where
  deliveryTag : UInt64
  redelivered : Bool
  exchange : Option String
  routingKey : Option String
  deriving DecidableEq, Repr, Inhabited

/-- The text of each part of an envelope under its metadata key, where there is one. -/
def Envelope.entries (envelope : Envelope) : List (String × Option String) :=
  [(Metadata.Key.deliveryTag, some (toString envelope.deliveryTag.toNat)),
    (Metadata.Key.exchange, envelope.exchange),
    (Metadata.Key.routingKey, envelope.routingKey),
    (Metadata.Key.isRedelivery, some (Value.flagText envelope.redelivered))]

/-- A message as the broker delivers it. -/
structure Delivery where
  body : List UInt8
  properties : Option Properties
  envelope : Option Envelope
  deriving Repr, Inhabited

def presentEntries (entries : List (String × Option String)) : List (String × String) :=
  entries.filterMap fun entry => entry.2.map fun text => (entry.1, text)

/-- Makes a message of the body of a delivery. -/
structure MessageFactory where
  create : List UInt8 → Message

namespace MessageFactory

/-- The body becomes the payload. -/
def plain : MessageFactory :=
  ⟨Message.ofPayload⟩

/-- The body becomes the payload, and there is some metadata from the beginning. -/
def tagged (initial : List (String × String)) : MessageFactory :=
  ⟨fun body => (Message.ofPayload body).setAll initial⟩

end MessageFactory

/-- Changes a message by what the properties of its delivery say. -/
structure PropertiesHandler where
  handle : Properties → Message → Message

namespace PropertiesHandler

def ignore : PropertiesHandler :=
  ⟨fun _ message => message⟩

/-- The standard fields become metadata under their own keys, then the headers do under their names
with something put in front. -/
def toMetadata (front : String) : PropertiesHandler where
  handle properties message :=
    message.setAll (presentEntries properties.entries ++
      properties.headerTable.entries.map fun header => (front ++ header.1, header.2.text))

end PropertiesHandler

/-- Changes a message by how its delivery was routed. -/
structure EnvelopeHandler where
  handle : Envelope → Message → Message

namespace EnvelopeHandler

def ignore : EnvelopeHandler :=
  ⟨fun _ message => message⟩

def toMetadata : EnvelopeHandler where
  handle envelope message := message.setAll (presentEntries envelope.entries)

end EnvelopeHandler

/-- The message of a delivery. -/
def Delivery.toMessage (delivery : Delivery) (forProperties : PropertiesHandler)
    (forEnvelope : EnvelopeHandler) (factory : MessageFactory) : Message :=
  let made := factory.create delivery.body
  let described :=
    match delivery.properties with
    | none => made
    | some properties => forProperties.handle properties made
  match delivery.envelope with
  | none => described
  | some envelope => forEnvelope.handle envelope described

end AmqpEndpoints
