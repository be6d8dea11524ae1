import AmqpEndpoints.Configuration.Setting
import AmqpEndpoints.Settings

/-!
# Configuration

How configured values describe connections, producers and consumers. Every choice between strategies
is an object with a tag; a strategy that is left out is the one that does least.
-/

set_option autoImplicit false

namespace AmqpEndpoints.Configuration

open Record

def readFilter : Reader Filter :=
  readTagged [
    ("remove-all", constant .removeAll),
    ("no-op", constant .keepAll),
    ("include", Filter.only <$> defaulted "keys" (readList readText) [] <*>
      defaulted "prefixes" (readList readText) [])]

def readPropertyTexts : Reader PropertyTexts :=
  Record.read <|
    PropertyTexts.mk <$> nullable "app-id" readText <*> nullable "cluster-id" readText <*>
      nullable "content-encoding" readText <*> nullable "content-type" readText <*>
      nullable "correlation-id" readText <*> nullable "delivery-mode" readText <*>
      nullable "expiration" readText <*> nullable "message-id" readText <*>
      nullable "priority" readText <*> nullable "reply-to" readText <*>
      nullable "timestamp" readText <*> nullable "type" readText <*> nullable "user-id" readText

/-- The member that holds a filter; without it no metadata is kept. -/
def filterMember : Record Filter :=
  defaulted "filter" readFilter .removeAll

def readPropertiesBuilder : Reader PropertiesBuilder :=
  readTagged [
    ("none", constant .never),
    ("headers", (fun filter => .fields filter none) <$> filterMember),
    ("standard", (fun filter => .fields filter (some .metadata)) <$> filterMember),
    ("configured",
      (fun filter texts => .fields filter (some (.configured texts))) <$> filterMember <*>
        defaulted "properties" readPropertyTexts {})]

def readPropertiesHandling : Reader PropertiesHandling :=
  readTagged [
    ("ignore", constant .ignore),
    ("to-metadata", PropertiesHandling.toMetadata <$> defaulted "prefix" readText "")]

def readEnvelopeHandling : Reader EnvelopeHandling :=
  readTagged [("ignore", constant .ignore), ("to-metadata", constant .toMetadata)]

def readExchangeKind : Reader ExchangeKind :=
  readName (ExchangeKind.all.map fun kind => (kind.name, kind))

def readExchange : Reader Exchange :=
  readTagged [
    ("default", constant .standard),
    ("explicit", Exchange.explicit <$> required "name" readText <*>
      defaulted "exchange-type" readExchangeKind .direct <*> optional "durable" readFlag)]

def readQueueDeclaration : Reader QueueDeclaration :=
  readTagged [
    ("default", constant .standard),
    ("explicit", QueueDeclaration.explicit <$> optional "durable" readFlag <*>
      optional "exclusive" readFlag <*> optional "auto-delete" readFlag)]

def readPublishBehaviour : Reader PublishBehaviour :=
  readName [("traditional", .traditional), ("no-exception", .noException)]

def readProducer : Reader ProducerSettings :=
  Record.read <|
    ProducerSettings.mk <$> required "queue" readText <*>
      defaulted "properties" readPropertiesBuilder .never <*>
      defaulted "exchange" readExchange .standard <*>
      defaulted "queue-declaration" readQueueDeclaration .standard <*>
      defaulted "behaviour" readPublishBehaviour .traditional

def readConsumer : Reader ConsumerSettings :=
  Record.read <|
    ConsumerSettings.mk <$> required "queue" readText <*>
      defaulted "properties-handler" readPropertiesHandling .ignore <*>
      defaulted "envelope-handler" readEnvelopeHandling .ignore

def readFactoryProperty : Reader (String × String) :=
  Record.read <| Prod.mk <$> required "key" readText <*> required "value" readText

def readFactory : Reader Factory :=
  readTagged [
    ("simple", Factory.simple <$> required "broker-url" readText),
    ("basic", Factory.basic <$> required "broker-url" readText <*> optional "username" readText <*>
      optional "password" readText),
    ("advanced", Factory.advanced <$> required "broker-url" readText <*>
      optional "username" readText <*> optional "password" readText <*>
      defaulted "properties" (readList readFactoryProperty) [])]

def readConnection : Reader ConnectionSettings :=
  Record.read <|
    ConnectionSettings.mk <$> optional "unique-id" readText <*> required "factory" readFactory

end AmqpEndpoints.Configuration
