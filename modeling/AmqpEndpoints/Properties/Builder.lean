import AmqpEndpoints.Filter
import AmqpEndpoints.Properties

/-!
# Building properties

How a producer makes the properties of a message. A builder may make none; it does so when it has no
fields to set and no metadata passes its filter.
-/

set_option autoImplicit false

namespace AmqpEndpoints

/-- A configured text for each standard field, which may refer to metadata. -/
structure PropertyTexts where
  appId : Option String := none
  clusterId : Option String := none
  contentEncoding : Option String := none
  contentType : Option String := none
  correlationId : Option String := none
  deliveryMode : Option String := none
  expiration : Option String := none
  messageId : Option String := none
  priority : Option String := none
  replyTo : Option String := none
  timestamp : Option String := none
  kind : Option String := none
  userId : Option String := none
  deriving DecidableEq, Repr, Inhabited

namespace PropertyTexts

/-- The configured texts in the order in which they are resolved, under the metadata keys of their
fields. -/
def entries (texts : PropertyTexts) : List (String × Option String) :=
  [(Metadata.Key.appId, texts.appId),
    (Metadata.Key.clusterId, texts.clusterId),
    (Metadata.Key.contentEncoding, texts.contentEncoding),
    (Metadata.Key.contentType, texts.contentType),
    (Metadata.Key.correlationId, texts.correlationId),
    (Metadata.Key.deliveryMode, texts.deliveryMode),
    (Metadata.Key.expiration, texts.expiration),
    (Metadata.Key.messageId, texts.messageId),
    (Metadata.Key.priority, texts.priority),
    (Metadata.Key.replyTo, texts.replyTo),
    (Metadata.Key.timestamp, texts.timestamp),
    (Metadata.Key.kind, texts.kind),
    (Metadata.Key.userId, texts.userId)]

/-- The resolved texts of the entries that have one; the first that does not resolve is the
failure. -/
def resolveEntries (message : Message) :
    List (String × Option String) → Except Failure (List (String × String))
  | [] => .ok []
  | (_, none) :: rest => resolveEntries message rest
  | (key, some text) :: rest => do
    let resolved ← message.resolve text
    return (key, resolved) :: (← resolveEntries message rest)

def build (texts : PropertyTexts) (message : Message) : Except Failure Properties :=
  (resolveEntries message texts.entries).map fun pairs => .ofMetadata (.ofList pairs)

end PropertyTexts

/-- Where the standard fields of a message come from. -/
inductive FieldSource where
  /-- From the metadata of the message. -/
  | metadata
  /-- From configured texts. -/
  | configured (texts : PropertyTexts)
  deriving DecidableEq, Repr

def FieldSource.build : FieldSource → Message → Except Failure Properties
  | metadata, message => .ok (.ofMetadata message.metadata)
  | configured texts, message => texts.build message

/-- How the properties of a message are made. -/
inductive PropertiesBuilder where
  /-- Messages get no properties. -/
  | never
  /-- Fields from a source, and headers from the metadata that passes a filter. -/
  | fields (filter : Filter) (source : Option FieldSource)
  deriving DecidableEq, Repr

namespace PropertiesBuilder

def withHeaders (properties : Properties) (metadata : Metadata) : Properties :=
  { properties with
    headers := some (properties.headerTable.insertAll (metadata.map Value.ofText).entries) }

/-- The properties of a message, if it gets any. -/
def build : PropertiesBuilder → Message → Except Failure (Option Properties)
  | never, _ => .ok none
  | fields filter source, message => do
    let built ← source.mapM fun source => source.build message
    let kept := filter.apply message.metadata
    if kept.isEmpty then return built
    else return some (withHeaders (built.getD {}) kept)

end PropertiesBuilder

end AmqpEndpoints
