import AmqpEndpoints.Metadata
import AmqpEndpoints.Number.Unsigned
import AmqpEndpoints.Text.Classes
import AmqpEndpoints.Time.Timestamp
import AmqpEndpoints.Value

/-!
# Message properties

The standard fields that the broker carries beside a payload, and the headers. The standard fields
have one metadata key each: `Properties.entries` writes them and `Properties.ofMetadata` reads them.
-/

set_option autoImplicit false

namespace AmqpEndpoints

/-- The properties of a message on the broker. -/
structure Properties where
  appId : Option String := none
  clusterId : Option String := none
  contentEncoding : Option String := none
  contentType : Option String := none
  correlationId : Option String := none
  deliveryMode : Option UInt8 := none
  expiration : Option String := none
  messageId : Option String := none
  priority : Option UInt8 := none
  replyTo : Option String := none
  timestamp : Option UInt64 := none
  kind : Option String := none
  userId : Option String := none
  headers : Option (Table Value) := none
  deriving Inhabited, Repr

namespace Properties

/-- The number of the class of methods that every property list belongs to. -/
def classId : String := "60"

def octetText (octet : UInt8) : String :=
  toString octet.toNat

/-- The text of each standard field under its metadata key, where there is one. -/
def entries (properties : Properties) : List (String × Option String) :=
  [(Metadata.Key.appId, properties.appId),
    (Metadata.Key.contentEncoding, properties.contentEncoding),
    (Metadata.Key.clusterId, properties.clusterId),
    (Metadata.Key.classId, some classId),
    (Metadata.Key.contentType, properties.contentType),
    (Metadata.Key.correlationId, properties.correlationId),
    (Metadata.Key.deliveryMode, properties.deliveryMode.map octetText),
    (Metadata.Key.expiration, properties.expiration),
    (Metadata.Key.messageId, properties.messageId),
    (Metadata.Key.priority, properties.priority.map octetText),
    (Metadata.Key.replyTo, properties.replyTo),
    (Metadata.Key.timestamp,
      properties.timestamp.bind fun seconds => Time.formatTimestamp seconds.toNat),
    (Metadata.Key.kind, properties.kind),
    (Metadata.Key.userId, properties.userId)]

/-- The trimmed text of a key, if it is not blank. -/
def textAt (metadata : Metadata) (key : String) : Option String :=
  ((metadata.get? key).map Text.trim).filter fun text => !text.isEmpty

def octetAt (metadata : Metadata) (key : String) : Option UInt8 :=
  (textAt metadata key).bind fun text =>
    (Number.unsigned Number.limit8 text).toOption.map UInt8.ofNat

def timestampAt (metadata : Metadata) (key : String) : Option UInt64 :=
  (textAt metadata key).bind fun text => (Time.parseTimestamp text).map UInt64.ofNat

/-- The properties that metadata gives: blank texts and texts that do not fit a field are passed
over. -/
def ofMetadata (metadata : Metadata) : Properties where
  appId := textAt metadata Metadata.Key.appId
  clusterId := textAt metadata Metadata.Key.clusterId
  contentEncoding := textAt metadata Metadata.Key.contentEncoding
  contentType := textAt metadata Metadata.Key.contentType
  correlationId := textAt metadata Metadata.Key.correlationId
  deliveryMode := octetAt metadata Metadata.Key.deliveryMode
  expiration := textAt metadata Metadata.Key.expiration
  messageId := textAt metadata Metadata.Key.messageId
  priority := octetAt metadata Metadata.Key.priority
  replyTo := textAt metadata Metadata.Key.replyTo
  timestamp := timestampAt metadata Metadata.Key.timestamp
  kind := textAt metadata Metadata.Key.kind
  userId := textAt metadata Metadata.Key.userId

/-- The headers, where no headers are none. -/
def headerTable (properties : Properties) : Table Value :=
  properties.headers.getD .empty

def header? (properties : Properties) (key : String) : Option String :=
  (properties.headerTable.get? key).map Value.text

end Properties

end AmqpEndpoints
