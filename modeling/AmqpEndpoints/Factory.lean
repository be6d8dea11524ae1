import AmqpEndpoints.BrokerUri
import AmqpEndpoints.Environment
import AmqpEndpoints.Password
import AmqpEndpoints.Text.Classes
import AmqpEndpoints.Text.Quoted

/-!
# Connection factories

A factory is the configuration from which each attempt to connect starts: a broker url, credentials
that override those of the url, and named properties that are applied in order between the two.
`Factory.endpoint` says which broker that is, `Factory.describe` shows the configuration.
-/

set_option autoImplicit false

namespace AmqpEndpoints

/-- What an attempt to connect needs to know. -/
structure Endpoint where
  uri : BrokerUri
  /-- The name that the connection has on the broker. -/
  connectionName : Option String
  /-- Whether faults of the connection have somewhere to go. -/
  hasHandler : Bool
  deriving DecidableEq, Repr

/-- The uri that a configured url means: references are replaced and blanks at the ends left out. -/
def readBrokerUrl (environment : Environment) (url : String) : Except Failure BrokerUri := do
  let resolved ← environment.resolve url
  if Text.blank resolved then throw (.configuration "broker-url may not be blank")
  match BrokerUri.parse (Text.trim resolved) with
  | .ok uri => return uri
  | .error fault => throw (.configuration ("invalid broker-url: " ++ fault.message))

/-- The password that a configured text means. -/
def readPassword (environment : Environment) (configured : String) : Except Failure String := do
  Password.decode (← environment.resolve configured)

/-!
## Properties by name
-/

/-- A property of a factory that is set by name. -/
inductive FactoryProperty where
  | host
  | port
  | username
  | password
  | virtualHost
  /-- Replaces the whole uri. -/
  | uri
  /-- Says whether the connection is encrypted. -/
  | ssl
  | heartbeat
  | channelMax
  | frameMax
  | connectionTimeout
  | connectionName
  deriving DecidableEq, Repr

namespace FactoryProperty

def all : List FactoryProperty :=
  [host, port, username, password, virtualHost, uri, ssl, heartbeat, channelMax, frameMax,
    connectionTimeout, connectionName]

def name : FactoryProperty → String
  | host => "Host"
  | port => "Port"
  | username => "Username"
  | password => "Password"
  | virtualHost => "VirtualHost"
  | uri => "Uri"
  | ssl => "Ssl"
  | heartbeat => "Heartbeat"
  | channelMax => "ChannelMax"
  | frameMax => "FrameMax"
  | connectionTimeout => "ConnectionTimeout"
  | connectionName => "ConnectionName"

/-- A text with its ASCII letters in lower case. -/
def folded (text : String) : List Char :=
  text.toList.map Char.toLower

/-- The property of a name, whatever the case of its ASCII letters and the blanks around it. -/
def ofName? (written : String) : Option FactoryProperty :=
  all.find? fun property => folded property.name == folded (Text.trim written)

/-- What is told about a value that a property cannot have. -/
def invalidValue (property : FactoryProperty) (value : String) : Failure :=
  .configuration ("invalid value `" ++ value ++ "` for " ++ property.name)

/-- The number that a value writes between blanks. -/
def readNumber (property : FactoryProperty) (limit : Nat) (value : String) : Except Failure Nat :=
  match Number.unsigned limit (Text.trim value) with
  | .ok number => .ok number
  | .error _ => .error (property.invalidValue value)

/-- The flag that a value writes between blanks. -/
def readFlag (property : FactoryProperty) (value : String) : Except Failure Bool :=
  let written := Text.trim value
  if written = "true" then .ok true
  else if written = "false" then .ok false
  else .error (property.invalidValue value)

def apply (environment : Environment) (property : FactoryProperty) (value : String)
    (state : BrokerUri × Option String) : Except Failure (BrokerUri × Option String) := do
  let (target, name) := state
  match property with
  | host => return ({ target with host := value }, name)
  | port =>
    let number ← readNumber property Number.limit16 value
    return ({ target with port := UInt16.ofNat number }, name)
  | username => return ({ target with username := value }, name)
  | password =>
    let secret ← readPassword environment value
    return ({ target with password := secret }, name)
  | virtualHost => return ({ target with virtualHost := value }, name)
  | uri =>
    let replaced ← readBrokerUrl environment value
    return (replaced, name)
  | ssl =>
    let encrypted ← readFlag property value
    return ({ target with scheme := if encrypted then .amqps else .amqp }, name)
  | heartbeat =>
    let number ← readNumber property Number.limit16 value
    return ({ target with heartbeat := some (UInt16.ofNat number) }, name)
  | channelMax =>
    let number ← readNumber property Number.limit16 value
    return ({ target with channelMax := some (UInt16.ofNat number) }, name)
  | frameMax =>
    let number ← readNumber property Number.limit32 value
    return ({ target with frameMax := some (UInt32.ofNat number) }, name)
  | connectionTimeout =>
    let number ← readNumber property Number.limit64 value
    return ({ target with connectionTimeout := some (UInt64.ofNat number) }, name)
  | connectionName => return (target, some value)

/-- A uri and a connection name with named properties applied in order. Names of no property are
passed over. -/
def applyAll (environment : Environment) (state : BrokerUri × Option String) :
    List (String × String) → Except Failure (BrokerUri × Option String)
  | [] => .ok state
  | (key, value) :: rest =>
    match ofName? key with
    | none => applyAll environment state rest
    | some property => do
      let next ← property.apply environment value state
      applyAll environment next rest

end FactoryProperty

/-!
## Factories
-/

/-- The configuration of connections. -/
inductive Factory where
  /-- All is in the url. -/
  | simple (url : String)
  /-- Credentials override those of the url. -/
  | basic (url : String) (username password : Option String)
  /-- Properties are applied to the url before the credentials. -/
  | advanced (url : String) (username password : Option String)
      (properties : List (String × String))
  deriving DecidableEq, Repr, Inhabited

namespace Factory

def brokerUrl : Factory → String
  | simple url => url
  | basic url _ _ => url
  | advanced url _ _ _ => url

/-- The configured user name, if there is one. -/
def username? : Factory → Option String
  | simple _ => none
  | basic _ username _ => username
  | advanced _ username _ _ => username

/-- A factory with credentials; one that has its credentials in the url stays as it is. -/
def withCredentials (factory : Factory) (username password : String) : Factory :=
  match factory with
  | simple url => .simple url
  | basic url _ _ => .basic url (some username) (some password)
  | advanced url _ _ properties => .advanced url (some username) (some password) properties

def isSimple : Factory → Bool
  | simple _ => true
  | _ => false

/-- Whether two factories lead to the same broker: they have the same url, and both or neither have
everything in it. -/
def sameBroker (left right : Factory) : Bool :=
  left.isSimple == right.isSimple && left.brokerUrl == right.brokerUrl

def applyCredentials (environment : Environment) (username password : Option String)
    (uri : BrokerUri) : Except Failure BrokerUri := do
  let named := match username with
    | none => uri
    | some name => { uri with username := name }
  match password with
  | none => return named
  | some configured =>
    let secret ← readPassword environment configured
    return { named with password := secret }

def endpoint (environment : Environment) (hasHandler : Bool) : Factory → Except Failure Endpoint
  | simple url => do
    let uri ← readBrokerUrl environment url
    return ⟨uri, none, hasHandler⟩
  | basic url username password => do
    let uri ← readBrokerUrl environment url
    let uri ← applyCredentials environment username password uri
    return ⟨uri, none, hasHandler⟩
  | advanced url username password properties => do
    let uri ← readBrokerUrl environment url
    let (uri, name) ← FactoryProperty.applyAll environment (uri, none) properties
    let uri ← applyCredentials environment username password uri
    return ⟨uri, name, hasHandler⟩

/-!
## Descriptions
-/

def describeField (name value : String) : String :=
  name ++ ": " ++ value

def describeRecord (name : String) (fields : List String) : String :=
  name ++ " \x7b " ++ String.intercalate ", " fields ++ " \x7d"

def describeOptional : Option String → String
  | none => "None"
  | some text => "Some(" ++ Text.quoted text ++ ")"

def describeProperty (property : String × String) : String :=
  describeRecord "KeyValuePair"
    [describeField "key" (Text.quoted property.1), describeField "value" (Text.quoted property.2)]

def describeHandler (hasHandler : Bool) : String :=
  describeField "exception_handler"
    (describeRecord "ExceptionHandlerSlot"
      [describeField "registered" (if hasHandler then "true" else "false")])

def describe (hasHandler : Bool) : Factory → String
  | simple url =>
    "Simple(" ++ describeRecord "SimpleConnectionFactoryBuilder"
      [describeField "broker_url" (Text.quoted url), describeHandler hasHandler] ++ ")"
  | basic url username password =>
    "Basic(" ++ describeRecord "BasicConnectionFactoryBuilder"
      [describeField "broker_url" (Text.quoted url),
        describeField "username" (describeOptional username),
        describeField "password" (describeOptional password), describeHandler hasHandler] ++ ")"
  | advanced url username password properties =>
    "Advanced(" ++ describeRecord "AdvancedConnectionFactoryBuilder"
      [describeField "broker_url" (Text.quoted url),
        describeField "username" (describeOptional username),
        describeField "password" (describeOptional password),
        describeField "properties"
          ("[" ++ String.intercalate ", " (properties.map describeProperty) ++ "]"),
        describeHandler hasHandler] ++ ")"

end Factory

end AmqpEndpoints
