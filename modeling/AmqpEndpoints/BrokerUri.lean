import AmqpEndpoints.Number.Unsigned
import AmqpEndpoints.Text.LowerCase
import AmqpEndpoints.Url

/-!
# Broker uris

Where a broker is, who connects to it and with which limits. A uri is read from a url with the
scheme `amqp` or `amqps`; what the url leaves out has a default.
-/

set_option autoImplicit false

namespace AmqpEndpoints

/-- How a connection is carried: plain, or encrypted. -/
inductive Scheme where
  | amqp
  | amqps
  deriving DecidableEq, Repr, Inhabited

def Scheme.name : Scheme → String
  | amqp => "amqp"
  | amqps => "amqps"

/-- The port of a scheme where none is given. -/
def Scheme.defaultPort : Scheme → UInt16
  | amqp => 5672
  | amqps => 5671

/-- How a client proves who it is. -/
inductive Mechanism where
  | amqplain
  | external
  | plain
  | rabbitCrDemo
  deriving DecidableEq, Repr

/-- The mechanism of a lower-case name. -/
def Mechanism.ofName? : String → Option Mechanism
  | "amqplain" => some amqplain
  | "external" => some external
  | "plain" => some plain
  | "rabbit-cr-demo" => some rabbitCrDemo
  | _ => none

def Mechanism.name : Mechanism → String
  | amqplain => "AMQPLAIN"
  | external => "EXTERNAL"
  | plain => "PLAIN"
  | rabbitCrDemo => "RABBIT-CR-DEMO"

/-- A broker to connect to. -/
structure BrokerUri where
  scheme : Scheme
  username : String
  password : String
  host : String
  port : UInt16
  virtualHost : String
  frameMax : Option UInt32
  channelMax : Option UInt16
  heartbeat : Option UInt16
  /-- In milliseconds. -/
  connectionTimeout : Option UInt64
  mechanism : Option Mechanism
  deriving DecidableEq, Repr

namespace BrokerUri

/-- Why a text is not the uri of a broker. -/
inductive Fault where
  | url (fault : Url.Fault)
  /-- The text is a url without host and path. -/
  | unstructured (text : String)
  | unknownScheme (scheme : String)
  | notUtf8 (fault : Text.Utf8.Fault)
  | notANumber (fault : Number.Fault)
  | unknownMechanism (name : String)
  deriving DecidableEq, Repr

/-- What is told about a text that is not the uri of a broker. -/
def Fault.message : Fault → String
  | .url fault => fault.message
  | .unstructured text => "Invalid URL: '" ++ text ++ "'"
  | .unknownScheme scheme => "Invalid AMQP scheme: " ++ scheme
  | .notUtf8 fault => fault.message
  | .notANumber fault => fault.message
  | .unknownMechanism name => "Invalid SASL mechanism: " ++ name

/-- The user name, and also the password, where a url gives none. -/
def guest : String := "guest"

/-- The host where a url names none. -/
def localhost : String := "localhost"

def schemeOf (name : String) : Except Fault Scheme :=
  if name = "amqp" then .ok .amqp
  else if name = "amqps" then .ok .amqps
  else .error (.unknownScheme name)

def decoded (written : List Char) : Except Fault String :=
  match Text.Utf8.decode (Text.Percent.decode written) with
  | .ok text => .ok text
  | .error fault => .error (.notUtf8 fault)

/-- The text of a part of a url, or a default where the part is empty. -/
def decodedOr (fallback : String) (written : List Char) : Except Fault String :=
  if written.isEmpty then .ok fallback else decoded written

/-- The name of a host; an address of version 6 has none. -/
def hostOf : Url.Host → Except Fault String
  | .domain text => decodedOr localhost text
  | .ipv6 => .ok localhost

def limitOf (query : List Char) (name : String) (limit : Nat) : Except Fault (Option Nat) :=
  match Url.queryValue? query name with
  | none => .ok none
  | some text =>
    match Number.unsigned limit text with
    | .ok number => .ok (some number)
    | .error fault => .error (.notANumber fault)

def mechanismOf (query : List Char) : Except Fault (Option Mechanism) :=
  match Url.queryValue? query "auth_mechanism" with
  | none => .ok none
  | some text =>
    match Mechanism.ofName? (Text.lowerCase text) with
    | some mechanism => .ok (some mechanism)
    | none => .error (.unknownMechanism (Text.lowerCase text))

/-- The uri of a url with given parts. Of several faults the one of the first field counts. -/
def ofParts (scheme : Scheme) (parts : UrlParts) : Except Fault BrokerUri := do
  let username ← decodedOr guest parts.username
  let password ← decodedOr guest parts.password
  let host ← hostOf parts.host
  let virtualHost ← match parts.path with
    | none => .ok "/"
    | some path => decoded path
  let frameMax ← limitOf parts.query "frame_max" Number.limit32
  let channelMax ← limitOf parts.query "channel_max" Number.limit16
  let heartbeat ← limitOf parts.query "heartbeat" Number.limit16
  let connectionTimeout ← limitOf parts.query "connection_timeout" Number.limit64
  let mechanism ← mechanismOf parts.query
  return {
    scheme := scheme
    username := username
    password := password
    host := host
    port := parts.port.getD scheme.defaultPort
    virtualHost := virtualHost
    frameMax := frameMax.map UInt32.ofNat
    channelMax := channelMax.map UInt16.ofNat
    heartbeat := heartbeat.map UInt16.ofNat
    connectionTimeout := connectionTimeout.map UInt64.ofNat
    mechanism := mechanism }

def parse (text : String) : Except Fault BrokerUri :=
  match Url.parse text.toList with
  | .error fault => .error (.url fault)
  | .ok (.unstructured _) => .error (.unstructured text)
  | .ok (.web scheme) => .error (.unknownScheme scheme)
  | .ok (.general name parts) => do ofParts (← schemeOf name) parts

end BrokerUri

end AmqpEndpoints
