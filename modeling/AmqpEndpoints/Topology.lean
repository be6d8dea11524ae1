/-!
# Exchanges and queues

What a producer or consumer declares on the broker before it uses it.
-/

set_option autoImplicit false

namespace AmqpEndpoints

/-- How an exchange routes messages. -/
inductive ExchangeKind where
  | direct
  | fanout
  | topic
  | headers
  deriving DecidableEq, Repr, Inhabited

namespace ExchangeKind

def all : List ExchangeKind := [direct, fanout, topic, headers]

def name : ExchangeKind → String
  | direct => "direct"
  | fanout => "fanout"
  | topic => "topic"
  | headers => "headers"

end ExchangeKind

/-- The exchange that a producer publishes to. -/
inductive Exchange where
  /-- The exchange without name, which is always there. -/
  | standard
  /-- A named exchange, which is declared; it is durable unless told otherwise. -/
  | explicit (name : String) (kind : ExchangeKind) (durable : Option Bool)
  deriving DecidableEq, Repr, Inhabited

/-- The name under which messages are published. -/
def Exchange.name : Exchange → String
  | standard => ""
  | explicit name _ _ => name

/-- How a queue is declared; what is not told has a default. -/
inductive QueueDeclaration where
  | standard
  | explicit (durable exclusive autoDelete : Option Bool)
  deriving DecidableEq, Repr, Inhabited

/-- The flags of a queue. -/
structure QueueFlags where
  durable : Bool
  exclusive : Bool
  autoDelete : Bool
  deriving DecidableEq, Repr

/-- The flags that a queue is declared with: durable, not exclusive and not deleted unless told
otherwise. -/
def QueueDeclaration.flags : QueueDeclaration → QueueFlags
  | standard => ⟨true, false, false⟩
  | explicit durable exclusive autoDelete =>
    ⟨durable.getD true, exclusive.getD false, autoDelete.getD false⟩

end AmqpEndpoints
