import AmqpEndpoints.Failure
import AmqpEndpoints.Properties
import AmqpEndpoints.Text.LowerCase

/-!
# Trace context

The context of a trace travels in the headers, as long texts under lower-case names. A consumer has
it read back by the propagator of the host, and makes it the parent of the span in which a message is
handled.
-/

set_option autoImplicit false

namespace AmqpEndpoints.Trace

/-- The name under which spans are recorded. -/
def tracer : String := "rabbitmq-adapter"

/-- A header table with the pairs of a context set in order. -/
def injectHeaders (headers : Table Value) (pairs : List (String × String)) : Table Value :=
  headers.insertAll (pairs.map fun pair => (Text.lowerCase pair.1, Value.ofText pair.2))

/-- Properties that carry the pairs of a context beside the headers they have. -/
def inject (pairs : List (String × String)) (properties : Properties) : Properties :=
  { properties with headers := some (injectHeaders properties.headerTable pairs) }

def carried? (headers : Table Value) (name : String) : Option String :=
  (headers.get? name).bind Value.carriedText?

/-- What can be read of a message: the names that there are, and the text under a name. -/
structure Carrier where
  names : List String
  text? : String → Option String

/-- Headers as a propagator reads them. -/
def carrier (headers : Table Value) : Carrier :=
  ⟨headers.keys, carried? headers⟩

/-- A context, as the entries that a propagator made of what it read. -/
abbrev Context := List (String × Option String)

/-- The part of the host that knows how contexts are written. -/
structure Propagator where
  extract : Carrier → Context

/-- A propagator that reads nothing. It is in place until the host installs another one. -/
def Propagator.idle : Propagator :=
  ⟨fun _ => []⟩

/-- The context that properties carry for a propagator. -/
def extract (propagator : Propagator) (properties : Option Properties) : Context :=
  propagator.extract (carrier ((properties.map Properties.headerTable).getD .empty))

/-- How the work of a span went. -/
inductive Status where
  | unset
  | ok
  | failed (description : String)
  deriving DecidableEq, Repr

/-- The record of one piece of work. -/
structure Span where
  name : String
  parent : Context
  status : Status
  /-- What was told about each failure recorded in the span. -/
  failures : List String
  deriving DecidableEq, Repr

/-- A span in which nothing was recorded. -/
def Span.begin (propagator : Propagator) (name : String) (properties : Option Properties) : Span :=
  ⟨name, extract propagator properties, .unset, []⟩

/-- A span with the outcome of the listener that handled its message. -/
def Span.finish (span : Span) : Except Failure Unit → Span
  | .ok _ => { span with status := .ok }
  | .error failure =>
    { span with
      status := .failed "listener failure"
      failures := span.failures ++ [failure.message] }

end AmqpEndpoints.Trace
