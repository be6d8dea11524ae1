import AmqpEndpoints.Failure
import AmqpEndpoints.Message
import AmqpEndpoints.Properties
import AmqpEndpoints.Topology
import AmqpEndpoints.Trace

/-!
# Calls

The calls that connections and channels make to the broker, what each of them gives back, and the
events that are seen from outside.
-/

set_option autoImplicit false

namespace AmqpEndpoints

/-- The number of a connection, in the order in which connections were opened. -/
abbrev ConnectionId := Nat

/-- The number of a channel, in the order in which channels were created. -/
abbrev ChannelId := Nat

/-- The number of a stream of deliveries, in the order in which streams were opened. -/
abbrev StreamId := Nat

/-- What the broker says about a published message. -/
inductive Confirmation where
  | notRequested
  | ack
  | nack
  deriving DecidableEq, Repr

/-- A call to the broker. -/
inductive Call where
  /-- Makes the endpoint to connect to. -/
  | build
  | connect (name : String)
  | createChannel (connection : ConnectionId)
  | closeConnection (connection : ConnectionId)
  | declareExchange (channel : ChannelId) (name : String) (kind : ExchangeKind) (durable : Bool)
  | declareQueue (channel : ChannelId) (name : String) (flags : QueueFlags)
  | selectConfirms (channel : ChannelId)
  | publish (channel : ChannelId) (exchange routingKey : String) (payload : List UInt8)
      (properties : Option Properties)
  | consume (channel : ChannelId) (queue tag : String)
  | closeChannel (channel : ChannelId)
  deriving Repr

namespace Call

abbrev Result : Call → Type
  | build => Unit
  | connect _ => ConnectionId
  | createChannel _ => ChannelId
  | closeConnection _ => Unit
  | declareExchange .. => Unit
  | declareQueue .. => Unit
  | selectConfirms _ => Unit
  | publish .. => Confirmation
  | consume .. => StreamId
  | closeChannel _ => Unit

abbrev Reply (call : Call) : Type := Except Failure call.Result

/-- The channel that a call is made on, if it is made on one. -/
def channel? : Call → Option ChannelId
  | declareExchange channel .. => some channel
  | declareQueue channel .. => some channel
  | selectConfirms channel => some channel
  | publish channel .. => some channel
  | consume channel .. => some channel
  | closeChannel channel => some channel
  | _ => none

end Call

/-- What is seen from outside, in order. -/
inductive Event where
  /-- A call is made. -/
  | called (call : Call)
  /-- A call gave something back. -/
  | returned (call : Call) (reply : call.Reply)
  /-- A listener gets a message. -/
  | message (listener : String) (message : Message) (context : Trace.Context)
  /-- A span ends. -/
  | span (span : Trace.Span)

end AmqpEndpoints
