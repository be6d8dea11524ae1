import AmqpEndpoints.Declaration

/-!
# Consumers

What a consumer does on its channel, and how its dispatcher hands deliveries to a listener: one
after the other, each in a span of its own, whatever becomes of the ones before.
-/

set_option autoImplicit false

namespace AmqpEndpoints

open Program

/-- The message that a dispatcher makes of a delivery. It tells tag and queue, whatever the delivery
says about them. -/
def Dispatcher.message (dispatcher : Dispatcher) (delivery : Delivery) : Message :=
  let translated := delivery.toMessage dispatcher.consumer.forProperties
    dispatcher.consumer.forEnvelope dispatcher.consumer.factory
  (translated.set Metadata.Key.consumerTag dispatcher.tag).set Metadata.Key.queue
    dispatcher.consumer.queue

def Dispatcher.dispatch (dispatcher : Dispatcher) (propagator : Trace.Propagator)
    (delivery : Delivery) : Program Unit := do
  let span := Trace.Span.begin propagator dispatcher.consumer.queue delivery.properties
  let outcome ←
    act (.listen dispatcher.consumer.listener (dispatcher.message delivery) span.parent)
  act (.endSpan (span.finish outcome))

/-- Takes one item of a stream. A failure to receive was told elsewhere and is passed over. -/
def Dispatcher.receive (dispatcher : Dispatcher) (propagator : Trace.Propagator) :
    Except Failure Delivery → Program Unit
  | .ok delivery => dispatcher.dispatch propagator delivery
  | .error _ => pure ()

/-- Takes all items of a stream in order. -/
def Dispatcher.receiveAll (dispatcher : Dispatcher) (propagator : Trace.Propagator) :
    List (Except Failure Delivery) → Program Unit
  | [] => pure ()
  | item :: rest => do
    dispatcher.receive propagator item
    dispatcher.receiveAll propagator rest

/-- Sets up a new channel of a consumer and starts reading from its queue. -/
def Consumer.setUp (consumer : Consumer) (channel : ChannelId) : Attempt StreamId := do
  QueueDeclaration.standard.declare channel consumer.queue
  let tag ← (act .drawTag : Program String)
  let stream ← attempt (.consume channel consumer.queue tag)
  let _ ← (act (.spawn stream ⟨consumer, tag⟩) : Program Unit)
  return stream

end AmqpEndpoints
