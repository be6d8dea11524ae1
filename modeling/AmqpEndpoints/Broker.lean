import AmqpEndpoints.Broker.Call

/-!
# Broker

The other side of all calls. It follows a script: for each kind of call a queue of outcomes, and
success when the queue is empty. Connections, channels and streams are numbered as they are opened.
-/

set_option autoImplicit false

namespace AmqpEndpoints

/-- The kinds of calls that a script tells the outcome of. -/
inductive Point where
  | build
  | connect
  | createChannel
  | closeConnection
  | declareExchange
  | declareQueue
  | selectConfirms
  | publish
  | consume
  | closeChannel
  | listener
  deriving DecidableEq, Repr

/-- How a call goes. Only publishing tells apart the ways to succeed. -/
inductive Outcome where
  | plain
  | ack
  | nack
  | fails (failure : Failure)
  deriving DecidableEq, Repr

/-- The confirmation that an outcome means, or its failure. -/
def Outcome.reply : Outcome → Except Failure Confirmation
  | plain => .ok .notRequested
  | ack => .ok .ack
  | nack => .ok .nack
  | fails failure => .error failure

/-- Outcomes in the order in which calls of their kinds get them. -/
abbrev Script := List (Point × Outcome)

/-- The next outcome of a kind of calls, and the script without it. -/
def nextOutcome (point : Point) : Script → Outcome × Script
  | [] => (.plain, [])
  | entry :: rest =>
    if entry.1 = point then (entry.2, rest)
    else
      let found := nextOutcome point rest
      (found.1, entry :: found.2)

/-- The state of the broker. -/
structure Broker where
  /-- What making the endpoint gives, before the script is asked. -/
  endpoint : Except Failure Unit := .ok ()
  script : Script := []
  /-- How many connections were opened. -/
  connections : Nat := 0
  /-- How many channels were created. -/
  channels : Nat := 0
  /-- How many streams were opened. -/
  streams : Nat := 0
  /-- How many consumer tags were drawn. -/
  tags : Nat := 0
  /-- All events so far. -/
  log : List Event := []

namespace Broker

def record (broker : Broker) (event : Event) : Broker :=
  { broker with log := broker.log ++ [event] }

def outcome (broker : Broker) (point : Point) : Except Failure Confirmation × Broker :=
  let next := nextOutcome point broker.script
  (next.1.reply, { broker with script := next.2 })

def plainOutcome (broker : Broker) (point : Point) : Except Failure Unit × Broker :=
  let (reply, next) := broker.outcome point
  (reply.map fun _ => (), next)

def answer (broker : Broker) : (call : Call) → call.Reply × Broker
  | .build =>
    match broker.endpoint with
    | .error failure => (.error failure, broker)
    | .ok _ => broker.plainOutcome .build
  | .connect _ =>
    let (reply, next) := broker.plainOutcome .connect
    match reply with
    | .error failure => (.error failure, next)
    | .ok _ => (.ok (next.connections + 1), { next with connections := next.connections + 1 })
  | .createChannel _ =>
    let (reply, next) := broker.plainOutcome .createChannel
    match reply with
    | .error failure => (.error failure, next)
    | .ok _ => (.ok (next.channels + 1), { next with channels := next.channels + 1 })
  | .closeConnection _ => broker.plainOutcome .closeConnection
  | .declareExchange .. => broker.plainOutcome .declareExchange
  | .declareQueue .. => broker.plainOutcome .declareQueue
  | .selectConfirms _ => broker.plainOutcome .selectConfirms
  | .publish .. => broker.outcome .publish
  | .consume .. =>
    let (reply, next) := broker.plainOutcome .consume
    match reply with
    | .error failure => (.error failure, next)
    | .ok _ => (.ok next.streams, { next with streams := next.streams + 1 })
  | .closeChannel _ => broker.plainOutcome .closeChannel

/-- The answer to a call, which is also recorded. -/
def respond (broker : Broker) (call : Call) : call.Reply × Broker :=
  let (reply, next) := broker.answer call
  (reply, next.record (.returned call reply))

/-- What a listener says to a message, which is also recorded. -/
def listen (broker : Broker) (listener : String) (message : Message) (context : Trace.Context) :
    Except Failure Unit × Broker :=
  (broker.record (.message listener message context)).plainOutcome .listener

/-- A consumer tag that was not drawn before. -/
def drawTag (broker : Broker) : String × Broker :=
  ("<tag-" ++ toString broker.tags ++ ">", { broker with tags := broker.tags + 1 })

end Broker

end AmqpEndpoints
