import AmqpEndpoints.Proofs.Components
import AmqpEndpoints.Proofs.Pool
import AmqpEndpoints.Proofs.TraceContext

/-!
# Deliveries to listeners

A consumer that was started reads one stream, under a tag that was drawn for it. Its dispatcher
hands the deliveries of that stream to the listener, one after the other: each is told once and its
span ends before the next one is taken, whatever became of the ones before.
-/

set_option autoImplicit false

namespace AmqpEndpoints

open Program

/-!
## The last change
-/

/-- What only actions of a kind can change is as the last one of them left it. -/
theorem World.replay_last {β : Type} (view : World → β) {kind : Action → Bool}
    (unchanged : ∀ action, kind action = false → ∀ world : World,
      view (world.perform action).2 = view world) (world : World) {entries earlier : List Done}
    {entry : Done} (last : entries.filter (kind ·.action) = earlier ++ [entry]) :
    ∃ before,
      view (world.replay entries) = view ((world.replay before).perform entry.action).2 := by
  induction entries using List.reverseRecOn with
  | nil => simp at last
  | append_singleton entries newest ih =>
      rw [replay_snoc]
      rw [List.filter_append, List.filter_cons, List.filter_nil] at last
      cases changes : kind newest.action with
      | true =>
          rw [changes, if_pos rfl] at last
          obtain ⟨_, same⟩ := List.append_inj' last rfl
          cases same
          exact ⟨entries, rfl⟩
      | false =>
          rw [changes, if_neg nofun, List.append_nil] at last
          rw [unchanged _ changes]
          exact ih last

def Action.ofStreams : Action → Bool
  | issue (.consume ..) => true
  | await (.consume ..) => true
  | spawn .. => true
  | cancel _ => true
  | _ => false

def Action.consumes : Action → Bool
  | issue (.consume ..) => true
  | await (.consume ..) => true
  | _ => false

theorem World.setDispatcher_get (world : World) (stream : StreamId) (reader : Option Dispatcher) :
    (world.setDispatcher stream reader).dispatchers[stream]? = some reader := by
  unfold setDispatcher
  split
  · simp_all
  · rename_i beyond
    simp only [List.append_assoc]
    rw [List.getElem?_append_right (Nat.le_of_not_lt beyond),
      List.getElem?_append_right (by simp)]
    simp

theorem World.perform_dispatchers {action : Action} (other : action.ofStreams = false)
    (world : World) : (world.perform action).2.dispatchers = world.dispatchers := by
  cases action with
  | spawn | cancel => cases other
  | _ => rfl

/-!
## Starting to read
-/

/-- What gets a consumer its stream: it is asked for once, and its dispatcher is spawned. -/
def Dispatcher.subscription (dispatcher : Dispatcher) (channel : ChannelId) (stream : StreamId) :
    List Done :=
  [⟨.issue (.consume channel dispatcher.consumer.queue dispatcher.tag), ()⟩,
    ⟨.await (.consume channel dispatcher.consumer.queue dispatcher.tag), .ok stream⟩,
    ⟨.spawn stream dispatcher, ()⟩]

variable {recorded : List Done}

theorem Consumer.setUp_records (consumer : Consumer) (channel : ChannelId) :
    (consumer.setUp channel).run.Follows (.recording Action.ofStreams) recorded
      fun outcome later => ∀ stream, outcome = .ok stream → ∃ tag,
        later = recorded ++ Dispatcher.subscription ⟨consumer, tag⟩ channel stream := by
  refine follows_attempt_bind.mpr ⟨trivial, fun _ _ => ⟨trivial, fun declared _ => ?_⟩⟩
  cases declared with
  | error failure => exact nofun
  | ok _ =>
      refine follows_attempt_bind.mpr ⟨trivial, fun tag _ => ?_⟩
      refine follows_attempt_bind.mpr ⟨trivial, fun _ _ => ⟨trivial, fun consumed _ => ?_⟩⟩
      cases consumed with
      | error failure => exact nofun
      | ok stream =>
          refine follows_attempt_bind.mpr ⟨trivial, fun _ _ stream same => ⟨tag, ?_⟩⟩
          cases same
          simp [Discipline.recording, Action.ofStreams, Dispatcher.subscription]

/-- A consumer that gets a channel gets the stream of one subscription with it. -/
theorem Consumer.acquire_records (consumer : Consumer) :
    (Role.consumer consumer).acquire.run.Follows (.recording Action.ofStreams) []
      fun outcome later => ∀ held, outcome = .ok held → ∃ stream tag,
        held.stream = some stream ∧
          later = Dispatcher.subscription ⟨consumer, tag⟩ held.channel stream := by
  refine follows_attempt_bind.mpr (follows_attempt_bind.mpr ⟨trivial, fun handle _ => ?_⟩)
  cases handle with
  | none => exact nofun
  | some connection =>
      refine follows_attempt_bind.mpr ⟨trivial, fun _ _ => ⟨trivial, fun created _ => ?_⟩⟩
      cases created with
      | error failure => exact nofun
      | ok channel =>
          change (tryCatch _ _ : Attempt Held).run.Follows _ [] _
          rw [ExceptT.run_tryCatch]
          refine follows_bind.mpr (follows_attempt_bind.mpr
            ((setUp_records consumer channel).imp fun outcome later reads => ?_))
          cases outcome with
          | ok stream =>
              rintro held ⟨⟩
              obtain ⟨tag, same⟩ := reads stream rfl
              exact ⟨stream, tag, rfl, same⟩
          | error failure => exact ⟨trivial, fun _ _ => ⟨trivial, fun _ _ => nofun⟩⟩

theorem Component.empty_cancels {component : ComponentId} :
    (Component.empty component).Uses fun action =>
      action.ofStreams → ∃ stream, action = .cancel stream := by
  refine Uses.bind (uses_act nofun) fun _ => Uses.bind (uses_act nofun) fun held => ?_
  refine (uses_giveBack held).mono fun action about => ?_
  cases action with
  | issue call | await call => cases call <;> first | exact about.elim | exact nofun
  | cancel stream => exact fun _ => ⟨stream, rfl⟩
  | _ => exact about.elim

theorem Component.finish_streams {component : ComponentId} (acquired : Except Failure Held)
    (world : World) :
    ((Component.finish component acquired).trace world).filter (·.action.ofStreams) = [] := by
  cases acquired <;> rfl

variable {component : ComponentId} {consumer : Consumer} {world : World}

/-- A consumer that was started holds a channel and the stream that it subscribed to there. -/
theorem Component.start_reads (present : component < world.components.length)
    (started : ((Component.start component (.consumer consumer)).run world).1 = .ok ()) :
    ∃ channel stream tag earlier,
      ((Component.start component (.consumer consumer)).run world).2.heldBy component =
          some ⟨channel, some stream⟩ ∧
        ((Component.start component (.consumer consumer)).trace world).filter
            (·.action.ofStreams) =
          earlier ++ Dispatcher.subscription ⟨consumer, tag⟩ channel stream ∧
        ∀ entry ∈ earlier, ∃ stream, entry.action = .cancel stream := by
  have holds := start_heldBy (.consumer consumer) present
  rw [start_result] at started
  have reads := (leaves_trace _ ((Component.empty component).run world).2).recorded
    (Consumer.acquire_records consumer)
  change ∀ held, (acquired component (.consumer consumer) world).1 = .ok held → _ at reads
  cases got : (acquired component (.consumer consumer) world).1 with
  | error failure =>
      rw [got] at started
      cases started
  | ok held =>
      obtain ⟨channel, _⟩ := held
      obtain ⟨stream, tag, rfl, subscribed⟩ := reads _ got
      rw [got] at holds
      refine ⟨channel, stream, tag,
        ((Component.empty component).trace world).filter (·.action.ofStreams), holds, ?_, ?_⟩
      · rw [start_eq, trace_bind, trace_bind, List.filter_append, List.filter_append, subscribed,
          finish_streams, List.append_nil]
      · intro entry member
        obtain ⟨done, about⟩ := List.mem_filter.mp member
        exact empty_cancels.of_mem_trace done about

/-- A consumer that was started asked for one stream, and its own dispatcher reads that one. -/
theorem Component.start_subscribes (present : component < world.components.length)
    (started : ((Component.start component (.consumer consumer)).run world).1 = .ok ()) :
    ∃ channel stream tag,
      let entries := (Component.start component (.consumer consumer)).trace world
      let after := ((Component.start component (.consumer consumer)).run world).2
      after.heldBy component = some ⟨channel, some stream⟩ ∧
        after.dispatchers[stream]? = some (some ⟨consumer, tag⟩) ∧
        entries.filter (·.action.consumes) =
          [⟨.issue (.consume channel consumer.queue tag), ()⟩,
            ⟨.await (.consume channel consumer.queue tag), .ok stream⟩] := by
  obtain ⟨channel, stream, tag, earlier, holds, reads, cancels⟩ := start_reads present started
  refine ⟨channel, stream, tag, holds, ?_, ?_⟩
  · have last : ((Component.start component (.consumer consumer)).trace world).filter
        (·.action.ofStreams) =
          (earlier ++ [⟨.issue (.consume channel consumer.queue tag), ()⟩,
            ⟨.await (.consume channel consumer.queue tag), .ok stream⟩]) ++
              [⟨.spawn stream ⟨consumer, tag⟩, ()⟩] := by
      rw [reads, List.append_assoc]
      rfl
    obtain ⟨before, same⟩ := World.replay_last (·.dispatchers[stream]?)
      (fun _ other world => by simp only [World.perform_dispatchers other]) world last
    rw [run_world]
    exact same.trans (World.setDispatcher_get ..)
  · have about : ∀ action : Action, (action.consumes && action.ofStreams) = action.consumes := by
      intro action
      cases action with
      | issue call | await call => cases call <;> rfl
      | _ => rfl
    have silent : earlier.filter (·.action.consumes) = [] := by
      refine List.filter_eq_nil_iff.mpr fun entry member => ?_
      obtain ⟨stopped, same⟩ := cancels entry member
      rw [same]
      exact nofun
    have asked := congrArg (List.filter (·.action.consumes)) reads
    simp only [List.filter_filter, about] at asked
    rw [asked, List.filter_append, silent]
    rfl

/-!
## Messages and contexts
-/

/-- Nothing that a consumer was given changes the payload of a message. -/
structure Consumer.KeepsPayloads (consumer : Consumer) : Prop where
  created : ∀ body, (consumer.factory.create body).payload = body
  described : ∀ properties message,
    (consumer.forProperties.handle properties message).payload = message.payload
  routed : ∀ envelope message,
    (consumer.forEnvelope.handle envelope message).payload = message.payload

/-- All that a consumer was given is one of the parts that are there for everybody. -/
structure Consumer.BuiltIn (consumer : Consumer) : Prop where
  created : consumer.factory = .plain ∨ ∃ initial, consumer.factory = .tagged initial
  described : ∃ handling : PropertiesHandling, consumer.forProperties = handling.handler
  routed : ∃ handling : EnvelopeHandling, consumer.forEnvelope = handling.handler

theorem Consumer.BuiltIn.keepsPayloads (builtIn : consumer.BuiltIn) : consumer.KeepsPayloads where
  created body := by
    rcases builtIn.created with same | ⟨initial, same⟩ <;> rw [same] <;> rfl
  described properties message := by
    obtain ⟨handling, same⟩ := builtIn.described
    rw [same]
    cases handling <;> rfl
  routed envelope message := by
    obtain ⟨handling, same⟩ := builtIn.routed
    rw [same]
    cases handling <;> rfl

/-- What a listener gets to know of a delivery. The factory makes a message of the body, the
handlers of the parts that are there change it, and at last tag and queue are set. -/
structure Dispatcher.Tells (dispatcher : Dispatcher) (delivery : Delivery) (message : Message) :
    Prop where
  translated : ∃ made described routed,
    made = dispatcher.consumer.factory.create delivery.body ∧
    described = delivery.properties.elim made (dispatcher.consumer.forProperties.handle · made) ∧
    routed = delivery.envelope.elim described (dispatcher.consumer.forEnvelope.handle · described) ∧
    message.payload = routed.payload ∧
    ∀ key, key ≠ Metadata.Key.consumerTag → key ≠ Metadata.Key.queue →
      message.metadata.get? key = routed.metadata.get? key
  payload : dispatcher.consumer.KeepsPayloads → message.payload = delivery.body
  tag : message.metadata.get? Metadata.Key.consumerTag = some dispatcher.tag
  queue : message.metadata.get? Metadata.Key.queue = some dispatcher.consumer.queue

theorem Delivery.toMessage_payload (keeps : consumer.KeepsPayloads) (delivery : Delivery) :
    (delivery.toMessage consumer.forProperties consumer.forEnvelope consumer.factory).payload =
      delivery.body := by
  obtain ⟨body, properties, envelope⟩ := delivery
  cases properties <;> cases envelope <;>
    simp only [toMessage, keeps.created, keeps.described, keeps.routed]

theorem Dispatcher.message_tells (dispatcher : Dispatcher) (delivery : Delivery) :
    dispatcher.Tells delivery (dispatcher.message delivery) where
  translated := by
    refine ⟨_, _, _, rfl, rfl, rfl, ?_, fun key notTag notQueue => ?_⟩
    · obtain ⟨body, properties, envelope⟩ := delivery
      cases properties <;> cases envelope <;> rfl
    · simp only [message, Message.set, Table.get?_insert, if_neg notTag, if_neg notQueue]
      obtain ⟨body, properties, envelope⟩ := delivery
      cases properties <;> cases envelope <;> rfl
  payload keeps := Delivery.toMessage_payload keeps delivery
  tag := by simp [message, Message.set, Metadata.Key.consumerTag, Metadata.Key.queue]
  queue := by simp [message, Message.set]

def Delivery.headers (delivery : Delivery) : Table Value :=
  (delivery.properties.bind (·.headers)).getD .empty

/-- What a propagator gets to read of a delivery: the names of its headers, and the texts of those
that are long texts of UTF-8. -/
structure Delivery.Carries (delivery : Delivery) (carrier : Trace.Carrier) : Prop where
  names : carrier.names = delivery.headers.keys
  texts : ∀ name text, carrier.text? name = some text ↔
    delivery.headers.get? name = some (.longText (Text.Utf8.encode text))

theorem Delivery.carries_carrier (delivery : Delivery) :
    delivery.Carries (Trace.carrier delivery.headers) where
  names := rfl
  texts _ _ := Trace.carried?_eq_some_iff

theorem Delivery.extract_eq (propagator : Trace.Propagator) (delivery : Delivery) :
    Trace.extract propagator delivery.properties =
      propagator.extract (Trace.carrier delivery.headers) := by
  obtain ⟨body, properties, envelope⟩ := delivery
  cases properties <;> rfl

/-!
## The loop over a stream
-/

def received (items : List (Except Failure Delivery)) : List Delivery :=
  items.filterMap Except.toOption

/-- All that is done about a message in a context: the listener is told once, then one span ends
that says how it went. -/
def Consumer.handled (consumer : Consumer) (message : Message) (context : Trace.Context) :
    Except Failure Unit → List Done
  | .ok _ =>
    [⟨.listen consumer.listener message context, .ok ()⟩,
      ⟨.endSpan ⟨consumer.queue, context, .ok, []⟩, ()⟩]
  | .error failure =>
    [⟨.listen consumer.listener message context, .error failure⟩,
      ⟨.endSpan ⟨consumer.queue, context, .failed "listener failure", [failure.message]⟩, ()⟩]

namespace Dispatcher

variable {dispatcher : Dispatcher} {propagator : Trace.Propagator} {entries : List Done}

/-- What is done about a delivery for each way in which the listener can take it. -/
def handled (dispatcher : Dispatcher) (propagator : Trace.Propagator) (delivery : Delivery) :
    Except Failure Unit → List Done :=
  dispatcher.consumer.handled (dispatcher.message delivery)
    (propagator.extract (Trace.carrier delivery.headers))

theorem dispatch_leaves_iff {delivery : Delivery} :
    (dispatcher.dispatch propagator delivery).Leaves entries (.done ()) ↔
      ∃ outcome, entries = dispatcher.handled propagator delivery outcome := by
  rw [handled, ← delivery.extract_eq propagator]
  constructor
  · intro leaves
    cases leaves with
    | @step _ _ outcome _ _ later =>
        cases later with
        | step last =>
            cases last
            exact ⟨outcome, by cases outcome <;> rfl⟩
  · rintro ⟨outcome, rfl⟩
    cases outcome <;> exact .step (.step (.refl _))

/-- The loop over a stream hands over the deliveries in order, once each, and does nothing else. -/
theorem receiveAll_leaves_iff {items : List (Except Failure Delivery)} :
    (dispatcher.receiveAll propagator items).Leaves entries (.done ()) ↔
      ∃ outcomes : List (Except Failure Unit), outcomes.length = (received items).length ∧
        entries =
          (List.zipWith (dispatcher.handled propagator) (received items) outcomes).flatten := by
  induction items generalizing entries with
  | nil =>
      constructor
      · rintro ⟨⟩
        exact ⟨[], rfl, rfl⟩
      · rintro ⟨outcomes, none, rfl⟩
        exact .refl _
  | cons item rest ih =>
      rw [receiveAll, leaves_bind_iff]
      cases item with
      | error failure =>
          constructor
          · rintro ⟨first, later, _, rfl, own, left⟩
            cases own
            exact ih.mp left
          · exact fun handled => ⟨[], entries, (), rfl, .refl _, ih.mpr handled⟩
      | ok delivery =>
          constructor
          · rintro ⟨first, later, _, rfl, own, left⟩
            obtain ⟨outcome, rfl⟩ := dispatch_leaves_iff.mp own
            obtain ⟨outcomes, counted, rfl⟩ := ih.mp left
            exact ⟨outcome :: outcomes, congrArg Nat.succ counted, rfl⟩
          · rintro ⟨outcomes, counted, rfl⟩
            cases outcomes with
            | nil => cases counted
            | cons outcome outcomes =>
                refine ⟨_, _, (), rfl, dispatch_leaves_iff.mpr ⟨outcome, rfl⟩, ih.mpr ?_⟩
                exact ⟨outcomes, Nat.succ.inj counted, rfl⟩

end Dispatcher

/-- A consumer that was started, whatever handlers and factory it was given, holds a channel on which
it asked once for a stream, and its dispatcher reads that stream. Whatever items the stream brings,
and whatever the listener says to each message, the dispatcher hands over the deliveries among them
in order, each once, and ends one span for each before the next. The message of a delivery tells the
tag that was asked with and the queue, and has the body unless the consumer was given something that
changes payloads; the parent of the span is what the propagator reads of the delivery's own
headers. -/
theorem started_consumer_dispatches (component : ComponentId) (consumer : Consumer) (world : World)
    (present : component < world.components.length)
    (started : ((Component.start component (.consumer consumer)).run world).1 = .ok ()) :
    ∃ channel stream tag, ∃ (messages : Delivery → Message) (carriers : Delivery → Trace.Carrier),
      let entries := (Component.start component (.consumer consumer)).trace world
      let after := ((Component.start component (.consumer consumer)).run world).2
      let dispatcher : Dispatcher := ⟨consumer, tag⟩
      after.heldBy component = some ⟨channel, some stream⟩ ∧
      after.dispatchers[stream]? = some (some dispatcher) ∧
      entries.filter (·.action.consumes) =
        [⟨.issue (.consume channel consumer.queue tag), ()⟩,
          ⟨.await (.consume channel consumer.queue tag), .ok stream⟩] ∧
      (∀ (propagator : Trace.Propagator) (items : List (Except Failure Delivery))
          (entries : List Done),
        (dispatcher.receiveAll propagator items).Leaves entries (.done ()) ↔
          ∃ outcomes : List (Except Failure Unit), outcomes.length = (received items).length ∧
            entries = (List.zipWith (fun delivery => consumer.handled (messages delivery)
              (propagator.extract (carriers delivery))) (received items) outcomes).flatten) ∧
      (∀ delivery : Delivery, dispatcher.Tells delivery (messages delivery) ∧
        delivery.Carries (carriers delivery)) ∧
      (consumer.BuiltIn → consumer.KeepsPayloads) := by
  obtain ⟨channel, stream, tag, holds, reads, asked⟩ := Component.start_subscribes present started
  refine ⟨channel, stream, tag, _, _, holds, reads, asked,
    fun _ _ _ => Dispatcher.receiveAll_leaves_iff,
    fun delivery => ⟨Dispatcher.message_tells _ delivery, delivery.carries_carrier⟩,
    Consumer.BuiltIn.keepsPayloads⟩

/-- A consumer goes on after a delivery that its listener failed to handle, and after an item that
was not received. A header under the key of the queue does not get through, and the context is that
of the delivery. -/
theorem started_inbox_goes_on :
    let consumer : Consumer :=
      { queue := "work", listener := "inbox", forProperties := .toMetadata "",
        forEnvelope := .toMetadata, factory := .tagged [("source", "broker")] }
    let world := ((Session.create "host" (.ok ())).after
      [.init, .builtConsumer "inbox" consumer]).world
    let start := Component.start 0 (.consumer consumer)
    let propagator : Trace.Propagator :=
      ⟨fun carrier => [("traceparent", carrier.text? "traceparent")]⟩
    let headers := Table.ofList [("rmqQueue", Value.ofText "elsewhere"), ("traceparent", .ofText "a")]
    let first : Delivery :=
      ⟨[1], some { headers := some headers }, some ⟨7, true, some "orders", some "work"⟩⟩
    let second : Delivery := ⟨[2], none, none⟩
    0 < world.components.length ∧ (start.run world).1 = .ok () ∧
      ∃ channel stream tag told later parent,
        let dispatcher : Dispatcher := ⟨consumer, tag⟩
        (start.run world).2.heldBy 0 = some ⟨channel, some stream⟩ ∧
        (dispatcher.receiveAll propagator [.ok first, .error (.consuming "gone"), .ok second]).Leaves
          (consumer.handled told [("traceparent", some "a")] (.error (.configuration "boom")) ++
            consumer.handled later parent (.ok ())) (.done ()) ∧
        told.payload = [1] ∧ told.metadata.get? "rmqQueue" = some "work" ∧
        told.metadata.get? "rmqConsumerTag" = some tag ∧ later.payload = [2] := by
  intro consumer world start propagator headers first second
  have present : 0 < world.components.length := by decide +kernel
  have started : (start.run world).1 = .ok () := by decide +kernel
  have builtIn : consumer.BuiltIn :=
    ⟨.inr ⟨[("source", "broker")], rfl⟩, ⟨.toMetadata "", rfl⟩, ⟨.toMetadata, rfl⟩⟩
  obtain ⟨channel, stream, tag, messages, carriers, holds, _, _, dispatches, tells, keeps⟩ :=
    started_consumer_dispatches 0 consumer world present started
  have text : (carriers first).text? "traceparent" = some "a" :=
    ((tells first).2.texts "traceparent" "a").mpr rfl
  have parent : propagator.extract (carriers first) = [("traceparent", some "a")] := by
    simp only [propagator, text]
  refine ⟨present, started, channel, stream, tag, messages first, messages second,
    propagator.extract (carriers second), holds, (dispatches propagator _ _).mpr ?_,
    (tells first).1.payload (keeps builtIn), (tells first).1.queue, (tells first).1.tag,
    (tells second).1.payload (keeps builtIn)⟩
  refine ⟨[.error (.configuration "boom"), .ok ()], rfl, ?_⟩
  rw [← parent]
  rfl

/-- The message of each event that tells one to a listener. -/
def heard (events : List Event) : List Message :=
  events.filterMap fun
    | .message _ message _ => some message
    | _ => none

/-- A handler can put another message in the place of the one it gets. The listener of this consumer
is told what a delivery of other bytes would have made, and not the body of the delivery. -/
theorem handler_replaces_payload :
    let redact : PropertiesHandler := ⟨fun _ _ => .ofPayload [0]⟩
    let consumer : Consumer := { queue := "work", listener := "inbox", forProperties := redact }
    let delivery : Delivery := ⟨[1], some {}, none⟩
    let redacting := (Session.create "host" (.ok ())).after
      [.init, .builtConsumer "inbox" consumer, .start "inbox", .deliver 0 (.ok delivery)]
    let plain := (Session.create "host" (.ok ())).after
      [.init, .consumer "inbox" { queue := "work" }, .start "inbox",
        .deliver 0 (.ok ⟨[0], none, none⟩)]
    heard redacting.world.broker.log = heard plain.world.broker.log ∧
      (heard redacting.world.broker.log).map (·.payload) = [[0]] ∧
      ¬∀ message ∈ heard redacting.world.broker.log, message.payload = delivery.body := by
  decide +kernel

end AmqpEndpoints
