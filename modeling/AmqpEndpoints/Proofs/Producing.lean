import AmqpEndpoints.Proofs.Publications
import AmqpEndpoints.Proofs.TraceContext

/-!
# Producing messages

Which calls a producer makes for a message, what it tells about it, and what becomes of the message,
for all producers, messages and answers. The course of a publication has one case for each point
where it can end; what is said here holds in each of them.
-/

set_option autoImplicit false

namespace AmqpEndpoints

open Program

def Answered.isPublication (answered : Answered) : Bool :=
  match answered.call with
  | .publish .. => true
  | _ => false

namespace Producer

/-- Whether the destination of a message is known, and declared there if it depends on the message,
for a producer that holds a channel. -/
structure Prepared (settings : ProducerSettings) (message : Message) (started : Option Held)
    (calls : List Answered) (held : Held) (destination : String) : Prop where
  started : started = some held
  resolved : message.resolve settings.queue = .ok destination
  declared : isExpression settings.queue = true →
    ⟨.declareQueue held.channel destination settings.queueDeclaration.flags, .ok ()⟩ ∈ calls

/-- What publishing a message comes to, given the channel that the producer holds, the calls that
were made, and what was told in the end. -/
structure Publishes (settings : ProducerSettings) (publication : Publication)
    (started : Option Held) (calls : List Answered) (outcome : Except Failure Unit) : Prop where
  /-- A message that is prepared, and whose properties can be built, is published once. If there are
  properties, they carry the trace context. -/
  once : ∀ {held destination built},
    Prepared settings publication.message started calls held destination →
      settings.properties.build publication.message = .ok built →
        ∃ properties reply, calls.filter (·.isPublication) =
            [⟨.publish held.channel settings.exchange.name destination publication.message.payload
              properties, reply⟩] ∧
          Option.Rel (Trace.Overlays publication.context) built properties ∧
          outcome = verdict destination reply
  /-- Any other message is not published at all. -/
  never : (∀ held destination built,
      Prepared settings publication.message started calls held destination →
        settings.properties.build publication.message ≠ .ok built) →
    calls.filter (·.isPublication) = []
  /-- The only other call declares the destination, once, where it depends on the message. -/
  declares : ∀ {held destination}, isExpression settings.queue = true → started = some held →
    publication.message.resolve settings.queue = .ok destination →
      ∃ reply, calls.filter (!·.isPublication) =
        [⟨.declareQueue held.channel destination settings.queueDeclaration.flags, reply⟩]
  declares_not : (∀ held destination, isExpression settings.queue = true → started = some held →
      publication.message.resolve settings.queue ≠ .ok destination) →
    calls.filter (!·.isPublication) = []
  ok_iff : outcome = .ok () ↔ ∃ channel exchange destination payload properties confirmation,
    (confirmation = .ack ∨ confirmation = .notRequested) ∧
      ⟨.publish channel exchange destination payload properties, .ok confirmation⟩ ∈ calls
  idle : started = none → outcome = .error (.publishing "producer is not started")
  unresolved : ∀ {held failure}, started = some held →
    publication.message.resolve settings.queue = .error failure → outcome = .error failure
  undeclared : ∀ {channel destination flags failure},
    ⟨.declareQueue channel destination flags, .error failure⟩ ∈ calls → outcome = .error failure
  unbuilt : ∀ {held destination failure},
    Prepared settings publication.message started calls held destination →
      settings.properties.build publication.message = .error failure → outcome = .error failure

variable {settings : ProducerSettings} {publication : Publication} {held : Held}
  {calls : List Answered} {outcome : Except Failure Unit}

theorem idle_publishes :
    Publishes settings publication none [] (.error (.publishing "producer is not started")) where
  once prepared := by cases prepared.started
  never _ := rfl
  declares _ started := by cases started
  declares_not _ := rfl
  ok_iff := by simp
  idle _ := rfl
  unresolved started := by cases started
  undeclared answered := by cases answered
  unbuilt prepared := by cases prepared.started

@[simp] theorem mem_preamble_iff {channel : ChannelId} {destination : String}
    {answered : Answered} :
    answered ∈ preamble settings channel destination ↔ isExpression settings.queue = true ∧
      answered = ⟨.declareQueue channel destination settings.queueDeclaration.flags, .ok ()⟩ := by
  unfold preamble
  split <;> simp [*]

@[simp] theorem filter_preamble (channel : ChannelId) (destination : String) :
    (preamble settings channel destination).filter (·.isPublication) = [] := by
  apply List.filter_eq_nil_iff.mpr
  intro answered member
  obtain ⟨_, rfl⟩ := mem_preamble_iff.mp member
  simp [Answered.isPublication]

namespace Course

theorem once (course : Course settings held.channel publication calls outcome) {other : Held}
    {destination : String} {built : Option Properties}
    (prepared : Prepared settings publication.message (some held) calls other destination)
    (builds : settings.properties.build publication.message = .ok built) :
    ∃ properties reply, calls.filter (·.isPublication) =
        [⟨.publish other.channel settings.exchange.name destination publication.message.payload
          properties, reply⟩] ∧
      Option.Rel (Trace.Overlays publication.context) built properties ∧
      outcome = verdict destination reply := by
  obtain rfl : held = other := Option.some.inj prepared.started
  cases course with
  | unresolved resolved => cases resolved.symm.trans prepared.resolved
  | undeclared resolved expression failure =>
      have declared := prepared.declared expression
      simp at declared
  | unbuilt resolved made =>
      rw [propertiesFor, builds] at made
      cases made
  | issued resolved made reply =>
      rw [propertiesFor, builds] at made
      cases made
      cases resolved.symm.trans prepared.resolved
      refine ⟨built.map (Trace.inject publication.context), reply, ?_, ?_, rfl⟩
      · simp [List.filter_append, Answered.isPublication]
      · cases built with
        | none => exact .none
        | some properties => exact .some (Trace.overlays_iff.mpr rfl)

theorem never (course : Course settings held.channel publication calls outcome)
    (unready : ∀ other destination built,
      Prepared settings publication.message (some held) calls other destination →
        settings.properties.build publication.message ≠ .ok built) :
    calls.filter (·.isPublication) = [] := by
  cases course with
  | unresolved resolved => rfl
  | undeclared resolved expression failure => rfl
  | unbuilt resolved made => exact filter_preamble held.channel _
  | @issued destination properties resolved made reply =>
      cases builds : settings.properties.build publication.message with
      | error failure =>
          rw [propertiesFor, builds] at made
          cases made
      | ok built =>
          refine absurd builds (unready held destination built ⟨rfl, resolved, ?_⟩)
          intro expression
          simp [expression]

theorem declares (course : Course settings held.channel publication calls outcome)
    {destination : String} (expression : isExpression settings.queue = true)
    (resolves : publication.message.resolve settings.queue = .ok destination) :
    ∃ reply, calls.filter (!·.isPublication) =
      [⟨.declareQueue held.channel destination settings.queueDeclaration.flags, reply⟩] := by
  cases course with
  | unresolved resolved => cases resolved.symm.trans resolves
  | undeclared resolved _ failure =>
      cases resolved.symm.trans resolves
      exact ⟨.error failure, rfl⟩
  | unbuilt resolved made =>
      cases resolved.symm.trans resolves
      refine ⟨.ok (), ?_⟩
      rw [preamble, if_pos expression]
      rfl
  | issued resolved made reply =>
      cases resolved.symm.trans resolves
      refine ⟨.ok (), ?_⟩
      rw [preamble, if_pos expression]
      rfl

theorem declares_not (course : Course settings held.channel publication calls outcome)
    (fixed : ∀ destination, isExpression settings.queue = true →
      publication.message.resolve settings.queue ≠ .ok destination) :
    calls.filter (!·.isPublication) = [] := by
  have silent : ∀ {destination : String},
      publication.message.resolve settings.queue = .ok destination →
        preamble settings held.channel destination = [] := by
    intro destination resolved
    rw [preamble, if_neg]
    exact fun expression => fixed destination expression resolved
  cases course with
  | unresolved resolved => rfl
  | undeclared resolved expression failure => exact absurd resolved (fixed _ expression)
  | unbuilt resolved made => rw [silent resolved, List.filter_nil]
  | issued resolved made reply =>
      rw [silent resolved]
      rfl

theorem ok_iff (course : Course settings held.channel publication calls outcome) :
    outcome = .ok () ↔ ∃ channel exchange destination payload properties confirmation,
      (confirmation = .ack ∨ confirmation = .notRequested) ∧
        ⟨.publish channel exchange destination payload properties, .ok confirmation⟩ ∈ calls := by
  cases course with
  | unresolved resolved => simp
  | undeclared resolved expression failure => simp
  | unbuilt resolved made => simp
  | issued resolved made reply =>
      cases reply with
      | error failure => simp [verdict]
      | ok confirmation => cases confirmation <;> simp [verdict]

theorem undeclared_eq (course : Course settings held.channel publication calls outcome)
    {channel : ChannelId} {destination : String} {flags : QueueFlags} {failure : Failure}
    (answered : ⟨.declareQueue channel destination flags, .error failure⟩ ∈ calls) :
    outcome = .error failure := by
  cases course with
  | unresolved resolved => cases answered
  | @undeclared name resolved expression told =>
      have same : (channel = held.channel ∧ destination = name ∧
          flags = settings.queueDeclaration.flags) ∧ failure = told := by simpa using answered
      rw [same.2]
  | unbuilt resolved made => simp at answered
  | issued resolved made reply => simp at answered

theorem unbuilt_eq (course : Course settings held.channel publication calls outcome) {other : Held}
    {destination : String} {failure : Failure}
    (prepared : Prepared settings publication.message (some held) calls other destination)
    (fails : settings.properties.build publication.message = .error failure) :
    outcome = .error failure := by
  cases course with
  | unresolved resolved => cases resolved.symm.trans prepared.resolved
  | undeclared resolved expression failure =>
      have declared := prepared.declared expression
      simp at declared
  | unbuilt resolved made =>
      rw [propertiesFor, fails] at made
      cases made
      rfl
  | issued resolved made reply =>
      rw [propertiesFor, fails] at made
      cases made

theorem publishes (course : Course settings held.channel publication calls outcome) :
    Publishes settings publication (some held) calls outcome where
  once prepared builds := course.once prepared builds
  never unready := course.never unready
  declares expression started resolves := by
    obtain rfl := Option.some.inj started
    exact course.declares expression resolves
  declares_not fixed := course.declares_not fun destination expression =>
    fixed held destination expression rfl
  ok_iff := course.ok_iff
  idle idle := by cases idle
  unresolved := by
    intro other failure _ fails
    cases course with
    | unresolved resolved =>
        cases resolved.symm.trans fails
        rfl
    | undeclared resolved | unbuilt resolved | issued resolved =>
        cases resolved.symm.trans fails
  undeclared answered := course.undeclared_eq answered
  unbuilt prepared fails := course.unbuilt_eq prepared fails

end Course

theorem publish_trace (component : ComponentId) (settings : ProducerSettings)
    (pairs : List (String × String)) (message : Message) (world : World) :
    ∃ rest, (publish component settings pairs message).trace world =
      ⟨.lock component, ()⟩ :: ⟨.held component, world.heldBy component⟩ :: rest := by
  have still : (world.perform (.lock component)).2.heldBy component = world.heldBy component :=
    World.heldBy_perform world (.lock component) component
  rw [← still]
  exact ⟨_, rfl⟩

/-- What publishing a message comes to, in any world. -/
theorem publish_publishes (component : ComponentId) (settings : ProducerSettings)
    (publication : Publication) (world : World) :
    ∃ calls : List Answered,
      ((publish component settings publication.context publication.message).run world).2.broker.log =
          world.broker.log ++ calls.flatMap Answered.events ∧
        Publishes settings publication (world.heldBy component) calls
          ((publish component settings publication.context publication.message).run world).1 := by
  let program := publish component settings publication.context publication.message
  obtain ⟨found, calls, entries, told⟩ := publish_course (leaves_trace program world)
  obtain ⟨rest, looked⟩ :=
    publish_trace component settings publication.context publication.message world
  refine ⟨calls, ?_, ?_⟩
  · rw [run_log]
    change _ ++ (program.trace world).flatMap Done.events = _
    rw [entries]
    simp [Done.events, Answered.flatMap_entries]
  · have same : found = world.heldBy component := by
      rw [entries] at looked
      simp only [List.cons.injEq, Done.mk.injEq] at looked
      exact eq_of_heq looked.2.1.2
    rw [← same]
    cases found with
    | none =>
        rw [told.1, told.2]
        exact idle_publishes
    | some held => exact Course.publishes told

end Producer

/-- What the metadata of a message tells about how publishing it went. -/
def Producer.status : Except Failure Unit → String
  | .ok _ => "success"
  | .error failure => failure.message

/-- Producing a message, from one end to the other. -/
theorem produce_end_to_end (component : ComponentId) (settings : ProducerSettings)
    (publication : Publication) (world : World) :
    let published := (Producer.publish component settings publication.context
      publication.message).run world
    let produced := (Producer.produce component settings publication.context
      publication.message).run world
    ∃ calls : List Answered,
      produced.2.broker.log = world.broker.log ++ calls.flatMap Answered.events ∧
      Producer.Publishes settings publication (world.heldBy component) calls published.1 ∧
      (settings.behaviour = .traditional → produced.1 = (published.1, publication.message)) ∧
      (settings.behaviour = .noException →
        produced.1.1 = .ok () ∧ produced.1.2.payload = publication.message.payload ∧
          ∀ key, produced.1.2.metadata.get? key =
            if key = "queue_publish_status" then some (Producer.status published.1)
            else publication.message.metadata.get? key) := by
  intro published produced
  obtain ⟨calls, log, publishes⟩ :=
    Producer.publish_publishes component settings publication world
  have reports : produced =
      (Producer.report settings.behaviour publication.message published.1, published.2) := by
    simp only [produced, published, Producer.produce, run_bind, run_pure]
  refine ⟨calls, ?_, publishes, ?_, ?_⟩
  · rw [reports]
    exact log
  · intro traditional
    rw [reports, traditional]
    rfl
  · intro quiet
    rw [reports, quiet]
    cases published.1 with
    | ok _ => exact ⟨rfl, rfl, fun key => Table.get?_insert ..⟩
    | error failure => exact ⟨rfl, rfl, fun key => Table.get?_insert ..⟩

/-- A message that the broker refuses, produced with its metadata and a trace context where failures
are told in the metadata. -/
theorem refused_message_tells_status :
    let settings : ProducerSettings :=
      { queue := "work", properties := .fields .keepAll none, behaviour := .noException }
    let message : Message := ⟨[1], .ofList [("note", "new"), ("traceparent", "old")]⟩
    let publication : Publication := ⟨message, [("TraceParent", "a"), ("traceparent", "b")]⟩
    let world : World :=
      { broker := { script := [(.publish, .nack)] }
        components := [{ role := .producer settings, held := some ⟨1, none⟩ }] }
    let produced := (Producer.produce 0 settings publication.context message).run world
    ∃ (calls : List Answered) (properties : Properties) (table : Table Value)
        (reply : Except Failure Confirmation),
      produced.2.broker.log = world.broker.log ++ calls.flatMap Answered.events ∧
        calls.filter (·.isPublication) = [⟨.publish 1 "" "work" [1] (some properties), reply⟩] ∧
        properties.headers = some table ∧
        table.get? "traceparent" = some (.longText (Text.Utf8.encode "b")) ∧
        table.get? "note" = some (.longText (Text.Utf8.encode "new")) ∧
        produced.1.1 = .ok () ∧ produced.1.2.metadata.get? "queue_publish_status" =
          some "failure to publish: message to `work` was nacked" := by
  intro settings message publication world produced
  obtain ⟨calls, log, publishes, _, quiet⟩ := produce_end_to_end 0 settings publication world
  have fixed : isExpression settings.queue = false := isExpression_of_cutAt? (by decide)
  have prepared : Producer.Prepared settings message (world.heldBy 0) calls ⟨1, none⟩ "work" := by
    refine ⟨rfl, message.resolve_of_fixed fixed, fun expression => ?_⟩
    rw [fixed] at expression
    cases expression
  have refused : ((Producer.publish 0 settings publication.context message).run world).1 =
      .error (.publishing "message to `work` was nacked") := by decide +kernel
  have lower : Text.lowerCase "TraceParent" = "traceparent" ∧
      Text.lowerCase "traceparent" = "traceparent" := by decide +kernel
  have last : Trace.LastSet "traceparent" publication.context "b" :=
    .later (.last lower.2 (List.forall_mem_nil _))
  have unset : ∀ pair ∈ publication.context, Text.lowerCase pair.1 ≠ "note" := by decide +kernel
  obtain ⟨_, reply, once, carries, _⟩ := publishes.once prepared rfl
  cases carries with
  | some overlays =>
      obtain ⟨table, has, set, kept⟩ := overlays.headers
      obtain ⟨told, _, metadata⟩ := quiet rfl
      refine ⟨calls, _, table, reply, log, once, has, set _ _ last, (kept _ unset).trans rfl, told,
        (metadata _).trans ?_⟩
      rw [if_pos rfl, refused]
      rfl

end AmqpEndpoints
