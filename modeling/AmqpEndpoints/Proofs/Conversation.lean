import AmqpEndpoints.Proofs.Expressions
import AmqpEndpoints.Proofs.Moves

/-!
# Conversations on a channel

What is said on one channel, call by call, from its creation on. A channel is set up by a plan of
calls, which ends with the first that fails; a producer then publishes on it, one group of calls for
each message; and it is closed at most once, after which nothing is said. The grammar is a matter of
inductive relations on lists of answered calls. That programs keep to it is shown on their trees,
for all replies at once, with what was heard on the channel as the phase.
-/

set_option autoImplicit false

namespace AmqpEndpoints

open Program

/-- A call that was made, with what it gave. -/
structure Answered where
  call : Call
  reply : call.Reply

def Answered.events (answered : Answered) : List Event :=
  [.called answered.call, .returned answered.call answered.reply]

theorem Answered.events_append (heard : List Event) (said more : List Answered) :
    heard ++ said.flatMap events ++ more.flatMap events =
      heard ++ (said ++ more).flatMap events := by
  rw [List.flatMap_append, List.append_assoc]

def Event.channel? : Event → Option ChannelId
  | called call => call.channel?
  | returned call _ => call.channel?
  | _ => none

def Event.isOn (channel : ChannelId) (event : Event) : Bool :=
  event.channel? == some channel

def World.heardOn (world : World) (channel : ChannelId) : List Event :=
  world.broker.log.filter (·.isOn channel)

/-!
## Grammar
-/

/-- A step of setting up a channel. -/
inductive Preparation where
  | call (request : Call)
  /-- A refusal without any call. -/
  | refusal

/-- What can be said while a channel is set up by a plan, and whether the plan was gone through. -/
inductive Conducted : List Preparation → List Answered → Bool → Prop where
  | through : Conducted [] [] true
  | refused {rest : List Preparation} : Conducted (.refusal :: rest) [] false
  | failed {request : Call} {rest : List Preparation} (failure : Failure) :
      Conducted (.call request :: rest) [⟨request, .error failure⟩] false
  | succeeded {request : Call} {rest : List Preparation} {said : List Answered} {whole : Bool}
      (result : request.Result) (later : Conducted rest said whole) :
      Conducted (.call request :: rest) (⟨request, .ok result⟩ :: said) whole

/-- The standard exchange is always there; a named one is declared, unless its name is blank. -/
def Exchange.plan (channel : ChannelId) : Exchange → List Preparation
  | standard => []
  | explicit name kind durable =>
    [if Text.blank name then .refusal
      else .call (.declareExchange channel name kind (durable.getD true))]

/-- Confirmations where failures are told in the metadata, then the exchange, then the queue if it
is the same for all messages. -/
def Producer.plan (settings : ProducerSettings) (channel : ChannelId) : List Preparation :=
  (if settings.behaviour = .noException then [.call (.selectConfirms channel)] else []) ++
    (settings.exchange.plan channel ++
      if isExpression settings.queue then []
      else [.call (.declareQueue channel settings.queue settings.queueDeclaration.flags)])

def Consumer.plan (consumer : Consumer) (channel : ChannelId) (tag : String) : List Preparation :=
  [.call (.declareQueue channel consumer.queue QueueDeclaration.standard.flags),
    .call (.consume channel consumer.queue tag)]

/-- The call that publishes a message to a queue, if its properties can be made. -/
def Producer.issuePlan (settings : ProducerSettings) (channel : ChannelId)
    (publication : Publication) (queue : String) : List Preparation :=
  match propertiesFor settings publication.context publication.message with
  | .error _ => [.refusal]
  | .ok properties =>
    [.call (.publish channel settings.exchange.name queue publication.message.payload properties)]

/-- How a message is published. A queue that depends on the message is declared first. -/
def Producer.publicationPlan (settings : ProducerSettings) (channel : ChannelId)
    (publication : Publication) : List Preparation :=
  if isExpression settings.queue then
    match publication.message.resolve settings.queue with
    | .error _ => [.refusal]
    | .ok queue =>
      .call (.declareQueue channel queue settings.queueDeclaration.flags) ::
        issuePlan settings channel publication queue
  else issuePlan settings channel publication settings.queue

namespace Role

/-- How a channel of a component is set up. Only a consumer uses the tag. -/
def plan (channel : ChannelId) (tag : String) : Role → List Preparation
  | producer settings => Producer.plan settings channel
  | consumer reader => reader.plan channel tag

/-- What can be said for one message on a channel that was set up. -/
def Group (channel : ChannelId) (said : List Answered) : Role → Prop
  | producer settings =>
    ∃ publication whole,
      Conducted (Producer.publicationPlan settings channel publication) said whole
  | consumer .. => False

/-- What can be said on a channel that a component has set up and not closed. -/
def Opened (role : Role) (channel : ChannelId) (said : List Answered) : Prop :=
  ∃ (tag : String) (first : List Answered) (groups : List (List Answered)),
    Conducted (role.plan channel tag) first true ∧
    (∀ group ∈ groups, role.Group channel group) ∧ said = first ++ groups.flatten

/-- What can be said on a channel that is closed: it was set up, used and closed, or setting it up
failed and it was closed at once. -/
def Closed (role : Role) (channel : ChannelId) (said : List Answered) : Prop :=
  ∃ earlier reply, said = earlier ++ [⟨.closeChannel channel, reply⟩] ∧
    (role.Opened channel earlier ∨ ∃ tag, Conducted (role.plan channel tag) earlier false)

end Role

/-!
## Plans
-/

namespace Conducted

variable {first second : List Preparation} {said later : List Answered} {whole : Bool}

theorem append (gone : Conducted first said true) (next : Conducted second later whole) :
    Conducted (first ++ second) (said ++ later) whole := by
  generalize done : true = all at gone
  induction gone with
  | through => exact next
  | refused | failed => cases done
  | succeeded result _ ih => exact .succeeded result (ih done)

theorem append_of_failed (failed : Conducted first said false) :
    Conducted (first ++ second) said false := by
  generalize stopped : false = none at failed
  induction failed with
  | through => cases stopped
  | refused => exact .refused
  | failed failure => exact .failed failure
  | succeeded result _ ih => exact .succeeded result (ih stopped)

end Conducted

/-!
## What is heard
-/

/-- Whatever a program may do, the phase tells what was heard on a channel. -/
def hearing (channel : ChannelId) : Discipline (List Event) where
  allows _ _ := True
  after heard action reply := heard ++ (Done.events ⟨action, reply⟩).filter (·.isOn channel)

theorem World.heardOn_perform (world : World) (action : Action) (channel : ChannelId) :
    (world.perform action).2.heardOn channel =
      world.heardOn channel ++
        (Done.events ⟨action, (world.perform action).1⟩).filter (·.isOn channel) := by
  unfold heardOn
  rw [perform_log, List.filter_append]

theorem Program.Follows.heard {α : Type} {program : Program α} {channel : ChannelId} {world : World}
    {ends : α → List Event → Prop}
    (follows : program.Follows (hearing channel) (world.heardOn channel) ends) :
    ends (program.run world).1 ((program.run world).2.heardOn channel) := by
  obtain ⟨later, ended, same⟩ := follows.run world
    (fun heard world => world.heardOn channel = heard)
    (fun heard world action _ same =>
      ⟨trivial, (world.heardOn_perform action channel).trans (congrArg (· ++ _) same)⟩) rfl
  exact same ▸ ended

/-- Whether an action is nothing that is heard on a channel. -/
def Action.SilentOn (channel : ChannelId) : Action → Prop
  | issue call => call.channel? ≠ some channel
  | await call => call.channel? ≠ some channel
  | _ => True

theorem Action.SilentOn.events {channel : ChannelId} {action : Action}
    (silent : action.SilentOn channel) (reply : action.Reply) :
    (Done.events ⟨action, reply⟩).filter (·.isOn channel) = [] := by
  cases action with
  | issue call | await call =>
      simp [Done.events, Event.isOn, Event.channel?]
      exact silent
  | _ => rfl

theorem Program.Uses.heardOn_eq {α : Type} {program : Program α} {channel : ChannelId}
    {allowed : Action → Prop} (uses : program.Uses allowed)
    (silent : ∀ action, allowed action → action.SilentOn channel) (world : World) :
    (program.run world).2.heardOn channel = world.heardOn channel := by
  refine uses.run_eq (·.heardOn channel) (fun action permitted world => ?_) world
  rw [World.heardOn_perform, (silent action permitted).events, List.append_nil]

theorem hearing_after {channel : ChannelId} {action : Action} (silent : action.SilentOn channel)
    (heard : List Event) (reply : action.Reply) :
    (hearing channel).after heard action reply = heard := by
  change heard ++ (Done.events ⟨action, reply⟩).filter _ = heard
  rw [silent.events, List.append_nil]

theorem attempt_hears {request : Call} {channel : ChannelId} {heard : List Event}
    (about : request.channel? = some channel) :
    (attempt request).run.Follows (hearing channel) heard fun reply later =>
      later = heard ++ Answered.events ⟨request, reply⟩ := by
  refine ⟨trivial, fun _ _ => ⟨trivial, fun reply _ => ?_⟩⟩
  have called : (Event.called request).isOn channel = true := beq_iff_eq.mpr about
  have returned : (Event.returned request reply).isOn channel = true := beq_iff_eq.mpr about
  change heard ++ [Event.called request].filter _ ++ [Event.returned request reply].filter _ = _
  simp [called, returned, Answered.events]

/-!
## Programs on one channel
-/

/-- Whether an attempt says on a channel what a plan tells, and succeeds exactly where it goes
through the plan. -/
def Conducts {α : Type} (channel : ChannelId) (plan : List Preparation) (program : Attempt α) :
    Prop :=
  ∀ heard, program.run.Follows (hearing channel) heard fun outcome later =>
    ∃ said, later = heard ++ said.flatMap Answered.events ∧ Conducted plan said outcome.isOk

variable {α β : Type} {channel : ChannelId}

theorem conducts_pure (result : α) : Conducts channel [] (pure result) :=
  fun _ => ⟨[], (List.append_nil _).symm, .through⟩

theorem conducts_throw (failure : Failure) :
    Conducts channel [.refusal] (throw failure : Attempt α) :=
  fun _ => ⟨[], (List.append_nil _).symm, .refused⟩

theorem conducts_attempt {request : Call} (about : request.channel? = some channel) :
    Conducts channel [.call request] (attempt request) := by
  intro heard
  refine (attempt_hears about).imp fun reply later same => ⟨[⟨request, reply⟩], ?_, ?_⟩
  · rw [same, List.flatMap_singleton]
  · cases reply with
    | error failure => exact .failed failure
    | ok result => exact .succeeded result .through

theorem Conducts.bind {first second : List Preparation} {program : Attempt α}
    {next : α → Attempt β} (conducts : Conducts channel first program)
    (rest : ∀ result, Conducts channel second (next result)) :
    Conducts channel (first ++ second) (program >>= next) := by
  intro heard
  refine follows_attempt_bind.mpr ((conducts heard).imp fun outcome later ended => ?_)
  obtain ⟨said, rfl, conducted⟩ := ended
  cases outcome with
  | error failure => exact ⟨said, rfl, conducted.append_of_failed⟩
  | ok result =>
      refine (rest result _).imp fun outcome later ended => ?_
      obtain ⟨more, rfl, continued⟩ := ended
      exact ⟨said ++ more, Answered.events_append .., conducted.append continued⟩

theorem Exchange.conducts_declare (exchange : Exchange) :
    Conducts channel (exchange.plan channel) (exchange.declare channel) := by
  cases exchange with
  | standard => exact conducts_pure ()
  | explicit name kind durable =>
      rw [Exchange.plan, Exchange.declare]
      cases Text.blank name with
      | true => exact conducts_throw _
      | false => exact conducts_attempt rfl

theorem Producer.conducts_setUp (settings : ProducerSettings) :
    Conducts channel (plan settings channel) (setUp settings channel) := by
  have queue : Conducts channel
      (if isExpression settings.queue then []
        else [.call (.declareQueue channel settings.queue settings.queueDeclaration.flags)])
      (if isExpression settings.queue then pure ()
        else settings.queueDeclaration.declare channel settings.queue) := by
    split
    · exact conducts_pure ()
    · exact conducts_attempt rfl
  have topology := (@Exchange.conducts_declare channel settings.exchange).bind fun _ => queue
  unfold plan setUp
  split
  · exact (conducts_attempt rfl).bind fun _ => topology
  · exact topology

/-- The tag of a consumer is drawn on the way, so its plan is known only then. -/
theorem Consumer.setUp_hears (consumer : Consumer) (heard : List Event) :
    (consumer.setUp channel).run.Follows (hearing channel) heard
      fun outcome later => ∃ tag said, later = heard ++ said.flatMap Answered.events ∧
        Conducted (consumer.plan channel tag) said outcome.isOk := by
  have declares : Conducts channel
      [.call (.declareQueue channel consumer.queue QueueDeclaration.standard.flags)]
      (QueueDeclaration.standard.declare channel consumer.queue) := conducts_attempt rfl
  refine follows_attempt_bind.mpr ((declares heard).imp fun outcome declared ended => ?_)
  obtain ⟨said, rfl, conducted⟩ := ended
  cases outcome with
  | error failure => exact ⟨"", said, rfl, conducted.append_of_failed⟩
  | ok _ =>
      have drawsSilently : Action.SilentOn channel .drawTag := trivial
      refine follows_attempt_bind.mpr ⟨trivial, fun tag _ => ?_⟩
      rw [hearing_after drawsSilently]
      have consumes : Conducts channel [.call (.consume channel consumer.queue tag)]
          (attempt (.consume channel consumer.queue tag)) := conducts_attempt rfl
      refine follows_attempt_bind.mpr ((consumes _).imp fun outcome consumed ended => ?_)
      obtain ⟨more, rfl, continued⟩ := ended
      have whole := conducted.append continued
      have listed := Answered.events_append heard said more
      cases outcome with
      | error failure => exact ⟨tag, said ++ more, listed, whole⟩
      | ok stream =>
          have spawnsSilently : Action.SilentOn channel (.spawn stream ⟨consumer, tag⟩) := trivial
          refine follows_attempt_bind.mpr ⟨trivial, fun _ _ => ?_⟩
          rw [hearing_after spawnsSilently]
          exact ⟨tag, said ++ more, listed, whole⟩

theorem Role.setUp_hears (role : Role) (heard : List Event) :
    (role.setUp channel).run.Follows (hearing channel) heard fun outcome later =>
      ∃ tag said, later = heard ++ said.flatMap Answered.events ∧
        Conducted (role.plan channel tag) said outcome.isOk := by
  cases role with
  | producer settings =>
      have conducts := (@Producer.conducts_setUp channel settings).bind fun _ =>
        conducts_pure (⟨channel, none⟩ : Held)
      rw [List.append_nil] at conducts
      exact (conducts heard).imp fun _ _ ⟨said, conducted⟩ => ⟨"", said, conducted⟩
  | consumer reader =>
      refine follows_attempt_bind.mpr
        ((reader.setUp_hears heard).imp fun outcome _ ended => ?_)
      cases outcome <;> exact ended

/-- The end of publishing: a message goes to a queue that is known and declared. -/
def Producer.issue (settings : ProducerSettings) (channel : ChannelId) (publication : Publication)
    (queue : String) : Attempt Unit := do
  let properties ← publishOn.liftExcept
    (propertiesFor settings publication.context publication.message)
  let confirmation ← attempt
    (.publish channel settings.exchange.name queue publication.message.payload properties)
  if confirmation = .nack then
    throw (.publishing ("message to `" ++ queue ++ "` was nacked"))

theorem Producer.issue_hears (settings : ProducerSettings) (publication : Publication)
    (queue : String) (heard : List Event) :
    (issue settings channel publication queue).run.Follows (hearing channel) heard fun _ later =>
      ∃ said whole, later = heard ++ said.flatMap Answered.events ∧
        Conducted (issuePlan settings channel publication queue) said whole := by
  unfold issuePlan
  refine follows_attempt_bind.mpr ?_
  cases propertiesFor settings publication.context publication.message with
  | error failure => exact ⟨[], false, (List.append_nil _).symm, .refused⟩
  | ok properties =>
      have publishes : Conducts channel [.call (.publish channel settings.exchange.name queue
          publication.message.payload properties)] (attempt _) := conducts_attempt rfl
      refine follows_attempt_bind.mpr ((publishes heard).imp fun outcome later ended => ?_)
      obtain ⟨said, same, conducted⟩ := ended
      cases outcome with
      | error failure => exact ⟨said, _, same, conducted⟩
      | ok confirmation =>
          -- A nack is a failure for the caller, but nothing more is said on the channel.
          dsimp only
          split <;> exact ⟨said, _, same, conducted⟩

theorem Producer.publishOn_hears (settings : ProducerSettings) (publication : Publication)
    (heard : List Event) :
    (publishOn settings channel publication.context publication.message).run.Follows
      (hearing channel) heard fun _ later =>
        ∃ said whole, later = heard ++ said.flatMap Answered.events ∧
          Conducted (publicationPlan settings channel publication) said whole := by
  unfold publicationPlan publishOn
  cases expression : isExpression settings.queue with
  | false =>
      -- Nothing is substituted in such a queue, so the one that was declared is published to.
      rw [publication.message.resolve_of_fixed expression]
      exact issue_hears settings publication settings.queue heard
  | true =>
      refine follows_attempt_bind.mpr ?_
      cases publication.message.resolve settings.queue with
      | error failure => exact ⟨[], false, (List.append_nil _).symm, .refused⟩
      | ok queue =>
          have declares : Conducts channel
              [.call (.declareQueue channel queue settings.queueDeclaration.flags)]
              (settings.queueDeclaration.declare channel queue) := conducts_attempt rfl
          refine follows_attempt_bind.mpr ((declares heard).imp fun outcome later ended => ?_)
          obtain ⟨said, rfl, conducted⟩ := ended
          cases outcome with
          | error failure => exact ⟨said, false, rfl, conducted.append_of_failed⟩
          | ok _ =>
              refine (issue_hears settings publication queue _).imp fun _ later ended => ?_
              obtain ⟨more, whole, rfl, continued⟩ := ended
              exact ⟨said ++ more, whole, Answered.events_append .., conducted.append continued⟩

theorem closeChannel_hears (channel : ChannelId) (heard : List Event) :
    (closeChannel channel).Follows (hearing channel) heard fun _ later =>
      ∃ reply, later = heard ++ Answered.events ⟨.closeChannel channel, reply⟩ :=
  follows_bind.mpr ((attempt_hears rfl).imp fun reply _ same => ⟨reply, same⟩)

theorem Held.giveBack_hears (held : Held) (heard : List Event) :
    held.giveBack.Follows (hearing held.channel) heard fun _ later =>
      ∃ reply, later = heard ++ Answered.events ⟨.closeChannel held.channel, reply⟩ := by
  unfold Held.giveBack
  cases held.stream with
  | none => exact closeChannel_hears held.channel heard
  | some stream =>
      have silent : Action.SilentOn held.channel (.cancel stream) := trivial
      refine follows_bind.mpr ⟨trivial, fun _ _ => ?_⟩
      rw [hearing_after silent]
      exact closeChannel_hears held.channel heard

/-- A channel that is set up for a component, or closed if that fails. -/
def Role.equip (channel : ChannelId) (role : Role) : Attempt Held :=
  tryCatch (role.setUp channel) fun failure => do
    let _ ← (closeChannel channel : Program Unit)
    throw failure

theorem Role.equip_hears (role : Role) (channel : ChannelId) (heard : List Event) :
    (role.equip channel).run.Follows (hearing channel) heard fun outcome later =>
      ∃ said, later = heard ++ said.flatMap Answered.events ∧
        match outcome with
        | .ok _ => role.Opened channel said
        | .error _ => role.Closed channel said := by
  unfold Role.equip
  rw [ExceptT.run_tryCatch]
  refine follows_bind.mpr ((role.setUp_hears heard).imp fun outcome later ended => ?_)
  obtain ⟨tag, said, rfl, conducted⟩ := ended
  cases outcome with
  | ok held => exact ⟨said, rfl, tag, said, [], conducted, by simp, by simp⟩
  | error failure =>
      refine follows_attempt_bind.mpr (follows_bind.mpr ?_)
      refine (closeChannel_hears channel _).imp fun _ later ended => ?_
      obtain ⟨reply, rfl⟩ := ended
      refine ⟨said ++ [⟨.closeChannel channel, reply⟩], ?_, said, reply, rfl, .inr ⟨tag, conducted⟩⟩
      simp

theorem Role.equip_channel (role : Role) (channel : ChannelId) (world : World) {held : Held}
    (equipped : ((role.equip channel).run.run world).1 = .ok held) : held.channel = channel := by
  unfold Role.equip at equipped
  rw [ExceptT.run_tryCatch, run_bind] at equipped
  have about := @Role.setUp_channel channel role world
  generalize (role.setUp channel).run.run world = ended at about equipped
  obtain ⟨outcome, after⟩ := ended
  cases outcome with
  | error failure => cases equipped
  | ok same =>
      cases equipped
      exact about rfl

theorem Role.Opened.snoc {role : Role} {channel : ChannelId} {said group : List Answered}
    (opened : role.Opened channel said) (more : role.Group channel group) :
    role.Opened channel (said ++ group) := by
  obtain ⟨tag, first, groups, prepared, spoken, rfl⟩ := opened
  refine ⟨tag, first, groups ++ [group], prepared, fun other member => ?_, by simp⟩
  rcases List.mem_append.mp member with earlier | last
  · exact spoken other earlier
  · exact List.mem_singleton.mp last ▸ more

/-!
## Publications
-/

/-- Whether what was said before a call declares all that the call needs: the queue and the exchange
that it publishes to, of which the exchange without name is always there. -/
def Answered.Declared (earlier : List Answered) : Answered → Prop
  | ⟨.publish channel exchange queue _ _, _⟩ =>
    (∃ flags, ⟨.declareQueue channel queue flags, .ok ()⟩ ∈ earlier) ∧
      (exchange = "" ∨ ∃ kind durable,
        ⟨.declareExchange channel exchange kind durable, .ok ()⟩ ∈ earlier)
  | _ => True

/-- Whether each call finds what it needs declared by those before it. -/
def AllDeclared (earlier : List Answered) : List Answered → Prop
  | [] => True
  | answered :: rest => answered.Declared earlier ∧ AllDeclared (earlier ++ [answered]) rest

theorem Answered.Declared.mono {answered : Answered} {earlier more : List Answered}
    (declared : answered.Declared earlier) (subset : earlier ⊆ more) : answered.Declared more := by
  obtain ⟨call, reply⟩ := answered
  cases call with
  | publish channel exchange queue payload properties =>
      obtain ⟨⟨flags, queueDeclared⟩, exchangeDeclared⟩ := declared
      refine ⟨⟨flags, subset queueDeclared⟩, exchangeDeclared.imp id ?_⟩
      exact fun ⟨kind, durable, member⟩ => ⟨kind, durable, subset member⟩
  | _ => trivial

namespace AllDeclared

variable {earlier more said later : List Answered}

theorem mono (declared : AllDeclared earlier said) (subset : earlier ⊆ more) :
    AllDeclared more said := by
  induction said generalizing earlier more with
  | nil => trivial
  | cons answered rest ih =>
      obtain ⟨first, others⟩ := declared
      refine ⟨first.mono subset, ih others ?_⟩
      exact List.append_subset.mpr ⟨fun _ member => List.mem_append_left _ (subset member),
        List.subset_append_right _ _⟩

theorem append (first : AllDeclared earlier said) (second : AllDeclared (earlier ++ said) later) :
    AllDeclared earlier (said ++ later) := by
  induction said generalizing earlier with
  | nil => simpa using second
  | cons answered rest ih =>
      refine ⟨first.1, ih first.2 ?_⟩
      simpa using second

theorem flatten {groups : List (List Answered)}
    (all : ∀ group ∈ groups, AllDeclared earlier group) : AllDeclared earlier groups.flatten := by
  induction groups with
  | nil => trivial
  | cons group rest ih =>
      obtain ⟨first, others⟩ := List.forall_mem_cons.mp all
      exact first.append ((ih others).mono (List.subset_append_left _ _))

end AllDeclared

namespace Conducted

variable {steps : List Preparation} {said : List Answered} {whole : Bool}

theorem mem_plan (conducted : Conducted steps said whole) :
    ∀ answered ∈ said, Preparation.call answered.call ∈ steps := by
  induction conducted with
  | through | refused => exact List.forall_mem_nil _
  | failed failure => simp
  | succeeded result _ ih =>
      refine List.forall_mem_cons.mpr ⟨List.mem_cons_self, fun answered member => ?_⟩
      exact List.mem_cons_of_mem _ (ih answered member)

theorem succeeded_of_mem (conducted : Conducted steps said true) {request : Call}
    (member : .call request ∈ steps) : ∃ result, ⟨request, .ok result⟩ ∈ said := by
  generalize done : true = whole at conducted
  induction conducted with
  | through => cases member
  | refused | failed => cases done
  | succeeded result _ ih =>
      rcases List.mem_cons.mp member with same | rest
      · cases same
        exact ⟨result, List.mem_cons_self⟩
      · obtain ⟨found, there⟩ := ih rest done
        exact ⟨found, List.mem_cons_of_mem _ there⟩

theorem refusal_not_mem (conducted : Conducted steps said true) : .refusal ∉ steps := by
  generalize done : true = whole at conducted
  induction conducted with
  | through => simp
  | refused | failed => cases done
  | succeeded result _ ih => simpa using ih done

theorem allDeclared (conducted : Conducted steps said whole) (earlier : List Answered)
    (plain : ∀ channel exchange queue payload properties,
      .call (.publish channel exchange queue payload properties) ∉ steps) :
    AllDeclared earlier said := by
  have calls := conducted.mem_plan
  clear conducted
  induction said generalizing earlier with
  | nil => trivial
  | cons answered rest ih =>
      obtain ⟨first, others⟩ := List.forall_mem_cons.mp calls
      refine ⟨?_, ih _ others⟩
      obtain ⟨call, reply⟩ := answered
      cases call with
      | publish => exact absurd first (plain _ _ _ _ _)
      | _ => trivial

end Conducted

/-- Whether a call is of a kind that channels are set up with. -/
def Call.setsUp : Call → Bool
  | declareExchange .. => true
  | declareQueue .. => true
  | selectConfirms _ => true
  | consume .. => true
  | _ => false

theorem Role.setsUp_of_mem_plan {role : Role} {tag : String} {request : Call}
    (member : .call request ∈ role.plan channel tag) : request.setsUp = true := by
  cases role with
  | producer settings =>
      rcases List.mem_append.mp member with confirms | topology
      · split at confirms
        · obtain rfl := Preparation.call.inj (List.mem_singleton.mp confirms)
          rfl
        · cases confirms
      · rcases List.mem_append.mp topology with exchanges | queues
        · cases declared : settings.exchange with
          | standard => simp [declared, Exchange.plan] at exchanges
          | explicit name kind durable =>
              rw [declared, Exchange.plan] at exchanges
              split at exchanges
              · cases List.mem_singleton.mp exchanges
              · obtain rfl := Preparation.call.inj (List.mem_singleton.mp exchanges)
                rfl
        · split at queues
          · cases queues
          · obtain rfl := Preparation.call.inj (List.mem_singleton.mp queues)
            rfl
  | consumer reader =>
      simp only [plan, Consumer.plan, List.mem_cons, List.not_mem_nil, or_false] at member
      rcases member with confirms | consumes
      · obtain rfl := Preparation.call.inj confirms
        rfl
      · obtain rfl := Preparation.call.inj consumes
        rfl

theorem Role.publish_not_mem_plan (role : Role) (tag : String) (other : ChannelId)
    (exchange queue : String) (payload : List UInt8) (properties : Option Properties) :
    .call (.publish other exchange queue payload properties) ∉ role.plan channel tag := by
  intro member
  cases setsUp_of_mem_plan member

namespace Producer

variable {settings : ProducerSettings} {first : List Answered}

theorem exchange_declared (conducted : Conducted (plan settings channel) first true) :
    settings.exchange.name = "" ∨ ∃ kind durable,
      ⟨.declareExchange channel settings.exchange.name kind durable, .ok ()⟩ ∈ first := by
  cases declared : settings.exchange with
  | standard => exact .inl rfl
  | explicit name kind durable =>
      have step : ∀ step ∈ settings.exchange.plan channel, step ∈ plan settings channel :=
        fun step member => List.mem_append_right _ (List.mem_append_left _ member)
      rw [declared, Exchange.plan] at step
      have only := step _ (List.mem_singleton.mpr rfl)
      split at only
      · exact absurd only conducted.refusal_not_mem
      · obtain ⟨_, member⟩ := conducted.succeeded_of_mem only
        exact .inr ⟨kind, durable.getD true, member⟩

theorem queue_declared (conducted : Conducted (plan settings channel) first true)
    (fixed : isExpression settings.queue = false) :
    ∃ flags, ⟨.declareQueue channel settings.queue flags, .ok ()⟩ ∈ first := by
  have planned : .call (.declareQueue channel settings.queue settings.queueDeclaration.flags) ∈
      plan settings channel := by simp [plan, fixed]
  obtain ⟨_, member⟩ := conducted.succeeded_of_mem planned
  exact ⟨_, member⟩

theorem issue_allDeclared {publication : Publication} {queue : String} {said : List Answered}
    {whole : Bool} {earlier : List Answered}
    (conducted : Conducted (issuePlan settings channel publication queue) said whole)
    (queueDeclared : ∃ flags, ⟨.declareQueue channel queue flags, .ok ()⟩ ∈ earlier)
    (exchangeDeclared : settings.exchange.name = "" ∨ ∃ kind durable,
      ⟨.declareExchange channel settings.exchange.name kind durable, .ok ()⟩ ∈ earlier) :
    AllDeclared earlier said := by
  unfold issuePlan at conducted
  split at conducted
  · cases conducted
    trivial
  · cases conducted with
    | failed failure => exact ⟨⟨queueDeclared, exchangeDeclared⟩, trivial⟩
    | succeeded confirmation later =>
        cases later
        exact ⟨⟨queueDeclared, exchangeDeclared⟩, trivial⟩

theorem publication_allDeclared {publication : Publication} {said : List Answered} {whole : Bool}
    (prepared : Conducted (plan settings channel) first true)
    (conducted : Conducted (publicationPlan settings channel publication) said whole) :
    AllDeclared first said := by
  have exchange := exchange_declared prepared
  unfold publicationPlan at conducted
  -- What is declared at once, and what with each message, is told by the queue as it is configured.
  cases expression : isExpression settings.queue with
  | false =>
      rw [expression] at conducted
      exact issue_allDeclared conducted (queue_declared prepared expression) exchange
  | true =>
      rw [expression, if_pos rfl] at conducted
      split at conducted
      · cases conducted
        trivial
      · cases conducted with
        | failed failure => exact ⟨trivial, trivial⟩
        | succeeded result later =>
            refine ⟨trivial, issue_allDeclared later ⟨settings.queueDeclaration.flags, ?_⟩ ?_⟩
            · exact List.mem_append_right _ (List.mem_singleton.mpr rfl)
            · exact exchange.imp id fun ⟨kind, durable, member⟩ =>
                ⟨kind, durable, List.mem_append_left _ member⟩

end Producer

namespace Role

variable {role : Role} {said : List Answered}

theorem Opened.allDeclared (opened : role.Opened channel said) : AllDeclared [] said := by
  obtain ⟨tag, first, groups, prepared, spoken, rfl⟩ := opened
  refine (prepared.allDeclared [] (role.publish_not_mem_plan tag)).append (.flatten ?_)
  intro group member
  cases role with
  | producer settings =>
      obtain ⟨publication, whole, conducted⟩ := spoken group member
      exact Producer.publication_allDeclared prepared conducted
  | consumer reader => exact (spoken group member).elim

theorem Closed.allDeclared (closed : role.Closed channel said) : AllDeclared [] said := by
  obtain ⟨earlier, reply, rfl, opened | ⟨tag, stopped⟩⟩ := closed
  · exact opened.allDeclared.append ⟨trivial, trivial⟩
  · exact (stopped.allDeclared [] (role.publish_not_mem_plan tag)).append ⟨trivial, trivial⟩

end Role

end AmqpEndpoints
