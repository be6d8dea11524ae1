import Mathlib.Data.List.Basic
import AmqpEndpoints.Proofs.Conversation
import AmqpEndpoints.Proofs.Pool

/-!
# Publications

All that publishing a message is made of: the producer is locked, and while it has a channel, calls
are made there until one fails or the message is published. So a message is published at most once,
and that its queue was declared is what comes right before it.
-/

set_option autoImplicit false

namespace AmqpEndpoints

open Program

def Answered.entries (answered : Answered) : List Done :=
  [⟨.issue answered.call, ()⟩, ⟨.await answered.call, answered.reply⟩]

theorem Answered.flatMap_entries (said : List Answered) :
    (said.flatMap Answered.entries).flatMap Done.events = said.flatMap Answered.events := by
  rw [List.flatMap_assoc]
  rfl

def Done.finds : Done → Bool
  | ⟨.held _, some _⟩ => true
  | _ => false

def Done.declares : Done → Bool
  | ⟨.await (.declareQueue ..), .ok _⟩ => true
  | _ => false

def Action.publishes : Action → Bool
  | issue (.publish ..) => true
  | _ => false

namespace Program

variable {α β : Type} {entries : List Done}

theorem attempt_leaves {request : Call} {reply : request.Reply}
    (leaves : (attempt request).run.Leaves entries (.done reply)) :
    entries = Answered.entries ⟨request, reply⟩ := by
  cases leaves with
  | step later =>
      cases later with
      | step last =>
          cases last
          rfl

theorem pure_leaves {result other : α}
    (leaves : (pure result : Program α).Leaves entries (.done other)) :
    entries = [] ∧ other = result := by
  cases leaves
  exact ⟨rfl, rfl⟩

/-- An attempt fails where its first part does, or goes on after it. -/
theorem attempt_bind_leaves {first : Attempt α} {next : α → Attempt β} {outcome : Except Failure β}
    (leaves : (first >>= next).run.Leaves entries (.done outcome)) :
    (∃ failure, outcome = .error failure ∧ first.run.Leaves entries (.done (.error failure))) ∨
      ∃ result earlier later, entries = earlier ++ later ∧
        first.run.Leaves earlier (.done (.ok result)) ∧
        (next result).run.Leaves later (.done outcome) := by
  rw [run_attempt_bind, leaves_bind_iff] at leaves
  obtain ⟨earlier, later, middle, rfl, own, left⟩ := leaves
  cases middle with
  | error failure =>
      obtain ⟨rfl, rfl⟩ := pure_leaves left
      exact .inl ⟨failure, rfl, (List.append_nil earlier).symm ▸ own⟩
  | ok result => exact .inr ⟨result, earlier, later, rfl, own, left⟩

end Program

/-!
## The course of a publication
-/

namespace Producer

/-- What a caller is told about a message, going by the answer to the call that published it. -/
def verdict (destination : String) : Except Failure Confirmation → Except Failure Unit
  | .error failure => .error failure
  | .ok .nack => .error (.publishing ("message to `" ++ destination ++ "` was nacked"))
  | .ok _ => .ok ()

/-- What is said before a message is published: a queue that depends on the message is declared. -/
def preamble (settings : ProducerSettings) (channel : ChannelId) (destination : String) :
    List Answered :=
  if isExpression settings.queue then
    [⟨.declareQueue channel destination settings.queueDeclaration.flags, .ok ()⟩]
  else []

/-- How publishing a message on a channel can go: what is said there, and what comes of it. -/
inductive Course (settings : ProducerSettings) (channel : ChannelId) (publication : Publication) :
    List Answered → Except Failure Unit → Prop where
  | unresolved {failure : Failure}
      (resolved : publication.message.resolve settings.queue = .error failure) :
      Course settings channel publication [] (.error failure)
  | undeclared {destination : String}
      (resolved : publication.message.resolve settings.queue = .ok destination)
      (expression : isExpression settings.queue = true) (failure : Failure) :
      Course settings channel publication
        [⟨.declareQueue channel destination settings.queueDeclaration.flags, .error failure⟩]
        (.error failure)
  | unbuilt {destination : String} {failure : Failure}
      (resolved : publication.message.resolve settings.queue = .ok destination)
      (built : propertiesFor settings publication.context publication.message = .error failure) :
      Course settings channel publication (preamble settings channel destination) (.error failure)
  | issued {destination : String} {properties : Option Properties}
      (resolved : publication.message.resolve settings.queue = .ok destination)
      (built : propertiesFor settings publication.context publication.message = .ok properties)
      (reply : Except Failure Confirmation) :
      Course settings channel publication
        (preamble settings channel destination ++
          [⟨.publish channel settings.exchange.name destination publication.message.payload
            properties, reply⟩])
        (verdict destination reply)

variable {settings : ProducerSettings} {publication : Publication} {channel : ChannelId}
  {component : ComponentId} {entries : List Done}

theorem issue_leaves {destination : String} {outcome : Except Failure Unit}
    (leaves : (issue settings channel publication destination).run.Leaves entries (.done outcome)) :
    (∃ failure, propertiesFor settings publication.context publication.message = .error failure ∧
        entries = [] ∧ outcome = .error failure) ∨
      ∃ properties reply,
        propertiesFor settings publication.context publication.message = .ok properties ∧
          entries = Answered.entries ⟨.publish channel settings.exchange.name destination
            publication.message.payload properties, reply⟩ ∧
          outcome = verdict destination reply := by
  unfold issue at leaves
  obtain ⟨failure, rfl, own⟩ | ⟨properties, _, later, rfl, own, left⟩ := attempt_bind_leaves leaves
  · obtain ⟨rfl, same⟩ := pure_leaves own
    exact .inl ⟨failure, same.symm, rfl, rfl⟩
  · obtain ⟨rfl, same⟩ := pure_leaves own
    refine .inr ⟨properties, ?_⟩
    obtain ⟨failure, rfl, own⟩ | ⟨confirmation, _, last, rfl, own, left⟩ := attempt_bind_leaves left
    · exact ⟨.error failure, same.symm, attempt_leaves own, rfl⟩
    · refine ⟨.ok confirmation, same.symm, ?_⟩
      cases confirmation with
      | nack =>
          obtain ⟨rfl, rfl⟩ := pure_leaves left
          exact ⟨by simp [attempt_leaves own], rfl⟩
      | ack | notRequested =>
          obtain ⟨rfl, rfl⟩ := pure_leaves left
          exact ⟨by simp [attempt_leaves own], rfl⟩

theorem publishOn_course {outcome : Except Failure Unit}
    (leaves : (publishOn settings channel publication.context publication.message).run.Leaves
      entries (.done outcome)) :
    ∃ said, entries = said.flatMap Answered.entries ∧
      Course settings channel publication said outcome := by
  unfold publishOn at leaves
  obtain ⟨failure, rfl, own⟩ | ⟨destination, _, later, rfl, own, left⟩ := attempt_bind_leaves leaves
  · obtain ⟨rfl, same⟩ := pure_leaves own
    exact ⟨[], rfl, .unresolved same.symm⟩
  obtain ⟨rfl, resolved⟩ := pure_leaves own
  -- What is left ends with the call that publishes the message, whatever was declared before it.
  have ends : ∀ {calls : List Done},
      (issue settings channel publication destination).run.Leaves calls (.done outcome) →
        ∃ said, (preamble settings channel destination).flatMap Answered.entries ++ calls =
          said.flatMap Answered.entries ∧ Course settings channel publication said outcome := by
    intro calls leaves
    obtain ⟨failure, built, rfl, rfl⟩ | ⟨properties, reply, built, rfl, rfl⟩ := issue_leaves leaves
    · exact ⟨_, List.append_nil _, .unbuilt resolved.symm built⟩
    · exact ⟨_, by simp, .issued resolved.symm built reply⟩
  cases expression : isExpression settings.queue with
  | false =>
      rw [expression] at left
      have rest := ends left
      rwa [preamble, expression] at rest
  | true =>
      rw [expression] at left
      obtain ⟨failure, rfl, own⟩ | ⟨_, _, last, rfl, own, left⟩ := attempt_bind_leaves left
      · refine ⟨_, ?_, .undeclared resolved.symm expression failure⟩
        simpa using attempt_leaves own
      · have rest := ends left
        rw [preamble, expression] at rest
        simpa [attempt_leaves own] using rest

/-- How publishing a message goes as a whole: the producer is locked, and publishes on the channel
it holds, if it holds one. -/
theorem publish_course {outcome : Except Failure Unit}
    (leaves : (publish component settings publication.context publication.message).Leaves entries
      (.done outcome)) :
    ∃ (found : Option Held) (said : List Answered),
      entries = ⟨.lock component, ()⟩ :: ⟨.held component, found⟩ ::
        (said.flatMap Answered.entries ++ [⟨.unlock component, ()⟩]) ∧
      match found with
      | none => said = [] ∧ outcome = .error (.publishing "producer is not started")
      | some held => Course settings held.channel publication said outcome := by
  have unlocks : ∀ {entries : List Done} {given : Except Failure Unit}, (do
      act (.unlock component)
      return given : Program (Except Failure Unit)).Leaves entries (.done outcome) →
        entries = [⟨.unlock component, ()⟩] ∧ outcome = given := by
    intro entries given leaves
    cases leaves with
    | step last =>
        cases last
        exact ⟨rfl, rfl⟩
  cases leaves with
  | step looks =>
      cases looks with
      | @step _ _ found _ _ goes =>
          refine ⟨found, ?_⟩
          cases found with
          | none =>
              obtain ⟨rfl, rfl⟩ := unlocks goes
              exact ⟨[], rfl, rfl, rfl⟩
          | some held =>
              change (do
                let outcome ← (publishOn settings held.channel publication.context
                  publication.message).run
                act (.unlock component)
                return outcome : Program (Except Failure Unit)).Leaves _ (.done outcome) at goes
              obtain ⟨calls, last, given, rfl, own, left⟩ := leaves_bind_iff.mp goes
              obtain ⟨rfl, rfl⟩ := unlocks left
              obtain ⟨said, rfl, course⟩ := publishOn_course own
              exact ⟨said, by simp, course⟩

theorem produce_leaves {result : Except Failure Unit × Message}
    (leaves : (produce component settings publication.context publication.message).Leaves entries
      (.done result)) :
    ∃ outcome, (publish component settings publication.context publication.message).Leaves entries
      (.done outcome) := by
  obtain ⟨first, _, outcome, rfl, publishes, reports⟩ := leaves_bind_iff.mp leaves
  obtain ⟨rfl, _⟩ := pure_leaves reports
  exact ⟨outcome, (List.append_nil first).symm ▸ publishes⟩

/-!
## Publishing once
-/

/-- Whether the calls about a message get to the point where it is published: its queue is known and
declared, and its properties can be made. -/
def prepared (settings : ProducerSettings) (publication : Publication) (entries : List Done) : Bool :=
  (publication.message.resolve settings.queue).isOk &&
    (!isExpression settings.queue || entries.any Done.declares) &&
    (propertiesFor settings publication.context publication.message).isOk

/-- Whether a producer that did some actions about a message got to publishing it. -/
def passes (settings : ProducerSettings) (publication : Publication) (entries : List Done) : Bool :=
  entries.any Done.finds && prepared settings publication entries

/-- What is said about a message ends with its publication, or it does not get to that point. -/
theorem Course.said {said : List Answered} {outcome : Except Failure Unit}
    (course : Course settings channel publication said outcome) :
    (prepared settings publication (said.flatMap Answered.entries) = true ∧
      ∃ destination properties reply, said = preamble settings channel destination ++
        [⟨.publish channel settings.exchange.name destination publication.message.payload properties,
          reply⟩]) ∨
      prepared settings publication (said.flatMap Answered.entries) = false ∧
        ∀ entry ∈ said.flatMap Answered.entries, entry.action.publishes = false := by
  have silent : ∀ destination,
      ∀ entry ∈ (preamble settings channel destination).flatMap Answered.entries,
        entry.action.publishes = false := by
    intro destination
    cases expression : isExpression settings.queue <;>
      simp [preamble, expression, Answered.entries, Action.publishes]
  unfold prepared
  cases course with
  | unresolved resolved =>
      rw [resolved]
      exact .inr ⟨rfl, List.forall_mem_nil _⟩
  | undeclared resolved expression failure =>
      rw [resolved, expression]
      refine .inr ⟨rfl, ?_⟩
      simp [Answered.entries, Action.publishes]
  | @unbuilt destination failure resolved built =>
      rw [built]
      exact .inr ⟨Bool.and_false _, silent destination⟩
  | @issued destination properties resolved built reply =>
      refine .inl ⟨?_, destination, properties, reply, rfl⟩
      rw [resolved, built]
      cases expression : isExpression settings.queue with
      | false => rfl
      | true => simp [preamble, expression, Answered.entries, Done.declares, Except.isOk, Except.toBool]

/-- A message is published once where its producer gets to that, and not at all elsewhere. -/
theorem produce_publishes {result : Except Failure Unit × Message}
    (leaves : (produce component settings publication.context publication.message).Leaves entries
      (.done result)) :
    entries.countP (·.action.publishes) = (passes settings publication entries).toNat := by
  obtain ⟨outcome, publishes⟩ := produce_leaves leaves
  obtain ⟨found, said, rfl, told⟩ := publish_course publishes
  have counted : ∀ {calls : List Done}, List.countP (·.action.publishes)
      (⟨.lock component, ()⟩ :: ⟨.held component, found⟩ ::
        (calls ++ [⟨.unlock component, ()⟩])) = calls.countP (·.action.publishes) := by
    simp [Action.publishes]
  rw [counted]
  cases found with
  | none =>
      rw [told.1]
      simp [passes, Done.finds]
  | some held =>
      have passed : ∀ {calls : List Done}, passes settings publication
          (⟨.lock component, ()⟩ :: ⟨.held component, some held⟩ ::
            (calls ++ [⟨.unlock component, ()⟩])) = prepared settings publication calls := by
        simp [passes, prepared, Done.finds, Done.declares]
      rw [passed]
      obtain ⟨ready, destination, properties, reply, rfl⟩ | ⟨unready, silent⟩ := Course.said told
      · rw [ready, preamble]
        cases isExpression settings.queue <;> rfl
      · rw [unready]
        exact List.countP_eq_zero.mpr fun entry member => by simp [silent entry member]

/-- Between the declaration of a queue and the publication to it nothing else is done. -/
theorem produce_declares_first {result : Except Failure Unit × Message} {declared used : ChannelId}
    {queue exchange name : String} {flags : QueueFlags} {payload : List UInt8}
    {properties : Option Properties} {before between after : List Done}
    (leaves : (produce component settings publication.context publication.message).Leaves entries
      (.done result))
    (split : entries = before ++ ⟨.issue (.declareQueue declared queue flags), ()⟩ ::
      (between ++ ⟨.issue (.publish used exchange name payload properties), ()⟩ :: after)) :
    used = declared ∧ name = queue ∧
      between = [⟨.await (.declareQueue declared queue flags), .ok ()⟩] := by
  have declares : (⟨.issue (.declareQueue declared queue flags), ()⟩ : Done) ∈ entries :=
    split ▸ List.mem_append_right _ List.mem_cons_self
  have publishes :
      (⟨.issue (.publish used exchange name payload properties), ()⟩ : Done) ∈ entries :=
    split ▸ List.mem_append_right _
      (List.mem_cons_of_mem _ (List.mem_append_right _ List.mem_cons_self))
  obtain ⟨outcome, goes⟩ := produce_leaves leaves
  obtain ⟨found, said, rfl, told⟩ := publish_course goes
  cases found with
  | none =>
      rw [told.1] at publishes
      simp at publishes
  | some held =>
      obtain ⟨_, destination, made, reply, rfl⟩ | ⟨_, silent⟩ := Course.said told
      · cases expression : isExpression settings.queue with
        | false => simp [preamble, expression, Answered.entries] at declares
        | true =>
            rw [preamble, expression, if_pos rfl] at split declares publishes
            obtain ⟨rfl, rfl, rfl⟩ : declared = held.channel ∧ queue = destination ∧
                flags = settings.queueDeclaration.flags := by
              simpa [Answered.entries] using declares
            obtain ⟨rfl, rfl, rfl, rfl, rfl⟩ : used = held.channel ∧
                exchange = settings.exchange.name ∧ name = queue ∧
                payload = publication.message.payload ∧ properties = made := by
              simpa [Answered.entries] using publishes
            -- The declaration and the publication stand at one place each.
            let declaration := Call.declareQueue held.channel name settings.queueDeclaration.flags
            let publishing := Call.publish held.channel settings.exchange.name name
              publication.message.payload properties
            have whole : ([⟨.lock component, ()⟩, ⟨.held component, some held⟩] : List Done) ++
                ⟨.issue declaration, ()⟩ :: ([⟨.await declaration, .ok ()⟩] ++
                  ⟨.issue publishing, ()⟩ :: [⟨.await publishing, reply⟩, ⟨.unlock component, ()⟩]) =
                before ++ ⟨.issue declaration, ()⟩ ::
                  (between ++ ⟨.issue publishing, ()⟩ :: after) := split
            obtain ⟨_, _, later⟩ := (List.append_cons_inj_of_notMem (by simp) (by simp)).mp whole
            obtain ⟨same, _⟩ := (List.append_cons_inj_of_notMem (by simp) (by simp)).mp later
            exact ⟨rfl, rfl, same.symm⟩
      · have silence := silent ⟨.issue (.publish used exchange name payload properties), ()⟩ <| by
          simpa using publishes
        cases silence

end Producer

/-!
## Programs that publish nothing
-/

/-- Whether a call publishes nothing and declares no queue but those with certain names. -/
def Call.Declares (named : String → Prop) : Call → Prop
  | declareQueue _ name _ => named name
  | publish .. => False
  | _ => True

def Action.Declares (named : String → Prop) : Action → Prop
  | issue call => call.Declares named
  | _ => True

section

variable {named : String → Prop} {action : Action}

theorem Action.Declares.publishes_not (declares : action.Declares named) :
    action.publishes = false := by
  cases action with
  | issue call => cases call <;> first | rfl | exact declares.elim
  | _ => rfl

theorem Action.GivesBack.declares (about : action.GivesBack) : action.Declares named := by
  cases action with
  | issue call => cases call <;> trivial
  | _ => trivial

end

/-- Whether a queue is the one that a producer declares when it is set up. A queue that depends on
the message is not declared then. -/
def ProducerSettings.Announces (settings : ProducerSettings) (name : String) : Prop :=
  name = settings.queue ∧ isExpression settings.queue = false

theorem Producer.setUp_declares (settings : ProducerSettings) (channel : ChannelId) :
    (setUp settings channel).run.Uses (Action.Declares settings.Announces) := by
  have topology : ∀ reply : Unit, (do
      settings.exchange.declare channel
      if isExpression settings.queue then pure ()
      else settings.queueDeclaration.declare channel settings.queue :
        Attempt Unit).run.Uses (Action.Declares settings.Announces) := by
    intro _
    refine Uses.attempt_bind ?_ fun _ => ?_
    · cases settings.exchange with
      | standard => exact uses_pure _
      | explicit name kind durable =>
          rw [Exchange.declare]
          split
          · exact uses_pure _
          · exact uses_attempt trivial trivial
    · split
      · exact uses_pure _
      · rename_i fixed
        exact uses_attempt ⟨rfl, Bool.eq_false_iff.mpr fixed⟩ trivial
  unfold setUp
  dsimp only
  split
  · exact Uses.attempt_bind (uses_attempt trivial trivial) topology
  · exact topology ()

theorem Role.acquire_declares (settings : ProducerSettings) :
    (Role.producer settings).acquire.run.Uses (Action.Declares settings.Announces) := by
  have closes : ∀ channel, (closeChannel channel).Uses (Action.Declares settings.Announces) :=
    fun channel => uses_closeChannel trivial trivial
  refine Uses.attempt_bind ?_ fun connection => ?_
  · refine Uses.attempt_bind (Uses.bind (uses_act trivial) fun _ => uses_pure _) fun handle => ?_
    cases handle <;> exact uses_pure _
  · refine Uses.attempt_bind (uses_attempt trivial trivial) fun channel => ?_
    rw [ExceptT.run_tryCatch]
    have equips := (Producer.setUp_declares settings channel).attempt_bind
      fun _ => uses_pure (.ok (⟨channel, none⟩ : Held))
    refine equips.bind fun outcome => ?_
    cases outcome with
    | ok held => exact uses_pure _
    | error failure =>
        exact Uses.attempt_bind ((closes channel).bind fun _ => uses_pure _) fun _ => uses_pure _

theorem Component.empty_declares (component : ComponentId) (named : String → Prop) :
    (Component.empty component).Uses (Action.Declares named) := by
  refine Uses.bind (uses_act trivial) fun _ => Uses.bind (uses_act trivial) fun held => ?_
  exact (uses_giveBack held).mono fun _ about => about.declares

theorem Component.start_declares (component : ComponentId) (settings : ProducerSettings) :
    (Component.start component (.producer settings)).Uses (Action.Declares settings.Announces) := by
  rw [Component.start_eq]
  refine (Component.empty_declares component _).bind fun _ =>
    (Role.acquire_declares settings).bind fun acquired => ?_
  cases acquired with
  | error failure => exact Uses.bind (uses_act trivial) fun _ => uses_pure _
  | ok held =>
      exact Uses.bind (uses_act trivial) fun _ => Uses.bind (uses_act trivial) fun _ => uses_pure _

theorem Component.stop_declares (component : ComponentId) (named : String → Prop) :
    (Component.stop component).Uses (Action.Declares named) := by
  rw [Component.stop_eq]
  exact (Component.empty_declares component named).bind fun _ => uses_act trivial

theorem Component.start_publishes_not (component : ComponentId) (settings : ProducerSettings) :
    (Component.start component (.producer settings)).Uses (·.publishes = false) :=
  (Component.start_declares component settings).mono fun _ declares => declares.publishes_not

theorem Component.stop_publishes_not (component : ComponentId) :
    (Component.stop component).Uses (·.publishes = false) :=
  (Component.stop_declares component fun _ => False).mono fun _ declares => declares.publishes_not

end AmqpEndpoints
