import AmqpEndpoints.Proofs.ChannelProtocol
import AmqpEndpoints.Proofs.Exclusive
import AmqpEndpoints.Proofs.Publications
import AmqpEndpoints.Proofs.References

/-!
# Destinations

The names under which a producer declares queues and publishes. The configured queue of a producer
that could be prepared is not blank, but a queue that depends on the message is looked at only once
it is resolved, and then nobody asks whether anything is left of it.
-/

set_option autoImplicit false

namespace AmqpEndpoints

open Program

/-!
## Texts of which nothing is left
-/

/-- What stands between the holes of a template. -/
def Text.Template.literals : Text.Template → List (List Char)
  | plain text => [text]
  | unterminated text _ => [text]
  | hole text _ rest => text :: rest.literals

theorem Text.Template.blank_textWith_iff (value : String → String) (template : Text.Template) :
    (template.textWith value).all isBlank = true ↔
      (∀ literal ∈ template.literals, literal.all isBlank = true) ∧
        ∀ key ∈ template.keys, blank (value key) = true := by
  induction template with
  | plain text => simp [textWith, literals, keys]
  | unterminated text tail => simp [textWith, literals, keys]
  | hole text key rest ih =>
      rw [textWith, List.all_append, List.all_append, Bool.and_eq_true, Bool.and_eq_true, ih,
        literals, keys, List.forall_mem_cons, List.forall_mem_cons, blank]
      tauto

/-- Whether a message leaves nothing but blanks of a text: all that stands between its references is
blank, and so is the metadata of each of them, which the message has. -/
def Message.Erases (message : Message) (text : String) : Prop :=
  let template := (Lookup.message message).template text
  template.isTerminated = true ∧ (∀ literal ∈ template.literals, literal.all Text.isBlank = true) ∧
    ∀ key ∈ template.keys, ∃ value, message.metadata.get? key = some value ∧ Text.blank value = true

theorem Message.erases_iff {message : Message} {text : String} :
    message.Erases text ↔
      ∃ resolved, message.resolve text = .ok resolved ∧ Text.blank resolved = true := by
  have left : ∀ value : String → String,
      Text.blank (String.ofList (((Lookup.message message).template text).textWith value)) = true ↔
        (∀ literal ∈ ((Lookup.message message).template text).literals,
          literal.all Text.isBlank = true) ∧
        ∀ key ∈ ((Lookup.message message).template text).keys, Text.blank (value key) = true := by
    intro value
    rw [Text.blank, String.toList_ofList]
    exact Text.Template.blank_textWith_iff value _
  have resolves : ∀ resolved, message.resolve text = .ok resolved ↔
      ((Lookup.message message).template text).isTerminated = true ∧
        (Lookup.message message).Defines text ∧ resolved = (Lookup.message message).filled text :=
    fun resolved => (Lookup.message message).resolve_eq_ok_iff
  constructor
  · intro erases
    obtain ⟨terminated, literals, keys⟩ := erases
    refine ⟨_, (resolves _).mpr ⟨terminated, ?_, rfl⟩, (left _).mpr ⟨literals, ?_⟩⟩
    · intro key member
      obtain ⟨value, found, _⟩ := keys key member
      exact Option.isSome_of_eq_some found
    · intro key member
      obtain ⟨value, found, blank⟩ := keys key member
      simpa [Lookup.value?, found] using blank
  · intro erased
    obtain ⟨resolved, resolved_eq, blank⟩ := erased
    obtain ⟨terminated, defines, rfl⟩ := (resolves resolved).mp resolved_eq
    obtain ⟨literals, keys⟩ := (left _).mp blank
    refine ⟨terminated, literals, ?_⟩
    intro key member
    obtain ⟨value, found⟩ := Option.isSome_iff_exists.mp (defines key member)
    refine ⟨value, found, ?_⟩
    simpa [found] using keys key member

theorem Message.Erases.isExpression {message : Message} {text : String}
    (erases : message.Erases text) (visible : Text.blank text = false) :
    isExpression text = true := by
  cases fixed : AmqpEndpoints.isExpression text with
  | true => rfl
  | false =>
      obtain ⟨resolved, same, blank⟩ := erases_iff.mp erases
      rw [message.resolve_of_fixed fixed] at same
      cases same
      rw [visible] at blank
      cases blank

/-!
## Calls under the lock of a component
-/

/-- The name of the queue to declare or to publish to. -/
def Call.destination? : Call → Option String
  | declareQueue _ name _ => some name
  | publish _ _ routingKey _ _ => some routingKey
  | _ => none

def Done.issued? : Done → Option Call
  | ⟨.issue call, _⟩ => some call
  | _ => none

/-- Whether a task has the lock of a component after an action. -/
def hasLock (component : ComponentId) (before : Bool) : Action → Bool
  | .lock owner => if owner = component then true else before
  | .unlock owner => if owner = component then false else before
  | _ => before

/-- The calls that a task makes while it has the lock of a component. -/
def callsFor (component : ComponentId) : Bool → List Done → List Call
  | _, [] => []
  | locked, entry :: rest =>
    (if locked then entry.issued?.toList else []) ++
      callsFor component (hasLock component locked entry.action) rest

theorem mem_issued?_iff {entry : Done} {call : Call} :
    call ∈ entry.issued?.toList ↔ entry.action = .issue call := by
  obtain ⟨action, reply⟩ := entry
  cases action <;> simp [Done.issued?, eq_comm]

/-- A task may do anything but call for a component what is about queues of other names. -/
def minding (component : ComponentId) (named : String → Prop) : Discipline Bool where
  allows locked action := locked = true → action.Declares named
  after locked action _ := hasLock component locked action

section

variable {component : ComponentId} {named : String → Prop} {locked : Bool} {entries : List Done}

theorem declares_of_accepts (accepts : (minding component named).Accepts locked entries) :
    ∀ call ∈ callsFor component locked entries, call.Declares named := by
  induction entries generalizing locked with
  | nil => exact List.forall_mem_nil _
  | cons entry rest ih =>
      obtain ⟨allowed, later⟩ := accepts
      intro call member
      rcases List.mem_append.mp member with now | after
      · cases locked with
        | false => cases now
        | true =>
            have declares := allowed rfl
            rw [mem_issued?_iff.mp now] at declares
            exact declares
      · exact ih later call after

/-- Calls for a component are calls that the task makes. -/
theorem issued_of_mem_callsFor {call : Call} (member : call ∈ callsFor component locked entries) :
    ∃ entry ∈ entries, entry.action = .issue call := by
  induction entries generalizing locked with
  | nil => cases member
  | cons entry rest ih =>
      rcases List.mem_append.mp member with now | later
      · cases locked with
        | false => cases now
        | true => exact ⟨entry, List.mem_cons_self, mem_issued?_iff.mp now⟩
      · obtain ⟨other, among, issues⟩ := ih later
        exact ⟨other, List.mem_cons_of_mem _ among, issues⟩

theorem callsFor_said (said : List Answered) (rest : List Done) :
    callsFor component true (said.flatMap Answered.entries ++ rest) =
      said.map (·.call) ++ callsFor component true rest := by
  induction said with
  | nil => rfl
  | cons answered said ih => exact congrArg (answered.call :: ·) ih

theorem callsFor_isPrefix_append (before later : List Done) :
    callsFor component locked before <+: callsFor component locked (before ++ later) := by
  induction before generalizing locked with
  | nil => exact List.nil_prefix
  | cons entry before ih => exact List.prefix_append_right_inj _ |>.mpr ih

end

/-!
## Starts, stops and restarts
-/

section

variable {component : ComponentId} {named : String → Prop}

theorem hasLock_lock (locked : Bool) : hasLock component locked (.lock component) = true :=
  if_pos rfl

theorem hasLock_unlock (locked : Bool) : hasLock component locked (.unlock component) = false :=
  if_pos rfl

theorem minds_unlocked (action : Action) : (minding component named).allows false action :=
  fun locked => absurd locked Bool.false_ne_true

/-- Work on channels keeps the locks as they are. -/
theorem Action.OfChannels.minds {action : Action}
    (about : action.OfChannels ∧ action.Declares named) :
    (minding component named).allows true action ∧
      ∀ reply, (minding component named).after true action reply = true := by
  obtain ⟨ofChannels, declares⟩ := about
  refine ⟨fun _ => declares, fun reply => ?_⟩
  cases action with
  | lock => exact ofChannels.elim
  | unlock => exact ofChannels.elim
  | _ => rfl

theorem Action.OfComponent.minds_not {other : ComponentId} (different : other ≠ component)
    (action : Action) (about : action.OfComponent other) :
    (minding component named).allows false action ∧
      ∀ reply, (minding component named).after false action reply = false := by
  refine ⟨minds_unlocked action, fun reply => ?_⟩
  cases action with
  | lock owner =>
      obtain rfl : owner = other := about
      exact if_neg different
  | unlock owner => exact ite_self false
  | _ => rfl

theorem Action.OfConnection.minds_not (action : Action) (about : action.OfConnection) :
    (minding component named).allows false action ∧
      ∀ reply, (minding component named).after false action reply = false := by
  refine ⟨minds_unlocked action, fun reply => ?_⟩
  cases action with
  | lock => exact about.elim
  | unlock => exact about.elim
  | _ => rfl

namespace Component

theorem empty_minds :
    (empty component).Follows (minding component named) false fun _ later => later = true := by
  refine ⟨minds_unlocked _, fun _ _ => ?_⟩
  change Follows _ _ (hasLock component false (.lock component)) _
  rw [hasLock_lock]
  refine ⟨fun _ => trivial, fun held _ => ?_⟩
  apply (uses_giveBack held).follows
  intro action about
  exact Action.OfChannels.minds ⟨about.ofChannels, about.declares⟩

theorem finish_minds (acquired : Except Failure Held) :
    (finish component acquired).Follows (minding component named) true fun _ later =>
      later = false := by
  cases acquired with
  | error failure => exact ⟨fun _ => trivial, fun _ _ => hasLock_unlock true⟩
  | ok held =>
      exact ⟨fun _ => trivial, fun _ _ => ⟨fun _ => trivial, fun _ _ => hasLock_unlock true⟩⟩

theorem start_minds (settings : ProducerSettings) :
    (start component (.producer settings)).Follows (minding component settings.Announces) false
      fun _ later => later = false := by
  have acquires := (Role.producer settings).uses_acquire.and (Role.acquire_declares settings)
  rw [start_eq]
  apply empty_minds.bind
  intro _
  exact (acquires.follows fun _ => Action.OfChannels.minds).bind finish_minds

theorem stop_minds :
    (stop component).Follows (minding component named) false fun _ later => later = false := by
  rw [stop_eq]
  apply empty_minds.bind
  intro _
  exact ⟨fun _ => trivial, fun _ _ => hasLock_unlock true⟩

end Component

namespace Connection

theorem cycle_minds (name : String) {settings : ProducerSettings}
    {components : List (ComponentId × Role)}
    (listed : ∀ role, (component, role) ∈ components → role = .producer settings) :
    (cycle name components).Follows (minding component settings.Announces) false fun _ later =>
      later = false := by
  refine cycle_returns name ?stops (uses_close.follows Action.OfConnection.minds_not)
    ((uses_init name).follows Action.OfConnection.minds_not) ?starts
    ⟨minds_unlocked _, fun _ _ => rfl⟩
  case stops =>
    intro entry _
    by_cases here : entry.1 = component
    · rw [here]
      exact Component.stop_minds
    · exact (Component.uses_stop entry.1).follows (Action.OfComponent.minds_not here)
  case starts =>
    intro entry member
    obtain ⟨owner, role⟩ := entry
    by_cases here : owner = component
    · subst here
      rw [listed role member]
      exact Component.start_minds settings
    · exact (Component.uses_start owner role).follows (Action.OfComponent.minds_not here)

/-- Of the queues of a producer, a restart names only the one that it declares anyway. -/
theorem restart_calls {name : String} {settings : ProducerSettings} {entries : List Done}
    {rest : Program (Except Failure Unit)} (leaves : (restart name).Leaves entries rest)
    (listed : ∀ live, ⟨.snapshot, live⟩ ∈ entries →
      ∀ role, (component, role) ∈ live → role = .producer settings) :
    ∀ call ∈ callsFor component false entries, call.Declares settings.Announces := by
  rw [restart_eq] at leaves
  cases leaves with
  | refl => exact List.forall_mem_nil _
  | step leaves =>
      cases leaves with
      | refl => exact List.forall_mem_nil _
      | @step _ _ live _ _ leaves =>
          have cycles := cycle_minds name (listed live (by simp))
          have calls := declares_of_accepts (leaves.follows cycles fun _ _ _ => trivial).1
          exact calls

end Connection

end

theorem Call.Declares.destination {named : String → Prop} {call : Call} {destination : String}
    (declares : call.Declares named) (names : destination ∈ call.destination?) :
    named destination := by
  cases call with
  | declareQueue channel name flags =>
      obtain rfl := Option.some.inj names
      exact declares
  | publish => exact declares.elim
  | _ => cases names

/-!
## Publications
-/

namespace Producer

variable {settings : ProducerSettings} {channel : ChannelId} {publication : Publication}
  {component : ComponentId} {said : List Answered} {outcome : Except Failure Unit}

/-- All that is said about a message names what its queue was resolved to. -/
theorem Course.destination (course : Course settings channel publication said outcome) :
    ∀ answered ∈ said, ∀ destination ∈ answered.call.destination?,
      publication.message.resolve settings.queue = .ok destination := by
  have declared : ∀ {resolved : String},
      publication.message.resolve settings.queue = .ok resolved →
      ∀ answered ∈ preamble settings channel resolved, ∀ destination ∈ answered.call.destination?,
        publication.message.resolve settings.queue = .ok destination := by
    intro resolved same answered member destination names
    unfold preamble at member
    split at member
    · obtain rfl := List.mem_singleton.mp member
      obtain rfl := Option.some.inj names
      exact same
    · cases member
  cases course with
  | unresolved => exact List.forall_mem_nil _
  | undeclared resolved =>
      intro answered member destination names
      obtain rfl := List.mem_singleton.mp member
      obtain rfl := Option.some.inj names
      exact resolved
  | unbuilt resolved => exact declared resolved
  | issued resolved =>
      intro answered member destination names
      rcases List.mem_append.mp member with before | last
      · exact declared resolved answered before destination names
      · obtain rfl := List.mem_singleton.mp last
        obtain rfl := Option.some.inj names
        exact resolved

/-- A message that leaves nothing of the queue is as good as any other: a queue is declared for
it. -/
theorem Course.declares_blank (course : Course settings channel publication said outcome)
    (visible : Text.blank settings.queue = false)
    (erases : publication.message.Erases settings.queue) :
    ∃ answered ∈ said, ∃ destination ∈ answered.call.destination?,
      Text.blank destination = true := by
  obtain ⟨destination, resolves, blank⟩ := Message.erases_iff.mp erases
  have preambles : ∀ {resolved : String},
      publication.message.resolve settings.queue = .ok resolved →
      ∃ answered ∈ preamble settings channel resolved, ∃ destination ∈ answered.call.destination?,
        Text.blank destination = true := by
    intro resolved same
    obtain rfl := Except.ok.inj (same.symm.trans resolves)
    rw [preamble, erases.isExpression visible]
    exact ⟨_, List.mem_singleton.mpr rfl, resolved, rfl, blank⟩
  cases course with
  | unresolved resolved =>
      rw [resolved] at resolves
      cases resolves
  | undeclared resolved =>
      obtain rfl := Except.ok.inj (resolved.symm.trans resolves)
      exact ⟨_, List.mem_singleton.mpr rfl, _, rfl, blank⟩
  | unbuilt resolved => exact preambles resolved
  | issued resolved =>
      obtain ⟨answered, member, rest⟩ := preambles resolved
      exact ⟨answered, List.mem_append_left _ member, rest⟩

theorem callsFor_publish (found : Option Held) :
    callsFor component false (⟨.lock component, ()⟩ :: ⟨.held component, found⟩ ::
        (said.flatMap Answered.entries ++ [⟨.unlock component, ()⟩])) = said.map (·.call) := by
  change callsFor component (hasLock component false (.lock component)) (_ :: _) = _
  rw [hasLock_lock]
  exact (callsFor_said said _).trans (List.append_nil _)

end Producer

/-!
## Requests at once
-/

/-- What can be asked of a producer and of its connection. -/
inductive Request where
  | call (call : ProducerCall)
  | restart

def Request.program (name : String) (component : ComponentId) (settings : ProducerSettings) :
    Request → Program (Except Failure Unit)
  | call asked => asked.program component settings
  | restart => Connection.restart name

/-- Whether a component is listed, if at all, with its role. -/
def Done.Lists (component : ComponentId) (role : Option Role) : Done → Prop
  | ⟨.snapshot, live⟩ => ∀ listed, (component, listed) ∈ live → role = some listed
  | _ => True

theorem Pool.after_lists {Demand α : Type} (program : Demand → Program α) (origin : World)
    (happenings : List (Happening Demand)) (component : ComponentId) :
    ∀ entry ∈ (Pool.after program origin happenings).trace,
      entry.2.Lists component (origin.roleOf component) := by
  let invariant : Pool α → Prop := fun pool =>
    pool.world.roleOf component = origin.roleOf component ∧
      ∀ entry ∈ pool.trace, entry.2.Lists component (origin.roleOf component)
  suffices kept : invariant (Pool.after program origin happenings) from kept.2
  refine Pool.run_induction _ (fun _ _ holds => holds) ?_ ⟨rfl, List.forall_mem_nil _⟩
  intro pool task action next _ _ holds
  obtain ⟨same, before⟩ := holds
  refine ⟨(pool.world.roleOf_perform action component).trans same, ?_⟩
  intro entry member
  rcases List.mem_append.mp member with earlier | new
  · exact before entry earlier
  · obtain rfl := List.mem_singleton.mp new
    cases action with
    | snapshot =>
        intro listed among
        exact same.symm.trans (World.liveAttachments_role among)
    | _ => trivial

section

variable {name : String} {origin : World} {component : ComponentId} {settings : ProducerSettings}
  {publication : Publication} {entries : List Done}

theorem Program.Leaves.calls_declare {α : Type} {program rest : Program α} {named : String → Prop}
    (leaves : program.Leaves entries rest) (declares : program.Uses (Action.Declares named)) :
    ∀ call ∈ callsFor component false entries, call.Declares named := by
  intro call member
  obtain ⟨entry, among, issues⟩ := issued_of_mem_callsFor member
  have allowed := leaves.allowed declares entry among
  rw [issues] at allowed
  exact allowed

/-- Whatever is left of publishing a message, what was called so far names its queue. -/
theorem ProducerCall.produce_names {rest : Program (Except Failure Unit)}
    (leaves : ((produce publication).program component settings).Leaves entries rest) :
    ∀ call ∈ callsFor component false entries, ∀ destination ∈ call.destination?,
      publication.message.resolve settings.queue = .ok destination := by
  intro call member destination names
  obtain ⟨_, told⟩ := produce_leaves (leaves.append (leaves_trace rest {}))
  obtain ⟨_, publishes⟩ := Producer.produce_leaves told
  obtain ⟨found, said, whole, course⟩ := Producer.publish_course publishes
  have within := (callsFor_isPrefix_append entries (rest.trace {})).subset member
  rw [whole, Producer.callsFor_publish] at within
  obtain ⟨answered, among, rfl⟩ := List.mem_map.mp within
  cases found with
  | none =>
      rw [course.1] at among
      cases among
  | some held => exact course.destination answered among destination names

/-- Where a producer with a channel is done with a message that leaves nothing of its queue, it named
a blank queue. -/
theorem ProducerCall.produce_blank {result : Except Failure Unit}
    (leaves : ((produce publication).program component settings).Leaves entries (.done result))
    (visible : Text.blank settings.queue = false)
    (erases : publication.message.Erases settings.queue)
    (finds : entries.any Done.finds = true) :
    ∃ call ∈ callsFor component false entries, ∃ destination ∈ call.destination?,
      Text.blank destination = true := by
  obtain ⟨_, told⟩ := produce_leaves leaves
  obtain ⟨_, publishes⟩ := Producer.produce_leaves told
  obtain ⟨found, said, rfl, course⟩ := Producer.publish_course publishes
  rw [Producer.callsFor_publish]
  cases found with
  | none =>
      rw [course.1] at finds
      cases finds
  | some held =>
      obtain ⟨answered, member, destination, names, blank⟩ := course.declares_blank visible erases
      exact ⟨answered.call, List.mem_map_of_mem member, destination, names, blank⟩

/-- What is called for a producer whose queue is not blank is about a blank destination only if a
message leaves nothing of the queue. -/
theorem Request.blank_destination {request : Request} {rest : Program (Except Failure Unit)}
    (leaves : (request.program name component settings).Leaves entries rest)
    (listed : ∀ live, ⟨.snapshot, live⟩ ∈ entries →
      ∀ role, (component, role) ∈ live → role = .producer settings)
    (visible : Text.blank settings.queue = false) {call : Call}
    (member : call ∈ callsFor component false entries) {destination : String}
    (names : destination ∈ call.destination?) (blank : Text.blank destination = true) :
    ∃ publication, request = .call (.produce publication) ∧
      publication.message.Erases settings.queue := by
  have declares_not : ¬ call.Declares settings.Announces := by
    intro declares
    rw [(declares.destination names).1, visible] at blank
    cases blank
  cases request with
  | restart => exact absurd (Connection.restart_calls leaves listed call member) declares_not
  | call asked =>
      cases asked with
      | start =>
          have starts := Component.start_declares component settings
          exact absurd (leaves.calls_declare starts call member) declares_not
      | stop =>
          have stops : (ProducerCall.program component settings .stop).Uses
              (Action.Declares settings.Announces) :=
            (Component.stop_declares component _).bind fun _ => uses_pure _
          exact absurd (leaves.calls_declare stops call member) declares_not
      | produce publication =>
          have resolves := ProducerCall.produce_names leaves call member destination names
          exact ⟨publication, rfl, Message.erases_iff.mpr ⟨destination, resolves, blank⟩⟩

theorem Role.visible_of_prepare {role : Role} (prepared : role.prepare = .ok ()) :
    Text.blank role.queue = false := by
  unfold prepare at prepared
  split at prepared
  · cases prepared
  · rename_i visible
    exact Bool.eq_false_iff.mpr visible

end

/-- A producer that could be prepared, asked to start, to stop and to publish while its connection is
restarted, in any interleaving. Whatever is called for it under a blank name is about a message that
leaves nothing of the configured queue: it has blank metadata for each reference there, and nothing
visible stands between them. Such a message is not refused: where the producer has a channel, a queue
with the blank name is declared for it. -/
theorem producer_destinations (name : String) (origin : World) (component : ComponentId)
    (settings : ProducerSettings)
    (plays : origin.roleOf component = some (.producer settings))
    (prepared : (Role.producer settings).prepare = .ok ())
    (happenings : List (Happening Request)) :
    let requests := Happening.demands happenings
    let pool := Pool.after (Request.program name component settings) origin happenings
    (∀ task, ∀ call ∈ callsFor component false (pool.doneBy task),
      ∀ destination ∈ call.destination?, Text.blank destination = true →
        ∃ publication, requests[task]? = some (.call (.produce publication)) ∧
          publication.message.Erases settings.queue) ∧
    (∀ task publication, requests[task]? = some (.call (.produce publication)) →
      publication.message.Erases settings.queue → (pool.result? task).isSome = true →
        (pool.doneBy task).any Done.finds = true →
          ∃ call ∈ callsFor component false (pool.doneBy task),
            ∃ destination ∈ call.destination?, Text.blank destination = true) ∧
    ∀ message : Message, message.Erases settings.queue ↔
      ∃ destination, message.resolve settings.queue = .ok destination ∧
        Text.blank destination = true := by
  intro requests pool
  have visible := Role.visible_of_prepare prepared
  refine ⟨?_, ?_, fun message => Message.erases_iff⟩
  · intro task call member destination names blank
    obtain ⟨entry, among, _⟩ := issued_of_mem_callsFor member
    obtain ⟨request, asked⟩ := Pool.after_asked _ _ among
    obtain ⟨rest, _, leaves⟩ := Pool.after_leaves _ _ asked
    have listed : ∀ live, ⟨.snapshot, live⟩ ∈ pool.doneBy task →
        ∀ role, (component, role) ∈ live → role = .producer settings := by
      intro live snapshot role lists
      have is := Pool.after_lists _ origin happenings component _ (Pool.mem_doneBy.mp snapshot) role
        lists
      exact (Option.some.inj (plays.symm.trans is)).symm
    obtain ⟨publication, rfl, erases⟩ :=
      Request.blank_destination leaves listed visible member names blank
    exact ⟨publication, asked, erases⟩
  · intro task publication asked erases ended finds
    obtain ⟨rest, present, leaves⟩ := Pool.after_leaves _ _ asked
    unfold Pool.result? at ended
    rw [present] at ended
    cases rest with
    | step action next => cases ended
    | done result => exact ProducerCall.produce_blank leaves visible erases finds

/-- Two messages for a producer that is restarted between them; nothing is left of the queue of the
first. -/
theorem outbox_destinations :
    let session := (Session.create "host" (.ok ())).after
      [.init, .producer "outbox" { queue := "%message{to}" }, .start "outbox"]
    let erasing : Publication := ⟨⟨[1], .ofList [("to", " ")]⟩, []⟩
    let plain : Publication := ⟨⟨[2], .ofList [("to", "work")]⟩, []⟩
    let requests : List Request := [.call (.produce erasing), .restart, .call (.produce plain)]
    let happenings := requests.map Happening.ask ++
      List.replicate 8 (.advance 0) ++ List.replicate 30 (.advance 1) ++
        List.replicate 8 (.advance 2)
    let pool := Pool.after (Request.program "host" 0 { queue := "%message{to}" }) session.world
      happenings
    pool.Finished ∧
      (∀ task, ∀ call ∈ callsFor 0 false (pool.doneBy task), ∀ destination ∈ call.destination?,
        Text.blank destination = true → task = 0) ∧
      ∃ call ∈ callsFor 0 false (pool.doneBy 0), ∃ destination ∈ call.destination?,
        Text.blank destination = true := by
  intro session erasing plain requests happenings pool
  have plays : session.world.roleOf 0 = some (.producer { queue := "%message{to}" }) := by
    with_unfolding_all rfl
  have prepared : (Role.producer { queue := "%message{to}" }).prepare = .ok () := by decide +kernel
  have finished : pool.Finished := by decide +kernel
  have finds : (pool.doneBy 0).any Done.finds = true := by decide +kernel
  have ended : (pool.result? 0).isSome = true := by decide +kernel
  have asked : Happening.demands happenings = requests := rfl
  obtain ⟨blanks, declares, erases⟩ := producer_destinations "host" session.world 0
    { queue := "%message{to}" } plays prepared happenings
  have erased : erasing.message.Erases "%message{to}" :=
    (erases erasing.message).mpr ⟨" ", by decide +kernel, by decide +kernel⟩
  have resolved : plain.message.resolve "%message{to}" = .ok "work" := by decide +kernel
  have visible : ¬ plain.message.Erases "%message{to}" := by
    intro erased
    obtain ⟨destination, resolves, blank⟩ := (erases plain.message).mp erased
    obtain rfl := Except.ok.inj (resolved.symm.trans resolves)
    revert blank
    decide +kernel
  refine ⟨finished, ?_, declares 0 erasing (congrArg (·[0]?) asked) erased ended finds⟩
  intro task call member destination names blank
  obtain ⟨publication, given, erased⟩ := blanks task call member destination names blank
  rw [asked] at given
  cases task with
  | zero => rfl
  | succ task =>
      cases task with
      | zero => cases given
      | succ task =>
          cases task with
          | zero =>
              cases given
              exact absurd erased visible
          | succ task => cases given

/-- A message for a queue that its metadata leaves blank: the producer is prepared and started, and
what it publishes is declared and published under the blank name, without a failure. -/
theorem blank_destination :
    let publication : Publication := ⟨⟨[1], .ofList [("to", " ")]⟩, []⟩
    let told := (Session.create "host" (.ok ())).answers
      [.init, .producer "outbox" { queue := "%message{to}" }, .prepare "outbox", .start "outbox",
        .produce "outbox" publication]
    told.drop 2 =
      [(.outcome (.ok ()), []),
        (.outcome (.ok ()),
          [.called (.createChannel 1), .returned (.createChannel 1) (.ok 1)]),
        (.produced ⟨.ok (), .ofList [("to", " ")]⟩,
          [.called (.declareQueue 1 " " ⟨true, false, false⟩),
            .returned (.declareQueue 1 " " ⟨true, false, false⟩) (.ok ()),
            .called (.publish 1 "" " " [1] none),
            .returned (.publish 1 "" " " [1] none) (.ok .notRequested)])] ∧
      Text.blank " " = true := by
  intro publication told
  exact ⟨by with_unfolding_all rfl, by decide +kernel⟩

end AmqpEndpoints
