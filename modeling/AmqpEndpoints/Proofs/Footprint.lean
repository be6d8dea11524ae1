import AmqpEndpoints.Fault
import AmqpEndpoints.Proofs.Discipline

/-!
# Footprints

What one action can change in a world, part by part, and which actions the programs of components,
connections and dispatchers are made of. A part that none of its actions can change survives the run
of a program.
-/

set_option autoImplicit false

namespace AmqpEndpoints

/-!
## What an action changes
-/

def Action.component? : Action → Option ComponentId
  | release component => some component
  | lock component => some component
  | unlock component => some component
  | held component => some component
  | takeHeld component => some component
  | hold component _ => some component
  | _ => none

def Done.events : Done → List Event
  | ⟨.issue call, _⟩ => [.called call]
  | ⟨.await call, reply⟩ => [.returned call reply]
  | ⟨.listen listener message context, _⟩ => [.message listener message context]
  | ⟨.endSpan span, _⟩ => [.span span]
  | _ => []

/-- What an action makes of the component that it is about. -/
def Action.effect : Action → Component → Component
  | release _ => ({ · with released := true })
  | lock _ => ({ · with locked := true })
  | unlock _ => ({ · with locked := false })
  | takeHeld _ => ({ · with held := none })
  | hold _ kept => ({ · with held := some kept })
  | _ => id

namespace Broker

theorem answer_log (broker : Broker) (call : Call) : (broker.answer call).2.log = broker.log := by
  cases call <;> simp only [answer] <;> try rfl
  all_goals split <;> rfl

@[simp] theorem respond_log (broker : Broker) (call : Call) :
    (broker.respond call).2.log = broker.log ++ [.returned call (broker.respond call).1] := by
  change (broker.answer call).2.log ++ _ = _
  rw [answer_log]
  rfl

end Broker

namespace World

variable (world : World) (action : Action)

theorem perform_log :
    (world.perform action).2.broker.log =
      world.broker.log ++ Done.events ⟨action, (world.perform action).1⟩ := by
  cases action with
  | await call => exact Broker.respond_log world.broker call
  | issue | listen | endSpan => rfl
  | spawn | cancel =>
      simp only [perform, setDispatcher, Done.events, List.append_nil]
      split <;> rfl
  | _ => simp [perform, Done.events, update, Broker.drawTag]

theorem perform_handle :
    (world.perform action).2.handle =
      match action with
      | .replaceHandle connection => some connection
      | .takeHandle => none
      | _ => world.handle := by
  cases action with
  | spawn | cancel =>
      simp only [perform, setDispatcher]
      split <;> rfl
  | _ => rfl

theorem perform_attachments :
    (world.perform action).2.attachments =
      match action with
      | .attach component => world.attachments ++ [component]
      | .snapshot => world.liveAttachments.map (·.1)
      | _ => world.attachments := by
  cases action with
  | spawn | cancel =>
      simp only [perform, setDispatcher]
      split <;> rfl
  | _ => rfl

theorem perform_lastFailure :
    (world.perform action).2.lastFailure =
      match action with
      | .note (.ok _) => none
      | .note (.error failure) => some failure
      | _ => world.lastFailure := by
  cases action with
  | note outcome => cases outcome <;> rfl
  | spawn | cancel =>
      simp only [perform, setDispatcher]
      split <;> rfl
  | _ => rfl

theorem perform_components :
    (world.perform action).2.components =
      action.component?.elim world.components fun component =>
        world.components.modify component action.effect := by
  cases action with
  | held component => exact (List.modify_id component world.components).symm
  | spawn | cancel =>
      simp only [perform, setDispatcher]
      split <;> rfl
  | _ => rfl

theorem perform_size :
    (world.perform action).2.components.length = world.components.length := by
  rw [perform_components]
  cases action.component? with
  | none => rfl
  | some changed => exact List.length_modify ..

theorem perform_component (component : ComponentId) :
    (world.perform action).2.components[component]? =
      (world.components[component]?).map fun found =>
        if action.component? = some component then action.effect found else found := by
  rw [perform_components]
  cases about : action.component? with
  | none => simp
  | some changed => simp [List.getElem?_modify]

theorem heldBy_perform (component : ComponentId) :
    (world.perform action).2.heldBy component =
      match action with
      | .takeHeld changed => if changed = component then none else world.heldBy component
      | .hold changed held =>
        if changed = component then (world.components[component]?).map fun _ => held
        else world.heldBy component
      | _ => world.heldBy component := by
  unfold heldBy
  rw [perform_component]
  cases found : world.components[component]? with
  | none => cases action <;> simp
  | some before => cases action <;> simp [Action.component?, Action.effect] <;> grind

end World

theorem Program.run_log {α : Type} (program : Program α) (world : World) :
    (program.run world).2.broker.log =
      world.broker.log ++ (program.trace world).flatMap Done.events := by
  induction program generalizing world with
  | done result => simp [trace]
  | step action next ih =>
      rw [run_step, ih, World.perform_log, trace, List.flatMap_cons, List.append_assoc]

theorem World.run_size {α : Type} (program : Program α) (world : World) :
    (program.run world).2.components.length = world.components.length := by
  induction program generalizing world with
  | done result => rfl
  | step action next ih => rw [Program.run_step, ih, perform_size]

/-!
## What programs are made of
-/

/-- Whether a call opens or closes a connection. All others are about channels. -/
def Call.ofConnection : Call → Bool
  | build => true
  | connect _ => true
  | closeConnection _ => true
  | _ => false

/-- Work on a channel, short of closing it. -/
def Action.Equips (channel : ChannelId) : Action → Prop
  | issue call => call.channel? = some channel ∧ call ≠ .closeChannel channel
  | await call => call.channel? = some channel ∧ call ≠ .closeChannel channel
  | drawTag => True
  | spawn .. => True
  | _ => False

def Action.GivesBack : Action → Prop
  | issue (.closeChannel _) => True
  | await (.closeChannel _) => True
  | cancel _ => True
  | _ => False

/-- What giving back and getting channels is made of. -/
def Action.OfChannels : Action → Prop
  | issue call => call.ofConnection = false
  | await call => call.ofConnection = false
  | readHandle => True
  | drawTag => True
  | spawn .. => True
  | cancel _ => True
  | _ => False

/-- What a component does: it works on channels and on what is its own. -/
def Action.OfComponent (component : ComponentId) : Action → Prop
  | lock owner => owner = component
  | unlock owner => owner = component
  | takeHeld owner => owner = component
  | hold owner _ => owner = component
  | action => action.OfChannels

/-- What publishing is made of: a component is locked, and work is done on the channel it holds. -/
def Action.Publishes (component : ComponentId) : Action → Prop
  | lock owner => owner = component
  | unlock owner => owner = component
  | held owner => owner = component
  | action => ∃ channel, action.Equips channel

def Action.OfConnection : Action → Prop
  | issue call => call.ofConnection = true
  | await call => call.ofConnection = true
  | replaceHandle _ => True
  | takeHandle => True
  | _ => False

def Action.OfDispatcher : Action → Prop
  | listen .. => True
  | endSpan _ => True
  | _ => False

namespace Program

variable {allowed : Action → Prop}

theorem uses_call {request : Call} (issued : allowed (.issue request))
    (awaited : allowed (.await request)) : (call request).Uses allowed :=
  (uses_act issued).bind fun _ => uses_act awaited

theorem uses_attempt {request : Call} (issued : allowed (.issue request))
    (awaited : allowed (.await request)) : (attempt request).run.Uses allowed :=
  uses_call issued awaited

theorem uses_closeChannel {channel : ChannelId} (issued : allowed (.issue (.closeChannel channel)))
    (awaited : allowed (.await (.closeChannel channel))) : (closeChannel channel).Uses allowed :=
  (uses_call issued awaited).bind fun _ => uses_pure ()

end Program

open Program

variable (channel : ChannelId)

variable {channel} in
theorem uses_equip {request : Call} (about : request.channel? = some channel)
    (notClosing : request ≠ .closeChannel channel) :
    (attempt request).run.Uses (Action.Equips channel) :=
  uses_attempt ⟨about, notClosing⟩ ⟨about, notClosing⟩

theorem QueueDeclaration.uses_declare (name : String) (declaration : QueueDeclaration) :
    (declaration.declare channel name).run.Uses (Action.Equips channel) :=
  uses_equip rfl nofun

theorem Exchange.uses_declare (exchange : Exchange) :
    (exchange.declare channel).run.Uses (Action.Equips channel) := by
  cases exchange with
  | standard => exact uses_pure _
  | explicit name kind durable =>
      rw [Exchange.declare]
      split
      · exact uses_pure _
      · exact uses_equip rfl nofun

theorem Producer.uses_setUp (settings : ProducerSettings) :
    (Producer.setUp settings channel).run.Uses (Action.Equips channel) := by
  have topology : ∀ reply : Unit, (do
      settings.exchange.declare channel
      if isExpression settings.queue then pure ()
      else settings.queueDeclaration.declare channel settings.queue :
        Attempt Unit).run.Uses (Action.Equips channel) := by
    intro _
    refine (Exchange.uses_declare channel settings.exchange).attempt_bind fun _ => ?_
    split
    · exact uses_pure _
    · exact QueueDeclaration.uses_declare channel settings.queue settings.queueDeclaration
  unfold Producer.setUp
  dsimp only
  split
  · exact Uses.attempt_bind (uses_equip rfl nofun) topology
  · exact topology ()

theorem Producer.uses_publishOn (settings : ProducerSettings) (pairs : List (String × String))
    (message : Message) :
    (Producer.publishOn settings channel pairs message).run.Uses (Action.Equips channel) := by
  have pureUses : ∀ {α : Type} (result : Except Failure α),
      (publishOn.liftExcept result).run.Uses (Action.Equips channel) :=
    fun result => uses_pure result
  unfold Producer.publishOn
  refine (pureUses _).attempt_bind fun destination => ?_
  have delivery : ∀ reply : Unit, (do
      let properties ← publishOn.liftExcept (propertiesFor settings pairs message)
      let confirmation ← attempt
        (.publish channel settings.exchange.name destination message.payload properties)
      if confirmation = .nack then
        throw (.publishing ("message to `" ++ destination ++ "` was nacked")) :
        Attempt Unit).run.Uses (Action.Equips channel) := by
    intro _
    refine (pureUses _).attempt_bind fun properties => ?_
    refine Uses.attempt_bind (uses_equip rfl nofun) fun confirmation => ?_
    split <;> exact uses_pure _
  dsimp only
  split
  · exact (QueueDeclaration.uses_declare channel destination _).attempt_bind delivery
  · exact delivery ()

theorem Consumer.uses_setUp (consumer : Consumer) :
    (consumer.setUp channel).run.Uses (Action.Equips channel) := by
  unfold Consumer.setUp
  refine (QueueDeclaration.uses_declare channel consumer.queue .standard).attempt_bind fun _ => ?_
  refine Uses.attempt_bind (uses_act trivial |>.bind fun _ => uses_pure _) fun tag => ?_
  refine Uses.attempt_bind (uses_equip rfl nofun) fun stream => ?_
  exact Uses.attempt_bind (uses_act trivial |>.bind fun _ => uses_pure _) fun _ => uses_pure _

theorem Role.uses_setUp (role : Role) : (role.setUp channel).run.Uses (Action.Equips channel) := by
  cases role with
  | producer settings =>
      exact (Producer.uses_setUp channel settings).attempt_bind fun _ => uses_pure _
  | consumer reader =>
      exact (Consumer.uses_setUp channel reader).attempt_bind fun _ => uses_pure _

theorem Role.setUp_follows {Phase : Type} {rule : Discipline Phase} {phase : Phase} (role : Role)
    (stays : ∀ action : Action, action.Equips channel →
      rule.allows phase action ∧ ∀ reply, rule.after phase action reply = phase) :
    (role.setUp channel).run.Follows rule phase fun outcome later =>
      later = phase ∧ ∀ held, outcome = .ok held → held.channel = channel := by
  cases role with
  | producer settings =>
      refine follows_attempt_bind.mpr
        (((Producer.uses_setUp channel settings).follows stays).imp fun outcome later same => ?_)
      cases outcome with
      | ok _ => exact ⟨same, fun held kept => by cases kept; rfl⟩
      | error failure => exact ⟨same, fun held kept => by cases kept⟩
  | consumer reader =>
      refine follows_attempt_bind.mpr
        (((Consumer.uses_setUp channel reader).follows stays).imp fun outcome later same => ?_)
      cases outcome with
      | ok stream => exact ⟨same, fun held kept => by cases kept; rfl⟩
      | error failure => exact ⟨same, fun held kept => by cases kept⟩

theorem Role.setUp_channel (role : Role) (world : World) {held : Held}
    (equipped : ((role.setUp channel).run.run world).1 = .ok held) : held.channel = channel := by
  have follows : (role.setUp channel).run.Follows (.only fun _ => True) () fun outcome _ =>
      ∀ held, outcome = .ok held → held.channel = channel :=
    (role.setUp_follows channel fun _ _ => ⟨trivial, fun _ => rfl⟩).imp fun _ _ => And.right
  obtain ⟨_, about, _⟩ := follows.run world (fun _ _ => True)
    (fun _ _ _ _ _ => ⟨trivial, trivial⟩) trivial
  exact about held equipped

/-!
## Components
-/

theorem Action.Equips.ofChannels {channel : ChannelId} {action : Action}
    (equips : action.Equips channel) : action.OfChannels := by
  cases action with
  | issue call | await call =>
      obtain ⟨about, _⟩ := equips
      cases call <;> first | rfl | cases about
  | drawTag | spawn => trivial
  | _ => exact equips.elim

theorem Action.GivesBack.ofChannels {action : Action} (about : action.GivesBack) :
    action.OfChannels := by
  cases action with
  | issue call | await call => cases call <;> first | rfl | exact about.elim
  | cancel => trivial
  | _ => exact about.elim

theorem Held.uses_giveBack (held : Held) : held.giveBack.Uses Action.GivesBack := by
  have closes : (closeChannel held.channel).Uses Action.GivesBack :=
    uses_closeChannel trivial trivial
  unfold Held.giveBack
  cases held.stream with
  | none => exact closes
  | some stream => exact Uses.bind (uses_act trivial) fun _ => closes

theorem uses_giveBack (held : Option Held) : (giveBack held).Uses Action.GivesBack := by
  cases held with
  | none => exact uses_pure ()
  | some held => exact held.uses_giveBack

theorem uses_openConnection : openConnection.run.Uses Action.OfChannels := by
  refine Uses.attempt_bind (Uses.bind (uses_act trivial) fun _ => uses_pure _) fun handle => ?_
  cases handle <;> exact uses_pure _

theorem Role.uses_acquire (role : Role) : role.acquire.run.Uses Action.OfChannels := by
  refine uses_openConnection.attempt_bind fun connection => ?_
  refine Uses.attempt_bind (uses_attempt rfl rfl) fun channel => ?_
  rw [ExceptT.run_tryCatch]
  refine ((Role.uses_setUp channel role).mono fun _ equips => equips.ofChannels).bind
    fun outcome => ?_
  cases outcome with
  | ok held => exact uses_pure _
  | error failure =>
      have closes : (closeChannel channel).Uses Action.OfChannels := uses_closeChannel rfl rfl
      exact Uses.attempt_bind (closes.bind fun _ => uses_pure _) fun _ => uses_pure _

/-- How a start ends: a component is given the channel that was acquired for it. -/
def Component.finish (component : ComponentId) : Except Failure Held → Program (Except Failure Unit)
  | .error failure => do
    act (.unlock component)
    return .error failure
  | .ok held => do
    act (.hold component held)
    act (.unlock component)
    return .ok ()

/-- What starts and stops begin with: a component is locked and gives back what it holds. -/
def Component.empty (component : ComponentId) : Program Unit := do
  act (.lock component)
  giveBack (← act (.takeHeld component))

theorem Component.start_eq (component : ComponentId) (role : Role) :
    Component.start component role = (do
      Component.empty component
      Component.finish component (← role.acquire.run)) := by
  unfold Component.start Component.empty
  simp only [LawfulMonad.bind_assoc]
  refine congrArg _ (funext fun _ => congrArg _ (funext fun held => ?_))
  refine congrArg _ (funext fun _ => congrArg _ (funext fun acquired => ?_))
  cases acquired <;> rfl

theorem Component.stop_eq (component : ComponentId) :
    Component.stop component = (do
      Component.empty component
      act (.unlock component)) := by
  unfold Component.stop Component.empty
  simp only [LawfulMonad.bind_assoc]

variable (component : ComponentId)

theorem Action.OfChannels.ofComponent {action : Action} (about : action.OfChannels) :
    action.OfComponent component := by
  cases action with
  | lock | unlock | takeHeld | hold => exact about.elim
  | _ => exact about

theorem Component.uses_empty : (Component.empty component).Uses (Action.OfComponent component) := by
  refine Uses.bind (uses_act rfl) fun _ => Uses.bind (uses_act rfl) fun held => ?_
  exact (uses_giveBack held).mono fun _ about => about.ofChannels.ofComponent component

theorem Component.uses_start (role : Role) :
    (Component.start component role).Uses (Action.OfComponent component) := by
  rw [Component.start_eq]
  refine (uses_empty component).bind fun _ => ?_
  refine (role.uses_acquire.mono fun _ about => about.ofComponent component).bind fun acquired => ?_
  cases acquired with
  | error failure => exact Uses.bind (uses_act rfl) fun _ => uses_pure _
  | ok held =>
      refine Uses.bind (uses_act rfl) fun _ => ?_
      exact Uses.bind (uses_act rfl) fun _ => uses_pure _

theorem Component.uses_stop : (Component.stop component).Uses (Action.OfComponent component) := by
  rw [Component.stop_eq]
  exact (uses_empty component).bind fun _ => uses_act rfl

theorem Action.Equips.publishes {channel : ChannelId} {action : Action}
    (equips : action.Equips channel) (component : ComponentId) : action.Publishes component := by
  cases action with
  | lock | unlock | held => exact equips.elim
  | _ => exact ⟨channel, equips⟩

theorem Producer.uses_produce (settings : ProducerSettings) (pairs : List (String × String))
    (message : Message) :
    (Producer.produce component settings pairs message).Uses (Action.Publishes component) := by
  have ending : ∀ outcome : Except Failure Unit, (do
      act (.unlock component)
      return outcome : Program (Except Failure Unit)).Uses (Action.Publishes component) :=
    fun outcome => Uses.bind (uses_act rfl) fun _ => uses_pure outcome
  refine Uses.bind ?_ fun outcome => uses_pure _
  refine Uses.bind (uses_act rfl) fun _ => Uses.bind (uses_act rfl) fun held => ?_
  cases held with
  | none => exact ending _
  | some held =>
      refine Uses.bind ?_ ending
      exact (Producer.uses_publishOn held.channel settings pairs message).mono
        fun _ equips => equips.publishes component

/-!
## Connections and dispatchers
-/

theorem uses_closeConnection (connection : ConnectionId) :
    (closeConnection connection).Uses Action.OfConnection :=
  Uses.bind (uses_call rfl rfl) fun _ => uses_pure ()

theorem Connection.uses_close : Connection.close.Uses Action.OfConnection := by
  refine Uses.bind (uses_act trivial) fun handle => ?_
  cases handle with
  | none => exact uses_pure ()
  | some connection => exact uses_closeConnection connection

theorem Connection.uses_init (name : String) :
    (Connection.init name).Uses Action.OfConnection := by
  refine Uses.bind (uses_call rfl rfl) fun built => ?_
  cases built with
  | error failure => exact uses_pure _
  | ok _ =>
      refine Uses.bind (uses_call rfl rfl) fun opened => ?_
      cases opened with
      | error failure => exact uses_pure _
      | ok connection =>
          refine Uses.bind (uses_act trivial) fun previous => ?_
          cases previous with
          | none => exact uses_pure _
          | some previous => exact (uses_closeConnection previous).bind fun _ => uses_pure _

theorem Dispatcher.uses_receive (dispatcher : Dispatcher) (propagator : Trace.Propagator)
    (item : Except Failure Delivery) :
    (dispatcher.receive propagator item).Uses Action.OfDispatcher := by
  cases item with
  | error failure => exact uses_pure ()
  | ok delivery => exact Uses.bind (uses_act trivial) fun outcome => uses_act trivial

theorem Connection.uses_stopAll (components : List (ComponentId × Role)) :
    (stopAll components).Uses fun action =>
      ∃ entry ∈ components, action.OfComponent entry.1 := by
  induction components with
  | nil => exact uses_pure ()
  | cons entry rest ih =>
      refine ((Component.uses_stop entry.1).mono fun action about => ?_).bind fun _ => ?_
      · exact ⟨entry, List.mem_cons_self .., about⟩
      · exact ih.mono fun action ⟨other, member, about⟩ =>
          ⟨other, List.mem_cons_of_mem _ member, about⟩

theorem Connection.uses_startAll (components : List (ComponentId × Role)) :
    (startAll components).Uses fun action =>
      ∃ entry ∈ components, action.OfComponent entry.1 := by
  induction components with
  | nil => exact uses_pure _
  | cons entry rest ih =>
      refine ((Component.uses_start entry.1 entry.2).mono fun action about => ?_).bind
        fun first => ?_
      · exact ⟨entry, List.mem_cons_self .., about⟩
      · refine (ih.mono fun action ⟨other, member, about⟩ => ?_).bind fun others => uses_pure _
        exact ⟨other, List.mem_cons_of_mem _ member, about⟩

/-- How a restart goes on after it tried to connect: components are started on a new connection. -/
def Connection.resume (components : List (ComponentId × Role)) :
    Except Failure Unit → Program (Except Failure Unit)
  | .error failure => do
    act .unlockRestart
    return .error failure
  | .ok _ => do
    let outcome ← startAll components
    act .unlockRestart
    return outcome

/-- What a restart does once it knows the live components. -/
def Connection.cycle (name : String) (components : List (ComponentId × Role)) :
    Program (Except Failure Unit) := do
  stopAll components
  close
  resume components (← init name)

theorem Connection.restart_eq (name : String) :
    Connection.restart name = (do
      act .lockRestart
      Connection.cycle name (← act .snapshot)) := by
  unfold Connection.restart Connection.cycle
  refine congrArg _ (funext fun _ => congrArg _ (funext fun live => ?_))
  refine congrArg _ (funext fun _ => congrArg _ (funext fun _ => ?_))
  refine congrArg _ (funext fun opened => ?_)
  cases opened <;> rfl

section

variable {Phase : Type} {rule : Discipline Phase} {idle : Phase}
  {components : List (ComponentId × Role)}

/-- Where every stop ends in the phase that it found, stopping one component after the other does. -/
theorem Connection.stopAll_returns
    (stops : ∀ entry ∈ components,
      (Component.stop entry.1).Follows rule idle fun _ later => later = idle) :
    (stopAll components).Follows rule idle fun _ later => later = idle := by
  induction components with
  | nil => exact rfl
  | cons entry rest ih =>
      obtain ⟨first, others⟩ := List.forall_mem_cons.mp stops
      exact first.bind fun _ => ih others

theorem Connection.startAll_returns
    (starts : ∀ entry ∈ components,
      (Component.start entry.1 entry.2).Follows rule idle fun _ later => later = idle) :
    (startAll components).Follows rule idle fun _ later => later = idle := by
  induction components with
  | nil => exact rfl
  | cons entry rest ih =>
      obtain ⟨first, others⟩ := List.forall_mem_cons.mp starts
      exact first.bind fun _ => (ih others).bind fun _ => rfl

theorem Connection.cycle_returns (name : String)
    (stops : ∀ entry ∈ components,
      (Component.stop entry.1).Follows rule idle fun _ later => later = idle)
    (closes : close.Follows rule idle fun _ later => later = idle)
    (connects : (init name).Follows rule idle fun _ later => later = idle)
    (starts : ∀ entry ∈ components,
      (Component.start entry.1 entry.2).Follows rule idle fun _ later => later = idle)
    (unlocks : (act .unlockRestart).Follows rule idle fun _ later => later = idle) :
    (cycle name components).Follows rule idle fun _ later => later = idle := by
  refine (stopAll_returns stops).bind fun _ => closes.bind fun _ => connects.bind fun opened => ?_
  cases opened with
  | error failure => exact unlocks.bind fun _ => rfl
  | ok _ => exact (startAll_returns starts).bind fun _ => unlocks.bind fun _ => rfl

end

/-- What a restart of components is made of. -/
def Action.OfCycle (components : List (ComponentId × Role)) : Action → Prop
  | unlockRestart => True
  | action => action.OfConnection ∨ ∃ entry ∈ components, action.OfComponent entry.1

theorem Connection.uses_cycle (name : String) (components : List (ComponentId × Role)) :
    (Connection.cycle name components).Uses (Action.OfCycle components) := by
  have ofConnection : ∀ action : Action, action.OfConnection → action.OfCycle components := by
    intro action about
    cases action with
    | unlockRestart => trivial
    | _ => exact .inl about
  have ofComponents : ∀ action : Action, (∃ entry ∈ components, action.OfComponent entry.1) →
      action.OfCycle components := by
    intro action about
    cases action with
    | unlockRestart => trivial
    | _ => exact .inr about
  refine ((uses_stopAll components).mono ofComponents).bind fun _ => ?_
  refine (uses_close.mono ofConnection).bind fun _ => ?_
  refine ((uses_init name).mono ofConnection).bind fun opened => ?_
  cases opened with
  | error failure => exact Uses.bind (uses_act trivial) fun _ => uses_pure _
  | ok _ =>
      refine ((uses_startAll components).mono ofComponents).bind fun outcome => ?_
      exact Uses.bind (uses_act trivial) fun _ => uses_pure outcome

theorem Action.OfComponent.component_eq {component other : ComponentId} {action : Action}
    (about : action.OfComponent component) (touched : action.component? = some other) :
    other = component := by
  cases action with
  | lock | unlock | takeHeld | hold => exact (Option.some.inj touched).symm.trans about
  | release | held => exact about.elim
  | _ => cases touched

theorem Action.OfCycle.mem_of_component {components : List (ComponentId × Role)} {action : Action}
    {component : ComponentId} (about : action.OfCycle components)
    (touched : action.component? = some component) : component ∈ components.map (·.1) := by
  have ofSome : action.OfConnection ∨ ∃ entry ∈ components, action.OfComponent entry.1 := by
    cases action with
    | unlockRestart => cases touched
    | _ => exact about
  obtain ofConnection | ⟨entry, member, ofComponent⟩ := ofSome
  · cases action <;> first | exact ofConnection.elim | cases touched
  · rw [ofComponent.component_eq touched]
    exact List.mem_map_of_mem member

theorem Action.OfComponent.handle_eq {component : ComponentId} {action : Action}
    (about : action.OfComponent component) (world : World) :
    (world.perform action).2.handle = world.handle := by
  rw [World.perform_handle]
  cases action with
  | replaceHandle | takeHandle => exact about.elim
  | _ => rfl

theorem Connection.stopAll_handle (components : List (ComponentId × Role)) (world : World) :
    ((stopAll components).run world).2.handle = world.handle :=
  (uses_stopAll components).run_eq World.handle (fun _ ⟨_, _, about⟩ => about.handle_eq) world

theorem Connection.startAll_handle (components : List (ComponentId × Role)) (world : World) :
    ((startAll components).run world).2.handle = world.handle :=
  (uses_startAll components).run_eq World.handle (fun _ ⟨_, _, about⟩ => about.handle_eq) world

end AmqpEndpoints
