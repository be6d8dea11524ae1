import AmqpEndpoints.Proofs.Channels
import AmqpEndpoints.Proofs.RestartCourse

/-!
# The protocol of channels

What is said on each channel, after any commands and whatever failed. Every operation on a world
leaves its channels in order: a start closes what its component had and sets up one channel, a stop
closes it, publishing speaks on it, and a restart is made of stops and starts. Nothing else is heard
on a channel.
-/

set_option autoImplicit false

namespace AmqpEndpoints

open Program

/-!
## Programs of components
-/

/-- What is true of the channels of a world between programs. -/
def World.Orderly (world : World) : Prop :=
  world.Conversed world.hands

theorem World.hands_eq {world after : World}
    (same : ∀ component, after.heldBy component = world.heldBy component) :
    after.hands = world.hands :=
  funext fun component => congrArg (Option.map _) (same component)

theorem Action.staysOn_none_of_component {action : Action}
    (about : action.component?.isSome) : action.StaysOn none := by
  cases action with
  | issue | await => cases about
  | _ => exact ⟨nofun, fun _ _ => trivial⟩

theorem Component.finish_staysOn (component : ComponentId) (acquired : Except Failure Held) :
    (Component.finish component acquired).Uses (Action.StaysOn none) := by
  cases acquired with
  | error failure =>
      exact Uses.bind (uses_act (Action.staysOn_none_of_component rfl)) fun _ => uses_pure _
  | ok held =>
      refine Uses.bind (uses_act (Action.staysOn_none_of_component rfl)) fun _ => ?_
      exact Uses.bind (uses_act (Action.staysOn_none_of_component rfl)) fun _ => uses_pure _

theorem Producer.produce_run (component : ComponentId) (settings : ProducerSettings)
    (pairs : List (String × String)) (message : Message) (world : World) :
    ((produce component settings pairs message).run world).2 =
      match world.heldBy component with
      | none => ((world.perform (.lock component)).2.perform (.unlock component)).2
      | some held =>
        (((publishOn settings held.channel pairs message).run.run
          (world.perform (.lock component)).2).2.perform (.unlock component)).2 := by
  have reply : ((act (.held component)).run ((act (.lock component)).run world).2).1 =
      world.heldBy component := World.heldBy_perform world (.lock component) component
  unfold produce publish
  simp only [run_bind, run_pure]
  rw [reply]
  cases world.heldBy component with
  | none => rfl
  | some held =>
      dsimp only
      rw [run_bind]
      rfl

namespace World.Orderly

variable {world : World} {component : ComponentId}

theorem run {α : Type} {program : Program α} (orderly : world.Orderly)
    (leaves : program.Uses Action.LeavesChannels) : (program.run world).2.Orderly := by
  have same : (program.run world).2.hands = world.hands :=
    hands_eq fun component => leaves.run_eq (·.heldBy component)
      (fun _ leaves world => leaves.heldBy_eq world component) world
  unfold Orderly
  rw [same]
  exact Conversed.run orderly (leaves.mono fun _ leaves => leaves.staysOn none)

theorem empty (orderly : world.Orderly) {role : Role} (is : world.roleOf component = some role) :
    ((Component.empty component).run world).2.Conversed
      (Function.update world.hands component none) := by
  have locks : (act (.lock component)).Uses (Action.StaysOn none) :=
    uses_act (Action.staysOn_none_of_component rfl)
  have takes : (act (.takeHeld component)).Uses (Action.StaysOn none) :=
    uses_act (Action.staysOn_none_of_component rfl)
  have taken := (Conversed.run orderly locks).run takes
  have still := (roleOf_run (act (.takeHeld component)) _ component).trans
    ((roleOf_run (act (.lock component)) world component).trans is)
  have reply : ((world.perform (.lock component)).2.perform (.takeHeld component)).1 =
      world.heldBy component := World.heldBy_perform world (.lock component) component
  unfold Component.empty
  rw [run_bind, run_bind]
  change ((giveBack ((world.perform (.lock component)).2.perform (.takeHeld component)).1).run
    _).2.Conversed _
  rw [reply]
  cases has : world.heldBy component with
  | none =>
      have idle : world.hands component = none := congrArg (Option.map _) has
      rw [← idle, Function.update_eq_self]
      exact taken
  | some held =>
      have same : world.hands component = some held.channel := congrArg (Option.map _) has
      exact taken.giveBack still same

theorem start (orderly : world.Orderly) {role : Role} (is : world.roleOf component = some role) :
    ((Component.start component role).run world).2.Orderly := by
  have still := (roleOf_run (Component.empty component) world component).trans is
  have acquired := (orderly.empty is).acquire still (Function.update_self ..)
  rw [Function.update_idem] at acquired
  have same : ((Component.start component role).run world).2.hands =
      Function.update world.hands component
        ((Component.acquired component role world).1.toOption.map (·.channel)) := by
    funext other
    by_cases here : other = component
    · subst here
      rw [Function.update_self, hands, Component.start_heldBy role (lt_of_roleOf is)]
    · rw [Function.update_of_ne here]
      exact congrArg (Option.map _) <| (Component.uses_start component role).run_eq (·.heldBy other)
        (fun _ about world => about.heldBy_eq here world) world
  unfold Orderly
  rw [same, Component.start_run]
  exact acquired.run (Component.finish_staysOn component _)

theorem stop (orderly : world.Orderly) {role : Role} (is : world.roleOf component = some role) :
    ((Component.stop component).run world).2.Orderly := by
  have same : ((Component.stop component).run world).2.hands =
      Function.update world.hands component none := by
    funext other
    by_cases here : other = component
    · subst here
      rw [Function.update_self, hands, Component.stop_heldBy]
      rfl
    · rw [Function.update_of_ne here]
      exact congrArg (Option.map _) (Component.stop_heldBy_of_ne world here)
  unfold Orderly
  rw [same, Component.stop_eq, run_bind]
  exact (orderly.empty is).run (uses_act (Action.staysOn_none_of_component rfl))

theorem produce (orderly : world.Orderly) {settings : ProducerSettings}
    (is : world.roleOf component = some (.producer settings)) (publication : Publication) :
    ((Producer.produce component settings publication.context publication.message).run
      world).2.Orderly := by
  have locks : (act (.lock component)).Uses (Action.StaysOn none) :=
    uses_act (Action.staysOn_none_of_component rfl)
  have unlocks : (act (.unlock component)).Uses (Action.StaysOn none) :=
    uses_act (Action.staysOn_none_of_component rfl)
  have same : ((Producer.produce component settings publication.context
      publication.message).run world).2.hands = world.hands := by
    refine hands_eq fun other => ?_
    refine (Producer.uses_produce component settings publication.context
      publication.message).run_eq (·.heldBy other) (fun action publishes world => ?_) world
    rw [heldBy_perform]
    cases action with
    | takeHeld | hold => exact publishes.elim fun _ equips => equips.elim
    | _ => rfl
  have locked := Conversed.run orderly locks
  unfold Orderly
  rw [same, Producer.produce_run]
  cases has : world.heldBy component with
  | none => exact locked.run unlocks
  | some held =>
      have holds : world.hands component = some held.channel := congrArg (Option.map _) has
      have still := (roleOf_run (act (.lock component)) world component).trans is
      obtain ⟨said, heard, opened, owns⟩ := locked.opened still holds
      obtain ⟨more, whole, told, conducted⟩ :=
        (Producer.publishOn_hears settings publication
          (((act (.lock component)).run world).2.heardOn held.channel)).heard
      refine Conversed.run ?_ unlocks
      refine locked.run_on (locked.known component _ holds) ?_ (fun _ _ _ => Iff.rfl) ?_
      · exact (Producer.uses_publishOn held.channel settings _ _).mono fun _ equips =>
          equips.staysOn
      · refine ⟨component, .producer settings, said ++ more, ?_, ?_, .inl ⟨owns, ?_⟩⟩
        · exact (roleOf_run _ _ component).trans still
        · rw [told, heard, List.flatMap_append]
        · exact opened.snoc ⟨publication, whole, conducted⟩

end World.Orderly

/-!
## Restarts
-/

theorem Action.OfConnection.leavesChannels {action : Action} (about : action.OfConnection) :
    action.LeavesChannels := by
  cases action with
  | issue call | await call => exact about
  | replaceHandle | takeHandle => trivial
  | _ => exact about.elim

theorem Action.OfDispatcher.leavesChannels {action : Action} (about : action.OfDispatcher) :
    action.LeavesChannels := by
  cases action with
  | listen | endSpan => trivial
  | _ => exact about.elim

namespace World.Orderly

variable {world : World} (components : List (ComponentId × Role))

theorem stopAll (orderly : world.Orderly)
    (are : ∀ entry ∈ components, world.roleOf entry.1 = some entry.2) :
    ((Connection.stopAll components).run world).2.Orderly := by
  induction components generalizing world with
  | nil => exact orderly
  | cons entry rest ih =>
      obtain ⟨first, others⟩ := List.forall_mem_cons.mp are
      rw [Connection.stopAll, run_bind]
      refine ih (orderly.stop first) fun other member => ?_
      exact (roleOf_run (Component.stop entry.1) world other.1).trans (others other member)

theorem startAll (orderly : world.Orderly)
    (are : ∀ entry ∈ components, world.roleOf entry.1 = some entry.2) :
    ((Connection.startAll components).run world).2.Orderly := by
  induction components generalizing world with
  | nil => exact orderly
  | cons entry rest ih =>
      obtain ⟨first, others⟩ := List.forall_mem_cons.mp are
      rw [Connection.startAll_run_cons]
      refine ih (orderly.start first) fun other member => ?_
      exact (roleOf_run (Component.start entry.1 entry.2) world other.1).trans (others other member)

theorem cycle (orderly : world.Orderly) (name : String)
    (are : ∀ entry ∈ components, world.roleOf entry.1 = some entry.2) :
    ((Connection.cycle name components).run world).2.Orderly := by
  have unlocks : (act .unlockRestart).Uses Action.LeavesChannels := uses_act trivial
  have closed := (orderly.stopAll components are).run
    (Connection.uses_close.mono fun _ about => about.leavesChannels)
  have tried := closed.run ((Connection.uses_init name).mono fun _ about => about.leavesChannels)
  have still := Connection.tried_roles name are
  rw [Connection.cycle_run]
  change ((Connection.init name).run (Connection.cleared components world)).2.Orderly at tried
  generalize (Connection.init name).run (Connection.cleared components world) = opened at *
  obtain ⟨outcome, after⟩ := opened
  cases outcome with
  | error failure => exact tried.run unlocks
  | ok _ =>
      dsimp only
      rw [Connection.resume, run_bind]
      exact (tried.startAll components still).run unlocks

theorem restart (orderly : world.Orderly) (name : String) :
    ((Connection.restart name).run world).2.Orderly := by
  have locks : (act .lockRestart).Uses Action.LeavesChannels := uses_act trivial
  have lists : (act .snapshot).Uses Action.LeavesChannels := uses_act trivial
  have listed : (Connection.listed world).Orderly := (orderly.run locks).run lists
  rw [Connection.restart_run]
  refine listed.cycle _ name fun entry member => ?_
  exact (roleOf_run (do act .lockRestart; act .snapshot) world entry.1).trans
    (liveAttachments_role member)

theorem make (orderly : world.Orderly) (role : Role) : (world.addComponent role).2.Orderly := by
  have same : (world.addComponent role).2.hands = world.hands :=
    hands_eq (world.addComponent_heldBy role)
  unfold Orderly
  rw [same]
  refine Conversed.keep orderly orderly.numbered (fun component other is => ?_) rfl fun _ => rfl
  rw [roleOf, addComponent, List.getElem?_append_left (lt_of_roleOf is)]
  exact is

theorem move (orderly : world.Orderly) (name : String) {move : Move} (fits : move.Fits world) :
    (world.move name move).Orderly := by
  cases move with
  | script outcomes =>
      exact Conversed.keep orderly orderly.numbered (fun _ _ => id) rfl fun _ => rfl
  | make role => exact orderly.make role
  | attach component | release component | cancel stream => exact orderly.run (uses_act trivial)
  | start component role => exact orderly.start fits
  | stop component =>
      obtain ⟨role, is⟩ := Option.isSome_iff_exists.mp fits
      exact orderly.stop is
  | produce component settings publication => exact orderly.produce fits publication
  | receive dispatcher propagator item =>
      exact orderly.run ((dispatcher.uses_receive propagator item).mono fun _ about => about.leavesChannels)
  | init => exact orderly.run ((Connection.uses_init name).mono fun _ about => about.leavesChannels)
  | close => exact orderly.run (Connection.uses_close.mono fun _ about => about.leavesChannels)
  | restart => exact orderly.restart name
  | repair =>
      change ((Fault.restart name).run world).2.Orderly
      rw [Fault.restart, run_bind]
      exact (orderly.restart name).run (Uses.bind (uses_act trivial) fun _ => uses_pure _)

theorem reaches {name : String} {made : List Move} {later : World} (orderly : world.Orderly)
    (reaches : world.Reaches name made later) : later.Orderly := by
  induction reaches with
  | refl => exact orderly
  | move _ fits ih => exact ih.move name fits

end World.Orderly

/-!
## Sessions
-/

theorem Session.after_orderly (name : String) (endpoint : Except Failure Unit)
    (commands : List Command) :
    ((Session.create name endpoint).after commands).world.Orderly := by
  refine World.Orderly.reaches ?_ (Session.after_reaches _ commands)
  exact ⟨rfl, fun component channel has => by simp [World.hands, World.heldBy, create] at has,
    fun _ _ => rfl, fun channel member => by cases member⟩

/-- After any commands, whatever failed on the way: nothing was said on a channel that was not
handed out. One that was handed out is of one component. While the component holds it, it was set up
as the component plans and then used, one group of calls for each message. Once nobody holds it,
that was followed by one close, or setting it up failed and exactly the close came after that. A
message was published only when its queue and its exchange had been declared on the channel. -/
theorem channel_conversation (name : String) (endpoint : Except Failure Unit)
    (commands : List Command) (channel : ChannelId) :
    let world := ((Session.create name endpoint).after commands).world
    (channel ∉ world.handedOut → world.heardOn channel = []) ∧
      (channel ∈ world.handedOut → ∃ component role said,
        world.roleOf component = some role ∧
          world.heardOn channel = said.flatMap Answered.events ∧
          ((∀ other, world.Holds other channel ↔ other = component) ∧ role.Opened channel said ∨
            (∀ other, ¬world.Holds other channel) ∧ role.Closed channel said) ∧
          AllDeclared [] said) := by
  intro world
  have orderly : world.Orderly := Session.after_orderly name endpoint commands
  refine ⟨orderly.silent channel, fun out => ?_⟩
  obtain ⟨component, role, said, is, heard, kept⟩ := orderly.spoke channel out
  refine ⟨component, role, said, is, heard, kept, ?_⟩
  rcases kept with ⟨_, opened⟩ | ⟨_, closed⟩
  · exact opened.allDeclared
  · exact closed.allDeclared

/-- The channel of a producer that published a message to the queue which the message names. -/
theorem conversation_of_started_producer :
    let world := ((Session.create "host" (.ok ())).after
      [.init, .producer "outbox" { queue := "%message{to}" }, .start "outbox",
        .produce "outbox" ⟨⟨[1], .ofList [("to", "work")]⟩, []⟩]).world
    1 ∈ world.handedOut ∧ ∃ component role said,
      world.roleOf component = some role ∧ world.heardOn 1 = said.flatMap Answered.events ∧
        ((∀ other, world.Holds other 1 ↔ other = component) ∧ role.Opened 1 said ∨
          (∀ other, ¬world.Holds other 1) ∧ role.Closed 1 said) ∧
        AllDeclared [] said := by
  intro world
  have out : 1 ∈ world.handedOut := by decide +kernel
  exact ⟨out, (channel_conversation "host" (.ok ())
    [.init, .producer "outbox" { queue := "%message{to}" }, .start "outbox",
      .produce "outbox" ⟨⟨[1], .ofList [("to", "work")]⟩, []⟩] 1).2 out⟩

end AmqpEndpoints
