import Mathlib.Data.List.Permutation
import AmqpEndpoints.Proofs.Components
import AmqpEndpoints.Proofs.RestartCourse

/-!
# Lifecycle calls

Components are started and stopped by commands and by restarts. The last such call decides whether a
component holds a channel: it does exactly after a start that succeeded.
-/

set_option autoImplicit false

namespace AmqpEndpoints

open Program

/-- A call by which a component gets a channel or gives it back. -/
inductive LifecycleCall where
  | start (component : ComponentId) (outcome : Except Failure Unit)
  | stop (component : ComponentId)

def LifecycleCall.component : LifecycleCall → ComponentId
  | start component _ => component
  | stop component => component

def RestartStep.call? : RestartStep → Option LifecycleCall
  | stopped component => some (.stop component)
  | started component outcome => some (.start component outcome)
  | _ => none

/-- Whether a move starts or stops components. -/
def Move.isLifecycle : Move → Bool
  | start .. | stop _ | restart | repair => true
  | _ => false

/-- The lifecycle calls that a move makes in a world, in order. Those of a restart are among its
steps. -/
inductive Move.Makes (name : String) (world : World) : Move → List LifecycleCall → Prop where
  | start {component : ComponentId} {role : Role} {outcome : Except Failure Unit}
      (gives : ((Component.start component role).run world).1 = outcome) :
      Makes name world (.start component role) [.start component outcome]
  | stop (component : ComponentId) : Makes name world (.stop component) [.stop component]
  | restart {steps : List RestartStep} (unfolds : (Connection.restart name).Unfolds world steps) :
      Makes name world .restart (steps.filterMap RestartStep.call?)
  | repair {steps : List RestartStep} (unfolds : (Connection.restart name).Unfolds world steps) :
      Makes name world .repair (steps.filterMap RestartStep.call?)
  | other {move : Move} (other : move.isLifecycle = false) : Makes name world move []

/-- The lifecycle calls that moves make, one after the other. -/
inductive World.Makes (name : String) : World → List Move → List LifecycleCall → Prop where
  | nil (world : World) : Makes name world [] []
  | cons {world : World} {move : Move} {moves : List Move} {calls later : List LifecycleCall}
      (first : move.Makes name world calls) (rest : Makes name (world.move name move) moves later) :
      Makes name world (move :: moves) (calls ++ later)

theorem Move.exists_makes (name : String) (world : World) (move : Move) :
    ∃ calls, move.Makes name world calls := by
  obtain ⟨steps, unfolds, _⟩ := Connection.restart_steps name world
  cases move with
  | start component role => exact ⟨_, .start rfl⟩
  | stop component => exact ⟨_, .stop component⟩
  | restart => exact ⟨_, .restart unfolds⟩
  | repair => exact ⟨_, .repair unfolds⟩
  | _ => exact ⟨[], .other rfl⟩

theorem World.exists_makes (name : String) (world : World) (moves : List Move) :
    ∃ calls, world.Makes name moves calls := by
  induction moves generalizing world with
  | nil => exact ⟨[], .nil world⟩
  | cons move rest ih =>
      obtain ⟨calls, first⟩ := move.exists_makes name world
      obtain ⟨later, others⟩ := ih (world.move name move)
      exact ⟨_, .cons first others⟩

/-!
## Other moves
-/

theorem World.move_heldBy (world : World) (name : String) {move : Move}
    (other : move.isLifecycle = false) (component : ComponentId) :
    (world.move name move).heldBy component = world.heldBy component := by
  cases move with
  | script => rfl
  | make role => exact world.addComponent_heldBy role component
  | attach | release | cancel => exact heldBy_perform ..
  | produce owner settings publication =>
      refine (Producer.uses_produce owner settings _ _).run_eq (·.heldBy component) ?_ world
      intro action about world
      rw [heldBy_perform]
      cases action with
      | takeHeld | hold => exact about.elim fun _ equips => equips.elim
      | _ => rfl
  | receive dispatcher propagator item =>
      refine (dispatcher.uses_receive propagator item).run_eq (·.heldBy component) ?_ world
      intro action about world
      rw [heldBy_perform]
      cases action with
      | takeHeld | hold => exact about.elim
      | _ => rfl
  | init =>
      exact (Connection.uses_init name).run_eq (·.heldBy component)
        (fun _ about world => about.heldBy_eq world component) world
  | close =>
      exact Connection.uses_close.run_eq (·.heldBy component)
        (fun _ about world => about.heldBy_eq world component) world
  | start | stop | restart | repair => cases other

/-!
## The last call
-/

/-- Some components hold channels: those whose last call was a start that succeeded. -/
def World.ToldBy (calls : List LifecycleCall) (world : World) : Prop :=
  ∀ component, (world.heldBy component).isSome ↔
    (calls.filter (·.component == component)).getLast? = some (.start component (.ok ()))

namespace World.ToldBy

variable {calls more : List LifecycleCall} {world after : World} {component : ComponentId}

theorem same (told : world.ToldBy calls)
    (same : ∀ component, after.heldBy component = world.heldBy component) : after.ToldBy calls :=
  fun component => by rw [same, told component]

/-- A call changes what its component holds, and says what that is. -/
theorem call (told : world.ToldBy calls) {call : LifecycleCall}
    (others : ∀ other, other ≠ call.component → after.heldBy other = world.heldBy other)
    (own : (after.heldBy call.component).isSome ↔ call = .start call.component (.ok ())) :
    after.ToldBy (calls ++ [call]) := by
  intro component
  by_cases here : call.component = component
  · subst here
    simp [own]
  · rw [others component (Ne.symm here), told component]
    simp [here]

theorem stop (told : world.ToldBy calls) (component : ComponentId) :
    ((Component.stop component).run world).2.ToldBy (calls ++ [.stop component]) := by
  refine told.call (fun other different => Component.stop_heldBy_of_ne world different) ?_
  simp [LifecycleCall.component, Component.stop_heldBy]

theorem start (told : world.ToldBy calls) {role : Role}
    (is : world.roleOf component = some role) :
    ((Component.start component role).run world).2.ToldBy
      (calls ++ [.start component ((Component.start component role).run world).1]) := by
  refine told.call (fun other different => ?_) ?_
  · exact (Component.uses_start component role).run_eq (·.heldBy other)
      (fun _ about world => about.heldBy_eq different world) world
  · simp only [LifecycleCall.component]
    rw [Component.start_heldBy role (lt_of_roleOf is), Component.start_result]
    cases (Component.acquired component role world).1 <;> simp [Except.toOption, Except.map]

/-- Work on the connection leaves alone what components hold. -/
theorem connection {α : Type} (told : world.ToldBy calls) {program : Program α}
    (uses : program.Uses Action.OfConnection) : (program.run world).2.ToldBy calls :=
  told.same fun component => uses.run_eq (·.heldBy component)
    (fun _ about world => about.heldBy_eq world component) world

theorem step (told : world.ToldBy calls) {step : RestartStep} {entries : List Done}
    (takes : step.Takes world entries after) : after.ToldBy (calls ++ step.call?.toList) := by
  have silent : after.ToldBy calls → after.ToldBy (calls ++ []) := by
    rw [List.append_nil]
    exact id
  cases takes with
  | stopped component => exact told.stop component
  | started is => exact told.start is
  | closing connection => exact silent (told.connection (uses_closeConnection connection))
  | built => exact silent (told.connection (uses_call rfl rfl))
  | connected name => exact silent (told.connection (uses_call rfl rfl))

theorem unfolds (told : world.ToldBy calls) {steps : List RestartStep} {entries : List Done}
    (unfolds : world.Unfolds steps entries after) :
    after.ToldBy (calls ++ steps.filterMap RestartStep.call?) := by
  induction unfolds generalizing calls with
  | nil => simpa using told
  | @step _ _ _ step steps _ _ takes _ ih =>
      have parts : (step :: steps).filterMap RestartStep.call? =
          step.call?.toList ++ steps.filterMap RestartStep.call? := by
        rw [List.filterMap_cons]
        cases step.call? <;> rfl
      rw [parts, ← List.append_assoc]
      exact ih (told.step takes)
  | @own world _ action _ _ own _ ih =>
      refine ih (told.same fun component => ?_)
      rw [heldBy_perform]
      cases action <;> first | rfl | cases own

theorem move (told : world.ToldBy calls) {name : String} {move : Move} (fits : move.Fits world)
    (makes : move.Makes name world more) : (world.move name move).ToldBy (calls ++ more) := by
  cases makes with
  | start gives =>
      subst gives
      exact told.start fits
  | stop component => exact told.stop component
  | restart unfolds => exact told.unfolds unfolds
  | repair unfolds =>
      -- That the outcome is noted afterwards touches no component.
      change ((Fault.restart name).run world).2.ToldBy _
      rw [Fault.restart, run_bind]
      exact (told.unfolds unfolds).same fun component => heldBy_perform _ (.note _) component
  | other other =>
      rw [List.append_nil]
      exact told.same (world.move_heldBy name other)

theorem moves (told : world.ToldBy calls) {name : String} {moves : List Move}
    (reaches : world.Reaches name moves after) (makes : world.Makes name moves more) :
    after.ToldBy (calls ++ more) := by
  induction makes generalizing calls with
  | nil world =>
      obtain rfl := reaches.eq_of_nil
      rwa [List.append_nil]
  | cons first _ ih =>
      obtain ⟨fits, later⟩ := reaches.of_cons
      rw [← List.append_assoc]
      exact ih (told.move fits first) later

end World.ToldBy

/-!
## Sessions
-/

/-- After any commands, whatever failed on the way: a channel that was handed out is held by one
component and was never closed, or is held by none and was closed once. No component holds two
channels, and one holds a channel exactly if the last call to start or stop it was a start that
succeeded. -/
theorem channel_held_or_closed_once (name : String) (endpoint : Except Failure Unit)
    (commands : List Command) :
    let session := Session.create name endpoint
    let world := (session.after commands).world
    (∀ channel ∈ world.handedOut,
      Xor ((∃! component, world.Holds component channel) ∧ world.closings.count channel = 0)
        ((∀ component, ¬world.Holds component channel) ∧ world.closings.count channel = 1)) ∧
      (∀ component first second, world.Holds component first → world.Holds component second →
        first = second) ∧
      (∃ calls, session.world.Makes name (session.history commands) calls) ∧
      ∀ calls, session.world.Makes name (session.history commands) calls → ∀ component,
        (∃ channel, world.Holds component channel) ↔
          (calls.filter (·.component == component)).getLast? = some (.start component (.ok ())) := by
  intro session world
  have settled : world.Settled := Session.after_settled name endpoint commands
  have balanced : world.handedOut.Perm (world.holdings ++ world.closings) := settled.owned.balanced
  -- No number is given twice, so no channel is on both sides of the balance, or twice on one.
  have apart := List.nodup_append.mp (balanced.nodup settled.numbered.nodup)
  refine ⟨fun channel out => ?_, fun component first second left right => ?_,
    World.exists_makes name _ _, fun calls makes component => ?_⟩
  · rcases List.mem_append.mp (balanced.mem_iff.mp out) with held | closed
    · obtain ⟨component, holds⟩ := World.mem_holdings_iff.mp held
      have never : channel ∉ world.closings :=
        fun closed => apart.2.2 channel held channel closed rfl
      refine .inl ⟨⟨⟨component, holds, fun other also => ?_⟩, List.count_eq_zero.mpr never⟩, ?_⟩
      · exact World.holder_unique apart.1 also holds
      · exact fun nobody => nobody.1 component holds
    · have unheld : ∀ component, ¬world.Holds component channel := fun component holds =>
        apart.2.2 channel (World.mem_holdings_iff.mpr ⟨component, holds⟩) channel closed rfl
      refine .inr ⟨⟨unheld, apart.2.1.count.trans (if_pos closed)⟩, ?_⟩
      exact fun somebody => somebody.1.exists.elim unheld
  · exact Option.some.inj (left.symm.trans right)
  · have fresh : session.world.ToldBy [] := fun component => by
      simp [session, Session.create, World.heldBy]
    have told := fresh.moves (session.after_reaches commands) makes component
    rw [List.nil_append] at told
    rw [← told]
    simp [World.Holds, Option.isSome_iff_exists, world]

/-- A producer that was stopped, a consumer that runs, and one that could not get a stream. -/
theorem channels_of_stopped_running_failed :
    let commands := [Command.init, .producer "outbox" { queue := "work" },
      .consumer "inbox" { queue := "work" }, .consumer "audit" { queue := "log" }, .start "outbox",
      .start "inbox", .stop "outbox", .script [(.consume, .fails (.consuming "gone"))],
      .start "audit"]
    let session := Session.create "host" (.ok ())
    let world := (session.after commands).world
    (1 ∈ world.handedOut ∧
      Xor ((∃! component, world.Holds component 1) ∧ world.closings.count 1 = 0)
        ((∀ component, ¬world.Holds component 1) ∧ world.closings.count 1 = 1)) ∧
      session.world.Makes "host" (session.history commands)
        [.start 0 (.ok ()), .start 1 (.ok ()), .stop 0, .start 2 (.error (.consuming "gone"))] ∧
      (¬∃ channel, world.Holds 0 channel) ∧ (∃ channel, world.Holds 1 channel) ∧
      ¬∃ channel, world.Holds 2 channel := by
  intro commands session world
  have out : 1 ∈ world.handedOut := by decide +kernel
  let outbox : Role := .producer { queue := "work" }
  let inbox : Role := .consumer { queue := "work", listener := "inbox" }
  let audit : Role := .consumer { queue := "log", listener := "audit" }
  have history : session.history commands = [.init, .make outbox, .attach 0, .make inbox, .attach 1,
      .make audit, .attach 2, .start 0 outbox, .start 1 inbox, .stop 0,
      .script [(.consume, .fails (.consuming "gone"))], .start 2 audit] := by cbv
  have makes : session.world.Makes "host" (session.history commands)
      [.start 0 (.ok ()), .start 1 (.ok ()), .stop 0, .start 2 (.error (.consuming "gone"))] := by
    rw [history]
    refine .cons (.other rfl) (.cons (.other rfl) (.cons (.other rfl) (.cons (.other rfl) ?_)))
    refine .cons (.other rfl) (.cons (.other rfl) (.cons (.other rfl) ?_))
    refine .cons (.start (by decide +kernel)) (.cons (.start (by decide +kernel)) ?_)
    exact .cons (.stop 0) (.cons (.other rfl) (.cons (.start (by decide +kernel)) (.nil _)))
  obtain ⟨balanced, _, _, last⟩ := channel_held_or_closed_once "host" (.ok ()) commands
  refine ⟨⟨out, balanced 1 out⟩, makes, ?_, ?_, ?_⟩
  · exact fun holds => by simpa [LifecycleCall.component] using (last _ makes 0).mp holds
  · exact (last _ makes 1).mpr (by simp [LifecycleCall.component])
  · exact fun holds => by simpa [LifecycleCall.component] using (last _ makes 2).mp holds

end AmqpEndpoints
