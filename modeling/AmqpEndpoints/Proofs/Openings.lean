import AmqpEndpoints.Proofs.Moves

/-!
# Opened connections

Connections are numbered in the order in which they are opened. What a program puts into the handle
is what it opened last, so the handle of a session never holds a number that is still to be given.
-/

set_option autoImplicit false

namespace AmqpEndpoints

open Program

def Done.opened? : Done → Option ConnectionId
  | ⟨.await (.connect _), .ok connection⟩ => some connection
  | _ => none

/-- Only connecting changes how many connections there are, and the new one gets the next number. -/
theorem Broker.respond_connections (broker : Broker) (call : Call) :
    match Done.opened? ⟨.await call, (broker.respond call).1⟩ with
    | some connection =>
      connection = broker.connections + 1 ∧
        (broker.respond call).2.connections = broker.connections + 1
    | none => (broker.respond call).2.connections = broker.connections := by
  cases call with
  | connect name =>
      simp only [respond, answer, plainOutcome, outcome, record]
      cases (nextOutcome .connect broker.script).1.reply with
      | error failure => exact rfl
      | ok confirmation => exact ⟨rfl, rfl⟩
  | build =>
      simp only [respond, answer, Done.opened?]
      cases broker.endpoint <;> rfl
  | createChannel | consume =>
      simp only [respond, answer, plainOutcome, outcome, record, Done.opened?]
      split <;> rfl
  | _ => rfl

theorem World.perform_connections (world : World) (action : Action) :
    match Done.opened? ⟨action, (world.perform action).1⟩ with
    | some connection =>
      connection = world.broker.connections + 1 ∧
        (world.perform action).2.broker.connections = world.broker.connections + 1
    | none => (world.perform action).2.broker.connections = world.broker.connections := by
  cases action with
  | await call => exact world.broker.respond_connections call
  | spawn | cancel =>
      simp only [perform, setDispatcher, Done.opened?]
      split <;> rfl
  | _ => rfl

theorem World.connections_le_perform (world : World) (action : Action) :
    world.broker.connections ≤ (world.perform action).2.broker.connections := by
  have counted := world.perform_connections action
  cases opened : Done.opened? ⟨action, (world.perform action).1⟩ with
  | none =>
      rw [opened] at counted
      exact Nat.le_of_eq counted.symm
  | some connection =>
      rw [opened] at counted
      exact counted.2 ▸ Nat.le_succ _

/-!
## What goes into the handle
-/

/-- Only what was opened last goes into the handle. -/
def opening : Discipline (Option ConnectionId) where
  allows
    | opened, .replaceHandle connection => opened = some connection
    | _, _ => True
  after
    | _, .await (.connect _), .ok connection => some connection
    | opened, _, _ => opened

def Action.LeavesHandle : Action → Prop
  | replaceHandle _ => False
  | _ => True

theorem follows_opening {α : Type} {program : Program α} (uses : program.Uses Action.LeavesHandle)
    (opened : Option ConnectionId) : program.Follows opening opened fun _ _ => True := by
  induction program generalizing opened with
  | done result => trivial
  | step action next ih =>
      refine ⟨?_, fun reply _ => ih reply (uses.2 reply trivial) _⟩
      cases action with
      | replaceHandle => exact uses.1.elim
      | _ => trivial

theorem Action.OfComponent.leavesHandle {component : ComponentId} {action : Action}
    (about : action.OfComponent component) : action.LeavesHandle := by
  cases action with
  | replaceHandle => exact about.elim
  | _ => trivial

theorem Connection.close_opening (opened : Option ConnectionId) :
    Connection.close.Follows opening opened fun _ _ => True := by
  refine ⟨trivial, fun taken _ => ?_⟩
  cases taken with
  | none => exact trivial
  | some connection => exact ⟨trivial, fun _ _ => ⟨trivial, fun _ _ => trivial⟩⟩

theorem Connection.init_opening (name : String) (opened : Option ConnectionId) :
    (Connection.init name).Follows opening opened fun _ _ => True := by
  refine ⟨trivial, fun _ _ => ⟨trivial, fun built _ => ?_⟩⟩
  cases built with
  | error failure => exact trivial
  | ok _ =>
      refine ⟨trivial, fun _ _ => ⟨trivial, fun connected _ => ?_⟩⟩
      cases connected with
      | error failure => exact trivial
      | ok connection =>
          refine ⟨rfl, fun previous _ => ?_⟩
          cases previous with
          | none => exact trivial
          | some previous => exact ⟨trivial, fun _ _ => ⟨trivial, fun _ _ => trivial⟩⟩

theorem Connection.restart_opening (name : String) (opened : Option ConnectionId) :
    (Connection.restart name).Follows opening opened fun _ _ => True := by
  rw [restart_eq]
  refine follows_bind.mpr ⟨trivial, fun _ _ => follows_bind.mpr ⟨trivial, fun live _ => ?_⟩⟩
  have ofComponents : ∀ action : Action, (∃ entry ∈ live, action.OfComponent entry.1) →
      action.LeavesHandle := fun _ ⟨_, _, about⟩ => about.leavesHandle
  refine follows_bind.mpr ((follows_opening ((uses_stopAll live).mono ofComponents) _).imp
    fun _ later _ => follows_bind.mpr ((close_opening later).imp fun _ later _ =>
      follows_bind.mpr ((init_opening name later).imp fun connected later _ => ?_)))
  cases connected with
  | error failure => exact ⟨trivial, fun _ _ => trivial⟩
  | ok _ =>
      refine follows_bind.mpr ((follows_opening ((uses_startAll live).mono ofComponents) later).imp
        fun _ _ _ => ⟨trivial, fun _ _ => trivial⟩)

/-!
## Sessions
-/

/-- Whether the connection of the handle, and one that was opened last, have numbers that were given
already. -/
structure World.Dated (opened : Option ConnectionId) (world : World) : Prop where
  handle : ∀ connection ∈ world.handle, connection ≤ world.broker.connections
  opened : ∀ connection ∈ opened, connection ≤ world.broker.connections

namespace World.Dated

variable {opened : Option ConnectionId} {world : World}

theorem perform (dated : world.Dated opened) {action : Action}
    (allowed : opening.allows opened action) :
    (world.perform action).2.Dated (opening.after opened action (world.perform action).1) := by
  have more := world.connections_le_perform action
  have older : ∀ connection ∈ opened, connection ≤ (world.perform action).2.broker.connections :=
    fun connection was => Nat.le_trans (dated.opened connection was) more
  constructor
  · intro connection there
    rw [perform_handle] at there
    cases action with
    | replaceHandle installed =>
        obtain rfl : installed = connection := Option.some.inj there
        exact older installed allowed
    | takeHandle => cases there
    | _ => exact Nat.le_trans (dated.handle connection there) more
  · intro connection was
    cases action with
    | await call =>
        cases call with
        | connect name =>
            have counted := world.perform_connections (.await (.connect name))
            cases replied : (world.perform (.await (.connect name))).1 with
            | error failure =>
                rw [replied] at was
                exact older connection was
            | ok given =>
                rw [replied] at was counted
                obtain rfl : given = connection := Option.some.inj was
                exact Nat.le_of_eq (counted.1.trans counted.2.symm)
        | _ => exact older connection was
    | _ => exact older connection was

theorem run {α : Type} {program : Program α} (dated : world.Dated none)
    (follows : program.Follows opening none fun _ _ => True) : (program.run world).2.Dated none := by
  obtain ⟨later, _, ended⟩ := follows.run world (fun opened world => world.Dated opened)
    (fun _ _ _ allowed dated => ⟨trivial, dated.perform allowed⟩) dated
  exact ⟨ended.handle, nofun⟩

theorem move (dated : world.Dated none) (name : String) (move : Move) :
    (world.move name move).Dated none := by
  have keeps : ∀ {α : Type} {program : Program α}, program.Uses Action.LeavesHandle →
      (program.run world).2.Dated none := fun uses => dated.run (follows_opening uses none)
  cases move with
  | script outcomes => exact ⟨dated.handle, nofun⟩
  | make role => exact ⟨dated.handle, nofun⟩
  | attach component | release component | cancel stream => exact keeps (uses_act trivial)
  | start component role =>
      exact keeps ((Component.uses_start component role).mono fun _ about => about.leavesHandle)
  | stop component =>
      exact keeps ((Component.uses_stop component).mono fun _ about => about.leavesHandle)
  | produce component settings publication =>
      refine keeps ((Producer.uses_produce component settings _ _).mono fun action about => ?_)
      cases action with
      | replaceHandle => exact about.elim fun _ equips => equips
      | _ => trivial
  | receive dispatcher propagator item =>
      refine keeps ((dispatcher.uses_receive propagator item).mono fun action about => ?_)
      cases action with
      | replaceHandle => exact about
      | _ => trivial
  | init => exact dated.run (Connection.init_opening name none)
  | close => exact dated.run (Connection.close_opening none)
  | restart => exact dated.run (Connection.restart_opening name none)
  | repair =>
      refine dated.run (follows_bind.mpr ((Connection.restart_opening name none).imp
        fun _ later _ => ⟨trivial, fun _ _ => trivial⟩))

theorem reaches {name : String} {made : List Move} {later : World} (dated : world.Dated none)
    (reaches : world.Reaches name made later) : later.Dated none := by
  induction reaches with
  | refl => exact dated
  | move _ _ ih => exact ih.move name _

end World.Dated

theorem Session.after_dated (name : String) (endpoint : Except Failure Unit)
    (commands : List Command) : ((Session.create name endpoint).after commands).world.Dated none :=
  World.Dated.reaches ⟨by rintro connection ⟨⟩, nofun⟩ (Session.after_reaches _ commands)

end AmqpEndpoints
