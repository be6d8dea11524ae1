import AmqpEndpoints.Connection

/-!
# Traces and disciplines of programs

A trace lists the actions of a run with what they gave. A discipline says which actions a program
may do next, depending on a phase that its earlier actions and their replies lead to. That a program
follows a discipline is shown on the tree alone, for all possible replies at once; what the actions
then do to a world is a matter of one action at a time.
-/

set_option autoImplicit false

namespace AmqpEndpoints

/-- An action that was done, with what it gave. -/
structure Done where
  action : Action
  reply : action.Reply

/-- Which actions may come next in a phase, which replies they can have there, and which phase comes
after them. -/
structure Discipline (Phase : Type) where
  allows : Phase → Action → Prop
  possible : Phase → (action : Action) → action.Reply → Prop := fun _ _ _ => True
  after : Phase → (action : Action) → action.Reply → Phase

def Discipline.only (allowed : Action → Prop) : Discipline Unit where
  allows _ action := allowed action
  after _ _ _ := ()

/-- Two disciplines at once. -/
def Discipline.prod {Phase Other : Type} (rule : Discipline Phase) (other : Discipline Other) :
    Discipline (Phase × Other) where
  allows phase action := rule.allows phase.1 action ∧ other.allows phase.2 action
  possible phase action reply :=
    rule.possible phase.1 action reply ∧ other.possible phase.2 action reply
  after phase action reply := (rule.after phase.1 action reply, other.after phase.2 action reply)

/-- The world that actions lead to, done one after the other. -/
def World.replay (world : World) (entries : List Done) : World :=
  entries.foldl (fun world entry => (world.perform entry.action).2) world

@[simp] theorem World.replay_snoc (world : World) (entries : List Done) (entry : Done) :
    world.replay (entries ++ [entry]) = ((world.replay entries).perform entry.action).2 := by
  simp [replay]

namespace Program

variable {α β Phase : Type}

/-!
## Traces
-/

def trace : Program α → World → List Done
  | done _, _ => []
  | step action next, world =>
    ⟨action, (world.perform action).1⟩ ::
      (next (world.perform action).1).trace (world.perform action).2

@[simp] theorem trace_bind (program : Program α) (next : α → Program β) (world : World) :
    (program >>= next).trace world =
      program.trace world ++ (next (program.run world).1).trace (program.run world).2 := by
  change (program.bind next).trace world = _
  induction program generalizing world with
  | done result => rfl
  | step action rest ih =>
      simp only [bind, trace, run_step, List.cons_append]
      rw [ih]

theorem run_world (program : Program α) (world : World) :
    (program.run world).2 = world.replay (program.trace world) := by
  induction program generalizing world with
  | done result => rfl
  | step action next ih => exact ih _ _

/-- Each reply in a trace is what the action gives in the world that the actions before it lead to. -/
theorem reply_of_trace {program : Program α} {world : World} {entry : Done}
    {before later : List Done} (whole : program.trace world = before ++ entry :: later) :
    entry = ⟨entry.action, ((world.replay before).perform entry.action).1⟩ := by
  induction program generalizing world before with
  | done result => simp [trace] at whole
  | step action next ih =>
      cases before with
      | nil =>
          obtain ⟨rfl, _⟩ := List.cons.inj whole
          rfl
      | cons first before =>
          obtain ⟨rfl, rest⟩ := List.cons.inj whole
          have replied := ih _ rest
          exact replied

/-!
## Disciplines
-/

/-- Whether a program follows a discipline from a phase on, whatever the replies are, and ends with
a result and in a phase that fit together. -/
def Follows (rule : Discipline Phase) : Program α → Phase → (α → Phase → Prop) → Prop
  | done result, phase, ends => ends result phase
  | step action next, phase, ends =>
    rule.allows phase action ∧
      ∀ reply, rule.possible phase action reply →
        (next reply).Follows rule (rule.after phase action reply) ends

variable {rule : Discipline Phase} {phase : Phase}

theorem follows_bind {program : Program α} {next : α → Program β} {ends : β → Phase → Prop} :
    (program >>= next).Follows rule phase ends ↔
      program.Follows rule phase fun result later => (next result).Follows rule later ends := by
  change (program.bind next).Follows rule phase ends ↔ _
  induction program generalizing phase with
  | done result => exact Iff.rfl
  | step action rest ih =>
      exact and_congr_right fun _ => forall_congr' fun reply => imp_congr_right fun _ => ih reply

theorem Follows.imp {program : Program α} {ends weaker : α → Phase → Prop}
    (follows : program.Follows rule phase ends)
    (implied : ∀ result later, ends result later → weaker result later) :
    program.Follows rule phase weaker := by
  induction program generalizing phase with
  | done result => exact implied result phase follows
  | step action rest ih =>
      exact ⟨follows.1, fun reply given => ih reply (follows.2 reply given)⟩

/-- A part of a program that leads to one phase, whatever it gives, and then the rest from there. -/
theorem Follows.bind {program : Program α} {next : α → Program β} {middle : Phase}
    {ends : β → Phase → Prop} (first : program.Follows rule phase fun _ later => later = middle)
    (rest : ∀ result, (next result).Follows rule middle ends) :
    (program >>= next).Follows rule phase ends :=
  follows_bind.mpr (first.imp fun result _ same => same ▸ rest result)

theorem Follows.prod {Other : Type} {other : Discipline Other} {program : Program α} {place : Other}
    {ends : α → Phase → Prop} {otherEnds : α → Other → Prop}
    (follows : program.Follows rule phase ends) (also : program.Follows other place otherEnds) :
    program.Follows (rule.prod other) (phase, place) fun result later =>
      ends result later.1 ∧ otherEnds result later.2 := by
  induction program generalizing phase place with
  | done result => exact ⟨follows, also⟩
  | step action rest ih =>
      exact ⟨⟨follows.1, also.1⟩, fun reply given =>
        ih reply (follows.2 reply given.1) (also.2 reply given.2)⟩

/-- What every allowed action keeps between the phase and the world, a run keeps. -/
theorem Follows.run {program : Program α} {ends : α → Phase → Prop}
    (follows : program.Follows rule phase ends) (world : World) (invariant : Phase → World → Prop)
    (keeps : ∀ phase world action, rule.allows phase action → invariant phase world →
      rule.possible phase action (world.perform action).1 ∧
        invariant (rule.after phase action (world.perform action).1) (world.perform action).2)
    (holds : invariant phase world) :
    ∃ later, ends (program.run world).1 later ∧ invariant later (program.run world).2 := by
  induction program generalizing phase world with
  | done result => exact ⟨phase, follows, holds⟩
  | step action rest ih =>
      obtain ⟨given, kept⟩ := keeps phase world action follows.1 holds
      exact ih _ (follows.2 _ given) _ kept

/-!
## Programs of few actions
-/

/-- Whether all actions of a program are among those that are allowed. -/
def Uses (allowed : Action → Prop) (program : Program α) : Prop :=
  program.Follows (.only allowed) () fun _ _ => True

variable {allowed : Action → Prop}

theorem uses_pure (result : α) : (pure result : Program α).Uses allowed :=
  trivial

theorem uses_act {action : Action} (permitted : allowed action) : (act action).Uses allowed :=
  ⟨permitted, fun _ _ => trivial⟩

theorem Uses.bind {program : Program α} {next : α → Program β} (first : program.Uses allowed)
    (rest : ∀ result, (next result).Uses allowed) : (program >>= next).Uses allowed :=
  follows_bind.mpr (first.imp fun result _ _ => rest result)

theorem Uses.mono {wider : Action → Prop} {program : Program α} (uses : program.Uses allowed)
    (implied : ∀ action, allowed action → wider action) : program.Uses wider := by
  induction program with
  | done result => trivial
  | step action rest ih =>
      exact ⟨implied action uses.1, fun reply given => ih reply (uses.2 reply given)⟩

theorem Uses.and {first second : Action → Prop} {program : Program α} (uses : program.Uses first)
    (also : program.Uses second) : program.Uses fun action => first action ∧ second action := by
  induction program with
  | done result => trivial
  | step action next ih =>
      exact ⟨⟨uses.1, also.1⟩, fun reply _ => ih reply (uses.2 reply trivial) (also.2 reply trivial)⟩

/-- What no allowed action changes, a run does not change. -/
theorem Uses.run_eq {program : Program α} (uses : program.Uses allowed) (view : World → β)
    (unchanged : ∀ action, allowed action → ∀ world : World,
      view (world.perform action).2 = view world) (world : World) :
    view (program.run world).2 = view world := by
  obtain ⟨_, _, same⟩ := uses.run world (fun _ changed => view changed = view world)
    (fun _ changed action permitted same =>
      ⟨trivial, (unchanged action permitted changed).trans same⟩) rfl
  exact same

theorem Uses.of_mem_trace {program : Program α} (uses : program.Uses allowed) {world : World}
    {entry : Done} (member : entry ∈ program.trace world) : allowed entry.action := by
  induction program generalizing world with
  | done result => cases member
  | step action rest ih =>
      rcases List.mem_cons.mp member with rfl | later
      · exact uses.1
      · exact ih _ (uses.2 _ trivial) later

/-- A program that follows a discipline without leaving a phase does so by actions that keep it. -/
theorem Uses.follows {program : Program α} (uses : program.Uses allowed)
    (stays : ∀ action, allowed action →
      rule.allows phase action ∧ ∀ reply, rule.after phase action reply = phase) :
    program.Follows rule phase fun _ later => later = phase := by
  induction program with
  | done result => rfl
  | step action rest ih =>
      obtain ⟨permitted, same⟩ := stays action uses.1
      refine ⟨permitted, fun reply _ => ?_⟩
      rw [same reply]
      exact ih reply (uses.2 reply trivial)

/-!
## Attempts
-/

theorem run_attempt_bind (first : Attempt α) (next : α → Attempt β) :
    (first >>= next).run = first.run >>= fun
      | .ok result => (next result).run
      | .error failure => pure (.error failure) := by
  change first.run >>= ExceptT.bindCont next = _
  congr 1
  funext outcome
  cases outcome <;> rfl

theorem follows_attempt_bind {first : Attempt α} {next : α → Attempt β}
    {ends : Except Failure β → Phase → Prop} :
    (first >>= next).run.Follows rule phase ends ↔
      first.run.Follows rule phase fun outcome later =>
        match outcome with
        | .ok result => (next result).run.Follows rule later ends
        | .error failure => ends (.error failure) later := by
  rw [run_attempt_bind, follows_bind]
  constructor <;> intro follows <;> refine follows.imp fun outcome later ended => ?_
  · cases outcome with
    | ok result => exact ended
    | error failure => exact ended
  · cases outcome with
    | ok result => exact ended
    | error failure => exact ended

theorem Uses.attempt_bind {first : Attempt α} {next : α → Attempt β}
    (uses : first.run.Uses allowed) (rest : ∀ result, (next result).run.Uses allowed) :
    (first >>= next).run.Uses allowed := by
  refine follows_attempt_bind.mpr (uses.imp fun outcome _ _ => ?_)
  cases outcome with
  | ok result => exact rest result
  | error failure => trivial

end Program

end AmqpEndpoints
