import AmqpEndpoints.Proofs.Attachments

/-!
# The course of a restart

What a restart does, step by step: it stops the live components in order, closes the connection that
is open, builds and connects anew, and, once that went well, starts the same components in order
whether or not the ones before could be started.
-/

set_option autoImplicit false

namespace AmqpEndpoints

open Program

/-- A step of a restart, with how it went where that matters. -/
inductive RestartStep where
  | stopped (component : ComponentId)
  | closing (connection : ConnectionId)
  | built (outcome : Except Failure Unit)
  | connected (name : String) (outcome : Except Failure ConnectionId)
  | started (component : ComponentId) (outcome : Except Failure Unit)

/-- A step that is taken from a world on, with all that is done in it and the world after it. -/
inductive RestartStep.Takes (world : World) : RestartStep → List Done → World → Prop where
  | stopped (component : ComponentId) :
      Takes world (.stopped component) ((Component.stop component).trace world)
        ((Component.stop component).run world).2
  | closing (connection : ConnectionId) :
      Takes world (.closing connection) ((closeConnection connection).trace world)
        ((closeConnection connection).run world).2
  | built :
      Takes world (.built ((call .build).run world).1) ((call .build).trace world)
        ((call .build).run world).2
  | connected (name : String) :
      Takes world (.connected name ((call (.connect name)).run world).1)
        ((call (.connect name)).trace world) ((call (.connect name)).run world).2
  /-- A component is started as what it is. -/
  | started {component : ComponentId} {role : Role} (is : world.roleOf component = some role) :
      Takes world (.started component ((Component.start component role).run world).1)
        ((Component.start component role).trace world)
        ((Component.start component role).run world).2

/-- What a restart does beside its steps: it has its lock, lists the components, and looks after the
handle. -/
def Action.ofRestart : Action → Bool
  | lockRestart | unlockRestart | snapshot | takeHandle | replaceHandle _ => true
  | _ => false

/-- What is done from one world to another is made of these steps, one after the other, and of
nothing else but what a restart does beside them. -/
inductive World.Unfolds : World → List RestartStep → List Done → World → Prop where
  | nil (world : World) : Unfolds world [] [] world
  | step {world between after : World} {step : RestartStep} {steps : List RestartStep}
      {entries later : List Done} (takes : step.Takes world entries between)
      (rest : Unfolds between steps later after) :
      Unfolds world (step :: steps) (entries ++ later) after
  | own {world after : World} {action : Action} {steps : List RestartStep} {later : List Done}
      (own : action.ofRestart = true) (rest : Unfolds (world.perform action).2 steps later after) :
      Unfolds world steps (⟨action, (world.perform action).1⟩ :: later) after

/-- The outcome of starting components one after the other: the first failure counts. -/
def firstFailure : List (Except Failure Unit) → Except Failure Unit
  | [] => .ok ()
  | .ok _ :: rest => firstFailure rest
  | .error failure :: _ => .error failure

/-!
## One way to read a run
-/

namespace RestartStep

/-- What is done first in a step. -/
def opening : RestartStep → Action
  | stopped component => .lock component
  | closing connection => .issue (.closeConnection connection)
  | built _ => .issue .build
  | connected name _ => .issue (.connect name)
  | started component _ => .lock component

namespace Takes

variable {world after other : World} {first second : RestartStep} {entries others later more : List Done}

theorem begins (takes : first.Takes world entries after) :
    ∃ reply rest, entries = ⟨first.opening, reply⟩ :: rest ∧ first.opening.ofRestart = false := by
  cases takes <;> exact ⟨_, _, rfl, rfl⟩

/-- A stop is over once it emptied the component, where a start goes on to look at the handle. -/
theorem stop_ne_start {component : ComponentId} {role : Role} :
    (Component.stop component).trace world ++ later ≠
      (Component.start component role).trace world ++ more := by
  rw [Component.stop_eq, Component.start_eq, trace_bind, trace_bind, List.append_assoc,
    List.append_assoc]
  intro same
  cases List.append_cancel_left same

/-- What was done can begin with one step only. -/
theorem unique (takes : first.Takes world entries after) (also : second.Takes world others other)
    (same : entries ++ later = others ++ more) : first = second ∧ later = more ∧ after = other := by
  have opens : first.opening = second.opening := by
    obtain ⟨_, _, begins, _⟩ := takes.begins
    obtain ⟨_, _, begin, _⟩ := also.begins
    rw [begins, begin] at same
    exact congrArg Done.action (List.cons.inj same).1
  cases takes with
  | stopped component =>
      cases also with
      | stopped =>
          obtain rfl := Action.lock.inj opens
          exact ⟨rfl, List.append_cancel_left same, rfl⟩
      | started =>
          obtain rfl := Action.lock.inj opens
          exact absurd same stop_ne_start
      | _ => cases opens
  | closing connection =>
      cases also with
      | closing =>
          cases opens
          exact ⟨rfl, List.append_cancel_left same, rfl⟩
      | _ => cases opens
  | built =>
      cases also with
      | built => exact ⟨rfl, List.append_cancel_left same, rfl⟩
      | _ => cases opens
  | connected name =>
      cases also with
      | connected =>
          cases opens
          exact ⟨rfl, List.append_cancel_left same, rfl⟩
      | _ => cases opens
  | started is =>
      cases also with
      | stopped =>
          obtain rfl := Action.lock.inj opens
          exact absurd same.symm stop_ne_start
      | started alsoIs =>
          obtain rfl := Action.lock.inj opens
          obtain rfl := Option.some.inj (is.symm.trans alsoIs)
          exact ⟨rfl, List.append_cancel_left same, rfl⟩
      | _ => cases opens

end Takes

end RestartStep

namespace World.Unfolds

variable {world between after : World} {steps more : List RestartStep} {entries later : List Done}

theorem append (first : world.Unfolds steps entries between)
    (second : between.Unfolds more later after) :
    world.Unfolds (steps ++ more) (entries ++ later) after := by
  induction first with
  | nil => exact second
  | step takes _ ih =>
      rw [List.append_assoc]
      exact .step takes (ih second)
  | own own _ ih => exact .own own (ih second)

theorem single {step : RestartStep} (takes : step.Takes world entries after) :
    world.Unfolds [step] entries after := by
  have only := World.Unfolds.step takes (.nil after)
  rwa [List.append_nil] at only

/-- There is one way only to read what was done as steps. -/
theorem unique {other : World} (unfolds : world.Unfolds steps entries after)
    (also : world.Unfolds more entries other) : steps = more := by
  induction unfolds generalizing more other with
  | nil =>
      generalize none : ([] : List Done) = entries at also
      cases also with
      | nil => rfl
      | step takes rest =>
          obtain ⟨_, _, rfl, _⟩ := takes.begins
          cases none
      | own => cases none
  | step takes _ ih =>
      rename_i entries later _
      generalize same : entries ++ later = all at also
      cases also with
      | nil =>
          obtain ⟨_, _, rfl, _⟩ := takes.begins
          cases same
      | step alsoTakes rest =>
          obtain ⟨rfl, rfl, rfl⟩ := takes.unique alsoTakes same
          rw [ih rest]
      | own own rest =>
          obtain ⟨_, _, rfl, notOwn⟩ := takes.begins
          cases same
          rw [own] at notOwn
          cases notOwn
  | own own _ ih =>
      generalize same : _ :: _ = all at also
      cases also with
      | nil => cases same
      | step takes rest =>
          obtain ⟨_, _, rfl, notOwn⟩ := takes.begins
          cases same
          rw [own] at notOwn
          cases notOwn
      | own _ rest =>
          cases same
          exact ih rest

end World.Unfolds

namespace Program

variable {α β : Type} {program : Program α} {world : World} {steps more : List RestartStep}

/-- What a program does from a world on is made of these steps. -/
def Unfolds (program : Program α) (world : World) (steps : List RestartStep) : Prop :=
  world.Unfolds steps (program.trace world) (program.run world).2

theorem Unfolds.bind {next : α → Program β} {result : α} (first : program.Unfolds world steps)
    (gives : (program.run world).1 = result)
    (second : (next result).Unfolds (program.run world).2 more) :
    (program >>= next).Unfolds world (steps ++ more) := by
  subst gives
  unfold Unfolds
  rw [trace_bind, run_bind]
  exact first.append second

theorem unfolds_pure (result : α) (world : World) : (pure result : Program α).Unfolds world [] :=
  .nil world

theorem Unfolds.map (first : program.Unfolds world steps) (change : α → β) :
    (program >>= fun result => pure (change result)).Unfolds world steps := by
  have whole : (program >>= fun result => pure (change result)).Unfolds world (steps ++ []) :=
    first.bind rfl (unfolds_pure _ _)
  rwa [List.append_nil] at whole

theorem unfolds_act {action : Action} (own : action.ofRestart = true) (world : World) :
    (act action).Unfolds world [] :=
  .own own (.nil _)

end Program

/-!
## Stopping, connecting and starting
-/

namespace Connection

theorem stopAll_unfolds (components : List (ComponentId × Role)) (world : World) :
    (stopAll components).Unfolds world (components.map (.stopped ·.1)) := by
  induction components generalizing world with
  | nil => exact .nil world
  | cons entry rest ih => exact Unfolds.bind (.single (.stopped entry.1)) rfl (ih _)

theorem startAll_run_cons (entry : ComponentId × Role) (rest : List (ComponentId × Role))
    (world : World) :
    let started := (Component.start entry.1 entry.2).run world
    let others := (startAll rest).run started.2
    (startAll (entry :: rest)).run world =
      (match started.1 with
        | .ok _ => others.1
        | .error failure => .error failure, others.2) := by
  intro started others
  rw [startAll, run_bind, run_bind]
  rfl

theorem startAll_unfolds (components : List (ComponentId × Role)) (world : World)
    (are : ∀ entry ∈ components, world.roleOf entry.1 = some entry.2) :
    ∃ outcomes : List (Except Failure Unit), outcomes.length = components.length ∧
      (startAll components).Unfolds world
        (List.zipWith (fun entry outcome => .started entry.1 outcome) components outcomes) ∧
      ((startAll components).run world).1 = firstFailure outcomes := by
  induction components generalizing world with
  | nil => exact ⟨[], rfl, .nil world, rfl⟩
  | cons entry rest ih =>
      let started := (Component.start entry.1 entry.2).run world
      obtain ⟨is, others⟩ := List.forall_mem_cons.mp are
      obtain ⟨outcomes, counted, unfolds, result⟩ := ih started.2 fun other member =>
        (World.roleOf_run _ world other.1).trans (others other member)
      refine ⟨started.1 :: outcomes, congrArg Nat.succ counted, ?_, ?_⟩
      · exact Unfolds.bind (.single (.started is)) rfl (unfolds.map _)
      · rw [startAll_run_cons]
        dsimp only
        rw [result, show (Component.start entry.1 entry.2).run world = started from rfl]
        cases started.1 <;> rfl

theorem close_unfolds (world : World) :
    close.Unfolds world (world.handle.toList.map .closing) := by
  refine Unfolds.bind (unfolds_act rfl world) (rfl : _ = world.handle) ?_
  cases world.handle with
  | none => exact .nil _
  | some connection => exact .single (.closing connection)

theorem close_handle (world : World) : (close.run world).2.handle = none := by
  obtain ⟨broker, handle, attachments, components, dispatchers, locked, last⟩ := world
  cases handle <;> rfl

/-- Where no connection is open, there is nothing that opening one would have to close. -/
theorem init_unfolds (name : String) (world : World) (closed : world.handle = none) :
    (∃ failure, (init name).Unfolds world [.built (.error failure)] ∧
        ((init name).run world).1 = .error failure ∧ ((init name).run world).2.handle = none) ∨
      (∃ failure,
        (init name).Unfolds world [.built (.ok ()), .connected name (.error failure)] ∧
          ((init name).run world).1 = .error failure.whileConnecting ∧
            ((init name).run world).2.handle = none) ∨
      ∃ connection,
        (init name).Unfolds world [.built (.ok ()), .connected name (.ok connection)] ∧
          ((init name).run world).1 = .ok () ∧
            ((init name).run world).2.handle = some connection := by
  unfold init
  rw [run_bind]
  have kept : ((call .build).run world).2.handle = none := closed
  have builds : (call .build).Unfolds world [.built ((call .build).run world).1] := .single .built
  cases built : ((call .build).run world).1 with
  | error failure =>
      rw [built] at builds
      exact .inl ⟨failure, builds.bind built (unfolds_pure _ _), rfl, kept⟩
  | ok _ =>
      rw [built] at builds
      dsimp only
      let between := ((call .build).run world).2
      have still : ((call (.connect name)).run between).2.handle = none := kept
      have connects : (call (.connect name)).Unfolds between
          [.connected name ((call (.connect name)).run between).1] := .single (.connected name)
      rw [run_bind]
      refine .inr ?_
      cases opened : ((call (.connect name)).run between).1 with
      | error failure =>
          rw [opened] at connects
          exact .inl ⟨failure, builds.bind built (connects.bind opened (unfolds_pure _ _)), rfl,
            still⟩
      | ok connection =>
          rw [opened] at connects
          have replaces : (act (.replaceHandle connection)).Unfolds
            ((call (.connect name)).run between).2 [] := unfolds_act rfl _
          refine .inr ⟨connection, builds.bind built (connects.bind opened
            (replaces.bind still (unfolds_pure _ _))), ?_⟩
          generalize ((call (.connect name)).run between).2 = after at still
          obtain ⟨broker, handle, attachments, components, dispatchers, locked, last⟩ := after
          obtain rfl : handle = none := still
          exact ⟨rfl, rfl⟩

/-- The world once components are stopped and the connection is closed. -/
def cleared (components : List (ComponentId × Role)) (world : World) : World :=
  (close.run ((stopAll components).run world).2).2

theorem cleared_handle (components : List (ComponentId × Role)) (world : World) :
    (cleared components world).handle = none :=
  close_handle _

theorem cycle_run (name : String) (components : List (ComponentId × Role)) (world : World) :
    let tried := (init name).run (cleared components world)
    (cycle name components).run world = (resume components tried.1).run tried.2 := by
  simp only [cycle, run_bind, cleared]

theorem tried_roles (name : String) {components : List (ComponentId × Role)} {world : World}
    (are : ∀ entry ∈ components, world.roleOf entry.1 = some entry.2) :
    ∀ entry ∈ components,
      ((init name).run (cleared components world)).2.roleOf entry.1 = some entry.2 := by
  intro entry member
  rw [World.roleOf_run, cleared, World.roleOf_run, World.roleOf_run, are entry member]

theorem cycle_unfolds {name : String} {components : List (ComponentId × Role)} {world : World}
    {opened : Except Failure Unit} {middle last : List RestartStep}
    (opens : (init name).Unfolds (cleared components world) middle)
    (gives : ((init name).run (cleared components world)).1 = opened)
    (resumes : (resume components opened).Unfolds ((init name).run (cleared components world)).2
      last) :
    (cycle name components).Unfolds world
      (components.map (.stopped ·.1) ++ world.handle.toList.map .closing ++ middle ++ last) := by
  have closes := close_unfolds ((stopAll components).run world).2
  rw [stopAll_handle] at closes
  rw [List.append_assoc, List.append_assoc]
  exact (stopAll_unfolds components world).bind rfl (closes.bind rfl (opens.bind gives resumes))

theorem cycle_course (name : String) (components : List (ComponentId × Role)) (world : World)
    (are : ∀ entry ∈ components, world.roleOf entry.1 = some entry.2) :
    let opening : List RestartStep :=
      components.map (.stopped ·.1) ++ world.handle.toList.map .closing
    let result := ((cycle name components).run world).1
    ∃ steps, (cycle name components).Unfolds world steps ∧
      ((∃ failure, steps = opening ++ [.built (.error failure)] ∧ result = .error failure) ∨
        (∃ failure,
          steps = opening ++ [.built (.ok ()), .connected name (.error failure)] ∧
            result = .error failure.whileConnecting) ∨
          ∃ connection outcomes, outcomes.length = components.length ∧
            steps = opening ++ [.built (.ok ()), .connected name (.ok connection)] ++
              List.zipWith (fun entry outcome => .started entry.1 outcome) components outcomes ∧
            result = firstFailure outcomes) := by
  intro opening result
  let closed := cleared components world
  have gives : result =
      ((resume components ((init name).run closed).1).run ((init name).run closed).2).1 :=
    congrArg (·.1) (cycle_run name components world)
  rw [gives]
  have unlocks : ∀ world, (act .unlockRestart).Unfolds world [] := unfolds_act rfl
  obtain ⟨failure, opens, gave, _⟩ | ⟨failure, opens, gave, _⟩ | ⟨connection, opens, gave, _⟩ :=
    init_unfolds name closed (cleared_handle components world)
  · rw [gave]
    have course := cycle_unfolds opens gave ((unlocks _).map _)
    rw [List.append_nil] at course
    exact ⟨_, course, .inl ⟨failure, rfl, rfl⟩⟩
  · rw [gave]
    have course := cycle_unfolds opens gave ((unlocks _).map _)
    rw [List.append_nil] at course
    exact ⟨_, course, .inr (.inl ⟨failure, rfl, rfl⟩)⟩
  · rw [gave]
    obtain ⟨outcomes, counted, starts, outcome⟩ :=
      startAll_unfolds components _ (tried_roles name are)
    have resumes : (resume components (.ok ())).Unfolds ((init name).run closed).2 _ :=
      starts.bind outcome ((unlocks _).map _)
    have course := cycle_unfolds opens gave resumes
    rw [List.append_nil] at course
    refine ⟨_, course, .inr (.inr ⟨connection, outcomes, counted, rfl, ?_⟩)⟩
    rw [resume, run_bind]
    exact outcome

/-- The world in which a restart goes about its work, once it has listed the live components. -/
def listed (world : World) : World :=
  (({ world with restartLocked := true } : World).perform .snapshot).2

theorem restart_run (name : String) (world : World) :
    (restart name).run world = (cycle name world.liveAttachments).run (listed world) := by
  rw [restart_eq]
  rfl

theorem restart_unfolds {name : String} {world : World} {steps : List RestartStep}
    (unfolds : (cycle name world.liveAttachments).Unfolds (listed world) steps) :
    (restart name).Unfolds world steps := by
  rw [restart_eq]
  exact .own rfl (.own rfl unfolds)

/-- A restart touches no component but those that were attached and are still owned. -/
theorem restart_touches {name : String} {world : World} {entry : Done} {component : ComponentId}
    (member : entry ∈ (restart name).trace world)
    (touched : entry.action.component? = some component) :
    component ∈ world.liveAttachments.map (·.1) := by
  rw [restart_eq] at member
  rcases List.mem_cons.mp member with rfl | member
  · cases touched
  · rcases List.mem_cons.mp member with rfl | member
    · cases touched
    · exact ((uses_cycle name world.liveAttachments).of_mem_trace member).mem_of_component touched

/-- What a restart does, and what comes of it, from any world on. -/
theorem restart_steps (name : String) (world : World) :
    let live := world.liveAttachments.map (·.1)
    let opening : List RestartStep := live.map .stopped ++ world.handle.toList.map .closing
    let result := ((restart name).run world).1
    ∃ steps, (restart name).Unfolds world steps ∧
      ((∃ failure, steps = opening ++ [.built (.error failure)] ∧ result = .error failure) ∨
        (∃ failure,
          steps = opening ++ [.built (.ok ()), .connected name (.error failure)] ∧
            result = .error failure.whileConnecting) ∨
          ∃ connection outcomes, outcomes.length = live.length ∧
            steps = opening ++ [.built (.ok ()), .connected name (.ok connection)] ++
              List.zipWith .started live outcomes ∧
            result = firstFailure outcomes) := by
  intro live opening result
  have are : ∀ entry ∈ world.liveAttachments, world.roleOf entry.1 = some entry.2 :=
    fun _ member => World.liveAttachments_role member
  obtain ⟨steps, unfolds, course⟩ := cycle_course name world.liveAttachments (listed world) are
  refine ⟨steps, restart_unfolds unfolds, ?_⟩
  have stops : world.liveAttachments.map (RestartStep.stopped ·.1) = live.map .stopped :=
    (List.map_map ..).symm
  have starts : ∀ outcomes : List (Except Failure Unit),
      List.zipWith (fun entry outcome => RestartStep.started entry.1 outcome)
        world.liveAttachments outcomes = List.zipWith .started live outcomes :=
    fun _ => List.zipWith_map_left.symm
  have counted : world.liveAttachments.length = live.length := (List.length_map ..).symm
  rw [stops, counted, ← restart_run] at course
  simp only [starts] at course
  exact course

end Connection

/-!
## Sessions
-/

/-- The course of a restart after any attaching and releasing, whatever the handle is and whatever
fails: the components that were attached and are still owned are stopped in order, the open
connection is closed, and a new one is built and opened; if that goes well, the same components are
started in order. The failure to open counts first, then the first failure to start. There is no
other way to read what is done, and no other component is touched. -/
theorem restart_course (name : String) (endpoint : Except Failure Unit) (commands : List Command)
    (handle : Option ConnectionId) (broker : Broker) :
    let session := Session.create name endpoint
    let world := { (session.after commands).world with handle := handle, broker := broker }
    let live := (session.attachCalls commands).filter world.alive
    let opening : List RestartStep := live.map .stopped ++ handle.toList.map .closing
    let restart := Connection.restart name
    let result := (restart.run world).1
    (∃ steps, (∀ told, world.Unfolds told (restart.trace world) (restart.run world).2 ↔
          told = steps) ∧
      ((∃ failure, steps = opening ++ [.built (.error failure)] ∧ result = .error failure) ∨
        (∃ failure,
          steps = opening ++ [.built (.ok ()), .connected name (.error failure)] ∧
            result = .error failure.whileConnecting) ∨
          ∃ connection outcomes, outcomes.length = live.length ∧
            steps = opening ++ [.built (.ok ()), .connected name (.ok connection)] ++
              List.zipWith .started live outcomes ∧
            result = firstFailure outcomes)) ∧
      ∀ entry ∈ restart.trace world, ∀ component,
        entry.action.component? = some component → component ∈ live := by
  intro session world live opening restart result
  have listed : world.liveAttachments.map (·.1) = live :=
    Session.liveAttachments_eq name endpoint commands
  obtain ⟨steps, unfolds, course⟩ := Connection.restart_steps name world
  rw [listed] at course
  refine ⟨⟨steps, fun told => ⟨fun also => also.unique unfolds, ?_⟩, course⟩, ?_⟩
  · rintro rfl
    exact unfolds
  · intro entry member component touched
    rw [← listed]
    exact Connection.restart_touches member touched

end AmqpEndpoints
