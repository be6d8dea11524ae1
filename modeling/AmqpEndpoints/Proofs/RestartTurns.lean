import AmqpEndpoints.Proofs.Attachments
import AmqpEndpoints.Proofs.RestartCourse
import AmqpEndpoints.Proofs.Serial

/-!
# Restarts at once

Faults, restarts, attaching and letting go of components, in any interleaving. Restarts take turns,
each in one piece: a restart does what it would do by itself, from the world on in which it lists
the components. What others do meanwhile is attaching and releasing, and noting the outcome of a
restart that is over; a restart that has listed its components does not see any of that.
-/

set_option autoImplicit false

namespace AmqpEndpoints

open Program

/-!
## What a restart depends on
-/

def Action.isAside : Action → Bool
  | attach _ => true
  | release _ => true
  | note _ => true
  | _ => false

/-- A world without what is done aside: nothing is attached, released or noted. -/
def World.core (world : World) : World :=
  { world with
    attachments := []
    lastFailure := none
    components := world.components.map ({ · with released := false }) }

namespace World

variable (world : World)

theorem core_heldBy (component : ComponentId) :
    world.core.heldBy component = world.heldBy component := by
  unfold heldBy core
  rw [List.getElem?_map]
  cases world.components[component]? <;> rfl

theorem core_core : world.core.core = world.core := by
  simp [core]

theorem core_update (component : ComponentId) {change : Component → Component}
    (keeps : ∀ found : Component, { change { found with released := false } with released := false } =
      { change found with released := false }) :
    (world.core.update component change).core = (world.update component change).core := by
  unfold update core
  congr 1
  refine List.ext_getElem? fun index => ?_
  simp only [List.getElem?_map, List.getElem?_modify]
  cases world.components[index]? with
  | none => rfl
  | some found =>
      by_cases here : component = index
      · simp [here, keeps]
      · simp [here]

theorem core_setDispatcher (stream : StreamId) (reader : Option Dispatcher) :
    (world.setDispatcher stream reader).core = world.core.setDispatcher stream reader := by
  unfold setDispatcher core
  dsimp only
  split <;> rfl

/-- What an action gives, and what becomes of the core, is told by the core alone. Only a list of
the attached components is not. -/
theorem perform_core {action : Action} (other : action ≠ .snapshot) :
    (world.core.perform action).1 = (world.perform action).1 ∧
      (world.core.perform action).2.core = (world.perform action).2.core := by
  have unchanged := world.core_core
  cases action with
  | snapshot => exact absurd rfl other
  | held component => exact ⟨world.core_heldBy component, unchanged⟩
  | takeHeld component =>
      exact ⟨world.core_heldBy component, world.core_update component fun _ => rfl⟩
  | release component | lock component | unlock component | hold component =>
      exact ⟨rfl, world.core_update component fun _ => rfl⟩
  | spawn stream | cancel stream =>
      refine ⟨rfl, ?_⟩
      simp only [perform, core_setDispatcher, unchanged]
  | readHandle => exact ⟨rfl, unchanged⟩
  | _ => refine ⟨rfl, ?_⟩; simp [perform, core, record]

theorem core_aside {action : Action} (aside : action.isAside = true) :
    (world.perform action).2.core = world.core := by
  cases action with
  | attach | note => rfl
  | release component =>
      change (world.update component _).core = world.core
      rw [← core_update _ _ fun _ => rfl]
      unfold core update
      congr 1
      refine List.ext_getElem? fun index => ?_
      simp only [List.getElem?_map, List.getElem?_modify]
      cases world.components[index]? with
      | none => rfl
      | some found => by_cases here : component = index <;> simp [here]
  | _ => cases aside

end World

/-- Restarts work under their lock: one lists the components first, and from then on it depends on
the core of the world alone. -/
def restarting : Exclusion .restarts where
  view := World.core
  inner action := Mutex.restarts.Quiet action ∧ action.isAside = false ∧ action ≠ .snapshot
  aside := Action.isAside
  inner_quiet _ := fun ⟨quiet, shown, _⟩ => ⟨quiet, shown⟩
  aside_quiet action aside := by
    constructor <;> rintro rfl <;> cases aside
  determined action about first second same := by
    have other : action ≠ .snapshot := by
      rcases about with ⟨_, _, other⟩ | rfl
      · exact other
      · exact nofun
    obtain ⟨replied, became⟩ := first.perform_core other
    obtain ⟨replies, becomes⟩ := second.perform_core other
    rw [← replied, ← became, ← replies, ← becomes, same]
    exact ⟨rfl, rfl⟩
  invisible _ aside world := world.core_aside aside
  commutes action aside world := by
    cases action with
    | attach | release | note => rfl
    | _ => cases aside

theorem Action.OfComponent.inner {component : ComponentId} {action : Action}
    (about : action.OfComponent component) : restarting.inner action := by
  cases action with
  | lockRestart | unlockRestart | attach | release | note | snapshot => exact about.elim
  | _ => exact ⟨⟨nofun, nofun⟩, rfl, nofun⟩

theorem Action.OfConnection.inner {action : Action} (about : action.OfConnection) :
    restarting.inner action := by
  cases action with
  | issue | await | replaceHandle | takeHandle => exact ⟨⟨nofun, nofun⟩, rfl, nofun⟩
  | _ => exact about.elim

theorem Connection.cycle_stages (name : String) (components : List (ComponentId × Role)) :
    (cycle name components).Follows restarting.stages .working fun _ later => later = .done := by
  have stays := fun {α : Type} {program : Program α} (uses : program.Uses restarting.inner) =>
    uses.follows fun _ inner => restarting.inner_stays inner
  have stops := (uses_stopAll components).mono fun _ ⟨_, _, about⟩ => about.inner
  have starts := (uses_startAll components).mono fun _ ⟨_, _, about⟩ => about.inner
  refine (stays stops).bind fun _ => ?_
  refine (stays (uses_close.mono fun _ => Action.OfConnection.inner)).bind fun _ => ?_
  refine (stays ((uses_init name).mono fun _ => Action.OfConnection.inner)).bind fun opened => ?_
  cases opened with
  | error failure => exact ⟨.inr rfl, fun _ _ => rfl⟩
  | ok _ =>
      refine (stays starts).bind fun _ => ?_
      exact ⟨.inr rfl, fun _ _ => rfl⟩

theorem Connection.restart_stages (name : String) :
    (restart name).Follows restarting.stages .outside fun _ later => later = .done := by
  rw [restart_eq]
  refine follows_bind.mpr ⟨rfl, fun _ _ => follows_bind.mpr ⟨⟨⟨nofun, nofun⟩, rfl⟩, fun _ _ => ?_⟩⟩
  exact cycle_stages name _

/-!
## Demands
-/

inductive Demand where
  | fault (raised : Fault) (runsHere : Bool)
  | restart
  | attach (component : ComponentId)
  | release (component : ComponentId)

namespace Demand

variable (registry : Registry) (owned : ConnectionKey → Bool) (handler : HandlerKey) (name : String)

/-- What answers a demand. For a fault it is the restart that the handler schedules, if it schedules
one. -/
def program : Demand → Program (Except Failure Unit)
  | fault raised runsHere =>
    match registry.schedule owned handler runsHere raised with
    | none => return .ok ()
    | some _ => Fault.restart name
  | restart => Connection.restart name
  | attach component => do
    act (.attach component)
    return .ok ()
  | release component => do
    act (.release component)
    return .ok ()

def restarts : Demand → Bool
  | fault .. => true
  | restart => true
  | _ => false

def concerns (component : ComponentId) : Demand → Bool
  | attach other => other == component
  | release other => other == component
  | _ => false

/-- A demand as a job: a restart and what is done about its outcome, or something aside. -/
def job : Demand → Job (Except Failure Unit)
  | fault raised runsHere =>
    match registry.schedule owned handler runsHere raised with
    | none => .aside (return .ok ())
    | some _ => .turn (Connection.restart name) fun outcome => do
      act (.note outcome)
      return outcome
  | restart => .turn (Connection.restart name) pure
  | attach component => .aside do
    act (.attach component)
    return .ok ()
  | release component => .aside do
    act (.release component)
    return .ok ()

variable {registry owned handler name} {demand : Demand}

theorem job_program :
    (demand.job registry owned handler name).program =
      demand.program registry owned handler name := by
  cases demand with
  | fault raised runsHere =>
      simp only [job, program]
      cases registry.schedule owned handler runsHere raised <;> rfl
  | restart => exact bind_pure (Connection.restart name)
  | attach | release => rfl

theorem job_fits : (demand.job registry owned handler name).Fits restarting := by
  cases demand with
  | fault raised runsHere =>
      simp only [job]
      cases registry.schedule owned handler runsHere raised with
      | none => exact uses_pure _
      | some connection =>
          refine ⟨Connection.restart_stages name, fun outcome => ?_⟩
          exact Uses.bind (uses_act rfl) fun _ => uses_pure outcome
  | restart => exact ⟨Connection.restart_stages name, uses_pure⟩
  | attach | release => exact Uses.bind (uses_act rfl) fun _ => uses_pure _

theorem job_turn {work : Program (Except Failure Unit)}
    {tail : Except Failure Unit → Program (Except Failure Unit)}
    (is : demand.job registry owned handler name = .turn work tail) :
    work = Connection.restart name ∧ demand.restarts = true := by
  cases demand with
  | fault raised runsHere =>
      simp only [job] at is
      cases scheduled : registry.schedule owned handler runsHere raised with
      | none => simp [scheduled] at is
      | some connection =>
          simp [scheduled] at is
          exact ⟨is.1.symm, rfl⟩
  | restart =>
      cases is
      exact ⟨rfl, rfl⟩
  | attach | release => cases is

variable (name) in
/-- Where the handler can restart its connection, who asks for a restart gets a turn. -/
theorem job_of_restarts
    (bound : ∃ connection, (registry.handlers handler).target = some connection ∧
      owned connection = true)
    (runs : ∀ raised runsHere, demand = .fault raised runsHere →
      (runsHere || (registry.handlers handler).canRun) = true)
    (restarts : demand.restarts = true) :
    ∃ work tail, demand.job registry owned handler name = .turn work tail := by
  cases demand with
  | fault raised runsHere =>
      obtain ⟨connection, target, owns⟩ := bound
      have scheduled : registry.schedule owned handler runsHere raised = some connection := by
        simp [Registry.schedule, target, owns, runs raised runsHere rfl]
      simp only [job, scheduled]
      exact ⟨_, _, rfl⟩
  | restart => exact ⟨_, _, rfl⟩
  | attach | release => cases restarts

end Demand

/-!
## The steps of one restart
-/

namespace RestartStep

def stopped? : RestartStep → Option ComponentId
  | stopped component => some component
  | _ => none

def started? : RestartStep → Option ComponentId
  | started component _ => some component
  | _ => none

def opened? : RestartStep → Option ConnectionId
  | connected _ (.ok connection) => some connection
  | _ => none

theorem started_starts {live : List ComponentId} {outcomes : List (Except Failure Unit)}
    (counted : outcomes.length = live.length) :
    let starts := List.zipWith started live outcomes
    starts.filterMap stopped? = [] ∧ starts.filterMap opened? = [] ∧
      starts.filterMap started? = live := by
  induction live generalizing outcomes with
  | nil => simp
  | cons component rest ih =>
      cases outcomes with
      | nil => cases counted
      | cons outcome outcomes =>
          obtain ⟨stops, opens, starts⟩ := ih (Nat.succ.inj counted)
          exact ⟨stops, opens, congrArg (component :: ·) starts⟩

/-- How the steps of a restart are ordered that finds some components live: it stops them before
anything else is done, and starts them again if it opens a connection. -/
structure Cycles (live : List ComponentId) (steps : List RestartStep) : Prop where
  stops : ∃ rest, steps = live.map .stopped ++ rest ∧ rest.filterMap stopped? = []
  starts : steps.filterMap opened? = [] ∧ steps.filterMap started? = [] ∨
    ∃ connection, steps.filterMap opened? = [connection] ∧ steps.filterMap started? = live

end RestartStep

theorem Connection.restart_cycles (name : String) (world : World) :
    ∃ steps, (restart name).Unfolds world steps ∧
      RestartStep.Cycles (world.liveAttachments.map (·.1)) steps := by
  obtain ⟨steps, unfolds, course⟩ := restart_steps name world
  refine ⟨steps, unfolds, ?_⟩
  have closes : ∀ {other : Type} (part : RestartStep → Option other),
      (∀ connection, part (.closing connection) = none) →
        (world.handle.toList.map RestartStep.closing).filterMap part = [] := by
    intro other part silent
    cases world.handle <;> simp [silent]
  have noStop := closes RestartStep.stopped? fun _ => rfl
  have noStart := closes RestartStep.started? fun _ => rfl
  have noOpen := closes RestartStep.opened? fun _ => rfl
  obtain ⟨failure, rfl, _⟩ | ⟨failure, rfl, _⟩ | ⟨connection, outcomes, counted, rfl, _⟩ := course
  · refine ⟨⟨_, List.append_assoc .., ?_⟩, .inl ?_⟩
    · rw [List.filterMap_append, noStop]
      rfl
    · simp [noStart, noOpen, RestartStep.opened?, RestartStep.started?, Function.comp_def]
  · refine ⟨⟨_, List.append_assoc .., ?_⟩, .inl ?_⟩
    · rw [List.filterMap_append, noStop]
      rfl
    · simp [noStart, noOpen, RestartStep.opened?, RestartStep.started?, Function.comp_def]
  · obtain ⟨stops, opens, starts⟩ := RestartStep.started_starts counted
    rw [List.append_assoc, List.append_assoc]
    refine ⟨⟨_, rfl, ?_⟩, .inr ⟨connection, ?_⟩⟩
    · rw [List.filterMap_append, List.filterMap_append, noStop, stops]
      rfl
    · simp only [List.filterMap_append, noStart, noOpen, opens, starts]
      simp [RestartStep.opened?, RestartStep.started?, Function.comp_def, List.filterMap_cons]

/-!
## Turns
-/

section

variable {registry : Registry} {owned : ConnectionKey → Bool} {handler : HandlerKey} {name : String}
  {turns : List (Turn (Except Failure Unit))} {pool : Pool (Except Failure Unit)}

/-- Between two stops of one restart there are only stops of that restart. -/
theorem stops_together {turns : List (TaskId × World)} (distinct : (turns.map (·.1)).Nodup)
    {courses : World → List RestartStep}
    (cycles : ∀ found : World,
      RestartStep.Cycles (found.liveAttachments.map (·.1)) (courses found))
    {before between after : List (TaskId × RestartStep)} {task : TaskId} {first second : ComponentId}
    (split : turns.flatMap (fun turn => (courses turn.2).map (turn.1, ·)) =
      before ++ (task, .stopped first) :: (between ++ (task, .stopped second) :: after)) :
    ∀ entry ∈ between, ∃ component, entry = (task, .stopped component) := by
  obtain ⟨turn, member, rfl, earlier, middle, later, steps, rfl⟩ :=
    between_of_blocks (fun turn => courses turn.2) distinct split
  obtain ⟨rest, stopsFirst, none⟩ := (cycles turn.2).stops
  have parts : (turn.2.liveAttachments.map (·.1)).map RestartStep.stopped ++ rest =
      (earlier ++ .stopped first :: middle) ++ .stopped second :: later := by
    rw [← stopsFirst, steps, List.append_assoc, List.cons_append]
  intro entry inside
  obtain ⟨step, among, rfl⟩ := List.mem_map.mp inside
  obtain ⟨_, _, others⟩ | ⟨_, stops, _⟩ := List.append_eq_append_iff.mp parts
  · rw [others] at none
    simp [RestartStep.stopped?] at none
  · have stopped : step ∈ (turn.2.liveAttachments.map (·.1)).map RestartStep.stopped := by
      rw [stops]
      simp [among]
    obtain ⟨component, _, rfl⟩ := List.mem_map.mp stopped
    exact ⟨component, rfl⟩

theorem blocks_of_restarts (restarts : ∀ turn ∈ turns, turn.work = Connection.restart name) :
    turns.flatMap Turn.block =
      (turns.map fun turn => (turn.task, turn.found)).flatMap fun turn =>
        ((Connection.restart name).trace turn.2).map (turn.1, ·) := by
  induction turns with
  | nil => rfl
  | cons turn rest ih =>
      obtain ⟨own, others⟩ := List.forall_mem_cons.mp restarts
      rw [List.flatMap_cons, ih others, Turn.block, own, List.map_cons, List.flatMap_cons]

/-- Each turn is a restart that was asked for. -/
theorem Rests.restarts {demands : List Demand} {busy : Option TaskId}
    (rests : Rests restarting (demands.map (Demand.job registry owned handler name)) turns busy
      pool) :
    ∀ turn ∈ turns, turn.work = Connection.restart name ∧
      ∃ demand, demands[turn.task]? = some demand ∧ demand.restarts = true := by
  intro turn member
  obtain ⟨tail, listed⟩ := rests.own turn member
  rw [List.getElem?_map] at listed
  obtain ⟨demand, asked, is⟩ := Option.map_eq_some_iff.mp listed
  obtain ⟨same, about⟩ := Demand.job_turn is
  exact ⟨same, demand, asked, about⟩

end

/-- What any demands at once come to: restarts that have their turns, one of them perhaps underway.
Once all have ended, none is, and whoever was to restart had a turn. -/
theorem turns_of_demands (registry : Registry) (owned : ConnectionKey → Bool)
    (handler : HandlerKey) (name : String) (world : World) (happenings : List (Happening Demand)) :
    let restart := Connection.restart name
    let course := Pool.after (Demand.program registry owned handler name) world
    let pool := course happenings
    let demands := Happening.demands happenings
    ∃ (turns underway : List (TaskId × World)) (begun : List (TaskId × Done)),
      ((turns ++ underway).map (·.1)).Nodup ∧
      (∀ turn ∈ turns ++ underway,
        (∃ earlier, earlier <+: happenings ∧
          { turn.2 with restartLocked := true } = (course earlier).world) ∧
        ∃ demand, demands[turn.1]? = some demand ∧ demand.restarts = true) ∧
      pool.trace.filter (fun entry => !entry.2.action.isAside) =
        turns.flatMap (fun turn => (restart.trace turn.2).map (turn.1, ·)) ++ begun ∧
      (underway = [] ∧ begun = [] ∨ ∃ task found, underway = [(task, found)] ∧
        begun <+: (restart.trace found).map (task, ·)) ∧
      (pool.Finished → underway = [] ∧ begun = [] ∧ ∀ task demand work tail,
        demands[task]? = some demand →
          demand.job registry owned handler name = .turn work tail → task ∈ turns.map (·.1)) := by
  intro restart course pool demands
  have programs : (fun demand => (Demand.job registry owned handler name demand).program) =
      Demand.program registry owned handler name := funext fun _ => Demand.job_program
  have fits : ∀ demand, (Demand.job registry owned handler name demand).Fits restarting :=
    fun _ => Demand.job_fits
  have jobsFit : ∀ job ∈ demands.map (Demand.job registry owned handler name),
      job.Fits restarting := by
    intro job member
    obtain ⟨demand, _, rfl⟩ := List.mem_map.mp member
    exact fits demand
  obtain ⟨turns, serial, moments⟩ := Pool.after_serial restarting fits world trivial happenings
  simp only [programs] at serial moments
  obtain ⟨_, rests⟩ := serial.rests
  have distinct := rests.distinct
  have restarts : ∀ turn ∈ turns, turn.work = restart ∧
      ∃ demand, demands[turn.task]? = some demand ∧ demand.restarts = true := rests.restarts
  obtain ⟨past, underway, begun, rfl, shown, last, ended⟩ := serial.parts jobsFit
  let place : Turn (Except Failure Unit) → TaskId × World := fun turn => (turn.task, turn.found)
  have tasks : ∀ turns : List (Turn (Except Failure Unit)),
      (turns.map place).map (·.1) = turns.map Turn.task := by
    simp [place]
  refine ⟨past.map place, underway.map place, begun, ?_, ?_, ?_, ?_, fun finished => ?_⟩
  · rw [← List.map_append, tasks]
    exact distinct
  · rw [← List.map_append]
    intro turn member
    obtain ⟨own, listed, rfl⟩ := List.mem_map.mp member
    exact ⟨moments own listed, (restarts own listed).2⟩
  · rw [← blocks_of_restarts fun turn member => (restarts turn (List.mem_append_left _ member)).1]
    exact shown
  · obtain ⟨rfl, rfl⟩ | ⟨turn, rfl, within⟩ := last
    · exact .inl ⟨rfl, rfl⟩
    · refine .inr ⟨turn.task, turn.found, rfl, ?_⟩
      rw [← (restarts turn (List.mem_append_right _ (List.mem_singleton.mpr rfl))).1]
      exact within
  · obtain ⟨rfl, rfl, had⟩ := ended finished
    refine ⟨rfl, rfl, fun task demand work tail asked is => ?_⟩
    rw [tasks]
    refine had task work tail ?_
    rw [List.getElem?_map, asked, Option.map_some, is]

/-!
## Components that stay attached
-/

def World.Attends (component : ComponentId) (world : World) : Prop :=
  world.attachments.count component = 1 ∧ world.alive component = true

/-- Whether an action leaves it to others to attach and to release a component. -/
def Action.Spares (component : ComponentId) (action : Action) : Prop :=
  action ≠ .attach component ∧ action ≠ .release component

theorem World.Attends.perform {component : ComponentId} {world : World}
    (attends : world.Attends component) {action : Action} (spares : action.Spares component) :
    (world.perform action).2.Attends component := by
  obtain ⟨once, living⟩ := attends
  constructor
  · rw [perform_attachments]
    cases action with
    | attach other =>
        have different : other ≠ component := fun same => spares.1 (congrArg _ same)
        simp [once, different]
    | snapshot =>
        dsimp only
        rw [liveAttachments_map, List.count_filter living]
        exact once
    | _ => exact once
  · exact alive_perform living spares.2

theorem Connection.restart_spares (name : String) (component : ComponentId) :
    (Connection.restart name).Uses (Action.Spares component) := by
  rw [Connection.restart_eq]
  refine Uses.bind (uses_act ⟨nofun, nofun⟩) fun _ => ?_
  refine Uses.bind (uses_act ⟨nofun, nofun⟩) fun live => (uses_cycle name live).mono ?_
  intro action about
  constructor <;> rintro rfl
  · obtain ofConnection | ⟨_, _, ofComponent⟩ := about
    · exact ofConnection
    · exact ofComponent
  · obtain ofConnection | ⟨_, _, ofComponent⟩ := about
    · exact ofConnection
    · exact ofComponent

theorem Demand.program_spares {registry : Registry} {owned : ConnectionKey → Bool}
    {handler : HandlerKey} {name : String} {demand : Demand} {component : ComponentId}
    (other : demand.concerns component = false) :
    (demand.program registry owned handler name).Uses (Action.Spares component) := by
  cases demand with
  | fault raised runsHere =>
      simp only [program]
      cases registry.schedule owned handler runsHere raised with
      | none => exact uses_pure _
      | some connection =>
          refine (Connection.restart_spares name component).bind fun outcome => ?_
          exact Uses.bind (uses_act ⟨nofun, nofun⟩) fun _ => uses_pure outcome
  | restart => exact Connection.restart_spares name component
  | attach owner | release owner =>
      have different : owner ≠ component := by simpa [concerns] using other
      refine Uses.bind (uses_act ⟨?_, ?_⟩) fun _ => uses_pure _
      · rintro ⟨⟩ <;> exact different rfl
      · rintro ⟨⟩ <;> exact different rfl

/-- A component is stopped once, and started once if a connection is opened. -/
def RestartStep.Counts (component : ComponentId) (steps : List RestartStep) : Prop :=
  (steps.filterMap stopped?).count component = 1 ∧
    (steps.filterMap started?).count component = (steps.filterMap opened?).length

theorem RestartStep.Cycles.counts {component : ComponentId} {found : World}
    {steps : List RestartStep} (cycles : Cycles (found.liveAttachments.map (·.1)) steps)
    (attends : found.Attends component) : Counts component steps := by
  obtain ⟨once, living⟩ := attends
  have listed : (found.liveAttachments.map (·.1)).count component = 1 := by
    rw [World.liveAttachments_map, List.count_filter living]
    exact once
  constructor
  · obtain ⟨rest, rfl, none⟩ := cycles.stops
    rw [List.filterMap_append, none, List.append_nil, List.filterMap_map]
    simpa [Function.comp_def, stopped?] using listed
  · obtain ⟨opened, started⟩ | ⟨connection, opened, started⟩ := cycles.starts
    · rw [opened, started]
      rfl
    · rw [opened, started]
      exact listed

theorem RestartStep.counts_all {component : ComponentId} {courses : World → List RestartStep}
    {turns : List (TaskId × World)} (each : ∀ turn ∈ turns, Counts component (courses turn.2)) :
    let steps := turns.flatMap fun turn => (courses turn.2).map (turn.1, ·)
    (steps.filterMap (·.2.stopped?)).count component = turns.length ∧
      (steps.filterMap (·.2.started?)).count component =
        (steps.filterMap (·.2.opened?)).length := by
  induction turns with
  | nil => exact ⟨rfl, rfl⟩
  | cons turn rest ih =>
      obtain ⟨⟨stopped, started⟩, others⟩ := List.forall_mem_cons.mp each
      obtain ⟨stops, starts⟩ := ih others
      simp only [List.flatMap_cons, List.filterMap_append, List.count_append, List.length_append,
        List.filterMap_map, Function.comp_def, List.length_cons]
      rw [stops, starts, stopped, started]
      exact ⟨Nat.add_comm .., rfl⟩

/-- A component that no demand attaches or releases is attached when a restart lists what is. -/
theorem attends_at_turn {registry : Registry} {owned : ConnectionKey → Bool} {handler : HandlerKey}
    {name : String} {component : ComponentId} {world found : World}
    {happenings earlier : List (Happening Demand)} (attends : world.Attends component)
    (spared : ∀ demand ∈ Happening.demands happenings, demand.concerns component = false)
    (within : earlier <+: happenings)
    (moment : { found with restartLocked := true } =
      (Pool.after (Demand.program registry owned handler name) world earlier).world) :
    found.Attends component := by
  have kept : (found.perform Mutex.restarts.take).2.Attends component := by
    rw [show (found.perform Mutex.restarts.take).2 = _ from moment]
    refine Pool.after_keeps _ _ (fun _ spares _ attends => attends.perform spares) ?_ attends
    exact fun demand listed =>
      Demand.program_spares (spared demand ((within.filterMap _).subset listed))
  exact kept

/-- Any faults, restarts, attaching and letting go of components at once, in any interleaving, with a
handler that is bound to a connection somebody owns and knows where each of its restarts can run.
All that restarts do, but for noting what came of them, they do in turns: each does in one piece what
it would do by itself, from the world on in which it lists the components; the last one may be
underway. There is one way to read what a restart does as steps; its stops come before all others,
and between two of them there are only stops of that restart. Once all have ended, each fault and
each demand for a restart had its turn, and a component that is attached once from the beginning and
stays so was stopped in each of them, and started in each that could connect. -/
theorem restarts_take_turns (registry : Registry) (owned : ConnectionKey → Bool)
    (handler : HandlerKey) (name : String) (world : World) (happenings : List (Happening Demand))
    (bound : ∃ connection, (registry.handlers handler).target = some connection ∧
      owned connection = true)
    (runs : ∀ raised runsHere, .fault raised runsHere ∈ Happening.demands happenings →
      (runsHere || (registry.handlers handler).canRun) = true) :
    let restart := Connection.restart name
    let course := Pool.after (Demand.program registry owned handler name) world
    let begins : World → Prop := fun found => ∃ earlier, earlier <+: happenings ∧
      { found with restartLocked := true } = (course earlier).world
    let pool := course happenings
    let demands := Happening.demands happenings
    ∃ (turns underway : List (TaskId × World)) (begun : List (TaskId × Done))
        (courses : World → List RestartStep),
      let steps := fun turns : List (TaskId × World) =>
        turns.flatMap fun turn => (courses turn.2).map (turn.1, ·)
      (∀ found told, found.Unfolds told (restart.trace found) (restart.run found).2 ↔
        told = courses found) ∧
      (∀ found, ∃ rest,
        courses found = (found.liveAttachments.map (·.1)).map .stopped ++ rest ∧
          rest.filterMap (·.stopped?) = []) ∧
      pool.trace.filter (fun entry => !entry.2.action.isAside) =
        turns.flatMap (fun turn => (restart.trace turn.2).map (turn.1, ·)) ++ begun ∧
      (∀ turn ∈ turns, begins turn.2 ∧
        ∃ demand, demands[turn.1]? = some demand ∧ demand.restarts = true) ∧
      (turns.map (·.1)).Nodup ∧
      (underway = [] ∧ begun = [] ∨ ∃ task found, underway = [(task, found)] ∧
        task ∉ turns.map (·.1) ∧ begins found ∧ begun <+: (restart.trace found).map (task, ·)) ∧
      (∀ before between after task first second,
        steps (turns ++ underway) =
            before ++ (task, .stopped first) :: (between ++ (task, .stopped second) :: after) →
          ∀ entry ∈ between, ∃ component, entry = (task, .stopped component)) ∧
      (pool.Finished →
        underway = [] ∧ begun = [] ∧
        (∀ task demand, demands[task]? = some demand → demand.restarts = true →
          task ∈ turns.map (·.1)) ∧
        ∀ component, world.Attends component →
          (∀ demand ∈ demands, demand.concerns component = false) →
          (∀ turn ∈ turns,
            ((courses turn.2).filterMap (·.stopped?)).count component = 1 ∧
              ((courses turn.2).filterMap (·.started?)).count component =
                ((courses turn.2).filterMap (·.opened?)).length) ∧
          ((steps turns).filterMap (·.2.stopped?)).count component = turns.length ∧
            ((steps turns).filterMap (·.2.started?)).count component =
              ((steps turns).filterMap (·.2.opened?)).length) := by
  intro restart course begins pool demands
  choose courses unfolds cycles using Connection.restart_cycles name
  obtain ⟨turns, underway, begun, distinct, origins, shown, last, ended⟩ :=
    turns_of_demands registry owned handler name world happenings
  have apart := distinct
  rw [List.map_append, List.nodup_append] at apart
  refine ⟨turns, underway, begun, courses,
    fun found told => ⟨fun also => also.unique (unfolds found), ?_⟩,
    fun found => (cycles found).stops, shown,
    fun turn member => origins turn (List.mem_append_left _ member), apart.1, ?_,
    fun _ _ _ _ _ _ => stops_together distinct cycles, fun finished => ?_⟩
  · rintro rfl
    exact unfolds found
  · obtain idle | ⟨task, found, rfl, within⟩ := last
    · exact .inl idle
    · refine .inr ⟨task, found, rfl, fun member => ?_, ?_, within⟩
      · exact apart.2.2 _ member _ (List.mem_singleton.mpr rfl) rfl
      · exact (origins (task, found) (List.mem_append_right turns (List.mem_singleton.mpr rfl))).1
  · obtain ⟨rfl, rfl, had⟩ := ended finished
    refine ⟨rfl, rfl, fun task demand asked about => ?_, fun component attends spared => ?_⟩
    · obtain ⟨work, tail, is⟩ := Demand.job_of_restarts name bound
        (fun raised runsHere same => runs raised runsHere (same ▸ List.mem_of_getElem? asked)) about
      exact had task demand work tail asked is
    · have counts : ∀ turn ∈ turns, RestartStep.Counts component (courses turn.2) := by
        intro turn member
        obtain ⟨⟨_, within, moment⟩, _⟩ := origins turn (List.mem_append_left _ member)
        exact (cycles turn.2).counts (attends_at_turn attends spared within moment)
      exact ⟨counts, RestartStep.counts_all counts⟩

/-- A fault and a restart at once, while another component is attached and let go of. -/
theorem inbox_restarted_twice :
    let session := (Session.create "host" (.ok ())).after
      [.registerHandler, .init, .consumer "inbox" { queue := "work" },
        .producer "outbox" { queue := "work" }]
    let happenings : List (Happening Demand) :=
      [.ask (.fault ⟨.consumer, "gone"⟩ false), .ask .restart, .ask (.attach 1), .ask (.release 1)] ++
        (List.replicate 90 [.advance 0, .advance 1, .advance 2, .advance 3]).flatten
    let pool := Pool.after (Demand.program session.registry session.ownsAny Session.handlerKey
      session.name) session.world happenings
    let restart := Connection.restart "host"
    pool.Finished ∧ ∃ turns : List (TaskId × World), 0 ∈ turns.map (·.1) ∧ 1 ∈ turns.map (·.1) ∧
      pool.trace.filter (fun entry => !entry.2.action.isAside) =
        turns.flatMap (fun turn => (restart.trace turn.2).map (turn.1, ·)) ∧
      ∀ turn ∈ turns, ∃ steps, restart.Unfolds turn.2 steps ∧
        (steps.filterMap (·.stopped?)).count 0 = 1 := by
  intro session happenings pool restart
  have finished : pool.Finished := by decide +kernel
  have canRun : (session.registry.handlers Session.handlerKey).canRun = true := by decide +kernel
  obtain ⟨turns, underway, begun, courses, unfolds, _, shown, _, _, _, _, ended⟩ :=
    restarts_take_turns session.registry session.ownsAny Session.handlerKey session.name
      session.world happenings ⟨Session.connectionKey, by decide +kernel, by decide +kernel⟩
      fun _ runsHere _ => canRun ▸ Bool.or_true runsHere
  obtain ⟨_, rfl, had, counted⟩ := ended finished
  rw [List.append_nil] at shown
  refine ⟨finished, turns, had 0 _ rfl rfl, had 1 _ rfl rfl, shown, fun turn member => ?_⟩
  obtain ⟨each, _⟩ := counted 0 ⟨by decide +kernel, by decide +kernel⟩ (by decide +kernel)
  exact ⟨courses turn.2, (unfolds turn.2 _).mpr rfl, (each turn member).1⟩

end AmqpEndpoints
