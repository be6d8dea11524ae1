import AmqpEndpoints.Proofs.Moves
import AmqpEndpoints.Proofs.Pool

/-!
# The failure of the last restart

A restart that a handler runs notes its outcome when it is over, and by then another restart may
have begun. So what is noted at the end is the outcome of the restart that was the last to note one,
which need not be the last that took the lock; and a restart that no handler runs notes nothing.
-/

set_option autoImplicit false

namespace AmqpEndpoints

open Program

def failure? : Except Failure Unit → Option Failure
  | .ok _ => none
  | .error failure => some failure

def Action.NotesNothing (action : Action) : Prop :=
  ∀ outcome, action ≠ .note outcome

/-- Whether an action has nothing to do with restarts: it notes no outcome and does not take the
lock. -/
def Action.LeavesRestarts (action : Action) : Prop :=
  action.NotesNothing ∧ action ≠ .lockRestart

theorem Action.OfCycle.notesNothing {components : List (ComponentId × Role)} {action : Action}
    (about : action.OfCycle components) : action.NotesNothing := by
  rintro outcome rfl
  obtain ofConnection | ⟨entry, _, ofComponent⟩ := about
  · exact ofConnection
  · exact ofComponent

theorem Connection.restart_notesNothing (name : String) :
    (Connection.restart name).Uses Action.NotesNothing := by
  rw [Connection.restart_eq]
  refine Uses.bind (uses_act nofun) fun _ => Uses.bind (uses_act nofun) fun live => ?_
  exact (Connection.uses_cycle name live).mono fun _ about => about.notesNothing

/-- A task notes at most one outcome; the phase tells which. -/
def announcing : Discipline (Option (Except Failure Unit)) where
  allows
    | phase, .note _ => phase = none
    | _, _ => True
  after
    | _, .note outcome, _ => some outcome
    | phase, _, _ => phase

theorem Action.NotesNothing.stays {action : Action} (notes : action.NotesNothing)
    (phase : Option (Except Failure Unit)) :
    announcing.allows phase action ∧ ∀ reply, announcing.after phase action reply = phase := by
  cases action with
  | note outcome => exact absurd rfl (notes outcome)
  | _ => exact ⟨trivial, fun _ => rfl⟩

/-- The restart of a handler notes what it gives. -/
theorem Fault.restart_announces (name : String) :
    (Fault.restart name).Follows announcing none fun result later => later = some result := by
  have silent := (Connection.restart_notesNothing name).follows fun _ notes => notes.stays none
  refine silent.bind fun outcome => ?_
  exact ⟨rfl, fun _ _ => rfl⟩

/-- Who noted an outcome notes no other one. -/
theorem announcing_stays {entries : List Done} {outcome : Except Failure Unit}
    (accepts : announcing.Accepts (some outcome) entries) :
    (∀ entry ∈ entries, entry.action.NotesNothing) ∧
      announcing.reached (some outcome) entries = some outcome := by
  induction entries with
  | nil => exact ⟨List.forall_mem_nil _, rfl⟩
  | cons entry rest ih =>
      obtain ⟨allowed, others⟩ := accepts
      have notes : entry.action.NotesNothing := by
        intro noted same
        rw [same] at allowed
        cases allowed
      have same := (notes.stays (some outcome)).2 entry.reply
      rw [same] at others
      obtain ⟨silent, reached⟩ := ih others
      refine ⟨List.forall_mem_cons.mpr ⟨notes, silent⟩, ?_⟩
      rw [Discipline.reached, List.foldl_cons, same]
      exact reached

theorem announcing_reached_iff {entries : List Done} {outcome : Except Failure Unit}
    (accepts : announcing.Accepts none entries) :
    announcing.reached none entries = some outcome ↔ ⟨.note outcome, ()⟩ ∈ entries := by
  induction entries with
  | nil => simp [Discipline.reached]
  | cons entry rest ih =>
      obtain ⟨_, others⟩ := accepts
      by_cases notes : entry.action.NotesNothing
      · have same := (notes.stays none).2 entry.reply
        have other : (⟨.note outcome, ()⟩ : Done) ≠ entry := by
          rintro rfl
          exact notes outcome rfl
        rw [same] at others
        rw [Discipline.reached, List.foldl_cons, same, List.mem_cons, or_iff_right other]
        exact ih others
      · -- What is noted first is the only outcome that is noted at all.
        obtain ⟨noted, same⟩ : ∃ noted, entry.action = .note noted := by
          simpa [Action.NotesNothing] using notes
        obtain ⟨action, reply⟩ := entry
        cases same
        obtain ⟨silent, reached⟩ := announcing_stays others
        have once : (⟨.note outcome, ()⟩ : Done) ∉ rest := fun member =>
          silent _ member outcome rfl
        rw [List.mem_cons, or_iff_left once]
        change announcing.reached (some noted) rest = some outcome ↔ _
        rw [reached]
        constructor
        · intro same
          cases same
          rfl
        · intro same
          cases same
          rfl

/-- The restart of a handler notes what it gives, and nothing else. -/
theorem Fault.mem_note_iff {name : String} {entries : List Done}
    {result outcome : Except Failure Unit}
    (leaves : (Fault.restart name).Leaves entries (.done result)) :
    ⟨.note outcome, ()⟩ ∈ entries ↔ outcome = result := by
  obtain ⟨accepts, reached⟩ := leaves.follows (Fault.restart_announces name) fun _ _ _ => trivial
  rw [← announcing_reached_iff accepts, show announcing.reached none entries = _ from reached]
  exact ⟨fun same => (Option.some.inj same).symm, fun same => congrArg some same.symm⟩

/-- A program that begins by taking the lock of restarts took it if it ended. -/
theorem Program.Leaves.locked {α : Type} {program : Program α} {entries : List Done} {result : α}
    (leaves : program.Leaves entries (.done result))
    (begins : ∃ next, program = .step .lockRestart next) : ⟨.lockRestart, ()⟩ ∈ entries := by
  obtain ⟨next, rfl⟩ := begins
  cases leaves with
  | step later => exact List.mem_cons_self ..

namespace Pool

variable {α : Type}

def noted? : TaskId × Done → Option (TaskId × Except Failure Unit)
  | (task, ⟨.note outcome, _⟩) => some (task, outcome)
  | _ => none

def locks? : TaskId × Done → Option TaskId
  | (task, ⟨.lockRestart, _⟩) => some task
  | _ => none

/-- The outcomes that tasks noted, in order. -/
def notes (pool : Pool α) : List (TaskId × Except Failure Unit) :=
  pool.trace.filterMap noted?

/-- The tasks that took the lock of restarts, in order. -/
def lockers (pool : Pool α) : List TaskId :=
  pool.trace.filterMap locks?

def lastToNote (pool : Pool α) : Option TaskId :=
  pool.notes.getLast?.map (·.1)

def lastToLock (pool : Pool α) : Option TaskId :=
  pool.lockers.getLast?

/-- The failure that a task ended with. -/
def failureOf (pool : Pool (Except Failure Unit)) (task : TaskId) : Option Failure :=
  (pool.result? task).bind failure?

theorem mem_notes_iff {pool : Pool α} {task : TaskId} {outcome : Except Failure Unit} :
    (task, outcome) ∈ pool.notes ↔ ⟨.note outcome, ()⟩ ∈ pool.doneBy task := by
  rw [mem_doneBy]
  constructor
  · intro member
    obtain ⟨⟨owner, action, reply⟩, listed, same⟩ := List.mem_filterMap.mp member
    cases action with
    | note noted =>
        cases same
        exact listed
    | _ => cases same
  · exact fun member => List.mem_filterMap.mpr ⟨_, member, rfl⟩

theorem mem_lockers {pool : Pool α} {task : TaskId}
    (locked : ⟨.lockRestart, ()⟩ ∈ pool.doneBy task) : task ∈ pool.lockers :=
  List.mem_filterMap.mpr ⟨_, mem_doneBy.mp locked, rfl⟩

/-- What is kept is what was noted last. -/
theorem run_lastFailure (world : World) (choices : List (Choice α)) :
    (Pool.run { world := world } choices).world.lastFailure =
      match (Pool.run { world := world } choices).notes.getLast? with
      | none => world.lastFailure
      | some (_, outcome) => failure? outcome := by
  let invariant : Pool α → Prop := fun pool => pool.world.lastFailure =
    match pool.notes.getLast? with
    | none => world.lastFailure
    | some (_, outcome) => failure? outcome
  change invariant _
  refine run_induction choices (fun _ _ holds => holds) ?_ rfl
  intro pool task action next _ _ holds
  change (pool.world.perform action).2.lastFailure = _
  rw [World.perform_lastFailure]
  simp only [notes, Pool.act, List.filterMap_append]
  cases action with
  | note outcome => cases outcome <;> simp [noted?, failure?]
  | _ =>
      simp only [List.filterMap_cons, List.filterMap_nil, noted?, List.append_nil]
      exact holds

variable {world : World} {choices : List (Choice (Except Failure Unit))}

/-- A task that noted an outcome ended with it. -/
theorem result_of_mem_notes (name : String)
    (spawned : ∀ program ∈ Choice.programs choices, program = Fault.restart name ∨
      program = Connection.restart name ∨ program.Uses Action.LeavesRestarts)
    (finished : (Pool.run { world := world } choices).Finished) {task : TaskId}
    {outcome : Except Failure Unit}
    (noted : (task, outcome) ∈ (Pool.run { world := world } choices).notes) :
    (Pool.run { world := world } choices).result? task = some outcome := by
  have executes := Pool.run_executes world choices
  have done := mem_notes_iff.mp noted
  have inside := executes.known _ (mem_doneBy.mp done)
  have present := List.getElem?_eq_getElem inside
  obtain ⟨result, ended, leaves⟩ := executes.ended finished present
  obtain restarts | restarts | leavesRestarts := spawned _ (List.getElem_mem inside)
  · rw [restarts] at leaves
    rw [ended, (Fault.mem_note_iff leaves).mp done]
  · rw [restarts] at leaves
    exact absurd rfl (leaves.allowed (Connection.restart_notesNothing name) _ done outcome)
  · exact absurd rfl ((leaves.allowed leavesRestarts _ done).1 outcome)

/-- What is kept when all tasks have ended is the failure of the task that noted last. -/
theorem lastFailure_eq (name : String)
    (spawned : ∀ program ∈ Choice.programs choices, program = Fault.restart name ∨
      program = Connection.restart name ∨ program.Uses Action.LeavesRestarts)
    (finished : (Pool.run { world := world } choices).Finished) :
    (Pool.run { world := world } choices).world.lastFailure =
      match (Pool.run { world := world } choices).lastToNote with
      | none => world.lastFailure
      | some writer => (Pool.run { world := world } choices).failureOf writer := by
  rw [run_lastFailure, lastToNote]
  cases last : (Pool.run { world := world } choices).notes.getLast? with
  | none => rfl
  | some noted =>
      obtain ⟨writer, outcome⟩ := noted
      have ended := result_of_mem_notes name spawned finished (List.mem_of_getLast? last)
      change failure? outcome = failureOf _ writer
      rw [failureOf, ended, Option.bind_some]

end Pool

/-- Any faults, restarts and other programs at once, in any interleaving. When all have ended, each
restart took the lock of restarts, and each of a handler noted what it gave. The failure that is
kept is then the one of the task that took the lock last, exactly if the task that noted its outcome
last ended with the same. -/
theorem lastFailure_eq_iff (name : String) (world : World)
    (choices : List (Choice (Except Failure Unit)))
    (spawned : ∀ program ∈ Choice.programs choices, program = Fault.restart name ∨
      program = Connection.restart name ∨ program.Uses Action.LeavesRestarts)
    (finished : (Pool.run { world := world } choices).Finished) :
    let pool := Pool.run { world := world } choices
    (∀ task, (Choice.programs choices)[task]? = some (Fault.restart name) →
        task ∈ pool.lockers ∧ ∃ outcome, pool.result? task = some outcome ∧
          ∀ noted, (task, noted) ∈ pool.notes ↔ noted = outcome) ∧
      (∀ task, (Choice.programs choices)[task]? = some (Connection.restart name) →
        task ∈ pool.lockers) ∧
      (pool.world.lastFailure = pool.lastToLock.bind pool.failureOf ↔
        match pool.lastToNote with
        | none => world.lastFailure = pool.lastToLock.bind pool.failureOf
        | some writer => pool.failureOf writer = pool.lastToLock.bind pool.failureOf) := by
  intro pool
  have executes : pool.Executes (Choice.programs choices) := Pool.run_executes world choices
  refine ⟨fun task present => ?_, fun task present => ?_, ?_⟩
  · obtain ⟨result, ended, leaves⟩ := executes.ended finished present
    refine ⟨Pool.mem_lockers (leaves.locked ⟨_, rfl⟩), result, ended, fun noted => ?_⟩
    exact Pool.mem_notes_iff.trans (Fault.mem_note_iff leaves)
  · obtain ⟨result, _, leaves⟩ := executes.ended finished present
    exact Pool.mem_lockers (leaves.locked ⟨_, rfl⟩)
  · rw [Pool.lastFailure_eq name spawned finished]
    cases pool.lastToNote with
    | none => exact Iff.rfl
    | some writer => exact Iff.rfl

/-- Of two faults the first cannot connect and notes that before the other one takes the lock. -/
theorem lastFailure_of_restarts_in_order :
    let world : World := { broker := { script := [(.connect, .fails (.connection "down"))] } }
    let restart := Choice.spawn (Fault.restart "host")
    let choices := [restart, restart] ++ List.replicate 9 (.advance 0) ++
      List.replicate 10 (.advance 1)
    let pool := Pool.run { world := world } choices
    (∀ program ∈ Choice.programs choices, program = Fault.restart "host" ∨
        program = Connection.restart "host" ∨ program.Uses Action.LeavesRestarts) ∧
      pool.Finished ∧ pool.lastToLock = some 1 ∧ pool.world.lastFailure = none := by
  intro world restart choices
  have programs : Choice.programs choices = [Fault.restart "host", Fault.restart "host"] := rfl
  have spawned : ∀ program ∈ Choice.programs choices, program = Fault.restart "host" ∨
      program = Connection.restart "host" ∨ program.Uses Action.LeavesRestarts := by
    intro program member
    rw [programs] at member
    have same : program = Fault.restart "host" := by simpa using member
    exact .inl same
  have finished : (Pool.run { world := world } choices).Finished := by decide +kernel
  have locked : (Pool.run { world := world } choices).lastToLock = some 1 := by decide +kernel
  have noted : (Pool.run { world := world } choices).lastToNote = some 1 := by decide +kernel
  have succeeded : (Pool.run { world := world } choices).failureOf 1 = none := by decide +kernel
  have kept := (lastFailure_eq_iff "host" world choices spawned finished).2.2
  rw [noted, locked, Option.bind_some, succeeded] at kept
  exact ⟨spawned, finished, locked, kept.mpr succeeded⟩

/-- A failure stays although a later restart succeeded: where no handler ran that one, and where the
one that failed notes its outcome after the other. -/
theorem stale_lastFailure :
    (let failed := (Session.create "host" (.ok ())).after
        [.registerHandler, .script [(.connect, .fails (.connection "down"))],
          .fault ⟨.consumer, "boom"⟩ false]
      let restarted := failed.run (Connection.restart "host")
      restarted.1 = .ok () ∧ restarted.2.world.lastFailure = some (.connection "down")) ∧
    (let world : World := { broker := { script := [(.connect, .fails (.connection "down"))] } }
      let restart := Choice.spawn (Fault.restart "host")
      let pool := Pool.run { world := world } ([restart, restart] ++
        List.replicate 8 (.advance 0) ++ List.replicate 10 (.advance 1) ++ [.advance 0])
      pool.Finished ∧ pool.lastToLock = some 1 ∧ pool.failureOf 1 = none ∧
        pool.world.lastFailure = some (.connection "down")) := by
  constructor
  · exact ⟨rfl, rfl⟩
  · intro world restart pool
    decide +kernel

end AmqpEndpoints
