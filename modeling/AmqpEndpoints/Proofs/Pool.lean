import Mathlib.Data.List.Induction
import AmqpEndpoints.Proofs.Discipline

/-!
# Programs that run at once

A pool of tasks works on one world. Each choice of the scheduler spawns a task or lets one do its
next action; a task that waits for a lock, or has ended, does nothing. What holds for all lists of
choices holds for every interleaving.
-/

set_option autoImplicit false

namespace AmqpEndpoints

abbrev TaskId := Nat

structure Pool (α : Type) where
  world : World
  tasks : List (Program α) := []
  trace : List (TaskId × Done) := []

inductive Choice (α : Type) where
  | spawn (program : Program α)
  | advance (task : TaskId)

instance (world : World) (action : Action) : Decidable (world.Enabled action) :=
  match action with
  | .lockRestart => inferInstanceAs (Decidable (world.restartLocked = false))
  | .lock component =>
    match found : world.components[component]? with
    | none => .isTrue (by simp [World.Enabled, found])
    | some present => decidable_of_iff (present.locked = false) (by simp [World.Enabled, found])
  | .issue _ | .await _ | .readHandle | .replaceHandle _ | .takeHandle | .unlockRestart
  | .attach _ | .release _ | .snapshot | .unlock _ | .held _ | .takeHeld _ | .hold ..
  | .drawTag | .spawn .. | .cancel _ | .listen .. | .endSpan _ | .note _ => .isTrue trivial

def Choice.programs {α : Type} (choices : List (Choice α)) : List (Program α) :=
  choices.filterMap fun
    | .spawn program => some program
    | .advance _ => none

namespace Discipline

variable {Phase : Type} (rule : Discipline Phase)

def reached (phase : Phase) (entries : List Done) : Phase :=
  entries.foldl (fun phase entry => rule.after phase entry.action entry.reply) phase

/-- Whatever a program may do, the phase lists what it did of a kind. -/
def recording (kind : Action → Bool) : Discipline (List Done) where
  allows _ _ := True
  after recorded action reply :=
    if kind action then recorded ++ [⟨action, reply⟩] else recorded

theorem recording_reached (kind : Action → Bool) (recorded entries : List Done) :
    (recording kind).reached recorded entries = recorded ++ entries.filter (kind ·.action) := by
  induction entries generalizing recorded with
  | nil => exact (List.append_nil recorded).symm
  | cons entry rest ih =>
      refine (ih _).trans ?_
      simp only [recording, List.filter_cons]
      split
      · exact List.append_assoc ..
      · rfl

/-- Whether each of some actions is allowed in the phase that the ones before it lead to. -/
def Accepts (phase : Phase) : List Done → Prop
  | [] => True
  | entry :: rest =>
    rule.allows phase entry.action ∧ Accepts (rule.after phase entry.action entry.reply) rest

end Discipline

/-!
## What is left of a program
-/

namespace Program

variable {α Phase : Type} {program rest : Program α} {entries : List Done}

/-- What is left of a program once it did some actions. -/
inductive Leaves {α : Type} : Program α → List Done → Program α → Prop where
  | refl (program : Program α) : Leaves program [] program
  | step {action : Action} {next : action.Reply → Program α} {reply : action.Reply}
      {entries : List Done} {rest : Program α} (later : Leaves (next reply) entries rest) :
      Leaves (.step action next) (⟨action, reply⟩ :: entries) rest

namespace Leaves

theorem snoc {action : Action} {next : action.Reply → Program α}
    (leaves : program.Leaves entries (.step action next)) (reply : action.Reply) :
    program.Leaves (entries ++ [⟨action, reply⟩]) (next reply) := by
  generalize left : Program.step action next = rest at leaves
  induction leaves with
  | refl program =>
      subst left
      exact .step (.refl _)
  | step later ih => exact .step (ih left)

theorem append {more : List Done} {last : Program α} (leaves : program.Leaves entries rest)
    (later : rest.Leaves more last) : program.Leaves (entries ++ more) last := by
  induction leaves with
  | refl program => exact later
  | step _ ih => exact .step (ih later)

theorem follows {rule : Discipline Phase} {phase : Phase} {ends : α → Phase → Prop}
    (leaves : program.Leaves entries rest) (follows : program.Follows rule phase ends)
    (possible : ∀ phase action reply, rule.possible phase action reply) :
    rule.Accepts phase entries ∧ rest.Follows rule (rule.reached phase entries) ends := by
  induction leaves generalizing phase with
  | refl program => exact ⟨trivial, follows⟩
  | step later ih =>
      obtain ⟨accepts, left⟩ := ih (follows.2 _ (possible ..))
      exact ⟨⟨follows.1, accepts⟩, left⟩

theorem allowed {allowed : Action → Prop} (leaves : program.Leaves entries rest)
    (uses : program.Uses allowed) : ∀ entry ∈ entries, allowed entry.action := by
  induction leaves with
  | refl program => exact List.forall_mem_nil _
  | step later ih => exact List.forall_mem_cons.mpr ⟨uses.1, ih (uses.2 _ trivial)⟩

theorem recorded {kind : Action → Bool} {result : α} {ends : α → List Done → Prop}
    (leaves : program.Leaves entries (.done result))
    (follows : program.Follows (.recording kind) [] ends) :
    ends result (entries.filter (kind ·.action)) := by
  obtain ⟨_, ended⟩ := leaves.follows follows fun _ _ _ => trivial
  rwa [Discipline.recording_reached, List.nil_append] at ended

end Leaves

theorem leaves_trace (program : Program α) (world : World) :
    program.Leaves (program.trace world) (.done (program.run world).1) := by
  induction program generalizing world with
  | done result => exact .refl _
  | step action next ih => exact .step (ih _ _)

theorem leaves_bind_iff {β : Type} {next : α → Program β} {result : β} :
    (program >>= next).Leaves entries (.done result) ↔
      ∃ first later middle, entries = first ++ later ∧ program.Leaves first (.done middle) ∧
        (next middle).Leaves later (.done result) := by
  change (program.bind next).Leaves entries (.done result) ↔ _
  induction program generalizing entries with
  | done middle =>
      constructor
      · exact fun leaves => ⟨[], entries, middle, rfl, .refl _, leaves⟩
      · rintro ⟨first, later, _, rfl, own, leaves⟩
        cases own
        exact leaves
  | step action rest ih =>
      constructor
      · intro leaves
        cases leaves with
        | step leaves =>
            obtain ⟨first, later, middle, rfl, own, left⟩ := (ih _).mp leaves
            exact ⟨_, later, middle, rfl, .step own, left⟩
      · rintro ⟨first, later, middle, rfl, own, leaves⟩
        cases own with
        | step own => exact .step ((ih _).mpr ⟨_, later, middle, rfl, own, leaves⟩)

/-- What is left of a program, and the world then, once it did some actions on a world by itself. -/
inductive Advances {α : Type} : Program α → World → List Done → Program α → World → Prop where
  | refl (program : Program α) (world : World) : Advances program world [] program world
  | step {action : Action} {next : action.Reply → Program α} {world after : World}
      {entries : List Done} {rest : Program α}
      (later : Advances (next (world.perform action).1) (world.perform action).2 entries rest after) :
      Advances (.step action next) world (⟨action, (world.perform action).1⟩ :: entries) rest after

namespace Advances

variable {world after : World}

theorem snoc {action : Action} {next : action.Reply → Program α}
    (advances : program.Advances world entries (.step action next) after) :
    program.Advances world (entries ++ [⟨action, (after.perform action).1⟩])
      (next (after.perform action).1) (after.perform action).2 := by
  generalize left : Program.step action next = rest at advances
  induction advances with
  | refl program world =>
      subst left
      exact .step (.refl _ _)
  | step later ih => exact .step (ih left)

theorem nil (advances : program.Advances world [] rest after) : rest = program ∧ after = world := by
  cases advances
  exact ⟨rfl, rfl⟩

theorem single {action : Action} {reply : action.Reply}
    (advances : program.Advances world [⟨action, reply⟩] rest after) :
    ∃ next, program = .step action next ∧ rest = next (world.perform action).1 ∧
      after = (world.perform action).2 := by
  cases advances with
  | step later => exact ⟨_, rfl, later.nil⟩

theorem leaves (advances : program.Advances world entries rest after) :
    program.Leaves entries rest := by
  induction advances with
  | refl program world => exact .refl program
  | step later ih => exact .step ih

theorem trace_eq (advances : program.Advances world entries rest after) :
    program.trace world = entries ++ rest.trace after := by
  induction advances with
  | refl program world => rfl
  | step later ih => exact congrArg _ ih

theorem run_eq (advances : program.Advances world entries rest after) :
    program.run world = rest.run after := by
  induction advances with
  | refl program world => rfl
  | step later ih => exact ih

/-- What every allowed action keeps between the phase and the world holds on the way as well. -/
theorem during {rule : Discipline Phase} {phase : Phase} {ends : α → Phase → Prop}
    (advances : program.Advances world entries rest after)
    (follows : program.Follows rule phase ends) (invariant : Phase → World → Prop)
    (keeps : ∀ phase world action, rule.allows phase action → invariant phase world →
      rule.possible phase action (world.perform action).1 ∧
        invariant (rule.after phase action (world.perform action).1) (world.perform action).2)
    (holds : invariant phase world) : invariant (rule.reached phase entries) after := by
  induction advances generalizing phase with
  | refl program world => exact holds
  | step later ih =>
      obtain ⟨given, kept⟩ := keeps _ _ _ follows.1 holds
      exact ih (follows.2 _ given) kept

end Advances

end Program

namespace Pool

variable {α : Type}

def spawn (pool : Pool α) (program : Program α) : Pool α :=
  { pool with tasks := pool.tasks ++ [program] }

def act (pool : Pool α) (task : TaskId) (action : Action) (next : action.Reply → Program α) :
    Pool α where
  world := (pool.world.perform action).2
  tasks := pool.tasks.set task (next (pool.world.perform action).1)
  trace := pool.trace ++ [(task, ⟨action, (pool.world.perform action).1⟩)]

/-- A pool in which a task did its next action, if it has one that it can do now. -/
def advance (pool : Pool α) (task : TaskId) : Pool α :=
  match pool.tasks[task]? with
  | some (.step action next) =>
    if pool.world.Enabled action then pool.act task action next else pool
  | _ => pool

def step (pool : Pool α) : Choice α → Pool α
  | .spawn program => pool.spawn program
  | .advance task => pool.advance task

def run (pool : Pool α) (choices : List (Choice α)) : Pool α :=
  choices.foldl step pool

def doneBy (pool : Pool α) (task : TaskId) : List Done :=
  pool.trace.filterMap fun entry => if entry.1 = task then some entry.2 else none

def result? (pool : Pool α) (task : TaskId) : Option α :=
  match pool.tasks[task]? with
  | some (.done result) => some result
  | _ => none

def Finished (pool : Pool α) : Prop :=
  ∀ program ∈ pool.tasks, ∃ result, program = .done result

instance (program : Program α) : Decidable (∃ result, program = .done result) :=
  match program with
  | .done result => .isTrue ⟨result, rfl⟩
  | .step .. => .isFalse fun ended => nomatch ended

instance (pool : Pool α) : Decidable pool.Finished :=
  inferInstanceAs (Decidable (∀ program ∈ pool.tasks, ∃ result, program = .done result))

theorem advance_cases (pool : Pool α) (task : TaskId) :
    pool.advance task = pool ∨
      ∃ action next, pool.tasks[task]? = some (.step action next) ∧
        pool.world.Enabled action ∧ pool.advance task = pool.act task action next := by
  unfold advance
  split
  · rename_i action next current
    split
    · exact .inr ⟨action, next, current, ‹_›, rfl⟩
    · exact .inl rfl
  · exact .inl rfl

/-- What spawning a task and every action of a task keep, all runs keep. -/
theorem run_induction {invariant : Pool α → Prop} {pool : Pool α} (choices : List (Choice α))
    (spawns : ∀ pool program, invariant pool → invariant (pool.spawn program))
    (acts : ∀ pool task action next, pool.tasks[task]? = some (.step action next) →
      pool.world.Enabled action → invariant pool → invariant (pool.act task action next))
    (holds : invariant pool) : invariant (pool.run choices) := by
  induction choices generalizing pool with
  | nil => exact holds
  | cons choice rest ih =>
      refine ih ?_
      cases choice with
      | spawn program => exact spawns pool program holds
      | advance task =>
          change invariant (pool.advance task)
          obtain same | ⟨action, next, current, enabled, same⟩ := pool.advance_cases task
          · rw [same]
            exact holds
          · rw [same]
            exact acts pool task action next current enabled holds

theorem doneBy_act (pool : Pool α) (task other : TaskId) (action : Action)
    (next : action.Reply → Program α) :
    (pool.act task action next).doneBy other =
      pool.doneBy other ++
        if task = other then [⟨action, (pool.world.perform action).1⟩] else [] := by
  unfold doneBy act
  rw [List.filterMap_append]
  congr 1
  by_cases same : task = other
  · simp [same]
  · simp [same]

theorem mem_doneBy {pool : Pool α} {task : TaskId} {entry : Done} :
    entry ∈ pool.doneBy task ↔ (task, entry) ∈ pool.trace := by
  constructor
  · intro member
    obtain ⟨⟨owner, done⟩, listed, own⟩ := List.mem_filterMap.mp member
    split at own
    · rename_i same
      cases same
      cases own
      exact listed
    · cases own
  · exact fun member => List.mem_filterMap.mpr ⟨(task, entry), member, if_pos rfl⟩

/-!
## Tasks and their programs
-/

/-- Whether tasks execute programs: what each task did, and what is left of it, make up its
program. -/
structure Executes (programs : List (Program α)) (pool : Pool α) : Prop where
  counted : pool.tasks.length = programs.length
  known : ∀ entry ∈ pool.trace, entry.1 < programs.length
  leaves : ∀ (task : TaskId) (program rest : Program α), programs[task]? = some program →
    pool.tasks[task]? = some rest → program.Leaves (pool.doneBy task) rest

namespace Executes

variable {programs : List (Program α)} {pool : Pool α}

theorem spawn (executes : pool.Executes programs) (program : Program α) :
    (pool.spawn program).Executes (programs ++ [program]) where
  counted := by
    rw [Pool.spawn, List.length_append, List.length_append, executes.counted]
  known entry member := by
    rw [List.length_append]
    exact Nat.lt_add_right _ (executes.known entry member)
  leaves task found rest spawned present := by
    rcases Nat.lt_trichotomy task programs.length with old | new | beyond
    · rw [List.getElem?_append_left old] at spawned
      rw [Pool.spawn, List.getElem?_append_left (executes.counted.symm ▸ old)] at present
      exact executes.leaves task found rest spawned present
    · have idle : (pool.spawn program).doneBy task = [] := by
        refine List.filterMap_eq_nil_iff.mpr fun entry member => if_neg ?_
        exact Nat.ne_of_lt (new ▸ executes.known entry member)
      rw [new, List.getElem?_concat_length] at spawned
      rw [Pool.spawn, new, ← executes.counted, List.getElem?_concat_length] at present
      cases spawned
      cases present
      rw [idle]
      exact .refl _
    · have outside : (programs ++ [program]).length ≤ task := by
        rw [List.length_append]
        exact beyond
      rw [List.getElem?_eq_none outside] at spawned
      cases spawned

theorem act (executes : pool.Executes programs) {task : TaskId} {action : Action}
    {next : action.Reply → Program α} (current : pool.tasks[task]? = some (.step action next)) :
    (pool.act task action next).Executes programs where
  counted := by
    rw [Pool.act, List.length_set]
    exact executes.counted
  known entry member := by
    rcases List.mem_append.mp member with before | new
    · exact executes.known entry before
    · rw [List.mem_singleton.mp new, ← executes.counted]
      exact (List.getElem?_eq_some_iff.mp current).1
  leaves other program rest spawned present := by
    rw [doneBy_act]
    -- The task went on in its own program; nothing is new about the others.
    by_cases same : task = other
    · subst same
      obtain ⟨inside, _⟩ := List.getElem?_eq_some_iff.mp current
      rw [Pool.act, List.getElem?_set_self inside] at present
      cases present
      rw [if_pos rfl]
      exact (executes.leaves task program _ spawned current).snoc _
    · rw [Pool.act, List.getElem?_set_ne same] at present
      rw [if_neg same, List.append_nil]
      exact executes.leaves other program rest spawned present

theorem run (executes : pool.Executes programs) (choices : List (Choice α)) :
    (pool.run choices).Executes (programs ++ Choice.programs choices) := by
  induction choices generalizing pool programs with
  | nil => exact (List.append_nil programs).symm ▸ executes
  | cons choice rest ih =>
      cases choice with
      | spawn program =>
          have later := ih (executes.spawn program)
          rw [List.append_assoc] at later
          exact later
      | advance task =>
          refine ih ?_
          change (pool.advance task).Executes programs
          obtain same | ⟨action, next, current, _, same⟩ := pool.advance_cases task
          · rw [same]
            exact executes
          · rw [same]
            exact executes.act current

/-- Where all tasks have ended, each did what its program does, and gave what that ends with. -/
theorem ended (executes : pool.Executes programs) (finished : pool.Finished) {task : TaskId}
    {program : Program α} (spawned : programs[task]? = some program) :
    ∃ result, pool.result? task = some result ∧
      program.Leaves (pool.doneBy task) (.done result) := by
  obtain ⟨inside, _⟩ := List.getElem?_eq_some_iff.mp spawned
  have present := List.getElem?_eq_getElem (executes.counted.symm ▸ inside)
  obtain ⟨result, done⟩ := finished _ (List.getElem_mem (executes.counted.symm ▸ inside))
  rw [done] at present
  refine ⟨result, ?_, executes.leaves task program _ spawned present⟩
  unfold result?
  rw [present]

end Executes

theorem run_executes (world : World) (choices : List (Choice α)) :
    (Pool.run { world := world } choices).Executes (Choice.programs choices) := by
  have idle : ({ world := world } : Pool α).Executes [] :=
    ⟨rfl, List.forall_mem_nil _, fun _ _ _ spawned => by simp at spawned⟩
  exact idle.run choices

end Pool

/-!
## Two tasks
-/

/-- Two tasks, each of which keeps to a discipline of its own. -/
def Pool.Pair {α First Second : Type} (first : Discipline First) (second : Discipline Second)
    (firstEnds : α → First → Prop) (secondEnds : α → Second → Prop)
    (invariant : First → Second → World → List (TaskId × Done) → Prop) (pool : Pool α) : Prop :=
  ∃ one two place other, pool.tasks = [one, two] ∧ one.Follows first place firstEnds ∧
    two.Follows second other secondEnds ∧ invariant place other pool.world pool.trace

/-- What every allowed action of either of two tasks keeps between their phases, the world and the
trace, holds after any schedule, as long as all that was done is of a kind that the disciplines
expect. -/
theorem Pool.Pair.scheduled {α First Second : Type} {first : Discipline First}
    {second : Discipline Second} {firstEnds : α → First → Prop} {secondEnds : α → Second → Prop}
    {invariant : First → Second → World → List (TaskId × Done) → Prop} (fine : Done → Prop)
    (firstKeeps : ∀ place other world trace action, first.allows place action →
      world.Enabled action → fine ⟨action, (world.perform action).1⟩ →
      invariant place other world trace →
        first.possible place action (world.perform action).1 ∧
        invariant (first.after place action (world.perform action).1) other
          (world.perform action).2 (trace ++ [(0, ⟨action, (world.perform action).1⟩)]))
    (secondKeeps : ∀ place other world trace action, second.allows other action →
      world.Enabled action → fine ⟨action, (world.perform action).1⟩ →
      invariant place other world trace →
        second.possible other action (world.perform action).1 ∧
        invariant place (second.after other action (world.perform action).1)
          (world.perform action).2 (trace ++ [(1, ⟨action, (world.perform action).1⟩)]))
    {pool : Pool α} (pair : pool.Pair first second firstEnds secondEnds invariant)
    (schedule : List TaskId)
    (went : ∀ entry ∈ (pool.run (schedule.map .advance)).trace, fine entry.2) :
    (pool.run (schedule.map .advance)).Pair first second firstEnds secondEnds invariant := by
  induction schedule using List.reverseRecOn with
  | nil => exact pair
  | append_singleton schedule task ih =>
      have stepped : pool.run ((schedule ++ [task]).map .advance) =
          (pool.run (schedule.map .advance)).advance task := by
        simp [run, step]
      rw [stepped] at went ⊢
      obtain same | ⟨action, next, current, enabled, same⟩ :=
        (pool.run (schedule.map .advance)).advance_cases task
      · rw [same] at went ⊢
        exact ih went
      · rw [same] at went ⊢
        obtain ⟨one, two, place, other, tasks, oneFollows, twoFollows, holds⟩ :=
          ih fun entry member => went entry (List.mem_append_left _ member)
        have last := went _ (List.mem_append_right _ (List.mem_singleton.mpr rfl))
        rw [tasks] at current
        match task with
        | 0 =>
            obtain rfl := Option.some.inj current
            obtain ⟨given, kept⟩ := firstKeeps _ _ _ _ _ oneFollows.1 enabled last holds
            refine ⟨_, two, _, other, ?_, oneFollows.2 _ given, twoFollows, kept⟩
            rw [act, tasks]
            rfl
        | 1 =>
            obtain rfl := Option.some.inj current
            obtain ⟨given, kept⟩ := secondKeeps _ _ _ _ _ twoFollows.1 enabled last holds
            refine ⟨one, _, place, _, ?_, oneFollows, twoFollows.2 _ given, kept⟩
            rw [act, tasks]
            rfl
        | task + 2 => cases current

/-!
## Demands
-/

/-- What happens to a pool: something is asked for, or a task does its next action. -/
inductive Happening (Demand : Type) where
  | ask (demand : Demand)
  | advance (task : TaskId)

namespace Happening

variable {Demand α : Type}

def choice (program : Demand → Program α) : Happening Demand → Choice α
  | ask demand => .spawn (program demand)
  | advance task => .advance task

def demands (happenings : List (Happening Demand)) : List Demand :=
  happenings.filterMap fun
    | ask demand => some demand
    | advance _ => none

theorem programs_choices (program : Demand → Program α) (happenings : List (Happening Demand)) :
    Choice.programs (happenings.map (choice program)) = (demands happenings).map program := by
  unfold Choice.programs demands
  rw [List.filterMap_map, List.map_filterMap]
  congr 1
  funext happening
  cases happening <;> rfl

end Happening

/-- A pool after some happenings, where each demand spawns a program. -/
def Pool.after {Demand α : Type} (program : Demand → Program α) (world : World)
    (happenings : List (Happening Demand)) : Pool α :=
  Pool.run { world := world } (happenings.map (Happening.choice program))

namespace Pool

variable {Demand α : Type} (program : Demand → Program α) (world : World)

@[simp] theorem after_ask (happenings : List (Happening Demand)) (demand : Demand) :
    Pool.after program world (happenings ++ [.ask demand]) =
      (Pool.after program world happenings).spawn (program demand) := by
  simp [Pool.after, Pool.run, Happening.choice, Pool.step]

@[simp] theorem after_advance (happenings : List (Happening Demand)) (task : TaskId) :
    Pool.after program world (happenings ++ [.advance task]) =
      (Pool.after program world happenings).advance task := by
  simp [Pool.after, Pool.run, Happening.choice, Pool.step]

theorem after_executes (happenings : List (Happening Demand)) :
    (Pool.after program world happenings).Executes
      ((Happening.demands happenings).map program) := by
  rw [← Happening.programs_choices]
  exact Pool.run_executes world _

theorem after_leaves {happenings : List (Happening Demand)} {task : TaskId} {demand : Demand}
    (asked : (Happening.demands happenings)[task]? = some demand) :
    ∃ rest, (Pool.after program world happenings).tasks[task]? = some rest ∧
      (program demand).Leaves ((Pool.after program world happenings).doneBy task) rest := by
  have executes := after_executes program world happenings
  have spawned : ((Happening.demands happenings).map program)[task]? = some (program demand) := by
    rw [List.getElem?_map, asked]
    rfl
  obtain ⟨inside, _⟩ := List.getElem?_eq_some_iff.mp spawned
  have present := List.getElem?_eq_getElem (executes.counted.symm ▸ inside)
  exact ⟨_, present, executes.leaves task _ _ spawned present⟩

/-- Only tasks that were asked for do anything. -/
theorem after_asked {happenings : List (Happening Demand)} {task : TaskId} {entry : Done}
    (done : entry ∈ (Pool.after program world happenings).doneBy task) :
    ∃ demand, (Happening.demands happenings)[task]? = some demand := by
  have known := (after_executes program world happenings).known _ (mem_doneBy.mp done)
  rw [List.length_map] at known
  exact ⟨_, List.getElem?_eq_getElem known⟩

/-- What no program can change, a pool does not change, whatever happens to it. -/
theorem after_keeps {allowed : Action → Prop} {invariant : World → Prop}
    (keeps : ∀ action, allowed action → ∀ world : World,
      invariant world → invariant (world.perform action).2)
    {happenings : List (Happening Demand)}
    (uses : ∀ demand ∈ Happening.demands happenings, (program demand).Uses allowed)
    (holds : invariant world) : invariant (Pool.after program world happenings).world := by
  induction happenings using List.reverseRecOn with
  | nil => exact holds
  | append_singleton happenings happening ih =>
      rw [Happening.demands, List.filterMap_append] at uses
      have before := ih fun demand member => uses demand (List.mem_append_left _ member)
      cases happening with
      | ask demand =>
          rw [after_ask]
          exact before
      | advance task =>
          rw [after_advance]
          obtain same | ⟨action, next, current, _, same⟩ :=
            (Pool.after program world happenings).advance_cases task
          · rw [same]
            exact before
          · rw [same]
            refine keeps action ?_ _ before
            have executes := after_executes program world happenings
            obtain ⟨inside, _⟩ := List.getElem?_eq_some_iff.mp current
            have asked := List.getElem?_eq_getElem (executes.counted ▸ inside)
            obtain ⟨demand, listed, made⟩ := List.mem_map.mp (List.mem_of_getElem? asked)
            have leaves := executes.leaves task _ _ asked current
            rw [← made] at leaves
            exact (leaves.follows (uses demand (List.mem_append_left _ listed))
              fun _ _ _ => trivial).2.1

end Pool

end AmqpEndpoints
