import Mathlib.Data.List.Nodup
import Mathlib.Logic.ExistsUnique
import AmqpEndpoints.Proofs.Openings
import AmqpEndpoints.Proofs.Ownership
import AmqpEndpoints.Proofs.Pool

/-!
# Custody of connections

Calls to open, close and restart a connection, all at once and in any interleaving. A call that
opened a connection installs it by its very next action, and a call that took one out of the handle
closes it by its very next action. So the connections opened so far are at all times, up to their
order, those in the hands of tasks, the one in the handle, and those that closing was asked of.
-/

set_option autoImplicit false

namespace AmqpEndpoints

open Program

def Event.opened? : Event → Option ConnectionId
  | returned (.connect _) (.ok connection) => some connection
  | _ => none

def Event.ended? : Event → Option ConnectionId
  | called (.closeConnection connection) => some connection
  | _ => none

namespace World

variable (world : World)

/-- The connections that were opened, in order. -/
def opened : List ConnectionId :=
  world.broker.log.filterMap Event.opened?

/-- The connections that closing was asked of, as often as it was. -/
def ended : List ConnectionId :=
  world.broker.log.filterMap Event.ended?

end World

/-!
## Errands
-/

/-- What a task has to do next, because of a connection that nobody else knows. -/
inductive Errand where
  | idle
  | install (connection : ConnectionId)
  | close (connection : ConnectionId)

@[simp] def Errand.connection? : Errand → Option ConnectionId
  | idle => none
  | install connection => some connection
  | close connection => some connection

/-- The errand that an action does. -/
@[simp] def Action.errand : Action → Errand
  | replaceHandle connection => .install connection
  | issue (.closeConnection connection) => .close connection
  | _ => .idle

/-- The errand that an action leads to. -/
@[simp] def Done.errand : Done → Errand
  | ⟨.await (.connect _), .ok connection⟩ => .install connection
  | ⟨.replaceHandle _, some previous⟩ => .close previous
  | ⟨.takeHandle, some connection⟩ => .close connection
  | _ => .idle

def Program.errand {α : Type} : Program α → Errand
  | done _ => .idle
  | step action _ => action.errand

/-- Every errand is done at once, and nothing is installed or closed without one. -/
def errands : Discipline Errand where
  allows errand action := action.errand = errand
  after _ action reply := Done.errand ⟨action, reply⟩

namespace Program

variable {α : Type} {program : Program α} {errand : Errand}

/-- A program that runs its errands, from one of them on. -/
abbrev Runs (program : Program α) (errand : Errand) : Prop :=
  program.Follows errands errand fun _ later => later = .idle

theorem Runs.errand_eq (runs : program.Runs errand) : program.errand = errand := by
  cases program with
  | done result => exact Eq.symm runs
  | step action next => exact runs.1

end Program

/-- Programs that open, install and close no connections have no errands. -/
theorem runs_idle {α : Type} {program : Program α}
    (uses : program.Uses fun action => ¬action.OfConnection) : program.Runs .idle := by
  apply uses.follows
  intro action apart
  cases action with
  | issue call =>
      cases call with
      | closeConnection connection => exact absurd rfl apart
      | _ => exact ⟨rfl, fun _ => rfl⟩
  | await call =>
      cases call with
      | connect name => exact absurd rfl apart
      | _ => exact ⟨rfl, fun _ => rfl⟩
  | replaceHandle | takeHandle => exact absurd trivial apart
  | _ => exact ⟨rfl, fun _ => rfl⟩

theorem Action.OfComponent.apart {component : ComponentId} {action : Action}
    (about : action.OfComponent component) : ¬action.OfConnection := by
  intro also
  cases action with
  | issue call | await call => exact Bool.false_ne_true (Eq.trans (Eq.symm about) also)
  | replaceHandle | takeHandle => exact about
  | _ => exact also

namespace Connection

variable (name : String)

theorem close_runs : close.Runs .idle := by
  refine ⟨rfl, fun taken _ => ?_⟩
  cases taken with
  | none => rfl
  | some connection => exact ⟨rfl, fun _ _ => ⟨rfl, fun _ _ => rfl⟩⟩

theorem init_runs : (init name).Runs .idle := by
  refine ⟨rfl, fun _ _ => ⟨rfl, fun built _ => ?_⟩⟩
  cases built with
  | error failure => rfl
  | ok _ =>
      refine ⟨rfl, fun _ _ => ⟨rfl, fun connected _ => ?_⟩⟩
      cases connected with
      | error failure => rfl
      | ok connection =>
          refine ⟨rfl, fun previous _ => ?_⟩
          cases previous with
          | none => rfl
          | some previous => exact ⟨rfl, fun _ _ => ⟨rfl, fun _ _ => rfl⟩⟩

theorem restart_runs : (restart name).Runs .idle := by
  rw [restart_eq]
  apply follows_bind.mpr
  refine ⟨rfl, fun _ _ => follows_bind.mpr ⟨rfl, fun live _ => ?_⟩⟩
  have stops : (stopAll live).Runs .idle :=
    runs_idle ((uses_stopAll live).mono fun _ ⟨_, _, about⟩ => about.apart)
  have starts : (startAll live).Runs .idle :=
    runs_idle ((uses_startAll live).mono fun _ ⟨_, _, about⟩ => about.apart)
  apply stops.bind
  intro _
  apply close_runs.bind
  intro _
  apply (init_runs name).bind
  intro connected
  cases connected with
  | error failure => exact ⟨rfl, fun _ _ => rfl⟩
  | ok _ =>
      apply starts.bind
      intro _
      exact ⟨rfl, fun _ _ => rfl⟩

end Connection

theorem Fault.restart_runs (name : String) : (Fault.restart name).Runs .idle := by
  apply (Connection.restart_runs name).bind
  intro _
  exact ⟨rfl, fun _ _ => rfl⟩

/-!
## What an action does to the ledger
-/

namespace World

variable (world : World) (action : Action)

theorem perform_opened :
    (world.perform action).2.opened =
      world.opened ++ (Done.opened? ⟨action, (world.perform action).1⟩).toList := by
  unfold opened
  rw [perform_log, List.filterMap_append]
  congr 1
  cases action with
  | await call =>
      cases call with
      | connect name =>
          cases replied : (world.perform (.await (.connect name))).1 <;>
            simp [Done.events, Event.opened?, Done.opened?]
      | _ => rfl
  | _ => rfl

theorem perform_ended :
    (world.perform action).2.ended =
      world.ended ++
        match action with
        | .issue (.closeConnection connection) => [connection]
        | _ => [] := by
  unfold ended
  rw [perform_log, List.filterMap_append]
  congr 1
  cases action with
  | issue call => cases call <;> rfl
  | _ => rfl

/-- The connections that are accounted for, apart from those in the hands of tasks. -/
def placed : List ConnectionId :=
  world.handle.toList ++ world.ended

/-- What an action opens, and what its errand is about, is placed afterwards or is what the errand
that it leads to is about. -/
theorem perform_placed :
    (action.errand.connection?.toList ++ world.placed ++
        (Done.opened? ⟨action, (world.perform action).1⟩).toList).Perm
      ((Done.errand ⟨action, (world.perform action).1⟩).connection?.toList ++
        (world.perform action).2.placed) := by
  have last : ∀ connection, (world.handle.toList ++ (world.ended ++ [connection])).Perm
      (connection :: (world.handle.toList ++ world.ended)) := by
    intro connection
    rw [← List.append_assoc]
    exact List.perm_append_singleton connection _
  unfold placed
  rw [perform_handle, perform_ended]
  cases action with
  | replaceHandle connection =>
      cases there : world.handle <;> simp [Done.opened?, perform, there, List.Perm.swap]
  | takeHandle => cases there : world.handle <;> simp [Done.opened?, perform, there]
  | issue call =>
      cases call with
      | closeConnection connection => simpa [Done.opened?] using (last connection).symm
      | _ => simp [Done.opened?]
  | await call =>
      cases call with
      | connect name =>
          cases replied : (world.perform (.await (.connect name))).1 with
          | error failure => simp [Done.opened?]
          | ok connection => simpa [Done.opened?] using last connection
      | _ => simp [Done.opened?]
  | _ => simp [Done.opened?]

/-- Whether the connections that were opened are the numbers up to how many there are, in order. -/
def Consecutive : Prop :=
  world.opened = List.range' 1 world.broker.connections

variable {world}

theorem Consecutive.perform (consecutive : world.Consecutive) : (world.perform action).2.Consecutive := by
  have counted := world.perform_connections action
  unfold Consecutive
  rw [perform_opened, consecutive]
  cases opened : Done.opened? ⟨action, (world.perform action).1⟩ with
  | none =>
      rw [opened] at counted
      simp [counted]
  | some connection =>
      rw [opened] at counted
      obtain ⟨next, more⟩ := counted
      simp [next, more, List.range'_1_concat, Nat.add_comm]

theorem Consecutive.nodup (consecutive : world.Consecutive) : world.opened.Nodup := by
  rw [consecutive]
  exact List.nodup_range'

end World

/-!
## Pools
-/

namespace Pool

variable {α : Type}

/-- The connections in the hands of tasks. -/
def hands (pool : Pool α) : List ConnectionId :=
  pool.tasks.filterMap (·.errand.connection?)

theorem hands_act {pool : Pool α} {task : TaskId} {action : Action}
    {next : action.Reply → Program α} (current : pool.tasks[task]? = some (.step action next)) :
    ((next (pool.world.perform action).1).errand.connection?.toList ++ pool.hands).Perm
      (action.errand.connection?.toList ++ (pool.act task action next).hands) := by
  unfold hands act
  rw [List.set_eq_modify]
  exact filterMap_modify_perm (fun program : Program α => program.errand.connection?)
    (fun _ => next (pool.world.perform action).1) current

/-- Whether all tasks run their errands, and all connections are accounted for. -/
structure Accounted (pool : Pool α) : Prop where
  runs : ∀ program ∈ pool.tasks, program.Runs program.errand
  consecutive : pool.world.Consecutive
  balanced : pool.world.opened.Perm (pool.hands ++ pool.world.placed)

namespace Accounted

variable {pool : Pool α}

theorem spawn (accounted : pool.Accounted) {program : Program α} (runs : program.Runs .idle) :
    (pool.spawn program).Accounted where
  runs other member := by
    rcases List.mem_append.mp member with before | new
    · exact accounted.runs other before
    · rw [List.mem_singleton.mp new, runs.errand_eq]
      exact runs
  consecutive := accounted.consecutive
  balanced := by
    have same : (pool.spawn program).hands = pool.hands := by
      simp [Pool.spawn, hands, List.filterMap_append, runs.errand_eq]
    rw [same]
    exact accounted.balanced

theorem act (accounted : pool.Accounted) {task : TaskId} {action : Action}
    {next : action.Reply → Program α} (current : pool.tasks[task]? = some (.step action next)) :
    (pool.act task action next).Accounted := by
  have own := accounted.runs _ (List.mem_of_getElem? current)
  have later : (next (pool.world.perform action).1).Runs
      (Done.errand ⟨action, (pool.world.perform action).1⟩) := own.2 _ trivial
  constructor
  · intro program member
    rcases List.mem_or_eq_of_mem_set member with before | rfl
    · exact accounted.runs program before
    · rw [later.errand_eq]
      exact later
  · exact accounted.consecutive.perform action
  · -- What the action adds to one side of the balance it adds to the other side as well.
    have held := hands_act current
    have placed := pool.world.perform_placed action
    have balanced := accounted.balanced
    rw [later.errand_eq] at held
    have opened : (pool.act task action next).world.opened =
        pool.world.opened ++ (Done.opened? ⟨action, (pool.world.perform action).1⟩).toList :=
      pool.world.perform_opened action
    rw [opened]
    change List.Perm _ ((pool.act task action next).hands ++ (pool.world.perform action).2.placed)
    rw [List.perm_iff_count] at held placed balanced ⊢
    intro connection
    have counts := And.intro (held connection) (And.intro (placed connection) (balanced connection))
    simp only [List.count_append] at counts ⊢
    omega

theorem advance (accounted : pool.Accounted) (task : TaskId) : (pool.advance task).Accounted := by
  obtain same | ⟨action, next, current, _, same⟩ := pool.advance_cases task
  · rw [same]
    exact accounted
  · rw [same]
    exact accounted.act current

theorem after {Demand : Type} {program : Demand → Program α} {world : World}
    (runs : ∀ demand, (program demand).Runs .idle)
    (fresh : ({ world := world } : Pool α).Accounted) (happenings : List (Happening Demand)) :
    (Pool.after program world happenings).Accounted := by
  induction happenings using List.reverseRecOn with
  | nil => exact fresh
  | append_singleton happenings happening ih =>
      cases happening with
      | ask demand =>
          rw [after_ask]
          exact ih.spawn (runs demand)
      | advance task =>
          rw [after_advance]
          exact ih.advance task

end Accounted

end Pool

/-!
## Where connections are
-/

/-- Where an opened connection can be. -/
inductive Whereabouts where
  /-- A task is about to install it. -/
  | arriving (task : TaskId)
  | installed
  /-- A task is about to close it. -/
  | leaving (task : TaskId)
  /-- Closing was asked of it, once. -/
  | closed

/-- How often a connection that is at a place is in the hands of tasks, in the handle, and among
those that closing was asked of. -/
def Whereabouts.share : Whereabouts → Nat × Nat × Nat
  | arriving _ => (1, 0, 0)
  | leaving _ => (1, 0, 0)
  | installed => (0, 1, 0)
  | closed => (0, 0, 1)

namespace Pool

variable {α : Type} {pool : Pool α} {connection : ConnectionId}

def At (pool : Pool α) (connection : ConnectionId) : Whereabouts → Prop
  | .arriving task => ∃ next, pool.tasks[task]? = some (.step (.replaceHandle connection) next)
  | .installed => pool.world.handle = some connection
  | .leaving task =>
    ∃ next, pool.tasks[task]? = some (.step (.issue (.closeConnection connection)) next)
  | .closed => pool.world.ended.count connection = 1

theorem mem_hands_iff :
    connection ∈ pool.hands ↔
      ∃ task, pool.At connection (.arriving task) ∨ pool.At connection (.leaving task) := by
  constructor
  · intro held
    obtain ⟨program, member, about⟩ := List.mem_filterMap.mp held
    obtain ⟨task, inside, rfl⟩ := List.mem_iff_getElem.mp member
    have there := List.getElem?_eq_getElem inside
    refine ⟨task, ?_⟩
    cases current : pool.tasks[task] with
    | done result => simp [current, Program.errand] at about
    | step action next =>
        rw [current] at about there
        cases action with
        | replaceHandle other =>
            obtain rfl : other = connection := Option.some.inj about
            exact .inl ⟨next, there⟩
        | issue call =>
            cases call with
            | closeConnection other =>
                obtain rfl : other = connection := Option.some.inj about
                exact .inr ⟨next, there⟩
            | _ => cases about
        | _ => cases about
  · rintro ⟨task, ⟨next, there⟩ | ⟨next, there⟩⟩
    · exact List.mem_filterMap.mpr ⟨_, List.mem_of_getElem? there, rfl⟩
    · exact List.mem_filterMap.mpr ⟨_, List.mem_of_getElem? there, rfl⟩

namespace Accounted

theorem mem_opened_iff (accounted : pool.Accounted) :
    connection ∈ pool.world.opened ↔
      connection ∈ pool.hands ∨ pool.world.handle = some connection ∨
        connection ∈ pool.world.ended := by
  rw [accounted.balanced.mem_iff]
  simp [World.placed]

/-- No connection is counted twice, wherever it is. -/
theorem count_le_one (accounted : pool.Accounted) (connection : ConnectionId) :
    pool.hands.count connection + pool.world.handle.toList.count connection +
      pool.world.ended.count connection ≤ 1 := by
  have once := List.nodup_iff_count_le_one.mp accounted.consecutive.nodup connection
  rw [accounted.balanced.count_eq, World.placed, List.count_append, List.count_append] at once
  omega

theorem share_eq (accounted : pool.Accounted) {place : Whereabouts}
    (here : pool.At connection place) :
    place.share = (pool.hands.count connection, pool.world.handle.toList.count connection,
      pool.world.ended.count connection) := by
  have once := accounted.count_le_one connection
  cases place with
  | arriving task =>
      have held := List.count_pos_iff.mpr (mem_hands_iff.mpr ⟨task, .inl here⟩)
      simp only [Whereabouts.share, Prod.mk.injEq]
      omega
  | leaving task =>
      have held := List.count_pos_iff.mpr (mem_hands_iff.mpr ⟨task, .inr here⟩)
      simp only [Whereabouts.share, Prod.mk.injEq]
      omega
  | installed =>
      have there : pool.world.handle.toList.count connection = 1 := by
        rw [show pool.world.handle = some connection from here]
        exact List.count_singleton_self
      simp only [Whereabouts.share, Prod.mk.injEq]
      omega
  | closed =>
      have asked : pool.world.ended.count connection = 1 := here
      simp only [Whereabouts.share, Prod.mk.injEq]
      omega

theorem task_unique (accounted : pool.Accounted) {first second : TaskId} {one other : Program α}
    (here : pool.tasks[first]? = some one) (there : pool.tasks[second]? = some other)
    (about : one.errand.connection? = some connection)
    (also : other.errand.connection? = some connection) : first = second := by
  have once : pool.hands.Nodup :=
    (List.nodup_append.mp (accounted.balanced.nodup accounted.consecutive.nodup)).1
  exact filterMap_index_unique once here there about also

theorem at_unique (accounted : pool.Accounted) {place other : Whereabouts}
    (here : pool.At connection place) (there : pool.At connection other) : place = other := by
  have same := (accounted.share_eq here).trans (accounted.share_eq there).symm
  cases place with
  | arriving task =>
      obtain ⟨next, mine⟩ := here
      cases other with
      | arriving later =>
          obtain ⟨after, also⟩ := there
          rw [accounted.task_unique mine also rfl rfl]
      | leaving later =>
          obtain ⟨after, also⟩ := there
          rw [accounted.task_unique mine also rfl rfl, also] at mine
          cases mine
      | installed | closed => simp [Whereabouts.share] at same
  | leaving task =>
      obtain ⟨next, mine⟩ := here
      cases other with
      | arriving later =>
          obtain ⟨after, also⟩ := there
          rw [accounted.task_unique mine also rfl rfl, also] at mine
          cases mine
      | leaving later =>
          obtain ⟨after, also⟩ := there
          rw [accounted.task_unique mine also rfl rfl]
      | installed | closed => simp [Whereabouts.share] at same
  | installed =>
      cases other with
      | installed => rfl
      | _ => simp [Whereabouts.share] at same
  | closed =>
      cases other with
      | closed => rfl
      | _ => simp [Whereabouts.share] at same

theorem exists_at (accounted : pool.Accounted) (opened : connection ∈ pool.world.opened) :
    ∃ place, pool.At connection place := by
  rcases accounted.mem_opened_iff.mp opened with held | there | asked
  · obtain ⟨task, arriving | leaving⟩ := mem_hands_iff.mp held
    · exact ⟨.arriving task, arriving⟩
    · exact ⟨.leaving task, leaving⟩
  · exact ⟨.installed, there⟩
  · have once := accounted.count_le_one connection
    have some := List.count_pos_iff.mpr asked
    refine ⟨.closed, ?_⟩
    change pool.world.ended.count connection = 1
    omega

theorem opened_of_at (accounted : pool.Accounted) {place : Whereabouts}
    (here : pool.At connection place) : connection ∈ pool.world.opened := by
  apply accounted.mem_opened_iff.mpr
  cases place with
  | arriving task => exact .inl (mem_hands_iff.mpr ⟨task, .inl here⟩)
  | leaving task => exact .inl (mem_hands_iff.mpr ⟨task, .inr here⟩)
  | installed => exact .inr (.inl here)
  | closed =>
      have asked : pool.world.ended.count connection = 1 := here
      exact .inr (.inr (List.count_pos_iff.mp (by omega)))

/-- Where no task has a connection in its hands, those that are open are what is in the handle. -/
theorem open_iff (accounted : pool.Accounted) (idle : pool.hands = []) :
    connection ∈ pool.world.opened ∧ connection ∉ pool.world.ended ↔
      pool.world.handle = some connection := by
  rw [accounted.mem_opened_iff, idle]
  constructor
  · rintro ⟨held | there | asked, unasked⟩
    · cases held
    · exact there
    · exact absurd asked unasked
  · intro there
    refine ⟨.inr (.inl there), fun asked => ?_⟩
    have twice := accounted.count_le_one connection
    have some := List.count_pos_iff.mpr asked
    rw [there, Option.toList_some, List.count_singleton_self] at twice
    omega

end Accounted

end Pool

/-!
## Connections under calls
-/

/-- What goes on at a connection. -/
inductive ConnectionTask where
  | init
  | close
  | restart
  /-- Restarts because of a fault. -/
  | repair
  /-- Does anything but opening, installing and closing connections. -/
  | aside (program : Program (Except Failure Unit))
      (apart : program.Uses fun action => ¬action.OfConnection)

namespace ConnectionTask

def program (name : String) : ConnectionTask → Program (Except Failure Unit)
  | init => Connection.init name
  | close => do
    Connection.close
    return .ok ()
  | restart => Connection.restart name
  | repair => Fault.restart name
  | aside program _ => program

def isCall : ConnectionTask → Bool
  | aside .. => false
  | _ => true

theorem program_runs (name : String) (task : ConnectionTask) :
    (task.program name).Runs .idle := by
  cases task with
  | init => exact Connection.init_runs name
  | close => exact follows_bind.mpr (Connection.close_runs.imp fun _ _ same => same)
  | restart => exact Connection.restart_runs name
  | repair => exact Fault.restart_runs name
  | aside program apart => exact runs_idle apart

end ConnectionTask

/-- Whether all calls among some tasks have ended. -/
def Pool.CallsEnded (tasks : List ConnectionTask) (pool : Pool (Except Failure Unit)) : Prop :=
  ∀ (task : TaskId) (call : ConnectionTask), tasks[task]? = some call → call.isCall = true →
    ∃ result, pool.tasks[task]? = some (.done result)

theorem Pool.CallsEnded.hands_eq_nil {name : String} {tasks : List ConnectionTask}
    {pool : Pool (Except Failure Unit)} (ended : pool.CallsEnded tasks)
    (executes : pool.Executes (tasks.map (ConnectionTask.program name))) : pool.hands = [] := by
  apply List.filterMap_eq_nil_iff.mpr
  intro rest member
  obtain ⟨task, inside, rfl⟩ := List.mem_iff_getElem.mp member
  have there := List.getElem?_eq_getElem inside
  have asked := List.getElem?_eq_getElem (executes.counted ▸ inside)
  obtain ⟨demand, made, same⟩ := Option.map_eq_some_iff.mp (List.getElem?_map.symm.trans asked)
  cases call : demand.isCall with
  | true =>
      obtain ⟨result, settled⟩ := ended task demand made call
      rw [there] at settled
      rw [Option.some.inj settled]
      rfl
  | false =>
      cases demand with
      | aside program apart =>
          have leaves := executes.leaves task _ _ asked there
          rw [← same] at leaves
          have left := (leaves.follows apart fun _ _ _ => trivial).2
          rw [(runs_idle left).errand_eq]
          rfl
      | _ => cases call

theorem Pool.CallsEnded.of_finished {name : String} {tasks : List ConnectionTask}
    {pool : Pool (Except Failure Unit)}
    (executes : pool.Executes (tasks.map (ConnectionTask.program name)))
    (finished : pool.Finished) : pool.CallsEnded tasks := by
  intro task call asked _
  have counted := executes.counted
  obtain ⟨inside, _⟩ := List.getElem?_eq_some_iff.mp asked
  rw [List.length_map] at counted
  obtain ⟨result, settled⟩ := finished _ (List.getElem_mem (counted ▸ inside))
  exact ⟨result, settled ▸ List.getElem?_eq_getElem _⟩

/-- At every moment, whatever failed: a connection that was opened is about to be installed by one
task, is in the handle, is about to be closed by one task, or was closed once. Where all calls have
ended, the connection in the handle is the one that is open. -/
theorem connection_in_one_place (name : String) (endpoint : Except Failure Unit) (script : Script)
    (components : List Component) (attachments : List ComponentId)
    (happenings : List (Happening ConnectionTask)) :
    let pool := Pool.after (ConnectionTask.program name)
      { broker := { endpoint := endpoint, script := script }
        components := components
        attachments := attachments } happenings
    pool.world.opened.Nodup ∧
      (∀ connection ∈ pool.world.opened, ∃! place, pool.At connection place) ∧
      (∀ connection place, pool.At connection place → connection ∈ pool.world.opened) ∧
      (∀ connection, pool.world.ended.count connection ≤ 1) ∧
      (pool.CallsEnded (Happening.demands happenings) →
        ∀ connection, connection ∈ pool.world.opened ∧ connection ∉ pool.world.ended ↔
          pool.world.handle = some connection) := by
  intro pool
  have accounted : pool.Accounted := by
    apply Pool.Accounted.after (ConnectionTask.program_runs name)
    exact ⟨List.forall_mem_nil _, rfl, .refl _⟩
  refine ⟨accounted.consecutive.nodup, ?_, ?_, ?_, ?_⟩
  · intro connection opened
    obtain ⟨place, here⟩ := accounted.exists_at opened
    exact ⟨place, here, fun other there => accounted.at_unique there here⟩
  · intro connection place here
    exact accounted.opened_of_at here
  · intro connection
    have once := accounted.count_le_one connection
    omega
  · intro settled connection
    exact accounted.open_iff (settled.hands_eq_nil (Pool.after_executes _ _ happenings))

/-- Two calls open connections at once: the second one installs its connection first, and the first
one then takes that out and fails to close it. -/
def crossedInits : List (Happening ConnectionTask) :=
  [.ask .init, .ask .init] ++ List.replicate 4 (.advance 0) ++ List.replicate 5 (.advance 1) ++
    List.replicate 3 (.advance 0)

theorem connection_of_crossed_inits :
    let pool := Pool.after (ConnectionTask.program "host")
      { broker := { script := [(.closeConnection, .fails (.connection "broken"))] } } crossedInits
    pool.world.opened = [1, 2] ∧ pool.world.ended = [2] ∧ (∃! place, pool.At 1 place) ∧
      (∃! place, pool.At 2 place) ∧
        ∀ connection, connection ∈ pool.world.opened ∧ connection ∉ pool.world.ended ↔
          pool.world.handle = some connection := by
  intro pool
  have opened : pool.world.opened = [1, 2] := by decide +kernel
  have ended : pool.world.ended = [2] := by decide +kernel
  have settled : pool.CallsEnded (Happening.demands crossedInits) :=
    .of_finished (Pool.after_executes _ _ crossedInits) (by decide +kernel)
  obtain ⟨_, placed, _, _, same⟩ := connection_in_one_place "host" (.ok ())
    [(.closeConnection, .fails (.connection "broken"))] [] [] crossedInits
  refine ⟨opened, ended, placed 1 ?_, placed 2 ?_, same settled⟩
  · exact opened ▸ .head _
  · exact opened ▸ .tail _ (.head _)

end AmqpEndpoints
