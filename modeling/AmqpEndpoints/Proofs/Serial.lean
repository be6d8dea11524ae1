import AmqpEndpoints.Proofs.Footprint
import AmqpEndpoints.Proofs.Pool

/-!
# One after the other

Programs that do their work under one lock take turns. However their actions are interleaved, the
work of each is what it would be if it ran by itself from one world on, and nothing of another's
work stands in between. Outside the lock a program may only do what no work under it depends on.
-/

set_option autoImplicit false

namespace AmqpEndpoints

open Program

/-!
## Locks
-/

inductive Mutex where
  | restarts
  | component (id : ComponentId)

namespace Mutex

def take : Mutex → Action
  | restarts => .lockRestart
  | component id => .lock id

def free : Mutex → Action
  | restarts => .unlockRestart
  | component id => .unlock id

def frees : Mutex → Action → Bool
  | restarts, .unlockRestart => true
  | component id, .unlock other => other == id
  | _, _ => false

def Present (world : World) : Mutex → Prop
  | restarts => True
  | component id => id < world.components.length

def Taken (world : World) : Mutex → Prop
  | restarts => world.restartLocked = true
  | component id => ∃ found, world.components[id]? = some found ∧ found.locked = true

def Quiet (mutex : Mutex) (action : Action) : Prop :=
  action ≠ mutex.take ∧ action ≠ mutex.free

variable {mutex : Mutex} {world : World}

theorem frees_iff {action : Action} : mutex.frees action = true ↔ action = mutex.free := by
  cases mutex with
  | restarts => cases action <;> simp [frees, free]
  | component id => cases action <;> simp [frees, free]

theorem take_reply (mutex : Mutex) (first second : World) :
    (first.perform mutex.take).1 = (second.perform mutex.take).1 := by
  cases mutex <;> rfl

theorem present_perform (present : mutex.Present world) (action : Action) :
    mutex.Present (world.perform action).2 := by
  cases mutex with
  | restarts => trivial
  | component id =>
      unfold Present
      rw [World.perform_size]
      exact present

theorem not_enabled (taken : mutex.Taken world) : ¬world.Enabled mutex.take := by
  cases mutex with
  | restarts => simpa [Taken, take, World.Enabled] using taken
  | component id =>
      obtain ⟨found, there, locked⟩ := taken
      simpa [take, World.Enabled, there] using locked

theorem taken_take (present : mutex.Present world) : mutex.Taken (world.perform mutex.take).2 := by
  cases mutex with
  | restarts => rfl
  | component id =>
      change ∃ found, (world.perform (.lock id)).2.components[id]? = some found ∧ _
      rw [World.perform_component, List.getElem?_eq_getElem present]
      exact ⟨_, rfl, by simp [Action.component?, Action.effect]⟩

theorem taken_perform (taken : mutex.Taken world) {action : Action} (quiet : mutex.Quiet action) :
    mutex.Taken (world.perform action).2 := by
  cases mutex with
  | restarts =>
      unfold Taken at taken ⊢
      cases action with
      | unlockRestart => exact absurd rfl quiet.2
      | spawn | cancel =>
          simp only [World.perform, World.setDispatcher]
          split <;> exact taken
      | lockRestart => rfl
      | _ => exact taken
  | component id =>
      obtain ⟨found, there, locked⟩ := taken
      change ∃ found, (world.perform action).2.components[id]? = some found ∧ _
      rw [World.perform_component, there]
      refine ⟨_, rfl, ?_⟩
      split
      · rename_i about
        cases action with
        | unlock other =>
            obtain rfl : other = id := Option.some.inj about
            exact absurd rfl quiet.2
        | lock => rfl
        | release | held | takeHeld | hold => exact locked
        | _ => cases about
      · exact locked

end Mutex

/-!
## Work under a lock
-/

/-- How work goes on under a lock. What it does depends on a part of the world, its view; only the
first action after the lock was taken may depend on all of it. What is done aside changes nothing in
that view. -/
structure Exclusion (mutex : Mutex) where
  view : World → World
  inner : Action → Prop
  aside : Action → Bool
  inner_quiet : ∀ action, inner action → mutex.Quiet action ∧ aside action = false
  aside_quiet : ∀ action, aside action = true → mutex.Quiet action
  determined : ∀ action, inner action ∨ action = mutex.free → ∀ first second : World,
    view first = view second → (first.perform action).1 = (second.perform action).1 ∧
      view (first.perform action).2 = view (second.perform action).2
  invisible : ∀ action, aside action = true → ∀ world : World,
    view (world.perform action).2 = view world
  commutes : ∀ action, aside action = true → ∀ world : World,
    ((world.perform action).2.perform mutex.take).2 =
      ((world.perform mutex.take).2.perform action).2

inductive Stage where
  | outside
  | entered
  | working
  | done

variable {mutex : Mutex} {α Demand : Type}

def Exclusion.stages (rule : Exclusion mutex) : Discipline Stage where
  allows
    | .outside, action => action = mutex.take
    | .entered, action => mutex.Quiet action ∧ rule.aside action = false
    | .working, action => rule.inner action ∨ action = mutex.free
    | .done, _ => False
  after
    | .outside, _, _ => .entered
    | .entered, _, _ => .working
    | .working, action, _ => if mutex.frees action then .done else .working
    | .done, _, _ => .done

theorem Exclusion.inner_stays (rule : Exclusion mutex) {action : Action}
    (inner : rule.inner action) :
    rule.stages.allows .working action ∧
      ∀ reply, rule.stages.after .working action reply = .working := by
  have holds := mt mutex.frees_iff.mp (rule.inner_quiet action inner).1.2
  exact ⟨.inl inner, fun _ => if_neg holds⟩

/-- A program that does its work under a lock and something aside after it, or only that. -/
inductive Job (α : Type) where
  | turn (work : Program α) (tail : α → Program α)
  | aside (program : Program α)

def Job.program : Job α → Program α
  | turn work tail => work >>= tail
  | aside program => program

def Job.Fits (rule : Exclusion mutex) : Job α → Prop
  | turn work tail =>
    work.Follows rule.stages .outside (fun _ later => later = .done) ∧
      ∀ result, (tail result).Uses (rule.aside · = true)
  | aside program => program.Uses (rule.aside · = true)

/-- The work of a task, and the world in which it begins. -/
structure Turn (α : Type) where
  task : TaskId
  work : Program α
  found : World

namespace Turn

def block (turn : Turn α) : List (TaskId × Done) :=
  (turn.work.trace turn.found).map (turn.task, ·)

def left (turn : Turn α) : World :=
  (turn.work.run turn.found).2

def ended (origin : World) (turns : List (Turn α)) : World :=
  (turns.getLast?.map left).getD origin

/-- Whether each turn begins where the one before it ended, as far as the view goes. -/
def Chained (view : World → World) (origin : World) : List (Turn α) → Prop
  | [] => True
  | turn :: rest => view turn.found = view origin ∧ Chained view turn.left rest

theorem ended_cons (origin : World) (first : Turn α) (rest : List (Turn α)) :
    ended origin (first :: rest) = ended first.left rest := by
  cases rest <;> simp [ended, List.getLast?_cons]

theorem chained_snoc {view : World → World} {origin : World} {turns : List (Turn α)}
    {turn : Turn α} :
    Chained view origin (turns ++ [turn]) ↔
      Chained view origin turns ∧ view turn.found = view (ended origin turns) := by
  induction turns generalizing origin with
  | nil => simp [Chained, ended]
  | cons first rest ih =>
      rw [List.cons_append, Chained, ih, Chained, ended_cons, and_assoc]

/-- What every turn keeps is true wherever a turn begins, and in the end. -/
theorem Chained.all {origin : World} {turns : List (Turn α)} {invariant : World → Prop}
    (chained : Chained id origin turns) (holds : invariant origin)
    (keeps : ∀ turn ∈ turns, invariant turn.found → invariant turn.left) :
    (∀ turn ∈ turns, invariant turn.found) ∧ invariant (ended origin turns) := by
  induction turns generalizing origin with
  | nil => exact ⟨List.forall_mem_nil _, holds⟩
  | cons turn rest ih =>
      obtain ⟨begins, follows⟩ := chained
      obtain ⟨first, others⟩ := List.forall_mem_cons.mp keeps
      obtain rfl : turn.found = origin := begins
      obtain ⟨all, last⟩ := ih follows (first holds) others
      exact ⟨List.forall_mem_cons.mpr ⟨holds, all⟩, (ended_cons turn.found turn rest).symm ▸ last⟩

end Turn

/-!
## Turns
-/

def Pool.shown (rule : Exclusion mutex) (pool : Pool α) : List (TaskId × Done) :=
  pool.trace.filter fun entry => !rule.aside entry.2.action

/-- How a task stands that is not at its work: all of it is still to come, or none is left. -/
def Job.Stands (rule : Exclusion mutex) (had : Prop) : Job α → Program α → Prop
  | turn work tail, rest =>
    had ∧ rest.Uses (rule.aside · = true) ∨ ¬had ∧ rest = (work >>= tail : Program α)
  | aside _, rest => rest.Uses (rule.aside · = true)

variable (rule : Exclusion mutex) (jobs : List (Job α)) (origin : World)

/-- What is true of the tasks of a pool where some had their turns and one may be at its work. -/
structure Rests (turns : List (Turn α)) (busy : Option TaskId) (pool : Pool α) : Prop where
  present : mutex.Present pool.world
  counted : pool.tasks.length = jobs.length
  distinct : (turns.map Turn.task).Nodup
  own : ∀ turn ∈ turns, ∃ tail, jobs[turn.task]? = some (.turn turn.work tail)
  stands : ∀ task job rest, jobs[task]? = some job → pool.tasks[task]? = some rest →
    busy ≠ some task → job.Stands rule (task ∈ turns.map Turn.task) rest

/-- Some tasks had their turns, and nobody is at work. -/
structure Idle (turns : List (Turn α)) (pool : Pool α) : Prop extends
    Rests rule jobs turns none pool where
  chained : Turn.Chained rule.view origin turns
  traced : pool.shown rule = turns.flatMap Turn.block
  viewed : rule.view pool.world = rule.view (Turn.ended origin turns)

/-- Some tasks had their turns, and one did a part of its work. The world by itself and the world of
the pool agree as far as the view goes; as long as the lock is all that the task took, they are the
same. -/
structure AtWork (turns : List (Turn α)) (turn : Turn α) (entries : List Done) (pool : Pool α) :
    Prop extends Rests rule jobs (turns ++ [turn]) (some turn.task) pool where
  chained : Turn.Chained rule.view origin (turns ++ [turn])
  traced : pool.shown rule = turns.flatMap Turn.block ++ entries.map (turn.task, ·)
  taken : mutex.Taken pool.world
  underway : ∃ tail rest solo, jobs[turn.task]? = some (.turn turn.work tail) ∧
    pool.tasks[turn.task]? = some (rest >>= tail) ∧
    turn.work.Advances turn.found entries rest solo ∧ rule.view solo = rule.view pool.world ∧
    (rule.stages.reached .outside entries = .working ∨
      entries = [⟨mutex.take, (turn.found.perform mutex.take).1⟩] ∧ solo = pool.world)

variable {rule jobs origin} {turns later : List (Turn α)} {busy busyLater : Option TaskId}
  {pool : Pool α} {task : TaskId} {action : Action} {next : action.Reply → Program α}

theorem Pool.shown_act (rule : Exclusion mutex) :
    (pool.act task action next).shown rule = pool.shown rule ++
      if rule.aside action then [] else [(task, ⟨action, (pool.world.perform action).1⟩)] := by
  unfold shown Pool.act
  rw [List.filter_append]
  congr 1
  cases aside : rule.aside action <;> simp [aside]

theorem Rests.act (rests : Rests rule jobs turns busy pool)
    (current : pool.tasks[task]? = some (.step action next))
    (distinct : (later.map Turn.task).Nodup)
    (own : ∀ turn ∈ later, ∃ tail, jobs[turn.task]? = some (.turn turn.work tail))
    (others : ∀ other, other ≠ task →
      (other ∈ later.map Turn.task ↔ other ∈ turns.map Turn.task))
    (idle : ∀ other, other ≠ task → busyLater ≠ some other → busy ≠ some other)
    (stands : ∀ job, jobs[task]? = some job → busyLater ≠ some task →
      job.Stands rule (task ∈ later.map Turn.task) (next (pool.world.perform action).1)) :
    Rests rule jobs later busyLater (pool.act task action next) where
  present := mutex.present_perform rests.present action
  counted := by
    rw [Pool.act, List.length_set]
    exact rests.counted
  distinct := distinct
  own := own
  stands other job rest listed there free := by
    by_cases same : other = task
    · subst same
      obtain ⟨inside, _⟩ := List.getElem?_eq_some_iff.mp current
      rw [Pool.act, List.getElem?_set_self inside] at there
      cases there
      exact stands job listed free
    · rw [Pool.act, List.getElem?_set_ne (Ne.symm same)] at there
      rw [others other same]
      exact rests.stands other job rest listed there (idle other same free)

theorem Rests.spawn (rests : Rests rule jobs turns busy pool) {job : Job α} (fits : job.Fits rule) :
    Rests rule (jobs ++ [job]) turns busy (pool.spawn job.program) where
  present := rests.present
  counted := by
    rw [Pool.spawn, List.length_append, List.length_append, rests.counted]
    rfl
  distinct := rests.distinct
  own turn member := by
    obtain ⟨tail, listed⟩ := rests.own turn member
    obtain ⟨inside, _⟩ := List.getElem?_eq_some_iff.mp listed
    exact ⟨tail, (List.getElem?_append_left inside).trans listed⟩
  stands task found rest listed there free := by
    rcases Nat.lt_trichotomy task jobs.length with old | new | beyond
    · rw [List.getElem?_append_left old] at listed
      rw [Pool.spawn, List.getElem?_append_left (rests.counted.symm ▸ old)] at there
      exact rests.stands task found rest listed there free
    · rw [new, List.getElem?_concat_length] at listed
      rw [Pool.spawn, new, ← rests.counted, List.getElem?_concat_length] at there
      cases listed
      cases there
      cases job with
      | aside program => exact fits
      | turn work tail =>
          refine .inr ⟨fun member => ?_, rfl⟩
          obtain ⟨turn, had, same⟩ := List.mem_map.mp member
          obtain ⟨_, own⟩ := rests.own turn had
          exact absurd (same.trans new) (Nat.ne_of_lt (List.getElem?_eq_some_iff.mp own).1)
    · have outside : (jobs ++ [job]).length ≤ task := by
        rw [List.length_append]
        exact beyond
      rw [List.getElem?_eq_none outside] at listed
      cases listed

theorem Exclusion.shows_take (rule : Exclusion mutex) : rule.aside mutex.take = false :=
  Bool.eq_false_iff.mpr fun aside => (rule.aside_quiet _ aside).1 rfl

theorem Exclusion.shows_free (rule : Exclusion mutex) : rule.aside mutex.free = false :=
  Bool.eq_false_iff.mpr fun aside => (rule.aside_quiet _ aside).2 rfl

/-- A task that is not at its work does something aside, or it comes to its work. -/
theorem Job.Stands.step {job : Job α} {had : Prop}
    (stands : job.Stands rule had (.step action next)) :
    (rule.aside action = true ∧ ∀ reply, job.Stands rule had (next reply)) ∨
      ∃ work tail, job = .turn work tail ∧ ¬had ∧
        .step action next = (work >>= tail : Program α) := by
  cases job with
  | aside program => exact .inl ⟨stands.1, fun reply => stands.2 reply trivial⟩
  | turn work tail =>
      obtain ⟨yes, uses⟩ | ⟨no, whole⟩ := stands
      · exact .inl ⟨uses.1, fun reply => .inl ⟨yes, uses.2 reply trivial⟩⟩
      · exact .inr ⟨work, tail, rfl, no, whole⟩

theorem Rests.stand (rests : Rests rule jobs turns busy pool)
    (current : pool.tasks[task]? = some (.step action next)) (free : busy ≠ some task) :
    ∃ job, jobs[task]? = some job ∧
      job.Stands rule (task ∈ turns.map Turn.task) (.step action next) := by
  obtain ⟨inside, _⟩ := List.getElem?_eq_some_iff.mp current
  have listed := List.getElem?_eq_getElem (rests.counted ▸ inside)
  exact ⟨_, listed, rests.stands task _ _ listed current free⟩

theorem Exclusion.takes_first (rule : Exclusion mutex) {work : Program α}
    (follows : work.Follows rule.stages .outside fun _ later => later = .done) :
    ∃ first, work = .step mutex.take first := by
  cases work with
  | done result => cases follows
  | step action next =>
      obtain rfl := follows.1
      exact ⟨next, rfl⟩

/-!
## Steps of the idle
-/

namespace Idle

variable (idle : Idle rule jobs origin turns pool)

include idle

theorem spawn {job : Job α} (fits : job.Fits rule) :
    Idle rule (jobs ++ [job]) origin turns (pool.spawn job.program) where
  toRests := idle.toRests.spawn fits
  chained := idle.chained
  traced := idle.traced
  viewed := idle.viewed

theorem actAside (current : pool.tasks[task]? = some (.step action next))
    (aside : rule.aside action = true)
    (stands : ∀ job, jobs[task]? = some job →
      job.Stands rule (task ∈ turns.map Turn.task) (next (pool.world.perform action).1)) :
    Idle rule jobs origin turns (pool.act task action next) where
  toRests := idle.toRests.act current idle.distinct idle.own (fun _ _ => Iff.rfl)
    (fun _ _ => id) fun job listed _ => stands job listed
  chained := idle.chained
  traced := by
    rw [Pool.shown_act, if_pos aside, List.append_nil]
    exact idle.traced
  viewed := (rule.invisible action aside pool.world).trans idle.viewed

theorem takes {work : Program α} {tail : α → Program α} {first : mutex.take.Reply → Program α}
    (listed : jobs[task]? = some (.turn work tail)) (waits : task ∉ turns.map Turn.task)
    (begins : work = .step mutex.take first)
    (current : pool.tasks[task]? = some (.step mutex.take fun reply => first reply >>= tail)) :
    AtWork rule jobs origin turns ⟨task, work, pool.world⟩
      [⟨mutex.take, (pool.world.perform mutex.take).1⟩]
      (pool.act task mutex.take fun reply => first reply >>= tail) where
  toRests := by
    refine idle.toRests.act current ?_ ?_ ?_ (fun _ _ _ => nofun) fun _ _ busy => absurd rfl busy
    · rw [List.map_append]
      refine List.nodup_append.mpr ⟨idle.distinct, by simp, ?_⟩
      rintro other member _ new rfl
      obtain rfl := List.mem_singleton.mp new
      exact waits member
    · intro turn member
      rcases List.mem_append.mp member with earlier | new
      · exact idle.own turn earlier
      · obtain rfl := List.mem_singleton.mp new
        exact ⟨tail, listed⟩
    · intro other different
      simp [different]
  chained := Turn.chained_snoc.mpr ⟨idle.chained, idle.viewed⟩
  traced := by
    rw [Pool.shown_act, rule.shows_take, idle.traced]
    rfl
  taken := mutex.taken_take idle.present
  underway := by
    obtain ⟨inside, _⟩ := List.getElem?_eq_some_iff.mp current
    refine ⟨tail, first (pool.world.perform mutex.take).1, _, listed, ?_, ?_, rfl, .inr ⟨rfl, rfl⟩⟩
    · exact List.getElem?_set_self inside
    · subst begins
      exact .step (.refl _ _)

theorem all_had (fits : ∀ job ∈ jobs, job.Fits rule) (finished : pool.Finished)
    {work : Program α} {tail : α → Program α} (listed : jobs[task]? = some (.turn work tail)) :
    task ∈ turns.map Turn.task := by
  obtain ⟨inside, _⟩ := List.getElem?_eq_some_iff.mp listed
  have there := List.getElem?_eq_getElem (idle.counted.symm ▸ inside)
  obtain ⟨result, done⟩ := finished _ (List.getElem_mem (idle.counted.symm ▸ inside))
  obtain ⟨had, _⟩ | ⟨_, whole⟩ := idle.stands task _ _ listed there nofun
  · exact had
  · obtain ⟨first, rfl⟩ := rule.takes_first (fits _ (List.mem_of_getElem? listed)).1
    cases done.symm.trans whole

end Idle

/-!
## Steps of the one at work
-/

theorem Discipline.reached_snoc {Phase : Type} (rule : Discipline Phase) (phase : Phase)
    (entries : List Done) (entry : Done) :
    rule.reached phase (entries ++ [entry]) =
      rule.after (rule.reached phase entries) entry.action entry.reply := by
  simp [reached]

namespace AtWork

variable {turn : Turn α} {entries : List Done}

theorem spawn (atWork : AtWork rule jobs origin turns turn entries pool) {job : Job α}
    (fits : job.Fits rule) :
    AtWork rule (jobs ++ [job]) origin turns turn entries (pool.spawn job.program) where
  toRests := atWork.toRests.spawn fits
  chained := atWork.chained
  traced := atWork.traced
  taken := atWork.taken
  underway := by
    obtain ⟨tail, rest, solo, listed, there, advances, same, stage⟩ := atWork.underway
    obtain ⟨inside, _⟩ := List.getElem?_eq_some_iff.mp listed
    obtain ⟨within, _⟩ := List.getElem?_eq_some_iff.mp there
    refine ⟨tail, rest, solo, ?_, ?_, advances, same, stage⟩
    · exact (List.getElem?_append_left inside).trans listed
    · exact (List.getElem?_append_left within).trans there

/-- What is done aside does not get in the way of the one at work. If that one has only taken the
lock, it is as if it had begun after it. -/
theorem actAside (atWork : AtWork rule jobs origin turns turn entries pool)
    (current : pool.tasks[task]? = some (.step action next)) (aside : rule.aside action = true)
    (different : turn.task ≠ task)
    (stands : ∀ job, jobs[task]? = some job →
      job.Stands rule (task ∈ (turns ++ [turn]).map Turn.task)
        (next (pool.world.perform action).1)) :
    ∃ found, AtWork rule jobs origin turns { turn with found := found } entries
        (pool.act task action next) ∧
      (found = turn.found ∨
        (found.perform mutex.take).2 = (pool.act task action next).world) := by
  have kept : ∀ found, Rests rule jobs (turns ++ [{ turn with found := found }])
      (some turn.task) (pool.act task action next) := by
    intro found
    have same : (turns ++ [{ turn with found := found }]).map Turn.task =
        (turns ++ [turn]).map Turn.task := by simp
    refine atWork.toRests.act current (same ▸ atWork.distinct) ?_ (by simp) (fun _ _ => id)
      fun job listed _ => same ▸ stands job listed
    intro other member
    rcases List.mem_append.mp member with earlier | new
    · exact atWork.own other (List.mem_append_left _ earlier)
    · obtain rfl := List.mem_singleton.mp new
      exact atWork.own turn (List.mem_append_right _ (List.mem_singleton.mpr rfl))
  have traced : (pool.act task action next).shown rule =
      turns.flatMap Turn.block ++ entries.map (turn.task, ·) := by
    rw [Pool.shown_act, if_pos aside, List.append_nil]
    exact atWork.traced
  have taken := mutex.taken_perform atWork.taken (rule.aside_quiet action aside)
  obtain ⟨before, begins⟩ := Turn.chained_snoc.mp atWork.chained
  obtain ⟨tail, rest, solo, listed, there, advances, same, stage⟩ := atWork.underway
  have still : (pool.act task action next).tasks[turn.task]? = some (rest >>= tail) := by
    rw [Pool.act, List.getElem?_set_ne different.symm]
    exact there
  have viewed := rule.invisible action aside pool.world
  -- Once the work has begun it depends on its view alone. If only the lock was taken, what is done
  -- aside is moved in front of that.
  rcases stage with working | ⟨entered, here⟩
  · refine ⟨turn.found, ?_, .inl rfl⟩
    exact ⟨kept _, atWork.chained, traced, taken, tail, rest, solo, listed, still, advances,
      same.trans viewed.symm, .inl working⟩
  · rw [entered] at advances
    obtain ⟨first, whole, rfl, rfl⟩ := advances.single
    have moved : ((turn.found.perform action).2.perform mutex.take).2 =
        (pool.world.perform action).2 := by
      rw [rule.commutes action aside, here]
    have took := mutex.take_reply (turn.found.perform action).2 turn.found
    refine ⟨(turn.found.perform action).2, ⟨kept _, ?_, traced, taken, tail, _, _, listed, still, ?_,
      congrArg rule.view moved, .inr ⟨?_, moved⟩⟩, .inr moved⟩
    · refine Turn.chained_snoc.mpr ⟨before, ?_⟩
      exact (rule.invisible action aside turn.found).trans begins
    · rw [entered, whole, ← took]
      exact .step (.refl _ _)
    · rw [entered, ← took]

section

variable {tail : α → Program α} {first : action.Reply → Program α} {solo : World}

/-- The one at work did an action that gave what it gives in the world by itself. -/
theorem continues (atWork : AtWork rule jobs origin turns turn entries pool)
    (listed : jobs[turn.task]? = some (.turn turn.work tail))
    (current : pool.tasks[turn.task]? = some (.step action fun reply => first reply >>= tail))
    (advances : turn.work.Advances turn.found entries (.step action first) solo)
    (quiet : mutex.Quiet action) (shown : rule.aside action = false)
    (stage : rule.stages.reached .outside (entries ++ [⟨action, (solo.perform action).1⟩]) = .working)
    (replied : (solo.perform action).1 = (pool.world.perform action).1)
    (viewed : rule.view (solo.perform action).2 = rule.view (pool.world.perform action).2) :
    AtWork rule jobs origin turns turn (entries ++ [⟨action, (solo.perform action).1⟩])
      (pool.act turn.task action fun reply => first reply >>= tail) where
  toRests := atWork.toRests.act current atWork.distinct atWork.own (fun _ _ => Iff.rfl)
    (fun _ _ => id) fun _ _ busy => absurd rfl busy
  chained := atWork.chained
  traced := by
    rw [Pool.shown_act, shown, atWork.traced, List.map_append, ← List.append_assoc, replied]
    rfl
  taken := mutex.taken_perform atWork.taken quiet
  underway := by
    obtain ⟨inside, _⟩ := List.getElem?_eq_some_iff.mp current
    refine ⟨tail, _, _, listed, ?_, advances.snoc, viewed, .inl stage⟩
    rw [replied]
    exact List.getElem?_set_self inside

theorem finishes (atWork : AtWork rule jobs origin turns turn entries pool)
    (listed : jobs[turn.task]? = some (.turn turn.work tail))
    {last : mutex.free.Reply → Program α}
    (current : pool.tasks[turn.task]? = some (.step mutex.free fun reply => last reply >>= tail))
    (advances : turn.work.Advances turn.found entries (.step mutex.free last) solo)
    (ends : ∃ result, last (solo.perform mutex.free).1 = .done result)
    (leaves : ∀ result, (tail result).Uses (rule.aside · = true))
    (replied : (solo.perform mutex.free).1 = (pool.world.perform mutex.free).1)
    (viewed : rule.view (solo.perform mutex.free).2 = rule.view (pool.world.perform mutex.free).2) :
    Idle rule jobs origin (turns ++ [turn])
      (pool.act turn.task mutex.free fun reply => last reply >>= tail) := by
  obtain ⟨result, ended⟩ := ends
  have whole := advances.snoc
  rw [ended] at whole
  refine ⟨atWork.toRests.act current atWork.distinct atWork.own (fun _ _ => Iff.rfl)
    (fun _ different _ same => different (Option.some.inj same).symm) ?_, atWork.chained, ?_, ?_⟩
  · intro job same _
    rw [listed] at same
    cases same
    rw [← replied, ended]
    exact .inl ⟨by simp, leaves result⟩
  · rw [Pool.shown_act, rule.shows_free, atWork.traced, List.flatMap_append, List.flatMap_singleton,
      Turn.block, whole.trace_eq, ← replied, List.append_assoc]
    simp [trace]
  · have left : turn.left = (solo.perform mutex.free).2 := congrArg (·.2) whole.run_eq
    rw [Turn.ended, List.getLast?_concat]
    exact viewed.symm.trans (congrArg rule.view left.symm)

end

/-- The one at work goes on by itself until its turn is over. -/
theorem actOwn (atWork : AtWork rule jobs origin turns turn entries pool)
    (fits : ∀ job ∈ jobs, job.Fits rule)
    (current : pool.tasks[turn.task]? = some (.step action next)) :
    (∃ entry, AtWork rule jobs origin turns turn (entries ++ [entry])
        (pool.act turn.task action next)) ∨
      Idle rule jobs origin (turns ++ [turn]) (pool.act turn.task action next) := by
  obtain ⟨tail, rest, solo, listed, there, advances, same, stage⟩ := atWork.underway
  obtain ⟨follows, leaves⟩ := fits _ (List.mem_of_getElem? listed)
  obtain ⟨_, left⟩ := advances.leaves.follows follows fun _ _ _ => trivial
  have entered : entries = [⟨mutex.take, (turn.found.perform mutex.take).1⟩] →
      rule.stages.reached .outside entries = .entered := fun only => only ▸ rfl
  cases rest with
  | done result =>
      have ended : rule.stages.reached .outside entries = .done := left
      rcases stage with working | ⟨only, _⟩
      · cases working.symm.trans ended
      · cases (entered only).symm.trans ended
  | step own first =>
      cases Option.some.inj (there.symm.trans current)
      obtain ⟨allowed, rest⟩ := left
      have next := rule.stages.reached_snoc .outside entries ⟨action, (solo.perform action).1⟩
      rcases stage with working | ⟨only, rfl⟩
      · rw [working] at allowed rest next
        obtain ⟨replied, viewed⟩ := rule.determined action allowed _ _ same
        rcases allowed with inner | rfl
        · obtain ⟨quiet, shown⟩ := rule.inner_quiet action inner
          refine .inl ⟨_, atWork.continues listed current advances quiet shown ?_ replied viewed⟩
          have holds := Bool.eq_false_iff.mpr (mt mutex.frees_iff.mp quiet.2)
          rw [next]
          exact if_neg (by simp [holds])
        · refine .inr (atWork.finishes listed current advances ?_ leaves replied viewed)
          have ended := rest (solo.perform mutex.free).1 trivial
          have freed : rule.stages.after .working mutex.free (solo.perform mutex.free).1 = .done :=
            if_pos (mutex.frees_iff.mpr rfl)
          rw [freed] at ended
          cases last : first (solo.perform mutex.free).1 with
          | done result => exact ⟨result, rfl⟩
          | step action more =>
              rw [last] at ended
              exact ended.1.elim
      · rw [entered only] at allowed next
        obtain ⟨quiet, shown⟩ := allowed
        exact .inl ⟨_, atWork.continues listed current advances quiet shown next rfl rfl⟩

theorem unfinished (atWork : AtWork rule jobs origin turns turn entries pool)
    (fits : ∀ job ∈ jobs, job.Fits rule) : ¬pool.Finished := by
  intro finished
  obtain ⟨tail, rest, solo, listed, there, advances, _, stage⟩ := atWork.underway
  obtain ⟨result, done⟩ := finished _ (List.mem_of_getElem? there)
  cases rest with
  | step action next => cases done
  | done result =>
      have ended : rule.stages.reached .outside entries = .done :=
        (advances.leaves.follows (fits _ (List.mem_of_getElem? listed)).1 fun _ _ _ => trivial).2
      rcases stage with working | ⟨rfl, _⟩
      · cases working.symm.trans ended
      · cases ended

theorem begun (atWork : AtWork rule jobs origin turns turn entries pool) :
    entries <+: turn.work.trace turn.found := by
  obtain ⟨_, _, _, _, _, advances, _⟩ := atWork.underway
  rw [advances.trace_eq]
  exact List.prefix_append ..

end AtWork

/-!
## Runs
-/

variable (rule jobs origin) in
/-- Tasks had their turns one after the other, the last of them perhaps only in part. -/
def Serial (turns : List (Turn α)) (pool : Pool α) : Prop :=
  Idle rule jobs origin turns pool ∨
    ∃ earlier turn entries, turns = earlier ++ [turn] ∧
      AtWork rule jobs origin earlier turn entries pool

namespace Serial

theorem spawn (serial : Serial rule jobs origin turns pool) {job : Job α} (fits : job.Fits rule) :
    Serial rule (jobs ++ [job]) origin turns (pool.spawn job.program) := by
  obtain idle | ⟨earlier, turn, entries, same, atWork⟩ := serial
  · exact .inl (idle.spawn fits)
  · exact .inr ⟨earlier, turn, entries, same, atWork.spawn fits⟩

theorem act (serial : Serial rule jobs origin turns pool) (fits : ∀ job ∈ jobs, job.Fits rule)
    (current : pool.tasks[task]? = some (.step action next))
    (enabled : pool.world.Enabled action) :
    ∃ later, Serial rule jobs origin later (pool.act task action next) ∧
      ∀ turn ∈ later, turn ∈ turns ∨
        (turn.found.perform mutex.take).2 = (pool.act task action next).world := by
  obtain idle | ⟨earlier, turn, entries, rfl, atWork⟩ := serial
  · obtain ⟨job, listed, stands⟩ := idle.toRests.stand current nofun
    obtain ⟨aside, stays⟩ | ⟨work, tail, rfl, waits, whole⟩ := stands.step
    · refine ⟨turns, .inl (idle.actAside current aside ?_), fun _ => .inl⟩
      intro other same
      cases listed.symm.trans same
      exact stays _
    · obtain ⟨first, rfl⟩ := rule.takes_first (fits _ (List.mem_of_getElem? listed)).1
      cases whole
      refine ⟨turns ++ [_], .inr ⟨_, _, _, rfl, idle.takes listed waits rfl current⟩, ?_⟩
      intro turn member
      rcases List.mem_append.mp member with before | new
      · exact .inl before
      · obtain rfl := List.mem_singleton.mp new
        exact .inr rfl
  · by_cases own : turn.task = task
    · subst own
      obtain ⟨entry, goes⟩ | ends := atWork.actOwn fits current
      · exact ⟨_, .inr ⟨_, _, _, rfl, goes⟩, fun _ => .inl⟩
      · exact ⟨_, .inl ends, fun _ => .inl⟩
    · obtain ⟨job, listed, stands⟩ :=
        atWork.toRests.stand current fun same => own (Option.some.inj same)
      obtain ⟨aside, stays⟩ | ⟨work, tail, rfl, _, whole⟩ := stands.step
      · obtain ⟨found, goes, moment⟩ := atWork.actAside current aside own fun other same => by
          cases listed.symm.trans same
          exact stays _
        refine ⟨_, .inr ⟨_, _, _, rfl, goes⟩, fun other member => ?_⟩
        rcases List.mem_append.mp member with before | last
        · exact .inl (List.mem_append_left _ before)
        · obtain rfl := List.mem_singleton.mp last
          rcases moment with rfl | moment
          · exact .inl (List.mem_append_right _ (List.mem_singleton.mpr rfl))
          · exact .inr moment
      · -- Who has the whole of its work to do waits for the lock.
        obtain ⟨first, rfl⟩ := rule.takes_first (fits _ (List.mem_of_getElem? listed)).1
        cases whole
        exact absurd enabled (mutex.not_enabled atWork.taken)

theorem advance (serial : Serial rule jobs origin turns pool) (fits : ∀ job ∈ jobs, job.Fits rule)
    (task : TaskId) :
    ∃ later, Serial rule jobs origin later (pool.advance task) ∧
      ∀ turn ∈ later, turn ∈ turns ∨
        (turn.found.perform mutex.take).2 = (pool.advance task).world := by
  obtain same | ⟨action, next, current, enabled, same⟩ := pool.advance_cases task
  · rw [same]
    exact ⟨turns, serial, fun _ => .inl⟩
  · rw [same]
    exact serial.act fits current enabled

theorem rests (serial : Serial rule jobs origin turns pool) :
    ∃ busy, Rests rule jobs turns busy pool := by
  obtain idle | ⟨earlier, turn, entries, rfl, atWork⟩ := serial
  · exact ⟨_, idle.toRests⟩
  · exact ⟨_, atWork.toRests⟩

/-- All that was done under the lock is what the turns do by themselves, the last of them perhaps
only in part. -/
theorem shown_prefix (serial : Serial rule jobs origin turns pool) :
    pool.shown rule <+: turns.flatMap Turn.block := by
  obtain idle | ⟨earlier, turn, entries, rfl, atWork⟩ := serial
  · exact idle.traced ▸ List.prefix_rfl
  · rw [atWork.traced, List.flatMap_append, List.flatMap_singleton]
    exact List.prefix_append_right_inj _ |>.mpr (atWork.begun.map _)

/-- The turns that are over, and the one that is underway if there is one. Once all tasks have
ended, there is none, and whoever had work to do had a turn. -/
theorem parts (serial : Serial rule jobs origin turns pool) (fits : ∀ job ∈ jobs, job.Fits rule) :
    ∃ past underway begun, turns = past ++ underway ∧
      pool.shown rule = past.flatMap Turn.block ++ begun ∧
      (underway = [] ∧ begun = [] ∨ ∃ turn, underway = [turn] ∧ begun <+: turn.block) ∧
      (pool.Finished → underway = [] ∧ begun = [] ∧ ∀ task work tail,
        jobs[task]? = some (.turn work tail) → task ∈ past.map Turn.task) := by
  obtain idle | ⟨earlier, turn, entries, rfl, atWork⟩ := serial
  · refine ⟨turns, [], [], (List.append_nil _).symm, ?_, .inl ⟨rfl, rfl⟩, fun finished => ?_⟩
    · rw [List.append_nil]
      exact idle.traced
    · exact ⟨rfl, rfl, fun _ _ _ listed => idle.all_had fits finished listed⟩
  · refine ⟨earlier, [turn], _, rfl, atWork.traced, .inr ⟨turn, rfl, atWork.begun.map _⟩, ?_⟩
    exact fun finished => absurd finished (atWork.unfinished fits)

end Serial

/-- Whatever happens to a pool whose tasks do jobs, they have their turns one after the other, and
each turn begins in a world that the pool came to be in, but for the lock. -/
theorem Pool.after_serial (rule : Exclusion mutex) {job : Demand → Job α}
    (fits : ∀ demand, (job demand).Fits rule) (origin : World) (present : mutex.Present origin)
    (happenings : List (Happening Demand)) :
    ∃ turns, Serial rule ((Happening.demands happenings).map job) origin turns
        (Pool.after (fun demand => (job demand).program) origin happenings) ∧
      ∀ turn ∈ turns, ∃ earlier, earlier <+: happenings ∧ (turn.found.perform mutex.take).2 =
        (Pool.after (fun demand => (job demand).program) origin earlier).world := by
  have all : ∀ happenings : List (Happening Demand),
      ∀ given ∈ (Happening.demands happenings).map job, given.Fits rule := by
    intro happenings given member
    obtain ⟨demand, _, rfl⟩ := List.mem_map.mp member
    exact fits demand
  induction happenings using List.reverseRecOn with
  | nil =>
      refine ⟨[], .inl ⟨⟨present, rfl, List.nodup_nil, List.forall_mem_nil _, ?_⟩, trivial, rfl, rfl⟩,
        List.forall_mem_nil _⟩
      intro task given rest listed
      simp [Happening.demands] at listed
  | append_singleton happenings happening ih =>
      obtain ⟨turns, serial, moments⟩ := ih
      have before : ∀ turn ∈ turns, ∃ earlier, earlier <+: happenings ++ [happening] ∧
          (turn.found.perform mutex.take).2 =
            (Pool.after (fun demand => (job demand).program) origin earlier).world := by
        intro turn member
        obtain ⟨earlier, within, found⟩ := moments turn member
        exact ⟨earlier, within.trans (List.prefix_append ..), found⟩
      cases happening with
      | ask demand =>
          rw [Pool.after_ask, Happening.demands, List.filterMap_append, List.map_append]
          exact ⟨turns, serial.spawn (fits demand), before⟩
      | advance task =>
          have same : Happening.demands (happenings ++ [.advance task]) =
              Happening.demands happenings := by
            simp [Happening.demands]
          rw [Pool.after_advance, same]
          obtain ⟨later, goes, found⟩ := serial.advance (all happenings) task
          refine ⟨later, goes, fun turn member => ?_⟩
          rcases found turn member with old | new
          · exact before turn old
          · exact ⟨_, List.prefix_rfl, by rw [Pool.after_advance, new]⟩

/-- Where each block has a tag of its own, what stands between two things of one tag is of the same
block. -/
theorem between_of_blocks {β γ : Type} {tag : γ → TaskId} (block : γ → List β) {turns : List γ}
    (distinct : (turns.map tag).Nodup) {task : TaskId} {first second : β}
    {before between after : List (TaskId × β)}
    (split : turns.flatMap (fun turn => (block turn).map (tag turn, ·)) =
      before ++ (task, first) :: (between ++ (task, second) :: after)) :
    ∃ turn ∈ turns, tag turn = task ∧ ∃ earlier middle later,
      block turn = earlier ++ first :: (middle ++ second :: later) ∧
        between = middle.map (task, ·) := by
  induction turns generalizing before with
  | nil => simp at split
  | cons turn rest ih =>
      have elsewhere : ∀ before : List (TaskId × β),
          rest.flatMap (fun turn => (block turn).map (tag turn, ·)) =
            before ++ (task, first) :: (between ++ (task, second) :: after) →
          ∃ turn' ∈ turn :: rest, tag turn' = task ∧ ∃ earlier middle later,
            block turn' = earlier ++ first :: (middle ++ second :: later) ∧
              between = middle.map (task, ·) := by
        intro before split
        obtain ⟨other, member, found⟩ := ih (List.nodup_cons.mp distinct).2 split
        exact ⟨other, List.mem_cons_of_mem _ member, found⟩
      -- Once the first of the two is in this block, its tag is of no other one.
      have only : tag turn = task →
          ∀ entry, (task, entry) ∉ rest.flatMap fun turn => (block turn).map (tag turn, ·) := by
        rintro rfl entry member
        obtain ⟨other, listed, inside⟩ := List.mem_flatMap.mp member
        obtain ⟨_, _, same⟩ := List.mem_map.mp inside
        exact (List.nodup_cons.mp distinct).1
          (List.mem_map.mpr ⟨other, listed, congrArg Prod.fst same⟩)
      rw [List.flatMap_cons] at split
      obtain ⟨_, rfl, later⟩ | ⟨own, here, tail⟩ := List.append_eq_append_iff.mp split
      · exact elsewhere _ later
      · cases own with
        | nil => exact elsewhere [] tail.symm
        | cons head own =>
            obtain ⟨rfl, onward⟩ := List.cons.inj tail
            obtain ⟨earlier, more, parts, _, follows⟩ := List.map_eq_append_iff.mp here
            obtain ⟨_, inner, rfl, same, inside⟩ := List.map_eq_cons_iff.mp follows
            cases same
            obtain ⟨own, rfl, ending⟩ | ⟨_, _, beyond⟩ := List.append_eq_append_iff.mp onward
            · cases own with
              | nil =>
                  rw [List.nil_append] at ending
                  exact absurd (ending ▸ List.mem_cons_self ..) (only rfl second)
              | cons head own =>
                  obtain ⟨rfl, _⟩ := List.cons.inj ending
                  obtain ⟨middle, last, rfl, between, follows⟩ := List.map_eq_append_iff.mp inside
                  obtain ⟨_, later, rfl, same, _⟩ := List.map_eq_cons_iff.mp follows
                  cases same
                  exact ⟨turn, List.mem_cons_self .., rfl, earlier, middle, later, parts,
                    between.symm⟩
            · exact absurd (beyond ▸ List.mem_append_right _ (List.mem_cons_self ..))
                (only rfl second)

end AmqpEndpoints
