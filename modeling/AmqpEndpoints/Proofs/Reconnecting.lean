import AmqpEndpoints.Proofs.Components
import AmqpEndpoints.Proofs.Openings
import AmqpEndpoints.Proofs.Publications

/-!
# Connecting again

An init puts a new connection into the place of the one before, or it changes nothing that any other
program could notice: what is left of the script is different for building and connecting only.
-/

set_option autoImplicit false

namespace AmqpEndpoints

open Program

/-!
## Worlds that differ in how connecting will go
-/

/-- The outcomes that a script has for a kind of calls, in order. -/
def pending (point : Point) (script : Script) : List Outcome :=
  script.filterMap fun entry => if entry.1 = point then some entry.2 else none

theorem nextOutcome_fst (point : Point) (script : Script) :
    (nextOutcome point script).1 = (pending point script).headD .plain := by
  induction script with
  | nil => rfl
  | cons entry rest ih =>
      rw [nextOutcome]
      by_cases same : entry.1 = point
      · simp [pending, same]
      · simpa [pending, same] using ih

theorem pending_nextOutcome (point other : Point) (script : Script) :
    pending other (nextOutcome point script).2 =
      if other = point then (pending other script).tail else pending other script := by
  induction script with
  | nil => simp [nextOutcome, pending]
  | cons entry rest ih =>
      rw [nextOutcome]
      by_cases same : entry.1 = point
      · by_cases own : other = point
        · simp [pending, same, own]
        · have apart : point ≠ other := fun equal => own equal.symm
          simp [pending, same, own, apart]
      · by_cases own : other = point
        · subst own
          simpa [pending, same] using ih
        · by_cases also : entry.1 = other <;> simpa [pending, same, own, also] using ih

/-- The kinds of calls that an init makes until it has a connection. -/
def Point.opens : Point → Bool
  | build => true
  | connect => true
  | _ => false

/-- Whether a call does nothing for a new connection. -/
def Call.OpensNothing : Call → Prop
  | build => False
  | connect _ => False
  | _ => True

/-- Brokers that are the same but for their logs and for how building and connecting will go. -/
def Broker.Alike (left right : Broker) : Prop :=
  ∃ script log, right = { left with script := script, log := log } ∧
    ∀ point : Point, point.opens = false → pending point script = pending point left.script

namespace Broker.Alike

variable {left right third : Broker}

theorem refl (broker : Broker) : broker.Alike broker :=
  ⟨broker.script, broker.log, rfl, fun _ _ => rfl⟩

theorem trans (first : left.Alike right) (second : right.Alike third) : left.Alike third := by
  obtain ⟨_, _, rfl, same⟩ := first
  obtain ⟨script, log, rfl, also⟩ := second
  exact ⟨script, log, rfl, fun point apart => (also point apart).trans (same point apart)⟩

theorem record (alike : left.Alike right) (event : Event) :
    (left.record event).Alike (right.record event) := by
  obtain ⟨script, log, rfl, same⟩ := alike
  exact ⟨script, _, rfl, same⟩

theorem outcome (alike : left.Alike right) {point : Point} (apart : point.opens = false) :
    (right.outcome point).1 = (left.outcome point).1 ∧
      (left.outcome point).2.Alike (right.outcome point).2 := by
  obtain ⟨script, log, rfl, same⟩ := alike
  constructor
  · simp only [Broker.outcome, nextOutcome_fst, same point apart]
  · refine ⟨(nextOutcome point script).2, log, rfl, ?_⟩
    intro other different
    change _ = pending other (nextOutcome point left.script).2
    rw [pending_nextOutcome, pending_nextOutcome, same other different]

theorem plainOutcome (alike : left.Alike right) {point : Point} (apart : point.opens = false) :
    (right.plainOutcome point).1 = (left.plainOutcome point).1 ∧
      (left.plainOutcome point).2.Alike (right.plainOutcome point).2 := by
  obtain ⟨replied, later⟩ := alike.outcome apart
  exact ⟨congrArg (·.map fun _ => ()) replied, later⟩

theorem answer (alike : left.Alike right) {call : Call} (apart : call.OpensNothing) :
    (right.answer call).1 = (left.answer call).1 ∧
      (left.answer call).2.Alike (right.answer call).2 := by
  cases call with
  | build => exact apart.elim
  | connect name => exact apart.elim
  | createChannel connection =>
      obtain ⟨replied, later⟩ := @plainOutcome _ _ alike .createChannel rfl
      simp only [Broker.answer, replied]
      cases (left.plainOutcome .createChannel).1 with
      | error failure => exact ⟨rfl, later⟩
      | ok _ =>
          obtain ⟨script, log, same, rest⟩ := later
          rw [same]
          exact ⟨rfl, script, log, rfl, rest⟩
  | consume channel queue tag =>
      obtain ⟨replied, later⟩ := @plainOutcome _ _ alike .consume rfl
      simp only [Broker.answer, replied]
      cases (left.plainOutcome .consume).1 with
      | error failure => exact ⟨rfl, later⟩
      | ok _ =>
          obtain ⟨script, log, same, rest⟩ := later
          rw [same]
          exact ⟨rfl, script, log, rfl, rest⟩
  | publish => exact alike.outcome rfl
  | _ => exact alike.plainOutcome rfl

end Broker.Alike

/-- Worlds that are the same but for the logs of their brokers and for how building and connecting
will go there. -/
def World.Alike (left right : World) : Prop :=
  ∃ broker, right = { left with broker := broker } ∧ left.broker.Alike broker

def Action.OpensNothing : Action → Prop
  | await call => call.OpensNothing
  | _ => True

namespace World.Alike

variable {left right third : World}

theorem refl (world : World) : world.Alike world :=
  ⟨world.broker, rfl, .refl _⟩

theorem trans (first : left.Alike right) (second : right.Alike third) : left.Alike third := by
  obtain ⟨_, rfl, alike⟩ := first
  obtain ⟨broker, rfl, also⟩ := second
  exact ⟨broker, rfl, alike.trans also⟩

theorem perform (alike : left.Alike right) {action : Action} (apart : action.OpensNothing) :
    (right.perform action).1 = (left.perform action).1 ∧
      (left.perform action).2.Alike (right.perform action).2 := by
  obtain ⟨broker, rfl, same⟩ := alike
  cases action with
  | await call =>
      obtain ⟨replied, later⟩ := same.answer apart
      simp only [World.perform, Broker.respond, replied]
      exact ⟨trivial, _, rfl, later.record _⟩
  | issue call => exact ⟨rfl, _, rfl, same.record _⟩
  | endSpan span => exact ⟨rfl, _, rfl, same.record _⟩
  | listen listener message context =>
      have heard := same.record (.message listener message context)
      obtain ⟨replied, later⟩ := @Broker.Alike.plainOutcome _ _ heard .listener rfl
      exact ⟨replied, _, rfl, later⟩
  | drawTag =>
      obtain ⟨script, log, rfl, rest⟩ := same
      exact ⟨rfl, _, rfl, script, log, rfl, rest⟩
  | spawn stream dispatcher =>
      simp only [World.perform, setDispatcher]
      split <;> exact ⟨trivial, broker, rfl, same⟩
  | cancel stream =>
      simp only [World.perform, setDispatcher]
      split <;> exact ⟨trivial, broker, rfl, same⟩
  | _ => exact ⟨rfl, broker, rfl, same⟩

/-- Programs that open nothing cannot tell such worlds apart. -/
theorem run {α : Type} {program : Program α} (alike : left.Alike right)
    (uses : program.Uses Action.OpensNothing) :
    program.trace right = program.trace left ∧ (program.run right).1 = (program.run left).1 ∧
      (program.run left).2.Alike (program.run right).2 := by
  induction program generalizing left right with
  | done result => exact ⟨rfl, rfl, alike⟩
  | step action next ih =>
      obtain ⟨replied, later⟩ := alike.perform uses.1
      simp only [Program.trace, run_step, replied]
      obtain ⟨traces, results, ended⟩ := ih _ later (uses.2 _ trivial)
      exact ⟨congrArg _ traces, results, ended⟩

end World.Alike

/-!
## Steps in vain
-/

/-- Whether nothing was opened by a step of building or connecting. -/
def Done.InVain : Done → Prop
  | ⟨.issue .build, _⟩ => True
  | ⟨.await .build, _⟩ => True
  | ⟨.issue (.connect _), _⟩ => True
  | ⟨.await (.connect _), .error _⟩ => True
  | _ => False

theorem Broker.alike_record (broker : Broker) (event : Event) : broker.Alike (broker.record event) :=
  ⟨broker.script, _, rfl, fun _ _ => rfl⟩

theorem Broker.alike_plainOutcome (broker : Broker) {point : Point} (opens : point.opens = true) :
    broker.Alike (broker.plainOutcome point).2 := by
  refine ⟨(nextOutcome point broker.script).2, broker.log, rfl, ?_⟩
  intro other apart
  have different : other ≠ point := by
    intro same
    rw [same, opens] at apart
    cases apart
  rw [pending_nextOutcome, if_neg different]

theorem World.alike_perform (world : World) {action : Action}
    (vain : Done.InVain ⟨action, (world.perform action).1⟩) :
    world.Alike (world.perform action).2 := by
  cases action with
  | issue call => exact ⟨_, rfl, world.broker.alike_record _⟩
  | await call =>
      have answered : world.broker.Alike (world.broker.answer call).2 := by
        cases call with
        | build =>
            simp only [Broker.answer]
            cases world.broker.endpoint with
            | error failure => exact .refl _
            | ok _ => exact world.broker.alike_plainOutcome rfl
        | connect name =>
            simp only [perform, Broker.respond, Broker.answer] at vain ⊢
            cases replied : (world.broker.plainOutcome .connect).1 with
            | error failure => exact world.broker.alike_plainOutcome rfl
            | ok _ =>
                rw [replied] at vain
                exact vain.elim
        | _ => exact vain.elim
      exact ⟨_, rfl, answered.trans (Broker.alike_record _ _)⟩
  | _ => exact vain.elim

theorem Program.alike_run {α : Type} {program : Program α} {world : World}
    (vain : ∀ entry ∈ program.trace world, entry.InVain) :
    world.Alike (program.run world).2 := by
  induction program generalizing world with
  | done result => exact .refl world
  | step action next ih =>
      obtain ⟨first, others⟩ := List.forall_mem_cons.mp vain
      exact (world.alike_perform first).trans (ih _ others)

/-!
## The course of an init
-/

namespace Connection

/-- What is said until a connection is open. -/
def established (name : String) (connection : ConnectionId) : List Done :=
  Answered.entries ⟨.build, .ok ()⟩ ++ Answered.entries ⟨.connect name, .ok connection⟩

/-- How an init can go: what it does, and what comes of it. -/
inductive Opens (name : String) : List Done → Except Failure Unit → Prop where
  | unbuilt (failure : Failure) :
      Opens name (Answered.entries ⟨.build, .error failure⟩) (.error failure)
  | refused (reason : String) :
      Opens name
        (Answered.entries ⟨.build, .ok ()⟩ ++
          Answered.entries ⟨.connect name, .error (.connection reason)⟩)
        (.error (.connection reason))
  | failed {failure : Failure} (other : ∀ reason, failure ≠ .connection reason) :
      Opens name
        (Answered.entries ⟨.build, .ok ()⟩ ++ Answered.entries ⟨.connect name, .error failure⟩)
        (.error (.connection failure.message))
  | first (connection : ConnectionId) :
      Opens name (established name connection ++ [⟨.replaceHandle connection, none⟩]) (.ok ())
  | again (connection previous : ConnectionId) (reply : Except Failure Unit) :
      Opens name
        (established name connection ++ [⟨.replaceHandle connection, some previous⟩] ++
          Answered.entries ⟨.closeConnection previous, reply⟩)
        (.ok ())

variable {name : String} {entries : List Done} {outcome : Except Failure Unit}

theorem opens_of_refusal (failure : Failure) :
    Opens name
      (Answered.entries ⟨.build, .ok ()⟩ ++ Answered.entries ⟨.connect name, .error failure⟩)
      (.error failure.whileConnecting) := by
  cases failure with
  | connection reason => exact .refused reason
  | _ => exact .failed (by simp)

theorem init_course (leaves : (init name).Leaves entries (.done outcome)) :
    Opens name entries outcome := by
  cases leaves with
  | step built =>
  cases built with
  | @step _ _ built _ _ left =>
  cases built with
  | error failure =>
      cases left
      exact .unbuilt failure
  | ok _ =>
      cases left with
      | step left =>
      cases left with
      | @step _ _ connected _ _ left =>
      cases connected with
      | error failure =>
          cases left
          exact opens_of_refusal failure
      | ok connection =>
          cases left with
          | @step _ _ previous _ _ left =>
          cases previous with
          | none =>
              cases left
              exact .first connection
          | some previous =>
              cases left with
              | step left =>
              cases left with
              | @step _ _ reply _ _ left =>
                  cases left
                  exact .again connection previous reply

theorem leaves_of_opens (opens : Opens name entries outcome) :
    (init name).Leaves entries (.done outcome) := by
  have refusals : ∀ failure : Failure, (init name).Leaves
      (Answered.entries ⟨.build, .ok ()⟩ ++ Answered.entries ⟨.connect name, .error failure⟩)
      (.done (.error failure.whileConnecting)) :=
    fun failure => .step (.step (.step (.step (.refl _))))
  cases opens with
  | unbuilt failure => exact .step (.step (.refl _))
  | refused reason => exact refusals (.connection reason)
  | @failed failure other =>
      have told : failure.whileConnecting = .connection failure.message := by
        cases failure with
        | connection reason => exact absurd rfl (other reason)
        | _ => rfl
      exact told ▸ refusals failure
  | first connection => exact .step (.step (.step (.step (.step (.refl _)))))
  | again connection previous reply =>
      exact .step (.step (.step (.step (.step (.step (.step (.refl _)))))))

/-- A failed init says nothing but that something is built and connected to, and opens nothing. -/
theorem Opens.failed_said {failure : Failure} (opens : Opens name entries (.error failure)) :
    ∃ said : List Answered, entries = said.flatMap Answered.entries ∧
      (∀ answered ∈ said, answered.call = .build ∨ answered.call = .connect name) ∧
      ∀ entry ∈ entries, entry.InVain := by
  have refusals : ∀ failure : Failure,
      let said : List Answered := [⟨.build, .ok ()⟩, ⟨.connect name, .error failure⟩]
      (∀ answered ∈ said, answered.call = .build ∨ answered.call = .connect name) ∧
        ∀ entry ∈ said.flatMap Answered.entries, entry.InVain := by
    intro failure
    simp [Answered.entries, Done.InVain]
  cases opens with
  | unbuilt =>
      exact ⟨[⟨.build, .error failure⟩], rfl, by simp, by simp [Answered.entries, Done.InVain]⟩
  | refused reason => exact ⟨_, rfl, refusals (.connection reason)⟩
  | failed => exact ⟨_, rfl, refusals _⟩

theorem init_failed {world : World} {failure : Failure}
    (failed : ((init name).run world).1 = .error failure) :
    world.Alike ((init name).run world).2 ∧
      ∃ said : List Answered,
        ((init name).run world).2.broker.log =
          world.broker.log ++ said.flatMap Answered.events ∧
        ∀ answered ∈ said, answered.call = .build ∨ answered.call = .connect name := by
  have course := init_course (leaves_trace (init name) world)
  rw [failed] at course
  obtain ⟨said, whole, calls, vain⟩ := course.failed_said
  refine ⟨alike_run vain, said, ?_, calls⟩
  rw [run_log, whole, Answered.flatMap_entries]

end Connection

/-- The worlds that inits lead to that all fail. -/
inductive World.FailsToConnect (name : String) (origin : World) : World → Prop where
  | none : FailsToConnect name origin origin
  | again {world : World} {failure : Failure} (earlier : FailsToConnect name origin world)
      (failed : ((Connection.init name).run world).1 = .error failure) :
      FailsToConnect name origin ((Connection.init name).run world).2

theorem World.FailsToConnect.keeps {name : String} {origin world : World}
    (fails : origin.FailsToConnect name world) :
    origin.Alike world ∧
      ∃ said : List Answered,
        world.broker.log = origin.broker.log ++ said.flatMap Answered.events ∧
        ∀ answered ∈ said, answered.call = .build ∨ answered.call = .connect name := by
  induction fails with
  | none => exact ⟨.refl origin, [], (List.append_nil _).symm, List.forall_mem_nil _⟩
  | again _ failed ih =>
      obtain ⟨alike, said, logged, calls⟩ := ih
      obtain ⟨also, more, later, others⟩ := Connection.init_failed failed
      refine ⟨alike.trans also, said ++ more, ?_, ?_⟩
      · rw [later, logged, Answered.events_append]
      · intro answered member
        rcases List.mem_append.mp member with before | after
        · exact calls answered before
        · exact others answered after

/-!
## Starting afterwards
-/

theorem Action.OfComponent.opensNothing {component : ComponentId} {action : Action}
    (about : action.OfComponent component) : action.OpensNothing := by
  cases action with
  | await call =>
      cases call with
      | build => cases about
      | connect => cases about
      | _ => trivial
  | _ => trivial

theorem Role.asks_for_channel (role : Role) {world : World} {connection : ConnectionId}
    (opened : world.handle = some connection) :
    ⟨.issue (.createChannel connection), ()⟩ ∈ role.acquire.run.trace world := by
  obtain ⟨broker, handle, attachments, components, dispatchers, locked, last⟩ := world
  obtain rfl : handle = some connection := opened
  exact List.mem_cons_of_mem _ List.mem_cons_self

theorem Component.start_asks_for_channel (component : ComponentId) (role : Role) {world : World}
    {connection : ConnectionId} (opened : world.handle = some connection) :
    ⟨.issue (.createChannel connection), ()⟩ ∈ (Component.start component role).trace world := by
  rw [Component.start_eq, trace_bind, trace_bind]
  apply List.mem_append_right
  apply List.mem_append_left
  exact role.asks_for_channel (Component.empty_handle.trans opened)

/-!
## Success
-/

namespace Connection

/-- What an init does until a connection is open changes the broker only, and the connection has the
next number. -/
theorem replay_established {name : String} {world : World} {connection : ConnectionId}
    {later : List Done} (whole : (init name).trace world = established name connection ++ later) :
    world.replay (established name connection) =
        { world with broker := (world.replay (established name connection)).broker } ∧
      connection = world.broker.connections + 1 := by
  let asked : List Done :=
    [⟨.issue .build, ()⟩, ⟨.await .build, .ok ()⟩, ⟨.issue (.connect name), ()⟩]
  have split : (init name).trace world =
      asked ++ ⟨.await (.connect name), .ok connection⟩ :: later := whole
  have built := World.perform_connections (world.record (.called .build)) (.await .build)
  have numbered := World.perform_connections (world.replay asked) (.await (.connect name))
  rw [← reply_of_trace split] at numbered
  exact ⟨rfl, numbered.1.trans (congrArg (· + 1) built)⟩

/-- What becomes of the connection that was there before: it is closed, whatever comes of it. -/
def Discards (previous : Option ConnectionId) (closing : List Done) : Prop :=
  match previous with
  | none => closing = []
  | some connection => ∃ reply, closing = Answered.entries ⟨.closeConnection connection, reply⟩

/-- A new connection is put in the place of the one before, which is closed then. -/
theorem init_succeeded {name : String} {world : World}
    (succeeded : ((init name).run world).1 = .ok ()) :
    ∃ connection closing,
      (init name).trace world =
        established name connection ++ ⟨.replaceHandle connection, world.handle⟩ :: closing ∧
      Discards world.handle closing ∧ connection = world.broker.connections + 1 ∧
      ((init name).run world).2 =
        { world with
          broker := ((init name).run world).2.broker
          handle := some connection } := by
  have course := init_course (leaves_trace (init name) world)
  have after := run_world (init name) world
  have takes : ∀ {connection previous closing}, (init name).trace world =
      established name connection ++ ⟨.replaceHandle connection, previous⟩ :: closing →
        previous = world.handle := by
    intro connection previous closing whole
    have replied := reply_of_trace whole
    rw [(replay_established whole).1] at replied
    simpa [World.perform] using replied
  rw [succeeded] at course
  generalize split : (init name).trace world = entries at course
  cases course with
  | first connection =>
      have before := takes split
      refine ⟨connection, [], ?_, ?_, (replay_established split).2, ?_⟩
      · rw [← before]
      · rw [← before]
        rfl
      · rw [after, split]
        rfl
  | again connection previous reply =>
      rw [List.append_assoc] at split
      have before := takes split
      refine ⟨connection, Answered.entries ⟨.closeConnection previous, reply⟩, ?_, ?_,
        (replay_established split).2, ?_⟩
      · rw [List.append_assoc, ← before]
        rfl
      · rw [← before]
        exact ⟨reply, rfl⟩
      · rw [after, split]
        rfl

/-- An init puts a new connection into the handle, or it leaves all as it was. Each of its courses
ends in one of five ways: what cannot be built is told as it is, what cannot be connected to as a
failure to connect, and only a connection that was opened under the name takes the place of the one
before, which is closed after that, whatever comes of closing it. However many inits fail, a component
that is started then does just what it would have done before them. -/
theorem init_replaces_or_keeps (name : String) :
    (∀ entries outcome, (init name).Leaves entries (.done outcome) ↔ Opens name entries outcome) ∧
    ∀ world : World,
      (((init name).run world).1 = .ok () → ∃ connection closing,
        (init name).trace world =
          established name connection ++ ⟨.replaceHandle connection, world.handle⟩ :: closing ∧
        Discards world.handle closing ∧ connection = world.broker.connections + 1 ∧
        ((init name).run world).2 =
          { world with
            broker := ((init name).run world).2.broker
            handle := some connection }) ∧
      ∀ later, world.FailsToConnect name later →
        world.Alike later ∧ later.handle = world.handle ∧
        (∃ said : List Answered,
          later.broker.log = world.broker.log ++ said.flatMap Answered.events ∧
          ∀ answered ∈ said, answered.call = .build ∨ answered.call = .connect name) ∧
        ∀ component role,
          (Component.start component role).trace later =
            (Component.start component role).trace world ∧
          ((Component.start component role).run later).1 =
            ((Component.start component role).run world).1 ∧
          ∀ connection, world.handle = some connection →
            ⟨.issue (.createChannel connection), ()⟩ ∈
              (Component.start component role).trace later := by
  refine ⟨fun entries outcome => ⟨init_course, leaves_of_opens⟩, fun world => ⟨init_succeeded, ?_⟩⟩
  intro later fails
  obtain ⟨alike, said⟩ := fails.keeps
  have still : later.handle = world.handle := by
    obtain ⟨_, rfl, _⟩ := alike
    rfl
  refine ⟨alike, still, said, ?_⟩
  intro component role
  obtain ⟨traces, results, _⟩ := alike.run
    ((Component.uses_start component role).mono fun _ about => about.opensNothing)
  refine ⟨traces, results, ?_⟩
  intro connection opened
  rw [traces]
  exact Component.start_asks_for_channel component role opened

end Connection

end AmqpEndpoints
