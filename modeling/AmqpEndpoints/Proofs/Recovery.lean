import Mathlib.Data.List.Nodup
import AmqpEndpoints.Proofs.Components
import AmqpEndpoints.Proofs.RestartCourse

/-!
# Recovery

A restart succeeds exactly when afterwards everything that is attached runs on the connection that
it opened. Where it could not open one, nothing that is attached holds a channel, and nothing can be
started or published until a connection is opened.
-/

set_option autoImplicit false

namespace AmqpEndpoints

open Program

namespace World

variable (world : World)

/-- Whether a channel was created on a connection, and on no other. -/
def CreatedOn (connection : ConnectionId) (channel : ChannelId) : Prop :=
  ∀ origin, (origin, channel) ∈ world.creations ↔ origin = connection

/-- Whether all of some components hold channels of a connection. -/
def RunOn (components : List ComponentId) (connection : ConnectionId) : Prop :=
  ∀ component ∈ components, ∃ channel,
    world.Holds component channel ∧ world.CreatedOn connection channel

end World

/-!
## Stopping and starting all components
-/

namespace Connection

theorem stopAll_heldBy (components : List (ComponentId × Role)) (world : World) :
    (∀ component, world.heldBy component = none →
        ((stopAll components).run world).2.heldBy component = none) ∧
      ∀ entry ∈ components, ((stopAll components).run world).2.heldBy entry.1 = none := by
  induction components generalizing world with
  | nil => exact ⟨fun _ empty => empty, List.forall_mem_nil _⟩
  | cons entry rest ih =>
      obtain ⟨stays, stopped⟩ := ih ((Component.stop entry.1).run world).2
      rw [stopAll, run_bind]
      refine ⟨fun component empty => stays component ?_, fun other member => ?_⟩
      · by_cases here : component = entry.1
        · exact here ▸ Component.stop_heldBy
        · exact (Component.stop_heldBy_of_ne world here).trans empty
      · rcases List.mem_cons.mp member with rfl | later
        · exact stays _ Component.stop_heldBy
        · exact stopped other later

theorem cleared_heldBy (components : List (ComponentId × Role)) (world : World) :
    ∀ entry ∈ components, (cleared components world).heldBy entry.1 = none := by
  intro entry member
  have kept := uses_close.run_eq (·.heldBy entry.1)
    (fun _ about world => about.heldBy_eq world entry.1) ((stopAll components).run world).2
  exact kept.trans ((stopAll_heldBy components world).2 entry member)

theorem startAll_heldBy_of_not_mem (components : List (ComponentId × Role)) (world : World)
    {component : ComponentId} (outside : component ∉ components.map (·.1)) :
    ((startAll components).run world).2.heldBy component = world.heldBy component := by
  refine (uses_startAll components).run_eq (·.heldBy component) ?_ world
  rintro action ⟨entry, member, about⟩ changed
  refine about.heldBy_eq (fun same => outside ?_) changed
  exact List.mem_map.mpr ⟨entry, member, same.symm⟩

/-- Starting all of some components on a connection: if it succeeds, each holds a channel that was
created there; if not, one of them holds nothing. -/
theorem startAll_holds (components : List (ComponentId × Role)) (world : World)
    {connection : ConnectionId} (once : (components.map (·.1)).Nodup)
    (present : ∀ entry ∈ components, entry.1 < world.components.length)
    (opened : world.handle = some connection) :
    (((startAll components).run world).1 = .ok () →
        ∀ entry ∈ components, ∃ channel, ((startAll components).run world).2.Holds entry.1 channel ∧
          (connection, channel) ∈ ((startAll components).run world).2.creations) ∧
      (((startAll components).run world).1 ≠ .ok () →
        ∃ entry ∈ components, ((startAll components).run world).2.heldBy entry.1 = none) := by
  induction components generalizing world with
  | nil => exact ⟨fun _ => List.forall_mem_nil _, fun failed => absurd rfl failed⟩
  | cons entry rest ih =>
      obtain ⟨apart, others⟩ := List.nodup_cons.mp once
      obtain ⟨here, later⟩ := List.forall_mem_cons.mp present
      let started := (Component.start entry.1 entry.2).run world
      have counted : started.2.components.length = world.components.length := World.run_size _ world
      have still : started.2.handle = some connection :=
        ((Component.uses_start entry.1 entry.2).run_eq World.handle
          (fun _ about => about.handle_eq) world).trans opened
      obtain ⟨all, some⟩ := ih started.2 others (counted ▸ later) still
      -- The others are not this component, so what it got or did not get stays.
      have kept : ((startAll rest).run started.2).2.heldBy entry.1 = started.2.heldBy entry.1 :=
        startAll_heldBy_of_not_mem rest started.2 apart
      rw [startAll_run_cons]
      cases outcome : started.1 with
      | error failure =>
          refine ⟨fun succeeded => ?_, fun _ => ⟨entry, List.mem_cons_self .., ?_⟩⟩
          · cases succeeded
          · exact kept.trans (Component.start_heldBy_of_error here outcome)
      | ok _ =>
          refine ⟨fun succeeded other member => ?_, fun failed => ?_⟩
          · rcases List.mem_cons.mp member with rfl | member
            · obtain ⟨channel, holds, created⟩ := Component.start_holds opened here outcome
              refine ⟨channel, ?_, (World.creations_run _ _).subset created⟩
              unfold World.Holds
              rw [kept]
              exact holds
            · exact all succeeded other member
          · obtain ⟨other, member, empty⟩ := some failed
            exact ⟨other, List.mem_cons_of_mem _ member, empty⟩

end Connection

/-!
## Connections that were opened
-/

/-- A connection of a name is opened. -/
def opens (name : String) (connection : ConnectionId) : Done :=
  ⟨.await (.connect name), .ok connection⟩

section

variable {name : String} {connection : ConnectionId} {world after : World} {entries : List Done}

theorem Action.OfComponent.ne_opens {component : ComponentId} {entry : Done}
    (about : entry.action.OfComponent component) : entry ≠ opens name connection := by
  rintro rfl
  exact Bool.noConfusion about

theorem RestartStep.Takes.mem_opens_iff {step : RestartStep} (takes : step.Takes world entries after) :
    opens name connection ∈ entries ↔ step = .connected name (.ok connection) := by
  have of : ∀ {α : Type} {program : Program α} {component : ComponentId} {other : RestartStep},
      program.Uses (Action.OfComponent component) → other ≠ .connected name (.ok connection) →
        (opens name connection ∈ program.trace world ↔ other = .connected name (.ok connection)) :=
    fun uses different =>
      iff_of_false (fun member => (uses.of_mem_trace member).ne_opens rfl) different
  cases takes with
  | stopped component => exact of (Component.uses_stop component) nofun
  | started => exact of (Component.uses_start _ _) nofun
  | closing | built =>
      refine iff_of_false (fun member => ?_) nofun
      rcases List.mem_cons.mp member with same | member
      · cases same
      · cases List.mem_singleton.mp member
  | connected other =>
      change _ ∈ [(⟨.issue (.connect other), ()⟩ : Done),
        ⟨.await (.connect other), ((call (.connect other)).run world).1⟩] ↔ _
      generalize ((call (.connect other)).run world).1 = reply
      constructor
      · intro member
        rcases List.mem_cons.mp member with same | member
        · cases same
        · cases List.mem_singleton.mp member
          rfl
      · rintro ⟨⟩
        exact List.mem_cons_of_mem _ (List.mem_singleton.mpr rfl)

theorem World.Unfolds.mem_opens_iff {steps : List RestartStep}
    (unfolds : world.Unfolds steps entries after) :
    opens name connection ∈ entries ↔ .connected name (.ok connection) ∈ steps := by
  induction unfolds with
  | nil => exact iff_of_false List.not_mem_nil List.not_mem_nil
  | step takes _ ih => rw [List.mem_append, List.mem_cons, takes.mem_opens_iff, ih, eq_comm]
  | @own _ _ action _ _ own _ ih =>
      rw [List.mem_cons, ih, or_iff_right]
      intro same
      obtain rfl : Action.await (.connect name) = action := congrArg Done.action same
      cases own

end

/-!
## Restarts
-/

namespace Connection

theorem cycle_opens_iff {name : String} {connection : ConnectionId}
    (components : List (ComponentId × Role)) (world : World) {steps : List RestartStep}
    (unfolds : (init name).Unfolds (cleared components world) steps) :
    opens name connection ∈ (cycle name components).trace world ↔
      .connected name (.ok connection) ∈ steps := by
  have stops : opens name connection ∉ (stopAll components).trace world := fun member =>
    have ⟨_, _, about⟩ := (uses_stopAll components).of_mem_trace member
    about.ne_opens rfl
  have closes : opens name connection ∉ close.trace ((stopAll components).run world).2 := fun member =>
    have closing := (close_unfolds _).mem_opens_iff.mp member
    by simp at closing
  have resumes : ∀ opened world,
      opens name connection ∉ (resume components opened).trace world := by
    intro opened world member
    have unlocks : ∀ after, opens name connection ∉ (act .unlockRestart).trace after :=
      fun _ member => nomatch List.mem_singleton.mp member
    cases opened with
    | error failure => exact unlocks world member
    | ok _ =>
        rw [resume, trace_bind, List.mem_append] at member
        obtain starting | ending := member
        · have ⟨_, _, about⟩ := (uses_startAll components).of_mem_trace starting
          exact about.ne_opens rfl
        · exact unlocks _ ending
  rw [cycle, trace_bind, trace_bind, trace_bind, List.mem_append, List.mem_append, List.mem_append,
    or_iff_right stops, or_iff_right closes, or_iff_left (resumes _ _)]
  exact unfolds.mem_opens_iff

theorem restart_opens_iff {name : String} {connection : ConnectionId} {world : World} :
    opens name connection ∈ (restart name).trace world ↔
      opens name connection ∈ (cycle name world.liveAttachments).trace (listed world) := by
  have entries : (restart name).trace world =
      ⟨.lockRestart, ()⟩ :: ⟨.snapshot, world.liveAttachments⟩ ::
        (cycle name world.liveAttachments).trace (listed world) := by
    rw [restart_eq]
    rfl
  rw [entries, List.mem_cons, List.mem_cons, or_iff_right nofun, or_iff_right nofun]

/-- How a restart ends: either no connection was opened, and the components are left with nothing,
or one was, and the components were started on it. -/
theorem cycle_ends (name : String) (components : List (ComponentId × Role)) (world : World) :
    let entries := (cycle name components).trace world
    let result := ((cycle name components).run world).1
    let after := ((cycle name components).run world).2
    ((∀ connection, opens name connection ∉ entries) ∧ result ≠ .ok () ∧
        after.handle = none ∧ ∀ entry ∈ components, after.heldBy entry.1 = none) ∨
      ∃ connection opened,
        (∀ other, opens name other ∈ entries ↔ other = connection) ∧
          opened.handle = some connection ∧
          opened.components.length = world.components.length ∧
          result = ((startAll components).run opened).1 ∧
          after = (((startAll components).run opened).2.perform .unlockRestart).2 := by
  intro entries result after
  let closed := cleared components world
  let tried := (init name).run closed
  have gives : (cycle name components).run world = (resume components tried.1).run tried.2 :=
    cycle_run name components world
  have emptied : ∀ entry ∈ components, tried.2.heldBy entry.1 = none := by
    intro entry member
    have kept := (uses_init name).run_eq (·.heldBy entry.1)
      (fun _ about world => about.heldBy_eq world entry.1) closed
    exact kept.trans (cleared_heldBy components world entry member)
  have failing : ∀ failure, tried.1 = .error failure → tried.2.handle = none →
      result ≠ .ok () ∧ after.handle = none ∧
        ∀ entry ∈ components, after.heldBy entry.1 = none := by
    intro failure gave closed
    have ended : (cycle name components).run world =
        (.error failure, (tried.2.perform .unlockRestart).2) := by
      rw [gives, gave]
      rfl
    simp only [result, after, ended]
    exact ⟨by simp, closed, emptied⟩
  obtain ⟨failure, opened, gave, none⟩ | ⟨failure, opened, gave, none⟩ |
      ⟨connection, opened, gave, some⟩ := init_unfolds name closed (cleared_handle components world)
  · refine .inl ⟨fun connection member => ?_, failing failure gave none⟩
    simpa using (cycle_opens_iff components world opened).mp member
  · refine .inl ⟨fun connection member => ?_, failing failure.whileConnecting gave none⟩
    simpa using (cycle_opens_iff components world opened).mp member
  · have ended : (cycle name components).run world =
        (((startAll components).run tried.2).1,
          (((startAll components).run tried.2).2.perform .unlockRestart).2) := by
      rw [gives, show tried.1 = .ok () from gave, resume, run_bind]
      rfl
    refine .inr ⟨connection, tried.2, fun other => ?_, some, ?_, ?_, ?_⟩
    · rw [cycle_opens_iff components world opened]
      simp
    · simp only [tried, closed, cleared, World.run_size]
    · simp only [result, ended]
    · simp only [after, ended]

end Connection

/-!
## Until a connection is opened
-/

/-- Whether a move may open a connection. -/
def Move.Connects : Move → Prop
  | init => True
  | restart => True
  | repair => True
  | _ => False

def Action.Rests : Action → Prop
  | replaceHandle _ => False
  | hold .. => False
  | _ => True

theorem Action.GivesBack.rests {action : Action} (about : action.GivesBack) : action.Rests := by
  cases action with
  | replaceHandle | hold => exact about.elim
  | _ => trivial

theorem Component.uses_empty_rests (component : ComponentId) :
    (Component.empty component).Uses Action.Rests := by
  refine Uses.bind (uses_act trivial) fun _ => Uses.bind (uses_act trivial) fun held => ?_
  exact (uses_giveBack held).mono fun _ about => about.rests

/-- What is true of a world without a connection in which some components hold nothing. -/
structure World.Offline (idle : ComponentId → Prop) (world : World) : Prop where
  closed : world.handle = none
  empty : ∀ component, idle component → world.heldBy component = none

namespace World.Offline

variable {idle : ComponentId → Prop} {world : World}

theorem perform (offline : world.Offline idle) {action : Action} (rests : action.Rests) :
    (world.perform action).2.Offline idle := by
  constructor
  · rw [perform_handle]
    cases action with
    | replaceHandle => exact rests.elim
    | takeHandle => rfl
    | _ => exact offline.closed
  · intro component among
    rw [heldBy_perform]
    cases action with
    | hold => exact rests.elim
    | takeHeld owner =>
        dsimp only
        split
        · rfl
        · exact offline.empty component among
    | _ => exact offline.empty component among

theorem run {α : Type} {program : Program α} (offline : world.Offline idle)
    (uses : program.Uses Action.Rests) : (program.run world).2.Offline idle := by
  induction program generalizing world with
  | done result => exact offline
  | step action next ih => exact ih _ (offline.perform uses.1) (uses.2 _ trivial)

theorem move (offline : world.Offline idle) (name : String) {move : Move}
    (disconnected : ¬move.Connects) : (world.move name move).Offline idle := by
  cases move with
  | script outcomes => exact ⟨offline.closed, offline.empty⟩
  | make role =>
      refine ⟨offline.closed, fun component among => ?_⟩
      exact (world.addComponent_heldBy role component).trans (offline.empty component among)
  | attach component | release component | cancel stream => exact offline.run (uses_act trivial)
  | start component role =>
      have failed : (Component.start component role).run world = _ :=
        Component.start_run_of_closed role offline.closed
      change ((Component.start component role).run world).2.Offline idle
      rw [failed]
      refine (offline.run (Component.uses_empty_rests component)).run ?_
      exact Uses.bind (uses_act trivial) fun _ => uses_pure _
  | stop component =>
      refine offline.run ?_
      rw [Component.stop_eq]
      exact (Component.uses_empty_rests component).bind fun _ => uses_act trivial
  | produce component settings publication =>
      refine offline.run ((Producer.uses_produce component settings _ _).mono
        fun action about => ?_)
      cases action with
      | replaceHandle | hold => exact about.elim fun _ equips => equips
      | _ => trivial
  | receive dispatcher propagator item =>
      refine offline.run ((dispatcher.uses_receive propagator item).mono fun action about => ?_)
      cases action with
      | replaceHandle | hold => exact about
      | _ => trivial
  | close =>
      refine offline.run (Uses.bind (uses_act trivial) fun handle => ?_)
      cases handle with
      | none => exact uses_pure ()
      | some connection => exact Uses.bind (uses_call trivial trivial) fun _ => uses_pure ()
  | init | restart | repair => exact absurd trivial disconnected

theorem reaches {name : String} {made : List Move} {later : World} (offline : world.Offline idle)
    (reaches : world.Reaches name made later) (disconnected : ∀ move ∈ made, ¬move.Connects) :
    later.Offline idle := by
  induction reaches with
  | refl => exact offline
  | move _ _ ih =>
      have earlier := ih fun move member => disconnected move (List.mem_append_left _ member)
      refine earlier.move name (disconnected _ ?_)
      exact List.mem_append_right _ (List.mem_singleton.mpr rfl)

end World.Offline

/-- Whether all starts fail in a world, without asking for a channel, and all producers among some
components fail to publish, without any event. -/
structure World.Refuses (idle : ComponentId → Prop) (world : World) : Prop where
  starts : ∀ component role,
    ((Component.start component role).run world).1 = .error .notConnected ∧
      ∀ entry ∈ (Component.start component role).trace world, ∀ connection,
        entry.action ≠ .issue (.createChannel connection)
  produces : ∀ component settings pairs message, idle component →
    settings.behaviour = .traditional →
      ((Producer.produce component settings pairs message).run world).1.1 =
          .error (.publishing "producer is not started") ∧
        ((Producer.produce component settings pairs message).run world).2.broker.log =
          world.broker.log

theorem World.Offline.refuses {idle : ComponentId → Prop} {world : World}
    (offline : world.Offline idle) : world.Refuses idle where
  starts component role := Component.start_of_closed component role offline.closed
  produces component _ pairs message among traditional :=
    Producer.produce_of_idle (offline.empty component among) traditional pairs message

/-!
## Sessions
-/

/-- A channel was created only once, on one connection. -/
theorem World.Numbered.createdOn {world : World} (numbered : world.Numbered)
    {connection : ConnectionId} {channel : ChannelId}
    (created : (connection, channel) ∈ world.creations) : world.CreatedOn connection channel := by
  intro origin
  constructor
  · intro also
    exact congrArg Prod.fst (List.inj_on_of_nodup_map numbered.nodup also created rfl)
  · rintro rfl
    exact created

namespace Connection

variable {world : World}

theorem liveAttachments_present {entry : ComponentId × Role}
    (member : entry ∈ world.liveAttachments) : entry.1 < world.components.length := by
  have listed := List.mem_map_of_mem (f := (·.1)) member
  rw [World.liveAttachments_map] at listed
  exact world.alive_lt (List.mem_filter.mp listed).2

/-- Whether a restart succeeds can be seen from the world that it leaves. -/
theorem restart_ok_iff (name : String) (settled : world.Settled)
    (once : (world.liveAttachments.map (·.1)).Nodup) :
    ((restart name).run world).1 = .ok () ↔
      ∃ connection, opens name connection ∈ (restart name).trace world ∧
        ((restart name).run world).2.handle = some connection ∧
        ((restart name).run world).2.RunOn (world.liveAttachments.map (·.1)) connection := by
  have numbered : ((restart name).run world).2.Numbered := settled.numbered.run _
  have ends := cycle_ends name world.liveAttachments (listed world)
  simp only [← restart_opens_iff, ← restart_run] at ends
  obtain ⟨unopened, failed, _⟩ |
      ⟨connection, opened, connected, handle, counted, gave, left⟩ := ends
  · constructor
    · intro succeeded
      exact absurd succeeded failed
    · rintro ⟨connection, member, _⟩
      exact absurd member (unopened connection)
  · have same : opened.components.length = world.components.length := counted
    have present : ∀ entry ∈ world.liveAttachments, entry.1 < opened.components.length :=
      fun entry member => same ▸ liveAttachments_present member
    obtain ⟨all, some⟩ := startAll_holds world.liveAttachments opened once present handle
    have still : ((restart name).run world).2.handle = .some connection := by
      rw [left]
      exact (startAll_handle world.liveAttachments opened).trans handle
    rw [← gave] at all some
    constructor
    · intro succeeded
      refine ⟨connection, (connected connection).mpr rfl, still, fun component member => ?_⟩
      obtain ⟨entry, among, rfl⟩ := List.mem_map.mp member
      obtain ⟨channel, holds, created⟩ := all succeeded entry among
      refine ⟨channel, ?_, numbered.createdOn ?_⟩
      · rw [left]
        exact holds
      · rw [left]
        exact created
    · rintro ⟨other, _, _, running⟩
      -- Whoever could not be started holds nothing, so not all of them run.
      refine Classical.byContradiction fun failed => ?_
      obtain ⟨entry, among, empty⟩ := some failed
      obtain ⟨channel, holds, _⟩ := running entry.1 (List.mem_map_of_mem among)
      rw [left] at holds
      have nothing : World.heldBy (((startAll world.liveAttachments).run opened).2.perform
        .unlockRestart).2 entry.1 = none := empty
      simp [World.Holds, nothing] at holds

/-- Where a restart opened no connection, nothing that is live or yet to be made holds a channel. -/
theorem restart_offline (name : String)
    (unopened : ∀ connection, opens name connection ∉ (restart name).trace world) :
    ((restart name).run world).2.Offline fun component =>
      component ∈ world.liveAttachments.map (·.1) ∨ world.components.length ≤ component := by
  have ends := cycle_ends name world.liveAttachments (listed world)
  simp only [← restart_opens_iff, ← restart_run] at ends
  obtain ⟨_, _, closed, empty⟩ | ⟨connection, _, connected, _⟩ := ends
  · refine ⟨closed, fun component idle => ?_⟩
    obtain member | beyond := idle
    · obtain ⟨entry, among, rfl⟩ := List.mem_map.mp member
      exact empty entry among
    · unfold World.heldBy
      rw [List.getElem?_eq_none (World.run_size _ world ▸ beyond)]
      rfl
  · exact absurd ((connected connection).mpr rfl) (unopened connection)

end Connection

/-- After any commands by which nothing was attached twice, a restart succeeds exactly if then there
is an open connection that it opened and all live components hold channels of it. If it opened no
connection, there is none, no live component holds a channel, and until a connection is opened all
starts fail without asking for a channel, and all producers among these components or later ones
fail without any event. -/
theorem restart_recovers (name : String) (endpoint : Except Failure Unit) (commands : List Command)
    (once : ((Session.create name endpoint).attachCalls commands).Nodup) :
    let session := (Session.create name endpoint).after commands
    let live := ((Session.create name endpoint).attachCalls commands).filter session.world.alive
    let entries := (Connection.restart name).trace session.world
    let result := (session.run (Connection.restart name)).1
    let restarted := (session.run (Connection.restart name)).2
    (result = .ok () ↔
        ∃ connection, opens name connection ∈ entries ∧
          restarted.world.handle = some connection ∧ restarted.world.RunOn live connection) ∧
      ((∀ connection, opens name connection ∉ entries) →
        restarted.world.handle = none ∧
          (∀ component ∈ live, ∀ channel, ¬restarted.world.Holds component channel) ∧
          ∀ later, (∀ move ∈ restarted.history later, ¬move.Connects) →
            (restarted.after later).world.Refuses fun component =>
              component ∈ live ∨ session.world.components.length ≤ component) := by
  intro session live entries result restarted
  have settled : session.world.Settled := Session.after_settled name endpoint commands
  have listed : session.world.liveAttachments.map (·.1) = live :=
    Session.liveAttachments_eq name endpoint commands
  have recovers := Connection.restart_ok_iff name settled (listed ▸ once.filter _)
  rw [listed] at recovers
  refine ⟨recovers, fun unopened => ?_⟩
  have offline := Connection.restart_offline name unopened
  rw [listed] at offline
  refine ⟨offline.closed, fun component member channel holds => ?_, fun later disconnected => ?_⟩
  · simp [World.Holds, show restarted.world.heldBy component = none from
      offline.empty component (.inl member)] at holds
  · exact (offline.reaches (restarted.after_reaches later) disconnected).refuses

/-- A consumer whose connection was closed meanwhile, a producer that was stopped and one that runs:
after a restart in which nothing fails, all of them run on its connection. -/
theorem attached_components_recover :
    let commands := [Command.init, .consumer "inbox" { queue := "work" },
      .producer "outbox" { queue := "work" }, .producer "audit" { queue := "log" }, .start "inbox",
      .start "outbox", .stop "outbox", .close, .init, .start "audit"]
    let session := (Session.create "host" (.ok ())).after commands
    let restarted := (session.run (Connection.restart "host")).2
    ((Session.create "host" (.ok ())).attachCalls commands).Nodup ∧
      ∃ connection, restarted.world.handle = some connection ∧
        restarted.world.RunOn [0, 1, 2] connection := by
  intro commands session restarted
  have once : ((Session.create "host" (.ok ())).attachCalls commands).Nodup := by decide +kernel
  have live : ((Session.create "host" (.ok ())).attachCalls commands).filter session.world.alive =
      [0, 1, 2] := by decide +kernel
  have succeeded : (session.run (Connection.restart "host")).1 = .ok () := by decide +kernel
  obtain ⟨connection, _, opened, running⟩ :=
    (restart_recovers "host" (.ok ()) commands once).1.mp succeeded
  exact ⟨once, connection, opened, live ▸ running⟩

end AmqpEndpoints
