import AmqpEndpoints.Proofs.Ownership

/-!
# Starting, stopping and publishing

What the programs of a component do to it: after a start that succeeds it holds a channel that was
created on the open connection, after a start that fails or a stop it holds none. Where no
connection is open, starting and publishing come to nothing.
-/

set_option autoImplicit false

namespace AmqpEndpoints

open Program

/-!
## What stays as it is
-/

theorem World.creations_run {α : Type} (program : Program α) (world : World) :
    world.creations <+: (program.run world).2.creations := by
  induction program generalizing world with
  | done result => exact List.prefix_rfl
  | step action next ih =>
      have grown : world.creations <+: (world.perform action).2.creations := by
        rw [perform_creations]
        exact List.prefix_append ..
      exact grown.trans (ih _ _)

theorem World.addComponent_heldBy (world : World) (role : Role) (component : ComponentId) :
    (world.addComponent role).2.heldBy component = world.heldBy component := by
  simp only [heldBy, addComponent, List.getElem?_append]
  split
  · rfl
  · rename_i beyond
    rw [List.getElem?_eq_none (Nat.le_of_not_lt beyond), List.getElem?_singleton]
    split <;> rfl

theorem Action.OfComponent.heldBy_eq {component other : ComponentId} {action : Action}
    (about : action.OfComponent component) (different : other ≠ component) (world : World) :
    (world.perform action).2.heldBy other = world.heldBy other := by
  rw [World.heldBy_perform]
  cases action with
  | takeHeld owner | hold owner =>
      obtain rfl : owner = component := about
      exact if_neg different.symm
  | _ => rfl

theorem Action.OfChannels.heldBy_eq {action : Action} (about : action.OfChannels) (world : World)
    (component : ComponentId) :
    (world.perform action).2.heldBy component = world.heldBy component := by
  rw [World.heldBy_perform]
  cases action with
  | takeHeld | hold => exact about.elim
  | _ => rfl

theorem Action.OfConnection.heldBy_eq {action : Action} (about : action.OfConnection)
    (world : World) (component : ComponentId) :
    (world.perform action).2.heldBy component = world.heldBy component := by
  rw [World.heldBy_perform]
  cases action with
  | takeHeld | hold => exact about.elim
  | _ => rfl

namespace Component

variable {component : ComponentId} (role : Role) (world : World)

theorem stop_heldBy_of_ne {other : ComponentId} (different : other ≠ component) :
    ((Component.stop component).run world).2.heldBy other = world.heldBy other :=
  (uses_stop component).run_eq (·.heldBy other)
    (fun _ about world => about.heldBy_eq different world) world

end Component

/-!
## Channels of components
-/

def Role.acquireOn (role : Role) (connection : ConnectionId) : Attempt Held := do
  let channel ← attempt (.createChannel connection)
  tryCatch (role.setUp channel) fun failure => do
    let _ ← (closeChannel channel : Program Unit)
    throw failure

theorem Role.acquire_run (role : Role) (world : World) :
    role.acquire.run.run world =
      match world.handle with
      | none => (.error .notConnected, world)
      | some connection => (role.acquireOn connection).run.run world := by
  obtain ⟨broker, handle, attachments, components, dispatchers, locked, last⟩ := world
  cases handle <;> rfl

/-- A channel that is got on a connection was created there. -/
theorem Role.acquireOn_creations (role : Role) (connection : ConnectionId) (world : World)
    {held : Held} (acquired : ((role.acquireOn connection).run.run world).1 = .ok held) :
    (connection, held.channel) ∈ ((role.acquireOn connection).run.run world).2.creations := by
  unfold Role.acquireOn at acquired ⊢
  rw [run_attempt_bind, run_bind] at acquired ⊢
  have created : ∀ channel,
      ((attempt (.createChannel connection)).run.run world).1 = .ok channel →
        (connection, channel) ∈
          ((attempt (.createChannel connection)).run.run world).2.creations := by
    intro channel replied
    let asked := (world.perform (.issue (.createChannel connection))).2
    have grown := asked.perform_creations (.await (.createChannel connection))
    have reply : (asked.perform (.await (.createChannel connection))).1 = .ok channel := replied
    rw [reply] at grown
    exact grown ▸ List.mem_append_right _ (List.mem_singleton.mpr rfl)
  generalize (attempt (.createChannel connection)).run.run world = made at created acquired ⊢
  obtain ⟨reply, between⟩ := made
  cases reply with
  | error failure => cases acquired
  | ok channel =>
      have member := created channel rfl
      dsimp only at acquired ⊢
      rw [ExceptT.run_tryCatch, run_bind] at acquired ⊢
      have about := @Role.setUp_channel channel role between
      have kept := (World.creations_run (role.setUp channel).run between).subset member
      generalize (role.setUp channel).run.run between = equipped at about kept acquired ⊢
      obtain ⟨outcome, after⟩ := equipped
      cases outcome with
      | error failure => cases acquired
      | ok same =>
          cases acquired
          exact about rfl ▸ kept

namespace Component

variable {component : ComponentId} {world : World}

theorem empty_handle : ((Component.empty component).run world).2.handle = world.handle :=
  (uses_empty component).run_eq World.handle (fun _ about => about.handle_eq) world

theorem empty_heldBy : ((Component.empty component).run world).2.heldBy component = none := by
  let taken := ((world.perform (.lock component)).2.perform (.takeHeld component))
  have emptied : taken.2.heldBy component = none := by
    rw [World.heldBy_perform]
    exact if_pos rfl
  have kept := (uses_giveBack taken.1).run_eq (·.heldBy component)
    (fun _ about world => about.ofChannels.heldBy_eq world component) taken.2
  exact kept.trans emptied

theorem finish_heldBy (acquired : Except Failure Held) (empty : world.heldBy component = none)
    (present : component < world.components.length) :
    ((finish component acquired).run world).2.heldBy component = acquired.toOption := by
  cases acquired with
  | error failure =>
      change (world.perform (.unlock component)).2.heldBy component = none
      rw [World.heldBy_perform]
      exact empty
  | ok held =>
      change ((world.perform (.hold component held)).2.perform (.unlock component)).2.heldBy
        component = some held
      rw [World.heldBy_perform, World.heldBy_perform]
      simp [List.getElem?_eq_getElem present]

theorem finish_result (acquired : Except Failure Held) :
    ((finish component acquired).run world).1 = acquired.map fun _ => () := by
  cases acquired <;> rfl

/-- What a start gets for a component that it emptied, and the world then. -/
def acquired (component : ComponentId) (role : Role) (world : World) :
    Except Failure Held × World :=
  role.acquire.run.run ((Component.empty component).run world).2

theorem start_run (role : Role) :
    (Component.start component role).run world =
      (finish component (acquired component role world).1).run
        (acquired component role world).2 := by
  rw [start_eq, run_bind, run_bind]
  rfl

theorem start_result (role : Role) :
    ((Component.start component role).run world).1 =
      (acquired component role world).1.map fun _ => () := by
  rw [start_run, finish_result]

theorem start_heldBy (role : Role) (present : component < world.components.length) :
    ((Component.start component role).run world).2.heldBy component =
      (acquired component role world).1.toOption := by
  rw [start_run]
  refine finish_heldBy _ ?_ ?_
  · have kept := role.uses_acquire.run_eq (·.heldBy component)
      (fun _ about world => about.heldBy_eq world component) ((empty component).run world).2
    exact kept.trans empty_heldBy
  · unfold acquired
    rw [World.run_size, World.run_size]
    exact present

/-- A component that was started on a connection holds a channel that was created there. -/
theorem start_holds {role : Role} {connection : ConnectionId}
    (opened : world.handle = some connection) (present : component < world.components.length)
    (started : ((Component.start component role).run world).1 = .ok ()) :
    ∃ channel, ((Component.start component role).run world).2.Holds component channel ∧
      (connection, channel) ∈ ((Component.start component role).run world).2.creations := by
  have holds := start_heldBy role present
  rw [start_result] at started
  cases got : (acquired component role world).1 with
  | error failure =>
      rw [got] at started
      cases started
  | ok held =>
      rw [got] at holds
      refine ⟨held.channel, ?_, ?_⟩
      · unfold World.Holds
        rw [holds]
        rfl
      rw [start_run]
      refine (World.creations_run _ _).subset ?_
      have still : ((empty component).run world).2.handle = some connection :=
        empty_handle.trans opened
      have sought := role.acquire_run ((empty component).run world).2
      rw [still] at sought
      unfold acquired at got ⊢
      rw [sought] at got ⊢
      exact role.acquireOn_creations connection _ got

theorem start_heldBy_of_error {role : Role} {failure : Failure}
    (present : component < world.components.length)
    (failed : ((Component.start component role).run world).1 = .error failure) :
    ((Component.start component role).run world).2.heldBy component = none := by
  rw [start_heldBy role present]
  rw [start_result] at failed
  cases got : (acquired component role world).1 with
  | error failure => rfl
  | ok held =>
      rw [got] at failed
      cases failed

theorem stop_heldBy : ((Component.stop component).run world).2.heldBy component = none := by
  rw [stop_eq, run_bind]
  change (((empty component).run world).2.perform (.unlock component)).2.heldBy component = none
  rw [World.heldBy_perform]
  exact empty_heldBy

/-!
## Without a connection
-/

theorem start_run_of_closed (role : Role) (closed : world.handle = none) :
    (Component.start component role).run world =
      (finish component (.error .notConnected)).run ((empty component).run world).2 := by
  have still : ((empty component).run world).2.handle = none := empty_handle.trans closed
  have sought := role.acquire_run ((empty component).run world).2
  rw [still] at sought
  rw [start_run, acquired, sought]

end Component

theorem Role.acquire_trace_of_closed (role : Role) {world : World} (closed : world.handle = none) :
    role.acquire.run.trace world = [⟨.readHandle, none⟩] := by
  obtain ⟨broker, handle, attachments, components, dispatchers, locked, last⟩ := world
  obtain rfl : handle = none := closed
  rfl

/-- Without a connection a start fails, and it asks for no channel. -/
theorem Component.start_of_closed (component : ComponentId) (role : Role) {world : World}
    (closed : world.handle = none) :
    ((Component.start component role).run world).1 = .error .notConnected ∧
      ∀ entry ∈ (Component.start component role).trace world, ∀ connection,
        entry.action ≠ .issue (.createChannel connection) := by
  have empties : (Component.empty component).Uses fun action =>
      ∀ connection, action ≠ .issue (.createChannel connection) := by
    refine Uses.bind (uses_act nofun) fun _ => Uses.bind (uses_act nofun) fun held => ?_
    refine (uses_giveBack held).mono ?_
    rintro action gives connection rfl
    exact gives
  have finishes : ∀ acquired, (Component.finish component acquired).Uses fun action =>
      ∀ connection, action ≠ .issue (.createChannel connection) := by
    intro acquired
    cases acquired with
    | error failure => exact Uses.bind (uses_act nofun) fun _ => uses_pure _
    | ok held =>
        refine Uses.bind (uses_act nofun) fun _ => ?_
        exact Uses.bind (uses_act nofun) fun _ => uses_pure _
  refine ⟨by rw [start_run_of_closed role closed]; rfl, fun entry member => ?_⟩
  rw [Component.start_eq, trace_bind, trace_bind,
    role.acquire_trace_of_closed (empty_handle.trans closed)] at member
  rcases List.mem_append.mp member with emptying | rest
  · exact empties.of_mem_trace emptying
  · rcases List.mem_cons.mp rest with rfl | finishing
    · exact nofun
    · exact (finishes _).of_mem_trace finishing

/-- A producer that holds no channel says so and does nothing. -/
theorem Producer.produce_of_idle {component : ComponentId} {settings : ProducerSettings}
    {world : World} (idle : world.heldBy component = none)
    (traditional : settings.behaviour = .traditional) (pairs : List (String × String))
    (message : Message) :
    ((Producer.produce component settings pairs message).run world).1.1 =
        .error (.publishing "producer is not started") ∧
      ((Producer.produce component settings pairs message).run world).2.broker.log =
        world.broker.log := by
  have still : (world.perform (.lock component)).2.heldBy component = none := by
    rw [World.heldBy_perform]
    exact idle
  have looked : (world.perform (.lock component)).2.perform (.held component) =
      (none, (world.perform (.lock component)).2) := Prod.ext still rfl
  have refused : (Producer.publish component settings pairs message).run world =
      (.error (.publishing "producer is not started"),
        ((world.perform (.lock component)).2.perform (.unlock component)).2) := by
    unfold Producer.publish
    rw [run_bind, run_bind]
    rw [show (act (.held component)).run ((act (.lock component)).run world).2 = _ from looked]
    rfl
  unfold Producer.produce
  rw [run_bind, refused]
  exact ⟨by rw [traditional]; rfl, rfl⟩

end AmqpEndpoints
