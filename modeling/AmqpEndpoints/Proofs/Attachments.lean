import AmqpEndpoints.Proofs.Moves

/-!
# Attachments

The components that a restart works on are those that were ever attached and that somebody still
owns, in the order in which they were attached. Restarts forget the others, which changes nothing: a
component that was released stays so.
-/

set_option autoImplicit false

namespace AmqpEndpoints

open Program

namespace World

variable (world : World)

def alive (component : ComponentId) : Bool :=
  (world.components[component]?).any fun found => !found.released

theorem liveAttachments_map :
    world.liveAttachments.map (·.1) = world.attachments.filter world.alive := by
  unfold liveAttachments
  induction world.attachments with
  | nil => rfl
  | cons id rest ih =>
      cases found : world.components[id]? with
      | none => simp [found, alive, ih]
      | some component =>
          have filtered :
              Option.filter (fun found : Component => !found.released) (some component) =
              if component.released then none else some component := by
            cases kept : component.released <;> simp [Option.filter, kept]
          cases kept : component.released <;>
            simp [found, filtered, kept, alive, ih]

theorem alive_lt {component : ComponentId} (living : world.alive component) :
    component < world.components.length := by
  unfold alive at living
  cases there : world.components[component]? with
  | none => simp [there] at living
  | some found => exact (List.getElem?_eq_some_iff.mp there).1

/-- What a world can become without anything being attached: components may be released, and
attachments of released components may be forgotten. -/
structure Sheds (before after : World) : Prop where
  counted : after.components.length = before.components.length
  alive : ∀ component, after.alive component → before.alive component
  attached : after.attachments.filter after.alive = before.attachments.filter after.alive
  subset : after.attachments ⊆ before.attachments

theorem Sheds.refl : world.Sheds world :=
  ⟨rfl, fun _ => id, rfl, fun _ => id⟩

variable {world}

/-- Who is alive later is found among those who are alive before. -/
theorem Sheds.filter_filter {after : World} (sheds : world.Sheds after) (list : List ComponentId) :
    (list.filter world.alive).filter after.alive = list.filter after.alive := by
  rw [List.filter_filter]
  refine List.filter_congr fun component _ => ?_
  cases living : after.alive component with
  | false => rfl
  | true => exact sheds.alive component living

theorem Sheds.trans {middle after : World} (first : world.Sheds middle)
    (second : middle.Sheds after) : world.Sheds after where
  counted := second.counted.trans first.counted
  alive := fun component living => first.alive component (second.alive component living)
  attached := by
    rw [second.attached, ← second.filter_filter, first.attached, second.filter_filter]
  subset := fun _ member => first.subset (second.subset member)

theorem liveAttachments_role {entry : ComponentId × Role}
    (member : entry ∈ world.liveAttachments) : world.roleOf entry.1 = some entry.2 := by
  obtain ⟨id, _, listed⟩ := List.mem_filterMap.mp member
  obtain ⟨found, kept, rfl⟩ := Option.map_eq_some_iff.mp listed
  exact congrArg (Option.map _) (Option.filter_eq_some_iff.mp kept).1

theorem alive_of_perform {action : Action} {component : ComponentId}
    (living : (world.perform action).2.alive component) : world.alive component := by
  unfold alive at living ⊢
  rw [perform_component] at living
  cases there : world.components[component]? with
  | none => simp [there] at living
  | some found =>
      rw [there] at living
      cases action <;> simp_all [Action.effect] <;> split at living <;> simp_all

theorem alive_perform {component : ComponentId} {action : Action}
    (living : world.alive component = true) (keeps : action ≠ .release component) :
    (world.perform action).2.alive component = true := by
  unfold alive at living ⊢
  rw [perform_component]
  cases there : world.components[component]? with
  | none => simp [there] at living
  | some found =>
      rw [there] at living
      by_cases about : action.component? = some component
      · simp only [Option.map_some, about, Option.any_some] at living ⊢
        cases action with
        | release owner =>
            obtain rfl := Option.some.inj about
            exact absurd rfl keeps
        | _ => exact living
      · simpa [about] using living

theorem sheds_perform (action : Action) (other : ∀ component, action ≠ .attach component) :
    world.Sheds (world.perform action).2 where
  counted := world.perform_size action
  alive := fun component => alive_of_perform
  attached := by
    rw [perform_attachments]
    cases action with
    | attach component => exact absurd rfl (other component)
    | snapshot =>
        dsimp only
        rw [liveAttachments_map]
        exact (List.filter_filter ..).trans (List.filter_congr fun component _ => Bool.and_self _)
    | _ => rfl
  subset := by
    rw [perform_attachments]
    cases action with
    | attach component => exact absurd rfl (other component)
    | snapshot =>
        dsimp only
        rw [liveAttachments_map]
        exact fun _ member => (List.mem_filter.mp member).1
    | _ => exact fun _ => id

theorem sheds_run {α : Type} {program : Program α}
    (uses : program.Uses fun action => ∀ component, action ≠ .attach component) :
    world.Sheds (program.run world).2 := by
  induction program generalizing world with
  | done result => exact .refl world
  | step action next ih =>
      exact (sheds_perform action uses.1).trans (ih _ (uses.2 _ trivial))

end World

/-!
## Moves
-/

def Action.AttachesNothing (action : Action) : Prop :=
  ∀ component, action ≠ .attach component

theorem Action.OfComponent.attachesNothing {component : ComponentId} {action : Action}
    (about : action.OfComponent component) : action.AttachesNothing := by
  rintro attached rfl
  exact about

theorem Action.OfConnection.attachesNothing {action : Action} (about : action.OfConnection) :
    action.AttachesNothing := by
  rintro attached rfl
  exact about

theorem Action.OfCycle.attachesNothing {components : List (ComponentId × Role)} {action : Action}
    (about : action.OfCycle components) : action.AttachesNothing := by
  rintro attached rfl
  obtain ofConnection | ⟨entry, _, ofComponent⟩ := about
  · exact ofConnection
  · exact ofComponent

theorem Connection.restart_attachesNothing (name : String) :
    (Connection.restart name).Uses Action.AttachesNothing := by
  rw [Connection.restart_eq]
  refine Uses.bind (uses_act nofun) fun _ => Uses.bind (uses_act nofun) fun live => ?_
  exact (Connection.uses_cycle name live).mono fun _ about => about.attachesNothing

def Move.attached? : Move → Option ComponentId
  | attach component => some component
  | _ => none

/-- A move that attaches nothing only releases components and forgets attachments of released ones;
the number of components may grow. -/
theorem World.move_sheds (world : World) (name : String) (move : Move)
    (attachesNone : move.attached? = none) (makesNone : ∀ role, move ≠ .make role) :
    world.Sheds (world.move name move) := by
  cases move with
  | script outcomes => exact ⟨rfl, fun _ => id, rfl, fun _ => id⟩
  | make role => exact absurd rfl (makesNone role)
  | attach component => cases attachesNone
  | release component | cancel stream => exact sheds_perform _ nofun
  | start component role =>
      exact sheds_run ((Component.uses_start component role).mono fun _ about =>
        about.attachesNothing)
  | stop component =>
      exact sheds_run ((Component.uses_stop component).mono fun _ about => about.attachesNothing)
  | produce component settings publication =>
      refine sheds_run ((Producer.uses_produce component settings _ _).mono fun action about => ?_)
      rintro attached rfl
      exact about.elim fun _ equips => equips
  | receive dispatcher propagator item =>
      refine sheds_run ((dispatcher.uses_receive propagator item).mono fun action about => ?_)
      rintro attached rfl
      exact about
  | init =>
      exact sheds_run ((Connection.uses_init name).mono fun _ about => about.attachesNothing)
  | close => exact sheds_run (Connection.uses_close.mono fun _ about => about.attachesNothing)
  | restart => exact sheds_run (Connection.restart_attachesNothing name)
  | repair =>
      exact sheds_run ((Connection.restart_attachesNothing name).bind fun _ =>
        Uses.bind (uses_act nofun) fun _ => uses_pure _)

/-- What is true of the attachments of a world after moves: up to components that nobody owns any
more, they are what was attached. -/
structure World.Attended (made : List Move) (world : World) : Prop where
  known : ∀ component ∈ made.filterMap Move.attached?, component < world.components.length
  subset : world.attachments ⊆ made.filterMap Move.attached?
  same : world.attachments.filter world.alive =
    (made.filterMap Move.attached?).filter world.alive

namespace World.Attended

variable {made : List Move} {world : World}

theorem sheds (attended : world.Attended made) {after : World} (sheds : world.Sheds after) :
    after.Attended made where
  known := fun component member => sheds.counted ▸ attended.known component member
  subset := fun _ member => attended.subset (sheds.subset member)
  same := by
    rw [sheds.attached, ← sheds.filter_filter, attended.same, sheds.filter_filter]

theorem make (attended : world.Attended made) (role : Role) :
    (world.addComponent role).2.Attended made where
  known := fun component member => by
    have more : world.components.length ≤ (world.addComponent role).2.components.length := by
      simp [addComponent]
    exact Nat.lt_of_lt_of_le (attended.known component member) more
  subset := attended.subset
  same := by
    have alive : ∀ component ∈ made.filterMap Move.attached?,
        (world.addComponent role).2.alive component = world.alive component := by
      intro component member
      simp [World.alive, addComponent, List.getElem?_append_left (attended.known component member)]
    rw [List.filter_congr alive, ← attended.same]
    exact List.filter_congr fun component member => alive component (attended.subset member)

theorem attach (attended : world.Attended made) {component : ComponentId}
    (fits : (Move.attach component).Fits world) :
    (world.perform (.attach component)).2.Attended (made ++ [.attach component]) where
  known := fun attached member => by
    rw [List.filterMap_append] at member
    rcases List.mem_append.mp member with earlier | new
    · exact attended.known attached earlier
    · obtain ⟨role, is⟩ := Option.isSome_iff_exists.mp fits
      have present := World.lt_of_roleOf is
      have same : attached = component := List.mem_singleton.mp new
      exact same ▸ present
  subset := by
    rw [List.filterMap_append]
    exact List.append_subset.mpr ⟨fun _ member => List.mem_append_left _ (attended.subset member),
      fun _ member => List.mem_append_right _ member⟩
  same := by
    have alive : (world.perform (.attach component)).2.alive = world.alive := rfl
    rw [alive, List.filterMap_append, List.filter_append, ← attended.same]
    exact List.filter_append ..

theorem move (attended : world.Attended made) (name : String) {move : Move}
    (fits : move.Fits world) : (world.move name move).Attended (made ++ [move]) := by
  have without : move.attached? = none → (world.move name move).Attended made →
      (world.move name move).Attended (made ++ [move]) := by
    intro attachesNone later
    have same : (made ++ [move]).filterMap Move.attached? = made.filterMap Move.attached? := by
      simp [attachesNone]
    exact ⟨same ▸ later.known, same ▸ later.subset, same ▸ later.same⟩
  have shedding : move.attached? = none → (∀ role, move ≠ .make role) →
      (world.move name move).Attended (made ++ [move]) := fun attachesNone makesNone =>
    without attachesNone (attended.sheds (world.move_sheds name move attachesNone makesNone))
  cases move with
  | attach component => exact attended.attach fits
  | make role => exact without rfl (attended.make role)
  | _ => exact shedding rfl fun _ same => Move.noConfusion same

theorem reaches {name : String} {origin : World} (empty : origin.attachments = [])
    (reaches : origin.Reaches name made world) : world.Attended made := by
  induction reaches with
  | refl => exact ⟨nofun, by rw [empty]; exact List.nil_subset _, by rw [empty]; rfl⟩
  | move _ fits ih => exact ih.move name fits

end World.Attended

/-- The components that commands attach, in order. -/
def Session.attachCalls (session : Session) (commands : List Command) : List ComponentId :=
  (session.history commands).filterMap Move.attached?

/-- The components that a restart works on are those that were attached, in order, short of those
that nobody owns any more. -/
theorem Session.liveAttachments_eq (name : String) (endpoint : Except Failure Unit)
    (commands : List Command) :
    let session := Session.create name endpoint
    let world := (session.after commands).world
    world.liveAttachments.map (·.1) =
      (session.attachCalls commands).filter world.alive := by
  intro session world
  rw [World.liveAttachments_map]
  have fresh : session.world.attachments = [] := rfl
  exact (World.Attended.reaches fresh (session.after_reaches commands)).same

end AmqpEndpoints
