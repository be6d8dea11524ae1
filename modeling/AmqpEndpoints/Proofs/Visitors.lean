import AmqpEndpoints.Proofs.Ownership
import AmqpEndpoints.Proofs.Serial
import AmqpEndpoints.Proofs.Visits

/-!
# Two visitors

The lock of a component keeps its visitors apart. What one of them has at hand, or has given to the
component, is therefore safe from the other until it leaves.
-/

set_option autoImplicit false

namespace AmqpEndpoints

/-!
## Apart
-/

namespace Visit

def isAway : Visit → Bool
  | away _ => true
  | _ => false

/-- What a visitor found when it looked at the handle, if it did. -/
def look : Visit → Option (Option ConnectionId)
  | away found => found
  | inside => none
  | looked handle => some handle
  | bears connection _ => some (some connection)
  | filled connection => some (some connection)

def gave : Visit → Option ConnectionId
  | away (some found) => found
  | filled connection => some connection
  | _ => none

end Visit

/-- Of two visitors only one can be inside, and it has the lock. -/
structure Apart (component : ComponentId) (mine other : Visit) (world : World) : Prop where
  present : Mutex.Present world (.component component)
  inside : mine.isAway = false → other.isAway = true ∧ Mutex.Taken world (.component component)
  otherInside : other.isAway = false → mine.isAway = true ∧ Mutex.Taken world (.component component)

namespace Apart

variable {component : ComponentId} {once : Bool} {mine other later : Visit} {world : World}
  {action : Action}

theorem symm (apart : Apart component mine other world) : Apart component other mine world :=
  ⟨apart.present, apart.otherInside, apart.inside⟩

/-- Who does something to the component does it alone. -/
theorem alone (apart : Apart component mine other world) (enabled : world.Enabled action)
    (step : Visit.Step component once world mine action later) :
    action.StaysOut component ∨ other.isAway = true := by
  cases step with
  | outside staysOut => exact .inl staysOut
  | enters =>
      cases away : other.isAway with
      | true => exact .inr rfl
      | false => exact absurd enabled (Mutex.not_enabled (apart.otherInside away).2)
  | _ => exact .inr (apart.inside rfl).1

theorem step (apart : Apart component mine other world) (enabled : world.Enabled action)
    (step : Visit.Step component once world mine action later) :
    Apart component later other (world.perform action).2 := by
  have present := Mutex.present_perform apart.present action
  have kept : ∀ {action : Action}, action ≠ .lock component → action ≠ .unlock component →
      Mutex.Taken world (.component component) →
        Mutex.Taken (world.perform action).2 (.component component) :=
    fun notTaken notFreed taken => Mutex.taken_perform taken ⟨notTaken, notFreed⟩
  have alone := apart.alone enabled step
  cases step with
  | outside staysOut =>
      have taken : Mutex.Taken world (.component component) →
          Mutex.Taken (world.perform action).2 (.component component) := by
        refine kept ?_ ?_ <;> rintro rfl <;> exact staysOut rfl
      exact ⟨present,
        fun inside => (apart.inside inside).imp_right taken,
        fun inside => (apart.otherInside inside).imp_right taken⟩
  | enters =>
      have away := alone.resolve_left fun staysOut => staysOut rfl
      refine ⟨present, fun _ => ⟨away, Mutex.taken_take apart.present⟩, fun inside => ?_⟩
      exact absurd away (Bool.eq_false_iff.mp inside)
  | empties | looks | gains | fills =>
      obtain ⟨away, taken⟩ := apart.inside rfl
      refine ⟨present, fun _ => ⟨away, kept nofun nofun taken⟩, fun inside => ?_⟩
      exact absurd away (Bool.eq_false_iff.mp inside)
  | stops | fails | leaves =>
      refine ⟨present, nofun, fun inside => ?_⟩
      exact absurd (apart.inside rfl).1 (Bool.eq_false_iff.mp inside)

end Apart

/-!
## The channel of a component
-/

def World.HoldsOf (world : World) (component : ComponentId) (connection : ConnectionId) : Prop :=
  ∃ channel, world.Holds component channel ∧ (connection, channel) ∈ world.creations

theorem World.creations_subset (world : World) (action : Action) :
    world.creations ⊆ (world.perform action).2.creations := by
  rw [perform_creations]
  exact List.subset_append_left ..

theorem Action.StaysOut.heldBy_eq {component : ComponentId} {action : Action}
    (staysOut : action.StaysOut component) (world : World) :
    (world.perform action).2.heldBy component = world.heldBy component := by
  rw [World.heldBy_perform]
  cases action with
  | takeHeld | hold => exact if_neg staysOut
  | _ => rfl

theorem World.HoldsOf.of_eq {component : ComponentId} {connection : ConnectionId} {world : World}
    {action : Action} (holds : world.HoldsOf component connection)
    (same : (world.perform action).2.heldBy component = world.heldBy component) :
    (world.perform action).2.HoldsOf component connection := by
  obtain ⟨channel, held, created⟩ := holds
  exact ⟨channel, by rw [Holds, same]; exact held, world.creations_subset action created⟩

/-- Whether what a visitor has at hand is what it takes it for. -/
def Visit.Sound (component : ComponentId) (world : World) : Visit → Prop
  | bears connection channel => (connection, channel) ∈ world.creations
  | filled connection => world.HoldsOf component connection
  | _ => True

namespace Visit

variable {component : ComponentId} {once : Bool} {mine other later : Visit} {world : World}
  {action : Action}

theorem Sound.outside {visit : Visit} (sound : visit.Sound component world)
    (alone : action.StaysOut component ∨ visit.isAway = true) :
    visit.Sound component (world.perform action).2 := by
  cases visit with
  | bears connection channel => exact world.creations_subset action sound
  | filled connection =>
      obtain staysOut | away := alone
      · exact World.HoldsOf.of_eq sound (staysOut.heldBy_eq world)
      · cases away
  | _ => trivial

theorem Sound.step (sound : mine.Sound component world)
    (present : Mutex.Present world (.component component))
    (step : Visit.Step component once world mine action later) :
    later.Sound component (world.perform action).2 := by
  cases step with
  | outside staysOut => exact sound.outside (.inl staysOut)
  | gains created =>
      change _ ∈ (world.perform _).2.creations
      rw [World.perform_creations, created]
      exact List.mem_append_right _ (List.mem_singleton.mpr rfl)
  | @fills connection held =>
      refine ⟨held.channel, ?_, world.creations_subset _ sound⟩
      have held := (world.heldBy_perform (.hold component held) component).trans (if_pos rfl)
      rw [World.Holds, held, List.getElem?_eq_getElem present]
      rfl
  | _ => trivial

end Visit

/-- Whether a component holds a channel of a connection, or none where there is no connection. -/
def World.Stands (world : World) (component : ComponentId) : Option ConnectionId → Prop
  | some connection => world.HoldsOf component connection
  | none => world.heldBy component = none

theorem World.Stands.of_eq {component : ComponentId} {gave : Option ConnectionId} {world : World}
    {action : Action} (stands : world.Stands component gave)
    (same : (world.perform action).2.heldBy component = world.heldBy component) :
    (world.perform action).2.Stands component gave := by
  cases gave with
  | none => exact same.trans stands
  | some connection => exact HoldsOf.of_eq stands same

namespace Visit

variable {component : ComponentId} {other later : Visit} {world : World} {action : Action}

theorem Step.stands (step : Visit.Step component true world other action later)
    (present : Mutex.Present world (.component component)) (sound : other.Sound component world)
    (stands : world.Stands component other.gave) :
    (world.perform action).2.Stands component later.gave := by
  have given := sound.step present step
  cases step with
  | outside staysOut => exact stands.of_eq (staysOut.heldBy_eq world)
  | enters first =>
      obtain rfl := first rfl
      exact stands.of_eq (world.heldBy_perform ..)
  | empties => exact (world.heldBy_perform ..).trans (if_pos rfl)
  | looks | gains => exact stands.of_eq (world.heldBy_perform ..)
  | fills => exact given
  | stops again => cases again
  | fails | leaves => exact stands.of_eq (world.heldBy_perform ..)

end Visit

end AmqpEndpoints
