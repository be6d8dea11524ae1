import AmqpEndpoints.Proofs.Footprint

/-!
# Custody of channels

Where the channel of a component is while the component is started or stopped. A channel that was
created or taken out of a component stays in the hands of the program until it is closed or put into
the component; the program ends with empty hands.
-/

set_option autoImplicit false

namespace AmqpEndpoints

open Program

/-- How far a program got with the channel of a component. -/
inductive Custody where
  /-- No component is being worked on, or the one that is was given a channel. -/
  | settled
  /-- A component holds nothing, and there is no channel for it. -/
  | emptied (component : ComponentId)
  /-- A component holds nothing, and the program has a channel that was or will be its own. -/
  | carrying (component : ComponentId) (channel : ChannelId)

/-- The channel in the hands of the program. -/
def Custody.channel? : Custody → Option ChannelId
  | carrying _ channel => some channel
  | _ => none

/-- How channels of components are dealt with, where there are `size` components: what is taken out
of a component or created is closed or put into that component before the component is unlocked or
anything else is taken or created. -/
def custody (size : Nat) : Discipline Custody where
  allows
    | phase, .takeHeld component => phase = .settled ∧ component < size
    | phase, .await (.createChannel _) => ∃ component, phase = .emptied component
    | phase, .issue (.closeChannel channel) => ∃ component, phase = .carrying component channel
    | phase, .hold component held => phase = .carrying component held.channel
    | phase, .unlock _ => phase.channel? = none
    | _, _ => True
  possible
    | _, .snapshot, reply => ∀ entry ∈ reply, entry.1 < size
    | _, _, _ => True
  after
    | _, .takeHeld component, none => .emptied component
    | _, .takeHeld component, some held => .carrying component held.channel
    | .emptied component, .await (.createChannel _), .ok channel => .carrying component channel
    | .carrying component _, .issue (.closeChannel _), _ => .emptied component
    | _, .hold .., _ => .settled
    | _, .unlock _, _ => .settled
    | phase, _, _ => phase

/-- Whether an action has nothing to do with who holds which channel. -/
def Action.LeavesCustody : Action → Prop
  | issue (.closeChannel _) => False
  | await (.createChannel _) => False
  | takeHeld _ => False
  | hold .. => False
  | unlock _ => False
  | _ => True

theorem Action.LeavesCustody.stays {action : Action} (leaves : action.LeavesCustody) (size : Nat)
    (phase : Custody) :
    (custody size).allows phase action ∧
      ∀ reply, (custody size).after phase action reply = phase := by
  cases action with
  | issue call | await call =>
      cases call <;> first | exact leaves.elim | exact ⟨trivial, fun _ => by cases phase <;> rfl⟩
  | takeHeld | hold | unlock => exact leaves.elim
  | _ => exact ⟨trivial, fun _ => by cases phase <;> rfl⟩

theorem Action.Equips.leavesCustody {channel : ChannelId} {action : Action}
    (equips : action.Equips channel) : action.LeavesCustody := by
  cases action with
  | issue call | await call =>
      obtain ⟨about, notClosing⟩ := equips
      cases call with
      | closeChannel closed =>
      exact absurd (congrArg Call.closeChannel (Option.some.inj about)) notClosing
      | createChannel => cases about
      | _ => trivial
  | drawTag | spawn => trivial
  | _ => exact equips.elim

/-!
## Programs of components
-/

variable {size : Nat} {component : ComponentId}

theorem closeChannel_follows (channel : ChannelId) :
    (closeChannel channel).Follows (custody size) (.carrying component channel) fun _ later =>
      later = .emptied component :=
  ⟨⟨component, rfl⟩, fun _ _ => ⟨trivial, fun _ _ => rfl⟩⟩

theorem Held.giveBack_follows (held : Held) :
    held.giveBack.Follows (custody size) (.carrying component held.channel) fun _ later =>
      later = .emptied component := by
  unfold Held.giveBack
  cases held.stream with
  | none => exact closeChannel_follows held.channel
  | some stream => exact ⟨trivial, fun _ _ => closeChannel_follows held.channel⟩

/-- A component that is emptied holds nothing, and there is no channel for it. -/
theorem Component.empty_follows (present : component < size) :
    (Component.empty component).Follows (custody size) .settled fun _ later =>
      later = .emptied component := by
  refine follows_bind.mpr ⟨trivial, fun _ _ => follows_bind.mpr ⟨⟨rfl, present⟩, fun held _ => ?_⟩⟩
  cases held with
  | none => exact rfl
  | some held => exact held.giveBack_follows

/-- A component that holds nothing gets a channel into the hands of the program, or none. -/
theorem Role.acquire_follows (role : Role) :
    role.acquire.run.Follows (custody size) (.emptied component) fun outcome later =>
      match outcome with
      | .ok held => later = .carrying component held.channel
      | .error _ => later = .emptied component := by
  refine follows_attempt_bind.mpr (follows_attempt_bind.mpr ⟨trivial, fun handle _ => ?_⟩)
  cases handle with
  | none => exact rfl
  | some connection =>
      refine follows_attempt_bind.mpr ⟨trivial, fun _ _ => ⟨⟨component, rfl⟩, fun created _ => ?_⟩⟩
      cases created with
      | error failure => exact rfl
      | ok channel =>
          change (tryCatch (role.setUp channel) _ : Attempt Held).run.Follows (custody size)
            (.carrying component channel) _
          rw [ExceptT.run_tryCatch]
          have stays := fun (action : Action) (equips : action.Equips channel) =>
            equips.leavesCustody.stays size (.carrying component channel)
          refine follows_bind.mpr
            ((role.setUp_follows channel stays).imp fun outcome later ended => ?_)
          obtain ⟨same, kept⟩ := ended
          cases same
          cases outcome with
          | ok held => exact congrArg _ (kept held rfl).symm
          | error failure => exact ⟨⟨component, rfl⟩, fun _ _ => ⟨trivial, fun _ _ => rfl⟩⟩

theorem Component.start_follows (role : Role) (present : component < size) :
    (Component.start component role).Follows (custody size) .settled fun _ later =>
      later = .settled := by
  rw [Component.start_eq]
  refine (empty_follows present).bind fun _ => ?_
  refine follows_bind.mpr (role.acquire_follows.imp fun acquired later ended => ?_)
  cases acquired with
  | error failure =>
      cases ended
      exact ⟨rfl, fun _ _ => rfl⟩
  | ok held =>
      cases ended
      exact ⟨rfl, fun _ _ => ⟨rfl, fun _ _ => rfl⟩⟩

theorem Component.stop_follows (present : component < size) :
    (Component.stop component).Follows (custody size) .settled fun _ later =>
      later = .settled := by
  rw [Component.stop_eq]
  exact (empty_follows present).bind fun _ => ⟨rfl, fun _ _ => rfl⟩

theorem Producer.produce_follows (component : ComponentId) (settings : ProducerSettings)
    (pairs : List (String × String)) (message : Message) :
    (Producer.produce component settings pairs message).Follows (custody size) .settled
      fun _ later => later = .settled := by
  refine (Producer.uses_produce component settings pairs message).follows fun action publishes => ?_
  cases action with
  | unlock => exact ⟨rfl, fun _ => rfl⟩
  | lock | held => exact ⟨trivial, fun _ => rfl⟩
  | _ =>
      obtain ⟨channel, equips⟩ := publishes
      exact equips.leavesCustody.stays size _

/-!
## Programs of connections and dispatchers
-/

theorem Action.OfConnection.leavesCustody {action : Action} (about : action.OfConnection) :
    action.LeavesCustody := by
  cases action with
  | issue call | await call => cases call <;> trivial
  | replaceHandle | takeHandle => trivial
  | _ => exact about.elim

theorem Action.OfDispatcher.leavesCustody {action : Action} (about : action.OfDispatcher) :
    action.LeavesCustody := by
  cases action with
  | listen | endSpan => trivial
  | _ => exact about.elim

namespace Connection

theorem init_follows (name : String) :
    (init name).Follows (custody size) .settled fun _ later => later = .settled :=
  (uses_init name).follows fun _ about => about.leavesCustody.stays size _

theorem close_follows :
    close.Follows (custody size) .settled fun _ later => later = .settled :=
  uses_close.follows fun _ about => about.leavesCustody.stays size _

theorem restart_follows (name : String) :
    (restart name).Follows (custody size) .settled fun _ later => later = .settled := by
  rw [restart_eq]
  refine follows_bind.mpr ⟨trivial, fun _ _ => follows_bind.mpr ⟨trivial, fun live present => ?_⟩⟩
  refine cycle_returns name ?stops close_follows (init_follows name) ?starts
    ⟨trivial, fun _ _ => rfl⟩
  case stops => exact fun entry member => Component.stop_follows (present entry member)
  case starts => exact fun entry member => Component.start_follows entry.2 (present entry member)

end Connection

theorem Fault.restart_follows (name : String) :
    (Fault.restart name).Follows (custody size) .settled fun _ later => later = .settled := by
  refine (Connection.restart_follows name).bind fun _ => ?_
  exact ⟨trivial, fun _ _ => rfl⟩

theorem Dispatcher.receive_follows (dispatcher : Dispatcher) (propagator : Trace.Propagator)
    (item : Except Failure Delivery) :
    (dispatcher.receive propagator item).Follows (custody size) .settled fun _ later =>
      later = .settled :=
  (dispatcher.uses_receive propagator item).follows fun _ about =>
    about.leavesCustody.stays size _

end AmqpEndpoints
