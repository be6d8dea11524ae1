import Mathlib.Logic.Basic
import Mathlib.Logic.ExistsUnique
import AmqpEndpoints.Proofs.Custody
import AmqpEndpoints.Proofs.Moves

/-!
# Ownership of channels

Every channel that was handed out is held by one component or was closed once. The channels handed
out are at all times, up to their order, those that components hold, the one in the hands of the
program that runs, and those that closing was asked of; between programs no hands are in the way.
-/

set_option autoImplicit false

namespace AmqpEndpoints

open Program

def Event.creation? : Event → Option (ConnectionId × ChannelId)
  | returned (.createChannel connection) (.ok channel) => some (connection, channel)
  | _ => none

def Event.closing? : Event → Option ChannelId
  | called (.closeChannel channel) => some channel
  | _ => none

namespace World

variable (world : World)

def creations : List (ConnectionId × ChannelId) :=
  world.broker.log.filterMap Event.creation?

def handedOut : List ChannelId :=
  world.creations.map (·.2)

/-- The channels that closing was asked of, as often as it was. -/
def closings : List ChannelId :=
  world.broker.log.filterMap Event.closing?

/-- The channels that components hold, as often as they are held. -/
def holdings : List ChannelId :=
  world.components.filterMap fun component => component.held.map (·.channel)

def Holds (component : ComponentId) (channel : ChannelId) : Prop :=
  (world.heldBy component).map (·.channel) = some channel

end World

/-!
## What an action does to the ledger
-/

def Done.creation? : Done → Option (ConnectionId × ChannelId)
  | ⟨.await (.createChannel connection), .ok channel⟩ => some (connection, channel)
  | _ => none

def Action.closing? : Action → Option ChannelId
  | issue (.closeChannel channel) => some channel
  | _ => none

namespace World

variable (world : World) (action : Action)

theorem perform_creations :
    (world.perform action).2.creations =
      world.creations ++ (Done.creation? ⟨action, (world.perform action).1⟩).toList := by
  unfold creations
  rw [perform_log, List.filterMap_append]
  congr 1
  cases action with
  | await call =>
      cases call with
      | createChannel connection =>
          cases replied : (world.perform (.await (.createChannel connection))).1 <;>
            simp [Done.events, Event.creation?, Done.creation?]
      | _ => rfl
  | _ => rfl

theorem perform_handedOut :
    (world.perform action).2.handedOut =
      world.handedOut ++
        ((Done.creation? ⟨action, (world.perform action).1⟩).map (·.2)).toList := by
  rw [handedOut, perform_creations, List.map_append, ← handedOut]
  cases Done.creation? ⟨action, (world.perform action).1⟩ <;> rfl

theorem perform_closings :
    (world.perform action).2.closings = world.closings ++ action.closing?.toList := by
  unfold closings
  rw [perform_log, List.filterMap_append]
  congr 1
  cases action with
  | issue call => cases call <;> rfl
  | _ => rfl

/-- What all effects leave as it is in a component is the same in all components afterwards. -/
theorem perform_map {α : Type} (view : Component → α)
    (same : ∀ component, view (action.effect component) = view component) :
    (world.perform action).2.components.map view = world.components.map view := by
  rw [perform_components]
  cases action.component? with
  | none => rfl
  | some changed =>
      refine List.ext_getElem? fun index => ?_
      simp only [Option.elim_some, List.getElem?_map, List.getElem?_modify]
      cases world.components[index]? with
      | none => rfl
      | some component =>
          by_cases here : changed = index
          · simp [here, same]
          · simp [here]

theorem perform_holdings_of_same
    (same : ∀ component, (action.effect component).held = component.held) :
    (world.perform action).2.holdings = world.holdings := by
  have helds := perform_map world action (·.held) same
  have flat : ∀ components : List Component,
      (components.filterMap fun component => component.held.map (·.channel)) =
        (components.map (·.held)).filterMap fun held => held.map (·.channel) := by
    intro components
    rw [List.filterMap_map]
    rfl
  rw [holdings, flat, helds, ← flat, ← holdings]

end World

/-!
## Numbers
-/

/-- Only creating a channel changes how many there are, and the new one gets the next number. -/
theorem Broker.respond_channels (broker : Broker) (call : Call) :
    match Done.creation? ⟨.await call, (broker.respond call).1⟩ with
    | some (_, channel) =>
      channel = broker.channels + 1 ∧ (broker.respond call).2.channels = broker.channels + 1
    | none => (broker.respond call).2.channels = broker.channels := by
  cases call with
  | createChannel connection =>
      simp only [respond, answer, plainOutcome, outcome, record]
      cases (nextOutcome .createChannel broker.script).1.reply with
      | error failure => exact rfl
      | ok confirmation => exact ⟨rfl, rfl⟩
  | build =>
      simp only [respond, answer, Done.creation?]
      cases broker.endpoint <;> rfl
  | connect | consume =>
      simp only [respond, answer, plainOutcome, outcome, record, Done.creation?]
      split <;> rfl
  | _ => rfl

namespace World

variable (world : World)

/-- Whether the channels that were handed out are the numbers up to how many there are, in order. -/
def Numbered : Prop :=
  world.handedOut = List.range' 1 world.broker.channels

variable {world}

theorem Numbered.perform (numbered : world.Numbered) (action : Action) :
    (world.perform action).2.Numbered := by
  unfold Numbered
  rw [perform_handedOut, numbered]
  cases action with
  | await call =>
      have counted := world.broker.respond_channels call
      change _ ++ ((Done.creation? ⟨.await call, (world.broker.respond call).1⟩).map _).toList =
        List.range' 1 (world.broker.respond call).2.channels
      cases created : Done.creation? ⟨.await call, (world.broker.respond call).1⟩ with
      | none =>
          rw [created] at counted
          simp [counted]
      | some creation =>
          rw [created] at counted
          obtain ⟨next, more⟩ := counted
          simp [next, more, List.range'_1_concat, Nat.add_comm]
  | spawn | cancel =>
      simp only [World.perform, setDispatcher]
      split <;> exact List.append_nil _
  | _ => exact List.append_nil _

theorem Numbered.run {α : Type} (numbered : world.Numbered) (program : Program α) :
    (program.run world).2.Numbered := by
  induction program generalizing world with
  | done result => exact numbered
  | step action next ih => exact ih _ (numbered.perform action)

theorem Numbered.nodup (numbered : world.Numbered) : world.handedOut.Nodup := by
  rw [numbered]
  exact List.nodup_range'

end World

/-!
## What every action keeps
-/

/-- Changing one element of a list changes what is collected from the list by what is collected from
that element. -/
theorem filterMap_modify_perm {α β : Type} (collect : α → Option β) (change : α → α)
    {list : List α} {index : Nat} {element : α} (found : list[index]? = some element) :
    ((collect (change element)).toList ++ list.filterMap collect).Perm
      ((collect element).toList ++ (list.modify index change).filterMap collect) := by
  induction list generalizing index with
  | nil => simp at found
  | cons head rest ih =>
      cases index with
      | zero =>
          have here : head = element := by simpa using found
          subst here
          simp only [List.modify_zero_cons, List.filterMap_cons]
          cases collect head <;> cases collect (change head) <;> simp [List.Perm.swap]
      | succ index =>
          have there : rest[index]? = some element := by simpa using found
          have later := ih there
          simp only [List.modify_succ_cons, List.filterMap_cons]
          cases collect head with
          | none => exact later
          | some collected =>
              refine List.perm_middle.trans (.trans ?_ List.perm_middle.symm)
              exact later.cons collected

/-- Where nothing is collected twice, what is collected comes from one place. -/
theorem filterMap_index_unique {α β : Type} {collect : α → Option β} {list : List α}
    (once : (list.filterMap collect).Nodup) {first second : Nat} {one other : α} {collected : β}
    (here : list[first]? = some one) (there : list[second]? = some other)
    (gives : collect one = some collected) (also : collect other = some collected) :
    first = second := by
  have pairwise := List.pairwise_iff_getElem.mp (List.pairwise_filterMap.mp once)
  obtain ⟨inside, rfl⟩ := List.getElem?_eq_some_iff.mp here
  obtain ⟨within, rfl⟩ := List.getElem?_eq_some_iff.mp there
  rcases Nat.lt_trichotomy first second with less | same | more
  · exact absurd rfl (pairwise first second inside within less collected gives collected also)
  · exact same
  · exact absurd rfl (pairwise second first within inside more collected also collected gives)

namespace World

variable (world : World) {component : ComponentId}

theorem takeHeld_holdings :
    (((world.heldBy component).map (·.channel)).toList ++
      (world.perform (.takeHeld component)).2.holdings).Perm world.holdings := by
  unfold holdings heldBy
  rw [perform_components]
  change List.Perm (_ ++ (world.components.modify component _).filterMap _) _
  cases found : world.components[component]? with
  | none =>
      rw [List.modify_eq_self (List.getElem?_eq_none_iff.mp found)]
      exact .refl _
  | some before =>
      exact (filterMap_modify_perm (fun component : Component => component.held.map (·.channel))
        (Action.takeHeld component).effect found).symm

theorem hold_holdings (held : Held) (present : component < world.components.length)
    (empty : world.heldBy component = none) :
    (held.channel :: world.holdings).Perm (world.perform (.hold component held)).2.holdings := by
  unfold holdings
  rw [perform_components]
  have found := List.getElem?_eq_getElem present
  have nothing : (world.components[component]).held = none := by
    simpa [heldBy, found] using empty
  have moved := filterMap_modify_perm (fun component : Component => component.held.map (·.channel))
    (Action.hold component held).effect found
  rw [nothing] at moved
  exact moved

end World

/-- The component that a program emptied and has not given a channel. -/
def Custody.emptied? : Custody → Option ComponentId
  | emptied component => some component
  | carrying component _ => some component
  | _ => none

/-- What is true of a world with `size` components while a program has a channel in its hands. -/
structure Owned (size : Nat) (phase : Custody) (world : World) : Prop where
  sized : world.components.length = size
  balanced :
    world.handedOut.Perm (phase.channel?.toList ++ (world.holdings ++ world.closings))
  emptied : ∀ component ∈ phase.emptied?, component < size ∧ world.heldBy component = none

namespace Owned

variable {size : Nat} {phase : Custody} {world : World}

theorem perform_sized (owned : Owned size phase world) (action : Action) :
    (world.perform action).2.components.length = size :=
  (world.perform_size action).trans owned.sized

theorem leaves (owned : Owned size phase world) {action : Action} (leaves : action.LeavesCustody) :
    Owned size phase (world.perform action).2 := by
  have kept : ∀ component, (action.effect component).held = component.held := by
    intro component
    cases action with
    | takeHeld | hold => exact leaves.elim
    | _ => rfl
  have created : Done.creation? ⟨action, (world.perform action).1⟩ = none := by
    cases action with
    | await call => cases call <;> first | exact leaves.elim | rfl
    | _ => rfl
  have closed : action.closing? = none := by
    cases action with
    | issue call => cases call <;> first | exact leaves.elim | rfl
    | _ => rfl
  have held : ∀ component, (world.perform action).2.heldBy component = world.heldBy component := by
    intro component
    rw [World.heldBy_perform]
    cases action with
    | takeHeld | hold => exact leaves.elim
    | _ => rfl
  refine ⟨owned.perform_sized action, ?_, fun component mentioned => ?_⟩
  · rw [World.perform_handedOut, World.perform_closings, created, closed,
      World.perform_holdings_of_same _ _ kept]
    simpa using owned.balanced
  · rw [held]
    exact owned.emptied component mentioned

theorem closeChannel {component : ComponentId} {channel : ChannelId}
    (owned : Owned size (.carrying component channel) world) :
    Owned size (.emptied component) (world.perform (.issue (.closeChannel channel))).2 where
  sized := owned.sized
  balanced := by
    rw [World.perform_handedOut, World.perform_closings]
    change (world.handedOut ++ []).Perm (world.holdings ++ (world.closings ++ [channel]))
    rw [List.append_nil, ← List.append_assoc]
    exact owned.balanced.trans (List.perm_append_singleton channel _).symm
  emptied := owned.emptied

theorem createChannel {component : ComponentId} {connection : ConnectionId}
    (owned : Owned size (.emptied component) world) :
    Owned size
      ((custody size).after (.emptied component) (.await (.createChannel connection))
        (world.perform (.await (.createChannel connection))).1)
      (world.perform (.await (.createChannel connection))).2 := by
  have out := world.perform_handedOut (.await (.createChannel connection))
  have closed := world.perform_closings (.await (.createChannel connection))
  cases replied : (world.perform (.await (.createChannel connection))).1 with
  | error failure =>
      rw [replied] at out
      refine ⟨owned.sized, ?_, owned.emptied⟩
      rw [out, closed]
      change (world.handedOut ++ []).Perm (world.holdings ++ (world.closings ++ []))
      rw [List.append_nil, List.append_nil]
      exact owned.balanced
  | ok channel =>
      rw [replied] at out
      refine ⟨owned.sized, ?_, owned.emptied⟩
      rw [out, closed]
      change (world.handedOut ++ [channel]).Perm
        (channel :: (world.holdings ++ (world.closings ++ [])))
      rw [List.append_nil]
      exact (List.perm_append_singleton channel _).trans (owned.balanced.cons channel)

theorem takeHeld {component : ComponentId} (owned : Owned size .settled world)
    (present : component < size) :
    Owned size
      ((custody size).after .settled (.takeHeld component)
        (world.perform (.takeHeld component)).1)
      (world.perform (.takeHeld component)).2 := by
  have empty : (world.perform (.takeHeld component)).2.heldBy component = none := by
    rw [World.heldBy_perform]
    exact if_pos rfl
  have emptied : ∀ other ∈ some component,
      other < size ∧ (world.perform (.takeHeld component)).2.heldBy other = none := by
    rintro other ⟨⟩
    exact ⟨present, empty⟩
  have balanced : world.handedOut.Perm (((world.heldBy component).map (·.channel)).toList ++
      ((world.perform (.takeHeld component)).2.holdings ++ world.closings)) := by
    rw [← List.append_assoc]
    exact owned.balanced.trans (world.takeHeld_holdings.symm.append_right _)
  have taken : (world.perform (.takeHeld component)).1 = world.heldBy component := rfl
  rw [taken]
  cases held : world.heldBy component with
  | none =>
      rw [held] at balanced
      exact ⟨owned.perform_sized _, balanced, emptied⟩
  | some kept =>
      rw [held] at balanced
      exact ⟨owned.perform_sized _, balanced, emptied⟩

theorem hold {component : ComponentId} {held : Held}
    (owned : Owned size (.carrying component held.channel) world) :
    Owned size .settled (world.perform (.hold component held)).2 := by
  obtain ⟨present, empty⟩ := owned.emptied component rfl
  have moved := world.hold_holdings held (owned.sized ▸ present) empty
  refine ⟨owned.perform_sized _, owned.balanced.trans (moved.append_right _), ?_⟩
  rintro other ⟨⟩

theorem unlock {component : ComponentId} (owned : Owned size phase world)
    (emptyHanded : phase.channel? = none) :
    Owned size .settled (world.perform (.unlock component)).2 := by
  have balanced := owned.balanced
  rw [emptyHanded] at balanced
  refine ⟨owned.perform_sized _, ?_, ?_⟩
  · rw [world.perform_holdings_of_same (.unlock component) fun _ => rfl]
    exact balanced
  · rintro other ⟨⟩

theorem perform (owned : Owned size phase world) {action : Action}
    (allowed : (custody size).allows phase action) :
    Owned size ((custody size).after phase action (world.perform action).1)
      (world.perform action).2 := by
  -- What moves no channel stays in its phase as well.
  have others : action.LeavesCustody →
      Owned size ((custody size).after phase action (world.perform action).1)
        (world.perform action).2 := by
    intro leaves
    rw [(leaves.stays size phase).2]
    exact owned.leaves leaves
  cases action with
  | issue call =>
      cases call with
      | closeChannel channel =>
          obtain ⟨component, rfl⟩ := allowed
          exact owned.closeChannel
      | _ => exact others trivial
  | await call =>
      cases call with
      | createChannel connection =>
          obtain ⟨component, rfl⟩ := allowed
          exact owned.createChannel
      | _ => exact others trivial
  | takeHeld component =>
      obtain ⟨rfl, present⟩ := allowed
      exact owned.takeHeld present
  | hold component held =>
      obtain rfl := allowed
      exact owned.hold
  | unlock component =>
      have unlocked : Owned size .settled (world.perform (.unlock component)).2 :=
        owned.unlock allowed
      cases phase <;> exact unlocked
  | _ => exact others trivial

/-- Nothing replies what the discipline leaves out: whoever is listed is there. -/
theorem possible (owned : Owned size phase world) (action : Action) :
    (custody size).possible phase action (world.perform action).1 := by
  cases action with
  | snapshot =>
      intro entry member
      obtain ⟨id, _, listed⟩ := List.mem_filterMap.mp member
      obtain ⟨component, found, rfl⟩ := Option.map_eq_some_iff.mp listed
      have there := (Option.filter_eq_some_iff.mp found).1
      exact owned.sized ▸ (List.getElem?_eq_some_iff.mp there).1
  | _ => trivial

theorem run {α : Type} {program : Program α}
    (follows : program.Follows (custody size) .settled fun _ later => later = .settled)
    (owned : Owned size .settled world) : Owned size .settled (program.run world).2 := by
  obtain ⟨later, rfl, kept⟩ := follows.run world (Owned size)
    (fun _ _ action allowed owned => ⟨owned.possible action, owned.perform allowed⟩) owned
  exact kept

end Owned

/-!
## Sessions
-/

/-- What is true of a world between programs. -/
structure World.Settled (world : World) : Prop where
  owned : Owned world.components.length .settled world
  numbered : world.Numbered

namespace World.Settled

variable {world : World}

theorem run {α : Type} {program : Program α}
    (follows : program.Follows (custody world.components.length) .settled fun _ later =>
      later = .settled)
    (settled : world.Settled) : (program.run world).2.Settled := by
  have owned := settled.owned.run follows
  exact ⟨owned.sized.symm ▸ owned, settled.numbered.run program⟩

theorem move (settled : world.Settled) (name : String) {move : Move} (fits : move.Fits world) :
    (world.move name move).Settled := by
  cases move with
  | script outcomes =>
      obtain ⟨⟨sized, balanced, emptied⟩, numbered⟩ := settled
      exact ⟨⟨sized, balanced, emptied⟩, numbered⟩
  | make role =>
      obtain ⟨⟨sized, balanced, emptied⟩, numbered⟩ := settled
      have holdings : (world.addComponent role).2.holdings = world.holdings := by
        simp [World.holdings, addComponent]
      refine ⟨⟨rfl, ?_, ?_⟩, numbered⟩
      · change world.handedOut.Perm ((world.addComponent role).2.holdings ++ world.closings)
        rw [holdings]
        exact balanced
      · rintro component ⟨⟩
  | attach component | release component | cancel stream =>
      exact settled.run ⟨trivial, fun _ _ => rfl⟩
  | start component role => exact settled.run (Component.start_follows role (lt_of_roleOf fits))
  | stop component =>
      obtain ⟨role, is⟩ := Option.isSome_iff_exists.mp fits
      exact settled.run (Component.stop_follows (lt_of_roleOf is))
  | produce component settings publication =>
      exact settled.run (Producer.produce_follows component settings _ _)
  | receive dispatcher propagator item =>
      exact settled.run (dispatcher.receive_follows propagator item)
  | init => exact settled.run (Connection.init_follows name)
  | close => exact settled.run Connection.close_follows
  | restart => exact settled.run (Connection.restart_follows name)
  | repair => exact settled.run (Fault.restart_follows name)

theorem reaches {name : String} {made : List Move} {later : World} (settled : world.Settled)
    (reaches : world.Reaches name made later) : later.Settled := by
  induction reaches with
  | refl => exact settled
  | move _ fits ih => exact ih.move name fits

end World.Settled

theorem Session.create_settled (name : String) (endpoint : Except Failure Unit) :
    (Session.create name endpoint).world.Settled where
  owned :=
    { sized := rfl
      balanced := List.Perm.refl []
      emptied := by rintro component ⟨⟩ }
  numbered := rfl

theorem Session.after_settled (name : String) (endpoint : Except Failure Unit)
    (commands : List Command) : ((Session.create name endpoint).after commands).world.Settled :=
  (create_settled name endpoint).reaches (Session.after_reaches _ commands)

namespace World

variable {world : World}

theorem mem_holdings_iff {channel : ChannelId} :
    channel ∈ world.holdings ↔ ∃ component, world.Holds component channel := by
  unfold holdings Holds heldBy
  constructor
  · intro member
    obtain ⟨found, present, holds⟩ := List.mem_filterMap.mp member
    obtain ⟨component, there⟩ := List.mem_iff_getElem?.mp present
    exact ⟨component, by simp [there, holds]⟩
  · rintro ⟨component, holds⟩
    cases there : world.components[component]? with
    | none => simp [there] at holds
    | some found =>
        rw [there] at holds
        exact List.mem_filterMap.mpr ⟨found, List.mem_of_getElem? there, holds⟩

/-- No two components hold one channel where no channel is held twice. -/
theorem holder_unique (once : world.holdings.Nodup) {first second : ComponentId}
    {channel : ChannelId} (left : world.Holds first channel) (right : world.Holds second channel) :
    first = second := by
  unfold Holds heldBy at left right
  cases there : world.components[first]? with
  | none => simp [there] at left
  | some found =>
      cases elsewhere : world.components[second]? with
      | none => simp [elsewhere] at right
      | some other =>
          rw [there] at left
          rw [elsewhere] at right
          exact filterMap_index_unique once there elsewhere left right

end World

end AmqpEndpoints
