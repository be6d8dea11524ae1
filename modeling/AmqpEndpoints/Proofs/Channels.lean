import Mathlib.Logic.Function.Basic
import AmqpEndpoints.Proofs.Components
import AmqpEndpoints.Proofs.Conversation

/-!
# Whose a channel is

A channel that was handed out is of one component, and all that was said on it is what a component
says that has it or gave it back. While a component is emptied and given another channel, what the
components of a world hold does not tell whose a channel is. So it is told by a map beside the
world: a program changes the map where it creates or closes a channel, and the map agrees with the
components where the program ends.
-/

set_option autoImplicit false

namespace AmqpEndpoints

open Program

/-!
## One channel at a time
-/

/-- Whether an action creates no channel and is heard on none but the one that is given. -/
def Action.StaysOn (channel : Option ChannelId) (action : Action) : Prop :=
  (∀ connection, action ≠ .await (.createChannel connection)) ∧
    ∀ other, channel ≠ some other → action.SilentOn other

/-- Whether an action has nothing to do with channels. -/
def Action.LeavesChannels : Action → Prop
  | issue call => call.ofConnection = true
  | await call => call.ofConnection = true
  | takeHeld _ => False
  | hold .. => False
  | _ => True

theorem Action.LeavesChannels.staysOn {action : Action} (leaves : action.LeavesChannels)
    (channel : Option ChannelId) : action.StaysOn channel := by
  cases action with
  | issue call | await call =>
      refine ⟨?_, fun other _ => ?_⟩
      · rintro connection ⟨⟩ <;> cases leaves
      · cases call <;> first | cases leaves; done | rintro ⟨⟩
  | takeHeld | hold => exact leaves.elim
  | _ => exact ⟨nofun, fun _ _ => trivial⟩

theorem Action.LeavesChannels.heldBy_eq {action : Action} (leaves : action.LeavesChannels)
    (world : World) (component : ComponentId) :
    (world.perform action).2.heldBy component = world.heldBy component := by
  rw [World.heldBy_perform]
  cases action with
  | takeHeld | hold => exact leaves.elim
  | _ => rfl

theorem Action.Equips.staysOn {channel : ChannelId} {action : Action}
    (equips : action.Equips channel) : action.StaysOn (some channel) := by
  cases action with
  | issue call | await call =>
      obtain ⟨about, _⟩ := equips
      refine ⟨?_, fun other different same => different (about.symm.trans same)⟩
      rintro connection ⟨⟩ <;> cases about
  | drawTag | spawn => exact ⟨nofun, fun _ _ => trivial⟩
  | _ => exact equips.elim

theorem closeChannel_staysOn (channel : ChannelId) :
    (closeChannel channel).Uses (Action.StaysOn (some channel)) :=
  uses_closeChannel ⟨nofun, fun _ different same => different same⟩
    ⟨nofun, fun _ different same => different same⟩

theorem Held.giveBack_staysOn (held : Held) :
    held.giveBack.Uses (Action.StaysOn (some held.channel)) := by
  unfold Held.giveBack
  cases held.stream with
  | none => exact closeChannel_staysOn held.channel
  | some stream =>
      exact Uses.bind (uses_act ⟨nofun, fun _ _ => trivial⟩) fun _ =>
        closeChannel_staysOn held.channel

theorem Role.equip_staysOn (role : Role) (channel : ChannelId) :
    (role.equip channel).run.Uses (Action.StaysOn (some channel)) := by
  unfold Role.equip
  rw [ExceptT.run_tryCatch]
  refine ((Role.uses_setUp channel role).mono fun _ equips => equips.staysOn).bind fun outcome => ?_
  cases outcome with
  | ok held => exact uses_pure _
  | error failure =>
      exact Uses.attempt_bind ((closeChannel_staysOn channel).bind fun _ => uses_pure _) fun _ =>
        uses_pure _

/-!
## Whose a channel is
-/

abbrev Hands := ComponentId → Option ChannelId

namespace World

def hands (world : World) : Hands := fun component => (world.heldBy component).map (·.channel)

/-- Whether a channel is of one component that has it and did not close it, or of one that gave it
back, and what was said on it is what such a component says. -/
def Spoke (hands : Hands) (channel : ChannelId) (world : World) : Prop :=
  ∃ component role said, world.roleOf component = some role ∧
    world.heardOn channel = said.flatMap Answered.events ∧
    ((∀ other, hands other = some channel ↔ other = component) ∧ role.Opened channel said ∨
      (∀ other, hands other ≠ some channel) ∧ role.Closed channel said)

structure Conversed (hands : Hands) (world : World) : Prop where
  numbered : world.Numbered
  known : ∀ component channel, hands component = some channel → channel ∈ world.handedOut
  silent : ∀ channel, channel ∉ world.handedOut → world.heardOn channel = []
  spoke : ∀ channel ∈ world.handedOut, world.Spoke hands channel

end World

theorem Program.Uses.handedOut_eq {α : Type} {program : Program α} {channel : Option ChannelId}
    (stays : program.Uses (Action.StaysOn channel)) (world : World) :
    (program.run world).2.handedOut = world.handedOut := by
  refine stays.run_eq World.handedOut (fun action stays world => ?_) world
  have none : Done.creation? ⟨action, (world.perform action).1⟩ = none := by
    cases action with
    | await call =>
        cases call with
        | createChannel connection => exact absurd rfl (stays.1 connection)
        | _ => rfl
    | _ => rfl
  rw [World.perform_handedOut, none]
  exact List.append_nil _

theorem createChannel_silent (connection : ConnectionId) (world : World) (channel : ChannelId) :
    ((attempt (.createChannel connection)).run.run world).2.heardOn channel =
      world.heardOn channel := by
  have silent : (attempt (.createChannel connection)).run.Uses (Action.SilentOn channel) :=
    uses_attempt (by rintro ⟨⟩) (by rintro ⟨⟩)
  exact silent.heardOn_eq (fun _ => id) world

theorem createChannel_handedOut (connection : ConnectionId) (world : World) :
    ((attempt (.createChannel connection)).run.run world).2.handedOut =
      world.handedOut ++
        ((attempt (.createChannel connection)).run.run world).1.toOption.toList := by
  let asked := (world.perform (.issue (.createChannel connection))).2
  have before : asked.handedOut = world.handedOut :=
    (world.perform_handedOut _).trans (List.append_nil _)
  change (asked.perform (.await (.createChannel connection))).2.handedOut = _ ++
    (asked.perform (.await (.createChannel connection))).1.toOption.toList
  rw [World.perform_handedOut, before]
  cases (asked.perform (.await (.createChannel connection))).1 <;> rfl

theorem Role.acquireOn_run (role : Role) (connection : ConnectionId) (world : World) :
    let made := (attempt (.createChannel connection)).run.run world
    (role.acquireOn connection).run.run world =
      match made.1 with
      | .error failure => (.error failure, made.2)
      | .ok channel => (role.equip channel).run.run made.2 := by
  unfold Role.acquireOn
  rw [run_attempt_bind, run_bind]
  generalize (attempt (.createChannel connection)).run.run world = made
  obtain ⟨reply, created⟩ := made
  cases reply <;> rfl

theorem World.Spoke.of_eq {hands later : Hands} {channel : ChannelId} {world after : World}
    (spoke : world.Spoke hands channel)
    (roles : ∀ component role, world.roleOf component = some role →
      after.roleOf component = some role)
    (heard : after.heardOn channel = world.heardOn channel)
    (same : ∀ component, later component = some channel ↔ hands component = some channel) :
    after.Spoke later channel := by
  obtain ⟨component, role, said, is, told, kept⟩ := spoke
  refine ⟨component, role, said, roles component role is, heard.trans told, ?_⟩
  simpa only [ne_eq, same] using kept

namespace World.Conversed

variable {hands later : Hands} {world after : World} {channel : ChannelId}

/-- A channel can be dealt with by itself: what is said on it concerns no other one. -/
theorem replace (conversed : world.Conversed hands) (numbered : after.Numbered)
    (roles : ∀ component role, world.roleOf component = some role →
      after.roleOf component = some role)
    (out : ∀ other, other ∈ after.handedOut ↔ other ∈ world.handedOut ∨ other = channel)
    (elsewhere : ∀ other, other ≠ channel → after.heardOn other = world.heardOn other)
    (same : ∀ component other, other ≠ channel →
      (later component = some other ↔ hands component = some other))
    (spoke : after.Spoke later channel) : after.Conversed later where
  numbered := numbered
  known := by
    intro component other has
    by_cases here : other = channel
    · exact (out other).mpr (.inr here)
    · exact (out other).mpr (.inl (conversed.known component other ((same _ _ here).mp has)))
  silent := by
    intro other absent
    obtain ⟨before, different⟩ := not_or.mp (mt (out other).mpr absent)
    exact (elsewhere other different).trans (conversed.silent other before)
  spoke := by
    intro other member
    by_cases here : other = channel
    · exact here ▸ spoke
    · have before := ((out other).mp member).resolve_right here
      exact (conversed.spoke other before).of_eq roles (elsewhere other here)
        fun component => same component other here

theorem keep (conversed : world.Conversed hands) (numbered : after.Numbered)
    (roles : ∀ component role, world.roleOf component = some role →
      after.roleOf component = some role)
    (out : after.handedOut = world.handedOut)
    (heard : ∀ channel, after.heardOn channel = world.heardOn channel) : after.Conversed hands where
  numbered := numbered
  known := fun component channel has => out ▸ conversed.known component channel has
  silent := fun channel absent => (heard channel).trans (conversed.silent channel (out ▸ absent))
  spoke := fun channel member =>
    (conversed.spoke channel (out ▸ member)).of_eq roles (heard channel) fun _ => Iff.rfl

variable {α : Type} {program : Program α}

theorem run (conversed : world.Conversed hands) (stays : program.Uses (Action.StaysOn none)) :
    (program.run world).2.Conversed hands :=
  conversed.keep (conversed.numbered.run program)
    (fun component _ is => (roleOf_run program world component).trans is)
    (stays.handedOut_eq world)
    fun channel => stays.heardOn_eq (fun _ stays => stays.2 channel nofun) world

theorem run_on (conversed : world.Conversed hands) (out : channel ∈ world.handedOut)
    (stays : program.Uses (Action.StaysOn (some channel)))
    (same : ∀ component other, other ≠ channel →
      (later component = some other ↔ hands component = some other))
    (spoke : (program.run world).2.Spoke later channel) :
    (program.run world).2.Conversed later := by
  refine conversed.replace (conversed.numbered.run program) ?_ ?_ ?_ same spoke
  · exact fun component _ is => (roleOf_run program world component).trans is
  · intro other
    rw [stays.handedOut_eq world]
    exact ⟨.inl, fun member => member.elim id fun same => same ▸ out⟩
  · intro other different
    refine stays.heardOn_eq (fun _ stays => stays.2 other ?_) world
    exact fun same => different (Option.some.inj same).symm

/-- What a component that has a channel said on it. -/
theorem opened (conversed : world.Conversed hands) {component : ComponentId} {role : Role}
    (is : world.roleOf component = some role) (has : hands component = some channel) :
    ∃ said, world.heardOn channel = said.flatMap Answered.events ∧ role.Opened channel said ∧
      ∀ other, hands other = some channel ↔ other = component := by
  obtain ⟨owner, ownerRole, said, ownerIs, heard, ⟨owns, opened⟩ | ⟨nobody, _⟩⟩ :=
    conversed.spoke channel (conversed.known component channel has)
  · obtain rfl : component = owner := (owns component).mp has
    cases is.symm.trans ownerIs
    exact ⟨said, heard, opened, owns⟩
  · exact absurd has (nobody component)

/-- A component that gives back its channel closes it. -/
theorem giveBack (conversed : world.Conversed hands) {component : ComponentId} {role : Role}
    (is : world.roleOf component = some role) {held : Held}
    (has : hands component = some held.channel) :
    (held.giveBack.run world).2.Conversed (Function.update hands component none) := by
  obtain ⟨said, heard, opened, owns⟩ := conversed.opened is has
  obtain ⟨reply, closed⟩ := (held.giveBack_hears (world.heardOn held.channel)).heard
  refine conversed.run_on (conversed.known component _ has) held.giveBack_staysOn ?_ ?_
  · intro other channel different
    by_cases here : other = component
    · subst here
      simp [has, different.symm]
    · simp [here]
  · refine ⟨component, role, said ++ [⟨.closeChannel held.channel, reply⟩], ?_, ?_, .inr ⟨?_, ?_⟩⟩
    · exact (roleOf_run held.giveBack world component).trans is
    · rw [closed, heard]
      simp
    · intro other
      by_cases here : other = component
      · simp [here]
      · simpa [here] using mt (owns other).mp here
    · exact ⟨said, reply, rfl, .inl opened⟩

/-- A new channel is set up for a component that has none, or it is closed. -/
theorem equip (conversed : world.Conversed hands) {component : ComponentId} {role : Role}
    (is : world.roleOf component = some role) (empty : hands component = none) {created : World}
    (numbered : created.Numbered)
    (roles : ∀ component, created.roleOf component = world.roleOf component)
    (out : created.handedOut = world.handedOut ++ [channel])
    (silent : ∀ other, created.heardOn other = world.heardOn other) :
    ((role.equip channel).run.run created).2.Conversed
      (Function.update hands component
        (((role.equip channel).run.run created).1.toOption.map (·.channel))) := by
  -- No number is handed out twice, so nothing was said on the channel and nobody has it.
  have fresh : channel ∉ world.handedOut := fun already =>
    (List.nodup_append.mp (out ▸ numbered.nodup)).2.2 channel already channel
      (List.mem_singleton.mpr rfl) rfl
  have unheld : ∀ other, hands other ≠ some channel := fun other has =>
    fresh (conversed.known other channel has)
  have stays := role.equip_staysOn channel
  have elsewhere : ∀ other, other ≠ channel →
      ((role.equip channel).run.run created).2.heardOn other = world.heardOn other := by
    intro other different
    refine (stays.heardOn_eq (fun _ stays => stays.2 other ?_) created).trans (silent other)
    exact fun same => different (Option.some.inj same).symm
  obtain ⟨said, heard, spoken⟩ := (role.equip_hears channel (created.heardOn channel)).heard
  rw [silent channel, conversed.silent channel fresh, List.nil_append] at heard
  have handedOut := (stays.handedOut_eq created).trans out
  have numbered := numbered.run (role.equip channel).run
  have kept := fun other =>
    (roleOf_run (role.equip channel).run created other).trans (roles other)
  have about := @Role.equip_channel role channel created
  generalize (role.equip channel).run.run created = equipped at *
  obtain ⟨outcome, after⟩ := equipped
  have more : ∀ other, other ∈ after.handedOut ↔ other ∈ world.handedOut ∨ other = channel := by
    simp [handedOut]
  refine conversed.replace numbered (fun other _ is => (kept other).trans is) more elsewhere
    (fun other another different => ?_)
    ⟨component, role, said, (kept component).trans is, heard, ?_⟩
  · by_cases here : other = component
    · cases outcome with
      | error failure => simp [here, empty, Except.toOption]
      | ok held => simp [here, empty, Except.toOption, about rfl, different.symm]
    · simp [here]
  · cases outcome with
    | error failure =>
        refine .inr ⟨fun other => ?_, spoken⟩
        by_cases here : other = component
        · simp [here, Except.toOption]
        · simpa [here] using unheld other
    | ok held =>
        refine .inl ⟨fun other => ?_, spoken⟩
        by_cases here : other = component
        · simp [here, Except.toOption, about rfl]
        · simpa [here] using unheld other

/-- A component without a channel gets one that it set up, or none; no other is left open. -/
theorem acquire (conversed : world.Conversed hands) {component : ComponentId} {role : Role}
    (is : world.roleOf component = some role) (empty : hands component = none) :
    (role.acquire.run.run world).2.Conversed
      (Function.update hands component
        ((role.acquire.run.run world).1.toOption.map (·.channel))) := by
  have idle : Function.update hands component none = hands := by
    rw [← empty, Function.update_eq_self]
  rw [role.acquire_run]
  cases world.handle with
  | none =>
      change world.Conversed (Function.update hands component none)
      rwa [idle]
  | some connection =>
      have silent := createChannel_silent connection world
      have numbered := conversed.numbered.run (attempt (.createChannel connection)).run
      have out := createChannel_handedOut connection world
      have roles := roleOf_run (attempt (.createChannel connection)).run world
      dsimp only
      rw [role.acquireOn_run]
      generalize (attempt (.createChannel connection)).run.run world = made at *
      obtain ⟨reply, created⟩ := made
      cases reply with
      | error failure =>
          change created.Conversed (Function.update hands component none)
          rw [idle]
          refine conversed.keep numbered (fun other _ is => (roles other).trans is) ?_ silent
          exact out.trans (List.append_nil _)
      | ok channel => exact conversed.equip is empty numbered roles out silent

end World.Conversed

end AmqpEndpoints
