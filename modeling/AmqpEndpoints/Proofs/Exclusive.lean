import Mathlib.Algebra.BigOperators.Group.Finset.Piecewise
import AmqpEndpoints.Proofs.ChannelProtocol
import AmqpEndpoints.Proofs.Ownership
import AmqpEndpoints.Proofs.Publications
import AmqpEndpoints.Proofs.Serial

/-!
# A producer and its channel

Starts, stops and publications of one producer, in any interleaving. Each of them is done under the
lock of the producer from its first action to its last, so at every moment the world is one that a
single call leads to on its way, from a world where all channels are in order.
-/

set_option autoImplicit false

namespace AmqpEndpoints

open Program

inductive ProducerCall where
  | start
  | stop
  | produce (publication : Publication)

def ProducerCall.program (component : ComponentId) (settings : ProducerSettings) :
    ProducerCall → Program (Except Failure Unit)
  | start => Component.start component (.producer settings)
  | stop => do
    Component.stop component
    return .ok ()
  | produce publication => do
    let told ← Producer.produce component settings publication.context publication.message
    return told.1

variable {component : ComponentId} {settings : ProducerSettings}

/-!
## One call at a time
-/

/-- Work under the lock of a component while nothing else is done. -/
def alone (component : ComponentId) : Exclusion (.component component) where
  view := id
  inner := (Mutex.component component).Quiet
  aside _ := false
  inner_quiet _ quiet := ⟨quiet, rfl⟩
  aside_quiet _ aside := nomatch aside
  determined action _ first second same := by
    cases same
    exact ⟨rfl, rfl⟩
  invisible _ aside := nomatch aside
  commutes _ aside := nomatch aside

theorem alone_shows {α : Type} (pool : Pool α) : pool.shown (alone component) = pool.trace :=
  List.filter_eq_self.mpr fun _ _ => rfl

theorem Action.OfChannels.quiet {action : Action} (about : action.OfChannels) :
    (Mutex.component component).Quiet action := by
  constructor <;> rintro rfl <;> exact about.elim

namespace ProducerCall

theorem stages (call : ProducerCall) :
    (call.program component settings).Follows (alone component).stages .outside
      fun _ later => later = .done := by
  have stays := fun {α : Type} {program : Program α}
      (uses : program.Uses (Mutex.component component).Quiet) =>
    uses.follows fun _ quiet => (alone component).inner_stays quiet
  have frees : (alone component).stages.after .working (.unlock component) () = .done :=
    if_pos (Mutex.frees_iff.mpr rfl)
  have empties : (Component.empty component).Follows (alone component).stages .outside
      fun _ later => later = .working := by
    refine ⟨rfl, fun _ _ => ⟨⟨⟨nofun, nofun⟩, rfl⟩, fun held _ => ?_⟩⟩
    exact stays ((uses_giveBack held).mono fun _ about => about.ofChannels.quiet)
  cases call with
  | start =>
      unfold program
      rw [Component.start_eq]
      refine empties.bind fun _ => ?_
      have acquires : (Role.producer settings).acquire.run.Uses (Mutex.component component).Quiet :=
        (Role.uses_acquire _).mono fun _ about => about.quiet
      refine (stays acquires).bind fun acquired => ?_
      cases acquired with
      | error failure => exact ⟨.inr rfl, fun _ _ => frees⟩
      | ok held => exact ⟨.inl ⟨nofun, nofun⟩, fun _ _ => ⟨.inr rfl, fun _ _ => frees⟩⟩
  | stop =>
      unfold program
      rw [Component.stop_eq]
      exact follows_bind.mpr (empties.bind fun _ => ⟨.inr rfl, fun _ _ => frees⟩)
  | produce publication =>
      refine follows_bind.mpr (follows_bind.mpr ⟨rfl, fun _ _ => ⟨⟨⟨nofun, nofun⟩, rfl⟩, ?_⟩⟩)
      rintro (_ | held) _
      · exact ⟨.inr rfl, fun _ _ => frees⟩
      · have speaks : (Producer.publishOn settings held.channel publication.context
            publication.message).run.Uses (Mutex.component component).Quiet :=
          (Producer.uses_publishOn ..).mono fun _ equips => equips.ofChannels.quiet
        change (do
          let outcome ← (Producer.publishOn settings held.channel publication.context
            publication.message).run
          act (.unlock component)
          return outcome : Program (Except Failure Unit)).Follows _ Stage.working _
        refine (stays speaks).bind fun _ => ?_
        exact ⟨.inr rfl, fun _ _ => frees⟩

end ProducerCall

structure World.InOrder (component : ComponentId) (settings : ProducerSettings) (world : World) :
    Prop where
  orderly : world.Orderly
  plays : world.roleOf component = some (.producer settings)

theorem ProducerCall.inOrder {world : World} (inOrder : world.InOrder component settings)
    (call : ProducerCall) :
    ((call.program component settings).run world).2.InOrder component settings where
  orderly := by
    cases call with
    | start => exact inOrder.orderly.start inOrder.plays
    | stop =>
        unfold program
        rw [run_bind]
        exact inOrder.orderly.stop inOrder.plays
    | produce publication =>
        unfold program
        rw [run_bind]
        exact inOrder.orderly.produce inOrder.plays publication
  plays := (World.roleOf_run _ world component).trans inOrder.plays

/-!
## Turns
-/

namespace ProducerCall

variable (component settings) in
def job (call : ProducerCall) : Job (Except Failure Unit) :=
  .turn (call.program component settings) pure

theorem job_program (call : ProducerCall) :
    (call.job component settings).program = call.program component settings :=
  bind_pure _

theorem job_fits (call : ProducerCall) : (call.job component settings).Fits (alone component) :=
  ⟨call.stages, uses_pure⟩

end ProducerCall

theorem turn_works {calls : List ProducerCall} {turn : Turn (Except Failure Unit)}
    (own : ∃ tail, (calls.map (·.job component settings))[turn.task]? =
      some (.turn turn.work tail)) :
    ∃ call, calls[turn.task]? = some call ∧ turn.work = call.program component settings := by
  obtain ⟨tail, listed⟩ := own
  rw [List.getElem?_map] at listed
  obtain ⟨call, asked, is⟩ := Option.map_eq_some_iff.mp listed
  exact ⟨call, asked, (Job.turn.inj is).1.symm⟩

/-!
## One open channel
-/

/-- Whether a channel was handed out and closing it was not answered yet, and no other component
has it. -/
def World.OpenFor (world : World) (component : ComponentId) (channel : ChannelId) : Prop :=
  channel ∈ world.handedOut ∧
    (∀ reply, .returned (.closeChannel channel) reply ∉ world.broker.log) ∧
    ∀ other, other ≠ component → ¬world.Holds other channel

/-- What a program has to do with the channel of a component. -/
inductive Grip where
  /-- The component holds it. -/
  | untouched
  /-- It is the only channel that can be open for the component. -/
  | on (channel : Option ChannelId)

/-- How the channel of a component is dealt with: it is taken out, and it is closed before there is
another one. -/
def gripping (component : ComponentId) : Discipline Grip where
  allows
    | .untouched, .takeHeld owner => owner = component
    | .untouched, .await (.createChannel _) => False
    | .untouched, .hold .. => False
    | .on current, .await (.createChannel _) => current = none
    | .on current, .await (.closeChannel channel) => current = some channel
    | .on _, .takeHeld _ => False
    | .on _, .hold owner _ => owner = component
    | _, _ => True
  after
    | .untouched, .takeHeld _, taken => .on (taken.map (·.channel))
    | .on _, .await (.createChannel _), .ok channel => .on (some channel)
    | .on _, .await (.closeChannel _), _ => .on none
    | phase, _, _ => phase

def Gripped (component : ComponentId) : Grip → World → Prop
  | .untouched, world => ∀ channel, world.OpenFor component channel → world.Holds component channel
  | .on current, world => ∀ channel, world.OpenFor component channel → current = some channel

def Action.movesHeld (owner : ComponentId) : Action → Prop
  | takeHeld changed => changed = owner
  | hold changed _ => changed = owner
  | _ => False

theorem World.holds_perform {world : World} {action : Action} {owner : ComponentId}
    {channel : ChannelId} (still : ¬action.movesHeld owner) :
    (world.perform action).2.Holds owner channel ↔ world.Holds owner channel := by
  unfold Holds
  rw [heldBy_perform]
  cases action with
  | takeHeld changed | hold changed =>
      have different : changed ≠ owner := still
      simp [different]
  | _ => exact Iff.rfl

theorem World.OpenFor.before {world : World} {action : Action} {channel : ChannelId}
    (opened : (world.perform action).2.OpenFor component channel)
    (own : ∀ other, other ≠ component → ¬action.movesHeld other) :
    (∃ connection,
        Done.creation? ⟨action, (world.perform action).1⟩ = some (connection, channel)) ∨
      world.OpenFor component channel := by
  obtain ⟨out, unanswered, nobody⟩ := opened
  rw [World.perform_handedOut, List.mem_append] at out
  rcases out with old | new
  · refine .inr ⟨old, fun reply member => unanswered reply ?_, fun other different holds => ?_⟩
    · rw [World.perform_log]
      exact List.mem_append_left _ member
    · exact nobody other different ((World.holds_perform (own other different)).mpr holds)
  · obtain ⟨⟨connection, _⟩, created, rfl⟩ := Option.map_eq_some_iff.mp (Option.mem_toList.mp new)
    exact .inl ⟨connection, created⟩

theorem Gripped.perform {world : World} {action : Action} {phase : Grip}
    (gripped : Gripped component phase world) (allowed : (gripping component).allows phase action) :
    Gripped component ((gripping component).after phase action (world.perform action).1)
      (world.perform action).2 := by
  have own : ∀ other, other ≠ component → ¬action.movesHeld other := by
    rintro other different moves
    cases action with
    | takeHeld owner =>
        cases phase with
        | untouched => exact different (moves.symm.trans allowed)
        | on current => exact allowed
    | hold owner held =>
        cases phase with
        | untouched => exact allowed
        | on current => exact different (moves.symm.trans allowed)
    | _ => exact moves
  have before := fun channel (opened : (world.perform action).2.OpenFor component channel) =>
    opened.before own
  -- Short of a creation, which is allowed only where nothing is open, all that is open was before.
  cases phase with
  | untouched =>
      cases action with
      | takeHeld owner =>
          obtain rfl : owner = component := allowed
          exact fun channel opened => gripped channel ((before channel opened).resolve_left nofun)
      | hold => exact allowed.elim
      | await call =>
          cases call with
          | createChannel => exact allowed.elim
          | _ =>
              refine fun channel opened => (World.holds_perform id).mpr (gripped channel ?_)
              exact (before channel opened).resolve_left nofun
      | _ =>
          refine fun channel opened => (World.holds_perform id).mpr (gripped channel ?_)
          exact (before channel opened).resolve_left nofun
  | on current =>
      cases action with
      | takeHeld => exact allowed.elim
      | await call =>
          cases call with
          | createChannel connection =>
              obtain rfl : current = none := allowed
              cases replied : (world.perform (.await (.createChannel connection))).1 with
              | error failure =>
                  rw [replied] at before
                  exact fun channel opened =>
                    gripped channel ((before channel opened).resolve_left nofun)
              | ok created =>
                  rw [replied] at before
                  refine fun channel opened => ?_
                  obtain ⟨_, same⟩ | already := before channel opened
                  · cases same
                    rfl
                  · cases gripped channel already
          | closeChannel closed =>
              obtain rfl : current = some closed := allowed
              refine fun channel opened => ?_
              cases gripped channel ((before channel opened).resolve_left nofun)
              refine absurd ?_ (opened.2.1 (world.perform (.await (.closeChannel closed))).1)
              rw [World.perform_log]
              exact List.mem_append_right _ (List.mem_singleton.mpr rfl)
          | _ => exact fun channel opened =>
              gripped channel ((before channel opened).resolve_left nofun)
      | _ => exact fun channel opened =>
          gripped channel ((before channel opened).resolve_left nofun)

theorem closeChannel_grips (channel : ChannelId) :
    (closeChannel channel).Follows (gripping component) (.on (some channel)) fun _ later =>
      later = .on none :=
  ⟨trivial, fun _ _ => ⟨rfl, fun _ _ => rfl⟩⟩

theorem giveBack_grips (held : Option Held) :
    (giveBack held).Follows (gripping component) (.on (held.map (·.channel))) fun _ later =>
      later = .on none := by
  cases held with
  | none => exact rfl
  | some held =>
      change held.giveBack.Follows _ (Grip.on (some held.channel)) _
      unfold Held.giveBack
      cases held.stream with
      | none => exact closeChannel_grips held.channel
      | some stream => exact ⟨trivial, fun _ _ => closeChannel_grips held.channel⟩

theorem Role.acquire_grips (role : Role) :
    role.acquire.run.Follows (gripping component) (.on none) fun _ later =>
      ∃ current, later = .on current := by
  refine follows_attempt_bind.mpr (follows_attempt_bind.mpr ⟨trivial, fun handle _ => ?_⟩)
  cases handle with
  | none => exact ⟨_, rfl⟩
  | some connection =>
      refine follows_attempt_bind.mpr ⟨trivial, fun _ _ => ⟨rfl, fun created _ => ?_⟩⟩
      cases created with
      | error failure => exact ⟨_, rfl⟩
      | ok channel =>
          change (tryCatch (role.setUp channel) _ : Attempt Held).run.Follows _
            (Grip.on (some channel)) _
          rw [ExceptT.run_tryCatch]
          have stays : ∀ action : Action, action.Equips channel →
              (gripping component).allows (.on (some channel)) action ∧
                ∀ reply, (gripping component).after (.on (some channel)) action reply =
                  .on (some channel) := by
            intro action equips
            cases action with
            | await call =>
                obtain ⟨about, notClosing⟩ := equips
                cases call with
                | createChannel => cases about
                | closeChannel closed =>
                    exact absurd (congrArg Call.closeChannel (Option.some.inj about)) notClosing
                | _ => exact ⟨trivial, fun _ => rfl⟩
            | takeHeld | hold => exact equips.elim
            | _ => exact ⟨trivial, fun _ => rfl⟩
          refine follows_bind.mpr
            ((role.setUp_follows channel stays).imp fun outcome later ended => ?_)
          obtain ⟨rfl, _⟩ := ended
          cases outcome with
          | ok held => exact ⟨_, rfl⟩
          | error failure => exact ⟨trivial, fun _ _ => ⟨rfl, fun _ _ => ⟨_, rfl⟩⟩⟩

theorem ProducerCall.grips (call : ProducerCall) :
    (call.program component settings).Follows (gripping component) .untouched
      fun _ _ => True := by
  have empties : (Component.empty component).Follows (gripping component) .untouched
      fun _ later => later = .on none := by
    refine ⟨trivial, fun _ _ => ⟨rfl, fun held _ => giveBack_grips held⟩⟩
  cases call with
  | start =>
      unfold program
      rw [Component.start_eq]
      refine empties.bind fun _ => ?_
      refine follows_bind.mpr ((Role.acquire_grips _).imp fun acquired phase same => ?_)
      obtain ⟨current, rfl⟩ := same
      cases acquired with
      | error failure => exact ⟨trivial, fun _ _ => trivial⟩
      | ok held => exact ⟨rfl, fun _ _ => ⟨trivial, fun _ _ => trivial⟩⟩
  | stop =>
      unfold program
      rw [Component.stop_eq]
      exact follows_bind.mpr (empties.bind fun _ => ⟨trivial, fun _ _ => trivial⟩)
  | produce publication =>
      refine follows_bind.mpr (((Producer.uses_produce component settings publication.context
        publication.message).follows fun action publishes => ?_).imp fun _ _ _ => trivial)
      cases action with
      | await call =>
          obtain ⟨channel, about, _⟩ := publishes
          cases call with
          | createChannel => cases about
          | _ => exact ⟨trivial, fun _ => rfl⟩
      | takeHeld | hold =>
          obtain ⟨channel, equips⟩ := publishes
          exact equips.elim
      | _ => exact ⟨trivial, fun _ => rfl⟩

theorem Gripped.unique {world : World} {phase : Grip} {first second : ChannelId}
    (gripped : Gripped component phase world) (one : world.OpenFor component first)
    (other : world.OpenFor component second) : first = second := by
  cases phase with
  | untouched => exact Option.some.inj ((gripped first one).symm.trans (gripped second other))
  | on current => exact Option.some.inj ((gripped first one).symm.trans (gripped second other))

/-- Where channels are in order, one that is open for a component is what it holds. -/
theorem World.Orderly.gripped {world : World} (orderly : world.Orderly) :
    Gripped component .untouched world := by
  intro channel opened
  obtain ⟨out, unanswered, nobody⟩ := opened
  obtain ⟨owner, _, said, _, heard, ⟨owns, _⟩ | ⟨_, earlier, reply, rfl, _⟩⟩ :=
    orderly.spoke channel out
  · have holds : world.Holds owner channel := (owns owner).mpr rfl
    obtain rfl : owner = component := by
      by_contra different
      exact nobody owner different holds
    exact holds
  · have answered : .returned (.closeChannel channel) reply ∈ world.heardOn channel := by
      rw [heard]
      simp [Answered.events]
    exact absurd (List.mem_filter.mp answered).1 (unanswered reply)

/-!
## Conversations that go on
-/

theorem Role.close_not_mem_plan (role : Role) (tag : String) (channel closed : ChannelId) :
    .call (.closeChannel closed) ∉ role.plan channel tag := by
  intro member
  cases setsUp_of_mem_plan member

theorem Producer.close_not_mem_publicationPlan (settings : ProducerSettings)
    (channel closed : ChannelId) (publication : Publication) :
    .call (.closeChannel closed) ∉ publicationPlan settings channel publication := by
  have issues : ∀ queue, .call (.closeChannel closed) ∉
      issuePlan settings channel publication queue := by
    intro queue
    unfold issuePlan
    split <;> simp
  unfold publicationPlan
  split
  · split
    · simp
    · simpa using issues _
  · exact issues _

theorem Role.Opened.closes_not {role : Role} {channel : ChannelId} {said : List Answered}
    (opened : role.Opened channel said) (closed : ChannelId) :
    ∀ answered ∈ said, answered.call ≠ .closeChannel closed := by
  obtain ⟨tag, first, groups, prepared, spoken, rfl⟩ := opened
  intro answered member same
  rcases List.mem_append.mp member with earlier | later
  · exact role.close_not_mem_plan tag channel closed (same ▸ prepared.mem_plan answered earlier)
  · obtain ⟨group, listed, inside⟩ := List.mem_flatten.mp later
    cases role with
    | producer settings =>
        obtain ⟨publication, whole, conducted⟩ := spoken group listed
        exact Producer.close_not_mem_publicationPlan settings channel closed publication
          (same ▸ conducted.mem_plan answered inside)
    | consumer reader => exact spoken group listed

/-- Nothing but closing it is the last that is said on a channel. -/
theorem World.Orderly.converses {world : World} (orderly : world.Orderly) (channel : ChannelId) :
    ∃ said : List Answered, world.heardOn channel = said.flatMap Answered.events ∧
      ∀ answered ∈ said.dropLast, answered.call ≠ .closeChannel channel := by
  by_cases out : channel ∈ world.handedOut
  · obtain ⟨_, role, said, _, heard, ⟨_, opened⟩ | ⟨_, earlier, reply, rfl, ended⟩⟩ :=
      orderly.spoke channel out
    · exact ⟨said, heard, fun answered member =>
        opened.closes_not channel answered (List.dropLast_subset _ member)⟩
    · refine ⟨_, heard, ?_⟩
      rw [List.dropLast_concat]
      obtain opened | ⟨tag, stopped⟩ := ended
      · exact opened.closes_not channel
      · exact fun answered member same =>
          role.close_not_mem_plan tag channel channel (same ▸ stopped.mem_plan answered member)
  · exact ⟨[], orderly.silent channel out, List.forall_mem_nil _⟩

theorem Answered.last_call {request : Call} {said : List Answered}
    (last : ∀ answered ∈ said.dropLast, answered.call ≠ request) {before after : List Event}
    (split : said.flatMap events = before ++ .called request :: after) (call : Call) :
    .called call ∉ after := by
  induction said generalizing before with
  | nil => simp at split
  | cons answered rest ih =>
      rw [List.flatMap_cons] at split
      match before with
      | [] =>
          obtain ⟨asked, rfl⟩ := List.cons.inj split
          cases rest with
          | nil => simp
          | cons next rest => exact absurd (Event.called.inj asked) (last answered (by simp))
      | [_] => cases (List.cons.inj (List.cons.inj split).2).1
      | _ :: _ :: before =>
          refine ih (fun other member => last other ?_) (List.cons.inj (List.cons.inj split).2).2
          cases rest with
          | nil => cases member
          | cons next rest => exact List.mem_cons_of_mem _ member

section

variable {origin : World} (inOrder : origin.InOrder component settings)
  (happenings : List (Happening ProducerCall))

include inOrder

theorem producer_turns :
    ∃ turns, Serial (alone component) ((Happening.demands happenings).map (·.job component settings))
      origin turns (Pool.after (ProducerCall.program component settings) origin happenings) := by
  have programs : (fun call => (ProducerCall.job component settings call).program) =
      ProducerCall.program component settings := funext fun call => call.job_program
  obtain ⟨turns, serial, _⟩ := Pool.after_serial (alone component)
    (fun call => call.job_fits) origin (World.lt_of_roleOf inOrder.plays) happenings
  rw [programs] at serial
  exact ⟨turns, serial⟩

/-- At every moment one call is on its way, from a world where all is in order. -/
theorem producer_underway :
    ∃ found call entries rest, found.InOrder component settings ∧
      (ProducerCall.program component settings call).Advances found entries rest
        (Pool.after (ProducerCall.program component settings) origin happenings).world := by
  obtain ⟨turns, serial⟩ := producer_turns inOrder happenings
  obtain ⟨_, rests⟩ := serial.rests
  have works := fun turn member => turn_works (rests.own turn member)
  have keeps : ∀ turn ∈ turns, turn.found.InOrder component settings →
      turn.left.InOrder component settings := by
    intro turn member begins
    obtain ⟨call, _, work⟩ := works turn member
    unfold Turn.left
    rw [work]
    exact call.inOrder begins
  obtain idle | ⟨earlier, turn, entries, rfl, atWork⟩ := serial
  · have here : (Pool.after (ProducerCall.program component settings) origin happenings).world =
        Turn.ended origin turns := idle.viewed
    rw [here]
    exact ⟨_, .stop, [], _, (idle.chained.all inOrder keeps).2, .refl _ _⟩
  · have last : turn ∈ earlier ++ [turn] := List.mem_append_right _ (List.mem_singleton.mpr rfl)
    obtain ⟨call, _, work⟩ := works turn last
    obtain ⟨_, rest, solo, _, _, advances, same, _⟩ := atWork.underway
    obtain rfl : solo = _ := same
    exact ⟨turn.found, call, entries, rest, (atWork.chained.all inOrder keeps).1 turn last,
      work ▸ advances⟩

/-- What was heard is what is heard in a world where all is in order, or the beginning of it. -/
theorem producer_ahead :
    ∃ later : World, later.InOrder component settings ∧
      (Pool.after (ProducerCall.program component settings) origin happenings).world.broker.log <+:
        later.broker.log := by
  obtain ⟨found, call, entries, rest, begins, advances⟩ := producer_underway inOrder happenings
  refine ⟨_, call.inOrder begins, ?_⟩
  rw [advances.run_eq, run_log]
  exact List.prefix_append ..

theorem producer_opens_one {first second : ChannelId}
    (one : (Pool.after (ProducerCall.program component settings) origin
      happenings).world.OpenFor component first)
    (other : (Pool.after (ProducerCall.program component settings) origin
      happenings).world.OpenFor component second) : first = second := by
  obtain ⟨found, call, entries, rest, begins, advances⟩ := producer_underway inOrder happenings
  have gripped := advances.during call.grips (Gripped component)
    (fun _ _ _ allowed gripped => ⟨trivial, gripped.perform allowed⟩) begins.orderly.gripped
  exact gripped.unique one other

end

/-!
## Publications
-/

namespace ProducerCall

/-- Whether a call that did some actions got to publishing a message. -/
def passes (settings : ProducerSettings) (entries : List Done) : ProducerCall → Bool
  | produce publication => Producer.passes settings publication entries
  | _ => false

theorem produce_leaves {publication : Publication} {entries : List Done}
    {result : Except Failure Unit}
    (leaves : ((produce publication).program component settings).Leaves entries (.done result)) :
    ∃ told, (Producer.produce component settings publication.context publication.message).Leaves
      entries (.done told) := by
  obtain ⟨first, later, told, rfl, own, left⟩ := leaves_bind_iff.mp leaves
  obtain ⟨rfl, _⟩ := pure_leaves left
  exact ⟨told, (List.append_nil first).symm ▸ own⟩

theorem stop_publishes_not :
    (stop.program component settings).Uses (·.publishes = false) :=
  (Component.stop_publishes_not component).bind fun _ => uses_pure _

theorem publishes {call : ProducerCall} {entries : List Done} {result : Except Failure Unit}
    (leaves : (call.program component settings).Leaves entries (.done result)) :
    entries.countP (·.action.publishes) = (call.passes settings entries).toNat := by
  have none : (∀ entry ∈ entries, entry.action.publishes = false) →
      entries.countP (·.action.publishes) = 0 := fun silent =>
    List.countP_eq_zero.mpr fun entry member => by simp [silent entry member]
  cases call with
  | start => exact none (leaves.allowed (Component.start_publishes_not component settings))
  | stop => exact none (leaves.allowed stop_publishes_not)
  | produce publication =>
      obtain ⟨_, own⟩ := produce_leaves leaves
      exact Producer.produce_publishes own

theorem declares_first {call : ProducerCall} {entries : List Done} {result : Except Failure Unit}
    {declared used : ChannelId} {queue exchange name : String} {flags : QueueFlags}
    {payload : List UInt8} {properties : Option Properties} {before between after : List Done}
    (leaves : (call.program component settings).Leaves entries (.done result))
    (split : entries = before ++ ⟨.issue (.declareQueue declared queue flags), ()⟩ ::
      (between ++ ⟨.issue (.publish used exchange name payload properties), ()⟩ :: after)) :
    used = declared ∧ name = queue ∧
      between = [⟨.await (.declareQueue declared queue flags), .ok ()⟩] := by
  have spoken : (⟨.issue (.publish used exchange name payload properties), ()⟩ : Done) ∈ entries :=
    split ▸ List.mem_append_right _
      (List.mem_cons_of_mem _ (List.mem_append_right _ List.mem_cons_self))
  cases call with
  | start =>
      cases leaves.allowed (Component.start_publishes_not component settings) _ spoken
  | stop => cases leaves.allowed stop_publishes_not _ spoken
  | produce publication =>
      obtain ⟨_, own⟩ := produce_leaves leaves
      exact Producer.produce_declares_first own split

end ProducerCall

theorem Pool.countP_doneBy {α : Type} {pool : Pool α} {size : Nat}
    (known : ∀ entry ∈ pool.trace, entry.1 < size) (kind : Done → Bool) :
    pool.trace.countP (kind ·.2) = ∑ task ∈ Finset.range size, (pool.doneBy task).countP kind := by
  unfold doneBy
  generalize pool.trace = entries at known
  induction entries with
  | nil => simp
  | cons entry rest ih =>
      obtain ⟨first, others⟩ := List.forall_mem_cons.mp known
      have counted : ∀ task,
          ((entry :: rest).filterMap fun entry =>
            if entry.1 = task then some entry.2 else none).countP kind =
          (rest.filterMap fun entry => if entry.1 = task then some entry.2 else none).countP kind +
            if entry.1 = task then if kind entry.2 then 1 else 0 else 0 := by
        intro task
        rw [List.filterMap_cons]
        by_cases own : entry.1 = task <;> simp [own, List.countP_cons]
      simp only [counted, Finset.sum_add_distrib, Finset.sum_ite_eq, Finset.mem_range, first,
        ↓reduceIte]
      rw [List.countP_cons, ih others]

section

variable {origin : World} {happenings : List (Happening ProducerCall)}

theorem producer_declares_first (inOrder : origin.InOrder component settings) {task : TaskId}
    {declared used : ChannelId} {queue exchange name : String} {flags : QueueFlags}
    {payload : List UInt8} {properties : Option Properties}
    {before between after : List (TaskId × Done)}
    (split : (Pool.after (ProducerCall.program component settings) origin happenings).trace =
      before ++ (task, ⟨.issue (.declareQueue declared queue flags), ()⟩) ::
        (between ++ (task, ⟨.issue (.publish used exchange name payload properties), ()⟩) ::
          after)) :
    used = declared ∧ name = queue ∧
      between = [(task, ⟨.await (.declareQueue declared queue flags), .ok ()⟩)] := by
  obtain ⟨turns, serial⟩ := producer_turns inOrder happenings
  obtain ⟨_, rests⟩ := serial.rests
  obtain ⟨more, whole⟩ := serial.shown_prefix
  rw [alone_shows, split] at whole
  simp only [List.append_assoc, List.cons_append] at whole
  unfold Turn.block at whole
  obtain ⟨turn, member, rfl, earlier, middle, later, parts, rfl⟩ :=
    between_of_blocks (fun turn => turn.work.trace turn.found) rests.distinct whole.symm
  obtain ⟨call, _, work⟩ := turn_works (rests.own turn member)
  have leaves := leaves_trace turn.work turn.found
  rw [work] at leaves parts
  obtain ⟨same, named, rfl⟩ := ProducerCall.declares_first leaves parts
  exact ⟨same, named, rfl⟩

theorem producer_publishes_once (task : TaskId) :
    ((Pool.after (ProducerCall.program component settings) origin happenings).doneBy
      task).countP (·.action.publishes) ≤ 1 := by
  cases done : (Pool.after (ProducerCall.program component settings) origin happenings).doneBy
      task with
  | nil => exact Nat.zero_le 1
  | cons entry others =>
      obtain ⟨call, asked⟩ := Pool.after_asked (ProducerCall.program component settings) origin
        (done ▸ List.mem_cons_self : entry ∈ (Pool.after _ origin happenings).doneBy task)
      obtain ⟨_, _, leaves⟩ :=
        Pool.after_leaves (ProducerCall.program component settings) origin asked
      have counted := ProducerCall.publishes (leaves.append (leaves_trace _ origin))
      rw [List.countP_append, done] at counted
      exact (Nat.le_add_right ..).trans (counted.trans_le (Bool.toNat_le _))

/-- Where all calls have ended, as many messages were published as calls got to that. -/
theorem producer_publishes_all
    (finished : (Pool.after (ProducerCall.program component settings) origin happenings).Finished) :
    (Pool.after (ProducerCall.program component settings) origin happenings).trace.countP
        (·.2.action.publishes) =
      ((Finset.range (Happening.demands happenings).length).filter fun task =>
        ((Happening.demands happenings)[task]?).any (·.passes settings
          ((Pool.after (ProducerCall.program component settings) origin happenings).doneBy
            task))).card := by
  have executes := Pool.after_executes (ProducerCall.program component settings) origin happenings
  have known := executes.known
  rw [List.length_map] at known
  rw [Pool.countP_doneBy known (·.action.publishes), Finset.card_filter]
  refine Finset.sum_congr rfl fun task member => ?_
  obtain ⟨call, listed⟩ : ∃ call, (Happening.demands happenings)[task]? = some call :=
    ⟨_, List.getElem?_eq_getElem (Finset.mem_range.mp member)⟩
  have asked : ((Happening.demands happenings).map
      (ProducerCall.program component settings))[task]? =
        some (call.program component settings) := by
    rw [List.getElem?_map, listed]
    rfl
  obtain ⟨result, _, leaves⟩ := executes.ended finished asked
  rw [ProducerCall.publishes leaves, listed, Option.any_some]
  cases call.passes settings _ <;> rfl

end

/-- Any starts, stops and publications of a producer at once, in any interleaving, after any
commands and whatever fails. On each channel a call is answered before the next is made, and nothing
is called there once closing it was. At most one channel is open for the producer. Where a task
declares a queue and publishes, it publishes to that queue, on that channel, and nothing else is done
by anybody once the declaration was made but for taking its answer. A task publishes at most once;
when all have ended, as many messages were published as tasks got past resolving and declaring their
queue and making their properties. -/
theorem producer_alone_on_channel (name : String) (endpoint : Except Failure Unit)
    (commands : List Command) (component : ComponentId) (settings : ProducerSettings)
    (plays : ((Session.create name endpoint).after commands).world.roleOf component =
      some (.producer settings))
    (happenings : List (Happening ProducerCall)) :
    let calls := Happening.demands happenings
    let pool := Pool.after (ProducerCall.program component settings)
      ((Session.create name endpoint).after commands).world happenings
    (∀ channel, ∃ said : List Answered,
      pool.world.heardOn channel <+: said.flatMap Answered.events) ∧
    (∀ channel before after,
      pool.world.heardOn channel = before ++ .called (.closeChannel channel) :: after →
        ∀ call, .called call ∉ after) ∧
    (∀ first second, pool.world.OpenFor component first → pool.world.OpenFor component second →
      first = second) ∧
    (∀ task declared used queue destination exchange flags payload properties before between after,
      pool.trace =
          before ++ (task, ⟨.issue (.declareQueue declared queue flags), ()⟩) ::
            (between ++
              (task, ⟨.issue (.publish used exchange destination payload properties), ()⟩) ::
                after) →
        used = declared ∧ destination = queue ∧
          between = [(task, ⟨.await (.declareQueue declared queue flags), .ok ()⟩)]) ∧
    (∀ task, (pool.doneBy task).countP (·.action.publishes) ≤ 1) ∧
    (pool.Finished →
      pool.trace.countP (·.2.action.publishes) =
        ((Finset.range calls.length).filter fun task =>
          calls[task]?.any (·.passes settings (pool.doneBy task))).card) := by
  intro calls pool
  have inOrder : ((Session.create name endpoint).after commands).world.InOrder component settings :=
    ⟨Session.after_orderly name endpoint commands, plays⟩
  obtain ⟨later, stays, ahead⟩ := producer_ahead inOrder happenings
  have heard : ∀ channel, pool.world.heardOn channel <+: later.heardOn channel :=
    fun channel => ahead.filter _
  refine ⟨fun channel => ?_, fun channel before after split call => ?_, fun first second =>
    producer_opens_one inOrder happenings, fun _ _ _ _ _ _ _ _ _ _ _ _ =>
    producer_declares_first inOrder, producer_publishes_once, producer_publishes_all⟩
  · obtain ⟨said, same, _⟩ := stays.orderly.converses channel
    exact ⟨said, same ▸ heard channel⟩
  · obtain ⟨said, same, last⟩ := stays.orderly.converses channel
    obtain ⟨more, whole⟩ := heard channel
    rw [split, same, List.append_assoc] at whole
    exact fun member => Answered.last_call last whole.symm call (List.mem_append_left more member)

/-- Two messages at once while the producer is started anew; the second has no queue to go to. -/
theorem outbox_published_once :
    let session := (Session.create "host" (.ok ())).after
      [.init, .producer "outbox" { queue := "%message{to}" }, .start "outbox"]
    let calls : List ProducerCall :=
      [.produce ⟨⟨[1], .ofList [("to", "work")]⟩, []⟩, .start, .produce ⟨⟨[2], .ofList []⟩, []⟩]
    let happenings := calls.map Happening.ask ++
      (List.replicate 20 [Happening.advance 0, .advance 1, .advance 2]).flatten
    let pool := Pool.after (ProducerCall.program 0 { queue := "%message{to}" }) session.world
      happenings
    pool.Finished ∧ pool.trace.countP (·.2.action.publishes) = 1 ∧
      pool.trace.countP (·.2.action.publishes) = ((Finset.range 3).filter fun task =>
        calls[task]?.any (·.passes { queue := "%message{to}" } (pool.doneBy task))).card := by
  intro session calls happenings pool
  have plays : session.world.roleOf 0 = some (.producer { queue := "%message{to}" }) := by
    with_unfolding_all rfl
  have finished : pool.Finished := by decide +kernel
  obtain ⟨_, _, _, _, _, all⟩ := producer_alone_on_channel "host" (.ok ())
    [.init, .producer "outbox" { queue := "%message{to}" }, .start "outbox"] 0
    { queue := "%message{to}" } plays happenings
  exact ⟨finished, by decide +kernel, all finished⟩

end AmqpEndpoints
