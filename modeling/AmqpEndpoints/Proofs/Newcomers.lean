import AmqpEndpoints.Proofs.Attachments
import AmqpEndpoints.Proofs.ChannelProtocol
import AmqpEndpoints.Proofs.Openings
import AmqpEndpoints.Proofs.Recovery
import AmqpEndpoints.Proofs.Visitors

/-!
# Newcomers

A restart works on the components that were attached when it listed them. A component that is
attached and started at the same time ends up on the connection that the restart opens, if it was
attached before that or looked at the handle after the restart had renewed it. Otherwise it is left
on the connection that the restart closes.
-/

set_option autoImplicit false

namespace AmqpEndpoints

open Program

/-!
## Order
-/

/-- Whether something of one kind was done before something of another kind. -/
def precedes (first second : TaskId × Done → Bool) : List (TaskId × Done) → Bool
  | [] => false
  | entry :: rest => (first entry && rest.any second) || precedes first second rest

theorem precedes_snoc (first second : TaskId × Done → Bool) (trace : List (TaskId × Done))
    (entry : TaskId × Done) :
    precedes first second (trace ++ [entry]) =
      (precedes first second trace || (trace.any first && second entry)) := by
  induction trace with
  | nil => simp [precedes]
  | cons head rest ih =>
      simp only [List.cons_append, precedes, ih, List.any_append, List.any_cons, List.any_nil]
      cases first head <;> cases second entry <;> simp

def didBy (task : TaskId) (kind : Action → Bool) (entry : TaskId × Done) : Bool :=
  entry.1 == task && kind entry.2.action

namespace Action

def attaches (component : ComponentId) : Action → Bool
  | attach owner => owner == component
  | _ => false

def lists : Action → Bool
  | snapshot => true
  | _ => false

def renews : Action → Bool
  | replaceHandle _ => true
  | _ => false

def looks : Action → Bool
  | readHandle => true
  | _ => false

end Action

/-- Whether the second task attached a component before the first one listed what is attached. -/
def attachedInTime (component : ComponentId) (trace : List (TaskId × Done)) : Bool :=
  precedes (didBy 1 (Action.attaches component)) (didBy 0 Action.lists) trace

/-- Whether the second task looked at the handle after the first one had put a connection there. -/
def lookedLate (trace : List (TaskId × Done)) : Bool :=
  precedes (didBy 0 Action.renews) (didBy 1 Action.looks) trace

section

variable (component : ComponentId) (trace : List (TaskId × Done)) (entry : Done)

theorem attachedInTime_first :
    attachedInTime component (trace ++ [(0, entry)]) =
      (attachedInTime component trace ||
        (trace.any (didBy 1 (Action.attaches component)) && entry.action.lists)) :=
  precedes_snoc ..

theorem attachedInTime_second :
    attachedInTime component (trace ++ [(1, entry)]) = attachedInTime component trace := by
  simp [attachedInTime, precedes_snoc, didBy]

theorem lookedLate_first : lookedLate (trace ++ [(0, entry)]) = lookedLate trace := by
  simp [lookedLate, precedes_snoc, didBy]

theorem lookedLate_second :
    lookedLate (trace ++ [(1, entry)]) =
      (lookedLate trace || (trace.any (didBy 0 Action.renews) && entry.action.looks)) :=
  precedes_snoc ..

end

/-!
## The way of a restart
-/

def Leg.opened : Leg → Option ConnectionId
  | renewed _ connection => some connection
  | _ => none

def Closes (connection : ConnectionId) (trace : List (TaskId × Done)) : Prop :=
  (0, ⟨.issue (.closeConnection connection), ()⟩) ∈ trace

/-- What is in the handle, and what became of the connection that was there at first. -/
def Leg.Handled (origin world : World) (trace : List (TaskId × Done)) : Leg → Prop
  | early => world.handle = origin.handle
  | listed _ => world.handle = origin.handle
  | closing _ taken =>
    world.handle = none ∧ ∀ old ∈ origin.handle, taken = some old ∨ Closes old trace
  | connecting _ opened =>
    world.handle = none ∧ ∀ old ∈ origin.handle, old ≠ opened ∧ Closes old trace
  | renewed _ opened =>
    world.handle = some opened ∧ ∀ old ∈ origin.handle, old ≠ opened ∧ Closes old trace

/-- Whether the restart listed a component, as far as it came to that. -/
def Leg.Listed (component : ComponentId) (world : World) (trace : List (TaskId × Done)) :
    Leg → Prop
  | early =>
    (component ∈ world.attachments ↔ trace.any (didBy 1 (Action.attaches component)) = true) ∧
      attachedInTime component trace = false
  | leg => leg.found = attachedInTime component trace

theorem Action.Abides.handle_eq {action : Action} (abides : action.Abides) (world : World) :
    (world.perform action).2.handle = world.handle := by
  rw [World.perform_handle]
  cases action with
  | replaceHandle | takeHandle => exact abides.elim
  | _ => rfl

theorem Action.Abides.attachments_eq {action : Action} (abides : action.Abides) (world : World) :
    (world.perform action).2.attachments = world.attachments := by
  rw [World.perform_attachments]
  cases action with
  | attach | snapshot => exact abides.elim
  | _ => rfl

theorem Action.OfComponent.joins_not {owner : ComponentId} {action : Action}
    (about : action.OfComponent owner) (component : ComponentId) (world : World) :
    (world.perform action).2.attachments = world.attachments ∧
      action.attaches component = false := by
  rw [World.perform_attachments]
  cases action with
  | attach | snapshot => exact about.elim
  | _ => exact ⟨rfl, rfl⟩

namespace Leg

variable {component : ComponentId} {origin world : World} {trace : List (TaskId × Done)}
  {leg later : Leg} {action : Action}

theorem Handled.of_eq (handled : leg.Handled origin world trace)
    (same : (world.perform action).2.handle = world.handle) (entry : TaskId × Done) :
    leg.Handled origin (world.perform action).2 (trace ++ [entry]) := by
  cases leg with
  | early | listed => exact same.trans handled
  | closing | connecting | renewed =>
      exact ⟨same.trans handled.1, fun old was =>
        (handled.2 old was).imp_right (List.mem_append_left _)⟩

/-- The handle is empty, or as it was at first, until the restart renewed it. -/
theorem Handled.handle_cases (handled : leg.Handled origin world trace) :
    match leg.opened with
    | some connection => world.handle = some connection
    | none => world.handle = none ∨ world.handle = origin.handle := by
  cases leg with
  | early | listed => exact .inr handled
  | closing | connecting => exact .inl handled.1
  | renewed => exact handled.1

theorem Step.handled (step : Leg.Step component world leg action later)
    (dated : ∀ old ∈ origin.handle, old ≤ world.broker.connections)
    (handled : leg.Handled origin world trace) :
    later.Handled origin (world.perform action).2
      (trace ++ [(0, ⟨action, (world.perform action).1⟩)]) := by
  cases step with
  | abides abides => exact handled.of_eq (abides.handle_eq world) _
  | lists => exact handled
  | takes => exact ⟨rfl, fun old was => .inl (handled.trans was)⟩
  | @closes found closed =>
      refine ⟨handled.1, fun old was => ?_⟩
      obtain taken | before := handled.2 old was
      · obtain rfl : closed = old := Option.some.inj taken
        exact .inr (List.mem_append_right _ (List.mem_singleton.mpr rfl))
      · exact .inr (List.mem_append_left _ before)
  | @connects found name opened replied =>
      have counted := world.perform_connections (.await (.connect name))
      rw [replied] at counted
      refine ⟨handled.1, fun old was => ⟨?_, ?_⟩⟩
      · exact Nat.ne_of_lt (counted.1 ▸ Nat.lt_succ_of_le (dated old was))
      · exact List.mem_append_left _ ((handled.2 old was).resolve_left nofun)
  | renews =>
      exact ⟨rfl, fun old was => (handled.2 old was).imp_right (List.mem_append_left _)⟩

theorem Step.listed (step : Leg.Step component world leg action later)
    (living : world.alive component = true) (listed : leg.Listed component world trace) :
    later.Listed component (world.perform action).2
      (trace ++ [(0, ⟨action, (world.perform action).1⟩)]) := by
  have asBefore : action.lists = false →
      attachedInTime component (trace ++ [(0, ⟨action, (world.perform action).1⟩)]) =
        attachedInTime component trace := fun notListed => by
    simp [attachedInTime_first, notListed]
  cases step with
  | abides abides =>
      have same := asBefore (by cases action <;> first | exact abides.elim | rfl)
      cases leg with
      | early =>
          obtain ⟨attached, notYet⟩ := listed
          refine ⟨?_, same.trans notYet⟩
          rw [abides.attachments_eq, List.any_append, attached]
          simp [didBy]
      | _ => exact listed.trans same.symm
  | lists =>
      obtain ⟨attached, notYet⟩ := listed
      have among : component ∈ world.liveAttachments.map (·.1) ↔ component ∈ world.attachments := by
        rw [World.liveAttachments_map, List.mem_filter, and_iff_left living]
      change decide _ = attachedInTime component (trace ++ [(0, ⟨.snapshot, _⟩)])
      rw [attachedInTime_first, notYet, Bool.eq_iff_iff, decide_eq_true_iff, among, attached]
      simp [Action.lists]
  | takes | closes | connects | renews => exact listed.trans (asBefore rfl).symm

/-- What the other task does counts as long as the restart has not listed the components. -/
theorem Listed.joins (listed : leg.Listed component world trace)
    (about : action = .attach component ∨ action.OfComponent component) :
    leg.Listed component (world.perform action).2
      (trace ++ [(1, ⟨action, (world.perform action).1⟩)]) := by
  cases leg with
  | early =>
      obtain ⟨attached, notYet⟩ := listed
      refine ⟨?_, (attachedInTime_second ..).trans notYet⟩
      rw [List.any_append]
      obtain rfl | about := about
      · simp [World.perform, didBy, Action.attaches]
      · obtain ⟨same, attachesNot⟩ := about.joins_not component world
        rw [same, attached]
        simp [didBy, attachesNot]
  | _ => exact listed.trans (attachedInTime_second ..).symm

theorem Step.releases_not (step : Leg.Step component world leg action later) :
    action ≠ .release component := by
  rintro rfl
  cases step with
  | abides abides => exact abides

theorem Step.opened_eq (step : Leg.Step component world leg action later) :
    later.opened.isSome = (leg.opened.isSome || action.renews) ∧
      ∀ connection, leg.opened = some connection → later.opened = some connection := by
  cases step with
  | abides abides =>
      refine ⟨?_, fun _ => id⟩
      cases action with
      | replaceHandle => exact abides.elim
      | _ => exact (Bool.or_false _).symm
  | _ => exact ⟨rfl, nofun⟩

end Leg

/-!
## Who found what
-/

/-- What the visits of a restart and of another task have to do with the handle: the restart looks
at it only once it renewed it, and what the other found depends on whether it came later. -/
structure Looked (origin : World) (leg : Leg) (mine other : Visit)
    (trace : List (TaskId × Done)) : Prop where
  renewed : trace.any (didBy 0 Action.renews) = leg.opened.isSome
  mine : ∀ handle, mine.look = some handle → ∃ connection,
    handle = some connection ∧ leg.opened = some connection
  unlooked : other.look = none → lookedLate trace = false
  other : ∀ handle, other.look = some handle →
    if lookedLate trace then ∃ connection, handle = some connection ∧ leg.opened = some connection
    else handle = none ∨ handle = origin.handle

namespace Visit

variable {component : ComponentId} {once : Bool} {visit later : Visit} {world : World}
  {action : Action}

theorem Step.look_cases (step : Visit.Step component once world visit action later)
    {handle : Option ConnectionId} (found : later.look = some handle) :
    visit.look = some handle ∨ action = .readHandle ∧ handle = world.handle := by
  cases step with
  | looks => exact .inr ⟨rfl, (Option.some.inj found).symm⟩
  | enters | empties | stops => cases found
  | _ => exact .inl found

/-- Who visits a component once looks at the handle once. -/
theorem Step.look_once (step : Visit.Step component true world visit action later) :
    if action.looks then visit.look = none ∧ later.look = some world.handle
    else later.look = visit.look := by
  cases step with
  | outside _ blind =>
      cases action with
      | readHandle => cases blind rfl
      | _ => exact rfl
  | enters first =>
      obtain rfl := first rfl
      exact rfl
  | looks => exact ⟨rfl, rfl⟩
  | _ => exact rfl

end Visit

namespace Looked

variable {component : ComponentId} {origin world : World} {leg further : Leg}
  {mine other later : Visit} {trace : List (TaskId × Done)} {action : Action}

theorem restart (looked : Looked origin leg mine other trace)
    (visits : Visit.Step component false world mine action later)
    (renews : Leg.Step component world leg action further)
    (handled : leg.Handled origin world trace) :
    Looked origin further later other (trace ++ [(0, ⟨action, (world.perform action).1⟩)]) := by
  obtain ⟨opened, stays⟩ := renews.opened_eq
  constructor
  · rw [opened, ← looked.renewed, List.any_append]
    simp [didBy]
  · intro handle found
    obtain before | ⟨rfl, rfl⟩ := visits.look_cases found
    · obtain ⟨connection, rfl, there⟩ := looked.mine handle before
      exact ⟨connection, rfl, stays connection there⟩
    · cases renews with
      | abides _ looks =>
          obtain ⟨listed, connection, rfl⟩ := looks rfl
          exact ⟨connection, handled.1, rfl⟩
  · rw [lookedLate_first]
    exact looked.unlooked
  · intro handle found
    rw [lookedLate_first]
    have before := looked.other handle found
    split at before
    · obtain ⟨connection, rfl, there⟩ := before
      rw [if_pos ‹_›]
      exact ⟨connection, rfl, stays connection there⟩
    · rw [if_neg ‹_›]
      exact before

theorem join (looked : Looked origin leg mine other trace)
    (visits : Visit.Step component true world other action later)
    (handled : leg.Handled origin world trace) :
    Looked origin leg mine later (trace ++ [(1, ⟨action, (world.perform action).1⟩)]) := by
  have once := visits.look_once
  have renewed : (trace ++ [((1, ⟨action, (world.perform action).1⟩) : TaskId × Done)]).any
      (didBy 0 Action.renews) = leg.opened.isSome := by
    rw [List.any_append, looked.renewed]
    simp [didBy]
  refine ⟨renewed, looked.mine, ?_, ?_⟩ <;> rw [lookedLate_second, looked.renewed]
  · intro unlooked
    split at once
    · rw [once.2] at unlooked
      cases unlooked
    · rename_i blind
      rw [once] at unlooked
      simp [looked.unlooked unlooked, blind]
  · intro handle found
    split at once
    -- It looks only once, so that it was not late before.
    · rename_i looks
      obtain ⟨unlooked, now⟩ := once
      obtain rfl := Option.some.inj (now.symm.trans found)
      have there := handled.handle_cases
      rw [looked.unlooked unlooked, looks, Bool.false_or, Bool.and_true]
      cases opened : leg.opened with
      | none =>
          rw [opened] at there
          exact there
      | some connection =>
          rw [opened] at there
          exact ⟨connection, there, rfl⟩
    · rename_i blind
      rw [once] at found
      have before := looked.other handle found
      simpa [blind] using before

end Looked

/-!
## What the component holds
-/

/-- What a component holds while a restart and another task may visit it: what the other gave it, if
the restart did not list it, else what the restart gives it in the end. -/
structure Content (component : ComponentId) (leg : Leg) (mine other : Visit) (world : World) :
    Prop where
  unlisted : leg.found = false → mine = .away none ∧ world.Stands component other.gave
  restarted : ∀ connection, mine = .away (some (some connection)) →
    if other.isAway then world.HoldsOf component connection
    else ∀ handle, other.look = some handle → handle = some connection

namespace Content

variable {component : ComponentId} {origin world : World} {leg further : Leg}
  {mine other later : Visit} {trace : List (TaskId × Done)} {action : Action}

theorem restart (content : Content component leg mine other world)
    (apart : Apart component mine other world) (enabled : world.Enabled action)
    (sound : mine.Sound component world)
    (visits : Visit.Step component false world mine action later)
    (renews : Leg.Step component world leg action further) :
    Content component further later other (world.perform action).2 := by
  constructor
  · intro unlisted
    have before : leg.found = false := by cases renews <;> first | exact unlisted | rfl
    obtain ⟨rfl, stands⟩ := content.unlisted before
    cases visits with
    | outside staysOut => exact ⟨rfl, stands.of_eq (staysOut.heldBy_eq world)⟩
    | enters =>
        cases renews with
        | abides _ _ lists =>
            have listed := lists rfl
            rw [before] at listed
            cases listed
  · rintro connection rfl
    have alone := apart.alone enabled visits
    cases visits with
    | outside staysOut =>
        have before := content.restarted connection rfl
        split at before
        · rw [if_pos ‹_›]
          exact before.of_eq (staysOut.heldBy_eq world)
        · rw [if_neg ‹_›]
          exact before
    | leaves =>
        rw [if_pos (alone.resolve_left fun staysOut => staysOut rfl)]
        exact World.HoldsOf.of_eq sound (world.heldBy_perform ..)

theorem join (content : Content component leg mine other world)
    (present : Mutex.Present world (.component component)) (sound : other.Sound component world)
    (visits : Visit.Step component true world other action later)
    (there : ∀ connection, mine = .away (some (some connection)) →
      world.handle = some connection) :
    Content component leg mine later (world.perform action).2 := by
  constructor
  · intro unlisted
    obtain ⟨never, stands⟩ := content.unlisted unlisted
    exact ⟨never, visits.stands present sound stands⟩
  · rintro connection rfl
    have before := content.restarted connection rfl
    cases visits with
    | outside staysOut =>
        split at before
        · rw [if_pos ‹_›]
          exact before.of_eq (staysOut.heldBy_eq world)
        · rw [if_neg ‹_›]
          exact before
    | enters | empties => exact nofun
    | looks =>
        rintro found ⟨⟩
        exact there connection rfl
    | gains | fills => exact before
    | stops again => cases again
    | fails => cases before none rfl
    | leaves =>
        obtain rfl := Option.some.inj (before _ rfl)
        exact World.HoldsOf.of_eq sound (world.heldBy_perform ..)

end Content

/-!
## Together
-/

/-- What is true while a restart and a task that attaches and starts a component are at work. -/
structure Meeting (origin : World) (component : ComponentId) (role : Role) (place : Visit × Leg)
    (other : Visit × Unit) (world : World) (trace : List (TaskId × Done)) : Prop where
  apart : Apart component place.1 other.1 world
  restarts : place.1.Sound component world
  starts : other.1.Sound component world
  numbered : world.Numbered
  dated : ∀ old ∈ origin.handle, old ≤ world.broker.connections
  plays : world.roleOf component = some role
  living : world.alive component = true
  listed : place.2.Listed component world trace
  handled : place.2.Handled origin world trace
  looked : Looked origin place.2 place.1 other.1 trace
  content : Content component place.2 place.1 other.1 world

namespace Meeting

variable {origin world : World} {component : ComponentId} {role : Role} {place : Visit × Leg}
  {other : Visit × Unit} {trace : List (TaskId × Done)} {action : Action}

theorem restart (meeting : Meeting origin component role place other world trace)
    (allowed : (Connection.renewal component).allows place action)
    (enabled : world.Enabled action) (settable : role.settable = true)
    (went : (⟨action, (world.perform action).1⟩ : Done).succeeded = true) :
    (Connection.renewal component).possible place action (world.perform action).1 ∧
      Meeting origin component role
        ((Connection.renewal component).after place action (world.perform action).1) other
        (world.perform action).2 (trace ++ [(0, ⟨action, (world.perform action).1⟩)]) := by
  have possible : (Connection.renewal component).possible place action
      (world.perform action).1 := by
    refine ⟨visiting_possible went, ?_⟩
    cases action with
    | await call => exact went
    | snapshot =>
        intro listed member
        obtain rfl : listed = role := Option.some.inj
          ((World.liveAttachments_role member).symm.trans meeting.plays)
        exact settable
    | _ => trivial
  have visits := visiting_step allowed.1 possible.1
  have renews := renewing_step allowed.2 possible.2
  refine ⟨possible, ?_⟩
  constructor
  case apart => exact meeting.apart.step enabled visits
  case restarts => exact meeting.restarts.step meeting.apart.present visits
  case starts => exact meeting.starts.outside (meeting.apart.alone enabled visits)
  case numbered => exact meeting.numbered.perform action
  case dated =>
    exact fun old was => Nat.le_trans (meeting.dated old was) (world.connections_le_perform action)
  case plays => exact (world.roleOf_perform action component).trans meeting.plays
  case living => exact World.alive_perform meeting.living renews.releases_not
  case listed => exact renews.listed meeting.living meeting.listed
  case handled => exact renews.handled meeting.dated meeting.handled
  case looked => exact meeting.looked.restart visits renews meeting.handled
  case content => exact meeting.content.restart meeting.apart enabled meeting.restarts visits renews

theorem join (meeting : Meeting origin component role place other world trace)
    (allowed : (joining component).allows other action) (enabled : world.Enabled action)
    (went : (⟨action, (world.perform action).1⟩ : Done).succeeded = true) :
    (joining component).possible other action (world.perform action).1 ∧
      Meeting origin component role place
        ((joining component).after other action (world.perform action).1)
        (world.perform action).2 (trace ++ [(1, ⟨action, (world.perform action).1⟩)]) := by
  have possible : (visiting component true).possible other.1 action (world.perform action).1 :=
    visiting_possible went
  have visits := visiting_step allowed.1 possible
  have about := allowed.2
  refine ⟨⟨possible, trivial⟩, ?_⟩
  have handle : (world.perform action).2.handle = world.handle := by
    obtain rfl | about := about
    · rfl
    · exact about.handle_eq world
  constructor
  case apart => exact (meeting.apart.symm.step enabled visits).symm
  case restarts => exact meeting.restarts.outside (meeting.apart.symm.alone enabled visits)
  case starts => exact meeting.starts.step meeting.apart.present visits
  case numbered => exact meeting.numbered.perform action
  case dated =>
    exact fun old was => Nat.le_trans (meeting.dated old was) (world.connections_le_perform action)
  case plays => exact (world.roleOf_perform action component).trans meeting.plays
  case living =>
    refine World.alive_perform meeting.living ?_
    rintro rfl
    exact about.elim nofun id
  case listed => exact meeting.listed.joins about
  case handled => exact meeting.handled.of_eq handle _
  case looked => exact meeting.looked.join visits meeting.handled
  case content =>
    refine meeting.content.join meeting.apart.present meeting.starts visits ?_
    intro connection away
    obtain ⟨_, same, opened⟩ := meeting.looked.mine _ (congrArg Visit.look away)
    obtain rfl := Option.some.inj same
    have there := meeting.handled.handle_cases
    rwa [opened] at there

end Meeting

/-- A restart and a task that attaches and starts a new component, at work on the world of a session
for as long as a schedule goes. -/
def Session.meet (session : Session) (role : Role) (schedule : List TaskId) :
    Pool (Except Failure Unit) :=
  let made := session.world.addComponent role
  Pool.run
    { world := made.2, tasks := [Connection.restart session.name, Component.join made.1 role] }
    (schedule.map .advance)

section

variable {name : String} {endpoint : Except Failure Unit} {commands : List Command}
  {session : Session} (reached : session = (Session.create name endpoint).after commands)

include reached

theorem Session.meeting_starts (role : Role) :
    Meeting session.world (session.world.addComponent role).1 role (.away none, .early)
      (.away none, ()) (session.world.addComponent role).2 [] := by
  subst reached
  have settled := Session.after_settled name endpoint commands
  have dated := Session.after_dated name endpoint commands
  have unused : (Session.create name endpoint).world.attachments = [] := rfl
  have attended := World.Attended.reaches unused (Session.after_reaches _ commands)
  generalize ((Session.create name endpoint).after commands).world = world at *
  have made : (world.addComponent role).2.components[(world.addComponent role).1]? =
      some { role := role } := List.getElem?_concat_length
  have unattached : (world.addComponent role).1 ∉ world.attachments := fun member =>
    Nat.lt_irrefl _ (attended.known _ (attended.subset member))
  have idle : (world.addComponent role).2.heldBy (world.addComponent role).1 = none := by
    rw [World.heldBy, made]
    rfl
  constructor
  case apart =>
    exact ⟨(List.getElem?_eq_some_iff.mp made).1, fun inside => Bool.noConfusion inside,
      fun inside => Bool.noConfusion inside⟩
  case restarts => trivial
  case starts => trivial
  case numbered => exact settled.numbered
  case dated => exact dated.handle
  case plays => rw [World.roleOf, made]; rfl
  case living => rw [World.alive, made]; rfl
  case listed => exact ⟨iff_of_false unattached Bool.false_ne_true, rfl⟩
  case handled => exact rfl
  case looked =>
    refine ⟨rfl, fun handle found => ?_, fun _ => rfl, fun handle found => ?_⟩
    · cases found
    · cases found
  case content =>
    refine ⟨fun _ => ⟨rfl, idle⟩, fun connection away => ?_⟩
    cases away

/-- A restart, and a host that attaches and starts a new component, in any interleaving in which no
call fails. When both have ended, the handle has another connection than before. If the component
was attached before the restart listed what is attached, or the start looked at the handle after the
restart had renewed it, the component holds a channel of that connection. Otherwise a channel that
it holds is one of the connection before, which the restart closed. -/
theorem newcomer_during_restart {role : Role} (settable : role.settable = true)
    {schedule : List TaskId} (finished : (session.meet role schedule).Finished)
    (went : ∀ entry ∈ (session.meet role schedule).trace, entry.2.succeeded = true) :
    let component := (session.world.addComponent role).1
    let pool := session.meet role schedule
    ∃ opened, pool.world.handle = some opened ∧ session.world.handle ≠ some opened ∧
      (attachedInTime component pool.trace = true ∨ lookedLate pool.trace = true →
        pool.world.RunOn [component] opened) ∧
      (attachedInTime component pool.trace = false → lookedLate pool.trace = false →
        ∀ connection, pool.world.RunOn [component] connection →
          session.world.handle = some connection ∧ Closes connection pool.trace) := by
  intro component pool
  have starts := Session.meeting_starts reached role
  have pair : Pool.Pair (Connection.renewal component) (joining component) _ _
      (Meeting session.world component role) pool :=
    Pool.Pair.scheduled (·.succeeded = true)
      (fun _ _ _ _ _ allowed enabled went meeting =>
        meeting.restart allowed enabled settable went)
      (fun _ _ _ _ _ allowed enabled went meeting => meeting.join allowed enabled went)
      ⟨_, _, _, _, rfl, Connection.restart_renews _, Component.join_visits settable, starts⟩
      schedule went
  obtain ⟨one, two, ⟨mine, leg⟩, ⟨other, _⟩, tasks, oneFollows, twoFollows, meeting⟩ := pair
  obtain ⟨_, rfl⟩ := finished one (tasks ▸ List.mem_cons_self)
  obtain ⟨_, rfl⟩ := finished two (tasks ▸ List.mem_cons_of_mem _ List.mem_cons_self)
  obtain ⟨found, opened, rfl, visited⟩ := oneFollows
  obtain ⟨handle, rfl⟩ := twoFollows
  obtain ⟨there, closed⟩ := meeting.handled
  have listed : found = attachedInTime component pool.trace := meeting.listed
  have runs : ∀ connection, pool.world.HoldsOf component connection →
      pool.world.RunOn [component] connection := by
    rintro connection ⟨channel, holds, created⟩ member among
    obtain rfl := List.mem_singleton.mp among
    exact ⟨channel, holds, meeting.numbered.createdOn created⟩
  refine ⟨opened, there, fun same => (closed opened same).1 rfl, fun either => runs opened ?_,
    fun notInTime notLate connection running => ?_⟩
  -- A restart starts anew what it listed. What it did not list is as the other task left it.
  · cases found with
    | true =>
        obtain ⟨given, rfl⟩ := visited rfl
        obtain ⟨_, rfl, same⟩ := meeting.looked.mine given rfl
        obtain rfl := Option.some.inj same
        exact meeting.content.restarted opened rfl
    | false =>
        have stands := (meeting.content.unlisted rfl).2
        have looked := meeting.looked.other handle rfl
        rw [if_pos (either.resolve_left (Bool.eq_false_iff.mp listed.symm))] at looked
        obtain ⟨_, rfl, same⟩ := looked
        obtain rfl := Option.some.inj same
        exact stands
  · obtain ⟨channel, holds, created⟩ := running component (List.mem_singleton.mpr rfl)
    have stands : pool.world.Stands component handle :=
      (meeting.content.unlisted (listed.trans notInTime)).2
    cases handle with
    | none =>
        rw [World.Holds, show pool.world.heldBy component = none from stands] at holds
        cases holds
    | some old =>
        obtain ⟨held, holdsAlso, createdAlso⟩ := stands
        obtain rfl : channel = held := Option.some.inj (holds.symm.trans holdsAlso)
        obtain rfl := (created old).mp createdAlso
        have looked := meeting.looked.other (some old) rfl
        rw [if_neg (Bool.eq_false_iff.mp notLate)] at looked
        have was := (looked.resolve_left (Option.some_ne_none old)).symm
        exact ⟨was, (closed old was).2⟩

end

/-- A producer that is attached between the first two steps of a restart and started meanwhile. -/
theorem newcomer_restarted :
    let session := (Session.create "host" (.ok ())).after [.init]
    let role := Role.producer { queue := "work" }
    let schedule := (List.replicate 40 [0, 1]).flatten
    (session.meet role schedule).Finished ∧
      (∀ entry ∈ (session.meet role schedule).trace, entry.2.succeeded = true) ∧
      ∃ opened, (session.meet role schedule).world.handle = some opened ∧
        (session.meet role schedule).world.RunOn [0] opened := by
  intro session role schedule
  have reached : session = (Session.create "host" (.ok ())).after [.init] := rfl
  have settable : role.settable = true := by decide
  have finished : (session.meet role schedule).Finished := by decide +kernel
  have went : ∀ entry ∈ (session.meet role schedule).trace, entry.2.succeeded = true := by
    decide +kernel
  have inTime : attachedInTime 0 (session.meet role schedule).trace = true := by decide +kernel
  obtain ⟨opened, there, _, runs, _⟩ := newcomer_during_restart reached settable finished went
  exact ⟨finished, went, opened, there, runs (.inl inTime)⟩

/-- A producer that is attached and started right after a restart listed what is attached. The
restart closes the connection that the producer was started on and does not start it anew: the
broker hears no more of it than if the connection was just closed and opened. -/
theorem newcomer_left_behind :
    let session := (Session.create "host" (.ok ())).after [.init]
    let role := Role.producer { queue := "work" }
    let schedule := [0, 0] ++ List.replicate 12 1 ++ List.replicate 12 0
    (session.meet role schedule).Finished ∧
      (∀ entry ∈ (session.meet role schedule).trace, entry.2.succeeded = true) ∧
      (session.meet role schedule).world.handle = some 2 ∧
      (session.meet role schedule).world.RunOn [0] 1 ∧
      (session.meet role schedule).world.broker.log =
        (session.after [.producer "outbox" { queue := "work" }, .start "outbox", .close,
          .init]).world.broker.log := by
  refine ⟨by decide +kernel, by decide +kernel, by decide +kernel, fun component member => ?_,
    by with_unfolding_all rfl⟩
  obtain rfl := List.mem_singleton.mp member
  refine ⟨1, ?_, fun origin => ?_⟩
  · unfold World.Holds
    decide +kernel
  · generalize listed : World.creations _ = creations
    obtain rfl : creations = [(1, 1)] := listed.symm.trans (by decide +kernel)
    simp

end AmqpEndpoints
