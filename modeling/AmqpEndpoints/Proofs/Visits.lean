import AmqpEndpoints.Proofs.Footprint

/-!
# Visits

A component is started or stopped in a visit under its lock: the visitor takes its channel out,
looks at the handle, creates a channel on what it finds there and gives it to the component. Between
visits a task may work on other components. What a restart does about the handle is told apart from
its visits; the two meet only in that a restart visits those that it listed.
-/

set_option autoImplicit false

namespace AmqpEndpoints

open Program

/-- Whether a call was answered without a failure, where it is the answer to one. -/
def Done.succeeded : Done → Bool
  | ⟨.await _, reply⟩ => reply.isOk
  | _ => true

def Role.settable : Role → Bool
  | producer settings =>
    match settings.exchange with
    | .standard => true
    | .explicit name .. => !Text.blank name
  | consumer .. => true

/-!
## Without failures
-/

namespace Program

variable {α β Phase : Type} {rule : Discipline Phase} {phase : Phase} {channel : ChannelId}

theorem follows_ok_bind {first : Attempt α} {next : α → Attempt β}
    {ends : Except Failure β → Phase → Prop}
    (goes : first.run.Follows rule phase fun outcome later => later = phase ∧ outcome.isOk = true)
    (rest : ∀ result, (next result).run.Follows rule phase ends) :
    (first >>= next).run.Follows rule phase ends := by
  refine follows_attempt_bind.mpr (goes.imp fun outcome later ended => ?_)
  obtain ⟨rfl, fine⟩ := ended
  cases outcome with
  | error failure => cases fine
  | ok result => exact rest result

section

variable
  (stays : ∀ action : Action, action.Equips channel →
    rule.allows phase action ∧ ∀ reply, rule.after phase action reply = phase)
  (fine : ∀ (call : Call) (reply : call.Reply),
    rule.possible phase (.await call) reply → reply.isOk = true)

include stays fine

theorem equip_goes {request : Call} (about : request.channel? = some channel)
    (notClosing : request ≠ .closeChannel channel) :
    (attempt request).run.Follows rule phase fun outcome later =>
      later = phase ∧ outcome.isOk = true := by
  obtain ⟨issues, asked⟩ := stays (.issue request) ⟨about, notClosing⟩
  obtain ⟨awaits, answered⟩ := stays (.await request) ⟨about, notClosing⟩
  refine ⟨issues, fun reply _ => ?_⟩
  rw [asked]
  exact ⟨awaits, fun reply given => ⟨answered reply, fine request reply given⟩⟩

/-- Where no call fails, a channel is set up, and nothing else is done. -/
theorem setUp_goes {role : Role} (settable : role.settable = true) :
    (role.setUp channel).run.Follows rule phase fun outcome later =>
      later = phase ∧ ∃ held, outcome = .ok held ∧ held.channel = channel := by
  cases role with
  | producer settings =>
      have queue : (if isExpression settings.queue then pure ()
          else settings.queueDeclaration.declare channel settings.queue :
            Attempt Unit).run.Follows rule phase fun outcome later =>
              later = phase ∧ outcome.isOk = true := by
        split
        · exact ⟨rfl, rfl⟩
        · exact equip_goes stays fine rfl Call.noConfusion
      have exchange : (settings.exchange.declare channel).run.Follows rule phase
          fun outcome later => later = phase ∧ outcome.isOk = true := by
        cases declared : settings.exchange with
        | standard => exact ⟨rfl, rfl⟩
        | explicit name kind durable =>
            have named : Text.blank name = false := by
              simpa [Role.settable, declared] using settable
            simp only [Exchange.declare, named]
            exact equip_goes stays fine rfl Call.noConfusion
      have prepares : (Producer.setUp settings channel).run.Follows rule phase
          fun outcome later => later = phase ∧ outcome.isOk = true := by
        have topology := follows_ok_bind exchange fun _ => queue
        unfold Producer.setUp
        dsimp only
        split
        · exact follows_ok_bind (equip_goes stays fine rfl Call.noConfusion) fun _ => topology
        · exact topology
      exact follows_ok_bind prepares fun _ => ⟨rfl, _, rfl, rfl⟩
  | consumer reader =>
      have prepares : (reader.setUp channel).run.Follows rule phase
          fun outcome later => later = phase ∧ outcome.isOk = true := by
        refine follows_ok_bind (equip_goes stays fine rfl Call.noConfusion) fun _ => ?_
        obtain ⟨draws, drew⟩ := stays .drawTag trivial
        refine follows_attempt_bind.mpr ⟨draws, fun tag _ => ?_⟩
        rw [drew]
        refine follows_ok_bind (equip_goes stays fine rfl Call.noConfusion) fun stream => ?_
        obtain ⟨spawns, spawned⟩ := stays (.spawn stream ⟨reader, tag⟩) trivial
        exact follows_attempt_bind.mpr ⟨spawns, fun _ _ => ⟨spawned _, rfl⟩⟩
      exact follows_ok_bind prepares fun _ => ⟨rfl, _, rfl, rfl⟩

end

end Program

/-!
## Visits to a component
-/

inductive Visit where
  /-- It does not work on it. This is what it found if it looked at the handle in its last visit. -/
  | away (found : Option (Option ConnectionId))
  | inside
  | looked (handle : Option ConnectionId)
  | bears (connection : ConnectionId) (channel : ChannelId)
  | filled (connection : ConnectionId)

/-- How a component is visited. A task that visits it only once has no business elsewhere that it
would look at the handle for. -/
def visiting (component : ComponentId) (once : Bool) : Discipline Visit where
  allows
    | .away found, .lock owner => owner = component → once = true → found = none
    | .away _, .readHandle => once = false
    | .away _, .takeHeld owner => owner ≠ component
    | .away _, .hold owner _ => owner ≠ component
    | .away _, .unlock owner => owner ≠ component
    | .away _, _ => True
    | _, .lock _ => False
    | .inside, .takeHeld owner => owner = component
    | .inside, .readHandle => True
    | .inside, .unlock owner => owner = component ∧ once = false
    | .looked handle, .await (.createChannel connection) => handle = some connection
    | .looked handle, .unlock owner => owner = component ∧ handle = none
    | .bears _ channel, .hold owner held => owner = component ∧ held.channel = channel
    | .filled _, .unlock owner => owner = component
    | _, .takeHeld _ => False
    | _, .readHandle => False
    | _, .await (.createChannel _) => False
    | _, .hold .. => False
    | _, .unlock _ => False
    | _, _ => True
  possible
    | _, .await _, reply => reply.isOk = true
    | _, _, _ => True
  after
    | .away found, .lock owner, _ => if owner = component then .inside else .away found
    | .inside, .readHandle, handle => .looked handle
    | .inside, .unlock _, _ => .away none
    | .looked _, .await (.createChannel connection), .ok channel => .bears connection channel
    | .looked _, .unlock _, _ => .away (some none)
    | .bears connection _, .hold .., _ => .filled connection
    | .filled connection, .unlock _, _ => .away (some (some connection))
    | visit, _, _ => visit

variable {component : ComponentId} {once : Bool}

theorem visiting_fine {visit : Visit} (call : Call) (reply : call.Reply)
    (given : (visiting component once).possible visit (.await call) reply) : reply.isOk = true := by
  cases visit <;> exact given

theorem visiting_possible {visit : Visit} {action : Action} {reply : action.Reply}
    (went : (⟨action, reply⟩ : Done).succeeded = true) :
    (visiting component once).possible visit action reply := by
  cases action with
  | await call => cases visit <;> exact went
  | _ => cases visit <;> trivial

/-- Whether an action leaves the lock and the channel of a component as they are. -/
def Action.StaysOut (component : ComponentId) : Action → Prop
  | lock owner => owner ≠ component
  | unlock owner => owner ≠ component
  | takeHeld owner => owner ≠ component
  | hold owner _ => owner ≠ component
  | _ => True

inductive Visit.Step (component : ComponentId) (once : Bool) (world : World) :
    Visit → Action → Visit → Prop where
  | outside {visit : Visit} {action : Action} (staysOut : action.StaysOut component)
      (blind : action = .readHandle → once = false) : Step component once world visit action visit
  | enters {found : Option (Option ConnectionId)} (first : once = true → found = none) :
      Step component once world (.away found) (.lock component) .inside
  | empties : Step component once world .inside (.takeHeld component) .inside
  | looks : Step component once world .inside .readHandle (.looked world.handle)
  | gains {connection : ConnectionId} {channel : ChannelId}
      (created : (world.perform (.await (.createChannel connection))).1 = .ok channel) :
      Step component once world (.looked (some connection)) (.await (.createChannel connection))
        (.bears connection channel)
  | fills {connection : ConnectionId} {held : Held} :
      Step component once world (.bears connection held.channel) (.hold component held)
        (.filled connection)
  | stops (again : once = false) :
      Step component once world .inside (.unlock component) (.away none)
  | fails : Step component once world (.looked none) (.unlock component) (.away (some none))
  | leaves {connection : ConnectionId} :
      Step component once world (.filled connection) (.unlock component)
        (.away (some (some connection)))

theorem visiting_step {visit : Visit} {action : Action} {world : World}
    (allowed : (visiting component once).allows visit action)
    (given : (visiting component once).possible visit action (world.perform action).1) :
    Visit.Step component once world visit action
      ((visiting component once).after visit action (world.perform action).1) := by
  cases visit with
  | away found =>
      cases action with
      | lock owner =>
          by_cases here : owner = component
          · subst here
            change Visit.Step _ _ _ _ _ (if owner = owner then Visit.inside else .away found)
            rw [if_pos rfl]
            exact .enters (allowed rfl)
          · change Visit.Step _ _ _ _ _ (if owner = component then Visit.inside else .away found)
            rw [if_neg here]
            exact .outside here nofun
      | unlock | takeHeld | hold => exact .outside allowed nofun
      | readHandle => exact .outside trivial fun _ => allowed
      | _ => exact .outside trivial nofun
  | inside =>
      cases action with
      | lock => exact allowed.elim
      | hold => exact allowed.elim
      | unlock =>
          obtain ⟨rfl, again⟩ := allowed
          exact .stops again
      | takeHeld =>
          obtain rfl := allowed
          exact .empties
      | readHandle => exact .looks
      | _ => exact .outside trivial nofun
  | looked handle =>
      cases action with
      | lock | takeHeld | hold | readHandle => exact allowed.elim
      | unlock =>
          obtain ⟨rfl, rfl⟩ := allowed
          exact .fails
      | await call =>
          cases call with
          | createChannel connection =>
              obtain rfl := allowed
              cases created : (world.perform (.await (.createChannel connection))).1 with
              | error failure =>
                  rw [created] at given
                  cases given
              | ok channel => exact .gains created
          | _ => exact .outside trivial nofun
      | _ => exact .outside trivial nofun
  | bears connection channel =>
      cases action with
      | lock | unlock | takeHeld | readHandle => exact allowed.elim
      | hold owner held =>
          obtain ⟨rfl, rfl⟩ := allowed
          exact .fills
      | _ => exact .outside trivial nofun
  | filled connection =>
      cases action with
      | lock | takeHeld | hold | readHandle => exact allowed.elim
      | unlock =>
          obtain rfl := allowed
          exact .leaves
      | _ => exact .outside trivial nofun

theorem Component.empty_visits {found : Option (Option ConnectionId)}
    (may : once = true → found = none) :
    (Component.empty component).Follows (visiting component once) (.away found) fun _ later =>
      later = .inside := by
  have locks : ((visiting component once).after (.away found) (.lock component) ()) = .inside :=
    if_pos rfl
  refine ⟨fun _ => may, fun _ _ => ?_⟩
  rw [locks]
  refine ⟨rfl, fun held _ => (uses_giveBack held).follows fun action about => ?_⟩
  cases action with
  | issue call | await call =>
      cases call <;> first | exact about.elim | exact ⟨trivial, fun _ => rfl⟩
  | cancel => exact ⟨trivial, fun _ => rfl⟩
  | _ => exact about.elim

theorem Action.Equips.visits {channel : ChannelId} {connection : ConnectionId} (action : Action)
    (equips : action.Equips channel) :
    (visiting component once).allows (.bears connection channel) action ∧
      ∀ reply, (visiting component once).after (.bears connection channel) action reply =
        .bears connection channel := by
  cases action with
  | issue call => exact ⟨trivial, fun _ => rfl⟩
  | await call =>
      obtain ⟨about, _⟩ := equips
      cases call <;> first | cases about; done | exact ⟨trivial, fun _ => rfl⟩
  | drawTag | spawn => exact ⟨trivial, fun _ => rfl⟩
  | _ => exact equips.elim

/-- A start looks at the handle. If it finds a connection, the component gets a channel of it. -/
theorem Component.start_visits {role : Role} (settable : role.settable = true)
    {found : Option (Option ConnectionId)} (may : once = true → found = none) :
    (Component.start component role).Follows (visiting component once) (.away found) fun _ later =>
      ∃ handle, later = .away (some handle) := by
  rw [Component.start_eq]
  refine (empty_visits may).bind fun _ => ?_
  refine follows_bind.mpr (follows_attempt_bind.mpr (follows_attempt_bind.mpr
    ⟨trivial, fun handle _ => ?_⟩))
  cases handle with
  | none => exact ⟨⟨rfl, rfl⟩, fun _ _ => ⟨_, rfl⟩⟩
  | some connection =>
      refine follows_attempt_bind.mpr ⟨trivial, fun _ _ => ⟨rfl, fun created given => ?_⟩⟩
      cases created with
      | error failure => cases given
      | ok channel =>
          change (tryCatch (role.setUp channel) _ : Attempt Held).run.Follows _
            (Visit.bears connection channel) _
          rw [ExceptT.run_tryCatch]
          refine follows_bind.mpr ((setUp_goes Action.Equips.visits visiting_fine settable).imp
            fun outcome later ended => ?_)
          obtain ⟨rfl, held, rfl, same⟩ := ended
          exact ⟨⟨rfl, same⟩, fun _ _ => ⟨rfl, fun _ _ => ⟨_, rfl⟩⟩⟩

theorem Component.stop_visits {found : Option (Option ConnectionId)} :
    (Component.stop component).Follows (visiting component false) (.away found) fun _ later =>
      later = .away none := by
  have empties : (Component.empty component).Follows (visiting component false) (.away found)
      fun _ later => later = .inside := empty_visits nofun
  rw [Component.stop_eq]
  exact empties.bind fun _ => ⟨⟨rfl, rfl⟩, fun _ _ => rfl⟩

theorem Action.OfComponent.visits_not {other : ComponentId} (different : other ≠ component)
    {found : Option (Option ConnectionId)} (action : Action) (about : action.OfComponent other) :
    (visiting component false).allows (.away found) action ∧
      ∀ reply, (visiting component false).after (.away found) action reply = .away found := by
  cases action with
  | lock owner =>
      obtain rfl : owner = other := about
      exact ⟨fun same => absurd same different, fun _ => if_neg different⟩
  | unlock owner | takeHeld owner | hold owner held =>
      obtain rfl : owner = other := about
      exact ⟨different, fun _ => rfl⟩
  | readHandle => exact ⟨rfl, fun _ => rfl⟩
  | await call => exact ⟨trivial, fun _ => rfl⟩
  | _ => exact ⟨trivial, fun _ => rfl⟩

theorem Action.OfConnection.visits_not {found : Option (Option ConnectionId)} (action : Action)
    (about : action.OfConnection) :
    (visiting component once).allows (.away found) action ∧
      ∀ reply, (visiting component once).after (.away found) action reply = .away found := by
  cases action with
  | issue | await | replaceHandle | takeHandle => exact ⟨trivial, fun _ => rfl⟩
  | _ => exact about.elim

namespace Connection

theorem stopAll_visits (components : List (ComponentId × Role)) :
    (stopAll components).Follows (visiting component false) (.away none) fun _ later =>
      later = .away none := by
  refine stopAll_returns fun entry _ => ?_
  by_cases here : entry.1 = component
  · exact here ▸ Component.stop_visits
  · exact (Component.uses_stop entry.1).follows (Action.OfComponent.visits_not here)

/-- Whoever is among the components is visited; work on the others is no visit. -/
theorem startAll_visits (components : List (ComponentId × Role))
    (settable : ∀ role, (component, role) ∈ components → role.settable = true)
    (found : Option (Option ConnectionId)) :
    (startAll components).Follows (visiting component false) (.away found) fun _ later =>
      (component ∈ components.map (·.1) → ∃ handle, later = .away (some handle)) ∧
        (component ∉ components.map (·.1) → later = .away found) := by
  induction components generalizing found with
  | nil => exact ⟨nofun, fun _ => rfl⟩
  | cons entry rest ih =>
      have others := ih fun role member => settable role (List.mem_cons_of_mem _ member)
      by_cases here : entry.1 = component
      · subst here
        have starts := @Component.start_visits entry.1 false entry.2
          (settable entry.2 List.mem_cons_self) found nofun
        refine follows_bind.mpr (starts.imp fun _ _ ended => ?_)
        obtain ⟨handle, rfl⟩ := ended
        refine follows_bind.mpr ((others (some handle)).imp fun _ later ended => ?_)
        refine ⟨fun _ => ?_, fun absent => absurd List.mem_cons_self absent⟩
        by_cases again : entry.1 ∈ rest.map (·.1)
        · exact ended.1 again
        · exact ⟨handle, ended.2 again⟩
      · refine follows_bind.mpr (((Component.uses_start entry.1 entry.2).follows
          (Action.OfComponent.visits_not here)).imp fun _ visit (same : visit = .away found) => ?_)
        rw [same]
        refine follows_bind.mpr ((others found).imp fun _ later ended => ?_)
        have same : component ∈ (entry :: rest).map (·.1) ↔ component ∈ rest.map (·.1) := by
          simp [Ne.symm here]
        rw [same]
        exact ended

end Connection

/-!
## The handle in a restart
-/

/-- How far a restart got with the handle, and whether it listed a component. -/
inductive Leg where
  | early
  | listed (found : Bool)
  /-- The handle was taken, and what was in it is still to be closed. -/
  | closing (found : Bool) (taken : Option ConnectionId)
  | connecting (found : Bool) (connection : ConnectionId)
  | renewed (found : Bool) (connection : ConnectionId)

def Leg.found : Leg → Bool
  | early => false
  | listed found => found
  | closing found _ => found
  | connecting found _ => found
  | renewed found _ => found

/-- How a restart goes about the handle: it lists the components, closes the connection, opens
another and only then looks at the handle. It has to do with a component only if it listed it. -/
def renewing (component : ComponentId) : Discipline Leg where
  allows
    | .early, .snapshot => True
    | .listed _, .takeHandle => True
    | .closing _ none, .await (.connect _) => True
    | .connecting _ connection, .replaceHandle opened => opened = connection
    | .renewed .., .readHandle => True
    | leg, .lock owner => owner = component → leg.found = true
    | _, .snapshot => False
    | _, .takeHandle => False
    | _, .await (.connect _) => False
    | _, .replaceHandle _ => False
    | _, .readHandle => False
    | _, .attach _ => False
    | _, .release _ => False
    | _, _ => True
  possible
    | _, .await _, reply => reply.isOk = true
    | _, .snapshot, live => ∀ role, (component, role) ∈ live → role.settable = true
    | _, _, _ => True
  after
    | .early, .snapshot, live => .listed (decide (component ∈ live.map (·.1)))
    | .listed found, .takeHandle, taken => .closing found taken
    | .closing found (some taken), .issue (.closeConnection closed), _ =>
      .closing found (if closed = taken then none else some taken)
    | .closing found none, .await (.connect _), .ok connection => .connecting found connection
    | .connecting found connection, .replaceHandle _, _ => .renewed found connection
    | leg, _, _ => leg

/-- Whether an action leaves the handle, and who is attached and owned, as they are. -/
def Action.Abides : Action → Prop
  | replaceHandle _ => False
  | takeHandle => False
  | attach _ => False
  | release _ => False
  | snapshot => False
  | _ => True

/-- What an action of a restart does to its way with the handle. -/
inductive Leg.Step (component : ComponentId) (world : World) : Leg → Action → Leg → Prop where
  | abides {leg : Leg} {action : Action} (abides : action.Abides)
      (looks : action = .readHandle → ∃ found connection, leg = .renewed found connection)
      (visits : action = .lock component → leg.found = true) :
      Step component world leg action leg
  | lists : Step component world .early .snapshot
      (.listed (decide (component ∈ world.liveAttachments.map (·.1))))
  | takes {found : Bool} :
      Step component world (.listed found) .takeHandle (.closing found world.handle)
  | closes {found : Bool} {connection : ConnectionId} :
      Step component world (.closing found (some connection))
        (.issue (.closeConnection connection)) (.closing found none)
  | connects {found : Bool} {name : String} {connection : ConnectionId}
      (opened : (world.perform (.await (.connect name))).1 = .ok connection) :
      Step component world (.closing found none) (.await (.connect name))
        (.connecting found connection)
  | renews {found : Bool} {connection : ConnectionId} :
      Step component world (.connecting found connection) (.replaceHandle connection)
        (.renewed found connection)

theorem renewing_step {leg : Leg} {action : Action} {world : World}
    (allowed : (renewing component).allows leg action)
    (given : (renewing component).possible leg action (world.perform action).1) :
    Leg.Step component world leg action
      ((renewing component).after leg action (world.perform action).1) := by
  -- What was taken out of the handle decides what may come next as much as the leg does.
  cases action with
  | snapshot =>
      rcases leg with _ | _ | ⟨_, _ | _⟩ | _ | _
      · exact .lists
      all_goals exact allowed.elim
  | takeHandle =>
      rcases leg with _ | _ | ⟨_, _ | _⟩ | _ | _
      case listed => exact .takes
      all_goals exact allowed.elim
  | replaceHandle connection =>
      rcases leg with _ | _ | ⟨_, _ | _⟩ | _ | _
      case connecting =>
        obtain rfl := allowed
        exact .renews
      all_goals exact allowed.elim
  | readHandle =>
      rcases leg with _ | _ | ⟨_, _ | _⟩ | _ | ⟨found, connection⟩
      case renewed => exact .abides trivial (fun _ => ⟨found, connection, rfl⟩) nofun
      all_goals exact allowed.elim
  | attach | release =>
      rcases leg with _ | _ | ⟨_, _ | _⟩ | _ | _ <;> exact allowed.elim
  | lock owner =>
      rcases leg with _ | _ | ⟨_, _ | _⟩ | _ | _ <;>
        exact .abides trivial nofun fun same => allowed (Action.lock.inj same)
  | issue call =>
      rcases leg with _ | _ | ⟨found, _ | taken⟩ | _ | _
      case closing.some =>
        cases call with
        | closeConnection closed =>
            change Leg.Step _ _ _ _ (.closing found (if closed = taken then none else some taken))
            split
            · rename_i same
              exact same ▸ .closes
            · exact .abides trivial nofun nofun
        | _ => exact .abides trivial nofun nofun
      all_goals exact .abides trivial nofun nofun
  | await call =>
      rcases leg with _ | _ | ⟨found, _ | taken⟩ | _ | _
      case closing.none =>
        cases call with
        | connect name =>
            cases opened : (world.perform (.await (.connect name))).1 with
            | error failure =>
                rw [opened] at given
                cases given
            | ok connection => exact .connects opened
        | _ => exact .abides trivial nofun nofun
      all_goals cases call <;> first | exact allowed.elim | exact .abides trivial nofun nofun
  | _ =>
      rcases leg with _ | _ | ⟨_, _ | _⟩ | _ | _ <;> exact .abides trivial nofun nofun

theorem Component.stop_renews {other : ComponentId} {found : Bool}
    (listed : other = component → found = true) :
    (Component.stop other).Follows (renewing component) (.listed found) fun _ later =>
      later = .listed found := by
  rw [Component.stop_eq]
  refine follows_bind.mpr ⟨listed, fun _ _ => ⟨trivial, fun held _ => ?_⟩⟩
  refine ((uses_giveBack held).follows fun action about => ?_).imp fun _ leg same => ?_
  · cases action with
    | issue call | await call =>
        cases call <;> first | exact about.elim | exact ⟨trivial, fun _ => rfl⟩
    | cancel => exact ⟨trivial, fun _ => rfl⟩
    | _ => exact about.elim
  · rw [same]
    exact ⟨trivial, fun _ _ => rfl⟩

theorem Action.OfComponent.renews {other : ComponentId} {found : Bool} {connection : ConnectionId}
    (listed : other = component → found = true) (action : Action)
    (about : action.OfComponent other) :
    (renewing component).allows (.renewed found connection) action ∧
      ∀ reply, (renewing component).after (.renewed found connection) action reply =
        .renewed found connection := by
  cases action with
  | issue call => exact ⟨trivial, fun _ => rfl⟩
  | await call => cases call <;> first | cases about; done | exact ⟨trivial, fun _ => rfl⟩
  | lock owner =>
      obtain rfl : owner = other := about
      exact ⟨listed, fun _ => rfl⟩
  | snapshot | takeHandle | replaceHandle | attach | release => exact about.elim
  | _ => exact ⟨trivial, fun _ => rfl⟩

namespace Connection

theorem close_renews (found : Bool) :
    close.Follows (renewing component) (.listed found) fun _ later =>
      later = .closing found none := by
  refine ⟨trivial, fun taken _ => ?_⟩
  cases taken with
  | none => exact rfl
  | some connection =>
      have closes : (renewing component).after (.closing found (some connection))
          (.issue (.closeConnection connection)) () = .closing found none :=
        congrArg (Leg.closing found) (if_pos rfl)
      refine ⟨trivial, fun _ _ => ?_⟩
      change Follows _ _ ((renewing component).after (.closing found (some connection))
        (.issue (.closeConnection connection)) ()) _
      rw [closes]
      exact ⟨trivial, fun _ _ => rfl⟩

theorem init_renews (name : String) (found : Bool) :
    (init name).Follows (renewing component) (.closing found none) fun outcome later =>
      outcome = .ok () ∧ ∃ connection, later = .renewed found connection := by
  refine ⟨trivial, fun _ _ => ⟨trivial, fun built given => ?_⟩⟩
  cases built with
  | error failure => cases given
  | ok _ =>
      refine ⟨trivial, fun _ _ => ⟨trivial, fun opened given => ?_⟩⟩
      cases opened with
      | error failure => cases given
      | ok connection =>
          refine ⟨rfl, fun previous _ => ?_⟩
          cases previous with
          | none => exact ⟨rfl, _, rfl⟩
          | some previous =>
              exact ⟨trivial, fun _ _ => ⟨trivial, fun _ _ => ⟨rfl, _, rfl⟩⟩⟩

section

variable {live : List (ComponentId × Role)} {found : Bool}
  (listed : ∀ entry ∈ live, entry.1 = component → found = true)

include listed

theorem stopAll_renews :
    (stopAll live).Follows (renewing component) (.listed found) fun _ later =>
      later = .listed found :=
  stopAll_returns fun entry member => Component.stop_renews (listed entry member)

end

abbrev renewal (component : ComponentId) : Discipline (Visit × Leg) :=
  (visiting component false).prod (renewing component)

/-- Where no call fails, a restart puts a new connection into the handle and, if it listed the
component, looks at it there for the component. -/
theorem restart_renews (name : String) :
    (restart name).Follows (renewal component) (.away none, .early) fun _ later =>
      ∃ found connection, later.2 = .renewed found connection ∧
        (found = true → ∃ handle, later.1 = .away (some handle)) := by
  rw [restart_eq]
  refine follows_bind.mpr ⟨⟨trivial, trivial⟩, fun _ _ => follows_bind.mpr
    ⟨⟨trivial, trivial⟩, fun live given => ?_⟩⟩
  have settable := given.2
  change (cycle name live).Follows (renewal component)
    (.away none, .listed (decide (component ∈ live.map (·.1)))) _
  generalize isListed : decide (component ∈ live.map (·.1)) = found
  have listed : ∀ entry ∈ live, entry.1 = component → found = true := by
    rintro entry member rfl
    rw [← isListed]
    exact decide_eq_true (List.mem_map_of_mem member)
  refine follows_bind.mpr (((stopAll_visits live).prod (stopAll_renews listed)).imp ?_)
  rintro _ ⟨_, _⟩ ⟨rfl, rfl⟩
  refine follows_bind.mpr (((uses_close.follows Action.OfConnection.visits_not).prod
    (close_renews found)).imp ?_)
  rintro _ ⟨_, _⟩ ⟨rfl, rfl⟩
  refine follows_bind.mpr ((((uses_init name).follows Action.OfConnection.visits_not).prod
    (init_renews name found)).imp ?_)
  rintro _ ⟨_, _⟩ ⟨rfl, rfl, connection, rfl⟩
  refine follows_bind.mpr (((startAll_visits live settable none).prod
    ((uses_startAll live).follows fun action ⟨entry, member, about⟩ =>
      about.renews (listed entry member))).imp ?_)
  rintro _ ⟨visit, _⟩ ⟨⟨visited, unvisited⟩, rfl⟩
  by_cases among : component ∈ live.map (·.1)
  · obtain ⟨handle, rfl⟩ := visited among
    exact ⟨⟨trivial, trivial⟩, fun _ _ => ⟨found, connection, rfl, fun _ => ⟨handle, rfl⟩⟩⟩
  · obtain rfl := unvisited among
    refine ⟨⟨trivial, trivial⟩, fun _ _ => ⟨found, connection, rfl, fun is => ?_⟩⟩
    exact absurd (of_decide_eq_true (isListed.trans is)) among

end Connection

/-!
## Newcomers
-/

def Component.join (component : ComponentId) (role : Role) : Program (Except Failure Unit) := do
  act (.attach component)
  Component.start component role

/-- What a host does that attaches and starts a component. -/
abbrev joining (component : ComponentId) : Discipline (Visit × Unit) :=
  (visiting component true).prod
    (.only fun action => action = .attach component ∨ action.OfComponent component)

theorem Component.join_visits {role : Role} (settable : role.settable = true) :
    (Component.join component role).Follows (joining component) (.away none, ()) fun _ later =>
      ∃ handle, later.1 = .away (some handle) := by
  refine follows_bind.mpr ⟨⟨trivial, .inl rfl⟩, fun _ _ => ?_⟩
  have visits : (Component.start component role).Follows (visiting component true) (.away none)
      fun _ later => ∃ handle, later = .away (some handle) := start_visits settable fun _ => rfl
  exact (visits.prod ((uses_start component role).mono fun _ about => .inr about)).imp
    fun _ _ ended => ended.1

end AmqpEndpoints
