import AmqpEndpoints.Session
import AmqpEndpoints.Proofs.Footprint

/-!
# Moves

What commands do to the world of a session, told as a list of moves. A move is one operation of the
library, run to its end. What each move keeps, all sessions keep after any commands.
-/

set_option autoImplicit false

namespace AmqpEndpoints

open Program

/-- One operation on the world of a session. -/
inductive Move where
  | script (outcomes : Script)
  | make (role : Role)
  | attach (component : ComponentId)
  | release (component : ComponentId)
  | start (component : ComponentId) (role : Role)
  | stop (component : ComponentId)
  | produce (component : ComponentId) (settings : ProducerSettings) (publication : Publication)
  | receive (dispatcher : Dispatcher) (propagator : Trace.Propagator)
      (item : Except Failure Delivery)
  | cancel (stream : StreamId)
  | init
  | close
  | restart
  /-- Restarts because of a fault. -/
  | repair

namespace World

/-- What a component does. -/
def roleOf (world : World) (component : ComponentId) : Option Role :=
  (world.components[component]?).map (·.role)

def move (world : World) (name : String) : Move → World
  | .script outcomes =>
    { world with broker := { world.broker with script := world.broker.script ++ outcomes } }
  | .make role => (world.addComponent role).2
  | .attach component => ((act (.attach component)).run world).2
  | .release component => ((act (.release component)).run world).2
  | .start component role => ((Component.start component role).run world).2
  | .stop component => ((Component.stop component).run world).2
  | .produce component settings publication =>
    ((Producer.produce component settings publication.context publication.message).run world).2
  | .receive dispatcher propagator item => ((dispatcher.receive propagator item).run world).2
  | .cancel stream => ((act (.cancel stream)).run world).2
  | .init => ((Connection.init name).run world).2
  | .close => (Connection.close.run world).2
  | .restart => ((Connection.restart name).run world).2
  | .repair => ((Fault.restart name).run world).2

end World

/-- Whether the components that a move is about are there and do what the move takes them to do. -/
def Move.Fits (world : World) : Move → Prop
  | attach component => (world.roleOf component).isSome
  | start component role => world.roleOf component = some role
  | stop component => (world.roleOf component).isSome
  | produce component settings _ => world.roleOf component = some (.producer settings)
  | _ => True

/-- The worlds that moves lead to, each of which fits where it is made. -/
inductive World.Reaches (name : String) (origin : World) : List Move → World → Prop where
  | refl : Reaches name origin [] origin
  | move {made : List Move} {world : World} {move : Move}
      (earlier : Reaches name origin made world) (fits : move.Fits world) :
      Reaches name origin (made ++ [move]) (world.move name move)

namespace World.Reaches

variable {name : String} {origin middle world : World} {first second : List Move}

theorem trans (earlier : Reaches name origin first middle)
    (later : Reaches name middle second world) : Reaches name origin (first ++ second) world := by
  induction later with
  | refl => simpa using earlier
  | move _ fits ih =>
      rw [← List.append_assoc]
      exact .move ih fits

theorem single {move : Move} (fits : move.Fits origin) :
    Reaches name origin [move] (origin.move name move) :=
  .move .refl fits

theorem eq_of_nil (reaches : Reaches name origin [] world) : world = origin := by
  generalize none : ([] : List Move) = moves at reaches
  cases reaches with
  | refl => rfl
  | move => simp at none

theorem of_cons {move : Move} {rest : List Move} (reaches : Reaches name origin (move :: rest) world) :
    move.Fits origin ∧ Reaches name (origin.move name move) rest world := by
  generalize whole : move :: rest = moves at reaches
  induction reaches generalizing rest with
  | refl => cases whole
  | @move made world last earlier fits ih =>
      cases made with
      | nil =>
          cases whole
          obtain rfl := earlier.eq_of_nil
          exact ⟨fits, .refl⟩
      | cons head made =>
          cases whole
          obtain ⟨first, later⟩ := ih rfl
          exact ⟨first, .move later fits⟩

end World.Reaches

/-!
## Commands as moves
-/

namespace Session

variable (session : Session)

def dropMoves (name : String) : List Move :=
  (session.items.get? name).toList.map .release

def addMoves (name : String) (role : Role) (attached : Bool) : List Move :=
  .make role :: (if attached then [.attach session.world.components.length] else []) ++
    session.dropMoves name

def itemMoves (name : String) (about : ComponentId → Component → List Move) : List Move :=
  (session.find? name).elim [] fun found => about found.1 found.2

def produceMoves (name : String) (publications : List Publication) : List Move :=
  session.itemMoves name fun id component =>
    match component.role with
    | .producer settings => publications.map (.produce id settings)
    | .consumer .. => []

def faultMoves (fault : Fault) (runsHere : Bool) : List Move :=
  ((session.registry.schedule session.ownsAny handlerKey runsHere fault).map fun _ =>
    Move.repair).toList

def movesOf : Command → List Move
  | .script outcomes => [.script outcomes]
  | .init => [.init]
  | .restart => [.restart]
  | .close => [.close]
  | .producer name settings => session.addMoves name (.producer settings) true
  | .consumer name settings => session.addMoves name (.consumer (settings.consumer name)) true
  | .standardProducer name queue properties =>
    session.addMoves name
      (.producer { queue := queue, properties := properties, behaviour := .noException }) false
  | .builtConsumer name consumer => session.addMoves name (.consumer consumer) false
  | .attach name => session.itemMoves name fun id _ => [.attach id]
  | .drop name => session.dropMoves name
  | .start name => session.itemMoves name fun id component => [.start id component.role]
  | .stop name => session.itemMoves name fun id _ => [.stop id]
  | .produce name publication => session.produceMoves name [publication]
  | .produceAll name publications => session.produceMoves name publications
  | .deliver stream item =>
    if stream < session.world.broker.streams then
      (session.world.dispatchers[stream]?.join).toList.map (.receive · session.propagator item)
    else []
  | .endStream stream =>
    if stream < session.world.broker.streams then [.cancel stream] else []
  | .fault fault outside => session.faultMoves fault (!outside)
  | .faults faults => faults.flatMap (session.faultMoves · true)
  | .hostFault cause => session.faultMoves ⟨.connectionException, cause⟩ true
  | .report fault =>
    ((session.registry.scheduleFrom session.ownsAny connectionKey true fault).map fun _ =>
      Move.repair).toList
  | .connected => []
  | .dropConnection => []
  | .prepare _ => []
  | .status _ => []
  | .installPropagator _ => []
  | .registerHandler => []
  | .lastFailure => []
  | .misconfigured _ => []

def after (session : Session) (commands : List Command) : Session :=
  commands.foldl (fun session command => (session.step command).2) session

def history (session : Session) : List Command → List Move
  | [] => []
  | command :: rest => session.movesOf command ++ (session.step command).2.history rest

end Session

theorem World.lt_of_roleOf {world : World} {component : ComponentId} {role : Role}
    (is : world.roleOf component = some role) : component < world.components.length := by
  obtain ⟨found, there, _⟩ := Option.map_eq_some_iff.mp is
  exact (List.getElem?_eq_some_iff.mp there).1

theorem World.roleOf_perform (world : World) (action : Action) (component : ComponentId) :
    (world.perform action).2.roleOf component = world.roleOf component := by
  unfold roleOf
  rw [perform_component, Option.map_map]
  congr 1
  funext found
  by_cases about : action.component? = some component
  · cases action <;> simp_all [Action.effect]
  · simp [about]

theorem World.roleOf_run {α : Type} (program : Program α) (world : World)
    (component : ComponentId) :
    (program.run world).2.roleOf component = world.roleOf component := by
  induction program generalizing world with
  | done result => rfl
  | step action next ih => rw [run_step, ih, roleOf_perform]

namespace Session

variable (session : Session)

theorem roleOf_of_find {name : String} {id : ComponentId} {component : Component}
    (found : session.find? name = some (id, component)) :
    session.world.roleOf id = some component.role := by
  unfold find? at found
  cases named : session.items.get? name with
  | none => simp [named] at found
  | some number =>
      cases there : session.world.components[number]? with
      | none => simp [named, there] at found
      | some present =>
          simp [named, there] at found
          obtain ⟨rfl, rfl⟩ := found
          simp [World.roleOf, there]

theorem dropItem_reaches (name : String) :
    session.world.Reaches session.name (session.dropMoves name) (session.dropItem name).world := by
  unfold dropMoves dropItem
  cases session.items.get? name with
  | none => exact .refl
  | some id => exact .single trivial

theorem addItem_reaches (name : String) (role : Role) (attached : Bool) :
    session.world.Reaches session.name (session.addMoves name role attached)
      (session.addItem name role attached).world := by
  let made := (session.world.addComponent role).2
  have makes : session.world.Reaches session.name [.make role] made := .single trivial
  cases attached with
  | false => exact makes.trans (dropItem_reaches { session with world := made } name)
  | true =>
      let joined := ((act (.attach session.world.components.length)).run made).2
      have attaches : made.Reaches session.name [.attach session.world.components.length] joined :=
        .single (by simp [made, Move.Fits, World.roleOf, World.addComponent])
      exact (makes.trans attaches).trans
        (dropItem_reaches { session with world := joined } name)

theorem produceAll_reaches {id : ComponentId} {settings : ProducerSettings}
    (present : session.world.roleOf id = some (.producer settings))
    (publications : List Publication) :
    session.world.Reaches session.name (publications.map (.produce id settings))
      (session.produceAll id settings publications).2.world := by
  induction publications generalizing session with
  | nil => exact .refl
  | cons publication rest ih =>
      have first : session.world.Reaches session.name [.produce id settings publication]
          (session.produce id settings publication).2.world := .single present
      have kept : (session.produce id settings publication).2.world.roleOf id =
          some (.producer settings) :=
        (World.roleOf_run (Producer.produce id settings publication.context publication.message)
          session.world id).trans present
      exact first.trans (ih (session.produce id settings publication).2 kept)

theorem handle_reaches (fault : Fault) (runsHere : Bool) :
    session.world.Reaches session.name (session.faultMoves fault runsHere)
      (session.handle fault runsHere).2.world := by
  unfold faultMoves handle
  cases session.registry.schedule session.ownsAny handlerKey runsHere fault with
  | none => exact .refl
  | some connection => exact .single trivial

theorem handle_name (fault : Fault) (runsHere : Bool) :
    (session.handle fault runsHere).2.name = session.name := by
  unfold handle
  split <;> rfl

theorem handle_faultMoves (fault : Fault) (runsHere : Bool) :
    (session.handle fault runsHere).2.faultMoves = session.faultMoves := by
  unfold handle
  split <;> rfl

theorem handleAll_reaches (faults : List Fault) :
    session.world.Reaches session.name (faults.flatMap (session.faultMoves · true))
      (session.handleAll faults).2.world := by
  induction faults generalizing session with
  | nil => exact .refl
  | cons fault rest ih =>
      have others := ih (session.handle fault true).2
      rw [handle_name, handle_faultMoves] at others
      exact (session.handle_reaches fault true).trans others

private theorem connected_world (world : World) :
    (Connection.connected.run world).2 = world := by
  have reads : Connection.connected.Uses (· = .readHandle) := by
    refine Uses.attempt_bind (Uses.attempt_bind ?_ fun handle => ?_) fun _ => uses_pure _
    · exact Uses.bind (uses_act rfl) fun _ => uses_pure _
    · cases handle <;> exact uses_pure _
  exact reads.run_eq id (fun action only world => by subst only; rfl) world

/-- A command does to the world what its moves do. -/
theorem step_reaches (command : Command) :
    session.world.Reaches session.name (session.movesOf command)
      (session.step command).2.world := by
  cases command with
  | script | init | restart | close => exact .single trivial
  | producer | consumer | standardProducer | builtConsumer => exact session.addItem_reaches _ _ _
  | drop name => exact session.dropItem_reaches name
  | attach name | start name | stop name =>
      simp only [movesOf, itemMoves, step, withItem]
      cases found : session.find? name with
      | none => exact .refl
      | some item => exact .single (by simp [Move.Fits, session.roleOf_of_find found])
  | produce name | produceAll name =>
      simp only [movesOf, produceMoves, itemMoves, step, withProducer, withItem]
      cases found : session.find? name with
      | none => exact .refl
      | some item =>
          obtain ⟨id, role, held, locked, released⟩ := item
          have present := session.roleOf_of_find found
          cases role with
          | consumer => exact .refl
          | producer settings => exact session.produceAll_reaches present _
  | prepare name | status name =>
      simp only [movesOf, step, withItem]
      cases session.find? name <;> exact .refl
  | deliver stream item =>
      simp only [movesOf, step]
      split
      · cases session.world.dispatchers[stream]?.join with
        | none => exact .refl
        | some dispatcher => exact .single trivial
      · exact .refl
  | endStream stream =>
      simp only [movesOf, step]
      split
      · exact .single trivial
      · exact .refl
  | fault | hostFault => exact session.handle_reaches _ _
  | faults faults => exact session.handleAll_reaches faults
  | report fault =>
      simp only [movesOf, step, Registry.scheduleFrom]
      cases session.registry.handlerOf connectionKey with
      | none => exact .refl
      | some handler =>
          dsimp only
          cases session.registry.schedule session.ownsAny handler true fault with
          | none => exact .refl
          | some connection => exact .single trivial
  | connected =>
      have same : (session.step .connected).2.world = session.world := connected_world session.world
      rw [same]
      exact .refl
  | dropConnection | installPropagator | registerHandler | lastFailure | misconfigured => exact .refl

theorem dropItem_name (name : String) : (session.dropItem name).name = session.name := by
  unfold dropItem
  split <;> rfl

theorem addItem_name (name : String) (role : Role) (attached : Bool) :
    (session.addItem name role attached).name = session.name := by
  cases attached <;> exact dropItem_name _ name

theorem produceAll_name (id : ComponentId) (settings : ProducerSettings)
    (publications : List Publication) :
    (session.produceAll id settings publications).2.name = session.name := by
  induction publications generalizing session with
  | nil => rfl
  | cons publication rest ih => exact ih _

theorem handleAll_name (faults : List Fault) :
    (session.handleAll faults).2.name = session.name := by
  induction faults generalizing session with
  | nil => rfl
  | cons fault rest ih => exact (ih _).trans (session.handle_name fault true)

theorem step_name (command : Command) : (session.step command).2.name = session.name := by
  cases command with
  | producer | consumer | standardProducer | builtConsumer => exact session.addItem_name ..
  | drop name => exact session.dropItem_name name
  | attach name | start name | stop name | prepare name | status name =>
      simp only [step, withItem]
      cases session.find? name <;> rfl
  | produce name | produceAll name =>
      simp only [step, withProducer, withItem]
      cases session.find? name with
      | none => rfl
      | some item =>
          obtain ⟨id, role, held, locked, released⟩ := item
          cases role with
          | consumer => rfl
          | producer settings => first | rfl | exact session.produceAll_name id settings _
  | deliver stream =>
      simp only [step]
      split
      · cases session.world.dispatchers[stream]?.join <;> rfl
      · rfl
  | endStream =>
      simp only [step]
      split <;> rfl
  | fault | hostFault => exact session.handle_name _ _
  | faults faults => exact session.handleAll_name faults
  | report fault =>
      simp only [step]
      cases session.registry.handlerOf connectionKey with
      | none => rfl
      | some handler =>
          cases session.registry.scheduleFrom session.ownsAny connectionKey true fault <;> rfl
  | _ => rfl

theorem after_reaches (commands : List Command) :
    session.world.Reaches session.name (session.history commands)
      (session.after commands).world := by
  induction commands generalizing session with
  | nil => exact .refl
  | cons command rest ih =>
      have later := ih (session.step command).2
      rw [step_name] at later
      exact (session.step_reaches command).trans later

end Session

end AmqpEndpoints
