import Mathlib.Data.List.Induction
import AmqpEndpoints.Fault

/-!
# Registrations

Which connection a fault restarts after any registrations of handlers with connections. A handler is
bound to the connection it was registered with last, and stays installed wherever it was registered
before. So a connection that reports to a handler is the one that is restarted if the handler was
registered with it last.
-/

set_option autoImplicit false

namespace AmqpEndpoints

/-- A handler is registered with a connection. -/
structure Registration where
  handler : HandlerKey
  connection : ConnectionKey
  /-- Whether restarts can run where this is done. -/
  canRun : Bool

namespace Registry

variable (registry : Registry) (made : List Registration) (handler : HandlerKey)

def registerAll : Registry :=
  made.foldl (fun registry registration =>
    registry.register registration.handler registration.connection registration.canRun) registry

theorem registerAll_snoc (registration : Registration) :
    registry.registerAll (made ++ [registration]) =
      (registry.registerAll made).register registration.handler registration.connection
        registration.canRun := by
  simp [registerAll]

/-- The connection that a handler was registered with last. -/
def lastConnection : Option ConnectionKey :=
  ((made.filter (·.handler == handler)).getLast?).map (·.connection)

/-- Whether there was a place for restarts to run in one of the registrations of a handler. -/
def everRan : Bool :=
  made.any fun registration => registration.handler == handler && registration.canRun

/-- After any registrations a handler is bound to the connection of its last one, and knows where
restarts can run if it knew before or if one of them told it. -/
theorem registerAll_handlers :
    (registry.registerAll made).handlers handler =
      { target := (lastConnection made handler).or (registry.handlers handler).target
        canRun := (registry.handlers handler).canRun || everRan made handler } := by
  induction made using List.reverseRecOn with
  | nil => simp [registerAll, lastConnection, everRan]
  | append_singleton earlier registration ih =>
      rw [registerAll_snoc, register]
      dsimp only
      by_cases own : handler = registration.handler
      · subst own
        rw [if_pos rfl, ih]
        simp [lastConnection, everRan, List.filter_append, Bool.or_assoc]
      · have other : (registration.handler == handler) = false := by
          simpa using fun same => own (Eq.symm same)
        rw [if_neg own, ih]
        simp [lastConnection, everRan, List.filter_append, other]

end Registry

/-- A fault that is reported to the handler on the builder of a connection restarts that connection
and no other, if the handler was registered with it last and restarts can run somewhere: here, where
the handler was made, or in one of its registrations. If they can run nowhere, nothing is restarted. -/
theorem fault_restarts_connection_of_handler (registry : Registry) (made : List Registration)
    (owned : ConnectionKey → Bool) (fault : Fault) (runsHere : Bool) {handler : HandlerKey}
    {connection : ConnectionKey}
    (installed : (registry.registerAll made).handlerOf connection = some handler)
    (last : Registry.lastConnection made handler = some connection)
    (live : owned connection = true) :
    (registry.registerAll made).scheduleFrom owned connection runsHere fault =
      if runsHere || (registry.handlers handler).canRun || Registry.everRan made handler then
        some connection
      else none := by
  have bound := registry.registerAll_handlers made handler
  rw [last, Option.some_or] at bound
  rw [Registry.scheduleFrom, installed]
  dsimp only
  rw [Registry.schedule, bound]
  simp [live, Bool.or_assoc]

/-- Two handlers, of which one is registered with a second connection and then with the first one
again: each connection is the one that is restarted because of its faults. -/
theorem fault_after_registering_again :
    let made : List Registration := [⟨0, 0, true⟩, ⟨0, 1, false⟩, ⟨1, 1, true⟩, ⟨0, 0, false⟩]
    let registry := ({} : Registry).registerAll made
    registry.scheduleFrom (fun _ => true) 0 false ⟨.consumer, "boom"⟩ = some 0 ∧
      registry.scheduleFrom (fun _ => true) 1 false ⟨.consumer, "boom"⟩ = some 1 := by
  intro made registry
  have restarts := fun {handler connection} =>
    @fault_restarts_connection_of_handler {} made (fun _ => true) ⟨.consumer, "boom"⟩ false
      handler connection
  constructor
  · exact restarts (by decide : registry.handlerOf 0 = some 0) (by decide) rfl
  · exact restarts (by decide : registry.handlerOf 1 = some 1) (by decide) rfl

/-- Faults that do not restart the connection which reports them: restarts can run nowhere; the
handler was registered with another connection afterwards; or another connection has the same
builder, and its handler was installed afterwards. -/
theorem fault_restarts_other_connection :
    let fault : Fault := ⟨.consumer, "boom"⟩
    let placeless := ({} : Registry).registerAll [⟨0, 0, false⟩]
    let rebound := ({} : Registry).registerAll [⟨0, 0, true⟩, ⟨0, 1, true⟩]
    let shared := ({ builder := fun _ => 0 } : Registry).registerAll [⟨0, 0, true⟩, ⟨1, 1, true⟩]
    (placeless.handlerOf 0 = some 0 ∧
        placeless.scheduleFrom (fun _ => true) 0 false fault = none) ∧
      (rebound.handlerOf 0 = some 0 ∧
        rebound.scheduleFrom (fun _ => true) 0 true fault = some 1) ∧
      (shared.handlerOf 0 = some 1 ∧
        shared.scheduleFrom (fun _ => true) 0 true fault = some 1) := by
  decide

end AmqpEndpoints
