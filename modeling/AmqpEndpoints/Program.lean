import AmqpEndpoints.World

/-!
# Programs

A program is a finite tree of actions: each reply decides how it goes on. `Program.run` does all of
its actions one after the other; several programs at once do theirs in any order that the locks
allow.
-/

set_option autoImplicit false

namespace AmqpEndpoints

/-- A sequence of actions with a result. -/
inductive Program (α : Type) where
  | done (result : α)
  | step (action : Action) (next : action.Reply → Program α)

namespace Program

variable {α β γ : Type}

def bind : Program α → (α → Program β) → Program β
  | done result, next => next result
  | step action rest, next => step action fun reply => (rest reply).bind next

instance : Monad Program where
  pure := done
  bind := bind

def act (action : Action) : Program action.Reply :=
  step action done

/-- What a program gives, and the world after it. -/
def run : Program α → World → α × World
  | done result, world => (result, world)
  | step action next, world =>
    let (reply, changed) := world.perform action
    (next reply).run changed

@[simp] theorem run_done (result : α) (world : World) : (done result).run world = (result, world) :=
  rfl

@[simp] theorem run_pure (result : α) (world : World) :
    (pure result : Program α).run world = (result, world) :=
  rfl

@[simp] theorem run_step (action : Action) (next : action.Reply → Program α) (world : World) :
    (step action next).run world =
      (next (world.perform action).1).run (world.perform action).2 :=
  rfl

@[simp] theorem run_act (action : Action) (world : World) :
    (act action).run world = world.perform action :=
  rfl

@[simp] theorem run_bind (program : Program α) (next : α → Program β) (world : World) :
    (program >>= next).run world = (next (program.run world).1).run (program.run world).2 := by
  change (program.bind next).run world = _
  induction program generalizing world with
  | done result => rfl
  | step action rest ih => exact ih (world.perform action).1 (world.perform action).2

theorem bind_assoc (program : Program α) (first : α → Program β) (second : β → Program γ) :
    (program.bind first).bind second = program.bind fun result => (first result).bind second := by
  induction program with
  | done result => rfl
  | step action rest ih =>
      simp only [bind]
      congr 1
      funext reply
      exact ih reply

theorem bind_done (program : Program α) : program.bind done = program := by
  induction program with
  | done result => rfl
  | step action rest ih =>
      simp only [bind]
      congr 1
      funext reply
      exact ih reply

instance : LawfulMonad Program :=
  LawfulMonad.mk' Program
    (fun program => bind_done program)
    (fun _ _ => rfl)
    (fun program first second => bind_assoc program first second)

def call (request : Call) : Program request.Reply := do
  act (.issue request)
  act (.await request)

abbrev Attempt (α : Type) := ExceptT Failure Program α

def attempt (request : Call) : Attempt request.Result :=
  ExceptT.mk (call request)

end Program

end AmqpEndpoints
