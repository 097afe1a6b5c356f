import TypedContainers.Failure
import TypedContainers.Machine

/-!
# Actions

An action makes requests of a machine and may stop early with a failure.
-/

namespace TypedContainers

/-- A computation on a machine that may fail. -/
abbrev Action (m : Type → Type) (α : Type) := ExceptT Failure m α

namespace Action

variable {m : Type → Type} [Monad m] [Machine m]

/-- A request whose failure ends the action. -/
def attempt {α : Type} (failure : IoError → Failure) (request : m (Except IoError α)) :
    Action m α := do
  match ← request with
  | .ok value => return value
  | .error e => throw (failure e)

/-- A result whose failure ends the action. -/
def require {ε α : Type} (failure : ε → Failure) (result : Except ε α) : Action m α :=
  match result with
  | .ok value => return value
  | .error e => throw (failure e)

def report (event : Log.Event) : Action m Unit :=
  ExceptT.lift (Machine.report event)

def pathExists (path : Path) : Action m Bool :=
  ExceptT.lift (Machine.pathExists path)

def environment (name : String) : Action m (Option String) :=
  ExceptT.lift (Machine.environment name)

end Action

end TypedContainers
