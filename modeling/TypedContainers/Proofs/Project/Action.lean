import TypedContainers.Project.Action
import TypedContainers.World

/-!
# Actions in a world

An action that is run in a world gives a value or a failure, and the world after
it.  A failure keeps what was done before it.
-/

namespace TypedContainers.Action

variable {α β : Type}

/-- What an action gives in a world, and the world after it. -/
def runIn (action : Action (StateM World) α) (world : World) : Except Failure α × World :=
  action.run world

@[simp]
theorem runIn_pure (value : α) (world : World) :
    (pure value : Action (StateM World) α).runIn world = (.ok value, world) := rfl

@[simp]
theorem runIn_throw (failure : Failure) (world : World) :
    (throw failure : Action (StateM World) α).runIn world = (.error failure, world) := rfl

/-- A sequence of two actions stops at the failure of the first. -/
theorem runIn_bind (action : Action (StateM World) α) (next : α → Action (StateM World) β)
    (world : World) :
    (action >>= next).runIn world =
      match action.runIn world with
      | (.ok value, world) => (next value).runIn world
      | (.error failure, world) => (.error failure, world) := by
  change (match action.runIn world with
    | (result, after) => ExceptT.bindCont next result after) = _
  obtain ⟨result, after⟩ := action.runIn world
  cases result with
  | error failure => rfl
  | ok value => rfl

@[simp]
theorem runIn_report (event : Log.Event) (world : World) :
    (report event : Action (StateM World) Unit).runIn world =
      (.ok (), world.report event) := rfl

@[simp]
theorem runIn_pathExists (path : Path) (world : World) :
    (pathExists path : Action (StateM World) Bool).runIn world =
      (.ok (world.pathExists path), world) := rfl

theorem runIn_attempt (failure : IoError → Failure)
    (request : StateM World (Except IoError α)) (world : World) :
    (attempt failure request).runIn world =
      ((request world).1.mapError failure, (request world).2) := by
  have hlift : runIn (ExceptT.lift request) world =
      (.ok (request world).1, (request world).2) := rfl
  change runIn (ExceptT.lift request >>= _) world = _
  rw [runIn_bind, hlift]
  cases hrequest : (request world).1 with
  | error e => rfl
  | ok value => rfl

@[simp]
theorem runIn_require {ε : Type} (failure : ε → Failure) (result : Except ε α)
    (world : World) :
    (require failure result : Action (StateM World) α).runIn world =
      (result.mapError failure, world) := by
  cases result with
  | error e => rfl
  | ok value => rfl

end TypedContainers.Action
