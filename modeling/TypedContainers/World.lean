import TypedContainers.Machine

/-!
# Worlds

A machine whose whole state is a value: a file tree with a working directory,
environment variables, and a program that may be started.  It remembers what was
reported and which programs were started, so that statements about a run can
speak of these.
-/

namespace TypedContainers

/-- A program that was started, with its arguments. -/
structure Invocation where
  program : String
  arguments : List String
deriving Repr, DecidableEq

/-- The state of a machine. -/
structure World where
  tree : FileTree
  workingDir : Location
  environment : List (String × String)
  /-- What starting a program does: whether it is successful, and to the files. -/
  start : Invocation → FileTree → Except IoError (Bool × FileTree)
  /-- The events reported, in order. -/
  events : List Log.Event
  /-- The programs started, in order. -/
  invocations : List Invocation

namespace World

def pathExists (path : Path) (world : World) : Bool :=
  world.tree.pathExists world.workingDir path

def readText (path : Path) (world : World) : Except IoError String :=
  world.tree.readText world.workingDir path

/-- Write a file, or fail and change nothing. -/
def writeText (path : Path) (text : String) (world : World) :
    Except IoError Unit × World :=
  match world.tree.writeFile world.workingDir path (.text text) with
  | .ok tree => (.ok (), { world with tree := tree })
  | .error e => (.error e, world)

def createDirs (path : Path) (world : World) : Except IoError Unit × World :=
  let (result, tree) := world.tree.createDirs world.workingDir path
  (result, { world with tree := tree })

/-- Start a program.  One that cannot be started changes nothing, and no NUL may stand
in its name or its arguments. -/
def invoke (program : String) (arguments : List String) (world : World) :
    Except IoError Bool × World :=
  if (program :: arguments).any (·.contains '\x00') then (.error .invalidInput, world)
  else
    let invocation : Invocation := ⟨program, arguments⟩
    let world := { world with invocations := world.invocations ++ [invocation] }
    match world.start invocation world.tree with
    | .ok (success, tree) => (.ok success, { world with tree := tree })
    | .error e => (.error e, world)

def report (event : Log.Event) (world : World) : World :=
  { world with events := world.events ++ [event] }

instance : Machine (StateM World) where
  pathExists path := fun world => (world.pathExists path, world)
  readText path := fun world => (world.readText path, world)
  writeText path text := World.writeText path text
  createDirs path := World.createDirs path
  environment name := fun world => (world.environment.lookup name, world)
  invoke program arguments := World.invoke program arguments
  report event := fun world => ((), world.report event)

end World

end TypedContainers
