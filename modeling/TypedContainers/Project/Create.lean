import TypedContainers.Project.Configuration
import TypedContainers.Project.Settings
import TypedContainers.Starter

/-!
# New projects

A new project gets a configuration and settings to begin with.  Files that are
there already are kept unless overwriting is asked for.
-/

namespace TypedContainers.Project

variable {m : Type → Type} [Monad m] [Machine m]

def starters : List (String × String) :=
  [(Configuration.defaultFile.text, Starter.configuration),
    (Settings.fileName, Starter.settings Settings.defaultOutputDir.text)]

/-- Write starter files into a directory, and give the ones written. -/
def writeStarters (directory : Path) (force : Bool) :
    List (String × String) → Action m (List Path)
  | [] => return []
  | (name, text) :: rest => do
    let file := directory.join name
    if (← Action.pathExists file) && !force then
      Action.report (.keptStarter name)
      writeStarters directory force rest
    else
      Action.attempt (.starterFile file) (Machine.writeText file text)
      Action.report (.wroteStarter file)
      return file :: (← writeStarters directory force rest)

/-- Set up a project in a directory, and give the files written. -/
def create (directory : Path) (force : Bool) : Action m (List Path) := do
  Action.report (.initializing directory)
  Action.attempt (.projectDirectory directory) (Machine.createDirs directory)
  let written ← writeStarters directory force starters
  Action.report .initialized
  return written

end TypedContainers.Project
