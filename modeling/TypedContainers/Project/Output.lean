import TypedContainers.Project.Action

/-!
# Written files

A unit is written to a file of its own, which is kept if it is there already
unless overwriting is asked for.  The module list is always written.
-/

namespace TypedContainers.Output

variable {m : Type → Type} [Monad m] [Machine m]

def unitFile (directory : Path) (unit : GeneratedUnit) : Path :=
  directory.join (unit.fileBaseName ++ ".rs")

def moduleListFile (directory : Path) : Path :=
  directory.join "mod.rs"

/-- Write a unit, and tell whether it was written. -/
def writeUnit (directory : Path) (unit : GeneratedUnit) (force : Bool) : Action m Bool := do
  let file := unitFile directory unit
  if (← Action.pathExists file) && !force then
    Action.report (.keptFile file)
    return false
  else
    Action.attempt .outputFile (Machine.writeText file unit.text)
    Action.report (.wroteUnit file)
    return true

/-- Write the module list, and give its file. -/
def writeModuleList (directory : Path) (modules : List String) : Action m Path := do
  let file := moduleListFile directory
  Action.attempt .outputFile (Machine.writeText file (Source.moduleList modules))
  Action.report (.wroteModuleList file)
  return file

/-- The files of a list of units: the ones written, and the ones kept. -/
structure Files where
  written : List Path
  kept : List Path
deriving Repr, DecidableEq, Inhabited

def writeUnits (directory : Path) (force : Bool) : List GeneratedUnit → Action m Files
  | [] => return ⟨[], []⟩
  | unit :: rest => do
    let wasWritten ← writeUnit directory unit force
    let files ← writeUnits directory force rest
    let file := unitFile directory unit
    if wasWritten then return { files with written := file :: files.written }
    else return { files with kept := file :: files.kept }

end TypedContainers.Output
