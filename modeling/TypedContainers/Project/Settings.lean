import TypedContainers.Project.Action

/-!
# The settings of a project

Settings are looked for beside the configuration unless a file is named.  A file
that was named has to be there; one that was only looked for need not be.
-/

namespace TypedContainers.Settings

variable {m : Type → Type} [Monad m] [Machine m]

/-- The name of the file that is looked for. -/
def fileName : String := "voldelig.toml"

def beside (configuration : Path) : Path :=
  match configuration.parent? with
  | some directory => directory.join fileName
  | none => ⟨fileName⟩

/-- The settings of a file, if it is there. -/
def load (file : Path) : Action m (Option Settings) := do
  if !(← Action.pathExists file) then return none
  let text ← Action.attempt (.settingsUnreadable file) (Machine.readText file)
  let settings ← Action.require (.settingsInvalid file) (parse text)
  return some settings

/-- The file whose settings apply: the named one, or the one beside the
configuration if it is there. -/
def resolve (named? : Option Path) (configuration : Path) : Action m (Option Path) := do
  match named? with
  | some file => return some file
  | none =>
    let candidate := beside configuration
    if ← Action.pathExists candidate then return some candidate else return none

/-- The settings that apply to a configuration, the default ones if there is no
file. -/
def loadFor (named? : Option Path) (configuration : Path) : Action m Settings := do
  match ← resolve named? configuration with
  | none => return {}
  | some file =>
    match ← load file with
    | some settings => return settings
    | none => throw (.settingsMissing file)

end TypedContainers.Settings
