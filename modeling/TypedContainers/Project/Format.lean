import TypedContainers.Project.Action

/-!
# Formatting

Written files are handed to a formatter, all of them at once.  Without files it is
not started.
-/

namespace TypedContainers.Formatter

variable {m : Type → Type} [Monad m] [Machine m]

/-- The variable that names the formatter. -/
def programVariable : String := "VOLDELIG_RUSTFMT_BIN"

/-- The formatter that is started if none is named. -/
def defaultProgram : String := "rustfmt"

def arguments (files : List Path) : List String :=
  "--edition" :: "2021" :: files.map (·.text)

def run (files : List Path) : Action m Unit := do
  if files.isEmpty then return
  let program := (← Action.environment programVariable).getD defaultProgram
  let success ←
    Action.attempt .formatterUnavailable (Machine.invoke program (arguments files))
  if !success then throw .formatterFailed
  Action.report (.formatted files.length)

end TypedContainers.Formatter
