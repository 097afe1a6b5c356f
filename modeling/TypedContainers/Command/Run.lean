import TypedContainers.Command.Basic
import TypedContainers.Project.Create
import TypedContainers.Project.Format
import TypedContainers.Project.Generate

/-!
# Running commands

Generation loads the settings, generates, and hands the files it wrote to the
formatter if the command or the settings ask for that.  A dry run starts no
formatter.
-/

namespace TypedContainers.Command

variable {m : Type → Type} [Monad m] [Machine m]

def options (command : GenerateCommand) (settings : Settings) : GenerateOptions where
  outputDir := command.output?.getD settings.outputDir
  force := command.force
  dryRun := command.dryRun
  registry := settings.registry

/-- Generate, format, and tell which containers were skipped. -/
def runGenerate (command : GenerateCommand) : Action m Unit := do
  let settings ← Settings.loadFor command.settings? command.configuration
  let report ← Generation.run command.configuration (options command settings)
  if (command.format || settings.format) && !command.dryRun then
    Formatter.run report.written
  if !report.skipped.isEmpty then
    Action.report (.skipped report.skipped)

def run : Command → Action m Unit
  | .create directory force => do
    let _ ← Project.create directory force
  | .generate command => runGenerate command

/-- How a run of the program ends. -/
inductive Outcome
  | done
  | failed (failure : Failure)
  | rejected (error : UsageError)
deriving Repr, DecidableEq

namespace Outcome

/-- The status that the program exits with.  Help and the version are no
failure. -/
def exitStatus : Outcome → Nat
  | done => 0
  | failed _ => 1
  | rejected .help => 0
  | rejected .version => 0
  | rejected _ => 2

def errorLine? : Outcome → Option String
  | failed failure => some ("Error: " ++ failure.message)
  | _ => none

end Outcome

def runArguments (arguments : List String) : m Outcome := do
  match read arguments with
  | .error e => return .rejected e
  | .ok command =>
    match ← (run command).run with
    | .ok () => return .done
    | .error failure => return .failed failure

end TypedContainers.Command
