import TypedContainers.Command.Run
import TypedContainers.Command.Usage
import TypedContainers.Log.Line

/-!
# The program

The real machine: files, environment, and the standard error stream for events.
Programs cannot be started from here, so that a request to format ends in an
error after everything was written.
-/

namespace TypedContainers

/-- How the events of a run are filtered and laid out. -/
structure Reporting where
  layout : Log.Layout
  filter : Log.Filter

abbrev Session := ReaderT Reporting IO

namespace Session

def ioError : IO.Error → IoError
  | .noFileOrDirectory .. => .notFound
  | .alreadyExists .. => .alreadyExists
  | .permissionDenied .. => .permissionDenied
  | .inappropriateType _ code details =>
    if code = 20 then .notADirectory
    else if code = 21 then .isADirectory
    else .other details
  | e => .other (toString e)

/-- A request to the system with its refusal as a reply. -/
def ask {α : Type} (request : IO α) : Session (Except IoError α) := do
  match ← request.toBaseIO with
  | .ok value => return .ok value
  | .error e => return .error (ioError e)

def readText (path : Path) : Session (Except IoError String) := do
  match ← ask (IO.FS.readBinFile path.text) with
  | .error e => return .error e
  | .ok octets =>
    match String.fromUTF8? octets with
    | some text => return .ok text
    | none => return .error .invalidData

def pathExists (path : Path) : Session Bool := do
  match ← ask (IO.FS.Handle.mk path.text .read) with
  | .ok _ => return true
  | .error e => return e = .permissionDenied

def report (event : Log.Event) : Session Unit := do
  let reporting ← read
  if event.passes reporting.filter then
    IO.eprintln (event.render reporting.layout)

instance : Machine Session where
  pathExists := pathExists
  readText := readText
  writeText path text := ask (IO.FS.writeFile path.text text)
  createDirs path :=
    if path.text = "" then return .ok () else ask (IO.FS.createDirAll path.text)
  environment name := IO.getEnv name
  invoke program _ := return .error (.other ("cannot start " ++ program))
  report := report

end Session

/-- The environment variables that logging depends on. -/
def loggingVariables : List String :=
  [Log.Options.levelVariable, Log.Options.layoutVariable, Log.Options.targetFilterVariable,
    Log.Options.locationVariable, Log.Options.filterVariable]

/-- Set up logging, carry out the command, and say how it ended. -/
def runProgram (arguments : List String) : IO UInt32 := do
  let values ← loggingVariables.mapM fun name => return (name, ← IO.getEnv name)
  let env (name : String) : Option String := (values.lookup name).join
  let options := Log.Options.ofEnvironment env
  options.warnings.forM fun warning => IO.eprintln warning.message
  let run : Session Command.Outcome := Command.runArguments ("voldelig" :: arguments)
  let outcome ← run.run ⟨options.layout, options.filter env⟩
  match outcome with
  | .done => pure ()
  | .failed _ => outcome.errorLine?.forM IO.eprintln
  | .rejected .help => IO.print Command.usage
  | .rejected .version => IO.println Command.versionLine
  | .rejected error => IO.eprintln ("error: " ++ error.message)
  return outcome.exitStatus.toUInt32

end TypedContainers

def main (arguments : List String) : IO UInt32 :=
  TypedContainers.runProgram arguments
