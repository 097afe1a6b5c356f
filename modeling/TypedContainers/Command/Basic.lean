import TypedContainers.Command.Options
import TypedContainers.Files.Path

/-!
# Commands

There are two commands: to set up a project, and to generate.  `Command.read`
gives the command that arguments spell, the name of the program in front.
-/

namespace TypedContainers

/-- What generation is asked for on the command line. -/
structure GenerateCommand where
  configuration : Path
  output? : Option Path
  settings? : Option Path
  force : Bool
  dryRun : Bool
  format : Bool
deriving Repr, DecidableEq

inductive Command
  | create (directory : Path) (force : Bool)
  | generate (command : GenerateCommand)
deriving Repr, DecidableEq

namespace Command

def createOptions : List OptionSpec :=
  [⟨"dir", some 'd', .value⟩, ⟨"force", some 'f', .flag⟩, .help]

def generateOptions : List OptionSpec :=
  [⟨"config", some 'c', .value⟩, ⟨"output", some 'o', .value⟩, ⟨"settings", none, .value⟩,
    ⟨"force", some 'f', .flag⟩, ⟨"dry-run", none, .flag⟩, ⟨"fmt", none, .flag⟩, .help]

/-- The command that sets up a project, by default in the working directory. -/
def ofCreateOptions (given : List Given) : Command :=
  .create ⟨(valueOf? "dir" given).getD "."⟩ (isGiven "force" given)

/-- The command that generates, by default from `appsettings.json`. -/
def ofGenerateOptions (given : List Given) : Command :=
  .generate
    { configuration := ⟨(valueOf? "config" given).getD "appsettings.json"⟩
      output? := (valueOf? "output" given).map Path.mk
      settings? := (valueOf? "settings" given).map Path.mk
      force := isGiven "force" given
      dryRun := isGiven "dry-run" given
      format := isGiven "fmt" given }

/-- The words that begin a command. -/
def names : List String :=
  ["init", "generate", "help"]

/-- The complaint about words behind `help`: one of the commands may be named. -/
def helpError : List String → UsageError
  | [] => .help
  | [name] => if names.contains name then .help else .unknownCommand
  | _ => .unknownCommand

/-- The complaint about a double dash in place of a command. -/
def endedError : List String → UsageError
  | [] => .missingCommand
  | name :: _ => if names.contains name then .unknownArgument else .unknownCommand

def strayError (argument : String) : UsageError :=
  match argument.toList with
  | '-' :: '-' :: text =>
    let name := text.takeWhile (· ≠ '=')
    let isHelp := name = ['h', 'e', 'l', 'p']
    if isHelp || name = ['v', 'e', 'r', 's', 'i', 'o', 'n'] then
      if name.length < text.length then .surplusValue
      else if isHelp then .help
      else .version
    else .unknownArgument
  | '-' :: 'h' :: _ => .help
  | '-' :: 'V' :: _ => .version
  | '-' :: _ :: _ => .unknownArgument
  | _ => .unknownCommand

/-- The command that arguments spell, without the name of the program. -/
def ofArguments : List String → Except UsageError Command
  | [] => .error .missingCommand
  | word :: rest =>
    if word = "init" then (readOptions createOptions rest).map ofCreateOptions
    else if word = "generate" then (readOptions generateOptions rest).map ofGenerateOptions
    else if word = "help" then .error (helpError rest)
    else if word = "--" then .error (endedError rest)
    else .error (strayError word)

/-- The command that arguments spell.  The first one, the name of the program,
does not matter. -/
def read (arguments : List String) : Except UsageError Command :=
  ofArguments (arguments.drop 1)

end Command

end TypedContainers
