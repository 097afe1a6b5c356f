import TypedContainers.Command.Basic
import TypedContainers.Text.Lines

/-!
# Usage

What is printed when help is asked for, made from the options that the commands
know.
-/

namespace TypedContainers.Command

def OptionSpec.usage (spec : OptionSpec) : String :=
  let letter := match spec.letter? with
    | some c => "-" ++ String.singleton c ++ ", "
    | none => ""
  let value := if spec.kind = .value then " <VALUE>" else ""
  "      " ++ letter ++ "--" ++ spec.name ++ value

def usageOf (name : String) (specs : List OptionSpec) : List String :=
  ("  " ++ name) :: specs.map OptionSpec.usage

def usage : String :=
  Text.unlines
    (["Usage: voldelig <COMMAND>", "", "Commands:"] ++ usageOf "init" createOptions ++
      usageOf "generate" generateOptions ++ ["  help"])

def versionLine : String := "voldelig 0.1.0"

end TypedContainers.Command
