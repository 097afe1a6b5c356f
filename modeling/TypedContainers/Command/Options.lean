import TypedContainers.Text.Split

/-!
# Options

An option has a long name, and it may have a letter.  A value stands behind an
equals sign, right behind the letter, or in the next argument.  A value in the
next argument is settled late, by the next known option or by the end: until then
an argument that is not known is complained about first.
-/

namespace TypedContainers.Command

/-- Why arguments are not a command.  Asking for help or for the version is one
of the reasons. -/
inductive UsageError
  | help
  | version
  | missingCommand
  | unknownCommand
  | unknownArgument
  | missingValue
  | repeatedArgument
  | surplusValue
deriving Repr, DecidableEq

def UsageError.message : UsageError → String
  | help => "help was asked for"
  | version => "the version was asked for"
  | missingCommand => "a subcommand is required"
  | unknownCommand => "unrecognized subcommand"
  | unknownArgument => "unexpected argument"
  | missingValue => "an option lacks its value"
  | repeatedArgument => "an argument cannot be used multiple times"
  | surplusValue => "a flag takes no value"

inductive OptionKind
  | flag
  | value
  | help
deriving Repr, DecidableEq

structure OptionSpec where
  name : String
  letter? : Option Char
  kind : OptionKind
deriving Repr, DecidableEq

/-- The option that asks for help, which every command knows. -/
def OptionSpec.help : OptionSpec :=
  ⟨"help", some 'h', .help⟩

structure Given where
  name : String
  value : String
deriving Repr, DecidableEq

/-- The state between two arguments. -/
structure OptionState where
  settled : List Given
  /-- An option that waits for its value, or whose value waits to be settled. -/
  pending? : Option (String × Option String)
  /-- Whether a double dash has ended the options. -/
  ended : Bool
deriving Repr, DecidableEq

namespace OptionState

def start : OptionState :=
  ⟨[], none, false⟩

/-- Settle an option, which may be given once only. -/
def settle (given : Given) (state : OptionState) : Except UsageError OptionState :=
  if state.settled.any (·.name = given.name) then .error .repeatedArgument
  else .ok { state with settled := state.settled ++ [given] }

/-- Settle the value of an option, which may not be empty. -/
def settleValue (given : Given) (state : OptionState) : Except UsageError OptionState := do
  let state ← state.settle given
  if given.value = "" then throw .missingValue
  return state

/-- Settle the option that waits. -/
def resolve (state : OptionState) : Except UsageError OptionState :=
  match state.pending? with
  | none => .ok state
  | some (_, none) => .error .missingValue
  | some (name, some value) => { state with pending? := none }.settleValue ⟨name, value⟩

/-- An option without a value in its argument. -/
def take (spec : OptionSpec) (state : OptionState) : Except UsageError OptionState := do
  let state ← state.resolve
  match spec.kind with
  | .help => throw .help
  | .flag => state.settle ⟨spec.name, ""⟩
  | .value => return { state with pending? := some (spec.name, none) }

/-- An option with a value in its argument. -/
def takeAttached (spec : OptionSpec) (value : String) (state : OptionState) :
    Except UsageError OptionState := do
  let state ← state.resolve
  state.settleValue ⟨spec.name, value⟩

/-- Letters behind a dash.  A letter that takes a value takes the rest, without an
equals sign in front. -/
def takeLetters (specs : List OptionSpec) :
    List Char → OptionState → Except UsageError OptionState
  | [], state => .ok state
  | c :: rest, state =>
    match specs.find? (·.letter? = some c) with
    | none => .error .unknownArgument
    | some spec =>
      if spec.kind = .value && !rest.isEmpty then
        let value := if rest.head? = some '=' then rest.drop 1 else rest
        state.takeAttached spec (String.ofList value)
      else do
        let state ← state.take spec
        takeLetters specs rest state

/-- A long name behind two dashes, with the value behind an equals sign. -/
def takeLong (specs : List OptionSpec) (text : List Char) (state : OptionState) :
    Except UsageError OptionState :=
  let name := text.takeWhile (· ≠ '=')
  match specs.find? (·.name.toList = name) with
  | none => .error .unknownArgument
  | some spec =>
    match text.drop name.length with
    | [] => state.take spec
    | _ :: value =>
      if spec.kind = .value then state.takeAttached spec (String.ofList value)
      else .error .surplusValue

/-- An argument that is no option: the value of the option that waits for one. -/
def takeWord (word : String) (state : OptionState) : Except UsageError OptionState :=
  match state.pending? with
  | some (name, none) => .ok { state with pending? := some (name, some word) }
  | _ => .error .unknownArgument

def step (specs : List OptionSpec) (state : OptionState) (argument : String) :
    Except UsageError OptionState :=
  if state.ended then .error .unknownArgument
  else
    match argument.toList with
    | ['-', '-'] => .ok { state with ended := true }
    | '-' :: '-' :: text => state.takeLong specs text
    | '-' :: c :: letters => state.takeLetters specs (c :: letters)
    | _ => state.takeWord argument

end OptionState

/-- The options among some arguments, which must hold nothing else. -/
def readOptions (specs : List OptionSpec) (arguments : List String) :
    Except UsageError (List Given) := do
  let state ← arguments.foldlM (OptionState.step specs) .start
  let state ← state.resolve
  return state.settled

def valueOf? (name : String) (given : List Given) : Option String :=
  (given.find? (·.name = name)).map (·.value)

def isGiven (name : String) (given : List Given) : Bool :=
  given.any (·.name = name)

end TypedContainers.Command
