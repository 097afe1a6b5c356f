import TypedContainers.Log.Filter

/-!
# Logging options

Logging is set up from environment variables, none of which can make a run fail:
a value that is not understood counts as missing, and a directive that is not
understood is left out with a warning.
-/

namespace TypedContainers.Log

inductive Layout
  | compact
  | pretty
  | json
deriving Repr, DecidableEq, Inhabited

/-- The layout of a name in any case, compact for other texts. -/
def Layout.ofName (text : String) : Layout :=
  match Naming.lower text with
  | "pretty" => .pretty
  | "json" => .json
  | _ => .compact

/-- How events are filtered and laid out. -/
structure Options where
  levelName : String
  layout : Layout
  targetFilter? : Option String
  includeLocation : Bool
deriving Repr, DecidableEq, Inhabited

/-- A directive that is not understood. -/
structure Warning where
  directive : String
deriving Repr, DecidableEq

def Warning.message (warning : Warning) : String :=
  "Warning: Invalid log filter directive: " ++ warning.directive

/-- A filter that is being set up, with the warnings so far. -/
structure Setup where
  filter : Filter
  warnings : List Warning
deriving Repr, DecidableEq

/-- Behind one more piece of the additional directives.  Blanks around it do not count, and
one that is blank does nothing. -/
def Setup.take (setup : Setup) (piece : List Char) : Setup :=
  let item := Text.trim Text.isSpace piece
  if item.isEmpty then setup
  else
    match Directive.ofText? item with
    | some directive => { setup with filter := setup.filter.add directive }
    | none => { setup with warnings := setup.warnings ++ [⟨String.ofList item⟩] }

namespace Options

def levelVariable : String := "VOLDELIG_LOG_LEVEL"

def layoutVariable : String := "VOLDELIG_LOG_FORMAT"

/-- The variable that lists additional directives. -/
def targetFilterVariable : String := "VOLDELIG_LOG_TARGET_FILTER"

/-- The variable that asks for the place of each event. -/
def locationVariable : String := "VOLDELIG_LOG_INCLUDE_LOCATION"

/-- The variable whose filter replaces that of the level. -/
def filterVariable : String := "RUST_LOG"

def ofEnvironment (env : String → Option String) : Options where
  levelName := (env levelVariable).getD "info"
  layout := ((env layoutVariable).map Layout.ofName).getD .compact
  targetFilter? := env targetFilterVariable
  includeLocation := env locationVariable = some "true"

/-- The level, which is `info` unless another one is named. -/
def level (options : Options) : Level :=
  (Level.ofName? options.levelName).getD .info

/-- The filter of the environment if it has a valid one, else that of the
level. -/
def baseFilter (options : Options) (env : String → Option String) : Filter :=
  match env filterVariable >>= Filter.ofText? with
  | some filter => filter
  | none => .ofDirectives [.ofThreshold ⟨some options.level⟩]

def pieces (options : Options) : List (List Char) :=
  match options.targetFilter? with
  | some text => Text.split ',' text.toList
  | none => []

/-- The base filter with the additional directives, in their order. -/
def setUp (options : Options) (env : String → Option String) : Setup :=
  options.pieces.foldl Setup.take ⟨options.baseFilter env, []⟩

def filter (options : Options) (env : String → Option String) : Filter :=
  (options.setUp env).filter

/-- The warnings, which are the same in every environment. -/
def warnings (options : Options) : List Warning :=
  (options.setUp fun _ => none).warnings

end Options

end TypedContainers.Log
