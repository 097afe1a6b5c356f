import TypedContainers.Categorical.Registry
import TypedContainers.Files.Path
import TypedContainers.Toml.Reader

/-!
# Generator settings

Settings name the output directory, ask for formatting, and add categorical
fields to the table.  All of it is optional, but a name that is not known and a
value of another kind are errors, and so is an entry that does not declare a
well-formed enumeration.
-/

namespace TypedContainers

structure Settings where
  outputDir? : Option Path := none
  format : Bool := false
  categorical : List CategoricalField := []
deriving Repr, DecidableEq, Inhabited

/-- Why a text holds no settings. -/
inductive SettingsFault
  | malformed (error : Toml.ReadError)
  | unknownName (name : String)
  | wrongKind (name : String)
  | entry (fault : CategoricalFault)
deriving Repr, DecidableEq

namespace Settings

/-- The directory that is written to if nothing else is asked for. -/
def defaultOutputDir : Path := ⟨"Generated"⟩

def outputDir (settings : Settings) : Path :=
  settings.outputDir?.getD defaultOutputDir

def registry (settings : Settings) : CategoricalRegistry :=
  CategoricalRegistry.builtin.withExtra settings.categorical

def string? : Toml.Value → Option String
  | .string text => some text
  | _ => none

/-- The texts of an array that holds strings only. -/
def strings? : Toml.Value → Option (List String)
  | .array items => items.mapM string?
  | _ => none

/-- An entry, given as a table or as an array of its parts in order.  What is
there beyond them is ignored, but in a table every number has to be one that can
be held. -/
def entry? : Toml.Value → Option CategoricalField
  | .table entries => do
    if !Toml.Value.entriesFit entries then none
    let field ← entries.lookup "field" >>= string?
    let typeName ← entries.lookup "type_name" >>= string?
    let variants ← entries.lookup "variants" >>= strings?
    return ⟨field, typeName, variants⟩
  | .array (field :: typeName :: variants :: _) => do
    return ⟨← string? field, ← string? typeName, ← strings? variants⟩
  | _ => none

def entries? : Toml.Value → Option (List CategoricalField)
  | .array items => items.mapM entry?
  | _ => none

def apply (settings : Settings) (name : String) (value : Toml.Value) :
    Except SettingsFault Settings :=
  let orFault (settings? : Option Settings) : Except SettingsFault Settings :=
    match settings? with
    | some settings => .ok settings
    | none => .error (.wrongKind name)
  if name = "output_dir" then
    orFault ((string? value).map fun text => { settings with outputDir? := some ⟨text⟩ })
  else if name = "format" then
    match value with
    | .bool format => .ok { settings with format := format }
    | _ => .error (.wrongKind name)
  else if name = "categorical" then
    orFault ((entries? value).map fun entries => { settings with categorical := entries })
  else .error (.unknownName name)

def ofTable (table : List (String × Toml.Value)) : Except SettingsFault Settings :=
  table.foldlM (fun settings (name, value) => settings.apply name value) {}

/-- The settings if every entry declares a well-formed enumeration. -/
def checked (settings : Settings) : Except SettingsFault Settings :=
  match settings.categorical.findSome? CategoricalField.fault? with
  | some fault => .error (.entry fault)
  | none => .ok settings

def parse (text : String) : Except SettingsFault Settings :=
  match Toml.read text with
  | .error e => .error (.malformed e)
  | .ok table => ofTable table >>= checked

end Settings

end TypedContainers
