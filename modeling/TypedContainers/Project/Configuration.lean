import TypedContainers.Project.Action

/-!
# The configuration of a project

The extension of the file's name decides how it is read.  Every declaration is
reported, the complete ones and the others, in name order.
-/

namespace TypedContainers.Configuration

variable {m : Type → Type} [Monad m] [Machine m]

/-- The configuration of a project that names none. -/
def defaultFile : Path := ⟨"appsettings.json"⟩

/-- Whether a file is block structured, by its extension. -/
def isYaml (file : Path) : Bool :=
  file.extension? = some ['y', 'a', 'm', 'l'] || file.extension? = some ['y', 'm', 'l']

def document (file : Path) (text : String) : Except Failure Json :=
  if isYaml file then
    match Yaml.read text with
    | .ok document => .ok document
    | .error e => .error (.configurationYaml file e)
  else
    match Json.read text with
    | .ok document => .ok document
    | .error e => .error (.configurationJson file e)

/-- What is reported about a declaration. -/
def event (declaration : Declaration) : Log.Event :=
  match declaration.schema? with
  | some schema => .loaded schema
  | none => .incomplete declaration.name

def unreadable (file : Path) : IoError → Failure
  | .notFound => .configurationMissing file
  | e => .configurationUnreadable file e

def schemas (file : Path) (document : Json) : Action m SchemaSet := do
  let declarations ←
    Action.require (.configurationInvalid file) (Declaration.ofDocument document)
  declarations.forM fun declaration => Action.report (event declaration)
  return .ofDeclarations declarations

def load (file : Path) : Action m SchemaSet := do
  let text ← Action.attempt (unreadable file) (Machine.readText file)
  let document ← Action.require id (document file text)
  schemas file document

end TypedContainers.Configuration
