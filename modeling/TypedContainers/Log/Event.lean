import TypedContainers.Files.Path
import TypedContainers.Log.Level
import TypedContainers.Record.Model

/-!
# Events

What a run reports while it works.  An event is what happened; its level, its
origin, its wording and its fields are functions of that.
-/

namespace TypedContainers.Log

/-- The part of the program that reports an event. -/
inductive Origin
  | command
  | configuration
  | emission
  | output
  | initialization
  | generation
  | formatting
deriving Repr, DecidableEq

/-- The name that filters know an origin by. -/
def Origin.target : Origin → String
  | command => "voldelig::cli::commands"
  | configuration => "voldelig::schema::load"
  | emission => "voldelig::generator::emitter"
  | output => "voldelig::generator::templates"
  | initialization => "voldelig::generator::project::init"
  | generation => "voldelig::generator::project::generate"
  | formatting => "voldelig::generator::project::format"

/-- The value of a field: a text or a count. -/
inductive FieldValue
  | text (value : String)
  | count (value : Nat)
deriving Repr, DecidableEq

inductive Event
  | loaded (schema : ContainerSchema)
  | incomplete (container : String)
  | emitting (model : RecordModel)
  | generating (configuration : Path)
  | wouldWrite (file : Path)
  | keptFile (file : Path)
  | wroteUnit (file : Path)
  | wroteModuleList (file : Path)
  | generated (count : Nat) (directory : Path)
  | initializing (directory : Path)
  | keptStarter (name : String)
  | wroteStarter (file : Path)
  | initialized
  | formatted (count : Nat)
  | skipped (containers : List String)
deriving Repr, DecidableEq

namespace Event

def level : Event → Level
  | loaded _ => .debug
  | incomplete _ => .warn
  | emitting _ => .debug
  | _ => .info

def origin : Event → Origin
  | loaded _ => .configuration
  | incomplete _ => .configuration
  | emitting _ => .emission
  | generating _ => .generation
  | wouldWrite _ => .generation
  | generated _ _ => .generation
  | keptFile _ => .output
  | wroteUnit _ => .output
  | wroteModuleList _ => .output
  | initializing _ => .initialization
  | keptStarter _ => .initialization
  | wroteStarter _ => .initialization
  | initialized => .initialization
  | formatted _ => .formatting
  | skipped _ => .command

def quoted (path : Path) : String :=
  Literal.quote path.text

def message : Event → String
  | loaded _ => "loaded container schema"
  | incomplete _ => "skipping container without card keyfield/fields"
  | emitting _ => "emitting container"
  | generating configuration => "📦 Generating containers from " ++ quoted configuration
  | wouldWrite file => "🔍 Would write " ++ quoted file
  | keptFile file => "⚠️  Skipping existing file: " ++ quoted file
  | wroteUnit file => "✅ Generated " ++ quoted file
  | wroteModuleList file => "✅ Updated mod.rs → " ++ quoted file
  | generated count directory =>
    "✅ Generated " ++ toString count ++ " container(s) into " ++ quoted directory
  | initializing directory => "Initializing voldelig project in " ++ quoted directory
  | keptStarter name => "ℹ️  " ++ name ++ " already present (use --force to overwrite)"
  | wroteStarter file => "✅ Wrote " ++ quoted file
  | initialized => "voldelig project initialized"
  | formatted count => "✅ Formatted " ++ toString count ++ " file(s)"
  | skipped containers =>
    "Skipped " ++ toString containers.length ++ " incomplete container(s): " ++
      String.intercalate ", " containers

def fields : Event → List (String × FieldValue)
  | loaded schema =>
    [("container", .text schema.name), ("keyfield", .text schema.keyField),
      ("fields", .count schema.fields.length)]
  | incomplete container => [("container", .text container)]
  | emitting model =>
    [("container", .text model.containerName), ("type_name", .text model.typeName),
      ("members", .count model.members.length), ("enums", .count model.enums.length)]
  | _ => []

end Event

end TypedContainers.Log
