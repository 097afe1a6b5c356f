import TypedContainers.Json.Writer
import TypedContainers.Log.Event
import TypedContainers.Log.Options

/-!
# Log lines

An event becomes one line in the compact and the structured layout, and two lines
in the pretty one.
-/

namespace TypedContainers.Log

def FieldValue.print : FieldValue → String
  | text value => value
  | count value => toString value

def FieldValue.toJson : FieldValue → Json
  | text value => .string value
  | count value => .number (.ofInt value)

namespace Event

/-- The names of an event's fields, of which the message is one. -/
def fieldNames (event : Event) : List String :=
  "message" :: event.fields.map Prod.fst

def passes (filter : Filter) (event : Event) : Bool :=
  filter.admits event.origin.target event.fieldNames event.level

/-- The fields behind the message. -/
def fieldText (event : Event) : String :=
  String.join (event.fields.map fun (name, value) => " " ++ name ++ "=" ++ value.print)

/-- An event as a document: its level, its message among its fields, and its
origin. -/
def toJson (event : Event) : Json :=
  let fields := event.fields.map fun (name, value) => (name, value.toJson)
  .object
    [("level", .string event.level.label),
      ("fields", .object (("message", .string event.message) :: fields)),
      ("target", .string event.origin.target)]

def render (layout : Layout) (event : Event) : String :=
  match layout with
  | .compact => event.level.label ++ " " ++ event.message ++ event.fieldText
  | .pretty =>
    event.level.label ++ " " ++ event.origin.target ++ "\n  " ++ event.message ++
      event.fieldText
  | .json => event.toJson.compact

end Event

end TypedContainers.Log
