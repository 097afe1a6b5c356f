import TypedContainers.Record.Source

/-!
# Generated units

One container becomes one unit.  A list of containers becomes a list of units
exactly when no two of them are declared under the same name.
-/

namespace TypedContainers

/-- The generated text for one container, and the name it is filed and declared
under. -/
structure GeneratedUnit where
  fileBaseName : String
  typeName : String
  text : String
deriving Repr, DecidableEq, Inhabited

def GeneratedUnit.ofSchema (registry : CategoricalRegistry) (schema : ContainerSchema) :
    GeneratedUnit :=
  let model := RecordModel.ofSchema schema registry
  { fileBaseName := model.typeName
    typeName := model.typeName
    text := Text.unlines (Source.recordLines model) }

/-- Two containers, at the given places of a list, that are declared under one
name. -/
structure Collision where
  earlier : Nat
  later : Nat
  earlierName : String
  laterName : String
  typeName : String
deriving Repr, DecidableEq

namespace Collision

def message (collision : Collision) : String :=
  "containers '" ++ collision.earlierName ++ "' and '" ++ collision.laterName ++
    "' both generate `" ++ collision.typeName ++ "`"

/-- The first container declared under the name of one of `seen`, the containers
before it. -/
def after? : List ContainerSchema → List ContainerSchema → Option Collision
  | _, [] => none
  | seen, schema :: rest =>
    let name := Naming.pascal schema.name
    match seen.findIdx? fun earlier => Naming.pascal earlier.name = name with
    | some i =>
      some ⟨i, seen.length, (seen[i]?.getD schema).name, schema.name, name⟩
    | none => after? (seen ++ [schema]) rest

/-- The first container declared under the name of an earlier one. -/
def first? (containers : List ContainerSchema) : Option Collision :=
  after? [] containers

end Collision

def generateUnits (containers : List ContainerSchema) (registry : CategoricalRegistry) :
    Except Collision (List GeneratedUnit) :=
  match Collision.first? containers with
  | some collision => .error collision
  | none => .ok (containers.map (GeneratedUnit.ofSchema registry))

end TypedContainers
