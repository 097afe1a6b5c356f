import TypedContainers.Container
import TypedContainers.Json.Basic

/-!
# Container declarations

A configuration document declares containers by name.  A declaration is complete
when its card gives the key field and the list of fields; the others are skipped,
and never make the document invalid.  Declarations are taken in name order
whatever the order of the document.
-/

namespace TypedContainers

/-- A name that a document declares, with its schema if the declaration is
complete. -/
structure Declaration where
  name : String
  schema? : Option ContainerSchema
deriving Repr, DecidableEq, Inhabited

/-- Why a document is no configuration. -/
inductive ConfigurationFault
  | noContainers
deriving Repr, DecidableEq

def ConfigurationFault.message : ConfigurationFault → String
  | noContainers => "required structure `Maconomy.containers` not found"

namespace Declaration

def string? : Json → Option String
  | .string text => some text
  | _ => none

/-- The texts of an array that holds strings only. -/
def strings? : Json → Option (List String)
  | .array items => items.mapM string?
  | _ => none

/-- The card of a declaration: its member of that name, or the one item of an
array that stands for the members. -/
def card? : Json → Option Json
  | .object members => Json.lastOf "card" members
  | .array [card] => some card
  | _ => none

/-- The key field and the field list of a card, given as members or as the two
items of an array. -/
def keyAndFields? : Json → Option (String × List String)
  | .object members => do
    let key ← Json.lastOf "keyfield" members >>= string?
    let fields ← Json.lastOf "fields" members >>= strings?
    return (key, fields)
  | .array [key, fields] => do
    let key ← string? key
    let fields ← strings? fields
    return (key, fields)
  | _ => none

def schemaOf? (name : String) (value : Json) : Option ContainerSchema := do
  let (key, fields) ← card? value >>= keyAndFields?
  return ⟨name, key, fields⟩

/-- Put a member where its name belongs.  A member of the same name is
replaced. -/
def insert (name : String) (value : Json) : List (String × Json) → List (String × Json)
  | [] => [(name, value)]
  | (other, known) :: rest =>
    if name < other then (name, value) :: (other, known) :: rest
    else if name = other then (name, value) :: rest
    else (other, known) :: insert name value rest

/-- Members in name order, one for each name. -/
def sortMembers (members : List (String × Json)) : List (String × Json) :=
  members.foldl (fun sorted member => insert member.1 member.2 sorted) []

/-- The declarations of a document, in name order. -/
def ofDocument (document : Json) : Except ConfigurationFault (List Declaration) :=
  let containers := do
    let product ← document.member? "Maconomy"
    product.member? "containers" >>= Json.members?
  match containers with
  | none => .error .noContainers
  | some members =>
    .ok ((sortMembers members).map fun (name, value) => ⟨name, schemaOf? name value⟩)

end Declaration

/-- The complete declarations, and the names of the others. -/
def SchemaSet.ofDeclarations (declarations : List Declaration) : SchemaSet where
  containers := declarations.filterMap (·.schema?)
  skipped := (declarations.filter (·.schema?.isNone)).map (·.name)

end TypedContainers
