import TypedContainers.Categorical.Basic
import TypedContainers.Container

/-!
# The table of categorical fields

Order matters: enumerations are declared in table order.  A table holds at most
one entry per field name, because adding an entry for a known field replaces the
entry where it stands.
-/

namespace TypedContainers

/-- An ordered table of categorical fields. -/
structure CategoricalRegistry where
  entries : List CategoricalField
deriving Repr, DecidableEq, Inhabited

/-- Why a table cannot be used. -/
inductive RegistryFault
  | entry (fault : CategoricalFault)
  | sharedName (earlier later name : String)
deriving Repr, DecidableEq

def RegistryFault.message : RegistryFault → String
  | entry fault => fault.message
  | sharedName earlier later name =>
    "categorical fields '" ++ earlier ++ "' and '" ++ later ++
      "' both generate enum `" ++ name ++ "`"

namespace CategoricalRegistry

/-- The table without entries; every field is plain text. -/
def empty : CategoricalRegistry :=
  ⟨[]⟩

/-- The table every run starts from: countries, then genders. -/
def builtin : CategoricalRegistry :=
  ⟨[⟨"country", "CountryType",
      ["COUNTRY_NOT_HERE", "DENMARK", "UK", "SWEDEN", "NORWAY", "FINLAND"]⟩,
    ⟨"gender", "GenderType", ["GENDER_NOT_HERE", "MALE", "FEMALE", "NIL"]⟩]⟩

/-- Put an entry in the place of the first one for its field, or at the end. -/
def put (entry : CategoricalField) : List CategoricalField → List CategoricalField
  | [] => [entry]
  | known :: rest =>
    if known.field = entry.field then entry :: rest else known :: put entry rest

/-- Add entries one after the other. -/
def withExtra (registry : CategoricalRegistry) (extra : List CategoricalField) :
    CategoricalRegistry :=
  ⟨extra.foldl (fun entries entry => put entry entries) registry.entries⟩

/-- The entry for a field of exactly this name. -/
def lookup (registry : CategoricalRegistry) (field : String) : Option CategoricalField :=
  registry.entries.find? (·.field = field)

/-- The entries whose field a container lists, in table order. -/
def presentIn (registry : CategoricalRegistry) (schema : ContainerSchema) :
    List CategoricalField :=
  registry.entries.filter fun entry => schema.hasField entry.field

/-- The first entry that is at fault or shares its enumeration's name with one of
`seen`, the entries before it. -/
def faultAfter? : List CategoricalField → List CategoricalField → Option RegistryFault
  | _, [] => none
  | seen, entry :: rest =>
    match entry.fault? with
    | some fault => some (.entry fault)
    | none =>
      let name := Naming.pascal entry.typeName
      match seen.find? fun earlier => Naming.pascal earlier.typeName = name with
      | some earlier => some (.sharedName earlier.field entry.field name)
      | none => faultAfter? (seen ++ [entry]) rest

/-- The first thing wrong with a table, in table order. -/
def fault? (registry : CategoricalRegistry) : Option RegistryFault :=
  faultAfter? [] registry.entries

end CategoricalRegistry

end TypedContainers
