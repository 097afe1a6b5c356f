import TypedContainers.Naming
import TypedContainers.Text.Literal

/-!
# Categorical fields

A categorical field holds one of a fixed list of values and is declared as an
enumeration.  The first value stands for "not present".  `fault?` finds nothing
exactly in the entries whose enumeration is well formed: its name and the names
of its variants are identifiers, there is at least one variant, and no two
variants share a name.
-/

namespace TypedContainers

/-- One variant of an enumeration: its declared name and the value sent by the
store. -/
structure EnumVariant where
  ident : String
  wire : String
deriving Repr, DecidableEq, Inhabited

/-- An enumeration as it is declared.  When `screamingSnake` is set, one naming
rule gives every wire value from its variant's name. -/
structure EnumDefinition where
  name : String
  variants : List EnumVariant
  screamingSnake : Bool
deriving Repr, DecidableEq, Inhabited

/-- A field typed as an enumeration, with its wire values in declaration order. -/
structure CategoricalField where
  field : String
  typeName : String
  variants : List String
deriving Repr, DecidableEq, Inhabited

/-- Why a name cannot be declared. -/
inductive IdentifierFault
  | empty
  | leadingDigit
  | reserved
deriving Repr, DecidableEq

namespace IdentifierFault

/-- The fault in words, as the end of a sentence about the name. -/
def reason : IdentifierFault → String
  | empty => "has no alphanumeric characters"
  | leadingDigit => "starts with a digit"
  | reserved => "is the reserved word `Self`"

/-- A name made of ASCII letters and digits is an identifier unless it is empty,
starts with a digit, or is the one capitalized keyword. -/
def of? (ident : String) : Option IdentifierFault :=
  match ident.toList with
  | [] => some empty
  | first :: _ =>
    if first.isDigit then some leadingDigit
    else if ident = "Self" then some reserved
    else none

end IdentifierFault

/-- Why an entry does not declare a well-formed enumeration. -/
inductive CategoricalFault
  | typeName (field typeName : String) (fault : IdentifierFault)
  | noVariants (field : String)
  | variant (field wire : String) (fault : IdentifierFault)
  | repeatedVariant (field earlier later ident : String)
deriving Repr, DecidableEq

namespace CategoricalFault

def message : CategoricalFault → String
  | typeName field name fault =>
    "categorical field '" ++ field ++ "': type name " ++ Literal.quote name ++ " " ++
      fault.reason
  | noVariants field => "categorical field '" ++ field ++ "' declares no variants"
  | variant field wire fault =>
    "categorical field '" ++ field ++ "': variant " ++ Literal.quote wire ++ " " ++
      fault.reason
  | repeatedVariant field earlier later ident =>
    "categorical field '" ++ field ++ "': variants " ++ Literal.quote earlier ++ " and " ++
      Literal.quote later ++ " both map to `" ++ ident ++ "`"

end CategoricalFault

namespace CategoricalField

/-- The variant of a wire value, named by its words in lower case. -/
def variantOf (wire : String) : EnumVariant :=
  ⟨Naming.pascal (Naming.lower wire), wire⟩

def enumDefinition (entry : CategoricalField) : EnumDefinition :=
  let variants := entry.variants.map variantOf
  { name := Naming.pascal entry.typeName
    variants := variants
    screamingSnake := variants.all fun v => Naming.screamingSnake v.ident == v.wire }

/-- The first variant that is unnamed or named like one of `seen`, the variants
before it. -/
def variantFault? (field : String) :
    List EnumVariant → List EnumVariant → Option CategoricalFault
  | _, [] => none
  | seen, v :: rest =>
    match IdentifierFault.of? v.ident with
    | some fault => some (.variant field v.wire fault)
    | none =>
      match seen.find? (·.ident = v.ident) with
      | some earlier => some (.repeatedVariant field earlier.wire v.wire v.ident)
      | none => variantFault? field (seen ++ [v]) rest

/-- The first thing wrong with an entry: its type name, then the lack of
variants, then its variants in order. -/
def fault? (entry : CategoricalField) : Option CategoricalFault :=
  let definition := entry.enumDefinition
  match IdentifierFault.of? definition.name with
  | some fault => some (.typeName entry.field entry.typeName fault)
  | none =>
    if definition.variants = [] then some (.noVariants entry.field)
    else variantFault? entry.field [] definition.variants

end CategoricalField

end TypedContainers
