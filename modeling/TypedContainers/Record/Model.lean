import TypedContainers.Categorical.Registry
import TypedContainers.Request

/-!
# The record type of a container

The record declares the key first, then the other fields in declaration order,
then the creation timestamp.  The enumerations it needs follow in table order and
are decided before any member, so that they do not depend on the field order.
-/

namespace TypedContainers

/-- The declared type of the key and of plain fields. -/
def textType : String := "String"

/-- The declared type of the creation timestamp. -/
def timestampType : String := "chrono::DateTime<chrono::Utc>"

/-- How one field is typed. -/
inductive FieldClass
  | key
  | categorical (typeName : String)
  | plain
deriving Repr, DecidableEq

namespace FieldClass

/-- The key is always the key, whatever the table says; any other field is looked
up by its exact name. -/
def ofField (schema : ContainerSchema) (registry : CategoricalRegistry) (field : String) :
    FieldClass :=
  if field = schema.keyField then key
  else
    match registry.lookup field with
    | some entry => categorical entry.typeName
    | none => plain

def declaredType : FieldClass → String
  | key => textType
  | categorical typeName => Naming.pascal typeName
  | plain => textType

end FieldClass

/-- A member of a record: its declared name and type, and its name on the wire. -/
structure Member where
  name : String
  wire : String
  type : String
  isKey : Bool
deriving Repr, DecidableEq, Inhabited

/-- Everything the text of one container's types is written from. -/
structure RecordModel where
  containerName : String
  typeName : String
  keyField : String
  members : List Member
  /-- The field names of both requests. -/
  documentFields : List String
  enums : List EnumDefinition
deriving Repr, DecidableEq, Inhabited

namespace RecordModel

def keyMember (schema : ContainerSchema) : Member :=
  ⟨Naming.pascal schema.keyField, schema.keyField, FieldClass.key.declaredType, true⟩

/-- The member of a field other than the key. -/
def fieldMember (schema : ContainerSchema) (registry : CategoricalRegistry)
    (field : String) : Member :=
  ⟨Naming.pascal field, field, (FieldClass.ofField schema registry field).declaredType, false⟩

/-- The timestamp member that every record ends with. -/
def createdDateMember : Member :=
  ⟨"CreatedDate", Request.createdDateField, timestampType, false⟩

/-- The record of a container, with the enumerations its fields need. -/
def ofSchema (schema : ContainerSchema) (registry : CategoricalRegistry) : RecordModel where
  containerName := schema.name
  typeName := Naming.pascal schema.name
  keyField := schema.keyField
  members :=
    keyMember schema ::
      (schema.nonKeyFields.map (fieldMember schema registry) ++ [createdDateMember])
  documentFields := Request.fieldList schema
  enums := (registry.presentIn schema).map CategoricalField.enumDefinition

end RecordModel

end TypedContainers
