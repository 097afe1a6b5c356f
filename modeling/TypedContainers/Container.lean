/-!
# Container schemas

A container is a named record type of the remote store.  Its schema names the key
field and lists the fields in declaration order.
-/

namespace TypedContainers

/-- A container with everything that generation needs. -/
structure ContainerSchema where
  name : String
  keyField : String
  fields : List String
deriving Repr, DecidableEq, Inhabited

namespace ContainerSchema

/-- The listed fields without any repeat of the key, in declaration order. -/
def nonKeyFields (schema : ContainerSchema) : List String :=
  schema.fields.filter (· ≠ schema.keyField)

/-- Whether a field of exactly this name is listed. -/
def hasField (schema : ContainerSchema) (field : String) : Bool :=
  schema.fields.contains field

end ContainerSchema

/-- What a configuration declares: the complete containers, and the names of the
ones that lack a key field or a field list. -/
structure SchemaSet where
  containers : List ContainerSchema
  skipped : List String
deriving Repr, DecidableEq, Inhabited

end TypedContainers
