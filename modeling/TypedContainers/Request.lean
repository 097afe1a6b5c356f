import TypedContainers.Container
import TypedContainers.Json.Basic

/-!
# Request documents

A generated type knows how to build two request bodies.  Both hold the same list
of field names: the key, the other fields in declaration order, and the
timestamp that every container carries.
-/

namespace TypedContainers.Request

/-- The timestamp field of every container. -/
def createdDateField : String := "createddate"

def fieldList (schema : ContainerSchema) : List String :=
  schema.keyField :: (schema.nonKeyFields ++ [createdDateField])

def fieldArray (schema : ContainerSchema) : Json :=
  .array ((fieldList schema).map .string)

/-- The body of a request for instances. -/
def instances (schema : ContainerSchema) : Json :=
  .object [("panes", .object [("card", .object [("fields", fieldArray schema)])])]

/-- The body of a request for the instances that pass a restriction, at most
`limit` of them.  Restriction and limit are passed on as they are. -/
def filter (schema : ContainerSchema) (restriction : String) (limit : Int) : Json :=
  .object
    [("restriction", .string restriction), ("fields", fieldArray schema),
      ("limit", .number (.ofInt limit))]

end TypedContainers.Request
