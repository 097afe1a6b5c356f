import TypedContainers.Decimal

/-!
# Documents

A document is a tree of objects, arrays and scalars.  An object lists its members
in the order they were written; where a name occurs twice, the last member counts.
-/

namespace TypedContainers

inductive Json
  | null
  | bool (value : Bool)
  | number (value : Decimal)
  | string (value : String)
  | array (items : List Json)
  | object (members : List (String × Json))
deriving Repr, BEq, Inhabited

namespace Json

/-- The last member of a name. -/
def lastOf (name : String) (members : List (String × Json)) : Option Json :=
  (members.reverse.find? (·.1 = name)).map Prod.snd

/-- A member of an object; other values have none. -/
def member? (name : String) : Json → Option Json
  | object members => lastOf name members
  | _ => none

/-- The members of an object; other values have none. -/
def members? : Json → Option (List (String × Json))
  | object members => some members
  | _ => none

end Json

end TypedContainers
