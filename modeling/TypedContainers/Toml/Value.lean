/-!
# Settings values

A settings text is a table of named values.  While it is read, a table remembers
how it came to be, because that decides how it may still be extended: a header
opens a table once, a dotted key extends only tables that dotted keys made, and
values, inline tables among them, are closed.
-/

namespace TypedContainers.Toml

/-- Why a text is not a settings text. -/
inductive ReadError
  | unexpectedEnd
  | unexpected (c : Char)
  | controlCharacter (c : Char)
  | badEscape
  | badScalar (text : String)
  | repeatedKey (name : String)
  | closedValue (name : String)
  | tooDeep
deriving Repr, DecidableEq

def ReadError.message : ReadError → String
  | unexpectedEnd => "unexpected end of input"
  | unexpected c => "unexpected character " ++ String.singleton c
  | controlCharacter _ => "control character"
  | badEscape => "invalid escape"
  | badScalar text => "invalid value " ++ text
  | repeatedKey name => "duplicate key " ++ name
  | closedValue name => "the value of " ++ name ++ " cannot be extended"
  | tooDeep => "nesting too deep"

/-- A value.  Numbers and dates are kept as they are written. -/
inductive Value
  | string (text : String)
  | bool (value : Bool)
  | number (text : String)
  | date (text : String)
  | array (items : List Value)
  | table (entries : List (String × Value))
deriving Repr, BEq, Inhabited

/-- How a table came to be: by a header of its own, on the way to another header,
or by a dotted key. -/
inductive TableKind
  | explicit
  | implicit
  | dotted
deriving Repr, DecidableEq

/-- What stands under a name while a text is read. -/
inductive Node
  | value (value : Value)
  | table (kind : TableKind) (entries : List (String × Node))
  | tables (items : List (List (String × Node)))
deriving Repr, Inhabited

/-- The named nodes of a table, in the order of their first mention. -/
abbrev Entries := List (String × Node)

namespace Node

mutual

/-- A node as a value, once nothing can be added to it. -/
def toValue : Node → Value
  | .value v => v
  | .table _ entries => .table (entriesToValues entries)
  | .tables items => .array (itemsToValues items)

def entriesToValues : List (String × Node) → List (String × Value)
  | [] => []
  | (name, node) :: rest => (name, toValue node) :: entriesToValues rest

def itemsToValues : List (List (String × Node)) → List Value
  | [] => []
  | entries :: rest => .table (entriesToValues entries) :: itemsToValues rest

end

end Node

namespace Entries

def get? (entries : Entries) (name : String) : Option Node :=
  entries.lookup name

/-- Put a node in place of the one of a name, or at the end. -/
def set (name : String) (node : Node) : Entries → Entries
  | [] => [(name, node)]
  | (other, known) :: rest =>
    if other = name then (name, node) :: rest else (other, known) :: set name node rest

/-- Change the table at the end of a path of headers.  The path leads through
tables and through the last item of arrays of tables, and missing tables are
made. -/
def changeAt (change : Entries → Except ReadError Entries) :
    List String → Entries → Except ReadError Entries
  | [], entries => change entries
  | name :: path, entries =>
    match get? entries name with
    | none => do
      let inner ← changeAt change path []
      return set name (.table .implicit inner) entries
    | some (.table kind known) => do
      let inner ← changeAt change path known
      return set name (.table kind inner) entries
    | some (.tables items) =>
      match items.getLast? with
      | none => .error (.closedValue name)
      | some last => do
        let inner ← changeAt change path last
        return set name (.tables (items.dropLast ++ [inner])) entries
    | some (.value _) => .error (.closedValue name)

/-- Open a table by its header.  A table that was only on the way to others may
still be opened. -/
def openTable (name : String) (entries : Entries) : Except ReadError Entries :=
  match entries.get? name with
  | none => .ok (set name (.table .explicit []) entries)
  | some (.table .implicit known) => .ok (set name (.table .explicit known) entries)
  | some _ => .error (.repeatedKey name)

/-- Open one more item of an array of tables by its header. -/
def openItem (name : String) (entries : Entries) : Except ReadError Entries :=
  match entries.get? name with
  | none => .ok (set name (.tables [[]]) entries)
  | some (.tables items) => .ok (set name (.tables (items ++ [[]])) entries)
  | some _ => .error (.closedValue name)

def define (name : String) (value : Value) (entries : Entries) : Except ReadError Entries :=
  match entries.get? name with
  | none => .ok (set name (.value value) entries)
  | some _ => .error (.repeatedKey name)

/-- Give a value to a dotted key.  The tables on its way may not have headers of
their own, unless they are the last items of arrays of tables, and the last table
has to be made by dotted keys. -/
def assign (name : String) (value : Value) :
    List String → Entries → Except ReadError Entries
  | [], entries => define name value entries
  | step :: path, entries =>
    match get? entries step with
    | none => do
      let inner ← assign name value path []
      return set step (.table .dotted inner) entries
    | some (.table .dotted known) => do
      let inner ← assign name value path known
      return set step (.table .dotted inner) entries
    | some (.table .implicit known) =>
      if path.isEmpty then .error (.repeatedKey step)
      else do
        let inner ← assign name value path known
        return set step (.table .implicit inner) entries
    | some (.tables items) =>
      match items.getLast? with
      | none => .error (.closedValue step)
      | some last =>
        if path.isEmpty then .error (.repeatedKey step)
        else do
          let inner ← assign name value path last
          return set step (.tables (items.dropLast ++ [inner])) entries
    | some _ => .error (.closedValue step)

end Entries

end TypedContainers.Toml
