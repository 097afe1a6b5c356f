import TypedContainers.Toml.Scalar

/-!
# Reading settings texts

A text is a list of lines: blank ones, comments, headers and assignments.  Arrays
and inline tables may go over several lines.
-/

namespace TypedContainers.Toml

def skipBlanks (input : List Char) : List Char :=
  input.dropWhile isBlank

/-! ## Keys -/

/-- Whether a character may stand in a key without quotes. -/
def isKeyChar (c : Char) : Bool :=
  c.isAlphanum || c = '_' || c = '-'

def readName (input : List Char) : Except ReadError (String × List Char) :=
  match input with
  | '"' :: rest => (readBasic rest).map fun (name, rest) => (String.ofList name, rest)
  | '\'' :: rest => (readLiteral rest).map fun (name, rest) => (String.ofList name, rest)
  | _ =>
    match input.takeWhile isKeyChar with
    | [] => complain input
    | name => .ok (String.ofList name, input.drop name.length)

/-- Names with dots between them: the last name and the ones before it.  Each name
consumes fuel. -/
def readNames : Nat → List Char → Except ReadError (List String × String × List Char)
  | 0, _ => .error .unexpectedEnd
  | fuel + 1, input => do
    let (name, rest) ← readName (skipBlanks input)
    match skipBlanks rest with
    | '.' :: rest =>
      let (path, last, rest) ← readNames fuel rest
      return (name :: path, last, rest)
    | rest => return ([], name, rest)

/-- How many names may stand before the last one of a key. -/
def maxPath : Nat := 79

/-- A key: names with dots between them, given as the last name and the ones
before it. -/
def readKey (fuel : Nat) (input : List Char) :
    Except ReadError (List String × String × List Char) := do
  let (path, name, rest) ← readNames fuel input
  if maxPath < path.length then throw .tooDeep
  return (path, name, rest)

/-! ## Comments -/

/-- The input behind a comment that it may begin with. -/
def skipComment : List Char → Except ReadError (List Char)
  | '#' :: rest =>
    let text := rest.takeWhile (· ≠ '\n')
    let behind := rest.drop text.length
    let line := if text.getLast? = some '\r' && !behind.isEmpty then text.dropLast else text
    match line.find? isControl with
    | some c => .error (.controlCharacter c)
    | none => .ok behind
  | input => .ok input

/-- The input behind the end of a line, where only blanks and a comment are left
on it. -/
def endLine (input : List Char) : Except ReadError (List Char) := do
  match ← skipComment (skipBlanks input) with
  | [] => return []
  | '\n' :: rest => return rest
  | '\r' :: '\n' :: rest => return rest
  | rest => complain rest

/-- The input behind blanks, comments and line breaks.  Each line consumes
fuel. -/
def skipSpace : Nat → List Char → Except ReadError (List Char)
  | 0, input => .ok input
  | fuel + 1, input => do
    match ← skipComment (skipBlanks input) with
    | '\n' :: rest => skipSpace fuel rest
    | '\r' :: '\n' :: rest => skipSpace fuel rest
    | rest => return rest

/-! ## Values -/

/-- How many arrays and inline tables may contain one another. -/
def maxDepth : Nat := 80

mutual

/-- A value, with the given depth of nesting left.  Every step consumes fuel, of
which the length of the input is enough. -/
def readValue : Nat → Nat → List Char → Except ReadError (Value × List Char)
  | 0, _, _ => .error .unexpectedEnd
  | fuel + 1, depth, input =>
    match input with
    | '[' :: rest =>
      match depth with
      | 0 => .error .tooDeep
      | depth + 1 =>
        (readItems fuel depth rest).map fun (items, rest) => (.array items, rest)
    | '{' :: rest =>
      match depth with
      | 0 => .error .tooDeep
      | depth + 1 =>
        (readPairs fuel depth [] rest).map fun (entries, rest) =>
          (.table (Node.entriesToValues entries), rest)
    | '"' :: _ | '\'' :: _ =>
      (readString input).map fun (text, rest) => (.string (String.ofList text), rest)
    | _ => readScalar input

def readItems : Nat → Nat → List Char → Except ReadError (List Value × List Char)
  | 0, _, _ => .error .unexpectedEnd
  | fuel + 1, depth, input => do
    match ← skipSpace fuel input with
    | ']' :: rest => return ([], rest)
    | rest =>
      let (item, rest) ← readValue fuel depth rest
      match ← skipSpace fuel rest with
      | ',' :: rest =>
        let (items, rest) ← readItems fuel depth rest
        return (item :: items, rest)
      | ']' :: rest => return ([item], rest)
      | rest => complain rest

/-- The assignments of an inline table up to its end, added to those before.  Lines
may end anywhere but within a key. -/
def readPairs :
    Nat → Nat → Entries → List Char → Except ReadError (Entries × List Char)
  | 0, _, _, _ => .error .unexpectedEnd
  | fuel + 1, depth, entries, input => do
    match ← skipSpace fuel input with
    | '}' :: rest => return (entries, rest)
    | rest =>
      let (path, name, rest) ← readKey fuel rest
      match ← skipSpace fuel rest with
      | '=' :: rest =>
        let (value, rest) ← readValue fuel depth (← skipSpace fuel rest)
        let entries ← Entries.assign name value path entries
        match ← skipSpace fuel rest with
        | ',' :: rest => readPairs fuel depth entries rest
        | '}' :: rest => return (entries, rest)
        | rest => complain rest
      | rest => complain rest

end

/-! ## Lines -/

/-- The state between two lines: the tables so far, and the header that
assignments belong to. -/
structure Reader where
  root : Entries
  header : List String
deriving Repr, Inhabited

namespace Reader

def start : Reader :=
  ⟨[], []⟩

def openTable (path : List String) (name : String) (reader : Reader) :
    Except ReadError Reader := do
  let root ← Entries.changeAt (Entries.openTable name) path reader.root
  return ⟨root, path ++ [name]⟩

def openItem (path : List String) (name : String) (reader : Reader) :
    Except ReadError Reader := do
  let root ← Entries.changeAt (Entries.openItem name) path reader.root
  return ⟨root, path ++ [name]⟩

def assign (path : List String) (name : String) (value : Value) (reader : Reader) :
    Except ReadError Reader := do
  let root ← Entries.changeAt (Entries.assign name value path) reader.header reader.root
  return { reader with root := root }

/-- Behind a line that is neither blank nor a comment, and the input behind it. -/
def readLine (reader : Reader) (input : List Char) :
    Except ReadError (Reader × List Char) := do
  let fuel := input.length + 1
  match input with
  | '[' :: '[' :: rest =>
    let (path, name, rest) ← readKey fuel rest
    match rest with
    | ']' :: ']' :: rest => return (← reader.openItem path name, ← endLine rest)
    | rest => complain rest
  | '[' :: rest =>
    let (path, name, rest) ← readKey fuel rest
    match rest with
    | ']' :: rest => return (← reader.openTable path name, ← endLine rest)
    | rest => complain rest
  | _ =>
    let (path, name, rest) ← readKey fuel input
    match rest with
    | '=' :: rest =>
      let (value, rest) ← readValue fuel maxDepth (skipBlanks rest)
      return (← reader.assign path name value, ← endLine rest)
    | rest => complain rest

/-- Behind all lines.  Every line consumes fuel. -/
def readLines : Nat → Reader → List Char → Except ReadError Reader
  | 0, _, _ => .error .unexpectedEnd
  | fuel + 1, reader, input => do
    match ← skipSpace (input.length + 1) input with
    | [] => return reader
    | rest =>
      let (reader, rest) ← reader.readLine rest
      readLines fuel reader rest

end Reader

/-- The table that a text is.  A byte order mark in front is skipped. -/
def read (text : String) : Except ReadError (List (String × Value)) := do
  let input := match text.toList with
    | '\ufeff' :: rest => rest
    | input => input
  let reader ← Reader.start.readLines (input.length + 1) input
  return Node.entriesToValues reader.root

end TypedContainers.Toml
