import TypedContainers.Text.Split

/-!
# Paths

A path is a text whose names are separated by slashes.  It is passed on as it was
given: nothing is resolved, and repeated slashes and single dots stay where they
are.  `parent?`, `fileName?` and `extension?` look at a path without its trailing
slashes and trailing single dots.
-/

namespace TypedContainers

/-- A path as it was written. -/
structure Path where
  text : String
deriving Repr, DecidableEq, Inhabited

namespace Path

/-- A name that stands for the directory before it. -/
def isTrivial (name : List Char) : Bool :=
  name = [] || name = ['.']

/-- The names of a list up to the last one that is not trivial. -/
def trimTrailing (names : List (List Char)) : List (List Char) :=
  (names.reverse.dropWhile isTrivial).reverse

/-- What a path starts from, and the names that follow: the root, the working
directory written as a dot, or the working directory left out. -/
def parts (path : Path) : List Char × List (List Char) :=
  match Text.split '/' path.text.toList with
  | [] :: [] => ([], [])
  | [] :: names => (['/'], names)
  | ['.'] :: names => (['.'], names)
  | names => ([], names)

def ofParts (start : List Char) (names : List (List Char)) : Path :=
  match start with
  | ['.'] => ⟨String.ofList (Text.join '/' (start :: names))⟩
  | _ => ⟨String.ofList (start ++ Text.join '/' names)⟩

/-- The path without its last name.  A start alone has no parent, unless it is
the dot, whose parent is empty. -/
def parent? (path : Path) : Option Path :=
  let (start, names) := path.parts
  match trimTrailing names with
  | [] => if start = ['.'] then some ⟨""⟩ else none
  | names@(_ :: _) => some (ofParts start (trimTrailing names.dropLast))

/-- The paths from one upwards, each the parent of the one before it, as long as
they are not empty.  A parent is shorter, so the length of the text bounds their
number. -/
def ancestorsWithin : Nat → Path → List Path
  | 0, _ => []
  | fuel + 1, path =>
    if path.text = "" then []
    else
      match path.parent? with
      | none => [path]
      | some parent => path :: ancestorsWithin fuel parent

/-- A path and its parents, without the empty path. -/
def ancestors (path : Path) : List Path :=
  ancestorsWithin (path.text.length + 1) path

/-- The last name of a path, unless it stands for a parent directory. -/
def fileName? (path : Path) : Option (List Char) :=
  match (trimTrailing path.parts.2).getLast? with
  | some ['.', '.'] => none
  | name? => name?

/-- The part of the file name after its last dot.  A name whose only dot is its
first character has none. -/
def extension? (path : Path) : Option (List Char) := do
  let name ← path.fileName?
  match (Text.split '.' name).reverse with
  | _ :: [] => none
  | _ :: [[]] => none
  | last :: _ => some last
  | [] => none

/-- A name or a further path below a directory.  An absolute path stands for
itself. -/
def join (directory : Path) (name : String) : Path :=
  let text := directory.text
  if name.startsWith "/" then ⟨name⟩
  else if text = "" || text.endsWith "/" then ⟨text ++ name⟩
  else ⟨text ++ "/" ++ name⟩

instance : ToString Path := ⟨Path.text⟩

end Path

end TypedContainers
